import OpenDiameter.Peer.PeerEvents

/-!
The objects of the connections move from the events to the peer and from there to the
garbage collector. None is lost and none is in two places.
-/

namespace OpenDiameter.Peer

namespace Peer

variable {Io Avps : Type} [DecidableEq Io]

/-- How often a peer has a connection. -/
def holds (peer : Peer Io Avps) (io : Io) : Nat :=
  (peer.eventQueue.filterMap PeerEventParam.io).count io + peer.currentIo.toList.count io +
    peer.ioInitiator.toList.count io + peer.ioResponder.toList.count io +
    peer.deleted.count io

@[simp] theorem holds_notify (peer : Peer Io Avps) (event : PeerEvent)
    (msg : Option (PeerMsg Avps)) (given : Option Io) (io : Io) :
    (peer.notify event msg given).holds io = peer.holds io + given.toList.count io := by
  unfold notify
  split
  · cases given <;> simp [holds, currentIo]
    omega
  · simp [holds, currentIo]
    omega

@[simp] theorem holds_dropInitiator (peer : Peer Io Avps) (io : Io) :
    peer.dropInitiator.holds io = peer.holds io := by
  simp [holds, dropInitiator, currentIo]
  omega

@[simp] theorem holds_dropResponder (peer : Peer Io Avps) (io : Io) :
    peer.dropResponder.holds io = peer.holds io := by
  simp [holds, dropResponder, currentIo]
  omega

@[simp] theorem holds_takeInitiator (peer : Peer Io Avps) (io : Io) :
    peer.takeInitiator.holds io = peer.holds io := by
  cases current : peer.current <;> simp [holds, takeInitiator, currentIo, current] <;> omega

@[simp] theorem holds_takeResponder (peer : Peer Io Avps) (io : Io) :
    peer.takeResponder.holds io = peer.holds io := by
  cases current : peer.current <;> simp [holds, takeResponder, currentIo, current] <;> omega

theorem holds_withMsg {peer : Peer Io Avps} {use : PeerMsg Avps → Peer Io Avps → Peer Io Avps}
    {io : Io} (keeps : ∀ msg before, (use msg before).holds io = before.holds io) :
    (peer.withMsg use).holds io = peer.holds io := by
  unfold withMsg
  split
  · rfl
  · rw [keeps]
    cases current : peer.current <;> simp [holds, currentIo, current]

@[simp] theorem holds_cleanup (peer : Peer Io Avps) (keepInitiator : Bool) (io : Io) :
    (peer.cleanup keepInitiator).holds io = peer.holds io := by
  cases current : peer.current with
  | none =>
    cases keepInitiator <;>
      simp [cleanup, dropResponder, dropInitiator, current, holds, currentIo] <;> omega
  | some param =>
    rw [cleanup_eq current]
    cases keepInitiator <;> simp [holds, currentIo, current] <;> omega

@[simp] theorem holds_sendCer (config : PeerConfig Avps) (peer : Peer Io Avps) (id : MsgId)
    (io : Io) : (peer.sendCer config id).holds io = peer.holds io := by
  rw [sendCer_eq]
  rfl

@[simp] theorem holds_sendCea (config : PeerConfig Avps) (peer : Peer Io Avps) (rcode : Nat)
    (answers : Option MsgId) (io : Io) :
    (peer.sendCea config rcode answers).holds io = peer.holds io := by
  rw [sendCea_eq]
  rfl

@[simp] theorem holds_elect (config : PeerConfig Avps) (peer : Peer Io Avps) (io : Io) :
    (peer.elect config).holds io = peer.holds io := by
  unfold elect
  split <;> simp

@[simp] theorem holds_disassembleCe (peer : Peer Io Avps) (msg : PeerMsg Avps) (io : Io) :
    (peer.disassembleCe msg).holds io = peer.holds io := rfl

theorem holds_act (config : PeerConfig Avps) (peer : Peer Io Avps) (id : MsgId)
    (action : PeerAction) (io : Io) :
    (peer.act config id action).holds io = peer.holds io := by
  cases action with
  | iSendConnReq | rSendMessage | iSendMessage => rfl
  | connNack | cleanup | error | disconnect => exact holds_cleanup peer false io
  | retry => simp [act, start]
  | rDisconnectResp => exact holds_dropResponder peer io
  | rReject =>
    cases current : peer.current <;> simp [act, holds, currentIo, current] <;> omega
  | iSendDpr | rSendDpr | watchdog => rfl
  | iSendCer => simp [act]
  | iSendCerElect => simp [act]
  | rSendCea => simp [act]
  | iDisconnectSendCea => simp [act]
  | process | processDwrSendDwa =>
    apply holds_withMsg
    intro msg before
    rfl
  | disconnectDpa =>
    apply holds_withMsg
    intro msg before
    exact holds_cleanup before false io
  | iSendDpaDisconnect | rSendDpaDisconnect =>
    apply holds_withMsg
    intro msg before
    rw [holds_cleanup]
    rfl
  | rSendCeaOpen | iSendCea =>
    apply holds_withMsg
    intro msg before
    simp
  | processCea | processDwa | rDisconnectIOpen =>
    apply holds_withMsg
    intro msg before
    split <;> simp
  | rAcceptSendCea =>
    rw [act, holds_withMsg, holds_takeResponder]
    intro msg before
    dsimp only
    split <;> simp
  | rAccept =>
    rw [act, holds_withMsg, holds_takeResponder]
    intro msg before
    dsimp only
    split
    · rfl
    · rw [holds_cleanup]
      rfl
  | rAcceptElect =>
    rw [act, holds_withMsg, holds_takeResponder]
    intro msg before
    dsimp only
    split
    · rw [holds_elect]
      rfl
    · rw [holds_cleanup]
      rfl

@[simp] theorem holds_release (peer : Peer Io Avps) (io : Io) :
    peer.release.holds io = peer.holds io := by
  simp [holds, release, currentIo]
  omega

theorem holds_serving {peer : Peer Io Avps} {param : PeerEventParam Io Avps}
    {rest : List (PeerEventParam Io Avps)} (first : peer.eventQueue = param :: rest)
    (current : peer.current = none) (state : PeerState) (io : Io) :
    (peer.serving param rest state).holds io = peer.holds io := by
  cases carried : param.io <;>
    simp [holds, serving, currentIo, first, current, carried, List.count_cons] <;> omega

/-- The service of an event keeps every connection once where it was once. -/
theorem holds_serve {config : PeerConfig Avps} {peer next : Peer Io Avps} {id : MsgId}
    (running : peer.running = true) (current : peer.current = none)
    (served : peer.serve config id = some next) (io : Io) : next.holds io = peer.holds io := by
  rcases serve_cases running served with ⟨param, rest, handled, first, handles, rfl⟩
  rw [holds_release]
  cases handles with
  | unlisted _ => exact holds_serving first current _ io
  | idle entry _ _ => exact holds_serving first current _ io
  | acts entry action _ _ => rw [holds_act, holds_serving first current]

end Peer

end OpenDiameter.Peer
