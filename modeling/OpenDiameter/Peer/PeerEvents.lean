import OpenDiameter.Peer.PeerMachine

/-!
What comes with an event, and what a call of the transport or the peer table leaves
in the event queue and the received ids.
-/

namespace OpenDiameter.Peer

open Framework

namespace PeerEvent

/-- The code of the message an event comes with. -/
def msgCode : PeerEvent → Option MsgCode
  | .rConnCer | .rRcvCer | .iRcvCer | .rRcvCea | .iRcvCea => some .capabilitiesExchg
  | .rRcvDwr | .iRcvDwr | .rRcvDwa | .iRcvDwa => some .watchdog
  | .rRcvDpr | .iRcvDpr | .rRcvDpa | .iRcvDpa => some .disconnectPeer
  | .rRcvMessage | .iRcvMessage => some .other
  | _ => none

/-- The event comes with a request whose ids were put in the queues. -/
def bringsRequest : PeerEvent → Bool
  | .rConnCer | .rRcvCer | .iRcvCer | .rRcvDwr | .iRcvDwr | .rRcvDpr | .iRcvDpr => true
  | _ => false

def bringsIo : PeerEvent → Bool
  | .rConnCer | .iRcvConnAck => true
  | _ => false

end PeerEvent

namespace PeerAction

def takesMsg : PeerAction → Bool
  | .rAcceptSendCea | .rAccept | .processCea | .rAcceptElect | .disconnectDpa
  | .rSendCeaOpen | .rDisconnectIOpen | .process | .processDwrSendDwa | .processDwa
  | .iSendDpaDisconnect | .rSendDpaDisconnect | .iSendCea => true
  | _ => false

end PeerAction

/-- The event brings the message that the action takes from it. -/
theorem peerStateTable_takesMsg :
    ∀ entry ∈ peerStateTable, ∀ action ∈ entry.action, action.takesMsg = true →
      ∃ event ∈ entry.event, event.msgCode.isSome = true := by
  decide

namespace PeerEventParam

variable {Io Avps : Type}

/-- The event comes with what its receiver takes from it. -/
structure Genuine (param : PeerEventParam Io Avps) : Prop where
  code : param.msg.map PeerMsg.code = param.event.msgCode
  request : ∀ msg ∈ param.msg, msg.code ≠ .other → msg.request = param.event.bringsRequest
  io : param.io.isSome = param.event.bringsIo

def requestId (param : PeerEventParam Io Avps) : Option MsgId :=
  if param.event.bringsRequest then param.msg.map PeerMsg.id else none

/-- The event of a row brings the message that the action of the row takes. -/
theorem Genuine.takesMsg {param : PeerEventParam Io Avps} (genuine : param.Genuine)
    {state : PeerState} {entry : StateTableEntry PeerState PeerEvent PeerAction}
    (row : entry ∈ peerStateTable ∧ StateTable.Serves state param.event entry)
    {action : PeerAction} (isAction : entry.action = some action)
    (takes : action.takesMsg = true) : param.msg.isSome = true := by
  rcases peerStateTable_takesMsg entry row.1 action isAction takes with
    ⟨event, isEvent, brings⟩
  rw [row.2.2 event isEvent, ← genuine.code, Option.isSome_map] at brings
  exact brings

/-- An event that comes alone. -/
theorem genuine_alone {event : PeerEvent} (noMsg : event.msgCode = none)
    (noIo : event.bringsIo = false) :
    Genuine ({ event, msg := none, io := none } : PeerEventParam Io Avps) where
  code := by simp [noMsg]
  request := by simp
  io := by simp [noIo]

end PeerEventParam

namespace Peer

variable {Io Avps : Type}

/-- A call only posts events and keeps the books of the ids. -/
structure Posts (peer next : Peer Io Avps) (posted : List (PeerEventParam Io Avps))
    (taken : List MsgId) : Prop where
  eventQueue : next.eventQueue = peer.eventQueue ++ posted
  genuine : ∀ param ∈ posted, param.Genuine
  lastRxHopId : next.lastRxHopId = peer.lastRxHopId ++ taken.map MsgId.hh
  lastRxEndId : next.lastRxEndId = peer.lastRxEndId ++ taken.map MsgId.ee
  state : next.state = peer.state
  running : next.running = peer.running
  current : next.current = peer.current
  ioInitiator : next.ioInitiator = peer.ioInitiator
  ioResponder : next.ioResponder = peer.ioResponder
  host : next.host = peer.host
  sendQueue : next.sendQueue = peer.sendQueue
  deleted : next.deleted = peer.deleted
  crashed : next.crashed = peer.crashed
  accepted : next.accepted = peer.accepted

theorem Posts.refl (peer : Peer Io Avps) : peer.Posts peer [] [] := by
  constructor <;> simp

variable {peer : Peer Io Avps}

theorem posts_notify (running : peer.running = true) {event : PeerEvent}
    {msg : Option (PeerMsg Avps)} {io : Option Io}
    (genuine : (⟨event, msg, io⟩ : PeerEventParam Io Avps).Genuine) :
    peer.Posts (peer.notify event msg io) [⟨event, msg, io⟩] [] := by
  constructor <;> simp [notify, running, genuine]

theorem posts_alone (running : peer.running = true) (event : PeerEvent)
    (noMsg : event.msgCode = none) (noIo : event.bringsIo = false) :
    peer.Posts (peer.notify event none none) [⟨event, none, none⟩] [] :=
  posts_notify running (PeerEventParam.genuine_alone noMsg noIo)

theorem Posts.trans {first second third : Peer Io Avps}
    {posted posted' : List (PeerEventParam Io Avps)} {taken taken' : List MsgId}
    (before : first.Posts second posted taken) (after : second.Posts third posted' taken') :
    first.Posts third (posted ++ posted') (taken ++ taken') where
  eventQueue := by simp [after.eventQueue, before.eventQueue]
  genuine := by
    intro param member
    exact (List.mem_append.mp member).elim (before.genuine param) (after.genuine param)
  lastRxHopId := by simp [after.lastRxHopId, before.lastRxHopId]
  lastRxEndId := by simp [after.lastRxEndId, before.lastRxEndId]
  state := after.state.trans before.state
  running := after.running.trans before.running
  current := after.current.trans before.current
  ioInitiator := after.ioInitiator.trans before.ioInitiator
  ioResponder := after.ioResponder.trans before.ioResponder
  host := after.host.trans before.host
  sendQueue := after.sendQueue.trans before.sendQueue
  deleted := after.deleted.trans before.deleted
  crashed := after.crashed.trans before.crashed
  accepted := after.accepted.trans before.accepted

theorem posts_msgIdRxMessage (peer : Peer Io Avps) (msg : PeerMsg Avps) :
    peer.Posts (peer.msgIdRxMessage msg).2 [] (if msg.request then [msg.id] else []) := by
  unfold msgIdRxMessage
  split
  · constructor <;> simp_all
  · split
    · dsimp only
      split <;> constructor <;> simp_all
    · constructor <;> simp_all

@[simp] theorem msgCode_messageEvent (initiator request : Bool) (code : MsgCode) :
    (messageEvent initiator request code).msgCode = some code := by
  cases code <;> cases initiator <;> cases request <;> rfl

@[simp] theorem bringsIo_messageEvent (initiator request : Bool) (code : MsgCode) :
    (messageEvent initiator request code).bringsIo = false := by
  cases code <;> cases initiator <;> cases request <;> rfl

theorem bringsRequest_messageEvent (initiator request : Bool) {code : MsgCode}
    (base : code ≠ .other) :
    (messageEvent initiator request code).bringsRequest = request := by
  cases code with
  | other => exact absurd rfl base
  | _ => cases initiator <;> cases request <;> rfl

theorem genuine_messageEvent (Io : Type) (initiator : Bool) (msg : PeerMsg Avps) :
    (⟨messageEvent initiator msg.request msg.code, some msg, none⟩ :
      PeerEventParam Io Avps).Genuine where
  code := by simp
  request := by
    intro other same base
    cases same
    exact (bringsRequest_messageEvent initiator msg.request base).symm
  io := by simp

/-- The ids of a base protocol request are kept and the request is not. -/
def DiscardsRequest (peer : Peer Io Avps) (msg : PeerMsg Avps) : Prop :=
  msg.request = true ∧ msg.code ≠ .other ∧
    peer.state ∉ [PeerState.waitICea, .iOpen, .rOpen, .closing]

/-- A message leads to events, and the ids of a request that is not discarded are those
of its event. -/
def KeepsMessage (peer : Peer Io Avps) (msg : PeerMsg Avps) (next : Peer Io Avps) : Prop :=
  ∃ posted taken, peer.Posts next posted taken ∧
    (¬ peer.DiscardsRequest msg → taken = posted.filterMap PeerEventParam.requestId)

variable {msg : PeerMsg Avps}

theorem keepsMessage_event (running : peer.running = true) (initiator : Bool)
    (base : msg.code ≠ .other) :
    peer.KeepsMessage msg
      ((peer.msgIdRxMessage msg).2.notify
        (messageEvent initiator msg.request msg.code) (some msg) none) := by
  have book := posts_msgIdRxMessage peer msg
  have post := posts_notify (book.running.trans running)
    (genuine_messageEvent Io initiator msg)
  refine ⟨_, _, book.trans post, fun _ => ?_⟩
  cases request : msg.request <;>
    simp [PeerEventParam.requestId, bringsRequest_messageEvent _ _ base]

theorem keepsMessage_plain (running : peer.running = true) (other : msg.code = .other)
    {event : PeerEvent} (code : event.msgCode = some .other) (noIo : event.bringsIo = false)
    (noRequest : event.bringsRequest = false) :
    peer.KeepsMessage msg (peer.notify event (some msg) none) := by
  refine ⟨_, _, posts_notify running ⟨?_, ?_, ?_⟩, fun _ => ?_⟩
  · simp [other, code]
  · intro same isMsg base
    cases isMsg
    exact absurd other base
  · simp [noIo]
  · simp [PeerEventParam.requestId, noRequest]

/-- Only the books of the ids change. -/
theorem keepsMessage_book (kept : msg.request = true → peer.DiscardsRequest msg) :
    peer.KeepsMessage msg (peer.msgIdRxMessage msg).2 := by
  refine ⟨_, _, posts_msgIdRxMessage peer msg, fun notDiscarded => ?_⟩
  cases request : msg.request with
  | false => rfl
  | true => exact absurd (kept request) notDiscarded

theorem keepsMessage_message (running : peer.running = true) (msg : PeerMsg Avps) :
    peer.KeepsMessage msg (peer.message msg) := by
  unfold message
  split
  · exact ⟨_, _, posts_alone running _ rfl rfl, fun _ => rfl⟩
  · rename_i cea
    split
    · rename_i other
      split
      · exact keepsMessage_plain running other rfl rfl rfl
      · exact keepsMessage_plain running other rfl rfl rfl
      · exact ⟨_, _, Posts.refl peer, fun _ => rfl⟩
    · rename_i base
      have sameState := (posts_msgIdRxMessage peer msg).state
      dsimp only
      split
      · rename_i unknown
        apply keepsMessage_book
        simp [unknown.2]
      · split
        · exact keepsMessage_event running true base
        · exact keepsMessage_event running false base
        · exact keepsMessage_event running _ base
        · rename_i state
          split
          · rename_i isAnswer
            have answer : msg.request = false ∧ msg.code = .capabilitiesExchg := by
              simpa [isCea, and_comm] using isAnswer
            simpa [answer, messageEvent] using keepsMessage_event running true base
          · apply keepsMessage_book
            intro request
            exact ⟨request, base, by simp [← sameState, state]⟩
        · rename_i state
          rw [sameState] at state
          have isAnswer : isCea msg = true := by simpa [state] using cea
          have answer : msg.request = false ∧ msg.code = .capabilitiesExchg := by
            simpa [isCea, and_comm] using isAnswer
          rw [if_pos isAnswer]
          simpa [answer, messageEvent] using keepsMessage_event running true base
        · apply keepsMessage_book
          intro request
          exact ⟨request, base, by simp_all⟩

/-- Every input but a service and an error of another kind posts its event. -/
inductive Performs (peer next : Peer Io Avps) : PeerInput Io Avps → Prop
  | serve (id : MsgId) : Performs peer next (.serve id)
  | others : next = peer.cleanup false → Performs peer next (.collectorError .others)
  | posts (input : PeerInput Io Avps) (posted : List (PeerEventParam Io Avps))
      (taken : List MsgId) :
      peer.Posts next posted taken →
      ((∀ msg, input = .message msg → ¬ peer.DiscardsRequest msg) →
        taken = posted.filterMap PeerEventParam.requestId) →
      Performs peer next input

theorem performs_perform {peer next : Peer Io Avps} {config : PeerConfig Avps}
    {input : PeerInput Io Avps} (running : peer.running = true) (possible : input.Possible)
    (performed : input.perform config peer = some next) : peer.Performs next input := by
  have alone {event : PeerEvent} {input : PeerInput Io Avps} (noMsg : event.msgCode = none)
      (noIo : event.bringsIo = false) : peer.Performs (peer.notify event none none) input := by
    apply Performs.posts input _ _ (posts_alone running event noMsg noIo)
    simp [PeerEventParam.requestId]
  cases input with
  | start =>
    cases performed
    exact alone rfl rfl
  | stop =>
    cases performed
    exact alone rfl rfl
  | timer event =>
    cases performed
    rcases possible with rfl | rfl | rfl <;> exact alone rfl rfl
  | incommingConnectionRequest io cer =>
    cases performed
    have genuine : (⟨.rConnCer, some cer, some io⟩ : PeerEventParam Io Avps).Genuine := by
      constructor
      · simp [possible.1, PeerEvent.msgCode]
      · intro msg isCer _
        cases isCer
        exact possible.2
      · rfl
    have book := posts_msgIdRxMessage peer cer
    apply Performs.posts _ _ _ (book.trans (posts_notify (book.running.trans running) genuine))
    intro _
    simp [possible.2, PeerEventParam.requestId, PeerEvent.bringsRequest]
  | connectionRequestAccepted io =>
    cases performed
    have genuine : (⟨.iRcvConnAck, none, some io⟩ : PeerEventParam Io Avps).Genuine := by
      constructor
      · rfl
      · simp
      · rfl
    apply Performs.posts _ _ _ (posts_notify running genuine)
    intro _
    rfl
  | connectionRequestFailed =>
    cases performed
    exact alone rfl rfl
  | message msg =>
    cases performed
    rcases keepsMessage_message running msg with ⟨posted, taken, post, kept⟩
    exact .posts _ posted taken post fun settled => kept (settled msg rfl)
  | collectorError error =>
    cases performed
    cases error with
    | acceptor => exact alone rfl rfl
    | connector => exact alone rfl rfl
    | parsing => exact .posts _ [] [] (Posts.refl peer) fun _ => rfl
    | others => exact .others rfl
  | serve id => exact .serve id

/-- A cleanup outside of a service uses a null pointer. -/
theorem crashed_cleanup (current : peer.current = none) :
    (peer.cleanup false).crashed = true ∧ (peer.cleanup false).state = peer.state := by
  simp [cleanup, dropResponder, dropInitiator, current]

end Peer

end OpenDiameter.Peer
