import OpenDiameter.Peer.PeerEvents

/-!
An open peer has the connection it uses. What an action does to the connections
depends on the action alone, so the rows of the state table are checked one by one.
-/

namespace OpenDiameter.Peer

open Framework

/-- The connections that are there. -/
structure Links where
  initiator : Bool
  responder : Bool
deriving DecidableEq

/-- The connections a state works with. -/
def PeerState.Linked : PeerState → Links → Bool
  | .closed, _ | .waitConnAck, _ | .closing, _ => true
  | .waitICea, links | .iOpen, links => links.initiator
  | .waitConnAckElect, links | .rOpen, links => links.responder
  | .waitReturns, links => links.initiator && links.responder

namespace PeerAction

def takesIo : PeerAction → Bool
  | .rAcceptSendCea | .rAccept | .rAcceptElect | .iSendCer | .iSendCerElect
  | .rSendCea => true
  | _ => false

/-- `AssembleCE` asks a connection for its protocol. -/
def sendsCe : PeerAction → Bool
  | .rAcceptSendCea | .iSendCer | .iSendCerElect | .rSendCea | .rSendCeaOpen
  | .iDisconnectSendCea | .iSendCea => true
  | _ => false

/-- The connections after an action that does not clean up, where the event brings one
if the action takes one. -/
def links : PeerAction → Links → Links
  | .rAcceptSendCea, links | .rAccept, links | .rAcceptElect, links | .rSendCea, links =>
    { links with responder := true }
  | .iSendCer, links | .iSendCerElect, links => { links with initiator := true }
  | .rDisconnectResp, links | .rDisconnectIOpen, links => { links with responder := false }
  | .iDisconnectSendCea, links => { links with initiator := false }
  | _, links => links

end PeerAction

/-- The entry leads from the connections of its state to those of the next, and its
action finds the one it sends on. -/
def EntryLinked (entry : StateTableEntry PeerState PeerEvent PeerAction) : Prop :=
  ∀ initiator responder : Bool, entry.prevState.Linked ⟨initiator, responder⟩ = true →
    let after := entry.action.elim ⟨initiator, responder⟩ (PeerAction.links · ⟨initiator, responder⟩)
    entry.nextState.Linked after = true ∧
      ∀ action ∈ entry.action, action.sendsCe = true →
        (after.initiator || after.responder) = true

instance (entry : StateTableEntry PeerState PeerEvent PeerAction) :
    Decidable (EntryLinked entry) := by
  unfold EntryLinked
  infer_instance

theorem peerStateTable_linked : ∀ entry ∈ peerStateTable, EntryLinked entry := by
  decide

/-- The event brings the connection that the action takes from it, unless its own was
refused. -/
theorem peerStateTable_takesIo :
    ∀ entry ∈ peerStateTable,
      (entry.prevState = .waitConnAckElect ∧ entry.event = some .iRcvConnNack) ∨
        ∀ action ∈ entry.action, action.takesIo = true →
          ∃ event ∈ entry.event, event.bringsIo = true := by
  decide

namespace Peer

variable {Io Avps : Type}

def links (peer : Peer Io Avps) : Links :=
  ⟨peer.ioInitiator.isSome, peer.ioResponder.isSome⟩

/-- An action that begins with a queue, a state and connections leaves the peer closed,
or in the state with these connections. -/
structure Acts (queue : List (PeerEventParam Io Avps)) (state : PeerState) (links : Links)
    (next : Peer Io Avps) : Prop where
  running : next.running = true
  crashed : next.crashed = false
  eventQueue : ∃ posted, next.eventQueue = queue ++ posted ∧ ∀ param ∈ posted, param.Genuine
  outcome : next.state = .closed ∨ next.state = state ∧ next.links = links

variable {queue : List (PeerEventParam Io Avps)} {state : PeerState} {links : Links}

theorem acts_of_eq {next : Peer Io Avps} (running : next.running = true)
    (crashed : next.crashed = false) (sameQueue : next.eventQueue = queue)
    (sameState : next.state = state) (sameLinks : next.links = links) :
    Acts queue state links next :=
  ⟨running, crashed, ⟨[], by simp [sameQueue]⟩, .inr ⟨sameState, sameLinks⟩⟩

variable {peer : Peer Io Avps}

theorem acts_notify (running : peer.running = true) (crashed : peer.crashed = false)
    (sameQueue : peer.eventQueue = queue) (sameState : peer.state = state)
    (sameLinks : peer.links = links) {event : PeerEvent} (noMsg : event.msgCode = none)
    (noIo : event.bringsIo = false) :
    Acts queue state links (peer.notify event none none) := by
  have post := posts_alone running event noMsg noIo
  constructor
  · exact post.running.trans running
  · exact post.crashed.trans crashed
  · exact ⟨_, by rw [post.eventQueue, sameQueue], post.genuine⟩
  · right
    constructor
    · exact post.state.trans sameState
    · rw [← sameLinks, Peer.links, Peer.links, post.ioInitiator, post.ioResponder]

variable {param : PeerEventParam Io Avps}

theorem acts_cleanup (current : peer.current = some param) (crashed : peer.crashed = false)
    (sameQueue : peer.eventQueue = queue) (keepInitiator : Bool) :
    Acts queue state links (peer.cleanup keepInitiator) := by
  cases keepInitiator <;>
    constructor <;>
      simp [cleanup, dropResponder, dropInitiator, current, crashed, sameQueue]

variable {config : PeerConfig Avps}

theorem acts_elect (current : peer.current = some param) (running : peer.running = true)
    (crashed : peer.crashed = false) (sameQueue : peer.eventQueue = queue)
    (sameState : peer.state = state) (sameLinks : peer.links = links) :
    Acts queue state links (peer.elect config) := by
  unfold elect
  split
  · exact acts_cleanup current crashed sameQueue false
  · exact acts_notify running crashed sameQueue sameState sameLinks rfl rfl
  · exact acts_of_eq running crashed sameQueue sameState sameLinks

theorem acts_act {id : MsgId} {action : PeerAction} (running : peer.running = true)
    (crashed : peer.crashed = false) (msg : action.takesMsg = true → param.msg.isSome = true)
    (io : action.takesIo = true → param.io.isSome = true)
    (linked : action.sendsCe = true →
      ((action.links peer.links).initiator || (action.links peer.links).responder) = true) :
    Acts queue state (action.links peer.links)
      ((peer.serving param queue state).act config id action) := by
  have takenMsg (takes : action.takesMsg = true) : ∃ taken, param.msg = some taken :=
    Option.isSome_iff_exists.mp (msg takes)
  have takenIo (takes : action.takesIo = true) : ∃ taken, param.io = some taken :=
    Option.isSome_iff_exists.mp (io takes)
  have current : (peer.serving param queue state).current = some param := rfl
  cases action with
  | iSendConnReq | rSendMessage | iSendMessage => exact acts_of_eq running crashed rfl rfl rfl
  | connNack | cleanup | error | disconnect =>
    exact acts_cleanup current crashed rfl false
  | retry =>
    have running : (peer.serving param queue state).running = true := running
    exact acts_notify running crashed rfl rfl rfl rfl rfl
  | rDisconnectResp | rReject =>
    apply acts_of_eq <;>
      simp [act, serving, dropResponder, running, crashed, Peer.links, PeerAction.links]
  | iSendDpr | rSendDpr | watchdog =>
    apply acts_of_eq <;>
      simp [act, serving, sendDpr, sendDwr, msgIdTxRequest, transmit, running, crashed, Peer.links,
        PeerAction.links]
  | process | processDwrSendDwa =>
    obtain ⟨taken, isMsg⟩ := takenMsg rfl
    apply acts_of_eq <;>
      simp [act, serving, withMsg, currentMsg, isMsg, sendDwa, transmit, msgIdTxAnswer, running,
        crashed, Peer.links, PeerAction.links]
  | processCea | processDwa | rDisconnectIOpen =>
    obtain ⟨taken, isMsg⟩ := takenMsg rfl
    simp only [act, withMsg, currentMsg, isMsg, serving, Option.bind_some]
    split
    · apply acts_of_eq <;>
        simp [disassembleCe, dropResponder, running, crashed, Peer.links, PeerAction.links]
    · apply acts_cleanup
      · rfl
      · exact crashed
      · rfl
  | disconnectDpa | iSendDpaDisconnect | rSendDpaDisconnect =>
    obtain ⟨taken, isMsg⟩ := takenMsg rfl
    simp only [act, withMsg, currentMsg, isMsg, serving, Option.bind_some]
    apply acts_cleanup
    · rfl
    · exact crashed
    · rfl
  | rAcceptSendCea =>
    obtain ⟨takenMsg, isMsg⟩ := takenMsg rfl
    obtain ⟨takenIo, isIo⟩ := takenIo rfl
    simp only [act, takeResponder, withMsg, currentMsg, currentIo, isMsg, isIo,
      serving, Option.bind_some, Option.map_some, disassembleCe, sendCea_eq]
    split
    · apply acts_of_eq <;> simp [running, crashed, Peer.links, PeerAction.links]
    · apply acts_cleanup
      · rfl
      · simp [crashed]
      · rfl
  | rAccept =>
    obtain ⟨takenMsg, isMsg⟩ := takenMsg rfl
    obtain ⟨takenIo, isIo⟩ := takenIo rfl
    simp only [act, takeResponder, withMsg, currentMsg, currentIo, isMsg, isIo,
      serving, Option.bind_some, Option.map_some, disassembleCe]
    split
    · apply acts_of_eq <;> simp [running, crashed, Peer.links, PeerAction.links]
    · apply acts_cleanup
      · rfl
      · exact crashed
      · rfl
  | rAcceptElect =>
    obtain ⟨takenMsg, isMsg⟩ := takenMsg rfl
    obtain ⟨takenIo, isIo⟩ := takenIo rfl
    simp only [act, takeResponder, withMsg, currentMsg, currentIo, isMsg, isIo,
      serving, Option.bind_some, Option.map_some, disassembleCe]
    split
    · apply acts_elect
      · rfl
      · exact running
      · exact crashed
      · rfl
      · rfl
      · rfl
    · apply acts_cleanup
      · rfl
      · exact crashed
      · rfl
  | iSendCer =>
    obtain ⟨taken, isIo⟩ := takenIo rfl
    simp only [act, takeInitiator, currentIo, isIo, serving, Option.bind_some, sendCer_eq]
    apply acts_of_eq <;> simp [running, crashed, Peer.links, PeerAction.links]
  | iSendCerElect =>
    obtain ⟨taken, isIo⟩ := takenIo rfl
    simp only [act, takeInitiator, currentIo, isIo, serving, Option.bind_some, sendCer_eq]
    apply acts_elect
    · rfl
    · exact running
    · simp [crashed]
    · rfl
    · rfl
    · rfl
  | rSendCea =>
    obtain ⟨taken, isIo⟩ := takenIo rfl
    simp only [act, takeResponder, currentIo, isIo, serving, Option.bind_some, sendCea_eq]
    apply acts_of_eq <;> simp [running, crashed, Peer.links, PeerAction.links]
  | rSendCeaOpen | iSendCea =>
    obtain ⟨taken, isMsg⟩ := takenMsg rfl
    have there : (peer.ioInitiator.isNone && peer.ioResponder.isNone) = false := by
      simpa [PeerAction.links, Peer.links, ← Option.not_isSome, ← Bool.not_or] using linked rfl
    simp only [act, withMsg, currentMsg, isMsg, serving, Option.bind_some, disassembleCe,
      sendCea_eq]
    apply acts_of_eq <;> simp [running, crashed, there, Peer.links, PeerAction.links]
  | iDisconnectSendCea =>
    have there : peer.ioResponder.isSome = true := by
      simpa [PeerAction.links, Peer.links] using linked rfl
    simp only [act, serving, dropInitiator, sendCea_eq]
    apply acts_of_eq <;> simp [running, crashed, there, Peer.links, PeerAction.links]

/-- Between the calls a peer works with the connections of its state. -/
structure Sound (peer : Peer Io Avps) : Prop where
  running : peer.running = true
  crashed : peer.crashed = false
  current : peer.current = none
  genuine : ∀ param ∈ peer.eventQueue, param.Genuine
  linked : peer.state.Linked peer.links = true

theorem sound_initial : (initial : Peer Io Avps).Sound := by
  constructor <;> simp [initial, PeerState.Linked]

theorem Sound.of_acts {queue : List (PeerEventParam Io Avps)} {state : PeerState}
    {links : Links} {handled : Peer Io Avps} (acted : Acts queue state links handled)
    (genuine : ∀ param ∈ queue, param.Genuine) (linked : state.Linked links = true) :
    handled.release.Sound where
  running := acted.running
  crashed := acted.crashed
  current := rfl
  genuine := by
    rcases acted.eventQueue with ⟨posted, same, genuinePosted⟩
    intro param member
    rw [release, same] at member
    exact (List.mem_append.mp member).elim (genuine param) (genuinePosted param)
  linked := by
    apply acted.outcome.elim
    · intro closed
      simp [release, closed, PeerState.Linked]
    · intro same
      have sameLinks : handled.release.links = links := same.2
      rw [sameLinks, show handled.release.state = state from same.1]
      exact linked

theorem Sound.posts {peer next : Peer Io Avps} {posted : List (PeerEventParam Io Avps)}
    {taken : List MsgId} (sound : peer.Sound) (post : peer.Posts next posted taken) :
    next.Sound where
  running := post.running.trans sound.running
  crashed := post.crashed.trans sound.crashed
  current := post.current.trans sound.current
  genuine := by
    intro param member
    rw [post.eventQueue] at member
    exact (List.mem_append.mp member).elim (sound.genuine param) (post.genuine param)
  linked := by
    rw [post.state, Peer.links, post.ioInitiator, post.ioResponder]
    exact sound.linked

/-- No refused connection is served during an election, and no error of another kind
comes while the peer is open. -/
def Unbroken (peer : Peer Io Avps) : PeerInput Io Avps → Prop
  | .serve _ =>
    ∀ param rest, peer.eventQueue = param :: rest →
      ¬ (peer.state = .waitConnAckElect ∧ param.event = .iRcvConnNack)
  | .collectorError .others => peer.state ≠ .iOpen ∧ peer.state ≠ .rOpen
  | _ => True

theorem sound_serve {peer next : Peer Io Avps} {id : MsgId} (sound : peer.Sound)
    (unbroken : peer.Unbroken (.serve id)) (served : peer.serve config id = some next) :
    next.Sound := by
  rcases serve_cases sound.running served with ⟨param, rest, handled, queue, handles, rfl⟩
  have genuine : param.Genuine := sound.genuine param (by simp [queue])
  have genuineRest : ∀ other ∈ rest, other.Genuine := by
    intro other member
    exact sound.genuine other (by simp [queue, member])
  have rows {entry : StateTableEntry PeerState PeerEvent PeerAction}
      (found : peerStateTable.find peer.state param.event = some entry) :
      entry ∈ peerStateTable ∧ StateTable.Serves peer.state param.event entry :=
    StateTable.find_sound found
  have linkedRow {entry : StateTableEntry PeerState PeerEvent PeerAction}
      (found : peerStateTable.find peer.state param.event = some entry) :=
    peerStateTable_linked entry (rows found).1 peer.links.initiator peer.links.responder
      (by rw [(rows found).2.1]; exact sound.linked)
  cases handles with
  | unlisted _ =>
    exact Sound.of_acts (acts_of_eq sound.running sound.crashed rfl rfl rfl) genuineRest
      sound.linked
  | idle entry found noAction =>
    have linked := linkedRow found
    rw [noAction] at linked
    exact Sound.of_acts (acts_of_eq sound.running sound.crashed rfl rfl rfl) genuineRest
      linked.1
  | acts entry action found isAction =>
    have linked := linkedRow found
    rw [isAction] at linked
    have sameEvent := (rows found).2.2
    have bringsIo := (peerStateTable_takesIo entry (rows found).1).resolve_left (by
      intro refused
      apply unbroken param rest queue
      exact ⟨(rows found).2.1.symm.trans refused.1, (sameEvent _ refused.2).symm⟩)
    apply Sound.of_acts (acts_act sound.running sound.crashed ?_ ?_ ?_) genuineRest linked.1
    · exact genuine.takesMsg (rows found) isAction
    · intro takes
      rcases bringsIo action isAction takes with ⟨event, isEvent, brings⟩
      rw [genuine.io, ← sameEvent event isEvent]
      exact brings
    · exact linked.2 action rfl

theorem sound_perform {peer next : Peer Io Avps} {input : PeerInput Io Avps} (sound : peer.Sound)
    (possible : input.Possible) (unbroken : peer.Unbroken input)
    (performed : input.perform config peer = some next) :
    next.Sound ∨ (next.crashed = true ∧ next.state ≠ .iOpen ∧ next.state ≠ .rOpen) := by
  cases performs_perform sound.running possible performed with
  | serve id => exact .inl (sound_serve sound unbroken performed)
  | others broken =>
    have crash := crashed_cleanup sound.current
    rw [broken, crash.2]
    exact .inr ⟨crash.1, unbroken⟩
  | posts _ posted taken post _ => exact .inl (sound.posts post)

theorem sound_run (run : PeerRun config Unbroken peer) :
    peer.Sound ∨ (peer.crashed = true ∧ peer.state ≠ .iOpen ∧ peer.state ≠ .rOpen) := by
  induction run with
  | initial => exact .inl sound_initial
  | step input run alive possible unbroken performed induction =>
    apply sound_perform (induction.resolve_right ?_) possible unbroken performed
    intro broken
    rw [alive] at broken
    exact absurd broken.1 Bool.false_ne_true

/-- Without a refused connection during an election, and without an error of another
kind while it is open, an open peer has the connection it uses. -/
theorem open_connection {config : PeerConfig Avps} {peer : Peer Io Avps}
    (run : PeerRun config Unbroken peer) :
    (peer.state = .rOpen → peer.ioResponder.isSome = true) ∧
      (peer.state = .iOpen → peer.ioInitiator.isSome = true) ∧
      (peer.state = .rOpen ∨ peer.state = .iOpen → peer.openIo.isSome = true) := by
  rcases sound_run run with sound | broken
  · have linked := sound.linked
    constructor
    · intro isOpen
      simpa [isOpen, PeerState.Linked, Peer.links] using linked
    · constructor
      · intro isOpen
        simpa [isOpen, PeerState.Linked, Peer.links] using linked
      · intro isOpen
        rcases isOpen with isOpen | isOpen <;>
          simpa [isOpen, openIo, PeerState.Linked, Peer.links] using linked
  · exact ⟨fun isOpen => absurd isOpen broken.2.2, fun isOpen => absurd isOpen broken.2.1,
      fun isOpen => (isOpen.elim broken.2.2 broken.2.1).elim⟩

/-- A host named `b` with a peer named `a`, whose capabilities are accepted. -/
def hostB : PeerConfig Unit where
  identity := [98]
  avps := ()
  validatePeer := fun _ => .success

/-- The CER of the peer named `a`. -/
def cerOfA (id : MsgId) : PeerMsg Unit where
  code := .capabilitiesExchg
  request := true
  id := id
  originHost := [97]
  resultCode := 0
  avps := some ()

theorem open_connection_accepted :
    ∃ peer : Peer Nat Unit, PeerRun hostB Unbroken peer ∧ peer.state = .rOpen ∧
      (peer.state = .rOpen → peer.ioResponder.isSome = true) := by
  have run : PeerRun hostB (Unbroken : Peer Nat Unit → _) _ :=
    .step (.serve ⟨0, 0⟩)
      (.step (.incommingConnectionRequest 1 (cerOfA ⟨5, 6⟩)) .initial rfl ⟨rfl, rfl⟩ trivial rfl)
      rfl trivial (by intro param rest queue refused; exact absurd refused.1 (by decide)) rfl
  exact ⟨_, run, rfl, (open_connection run).1⟩

/-- The connection to `a` is refused after its own was accepted for the election, and
the peer opens without a connection. -/
theorem open_without_connection :
    ∃ peer : Peer Nat Unit, PeerRun hostB (fun _ _ => True) peer ∧
      peer.state = .rOpen ∧ peer.ioResponder = none := by
  have run : PeerRun hostB (fun (_ : Peer Nat Unit) _ => True) _ :=
    .step (.serve ⟨2, 2⟩)
      (.step .connectionRequestFailed
        (.step (.serve ⟨1, 1⟩)
          (.step (.incommingConnectionRequest 1 (cerOfA ⟨5, 6⟩))
            (.step (.serve ⟨0, 0⟩) (.step .start .initial rfl trivial trivial rfl)
              rfl trivial trivial rfl)
            rfl ⟨rfl, rfl⟩ trivial rfl)
          rfl trivial trivial rfl)
        rfl trivial trivial rfl)
      rfl trivial trivial rfl
  exact ⟨_, run, rfl, rfl⟩

end Peer

end OpenDiameter.Peer
