import OpenDiameter.Peer.PeerEvents

/-!
The ids of the requests received wait in queues for the answers. The queues hold the
ids of a CER that an election keeps waiting, and then those of the requests among the
events, as long as every request is answered.
-/

namespace OpenDiameter.Peer

open Framework

/-- A CER was accepted, and its answer waits for the election. -/
def PeerState.owesCea : PeerState → Bool
  | .waitConnAckElect | .waitReturns => true
  | _ => false

/-- What an action does with the ids of requests. -/
inductive Booking where
  | nothing
  | answersEvent
  | answersAccepted
  | accepts
deriving DecidableEq

namespace Booking

def answers : Booking → Bool
  | .answersEvent | .answersAccepted => true
  | .nothing | .accepts => false

/-- The request an answer is for, by the ids of the event's and of the accepted one. -/
def request (ofEvent accepted : Option MsgId) : Booking → Option MsgId
  | .answersEvent => ofEvent
  | .answersAccepted => accepted
  | .nothing | .accepts => none

end Booking

namespace PeerAction

def booking : PeerAction → Booking
  | .rAcceptSendCea | .rSendCeaOpen | .iSendCea | .processDwrSendDwa
  | .iSendDpaDisconnect | .rSendDpaDisconnect => .answersEvent
  | .rSendCea | .iDisconnectSendCea => .answersAccepted
  | .rAccept | .rAcceptElect => .accepts
  | _ => .nothing

/-- The action comes to an election, which goes on unless it is cut short. -/
def elects : PeerAction → Bool
  | .rAccept | .rAcceptElect | .iSendCerElect => true
  | _ => false

end PeerAction

/-- As many answers are owed after a row as before it, but for one that is sent and one
that its event asks for. -/
def Balanced (entry : StateTableEntry PeerState PeerEvent PeerAction) (brings : Bool) : Prop :=
  entry.prevState.owesCea.toNat + brings.toNat =
    (entry.action.any fun action => action.booking.answers).toNat +
      entry.nextState.owesCea.toNat

instance (entry : StateTableEntry PeerState PeerEvent PeerAction) (brings : Bool) :
    Decidable (Balanced entry brings) := by
  unfold Balanced
  infer_instance

/-- What a balanced row is like, by what its action does. -/
def Fits (entry : StateTableEntry PeerState PeerEvent PeerAction) (brings : Bool) : Prop :=
  match (entry.action.map PeerAction.booking).getD .nothing with
  | .nothing =>
    brings = false ∧ entry.prevState.owesCea = entry.nextState.owesCea ∧
      (entry.nextState.owesCea = true → ∃ action ∈ entry.action, action.elects = true)
  | .answersEvent =>
    brings = true ∧ entry.prevState.owesCea = false ∧ entry.nextState.owesCea = false
  | .answersAccepted =>
    brings = false ∧ entry.prevState.owesCea = true ∧ entry.nextState.owesCea = false
  | .accepts =>
    brings = true ∧ entry.prevState.owesCea = false ∧ entry.nextState.owesCea = true ∧
      ∃ action ∈ entry.action, action.elects = true

instance (entry : StateTableEntry PeerState PeerEvent PeerAction) (brings : Bool) :
    Decidable (Fits entry brings) := by
  unfold Fits
  split <;> infer_instance

theorem peerStateTable_fits :
    ∀ entry ∈ peerStateTable, ∀ brings : Bool,
      (∀ event ∈ entry.event, event.bringsRequest = brings) → Balanced entry brings →
      Fits entry brings := by
  decide

namespace Peer

variable {Io Avps : Type}

/-- What an action leaves of the ids: a queue of events, a state that an election may
cut short, and answers that carry the first ids of the queues. -/
structure Books (peer : Peer Io Avps) (param : PeerEventParam Io Avps)
    (queue : List (PeerEventParam Io Avps)) (state : PeerState) (action : PeerAction)
    (next : Peer Io Avps) : Prop where
  running : next.running = true
  eventQueue : ∃ posted, next.eventQueue = queue ++ posted ∧
    ∀ param ∈ posted, param.Genuine ∧ param.requestId = none
  state : next.state = state ∨ next.state = .closed ∧ action.elects = false
  lastRxHopId : next.lastRxHopId =
    if action.booking.answers then peer.lastRxHopId.tail else peer.lastRxHopId
  lastRxEndId : next.lastRxEndId =
    if action.booking.answers then peer.lastRxEndId.tail else peer.lastRxEndId
  accepted : next.accepted =
    if action.booking = .accepts then param.msg.map PeerMsg.id else peer.accepted
  sendQueue : ∃ sent, next.sendQueue = peer.sendQueue ++ sent ∧
    ∀ transmission ∈ sent, ∀ request, transmission.answers = some request →
      action.booking.request (param.msg.map PeerMsg.id) peer.accepted = some request ∧
      transmission.msg.id = ⟨peer.lastRxHopId.headD 0, peer.lastRxEndId.headD 0⟩

variable {peer : Peer Io Avps} {param : PeerEventParam Io Avps}
  {queue : List (PeerEventParam Io Avps)} {state : PeerState} {action : PeerAction}

variable {next : Peer Io Avps}

/-- An action that keeps the books from the service on. -/
theorem books_of_eq (nothing : action.booking = .nothing) (running : next.running = true)
    (sameQueue : next.eventQueue = queue) (sameState : next.state = state)
    (sameHop : next.lastRxHopId = peer.lastRxHopId) (sameEnd : next.lastRxEndId = peer.lastRxEndId)
    (sameAccepted : next.accepted = peer.accepted)
    (sends : ∃ sent, next.sendQueue = peer.sendQueue ++ sent ∧
      ∀ transmission ∈ sent, transmission.answers = none) :
    Books peer param queue state action next where
  running := running
  eventQueue := ⟨[], by simp [sameQueue], by simp⟩
  state := .inl sameState
  lastRxHopId := by simp [nothing, Booking.answers, sameHop]
  lastRxEndId := by simp [nothing, Booking.answers, sameEnd]
  accepted := by simp [nothing, sameAccepted]
  sendQueue := by
    rcases sends with ⟨sent, same, plain⟩
    refine ⟨sent, same, ?_⟩
    intro transmission member request answers
    rw [plain transmission member] at answers
    contradiction

theorem books_of_accept (accepts : action.booking = .accepts) (running : next.running = true)
    (sameQueue : next.eventQueue = queue) (sameState : next.state = state)
    (sameHop : next.lastRxHopId = peer.lastRxHopId) (sameEnd : next.lastRxEndId = peer.lastRxEndId)
    (accepted : next.accepted = param.msg.map PeerMsg.id)
    (sameSend : next.sendQueue = peer.sendQueue) :
    Books peer param queue state action next where
  running := running
  eventQueue := ⟨[], by simp [sameQueue], by simp⟩
  state := .inl sameState
  lastRxHopId := by simp [accepts, Booking.answers, sameHop]
  lastRxEndId := by simp [accepts, Booking.answers, sameEnd]
  accepted := by simp [accepts, accepted]
  sendQueue := ⟨[], by simp [sameSend], by simp⟩

theorem books_of_answer {transmission : Transmission Io Avps}
    (answers : action.booking.answers = true) (running : next.running = true)
    (sameQueue : next.eventQueue = queue) (sameState : next.state = state)
    (popHop : next.lastRxHopId = peer.lastRxHopId.tail)
    (popEnd : next.lastRxEndId = peer.lastRxEndId.tail)
    (sameAccepted : next.accepted = peer.accepted)
    (sends : next.sendQueue = peer.sendQueue ++ [transmission])
    (request : transmission.answers =
      action.booking.request (param.msg.map PeerMsg.id) peer.accepted)
    (ids : transmission.msg.id = ⟨peer.lastRxHopId.headD 0, peer.lastRxEndId.headD 0⟩) :
    Books peer param queue state action next where
  running := running
  eventQueue := ⟨[], by simp [sameQueue], by simp⟩
  state := .inl sameState
  lastRxHopId := by simp [answers, popHop]
  lastRxEndId := by simp [answers, popEnd]
  accepted := by
    rw [if_neg, sameAccepted]
    intro accepts
    rw [accepts] at answers
    contradiction
  sendQueue := by
    refine ⟨[transmission], sends, ?_⟩
    intro other member id isRequest
    cases List.mem_singleton.mp member
    exact ⟨request.symm.trans isRequest, ids⟩

/-- A cleanup only closes, where no election is cut short by it. -/
theorem Books.cleanup (books : Books peer param queue state action next)
    {current : PeerEventParam Io Avps} (isCurrent : next.current = some current)
    (plain : action.elects = false) (keepInitiator : Bool) :
    Books peer param queue state action (next.cleanup keepInitiator) := by
  rw [cleanup_eq isCurrent]
  exact ⟨rfl, books.eventQueue, .inr ⟨rfl, plain⟩, books.lastRxHopId, books.lastRxEndId,
    books.accepted, books.sendQueue⟩

theorem Books.notify (books : Books peer param queue state action next) {event : PeerEvent}
    (noMsg : event.msgCode = none) (noIo : event.bringsIo = false) :
    Books peer param queue state action (next.notify event none none) := by
  have post := posts_alone books.running event noMsg noIo
  constructor
  · exact post.running.trans books.running
  · rcases books.eventQueue with ⟨posted, same, plain⟩
    refine ⟨posted ++ [⟨event, none, none⟩], ?_, ?_⟩
    · rw [post.eventQueue, same, List.append_assoc]
    · intro other member
      apply (List.mem_append.mp member).elim (plain other)
      intro isEvent
      refine ⟨post.genuine other isEvent, ?_⟩
      cases List.mem_singleton.mp isEvent
      simp [PeerEventParam.requestId]
  · rw [post.state]
    exact books.state
  · rw [post.lastRxHopId, List.map_nil, List.append_nil]
    exact books.lastRxHopId
  · rw [post.lastRxEndId, List.map_nil, List.append_nil]
    exact books.lastRxEndId
  · exact post.accepted.trans books.accepted
  · rw [post.sendQueue]
    exact books.sendQueue

variable {config : PeerConfig Avps}

theorem Books.elect (books : Books peer param queue state action next)
    (different : electHosts config.identity next.host ≠ .sameHost) :
    Books peer param queue state action (next.elect config) := by
  unfold Peer.elect
  split
  · rename_i same
    exact absurd same different
  · exact books.notify rfl rfl
  · exact books

/-- The capabilities of the other host are accepted, and it is another host. -/
def Elects (config : PeerConfig Avps) (peer : Peer Io Avps) (param : PeerEventParam Io Avps) :
    PeerAction → Prop
  | .rAccept => ∀ cer ∈ param.msg, config.validatePeer cer = .success
  | .rAcceptElect => ∀ cer ∈ param.msg, config.validatePeer cer = .success ∧
      electHosts config.identity cer.originHost ≠ .sameHost
  | .iSendCerElect => electHosts config.identity peer.host ≠ .sameHost
  | _ => True

theorem books_act {id : MsgId} (running : peer.running = true)
    (msg : action.takesMsg = true → param.msg.isSome = true)
    (elects : Elects config peer param action) :
    Books peer param queue state action
      ((peer.serving param queue state).act config id action) := by
  have takenMsg (takes : action.takesMsg = true) : ∃ taken, param.msg = some taken :=
    Option.isSome_iff_exists.mp (msg takes)
  have begun (nothing : action.booking = .nothing) (current : PeerEventParam Io Avps) :
      Books peer param queue state action (peer.serving current queue state) :=
    books_of_eq nothing running rfl rfl rfl rfl rfl ⟨[], by simp [serving], by simp⟩
  cases action with
  | iSendConnReq | rSendMessage | iSendMessage => exact begun rfl param
  | connNack | cleanup | error | disconnect => exact (begun rfl param).cleanup rfl rfl false
  | retry => exact (begun rfl param).notify rfl rfl
  | rDisconnectResp | rReject =>
    exact books_of_eq rfl running rfl rfl rfl rfl rfl
      ⟨[], by simp [act, serving, dropResponder], by simp⟩
  | iSendDpr | rSendDpr | watchdog =>
    exact books_of_eq rfl running rfl rfl rfl rfl rfl ⟨[_], rfl, by simp⟩
  | process =>
    obtain ⟨taken, isMsg⟩ := takenMsg rfl
    rw [act, withMsg_serving isMsg]
    exact begun rfl _
  | processCea | processDwa | rDisconnectIOpen =>
    obtain ⟨taken, isMsg⟩ := takenMsg rfl
    rw [act, withMsg_serving isMsg]
    split
    · exact books_of_eq rfl running rfl rfl rfl rfl rfl
        ⟨[], by simp [disassembleCe, dropResponder, serving], by simp⟩
    · exact (begun rfl _).cleanup rfl rfl false
  | disconnectDpa =>
    obtain ⟨taken, isMsg⟩ := takenMsg rfl
    rw [act, withMsg_serving isMsg]
    exact (begun rfl _).cleanup rfl rfl false
  | processDwrSendDwa =>
    obtain ⟨taken, isMsg⟩ := takenMsg rfl
    rw [act, withMsg_serving isMsg]
    exact books_of_answer rfl running rfl rfl rfl rfl rfl rfl (by simp [PeerAction.booking, Booking.request, isMsg]) rfl
  | iSendDpaDisconnect | rSendDpaDisconnect =>
    obtain ⟨taken, isMsg⟩ := takenMsg rfl
    rw [act, withMsg_serving isMsg]
    apply Books.cleanup
    · exact books_of_answer rfl running rfl rfl rfl rfl rfl rfl (by simp [PeerAction.booking, Booking.request, isMsg]) rfl
    · rfl
    · rfl
  | rSendCeaOpen | iSendCea =>
    obtain ⟨taken, isMsg⟩ := takenMsg rfl
    rw [act, withMsg_serving isMsg, sendCea_eq]
    exact books_of_answer rfl running rfl rfl rfl rfl rfl rfl (by simp [PeerAction.booking, Booking.request, isMsg]) rfl
  | rSendCea =>
    rw [act, takeResponder_serving, sendCea_eq]
    exact books_of_answer rfl running rfl rfl rfl rfl rfl rfl rfl rfl
  | iDisconnectSendCea =>
    rw [act, sendCea_eq]
    exact books_of_answer rfl running rfl rfl rfl rfl rfl rfl rfl rfl
  | rAcceptSendCea =>
    obtain ⟨taken, isMsg⟩ := takenMsg rfl
    rw [act, takeResponder_withMsg isMsg]
    simp only [sendCea_eq]
    split
    · exact books_of_answer rfl running rfl rfl rfl rfl rfl rfl (by simp [PeerAction.booking, Booking.request, isMsg]) rfl
    · apply Books.cleanup
      · exact books_of_answer rfl running rfl rfl rfl rfl rfl rfl (by simp [PeerAction.booking, Booking.request, isMsg]) rfl
      · rfl
      · rfl
  | iSendCer =>
    rw [act, takeInitiator_serving, sendCer_eq]
    exact books_of_eq rfl running rfl rfl rfl rfl rfl ⟨[_], rfl, by simp⟩
  | iSendCerElect =>
    rw [act, takeInitiator_serving, sendCer_eq]
    apply Books.elect
    · exact books_of_eq rfl running rfl rfl rfl rfl rfl ⟨[_], rfl, by simp⟩
    · exact elects
  | rAccept =>
    obtain ⟨taken, isMsg⟩ := takenMsg rfl
    rw [act, takeResponder_withMsg isMsg, if_pos (elects taken isMsg)]
    exact books_of_accept rfl running rfl rfl rfl rfl (by simp [isMsg]) rfl
  | rAcceptElect =>
    obtain ⟨taken, isMsg⟩ := takenMsg rfl
    rw [act, takeResponder_withMsg isMsg, if_pos (elects taken isMsg).1]
    apply Books.elect
    · exact books_of_accept rfl running rfl rfl rfl rfl (by simp [isMsg]) rfl
    · exact (elects taken isMsg).2

/-- The ids of the CER that waits for the election. -/
def waiting (peer : Peer Io Avps) : List MsgId :=
  if peer.state.owesCea then peer.accepted.toList else []

/-- The ids of the requests that are not answered yet, in the order of their answers. -/
def requestIds (peer : Peer Io Avps) : List MsgId :=
  peer.waiting ++ peer.eventQueue.filterMap PeerEventParam.requestId

/-- Every answer has the ids of its request. -/
def Answered (peer : Peer Io Avps) : Prop :=
  ∀ transmission ∈ peer.sendQueue, ∀ request,
    transmission.answers = some request → transmission.msg.id = request

structure Booked (peer : Peer Io Avps) : Prop where
  running : peer.running = true
  current : peer.current = none
  genuine : ∀ param ∈ peer.eventQueue, param.Genuine
  accepted : peer.state.owesCea = true → peer.accepted.isSome = true
  lastRxHopId : peer.lastRxHopId = peer.requestIds.map MsgId.hh
  lastRxEndId : peer.lastRxEndId = peer.requestIds.map MsgId.ee
  answered : peer.Answered

theorem booked_initial : (initial : Peer Io Avps).Booked := by
  constructor <;> simp [initial, PeerState.owesCea, requestIds, waiting, Answered]

theorem Booked.posts {posted : List (PeerEventParam Io Avps)} {taken : List MsgId}
    (booked : peer.Booked) (post : peer.Posts next posted taken)
    (kept : taken = posted.filterMap PeerEventParam.requestId) : next.Booked := by
  have ids : next.requestIds = peer.requestIds ++ taken := by
    simp [requestIds, waiting, post.state, post.accepted, post.eventQueue, kept]
  constructor
  · exact post.running.trans booked.running
  · exact post.current.trans booked.current
  · intro param member
    rw [post.eventQueue] at member
    exact (List.mem_append.mp member).elim (booked.genuine param) (post.genuine param)
  · rw [post.state, post.accepted]
    exact booked.accepted
  · rw [post.lastRxHopId, booked.lastRxHopId, ids, List.map_append]
  · rw [post.lastRxEndId, booked.lastRxEndId, ids, List.map_append]
  · rw [Answered, post.sendQueue]
    exact booked.answered

/-- The condition on a service: the row is balanced and no election is cut short. -/
def Settles (config : PeerConfig Avps) (peer : Peer Io Avps)
    (param : PeerEventParam Io Avps) : Prop :=
  match peerStateTable.find peer.state param.event with
  | none => param.event.bringsRequest = false
  | some entry =>
    Balanced entry param.event.bringsRequest ∧
      ∀ action ∈ entry.action, Elects config peer param action

/-- No request is discarded, rejected or forgotten: each is answered, or is a CER that
waits for the election. -/
def Settled (config : PeerConfig Avps) (peer : Peer Io Avps) : PeerInput Io Avps → Prop
  | .message msg => ¬ peer.DiscardsRequest msg
  | .serve _ => ∀ param rest, peer.eventQueue = param :: rest → Settles config peer param
  | _ => True

variable {rest : List (PeerEventParam Io Avps)}

/-- The ids that wait while the first event is served. -/
theorem serving_ids (first : peer.eventQueue = param :: rest) :
    peer.requestIds =
      peer.waiting ++ param.requestId.toList ++ rest.filterMap PeerEventParam.requestId := by
  rw [requestIds, first, List.filterMap_cons]
  cases param.requestId <;> simp

theorem waiting_closed (next : Peer Io Avps) (notOwed : next.state.owesCea = false) :
    next.waiting = [] := by
  simp [waiting, notOwed]

theorem Books.not_owed (books : Books peer param queue state action next)
    (notOwed : state.owesCea = false) : next.state.owesCea = false := by
  rcases books.state with same | closed
  · rw [same, notOwed]
  · rw [closed.1]
    rfl

theorem Books.elected (books : Books peer param queue state action next)
    (elects : action.elects = true) : next.state = state := by
  apply books.state.resolve_right
  intro closed
  rw [elects] at closed
  exact absurd closed.2 (by simp)

variable {entry : StateTableEntry PeerState PeerEvent PeerAction}

/-- A fitting row answers the first of the requests that wait, or leaves them waiting. -/
theorem Books.requests (books : Books peer param queue entry.nextState action next)
    (sameState : entry.prevState = peer.state) (isAction : entry.action = some action)
    (fits : Fits entry param.event.bringsRequest) :
    peer.waiting ++ param.requestId.toList =
      (action.booking.request (param.msg.map PeerMsg.id) peer.accepted).toList ++
        next.waiting := by
  unfold Fits at fits
  rw [isAction, Option.map_some, Option.getD_some] at fits
  have sameAccepted := books.accepted
  cases booking : action.booking with
  | nothing =>
    simp only [booking] at fits
    rcases fits with ⟨plain, same, elects⟩
    have noRequest : param.requestId = none := by simp [PeerEventParam.requestId, plain]
    simp only [noRequest, Booking.request, Option.toList_none, List.append_nil,
      List.nil_append]
    cases owed : entry.nextState.owesCea with
    | false =>
      rw [waiting_closed next (books.not_owed owed), waiting_closed peer]
      rw [← sameState, same, owed]
    | true =>
      rcases elects owed with ⟨elector, isElector, elects⟩
      cases isElector
      rw [booking] at sameAccepted
      simp only [waiting, books.elected elects, owed, ← sameState, same, sameAccepted]
      simp
  | answersEvent =>
    simp only [booking] at fits
    rcases fits with ⟨brings, notOwed, notOwes⟩
    rw [waiting_closed next (books.not_owed notOwes), waiting_closed peer (by rw [← sameState, notOwed])]
    simp [PeerEventParam.requestId, brings, Booking.request]
  | answersAccepted =>
    simp only [booking] at fits
    rcases fits with ⟨plain, owed, notOwes⟩
    rw [waiting_closed next (books.not_owed notOwes)]
    simp [PeerEventParam.requestId, plain, Booking.request, waiting, ← sameState, owed]
  | accepts =>
    simp only [booking] at fits
    rcases fits with ⟨brings, notOwed, owes, elector, isElector, elects⟩
    cases isElector
    rw [waiting_closed peer (by rw [← sameState, notOwed])]
    simp [PeerEventParam.requestId, brings, Booking.request, waiting, books.elected elects,
      owes, sameAccepted, booking]

/-- An election that goes on has an accepted CER. -/
theorem Books.accepted_some (books : Books peer param queue entry.nextState action next)
    (sameState : entry.prevState = peer.state) (isAction : entry.action = some action)
    (fits : Fits entry param.event.bringsRequest)
    (msg : action.takesMsg = true → param.msg.isSome = true)
    (accepted : peer.state.owesCea = true → peer.accepted.isSome = true)
    (owed : next.state.owesCea = true) : next.accepted.isSome = true := by
  unfold Fits at fits
  rw [isAction, Option.map_some, Option.getD_some] at fits
  rw [books.accepted]
  cases booking : action.booking with
  | nothing =>
    simp only [booking] at fits
    have owedBefore : peer.state.owesCea = true := by
      rw [← sameState, fits.2.1]
      cases owes : entry.nextState.owesCea with
      | true => rfl
      | false =>
        rw [books.not_owed owes] at owed
        contradiction
    simpa using accepted owedBefore
  | answersEvent | answersAccepted =>
    simp only [booking] at fits
    rw [books.not_owed fits.2.2] at owed
    contradiction
  | accepts =>
    have takes : action.takesMsg = true := by
      cases action <;> first | rfl | exact absurd booking (by decide)
    simpa using msg takes

/-- There is a request for an answer. -/
theorem Books.request_some (sameState : entry.prevState = peer.state)
    (isAction : entry.action = some action) (fits : Fits entry param.event.bringsRequest)
    (msg : action.takesMsg = true → param.msg.isSome = true)
    (accepted : peer.state.owesCea = true → peer.accepted.isSome = true)
    (answers : action.booking.answers = true) :
    ∃ request, action.booking.request (param.msg.map PeerMsg.id) peer.accepted =
      some request := by
  unfold Fits at fits
  rw [isAction, Option.map_some, Option.getD_some] at fits
  apply Option.isSome_iff_exists.mp
  cases booking : action.booking with
  | nothing | accepts =>
    rw [booking] at answers
    contradiction
  | answersEvent =>
    have takes : action.takesMsg = true := by
      cases action <;> first | rfl | exact absurd booking (by decide)
    simpa [Booking.request] using msg takes
  | answersAccepted =>
    simp only [booking] at fits
    apply accepted
    rw [← sameState, fits.2.1]

theorem Booked.of_books (booked : peer.Booked) (first : peer.eventQueue = param :: rest)
    {handled : Peer Io Avps} (sameState : entry.prevState = peer.state)
    (isAction : entry.action = some action)
    (books : Books peer param rest entry.nextState action handled)
    (fits : Fits entry param.event.bringsRequest)
    (msg : action.takesMsg = true → param.msg.isSome = true) : handled.release.Booked := by
  rcases books.eventQueue with ⟨posted, sameQueue, plain⟩
  have noRequests : posted.filterMap PeerEventParam.requestId = [] := by
    simp only [List.filterMap_eq_nil_iff]
    intro other member
    exact (plain other member).2
  have ids : peer.requestIds =
      (action.booking.request (param.msg.map PeerMsg.id) peer.accepted).toList ++
        handled.release.requestIds := by
    rw [serving_ids first, books.requests sameState isAction fits, List.append_assoc]
    simp [requestIds, release, waiting, sameQueue, noRequests]
  have kept (noAnswer : action.booking.answers = false) :
      peer.requestIds = handled.release.requestIds := by
    rw [ids]
    cases booking : action.booking <;> simp_all [Booking.answers, Booking.request]
  have answered (answers : action.booking.answers = true) :
      ∃ request, action.booking.request (param.msg.map PeerMsg.id) peer.accepted =
        some request ∧ peer.requestIds = request :: handled.release.requestIds := by
    rcases Books.request_some sameState isAction fits msg booked.accepted answers with
      ⟨request, isRequest⟩
    rw [isRequest] at ids
    exact ⟨request, isRequest, ids⟩
  constructor
  · exact books.running
  · rfl
  · intro other member
    rw [release, sameQueue] at member
    apply (List.mem_append.mp member).elim
    · intro inRest
      exact booked.genuine other (by simp [first, inRest])
    · intro inPosted
      exact (plain other inPosted).1
  · exact books.accepted_some sameState isAction fits msg booked.accepted
  · rw [release, books.lastRxHopId, booked.lastRxHopId]
    split
    · rename_i answers
      rcases answered answers with ⟨request, _, same⟩
      rw [same]
      rfl
    · rename_i noAnswer
      rw [kept (by simpa using noAnswer)]
      rfl
  · rw [release, books.lastRxEndId, booked.lastRxEndId]
    split
    · rename_i answers
      rcases answered answers with ⟨request, _, same⟩
      rw [same]
      rfl
    · rename_i noAnswer
      rw [kept (by simpa using noAnswer)]
      rfl
  · rcases books.sendQueue with ⟨sent, sameSend, sound⟩
    intro transmission member request isRequest
    rw [release, sameSend] at member
    rcases List.mem_append.mp member with before | isSent
    · exact booked.answered transmission before request isRequest
    · rcases sound transmission isSent request isRequest with ⟨requested, ids'⟩
      rw [requested] at ids
      rw [ids', booked.lastRxHopId, booked.lastRxEndId, ids]
      rfl

/-- A state entered without an action leaves the requests as they are. -/
theorem Booked.entered (booked : peer.Booked) (first : peer.eventQueue = param :: rest)
    (noRequest : param.event.bringsRequest = false) (owed : state.owesCea = peer.state.owesCea) :
    (peer.serving param rest state).release.Booked := by
  have ids : (peer.serving param rest state).release.requestIds = peer.requestIds := by
    rw [serving_ids first]
    simp [requestIds, release, serving, waiting, owed, PeerEventParam.requestId, noRequest]
  constructor
  · exact booked.running
  · rfl
  · intro other member
    exact booked.genuine other (by simp [first, show other ∈ rest from member])
  · intro owes
    exact booked.accepted (by rw [← owed]; exact owes)
  · rw [ids]
    exact booked.lastRxHopId
  · rw [ids]
    exact booked.lastRxEndId
  · exact booked.answered

theorem booked_serve {id : MsgId} (booked : peer.Booked) (settled : peer.Settled config (.serve id))
    (served : peer.serve config id = some next) : next.Booked := by
  rcases serve_cases booked.running served with ⟨param, rest, handled, first, handles, rfl⟩
  have settles := settled param rest first
  have genuine : param.Genuine := booked.genuine param (by simp [first])
  unfold Settles at settles
  have fitting {entry : StateTableEntry PeerState PeerEvent PeerAction}
      (found : peerStateTable.find peer.state param.event = some entry) :
      Fits entry param.event.bringsRequest ∧ entry.prevState = peer.state := by
    rw [found] at settles
    have row := StateTable.find_sound found
    constructor
    · apply peerStateTable_fits entry row.1 _ _ settles.1
      intro event isEvent
      rw [row.2.2 event isEvent]
    · exact row.2.1
  cases handles with
  | unlisted noRow =>
    rw [noRow] at settles
    exact booked.entered first settles rfl
  | idle entry found noAction =>
    rcases fitting found with ⟨fits, sameState⟩
    unfold Fits at fits
    rw [noAction] at fits
    apply booked.entered first fits.1
    rw [← fits.2.1, sameState]
  | acts entry action found isAction =>
    rcases fitting found with ⟨fits, sameState⟩
    have takesMsg := genuine.takesMsg (StateTable.find_sound found) isAction
    rw [found] at settles
    exact booked.of_books first sameState isAction
      (books_act booked.running takesMsg (settles.2 action isAction)) fits takesMsg

theorem answered_cleanup (current : peer.current = none) (answered : peer.Answered) :
    (peer.cleanup false).Answered := by
  simpa [Answered, cleanup, dropResponder, dropInitiator, current] using answered

theorem booked_perform {input : PeerInput Io Avps} (booked : peer.Booked)
    (possible : input.Possible) (settled : peer.Settled config input)
    (performed : input.perform config peer = some next) :
    next.Booked ∨ (next.crashed = true ∧ next.Answered) := by
  cases performs_perform booked.running possible performed with
  | serve id => exact .inl (booked_serve booked settled performed)
  | others broken =>
    rw [broken]
    exact .inr ⟨(crashed_cleanup booked.current).1,
      answered_cleanup booked.current booked.answered⟩
  | posts _ posted taken post kept =>
    left
    apply booked.posts post
    apply kept
    intro msg isMessage
    rw [isMessage] at settled
    exact settled

theorem booked_run {peer : Peer Io Avps} (run : PeerRun config (Settled config) peer) :
    peer.Booked ∨ (peer.crashed = true ∧ peer.Answered) := by
  induction run with
  | initial => exact .inl booked_initial
  | step input run alive possible settled performed induction =>
    apply booked_perform (induction.resolve_right ?_) possible settled performed
    intro broken
    rw [alive] at broken
    exact absurd broken.1 Bool.false_ne_true

/-- As long as no request is discarded, rejected or forgotten, every answer has the ids
of the request it answers. -/
theorem answers_have_request_ids {config : PeerConfig Avps} {peer : Peer Io Avps}
    (run : PeerRun config (Settled config) peer) :
    ∀ transmission ∈ peer.sendQueue, ∀ request,
      transmission.answers = some request → transmission.msg.id = request :=
  (booked_run run).elim Booked.answered And.right

/-- A host named `a` with a peer named `b`, whose capabilities are accepted. -/
def hostA : PeerConfig Unit where
  identity := [97]
  avps := ()
  validatePeer := fun _ => .success

/-- A message of the peer named `b`. -/
def msgOfB (code : MsgCode) (request : Bool) (id : MsgId) : PeerMsg Unit where
  code := code
  request := request
  id := id
  originHost := [98]
  resultCode := if request then 0 else 2001
  avps := none

theorem answers_have_request_ids_accepted :
    ∃ peer : Peer Nat Unit, PeerRun hostA (Settled hostA) peer ∧
      ∃ transmission ∈ peer.sendQueue, transmission.answers = some ⟨5, 6⟩ ∧
        (transmission.answers = some ⟨5, 6⟩ → transmission.msg.id = ⟨5, 6⟩) := by
  have run : PeerRun hostA (Settled hostA : Peer Nat Unit → _) _ :=
    .step (.serve ⟨0, 0⟩)
      (.step (.incommingConnectionRequest 1 (msgOfB .capabilitiesExchg true ⟨5, 6⟩))
        .initial rfl ⟨rfl, rfl⟩ trivial rfl)
      rfl trivial
      (by
        intro param rest first
        cases first
        exact ⟨by decide, fun action isAction => by cases isAction; trivial⟩)
      rfl
  exact ⟨_, run, _, List.mem_singleton.mpr rfl, rfl,
    answers_have_request_ids run _ (List.mem_singleton.mpr rfl) ⟨5, 6⟩⟩

/-- The loser of an election never answers the CER it accepted, and answers the first
watchdog request with the ids of the CER. -/
theorem answer_with_other_ids :
    ∃ peer : Peer Nat Unit, PeerRun hostA (fun _ _ => True) peer ∧
      ∃ transmission ∈ peer.sendQueue, transmission.answers = some ⟨7, 8⟩ ∧
        transmission.msg.id = ⟨5, 6⟩ := by
  have connected : PeerRun hostA (fun (_ : Peer Nat Unit) _ => True) _ :=
    .step (.serve ⟨1, 1⟩)
      (.step (.connectionRequestAccepted 1)
        (.step (.serve ⟨0, 0⟩) (.step .start .initial rfl trivial trivial rfl)
          rfl trivial trivial rfl)
        rfl trivial trivial rfl)
      rfl trivial trivial rfl
  have lost : PeerRun hostA (fun (_ : Peer Nat Unit) _ => True) _ :=
    .step (.serve ⟨2, 2⟩)
      (.step (.incommingConnectionRequest 2 (msgOfB .capabilitiesExchg true ⟨5, 6⟩))
        connected rfl ⟨rfl, rfl⟩ trivial rfl)
      rfl trivial trivial rfl
  have opened : PeerRun hostA (fun (_ : Peer Nat Unit) _ => True) _ :=
    .step (.serve ⟨3, 3⟩)
      (.step (.message (msgOfB .capabilitiesExchg false ⟨1, 1⟩)) lost rfl trivial trivial rfl)
      rfl trivial trivial rfl
  have answered : PeerRun hostA (fun (_ : Peer Nat Unit) _ => True) _ :=
    .step (.serve ⟨4, 4⟩)
      (.step (.message (msgOfB .watchdog true ⟨7, 8⟩)) opened rfl trivial trivial rfl)
      rfl trivial trivial rfl
  exact ⟨_, answered, _, List.mem_cons_of_mem _ List.mem_cons_self, rfl, rfl⟩

end Peer

end OpenDiameter.Peer
