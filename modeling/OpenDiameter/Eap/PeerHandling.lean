import OpenDiameter.Eap.ServedEvents

/-!
What a peer makes of one message when nothing else is pending: the services that follow on its
reception, until nothing is pending again.
-/

namespace OpenDiameter.Eap

open OpenDiameter.Foundation OpenDiameter.Framework

variable {Method : Type}

/-- A started peer waits for a message. -/
structure Settled (peer : EapPeer Method) : Prop where
  running : peer.running = true
  idle : peer.state = .idle
  notRaised : peer.raised = none
  noJobs : peer.jobs = []
  noMessages : peer.rxQueue = []
  faultless : peer.fault = none

theorem Settled.of_same {peer after : EapPeer Method} (settled : Settled peer)
    (running : after.running = peer.running) (state : after.state = peer.state)
    (raised : after.raised = peer.raised) (jobs : after.jobs = peer.jobs)
    (rxQueue : after.rxQueue = peer.rxQueue) (fault : after.fault = peer.fault) :
    Settled after where
  running := running.trans settled.running
  idle := state.trans settled.idle
  notRaised := raised.trans settled.notRaised
  noJobs := jobs.trans settled.noJobs
  noMessages := rxQueue.trans settled.noMessages
  faultless := fault.trans settled.faultless

/-- The peer once it has received the message and made so many services. -/
def EapPeer.handle (methods : PeerMethods Method) (identity : Option EapOctets) (services : Nat)
    (msg : EapOctets) (peer : EapPeer Method) : EapPeer Method :=
  (EapPeer.serve methods identity)^[services] (peer.receive msg)

/-! The entries that the services meet. -/

section Entries

theorem find_rxMsg : peerStateTable.find .idle .rxMsg =
    some ⟨.idle, some .rxMsg, .received, some .receiveMsg⟩ := rfl

theorem find_sgSuccess : peerStateTable.find .received .sgSuccess =
    some ⟨.received, some .sgSuccess, .success, some .sendSuccess⟩ := rfl

theorem find_sgFailure : peerStateTable.find .received .sgFailure =
    some ⟨.received, some .sgFailure, .failure, some .sendFailure⟩ := rfl

theorem find_sgContMethod : peerStateTable.find .received .sgContMethod =
    some ⟨.received, some .sgContMethod, .method, some .doIntegrityCheck⟩ := rfl

theorem find_sgNewMethod : peerStateTable.find .received .sgNewMethod =
    some ⟨.received, some .sgNewMethod, .getMethod, some .doPolicyCheck⟩ := rfl

theorem find_rxNotification : peerStateTable.find .received .rxNotification =
    some ⟨.received, some .rxNotification, .notification, some .parseNotification⟩ := rfl

theorem find_rxIdentity : peerStateTable.find .received .rxIdentity =
    some ⟨.received, some .rxIdentity, .identity, some .parseIdentity⟩ := rfl

theorem find_otherwise : peerStateTable.find .received .otherwise =
    some ⟨.received, some .otherwise, .discard, some .discard⟩ := rfl

theorem find_sgUserInputFinished : peerStateTable.find .identity .sgUserInputFinished =
    some ⟨.identity, some .sgUserInputFinished, .identity, some .buildIdentity⟩ := rfl

theorem find_identity_uct : peerStateTable.find .identity .uct =
    some ⟨.identity, some .uct, .sendResponse, some .buildResp⟩ := rfl

theorem find_sgNotificationOutputFinished :
    peerStateTable.find .notification .sgNotificationOutputFinished =
      some ⟨.notification, some .sgNotificationOutputFinished, .notification,
        some .buildNotification⟩ := rfl

theorem find_notification_uct : peerStateTable.find .notification .uct =
    some ⟨.notification, some .uct, .sendResponse, some .buildResp⟩ := rfl

theorem find_sgEnterMethod : peerStateTable.find .getMethod .sgEnterMethod =
    some ⟨.getMethod, some .sgEnterMethod, .method, some .doIntegrityCheck⟩ := rfl

theorem find_sgNoEnterMethod : peerStateTable.find .getMethod .sgNoEnterMethod =
    some ⟨.getMethod, some .sgNoEnterMethod, .sendResponse, some .buildNak⟩ := rfl

theorem find_sgValidReq : peerStateTable.find .method .sgValidReq =
    some ⟨.method, some .sgValidReq, .sendResponse, some .buildResp⟩ := rfl

theorem find_sgTunnelEstablished : peerStateTable.find .method .sgTunnelEstablished =
    some ⟨.method, some .sgTunnelEstablished, .tunnelEstablished, some .tunnelEstablished⟩ := rfl

theorem find_tunnelEstablished : peerStateTable.find .tunnelEstablished .sgValidReq =
    some ⟨.tunnelEstablished, some .sgValidReq, .waitTunnelProcess, some .waitTunnelProcess⟩ := rfl

theorem find_waitTunnelProcess : peerStateTable.find .waitTunnelProcess .sgValidReq =
    some ⟨.waitTunnelProcess, some .sgValidReq, .sendResponse, some .buildResp⟩ := rfl

theorem find_discard : peerStateTable.find .discard .uct =
    some ⟨.discard, some .uct, .idle, some .checkRxQueue⟩ := rfl

theorem find_sendResponse : peerStateTable.find .sendResponse .uct =
    some ⟨.sendResponse, some .uct, .idle, some .checkRxQueue⟩ := rfl

end Entries

section Handling

variable {methods : PeerMethods Method} {identity : Option EapOctets} {peer : EapPeer Method}
  {msg : EapOctets}

/-- Nothing happens to a peer by itself. -/
theorem iterate_serve (notRaised : peer.raised = none) (noJobs : peer.jobs = []) (services : Nat) :
    (EapPeer.serve methods identity)^[services] peer = peer := by
  apply Function.iterate_fixed
  rw [EapPeer.serve, notRaised, noJobs]

theorem Settled.iterate (settled : Settled peer) (services : Nat) :
    (EapPeer.serve methods identity)^[services] peer = peer :=
  iterate_serve settled.notRaised settled.noJobs services

theorem EapPeer.handle_add (methods : PeerMethods Method) (identity : Option EapOctets)
    (later services : Nat) (msg : EapOctets) (peer : EapPeer Method) :
    peer.handle methods identity (later + services) msg =
      (EapPeer.serve methods identity)^[later] (peer.handle methods identity services msg) :=
  Function.iterate_add_apply _ later services _

/-- Once it waits again, a peer has done all that it does with the message. -/
theorem Settled.handle_unique {services others : Nat}
    (settled : Settled (peer.handle methods identity services msg))
    (other : Settled (peer.handle methods identity others msg)) :
    peer.handle methods identity services msg = peer.handle methods identity others msg :=
  iterate_unique (settled.iterate 1) (other.iterate 1)

/-- A Request that the peer answers, or that it would if it were of the right type. -/
structure NewRequest (peer : EapPeer Method) (msg : EapOctets) : Prop where
  code : (parseHeader msg).code = codeRequest
  identifier : ¬(peer.receivedFirstRequest = true ∧
    (parseHeader msg).identifier = peer.lastIdentifier)

/-- The peer that has examined a new Request. -/
def EapPeer.examined (msg : EapOctets) (peer : EapPeer Method) : EapPeer Method :=
  { peer with
    rxMessage := some msg
    currentIdentifier := (parseHeader msg).identifier
    receivedFirstRequest := true
    reqMethod := parseType msg }

/-- The peer that has answered, the identifier of the Request being kept. -/
def EapPeer.answered (response : EapOctets) (msg : EapOctets) (peer : EapPeer Method) :
    EapPeer Method :=
  { peer with
    txMessage := some response
    lastIdValidity := true
    lastIdentifier := (parseHeader msg).identifier
    calls := peer.calls ++ [.send response (some msg) false] }

/-- The Nak of a peer to a Request with the identifier. -/
def nakMessage (peer : EapPeer Method) (identifier : UInt8) : EapOctets :=
  let types := peer.policy.makeTypeList [] peer.currentMethod.isVSE
  let nakType := if EapTypeList.isVSE types then EapNakDict.extendedNak else .legacyNak
  writeHeader ⟨codeResponse, identifier⟩ (EapNakParser.parseAppToRaw nakType types)

/-- A type that the policy does not allow is answered by a Nak, whose identifier is not kept. -/
theorem handle_refused (settled : Settled peer) (request : NewRequest peer msg)
    (noMethod : peer.currentMethod = .none) (notNotification : parseType msg ≠ .notification)
    (notIdentity : parseType msg ≠ .identity)
    (refused : peer.policy.allow (parseType msg) = false) :
    peer.handle methods identity 4 msg =
      { peer.examined msg with
        txMessage := some (nakMessage peer (parseHeader msg).identifier)
        lastIdValidity := true
        calls := peer.calls ++
          [.send (nakMessage peer (parseHeader msg).identifier) (some msg) false] } := by
  obtain ⟨running, idle, notRaised, noJobs, noMessages, faultless⟩ := settled
  obtain ⟨code, identifier⟩ := request
  simp [EapPeer.handle, Function.iterate_succ, EapPeer.receive, EapPeer.serve, EapPeer.notify,
    EapPeer.event, EapPeer.perform, EapPeer.raise, running, idle, notRaised, noJobs, noMessages,
    find_rxMsg, EapPeer.receiveMsg, EapPeer.examine, code, identifier, EapPeer.parseRequest,
    noMethod, notNotification, notIdentity, find_sgNewMethod, EapPeer.doPolicyCheck, refused,
    find_sgNoEnterMethod, EapPeer.buildNak, EapPeer.composeResponse, EapPeer.sendResp, nakMessage,
    find_sendResponse, EapPeer.checkRxQueue, EapPeer.examined]

/-- A Request of another type than that of the current method is discarded. -/
theorem handle_discarded (settled : Settled peer) (request : NewRequest peer msg)
    (hasMethod : peer.currentMethod ≠ .none) (notNotification : parseType msg ≠ .notification)
    (otherType : parseType msg ≠ peer.currentMethod) :
    peer.handle methods identity 3 msg =
      { peer.examined msg with discardCount := peer.discardCount + 1 } := by
  obtain ⟨running, idle, notRaised, noJobs, noMessages, faultless⟩ := settled
  obtain ⟨code, identifier⟩ := request
  simp [EapPeer.handle, Function.iterate_succ, EapPeer.receive, EapPeer.serve, EapPeer.notify,
    EapPeer.event, EapPeer.perform, EapPeer.raise, running, idle, notRaised, noJobs, noMessages,
    find_rxMsg, EapPeer.receiveMsg, EapPeer.examine, code, identifier, EapPeer.parseRequest,
    hasMethod, notNotification, otherType, find_otherwise, EapPeer.discard, find_discard,
    EapPeer.checkRxQueue, EapPeer.examined]

variable {response : EapOctets}

/-- What `AcBuildResp` does where it does not look for a method that is not there. -/
theorem buildResp_eq (methods : PeerMethods Method) {peer : EapPeer Method}
    (isTx : peer.txMessage = some response)
    (hasMethod : peer.methodState = .none ∨ peer.methodState = .init ∨ peer.method.isSome = true) :
    ∃ keyData, peer.buildResp methods =
      ({ peer.composeResponse with
        lastIdValidity := true
        lastIdentifier := peer.currentIdentifier
        keyData } : EapPeer Method).sendResp false := by
  rw [EapPeer.buildResp, isTx]
  dsimp only
  split
  · exact ⟨peer.keyData, rfl⟩
  · rename_i beyond
    split
    · rename_i noMethod
      rw [noMethod] at hasMethod
      exact absurd (hasMethod.imp_right fun later => later.resolve_right nofun) beyond
    · split
      · exact ⟨_, rfl⟩
      · exact ⟨peer.keyData, rfl⟩

/-- The event is the only thing that is pending for a peer, and the rest of it is given. -/
inductive OnlyPending (rest : EapPeer Method) (event : PeerEvent) (peer : EapPeer Method) :
    Prop where
  | raised (isPeer : peer = { rest with raised := some event, jobs := [] })
  | queued (isPeer : peer = { rest with raised := none, jobs := [.switch event] })

variable {rest : EapPeer Method} {event : PeerEvent}

theorem OnlyPending.serve (pending : OnlyPending rest event peer) :
    peer.serve methods identity =
      ({ rest with raised := none, jobs := [] } : EapPeer Method).event methods identity event := by
  cases pending with
  | raised isPeer =>
    rw [isPeer]
    rfl
  | queued isPeer =>
    rw [isPeer]
    rfl

/-- The event that is pending leads to an action. -/
theorem OnlyPending.performs {expected : Option PeerEvent} {previous next : PeerState}
    {action : PeerAction} (pending : OnlyPending rest event peer) (running : rest.running = true)
    (found : peerStateTable.find rest.state event = some ⟨previous, expected, next, some action⟩) :
    peer.serve methods identity =
      ({ rest with raised := none, jobs := [], state := next } : EapPeer Method).perform methods
        identity action := by
  rw [pending.serve]
  simp [EapPeer.event, running, found]

/-- A response is sent in two services, and then nothing is pending. -/
theorem serve_buildResp (methods : PeerMethods Method) (identity : Option EapOctets)
    {expected : Option PeerEvent} {previous : PeerState} (pending : OnlyPending rest event peer)
    (running : rest.running = true) (noMessages : rest.rxQueue = [])
    (found : peerStateTable.find rest.state event =
      some ⟨previous, expected, .sendResponse, some .buildResp⟩)
    (isTx : rest.txMessage = some response) (isRx : rest.rxMessage = some msg)
    (isCurrent : rest.currentIdentifier = (parseHeader msg).identifier)
    (hasMethod : rest.methodState = .none ∨ rest.methodState = .init ∨ rest.method.isSome = true) :
    ∃ keyData, (EapPeer.serve methods identity)^[2] peer =
      ({ rest with state := .idle, raised := none, jobs := [], keyData } : EapPeer Method).answered
        (writeHeader ⟨codeResponse, (parseHeader msg).identifier⟩ response) msg := by
  let begun : EapPeer Method := { rest with raised := none, jobs := [], state := .sendResponse }
  have begins : peer.serve methods identity = begun.buildResp methods :=
    pending.performs running found
  have isBegun : begun.txMessage = some response := isTx
  obtain ⟨keyData, built⟩ := buildResp_eq methods isBegun hasMethod
  refine ⟨keyData, ?_⟩
  rw [Function.iterate_succ_apply, begins, built]
  simp [begun, EapPeer.composeResponse, EapPeer.sendResp, isTx, EapPeer.notify, EapPeer.serve,
    EapPeer.event, running, find_sendResponse, EapPeer.perform, EapPeer.checkRxQueue, noMessages,
    EapPeer.answered, isRx, isCurrent]

/-- A Notification is answered and becomes the current method. -/
theorem handle_notification (settled : Settled peer) (request : NewRequest peer msg)
    (isNotification : parseType msg = .notification) (allowed : peer.notificationAllowed = true)
    (text : methods.utf8 (typeData msg) false = true)
    (hasMethod : peer.methodState = .none ∨ peer.methodState = .init ∨ peer.method.isSome = true) :
    ∃ keyData, peer.handle methods identity 5 msg =
      ({ peer.examined msg with
        currentMethod := .notification
        notificationStr := typeData msg
        calls := peer.calls ++ [.notification (typeData msg)]
        keyData } : EapPeer Method).answered
        (writeHeader ⟨codeResponse, (parseHeader msg).identifier⟩ (writeType .notification))
        msg := by
  obtain ⟨running, idle, notRaised, noJobs, noMessages, faultless⟩ := settled
  obtain ⟨code, identifier⟩ := request
  let built : EapPeer Method :=
    { peer.examined msg with
      state := .notification
      currentMethod := .notification
      notificationStr := typeData msg
      calls := peer.calls ++ [.notification (typeData msg)]
      txMessage := some (writeType .notification) }
  have builds : peer.handle methods identity 3 msg = { built with raised := some .uct, jobs := [] } := by
    simp [EapPeer.handle, Function.iterate_succ, EapPeer.receive, EapPeer.serve, EapPeer.notify,
      EapPeer.event, EapPeer.perform, running, idle, notRaised, noJobs, noMessages,
      find_rxMsg, EapPeer.receiveMsg, EapPeer.examine, code, identifier, EapPeer.parseRequest,
      isNotification, allowed, find_rxNotification, EapPeer.parseNotification, text,
      find_sgNotificationOutputFinished, EapPeer.buildNotification, EapPeer.examined, built]
  obtain ⟨keyData, answers⟩ := serve_buildResp methods identity
    (show OnlyPending built .uct _ from .raised rfl) running noMessages
    find_notification_uct rfl rfl rfl hasMethod
  refine ⟨keyData, ?_⟩
  rw [EapPeer.handle, Function.iterate_add_apply _ 2 3, ← EapPeer.handle, builds, answers]
  simp [EapPeer.answered, EapPeer.examined, idle, notRaised, noJobs, built]

/-- Before there is a method the identity of the peer is answered. -/
theorem handle_identity {text : EapOctets} (settled : Settled peer) (request : NewRequest peer msg)
    (isIdentity : parseType msg = .identity) (noMethod : peer.currentMethod = .none)
    (request_utf8 : methods.utf8 (typeData msg) false = true)
    (response_utf8 : methods.utf8 text true = true)
    (hasMethod : peer.methodState = .none ∨ peer.methodState = .init ∨ peer.method.isSome = true) :
    ∃ keyData, peer.handle methods (some text) 5 msg =
      ({ peer.examined msg with
        authenticatorIdentity := typeData msg
        peerIdentity := text
        keyData } : EapPeer Method).answered
        (writeHeader ⟨codeResponse, (parseHeader msg).identifier⟩ (writeType .identity ++ text))
        msg := by
  obtain ⟨running, idle, notRaised, noJobs, noMessages, faultless⟩ := settled
  obtain ⟨code, identifier⟩ := request
  let built : EapPeer Method :=
    { peer.examined msg with
      state := .identity
      authenticatorIdentity := typeData msg
      peerIdentity := text
      txMessage := some (writeType .identity ++ text)
      lastIdValidity := true }
  have other : EapType.identity ≠ .notification := by decide
  have builds :
      peer.handle methods (some text) 3 msg = { built with raised := some .uct, jobs := [] } := by
    simp [EapPeer.handle, Function.iterate_succ, EapPeer.receive, EapPeer.serve, EapPeer.notify,
      EapPeer.event, EapPeer.perform, EapPeer.raise, running, idle, notRaised, noJobs, noMessages,
      find_rxMsg, EapPeer.receiveMsg, EapPeer.examine, code, identifier, EapPeer.parseRequest,
      isIdentity, other, noMethod, find_rxIdentity, EapPeer.parseIdentity, request_utf8,
      EapPeer.inputIdentity, find_sgUserInputFinished, EapPeer.buildIdentity, response_utf8,
      EapPeer.examined, built]
  obtain ⟨keyData, answers⟩ := serve_buildResp methods (some text)
    (show OnlyPending built .uct _ from .raised rfl) running noMessages
    find_identity_uct rfl rfl rfl hasMethod
  refine ⟨keyData, ?_⟩
  rw [EapPeer.handle, Function.iterate_add_apply _ 2 3, ← EapPeer.handle, builds, answers]
  simp [EapPeer.answered, EapPeer.examined, idle, notRaised, noJobs, built]

/-- How far the method of a peer has come, and what it has told the switch. -/
structure MethodCourse (Method : Type) where
  method : Method
  inner : Option Method
  decision : PeerDecision
  methodState : PeerMethodState

def MethodCourse.told (reply : PeerReply) (course : MethodCourse Method) : MethodCourse Method :=
  { course with
    decision := reply.decision.getD course.decision
    methodState := reply.methodState.getD course.methodState }

def EapPeer.withCourse (course : MethodCourse Method) (peer : EapPeer Method) : EapPeer Method :=
  { peer with
    method := some course.method
    innerMethod := course.inner
    decision := course.decision
    methodState := course.methodState }

/-- The method has a response to the Request, by itself or once its inner method has one. -/
inductive MethodAnswers (methods : PeerMethods Method) (msg : EapOctets)
    (course : MethodCourse Method) : EapOctets → MethodCourse Method → Prop where
  | direct {served : Method × PeerReply} {response : EapOctets} {queued : Bool}
      (serves : methods.serve .sgIntegrityCheck (some msg) (parseHeader msg).identifier
        course.method = served)
      (valid : served.2.outcome = .valid response queued) :
      MethodAnswers methods msg course response
        (({ course with method := served.1 } : MethodCourse Method).told served.2)
  | tunnelled {inner : Method} {opened served closed : Method × PeerReply}
      {innerResponse response : EapOctets} {queued innerQueued lastQueued : Bool}
      (opens : methods.serve .sgIntegrityCheck (some msg) (parseHeader msg).identifier
        course.method = opened)
      (established : opened.2.outcome = .tunnelEstablished queued)
      (hasInner : course.inner = some inner)
      (serves : methods.serve .sgIntegrityCheck (some msg) (parseHeader msg).identifier
        inner = served)
      (innerValid : served.2.outcome = .valid innerResponse innerQueued)
      (closes : methods.serve .sgTunnelProcess (some msg) (parseHeader msg).identifier
        opened.1 = closed)
      (valid : closed.2.outcome = .valid response lastQueued) :
      MethodAnswers methods msg course response
        ((((({ course with
          method := closed.1
          inner := some served.1 } : MethodCourse Method).told opened.2).told served.2).told
          closed.2))

/-- The switch once a method has told it something, but for the event that is passed to it. -/
def EapPeer.told (reply : PeerReply) (peer : EapPeer Method) : EapPeer Method :=
  { peer with
    decision := reply.decision.getD peer.decision
    methodState := reply.methodState.getD peer.methodState }

theorem reply_valid {reply : PeerReply} {queued : Bool} (notRaised : peer.raised = none)
    (noJobs : peer.jobs = []) (valid : reply.outcome = .valid response queued) :
    OnlyPending { peer.told reply with txMessage := some ([0, 0, 0, 0] ++ response) } .sgValidReq
      (peer.reply reply) := by
  rw [EapPeer.reply, valid]
  cases queued with
  | false =>
    apply OnlyPending.raised
    simp [EapPeer.raise, EapPeer.told, noJobs]
  | true =>
    apply OnlyPending.queued
    simp [EapPeer.notify, EapPeer.told, noJobs, notRaised]

theorem reply_tunnelEstablished {reply : PeerReply} {queued : Bool}
    (notRaised : peer.raised = none) (noJobs : peer.jobs = [])
    (established : reply.outcome = .tunnelEstablished queued) :
    OnlyPending (peer.told reply) .sgTunnelEstablished (peer.reply reply) := by
  rw [EapPeer.reply, established]
  cases queued with
  | false =>
    apply OnlyPending.raised
    simp [EapPeer.raise, EapPeer.told, noJobs]
  | true =>
    apply OnlyPending.queued
    simp [EapPeer.notify, EapPeer.told, noJobs, notRaised]

theorem serve_method {event : EapMethodEvent} {method : Method} {served : Method × PeerReply}
    (notRaised : peer.raised = none) (jobs : peer.jobs = [.method event])
    (hasMethod : peer.method = some method)
    (serves : methods.serve event peer.rxMessage peer.currentIdentifier method = served) :
    peer.serve methods identity =
      ({ peer with jobs := [], method := some served.1 } : EapPeer Method).reply served.2 := by
  rw [← serves]
  simp [EapPeer.serve, notRaised, jobs, EapPeer.serveMethod, hasMethod]

theorem serve_innerMethod {event : EapMethodEvent} {inner : Method} {served : Method × PeerReply}
    (notRaised : peer.raised = none) (jobs : peer.jobs = [.innerMethod event])
    (hasInner : peer.innerMethod = some inner)
    (serves : methods.serve event peer.rxMessage peer.currentIdentifier inner = served) :
    peer.serve methods identity =
      ({ peer with jobs := [], innerMethod := some served.1 } : EapPeer Method).reply served.2 := by
  rw [← serves]
  simp [EapPeer.serve, notRaised, jobs, EapPeer.serveInnerMethod, hasInner]

/-- The peer has passed a Request to its method. -/
structure PassedOn (peer : EapPeer Method) (msg : EapOctets) : Prop where
  running : peer.running = true
  state : peer.state = .method
  notRaised : peer.raised = none
  jobs : peer.jobs = [.method .sgIntegrityCheck]
  noMessages : peer.rxQueue = []
  rxMessage : peer.rxMessage = some msg
  identifier : peer.currentIdentifier = (parseHeader msg).identifier

/-- What a method responds to a Request is sent. -/
theorem PassedOn.answers {course after : MethodCourse Method}
    (passedOn : PassedOn (peer.withCourse course) msg)
    (methodAnswers : MethodAnswers methods msg course response after) :
    ∃ services keyData,
      (EapPeer.serve methods identity)^[services] (peer.withCourse course) =
        ({ peer.withCourse after with state := .idle, jobs := [], keyData } :
          EapPeer Method).answered
          (writeHeader ⟨codeResponse, (parseHeader msg).identifier⟩ ([0, 0, 0, 0] ++ response))
          msg := by
  obtain ⟨running, state, notRaised, jobs, noMessages, isRx, identifier⟩ := passedOn
  cases methodAnswers with
  | @direct served response queued serves valid =>
    let begun : EapPeer Method :=
      { peer.withCourse course with jobs := [], method := some served.1 }
    have first : (peer.withCourse course).serve methods identity = begun.reply served.2 :=
      serve_method notRaised jobs rfl (by rw [isRx, identifier]; exact serves)
    have pending := @reply_valid _ begun _ _ _ notRaised rfl valid
    obtain ⟨keyData, sends⟩ := serve_buildResp methods identity pending running noMessages
      (state ▸ find_sgValidReq) rfl isRx identifier (.inr (.inr rfl))
    refine ⟨3, keyData, ?_⟩
    rw [Function.iterate_succ_apply, first, sends]
    have quiet : peer.raised = none := notRaised
    simp [EapPeer.answered, begun, EapPeer.told, MethodCourse.told, EapPeer.withCourse, quiet]
  | @tunnelled inner opened served closed innerResponse response _ _ _ opens established hasInner
      serves innerValid closes valid =>
      let begun : EapPeer Method :=
        { peer.withCourse course with jobs := [], method := some opened.1 }
      have first : (peer.withCourse course).serve methods identity = begun.reply opened.2 :=
        serve_method notRaised jobs rfl (by rw [isRx, identifier]; exact opens)
      have toTunnel := @reply_tunnelEstablished _ begun _ _ notRaised rfl established
      let tunnel : EapPeer Method :=
        { begun.told opened.2 with
          state := .tunnelEstablished
          jobs := [.innerMethod .sgIntegrityCheck] }
      have second : (begun.reply opened.2).serve methods identity = tunnel := by
        have found : peerStateTable.find (begun.told opened.2).state .sgTunnelEstablished = _ :=
          state ▸ find_sgTunnelEstablished
        have isInner : (begun.told opened.2).innerMethod = some inner := hasInner
        have quiet : (begun.told opened.2).raised = none := notRaised
        rw [toTunnel.performs running found]
        simp [EapPeer.perform, EapPeer.tunnelEstablished, isInner, tunnel, quiet]
      let opening : EapPeer Method := { tunnel with jobs := [], innerMethod := some served.1 }
      have third : tunnel.serve methods identity = opening.reply served.2 := by
        have quiet : tunnel.raised = none := notRaised
        have isRequest : tunnel.rxMessage = some msg := isRx
        have isCurrent : tunnel.currentIdentifier = (parseHeader msg).identifier := identifier
        apply serve_innerMethod quiet rfl hasInner
        rw [isRequest, isCurrent]
        exact serves
      have toWait := @reply_valid _ opening _ _ _ notRaised rfl innerValid
      let waiting : EapPeer Method :=
        { opening.told served.2 with
          state := .waitTunnelProcess
          txMessage := some (writeHeader ⟨codeResponse, (parseHeader msg).identifier⟩
            ([0, 0, 0, 0] ++ innerResponse))
          jobs := [.method .sgTunnelProcess] }
      have fourth : (opening.reply served.2).serve methods identity = waiting := by
        have isMethod : (opening.told served.2).method = some opened.1 := rfl
        have quiet : (opening.told served.2).raised = none := notRaised
        have isCurrent : (opening.told served.2).currentIdentifier =
          (parseHeader msg).identifier := identifier
        rw [toWait.performs running find_tunnelEstablished]
        simp [EapPeer.perform, EapPeer.waitTunnelProcess, EapPeer.composeResponse, isMethod,
          waiting, quiet, isCurrent]
      let closing : EapPeer Method := { waiting with jobs := [], method := some closed.1 }
      have fifth : waiting.serve methods identity = closing.reply closed.2 := by
        have quiet : waiting.raised = none := notRaised
        have isRequest : waiting.rxMessage = some msg := isRx
        have isCurrent : waiting.currentIdentifier = (parseHeader msg).identifier := identifier
        apply serve_method quiet rfl rfl
        rw [isRequest, isCurrent]
        exact closes
      have pending := @reply_valid _ closing _ _ _ notRaised rfl valid
      obtain ⟨keyData, sends⟩ := serve_buildResp methods identity pending running noMessages
        find_waitTunnelProcess rfl isRx identifier (.inr (.inr rfl))
      refine ⟨7, keyData, ?_⟩
      rw [Function.iterate_succ_apply, first, Function.iterate_succ_apply, second,
        Function.iterate_succ_apply, third, Function.iterate_succ_apply, fourth,
        Function.iterate_succ_apply, fifth, sends]
      have quiet : peer.raised = none := notRaised
      simp [EapPeer.answered, closing, waiting, opening, tunnel, begun, EapPeer.told,
        MethodCourse.told, EapPeer.withCourse, quiet]

/-- The methods that are created for a new method, where an inner one may be left from before. -/
inductive Creates (methods : PeerMethods Method) (type innerType : EapType)
    (before : Option Method) : Method → Option Method → Prop where
  | alone {method : Method} (isMethod : methods.create type = some method)
      (noInner : innerType = .none) : Creates methods type innerType before method before
  | withInner {method inner : Method} (isMethod : methods.create type = some method)
      (hasInner : innerType ≠ .none) (isInner : methods.create innerType = some inner) :
      Creates methods type innerType before method (some inner)

/-- The peer that has entered a method. -/
def EapPeer.entered (course : MethodCourse Method) (msg : EapOctets) (peer : EapPeer Method) :
    EapPeer Method :=
  ({ peer.examined msg with
    state := .method
    jobs := [.method .sgIntegrityCheck]
    currentMethod := parseType msg } : EapPeer Method).withCourse course

/-- The first Request of a method that the policy allows enters it. -/
theorem handle_enters {method : Method} {inner : Option Method} (settled : Settled peer)
    (request : NewRequest peer msg) (noMethod : peer.currentMethod = .none)
    (notRunning : peer.method = none) (notNotification : parseType msg ≠ .notification)
    (notIdentity : parseType msg ≠ .identity)
    (allowed : peer.policy.allow (parseType msg) = true)
    (creates : Creates methods (parseType msg) peer.policy.innerEapMethodType peer.innerMethod
      method inner) :
    (peer.handle methods identity 2 msg).raised = some .sgEnterMethod ∧
      peer.handle methods identity 3 msg =
        peer.entered ⟨method, inner, peer.decision, .init⟩ msg := by
  obtain ⟨running, idle, notRaised, noJobs, noMessages, faultless⟩ := settled
  obtain ⟨code, identifier⟩ := request
  let entering : EapPeer Method :=
    { peer.examined msg with
      state := .getMethod
      raised := some .sgEnterMethod
      currentMethod := parseType msg
      method := some method
      innerMethod := inner
      methodState := .init }
  have second : peer.handle methods identity 2 msg = entering := by
    cases creates with
    | alone isMethod noInner =>
      simp [EapPeer.handle, Function.iterate_succ, EapPeer.receive, EapPeer.serve,
        EapPeer.notify, EapPeer.event, EapPeer.perform, EapPeer.raise, running, idle, notRaised,
        noJobs, noMessages, find_rxMsg, EapPeer.receiveMsg, EapPeer.examine, code, identifier,
        EapPeer.parseRequest, noMethod, notNotification, notIdentity, find_sgNewMethod,
        EapPeer.doPolicyCheck, allowed, EapPeer.deleteMethod, notRunning, EapPeer.createMethod,
        isMethod, noInner, EapPeer.examined, entering]
    | withInner isMethod hasInner isInner =>
      simp [EapPeer.handle, Function.iterate_succ, EapPeer.receive, EapPeer.serve,
        EapPeer.notify, EapPeer.event, EapPeer.perform, EapPeer.raise, running, idle, notRaised,
        noJobs, noMessages, find_rxMsg, EapPeer.receiveMsg, EapPeer.examine, code, identifier,
        EapPeer.parseRequest, noMethod, notNotification, notIdentity, find_sgNewMethod,
        EapPeer.doPolicyCheck, allowed, EapPeer.deleteMethod, notRunning, EapPeer.createMethod,
        isMethod, hasInner, isInner, EapPeer.examined, entering]
  rw [second, EapPeer.handle, Function.iterate_succ_apply', ← EapPeer.handle, second]
  refine ⟨rfl, ?_⟩
  simp [entering, EapPeer.serve, EapPeer.event, EapPeer.examined, running, find_sgEnterMethod,
    EapPeer.perform, EapPeer.doIntegrityCheck, noJobs, EapPeer.entered, EapPeer.withCourse,
    notRaised]

/-- A later Request of the method that is running is passed on to it. -/
theorem handle_continues {course : MethodCourse Method} (settled : Settled (peer.withCourse course))
    (request : NewRequest (peer.withCourse course) msg) (hasMethod : peer.currentMethod ≠ .none)
    (sameType : parseType msg = peer.currentMethod) (notNotification : parseType msg ≠ .notification)
    (notDone : course.methodState ≠ .done) :
    (peer.withCourse course).handle methods identity 2 msg =
      ({ peer.examined msg with
        state := .method
        jobs := [.method .sgIntegrityCheck] } : EapPeer Method).withCourse course := by
  obtain ⟨running, idle, notRaised, noJobs, noMessages, faultless⟩ := settled
  obtain ⟨code, identifier⟩ := request
  simp only [EapPeer.withCourse] at running idle notRaised noJobs noMessages identifier
  rw [sameType] at notNotification
  simp [EapPeer.handle, Function.iterate_succ, EapPeer.receive, EapPeer.serve, EapPeer.notify,
    EapPeer.event, EapPeer.perform, EapPeer.raise, EapPeer.withCourse, running, idle, notRaised,
    noJobs, noMessages, find_rxMsg, EapPeer.receiveMsg, EapPeer.examine, code, identifier,
    EapPeer.parseRequest, hasMethod, notNotification, sameType, notDone, find_sgContMethod,
    EapPeer.doIntegrityCheck, EapPeer.examined]

theorem success_not_request : codeSuccess ≠ codeRequest := by decide

/-- A Success is accepted where the decision is not to fail. -/
theorem handle_success (settled : Settled peer) (isSuccess : (parseHeader msg).code = codeSuccess)
    (decided : peer.decision ≠ .fail) :
    (peer.handle methods identity 2 msg).calls = peer.calls ++ [.success] := by
  obtain ⟨running, idle, notRaised, noJobs, noMessages, faultless⟩ := settled
  simp [EapPeer.handle, Function.iterate_succ, EapPeer.receive, EapPeer.serve, EapPeer.notify,
    EapPeer.event, EapPeer.perform, EapPeer.raise, running, idle, notRaised, noJobs, noMessages,
    find_rxMsg, EapPeer.receiveMsg, EapPeer.examine, isSuccess, success_not_request,
    EapPeer.checkSuccessCondition, decided, find_sgSuccess, EapPeer.sendSuccess]

/-- Where the decision is to fail and no method goes on, the session fails. -/
theorem handle_success_two (settled : Settled peer)
    (isSuccess : (parseHeader msg).code = codeSuccess) (decided : peer.decision = .fail)
    (ended : peer.methodState ≠ .cont) :
    peer.handle methods identity 2 msg =
      { peer with
        state := .failure
        rxMessage := some msg
        calls := peer.calls ++ [.failure] } := by
  obtain ⟨running, idle, notRaised, noJobs, noMessages, faultless⟩ := settled
  simp [EapPeer.handle, Function.iterate_succ, EapPeer.receive, EapPeer.serve, EapPeer.notify,
    EapPeer.event, EapPeer.perform, EapPeer.raise, running, idle, notRaised, noJobs, noMessages,
    find_rxMsg, EapPeer.receiveMsg, EapPeer.examine, isSuccess, success_not_request,
    EapPeer.checkSuccessCondition, decided, ended, find_sgFailure, EapPeer.sendFailure]

/-- And it stays so: there is no success. -/
theorem handle_success_fails (settled : Settled peer)
    (isSuccess : (parseHeader msg).code = codeSuccess) (decided : peer.decision = .fail)
    (ended : peer.methodState ≠ .cont) (services : Nat) :
    (peer.handle methods identity services msg).calls ≠ peer.calls ++ [.success] := by
  have two := @handle_success_two _ methods identity _ _ settled isSuccess decided ended
  obtain ⟨running, idle, notRaised, noJobs, noMessages, faultless⟩ := settled
  match services with
  | 0 =>
    rw [Ne, EapPeer.handle, Function.iterate_zero_apply]
    exact fun same => nomatch List.self_eq_append_right.mp same
  | 1 =>
    have one : (peer.handle methods identity 1 msg).calls = peer.calls := by
      simp [EapPeer.handle, EapPeer.receive, EapPeer.serve, EapPeer.notify, EapPeer.event,
        EapPeer.perform, EapPeer.raise, running, idle, notRaised, noJobs, noMessages,
        find_rxMsg, EapPeer.receiveMsg, EapPeer.examine, isSuccess, success_not_request,
        EapPeer.checkSuccessCondition, decided, ended]
    rw [one]
    exact fun same => nomatch List.self_eq_append_right.mp same
  | later + 2 =>
    have stays := @iterate_serve _ methods identity
      { peer with
        state := .failure
        rxMessage := some msg
        calls := peer.calls ++ [.failure] } notRaised noJobs later
    rw [EapPeer.handle_add, two, stays]
    simp

end Handling

end OpenDiameter.Eap
