import OpenDiameter.Eap.Policy
import OpenDiameter.Foundation.Transitions
import OpenDiameter.Framework.StateTable

/-!
`EapPeerSwitchStateMachine`: its actions, its state table and how it and the methods it runs are
served. The methods are a parameter.
-/

namespace OpenDiameter.Eap

open OpenDiameter.Foundation OpenDiameter.Framework

/-- What ends the thread or the process. -/
inductive EapFault where
  /-- A dequeue from an empty queue waits for ever. -/
  | blocked
  /-- The callback `Abort`, which exits the program. -/
  | aborted
  | nullPointer
  /-- A job of a method that was deleted. -/
  | danglingJob
  deriving DecidableEq, Repr

/-- The events that a switch passes to a method. -/
inductive EapMethodEvent where
  | sgIntegrityCheck
  | sgTunnelProcess
  deriving DecidableEq, Repr

/-- What is in the queue of `EapJobMultiplexor`: an event of the switch or of a method. -/
inductive EapJob (Event : Type) where
  | switch (event : Event)
  | method (event : EapMethodEvent)
  | innerMethod (event : EapMethodEvent)
  deriving DecidableEq, Repr

inductive PeerDecision where
  | fail
  | condSucc
  | uncondSucc
  deriving DecidableEq, Repr

inductive PeerMethodState where
  | none
  | init
  | cont
  | mayCont
  | done
  deriving DecidableEq, Repr

inductive PeerState where
  | disabled
  /-- `StInitialize` -/
  | initializing
  | idle
  | received
  | method
  | getMethod
  | discard
  | retransmit
  | sendResponse
  | identity
  | notification
  | success
  | failure
  | tunnelEstablished
  | waitTunnelProcess
  deriving DecidableEq, Repr

inductive PeerEvent where
  | rxMsg
  | sgPortEnabled
  | sgValidReq
  | sgInvalidReq
  | sgTunnelEstablished
  | uct
  | sgNewMethod
  | sgContMethod
  | sgEnterMethod
  | sgNoEnterMethod
  | sgSuccess
  | sgFailure
  | sgRetransmit
  | sgUserInputFinished
  | sgNotificationOutputFinished
  | rxNotification
  | rxIdentity
  /-- `EvElse` -/
  | otherwise
  /-- `EvTo` -/
  | timeout
  /-- `EvToCheckIdentity` -/
  | timeoutCheckIdentity
  deriving DecidableEq, Repr

inductive PeerAction where
  /-- `AcInitialize` -/
  | initializing
  | retransmit
  | checkTimeoutCondition
  | sendSuccess
  | sendFailure
  | buildResp
  | doIntegrityCheck
  | doPolicyCheck
  | discard
  | buildNak
  | parseNotification
  | buildNotification
  | parseIdentity
  | buildIdentity
  | startTimer
  | checkRxQueue
  | receiveMsg
  | checkIdentity
  | tunnelEstablished
  | waitTunnelProcess
  deriving DecidableEq, Repr

/-- `EapPeerSwitchStateTable_S` -/
def peerStateTable : StateTable PeerState PeerEvent PeerAction :=
  [⟨.disabled, some .sgPortEnabled, .initializing, some .initializing⟩,
    ⟨.initializing, some .uct, .idle, some .startTimer⟩,
    ⟨.idle, some .rxMsg, .received, some .receiveMsg⟩,
    ⟨.idle, some .timeout, .idle, some .checkTimeoutCondition⟩,
    ⟨.idle, some .sgSuccess, .success, some .sendSuccess⟩,
    ⟨.idle, some .sgFailure, .failure, some .sendFailure⟩,
    ⟨.received, some .sgSuccess, .success, some .sendSuccess⟩,
    ⟨.received, some .sgFailure, .failure, some .sendFailure⟩,
    ⟨.received, some .sgRetransmit, .retransmit, some .retransmit⟩,
    ⟨.received, some .sgContMethod, .method, some .doIntegrityCheck⟩,
    ⟨.received, some .sgNewMethod, .getMethod, some .doPolicyCheck⟩,
    ⟨.received, some .rxNotification, .notification, some .parseNotification⟩,
    ⟨.received, some .rxIdentity, .identity, some .parseIdentity⟩,
    ⟨.received, some .otherwise, .discard, some .discard⟩,
    ⟨.identity, some .sgUserInputFinished, .identity, some .buildIdentity⟩,
    ⟨.identity, some .uct, .sendResponse, some .buildResp⟩,
    ⟨.identity, some .timeout, .failure, some .sendFailure⟩,
    ⟨.identity, some .timeoutCheckIdentity, .identity, some .checkIdentity⟩,
    ⟨.identity, none, .identity, none⟩,
    ⟨.notification, some .sgNotificationOutputFinished, .notification, some .buildNotification⟩,
    ⟨.notification, some .uct, .sendResponse, some .buildResp⟩,
    ⟨.notification, some .timeout, .failure, some .sendFailure⟩,
    ⟨.notification, some .otherwise, .discard, some .discard⟩,
    ⟨.notification, none, .identity, none⟩,
    ⟨.getMethod, some .sgEnterMethod, .method, some .doIntegrityCheck⟩,
    ⟨.getMethod, some .sgNoEnterMethod, .sendResponse, some .buildNak⟩,
    ⟨.getMethod, none, .getMethod, none⟩,
    ⟨.method, some .sgValidReq, .sendResponse, some .buildResp⟩,
    ⟨.method, some .sgInvalidReq, .discard, some .discard⟩,
    ⟨.method, some .sgFailure, .failure, some .sendFailure⟩,
    ⟨.method, some .sgTunnelEstablished, .tunnelEstablished, some .tunnelEstablished⟩,
    ⟨.tunnelEstablished, some .sgValidReq, .waitTunnelProcess, some .waitTunnelProcess⟩,
    ⟨.waitTunnelProcess, some .sgValidReq, .sendResponse, some .buildResp⟩,
    ⟨.method, some .timeout, .method, some .checkTimeoutCondition⟩,
    ⟨.method, some .sgSuccess, .success, some .sendSuccess⟩,
    ⟨.method, none, .method, none⟩,
    ⟨.discard, some .uct, .idle, some .checkRxQueue⟩,
    ⟨.success, some .rxMsg, .success, some .receiveMsg⟩,
    ⟨.success, none, .success, none⟩,
    ⟨.failure, some .rxMsg, .failure, some .receiveMsg⟩,
    ⟨.failure, none, .failure, none⟩,
    ⟨.retransmit, some .uct, .sendResponse, none⟩,
    ⟨.sendResponse, some .uct, .idle, some .checkRxQueue⟩]

/-- What a method of the peer tells the switch, and whether by an event that is served at once
or by one that is queued. -/
inductive PeerOutcome where
  | none
  | valid (response : EapOctets) (queued : Bool)
  | invalid (queued : Bool)
  | tunnelEstablished (queued : Bool)
  deriving DecidableEq, Repr

structure PeerReply where
  decision : Option PeerDecision := none
  methodState : Option PeerMethodState := none
  outcome : PeerOutcome
  deriving DecidableEq, Repr

/-- The methods of the peer: the table of their creators, and what one of them does with an
event, the Request and its identifier being those of the switch. -/
structure PeerMethods (Method : Type) where
  create : EapType → Option Method
  serve : EapMethodEvent → (request : Option EapOctets) → (identifier : UInt8) → Method →
    Method × PeerReply
  keyData : Method → EapOctets
  /-- `UTF8Checker`, with or without the check for a null character. -/
  utf8 : EapOctets → (nullCheck : Bool) → Bool

/-- What the application is told. A Response is kept with the Request that it was sent for, and
with whether it was sent before. -/
inductive PeerCall where
  | send (response : EapOctets) (request : Option EapOctets) (cached : Bool)
  | success
  | failure
  | notification (text : EapOctets)
  deriving DecidableEq, Repr

/-- The decision, the last identifier and the last Request's method are not initialized. -/
structure EapPeer (Method : Type) where
  policy : EapPolicy
  decision : PeerDecision
  lastIdentifier : UInt8
  running : Bool := false
  state : PeerState := .disabled
  /-- The event that the last action passed to the machine itself, to be served next. -/
  raised : Option PeerEvent := none
  jobs : List (EapJob PeerEvent) := []
  rxQueue : List EapOctets := []
  currentMethod : EapType := .none
  reqMethod : EapType := .none
  currentIdentifier : UInt8 := 0
  lastIdValidity : Bool := false
  receivedFirstRequest : Bool := false
  notificationAllowed : Bool := false
  methodState : PeerMethodState := .none
  method : Option Method := none
  innerMethod : Option Method := none
  rxMessage : Option EapOctets := none
  txMessage : Option EapOctets := none
  keyData : EapOctets := []
  keyAvailable : Bool := false
  peerIdentity : EapOctets := []
  authenticatorIdentity : EapOctets := []
  notificationStr : EapOctets := []
  discardCount : Nat := 0
  /-- The calls since the start. -/
  calls : List PeerCall := []
  fault : Option EapFault := none

namespace EapPeer

variable {Method : Type}

def raise (event : PeerEvent) (peer : EapPeer Method) : EapPeer Method :=
  { peer with raised := some event }

def notify (event : PeerEvent) (peer : EapPeer Method) : EapPeer Method :=
  { peer with jobs := peer.jobs ++ [.switch event] }

def stop (fault : EapFault) (peer : EapPeer Method) : EapPeer Method :=
  { peer with fault := some fault }

/-- `SubAcSendResp` -/
def sendResp (cached : Bool) (peer : EapPeer Method) : EapPeer Method :=
  match peer.txMessage with
  | none => peer.stop .nullPointer
  | some msg =>
    { peer.notify .uct with calls := peer.calls ++ [.send msg peer.rxMessage cached] }

/-- `SubAcCheckSuccessCondition` -/
def checkSuccessCondition (peer : EapPeer Method) : EapPeer Method :=
  if peer.decision ≠ .fail then peer.raise .sgSuccess
  else if peer.methodState ≠ .cont then peer.raise .sgFailure
  else peer.raise .otherwise

/-- `SubAcCheckFailureCondition` -/
def checkFailureCondition (peer : EapPeer Method) : EapPeer Method :=
  if peer.methodState ≠ .cont ∧ peer.decision ≠ .uncondSucc then peer.raise .sgFailure
  else peer.raise .otherwise

/-- `SubAcParseRequest` -/
def parseRequest (msg : EapOctets) (peer : EapPeer Method) : EapPeer Method :=
  let type := parseType msg
  let peer := { peer with reqMethod := type }
  if type = .notification then
    if peer.notificationAllowed = false then peer.raise .otherwise
    else { peer with currentMethod := type, raised := some .rxNotification }
  else if peer.currentMethod = .none ∧ type = .identity then peer.raise .rxIdentity
  else if peer.currentMethod = .none then peer.raise .sgNewMethod
  else if type = peer.currentMethod ∧ peer.methodState ≠ .done then peer.raise .sgContMethod
  else peer.raise .otherwise

/-- `AcReceiveMsg` with the message that it dequeued. -/
def examine (msg : EapOctets) (peer : EapPeer Method) : EapPeer Method :=
  let header := parseHeader msg
  if header.code = codeRequest then
    if peer.receivedFirstRequest = true ∧ header.identifier = peer.lastIdentifier then
      if peer.lastIdValidity then peer.raise .sgRetransmit else peer.raise .otherwise
    else
      ({ peer with
        currentIdentifier := header.identifier
        receivedFirstRequest := true } : EapPeer Method).parseRequest msg
  else if header.code = codeSuccess then peer.checkSuccessCondition
  else if header.code = codeFailure then peer.checkFailureCondition
  else peer.raise .otherwise

/-- `AcReceiveMsg` -/
def receiveMsg (peer : EapPeer Method) : EapPeer Method :=
  match peer.rxQueue with
  | [] => peer.stop .blocked
  | msg :: rest => ({ peer with rxQueue := rest, rxMessage := some msg }).examine msg

/-- `AcCheckRxQueue` -/
def checkRxQueue (peer : EapPeer Method) : EapPeer Method :=
  if 0 < peer.rxQueue.length then peer.raise .rxMsg else peer

/-- `AcInitialize` -/
def initializing (peer : EapPeer Method) : EapPeer Method :=
  { peer with notificationAllowed := true, methodState := .none, raised := some .uct }

def retransmit (peer : EapPeer Method) : EapPeer Method :=
  (peer.sendResp true).raise .uct

def checkTimeoutCondition (peer : EapPeer Method) : EapPeer Method :=
  if peer.policy.isSatisfied ∧ peer.decision = .condSucc then peer.raise .sgSuccess
  else peer.raise .sgFailure

def sendSuccess (peer : EapPeer Method) : EapPeer Method :=
  { peer with
    keyAvailable := peer.keyAvailable || decide (0 < peer.keyData.length)
    calls := peer.calls ++ [.success] }

def sendFailure (peer : EapPeer Method) : EapPeer Method :=
  { peer with calls := peer.calls ++ [.failure] }

def discard (peer : EapPeer Method) : EapPeer Method :=
  { peer with discardCount := peer.discardCount + 1, raised := some .uct }

/-- The header is written into the message that is to be sent. -/
def composeResponse (peer : EapPeer Method) : EapPeer Method :=
  { peer with txMessage := peer.txMessage.map (writeHeader ⟨codeResponse, peer.currentIdentifier⟩) }

/-- `AcDoIntegrityCheck`; the pointer to the method is null where there is none. -/
def doIntegrityCheck (peer : EapPeer Method) : EapPeer Method :=
  match peer.method with
  | none => peer.stop .nullPointer
  | some _ => { peer with jobs := peer.jobs ++ [.method .sgIntegrityCheck] }

def buildNak (peer : EapPeer Method) : EapPeer Method :=
  let types := peer.policy.makeTypeList [] peer.currentMethod.isVSE
  let nakType := if EapTypeList.isVSE types then .extendedNak else .legacyNak
  ({ peer with
    txMessage := some (EapNakParser.parseAppToRaw nakType types)
    lastIdValidity := true } : EapPeer Method).composeResponse.sendResp false

def buildNotification (peer : EapPeer Method) : EapPeer Method :=
  { peer with txMessage := some (writeType .notification), raised := some .uct }

/-- `AcTunnelEstablished` -/
def tunnelEstablished (peer : EapPeer Method) : EapPeer Method :=
  match peer.innerMethod with
  | none => peer.stop .nullPointer
  | some _ => { peer with jobs := peer.jobs ++ [.innerMethod .sgIntegrityCheck] }

/-- `AcWaitTunnelProcess` -/
def waitTunnelProcess (peer : EapPeer Method) : EapPeer Method :=
  match peer.txMessage, peer.method with
  | some _, some _ =>
    { peer.composeResponse with jobs := peer.jobs ++ [.method .sgTunnelProcess] }
  | _, _ => peer.stop .nullPointer

/-- `AcParseIdentity` and `AcCheckIdentity` once the identity is asked for: the application has
given it, or a timer is to look for it again. -/
def inputIdentity (identity : Option EapOctets) (peer : EapPeer Method) : EapPeer Method :=
  match identity with
  | none => peer
  | some text => { peer with peerIdentity := text }.notify .sgUserInputFinished

/-- `DeleteMethodStateMachine` -/
def deleteMethod (peer : EapPeer Method) : EapPeer Method :=
  match peer.method with
  | none => peer
  | some _ =>
    { peer with
      method := none
      currentMethod := .none
      fault :=
        if peer.jobs.any fun job => job matches .method _ then some .danglingJob
        else peer.fault }

section Methods

variable (methods : PeerMethods Method)

/-- `AcBuildResp` -/
def buildResp (peer : EapPeer Method) : EapPeer Method :=
  match peer.txMessage with
  | none => peer.stop .nullPointer
  | some _ =>
    let answered : EapPeer Method :=
      { peer.composeResponse with
        lastIdValidity := true
        lastIdentifier := peer.currentIdentifier }
    if peer.methodState = .none ∨ peer.methodState = .init then answered.sendResp false
    else
      match peer.method with
      | none => peer.stop .nullPointer
      | some method =>
        if 0 < (methods.keyData method).length then
          { answered with keyData := methods.keyData method }.sendResp false
        else answered.sendResp false

/-- `CreateMethodStateMachine`, with the method's `Start`. -/
def createMethod (type innerType : EapType) (peer : EapPeer Method) : EapPeer Method :=
  match methods.create type with
  | none => peer.stop .aborted
  | some method =>
    if innerType = .none then { peer with method := some method }
    else
      match methods.create innerType with
      | none => peer.stop .aborted
      | some inner => { peer with method := some method, innerMethod := some inner }

/-- `AcDoPolicyCheck` -/
def doPolicyCheck (peer : EapPeer Method) : EapPeer Method :=
  let allowMethod :=
    if peer.reqMethod = .identity then decide (peer.currentMethod = .none)
    else peer.policy.allow peer.reqMethod
  if allowMethod then
    let created := ({ peer with currentMethod := peer.reqMethod }).deleteMethod.createMethod methods
      peer.reqMethod peer.policy.innerEapMethodType
    { created with methodState := .init, raised := some .sgEnterMethod }
  else peer.raise .sgNoEnterMethod

def parseNotification (peer : EapPeer Method) : EapPeer Method :=
  match peer.rxMessage with
  | none => peer.stop .nullPointer
  | some msg =>
    if methods.utf8 (typeData msg) false then
      { peer with
        notificationStr := typeData msg
        calls := peer.calls ++ [.notification (typeData msg)]
        raised := some .sgNotificationOutputFinished }
    else peer.raise .otherwise

def parseIdentity (identity : Option EapOctets) (peer : EapPeer Method) : EapPeer Method :=
  match peer.rxMessage with
  | none => peer.stop .nullPointer
  | some msg =>
    if methods.utf8 (typeData msg) false then
      { peer with authenticatorIdentity := typeData msg }.inputIdentity identity
    else peer.raise .otherwise

def buildIdentity (peer : EapPeer Method) : EapPeer Method :=
  if methods.utf8 peer.peerIdentity true then
    { peer with
      txMessage := some (writeType .identity ++ peer.peerIdentity)
      lastIdValidity := true
      raised := some .uct }
  else peer.raise .otherwise

def perform (identity : Option EapOctets) : PeerAction → EapPeer Method → EapPeer Method
  | .initializing => initializing
  | .retransmit => retransmit
  | .checkTimeoutCondition => checkTimeoutCondition
  | .sendSuccess => sendSuccess
  | .sendFailure => sendFailure
  | .buildResp => buildResp methods
  | .doIntegrityCheck => doIntegrityCheck
  | .doPolicyCheck => doPolicyCheck methods
  | .discard => discard
  | .buildNak => buildNak
  | .parseNotification => parseNotification methods
  | .buildNotification => buildNotification
  | .parseIdentity => parseIdentity methods identity
  | .buildIdentity => buildIdentity methods
  /- A timer is no part of the state: it may go off at any time. -/
  | .startTimer => id
  | .checkRxQueue => checkRxQueue
  | .receiveMsg => receiveMsg
  | .checkIdentity => inputIdentity identity
  | .tunnelEstablished => tunnelEstablished
  | .waitTunnelProcess => waitTunnelProcess

/-- `Event`: an event without an entry is logged. -/
def event (identity : Option EapOctets) (event : PeerEvent) (peer : EapPeer Method) :
    EapPeer Method :=
  if peer.running then
    match peerStateTable.find peer.state event with
    | none => peer
    | some entry =>
      let moved := { peer with state := entry.nextState }
      match entry.action with
      | none => moved
      | some action => moved.perform methods identity action
  else peer

/-- The switch is passed what a method has to say, after the method has changed the switch. -/
def reply (reply : PeerReply) (peer : EapPeer Method) : EapPeer Method :=
  let changed :=
    { peer with
      decision := reply.decision.getD peer.decision
      methodState := reply.methodState.getD peer.methodState }
  let pass (queued : Bool) (event : PeerEvent) (peer : EapPeer Method) : EapPeer Method :=
    if queued then peer.notify event else peer.raise event
  match reply.outcome with
  | .none => changed
  | .valid response queued =>
    pass queued .sgValidReq { changed with txMessage := some ([0, 0, 0, 0] ++ response) }
  | .invalid queued => pass queued .sgInvalidReq changed
  | .tunnelEstablished queued => pass queued .sgTunnelEstablished changed

/-- A method has an event. -/
def serveMethod (event : EapMethodEvent) (peer : EapPeer Method) : EapPeer Method :=
  match peer.method with
  | none => peer.stop .danglingJob
  | some method =>
    let served := methods.serve event peer.rxMessage peer.currentIdentifier method
    { peer with method := some served.1 }.reply served.2

def serveInnerMethod (event : EapMethodEvent) (peer : EapPeer Method) : EapPeer Method :=
  match peer.innerMethod with
  | none => peer.stop .danglingJob
  | some method =>
    let served := methods.serve event peer.rxMessage peer.currentIdentifier method
    { peer with innerMethod := some served.1 }.reply served.2

/-- `EapJobMultiplexor::Serve`, one event at a time: an event that an action raised comes before
those in the queue. The identity is what the application has given by now. -/
def serve (identity : Option EapOctets) (peer : EapPeer Method) : EapPeer Method :=
  match peer.raised with
  | some event => { peer with raised := none }.event methods identity event
  | none =>
    match peer.jobs with
    | [] => peer
    | .switch event :: rest => { peer with jobs := rest }.event methods identity event
    | .method event :: rest => { peer with jobs := rest }.serveMethod methods event
    | .innerMethod event :: rest => { peer with jobs := rest }.serveInnerMethod methods event

end Methods

/-- `EapPeerSwitchStateMachine::Start` -/
def start (peer : EapPeer Method) : EapPeer Method :=
  let policy := { peer.policy with currentPolicyElement := peer.policy.initialPolicyElement }
  let deleted := { peer with policy }.deleteMethod
  { deleted with
    running := true
    state := .disabled
    lastIdValidity := false
    currentIdentifier := 0
    currentMethod := .none
    keyAvailable := false
    keyData := []
    calls := [] }.notify .sgPortEnabled

/-- `EapPeerSwitchStateMachine::Receive` -/
def receive (msg : EapOctets) (peer : EapPeer Method) : EapPeer Method :=
  { peer with rxQueue := peer.rxQueue ++ [msg] }.notify .rxMsg

end EapPeer

variable {Method : Type}

/-- A peer as it is constructed and given its policy; what is not initialized is arbitrary. -/
def newPeer (policy : EapPolicy) (decision : PeerDecision) (lastIdentifier : UInt8) :
    EapPeer Method :=
  { policy, decision, lastIdentifier }

end OpenDiameter.Eap
