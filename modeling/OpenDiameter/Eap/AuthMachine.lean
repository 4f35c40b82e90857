import OpenDiameter.Eap.PeerMachine

/-!
`EapAuthSwitchStateMachine`: the standalone, the backend and the pass-through authenticator. Most
of their actions are the same; the others take the kind of the authenticator.
-/

namespace OpenDiameter.Eap

open OpenDiameter.Foundation OpenDiameter.Framework

inductive AuthKind where
  | standAlone
  | backend
  | passThrough
  deriving DecidableEq, Repr

inductive AuthDecision where
  | success
  | failure
  | continue_
  | passthrough
  deriving DecidableEq, Repr

inductive AuthMethodState where
  | proposed
  | cont
  | end_
  deriving DecidableEq, Repr

inductive AuthState where
  | begin_
  | disabled
  /-- `StInitialize` -/
  | initializing
  | pickUpMethod
  | selectAction
  | proposeMethod
  | idle
  | integrityCheck
  | methodRequest
  | methodResponse
  | sendRequest
  | nak
  | retransmit
  | discard
  | success
  | failure
  | timeoutFailure
  | received
  | tunnelEstablished
  | waitTunnelProcess
  /-- `StInitializePassThrough` -/
  | initializingPassThrough
  | aaaRequest
  | aaaIdle
  | aaaResponse
  | idle2
  | received2
  | success2
  | failure2
  | sendRequest2
  | discard2
  | retransmit2
  | timeoutFailure2
  deriving DecidableEq, Repr

inductive AuthEvent where
  | rxMsg
  | sgPortEnabled
  | sgValidResp
  | sgInvalidResp
  | sgEndMethod
  | sgRestart
  | sgAaaContinue
  | sgAaaSuccess
  | sgAaaFailure
  | sgTunnelEstablished
  | sgInnerEap
  | uct
  | sgPolicySat
  | sgPolicyNotSatEndSess
  | sgNoMethod
  | rxMethodResp
  | rxNonResp
  | rxNak
  /-- `EvTo` -/
  | timeout
  | sgMaxRetransmission
  /-- `EvElse` -/
  | otherwise
  | sgPassThrough
  | sgPickUpInit
  | sgNoPickUpInit
  | rxAaaEapReq
  /-- The event of the pass-through table that has the name of the external one. -/
  | aaaSuccess
  | aaaFailure
  | sgDiscard
  deriving DecidableEq, Repr

inductive AuthAction where
  | disable
  /-- `AcInitialize` -/
  | initializing
  /-- `AcBackendInitialize` -/
  | backendInitializing
  | pickUpMethod
  | proposeMethod
  | buildRequest
  | methodResponse
  | sendSuccess
  | sendFailure
  | sendRequest
  | doIntegrityCheck
  | doPolicyCheck
  | discard
  | discard2
  | resetMethod
  | retransmit
  | receiveMsg
  | tunnelEstablished
  | waitTunnelProcess
  | notifyInnerEap
  | pickUpInitCheck
  | aaaRequest
  | doIntegrityCheck2
  | completePassThroughWithSuccess
  | completePassThroughWithFailure
  | prepareRequest
  | aaaContinue
  | aaaSuccess
  | aaaFailure
  | discard3
  | receiveMsg2
  deriving DecidableEq, Repr

/-- `EapStandAloneAuthSwitchStateTable_S` -/
def standAloneStateTable : StateTable AuthState AuthEvent AuthAction :=
  [⟨.begin_, some .sgRestart, .disabled, some .disable⟩,
    ⟨.disabled, some .sgPortEnabled, .initializing, some .initializing⟩,
    ⟨.initializing, some .uct, .selectAction, some .doPolicyCheck⟩,
    ⟨.selectAction, some .sgPolicySat, .success, some .sendSuccess⟩,
    ⟨.selectAction, some .sgPolicyNotSatEndSess, .failure, some .sendFailure⟩,
    ⟨.selectAction, some .otherwise, .proposeMethod, some .proposeMethod⟩,
    ⟨.proposeMethod, some .sgValidResp, .methodRequest, some .buildRequest⟩,
    ⟨.methodRequest, some .uct, .sendRequest, some .sendRequest⟩,
    ⟨.integrityCheck, some .sgValidResp, .methodResponse, some .methodResponse⟩,
    ⟨.integrityCheck, some .sgInvalidResp, .discard, some .discard⟩,
    ⟨.integrityCheck, some .sgTunnelEstablished, .tunnelEstablished, some .tunnelEstablished⟩,
    ⟨.tunnelEstablished, some .sgValidResp, .waitTunnelProcess, some .waitTunnelProcess⟩,
    ⟨.waitTunnelProcess, some .sgValidResp, .methodResponse, some .methodResponse⟩,
    ⟨.integrityCheck, some .sgInnerEap, .tunnelEstablished, some .notifyInnerEap⟩,
    ⟨.integrityCheck, some .rxMsg, .integrityCheck, some .discard2⟩,
    ⟨.integrityCheck, none, .integrityCheck, none⟩,
    ⟨.methodResponse, some .sgEndMethod, .selectAction, some .doPolicyCheck⟩,
    ⟨.methodResponse, some .otherwise, .methodRequest, some .buildRequest⟩,
    ⟨.sendRequest, some .uct, .idle, none⟩,
    ⟨.idle, some .timeout, .retransmit, some .retransmit⟩,
    ⟨.idle, some .rxMsg, .received, some .receiveMsg⟩,
    ⟨.received, some .rxMethodResp, .integrityCheck, some .doIntegrityCheck⟩,
    ⟨.received, some .rxNak, .nak, some .resetMethod⟩,
    ⟨.received, some .otherwise, .discard, some .discard⟩,
    ⟨.retransmit, some .sgMaxRetransmission, .timeoutFailure, none⟩,
    ⟨.retransmit, some .otherwise, .idle, none⟩,
    ⟨.nak, some .uct, .selectAction, some .doPolicyCheck⟩,
    ⟨.discard, some .uct, .idle, none⟩,
    ⟨.success, some .rxMsg, .success, some .discard2⟩,
    ⟨.success, none, .success, none⟩,
    ⟨.failure, some .rxMsg, .failure, some .discard2⟩,
    ⟨.failure, none, .failure, none⟩]

/-- `EapBackendAuthSwitchStateTable_S` -/
def backendStateTable : StateTable AuthState AuthEvent AuthAction :=
  [⟨.begin_, some .sgRestart, .disabled, some .disable⟩,
    ⟨.disabled, some .sgPortEnabled, .initializing, some .backendInitializing⟩,
    ⟨.initializing, some .rxNonResp, .selectAction, some .doPolicyCheck⟩,
    ⟨.initializing, some .otherwise, .pickUpMethod, some .pickUpMethod⟩,
    ⟨.pickUpMethod, some .sgNoMethod, .selectAction, some .doPolicyCheck⟩,
    ⟨.pickUpMethod, some .otherwise, .integrityCheck, some .doIntegrityCheck⟩,
    ⟨.initializing, some .rxNak, .nak, some .resetMethod⟩,
    ⟨.selectAction, some .sgPolicySat, .success, some .sendSuccess⟩,
    ⟨.selectAction, some .sgPolicyNotSatEndSess, .failure, some .sendFailure⟩,
    ⟨.selectAction, some .otherwise, .proposeMethod, some .proposeMethod⟩,
    ⟨.proposeMethod, some .sgValidResp, .methodRequest, some .buildRequest⟩,
    ⟨.methodRequest, some .uct, .sendRequest, some .sendRequest⟩,
    ⟨.integrityCheck, some .sgValidResp, .methodResponse, some .methodResponse⟩,
    ⟨.integrityCheck, some .sgInvalidResp, .discard, some .discard⟩,
    ⟨.integrityCheck, some .rxMsg, .integrityCheck, some .discard2⟩,
    ⟨.methodResponse, some .sgEndMethod, .selectAction, some .doPolicyCheck⟩,
    ⟨.methodResponse, some .otherwise, .methodRequest, some .buildRequest⟩,
    ⟨.sendRequest, some .uct, .idle, none⟩,
    ⟨.idle, some .timeout, .retransmit, some .retransmit⟩,
    ⟨.idle, some .rxMsg, .received, some .receiveMsg⟩,
    ⟨.received, some .rxMethodResp, .integrityCheck, some .doIntegrityCheck⟩,
    ⟨.received, some .rxNak, .nak, some .resetMethod⟩,
    ⟨.received, some .otherwise, .discard, some .discard⟩,
    ⟨.retransmit, some .sgMaxRetransmission, .timeoutFailure, none⟩,
    ⟨.retransmit, some .otherwise, .idle, none⟩,
    ⟨.nak, some .uct, .selectAction, some .doPolicyCheck⟩,
    ⟨.discard, some .uct, .idle, none⟩,
    ⟨.success, some .rxMsg, .success, some .discard2⟩,
    ⟨.success, none, .success, none⟩,
    ⟨.failure, some .rxMsg, .failure, some .discard2⟩,
    ⟨.failure, none, .failure, none⟩,
    ⟨.integrityCheck, some .sgTunnelEstablished, .tunnelEstablished, some .tunnelEstablished⟩,
    ⟨.tunnelEstablished, some .sgValidResp, .waitTunnelProcess, some .waitTunnelProcess⟩,
    ⟨.waitTunnelProcess, some .sgValidResp, .methodResponse, some .methodResponse⟩,
    ⟨.integrityCheck, some .sgInnerEap, .tunnelEstablished, some .notifyInnerEap⟩]

/-- `EapPassThroughAuthSwitchStateTable_S` -/
def passThroughStateTable : StateTable AuthState AuthEvent AuthAction :=
  [⟨.begin_, some .sgRestart, .disabled, some .disable⟩,
    ⟨.disabled, some .sgPortEnabled, .initializing, some .initializing⟩,
    ⟨.initializing, some .uct, .selectAction, some .doPolicyCheck⟩,
    ⟨.selectAction, some .sgPolicySat, .success, some .sendSuccess⟩,
    ⟨.selectAction, some .sgPolicyNotSatEndSess, .failure, some .sendFailure⟩,
    ⟨.selectAction, some .otherwise, .proposeMethod, some .proposeMethod⟩,
    ⟨.selectAction, some .sgPassThrough, .initializingPassThrough, some .pickUpInitCheck⟩,
    ⟨.proposeMethod, some .sgValidResp, .methodRequest, some .buildRequest⟩,
    ⟨.methodRequest, some .uct, .sendRequest, some .sendRequest⟩,
    ⟨.integrityCheck, some .sgValidResp, .methodResponse, some .methodResponse⟩,
    ⟨.integrityCheck, some .sgInvalidResp, .discard, some .discard⟩,
    ⟨.integrityCheck, some .rxMsg, .integrityCheck, some .discard2⟩,
    ⟨.methodResponse, some .sgEndMethod, .selectAction, some .doPolicyCheck⟩,
    ⟨.methodResponse, some .otherwise, .methodRequest, some .buildRequest⟩,
    ⟨.sendRequest, some .uct, .idle, none⟩,
    ⟨.idle, some .timeout, .retransmit, some .retransmit⟩,
    ⟨.idle, some .rxMsg, .received, some .receiveMsg⟩,
    ⟨.received, some .rxMethodResp, .integrityCheck, some .doIntegrityCheck⟩,
    ⟨.received, some .rxNak, .nak, some .resetMethod⟩,
    ⟨.received, some .otherwise, .discard, some .discard⟩,
    ⟨.retransmit, some .sgMaxRetransmission, .timeoutFailure, none⟩,
    ⟨.retransmit, some .otherwise, .idle, none⟩,
    ⟨.nak, some .uct, .selectAction, some .doPolicyCheck⟩,
    ⟨.discard, some .uct, .idle, none⟩,
    ⟨.success, some .rxMsg, .success, some .discard2⟩,
    ⟨.success, none, .success, none⟩,
    ⟨.failure, some .rxMsg, .failure, some .discard2⟩,
    ⟨.failure, none, .failure, none⟩,
    ⟨.initializingPassThrough, some .sgPickUpInit, .aaaRequest, some .aaaRequest⟩,
    ⟨.initializingPassThrough, some .sgNoPickUpInit, .aaaIdle, some .doIntegrityCheck2⟩,
    ⟨.aaaRequest, some .uct, .aaaIdle, some .doIntegrityCheck2⟩,
    ⟨.aaaIdle, some .rxAaaEapReq, .aaaResponse, some .prepareRequest⟩,
    ⟨.aaaIdle, some .aaaSuccess, .success2, some .completePassThroughWithSuccess⟩,
    ⟨.aaaIdle, some .aaaFailure, .failure2, some .completePassThroughWithFailure⟩,
    ⟨.aaaIdle, some .sgAaaContinue, .aaaIdle, some .aaaContinue⟩,
    ⟨.aaaIdle, some .sgAaaSuccess, .aaaIdle, some .aaaSuccess⟩,
    ⟨.aaaIdle, some .sgAaaFailure, .aaaIdle, some .aaaFailure⟩,
    ⟨.aaaIdle, some .sgDiscard, .discard2, some .discard3⟩,
    ⟨.aaaIdle, none, .aaaIdle, none⟩,
    ⟨.discard2, some .uct, .idle2, none⟩,
    ⟨.received2, some .rxMethodResp, .aaaRequest, some .aaaRequest⟩,
    ⟨.received2, some .otherwise, .discard2, some .discard⟩,
    ⟨.idle2, some .rxMsg, .received2, some .receiveMsg2⟩,
    ⟨.idle2, some .sgAaaContinue, .idle2, some .discard3⟩,
    ⟨.idle2, some .timeout, .retransmit2, some .retransmit⟩,
    ⟨.idle2, none, .idle2, none⟩,
    ⟨.aaaResponse, some .uct, .sendRequest2, some .sendRequest⟩,
    ⟨.sendRequest2, some .uct, .idle2, none⟩,
    ⟨.success2, some .sgAaaContinue, .success2, some .discard3⟩,
    ⟨.success2, none, .success2, none⟩,
    ⟨.failure2, some .sgAaaContinue, .failure2, some .discard3⟩,
    ⟨.failure2, none, .failure2, none⟩,
    ⟨.retransmit2, some .sgMaxRetransmission, .timeoutFailure2, none⟩,
    ⟨.retransmit2, some .otherwise, .idle2, none⟩]

def authStateTable : AuthKind → StateTable AuthState AuthEvent AuthAction
  | .standAlone => standAloneStateTable
  | .backend => backendStateTable
  | .passThrough => passThroughStateTable

/-- The events that a method of an authenticator passes to the switch. -/
inductive AuthSignal where
  | validResp
  | invalidResp
  | tunnelEstablished
  | innerEap
  deriving DecidableEq, Repr

def AuthSignal.event : AuthSignal → AuthEvent
  | .validResp => .sgValidResp
  | .invalidResp => .sgInvalidResp
  | .tunnelEstablished => .sgTunnelEstablished
  | .innerEap => .sgInnerEap

/-- What a method of an authenticator does to the switch: the policy update when it ends, the
message that it sets or deletes, and the event that it queues. -/
structure AuthReply where
  update : Option PolicySwitch := none
  txMessage : Option (Option EapOctets) := none
  signal : Option AuthSignal := none
  deriving DecidableEq, Repr

/-- The methods of an authenticator: the table of their creators, and what one of them does with
an event. -/
structure AuthMethods (Method : Type) where
  create : EapType → Option Method
  serve : EapMethodEvent → (response : Option EapOctets) → (identifier : UInt8) →
    Method → Method × AuthReply
  isDone : Method → Bool
  keyData : Method → EapOctets
  getNextIdentifier : Method → UInt8 → UInt8

/-- What the application is told. -/
inductive AuthCall where
  | send (request : EapOctets)
  | success (msg : Option EapOctets)
  | failure (msg : Option EapOctets)
  | forwardResponse (msg : Option EapOctets)
  deriving DecidableEq, Repr

/-- The state of the method is not initialized. -/
structure EapAuth (Method : Type) where
  kind : AuthKind
  policy : EapPolicy
  methodState : AuthMethodState
  running : Bool := false
  state : AuthState := .begin_
  /-- The event that the last action passed to the machine itself, to be served next. -/
  raised : Option AuthEvent := none
  jobs : List (EapJob AuthEvent) := []
  rxQueue : List EapOctets := []
  aaaRxQueue : List EapOctets := []
  currentMethod : EapType := .none
  currentIdentifier : UInt8 := 0
  method : Option Method := none
  innerMethod : Option Method := none
  rxMessage : Option EapOctets := none
  txMessage : Option EapOctets := none
  keyData : EapOctets := []
  keyAvailable : Bool := false
  retransmissionCount : UInt16 := 0
  maxRetransmissionCount : UInt16 := 3
  retransmissionInterval : UInt16 := 3
  discardCount : UInt16 := 0
  calls : List AuthCall := []
  /-- The branches that were followed since the start. -/
  followed : List PolicySwitch := []
  fault : Option EapFault := none

namespace EapAuth

variable {Method : Type}

def raise (event : AuthEvent) (auth : EapAuth Method) : EapAuth Method :=
  { auth with raised := some event }

def notify (event : AuthEvent) (auth : EapAuth Method) : EapAuth Method :=
  { auth with jobs := auth.jobs ++ [.switch event] }

def stop (fault : EapFault) (auth : EapAuth Method) : EapAuth Method :=
  { auth with fault := some fault }

/-- `EapAuthSwitchStateMachine::Decision`, and that of the pass-through authenticator. -/
def decision (auth : EapAuth Method) : AuthDecision :=
  if auth.kind = .passThrough then
    if auth.policy.currentMethod = none then .passthrough else .continue_
  else if auth.policy.isSatisfied then .success
  else if auth.policy.currentMethod = none then .failure
  else .continue_

/-- A message that the authenticator makes of a code alone. -/
def finalMessage (code : UInt8) (auth : EapAuth Method) : EapOctets :=
  writeHeader ⟨code, auth.currentIdentifier⟩ [0, 0, 0, 0]

def disable (auth : EapAuth Method) : EapAuth Method := auth.raise .sgPortEnabled

/-- `AcInitialize` -/
def initializing (auth : EapAuth Method) : EapAuth Method :=
  { auth with currentIdentifier := 0, raised := some .uct }

/-- `AcBackendInitialize` -/
def backendInitializing (auth : EapAuth Method) : EapAuth Method :=
  match auth.rxMessage with
  | none => { auth with currentIdentifier := 0, raised := some .otherwise }
  | some msg =>
    if (parseHeader msg).code ≠ codeResponse then
      { auth with currentIdentifier := 0, raised := some .rxNonResp }
    else
      let auth := { auth with currentIdentifier := (parseHeader msg).identifier }
      match auth.policy.currentMethod with
      | none => auth.stop .aborted
      | some method =>
        if method ≠ parseType msg then auth.raise .rxNonResp
        else
          { auth with
            currentMethod := parseType msg
            raised := some (if parseType msg = .nak then .rxNak else .otherwise) }

def sendSuccess (auth : EapAuth Method) : EapAuth Method :=
  { auth with
    retransmissionCount := 0
    keyAvailable := auth.keyAvailable || decide (0 < auth.keyData.length)
    calls := auth.calls ++ [.success (some (auth.finalMessage codeSuccess))] }

def sendFailure (auth : EapAuth Method) : EapAuth Method :=
  { auth with
    retransmissionCount := 0
    calls := auth.calls ++ [.failure (some (auth.finalMessage codeFailure))] }

/-- The callback `Send` for the message that is kept. -/
def sendTxMessage (auth : EapAuth Method) : EapAuth Method :=
  match auth.txMessage with
  | none => auth.stop .nullPointer
  | some msg => { auth with calls := auth.calls ++ [.send msg] }

def sendRequest (auth : EapAuth Method) : EapAuth Method :=
  (({ auth with retransmissionCount := 1 }).notify .uct).sendTxMessage

def retransmit (auth : EapAuth Method) : EapAuth Method :=
  if auth.retransmissionCount < auth.maxRetransmissionCount then
    (({ auth with retransmissionCount := auth.retransmissionCount + 1 }).notify
      .otherwise).sendTxMessage
  else auth.raise .sgMaxRetransmission

/-- The pointer to the method is null where there is none. -/
def notifyMethod (event : EapMethodEvent) (auth : EapAuth Method) : EapAuth Method :=
  match auth.method with
  | none => auth.stop .nullPointer
  | some _ => { auth with jobs := auth.jobs ++ [.method event] }

def notifyInnerMethod (event : EapMethodEvent) (auth : EapAuth Method) : EapAuth Method :=
  match auth.innerMethod with
  | none => auth.stop .nullPointer
  | some _ => { auth with jobs := auth.jobs ++ [.innerMethod event] }

def doPolicyCheck (auth : EapAuth Method) : EapAuth Method :=
  match auth.decision with
  | .success => auth.raise .sgPolicySat
  | .failure => auth.raise .sgPolicyNotSatEndSess
  | .passthrough => auth.raise .sgPassThrough
  | .continue_ => auth.raise .otherwise

/-- `AcDiscard` -/
def discard (auth : EapAuth Method) : EapAuth Method :=
  { auth with discardCount := auth.discardCount + 1, raised := some .uct }

/-- `AcDiscard2`: only the pass-through authenticator goes on with an event. -/
def discard2 (auth : EapAuth Method) : EapAuth Method :=
  let counted := { auth with discardCount := auth.discardCount + 1 }
  match auth.rxQueue with
  | [] => counted.stop .blocked
  | _ :: rest =>
    { counted with
      rxQueue := rest
      raised := if auth.kind = .passThrough then some .uct else none }

/-- `AcDiscard3` -/
def discard3 (auth : EapAuth Method) : EapAuth Method :=
  match auth.aaaRxQueue with
  | [] => auth.stop .blocked
  | _ :: rest => { auth with aaaRxQueue := rest }

/-- The rounds that the loops over a Nak are given; over the list they read they make none. -/
def nakRounds : Nat := 256

/-- The types that `AcResetMethod` reads in a Nak. -/
def readNak (msg : EapOctets) : EapTypeList := EapNakParser.parseRawToApp msg [] nakRounds

def resetMethod (auth : EapAuth Method) : EapAuth Method :=
  match auth.rxMessage with
  | none => auth.stop .nullPointer
  | some msg =>
    match EapPolicy.updateOnNak (readNak msg) nakRounds auth.policy with
    | none => auth.stop .nullPointer
    | some policy =>
      { auth with
        policy
        followed := auth.followed ++ [.policyOnFailure]
        rxMessage := none
        raised := some .uct }

/-- `AcReceiveMsg` with the message that it dequeued. -/
def examine (msg : EapOctets) (auth : EapAuth Method) : EapAuth Method :=
  if (parseHeader msg).code ≠ codeResponse ∨
      (parseHeader msg).identifier ≠ auth.currentIdentifier then
    { auth with rxMessage := none }.notify .otherwise
  else if parseType msg = .nak ∧ auth.decision ≠ .passthrough then
    if auth.methodState = .proposed then auth.raise .rxNak
    else { auth with rxMessage := none, raised := some .otherwise }
  else if parseType msg ≠ auth.currentMethod ∧ auth.decision ≠ .passthrough then
    { auth with rxMessage := none, raised := some .otherwise }
  else auth.raise .rxMethodResp

def receiveMsg (auth : EapAuth Method) : EapAuth Method :=
  match auth.rxQueue with
  | [] => auth.stop .blocked
  | msg :: rest => ({ auth with rxQueue := rest, rxMessage := some msg }).examine msg

/-- `AcReceiveMsg2` -/
def receiveMsg2 (auth : EapAuth Method) : EapAuth Method :=
  match auth.rxQueue with
  | [] => auth.stop .blocked
  | msg :: rest =>
    let received := { auth with rxQueue := rest, rxMessage := some msg }
    if (parseHeader msg).code ≠ codeResponse ∨
        (parseHeader msg).identifier ≠ auth.currentIdentifier then
      { received with rxMessage := none }.notify .otherwise
    else received.raise .rxMethodResp

def pickUpInitCheck (auth : EapAuth Method) : EapAuth Method :=
  if auth.rxMessage = none then auth.raise .sgNoPickUpInit else auth.raise .sgPickUpInit

/-- `AcDoIntegrityCheck2` -/
def doIntegrityCheck2 (auth : EapAuth Method) : EapAuth Method :=
  { auth with calls := auth.calls ++ [.forwardResponse auth.rxMessage] }

/-- `AcAaaContinue`, `AcAaaSuccess` and `AcAaaFailure` for a message with the code that is meant
for it. -/
def receiveAaa (code : UInt8) (event : AuthEvent) (empty : EapAuth Method → EapAuth Method)
    (auth : EapAuth Method) : EapAuth Method :=
  match auth.aaaRxQueue with
  | [] => empty { auth with txMessage := none }
  | msg :: rest =>
    let auth := { auth with aaaRxQueue := rest }
    if (parseHeader msg).code ≠ code then auth.raise .sgDiscard
    else
      { auth with
        currentIdentifier := (parseHeader msg).identifier
        txMessage := some msg
        raised := some event }

def aaaContinue (auth : EapAuth Method) : EapAuth Method :=
  auth.receiveAaa codeRequest .rxAaaEapReq (.stop .aborted)

def aaaSuccess (auth : EapAuth Method) : EapAuth Method :=
  auth.receiveAaa codeSuccess .aaaSuccess (.raise .aaaSuccess)

def aaaFailure (auth : EapAuth Method) : EapAuth Method :=
  auth.receiveAaa codeFailure .aaaFailure (.raise .aaaFailure)

def completePassThroughWithFailure (auth : EapAuth Method) : EapAuth Method :=
  { auth with
    retransmissionCount := 0
    calls := auth.calls ++ [.failure auth.txMessage]
    txMessage := none }

def completePassThroughWithSuccess (auth : EapAuth Method) : EapAuth Method :=
  { auth with
    retransmissionCount := 0
    keyAvailable := auth.keyAvailable || decide (0 < auth.keyData.length)
    calls := auth.calls ++ [.success auth.txMessage]
    txMessage := none }

/-- `DeleteMethodStateMachine` -/
def deleteMethod (auth : EapAuth Method) : EapAuth Method :=
  match auth.method with
  | none => auth
  | some _ =>
    { auth with
      method := none
      currentMethod := .none
      fault :=
        if auth.jobs.any fun job => job matches .method _ then some .danglingJob
        else auth.fault }

section Methods

variable (methods : AuthMethods Method)

/-- The next identifier, in the header of the message that is to be sent. -/
def composeRequest (auth : EapAuth Method) : EapAuth Method :=
  match auth.method, auth.txMessage with
  | some method, some msg =>
    let identifier := methods.getNextIdentifier method auth.currentIdentifier
    { auth with
      currentIdentifier := identifier
      txMessage := some (writeHeader ⟨codeRequest, identifier⟩ msg) }
  | _, _ => auth.stop .nullPointer

def buildRequest (auth : EapAuth Method) : EapAuth Method :=
  (auth.composeRequest methods).raise .uct

def waitTunnelProcess (auth : EapAuth Method) : EapAuth Method :=
  (auth.composeRequest methods).notifyMethod .sgTunnelProcess

/-- `AcMethodResponse`: only the standalone authenticator keeps a key where the method has none. -/
def methodResponse (auth : EapAuth Method) : EapAuth Method :=
  match auth.method with
  | none => auth.stop .nullPointer
  | some method =>
    if methods.isDone method then
      { auth with
        keyData :=
          if auth.kind = .standAlone ∧ (methods.keyData method).length = 0 then auth.keyData
          else methods.keyData method
        methodState := .end_
        raised := some .sgEndMethod }
    else { auth with methodState := .cont, raised := some .otherwise }

/-- `CreateMethodStateMachine`, with the method's `Start`. -/
def createMethod (type innerType : EapType) (auth : EapAuth Method) : EapAuth Method :=
  match methods.create type with
  | none => auth.stop .aborted
  | some method =>
    if innerType = .none then { auth with method := some method }
    else
      match methods.create innerType with
      | none => auth.stop .aborted
      | some inner => { auth with method := some method, innerMethod := some inner }

/-- `AcPickUpMethod`; `SupportPickUp` allows the type Identity. -/
def pickUpMethod (auth : EapAuth Method) : EapAuth Method :=
  match auth.policy.currentMethod with
  | none => auth.stop .aborted
  | some type =>
    if type = .identity then
      (({ auth with currentMethod := type }).createMethod methods type
        auth.policy.innerEapMethodType).raise .otherwise
    else auth.raise .sgNoMethod

/-- `AcProposeMethod`: the standalone authenticator compares with the type Identity twice. -/
def proposeMethod (auth : EapAuth Method) : EapAuth Method :=
  match auth.policy.currentMethod with
  | none => auth.stop .aborted
  | some type =>
    let created := ({ auth.deleteMethod with currentMethod := type }).createMethod methods type
      auth.policy.innerEapMethodType
    let first := type = .identity ∨ (auth.kind ≠ .standAlone ∧ type = .notification)
    ({ created with methodState := if first then .cont else .proposed } :
      EapAuth Method).notifyMethod .sgIntegrityCheck

/-- `AcTunnelEstablished` and `AcNotifyInnerEap` -/
def tunnelEstablished (auth : EapAuth Method) : EapAuth Method :=
  auth.notifyInnerMethod .sgIntegrityCheck

def perform : AuthAction → EapAuth Method → EapAuth Method
  | .disable => disable
  | .initializing => initializing
  | .backendInitializing => backendInitializing
  | .pickUpMethod => pickUpMethod methods
  | .proposeMethod => proposeMethod methods
  | .buildRequest => buildRequest methods
  | .methodResponse => methodResponse methods
  | .sendSuccess => sendSuccess
  | .sendFailure => sendFailure
  | .sendRequest => sendRequest
  | .doIntegrityCheck => notifyMethod .sgIntegrityCheck
  | .doPolicyCheck => doPolicyCheck
  | .discard => discard
  | .discard2 => discard2
  | .resetMethod => resetMethod
  | .retransmit => retransmit
  | .receiveMsg => receiveMsg
  | .tunnelEstablished => tunnelEstablished
  | .waitTunnelProcess => waitTunnelProcess methods
  | .notifyInnerEap => tunnelEstablished
  | .pickUpInitCheck => pickUpInitCheck
  | .aaaRequest => raise .uct
  | .doIntegrityCheck2 => doIntegrityCheck2
  | .completePassThroughWithSuccess => completePassThroughWithSuccess
  | .completePassThroughWithFailure => completePassThroughWithFailure
  | .prepareRequest => raise .uct
  | .aaaContinue => aaaContinue
  | .aaaSuccess => aaaSuccess
  | .aaaFailure => aaaFailure
  | .discard3 => discard3
  | .receiveMsg2 => receiveMsg2

/-- `Event`: an event without an entry is logged. -/
def event (event : AuthEvent) (auth : EapAuth Method) : EapAuth Method :=
  if auth.running then
    match (authStateTable auth.kind).find auth.state event with
    | none => auth
    | some entry =>
      let moved := { auth with state := entry.nextState }
      match entry.action with
      | none => moved
      | some action => moved.perform methods action
  else auth

/-- What a method has to say to the switch. -/
def reply (reply : AuthReply) (auth : EapAuth Method) : EapAuth Method :=
  { auth with
    policy := reply.update.elim auth.policy auth.policy.update
    followed := auth.followed ++ reply.update.toList
    txMessage := reply.txMessage.getD auth.txMessage
    jobs := auth.jobs ++ (reply.signal.map fun signal => .switch signal.event).toList }

/-- A method has an event. -/
def serveMethod (event : EapMethodEvent) (auth : EapAuth Method) : EapAuth Method :=
  match auth.method with
  | none => auth.stop .danglingJob
  | some method =>
    let served := methods.serve event auth.rxMessage auth.currentIdentifier method
    { auth with method := some served.1 }.reply served.2

def serveInnerMethod (event : EapMethodEvent) (auth : EapAuth Method) : EapAuth Method :=
  match auth.innerMethod with
  | none => auth.stop .danglingJob
  | some method =>
    let served := methods.serve event auth.rxMessage auth.currentIdentifier method
    { auth with innerMethod := some served.1 }.reply served.2

/-- `EapJobMultiplexor::Serve`, one event at a time. -/
def serve (auth : EapAuth Method) : EapAuth Method :=
  match auth.raised with
  | some event => { auth with raised := none }.event methods event
  | none =>
    match auth.jobs with
    | [] => auth
    | .switch event :: rest => { auth with jobs := rest }.event methods event
    | .method event :: rest => { auth with jobs := rest }.serveMethod methods event
    | .innerMethod event :: rest => { auth with jobs := rest }.serveInnerMethod methods event

end Methods

/-- `Start`: only the standalone authenticator deletes its method. -/
def start (auth : EapAuth Method) : EapAuth Method :=
  let policy := { auth.policy with currentPolicyElement := auth.policy.initialPolicyElement }
  let reset := { auth with policy }
  { (if auth.kind = AuthKind.standAlone then reset.deleteMethod else reset) with
    running := true
    state := .begin_
    keyData := []
    keyAvailable := false
    followed := [] }.notify .sgRestart

/-- `EapBackendAuthSwitchStateMachine::Start` with a message: the key is left as it is. -/
def startWith (msg : EapOctets) (auth : EapAuth Method) : EapAuth Method :=
  { auth with
    policy := { auth.policy with currentPolicyElement := auth.policy.initialPolicyElement }
    rxMessage := some msg
    running := true
    state := .begin_
    followed := [] }.notify .sgRestart

/-- `EapAuthSwitchStateMachine::Receive` -/
def receive (msg : EapOctets) (auth : EapAuth Method) : EapAuth Method :=
  { auth with rxQueue := auth.rxQueue ++ [msg] }.notify .rxMsg

/-- `AAA_Success`, `AAA_Failure` and `AAA_Continue`, which throw but for an authenticator in
pass-through mode. -/
def receiveFromAaa (event : AuthEvent) (msg : Option EapOctets) (auth : EapAuth Method) :
    EapAuth Method :=
  if auth.decision = .passthrough then
    { auth with aaaRxQueue := auth.aaaRxQueue ++ msg.toList }.notify event
  else auth

end EapAuth

/-- What happens to an authenticator next. -/
inductive AuthInput where
  | start
  | startWith (msg : EapOctets)
  | receive (msg : EapOctets)
  | timeout
  /-- `AAA_Success`, with the key that it may pass. -/
  | aaaSuccess (msg : Option EapOctets) (key : Option EapOctets)
  | aaaFailure (msg : Option EapOctets)
  | aaaContinue (msg : EapOctets)
  | serve
  deriving DecidableEq, Repr

variable {Method : Type}

def AuthInput.apply (methods : AuthMethods Method) : AuthInput → EapAuth Method → EapAuth Method
  | .start => .start
  | .startWith msg => .startWith msg
  | .receive msg => .receive msg
  | .timeout => .notify .timeout
  | .aaaSuccess msg key => fun auth =>
    if auth.decision = .passthrough then
      { auth with keyData := key.getD auth.keyData }.receiveFromAaa .sgAaaSuccess msg
    else auth
  | .aaaFailure msg => .receiveFromAaa .sgAaaFailure msg
  | .aaaContinue msg => .receiveFromAaa .sgAaaContinue (some msg)
  | .serve => .serve methods

/-- An authenticator does nothing more after a fault, is not started while it serves an event, and
has no timer where retransmission is disabled. -/
def AuthStep (methods : AuthMethods Method) (auth : EapAuth Method) (input : AuthInput)
    (after : EapAuth Method) : Prop :=
  auth.fault = none ∧ (input = .start → auth.raised = none) ∧
    (∀ msg, input = .startWith msg → auth.kind = .backend ∧ auth.raised = none) ∧
    (input = .timeout → auth.retransmissionInterval ≠ 0) ∧ after = input.apply methods auth

/-- Whether a step with the input is possible. -/
def authFits (auth : EapAuth Method) (input : AuthInput) : Bool :=
  decide (auth.fault = none) &&
    match input with
    | .start => decide (auth.raised = none)
    | .startWith _ => decide (auth.kind = .backend) && decide (auth.raised = none)
    | .timeout => decide (auth.retransmissionInterval ≠ 0)
    | _ => true

theorem authStep_of_fits {methods : AuthMethods Method} {auth : EapAuth Method}
    {input : AuthInput} (fits : authFits auth input = true) :
    AuthStep methods auth input (input.apply methods auth) := by
  cases input with
  | start =>
    simp only [authFits, Bool.and_eq_true, decide_eq_true_eq] at fits
    exact ⟨fits.1, fun _ => fits.2, nofun, nofun, rfl⟩
  | startWith msg =>
    simp only [authFits, Bool.and_eq_true, decide_eq_true_eq] at fits
    exact ⟨fits.1, nofun, fun _ _ => fits.2, nofun, rfl⟩
  | timeout =>
    simp only [authFits, Bool.and_eq_true, decide_eq_true_eq] at fits
    exact ⟨fits.1, nofun, nofun, fun _ => fits.2, rfl⟩
  | _ =>
    simp only [authFits, Bool.and_true, decide_eq_true_eq] at fits
    exact ⟨fits, nofun, nofun, nofun, rfl⟩

/-- An authenticator as it is constructed and given its policy. -/
def newAuth (kind : AuthKind) (policy : EapPolicy) (methodState : AuthMethodState) :
    EapAuth Method :=
  { kind, policy, methodState, retransmissionInterval := if kind = .backend then 0 else 3 }

end OpenDiameter.Eap
