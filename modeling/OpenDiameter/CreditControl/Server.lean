import OpenDiameter.CreditControl.Records
import OpenDiameter.Framework.StateTable

/-!
`DiameterCCServerSession` and its state machine, `DiameterCCServerStateMachine`.
-/

namespace OpenDiameter.CreditControl

open OpenDiameter.Parser OpenDiameter.Framework

inductive CcServerState where
  | stIdle
  | stIdleValidateRequest
  | stInitialRequest
  | stEventRequest
  | stOpen
  | stOpenValidateRequest
  | stUpdateRequest
  | stTerminationRequest
  | stTerminated
  deriving DecidableEq, Repr

/-- The events: of each kind of request there is one of each sort. -/
inductive CcServerEvent where
  | request (kind : CcRequest)
  | valid (kind : CcRequest)
  | invalid (kind : CcRequest)
  | successful (kind : CcRequest)
  | unsuccessful (kind : CcRequest)
  | tccExpired
  | sgDisconnect
  | sgSessionTimeout
  | sgTimeout
  deriving DecidableEq, Repr

inductive CcServerAction where
  | validate (kind : CcRequest)
  | process (kind : CcRequest)
  | successfulAnswer (kind : CcRequest)
  | unsuccessfulAnswer (kind : CcRequest)
  | tccExpired
  deriving DecidableEq, Repr

/-- `DiameterCCServerStateTable_S` -/
def ccServerTable : StateTable CcServerState CcServerEvent CcServerAction :=
  [⟨.stIdle, some (.request .initial), .stIdleValidateRequest, some (.validate .initial)⟩,
    ⟨.stIdle, some (.request .directDebiting), .stIdleValidateRequest,
      some (.validate .directDebiting)⟩,
    ⟨.stIdle, some (.request .refundAccount), .stIdleValidateRequest,
      some (.validate .refundAccount)⟩,
    ⟨.stIdle, some (.request .checkBalance), .stIdleValidateRequest,
      some (.validate .checkBalance)⟩,
    ⟨.stIdle, some (.request .priceEnquiry), .stIdleValidateRequest,
      some (.validate .priceEnquiry)⟩,
    ⟨.stIdle, none, .stTerminated, none⟩,
    ⟨.stIdleValidateRequest, some (.valid .initial), .stInitialRequest, some (.process .initial)⟩,
    ⟨.stIdleValidateRequest, some (.invalid .initial), .stIdle,
      some (.unsuccessfulAnswer .initial)⟩,
    ⟨.stIdleValidateRequest, some (.valid .directDebiting), .stEventRequest,
      some (.process .directDebiting)⟩,
    ⟨.stIdleValidateRequest, some (.invalid .directDebiting), .stIdle,
      some (.unsuccessfulAnswer .directDebiting)⟩,
    ⟨.stIdleValidateRequest, some (.valid .refundAccount), .stEventRequest,
      some (.process .refundAccount)⟩,
    ⟨.stIdleValidateRequest, some (.invalid .refundAccount), .stIdle,
      some (.unsuccessfulAnswer .refundAccount)⟩,
    ⟨.stIdleValidateRequest, some (.valid .checkBalance), .stEventRequest,
      some (.process .checkBalance)⟩,
    ⟨.stIdleValidateRequest, some (.invalid .checkBalance), .stIdle,
      some (.unsuccessfulAnswer .checkBalance)⟩,
    ⟨.stIdleValidateRequest, some (.valid .priceEnquiry), .stEventRequest,
      some (.process .priceEnquiry)⟩,
    ⟨.stIdleValidateRequest, some (.invalid .priceEnquiry), .stIdle,
      some (.unsuccessfulAnswer .priceEnquiry)⟩,
    ⟨.stIdleValidateRequest, none, .stTerminated, none⟩,
    ⟨.stInitialRequest, some (.successful .initial), .stOpen, some (.successfulAnswer .initial)⟩,
    ⟨.stInitialRequest, some (.unsuccessful .initial), .stIdle,
      some (.unsuccessfulAnswer .initial)⟩,
    ⟨.stInitialRequest, none, .stTerminated, none⟩,
    ⟨.stEventRequest, some (.successful .directDebiting), .stIdle,
      some (.successfulAnswer .directDebiting)⟩,
    ⟨.stEventRequest, some (.unsuccessful .directDebiting), .stIdle,
      some (.unsuccessfulAnswer .directDebiting)⟩,
    ⟨.stEventRequest, some (.successful .refundAccount), .stIdle,
      some (.successfulAnswer .refundAccount)⟩,
    ⟨.stEventRequest, some (.unsuccessful .refundAccount), .stIdle,
      some (.unsuccessfulAnswer .refundAccount)⟩,
    ⟨.stEventRequest, some (.successful .checkBalance), .stIdle,
      some (.successfulAnswer .checkBalance)⟩,
    ⟨.stEventRequest, some (.unsuccessful .checkBalance), .stIdle,
      some (.unsuccessfulAnswer .checkBalance)⟩,
    ⟨.stEventRequest, some (.successful .priceEnquiry), .stIdle,
      some (.successfulAnswer .priceEnquiry)⟩,
    ⟨.stEventRequest, some (.unsuccessful .priceEnquiry), .stIdle,
      some (.unsuccessfulAnswer .priceEnquiry)⟩,
    ⟨.stEventRequest, none, .stTerminated, none⟩,
    ⟨.stOpen, some (.request .update), .stOpenValidateRequest, some (.validate .update)⟩,
    ⟨.stOpen, some (.request .termination), .stOpenValidateRequest,
      some (.validate .termination)⟩,
    ⟨.stOpen, some .tccExpired, .stIdle, some .tccExpired⟩,
    ⟨.stOpen, none, .stTerminated, none⟩,
    ⟨.stOpenValidateRequest, some (.valid .update), .stUpdateRequest, some (.process .update)⟩,
    ⟨.stOpenValidateRequest, some (.invalid .update), .stIdle,
      some (.unsuccessfulAnswer .update)⟩,
    ⟨.stOpenValidateRequest, some (.valid .termination), .stTerminationRequest,
      some (.process .termination)⟩,
    ⟨.stOpenValidateRequest, some (.invalid .termination), .stIdle,
      some (.unsuccessfulAnswer .termination)⟩,
    ⟨.stOpenValidateRequest, none, .stTerminated, none⟩,
    ⟨.stUpdateRequest, some (.successful .update), .stOpen, some (.successfulAnswer .update)⟩,
    ⟨.stUpdateRequest, some (.unsuccessful .update), .stIdle, some (.unsuccessfulAnswer .update)⟩,
    ⟨.stUpdateRequest, none, .stTerminated, none⟩,
    ⟨.stTerminationRequest, some (.successful .termination), .stIdle,
      some (.successfulAnswer .termination)⟩,
    ⟨.stTerminationRequest, some (.unsuccessful .termination), .stIdle,
      some (.unsuccessfulAnswer .termination)⟩,
    ⟨.stTerminationRequest, none, .stTerminated, none⟩,
    ⟨.stTerminated, none, .stTerminated, none⟩]

/-- What the functions of the application return. -/
structure CcVerdicts where
  validate : CcRequest → Bool := fun _ => true
  process : CcRequest → Bool := fun _ => true
  initialAnswer : Bool := true

/-- An event in the queue, with the request that it came with. -/
structure CcQueued where
  event : CcServerEvent
  request : Option Ccr := none
  deriving DecidableEq, Repr

structure CcServer where
  state : CcServerState
  ccrData : CcrData
  ccaData : CcaData
  /-- The Tcc timer is scheduled. -/
  tcc : Bool
  queue : List CcQueued
  /-- The last answer is the first one of the list. -/
  sent : List Cca
  deriving DecidableEq, Repr

namespace CcServer

/-- The session that was started. -/
def initial : CcServer where
  state := .stIdle
  ccrData := .initial
  ccaData := .initial
  tcc := false
  queue := []
  sent := []

variable (verdicts : CcVerdicts)

/-- `Notify` -/
def notify (event : CcServerEvent) (session : CcServer) : CcServer :=
  { session with queue := session.queue ++ [{ event := event }] }

/-- `SendCCA`, where the message is sent. -/
def sendCca (session : CcServer) : CcServer :=
  { session with sent := session.ccaData.parseAppToRaw :: session.sent }

/-- What the answering actions that fill in the answer do. -/
def fill (resultCode : UInt32) (session : CcServer) : CcServer :=
  { session with
    ccaData := { session.ccaData with
      ccRequestType := session.ccrData.ccRequestType
      ccRequestNumber := session.ccrData.ccRequestNumber
      resultCode := .of resultCode } }

def fillCheckBalance (checkBalanceResult : UInt32) (session : CcServer) : CcServer :=
  let session := session.fill aaaSuccess
  { session with
    ccaData := { session.ccaData with checkBalanceResult := .of checkBalanceResult } }

def scheduleTcc (session : CcServer) : CcServer := { session with tcc := true }

def cancelTcc (session : CcServer) : CcServer := { session with tcc := false }

/-- `AcSuccessfulInitialAnswer` and so on -/
def successfulAnswer (session : CcServer) : CcRequest → CcServer
  | .initial =>
    if verdicts.initialAnswer then (session.fill aaaSuccess).sendCca.scheduleTcc else session
  | .update => session.sendCca.scheduleTcc
  | .termination => (session.fill aaaSuccess).sendCca
  | .directDebiting => (session.fill aaaSuccess).sendCca
  | .refundAccount => (session.fill aaaSuccess).sendCca
  | .checkBalance => (session.fillCheckBalance 0).sendCca
  | .priceEnquiry => session.sendCca

/-- `AcUnsuccessfulInitialAnswer` and so on -/
def unsuccessfulAnswer (session : CcServer) : CcRequest → CcServer
  | .initial =>
    if verdicts.initialAnswer then (session.fill creditLimitReached).sendCca else session
  | .update => session.sendCca
  | .termination => session.sendCca
  | .directDebiting => session.sendCca
  | .refundAccount => session.sendCca
  | .checkBalance => (session.fillCheckBalance 1).sendCca
  | .priceEnquiry => session.sendCca

/-- The actions, with `Event` as it serves the event that an action raises. -/
def act (event : CcServerEvent → CcServer → CcServer) (session : CcServer) :
    CcServerAction → CcServer
  | .validate kind => event (if verdicts.validate kind then .valid kind else .invalid kind) session
  | .process kind =>
    if verdicts.process kind then
      let session := event (.successful kind) session
      if kind = .termination then session.cancelTcc else session
    else event (.unsuccessful kind) session
  | .successfulAnswer kind => session.successfulAnswer verdicts kind
  | .unsuccessfulAnswer kind => session.unsuccessfulAnswer verdicts kind
  | .tccExpired => session.cancelTcc

/-- `Event`, for as many events as are open at a time. -/
def eventIn : (depth : Nat) → CcServerEvent → CcServer → CcServer
  | 0, _, session => session
  | depth + 1, event, session =>
    match ccServerTable.find session.state event with
    | none => session
    | some entry =>
      let session := { session with state := entry.nextState }
      match entry.action with
      | none => session
      | some action => act verdicts (eventIn depth) session action

/-- A request is validated, processed and answered. -/
def event (event : CcServerEvent) (session : CcServer) : CcServer :=
  eventIn verdicts 3 event session

/-- `Serve` -/
def serve (session : CcServer) : CcServer :=
  match session.queue with
  | [] => session
  | queued :: queue => event verdicts queued.event { session with queue := queue }

/-- `CCR_Handler::HandleMessage` -/
def rxRequest (msg : Ccr) (session : CcServer) : CcServer :=
  let parsed := session.ccrData.parseRawToApp msg
  let session := { session with ccrData := parsed.1 }
  if parsed.2 ∧ parsed.1.ccRequestType.isSet then
    match kindOf parsed.1.ccRequestType.value parsed.1.requestedAction.value with
    | none => session
    | some kind =>
      { session with queue := session.queue ++ [⟨.request kind, some msg⟩] }
  else session

end CcServer

/-- What happens to a server. -/
inductive CcServerInput where
  | rxRequest (msg : Ccr)
  /-- The Tcc timer. -/
  | timeout
  | disconnect
  | sessionTimeout
  | generalTimeout
  | serve (verdicts : CcVerdicts)

namespace CcServer

def step (input : CcServerInput) (session : CcServer) : CcServer :=
  match input with
  | .rxRequest msg => session.rxRequest msg
  | .timeout => if session.tcc then session.notify .tccExpired else session
  | .disconnect => session.notify .sgDisconnect
  | .sessionTimeout => session.notify .sgSessionTimeout
  | .generalTimeout => session.notify .sgTimeout
  | .serve verdicts => session.serve verdicts

def run (inputs : List CcServerInput) (session : CcServer) : CcServer :=
  inputs.foldl (fun session input => session.step input) session

end CcServer

end OpenDiameter.CreditControl
