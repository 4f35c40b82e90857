import OpenDiameter.CreditControl.Records
import OpenDiameter.Framework.StateTable

/-!
`DiameterCCClientSession` and its state machine, `DiameterCCClientStateMachine`.
-/

namespace OpenDiameter.CreditControl

open OpenDiameter.Parser OpenDiameter.Framework

inductive CcClientState where
  | stIdle
  | stPendingI
  | stOpen
  | stPendingU
  | stPendingT
  | stPendingE
  | stPendingB
  | stTerminated
  deriving DecidableEq, Repr

inductive CcClientEvent where
  | initialRequest
  | initialAnswer
  | successfulAnswer
  | terminationRequest
  | terminationAnswer
  | successfulTerminationAnswer
  | grantWoSession
  | terminateService
  | txExpired
  | txContinue
  | serviceTerminated
  | changeInRating
  | grantedUnitsElapsed
  | sentUpdateRequest
  | rarReceived
  | updateAnswer
  | tccExpired
  | failure
  | directDebitingRequest
  | directDebitingAnswer
  | refundAccountRequest
  | refundAccountAnswer
  | checkBalanceRequest
  | checkBalanceAnswer
  | priceEnquiryRequest
  | priceEnquiryAnswer
  | storedEventSent
  | grantService
  | storeRequestWithTFlag
  | storeRequest
  | failedAnswer
  | failureToSend
  | sgDisconnect
  | sgSessionTimeout
  | sgAuthLifetimeTimeout
  | sgTimeout
  deriving DecidableEq, Repr

/-- The actions that do more than log. -/
inductive CcClientAction where
  | initialRequest
  | initialAnswer
  /-- `AcTerminationRequest`, and those of the four event requests. -/
  | sendRequest
  | txExpired
  deriving DecidableEq, Repr

/-- `DiameterCCClientStateTable_S` -/
def ccClientTable : StateTable CcClientState CcClientEvent CcClientAction :=
  [⟨.stIdle, some .initialRequest, .stPendingI, some .initialRequest⟩,
    ⟨.stIdle, some .directDebitingRequest, .stPendingE, some .sendRequest⟩,
    ⟨.stIdle, some .refundAccountRequest, .stPendingE, some .sendRequest⟩,
    ⟨.stIdle, some .checkBalanceRequest, .stPendingE, some .sendRequest⟩,
    ⟨.stIdle, some .priceEnquiryRequest, .stPendingE, some .sendRequest⟩,
    ⟨.stIdle, some .storedEventSent, .stPendingB, none⟩,
    ⟨.stIdle, some .initialAnswer, .stIdle, none⟩,
    ⟨.stIdle, none, .stTerminated, none⟩,
    ⟨.stPendingI, some .initialAnswer, .stOpen, some .initialAnswer⟩,
    ⟨.stPendingI, some .grantWoSession, .stIdle, none⟩,
    ⟨.stPendingI, some .terminateService, .stIdle, none⟩,
    ⟨.stPendingI, some .txExpired, .stPendingI, some .txExpired⟩,
    ⟨.stPendingI, some .grantService, .stPendingI, none⟩,
    ⟨.stPendingI, some .serviceTerminated, .stPendingI, none⟩,
    ⟨.stPendingI, some .changeInRating, .stPendingI, none⟩,
    ⟨.stPendingI, none, .stTerminated, none⟩,
    ⟨.stOpen, some .grantedUnitsElapsed, .stOpen, none⟩,
    ⟨.stOpen, some .sentUpdateRequest, .stPendingU, none⟩,
    ⟨.stOpen, some .terminationRequest, .stPendingT, some .sendRequest⟩,
    ⟨.stOpen, some .changeInRating, .stPendingU, none⟩,
    ⟨.stOpen, some .serviceTerminated, .stPendingT, none⟩,
    ⟨.stOpen, some .rarReceived, .stPendingU, none⟩,
    ⟨.stOpen, none, .stTerminated, none⟩,
    ⟨.stPendingU, some .updateAnswer, .stOpen, none⟩,
    ⟨.stPendingU, some .grantWoSession, .stIdle, none⟩,
    ⟨.stPendingU, some .terminateService, .stIdle, none⟩,
    ⟨.stPendingU, some .tccExpired, .stPendingU, none⟩,
    ⟨.stPendingU, some .grantService, .stPendingU, none⟩,
    ⟨.stPendingU, some .serviceTerminated, .stPendingU, none⟩,
    ⟨.stPendingU, some .changeInRating, .stPendingU, none⟩,
    ⟨.stPendingU, some .rarReceived, .stPendingU, none⟩,
    ⟨.stPendingU, none, .stTerminated, none⟩,
    ⟨.stPendingT, some .successfulTerminationAnswer, .stIdle, none⟩,
    ⟨.stPendingT, some .terminationAnswer, .stIdle, none⟩,
    ⟨.stPendingT, some .failure, .stIdle, none⟩,
    ⟨.stPendingT, some .changeInRating, .stPendingT, none⟩,
    ⟨.stPendingT, none, .stTerminated, none⟩,
    ⟨.stPendingE, some .directDebitingAnswer, .stIdle, none⟩,
    ⟨.stPendingE, some .refundAccountAnswer, .stIdle, none⟩,
    ⟨.stPendingE, some .checkBalanceAnswer, .stIdle, none⟩,
    ⟨.stPendingE, some .priceEnquiryAnswer, .stIdle, none⟩,
    ⟨.stPendingE, some .failure, .stIdle, none⟩,
    ⟨.stPendingE, some .terminateService, .stIdle, none⟩,
    ⟨.stPendingE, some .grantService, .stIdle, none⟩,
    ⟨.stPendingE, some .tccExpired, .stPendingE, none⟩,
    ⟨.stPendingE, some .storeRequestWithTFlag, .stIdle, none⟩,
    ⟨.stPendingE, some .storeRequest, .stIdle, none⟩,
    ⟨.stPendingE, none, .stTerminated, none⟩,
    ⟨.stPendingB, some .successfulAnswer, .stIdle, none⟩,
    ⟨.stPendingB, some .failedAnswer, .stIdle, none⟩,
    ⟨.stPendingB, some .failureToSend, .stIdle, none⟩,
    ⟨.stPendingB, none, .stTerminated, none⟩]

def creditControlFailureHandlingTerminate : UInt32 := 0
def creditControlFailureHandlingContinue : UInt32 := 1
def creditControlFailureHandlingRetryAndTerminate : UInt32 := 2

/-- What the application does when its functions are called. -/
structure CcClientCallbacks where
  /-- Its own `InitialRequest` and so on fill in the record of the request. -/
  fillRequest : CcrData → CcrData := id
  /-- `CreditControlFailureHandling` of the account of the first subscription. -/
  failureHandling : UInt32 := creditControlFailureHandlingTerminate

structure CcClient where
  state : CcClientState
  ccrData : CcrData
  ccaData : CcaData
  /-- The Tx timer is scheduled. -/
  tx : Bool
  /-- The session was told that Tx expired, since it came to the state. -/
  expired : Bool
  queue : List CcClientEvent
  /-- The last request is the first one of the list. -/
  sent : List Ccr
  deriving DecidableEq, Repr

namespace CcClient

/-- The session that was started. -/
def initial : CcClient where
  state := .stIdle
  ccrData := .initial
  ccaData := .initial
  tx := false
  expired := false
  queue := []
  sent := []

variable (callbacks : CcClientCallbacks) (session : CcClient)

/-- `Notify` -/
def notify (event : CcClientEvent) : CcClient :=
  { session with queue := session.queue ++ [event] }

/-- `SendCCR`, where the message is sent. -/
def sendCcr : CcClient :=
  { session with sent := session.ccrData.parseAppToRaw :: session.sent }

/-- `CreditControlFailureHandling` -/
def handleFailure : CcClient :=
  if callbacks.failureHandling = creditControlFailureHandlingTerminate then
    session.notify .terminateService
  else if callbacks.failureHandling = creditControlFailureHandlingContinue ∨
      callbacks.failureHandling = creditControlFailureHandlingRetryAndTerminate then
    session.notify .grantService
  else session

def fillRequest : CcClient :=
  { session with ccrData := callbacks.fillRequest session.ccrData }

def act : CcClientAction → CcClient
  | .initialRequest => { (session.fillRequest callbacks).sendCcr with tx := true }
  | .initialAnswer => { session with tx := false }
  | .sendRequest => (session.fillRequest callbacks).sendCcr
  | .txExpired =>
    let session := { session with tx := false, expired := true }
    if session.ccrData.ccRequestType.value = ccTypeEventRequest then session
    else session.handleFailure callbacks

/-- `Event` -/
def event (event : CcClientEvent) : CcClient :=
  match ccClientTable.find session.state event with
  | none => session
  | some entry =>
    let session := { session with
      state := entry.nextState
      expired := session.expired && entry.nextState = session.state }
    match entry.action with
    | none => session
    | some action => act callbacks session action

/-- `Serve` -/
def serve : CcClient :=
  match session.queue with
  | [] => session
  | next :: queue => event callbacks { session with queue := queue } next

/-- The event of an answer. -/
def answerEvent : CcRequest → CcClientEvent
  | .initial => .initialAnswer
  | .update => .updateAnswer
  | .termination => .terminationAnswer
  | .directDebiting => .directDebitingAnswer
  | .refundAccount => .refundAccountAnswer
  | .checkBalance => .checkBalanceAnswer
  | .priceEnquiry => .priceEnquiryAnswer

/-- `CCA_Handler::HandleMessage` -/
def rxAnswer (msg : Cca) : CcClient :=
  let session := { session with ccaData := session.ccaData.parseRawToApp msg }
  if session.ccaData.ccRequestType.isSet then
    match kindOf session.ccaData.ccRequestType.value session.ccrData.requestedAction.value with
    | none => session
    | some kind => session.notify (answerEvent kind)
  else session

end CcClient

/-- What happens to a client. -/
inductive CcClientInput where
  /-- The application, or the base session. -/
  | notify (event : CcClientEvent)
  /-- The application changes the record of the request. -/
  | fillRequest (callbacks : CcClientCallbacks)
  /-- The application sends the request itself. -/
  | sendCcr
  | rxAnswer (msg : Cca)
  /-- The Tx timer. -/
  | timeout
  | serve (callbacks : CcClientCallbacks)

namespace CcClient

def step (input : CcClientInput) (session : CcClient) : CcClient :=
  match input with
  | .notify event => session.notify event
  | .fillRequest callbacks => session.fillRequest callbacks
  | .sendCcr => session.sendCcr
  | .rxAnswer msg => session.rxAnswer msg
  | .timeout => if session.tx then session.notify .txExpired else session
  | .serve callbacks => session.serve callbacks

def run (inputs : List CcClientInput) (session : CcClient) : CcClient :=
  inputs.foldl (fun session input => session.step input) session

end CcClient

end OpenDiameter.CreditControl
