import OpenDiameter.CreditControl.ClientEvents
import OpenDiameter.CreditControl.ServerEvents

/-!
A client and a server of credit control, with the messages on their way between them.
-/

namespace OpenDiameter.CreditControl

open OpenDiameter.Parser

/-- What a request of the kind carries. -/
def typeOf : CcRequest → UInt32
  | .initial => ccTypeInitialRequest
  | .update => ccTypeUpdateRequest
  | .termination => ccTypeTerminationRequest
  | _ => ccTypeEventRequest

def actionOf : CcRequest → Option UInt32
  | .directDebiting => some ccActionDirectDebiting
  | .refundAccount => some ccActionRefundAccount
  | .checkBalance => some ccActionCheckBalance
  | .priceEnquiry => some ccActionPriceEnquiry
  | _ => none

/-- The application fills in the record for a request of the kind. -/
def fillFor (kind : CcRequest) (number : UInt32) (own : CcrData) : CcrData where
  ccRequestType := .of (typeOf kind)
  ccRequestNumber := .of number
  requestedAction := own.requestedAction.copyFrom (actionOf kind)

/-- The event with which the application asks for a request of the kind. -/
def requestEvent : CcRequest → CcClientEvent
  | .initial => .initialRequest
  | .update => .sentUpdateRequest
  | .termination => .terminationRequest
  | .directDebiting => .directDebitingRequest
  | .refundAccount => .refundAccountRequest
  | .checkBalance => .checkBalanceRequest
  | .priceEnquiry => .priceEnquiryRequest

/-- The request that an action sends for the event. -/
def sentFor : CcClientEvent → Option CcRequest
  | .initialRequest => some .initial
  | .terminationRequest => some .termination
  | .directDebitingRequest => some .directDebiting
  | .refundAccountRequest => some .refundAccount
  | .checkBalanceRequest => some .checkBalance
  | .priceEnquiryRequest => some .priceEnquiry
  | _ => none

/-- Each list of messages starts with the one that comes first. -/
structure CcExchange where
  client : CcClient
  server : CcServer
  requests : List Ccr
  answers : List Cca
  deriving DecidableEq, Repr

inductive CcExchangeInput where
  | request (kind : CcRequest) (number : UInt32)
  | txTimeout
  | tccTimeout
  | deliverRequest
  | deliverAnswer
  /-- The number is the one of a request that is sent. -/
  | serveClient (number failureHandling : UInt32)
  | serveServer (verdicts : CcVerdicts)

namespace CcExchange

def initial : CcExchange := ⟨.initial, .initial, [], []⟩

/-- The application fills in the request of the event that is served. -/
def callbacksFor (number failureHandling : UInt32) (client : CcClient) : CcClientCallbacks where
  fillRequest := fun own =>
    match client.queue.head?.bind sentFor with
    | none => own
    | some kind => fillFor kind number own
  failureHandling := failureHandling

/-- The requests that the client sent set out. -/
def withClient (exchange : CcExchange) (client : CcClient) : CcExchange :=
  { exchange with
    client := { client with sent := [] }
    requests := exchange.requests ++ client.sent.reverse }

def withServer (exchange : CcExchange) (server : CcServer) : CcExchange :=
  { exchange with
    server := { server with sent := [] }
    answers := exchange.answers ++ server.sent.reverse }

def step (input : CcExchangeInput) (exchange : CcExchange) : CcExchange :=
  match input with
  | .request kind number =>
    let client := exchange.client
    if kind = .update then
      -- The machine has no action that sends an update: the application does.
      let filled := client.fillRequest { fillRequest := fillFor .update number }
      exchange.withClient (filled.sendCcr.notify .sentUpdateRequest)
    else exchange.withClient (client.notify (requestEvent kind))
  | .txTimeout => exchange.withClient (exchange.client.step .timeout)
  | .tccTimeout => exchange.withServer (exchange.server.step .timeout)
  | .deliverRequest =>
    match exchange.requests with
    | [] => exchange
    | msg :: requests =>
      { exchange with requests := requests }.withServer (exchange.server.rxRequest msg)
  | .deliverAnswer =>
    match exchange.answers with
    | [] => exchange
    | msg :: answers =>
      { exchange with answers := answers }.withClient (exchange.client.rxAnswer msg)
  | .serveClient number failureHandling =>
    exchange.withClient
      (exchange.client.serve (callbacksFor number failureHandling exchange.client))
  | .serveServer verdicts => exchange.withServer (exchange.server.serve verdicts)

def run (inputs : List CcExchangeInput) (exchange : CcExchange) : CcExchange :=
  inputs.foldl (fun exchange input => exchange.step input) exchange

/-- No message is on its way, and no event is queued. -/
structure Quiet (exchange : CcExchange) : Prop where
  requests : exchange.requests = []
  answers : exchange.answers = []
  client : exchange.client.queue = []
  server : exchange.server.queue = []

/-- Both sessions are open, or none is. -/
def Agree (exchange : CcExchange) : Prop :=
  exchange.client.state = .stOpen ↔ exchange.server.state = .stOpen

end CcExchange

end OpenDiameter.CreditControl
