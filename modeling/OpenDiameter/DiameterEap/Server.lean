import OpenDiameter.DiameterEap.Records
import OpenDiameter.Framework.StateTable

/-!
`DiameterEapServerSession` and its state machine, `DiameterEapServerStateMachine`.
-/

namespace OpenDiameter.DiameterEap

open OpenDiameter.Parser OpenDiameter.Framework

inductive EapServerState where
  | stInitialize
  | stWaitDer
  | stCheckDer
  | stWaitAuthorization
  | stAccepted
  | stRejected
  | stWaitEapMsg
  | stTerminated
  deriving DecidableEq, Repr

inductive EapServerEvent where
  | rxEapRequest
  | rxEapSuccess
  | rxEapFailure
  | sgAuthorizationSuccess
  | sgAuthorizationFailure
  | rxDer
  | sgSessionTimeout
  | sgAuthLifetimeTimeout
  | sgAuthGracePeriodTimeout
  | sgTimeout
  | sgDisconnect
  | sgValidDer
  | sgInvalidDer
  deriving DecidableEq, Repr

inductive EapServerAction where
  | sendDeaWithContinue
  | sendDeaWithSuccess
  | sendDeaDueToAuthenticationFailure
  | sendDeaDueToAuthorizationFailure
  | sendDeaDueToInvalidDer
  | forwardEapResponse
  | checkDer
  | authorize
  deriving DecidableEq, Repr

/-- `DiameterEapServerStateTable_S` -/
def eapServerTable : StateTable EapServerState EapServerEvent EapServerAction :=
  [⟨.stInitialize, some .rxDer, .stCheckDer, some .checkDer⟩,
    ⟨.stInitialize, some .sgDisconnect, .stTerminated, none⟩,
    ⟨.stInitialize, none, .stTerminated, none⟩,
    ⟨.stCheckDer, some .sgValidDer, .stWaitEapMsg, some .forwardEapResponse⟩,
    ⟨.stCheckDer, some .sgInvalidDer, .stRejected, some .sendDeaDueToInvalidDer⟩,
    ⟨.stWaitDer, some .rxDer, .stCheckDer, some .checkDer⟩,
    ⟨.stWaitDer, some .sgDisconnect, .stTerminated, none⟩,
    ⟨.stWaitDer, none, .stTerminated, none⟩,
    ⟨.stWaitEapMsg, some .rxEapRequest, .stWaitDer, some .sendDeaWithContinue⟩,
    ⟨.stWaitEapMsg, some .rxEapSuccess, .stWaitAuthorization, some .authorize⟩,
    ⟨.stWaitEapMsg, some .rxEapFailure, .stRejected, some .sendDeaDueToAuthenticationFailure⟩,
    ⟨.stWaitEapMsg, some .sgDisconnect, .stTerminated, none⟩,
    ⟨.stWaitEapMsg, none, .stTerminated, none⟩,
    ⟨.stWaitAuthorization, some .sgAuthorizationSuccess, .stAccepted, some .sendDeaWithSuccess⟩,
    ⟨.stWaitAuthorization, some .sgAuthorizationFailure, .stRejected,
      some .sendDeaDueToAuthorizationFailure⟩,
    ⟨.stWaitAuthorization, some .sgDisconnect, .stTerminated, none⟩,
    ⟨.stWaitAuthorization, none, .stTerminated, none⟩,
    ⟨.stAccepted, some .rxDer, .stCheckDer, some .checkDer⟩,
    ⟨.stAccepted, some .sgDisconnect, .stTerminated, none⟩,
    ⟨.stAccepted, none, .stTerminated, none⟩,
    ⟨.stRejected, none, .stRejected, none⟩,
    ⟨.stTerminated, none, .stTerminated, none⟩]

/-- `AUTH_REQUEST_TYPE_AUTHENTICATION_ONLY` and so on -/
def authenticationOnly : UInt32 := 1

def authorizeAuthenticate : UInt32 := 3

def aaaMultiRoundAuth : UInt32 := 1001

def aaaSuccess : UInt32 := 2001

def aaaAuthenticationRejected : UInt32 := 4001

def aaaAuthorizationRejected : UInt32 := 5003

def aaaInvalidAvpValue : UInt32 := 5004

/-! `Authorize` -/

/-- The functions `AuthorizeOriginHost` and so on. -/
inductive Authorizer where
  | originHost
  | originRealm
  | multiRoundTimeOut
  | serviceType
  | class_
  | configurationToken
  | acctInterimInterval
  | idleTimeout
  | authorizationLifetime
  | authGracePeriod
  | authSessionState
  | reAuthRequestType
  | sessionTimeout
  | filterId
  | portLimit
  | callbackId
  | callbackNumber
  | framedAppletalkLink
  | framedAppletalkZone
  | framedAppletalkNetwork
  | framedCompression
  | framedInterfaceId
  | framedIpAddress
  | framedIpv6Prefix
  | framedIpv6Pool
  | framedPool
  | framedIpv6Route
  | framedRoute
  | framedIpNetmask
  | framedIpxNetwork
  | framedMtu
  | framedProtocol
  | framedRouting
  | nasFilterRule
  | tunneling
  | eapMasterSessionKey
  | accountingEapAuthMethod
  deriving DecidableEq, Repr

namespace Authorizer

/-- The attribute of the answer that the function may enforce a value of. -/
def enforced : Authorizer → Option DeaAttribute
  | .originHost => none
  | .originRealm => none
  | .multiRoundTimeOut => some .multiRoundTimeOut
  | .serviceType => some .serviceType
  | .class_ => some .class_
  | .configurationToken => some .configurationToken
  | .acctInterimInterval => some .acctInterimInterval
  | .idleTimeout => some .idleTimeout
  | .authorizationLifetime => some .authorizationLifetime
  | .authGracePeriod => some .authGracePeriod
  | .authSessionState => some .authSessionState
  | .reAuthRequestType => some .reAuthRequestType
  | .sessionTimeout => some .sessionTimeout
  | .filterId => some .filterId
  | .portLimit => some .portLimit
  | .callbackId => some .callbackId
  | .callbackNumber => some .callbackNumber
  | .framedAppletalkLink => some .framedAppletalkLink
  | .framedAppletalkZone => some .framedAppletalkZone
  | .framedAppletalkNetwork => some .framedAppletalkNetwork
  | .framedCompression => some .framedCompression
  | .framedInterfaceId => some .framedInterfaceId
  | .framedIpAddress => some .framedIpAddress
  | .framedIpv6Prefix => some .framedIpv6Prefix
  | .framedIpv6Pool => some .framedIpv6Pool
  | .framedPool => some .framedPool
  | .framedIpv6Route => some .framedIpv6Route
  | .framedRoute => some .framedRoute
  | .framedIpNetmask => some .framedIpNetmask
  | .framedIpxNetwork => some .framedIpxNetwork
  | .framedMtu => some .framedMtu
  | .framedProtocol => some .framedProtocol
  | .framedRouting => some .framedRouting
  | .nasFilterRule => some .nasFilterRule
  | .tunneling => some .tunneling
  | .eapMasterSessionKey => some .eapMasterSessionKey
  | .accountingEapAuthMethod => some .accountingEapAuthMethod

/-- The attribute of the request that the form with two arguments is given. -/
def requested : Authorizer → Option DerAttribute
  | .serviceType => some .serviceType
  | .class_ => some .class_
  | .portLimit => some .portLimit
  | .callbackNumber => some .callbackNumber
  | .framedCompression => some .framedCompression
  | .framedInterfaceId => some .framedInterfaceId
  | .framedIpAddress => some .framedIpAddress
  | .framedIpv6Prefix => some .framedIpv6Prefix
  | .framedIpNetmask => some .framedIpNetmask
  | .framedMtu => some .framedMtu
  | .framedProtocol => some .framedProtocol
  | .tunneling => some .tunneling
  | _ => none

end Authorizer

/-- `IsSet` -/
def AttributeShape.isSet : (shape : AttributeShape) → shape.Content → Bool
  | .scholar _, content => content.isSet
  | .vector _, content => content.isSet
  | .tunneling, content => content.isSet
  | .proxyInfo, content => content.isSet

def DerData.isSet (der : DerData) (attr : DerAttribute) : Bool := attr.shape.isSet (der attr)

structure AuthorizeCall where
  authorizer : Authorizer
  /-- The form with two arguments. -/
  requested : Bool
  deriving DecidableEq, Repr

/-- The call that is meant for a request: with the value that it carries, if it does. -/
def DerData.applicable (der : DerData) (authorizer : Authorizer) : AuthorizeCall :=
  ⟨authorizer, (authorizer.requested.map der.isSet).getD false⟩

/-- The statements of `Authorize`, where `r` is a variable of it. -/
inductive AuthorizeStatement where
  /-- `if (!AuthorizeX(..)) return false;` -/
  | test (call : AuthorizeCall)
  /-- `r = AuthorizeX(..);` -/
  | assign (call : AuthorizeCall)
  /-- `AuthorizeX(..);` -/
  | drop (call : AuthorizeCall)
  /-- `if (!r) return false;` -/
  | testR
  deriving DecidableEq, Repr

namespace AuthorizeStatement

def single (authorizer : Authorizer) : List AuthorizeStatement := [.test ⟨authorizer, false⟩]

def either (der : DerData) (authorizer : Authorizer) : List AuthorizeStatement :=
  [.assign (der.applicable authorizer), .testR]

/-- The statements, as far as they depend on the attributes that the request carries. -/
def all (der : DerData) : List AuthorizeStatement :=
  single .originHost ++ single .originRealm ++ either der .class_ ++
    single .configurationToken ++ single .acctInterimInterval ++ either der .serviceType ++
    single .idleTimeout ++ single .authorizationLifetime ++ single .authGracePeriod ++
    single .authSessionState ++ single .reAuthRequestType ++ single .sessionTimeout ++
    single .filterId ++ either der .portLimit ++
    [.drop ⟨.callbackId, false⟩, .drop (der.applicable .callbackNumber), .testR] ++
    single .framedAppletalkLink ++ single .framedAppletalkZone ++
    single .framedAppletalkNetwork ++
    -- the form with the requested value is called where there is none
    [.assign ⟨.framedCompression, !der.isSet .framedCompression⟩, .testR] ++
    either der .framedInterfaceId ++
    [if der.isSet .framedIpAddress then .assign ⟨.framedIpAddress, true⟩
      else .drop ⟨.framedIpAddress, false⟩, .testR] ++
    either der .framedIpv6Prefix ++ single .framedIpv6Pool ++ single .framedPool ++
    single .framedIpv6Route ++ single .framedRoute ++ either der .framedIpNetmask ++
    single .framedIpxNetwork ++ either der .framedMtu ++ either der .framedProtocol ++
    single .framedRouting ++ single .nasFilterRule ++ either der .tunneling ++
    single .eapMasterSessionKey ++ single .accountingEapAuthMethod

end AuthorizeStatement

/-- The functions of the application. -/
structure EapServerPolicy where
  authorize : AuthorizeCall → Bool
  /-- What an authorization function makes of its attribute of the answer. -/
  enforce : (attr : DeaAttribute) → attr.shape.Content → attr.shape.Content
  setReplyMessage : UInt32 → DeaAttribute.replyMessage.shape.Content →
    DeaAttribute.replyMessage.shape.Content
  setReissuedEapPayload : DeaAttribute.eapReissuedPayload.shape.Content →
    DeaAttribute.eapReissuedPayload.shape.Content
  validateUserName : List UInt8 → Bool
  validateState : List UInt8 → List UInt8 → Bool
  setState : DeaAttribute.state.shape.Content → DeaAttribute.state.shape.Content
  /-- The message can be built and is sent. -/
  sends : DeaData → Bool

def EapServerPolicy.enforced (policy : EapServerPolicy) (authorizer : Authorizer)
    (dea : DeaData) : DeaData :=
  match authorizer.enforced with
  | none => dea
  | some attr => Function.update dea attr (policy.enforce attr (dea attr))

/-- A call of an authorization function, with the record that `DER` was then. -/
structure MadeCall where
  call : AuthorizeCall
  der : DerData
  verdict : Bool

/-- A message that was sent, with the requests of its authentication and what was called in it. -/
structure SentDea where
  dea : DeaData
  ders : List DerData
  calls : List MadeCall
  /-- What the EAP server gave for the request that is answered. -/
  produced : Option (List UInt8)
  /-- The key that it gave with it, as the authorization function for it left it. -/
  key : Option (ScholarAttribute (List UInt8))

namespace SentDea

variable (sent : SentDea)

def resultCode : UInt32 :=
  let resultCode : ScholarAttribute UInt32 := sent.dea .resultCode
  resultCode.value

def authRequestType : UInt32 :=
  let requestType : ScholarAttribute UInt32 := sent.dea .authRequestType
  requestType.value

def eapPayload : ScholarAttribute (List UInt8) := sent.dea .eapPayload

def eapMasterSessionKey : ScholarAttribute (List UInt8) := sent.dea .eapMasterSessionKey

end SentDea

structure EapServer where
  state : EapServerState
  queue : List EapServerEvent
  authorizationDone : Bool
  derData : DerData
  deaData : DeaData
  /-- The requests of the authentication that is under way. -/
  ders : List DerData
  /-- The authorization functions called in it. -/
  calls : List MadeCall
  /-- The responses that the EAP server was given, the last one first. -/
  forwarded : List (List UInt8)
  /-- It has not yet answered the last one. -/
  outstanding : Bool
  produced : Option (List UInt8)
  key : Option (ScholarAttribute (List UInt8))
  /-- The last message is the first one of the list. -/
  sent : List SentDea

namespace EapServer

/-- The session that was started. -/
def initial : EapServer where
  state := .stInitialize
  queue := []
  authorizationDone := false
  derData := .new
  deaData := .new
  ders := []
  calls := []
  forwarded := []
  outstanding := false
  produced := none
  key := none
  sent := []

variable (policy : EapServerPolicy)

/-- `Notify` -/
def notify (event : EapServerEvent) (sm : EapServer) : EapServer :=
  { sm with queue := sm.queue ++ [event] }

def setDea (attr : DeaAttribute) (content : attr.shape.Content) (sm : EapServer) : EapServer :=
  { sm with deaData := Function.update sm.deaData attr content }

/-- `SendDEA` -/
def sendDea (sm : EapServer) : EapServer :=
  let sm := sm.setDea .authApplicationId (.of eapApplicationId)
  let message : SentDea := ⟨sm.deaData, sm.ders, sm.calls, sm.produced, sm.key⟩
  { sm with sent := if policy.sends sm.deaData then message :: sm.sent else sm.sent }

/-- An authorization function is called. -/
def call (call : AuthorizeCall) (sm : EapServer) : EapServer :=
  { sm with
    deaData := policy.enforced call.authorizer sm.deaData
    calls := ⟨call, sm.derData, policy.authorize call⟩ :: sm.calls
    key :=
      if call.authorizer = .eapMasterSessionKey then
        sm.key.map (policy.enforce .eapMasterSessionKey)
      else sm.key }

def runStatements : List AuthorizeStatement → (r : Bool) → EapServer → Bool × EapServer
  | [], _, sm => (true, sm)
  | .test call :: rest, r, sm =>
    if policy.authorize call then runStatements rest r (sm.call policy call)
    else (false, sm.call policy call)
  | .assign call :: rest, _, sm =>
    runStatements rest (policy.authorize call) (sm.call policy call)
  | .drop call :: rest, r, sm => runStatements rest r (sm.call policy call)
  | .testR :: rest, r, sm => if r then runStatements rest r sm else (false, sm)

/-- `Authorize` -/
def authorize (sm : EapServer) : Bool × EapServer :=
  let requestType : ScholarAttribute UInt32 := sm.deaData .authRequestType
  if requestType.value = authenticationOnly then (true, sm)
  else
    match runStatements policy (AuthorizeStatement.all sm.derData) false sm with
    | (true, sm) => (true, { sm with authorizationDone := true })
    | (false, sm) => (false, sm)

/-- The Class check of `CheckDER`. -/
def checkClass (der : DerData) (dea : DeaData) : Bool :=
  let own : VectorAttribute (List UInt8) := dea .class_
  let received : VectorAttribute (List UInt8) := der .class_
  own.values.all fun value => received.values.contains value

/-- The State check of `CheckDER`. -/
def checkState (der : DerData) (dea : DeaData) : Bool × DeaData :=
  let own : ScholarAttribute (List UInt8) := dea .state
  let received : ScholarAttribute (List UInt8) := der .state
  if own.isSet then
    if received.isSet && policy.validateState received.value own.value then
      (true, Function.update dea .state (policy.setState (dea .state)))
    else (false, dea)
  else (true, dea)

/-- The UserName check of `CheckDER`, and the one after it. -/
def checkUserName (der : DerData) (dea : DeaData) : Bool × DeaData :=
  let userName : ScholarAttribute (List UInt8) := der .userName
  if userName.isSet then
    if policy.validateUserName userName.value then
      checkState policy der (Function.update dea .userName (der .userName))
    else (false, dea)
  else checkState policy der dea

/-- `CheckDER` -/
def checkDer (sm : EapServer) : Bool × EapServer :=
  let requestType : ScholarAttribute UInt32 := sm.derData .authRequestType
  if requestType.value ≠ authenticationOnly ∧ requestType.value ≠ authorizeAuthenticate then
    (false, sm)
  else
    let sm := (sm.setDea .authRequestType (sm.derData .authRequestType)).call policy
      ⟨.multiRoundTimeOut, false⟩
    if !requestType.isSet then (false, sm)
    else if checkClass sm.derData sm.deaData then
      let checked := checkUserName policy sm.derData sm.deaData
      (checked.1, { sm with deaData := checked.2 })
    else (false, sm)

/-- The actions, with `Event` as it serves the event that an action raises. -/
def act (event : EapServerEvent → EapServer → EapServer) (sm : EapServer) :
    EapServerAction → EapServer
  | .sendDeaWithContinue =>
    let sm := sm.setDea .resultCode (.of aaaMultiRoundAuth)
    let sm := sm.setDea .replyMessage (policy.setReplyMessage aaaMultiRoundAuth .unset)
    let payload : ScholarAttribute (List UInt8) := sm.deaData .eapReissuedPayload
    let sm := sm.setDea .eapReissuedPayload
      (policy.setReissuedEapPayload { payload with isSet := false })
    sm.sendDea policy
  | .sendDeaWithSuccess => (sm.setDea .resultCode (.of aaaSuccess)).sendDea policy
  | .sendDeaDueToAuthenticationFailure =>
    (sm.setDea .resultCode (.of aaaAuthenticationRejected)).sendDea policy
  | .sendDeaDueToAuthorizationFailure =>
    let payload : ScholarAttribute (List UInt8) := sm.deaData .eapPayload
    let sm := sm.setDea .eapPayload { payload with isSet := false }
    (sm.setDea .resultCode (.of aaaAuthorizationRejected)).sendDea policy
  | .sendDeaDueToInvalidDer => (sm.setDea .resultCode (.of aaaInvalidAvpValue)).sendDea policy
  | .forwardEapResponse =>
    let payload : ScholarAttribute (List UInt8) := sm.derData .eapPayload
    { sm with forwarded := payload.value :: sm.forwarded, outstanding := true }
  | .checkDer =>
    let sm := { sm with ders := sm.derData :: sm.ders, produced := none, key := none }
    match sm.checkDer policy with
    | (true, sm) => event .sgValidDer sm
    | (false, sm) => event .sgInvalidDer sm
  | .authorize =>
    if sm.authorizationDone then event .sgAuthorizationSuccess sm
    else
      match sm.authorize policy with
      | (true, sm) => event .sgAuthorizationSuccess sm
      | (false, sm) => event .sgAuthorizationFailure sm

/-- `Event`, for as many events as are open at a time. -/
def eventIn : (depth : Nat) → EapServerEvent → EapServer → EapServer
  | 0, _, sm => sm
  | depth + 1, event, sm =>
    match eapServerTable.find sm.state event with
    | none => sm
    | some entry =>
      let sm := { sm with state := entry.nextState }
      match entry.action with
      | none => sm
      | some action => act policy (eventIn depth) sm action

/-- A request is checked and forwarded, or a success authorized and answered. -/
def event (event : EapServerEvent) (sm : EapServer) : EapServer := eventIn policy 2 event sm

/-- A request that starts an authentication. -/
def Starts (event : EapServerEvent) (sm : EapServer) : Prop :=
  event = .rxDer ∧ (sm.state = .stInitialize ∨ sm.state = .stAccepted)

instance (event : EapServerEvent) (sm : EapServer) : Decidable (sm.Starts event) :=
  inferInstanceAs (Decidable (_ ∧ _))

/-- `Serve` -/
def serve (sm : EapServer) : EapServer :=
  match sm.queue with
  | [] => sm
  | queued :: queue =>
    let sm := { sm with queue := queue }
    event policy queued (if sm.Starts queued then { sm with ders := [], calls := [] } else sm)

/-- `DER_Handler::HandleMessage`, where the record is read from the message as far as that can
be parsed. -/
def rxDer (der : DerData) (parsed : Bool) (sm : EapServer) : EapServer :=
  { sm with derData := der, queue := if parsed then sm.queue ++ [.rxDer] else sm.queue }

/-- `SignalContinue`, `SignalSuccess` and `SignalFailure`, with the event that they notify. -/
def signal (event : EapServerEvent) (eapMsg : List UInt8) (key : Option (List UInt8))
    (sm : EapServer) : EapServer :=
  let dea := Function.update sm.deaData .eapPayload (.of eapMsg)
  { sm with
    deaData := match key with
      | none => dea
      | some key => Function.update dea .eapMasterSessionKey (.of key)
    outstanding := false
    produced := some eapMsg
    key := key.map .of }.notify event

def signalContinue (eapMsg : List UInt8) (sm : EapServer) : EapServer :=
  sm.signal .rxEapRequest eapMsg none

def signalSuccess (eapMsg : List UInt8) (key : Option (List UInt8)) (sm : EapServer) : EapServer :=
  sm.signal .rxEapSuccess eapMsg key

def signalFailure (eapMsg : List UInt8) (sm : EapServer) : EapServer :=
  sm.signal .rxEapFailure eapMsg none

end EapServer

/-- What happens to a session. -/
inductive EapServerInput where
  | rxDer (der : DerData) (parsed : Bool)
  | signalContinue (eapMsg : List UInt8)
  | signalSuccess (eapMsg : List UInt8) (key : Option (List UInt8))
  | signalFailure (eapMsg : List UInt8)
  /-- An EAP method has the request authorized. -/
  | authorize (policy : EapServerPolicy)
  | disconnect
  | sessionTimeout
  | authLifetimeTimeout
  | authGracePeriodTimeout
  | timeout
  | serve (policy : EapServerPolicy)

namespace EapServer

def step (input : EapServerInput) (sm : EapServer) : EapServer :=
  match input with
  | .rxDer der parsed => sm.rxDer der parsed
  | .signalContinue eapMsg => sm.signalContinue eapMsg
  | .signalSuccess eapMsg key => sm.signalSuccess eapMsg key
  | .signalFailure eapMsg => sm.signalFailure eapMsg
  | .authorize policy => (sm.authorize policy).2
  | .disconnect => sm.notify .sgDisconnect
  | .sessionTimeout => sm.notify .sgSessionTimeout
  | .authLifetimeTimeout => sm.notify .sgAuthLifetimeTimeout
  | .authGracePeriodTimeout => sm.notify .sgAuthGracePeriodTimeout
  | .timeout => sm.notify .sgTimeout
  | .serve policy => sm.serve policy

def run (inputs : List EapServerInput) (sm : EapServer) : EapServer :=
  inputs.foldl (fun sm input => sm.step input) sm

end EapServer

end OpenDiameter.DiameterEap
