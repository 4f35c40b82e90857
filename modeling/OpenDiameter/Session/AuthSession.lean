import OpenDiameter.Framework.StateTable
import OpenDiameter.Session.SessionId

/-!
What the authorization sessions of a client and of a server have in common: their attributes,
their timers, and the ids and AVPs that `TxDelivery` gives a message.
-/

namespace OpenDiameter.Session

open OpenDiameter.Router OpenDiameter.Framework

inductive AuthState where
  | stIdle
  | stPending
  | stOpen
  | stDisc
  deriving DecidableEq, Repr

inductive AuthEvent where
  | requestAccess
  | rxAsr
  | rxAsaOk
  | rxAsaFail
  | rxAsrUsid
  | rxAsrOk
  | rxAsrRetry
  | txAsrFail
  | rxStr
  | rxSta
  | txSsar
  | rxSsar
  | txSsaa
  | rxSsaa
  | rxRar
  | rxRaa
  | ssarOk
  | ssarFail
  | ssaaOk
  | ssaaNoSvc
  | ssaaError
  | ssaaFail
  | reAuth
  | lifetimeTout
  | sessionToutSt
  | sessionToutNoSt
  | sessionReclaim
  | abort
  | stop
  deriving DecidableEq, Repr

/-- `AAAReturnCode`, as the sessions look at it. -/
inductive ReturnCode where
  | success
  | failure
  | incomplete
  | noService
  | msgUnprocessed
  | other
  deriving DecidableEq, Repr

inductive TimerType where
  | asr
  | session
  | auth
  deriving DecidableEq, Repr

/-- A timer that is scheduled comes again and again until it is cancelled. -/
structure Timer where
  event : AuthEvent
  seconds : UInt32
  deriving DecidableEq, Repr

def sessionStateMaintained : UInt32 := 0
def authSessionGracePeriod : UInt32 := 5
def authSessionReclamationPeriod : UInt32 := 60

def msgCodeReAuth : UInt32 := 258
def msgCodeAbortSession : UInt32 := 274
def msgCodeSessionTermination : UInt32 := 275

def success : UInt32 := 2001
def realmNotServed : UInt32 := 3003
def authorizationRejected : UInt32 := 5003
def avpUnsupported : UInt32 := 5001
def unableToComply : UInt32 := 5012

/-- A message, with the first value of each AVP that the sessions read or set. -/
structure AuthMsg where
  request : Bool
  code : UInt32
  hh : UInt32 := 0
  ee : UInt32 := 0
  sessionId : Option SessionId := none
  originHost : Option Octets := none
  originRealm : Option Octets := none
  destHost : Option Octets := none
  destRealm : Option Octets := none
  userName : Option Octets := none
  authAppId : Option UInt32 := none
  resultCode : Option UInt32 := none
  terminationCause : Option UInt32 := none
  reAuthRequestType : Option UInt32 := none
  authSessionState : Option UInt32 := none
  sessionTimeout : Option UInt32 := none
  authLifetime : Option UInt32 := none
  authGrace : Option UInt32 := none
  deriving DecidableEq, Repr

/-- `DiameterNegotiatedAttribute` -/
structure NegotiatedAttribute where
  value : UInt32
  isNegotiated : Bool := false
  deriving DecidableEq, Repr

namespace NegotiatedAttribute

def assign (own : NegotiatedAttribute) (value : UInt32) : NegotiatedAttribute :=
  { own with value }

def set (value : UInt32) : NegotiatedAttribute :=
  ⟨value, true⟩

/-- The value that a message takes along: the one it has where that is no more than the own one,
which then is lowered to it. -/
def lower (own : NegotiatedAttribute) : Option UInt32 → NegotiatedAttribute × Option UInt32
  | none => (own, some own.value)
  | some tout =>
    if own.value < tout then (own, some own.value) else (own.assign tout, some tout)

/-- What `TxDelivery` of a server dictates once. -/
def dictate (own : NegotiatedAttribute) (avp : Option UInt32) :
    NegotiatedAttribute × Option UInt32 :=
  if own.isNegotiated then (own, avp)
  else
    let (own, avp) := own.lower avp
    ({ own with isNegotiated := true }, avp)

end NegotiatedAttribute

structure ReAuthValue where
  resultCode : UInt32
  reAuthType : UInt32
  deriving DecidableEq, Repr

/-- A hop-by-hop and an end-to-end id. -/
structure MsgIds where
  hh : UInt32
  ee : UInt32
  deriving DecidableEq, Repr

def AuthMsg.ids (msg : AuthMsg) : MsgIds :=
  ⟨msg.hh, msg.ee⟩

/-- `DiameterAuthSessionAttributes` -/
structure AuthAttributes where
  sessionId : SessionId
  lastTx : MsgIds
  lastRx : MsgIds
  applicationId : UInt32
  destinationHost : Option Octets
  destinationRealm : Option Octets
  username : Option Octets
  sessionTimeout : NegotiatedAttribute
  reAuthRequestValue : Option ReAuthValue
  authSessionState : NegotiatedAttribute
  authLifetime : NegotiatedAttribute
  authGrace : NegotiatedAttribute
  deriving DecidableEq, Repr

structure AuthConfig where
  identity : Octets
  realm : Octets
  stateful : UInt32
  sessionTm : UInt32
  lifetimeTm : UInt32
  graceTm : UInt32
  abortRetryTm : UInt32

/-- What the application, the router and the id generators answer when a session calls them. -/
structure AuthCallbacks where
  setSessionTimeout : UInt32 → Option UInt32
  setAuthLifetimeTimeout : UInt32 → Option UInt32
  setAuthGracePeriodTimeout : Option UInt32
  setAuthSessionState : UInt32 → Option UInt32
  setDestinationHost : Option Octets
  setDestinationRealm : Option Octets
  setUsername : Option Octets
  reStart : Bool
  /-- `RequestMsg` or `AnswerMsg` -/
  processMsg : AuthMsg → ReturnCode
  abortSession : Bool
  reClaimSession : Bool
  reAuthenticate : UInt32 → UInt32
  routed : AuthMsg → Bool
  hopByHop : UInt32
  endToEnd : UInt32
  sessionCounter : SessionCounter

namespace AuthAttributes

def msgIdTxMessage (callbacks : AuthCallbacks) (attributes : AuthAttributes) (msg : AuthMsg) :
    AuthAttributes × AuthMsg :=
  if msg.request then
    let hh := if msg.hh = 0 then callbacks.hopByHop else msg.hh
    let ee := if msg.ee = 0 then callbacks.endToEnd else msg.ee
    ({ attributes with lastTx := ⟨hh, ee⟩ }, { msg with hh, ee })
  else (attributes, { msg with hh := attributes.lastRx.hh, ee := attributes.lastRx.ee })

def msgIdRxMessage (attributes : AuthAttributes) (msg : AuthMsg) : AuthAttributes × Bool :=
  if msg.request then ({ attributes with lastRx := msg.ids }, true)
  else (attributes, msg.ids = attributes.lastTx)

def stateMaintained (attributes : AuthAttributes) : Bool :=
  attributes.authSessionState.value = sessionStateMaintained

end AuthAttributes

/-- A call into the state machine that a thread is about to make, or the rest of one after the
application has looked at a message. -/
inductive AuthCall where
  /-- `Notify`, with the message that goes with it. Beside them stands the request that is
  answered in it. -/
  | notify (event : AuthEvent) (msg : Option AuthMsg) (answers : Option AuthMsg)
  | delivered (msg : AuthMsg)
  deriving DecidableEq, Repr

/-- A message that was handed to the router, with the request that it answers. -/
structure AuthDelivery where
  msg : AuthMsg
  answers : Option AuthMsg
  deriving DecidableEq, Repr

structure AuthSession where
  state : AuthState
  running : Bool
  timers : TimerType → Option Timer
  asrSent : Bool
  attributes : AuthAttributes
  calls : List AuthCall
  deliveries : List AuthDelivery
  /-- The requests whose ids were taken down, the last first. -/
  recorded : List AuthMsg

namespace AuthSession

def scheduleTimer (session : AuthSession) (event : AuthEvent) (seconds : UInt32)
    (type : TimerType) : AuthSession :=
  { session with timers := Function.update session.timers type (some ⟨event, seconds⟩) }

def cancelTimer (session : AuthSession) (type : TimerType) : AuthSession :=
  { session with timers := Function.update session.timers type none }

def cancelAllTimer (session : AuthSession) : AuthSession :=
  { session with timers := fun _ => none }

def stop (session : AuthSession) : AuthSession :=
  { session with running := false }

def msgIdRxMessage (session : AuthSession) (msg : AuthMsg) : AuthSession :=
  { session with
    attributes := (session.attributes.msgIdRxMessage msg).1
    recorded := if msg.request then msg :: session.recorded else session.recorded }

def notify (session : AuthSession) (event : AuthEvent) (msg : Option AuthMsg)
    (answers : Option AuthMsg) : AuthSession :=
  { session with calls := session.calls ++ [.notify event msg answers] }

/-- `DiameterSession::TxDelivery`, with what it returns. -/
def txDelivery (config : AuthConfig) (callbacks : AuthCallbacks) (session : AuthSession)
    (msg : AuthMsg) (answers : Option AuthMsg) : AuthSession × Bool :=
  let attributes := session.attributes
  let destHost := msg.destHost.or (attributes.destinationHost.or callbacks.setDestinationHost)
  let attributes := { attributes with destinationHost := destHost }
  let destRealm := msg.destRealm.or (attributes.destinationRealm.or callbacks.setDestinationRealm)
  if destRealm.isNone && msg.request then ({ session with attributes }, false)
  else
    let attributes := { attributes with destinationRealm := destRealm }
    let userName := if attributes.username.isSome then msg.userName
      else msg.userName.or callbacks.setUsername
    let attributes := { attributes with username := attributes.username.or userName }
    let msg := { msg with
      destHost
      destRealm
      userName
      originHost := msg.originHost.or (some config.identity)
      originRealm := msg.originRealm.or (some config.realm)
      sessionId := some attributes.sessionId }
    let (attributes, msg) := attributes.msgIdTxMessage callbacks msg
    ({ session with attributes, deliveries := ⟨msg, answers⟩ :: session.deliveries },
      callbacks.routed msg)

section

variable (config : AuthConfig) (callbacks : AuthCallbacks) (session : AuthSession) (msg : AuthMsg)
  (answers : Option AuthMsg)

@[simp] theorem state_txDelivery :
    (session.txDelivery config callbacks msg answers).1.state = session.state := by
  unfold txDelivery
  dsimp only
  split <;> rfl

@[simp] theorem running_txDelivery :
    (session.txDelivery config callbacks msg answers).1.running = session.running := by
  unfold txDelivery
  dsimp only
  split <;> rfl

@[simp] theorem timers_txDelivery :
    (session.txDelivery config callbacks msg answers).1.timers = session.timers := by
  unfold txDelivery
  dsimp only
  split <;> rfl

@[simp] theorem asrSent_txDelivery :
    (session.txDelivery config callbacks msg answers).1.asrSent = session.asrSent := by
  unfold txDelivery
  dsimp only
  split <;> rfl

@[simp] theorem calls_txDelivery :
    (session.txDelivery config callbacks msg answers).1.calls = session.calls := by
  unfold txDelivery
  dsimp only
  split <;> rfl

@[simp] theorem recorded_txDelivery :
    (session.txDelivery config callbacks msg answers).1.recorded = session.recorded := by
  unfold txDelivery
  dsimp only
  split <;> rfl

end

/-- `Process` of an event with the row of the table for it. -/
def process {Action : Type} (table : StateTable AuthState AuthEvent Action)
    (act : Action → AuthSession → AuthSession) (session : AuthSession) (event : AuthEvent) :
    AuthSession :=
  if session.running then
    match table.find session.state event with
    | none => session
    | some entry =>
      let session := { session with state := entry.nextState }
      match entry.action with
      | none => session
      | some action => act action session
  else session

/-- The row is taken: its state is entered, and its action done. -/
def take {Action : Type} (act : Action → AuthSession → AuthSession) (session : AuthSession)
    (entry : StateTableEntry AuthState AuthEvent Action) : AuthSession :=
  match entry.action with
  | none => { session with state := entry.nextState }
  | some action => act action { session with state := entry.nextState }

section

variable {Action : Type} {table : StateTable AuthState AuthEvent Action}
  {act : Action → AuthSession → AuthSession} {session : AuthSession} {event : AuthEvent}

theorem process_of_stopped (stopped : session.running = false) :
    session.process table act event = session := by
  rw [process, if_neg (by simp [stopped])]

theorem process_of_find {entry : StateTableEntry AuthState AuthEvent Action}
    (running : session.running = true) (found : table.find session.state event = some entry) :
    session.process table act event = session.take act entry := by
  rw [process, if_pos running, found]
  cases isAction : entry.action <;> simp [take, isAction]

theorem process_of_none (missing : table.find session.state event = none) :
    session.process table act event = session := by
  rw [process, missing]
  split <;> rfl

end

end AuthSession

/-- What happens to a session. -/
inductive AuthInput where
  | rxRequest (msg : AuthMsg)
  | rxAnswer (msg : AuthMsg)
  /-- `Send`. An answer stands beside the request it answers. -/
  | send (msg : AuthMsg) (answers : Option AuthMsg)
  | begin (optionValue : Option Octets)
  | reAuth (type : UInt32)
  | finish
  | timeout (type : TimerType)
  /-- One of the calls is made. -/
  | serve (index : Nat)

end OpenDiameter.Session
