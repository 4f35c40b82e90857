import OpenDiameter.Session.AuthSession

/-!
`DiameterClientAuthSession` and its state machine.
-/

namespace OpenDiameter.Session

open OpenDiameter.Router OpenDiameter.Framework

inductive ClientAction where
  | txSsar
  | rxSsa
  | txSsarDiscard
  | rxSsaaDiscard
  | grantAccess
  | rxRar
  | txStrNoSvc
  | txStrProcError
  | sessionTimeout
  | sessionTimeoutState
  | authTimeout
  | userAbort
  | txAsaSuccess
  | txAsaTxStrSuccess
  | txAsaFail
  | cleanup
  | disconnect
  deriving DecidableEq, Repr

/-- `AAA_SessAuthClientStateTable` -/
def clientStateTable : StateTable AuthState AuthEvent ClientAction :=
  [⟨.stIdle, some .requestAccess, .stPending, none⟩,
    ⟨.stIdle, some .rxAsrUsid, .stIdle, none⟩,
    ⟨.stIdle, some .txSsar, .stIdle, some .txSsarDiscard⟩,
    ⟨.stIdle, some .rxSsaa, .stIdle, some .rxSsaaDiscard⟩,
    ⟨.stIdle, none, .stIdle, none⟩,
    ⟨.stPending, some .ssaaOk, .stOpen, some .grantAccess⟩,
    ⟨.stPending, some .ssaaNoSvc, .stDisc, some .txStrNoSvc⟩,
    ⟨.stPending, some .ssaaError, .stDisc, some .txStrProcError⟩,
    ⟨.stPending, some .ssaaFail, .stIdle, some .cleanup⟩,
    ⟨.stPending, some .txSsar, .stPending, some .txSsar⟩,
    ⟨.stPending, some .rxSsaa, .stPending, some .rxSsa⟩,
    ⟨.stPending, some .stop, .stIdle, some .disconnect⟩,
    ⟨.stPending, none, .stPending, none⟩,
    ⟨.stOpen, some .requestAccess, .stOpen, none⟩,
    ⟨.stOpen, some .rxRar, .stOpen, some .rxRar⟩,
    ⟨.stOpen, some .ssaaOk, .stOpen, some .grantAccess⟩,
    ⟨.stOpen, some .rxSsar, .stOpen, some .rxSsa⟩,
    ⟨.stOpen, some .ssarOk, .stOpen, none⟩,
    ⟨.stOpen, some .ssarFail, .stIdle, some .disconnect⟩,
    ⟨.stOpen, some .ssaaFail, .stIdle, some .disconnect⟩,
    ⟨.stOpen, some .sessionToutSt, .stDisc, some .sessionTimeoutState⟩,
    ⟨.stOpen, some .sessionToutNoSt, .stIdle, some .sessionTimeout⟩,
    ⟨.stOpen, some .rxAsrOk, .stDisc, some .txAsaTxStrSuccess⟩,
    ⟨.stOpen, some .rxAsrRetry, .stOpen, some .txAsaFail⟩,
    ⟨.stOpen, some .lifetimeTout, .stDisc, some .authTimeout⟩,
    ⟨.stOpen, some .stop, .stIdle, some .disconnect⟩,
    ⟨.stOpen, some .abort, .stDisc, some .userAbort⟩,
    ⟨.stOpen, some .txSsar, .stOpen, some .txSsar⟩,
    ⟨.stOpen, some .rxSsaa, .stOpen, some .rxSsa⟩,
    ⟨.stOpen, none, .stOpen, none⟩,
    ⟨.stDisc, some .rxAsr, .stDisc, some .txAsaSuccess⟩,
    ⟨.stDisc, some .rxSta, .stIdle, some .disconnect⟩,
    ⟨.stDisc, some .sessionToutSt, .stIdle, some .disconnect⟩,
    ⟨.stDisc, some .lifetimeTout, .stIdle, some .disconnect⟩,
    ⟨.stDisc, some .txSsar, .stDisc, some .txSsarDiscard⟩,
    ⟨.stDisc, some .rxSsaa, .stDisc, some .rxSsaaDiscard⟩,
    ⟨.stDisc, none, .stDisc, none⟩]

namespace AuthClient

variable (config : AuthConfig) (callbacks : AuthCallbacks) (session : AuthSession)

/-- The constructor. -/
def initial (config : AuthConfig) (applicationId : UInt32) : AuthSession where
  state := .stIdle
  running := false
  timers := fun _ => none
  asrSent := false
  attributes :=
    { sessionId := ⟨⟨[], []⟩, .nullCounter⟩
      lastTx := ⟨0, 0⟩
      lastRx := ⟨0, 0⟩
      applicationId
      destinationHost := none
      destinationRealm := none
      username := none
      sessionTimeout := ⟨config.sessionTm, false⟩
      reAuthRequestValue := none
      authSessionState := ⟨config.stateful, false⟩
      authLifetime := ⟨config.lifetimeTm, false⟩
      authGrace := ⟨config.graceTm, false⟩ }
  calls := []
  deliveries := []
  recorded := []

/-- `Reset`, after which the session can begin again. -/
def reset : AuthSession :=
  { session with
    attributes := { session.attributes with
      authSessionState :=
        { session.attributes.authSessionState with isNegotiated := false } } }.stop

def txStr (cause : UInt32) : AuthSession :=
  (session.txDelivery config callbacks
    { request := true
      code := msgCodeSessionTermination
      sessionId := some session.attributes.sessionId
      originHost := some config.identity
      originRealm := some config.realm
      destRealm := some (session.attributes.destinationRealm.getD [])
      authAppId := some session.attributes.applicationId
      terminationCause := some cause
      userName := session.attributes.username
      destHost := session.attributes.destinationHost }
    none).1

/-- `TxASA` and `TxRAA` -/
def txAnswer (code rcode : UInt32) (answers : Option AuthMsg) : AuthSession :=
  (session.txDelivery config callbacks
    { request := false
      code
      sessionId := some session.attributes.sessionId
      resultCode := some rcode
      originHost := some config.identity
      originRealm := some config.realm
      userName := session.attributes.username }
    answers).1

def txAsa (rcode : UInt32) (answers : Option AuthMsg) : AuthSession :=
  txAnswer config callbacks session msgCodeAbortSession rcode answers

def txRaa (rcode : UInt32) (answers : Option AuthMsg) : AuthSession :=
  txAnswer config callbacks session msgCodeReAuth rcode answers

def grantAccess : AuthSession :=
  let session := session.cancelAllTimer
  let attributes := session.attributes
  if attributes.stateMaintained then
    (session.scheduleTimer .sessionToutSt attributes.sessionTimeout.value .session).scheduleTimer
      .lifetimeTout (attributes.authLifetime.value + attributes.authGrace.value) .auth
  else if attributes.sessionTimeout.value > 0 then
    session.scheduleTimer .sessionToutNoSt attributes.sessionTimeout.value .session
  else session

/-- The actions, with the message that was posted with the event and the request that is
answered. -/
def act (msg answers : Option AuthMsg) (action : ClientAction) (session : AuthSession) :
    AuthSession :=
  match action with
  | .txSsar =>
    match msg with
    | none => session
    | some msg => (session.txDelivery config callbacks msg answers).1
  | .rxSsa =>
    match msg with
    | none => session
    | some msg =>
      let session := session.msgIdRxMessage msg
      { session with calls := session.calls ++ [.delivered msg] }
  | .txSsarDiscard | .rxSsaaDiscard => session
  | .grantAccess => grantAccess session
  | .rxRar =>
    let rcode := match session.attributes.reAuthRequestValue with
      | none => success
      | some value => callbacks.reAuthenticate value.reAuthType
    txRaa config callbacks session rcode answers
  | .txStrNoSvc => txStr config callbacks session realmNotServed
  | .txStrProcError => txStr config callbacks session avpUnsupported
  | .sessionTimeoutState | .authTimeout | .userAbort =>
    txStr config callbacks session.cancelAllTimer authorizationRejected
  | .txAsaSuccess => txAsa config callbacks session success answers
  | .txAsaTxStrSuccess =>
    txStr config callbacks (txAsa config callbacks session success answers) success
  | .txAsaFail => txAsa config callbacks session unableToComply answers
  | .sessionTimeout | .cleanup | .disconnect => reset session.cancelAllTimer

/-- `Begin` -/
def begin (optionValue : Option Octets) : AuthSession :=
  let attributes := session.attributes
  let sessionTimeout : NegotiatedAttribute :=
    ⟨(callbacks.setSessionTimeout config.sessionTm).getD attributes.sessionTimeout.value, false⟩
  let lifetime :=
    (callbacks.setAuthLifetimeTimeout config.lifetimeTm).getD attributes.authLifetime.value
  let authLifetime : NegotiatedAttribute :=
    ⟨if lifetime > sessionTimeout.value then
        -- `int holder`, which is negative from 2^31 on
        if sessionTimeout.value - 1 < 0x80000000 then sessionTimeout.value - 1
        else sessionTimeout.value - 1 + 1
      else lifetime, false⟩
  let authGrace : NegotiatedAttribute :=
    ⟨callbacks.setAuthGracePeriodTimeout.getD attributes.authGrace.value, false⟩
  let session := { session with
    attributes := { attributes with sessionTimeout, authLifetime, authGrace } }
  let session :=
    if session.running then session
    else
      let attributes := session.attributes
      let authSessionState := attributes.authSessionState.assign
        ((callbacks.setAuthSessionState config.stateful).getD attributes.authSessionState.value)
      let key : SessionKey :=
        ⟨config.identity ++ ".".toUTF8.toList ++ config.realm,
          optionValue.getD attributes.sessionId.key.optionalVal⟩
      let counter := if attributes.sessionId.counter = .nullCounter then callbacks.sessionCounter
        else attributes.sessionId.counter
      { session with
        attributes := { attributes with authSessionState, sessionId := ⟨key, counter⟩ }
        state := .stIdle
        running := true }
  if callbacks.reStart then session.notify .requestAccess none none else session.stop

def rxRequest (msg : AuthMsg) : AuthSession :=
  if msg.code = msgCodeAbortSession && session.attributes.stateMaintained then
    (session.msgIdRxMessage msg).notify
      (if callbacks.abortSession then .rxAsrOk else .rxAsrRetry) none (some msg)
  else if msg.code = msgCodeSessionTermination then session
  else if msg.code = msgCodeReAuth then
    let session := session.msgIdRxMessage msg
    match msg.reAuthRequestType with
    | some type =>
      { session with
        attributes := { session.attributes with reAuthRequestValue := some ⟨0, type⟩ } }.notify
          .rxRar none (some msg)
    | none =>
      { session with attributes := { session.attributes with reAuthRequestValue := none } }
  else session.notify .rxSsar (some msg) none

/-- A value that the server dictates. -/
def accept (own : NegotiatedAttribute) (avp : Option UInt32) : NegotiatedAttribute :=
  if own.isNegotiated then own else (avp.map NegotiatedAttribute.set).getD own

def rxAnswer (msg : AuthMsg) : AuthSession :=
  if msg.code = msgCodeSessionTermination then
    if session.attributes.stateMaintained then
      (session.msgIdRxMessage msg).notify .rxSta none none
    else session
  else if msg.code = msgCodeAbortSession then session
  else
    let attributes := session.attributes
    { session with
      attributes := { attributes with
        authSessionState := accept attributes.authSessionState msg.authSessionState
        sessionTimeout := accept attributes.sessionTimeout msg.sessionTimeout
        authLifetime := accept attributes.authLifetime msg.authLifetime
        authGrace := accept attributes.authGrace msg.authGrace } }.notify .rxSsaa (some msg) none

/-- `RxHandlerAry` of `RxDelivery`: the event for what the application returned, if any. -/
def deliveredEvent (attributes : AuthAttributes) (msg : AuthMsg) : Option AuthEvent :=
  match callbacks.processMsg msg, msg.request with
  | .success, true => some .ssarOk
  | .failure, true => some .ssarFail
  | .success, false => some .ssaaOk
  | .failure, false => some .ssaaFail
  | .noService, false => if attributes.stateMaintained then some .ssaaNoSvc else none
  | .msgUnprocessed, false => if attributes.stateMaintained then some .ssaaError else none
  | _, _ => none

/-- `Send`, with the hints for the server. -/
def send (msg : AuthMsg) (answers : Option AuthMsg) : AuthSession :=
  if session.running then
    let attributes := session.attributes
    let authSessionState :=
      if session.state = .stIdle && !attributes.authSessionState.isNegotiated then
        msg.authSessionState.or (some attributes.authSessionState.value)
      else msg.authSessionState
    let (sessionTimeout, sessionTimeoutAvp) :=
      if attributes.sessionTimeout.isNegotiated then (attributes.sessionTimeout, msg.sessionTimeout)
      else attributes.sessionTimeout.lower msg.sessionTimeout
    let (authLifetime, authLifetimeAvp) :=
      if attributes.authLifetime.isNegotiated then (attributes.authLifetime, msg.authLifetime)
      else attributes.authLifetime.lower msg.authLifetime
    { session with attributes := { attributes with sessionTimeout, authLifetime } }.notify .txSsar
      (some
        { msg with
          authSessionState
          sessionTimeout := sessionTimeoutAvp
          authLifetime := authLifetimeAvp })
      answers
  else session

def process (event : AuthEvent) (msg answers : Option AuthMsg) : AuthSession :=
  session.process clientStateTable (act config callbacks msg answers) event

def serve : AuthCall → AuthSession
  | .notify event msg answers => process config callbacks session event msg answers
  | .delivered msg =>
    match deliveredEvent callbacks session.attributes msg with
    | none => session
    | some event => process config callbacks session event none none

/-- Nothing where the input cannot be. -/
def next : AuthInput → Option AuthSession
  | .rxRequest msg => if msg.request then some (rxRequest callbacks session msg) else none
  | .rxAnswer msg => if msg.request then none else some (rxAnswer session msg)
  | .send msg answers => some (send session msg answers)
  | .begin optionValue => some (begin config callbacks session optionValue)
  | .reAuth _ => none
  | .finish =>
    if session.running then
      some (session.notify (if session.attributes.stateMaintained then .abort else .stop) none
        none)
    else some session
  | .timeout type => (session.timers type).map fun timer => session.notify timer.event none none
  | .serve index =>
    session.calls[index]?.map fun call =>
      serve config callbacks { session with calls := session.calls.eraseIdx index } call

end AuthClient

end OpenDiameter.Session
