import OpenDiameter.Session.AuthSession

/-!
`DiameterServerAuthSession` and its state machine.
-/

namespace OpenDiameter.Session

open OpenDiameter.Router OpenDiameter.Framework

inductive ServerAction where
  | rxSsarDiscard
  | rxSsa
  | txSsaaDiscard
  | txSsa
  | grantAccess
  | txAsr
  | txRar
  | rxRaa
  | txStaCleanup
  | txStaCleanupIdle
  | rxAsa
  | authTimeout
  | sessionTimeout
  | sessionReclaim
  | cleanup
  deriving DecidableEq, Repr

/-- `AAA_SessAuthServerStateTable` -/
def serverStateTable : StateTable AuthState AuthEvent ServerAction :=
  [⟨.stIdle, some .ssarOk, .stOpen, some .grantAccess⟩,
    ⟨.stIdle, some .ssarFail, .stIdle, some .cleanup⟩,
    ⟨.stIdle, some .rxAsaOk, .stIdle, none⟩,
    ⟨.stIdle, some .rxAsaFail, .stIdle, none⟩,
    ⟨.stIdle, some .rxStr, .stIdle, some .txStaCleanupIdle⟩,
    ⟨.stIdle, some .txSsaa, .stIdle, some .txSsa⟩,
    ⟨.stIdle, some .rxSsar, .stIdle, some .rxSsa⟩,
    ⟨.stIdle, some .sessionToutNoSt, .stIdle, some .sessionTimeout⟩,
    ⟨.stIdle, some .sessionReclaim, .stIdle, some .sessionReclaim⟩,
    ⟨.stIdle, some .abort, .stIdle, some .cleanup⟩,
    ⟨.stIdle, none, .stIdle, none⟩,
    ⟨.stOpen, some .ssarOk, .stOpen, some .grantAccess⟩,
    ⟨.stOpen, some .ssarFail, .stIdle, some .cleanup⟩,
    ⟨.stOpen, some .txSsar, .stOpen, some .txSsa⟩,
    ⟨.stOpen, some .rxSsaa, .stOpen, some .rxSsa⟩,
    ⟨.stOpen, some .ssaaOk, .stOpen, none⟩,
    ⟨.stOpen, some .ssaaFail, .stIdle, some .cleanup⟩,
    ⟨.stOpen, some .abort, .stDisc, some .txAsr⟩,
    ⟨.stOpen, some .lifetimeTout, .stIdle, some .authTimeout⟩,
    ⟨.stOpen, some .sessionToutSt, .stIdle, some .sessionTimeout⟩,
    ⟨.stOpen, some .rxAsaOk, .stOpen, none⟩,
    ⟨.stOpen, some .rxAsaFail, .stOpen, none⟩,
    ⟨.stOpen, some .rxStr, .stIdle, some .txStaCleanup⟩,
    ⟨.stOpen, some .txSsaa, .stOpen, some .txSsa⟩,
    ⟨.stOpen, some .rxSsar, .stOpen, some .rxSsa⟩,
    ⟨.stOpen, some .reAuth, .stOpen, some .txRar⟩,
    ⟨.stOpen, some .rxRaa, .stOpen, some .rxRaa⟩,
    ⟨.stOpen, none, .stOpen, none⟩,
    ⟨.stDisc, some .txAsrFail, .stDisc, some .txAsr⟩,
    ⟨.stDisc, some .rxAsaOk, .stDisc, some .rxAsa⟩,
    ⟨.stDisc, some .rxAsaFail, .stIdle, some .cleanup⟩,
    ⟨.stDisc, some .rxStr, .stIdle, some .txStaCleanup⟩,
    ⟨.stDisc, some .lifetimeTout, .stIdle, some .authTimeout⟩,
    ⟨.stDisc, some .sessionToutSt, .stIdle, some .sessionTimeout⟩,
    ⟨.stDisc, some .txSsaa, .stDisc, some .txSsaaDiscard⟩,
    ⟨.stDisc, some .rxSsar, .stDisc, some .rxSsarDiscard⟩,
    ⟨.stDisc, none, .stDisc, none⟩]

/-- `InterpretedResultCode` returns `RCODE_SUCCESS`. -/
def interpretedSuccess (resultCode : Option UInt32) : Bool :=
  match resultCode with
  | none => false
  | some code => (code - 1000) / 1000 ≠ 0 && (code - 1000 - 1000) / 1000 = 0

namespace AuthServer

variable (config : AuthConfig) (callbacks : AuthCallbacks) (session : AuthSession)

/-- The constructor, where the application does not refuse. -/
def initial (config : AuthConfig) (applicationId : UInt32) : AuthSession where
  state := .stIdle
  running := true
  timers := fun _ => none
  asrSent := false
  attributes :=
    { sessionId := ⟨⟨[], []⟩, .nullCounter⟩
      lastTx := ⟨0, 0⟩
      lastRx := ⟨0, 0⟩
      applicationId
      destinationHost := none
      destinationRealm := none
      username := none
      sessionTimeout := ⟨config.sessionTm, false⟩
      reAuthRequestValue := none
      authSessionState := ⟨config.stateful, false⟩
      authLifetime := ⟨config.lifetimeTm, false⟩
      authGrace := ⟨config.graceTm, false⟩ }
  calls := []
  deliveries := []
  recorded := []

/-- `Reset`, which the actions call with `ASRSent` cleared. The session is deleted later. -/
def reset : AuthSession :=
  { session with
    attributes := { session.attributes with
      authSessionState := { session.attributes.authSessionState with isNegotiated := false } }
    asrSent := false }.stop

/-- `DiameterServerAuthSession::TxDelivery` -/
def txDelivery (msg : AuthMsg) (answers : Option AuthMsg) : AuthSession × Bool :=
  let attributes := session.attributes
  let (sessionTimeout, sessionTimeoutAvp) := attributes.sessionTimeout.dictate msg.sessionTimeout
  let (authLifetime, authLifetimeAvp) := attributes.authLifetime.dictate msg.authLifetime
  let (authGrace, authGraceAvp) := attributes.authGrace.dictate msg.authGrace
  { session with attributes := { attributes with sessionTimeout, authLifetime, authGrace } }.txDelivery
    config callbacks
    { msg with
      authSessionState := some attributes.authSessionState.value
      sessionTimeout := sessionTimeoutAvp
      authLifetime := authLifetimeAvp
      authGrace := authGraceAvp }
    answers

/-- The attributes after `TxDelivery` of the message has dictated them. -/
def dictated (attributes : AuthAttributes) (msg : AuthMsg) : AuthAttributes :=
  { attributes with
    sessionTimeout := (attributes.sessionTimeout.dictate msg.sessionTimeout).1
    authLifetime := (attributes.authLifetime.dictate msg.authLifetime).1
    authGrace := (attributes.authGrace.dictate msg.authGrace).1 }

/-- The message with what `TxDelivery` dictates. -/
def dictatedMsg (attributes : AuthAttributes) (msg : AuthMsg) : AuthMsg :=
  { msg with
    authSessionState := some attributes.authSessionState.value
    sessionTimeout := (attributes.sessionTimeout.dictate msg.sessionTimeout).2
    authLifetime := (attributes.authLifetime.dictate msg.authLifetime).2
    authGrace := (attributes.authGrace.dictate msg.authGrace).2 }

theorem txDelivery_eq (msg : AuthMsg) (answers : Option AuthMsg) :
    txDelivery config callbacks session msg answers =
      { session with attributes := dictated session.attributes msg }.txDelivery config callbacks
        (dictatedMsg session.attributes msg) answers :=
  rfl

section

variable (msg : AuthMsg) (answers : Option AuthMsg)

@[simp] theorem state_txDelivery :
    (txDelivery config callbacks session msg answers).1.state = session.state :=
  AuthSession.state_txDelivery ..

@[simp] theorem running_txDelivery :
    (txDelivery config callbacks session msg answers).1.running = session.running :=
  AuthSession.running_txDelivery ..

@[simp] theorem timers_txDelivery :
    (txDelivery config callbacks session msg answers).1.timers = session.timers :=
  AuthSession.timers_txDelivery ..

@[simp] theorem asrSent_txDelivery :
    (txDelivery config callbacks session msg answers).1.asrSent = session.asrSent :=
  AuthSession.asrSent_txDelivery ..

@[simp] theorem calls_txDelivery :
    (txDelivery config callbacks session msg answers).1.calls = session.calls :=
  AuthSession.calls_txDelivery ..

@[simp] theorem recorded_txDelivery :
    (txDelivery config callbacks session msg answers).1.recorded = session.recorded :=
  AuthSession.recorded_txDelivery ..

end

def txSta (rcode : UInt32) (answers : Option AuthMsg) : AuthSession :=
  (txDelivery config callbacks session
    { request := false
      code := msgCodeSessionTermination
      sessionId := some session.attributes.sessionId
      resultCode := some rcode
      originHost := some config.identity
      originRealm := some config.realm
      userName := session.attributes.username }
    answers).1

/-- The ASR that `TxASR` makes. -/
def abortRequest : AuthMsg where
  request := true
  code := msgCodeAbortSession
  sessionId := some session.attributes.sessionId
  originHost := some config.identity
  originRealm := some config.realm
  destRealm := some (session.attributes.destinationRealm.getD [])
  destHost := some (session.attributes.destinationHost.getD [])
  authAppId := some session.attributes.applicationId
  userName := session.attributes.username

def txAsr : AuthSession :=
  let (session, sent) :=
    txDelivery config callbacks session (abortRequest config session) none
  if sent then { session with asrSent := true }
  else session.scheduleTimer .txAsrFail config.abortRetryTm .asr

def txRar (reAuthType : UInt32) : AuthSession :=
  (txDelivery config callbacks session
    { request := true
      code := msgCodeReAuth
      sessionId := some session.attributes.sessionId
      originHost := some config.identity
      originRealm := some config.realm
      destRealm := some (session.attributes.destinationRealm.getD [])
      destHost := some (session.attributes.destinationHost.getD [])
      authAppId := some session.attributes.applicationId
      reAuthRequestType := some reAuthType
      userName := session.attributes.username }
    none).1

/-- What a stateless session does after it has sent a message. -/
def extendAccess : AuthSession :=
  let session := session.cancelAllTimer
  if session.attributes.sessionTimeout.value > 0 then
    session.scheduleTimer .sessionToutNoSt
      (session.attributes.sessionTimeout.value + authSessionGracePeriod) .session
  else session.scheduleTimer .sessionReclaim authSessionReclamationPeriod .session

/-- The actions, with the message that was posted with the event and the request that is
answered. -/
def act (msg answers : Option AuthMsg) (action : ServerAction) (session : AuthSession) :
    AuthSession :=
  match action with
  | .rxSsarDiscard | .txSsaaDiscard => session
  | .rxSsa =>
    match msg with
    | none => session
    | some msg =>
      let session := session.msgIdRxMessage msg
      { session with calls := session.calls ++ [.delivered msg] }
  | .txSsa =>
    match msg with
    | none => session
    | some msg =>
      let session := (txDelivery config callbacks session msg answers).1
      if session.attributes.stateMaintained then session else extendAccess session
  | .grantAccess =>
    let session := session.cancelAllTimer
    let session := session.scheduleTimer .sessionToutSt
      (session.attributes.sessionTimeout.value + authSessionGracePeriod) .session
    session.scheduleTimer .lifetimeTout
      (session.attributes.authLifetime.value + session.attributes.authGrace.value +
        authSessionGracePeriod) .auth
  | .txAsr => txAsr config callbacks session.cancelAllTimer
  | .txRar =>
    match session.attributes.reAuthRequestValue with
    | none => session
    | some value => txRar config callbacks session value.reAuthType
  | .rxRaa => session
  | .txStaCleanup | .txStaCleanupIdle =>
    reset (txSta config callbacks session.cancelAllTimer authorizationRejected answers)
  | .rxAsa => session.cancelTimer .asr
  | .authTimeout | .sessionTimeout | .cleanup => reset session.cancelAllTimer
  | .sessionReclaim =>
    let session := session.cancelAllTimer
    if callbacks.reClaimSession then reset session
    else session.scheduleTimer .sessionReclaim authSessionReclamationPeriod .session

/-- The hint of the client, what the application makes of it, and the lower of the two. -/
def negotiate (configured : UInt32) (hint : Option UInt32) (callback : UInt32 → Option UInt32)
    (own : NegotiatedAttribute) : NegotiatedAttribute :=
  let own := own.assign ((callback (hint.getD configured)).getD own.value)
  match hint with
  | none => own
  | some tout => if tout < own.value then own.assign tout else own

/-- An authorization lifetime beyond the session timeout becomes one less than that. -/
def sanityCheck (sessionTimeout : UInt32) (own : NegotiatedAttribute) : NegotiatedAttribute :=
  if own.value > sessionTimeout then
    -- `int holder`, which is negative from 2^31 on
    let holder := sessionTimeout - 1
    own.assign (if holder < 0x80000000 then holder else holder + 1)
  else own

/-- What `RxRequest` takes from a request of the application. -/
def filter (attributes : AuthAttributes) (msg : AuthMsg) : AuthAttributes :=
  let attributes :=
    if attributes.stateMaintained then
      { attributes with
        destinationHost := attributes.destinationHost.or msg.originHost
        destinationRealm := attributes.destinationRealm.or msg.originRealm }
    else attributes
  let attributes :=
    if attributes.authSessionState.isNegotiated then attributes
    else
      { attributes with
        authSessionState :=
          match msg.authSessionState with
          | some state =>
            .set (if attributes.stateMaintained then state else attributes.authSessionState.value)
          | none => .set ((callbacks.setAuthSessionState config.stateful).getD config.stateful) }
  let attributes :=
    if attributes.sessionTimeout.isNegotiated then attributes
    else
      { attributes with
        sessionTimeout := negotiate config.sessionTm msg.sessionTimeout
          callbacks.setSessionTimeout attributes.sessionTimeout }
  let attributes :=
    if attributes.authLifetime.isNegotiated then attributes
    else
      { attributes with
        authLifetime := sanityCheck attributes.sessionTimeout.value
          (negotiate config.lifetimeTm msg.authLifetime callbacks.setAuthLifetimeTimeout
            attributes.authLifetime) }
  if attributes.authGrace.isNegotiated then attributes
  else
    { attributes with
      authGrace := attributes.authGrace.assign
        (callbacks.setAuthGracePeriodTimeout.getD attributes.authGrace.value) }

def rxRequest (msg : AuthMsg) : AuthSession :=
  let sessionId := if session.attributes.sessionId.key.diameterId.isEmpty then msg.sessionId
    else some session.attributes.sessionId
  match sessionId with
  | none => session
  | some sessionId =>
    let session := { session with attributes := { session.attributes with sessionId } }
    if msg.code = msgCodeSessionTermination && session.attributes.stateMaintained then
      (session.msgIdRxMessage msg).notify .rxStr none (some msg)
    else if msg.code = msgCodeAbortSession then session
    else
      { session with attributes := filter config callbacks session.attributes msg }.notify
        .rxSsar (some msg) none

def rxAnswer (msg : AuthMsg) : AuthSession :=
  if msg.code = msgCodeAbortSession && session.attributes.stateMaintained then
    if session.asrSent then
      (session.msgIdRxMessage msg).notify
        (if interpretedSuccess msg.resultCode then .rxAsaOk else .rxAsaFail) none none
    else session
  else if msg.code = msgCodeSessionTermination then session
  else if msg.code = msgCodeReAuth then
    let session := session.msgIdRxMessage msg
    match msg.resultCode with
    | some rcode =>
      { session with
        attributes := { session.attributes with reAuthRequestValue := some ⟨rcode, 0⟩ } }.notify
          .rxRaa none none
    | none =>
      { session with attributes := { session.attributes with reAuthRequestValue := none } }
  else session.notify .rxSsaa (some msg) none

/-- The event that `RxDelivery` notifies after the application has looked at the message.
Without one it notifies 0, which is `REQUEST_ACCESS`. -/
def deliveredEvent (msg : AuthMsg) : AuthEvent :=
  match callbacks.processMsg msg, msg.request with
  | .success, true => .ssarOk
  | .success, false => .ssaaOk
  | .incomplete, _ => .requestAccess
  | _, true => .ssarFail
  | _, false => .ssaaFail

def process (event : AuthEvent) (msg answers : Option AuthMsg) : AuthSession :=
  session.process serverStateTable (act config callbacks msg answers) event

def serve : AuthCall → AuthSession
  | .notify event msg answers => process config callbacks session event msg answers
  | .delivered msg =>
    if session.attributes.stateMaintained then
      process config callbacks session (deliveredEvent callbacks msg) none none
    else session

/-- Nothing where the input cannot be. -/
def next : AuthInput → Option AuthSession
  | .rxRequest msg => if msg.request then some (rxRequest config callbacks session msg) else none
  | .rxAnswer msg => if msg.request then none else some (rxAnswer session msg)
  | .send msg answers =>
    if session.running then
      some (session.notify (if msg.request then .txSsar else .txSsaa) (some msg) answers)
    else some session
  | .begin _ => none
  | .reAuth type =>
    if session.running then
      some ({ session with
        attributes := { session.attributes with reAuthRequestValue := some ⟨0, type⟩ } }.notify
          .reAuth none none)
    else some session
  | .finish => if session.running then some (session.notify .abort none none) else some session
  | .timeout type => (session.timers type).map fun timer => session.notify timer.event none none
  | .serve index =>
    session.calls[index]?.map fun call =>
      serve config callbacks { session with calls := session.calls.eraseIdx index } call

end AuthServer

end OpenDiameter.Session
