import OpenDiameter.Pana.SecurityAssociation

/-!
`PANA_Session`: what a client and an authentication agent have in common. A session is changed
by computations that throw; what was changed before they throw stays changed.
-/

namespace OpenDiameter.Pana

/-- An event in the queue, with the message or the EAP packet that it was posted for. -/
structure QueuedEvent where
  event : PanaEvent
  message : Option PanaMessage := none
  packet : Option PanaOctetstring := none
  deriving DecidableEq, Repr

/-- A message that was sent, with the request that it was sent for. -/
structure PanaSent where
  message : PanaMessage
  request : Option PanaMessage := none
  deriving DecidableEq, Repr

/-- An AUTH key that was derived: for which state, and after which request. -/
structure PanaDerivedKey where
  state : PanaState
  asked : Option PanaMessage
  key : PanaOctetstring
  deriving DecidableEq, Repr

structure PanaAuthorizationArgs where
  pacAddress : InetAddr
  paaAddress : InetAddr
  ipReconfiguration : Bool
  key : Option PanaOctetstring
  lifetime : UInt32
  deriving DecidableEq, Repr

/-- `PANA_SessionEventInterface`: what the application is told. -/
inductive PanaNotification where
  | eapStart
  | eapRequest (payload : PanaOctetstring)
  | eapResponse (payload : PanaOctetstring)
  | eapAltReject
  | authorize (args : PanaAuthorizationArgs)
  | disconnect (cause : UInt32)
  deriving DecidableEq, Repr

/-- What ends the process: a front of an empty list, or a null pointer. -/
inductive PanaFault where
  | emptyQueue
  | noCachedAnsMsg
  | noLastTxReqMsg
  deriving DecidableEq, Repr

inductive PanaStop where
  | thrown (exception : PanaException)
  | fault (fault : PanaFault)
  deriving DecidableEq, Repr

structure PanaSession where
  state : PanaState := .initial
  sessionId : UInt32 := 0
  lastTxSeqNum : UInt32
  lastRxSeqNum : UInt32 := 0
  pacAddress : InetAddr := ⟨0, 0⟩
  paaAddress : InetAddr := ⟨0, 0⟩
  /-- Of a client only. -/
  lastUsedChannel : InetAddr := ⟨0, 0⟩
  lastTxReqMsg : Option PanaMessage := none
  cachedAnsMsg : Option PanaMessage := none
  sessionLifetime : UInt32
  lastRxHeader : PanaMsgHeader := { type := 0 }
  ipReconfiguration : Bool := false
  authorized : Bool := false
  sa : SecurityAssociation := {}
  rxMsgQueue : List PanaMessage := []
  txEapMessageQueue : List PanaOctetstring := []
  /-- `m_RxMsgQueue` of the state machine: the messages that no handler has had yet. -/
  received : List PanaMessage := []
  /-- `m_EventQueue` of the state machine. -/
  events : List QueuedEvent := []
  fault : Option PanaFault := none
  /-- From here on the history: what the application was told. -/
  notified : List PanaNotification := []
  sent : List PanaSent := []
  /-- The numbers of the requests that passed `RxValidateMsg` since the last `Reset`. -/
  passed : List UInt32 := []
  /-- The request whose event an action had last. -/
  asked : Option PanaMessage := none
  /-- The messages that an action had, with the AUTH key at that time. -/
  acted : List (PanaMessage × ScholarValue) := []
  /-- The messages that `ValidateAuthAvp` accepted, with the key it had. -/
  verified : List (PanaMessage × PanaOctetstring) := []
  derived : List PanaDerivedKey := []
  deriving DecidableEq, Repr

/-- What a step takes from the application, the timers and the random numbers. -/
structure PanaCallbacks where
  /-- `IsKeyAvailable` -/
  newKey : Option PanaOctetstring := none
  /-- `ReScheduleTxRetry` -/
  reScheduled : Bool := true
  random : UInt32 := 0
  nonce : PanaOctetstring := []
  /-- `PANA_MSK::m_GlobalId`, which all sessions of the process count up. -/
  globalId : UInt32 := 0

abbrev PanaM := EStateM PanaStop PanaSession

def throwPana {Value : Type} (code : PanaExceptionCode) (description : String) : PanaM Value :=
  throw (.thrown ⟨code, description⟩)

def invalidMessage {Value : Type} (description : String) : PanaM Value :=
  throwPana .invalidMessage description

def notify (notification : PanaNotification) : PanaM Unit :=
  modify fun session => { session with notified := session.notified ++ [notification] }

def updateSa (change : SecurityAssociation → SecurityAssociation) : PanaM Unit :=
  modify fun session => { session with sa := change session.sa }

/-- `RxMsgQueue().Dequeue()` -/
def dequeueRxMsg : PanaM PanaMessage := do
  let session ← get
  match session.rxMsgQueue with
  | [] => throw (.fault .emptyQueue)
  | msg :: rest =>
    set { session with
      rxMsgQueue := rest
      acted := session.acted ++ [(msg, session.sa.authKey)] }
    return msg

/-- `TxEapMessageQueue().Dequeue()` -/
def dequeueTxEap : PanaM PanaOctetstring := do
  let session ← get
  match session.txEapMessageQueue with
  | [] => throw (.fault .emptyQueue)
  | packet :: rest =>
    set { session with txEapMessageQueue := rest }
    return packet

/-- The EAP-Payload AVP of a message that takes the first packet of the queue, or none. -/
def eapPayloadAvp : Bool → PanaM (List PanaAvp)
  | true => do
      let packet ← dequeueTxEap
      return [.eapPayload packet]
  | false => pure []

namespace PanaSession

variable (settings : PanaSettings)

/-- The AUTH AVP is added if there is a key. -/
def withAuth (session : PanaSession) (msg : PanaMessage) : PanaMessage :=
  if session.sa.authKey.isSet then addAuthAvp settings session.sa.authKey.value msg else msg

/-- `PANA_Session::Reset` -/
def reset (callbacks : PanaCallbacks) (session : PanaSession) : PanaSession :=
  { session with
    sa := session.sa.reset callbacks.globalId
    authorized := false
    rxMsgQueue := []
    txEapMessageQueue := []
    sessionId := 0
    lastTxSeqNum := callbacks.random
    lastRxSeqNum := 0
    sessionLifetime := settings.sessionLifetime
    ipReconfiguration := false
    passed := [] }

/-- `PANA_StateMachine::Notify` of a machine that runs. -/
def post (event : PanaEvent) (session : PanaSession) : PanaSession :=
  { session with events := session.events ++ [{ event }] }

/-- An EAP packet is put in the queue and its event posted. -/
def postPacket (packet : PanaOctetstring) (event : PanaEvent) (session : PanaSession) :
    PanaSession :=
  { session with
    txEapMessageQueue := session.txEapMessageQueue ++ [packet]
    events := session.events ++ [{ event, packet := some packet }] }

end PanaSession

section Session

variable (settings : PanaSettings) (role : PanaRole) (callbacks : PanaCallbacks)

/-- `PANA_Client::TxPrepareMessage` and `PANA_Paa::TxPrepareMessage` -/
def txPrepareMessage (session : PanaSession) (msg : PanaMessage) : PanaMessage :=
  match role with
  | .pac =>
    if msg.flags.request ∨ msg.type = mtypePci then
      { msg with
        destAddress := { session.paaAddress with portNumber := settings.paaPortNumber }
        srcAddress := session.pacAddress }
    else
      { msg with destAddress := session.paaAddress, srcAddress := session.lastUsedChannel }
  | .paa => { msg with srcAddress := settings.listenAddress, destAddress := session.pacAddress }

def sendReqMsg (msg : PanaMessage) : PanaM Unit :=
  modify fun session =>
    let prepared := txPrepareMessage settings role session msg
    { session with
      sent := session.sent ++ [{ message := prepared }]
      lastTxReqMsg := some prepared }

def sendAnsMsg (msg : PanaMessage) : PanaM Unit :=
  modify fun session =>
    let prepared := txPrepareMessage settings role session msg
    { session with
      sent := session.sent ++ [{ message := prepared, request := session.asked }]
      cachedAnsMsg := some prepared }

/-- `TxLastAnsMsg`, for the request that arrived again. -/
def txLastAnsMsg (cached request : PanaMessage) : PanaM Unit :=
  modify fun session =>
    let prepared := txPrepareMessage settings role session cached
    { session with
      sent := session.sent ++ [{ message := prepared, request := some request }]
      cachedAnsMsg := some prepared }

def txLastReqMsg : PanaM Bool := do
  if callbacks.reScheduled then
    let session ← get
    match session.lastTxReqMsg with
    | none => throw (.fault .noLastTxReqMsg)
    | some msg =>
      sendReqMsg settings role msg
      return true
  else
    return false

def nextTxSeqNum : PanaM UInt32 :=
  modifyGet fun session =>
    (session.lastTxSeqNum + 1, { session with lastTxSeqNum := session.lastTxSeqNum + 1 })

/-- The checks of the sequence number, and whether it is left to count the request. -/
def validateSeqNum (msg : PanaMessage) : PanaM Bool := do
  let session ← get
  if msg.flags.request then
    if session.lastRxSeqNum = 0 then
      set { session with lastRxSeqNum := msg.seq }
      return false
    else if session.lastRxSeqNum = msg.seq then
      match session.cachedAnsMsg with
      | none => throw (.fault .noCachedAnsMsg)
      | some cached =>
        if msg.type = cached.type then
          txLastAnsMsg settings role cached msg
          invalidMessage "Re-transmitting answer message"
        else
          invalidMessage "unexpected request msg with invalid seq number"
    else if msg.seq ≠ session.lastRxSeqNum + 1 then
      invalidMessage "request msg with invalid seq number"
    else
      return true
  else if msg.seq ≠ session.lastTxSeqNum then
    invalidMessage "answer msg with invalid seq number"
  else
    return true

def validateAuth (msg : PanaMessage) (skipAuth : Bool) : PanaM Unit := do
  let session ← get
  if skipAuth = false ∧ msg.authAvp.isSome ∧ session.sa.authKey.isSet then
    if validateAuthAvp settings session.sa.authKey.value msg then
      set { session with
        verified := session.verified ++ [(msg, session.sa.authKey.value)] }
    else
      invalidMessage "PANA session received msg with invalid AUTH value"

/-- The session identifier is checked; only then is a request counted. -/
def validateSessionId (msg : PanaMessage) (doUpdate : Bool) : PanaM Unit := do
  let session ← get
  if msg.type ≠ mtypePci ∧ msg.sessionId ≠ session.sessionId then
    invalidMessage "Received invalid session id"
  else if msg.flags.request then
    set { session with
      lastRxSeqNum := if doUpdate then session.lastRxSeqNum + 1 else session.lastRxSeqNum
      passed := session.passed ++ [msg.seq] }

def rxValidateMsg (msg : PanaMessage) (skipAuth : Bool) : PanaM Unit := do
  let doUpdate ← validateSeqNum settings role msg
  validateAuth settings msg skipAuth
  validateSessionId msg doUpdate

/-- The MSK is set to a new one and the AUTH key derived from it. -/
def deriveAuthKey (newKey : PanaOctetstring) : PanaM Unit :=
  modify fun session =>
    let sa := SecurityAssociation.generateAuthKey settings
      { session.sa with msk := .set newKey }
    { session with
      sa
      derived := session.derived ++
        [{ state := session.state, asked := session.asked, key := sa.authKey.value }] }

/-- The keys are updated after a success, if there is a new one. -/
def updateAaaKeys (success : Bool) : PanaM Unit :=
  match success, callbacks.newKey with
  | true, some newKey => deriveAuthKey settings newKey
  | _, _ => pure ()

def disconnect (cause : UInt32) : PanaM Unit := do
  notify (.disconnect cause)
  modify (PanaSession.reset settings callbacks)

def txPTR (cause : UInt32) : PanaM Unit := do
  let seq ← nextTxSeqNum
  let session ← get
  sendReqMsg settings role <| session.withAuth settings
    { flags := { request := true }, type := mtypePtr, sessionId := session.sessionId, seq,
      avpList := [.terminationCause cause] }

def txPTA : PanaM Unit := do
  let session ← get
  sendAnsMsg settings role <| session.withAuth settings
    { type := mtypePtr, sessionId := session.sessionId, seq := session.lastRxSeqNum }

def rxPTR : PanaM Unit := do
  let msg ← dequeueRxMsg
  txPTA settings role
  disconnect settings callbacks (msg.terminationCause.getD termcauseAdministrative)

def rxPTA : PanaM Unit := do
  let _ ← dequeueRxMsg
  disconnect settings callbacks termcauseLogout

def txPNRPing : PanaM Unit := do
  let seq ← nextTxSeqNum
  let session ← get
  sendReqMsg settings role <| session.withAuth settings
    { flags := { request := true, ping := true }, type := mtypePnr,
      sessionId := session.sessionId, seq }

def txPNAPing : PanaM Unit := do
  let session ← get
  sendAnsMsg settings role <| session.withAuth settings
    { flags := { ping := true }, type := mtypePnr, sessionId := session.sessionId,
      seq := session.lastRxSeqNum }

def rxPNRPing : PanaM Unit := do
  let _ ← dequeueRxMsg
  txPNAPing settings role

def rxPNAPing : PanaM Unit := do
  let _ ← dequeueRxMsg

/--
`PANA_SessionRxStateFilter`: a message that the handler throws at, or that comes in another
state, is gone.
-/
def receiveIn (states : List PanaState) (handle : PanaMessage → PanaM PanaEvent)
    (msg : PanaMessage) : PanaM Unit := do
  let session ← get
  if session.state ∈ states then
    let event ← handle msg
    modify fun session =>
      { session with
        rxMsgQueue := session.rxMsgQueue ++ [msg]
        events := session.events ++ [{ event, message := some msg }] }

/-- The retransmission actions: when there are no retries left, the session is told so. -/
def retransmit : PanaM Unit := do
  let sent ← txLastReqMsg settings role callbacks
  unless sent do
    modify (PanaSession.post { doRetryTimeout := true })

end Session

end OpenDiameter.Pana
