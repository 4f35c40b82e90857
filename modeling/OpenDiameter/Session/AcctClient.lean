import OpenDiameter.Session.AuthServer

/-!
`DiameterClientAcctSubSession` and its state machine: which records a client sends, stores and
deletes.
-/

namespace OpenDiameter.Session

open OpenDiameter.Framework

inductive AcctState where
  | stIdle
  | stOpen
  | stPendingS
  | stPendingI
  | stPendingE
  | stPendingB
  | stPendingL
  deriving DecidableEq, Repr

/-- The events of a client. -/
inductive AcctEvent where
  | requestAccess
  | requestOnetimeAccess
  | recInStorage
  | rxAcaOk
  | ftsNotDag
  | ftsAndGal
  | ftsNotGal
  | rxAcaFailAndGal
  | rxAcaFailNotGal
  | intExpire
  | rxAcaFail
  | fts
  | ftsBuf
  | ftsNoBuf
  | sessionTout
  | stop
  deriving DecidableEq, Repr

def acctRecTypeEvent : UInt32 := 1
def acctRecTypeStart : UInt32 := 2
def acctRecTypeInterim : UInt32 := 3
def acctRecTypeStop : UInt32 := 4

def acctRealtimeDeliverAndGrant : UInt32 := 1
def acctRealtimeGrantAndStore : UInt32 := 2
def acctRealtimeGrantAndLose : UInt32 := 3

def msgCodeAccounting : UInt32 := 271

inductive AcctAction where
  | txAcr
  | interimTimeout
  | rxAcaSuccess
  | storeRecord (recordType : UInt32)
  | startIntTimer
  | deleteRecord
  | disconnect
  deriving DecidableEq, Repr

/-- `DiameterSessAcctClientStateTable` -/
def acctClientTable : StateTable AcctState AcctEvent AcctAction :=
  [⟨.stIdle, some .requestAccess, .stPendingS, some .txAcr⟩,
    ⟨.stIdle, some .requestOnetimeAccess, .stPendingE, some .txAcr⟩,
    ⟨.stIdle, some .recInStorage, .stPendingB, some .txAcr⟩,
    ⟨.stIdle, none, .stIdle, none⟩,
    ⟨.stPendingS, some .rxAcaOk, .stOpen, some .rxAcaSuccess⟩,
    ⟨.stPendingS, some .ftsNotDag, .stOpen, some (.storeRecord acctRecTypeStart)⟩,
    ⟨.stPendingS, some .ftsAndGal, .stOpen, some .startIntTimer⟩,
    ⟨.stPendingS, some .ftsNotGal, .stIdle, some .disconnect⟩,
    ⟨.stPendingS, some .rxAcaFailAndGal, .stOpen, some .startIntTimer⟩,
    ⟨.stPendingS, some .rxAcaFailNotGal, .stIdle, some .disconnect⟩,
    ⟨.stPendingS, some .stop, .stPendingS, some (.storeRecord acctRecTypeStop)⟩,
    ⟨.stPendingS, none, .stPendingS, none⟩,
    ⟨.stOpen, some .intExpire, .stPendingI, some .interimTimeout⟩,
    ⟨.stOpen, some .stop, .stPendingL, some .txAcr⟩,
    ⟨.stOpen, none, .stOpen, none⟩,
    ⟨.stPendingI, some .rxAcaOk, .stOpen, some .rxAcaSuccess⟩,
    ⟨.stPendingI, some .ftsNotDag, .stOpen, some (.storeRecord acctRecTypeInterim)⟩,
    ⟨.stPendingI, some .ftsAndGal, .stOpen, some .startIntTimer⟩,
    ⟨.stPendingI, some .ftsNotGal, .stIdle, some .disconnect⟩,
    ⟨.stPendingI, some .rxAcaFailAndGal, .stOpen, some .startIntTimer⟩,
    ⟨.stPendingI, some .rxAcaFailNotGal, .stIdle, some .disconnect⟩,
    ⟨.stPendingI, some .stop, .stPendingI, some (.storeRecord acctRecTypeStop)⟩,
    ⟨.stPendingI, none, .stPendingI, none⟩,
    ⟨.stPendingE, some .rxAcaOk, .stIdle, some .rxAcaSuccess⟩,
    ⟨.stPendingE, some .ftsBuf, .stIdle, some (.storeRecord acctRecTypeEvent)⟩,
    ⟨.stPendingE, some .ftsNoBuf, .stIdle, none⟩,
    ⟨.stPendingE, some .rxAcaFail, .stIdle, none⟩,
    ⟨.stPendingE, none, .stPendingE, none⟩,
    ⟨.stPendingB, some .rxAcaOk, .stIdle, some .rxAcaSuccess⟩,
    ⟨.stPendingB, some .fts, .stIdle, none⟩,
    ⟨.stPendingB, some .rxAcaFail, .stIdle, some .deleteRecord⟩,
    ⟨.stPendingB, none, .stPendingB, none⟩,
    ⟨.stPendingL, some .rxAcaOk, .stIdle, some .rxAcaSuccess⟩,
    ⟨.stPendingL, some .ftsBuf, .stIdle, some (.storeRecord acctRecTypeStop)⟩,
    ⟨.stPendingL, some .ftsNoBuf, .stIdle, none⟩,
    ⟨.stPendingL, some .rxAcaFail, .stIdle, none⟩,
    ⟨.stPendingL, none, .stPendingL, none⟩]

/-- The attributes that the state machine looks at. -/
structure AcctAttributes where
  sessionTimeout : UInt32
  realtimeRequired : UInt32
  interimInterval : UInt32
  recordType : UInt32
  recordNumber : UInt32
  backwardCompatibility : Bool
  deriving DecidableEq, Repr

/-- A record as the collector has it in its storage. -/
structure AcctRecord where
  recordType : UInt32
  recordNumber : UInt32
  deriving DecidableEq, Repr

/-- An Accounting-Request, with the AVPs that the session sets of itself. Beside them stands the
record of the storage that it carries, if it was sent for one. -/
structure AcctRequest where
  record : AcctRecord
  realtimeRequired : UInt32
  interimInterval : UInt32
  stored : Option AcctRecord := none
  deriving DecidableEq, Repr

/-- An Accounting-Answer, or another answer, with the first value of each AVP that is looked at. -/
structure AcctAnswer where
  code : UInt32 := msgCodeAccounting
  resultCode : Option UInt32 := none
  recordType : Option UInt32 := none
  realtimeRequired : Option UInt32 := none
  interimInterval : Option UInt32 := none
  deriving DecidableEq, Repr

inductive AcctTimer where
  /-- It comes with `EV_INT_EXPIRE`. -/
  | interval
  /-- It comes with `EV_SESSION_TOUT`. -/
  | session
  deriving DecidableEq, Repr

def AcctTimer.event : AcctTimer → AcctEvent
  | .interval => .intExpire
  | .session => .sessionTout

/-- What the session tells the application. -/
inductive AcctNotice where
  | success
  | failed (recordNumber : UInt32)
  /-- `Reset`, with which the user is disconnected. -/
  | reset
  deriving DecidableEq, Repr

/-- `DIAMETER_CFG_ACCT_SESSION` -/
structure AcctConfig where
  sessionTm : UInt32
  recIntervalTm : UInt32
  realtime : UInt32

/-- What the application, its collector and the router answer when the session calls them. -/
structure AcctCallbacks where
  setRealTimeRequired : Option UInt32 := none
  setInterimInterval : Option UInt32 := none
  /-- `IsStorageSpaceAvailable` -/
  storageSpace : Bool := true
  /-- `TxDelivery` succeeds. -/
  delivered : Bool := true
  /-- `GenerateRecord` of a session with `BackwardCompatibility` calls `Send` with a message. -/
  generatesMessage : Bool := false

/-- The storage, and each list after it, has its last element first. -/
structure AcctSession where
  state : AcctState
  attributes : AcctAttributes
  timers : AcctTimer → Option UInt32
  storage : List AcctRecord
  sent : List AcctRequest
  /-- What `TxDelivery` failed for. -/
  unsent : List AcctRequest
  /-- The requests that were sent and that no answer came to. -/
  unanswered : List AcctRequest
  notices : List AcctNotice

namespace AcctSession

def scheduleTimer (session : AcctSession) (seconds : UInt32) (type : AcctTimer) : AcctSession :=
  { session with timers := Function.update session.timers type (some seconds) }

def cancelAllTimer (session : AcctSession) : AcctSession :=
  { session with timers := fun _ => none }

def scheduleInterval (session : AcctSession) : AcctSession :=
  session.scheduleTimer session.attributes.interimInterval .interval

def notice (session : AcctSession) (notice : AcctNotice) : AcctSession :=
  { session with notices := notice :: session.notices }

def failed (session : AcctSession) : AcctSession :=
  session.notice (.failed session.attributes.recordNumber)

def isLastRecordInStorage (session : AcctSession) : Bool := !session.storage.isEmpty

/-- `StoreLastRecord`, which stores nothing where there is no space. -/
def storeLastRecord (session : AcctSession) (callbacks : AcctCallbacks) (recordType : UInt32) :
    AcctSession :=
  if callbacks.storageSpace then
    { session with
      storage := ⟨recordType, session.attributes.recordNumber⟩ :: session.storage }
  else session

def deleteLastRecord (session : AcctSession) : AcctSession :=
  { session with storage := session.storage.tail }

/-- How many times the user was disconnected. -/
def disconnections (session : AcctSession) : Nat := session.notices.count .reset

end AcctSession

namespace AcctClient

variable (callbacks : AcctCallbacks)

/-- The constructor. What is in the storage is there from earlier. -/
def initial (config : AcctConfig) (backwardCompatibility : Bool) (storage : List AcctRecord) :
    AcctSession where
  state := .stIdle
  attributes :=
    { sessionTimeout := config.sessionTm
      realtimeRequired := config.realtime
      interimInterval := config.recIntervalTm
      recordType := acctRecTypeEvent
      recordNumber := 0
      backwardCompatibility := backwardCompatibility }
  timers := fun _ => none
  storage := storage
  sent := []
  unsent := []
  unanswered := []
  notices := []

/-- The event of a failure to send, in `TxACR` and in `Send`. -/
def failureEvent (session : AcctSession) : AcctEvent :=
  if session.isLastRecordInStorage then .fts
  else if session.attributes.recordType = acctRecTypeEvent ∨
      session.attributes.recordType = acctRecTypeStop then
    if callbacks.storageSpace then .ftsBuf else .ftsNoBuf
  else if callbacks.storageSpace ∧
      session.attributes.realtimeRequired ≠ acctRealtimeDeliverAndGrant then .ftsNotDag
  else if session.attributes.realtimeRequired = acctRealtimeGrantAndLose then .ftsAndGal
  else .ftsNotGal

/-- `TxDelivery` of a request, and what follows its failure. -/
def transmit (notify : AcctEvent → AcctSession → AcctSession) (request : AcctRequest)
    (session : AcctSession) : AcctSession :=
  if callbacks.delivered then
    { session with
      sent := request :: session.sent
      unanswered := request :: session.unanswered }
  else
    (notify (failureEvent callbacks session)
      { session with unsent := request :: session.unsent }).failed

/-- The request that `TxACR` fills in. In `PendingB` it is sent for the last record in the
storage. -/
def request (session : AcctSession) : AcctRequest where
  record := ⟨session.attributes.recordType, session.attributes.recordNumber⟩
  realtimeRequired := session.attributes.realtimeRequired
  interimInterval := session.attributes.interimInterval
  stored := if session.state = .stPendingB then session.storage.head? else none

def txAcr (notify : AcctEvent → AcctSession → AcctSession) (session : AcctSession) :
    AcctSession :=
  let session := { session with
    attributes :=
      { session.attributes with recordNumber := session.attributes.recordNumber + 1 } }
  -- For backward compatibility the record is generated only, and the application may send it.
  if session.attributes.backwardCompatibility ∧ ¬callbacks.generatesMessage then session
  else transmit callbacks notify (request session) session

/-- The actions, with `Notify` as it serves the event that an action raises. -/
def act (notify : AcctEvent → AcctSession → AcctSession) (action : AcctAction)
    (session : AcctSession) : AcctSession :=
  match action with
  | .txAcr => txAcr callbacks notify session.cancelAllTimer
  | .interimTimeout =>
    let session := session.cancelAllTimer
    txAcr callbacks notify { session with
      attributes := { session.attributes with recordType := acctRecTypeInterim } }
  | .rxAcaSuccess =>
    let session :=
      if session.isLastRecordInStorage then session.deleteLastRecord
      else if session.attributes.recordType = acctRecTypeStart ∨
          session.attributes.recordType = acctRecTypeInterim then
        session.cancelAllTimer.scheduleInterval
      else session
    session.notice .success
  | .storeRecord recordType =>
    let session := session.cancelAllTimer.storeLastRecord callbacks recordType
    if recordType = acctRecTypeStart ∨ recordType = acctRecTypeInterim then
      session.scheduleInterval
    else session
  | .startIntTimer =>
    session.cancelAllTimer.scheduleTimer session.attributes.sessionTimeout .session
  | .deleteRecord => session.deleteLastRecord
  | .disconnect => session.cancelAllTimer.notice .reset

/-- `Process`, for as many events as are open at a time. -/
def process : (depth : Nat) → AcctEvent → AcctSession → AcctSession
  | 0, _, session => session
  | depth + 1, event, session =>
    match acctClientTable.find session.state event with
    | none => session
    | some entry =>
      let session := { session with state := entry.nextState }
      match entry.action with
      | none => session
      | some action => act callbacks (process depth) action session

/-- `Notify`: a failure to send is the only event that an action raises. -/
def notify (event : AcctEvent) (session : AcctSession) : AcctSession :=
  process callbacks 2 event session

/-- `Begin` -/
def begin (oneTime : Bool) (session : AcctSession) : AcctSession :=
  let attributes := session.attributes
  let attributes := { attributes with
    realtimeRequired := callbacks.setRealTimeRequired.getD attributes.realtimeRequired
    interimInterval := callbacks.setInterimInterval.getD attributes.interimInterval }
  if session.isLastRecordInStorage then
    notify callbacks .recInStorage { session with attributes := attributes }
  else if oneTime then
    notify callbacks .requestOnetimeAccess { session with
      attributes := { attributes with recordType := acctRecTypeEvent } }
  else
    notify callbacks .requestAccess { session with
      attributes := { attributes with recordType := acctRecTypeStart } }

/-- The attributes that an answer changes, and the request that it is the answer to. -/
def answered (msg : AcctAnswer) (index : Nat) (session : AcctSession) : AcctSession :=
  { session with
    attributes := { session.attributes with
      recordType := msg.recordType.getD session.attributes.recordType
      realtimeRequired := msg.realtimeRequired.getD session.attributes.realtimeRequired
      interimInterval := msg.interimInterval.getD session.attributes.interimInterval }
    unanswered := session.unanswered.eraseIdx index }

/-- The event of an answer that refuses the record. -/
def refusalEvent (session : AcctSession) : AcctEvent :=
  if session.isLastRecordInStorage ∨ session.attributes.recordType = acctRecTypeStop ∨
      session.attributes.recordType = acctRecTypeEvent then .rxAcaFail
  else if session.attributes.realtimeRequired = acctRealtimeDeliverAndGrant then .rxAcaFailAndGal
  else .rxAcaFailNotGal

/-- `RxAnswer` -/
def rxAnswer (msg : AcctAnswer) (index : Nat) (session : AcctSession) : AcctSession :=
  if msg.code ≠ msgCodeAccounting then session
  else
    let session := answered msg index session
    if interpretedSuccess msg.resultCode then notify callbacks .rxAcaOk session
    else (notify callbacks (refusalEvent session) session).failed

/-- `End` -/
def finish (session : AcctSession) : AcctSession :=
  let session := { session with
    attributes := { session.attributes with recordType := acctRecTypeStop } }
  notify callbacks .stop session.cancelAllTimer

end AcctClient

/-- What happens to a sub-session. -/
inductive AcctInput where
  | begin (oneTime : Bool)
  | finish
  /-- `Send` of a message of the application. -/
  | send (request : AcctRequest)
  /-- Beside the answer stands which of the unanswered requests it is for. -/
  | rxAnswer (msg : AcctAnswer) (index : Nat)
  | timeout (type : AcctTimer)

/-- An input, with what the calls that it leads to are answered. -/
structure AcctStep where
  callbacks : AcctCallbacks := {}
  input : AcctInput

namespace AcctClient

def step (step : AcctStep) (session : AcctSession) : AcctSession :=
  match step.input with
  | .begin oneTime => begin step.callbacks oneTime session
  | .finish => finish step.callbacks session
  | .send request => transmit step.callbacks (notify step.callbacks) request session
  | .rxAnswer msg index => rxAnswer step.callbacks msg index session
  | .timeout type =>
    match session.timers type with
    | none => session
    | some _ => notify step.callbacks type.event session

def run (steps : List AcctStep) (session : AcctSession) : AcctSession :=
  steps.foldl (fun session next => step next session) session

/-! An event with the row of the table for it. -/

section

variable {callbacks : AcctCallbacks} {depth : Nat} {event : AcctEvent} {session : AcctSession}
  {state : AcctState} {next : AcctState}

theorem process_action {action : AcctAction} (isState : session.state = state)
    (found : acctClientTable.find state event = some ⟨state, some event, next, some action⟩) :
    process callbacks (depth + 1) event session =
      act callbacks (process callbacks depth) action { session with state := next } := by
  subst isState
  rw [process, found]

theorem process_state {expected : Option AcctEvent} (isState : session.state = state)
    (found : acctClientTable.find state event = some ⟨state, expected, next, none⟩) :
    process callbacks (depth + 1) event session = { session with state := next } := by
  subst isState
  rw [process, found]

/-- An event for which there is a wildcard entry only. -/
theorem process_same (isState : session.state = state)
    (found : acctClientTable.find state event = some ⟨state, none, state, none⟩) :
    process callbacks (depth + 1) event session = session := by
  subst isState
  exact process_state rfl found

end

end AcctClient

end OpenDiameter.Session
