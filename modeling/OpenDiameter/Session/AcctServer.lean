import OpenDiameter.Session.AcctClient

/-!
`DiameterServerAcctSession` and its state machine: which Accounting-Requests a server answers, and
which records it stores.
-/

namespace OpenDiameter.Session

open OpenDiameter.Router OpenDiameter.Framework

/-- The events of a server. -/
inductive AcctServerEvent where
  | rxAcrStartOk
  | rxAcrEvOk
  | rxAcrIntOk
  | rxAcrStopOk
  | rxAcrNoBuf
  | sessionTout
  deriving DecidableEq, Repr

inductive AcctServerAction where
  | start
  | rxAcr
  | rxAcrOutOfSpace
  | stop
  | timeout
  deriving DecidableEq, Repr

/-- `DiameterSessAcctServerStateTable` -/
def acctServerTable : StateTable AcctState AcctServerEvent AcctServerAction :=
  [⟨.stIdle, some .rxAcrStartOk, .stOpen, some .start⟩,
    ⟨.stIdle, some .rxAcrEvOk, .stIdle, some .rxAcr⟩,
    ⟨.stIdle, some .rxAcrNoBuf, .stIdle, some .rxAcrOutOfSpace⟩,
    ⟨.stIdle, none, .stIdle, none⟩,
    ⟨.stOpen, some .rxAcrIntOk, .stOpen, some .start⟩,
    ⟨.stOpen, some .rxAcrStopOk, .stIdle, some .stop⟩,
    ⟨.stOpen, some .rxAcrNoBuf, .stIdle, some .rxAcrOutOfSpace⟩,
    ⟨.stOpen, some .sessionTout, .stIdle, some .timeout⟩,
    ⟨.stOpen, some .rxAcrEvOk, .stOpen, some .rxAcr⟩,
    ⟨.stOpen, some .rxAcrStartOk, .stOpen, some .start⟩,
    ⟨.stOpen, none, .stOpen, none⟩]

def outOfSpace : UInt32 := 4002

/-- An Accounting-Request, or another request, with the first value of each AVP that is looked
at. -/
structure Acr where
  code : UInt32 := msgCodeAccounting
  ids : MsgIds
  sessionId : Option SessionId := none
  subSessionId : Option UInt64 := none
  recordNumber : Option UInt32 := none
  recordType : Option UInt32 := none
  radiusAcctSessionId : Option Octets := none
  multiSessionId : Option Octets := none
  deriving DecidableEq, Repr

/-- An Accounting-Answer, with the AVPs that depend on the session. -/
structure Aca where
  ids : MsgIds
  sessionId : SessionId
  resultCode : UInt32
  recordType : UInt32
  recordNumber : UInt32
  subSessionId : UInt64
  realtimeRequired : UInt32
  interimInterval : UInt32
  radiusAcctSessionId : Option Octets
  multiSessionId : Option Octets
  deriving DecidableEq, Repr

/-- What `StoreRecord` is called with. -/
structure StoredRecord where
  avpList : Acr
  recordType : UInt32
  recordNumber : UInt32
  deriving DecidableEq, Repr

structure AcctServerAttributes where
  /-- An id without an identity stands for none. -/
  sessionId : SessionId
  subSessionId : UInt64
  recordNumber : UInt32
  recordType : UInt32
  radiusAcctSessionId : Option Octets
  multiSessionId : Option Octets
  realtimeRequired : NegotiatedAttribute
  interimInterval : NegotiatedAttribute
  sessionTimeout : UInt32
  lastRx : MsgIds
  backwardCompatibility : Bool
  deriving DecidableEq, Repr

/-- What the session tells the application. -/
inductive AcctServerNotice where
  | success
  | failed (recordNumber : UInt32)
  | sessionTimeout
  | reset
  deriving DecidableEq, Repr

/-- What the application and its storage answer when the session calls them. -/
structure AcctServerCallbacks where
  setRealTimeRequired : Option UInt32 := none
  setInterimInterval : Option UInt32 := none
  /-- `IsSpaceAvailableOnDevice` -/
  spaceAvailable : Bool := true

/-- Each list has its last element first. -/
structure AcctServerSession where
  stateful : Bool
  running : Bool
  state : AcctState
  attributes : AcctServerAttributes
  /-- The session timer. -/
  timer : Option UInt32
  stored : List StoredRecord
  answers : List Aca
  notices : List AcctServerNotice

namespace AcctServer

/-- The constructor. The sub-session id and the ids of the last message have no value yet. -/
def initial (config : AcctConfig) (stateful : Bool) (subSessionId : UInt64) (lastRx : MsgIds) :
    AcctServerSession where
  stateful := stateful
  running := stateful
  state := .stIdle
  attributes :=
    { sessionId := ⟨⟨[], []⟩, .nullCounter⟩
      subSessionId := subSessionId
      recordNumber := 0
      recordType := acctRecTypeEvent
      radiusAcctSessionId := none
      multiSessionId := none
      realtimeRequired :=
        if stateful then NegotiatedAttribute.set acctRealtimeDeliverAndGrant
        else { value := config.realtime }
      interimInterval := { value := config.recIntervalTm }
      sessionTimeout := config.sessionTm
      lastRx := lastRx
      backwardCompatibility := false }
  timer := none
  stored := []
  answers := []
  notices := []

variable (callbacks : AcctServerCallbacks) (session : AcctServerSession)

def notice (notice : AcctServerNotice) : AcctServerSession :=
  { session with notices := notice :: session.notices }

def cancelAllTimer : AcctServerSession :=
  { session with timer := none }

def storeRecord (avpList : Acr) : AcctServerSession :=
  { session with
    stored := ⟨avpList, session.attributes.recordType, session.attributes.recordNumber⟩ ::
      session.stored }

/-- `StoreRecord` of the pending message, which the actions that store always have. -/
def storePending (pending : Option Acr) : AcctServerSession :=
  match pending with
  | none => session
  | some msg => storeRecord session msg

def aca (resultCode : UInt32) : Aca where
  ids := session.attributes.lastRx
  sessionId := session.attributes.sessionId
  resultCode := resultCode
  recordType := session.attributes.recordType
  recordNumber := session.attributes.recordNumber
  subSessionId := session.attributes.subSessionId
  realtimeRequired := session.attributes.realtimeRequired.value
  interimInterval := session.attributes.interimInterval.value
  radiusAcctSessionId := session.attributes.radiusAcctSessionId
  multiSessionId := session.attributes.multiSessionId

def txAca (resultCode : UInt32) : AcctServerSession :=
  -- For backward compatibility records are only generated.
  if session.attributes.backwardCompatibility then session
  else { session with answers := aca session resultCode :: session.answers }

/-- `Reset`, which also takes the session out of the database. -/
def reset : AcctServerSession :=
  { notice session .reset with running := false }

/-- The actions, with the message that `PendingMsg` gives. -/
def act (pending : Option Acr) : AcctServerAction → AcctServerSession → AcctServerSession
  | .start, session =>
    let session := txAca (storePending (cancelAllTimer session) pending) success
    notice { session with timer := some session.attributes.sessionTimeout } .success
  | .rxAcr, session => notice (txAca (storePending session pending) success) .success
  | .rxAcrOutOfSpace, session =>
    let session := txAca session outOfSpace
    reset (notice session (.failed session.attributes.recordNumber))
  | .stop, session =>
    reset (notice (txAca (storePending (cancelAllTimer session) pending) success) .success)
  | .timeout, session => reset (notice (cancelAllTimer session) .sessionTimeout)

/-- `Notify` -/
def notify (pending : Option Acr) (event : AcctServerEvent) : AcctServerSession :=
  if session.running then
    match acctServerTable.find session.state event with
    | none => session
    | some entry =>
      let session := { session with state := entry.nextState }
      match entry.action with
      | none => session
      | some action => act pending action session
  else session

/-- What a negotiated attribute becomes when the application may still set it. -/
def negotiated (own : NegotiatedAttribute) (setting : Option UInt32) : NegotiatedAttribute :=
  if own.isNegotiated then own
  else
    match setting with
    | some value => .set value
    | none => { own with isNegotiated := true }

/-- The attributes that a request changes, with the ids that `RxACR` takes from it. -/
def received (callbacks : AcctServerCallbacks) (session : AcctServerSession) (msg : Acr)
    (sessionId : SessionId) : AcctServerSession :=
  let attributes := session.attributes
  { session with
    attributes := { attributes with
      sessionId := sessionId
      subSessionId := msg.subSessionId.getD attributes.subSessionId
      recordNumber := msg.recordNumber.getD attributes.recordNumber
      recordType := msg.recordType.getD attributes.recordType
      radiusAcctSessionId := msg.radiusAcctSessionId.or attributes.radiusAcctSessionId
      multiSessionId := msg.multiSessionId.or attributes.multiSessionId
      realtimeRequired := negotiated attributes.realtimeRequired callbacks.setRealTimeRequired
      interimInterval := negotiated attributes.interimInterval callbacks.setInterimInterval
      lastRx := msg.ids } }

/-- The event of a record that there is space for. -/
def recordEvent (recordType : UInt32) : Option AcctServerEvent :=
  if recordType = acctRecTypeEvent then some .rxAcrEvOk
  else if recordType = acctRecTypeStart then some .rxAcrStartOk
  else if recordType = acctRecTypeInterim then some .rxAcrIntOk
  else if recordType = acctRecTypeStop then some .rxAcrStopOk
  else none

/-- What `RxRequest` does with a request after it took its AVPs. -/
def serve (msg : Acr) : AcctServerSession :=
  if session.stateful then
    if callbacks.spaceAvailable then
      match recordEvent session.attributes.recordType with
      | none => session
      | some event => notify session (some msg) event
    else notify session none .rxAcrNoBuf
  else
    let session := storeRecord session msg
    if callbacks.spaceAvailable then notice (txAca session success) .success
    else txAca session outOfSpace

/-- `RxRequest` -/
def rxRequest (msg : Acr) : AcctServerSession :=
  if msg.code ≠ msgCodeAccounting then session
  else
    let sessionId := if session.attributes.sessionId.key.diameterId.isEmpty then msg.sessionId
      else some session.attributes.sessionId
    match sessionId with
    | none => session
    | some sessionId => serve callbacks (received callbacks session msg sessionId) msg

end AcctServer

/-- What happens to a server. -/
inductive AcctServerInput where
  | rxRequest (msg : Acr)
  | timeout

/-- An input, with what the calls that it leads to are answered. -/
structure AcctServerStep where
  callbacks : AcctServerCallbacks := {}
  input : AcctServerInput

namespace AcctServer

def step (step : AcctServerStep) (session : AcctServerSession) : AcctServerSession :=
  match step.input with
  | .rxRequest msg => rxRequest step.callbacks session msg
  | .timeout =>
    match session.timer with
    | none => session
    | some _ => notify session none .sessionTout

def run (steps : List AcctServerStep) (session : AcctServerSession) : AcctServerSession :=
  steps.foldl (fun session next => step next session) session

end AcctServer

end OpenDiameter.Session
