import OpenDiameter.Foundation.Loop
import OpenDiameter.Parser.Header

namespace OpenDiameter.Transport

open Foundation OpenDiameter.Parser

/-- `AAA_RangedValue`: a level and the thresholds it is compared with. -/
structure RangedValue where
  level : Nat
  low : Nat
  high : Nat
  deriving DecidableEq, Repr

namespace RangedValue

/-- `operator++`: true when the level leaves the range at the top. -/
def increment (value : RangedValue) : Bool × RangedValue :=
  let next := { value with level := value.level + 1 }
  (decide (next.level > next.high), next)

def inRange (value : RangedValue) : Bool :=
  decide (value.level > value.low) && decide (value.level < value.high)

end RangedValue

inductive CollectorError where
  | parsingError
  | bugInParsingCode
  | memoryAllocError
  | corruptedByteStream
  | invalidMsg
  | transportError
  deriving DecidableEq, Repr

/-- The calls of a `DiameterRxMsgCollectorHandler`. -/
inductive Callback where
  | message (msg : DiameterMsg)
  | error (error : CollectorError) (text : String)
  | sendErrorAnswer (msg : DiameterMsg)

/-!
What the collector calls: the dictionary, the payload parser, the identity and
realm of the local node for error answers, and `realloc`. The payload parser is
given the address of the frame and its length; it ends with a container list, a
`DiameterErrorCode`, or another exception that leaves the containers read so far.
It reads from behind the header to the end of the frame, so it reads no byte of a
frame that is not longer than a header.
-/

inductive PayloadOutcome where
  | parsed (acl : AvpContainerList)
  | error (st : DiameterErrorCode)
  | thrown (acl : AvpContainerList)

structure Environment where
  dictionary : Dictionary
  payload : Option DiameterCommand → List UInt8 → Nat → PayloadOutcome
  payload_of_short : ∀ handle left right length, length ≤ diameterHeaderSize →
    payload handle left length = payload handle right length
  identity : List UInt8
  realm : List UInt8
  realloc : Nat → Bool

/-- `DiameterErrorMsg::Generate` for a request of which only the header is known. -/
def errorMsgGenerate (env : Environment) (hdr : DiameterMsgHeader) (rcode : Nat) :
    DiameterMsg where
  hdr := { hdr with flags := { hdr.flags with e := true, r := false } }
  acl :=
    [⟨"Origin-Host", [⟨.diamId, .octets env.identity⟩]⟩,
      ⟨"Origin-Realm", [⟨.diamId, .octets env.realm⟩]⟩,
      ⟨"Result-Code", [⟨.uinteger32, .integer32 (UInt32.ofNat rcode)⟩]⟩,
      ⟨"Error-Reporting-Host", [⟨.diamId, .octets env.identity⟩]⟩]

/-- The members of the collector. The buffer holds `m_Buffer`, `m_BufSize` and
`m_Offset`; it is null after a failed `realloc`. -/
structure DiameterRxMsgCollector where
  buffer : ByteBuffer
  msgLength : Nat
  handler : Bool
  persistentError : RangedValue

def msgCollectorMaxMsgBlock : Nat := 10

/-- The range `m_PersistentError` is reset to. -/
def persistentErrorRange (bufSize : Nat) : RangedValue where
  level := 0
  low := 0
  high := bufSize * msgCollectorMaxMsgBlock / 4

namespace DiameterRxMsgCollector

/-- The constructor, for the configured receive buffer size. -/
def create (rxBufferSize : Nat) : DiameterRxMsgCollector where
  buffer := .zeroed (diameterHeaderSize + rxBufferSize)
  msgLength := 0
  handler := false
  persistentError := persistentErrorRange (diameterHeaderSize + rxBufferSize)

def registerHandler (collector : DiameterRxMsgCollector) : DiameterRxMsgCollector :=
  { collector with handler := true }

/-- Drop the frame at the front, move the residue down and clear the rest. -/
def compact (collector : DiameterRxMsgCollector) : DiameterRxMsgCollector :=
  let buffer :=
    if collector.msgLength < collector.buffer.used then
      collector.buffer.shift collector.msgLength
    else
      collector.buffer.empty
  { collector with buffer := buffer.clearTail, msgLength := 0 }

end DiameterRxMsgCollector

/-!
`DiameterRxMsgCollector::Message` has one loop inside another. They are
flattened into one loop whose state says in `inner` which of the two heads
control is at; `data` is what has not been copied yet. `hasHeaderError` is a
local of the call.
-/

structure MessageState where
  collector : DiameterRxMsgCollector
  data : List UInt8
  hasHeaderError : Bool
  inner : Bool

abbrev MessagePass := Pass MessageState Callback DiameterRxMsgCollector

/-- The message of a complete frame. The header is parsed again unless this pass
has parsed it; a failure of that, or an exception of another kind than
`DiameterErrorCode`, still gives a message. -/
def assembleMessage (env : Environment) (bytes : List UInt8) (length : Nat)
    (hdr : DiameterMsgHeader) : Except DiameterErrorCode DiameterMsg :=
  match hdr.dictHandle with
  | none =>
    match parseHeaderRawToApp env.dictionary .strict bytes with
    | (partialHdr, some _) => .ok ⟨partialHdr, []⟩
    | (msgHdr, none) => parsePayload msgHdr
  | some _ => parsePayload hdr
where
  parsePayload (msgHdr : DiameterMsgHeader) : Except DiameterErrorCode DiameterMsg :=
    match env.payload msgHdr.dictHandle bytes length with
    | .parsed acl => .ok ⟨msgHdr, acl⟩
    | .error st => .error st
    | .thrown acl => .ok ⟨msgHdr, acl⟩

/-- A complete frame whose header was not rejected. -/
def deliverMessage (env : Environment) (state : MessageState) (hdr : DiameterMsgHeader) :
    MessagePass :=
  let collector := state.collector
  match assembleMessage env collector.buffer.bytes collector.msgLength hdr with
  | .error st =>
    if st.type = .normal then
      -- the residue is looked for at the wrong place and `m_MsgLength` is kept
      .again [.error .parsingError "Payload error encounted in newly arrived message"]
        { state with
          collector :=
            { collector with buffer := collector.buffer.retract collector.msgLength } }
    else
      .leave [.error .bugInParsingCode "Bug present in the parsing code !!!!"] collector
  | .ok msg =>
    .again [.message msg]
      { state with
        collector :=
          { collector with
            persistentError := persistentErrorRange collector.buffer.capacity }.compact }

/-- The part of the inner loop's body that knows the length of the frame. -/
def handleFrame (env : Environment) (state : MessageState) (hdr : DiameterMsgHeader) :
    MessagePass :=
  let collector := state.collector
  if collector.msgLength > collector.buffer.used then
    if collector.msgLength > collector.buffer.capacity then
      if env.realloc (collector.msgLength + 1) then
        .again []
          { state with
            collector :=
              { collector with buffer := collector.buffer.grow (collector.msgLength + 1) } }
      else
        .leave [.error .memoryAllocError "Byte buffer too small but failed to re-alloc"]
          { collector with buffer := .null, msgLength := 0 }
    else
      .again [] { state with inner := false }
  else if state.hasHeaderError then
    .again [.error .parsingError "Header error encounted in newly arrived message"]
      { state with collector := collector.compact }
  else
    deliverMessage env state hdr

/-- The body of the inner loop. -/
def innerPass (env : Environment) (state : MessageState) : MessagePass :=
  let collector := state.collector
  if collector.msgLength = 0 then
    match parseHeaderRawToApp env.dictionary .strict
        (collector.buffer.bytes.take diameterHeaderSize) with
    | (hdr, none) =>
      handleFrame env
        { state with
          collector := { collector with msgLength := hdr.length }
          hasHeaderError := false }
        hdr
    | (hdr, some st) =>
      let lengthRange : RangedValue :=
        ⟨hdr.length, diameterHeaderSize,
          collector.buffer.capacity * msgCollectorMaxMsgBlock⟩
      if st.code = ResultCode.commandUnsupported ∧ lengthRange.inRange = false then
        -- cannot trust reported header length
        let (tooMany, persistentError) := collector.persistentError.increment
        if tooMany then
          .leave [.error .corruptedByteStream "To many persistent errors in data"]
            { collector with persistentError := persistentError }
        else
          .again []
            { state with
              collector :=
                { collector with
                  persistentError := persistentError
                  buffer := collector.buffer.shift 4 } }
      else if st.type = .normal then
        -- can trust reported header length despite error
        (handleFrame env
          { state with
            collector := { collector with msgLength := hdr.length }
            hasHeaderError := true }
          hdr).emit [.sendErrorAnswer (errorMsgGenerate env hdr st.code)]
      else
        .leave [.error .bugInParsingCode "Bug present in the parsing code !!!!"] collector
  else
    handleFrame env state DiameterMsgHeader.zero

/-- One pass through the head of either loop. -/
def messagePass (env : Environment) : Loop MessageState Callback DiameterRxMsgCollector :=
  fun state =>
    if state.inner then
      if state.collector.buffer.used > diameterHeaderSize then
        innerPass env state
      else
        .again [] { state with inner := false }
    else if state.data = [] then
      .leave [] state.collector
    else
      .again []
        { state with
          collector :=
            { state.collector with buffer := state.collector.buffer.fill state.data }
          data := state.data.drop state.collector.buffer.room
          inner := true }

/-- The locals of a call before its loop. -/
def messageStart (collector : DiameterRxMsgCollector) (data : List UInt8) :
    MessageState where
  collector := collector
  data := data
  hasHeaderError := false
  inner := false

/-- `DiameterRxMsgCollector::Message`, for at most `fuel` passes of its loops. -/
def DiameterRxMsgCollector.message (env : Environment) (fuel : Nat)
    (collector : DiameterRxMsgCollector) (data : List UInt8) :
    Option (List Callback × DiameterRxMsgCollector) :=
  if collector.buffer.capacity = 0 ∨ collector.handler = false then
    some ([], collector)
  else
    (messagePass env).run fuel (messageStart collector data)

/-- The call returns, after the given callbacks, with the given collector. -/
def Message (env : Environment) : Call DiameterRxMsgCollector (List UInt8) Callback :=
  fun collector data outputs next =>
    ∃ fuel, collector.message env fuel data = some (outputs, next)

/-- A collector that will look at the data it is given. -/
def DiameterRxMsgCollector.Listening (collector : DiameterRxMsgCollector) : Prop :=
  collector.buffer.capacity ≠ 0 ∧ collector.handler = true

variable {env : Environment}

theorem message_iff_runs {collector next : DiameterRxMsgCollector} {data : List UInt8}
    {outputs : List Callback} (listening : collector.Listening) :
    Message env collector data outputs next ↔
      Loop.Runs (messagePass env) (messageStart collector data) outputs next := by
  rcases listening with ⟨allocated, registered⟩
  simp only [Message, DiameterRxMsgCollector.message, allocated, registered]
  exact Loop.runs_iff_run.symm

theorem message_of_not_listening {collector : DiameterRxMsgCollector} (deaf : ¬ collector.Listening)
    (data : List UInt8) (outputs : List Callback) (next : DiameterRxMsgCollector) :
    Message env collector data outputs next ↔ outputs = [] ∧ next = collector := by
  have ignored : collector.buffer.capacity = 0 ∨ collector.handler = false := by
    simp only [DiameterRxMsgCollector.Listening, ne_eq, not_and, Bool.not_eq_true] at deaf
    exact Decidable.or_iff_not_imp_left.mpr deaf
  simp only [Message, DiameterRxMsgCollector.message, ignored, if_true,
    Option.some.injEq, Prod.mk.injEq, exists_const]
  exact ⟨fun ⟨left, right⟩ => ⟨left.symm, right.symm⟩,
    fun ⟨left, right⟩ => ⟨left.symm, right.symm⟩⟩

theorem message_deterministic {collector left right : DiameterRxMsgCollector} {data : List UInt8}
    {leftOutputs rightOutputs : List Callback}
    (leftCall : Message env collector data leftOutputs left)
    (rightCall : Message env collector data rightOutputs right) :
    leftOutputs = rightOutputs ∧ left = right := by
  by_cases listening : collector.Listening
  · rw [message_iff_runs listening] at leftCall rightCall
    exact leftCall.deterministic rightCall
  · rw [message_of_not_listening listening] at leftCall rightCall
    rcases leftCall with ⟨rfl, rfl⟩
    rcases rightCall with ⟨rfl, rfl⟩
    exact ⟨rfl, rfl⟩

theorem messages_deterministic {collector left right : DiameterRxMsgCollector}
    {chunks : List (List UInt8)} {leftOutputs rightOutputs : List Callback}
    (leftRuns : (Message env).RunsAll collector chunks leftOutputs left)
    (rightRuns : (Message env).RunsAll collector chunks rightOutputs right) :
    leftOutputs = rightOutputs ∧ left = right :=
  @Call.RunsAll.deterministic _ _ _ (Message env) message_deterministic _ _ _ _ _ _
    leftRuns rightRuns

/-- One call after another, each for at most `fuel` passes. -/
def DiameterRxMsgCollector.messages (env : Environment) (fuel : Nat) :
    DiameterRxMsgCollector → List (List UInt8) →
    Option (List Callback × DiameterRxMsgCollector)
  | collector, [] => some ([], collector)
  | collector, chunk :: chunks => do
      let (outputs, next) ← collector.message env fuel chunk
      let (rest, last) ← messages env fuel next chunks
      return (outputs ++ rest, last)

theorem messages_sound {fuel : Nat} {collector last : DiameterRxMsgCollector}
    {chunks : List (List UInt8)} {outputs : List Callback}
    (returned : collector.messages env fuel chunks = some (outputs, last)) :
    (Message env).RunsAll collector chunks outputs last := by
  induction chunks generalizing collector outputs with
  | nil =>
    simp only [DiameterRxMsgCollector.messages, Option.some.injEq, Prod.mk.injEq] at returned
    rcases returned with ⟨rfl, rfl⟩
    exact .nil _
  | cons chunk chunks induction =>
    simp only [DiameterRxMsgCollector.messages, Option.bind_eq_bind, Option.pure_def,
      Option.bind_eq_some_iff, Option.some.injEq, Prod.mk.injEq, Prod.exists] at returned
    rcases returned with ⟨first, next, call, rest, final, tail, rfl, rfl⟩
    exact .cons ⟨fuel, call⟩ (induction tail)

end OpenDiameter.Transport
