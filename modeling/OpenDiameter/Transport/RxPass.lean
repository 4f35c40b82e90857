import OpenDiameter.Transport.RxCollector

namespace OpenDiameter.Transport

open Foundation OpenDiameter.Parser

/-!
What one pass of the receive loop can do, said once. With more than a header's
worth of bytes in the buffer the pass either finds the bytes at the front
untrustworthy, or it knows the frame at the front: from an earlier pass, from a
header that parses, or from a header that is rejected.
-/

/-- `st.code` and `lengthRange` of a header whose length field cannot be trusted. -/
def Untrusted (env : Environment) (state : MessageState) : Prop :=
  state.collector.msgLength = 0 ∧
    ∃ hdr st,
      parseHeaderRawToApp env.dictionary .strict
        (state.collector.buffer.bytes.take diameterHeaderSize) = (hdr, some st) ∧
      st.code = ResultCode.commandUnsupported ∧
      RangedValue.inRange ⟨hdr.length, diameterHeaderSize,
        state.collector.buffer.capacity * msgCollectorMaxMsgBlock⟩ = false

/-- The callbacks made on the way to the frame at the front, its length, whether
its header was rejected, and the header if this pass has parsed it. -/
inductive KnownFrame (env : Environment) (state : MessageState) :
    List Callback → Nat → Bool → DiameterMsgHeader → Prop
  | carried (known : state.collector.msgLength ≠ 0) :
      KnownFrame env state [] state.collector.msgLength state.hasHeaderError .zero
  | parsed {hdr} (unknown : state.collector.msgLength = 0)
      (parsed : parseHeaderRawToApp env.dictionary .strict
        (state.collector.buffer.bytes.take diameterHeaderSize) = (hdr, none)) :
      KnownFrame env state [] hdr.length false hdr
  | rejected {hdr st} (unknown : state.collector.msgLength = 0)
      (parsed : parseHeaderRawToApp env.dictionary .strict
        (state.collector.buffer.bytes.take diameterHeaderSize) = (hdr, some st))
      (trusted : ¬ Untrusted env state) :
      KnownFrame env state [.sendErrorAnswer (errorMsgGenerate env hdr st.code)]
        hdr.length true hdr

/-- The state with which the rest of the loop body goes on. -/
def MessageState.known (state : MessageState) (length : Nat) (rejected : Bool) :
    MessageState :=
  { state with
    collector := { state.collector with msgLength := length }
    hasHeaderError := rejected }

variable {env : Environment} {state : MessageState} {hdr : DiameterMsgHeader}

theorem innerPass_of_known {before : List Callback} {length : Nat} {rejected : Bool}
    (known : KnownFrame env state before length rejected hdr) :
    innerPass env state = (handleFrame env (state.known length rejected) hdr).emit before := by
  cases known with
  | carried known =>
    have same : state.known state.collector.msgLength state.hasHeaderError = state := rfl
    rw [same, innerPass, if_neg known]
    cases handleFrame env state DiameterMsgHeader.zero <;> rfl
  | parsed unknown parsed =>
    simp only [innerPass, unknown, if_true, parsed]
    change handleFrame env (state.known hdr.length false) hdr = _
    cases handleFrame env (state.known hdr.length false) hdr <;> rfl
  | @rejected hdr st unknown parsed trusted =>
    have keep : ¬ (st.code = ResultCode.commandUnsupported ∧
        RangedValue.inRange ⟨hdr.length, diameterHeaderSize,
          state.collector.buffer.capacity * msgCollectorMaxMsgBlock⟩ = false) := by
      rintro ⟨code, range⟩
      exact trusted ⟨unknown, hdr, st, parsed, code, range⟩
    have normal : st.type = .normal := (parseHeaderRawToApp_error parsed).2.1
    simp only [innerPass, unknown, if_true, parsed, keep, if_false, normal]
    rfl

theorem innerPass_of_untrusted (untrusted : Untrusted env state) :
    innerPass env state =
      if state.collector.persistentError.increment.1 then
        .leave [.error .corruptedByteStream "To many persistent errors in data"]
          { state.collector with
            persistentError := state.collector.persistentError.increment.2 }
      else
        .again []
          { state with
            collector :=
              { state.collector with
                persistentError := state.collector.persistentError.increment.2
                buffer := state.collector.buffer.shift 4 } } := by
  rcases untrusted with ⟨unknown, hdr, st, parsed, code, range⟩
  simp only [innerPass, unknown, if_true, parsed, code, range, and_self]

theorem untrusted_or_known (env : Environment) (state : MessageState) :
    Untrusted env state ∨
      ∃ before length rejected hdr, KnownFrame env state before length rejected hdr := by
  by_cases untrusted : Untrusted env state
  · exact .inl untrusted
  · refine .inr ?_
    by_cases unknown : state.collector.msgLength = 0
    · rcases parsed : parseHeaderRawToApp env.dictionary .strict
        (state.collector.buffer.bytes.take diameterHeaderSize) with ⟨hdr, _ | st⟩
      · exact ⟨_, _, _, _, .parsed unknown parsed⟩
      · exact ⟨_, _, _, _, .rejected unknown parsed untrusted⟩
    · exact ⟨_, _, _, _, .carried unknown⟩

/-!
The rest of the loop body, by the length of the frame.
-/

section Handle

variable {env : Environment} {state : MessageState} {length : Nat} {rejected : Bool}
variable {hdr : DiameterMsgHeader}

theorem handleFrame_grow (large : state.collector.buffer.capacity < length)
    (memory : env.realloc (length + 1) = true) :
    handleFrame env (state.known length rejected) hdr =
      .again []
        { state.known length rejected with
          collector :=
            { state.collector with
              msgLength := length
              buffer := state.collector.buffer.grow (length + 1) } } := by
  have inside := state.collector.buffer.used_le_capacity
  have incomplete : length > state.collector.buffer.used := by omega
  simp only [handleFrame, MessageState.known, incomplete, gt_iff_lt, large, memory, if_true]

theorem handleFrame_exhausted (large : state.collector.buffer.capacity < length)
    (memory : env.realloc (length + 1) = false) :
    handleFrame env (state.known length rejected) hdr =
      .leave [.error .memoryAllocError "Byte buffer too small but failed to re-alloc"]
        { state.collector with buffer := .null, msgLength := 0 } := by
  have inside := state.collector.buffer.used_le_capacity
  have incomplete : length > state.collector.buffer.used := by omega
  simp only [handleFrame, MessageState.known, incomplete, gt_iff_lt, large, memory, if_true,
    Bool.false_eq_true, if_false]

theorem handleFrame_wait (fits : length ≤ state.collector.buffer.capacity)
    (incomplete : state.collector.buffer.used < length) :
    handleFrame env (state.known length rejected) hdr =
      .again [] { state.known length rejected with inner := false } := by
  have small : ¬ state.collector.buffer.capacity < length := by omega
  simp only [handleFrame, MessageState.known, incomplete, gt_iff_lt, small, if_true, if_false]

theorem handleFrame_rejected (complete : length ≤ state.collector.buffer.used) :
    handleFrame env (state.known length true) hdr =
      .again [.error .parsingError "Header error encounted in newly arrived message"]
        { state.known length true with
          collector := { state.collector with msgLength := length }.compact } := by
  have arrived : ¬ state.collector.buffer.used < length := by omega
  simp only [handleFrame, MessageState.known, gt_iff_lt, arrived, if_true, if_false]

theorem handleFrame_deliver (complete : length ≤ state.collector.buffer.used) :
    handleFrame env (state.known length false) hdr =
      deliverMessage env (state.known length false) hdr := by
  have arrived : ¬ state.collector.buffer.used < length := by omega
  simp only [handleFrame, MessageState.known, gt_iff_lt, arrived, if_false,
    Bool.false_eq_true]

end Handle

/-!
All the ways to go round again and all the ways to leave.
-/

/-- The frame at the front of the buffer is known and has the given length. -/
structure Facing (env : Environment) (state : MessageState) (before : List Callback)
    (length : Nat) (rejected : Bool) (hdr : DiameterMsgHeader) : Prop where
  inner : state.inner = true
  enough : diameterHeaderSize < state.collector.buffer.used
  known : KnownFrame env state before length rejected hdr

inductive Advances (env : Environment) (state : MessageState) :
    List Callback → MessageState → Prop
  | fill (outer : state.inner = false) (more : state.data ≠ []) :
      Advances env state []
        { state with
          collector :=
            { state.collector with buffer := state.collector.buffer.fill state.data }
          data := state.data.drop state.collector.buffer.room
          inner := true }
  | idle (inner : state.inner = true)
      (few : state.collector.buffer.used ≤ diameterHeaderSize) :
      Advances env state [] { state with inner := false }
  | resync (inner : state.inner = true)
      (enough : diameterHeaderSize < state.collector.buffer.used)
      (untrusted : Untrusted env state)
      (tolerated : state.collector.persistentError.increment.1 = false) :
      Advances env state []
        { state with
          collector :=
            { state.collector with
              persistentError := state.collector.persistentError.increment.2
              buffer := state.collector.buffer.shift 4 } }
  | grow {before length rejected hdr}
      (facing : Facing env state before length rejected hdr)
      (large : state.collector.buffer.capacity < length)
      (memory : env.realloc (length + 1) = true) :
      Advances env state before
        { state.known length rejected with
          collector :=
            { state.collector with
              msgLength := length
              buffer := state.collector.buffer.grow (length + 1) } }
  | wait {before length rejected hdr}
      (facing : Facing env state before length rejected hdr)
      (fits : length ≤ state.collector.buffer.capacity)
      (incomplete : state.collector.buffer.used < length) :
      Advances env state before { state.known length rejected with inner := false }
  | skip {before length hdr} (facing : Facing env state before length true hdr)
      (complete : length ≤ state.collector.buffer.used) :
      Advances env state
        (before ++ [.error .parsingError "Header error encounted in newly arrived message"])
        { state.known length true with
          collector := { state.collector with msgLength := length }.compact }
  | message {before length hdr msg} (facing : Facing env state before length false hdr)
      (complete : length ≤ state.collector.buffer.used)
      (assembled : assembleMessage env state.collector.buffer.bytes length hdr = .ok msg) :
      Advances env state (before ++ [.message msg])
        { state.known length false with
          collector :=
            { state.collector with
              msgLength := length
              persistentError :=
                persistentErrorRange state.collector.buffer.capacity }.compact }
  | payloadError {before length hdr st}
      (facing : Facing env state before length false hdr)
      (complete : length ≤ state.collector.buffer.used)
      (failed : assembleMessage env state.collector.buffer.bytes length hdr = .error st)
      (normal : st.type = .normal) :
      Advances env state
        (before ++
          [.error .parsingError "Payload error encounted in newly arrived message"])
        { state.known length false with
          collector :=
            { state.collector with
              msgLength := length
              buffer := state.collector.buffer.retract length } }

inductive Leaves (env : Environment) (state : MessageState) :
    List Callback → DiameterRxMsgCollector → Prop
  | done (outer : state.inner = false) (empty : state.data = []) :
      Leaves env state [] state.collector
  | corrupted (inner : state.inner = true)
      (enough : diameterHeaderSize < state.collector.buffer.used)
      (untrusted : Untrusted env state)
      (tooMany : state.collector.persistentError.increment.1 = true) :
      Leaves env state [.error .corruptedByteStream "To many persistent errors in data"]
        { state.collector with
          persistentError := state.collector.persistentError.increment.2 }
  | exhausted {before length rejected hdr}
      (facing : Facing env state before length rejected hdr)
      (large : state.collector.buffer.capacity < length)
      (memory : env.realloc (length + 1) = false) :
      Leaves env state
        (before ++
          [.error .memoryAllocError "Byte buffer too small but failed to re-alloc"])
        { state.collector with buffer := .null, msgLength := 0 }
  | bug {before length hdr st} (facing : Facing env state before length false hdr)
      (complete : length ≤ state.collector.buffer.used)
      (failed : assembleMessage env state.collector.buffer.bytes length hdr = .error st)
      (misuse : st.type ≠ .normal) :
      Leaves env state
        (before ++ [.error .bugInParsingCode "Bug present in the parsing code !!!!"])
        { state.collector with msgLength := length }

theorem messagePass_of_facing {before : List Callback} {length : Nat} {rejected : Bool}
    (facing : Facing env state before length rejected hdr) :
    messagePass env state =
      (handleFrame env (state.known length rejected) hdr).emit before := by
  simp only [messagePass, facing.inner, if_true, gt_iff_lt, facing.enough]
  exact innerPass_of_known facing.known

theorem messagePass_cases (env : Environment) (state : MessageState) :
    (∃ outputs next, messagePass env state = .again outputs next ∧
      Advances env state outputs next) ∨
    ∃ outputs result, messagePass env state = .leave outputs result ∧
      Leaves env state outputs result := by
  cases inner : state.inner with
  | false =>
    by_cases empty : state.data = []
    · exact .inr ⟨_, _, by simp [messagePass, inner, empty], .done inner empty⟩
    · exact .inl ⟨_, _, by simp [messagePass, inner, empty], .fill inner empty⟩
  | true =>
    by_cases enough : diameterHeaderSize < state.collector.buffer.used
    · rcases untrusted_or_known env state with
        untrusted | ⟨before, length, rejected, hdr, known⟩
      · have pass : messagePass env state = innerPass env state := by
          simp only [messagePass, inner, if_true, gt_iff_lt, enough]
        rw [pass, innerPass_of_untrusted untrusted]
        cases tooMany : state.collector.persistentError.increment.1 with
        | true => exact .inr ⟨_, _, rfl, .corrupted inner enough untrusted tooMany⟩
        | false => exact .inl ⟨_, _, rfl, .resync inner enough untrusted tooMany⟩
      · have facing : Facing env state before length rejected hdr := ⟨inner, enough, known⟩
        rw [messagePass_of_facing facing]
        by_cases large : state.collector.buffer.capacity < length
        · cases memory : env.realloc (length + 1) with
          | true =>
            rw [handleFrame_grow large memory]
            exact .inl ⟨_, _, rfl, by
              simpa only [List.append_nil] using .grow facing large memory⟩
          | false =>
            rw [handleFrame_exhausted large memory]
            exact .inr ⟨_, _, rfl, .exhausted facing large memory⟩
        · by_cases incomplete : state.collector.buffer.used < length
          · rw [handleFrame_wait (by omega) incomplete]
            exact .inl ⟨_, _, rfl, by
              simpa only [List.append_nil] using .wait facing (by omega) incomplete⟩
          · have complete : length ≤ state.collector.buffer.used := by omega
            cases rejected with
            | true =>
              rw [handleFrame_rejected complete]
              exact .inl ⟨_, _, rfl, .skip facing complete⟩
            | false =>
              rw [handleFrame_deliver complete, deliverMessage]
              dsimp only [MessageState.known]
              cases assembled :
                  assembleMessage env state.collector.buffer.bytes length hdr with
              | ok msg => exact .inl ⟨_, _, rfl, .message facing complete assembled⟩
              | error st =>
                dsimp only
                split
                · rename_i normal
                  exact .inl ⟨_, _, rfl, .payloadError facing complete assembled normal⟩
                · rename_i misuse
                  exact .inr ⟨_, _, rfl, .bug facing complete assembled misuse⟩
    · exact .inl ⟨_, _, by simp [messagePass, inner, enough],
        .idle inner (by omega)⟩

theorem advances_of_again {state next : MessageState} {outputs : List Callback}
    (pass : messagePass env state = .again outputs next) :
    Advances env state outputs next := by
  rcases messagePass_cases env state with ⟨_, _, again, advances⟩ | ⟨_, _, leave, _⟩
  · rw [pass] at again
    cases again
    exact advances
  · rw [pass] at leave
    cases leave

theorem leaves_of_leave {outputs : List Callback} {result : DiameterRxMsgCollector}
    (pass : messagePass env state = .leave outputs result) :
    Leaves env state outputs result := by
  rcases messagePass_cases env state with ⟨_, _, again, _⟩ | ⟨_, _, leave, leaves⟩
  · rw [pass] at again
    cases again
  · rw [pass] at leave
    cases leave
    exact leaves

namespace DiameterRxMsgCollector

variable (collector : DiameterRxMsgCollector)

@[simp] theorem compact_msgLength : collector.compact.msgLength = 0 := rfl

@[simp] theorem compact_handler : collector.compact.handler = collector.handler := rfl

@[simp] theorem compact_persistentError :
    collector.compact.persistentError = collector.persistentError := rfl

@[simp] theorem compact_capacity :
    collector.compact.buffer.capacity = collector.buffer.capacity := by
  simp only [compact, ByteBuffer.capacity_clearTail]
  split <;> simp

@[simp] theorem compact_used :
    collector.compact.buffer.used = collector.buffer.used - collector.msgLength := by
  simp only [compact, ByteBuffer.used_clearTail]
  split
  · simp
  · simp only [ByteBuffer.used_empty]
    omega

@[simp] theorem compact_contents :
    collector.compact.buffer.contents =
      collector.buffer.contents.drop collector.msgLength := by
  simp only [compact, ByteBuffer.contents_clearTail]
  split
  · simp
  · rename_i whole
    rw [ByteBuffer.contents_empty, List.drop_eq_nil_of_le]
    rw [ByteBuffer.length_contents]
    omega

end DiameterRxMsgCollector

/-!
The header at the front is read from bytes that have been received.
-/

theorem take_header {buffer : ByteBuffer} (enough : diameterHeaderSize < buffer.used) :
    buffer.bytes.take diameterHeaderSize = buffer.contents.take diameterHeaderSize := by
  rw [ByteBuffer.contents, List.take_take, Nat.min_eq_left (by omega)]

theorem header_of_prefix (env : Environment) {bytes : List UInt8} (rest : List UInt8)
    (enough : diameterHeaderSize < bytes.length) :
    parseHeaderRawToApp env.dictionary .strict (bytes ++ rest) =
      parseHeaderRawToApp env.dictionary .strict (bytes.take diameterHeaderSize) := by
  have long : diameterHeaderSize ≤ (bytes.take diameterHeaderSize).length := by
    rw [List.length_take]
    omega
  conv =>
    lhs
    rw [← List.take_append_drop diameterHeaderSize bytes, List.append_assoc]
  exact parseHeaderRawToApp_append env.dictionary .strict long _

/-- A header that this pass has parsed is the one that a second look finds. -/
theorem assembleMessage_parsed {bytes : List UInt8} {length : Nat}
    (parsed : parseHeaderRawToApp env.dictionary .strict bytes = (hdr, none)) :
    assembleMessage env bytes length hdr = assembleMessage env bytes length .zero := by
  rcases parseHeaderRawToApp_strict parsed with ⟨com, form⟩
  have handle : hdr.dictHandle = some com := by rw [form]
  have none : DiameterMsgHeader.zero.dictHandle = none := rfl
  simp only [assembleMessage, handle, none, parsed]

end OpenDiameter.Transport
