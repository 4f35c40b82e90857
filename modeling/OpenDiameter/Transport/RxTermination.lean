import OpenDiameter.Transport.RxPass

namespace OpenDiameter.Transport

open Foundation OpenDiameter.Parser

/-!
A frame whose length field is zero is complete as soon as its header is known,
and taking it off the front of the buffer takes nothing off. Unless the header is
rejected for its command, or the payload parser reports a misuse, the receive
loop finds the same header again.
-/

structure ZeroLength (env : Environment) (state : MessageState) : Prop where
  inner : state.inner = true
  enough : diameterHeaderSize < state.collector.buffer.used
  unknown : state.collector.msgLength = 0
  zero : (DiameterMsgHeader.read state.collector.buffer.contents).length = 0
  supported : ∀ hdr st,
    parseHeaderRawToApp env.dictionary .strict state.collector.buffer.contents =
      (hdr, some st) → st.code ≠ ResultCode.commandUnsupported
  accepted : ∀ hdr st,
    parseHeaderRawToApp env.dictionary .strict state.collector.buffer.contents =
      (hdr, none) →
    env.payload hdr.dictHandle state.collector.buffer.bytes 0 = .error st →
    st.type = .normal

variable {buffer : ByteBuffer}

theorem parseHeader_contents (env : Environment) (enough : diameterHeaderSize < buffer.used) :
    parseHeaderRawToApp env.dictionary .strict (buffer.bytes.take diameterHeaderSize) =
      parseHeaderRawToApp env.dictionary .strict buffer.contents := by
  have long : diameterHeaderSize < buffer.contents.length := by simpa using enough
  rw [take_header enough, ← header_of_prefix env [] long, List.append_nil]

theorem parseHeader_bytes (env : Environment) (enough : diameterHeaderSize < buffer.used) :
    parseHeaderRawToApp env.dictionary .strict buffer.bytes =
      parseHeaderRawToApp env.dictionary .strict buffer.contents := by
  have long : diameterHeaderSize ≤ buffer.contents.length := by simpa using Nat.le_of_lt enough
  conv =>
    lhs
    rw [buffer.bytes_eq_contents_append]
  exact parseHeaderRawToApp_append env.dictionary .strict long _

variable {hdr : DiameterMsgHeader}

/-- The length field of the header at the front. -/
theorem parseHeader_contents_length (env : Environment) {result : Option DiameterErrorCode}
    (parsed : parseHeaderRawToApp env.dictionary .strict buffer.contents = (hdr, result)) :
    hdr.length = (DiameterMsgHeader.read buffer.contents).length := by
  rw [← parseHeaderRawToApp_length env.dictionary .strict, parsed]

variable {env : Environment} {state : MessageState}

/-- Facing an empty frame means a zero length field that is taken seriously. -/
theorem ZeroLength.facing (zeroLength : ZeroLength env state) :
    ∃ before rejected hdr, Facing env state before 0 rejected hdr ∧
      (rejected = false → ∀ st,
        assembleMessage env state.collector.buffer.bytes 0 hdr = .error st →
        st.type = .normal) := by
  rcases zeroLength with ⟨inner, enough, unknown, zero, supported, accepted⟩
  rcases parsed : parseHeaderRawToApp env.dictionary .strict
    state.collector.buffer.contents with ⟨hdr, result⟩
  have length : hdr.length = 0 := by
    rw [parseHeader_contents_length env parsed, zero]
  have front := parseHeader_contents env enough
  rw [parsed] at front
  cases result with
  | none =>
    refine ⟨[], false, hdr, ⟨inner, enough, length ▸ KnownFrame.parsed unknown front⟩, ?_⟩
    intro _ st failed
    rcases parseHeaderRawToApp_strict parsed with ⟨com, form⟩
    have handle : hdr.dictHandle = some com := by rw [form]
    simp only [assembleMessage, handle, assembleMessage.parsePayload] at failed
    rw [← handle] at failed
    split at failed <;> cases failed
    exact accepted hdr st parsed ‹_›
  | some st =>
    have trusted : ¬ Untrusted env state := by
      rintro ⟨_, otherHdr, otherSt, otherParsed, code, _⟩
      rw [front] at otherParsed
      cases otherParsed
      exact supported hdr st parsed code
    refine ⟨_, true, hdr, ⟨inner, enough,
      length ▸ KnownFrame.rejected unknown front trusted⟩, ?_⟩
    intro impossible
    cases impossible

variable {before : List Callback} {rejected : Bool}

theorem zeroLength_of_facing (facing : Facing env state before 0 rejected hdr)
    (goesOn : rejected = false → ∀ st,
      assembleMessage env state.collector.buffer.bytes 0 hdr = .error st →
      st.type = .normal) : ZeroLength env state := by
  rcases facing with ⟨inner, enough, known⟩
  have front := parseHeader_contents env enough
  generalize nothing : 0 = length at known goesOn
  cases known with
  | carried known => exact absurd nothing.symm known
  | parsed unknown parsed =>
    rw [front] at parsed
    refine ⟨inner, enough, unknown, ?_, ?_, ?_⟩
    · rw [← parseHeader_contents_length env parsed, nothing]
    · intro otherHdr st otherParsed
      rw [parsed] at otherParsed
      cases otherParsed
    · intro otherHdr st otherParsed failed
      rw [parsed] at otherParsed
      cases otherParsed
      refine goesOn rfl st ?_
      rcases parseHeaderRawToApp_strict parsed with ⟨com, form⟩
      have handle : hdr.dictHandle = some com := by rw [form]
      simp only [assembleMessage, handle, assembleMessage.parsePayload]
      rw [← nothing, ← handle, failed]
  | @rejected _ st unknown parsed trusted =>
    rw [front] at parsed
    refine ⟨inner, enough, unknown, ?_, ?_, ?_⟩
    · rw [← parseHeader_contents_length env parsed, nothing]
    · intro otherHdr otherSt otherParsed code
      rw [parsed] at otherParsed
      cases otherParsed
      refine trusted ⟨unknown, hdr, st, front.trans parsed, code, ?_⟩
      simp [RangedValue.inRange, ← nothing]
    · intro otherHdr otherSt otherParsed
      rw [parsed] at otherParsed
      cases otherParsed

/-- Only the received bytes and the size of the buffer matter. -/
theorem ZeroLength.of_same {state next : MessageState} (zeroLength : ZeroLength env state)
    (inner : next.inner = true) (unknown : next.collector.msgLength = 0)
    (contents : next.collector.buffer.contents = state.collector.buffer.contents) :
    ZeroLength env next := by
  have used : next.collector.buffer.used = state.collector.buffer.used := by
    simpa using congrArg List.length contents
  refine ⟨inner, used ▸ zeroLength.enough, unknown, ?_, ?_, ?_⟩
  · rw [contents]
    exact zeroLength.zero
  · rw [contents]
    exact zeroLength.supported
  · intro hdr st parsed failed
    rw [contents] at parsed
    rw [env.payload_of_short _ _ state.collector.buffer.bytes 0 (Nat.zero_le _)] at failed
    exact zeroLength.accepted hdr st parsed failed

/-- A pass over an empty frame changes nothing that the next pass looks at. -/
theorem ZeroLength.recurs (zeroLength : ZeroLength env state) :
    ∃ outputs next, messagePass env state = .again outputs next ∧ ZeroLength env next := by
  rcases zeroLength.facing with ⟨before, rejected, hdr, facing, goesOn⟩
  have kept : ∀ error,
      ({ state.collector with msgLength := 0, persistentError := error }
        : DiameterRxMsgCollector).compact.buffer.contents =
        state.collector.buffer.contents := by
    intro error
    rw [DiameterRxMsgCollector.compact_contents]
    rfl
  rw [messagePass_of_facing facing]
  cases rejected with
  | true =>
    rw [handleFrame_rejected (Nat.zero_le _)]
    exact ⟨_, _, rfl, zeroLength.of_same zeroLength.inner rfl (kept _)⟩
  | false =>
    rw [handleFrame_deliver (Nat.zero_le _), deliverMessage]
    dsimp only [MessageState.known]
    cases assembled : assembleMessage env state.collector.buffer.bytes 0 hdr with
    | ok msg => exact ⟨_, _, rfl, zeroLength.of_same zeroLength.inner rfl (kept _)⟩
    | error st =>
      dsimp only
      rw [if_pos (goesOn rfl st assembled)]
      refine ⟨_, _, rfl, zeroLength.of_same zeroLength.inner rfl ?_⟩
      rw [ByteBuffer.retract_zero]

/-!
Everywhere else a pass copies a byte out of the chunk, takes a byte off the
buffer, or moves control on: `stage` counts the passes that can follow one
another without doing the former.
-/

def MessageState.waiting (state : MessageState) : Bool :=
  decide (state.collector.buffer.used ≤ diameterHeaderSize) ||
    (decide (state.collector.buffer.used < state.collector.msgLength) &&
      decide (state.collector.msgLength ≤ state.collector.buffer.capacity))

def MessageState.stage (state : MessageState) : Nat :=
  if state.inner then
    if state.waiting then 1 else 2
  else
    if state.collector.buffer.used = state.collector.buffer.capacity then 3 else 0

def MessageState.remaining (state : MessageState) : Nat :=
  4 * (2 * state.data.length + state.collector.buffer.used) + state.stage

theorem stage_pos (inner : state.inner = true) :
    1 ≤ state.stage := by
  simp only [MessageState.stage, inner, if_true]
  split <;> omega

theorem stage_le_two (inner : state.inner = true) :
    state.stage ≤ 2 := by
  simp only [MessageState.stage, inner, if_true]
  split <;> omega

theorem stage_outer_of_room (outer : state.inner = false)
    (room : state.collector.buffer.used < state.collector.buffer.capacity) :
    state.stage = 0 := by
  have notFull : state.collector.buffer.used ≠ state.collector.buffer.capacity := by omega
  simp [MessageState.stage, outer, notFull]

/-- Before it is known to be incomplete, the frame at the front is not waited for. -/
theorem stage_of_facing {length : Nat} (facing : Facing env state before length rejected hdr)
    (notWaiting : length ≤ state.collector.buffer.used ∨ state.collector.buffer.capacity < length) :
    state.stage = 2 := by
  rcases facing with ⟨inner, enough, known⟩
  have more : ¬ state.collector.buffer.used ≤ diameterHeaderSize := by omega
  have busy : state.waiting = false := by
    cases known with
    | carried =>
      simp only [MessageState.waiting, more, decide_false, Bool.false_or]
      rcases notWaiting with complete | large
      · have arrived : ¬ state.collector.buffer.used < state.collector.msgLength := by omega
        simp [arrived]
      · have small : ¬ state.collector.msgLength ≤ state.collector.buffer.capacity := by
          omega
        simp [small]
    | parsed unknown => simp [MessageState.waiting, more, unknown]
    | rejected unknown => simp [MessageState.waiting, more, unknown]
  simp [MessageState.stage, inner, busy]

/-- A frame at the front that is not empty, or that ends the call. -/
theorem length_pos_of_facing {length : Nat} (facing : Facing env state before length rejected hdr)
    (goesOn : rejected = false → ∀ st,
      assembleMessage env state.collector.buffer.bytes length hdr = .error st →
      st.type = .normal) (notZero : ¬ ZeroLength env state) : 0 < length := by
  rcases Nat.eq_zero_or_pos length with rfl | positive
  · exact absurd (zeroLength_of_facing facing goesOn) notZero
  · exact positive

variable {outputs : List Callback}

theorem remaining_lt {state next : MessageState} (advances : Advances env state outputs next)
    (allocated : diameterHeaderSize < state.collector.buffer.capacity)
    (notZero : ¬ ZeroLength env state) : next.remaining < state.remaining := by
  have inside := state.collector.buffer.used_le_capacity
  cases advances with
  | fill outer more =>
    have someData : 0 < state.data.length := List.length_pos_iff.mpr more
    have moved := state.collector.buffer.used_fill state.data
    simp only [MessageState.remaining, List.length_drop, moved]
    generalize after : MessageState.stage _ = stage
    have bound : stage ≤ 2 := by
      rw [← after]
      exact stage_le_two rfl
    by_cases full : state.collector.buffer.used = state.collector.buffer.capacity
    · have before : state.stage = 3 := by simp [MessageState.stage, outer, full]
      have noRoom : state.collector.buffer.room = 0 := by
        simp [ByteBuffer.room, full]
      rw [before, noRoom]
      omega
    · have room : 0 < state.collector.buffer.room := by
        simp only [ByteBuffer.room]
        omega
      omega
  | idle inner few =>
    have before := stage_pos inner
    have after : ({ state with inner := false } : MessageState).stage = 0 :=
      stage_outer_of_room rfl (Nat.lt_of_le_of_lt few allocated)
    simp only [MessageState.remaining, after]
    omega
  | resync inner enough untrusted tolerated =>
    have before := stage_pos inner
    simp only [MessageState.remaining, ByteBuffer.used_shift]
    generalize after : MessageState.stage _ = stage
    have bound : stage ≤ 2 := by
      rw [← after]
      exact stage_le_two inner
    have header : diameterHeaderSize = 20 := rfl
    omega
  | grow facing large memory =>
    rename_i length rejected hdr
    have before := stage_of_facing facing (.inr large)
    have after : ({ state.known length rejected with
        collector :=
          { state.collector with
            msgLength := length
            buffer := state.collector.buffer.grow (length + 1) } } :
        MessageState).stage = 1 := by
      have incomplete : state.collector.buffer.used < length := by omega
      have fits : length ≤ max state.collector.buffer.capacity (length + 1) := by omega
      simp [MessageState.stage, MessageState.known, MessageState.waiting, facing.inner,
        incomplete, fits]
    simp only [MessageState.remaining, after, before]
    simp only [MessageState.known, ByteBuffer.used_grow]
    omega
  | wait facing fits incomplete =>
    rename_i length rejected hdr
    have before := stage_pos facing.inner
    have after : ({ state.known length rejected with inner := false } :
        MessageState).stage = 0 :=
      stage_outer_of_room rfl (Nat.lt_of_lt_of_le incomplete fits)
    simp only [MessageState.remaining, after]
    simp only [MessageState.known]
    omega
  | skip facing complete =>
    rename_i before length hdr
    have positive := length_pos_of_facing facing (by simp) notZero
    have stage := stage_of_facing facing (.inl complete)
    simp only [MessageState.remaining, DiameterRxMsgCollector.compact_used, stage]
    generalize after : MessageState.stage _ = stage
    have bound : stage ≤ 2 := by
      rw [← after]
      exact stage_le_two facing.inner
    simp only [MessageState.known]
    omega
  | message facing complete assembled =>
    rename_i before length hdr msg
    have positive := length_pos_of_facing facing (by simp [assembled]) notZero
    have stage := stage_of_facing facing (.inl complete)
    simp only [MessageState.remaining, DiameterRxMsgCollector.compact_used, stage]
    generalize after : MessageState.stage _ = stage
    have bound : stage ≤ 2 := by
      rw [← after]
      exact stage_le_two facing.inner
    simp only [MessageState.known]
    omega
  | payloadError facing complete failed normal =>
    rename_i before length hdr st
    have positive := length_pos_of_facing facing (by simpa [failed] using normal) notZero
    have stage := stage_of_facing facing (.inl complete)
    simp only [MessageState.remaining, ByteBuffer.used_retract, stage]
    generalize after : MessageState.stage _ = stage
    have bound : stage ≤ 2 := by
      rw [← after]
      exact stage_le_two facing.inner
    simp only [MessageState.known]
    omega

/-!
The buffer never shrinks to the size of a header: it is either large enough to
make progress, or lost to a failed `realloc`.
-/

def DiameterRxMsgCollector.Allocated (collector : DiameterRxMsgCollector) : Prop :=
  collector.buffer.capacity = 0 ∨ diameterHeaderSize < collector.buffer.capacity

theorem advances_keeps {state next : MessageState} (advances : Advances env state outputs next) :
    state.collector.buffer.capacity ≤ next.collector.buffer.capacity ∧
      next.collector.handler = state.collector.handler := by
  cases advances <;> simp [MessageState.known] <;> omega

theorem leaves_keeps {result : DiameterRxMsgCollector} (leaves : Leaves env state outputs result) :
    (result.buffer.capacity = 0 ∨
      result.buffer.capacity = state.collector.buffer.capacity) ∧
      result.handler = state.collector.handler := by
  cases leaves with
  | exhausted => exact ⟨.inl rfl, rfl⟩
  | done => exact ⟨.inr rfl, rfl⟩
  | corrupted => exact ⟨.inr rfl, rfl⟩
  | bug => exact ⟨.inr rfl, rfl⟩

theorem reaches_keeps {state last : MessageState}
    (reaches : Loop.Reaches (messagePass env) state outputs last) :
    state.collector.buffer.capacity ≤ last.collector.buffer.capacity ∧
      last.collector.handler = state.collector.handler := by
  refine reaches.invariant
    (fun last =>
      state.collector.buffer.capacity ≤ last.collector.buffer.capacity ∧
        last.collector.handler = state.collector.handler)
    ?_ ⟨Nat.le_refl _, rfl⟩
  rintro middle passOutputs next ⟨grown, same⟩ pass
  rcases advances_keeps (advances_of_again pass) with ⟨more, handler⟩
  exact ⟨Nat.le_trans grown more, handler.trans same⟩

theorem message_keeps_allocated {collector next : DiameterRxMsgCollector} {data : List UInt8}
    (holds : collector.Allocated ∧ collector.handler = true)
    (call : Message env collector data outputs next) :
    next.Allocated ∧ next.handler = true := by
  rcases holds with ⟨allocated, handler⟩
  by_cases listening : collector.Listening
  · rw [message_iff_runs listening] at call
    rcases call.exists_leave with ⟨last, before, after, reaches, pass, _⟩
    rcases reaches_keeps reaches with ⟨grown, same⟩
    rcases leaves_keeps (leaves_of_leave pass) with ⟨size, kept⟩
    have start : diameterHeaderSize < collector.buffer.capacity :=
      allocated.resolve_left listening.1
    refine ⟨?_, kept.trans (same.trans handler)⟩
    rcases size with lost | unchanged
    · exact .inl lost
    · refine .inr ?_
      rw [unchanged]
      exact Nat.lt_of_lt_of_le start grown
  · rw [message_of_not_listening listening] at call
    rcases call with ⟨_, rfl⟩
    exact ⟨allocated, handler⟩

theorem create_allocated {rxBufferSize : Nat} (configured : 0 < rxBufferSize) :
    (DiameterRxMsgCollector.create rxBufferSize).registerHandler.Allocated := by
  refine .inr ?_
  simp only [DiameterRxMsgCollector.create, DiameterRxMsgCollector.registerHandler,
    ByteBuffer.capacity_zeroed]
  omega

/-- A call on a collector with a usable buffer returns exactly when its loop never
faces a frame of length zero. -/
theorem terminates_iff_no_zeroLength
    (allocated : diameterHeaderSize < state.collector.buffer.capacity) :
    Loop.Terminates (messagePass env) state ↔
      ∀ outputs last, Loop.Reaches (messagePass env) state outputs last →
        ¬ ZeroLength env last := by
  refine Loop.terminates_iff
    (fun state => diameterHeaderSize < state.collector.buffer.capacity)
    MessageState.remaining ?_ ?_ ?_ allocated
  · intro state outputs next large pass
    exact Nat.lt_of_lt_of_le large (advances_keeps (advances_of_again pass)).1
  · intro state outputs next large notZero pass
    exact remaining_lt (advances_of_again pass) large notZero
  · intro state zeroLength
    exact zeroLength.recurs

/-- A dictionary with the request of one command, and no AVPs in it. -/
def watchdogDictionary : Dictionary where
  commandList :=
    [{ code := 280
       appId := 0
       vendorId := 0
       avpF := []
       avpR := []
       avpO := []
       name := "Device-Watchdog-Request"
       flags := ⟨true, false, false⟩ }]
  groupedAvpList := []

def watchdogEnvironment : Environment where
  dictionary := watchdogDictionary
  payload := fun _ _ _ => .parsed []
  payload_of_short := fun _ _ _ _ _ => rfl
  identity := []
  realm := []
  realloc := fun _ => true

/-- The first chunk of a connection, up to the size of the buffer, is what the
first pass over the buffer sees. -/
theorem reaches_first_fill (env : Environment) (rxBufferSize : Nat) {chunk : List UInt8}
    (more : chunk ≠ []) (fits : chunk.length ≤ diameterHeaderSize + rxBufferSize) :
    ∃ state, Loop.Reaches (messagePass env)
        (messageStart (DiameterRxMsgCollector.create rxBufferSize).registerHandler chunk)
        [] state ∧
      state.inner = true ∧ state.collector.msgLength = 0 ∧
      state.collector.buffer.contents = chunk := by
  refine ⟨_, .single (by simp only [messagePass, messageStart, more, if_false]; rfl),
    rfl, rfl, ?_⟩
  change ((ByteBuffer.zeroed (diameterHeaderSize + rxBufferSize)).fill chunk).contents = _
  rw [ByteBuffer.contents_fill, ByteBuffer.contents_zeroed, List.nil_append,
    List.take_of_length_le]
  simpa [ByteBuffer.room] using fits

/-- A watchdog request whose length field is zero, and four more bytes. -/
def zeroLengthFrame : List UInt8 :=
  [1, 0, 0, 0, 0x80, 0, 1, 24, 0, 0, 0, 0, 0, 0, 0, 1, 0, 0, 0, 1, 0, 0, 0, 0]

end OpenDiameter.Transport
