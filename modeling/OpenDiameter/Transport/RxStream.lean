import OpenDiameter.Foundation.Reduction
import OpenDiameter.Transport.RxTermination

namespace OpenDiameter.Transport

open Foundation OpenDiameter.Parser

/-!
What the collector is for: a receiver that has the whole stream in front of it
and takes frames off it, with no buffer to fill and no calls to return from. The
buffer size is kept because it bounds the length fields that are trusted.
-/

structure Receiver where
  unread : List UInt8
  pending : Option (Nat × Bool)
  bufSize : Nat
  persistentError : RangedValue

namespace Receiver

/-- A receiver without memory takes no bytes at all. -/
def lost (persistentError : RangedValue) : Receiver :=
  ⟨[], none, 0, persistentError⟩

def readHeader (env : Environment) (receiver : Receiver) :
    Option (List Callback × Receiver) :=
  match parseHeaderRawToApp env.dictionary .strict receiver.unread with
  | (hdr, none) => some ([], { receiver with pending := some (hdr.length, false) })
  | (hdr, some st) =>
    if st.code = ResultCode.commandUnsupported ∧
        RangedValue.inRange ⟨hdr.length, diameterHeaderSize,
          receiver.bufSize * msgCollectorMaxMsgBlock⟩ = false then
      if receiver.persistentError.increment.1 then
        none
      else
        some ([],
          { receiver with
            unread := receiver.unread.drop 4
            persistentError := receiver.persistentError.increment.2 })
    else
      some ([.sendErrorAnswer (errorMsgGenerate env hdr st.code)],
        { receiver with pending := some (hdr.length, true) })

/-- A rejected payload leaves the length of its frame behind as the length of the
next one. -/
def takeFrame (env : Environment) (receiver : Receiver) (length : Nat)
    (rejected : Bool) : Option (List Callback × Receiver) :=
  if receiver.bufSize < length then
    if env.realloc (length + 1) then
      some ([], { receiver with bufSize := length + 1 })
    else
      some ([.error .memoryAllocError "Byte buffer too small but failed to re-alloc"],
        lost receiver.persistentError)
  else if receiver.unread.length < length then
    none
  else if rejected then
    some ([.error .parsingError "Header error encounted in newly arrived message"],
      { receiver with unread := receiver.unread.drop length, pending := none })
  else
    match assembleMessage env receiver.unread length .zero with
    | .ok msg =>
      some ([.message msg],
        { receiver with
          unread := receiver.unread.drop length
          pending := none
          persistentError := persistentErrorRange receiver.bufSize })
    | .error st =>
      if st.type = .normal then
        some ([.error .parsingError "Payload error encounted in newly arrived message"],
          { receiver with
            unread := receiver.unread.drop length
            pending := some (length, false) })
      else
        none

def step (env : Environment) : Reduction Receiver Callback := fun receiver =>
  if receiver.bufSize = 0 ∨ receiver.unread.length ≤ diameterHeaderSize then
    none
  else
    match receiver.pending with
    | none => receiver.readHeader env
    | some (length, rejected) => receiver.takeFrame env length rejected

end Receiver

/-!
A collector, together with the bytes that it has not been given yet, stands for
a receiver.
-/

/-- `rejected` is what `bHasHeaderError` is or was when the frame was recognised. -/
def DiameterRxMsgCollector.receiver (collector : DiameterRxMsgCollector) (rejected : Bool)
    (ahead : List UInt8) : Receiver :=
  if collector.buffer.capacity = 0 then
    .lost collector.persistentError
  else
    { unread := collector.buffer.contents ++ ahead
      pending :=
        if collector.msgLength = 0 then none else some (collector.msgLength, rejected)
      bufSize := collector.buffer.capacity
      persistentError := collector.persistentError }

def MessageState.receiver (state : MessageState) (future : List UInt8) : Receiver :=
  state.collector.receiver state.hasHeaderError (state.data ++ future)

/-!
The passes that keep to the receiver: the stream is not given up, a frame means
the same whatever lies behind it, the bytes that a rejected payload leaves at
the front are the residue, and a rejected header is not forgotten.
-/

structure Harmless (env : Environment) (state : MessageState) : Prop where
  tolerated : state.inner = true →
    diameterHeaderSize < state.collector.buffer.used → Untrusted env state →
    state.collector.persistentError.increment.1 = false
  selfContained : ∀ before length hdr, Facing env state before length false hdr →
    length ≤ state.collector.buffer.used → ∀ rest,
    assembleMessage env (state.collector.buffer.contents ++ rest) length .zero =
      assembleMessage env state.collector.buffer.contents length .zero
  normal : ∀ before length hdr st, Facing env state before length false hdr →
    length ≤ state.collector.buffer.used →
    assembleMessage env state.collector.buffer.contents length .zero = .error st →
    st.type = .normal
  residue : ∀ before length hdr st, Facing env state before length false hdr →
    length ≤ state.collector.buffer.used →
    assembleMessage env state.collector.buffer.contents length .zero = .error st →
    (state.collector.buffer.retract length).contents =
      state.collector.buffer.contents.drop length
  remembered : state.inner = false → state.data ≠ [] → state.collector.msgLength ≠ 0 →
    diameterHeaderSize < state.collector.buffer.used →
    (∃ hdr st, parseHeaderRawToApp env.dictionary .strict
      state.collector.buffer.contents = (hdr, some st)) →
    state.hasHeaderError = true

/-- The header of a frame that is not rejected is unknown to this pass or parsed by it. -/
theorem KnownFrame.header {env : Environment} {state : MessageState}
    {before : List Callback} {length : Nat} {rejected : Bool} {hdr : DiameterMsgHeader}
    (known : KnownFrame env state before length rejected hdr)
    (accepted : rejected = false) :
    hdr = .zero ∨ parseHeaderRawToApp env.dictionary .strict
      (state.collector.buffer.bytes.take diameterHeaderSize) = (hdr, none) := by
  cases known with
  | carried => exact .inl rfl
  | parsed unknown parsed => exact .inr parsed
  | rejected => cases accepted

theorem assembleMessage_front {env : Environment} {state : MessageState}
    {before : List Callback} {length : Nat} {hdr : DiameterMsgHeader}
    (facing : Facing env state before length false hdr)
    (complete : length ≤ state.collector.buffer.used) (harmless : Harmless env state) :
    assembleMessage env state.collector.buffer.bytes length hdr =
      assembleMessage env state.collector.buffer.contents length .zero := by
  have again : assembleMessage env state.collector.buffer.bytes length hdr =
      assembleMessage env state.collector.buffer.bytes length .zero := by
    rcases facing.known.header rfl with none | parsed
    · rw [none]
    · refine assembleMessage_parsed ?_
      rw [parseHeader_bytes env facing.enough, ← parseHeader_contents env facing.enough, parsed]
  rw [again]
  conv =>
    lhs
    rw [state.collector.buffer.bytes_eq_contents_append]
  exact harmless.selfContained _ _ _ facing complete _

/-- An empty frame is never taken off the stream by a harmless pass that returns. -/
theorem Harmless.length_pos {env : Environment} {state : MessageState}
    (harmless : Harmless env state) (notZero : ¬ ZeroLength env state)
    {before : List Callback} {length : Nat} {rejected : Bool} {hdr : DiameterMsgHeader}
    (facing : Facing env state before length rejected hdr) : 0 < length := by
  rcases Nat.eq_zero_or_pos length with rfl | positive
  · refine absurd (zeroLength_of_facing facing ?_) notZero
    rintro rfl st failed
    rw [assembleMessage_front facing (Nat.zero_le _) harmless] at failed
    exact harmless.normal _ _ _ st facing (Nat.zero_le _) failed
  · exact positive

section Simulation

variable {env : Environment} {state next : MessageState} {outputs : List Callback}
variable (future : List UInt8)

/-- The receiver of a state whose buffer is allocated. -/
theorem receiver_eq {collector : DiameterRxMsgCollector} {rejected : Bool}
    {ahead : List UInt8} (allocated : collector.buffer.capacity ≠ 0) :
    collector.receiver rejected ahead =
      { unread := collector.buffer.contents ++ ahead
        pending :=
          if collector.msgLength = 0 then none else some (collector.msgLength, rejected)
        bufSize := collector.buffer.capacity
        persistentError := collector.persistentError } := by
  simp only [DiameterRxMsgCollector.receiver, allocated, if_false]

theorem header_of_unread {buffer : ByteBuffer} (enough : diameterHeaderSize < buffer.used)
    (ahead : List UInt8) :
    parseHeaderRawToApp env.dictionary .strict (buffer.contents ++ ahead) =
      parseHeaderRawToApp env.dictionary .strict (buffer.bytes.take diameterHeaderSize) := by
  rw [take_header enough]
  exact header_of_prefix env ahead (by simpa using enough)

theorem long_unread {buffer : ByteBuffer} (allocated : buffer.capacity ≠ 0)
    (enough : diameterHeaderSize < buffer.used) (ahead : List UInt8) :
    ¬ (buffer.capacity = 0 ∨ (buffer.contents ++ ahead).length ≤ diameterHeaderSize) := by
  simp only [allocated, List.length_append, ByteBuffer.length_contents, false_or]
  omega

/-- Recognising the frame at the front is at most one step of the receiver. -/
theorem reduces_to_known {before : List Callback} {length : Nat} {rejected : Bool}
    {hdr : DiameterMsgHeader} (facing : Facing env state before length rejected hdr)
    (allocated : state.collector.buffer.capacity ≠ 0) :
    Reduction.Reduces (Receiver.step env) (state.receiver future) before
      { state.receiver future with pending := some (length, rejected) } := by
  rcases facing with ⟨inner, enough, known⟩
  rw [MessageState.receiver, receiver_eq allocated]
  have long := long_unread allocated enough (state.data ++ future)
  cases known with
  | carried known =>
    simp only [known, if_false]
    exact .refl _
  | parsed unknown parsed =>
    refine .single ?_
    simp only [Receiver.step, long, if_false, unknown, if_true, Receiver.readHeader]
    rw [header_of_unread enough, parsed]
  | @rejected hdr st unknown parsed trusted =>
    refine .single ?_
    simp only [Receiver.step, long, if_false, unknown, if_true, Receiver.readHeader]
    rw [header_of_unread enough, parsed]
    have keep : ¬ (st.code = ResultCode.commandUnsupported ∧
        RangedValue.inRange ⟨hdr.length, diameterHeaderSize,
          state.collector.buffer.capacity * msgCollectorMaxMsgBlock⟩ = false) := by
      rintro ⟨code, range⟩
      exact trusted ⟨unknown, hdr, st, parsed, code, range⟩
    simp only [keep, if_false]

/-- A frame that the buffer has is in front of the receiver too, whatever comes behind it. -/
theorem arrived_of_complete {buffer : ByteBuffer} {length : Nat} (complete : length ≤ buffer.used)
    (rest : List UInt8) :
    ¬ buffer.capacity < length ∧ ¬ (buffer.contents ++ rest).length < length := by
  have inside := buffer.used_le_capacity
  rw [List.length_append, ByteBuffer.length_contents]
  omega

theorem step_facing {before : List Callback} {length : Nat} {rejected : Bool}
    {hdr : DiameterMsgHeader} (facing : Facing env state before length rejected hdr)
    (someBuffer : state.collector.buffer.capacity ≠ 0) :
    Receiver.step env { state.receiver future with pending := some (length, rejected) } =
      Receiver.takeFrame env { state.receiver future with pending := some (length, rejected) }
        length rejected := by
  rw [MessageState.receiver, receiver_eq someBuffer]
  have long := long_unread someBuffer facing.enough (state.data ++ future)
  simp only [Receiver.step, long, if_false]

/-- A frame at the front that the receiver takes. -/
theorem reduces_taken {before callbacks : List Callback} {length : Nat} {rejected : Bool}
    {hdr : DiameterMsgHeader} {after : Receiver}
    (facing : Facing env state before length rejected hdr)
    (someBuffer : state.collector.buffer.capacity ≠ 0)
    (taken : Receiver.takeFrame env
      { state.receiver future with pending := some (length, rejected) } length rejected =
        some (callbacks, after)) :
    Reduction.Reduces (Receiver.step env) (state.receiver future) (before ++ callbacks) after :=
  (reduces_to_known future facing someBuffer).trans
    (.single ((step_facing future facing someBuffer).trans taken))

theorem receiver_fill :
    state.receiver future =
      ({ state with
        collector :=
          { state.collector with buffer := state.collector.buffer.fill state.data }
        data := state.data.drop state.collector.buffer.room
        inner := true } : MessageState).receiver future := by
  simp only [MessageState.receiver, DiameterRxMsgCollector.receiver,
    ByteBuffer.capacity_fill, ByteBuffer.contents_fill, List.append_assoc]
  rw [← List.append_assoc (state.data.take _), List.take_append_drop]

theorem resync_simulates (someBuffer : state.collector.buffer.capacity ≠ 0)
    (enough : diameterHeaderSize < state.collector.buffer.used)
    (untrusted : Untrusted env state)
    (tolerated : state.collector.persistentError.increment.1 = false) :
    Reduction.Reduces (Receiver.step env) (state.receiver future) []
      (({ state with
        collector :=
          { state.collector with
            persistentError := state.collector.persistentError.increment.2
            buffer := state.collector.buffer.shift 4 } } : MessageState).receiver future) := by
  refine .single ?_
  have kept : (state.collector.buffer.contents ++ (state.data ++ future)).drop 4 =
      (state.collector.buffer.shift 4).contents ++ (state.data ++ future) := by
    rw [ByteBuffer.contents_shift, List.drop_append_of_le_length]
    rw [ByteBuffer.length_contents]
    unfold diameterHeaderSize at enough
    omega
  rcases untrusted with ⟨unknown, hdr, st, parsed, code, range⟩
  have long := long_unread someBuffer enough (state.data ++ future)
  simp only [MessageState.receiver]
  rw [receiver_eq someBuffer, receiver_eq (by simpa using someBuffer)]
  simp only [Receiver.step, long, if_false, unknown, if_true, Receiver.readHeader,
    header_of_unread enough, parsed, code, range, and_self, tolerated,
    Bool.false_eq_true, kept, ByteBuffer.capacity_shift]

theorem takeFrame_grow {length : Nat} {rejected : Bool}
    (someBuffer : state.collector.buffer.capacity ≠ 0) (positive : 0 < length)
    (large : state.collector.buffer.capacity < length)
    (memory : env.realloc (length + 1) = true) :
    Receiver.takeFrame env
      { state.receiver future with pending := some (length, rejected) } length rejected =
      some ([], ({ state.known length rejected with
        collector :=
          { state.collector with
            msgLength := length
            buffer := state.collector.buffer.grow (length + 1) } } :
        MessageState).receiver future) := by
  have size : max state.collector.buffer.capacity (length + 1) = length + 1 := by omega
  simp only [MessageState.receiver, MessageState.known]
  rw [receiver_eq someBuffer, receiver_eq (by simp)]
  simp only [Receiver.takeFrame, large, memory, if_true, ByteBuffer.contents_grow,
    ByteBuffer.capacity_grow, size, Nat.ne_of_gt positive, if_false]

theorem takeFrame_skip {length : Nat} (someBuffer : state.collector.buffer.capacity ≠ 0)
    (complete : length ≤ state.collector.buffer.used) :
    Receiver.takeFrame env
      { state.receiver future with pending := some (length, true) } length true =
      some ([.error .parsingError "Header error encounted in newly arrived message"],
        ({ state.known length true with
          collector := { state.collector with msgLength := length }.compact } :
        MessageState).receiver future) := by
  have ⟨fits, arrived⟩ := arrived_of_complete complete (state.data ++ future)
  simp only [MessageState.receiver, MessageState.known]
  rw [receiver_eq someBuffer, receiver_eq (by simpa using someBuffer)]
  simp only [Receiver.takeFrame, fits, arrived, if_false, if_true,
    DiameterRxMsgCollector.compact_msgLength, DiameterRxMsgCollector.compact_capacity,
    DiameterRxMsgCollector.compact_contents,
    DiameterRxMsgCollector.compact_persistentError]
  rw [List.drop_append_of_le_length (by simpa using complete)]

theorem takeFrame_message {length : Nat} {msg : DiameterMsg}
    (someBuffer : state.collector.buffer.capacity ≠ 0)
    (complete : length ≤ state.collector.buffer.used)
    (outcome : assembleMessage env (state.collector.buffer.contents ++ (state.data ++ future))
      length .zero = .ok msg) :
    Receiver.takeFrame env
      { state.receiver future with pending := some (length, false) } length false =
      some ([.message msg],
        ({ state.known length false with
          collector :=
            { state.collector with
              msgLength := length
              persistentError :=
                persistentErrorRange state.collector.buffer.capacity }.compact } :
        MessageState).receiver future) := by
  have ⟨fits, arrived⟩ := arrived_of_complete complete (state.data ++ future)
  simp only [MessageState.receiver, MessageState.known]
  rw [receiver_eq someBuffer, receiver_eq (by simpa using someBuffer)]
  simp only [Receiver.takeFrame, fits, arrived, if_false, if_true, outcome,
    Bool.false_eq_true, DiameterRxMsgCollector.compact_msgLength,
    DiameterRxMsgCollector.compact_capacity, DiameterRxMsgCollector.compact_contents,
    DiameterRxMsgCollector.compact_persistentError]
  rw [List.drop_append_of_le_length (by simpa using complete)]

theorem takeFrame_payloadError {length : Nat} {st : DiameterErrorCode}
    (someBuffer : state.collector.buffer.capacity ≠ 0) (positive : 0 < length)
    (complete : length ≤ state.collector.buffer.used)
    (outcome : assembleMessage env (state.collector.buffer.contents ++ (state.data ++ future))
      length .zero = .error st) (normal : st.type = .normal)
    (residue : (state.collector.buffer.retract length).contents =
      state.collector.buffer.contents.drop length) :
    Receiver.takeFrame env
      { state.receiver future with pending := some (length, false) } length false =
      some ([.error .parsingError "Payload error encounted in newly arrived message"],
        ({ state.known length false with
          collector :=
            { state.collector with
              msgLength := length
              buffer := state.collector.buffer.retract length } } :
        MessageState).receiver future) := by
  have ⟨fits, arrived⟩ := arrived_of_complete complete (state.data ++ future)
  simp only [MessageState.receiver, MessageState.known]
  rw [receiver_eq someBuffer, receiver_eq (by simpa using someBuffer)]
  simp only [Receiver.takeFrame, fits, arrived, if_false, if_true, outcome, normal,
    Bool.false_eq_true, ByteBuffer.capacity_retract, residue, Nat.ne_of_gt positive]
  rw [List.drop_append_of_le_length (by simpa using complete)]

/-- Every harmless pass is a number of steps of the receiver. -/
theorem advances_simulates (advances : Advances env state outputs next)
    (allocated : diameterHeaderSize < state.collector.buffer.capacity)
    (harmless : Harmless env state) (notZero : ¬ ZeroLength env state) :
    Reduction.Reduces (Receiver.step env) (state.receiver future) outputs
      (next.receiver future) := by
  have someBuffer : state.collector.buffer.capacity ≠ 0 := by omega
  cases advances with
  | fill outer more =>
    rw [← receiver_fill]
    exact .refl _
  | idle inner few => exact .refl _
  | resync inner enough untrusted tolerated =>
    exact resync_simulates future someBuffer enough untrusted tolerated
  | @grow before length rejected hdr facing large memory =>
    have positive := harmless.length_pos notZero facing
    simpa using reduces_taken future facing someBuffer
      (takeFrame_grow future someBuffer positive large memory)
  | @wait before length rejected hdr facing fits incomplete =>
    have positive := harmless.length_pos notZero facing
    have same : { state.receiver future with pending := some (length, rejected) } =
        ({ state.known length rejected with inner := false } :
          MessageState).receiver future := by
      simp only [MessageState.receiver, MessageState.known]
      rw [receiver_eq someBuffer, receiver_eq (by exact someBuffer)]
      simp only [Nat.ne_of_gt positive, if_false]
    rw [← same]
    exact reduces_to_known future facing someBuffer
  | @skip before length hdr facing complete =>
    exact reduces_taken future facing someBuffer (takeFrame_skip future someBuffer complete)
  | @message before length hdr msg facing complete assembled =>
    have outcome := (harmless.selfContained _ _ _ facing complete
      (state.data ++ future)).trans
      ((assembleMessage_front facing complete harmless).symm.trans assembled)
    exact reduces_taken future facing someBuffer
      (takeFrame_message future someBuffer complete outcome)
  | @payloadError before length hdr st facing complete failed normal =>
    have positive := harmless.length_pos notZero facing
    have front := (assembleMessage_front facing complete harmless).symm.trans failed
    have outcome := (harmless.selfContained _ _ _ facing complete
      (state.data ++ future)).trans front
    have residue := harmless.residue _ _ _ st facing complete front
    exact reduces_taken future facing someBuffer
      (takeFrame_payloadError future someBuffer positive complete outcome normal residue)

/-!
What holds at the heads of the loop and between calls: the frame in the buffer
cannot be taken off yet whenever control is outside the inner loop, and the flag
of a rejected header belongs to the header at the front.
-/

def RejectedFront (env : Environment) (collector : DiameterRxMsgCollector) : Prop :=
  diameterHeaderSize < collector.buffer.used ∧
    ∃ hdr st, parseHeaderRawToApp env.dictionary .strict collector.buffer.contents =
      (hdr, some st)

def DiameterRxMsgCollector.Settled (collector : DiameterRxMsgCollector) : Prop :=
  collector.buffer.used ≤ diameterHeaderSize ∨
    (collector.buffer.used < collector.msgLength ∧
      collector.msgLength ≤ collector.buffer.capacity)

structure Sound (env : Environment) (state : MessageState) : Prop where
  large : diameterHeaderSize < state.collector.buffer.capacity
  handler : state.collector.handler = true
  settled : state.inner = false → state.collector.Settled
  flagged : state.collector.msgLength ≠ 0 → state.hasHeaderError = true →
    RejectedFront env state.collector

structure Resting (env : Environment) (collector : DiameterRxMsgCollector)
    (rejected : Bool) : Prop where
  allocated : collector.Allocated
  handler : collector.handler = true
  settled : collector.buffer.capacity ≠ 0 → collector.Settled
  flagged : collector.msgLength ≠ 0 → rejected = true → RejectedFront env collector

theorem Sound.facing (sound : Sound env state) {before : List Callback} {length : Nat}
    {rejected : Bool} {hdr : DiameterMsgHeader}
    (facing : Facing env state before length rejected hdr) (flag : rejected = true) :
    RejectedFront env state.collector := by
  rcases facing with ⟨inner, enough, known⟩
  refine ⟨enough, ?_⟩
  cases known with
  | carried known => exact (sound.flagged known flag).2
  | parsed => cases flag
  | rejected unknown parsed =>
    rw [parseHeader_contents env enough] at parsed
    exact ⟨_, _, parsed⟩

theorem RejectedFront.of_append {collector next : DiameterRxMsgCollector}
    (front : RejectedFront env collector) (more : List UInt8)
    (contents : next.buffer.contents = collector.buffer.contents ++ more) :
    RejectedFront env next := by
  rcases front with ⟨enough, hdr, st, parsed⟩
  have used : next.buffer.used = collector.buffer.used + more.length := by
    simpa using congrArg List.length contents
  refine ⟨by omega, hdr, st, ?_⟩
  rw [contents, header_of_unread enough, parseHeader_contents env enough, parsed]

theorem Sound.advances (sound : Sound env state)
    (advances : Advances env state outputs next) : Sound env next := by
  rcases advances_keeps advances with ⟨grown, same⟩
  have large := Nat.lt_of_lt_of_le sound.large grown
  have handler := same.trans sound.handler
  cases advances with
  | fill outer more =>
    refine ⟨large, handler, by simp, ?_⟩
    intro known flag
    exact (sound.flagged known flag).of_append _ (ByteBuffer.contents_fill _ _)
  | idle inner few => exact ⟨large, handler, fun _ => .inl few, sound.flagged⟩
  | resync inner enough untrusted tolerated =>
    refine ⟨large, handler, by simp [inner], ?_⟩
    intro known
    exact absurd untrusted.1 known
  | grow facing wide memory =>
    refine ⟨large, handler, by simp [MessageState.known, facing.inner], ?_⟩
    intro known flag
    refine (sound.facing facing flag).of_append [] ?_
    simp
  | wait facing fits incomplete =>
    refine ⟨large, handler, fun _ => .inr ⟨incomplete, fits⟩, ?_⟩
    intro known flag
    refine (sound.facing facing flag).of_append [] ?_
    simp [MessageState.known]
  | skip facing complete =>
    refine ⟨large, handler, by simp [MessageState.known, facing.inner], ?_⟩
    intro known
    simp at known
  | message facing complete assembled =>
    refine ⟨large, handler, by simp [MessageState.known, facing.inner], ?_⟩
    intro known
    simp at known
  | payloadError facing complete failed normal =>
    refine ⟨large, handler, by simp [MessageState.known, facing.inner], ?_⟩
    intro known flag
    cases flag

/-- A call whose passes are harmless is a number of steps of the receiver. -/
theorem runs_simulates {result : DiameterRxMsgCollector}
    (runs : Loop.Runs (messagePass env) state outputs result) (sound : Sound env state)
    (harmless : ∀ outputs last, Loop.Reaches (messagePass env) state outputs last →
      Harmless env last) :
    ∃ rejected, Resting env result rejected ∧
      Reduction.Reduces (Receiver.step env) (state.receiver future) outputs
        (result.receiver rejected future) := by
  induction runs with
  | @leave state outputs result pass =>
    have here := harmless _ _ (.here state)
    have someBuffer : state.collector.buffer.capacity ≠ 0 := by
      have large := sound.large
      omega
    cases leaves_of_leave pass with
    | done outer empty =>
      refine ⟨state.hasHeaderError, ?_, ?_⟩
      · exact ⟨.inr sound.large, sound.handler, fun _ => sound.settled outer,
          sound.flagged⟩
      · rw [MessageState.receiver, empty]
        exact .refl _
    | corrupted inner enough untrusted tooMany =>
      have tolerated := here.tolerated inner enough untrusted
      rw [tooMany] at tolerated
      cases tolerated
    | bug facing complete failed misuse =>
      rw [assembleMessage_front facing complete here] at failed
      exact absurd (here.normal _ _ _ _ facing complete failed) misuse
    | @exhausted before length rejected hdr facing wide memory =>
      refine ⟨false, ?_, ?_⟩
      · exact ⟨.inl rfl, sound.handler, fun allocated => absurd rfl allocated,
          fun known => absurd rfl known⟩
      · refine (reduces_to_known future facing someBuffer).trans (.single ?_)
        have enough := facing.enough
        have long : ¬ (state.collector.buffer.capacity = 0 ∨
            (state.collector.buffer.contents ++ (state.data ++ future)).length ≤
              diameterHeaderSize) := by
          simp only [someBuffer, List.length_append, ByteBuffer.length_contents, false_or]
          omega
        rw [MessageState.receiver, receiver_eq someBuffer]
        simp only [Receiver.step, long, if_false, Receiver.takeFrame, wide, if_true, memory,
          Bool.false_eq_true]
        rfl
  | @again state passOutputs next rest result pass tail induction =>
    have advances := advances_of_again pass
    have notZero : ¬ ZeroLength env state := by
      intro zeroLength
      exact Loop.not_terminates_of_recurrent (fun state => ZeroLength.recurs) zeroLength
        ⟨_, _, .again pass tail⟩
    rcases induction (sound.advances advances)
      (fun _ _ reaches => harmless _ _ (.again pass reaches)) with
      ⟨rejected, resting, reduces⟩
    refine ⟨rejected, resting, ?_⟩
    exact (advances_simulates future advances sound.large (harmless _ _ (.here state))
      notZero).trans reduces

end Simulation

/-!
Sequences of calls. `Throughout` says that every pass of every call, up to one
that does not return, starts in a state with a property.
-/

def Throughout (env : Environment) (Holds : MessageState → Prop) :
    DiameterRxMsgCollector → List (List UInt8) → Prop
  | _, [] => True
  | collector, chunk :: chunks =>
    (∀ outputs state, Loop.Reaches (messagePass env) (messageStart collector chunk)
      outputs state → Holds state) ∧
    ∀ outputs next, Message env collector chunk outputs next →
      Throughout env Holds next chunks

theorem Resting.sound {env : Environment} {collector : DiameterRxMsgCollector}
    {rejected : Bool} (resting : Resting env collector rejected)
    (listening : collector.Listening) (data : List UInt8) :
    Sound env (messageStart collector data) := by
  refine ⟨resting.allocated.resolve_left listening.1, resting.handler,
    fun _ => resting.settled listening.1, ?_⟩
  intro _ flag
  cases flag

theorem message_simulates {env : Environment} {collector next : DiameterRxMsgCollector}
    {data : List UInt8} {outputs : List Callback} {rejected : Bool}
    (resting : Resting env collector rejected)
    (call : Message env collector data outputs next)
    (harmless : ∀ outputs last,
      Loop.Reaches (messagePass env) (messageStart collector data) outputs last →
      Harmless env last) (future : List UInt8) :
    ∃ flag, Resting env next flag ∧
      Reduction.Reduces (Receiver.step env) (collector.receiver rejected (data ++ future))
        outputs (next.receiver flag future) := by
  by_cases listening : collector.Listening
  · rw [message_iff_runs listening] at call
    by_cases empty : data = []
    · subst data
      have leaves : messagePass env (messageStart collector []) = .leave [] collector := rfl
      rcases call.deterministic (.leave leaves) with ⟨rfl, rfl⟩
      exact ⟨rejected, resting, .refl _⟩
    · rcases runs_simulates future call (resting.sound listening data) harmless with
        ⟨flag, nextResting, reduces⟩
      refine ⟨flag, nextResting, ?_⟩
      have same : collector.receiver rejected (data ++ future) =
          (messageStart collector data).receiver future := by
        rw [MessageState.receiver, receiver_eq listening.1, receiver_eq (by exact listening.1)]
        by_cases unknown : collector.msgLength = 0
        · simp [messageStart, unknown]
        · cases rejected with
          | false => rfl
          | true =>
            rcases resting.flagged unknown rfl with ⟨enough, front⟩
            have remembered := (harmless _ _ (.here _)).remembered rfl empty unknown
              enough front
            cases remembered
      rw [same]
      exact reduces
  · rw [message_of_not_listening listening] at call
    rcases call with ⟨rfl, rfl⟩
    have lost : next.buffer.capacity = 0 := by
      refine Classical.byContradiction fun allocated => ?_
      exact listening ⟨allocated, resting.handler⟩
    refine ⟨rejected, resting, ?_⟩
    simp only [DiameterRxMsgCollector.receiver, lost, if_true]
    exact .refl _

theorem runsAll_simulates {env : Environment} {collector last : DiameterRxMsgCollector}
    {chunks : List (List UInt8)} {outputs : List Callback} {rejected : Bool}
    (resting : Resting env collector rejected)
    (runs : (Message env).RunsAll collector chunks outputs last)
    (harmless : Throughout env (Harmless env) collector chunks) :
    ∃ flag, Resting env last flag ∧
      Reduction.Reduces (Receiver.step env) (collector.receiver rejected chunks.flatten)
        outputs (last.receiver flag []) := by
  induction runs generalizing rejected with
  | nil collector => exact ⟨rejected, resting, .refl _⟩
  | @cons collector chunk outputs next chunks rest last call _ induction =>
    rcases harmless with ⟨here, later⟩
    rcases message_simulates resting call here chunks.flatten with
      ⟨flag, nextResting, reduces⟩
    rcases induction nextResting (later _ _ call) with ⟨final, lastResting, tail⟩
    exact ⟨final, lastResting, reduces.trans tail⟩

/-- When every byte has been given to the collector, its receiver has nothing
left to do. -/
theorem Resting.normal {env : Environment} {collector : DiameterRxMsgCollector}
    {rejected : Bool} (resting : Resting env collector rejected) :
    Reduction.Normal (Receiver.step env) (collector.receiver rejected []) := by
  by_cases lost : collector.buffer.capacity = 0
  · simp [Reduction.Normal, DiameterRxMsgCollector.receiver, lost, Receiver.lost,
      Receiver.step]
  · rw [Reduction.Normal, receiver_eq lost]
    rcases resting.settled lost with few | ⟨incomplete, fits⟩
    · simp [Receiver.step, few]
    · have known : collector.msgLength ≠ 0 := by omega
      have small : ¬ collector.buffer.capacity < collector.msgLength := by omega
      simp [Receiver.step, known, Receiver.takeFrame, small, incomplete]

theorem receiver_unread (collector : DiameterRxMsgCollector) (rejected : Bool) :
    (collector.receiver rejected []).unread = collector.buffer.contents := by
  by_cases lost : collector.buffer.capacity = 0
  · have nothing : collector.buffer.used = 0 :=
      Nat.eq_zero_of_le_zero (lost ▸ collector.buffer.used_le_capacity)
    simp [DiameterRxMsgCollector.receiver, lost, Receiver.lost, ByteBuffer.contents, nothing]
  · rw [receiver_eq lost, List.append_nil]

theorem create_resting (env : Environment) {rxBufferSize : Nat}
    (configured : 0 < rxBufferSize) :
    Resting env (DiameterRxMsgCollector.create rxBufferSize).registerHandler false := by
  refine ⟨create_allocated configured, rfl, fun _ => .inl (Nat.zero_le _), ?_⟩
  intro _ flag
  cases flag

end OpenDiameter.Transport
