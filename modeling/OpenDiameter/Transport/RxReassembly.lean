import OpenDiameter.Transport.RxStream

namespace OpenDiameter.Transport

open Foundation OpenDiameter.Parser

/-!
Streams made of whole frames. A frame has a header that parses strictly and a
length field that is right; what the collector makes of its payload does not
depend on the bytes behind it.
-/

structure StreamFrame (env : Environment) where
  bytes : List UInt8
  hdr : DiameterMsgHeader
  outcome : Except DiameterErrorCode DiameterMsg
  header : parseHeaderRawToApp env.dictionary .strict bytes = (hdr, none)
  length_eq : hdr.length = bytes.length
  long : diameterHeaderSize < bytes.length
  assembled : ∀ rest, assembleMessage env (bytes ++ rest) bytes.length .zero = outcome
  normal : ∀ st, outcome = .error st → st.type = .normal

namespace StreamFrame

variable {env : Environment}

def length (frame : StreamFrame env) : Nat := frame.bytes.length

def callback (frame : StreamFrame env) : Callback :=
  match frame.outcome with
  | .ok msg => .message msg
  | .error _ => .error .parsingError "Payload error encounted in newly arrived message"

def Rejected (frame : StreamFrame env) : Prop :=
  ∃ st, frame.outcome = .error st

/-- The length that the collector takes the next frame to have. -/
def leftover (frame : StreamFrame env) : Option (Nat × Bool) :=
  match frame.outcome with
  | .ok _ => none
  | .error _ => some (frame.length, false)

def errorRange (frame : StreamFrame env) (bufSize : Nat) (before : RangedValue) :
    RangedValue :=
  match frame.outcome with
  | .ok _ => persistentErrorRange bufSize
  | .error _ => before

/-- The buffer size once the frame has been received. -/
def grownSize (frame : StreamFrame env) (bufSize : Nat) : Nat :=
  if bufSize < frame.length then frame.length + 1 else bufSize

/-- The bytes of a list of frames. -/
def stream (frames : List (StreamFrame env)) : List UInt8 :=
  frames.flatMap bytes

@[simp] theorem stream_nil : stream ([] : List (StreamFrame env)) = [] := rfl

@[simp] theorem stream_cons (frame : StreamFrame env) (rest : List (StreamFrame env)) :
    stream (frame :: rest) = frame.bytes ++ stream rest := rfl

/-- What follows a frame with a rejected payload is a frame of its length. -/
def Chained : List (StreamFrame env) → Prop
  | [] => True
  | frame :: rest =>
    (frame.Rejected → ∀ next more, rest = next :: more → next.length = frame.length) ∧
    Chained rest

end StreamFrame

open StreamFrame

section Frames

variable {env : Environment}

theorem step_header (frame : StreamFrame env) (rest : List (StreamFrame env))
    {bufSize : Nat} (allocated : bufSize ≠ 0) (persistentError : RangedValue) :
    Receiver.step env ⟨stream (frame :: rest), none, bufSize, persistentError⟩ =
      some ([], ⟨stream (frame :: rest), some (frame.length, false), bufSize,
        persistentError⟩) := by
  have long := frame.long
  have enough : ¬ (bufSize = 0 ∨ (stream (frame :: rest)).length ≤ diameterHeaderSize) := by
    simp only [allocated, stream_cons, List.length_append, false_or]
    omega
  have header : parseHeaderRawToApp env.dictionary .strict (frame.bytes ++ stream rest) =
      (frame.hdr, none) := by
    rw [parseHeaderRawToApp_append env.dictionary .strict (Nat.le_of_lt long), frame.header]
  simp only [Receiver.step, enough, if_false, Receiver.readHeader]
  rw [stream_cons, header]
  simp only [frame.length_eq, StreamFrame.length]

theorem step_grow (memory : ∀ size, env.realloc size = true) (frame : StreamFrame env)
    (rest : List (StreamFrame env)) {bufSize : Nat} (allocated : bufSize ≠ 0)
    (large : bufSize < frame.length) (persistentError : RangedValue) :
    Receiver.step env
        ⟨stream (frame :: rest), some (frame.length, false), bufSize, persistentError⟩ =
      some ([], ⟨stream (frame :: rest), some (frame.length, false), frame.length + 1,
        persistentError⟩) := by
  have long := frame.long
  have enough : ¬ (bufSize = 0 ∨ (stream (frame :: rest)).length ≤ diameterHeaderSize) := by
    simp only [allocated, stream_cons, List.length_append, false_or]
    omega
  simp only [Receiver.step, enough, if_false, Receiver.takeFrame, large, if_true, memory]

theorem step_take (frame : StreamFrame env) (rest : List (StreamFrame env))
    {bufSize : Nat} (allocated : bufSize ≠ 0) (fits : frame.length ≤ bufSize)
    (persistentError : RangedValue) :
    Receiver.step env
        ⟨stream (frame :: rest), some (frame.length, false), bufSize, persistentError⟩ =
      some ([frame.callback], ⟨stream rest, frame.leftover, bufSize,
        frame.errorRange bufSize persistentError⟩) := by
  have long := frame.long
  have enough : ¬ (bufSize = 0 ∨ (stream (frame :: rest)).length ≤ diameterHeaderSize) := by
    simp only [allocated, stream_cons, List.length_append, false_or]
    omega
  have small : ¬ bufSize < frame.length := by omega
  have arrived : ¬ (stream (frame :: rest)).length < frame.length := by
    simp only [stream_cons, List.length_append, StreamFrame.length]
    omega
  have residue : (stream (frame :: rest)).drop frame.length = stream rest := by
    rw [stream_cons, StreamFrame.length, List.drop_left']
    rfl
  have assembled : assembleMessage env (stream (frame :: rest)) frame.length .zero =
      frame.outcome := frame.assembled _
  simp only [Receiver.step, enough, if_false, Receiver.takeFrame, small, arrived,
    Bool.false_eq_true, assembled, residue]
  cases outcome : frame.outcome with
  | ok msg => simp only [callback, leftover, errorRange, outcome]
  | error st =>
    simp only [callback, leftover, errorRange, outcome, frame.normal st outcome, if_true]

/-- A receiver at the start of a frame, or waiting for the first of the frames. -/
structure Aligned (receiver : Receiver) (frames : List (StreamFrame env)) : Prop where
  unread : receiver.unread = stream frames
  allocated : receiver.bufSize ≠ 0
  pending : receiver.pending = none ∨
    ∃ length, receiver.pending = some (length, false) ∧
      ∀ frame rest, frames = frame :: rest → frame.length = length

theorem Aligned.leftover {frame : StreamFrame env} {rest : List (StreamFrame env)}
    (chained : Chained (frame :: rest)) {bufSize : Nat} (allocated : bufSize ≠ 0)
    (persistentError : RangedValue) :
    Aligned ⟨stream rest, frame.leftover, bufSize, persistentError⟩ rest := by
  refine ⟨rfl, allocated, ?_⟩
  cases outcome : frame.outcome with
  | ok msg => exact .inl (by simp only [StreamFrame.leftover, outcome])
  | error st =>
    exact .inr ⟨frame.length, by simp only [StreamFrame.leftover, outcome],
      chained.1 ⟨st, outcome⟩⟩

theorem StreamFrame.Chained.of_suffix {frames rest : List (StreamFrame env)}
    (chained : Chained frames) (suffix : rest <:+ frames) : Chained rest := by
  rcases suffix with ⟨before, rfl⟩
  induction before with
  | nil => exact chained
  | cons frame before induction => exact induction chained.2

/-- A step stays within a frame or goes on to the next. -/
theorem aligned_step (memory : ∀ size, env.realloc size = true) {receiver next : Receiver}
    {frames : List (StreamFrame env)} {outputs : List Callback} (chained : Chained frames)
    (aligned : Aligned receiver frames)
    (taken : Receiver.step env receiver = some (outputs, next)) :
    ∃ rest, rest <:+ frames ∧ Aligned next rest := by
  rcases receiver with ⟨unread, pending, bufSize, persistentError⟩
  rcases aligned with ⟨rfl, allocated, position⟩
  cases frames with
  | nil => simp [Receiver.step, stream] at taken
  | cons frame rest =>
    dsimp only at allocated position
    rcases position with rfl | ⟨length, rfl, first⟩
    · rw [step_header frame rest allocated] at taken
      cases taken
      exact ⟨frame :: rest, List.suffix_rfl, rfl, allocated, .inr ⟨_, rfl, by
        rintro _ _ ⟨rfl, rfl⟩
        rfl⟩⟩
    · rcases first frame rest rfl with rfl
      by_cases large : bufSize < frame.length
      · rw [step_grow memory frame rest allocated large] at taken
        cases taken
        exact ⟨frame :: rest, List.suffix_rfl, rfl, by simp, .inr ⟨_, rfl, first⟩⟩
      · rw [step_take frame rest allocated (by omega)] at taken
        cases taken
        exact ⟨rest, List.suffix_cons frame rest, .leftover chained allocated _⟩

/-- The buffer size and the error range after a list of frames. -/
def afterFrames : List (StreamFrame env) → Nat → RangedValue → Nat × RangedValue
  | [], bufSize, persistentError => (bufSize, persistentError)
  | frame :: rest, bufSize, persistentError =>
    afterFrames rest (frame.grownSize bufSize)
      (frame.errorRange (frame.grownSize bufSize) persistentError)

/-- The length that is left behind by the last of a list of frames. -/
def pendingAfter : List (StreamFrame env) → Option (Nat × Bool) → Option (Nat × Bool)
  | [], pending => pending
  | frame :: rest, _ => pendingAfter rest frame.leftover

/-- Taking one frame off the stream. -/
theorem reduces_frame (memory : ∀ size, env.realloc size = true)
    {frame : StreamFrame env} {rest : List (StreamFrame env)} {pending : Option (Nat × Bool)}
    {bufSize : Nat} {persistentError : RangedValue}
    (aligned : Aligned ⟨stream (frame :: rest), pending, bufSize, persistentError⟩
      (frame :: rest)) :
    Reduction.Reduces (Receiver.step env)
      ⟨stream (frame :: rest), pending, bufSize, persistentError⟩ [frame.callback]
      ⟨stream rest, frame.leftover, frame.grownSize bufSize,
        frame.errorRange (frame.grownSize bufSize) persistentError⟩ := by
  have allocated : bufSize ≠ 0 := aligned.allocated
  have known : Reduction.Reduces (Receiver.step env)
      ⟨stream (frame :: rest), pending, bufSize, persistentError⟩ []
      ⟨stream (frame :: rest), some (frame.length, false), bufSize, persistentError⟩ := by
    rcases aligned.pending with none | ⟨length, some, first⟩
    · dsimp only at none
      subst none
      exact .single (step_header frame rest allocated persistentError)
    · rcases first frame rest rfl with rfl
      dsimp only at some
      subst some
      exact .refl _
  have grown : Reduction.Reduces (Receiver.step env)
      ⟨stream (frame :: rest), some (frame.length, false), bufSize, persistentError⟩ []
      ⟨stream (frame :: rest), some (frame.length, false), frame.grownSize bufSize,
        persistentError⟩ := by
    by_cases large : bufSize < frame.length
    · simp only [grownSize, large, if_true]
      exact .single (step_grow memory frame rest allocated large persistentError)
    · simp only [grownSize, large, if_false]
      exact .refl _
  have fits : frame.length ≤ frame.grownSize bufSize := by
    simp only [grownSize]
    split <;> omega
  have some : frame.grownSize bufSize ≠ 0 := by
    simp only [grownSize]
    split <;> omega
  simpa using known.trans (grown.trans
    (.single (step_take frame rest some fits persistentError)))

/-- Every frame causes its own callback, in order, and no bytes are left over. -/
theorem reduces_frames (memory : ∀ size, env.realloc size = true)
    {frames : List (StreamFrame env)} (chained : Chained frames)
    {pending : Option (Nat × Bool)} {bufSize : Nat} {persistentError : RangedValue}
    (aligned : Aligned ⟨stream frames, pending, bufSize, persistentError⟩ frames) :
    Reduction.Reduces (Receiver.step env)
      ⟨stream frames, pending, bufSize, persistentError⟩ (frames.map callback)
      ⟨[], pendingAfter frames pending, (afterFrames frames bufSize persistentError).1,
        (afterFrames frames bufSize persistentError).2⟩ := by
  induction frames generalizing pending bufSize persistentError with
  | nil => exact .refl _
  | cons frame rest induction =>
    have grown : frame.grownSize bufSize ≠ 0 := by
      have allocated : bufSize ≠ 0 := aligned.allocated
      simp only [grownSize]
      split <;> omega
    have next := Aligned.leftover chained grown
      (frame.errorRange (frame.grownSize bufSize) persistentError)
    exact (reduces_frame memory aligned).trans (induction chained.2 next)

end Frames

/-!
On such a stream every pass of the collector is harmless, if the residue survives
the frames with rejected payloads.
-/

def ResidueKept (env : Environment) (state : MessageState) : Prop :=
  ∀ before length hdr st, Facing env state before length false hdr →
    length ≤ state.collector.buffer.used →
    assembleMessage env state.collector.buffer.contents length .zero = .error st →
    (state.collector.buffer.retract length).contents =
      state.collector.buffer.contents.drop length

section Collector

variable {env : Environment} {state : MessageState} {future : List UInt8}
variable {frames : List (StreamFrame env)}

theorem aligned_unread (sound : Sound env state)
    (aligned : Aligned (state.receiver future) frames) :
    state.collector.buffer.contents ++ (state.data ++ future) = stream frames := by
  have large := sound.large
  have unread := aligned.unread
  rwa [MessageState.receiver, receiver_eq (by omega)] at unread

/-- More than a header's worth of bytes are the start of the first frame. -/
theorem aligned_front (sound : Sound env state)
    (aligned : Aligned (state.receiver future) frames)
    (enough : diameterHeaderSize < state.collector.buffer.used) :
    ∃ frame rest, frames = frame :: rest ∧
      parseHeaderRawToApp env.dictionary .strict state.collector.buffer.contents =
        (frame.hdr, none) := by
  have unread := aligned_unread sound aligned
  have long : diameterHeaderSize ≤ state.collector.buffer.contents.length := by
    rw [ByteBuffer.length_contents]
    omega
  cases frames with
  | nil =>
    have length := congrArg List.length unread
    simp only [stream, List.flatMap_nil, List.length_append, List.length_nil,
      ByteBuffer.length_contents] at length
    omega
  | cons frame rest =>
    refine ⟨frame, rest, rfl, ?_⟩
    rw [← parseHeaderRawToApp_append env.dictionary .strict long (state.data ++ future),
      unread, stream_cons,
      parseHeaderRawToApp_append env.dictionary .strict (Nat.le_of_lt frame.long),
      frame.header]

theorem aligned_facing (sound : Sound env state)
    (aligned : Aligned (state.receiver future) frames) {before : List Callback}
    {length : Nat} {rejected : Bool} {hdr : DiameterMsgHeader}
    (facing : Facing env state before length rejected hdr) :
    ∃ frame rest, frames = frame :: rest ∧ length = frame.length ∧ rejected = false := by
  have large := sound.large
  rcases facing with ⟨inner, enough, known⟩
  rcases aligned_front sound aligned enough with ⟨frame, rest, rfl, header⟩
  refine ⟨frame, rest, rfl, ?_⟩
  have front := parseHeader_contents env enough
  rw [header] at front
  cases known with
  | carried known =>
    have position := aligned.pending
    rw [MessageState.receiver, receiver_eq (by omega)] at position
    rcases position with none | ⟨length, some, first⟩
    · simp [known] at none
    · rw [first frame rest rfl]
      simpa [known] using some
  | parsed unknown parsed =>
    rw [front] at parsed
    cases parsed
    exact ⟨frame.length_eq, rfl⟩
  | rejected unknown parsed =>
    rw [front] at parsed
    cases parsed

/-- What the collector makes of a complete first frame is that frame's outcome. -/
theorem aligned_outcome (sound : Sound env state) {frame : StreamFrame env}
    {rest : List (StreamFrame env)}
    (aligned : Aligned (state.receiver future) (frame :: rest))
    (complete : frame.length ≤ state.collector.buffer.used) (more : List UInt8) :
    assembleMessage env (state.collector.buffer.contents ++ more) frame.length .zero =
      frame.outcome := by
  have unread := aligned_unread sound aligned
  have start : state.collector.buffer.contents.take frame.length = frame.bytes := by
    have inside : frame.length ≤ state.collector.buffer.contents.length := by
      rwa [ByteBuffer.length_contents]
    have whole := congrArg (List.take frame.length) unread
    rw [List.take_append_of_le_length inside, stream_cons] at whole
    rw [whole, StreamFrame.length, List.take_left']
    rfl
  have split : state.collector.buffer.contents ++ more =
      frame.bytes ++ (state.collector.buffer.contents.drop frame.length ++ more) := by
    rw [← start, ← List.append_assoc, List.take_append_drop]
  rw [split]
  exact frame.assembled _

theorem aligned_trusted (sound : Sound env state)
    (aligned : Aligned (state.receiver future) frames)
    (enough : diameterHeaderSize < state.collector.buffer.used) : ¬ Untrusted env state := by
  rintro ⟨_, hdr, st, parsed, _⟩
  rcases aligned_front sound aligned enough with ⟨frame, rest, _, header⟩
  rw [parseHeader_contents env enough, header] at parsed
  cases parsed

theorem aligned_harmless (sound : Sound env state)
    (aligned : Aligned (state.receiver future) frames)
    (kept : (∃ frame ∈ frames, frame.Rejected) → ResidueKept env state) :
    Harmless env state := by
  constructor
  · intro _ enough untrusted
    exact absurd untrusted (aligned_trusted sound aligned enough)
  · intro before length hdr facing complete more
    rcases aligned_facing sound aligned facing with ⟨frame, rest, rfl, rfl, _⟩
    have alone := aligned_outcome sound aligned complete []
    rw [List.append_nil] at alone
    rw [aligned_outcome sound aligned complete, alone]
  · intro before length hdr st facing complete failed
    rcases aligned_facing sound aligned facing with ⟨frame, rest, rfl, rfl, _⟩
    have alone := aligned_outcome sound aligned complete []
    rw [List.append_nil, failed] at alone
    exact frame.normal st alone.symm
  · intro before length hdr st facing complete failed
    refine kept ?_ before length hdr st facing complete failed
    rcases aligned_facing sound aligned facing with ⟨frame, rest, rfl, rfl, _⟩
    have alone := aligned_outcome sound aligned complete []
    rw [List.append_nil, failed] at alone
    exact ⟨frame, List.mem_cons_self, st, alone.symm⟩
  · rintro _ _ _ enough ⟨hdr, st, parsed⟩
    rcases aligned_front sound aligned enough with ⟨frame, rest, _, header⟩
    rw [header] at parsed
    cases parsed

theorem aligned_notZero (sound : Sound env state)
    (aligned : Aligned (state.receiver future) frames) : ¬ ZeroLength env state := by
  intro zeroLength
  rcases zeroLength.facing with ⟨before, rejected, hdr, facing, _⟩
  rcases aligned_facing sound aligned facing with ⟨frame, rest, _, length, _⟩
  have long := frame.long
  unfold StreamFrame.length at length
  omega

/-- Between frames, the bytes behind the received ones are zero. -/
def DiameterRxMsgCollector.Tidy (collector : DiameterRxMsgCollector) : Prop :=
  collector.msgLength = 0 → collector.buffer.Tidy

/-- A state of the loop on a stream of frames of which some have been taken off. -/
structure OnStream (future : List UInt8) (frames : List (StreamFrame env))
    (state : MessageState) : Prop where
  sound : Sound env state
  tidy : state.collector.Tidy
  aligned : ∃ rest, rest <:+ frames ∧ Aligned (state.receiver future) rest

theorem tidy_advances (sound : Sound env state)
    (aligned : Aligned (state.receiver future) frames) (tidy : state.collector.Tidy)
    {outputs : List Callback} {next : MessageState}
    (advances : Advances env state outputs next) : next.collector.Tidy := by
  have positive : ∀ {before length rejected hdr},
      Facing env state before length rejected hdr → length ≠ 0 := by
    intro before length rejected hdr facing
    rcases aligned_facing sound aligned facing with ⟨frame, rest, _, rfl, _⟩
    have long := frame.long
    unfold StreamFrame.length
    omega
  cases advances with
  | fill outer more => exact fun unknown => (tidy unknown).fill _
  | idle inner few => exact tidy
  | resync inner enough untrusted tolerated =>
    exact absurd untrusted (aligned_trusted sound aligned enough)
  | grow facing large memory => exact fun unknown => absurd unknown (positive facing)
  | wait facing fits incomplete => exact fun unknown => absurd unknown (positive facing)
  | skip facing complete => exact fun _ => ByteBuffer.clearTail_tidy _
  | message facing complete assembled => exact fun _ => ByteBuffer.clearTail_tidy _
  | payloadError facing complete failed normal =>
    exact fun unknown => absurd unknown (positive facing)

/-- Only frames that are left can be rejected. -/
def ResiduesKept (frames : List (StreamFrame env)) (state : MessageState) : Prop :=
  (∃ frame ∈ frames, frame.Rejected) → ResidueKept env state

/-- The same, for states that are known to be on the stream. -/
def Keeps (frames : List (StreamFrame env)) (state : MessageState) : Prop :=
  ∀ future, OnStream future frames state → ResiduesKept frames state

theorem OnStream.harmless (onStream : OnStream future frames state)
    (kept : ResiduesKept frames state) : Harmless env state := by
  rcases onStream with ⟨sound, _, rest, suffix, aligned⟩
  refine aligned_harmless sound aligned ?_
  rintro ⟨frame, member, rejected⟩
  exact kept ⟨frame, suffix.subset member, rejected⟩

theorem OnStream.again (memory : ∀ size, env.realloc size = true)
    (chained : Chained frames) (onStream : OnStream future frames state)
    (kept : ResiduesKept frames state) {outputs : List Callback} {next : MessageState}
    (pass : messagePass env state = .again outputs next) : OnStream future frames next := by
  have harmless := onStream.harmless kept
  rcases onStream with ⟨sound, tidy, rest, suffix, aligned⟩
  have advances := advances_of_again pass
  refine ⟨sound.advances advances, tidy_advances sound aligned tidy advances, ?_⟩
  have reduces := advances_simulates future advances sound.large harmless
    (aligned_notZero sound aligned)
  refine reduces.invariant
    (fun receiver => ∃ rest, rest <:+ frames ∧ Aligned receiver rest)
    ?_ ⟨rest, suffix, aligned⟩
  rintro receiver _ after ⟨rest, suffix, aligned⟩ taken
  rcases aligned_step memory (chained.of_suffix suffix) aligned taken with
    ⟨more, moreSuffix, moreAligned⟩
  exact ⟨more, moreSuffix.trans suffix, moreAligned⟩

theorem OnStream.of_reaches (memory : ∀ size, env.realloc size = true)
    (chained : Chained frames) (onStream : OnStream future frames state)
    (kept : ∀ outputs last, Loop.Reaches (messagePass env) state outputs last →
      Keeps frames last)
    {outputs : List Callback} {last : MessageState}
    (reaches : Loop.Reaches (messagePass env) state outputs last) :
    OnStream future frames last :=
  reaches.invariant_of_known (OnStream future frames) (Keeps frames)
    (fun _ _ _ holds known pass => holds.again memory chained (known _ holds) pass)
    kept onStream

end Collector

/-!
Between calls.
-/

section Calls

variable {env : Environment} {collector : DiameterRxMsgCollector} {rejected : Bool}
variable {frames : List (StreamFrame env)}

/-- The collector rests somewhere in the stream, with these bytes still to come. -/
structure RestsOn (frames : List (StreamFrame env)) (collector : DiameterRxMsgCollector)
    (rejected : Bool) (ahead : List UInt8) : Prop where
  resting : Resting env collector rejected
  tidy : collector.Tidy
  aligned : ∃ rest, rest <:+ frames ∧ Aligned (collector.receiver rejected ahead) rest

theorem RestsOn.listening {ahead : List UInt8}
    (rests : RestsOn frames collector rejected ahead) : collector.Listening := by
  rcases rests with ⟨resting, _, rest, _, aligned⟩
  refine ⟨?_, resting.handler⟩
  intro lost
  refine aligned.allocated ?_
  simp [DiameterRxMsgCollector.receiver, lost, Receiver.lost]

theorem RestsOn.start {data future : List UInt8}
    (rests : RestsOn frames collector rejected (data ++ future)) :
    OnStream future frames (messageStart collector data) := by
  have listening := rests.listening
  rcases rests with ⟨resting, tidy, rest, suffix, aligned⟩
  refine ⟨resting.sound listening data, tidy, rest, suffix, ?_⟩
  have same : (messageStart collector data).receiver future =
      collector.receiver rejected (data ++ future) := by
    have position := aligned.pending
    rw [receiver_eq listening.1] at position
    rw [MessageState.receiver, receiver_eq (by exact listening.1), receiver_eq listening.1]
    by_cases unknown : collector.msgLength = 0
    · simp [messageStart, unknown]
    · rcases position with none | ⟨_, some, _⟩
      · simp [unknown] at none
      · simp only [unknown, if_false, Option.some.injEq, Prod.mk.injEq] at some
        rw [some.2]
        rfl
  rw [same]
  exact aligned

/-- A call on a stream of frames can only end because the chunk is used up. -/
theorem OnStream.leave (memory : ∀ size, env.realloc size = true) {state : MessageState}
    {future : List UInt8} (onStream : OnStream future frames state)
    (kept : ResiduesKept frames state) {outputs : List Callback}
    {result : DiameterRxMsgCollector}
    (pass : messagePass env state = .leave outputs result) :
    ∃ rejected, RestsOn frames result rejected future := by
  have harmless := onStream.harmless kept
  rcases onStream with ⟨sound, tidy, rest, suffix, aligned⟩
  cases leaves_of_leave pass with
  | done outer empty =>
    refine ⟨state.hasHeaderError, ?_, tidy, rest, suffix, ?_⟩
    · exact ⟨.inr sound.large, sound.handler, fun _ => sound.settled outer, sound.flagged⟩
    · rwa [MessageState.receiver, empty] at aligned
  | corrupted inner enough untrusted tooMany =>
    exact absurd untrusted (aligned_trusted sound aligned enough)
  | exhausted facing large exhausted =>
    rw [memory] at exhausted
    cases exhausted
  | bug facing complete failed misuse =>
    rw [assembleMessage_front facing complete harmless] at failed
    exact absurd (harmless.normal _ _ _ _ facing complete failed) misuse

/-- Every call on a stream of frames returns, and every pass of it is harmless. -/
theorem RestsOn.message (memory : ∀ size, env.realloc size = true)
    (chained : Chained frames) {data future : List UInt8}
    (rests : RestsOn frames collector rejected (data ++ future))
    (kept : ∀ outputs last,
      Loop.Reaches (messagePass env) (messageStart collector data) outputs last →
      Keeps frames last) :
    (∀ outputs last,
      Loop.Reaches (messagePass env) (messageStart collector data) outputs last →
      Harmless env last) ∧
    ∃ outputs next, Message env collector data outputs next ∧
      ∃ rejected, RestsOn frames next rejected future := by
  have onStream : ∀ outputs last,
      Loop.Reaches (messagePass env) (messageStart collector data) outputs last →
      OnStream future frames last :=
    fun _ _ reaches => rests.start.of_reaches memory chained kept reaches
  refine ⟨fun _ _ reaches =>
    (onStream _ _ reaches).harmless (kept _ _ reaches _ (onStream _ _ reaches)), ?_⟩
  have start : OnStream future frames (messageStart collector data) := rests.start
  have terminates := (terminates_iff_no_zeroLength start.sound.large).mpr
    fun outputs last reaches => by
      rcases onStream outputs last reaches with ⟨sound, _, rest, _, aligned⟩
      exact aligned_notZero sound aligned
  rcases terminates with ⟨outputs, next, runs⟩
  refine ⟨outputs, next, (message_iff_runs rests.listening).mpr runs, ?_⟩
  rcases runs.exists_leave with ⟨last, before, after, reaches, pass, _⟩
  have there := onStream _ _ reaches
  exact there.leave memory (kept _ _ reaches _ there) pass

/-- All calls on a stream of frames return. -/
theorem RestsOn.messages (memory : ∀ size, env.realloc size = true)
    (chained : Chained frames) {chunks : List (List UInt8)}
    (rests : RestsOn frames collector rejected chunks.flatten)
    (kept : Throughout env (Keeps frames) collector chunks) :
    Throughout env (Harmless env) collector chunks ∧
    ∃ outputs last, (Message env).RunsAll collector chunks outputs last ∧
      ∃ rejected, RestsOn frames last rejected [] := by
  induction chunks generalizing collector rejected with
  | nil => exact ⟨trivial, [], collector, .nil _, rejected, rests⟩
  | cons chunk chunks induction =>
    rcases kept with ⟨here, later⟩
    rcases rests.message memory chained here with
      ⟨harmless, outputs, next, call, flag, nextRests⟩
    rcases induction nextRests (later _ _ call) with
      ⟨rest, restOutputs, last, runs, lastRests⟩
    refine ⟨⟨harmless, ?_⟩, outputs ++ restOutputs, last, .cons call runs, lastRests⟩
    intro otherOutputs other otherCall
    rcases message_deterministic call otherCall with ⟨_, rfl⟩
    exact rest

/-- On a stream of frames the collector makes each frame's callback once and in
order, and has no bytes left. -/
theorem RestsOn.run (memory : ∀ size, env.realloc size = true) (chained : Chained frames)
    {chunks : List (List UInt8)} (rests : RestsOn frames collector rejected chunks.flatten)
    {pending : Option (Nat × Bool)} {bufSize : Nat} {persistentError : RangedValue}
    (whole : collector.receiver rejected chunks.flatten =
      ⟨stream frames, pending, bufSize, persistentError⟩)
    (aligned : Aligned ⟨stream frames, pending, bufSize, persistentError⟩ frames)
    (kept : Throughout env (Keeps frames) collector chunks) :
    Throughout env (Harmless env) collector chunks ∧
    ∃ last flag, (Message env).RunsAll collector chunks (frames.map callback) last ∧
      Resting env last flag ∧ last.Listening ∧ last.Tidy ∧
      last.receiver flag [] =
        ⟨[], pendingAfter frames pending, (afterFrames frames bufSize persistentError).1,
          (afterFrames frames bufSize persistentError).2⟩ := by
  rcases rests.messages memory chained kept with
    ⟨harmless, outputs, last, runs, _, lastRests⟩
  refine ⟨harmless, last, ?_⟩
  rcases runsAll_simulates rests.resting runs harmless with ⟨flag, final, reduces⟩
  rw [whole] at reduces
  have normal : Reduction.Normal (Receiver.step env)
      ⟨[], pendingAfter frames pending, (afterFrames frames bufSize persistentError).1,
        (afterFrames frames bufSize persistentError).2⟩ := by
    simp [Reduction.Normal, Receiver.step]
  rcases reduces.unique final.normal (reduces_frames memory chained aligned) normal with
    ⟨rfl, same⟩
  exact ⟨flag, runs, final, lastRests.listening, lastRests.tidy, same⟩

/-- With nothing unread and no frame awaited, the collector is determined by the
size of its buffer and its error range. -/
theorem finished_eq {flag : Bool} {bufSize : Nat} {persistentError : RangedValue}
    (listening : collector.Listening) (tidy : collector.Tidy)
    (same : collector.receiver flag [] = ⟨[], none, bufSize, persistentError⟩) :
    collector =
      { buffer := .zeroed bufSize
        msgLength := 0
        handler := true
        persistentError := persistentError } := by
  rw [receiver_eq listening.1, List.append_nil] at same
  simp only [Receiver.mk.injEq, ite_eq_left_iff, reduceCtorEq, imp_false,
    Decidable.not_not] at same
  rcases same with ⟨contents, unknown, capacity, range⟩
  have buffer : collector.buffer = ByteBuffer.zeroed bufSize :=
    (tidy unknown).eq_of_contents (ByteBuffer.zeroed_tidy bufSize)
      (by rw [ByteBuffer.capacity_zeroed, capacity])
      (by rw [ByteBuffer.contents_zeroed, contents])
  rw [← buffer, ← range, ← unknown, ← listening.2]

/-- A fresh collector with a stream of frames ahead of it. -/
theorem create_rests (frames : List (StreamFrame env)) {rxBufferSize : Nat}
    (configured : 0 < rxBufferSize) :
    let bufSize := diameterHeaderSize + rxBufferSize
    let start := (⟨stream frames, none, bufSize, persistentErrorRange bufSize⟩ : Receiver)
    (DiameterRxMsgCollector.create rxBufferSize).registerHandler.receiver false
        (stream frames) = start ∧
      Aligned start frames ∧
      RestsOn frames (DiameterRxMsgCollector.create rxBufferSize).registerHandler false
        (stream frames) := by
  intro bufSize start
  have allocated :
      (DiameterRxMsgCollector.create rxBufferSize).registerHandler.buffer.capacity ≠ 0 := by
    simp only [DiameterRxMsgCollector.create, DiameterRxMsgCollector.registerHandler,
      ByteBuffer.capacity_zeroed]
    omega
  have same : (DiameterRxMsgCollector.create rxBufferSize).registerHandler.receiver false
      (stream frames) = start := by
    rw [receiver_eq allocated]
    simp [start, bufSize, DiameterRxMsgCollector.create,
      DiameterRxMsgCollector.registerHandler]
  have aligned : Aligned start frames := by
    refine ⟨rfl, ?_, .inl rfl⟩
    simp only [start, bufSize]
    omega
  refine ⟨same, aligned, create_resting env configured, fun _ => ?_, frames,
    List.suffix_rfl, ?_⟩
  · exact ByteBuffer.zeroed_tidy _
  · rw [same]
    exact aligned

/-- The collector after a stream of frames of which the last was not rejected. -/
def afterStream (rxBufferSize : Nat) (frames : List (StreamFrame env)) :
    DiameterRxMsgCollector :=
  let bufSize := diameterHeaderSize + rxBufferSize
  let after := afterFrames frames bufSize (persistentErrorRange bufSize)
  { buffer := .zeroed after.1
    msgLength := 0
    handler := true
    persistentError := after.2 }

theorem messages_of_frames (memory : ∀ size, env.realloc size = true) {rxBufferSize : Nat}
    (configured : 0 < rxBufferSize) (chained : Chained frames)
    (settled : pendingAfter frames none = none) {chunks : List (List UInt8)}
    (cut : chunks.flatten = stream frames)
    (kept : Throughout env (Keeps frames)
      (DiameterRxMsgCollector.create rxBufferSize).registerHandler chunks) :
    Throughout env (Harmless env)
      (DiameterRxMsgCollector.create rxBufferSize).registerHandler chunks ∧
    (Message env).RunsAll (DiameterRxMsgCollector.create rxBufferSize).registerHandler
      chunks (frames.map callback) (afterStream rxBufferSize frames) := by
  rcases create_rests frames configured with ⟨start, aligned, rests⟩
  rw [← cut] at rests
  rcases rests.run memory chained (cut ▸ start) aligned kept with
    ⟨harmless, last, flag, runs, _, listening, tidy, same⟩
  rw [settled] at same
  have ends : last = afterStream rxBufferSize frames := finished_eq listening tidy same
  exact ⟨harmless, ends ▸ runs⟩

theorem Throughout.of_forall {Holds : MessageState → Prop} (holds : ∀ state, Holds state)
    (collector : DiameterRxMsgCollector) (chunks : List (List UInt8)) :
    Throughout env Holds collector chunks := by
  induction chunks generalizing collector with
  | nil => trivial
  | cons chunk chunks induction =>
    exact ⟨fun _ state _ => holds state, fun _ next _ => induction next⟩

theorem Throughout.mono {Holds Weaker : MessageState → Prop}
    (weaken : ∀ state, Holds state → Weaker state) {collector : DiameterRxMsgCollector}
    {chunks : List (List UInt8)} (holds : Throughout env Holds collector chunks) :
    Throughout env Weaker collector chunks := by
  induction chunks generalizing collector with
  | nil => trivial
  | cons chunk chunks induction =>
    exact ⟨fun _ state reaches => weaken state (holds.1 _ state reaches),
      fun _ _ call => induction (holds.2 _ _ call)⟩

theorem Throughout.append {Holds : MessageState → Prop} {left right : List (List UInt8)}
    (first : Throughout env Holds collector left)
    (second : ∀ outputs middle, (Message env).RunsAll collector left outputs middle →
      Throughout env Holds middle right) :
    Throughout env Holds collector (left ++ right) := by
  induction left generalizing collector with
  | nil => exact second _ _ (.nil _)
  | cons chunk left induction =>
    refine ⟨first.1, fun outputs next call => ?_⟩
    exact induction (first.2 _ _ call)
      fun _ middle runs => second _ middle (.cons call runs)

end Calls

/-!
Well-formed frames: the payload parses as well, to the same containers whatever
bytes lie behind the frame.
-/

structure WellFormedFrame (env : Environment) where
  bytes : List UInt8
  msg : DiameterMsg
  header : parseHeaderRawToApp env.dictionary .strict bytes = (msg.hdr, none)
  length_eq : msg.hdr.length = bytes.length
  long : diameterHeaderSize < bytes.length
  payload : ∀ rest,
    env.payload msg.hdr.dictHandle (bytes ++ rest) bytes.length = .parsed msg.acl

namespace WellFormedFrame

variable {env : Environment}

def callback (frame : WellFormedFrame env) : Callback :=
  .message frame.msg

theorem assembled (frame : WellFormedFrame env) (rest : List UInt8) :
    assembleMessage env (frame.bytes ++ rest) frame.bytes.length .zero = .ok frame.msg := by
  have header : parseHeaderRawToApp env.dictionary .strict (frame.bytes ++ rest) =
      (frame.msg.hdr, none) := by
    rw [parseHeaderRawToApp_append env.dictionary .strict (Nat.le_of_lt frame.long),
      frame.header]
  have unknown : DiameterMsgHeader.zero.dictHandle = none := rfl
  simp only [assembleMessage, unknown, header, assembleMessage.parsePayload, frame.payload]

def toStreamFrame (frame : WellFormedFrame env) : StreamFrame env where
  bytes := frame.bytes
  hdr := frame.msg.hdr
  outcome := .ok frame.msg
  header := frame.header
  length_eq := frame.length_eq
  long := frame.long
  assembled := frame.assembled
  normal := by simp

theorem not_rejected (frame : WellFormedFrame env) : ¬ frame.toStreamFrame.Rejected := by
  rintro ⟨st, impossible⟩
  cases impossible

theorem stream_map (frames : List (WellFormedFrame env)) :
    stream (frames.map toStreamFrame) = frames.flatMap bytes := by
  rw [stream, List.flatMap_map]
  rfl

theorem chained_map (frames : List (WellFormedFrame env)) :
    Chained (frames.map toStreamFrame) := by
  induction frames with
  | nil => trivial
  | cons frame frames induction =>
    exact ⟨fun rejected => absurd rejected frame.not_rejected, induction⟩

theorem pendingAfter_map (frames : List (WellFormedFrame env)) :
    pendingAfter (frames.map toStreamFrame) none = none := by
  induction frames with
  | nil => rfl
  | cons frame frames induction => exact induction

theorem keeps_map (frames : List (WellFormedFrame env)) (state : MessageState) :
    Keeps (frames.map toStreamFrame) state := by
  rintro future _ ⟨frame, member, rejected⟩
  rcases List.mem_map.mp member with ⟨frame, _, rfl⟩
  exact absurd rejected frame.not_rejected

end WellFormedFrame

/-- A watchdog request of 24 bytes. -/
def watchdogFrame : WellFormedFrame watchdogEnvironment where
  bytes := [1, 0, 0, 24, 0x80, 0, 1, 24, 0, 0, 0, 0, 0, 0, 0, 1, 0, 0, 0, 1, 0, 0, 0, 0]
  msg :=
    { hdr :=
        { ver := 1
          length := 24
          flags := ⟨true, false, false, false⟩
          code := 280
          appId := 0
          hh := 1
          ee := 1
          dictHandle := watchdogDictionary.commandList.head? }
      acl := [] }
  header := by decide
  length_eq := rfl
  long := by decide
  payload := fun _ => rfl

end OpenDiameter.Transport
