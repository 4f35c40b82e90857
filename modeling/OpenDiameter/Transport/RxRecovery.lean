import OpenDiameter.Transport.RxReassembly

namespace OpenDiameter.Transport

open Foundation OpenDiameter.Parser StreamFrame

/-!
A frame with a right length field and a good header whose payload does not parse.
-/

structure FailingFrame (env : Environment) where
  bytes : List UInt8
  hdr : DiameterMsgHeader
  outcome : PayloadOutcome
  header : parseHeaderRawToApp env.dictionary .strict bytes = (hdr, none)
  length_eq : hdr.length = bytes.length
  long : diameterHeaderSize < bytes.length
  payload : ∀ rest, env.payload hdr.dictHandle (bytes ++ rest) bytes.length = outcome
  fails : ∀ acl, outcome ≠ .parsed acl

namespace FailingFrame

variable {env : Environment}

/-- A failing frame as a frame of a stream, if the failure is an error of the
Diameter specification. -/
def toStreamFrame (frame : FailingFrame env) {st : DiameterErrorCode}
    (rejected : frame.outcome = .error st) (normal : st.type = .normal) :
    StreamFrame env where
  bytes := frame.bytes
  hdr := frame.hdr
  outcome := .error st
  header := frame.header
  length_eq := frame.length_eq
  long := frame.long
  assembled := by
    intro rest
    have header : parseHeaderRawToApp env.dictionary .strict (frame.bytes ++ rest) =
        (frame.hdr, none) := by
      rw [parseHeaderRawToApp_append env.dictionary .strict (Nat.le_of_lt frame.long),
        frame.header]
    have unknown : DiameterMsgHeader.zero.dictHandle = none := rfl
    simp only [assembleMessage, unknown, header, assembleMessage.parsePayload,
      frame.payload, rejected]
  normal := by
    intro other same
    cases same
    exact normal

end FailingFrame

def payloadErrorCallback : Callback :=
  .error .parsingError "Payload error encounted in newly arrived message"

section Recovery

variable {env : Environment}

theorem stream_append (left right : List (StreamFrame env)) :
    stream (left ++ right) = stream left ++ stream right :=
  List.flatMap_append

/-- Only what follows the rejected frame is constrained. -/
theorem chained_append (before : List (WellFormedFrame env)) {rest : List (StreamFrame env)}
    (chained : Chained rest) :
    Chained (before.map WellFormedFrame.toStreamFrame ++ rest) := by
  induction before with
  | nil => exact chained
  | cons frame before induction =>
    exact ⟨fun rejected => absurd rejected frame.not_rejected, induction⟩

theorem pendingAfter_append (left right : List (StreamFrame env))
    (pending : Option (Nat × Bool)) :
    pendingAfter (left ++ right) pending = pendingAfter right (pendingAfter left pending) := by
  induction left generalizing pending with
  | nil => rfl
  | cons frame left induction => exact induction _

theorem afterFrames_append (left right : List (StreamFrame env)) (bufSize : Nat)
    (persistentError : RangedValue) :
    afterFrames (left ++ right) bufSize persistentError =
      afterFrames right (afterFrames left bufSize persistentError).1
        (afterFrames left bufSize persistentError).2 := by
  induction left generalizing bufSize persistentError with
  | nil => rfl
  | cons frame left induction => exact induction _ _

/-- A rejected frame in front of a delivered one of its length leaves no trace. -/
theorem afterFrames_skip (bad next : StreamFrame env) (after : List (StreamFrame env))
    {msg : DiameterMsg} (delivered : next.outcome = .ok msg)
    (sameLength : next.length = bad.length) (bufSize : Nat) (persistentError : RangedValue) :
    afterFrames (bad :: next :: after) bufSize persistentError =
      afterFrames (next :: after) bufSize persistentError := by
  have size : next.grownSize (bad.grownSize bufSize) = next.grownSize bufSize := by
    simp only [grownSize, sameLength]
    split
    · rw [if_neg (by omega)]
    · rfl
  have range : ∀ size before after,
      next.errorRange size before = next.errorRange size after := by
    intro size before after
    simp only [errorRange, delivered]
  simp only [afterFrames, size]
  rw [range]

variable (before : List (WellFormedFrame env)) (bad : FailingFrame env)
variable (next : WellFormedFrame env) (after : List (WellFormedFrame env))
variable {st : DiameterErrorCode}

/-- When the frame with the rejected payload is the last one, there is no residue. -/
theorem keeps_last (rejected : bad.outcome = .error st) (normal : st.type = .normal)
    (state : MessageState) :
    Keeps (before.map WellFormedFrame.toStreamFrame ++
      [bad.toStreamFrame rejected normal]) state := by
  rintro future ⟨sound, _, rest, suffix, aligned⟩ _ callbacks length hdr error facing complete
    failed
  rcases aligned_facing sound aligned facing with ⟨frame, more, rfl, rfl, _⟩
  have outcome := aligned_outcome sound aligned complete []
  rw [List.append_nil, failed] at outcome
  have last : more = [] ∧ frame = bad.toStreamFrame rejected normal := by
    rcases suffix with ⟨skipped, split⟩
    rcases List.eq_nil_or_concat more with rfl | ⟨init, final, rfl⟩
    · exact ⟨rfl, (List.append_inj' split rfl).2 |> List.cons.inj |>.1⟩
    · exfalso
      rw [List.concat_eq_append, ← List.cons_append, ← List.append_assoc] at split
      have member : frame ∈ before.map WellFormedFrame.toStreamFrame := by
        rw [← (List.append_inj' split rfl).1]
        simp
      rcases List.mem_map.mp member with ⟨good, _, rfl⟩
      cases outcome
  have unread := congrArg List.length (aligned_unread sound aligned)
  rw [last.1] at unread
  simp only [stream_cons, stream_nil, List.length_append, ByteBuffer.length_contents,
    List.length_nil] at unread
  have all : frame.length = state.collector.buffer.used := by
    unfold StreamFrame.length at complete ⊢
    omega
  rw [all, ByteBuffer.contents_retract_all, List.drop_eq_nil_of_le (by simp)]

/-- It is enough that some chunk ends where the frame with the rejected payload does. -/
theorem residueKept_of_boundary (memory : ∀ size, env.realloc size = true)
    {rxBufferSize : Nat} (configured : 0 < rxBufferSize)
    (rejected : bad.outcome = .error st) (normal : st.type = .normal)
    (sameLength : next.bytes.length = bad.bytes.length) {early late : List (List UInt8)}
    (earlyCut : early.flatten = before.flatMap WellFormedFrame.bytes ++ bad.bytes)
    (lateCut : late.flatten = (next :: after).flatMap WellFormedFrame.bytes) :
    Throughout env (ResidueKept env)
      (DiameterRxMsgCollector.create rxBufferSize).registerHandler (early ++ late) := by
  let badFrame := bad.toStreamFrame rejected normal
  let frames := before.map WellFormedFrame.toStreamFrame ++ [badFrame]
  let lateFrames := (next :: after).map WellFormedFrame.toStreamFrame
  have residue : ∀ state, Harmless env state → ResidueKept env state :=
    fun _ harmless => harmless.residue
  have chained : Chained frames :=
    chained_append before ⟨(by intro _ _ _ impossible; cases impossible), trivial⟩
  rcases create_rests frames configured with ⟨start, aligned, rests⟩
  have cut : early.flatten = stream frames := by
    rw [earlyCut, stream_append, WellFormedFrame.stream_map, stream_cons, stream]
    exact (congrArg _ (List.append_nil bad.bytes)).symm
  rw [← cut] at rests
  rcases rests.run memory chained (cut ▸ start) aligned
    (.of_forall (keeps_last before bad rejected normal) _ _) with
    ⟨harmless, last, flag, runs, resting, listening, tidy, same⟩
  refine (harmless.mono residue).append fun _ middle otherRuns => ?_
  rcases messages_deterministic runs otherRuns with ⟨_, rfl⟩
  have pending : pendingAfter frames none = some (bad.bytes.length, false) := by
    rw [pendingAfter_append]
    rfl
  rw [pending] at same
  have whole : last.receiver flag late.flatten =
      { last.receiver flag [] with unread := stream lateFrames } := by
    have contents : last.buffer.contents = [] := by
      rw [← receiver_unread last flag, same]
    rw [receiver_eq listening.1, receiver_eq listening.1, contents, lateCut,
      WellFormedFrame.stream_map]
    rfl
  rw [same] at whole
  have lateAligned : Aligned (last.receiver flag late.flatten) lateFrames :=
    ⟨congrArg Receiver.unread whole, by rw [receiver_eq listening.1]; exact listening.1,
      .inr ⟨_, congrArg Receiver.pending whole, by
        intro _ _ follows
        rw [← (List.cons.inj follows).1]
        exact sameLength⟩⟩
  have lateRests : RestsOn lateFrames last flag late.flatten :=
    ⟨resting, tidy, lateFrames, List.suffix_rfl, lateAligned⟩
  rw [whole] at lateAligned
  exact (lateRests.run memory (WellFormedFrame.chained_map _) whole lateAligned
    (.of_forall (WellFormedFrame.keeps_map (next :: after)) _ _)).1.mono residue

end Recovery

/-- A dictionary with the watchdog and the disconnect request. -/
def disconnectDictionary : Dictionary where
  commandList :=
    watchdogDictionary.commandList ++
      [{ code := 282
         appId := 0
         vendorId := 0
         avpF := []
         avpR := []
         avpO := []
         name := "Disconnect-Peer-Request"
         flags := ⟨true, false, false⟩ }]
  groupedAvpList := []

/-- Disconnect requests lack a required AVP. -/
def disconnectEnvironment : Environment where
  dictionary := disconnectDictionary
  payload := fun handle _ _ =>
    if handle.map (·.code) = some 282 then
      .error (.setNormal ResultCode.missingAvp)
    else
      .parsed []
  payload_of_short := fun _ _ _ _ _ => rfl
  identity := []
  realm := []
  realloc := fun _ => true

/-- A disconnect request of 24 bytes. -/
def disconnectFrame : FailingFrame disconnectEnvironment where
  bytes := [1, 0, 0, 24, 0x80, 0, 1, 26, 0, 0, 0, 0, 0, 0, 0, 1, 0, 0, 0, 1, 0, 0, 0, 0]
  hdr :=
    { ver := 1
      length := 24
      flags := ⟨true, false, false, false⟩
      code := 282
      appId := 0
      hh := 1
      ee := 1
      dictHandle := disconnectDictionary.commandList.getLast? }
  outcome := .error (.setNormal ResultCode.missingAvp)
  header := by decide
  length_eq := rfl
  long := by decide
  payload := fun _ => by simp [disconnectEnvironment, disconnectDictionary]
  fails := fun _ impossible => by cases impossible

/-- The message of a watchdog request of the given length. -/
def watchdogMsg (length : Nat) : DiameterMsg where
  hdr :=
    { ver := 1
      length := length
      flags := ⟨true, false, false, false⟩
      code := 280
      appId := 0
      hh := 2
      ee := 2
      dictHandle := disconnectDictionary.commandList.head? }
  acl := []

/-- A watchdog request as long as the disconnect request. -/
def sameLengthFrame : WellFormedFrame disconnectEnvironment where
  bytes := [1, 0, 0, 24, 0x80, 0, 1, 24, 0, 0, 0, 0, 0, 0, 0, 2, 0, 0, 0, 2, 0, 0, 0, 0]
  msg := watchdogMsg 24
  header := by decide
  length_eq := rfl
  long := by decide
  payload := fun _ => rfl

/-- A watchdog request that is four bytes longer. -/
def longerFrame : WellFormedFrame disconnectEnvironment where
  bytes := [1, 0, 0, 28, 0x80, 0, 1, 24, 0, 0, 0, 0, 0, 0, 0, 2, 0, 0, 0, 2, 0, 0, 0, 0,
    0, 0, 0, 0]
  msg := watchdogMsg 28
  header := by decide
  length_eq := rfl
  long := by decide
  payload := fun _ => rfl

def Callback.messageLength : Callback → Option Nat
  | .message msg => some msg.hdr.length
  | _ => none

end OpenDiameter.Transport
