import OpenDiameter.Foundation.Octets

/-!
Reading a message block through its pointers, which are places in it. A program that does not
throw goes wrong where it reads an octet that was not received, where it takes a length below zero,
and where it sets the write pointer behind the end of the block.
-/

namespace OpenDiameter.Foundation

/-- What was received, and the room that the block has. -/
structure ReceivedBlock where
  octets : List UInt8
  size : Nat
  received_le_size : octets.length ≤ size

structure BlockPointers where
  rd : Nat
  wr : Nat
  deriving DecidableEq

inductive ReadStop where
  | thrown
  | notReceived
  | negative
  | behindEnd
  deriving DecidableEq

/-- Where it stops, the pointers stay as they are. -/
def BlockReading (Value : Type) : Type :=
  ReceivedBlock → BlockPointers → EStateM.Result ReadStop BlockPointers Value

namespace BlockReading

variable {Value Result : Type}

instance : Monad BlockReading where
  pure value := fun _ pointers => .ok value pointers
  bind reading next := fun block pointers =>
    match reading block pointers with
    | .ok value after => next value block after
    | .error stop after => .error stop after

def stop (reason : ReadStop) : BlockReading Value := fun _ pointers => .error reason pointers

/-- What is read does not matter. -/
def void (reading : BlockReading Value) : BlockReading Unit := do
  let _ ← reading
  return ()

/-- The second reading goes on where the first one has thrown. -/
def orElse (first second : BlockReading Value) : BlockReading Value := fun block pointers =>
  match first block pointers with
  | .error .thrown after => second block after
  | outcome => outcome

def pointers : BlockReading BlockPointers := fun _ pointers => .ok pointers pointers

/-- `msg->rd_ptr(count)` -/
def skip (count : Nat) : BlockReading Unit := fun _ pointers =>
  .ok () { pointers with rd := pointers.rd + count }

def setRead (place : Nat) : BlockReading Unit := fun _ pointers =>
  .ok () { pointers with rd := place }

/-- `msg->rd_ptr(msg->end())` -/
def readToEnd : BlockReading Unit := fun block pointers =>
  .ok () { pointers with rd := block.size }

def setWrite (place : Nat) : BlockReading Unit := fun block pointers =>
  if place ≤ block.size then .ok () { pointers with wr := place } else .error .behindEnd pointers

/-- The octets at a place, all of which must have been received. -/
def octetsFrom (place count : Nat) : BlockReading (List UInt8) := fun block pointers =>
  if count = 0 ∨ place + count ≤ block.octets.length then
    .ok (octetsAt block.octets place count) pointers
  else .error .notReceived pointers

def octetFrom (place : Nat) : BlockReading UInt8 := fun block pointers =>
  if place < block.octets.length then .ok (block.octets.getD place 0) pointers
  else .error .notReceived pointers

/-- `std::string(msg->rd_ptr(), count)`, and `msg->rd_ptr(count)`. -/
def take (count : Nat) : BlockReading (List UInt8) := do
  let before ← pointers
  let octets ← octetsFrom before.rd count
  skip count
  return octets

/-- The octet at the read pointer, which stays. -/
def peek : BlockReading UInt8 := do
  octetFrom (← pointers).rd

def octet : BlockReading UInt8 := do
  let octet ← peek
  skip 1
  return octet

def short : BlockReading Nat := do
  return readShort (← take 2)

def counted : BlockReading (List UInt8) := do
  take (← short)

/-- A length that is the difference of two. -/
def difference (whole part : Nat) : BlockReading Nat :=
  if part ≤ whole then pure (whole - part) else stop .negative

/-- `msg->wr_ptr() - msg->rd_ptr()` -/
def left : BlockReading Nat := do
  let now ← pointers
  difference now.wr now.rd

/-- The reading comes to its end, with a value and pointers of the first kind, or throws, with
pointers of the second kind. -/
def Stays (reading : BlockReading Value) (block : ReceivedBlock) (pointers : BlockPointers)
    (later : Value → BlockPointers → Prop) (caught : BlockPointers → Prop) : Prop :=
  match reading block pointers with
  | .ok value after => later value after
  | .error stop after => stop = .thrown ∧ caught after

/-- The reading stays in what was received, or throws. -/
def Inside (reading : BlockReading Value) (block : ReceivedBlock) (pointers : BlockPointers) :
    Prop :=
  reading.Stays block pointers (fun _ _ => True) fun _ => True

section Rules

variable {block : ReceivedBlock} {now : BlockPointers} {caught : BlockPointers → Prop}

@[simp] theorem stays_pure {value : Value} {later : Value → BlockPointers → Prop} :
    (pure value : BlockReading Value).Stays block now later caught ↔ later value now :=
  Iff.rfl

@[simp] theorem stays_bind {reading : BlockReading Value} {next : Value → BlockReading Result}
    {later : Result → BlockPointers → Prop} :
    (reading >>= next).Stays block now later caught ↔
      reading.Stays block now (fun value after => (next value).Stays block after later caught)
        caught := by
  unfold Stays
  change (match (match reading block now with
    | .ok value after => next value block after
    | .error stop after => .error stop after) with
    | .ok value after => later value after
    | .error stop after => stop = ReadStop.thrown ∧ caught after) ↔ _
  cases reading block now <;> rfl

@[simp] theorem stays_stop {reason : ReadStop} {later : Value → BlockPointers → Prop} :
    (stop reason : BlockReading Value).Stays block now later caught ↔
      reason = .thrown ∧ caught now :=
  Iff.rfl

@[simp] theorem stays_ite {condition : Prop} [Decidable condition]
    {first second : BlockReading Value} {later : Value → BlockPointers → Prop} :
    (if condition then first else second).Stays block now later caught ↔
      if condition then first.Stays block now later caught
      else second.Stays block now later caught := by
  split <;> rfl

@[simp] theorem stays_void {reading : BlockReading Value} {later : Unit → BlockPointers → Prop} :
    reading.void.Stays block now later caught ↔
      reading.Stays block now (fun _ => later ()) caught := by
  simp only [void, stays_bind, stays_pure]

theorem stays_orElse {first second : BlockReading Value} {later : Value → BlockPointers → Prop} :
    (first.orElse second).Stays block now later caught ↔
      first.Stays block now later fun after => second.Stays block after later caught := by
  unfold Stays orElse
  cases first block now with
  | ok value after => rfl
  | error stop after => cases stop <;> simp only [reduceCtorEq, false_and, true_and]

@[simp] theorem stays_pointers {later : BlockPointers → BlockPointers → Prop} :
    pointers.Stays block now later caught ↔ later now now :=
  Iff.rfl

@[simp] theorem stays_skip {count : Nat} {later : Unit → BlockPointers → Prop} :
    (skip count).Stays block now later caught ↔ later () { now with rd := now.rd + count } :=
  Iff.rfl

@[simp] theorem stays_setRead {place : Nat} {later : Unit → BlockPointers → Prop} :
    (setRead place).Stays block now later caught ↔ later () { now with rd := place } :=
  Iff.rfl

@[simp] theorem stays_readToEnd {later : Unit → BlockPointers → Prop} :
    readToEnd.Stays block now later caught ↔ later () { now with rd := block.size } :=
  Iff.rfl

@[simp] theorem stays_setWrite {place : Nat} {later : Unit → BlockPointers → Prop} :
    (setWrite place).Stays block now later caught ↔
      place ≤ block.size ∧ later () { now with wr := place } := by
  unfold setWrite Stays
  by_cases inside : place ≤ block.size
  · simp only [inside, if_true, true_and]
  · simp only [inside, if_false, reduceCtorEq, false_and]

@[simp] theorem stays_octetsFrom {place count : Nat}
    {later : List UInt8 → BlockPointers → Prop} :
    (octetsFrom place count).Stays block now later caught ↔
      (count = 0 ∨ place + count ≤ block.octets.length) ∧
        later (octetsAt block.octets place count) now := by
  unfold octetsFrom Stays
  by_cases received : count = 0 ∨ place + count ≤ block.octets.length
  · simp only [received, if_true, true_and]
  · simp only [received, if_false, reduceCtorEq, false_and]

@[simp] theorem stays_octetFrom {place : Nat} {later : UInt8 → BlockPointers → Prop} :
    (octetFrom place).Stays block now later caught ↔
      place < block.octets.length ∧ later (block.octets.getD place 0) now := by
  unfold octetFrom Stays
  by_cases received : place < block.octets.length
  · simp only [received, if_true, true_and]
  · simp only [received, if_false, reduceCtorEq, false_and]

@[simp] theorem stays_take {count : Nat} {later : List UInt8 → BlockPointers → Prop} :
    (take count).Stays block now later caught ↔
      (count = 0 ∨ now.rd + count ≤ block.octets.length) ∧
        later (octetsAt block.octets now.rd count) { now with rd := now.rd + count } := by
  simp only [take, stays_bind, stays_pointers, stays_octetsFrom, stays_skip, stays_pure]

@[simp] theorem stays_peek {later : UInt8 → BlockPointers → Prop} :
    peek.Stays block now later caught ↔
      now.rd < block.octets.length ∧ later (block.octets.getD now.rd 0) now := by
  simp only [peek, stays_bind, stays_pointers, stays_octetFrom]

@[simp] theorem stays_octet {later : UInt8 → BlockPointers → Prop} :
    octet.Stays block now later caught ↔
      now.rd < block.octets.length ∧
        later (block.octets.getD now.rd 0) { now with rd := now.rd + 1 } := by
  simp only [octet, stays_bind, stays_peek, stays_skip, stays_pure]

theorem readShort_octetsAt (octets : List UInt8) (place : Nat) :
    readShort (octetsAt octets place 2) = readShort (octets.drop place) := by
  have first : octetsAt octets place 2 = octetsAt (octets.drop place) 0 2 := by
    rw [octetsAt, octetsAt, List.drop_zero]
  rw [first, octetsAt_two]
  rfl

@[simp] theorem stays_short {later : Nat → BlockPointers → Prop} :
    short.Stays block now later caught ↔
      now.rd + 2 ≤ block.octets.length ∧
        later (readShort (block.octets.drop now.rd)) { now with rd := now.rd + 2 } := by
  simp only [short, stays_bind, stays_take, stays_pure, readShort_octetsAt]
  simp

@[simp] theorem stays_difference {whole part : Nat} {later : Nat → BlockPointers → Prop} :
    (difference whole part).Stays block now later caught ↔
      part ≤ whole ∧ later (whole - part) now := by
  unfold difference
  by_cases fits : part ≤ whole
  · simp only [fits, if_true, stays_pure, true_and]
  · simp only [fits, if_false, stays_stop, reduceCtorEq, false_and]

@[simp] theorem stays_left {later : Nat → BlockPointers → Prop} :
    left.Stays block now later caught ↔ now.rd ≤ now.wr ∧ later (now.wr - now.rd) now := by
  simp only [left, stays_bind, stays_pointers, stays_difference]

end Rules

end BlockReading

/-- The place behind a string at a place that follows its length. -/
def countedEnd (octets : List UInt8) (place : Nat) : Nat :=
  place + 2 + readShort (octets.drop place)

theorem add_two_le_countedEnd (octets : List UInt8) (place : Nat) :
    place + 2 ≤ countedEnd octets place :=
  Nat.le_add_right _ _

@[simp] theorem BlockReading.stays_counted {block : ReceivedBlock} {now : BlockPointers}
    {later : List UInt8 → BlockPointers → Prop} {caught : BlockPointers → Prop} :
    counted.Stays block now later caught ↔
      countedEnd block.octets now.rd ≤ block.octets.length ∧
        later (readCounted (block.octets.drop now.rd))
          { now with rd := countedEnd block.octets now.rd } := by
  simp only [counted, stays_bind, stays_short, stays_take, countedEnd, readCounted, octetsAt,
    List.drop_drop, ← and_assoc]
  apply and_congr_left
  intro _
  omega

end OpenDiameter.Foundation
