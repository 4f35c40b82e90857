import Mathlib.Data.List.TakeDrop
import OpenDiameter.Foundation.Bytes

/-!
The octets at a place of a message. What lies past its end reads as zeros.
-/

namespace OpenDiameter.Foundation

/-- The first octets at a pointer. -/
def firstOctets (octets : List UInt8) (count : Nat) : List UInt8 := octets.takeD count 0

@[simp] theorem length_firstOctets (octets : List UInt8) (count : Nat) :
    (firstOctets octets count).length = count :=
  List.takeD_length _ _ _

variable {octets : List UInt8}

theorem firstOctets_of_length {count : Nat} (isCount : octets.length = count) :
    firstOctets octets count = octets := by
  rw [firstOctets, ← isCount, List.takeD_eq_take _ (Nat.le_refl _), List.take_length]

/-- `std::string(data + offset, count)` -/
def octetsAt (octets : List UInt8) (offset count : Nat) : List UInt8 :=
  (octets.drop offset).takeD count 0

@[simp] theorem length_octetsAt (octets : List UInt8) (offset count : Nat) :
    (octetsAt octets offset count).length = count :=
  List.takeD_length _ _ _

/-- What comes before the place does not matter. -/
theorem octetsAt_append (before rest : List UInt8) {start : Nat} (isStart : before.length = start)
    (offset count : Nat) :
    octetsAt (before ++ rest) (start + offset) count = octetsAt rest offset count := by
  rw [octetsAt, octetsAt, ← isStart, List.drop_append, List.drop_eq_nil_of_le (by omega),
    List.nil_append, Nat.add_sub_cancel_left]

theorem octetsAt_append_of_le {before : List UInt8} (rest : List UInt8) {offset : Nat}
    (after : before.length ≤ offset) (count : Nat) :
    octetsAt (before ++ rest) offset count = octetsAt rest (offset - before.length) count := by
  have split : before.length + (offset - before.length) = offset := by omega
  rw [← octetsAt_append before rest rfl, split]

/-- What comes after the octets does not matter. -/
theorem octetsAt_zero_append (octets rest : List UInt8) {count : Nat}
    (isCount : octets.length = count) : octetsAt (octets ++ rest) 0 count = octets := by
  rw [octetsAt, List.drop_zero]
  exact List.takeD_left' isCount

theorem octetsAt_zero (octets : List UInt8) {count : Nat} (isCount : octets.length = count) :
    octetsAt octets 0 count = octets := by
  have alone := octetsAt_zero_append octets [] isCount
  rwa [List.append_nil] at alone

/-- What comes after a place does not matter. -/
theorem octetsAt_append_left {before : List UInt8} (rest : List UInt8) {offset count : Nat}
    (inside : offset + count ≤ before.length) :
    octetsAt (before ++ rest) offset count = octetsAt before offset count := by
  rw [octetsAt, octetsAt, List.drop_append_of_le_length (by omega),
    List.takeD_eq_take _ (by simp; omega), List.takeD_eq_take _ (by simp; omega),
    List.take_append_of_le_length (by simp; omega)]

/-- Octets in the middle of a message. -/
theorem octetsAt_middle (before octets rest : List UInt8) {start count : Nat}
    (isStart : before.length = start) (isCount : octets.length = count) :
    octetsAt (before ++ (octets ++ rest)) start count = octets := by
  have skipped := octetsAt_append before (octets ++ rest) isStart 0 count
  rw [Nat.add_zero] at skipped
  rw [skipped, octetsAt_zero_append octets rest isCount]

/-- The first octets of a place and those after them. -/
theorem octetsAt_add (octets : List UInt8) (offset first second : Nat) :
    octetsAt octets offset (first + second) =
      octetsAt octets offset first ++ octetsAt octets (offset + first) second := by
  rw [octetsAt, octetsAt, octetsAt, ← List.drop_drop]
  generalize octets.drop offset = rest
  induction first generalizing rest with
  | zero => simp
  | succ first induction =>
    rw [Nat.succ_add, List.takeD_succ, List.takeD_succ, induction, List.cons_append]
    cases rest with
    | nil => simp
    | cons octet rest => simp

/-- A part of what is read at a place. -/
theorem octetsAt_octetsAt (octets : List UInt8) (offset : Nat) {count start part : Nat}
    (inside : start + part ≤ count) :
    octetsAt (octetsAt octets offset count) start part = octetsAt octets (offset + start) part := by
  have split : start + (part + (count - start - part)) = count := by omega
  rw [← split, octetsAt_add, octetsAt_add]
  exact octetsAt_middle _ _ _ (length_octetsAt _ _ _) (length_octetsAt _ _ _)

/-- A number of two octets in network byte order. -/
def writeShort (value : Nat) : List UInt8 := [UInt8.ofNat (value / 256), UInt8.ofNat value]

def readShort (octets : List UInt8) : Nat :=
  (octets.getD 0 0).toNat * 256 + (octets.getD 1 0).toNat

@[simp] theorem length_writeShort (value : Nat) : (writeShort value).length = 2 := rfl

@[simp] theorem readShort_writeShort (value : Nat) :
    readShort (writeShort value) = value % 65536 := by
  simp only [readShort, writeShort, List.getD_cons_zero, List.getD_cons_succ, UInt8.toNat_ofNat']
  omega

theorem readShort_lt (octets : List UInt8) : readShort octets < 65536 := by
  have first := (octets.getD 0 0).toNat_lt
  have second := (octets.getD 1 0).toNat_lt
  unfold readShort
  omega

theorem octetsAt_two (octets : List UInt8) :
    octetsAt octets 0 2 = [octets.getD 0 0, octets.getD 1 0] := by
  have steps : List.takeD (0 + 1 + 1) octets 0 = [octets.getD 0 0, octets.getD 1 0] := by
    rw [List.takeD_succ, List.takeD_succ, List.takeD_zero]
    match octets with
    | [] => rfl
    | [_] => rfl
    | _ :: _ :: _ => rfl
  rwa [octetsAt, List.drop_zero]

/-- A number that is read is written as it stands. -/
theorem writeShort_readShort (octets : List UInt8) :
    writeShort (readShort octets) = octetsAt octets 0 2 := by
  have second := (octets.getD 1 0).toNat_lt
  have high : UInt8.ofNat (readShort octets / 256) = octets.getD 0 0 := by
    rw [← UInt8.toNat_inj, UInt8.toNat_ofNat', readShort]
    have first := (octets.getD 0 0).toNat_lt
    omega
  have low : UInt8.ofNat (readShort octets) = octets.getD 1 0 := by
    rw [← UInt8.toNat_inj, UInt8.toNat_ofNat', readShort]
    omega
  rw [octetsAt_two, writeShort, high, low]

theorem htonl_ntohl (octets : List UInt8) : htonl (ntohl octets) = octetsAt octets 0 4 := by
  have four : octetsAt octets 0 4 =
      [octets.getD 0 0, octets.getD 1 0, octets.getD 2 0, octets.getD 3 0] := by
    have behind : octetsAt octets 2 2 = octetsAt (octets.drop 2) 0 2 := rfl
    rw [octetsAt_add octets 0 2 2, Nat.zero_add, behind, octetsAt_two, octetsAt_two]
    simp
  have first := (octets.getD 0 0).toNat_lt
  have second := (octets.getD 1 0).toNat_lt
  have third := (octets.getD 2 0).toNat_lt
  have fourth := (octets.getD 3 0).toNat_lt
  rw [four, htonl]
  congr 1
  · rw [← UInt8.toNat_inj, UInt8.toNat_ofNat', ntohl]
    omega
  congr 1
  · rw [← UInt8.toNat_inj, UInt8.toNat_ofNat', ntohl]
    omega
  congr 1
  · rw [← UInt8.toNat_inj, UInt8.toNat_ofNat', ntohl]
    omega
  congr 1
  · rw [← UInt8.toNat_inj, UInt8.toNat_ofNat', ntohl]
    omega

/-! A string behind its length. -/

def readCounted (octets : List UInt8) : List UInt8 := octetsAt octets 2 (readShort octets)

/-- What stands behind the string. -/
def afterCounted (octets : List UInt8) : List UInt8 := octets.drop (2 + readShort octets)

def counted (octets : List UInt8) : List UInt8 := writeShort octets.length ++ octets

@[simp] theorem length_readCounted (octets : List UInt8) :
    (readCounted octets).length = readShort octets := length_octetsAt _ _ _

@[simp] theorem length_counted (octets : List UInt8) :
    (counted octets).length = 2 + octets.length := by
  rw [counted, List.length_append, length_writeShort]

theorem readShort_append (number rest : List UInt8) (isShort : number.length = 2) :
    readShort (number ++ rest) = readShort number := by
  match number, isShort with
  | [_, _], _ => rfl

theorem readShort_counted (rest : List UInt8) (short : octets.length < 65536) :
    readShort (counted octets ++ rest) = octets.length := by
  rw [counted, List.append_assoc, readShort_append _ _ (length_writeShort _),
    readShort_writeShort, Nat.mod_eq_of_lt short]

theorem readCounted_counted (rest : List UInt8) (short : octets.length < 65536) :
    readCounted (counted octets ++ rest) = octets := by
  rw [readCounted, readShort_counted rest short, counted, List.append_assoc]
  exact octetsAt_middle _ _ _ (length_writeShort _) rfl

theorem afterCounted_counted (rest : List UInt8) (short : octets.length < 65536) :
    afterCounted (counted octets ++ rest) = rest := by
  rw [afterCounted, readShort_counted rest short, ← length_counted, List.drop_left]

/-- A string that is read is written as it stands. -/
theorem counted_readCounted (octets : List UInt8) :
    counted (readCounted octets) = octetsAt octets 0 (2 + readShort octets) := by
  rw [counted, length_readCounted, writeShort_readShort, readCounted, octetsAt_add]

end OpenDiameter.Foundation
