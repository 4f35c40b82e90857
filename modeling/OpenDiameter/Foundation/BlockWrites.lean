import OpenDiameter.Foundation.Octets

/-!
Writing to a message block of a fixed size. What is put through the write pointer is written
whatever the room; what is copied is left out where there is no room for it.
-/

namespace OpenDiameter.Foundation

inductive BlockWrite where
  | put (octets : List UInt8)
  /-- `ACE_Message_Block::copy` -/
  | copy (octets : List UInt8) (count : Nat)

namespace BlockWrite

/-- What is written where there is room. -/
def octets : BlockWrite → List UInt8
  | .put octets => octets
  | .copy octets count => firstOctets octets count

/-- Behind the end of the block the room is a large number, and all is copied again. -/
def write (size : Nat) (block : List UInt8) : BlockWrite → List UInt8
  | .put octets => block ++ octets
  | .copy octets count =>
    if block.length ≤ size ∧ size - block.length < count then block
    else block ++ firstOctets octets count

/-- The writes one after the other. -/
def writeAll (size : Nat) (block : List UInt8) (writes : List BlockWrite) : List UInt8 :=
  writes.foldl (write size) block

/-- A string behind its length. -/
def counted (octets : List UInt8) : List BlockWrite :=
  [.put (writeShort octets.length), .copy octets (octets.length % 65536)]

section Room

variable {size : Nat} {block : List UInt8}

theorem write_eq {single : BlockWrite} (room : block.length + single.octets.length ≤ size) :
    write size block single = block ++ single.octets := by
  cases single with
  | put octets => rfl
  | copy octets count =>
    have fits : ¬(block.length ≤ size ∧ size - block.length < count) := by
      rw [BlockWrite.octets, length_firstOctets] at room
      omega
    exact if_neg fits

theorem writeAll_eq {writes : List BlockWrite}
    (room : block.length + (writes.flatMap octets).length ≤ size) :
    writeAll size block writes = block ++ writes.flatMap octets := by
  induction writes generalizing block with
  | nil => exact (List.append_nil block).symm
  | cons single rest induction =>
    rw [List.flatMap_cons, List.length_append] at room
    rw [writeAll, List.foldl_cons, write_eq (by omega), List.flatMap_cons, ← List.append_assoc]
    apply induction
    rw [List.length_append]
    omega

end Room

/-- The length that a block has after the writes, whatever the octets are. -/
def lengthAfter (size : Nat) (length : Nat) (writes : List BlockWrite) : Nat :=
  writes.foldl (fun length single =>
    match single with
    | .put octets => length + octets.length
    | .copy _ count => if length ≤ size ∧ size - length < count then length else length + count)
    length

theorem length_writeAll (size : Nat) (block : List UInt8) (writes : List BlockWrite) :
    (writeAll size block writes).length = lengthAfter size block.length writes := by
  induction writes generalizing block with
  | nil => rfl
  | cons single rest induction =>
    rw [writeAll, List.foldl_cons, ← writeAll, induction, lengthAfter, lengthAfter,
      List.foldl_cons]
    congr 1
    cases single with
    | put octets => exact List.length_append
    | copy octets count =>
      rw [write]
      split
      · rename_i full
        exact (if_pos full).symm
      · rename_i fits
        rw [List.length_append, length_firstOctets]
        exact (if_neg fits).symm

theorem lengthAfter_append (size length : Nat) (first second : List BlockWrite) :
    lengthAfter size length (first ++ second) =
      lengthAfter size (lengthAfter size length first) second :=
  List.foldl_append

theorem le_lengthAfter (size length : Nat) (writes : List BlockWrite) :
    length ≤ lengthAfter size length writes := by
  induction writes generalizing length with
  | nil => exact Nat.le_refl _
  | cons single rest induction =>
    rw [lengthAfter, List.foldl_cons, ← lengthAfter]
    refine Nat.le_trans ?_ (induction _)
    cases single with
    | put octets => exact Nat.le_add_right _ _
    | copy octets count =>
      dsimp only
      split
      · exact Nat.le_refl _
      · exact Nat.le_add_right _ _

theorem octets_counted {octets : List UInt8} (short : octets.length < 65536) :
    (counted octets).flatMap BlockWrite.octets = Foundation.counted octets := by
  simp only [counted, List.flatMap_cons, List.flatMap_nil, BlockWrite.octets, List.append_nil,
    Nat.mod_eq_of_lt short, firstOctets_of_length, Foundation.counted]

end BlockWrite

end OpenDiameter.Foundation
