namespace OpenDiameter.Foundation

/-!
A pointer into a buffer is the list of the bytes from its address on. Reading
past the end of the list gives zero bytes.
-/

/-- The unsigned number in the first four bytes, most significant byte first. -/
def ntohl (bytes : List UInt8) : Nat :=
  (bytes.getD 0 0).toNat * 16777216 + (bytes.getD 1 0).toNat * 65536 +
    (bytes.getD 2 0).toNat * 256 + (bytes.getD 3 0).toNat

/-- The low 32 bits of a number, most significant byte first. -/
def htonl (value : Nat) : List UInt8 :=
  [UInt8.ofNat (value / 16777216), UInt8.ofNat (value / 65536),
    UInt8.ofNat (value / 256), UInt8.ofNat value]

@[simp] theorem length_htonl (value : Nat) : (htonl value).length = 4 := rfl

theorem ntohl_lt (bytes : List UInt8) : ntohl bytes < 4294967296 := by
  have first := (bytes.getD 0 0).toNat_lt
  have second := (bytes.getD 1 0).toNat_lt
  have third := (bytes.getD 2 0).toNat_lt
  have fourth := (bytes.getD 3 0).toNat_lt
  unfold ntohl
  omega

@[simp] theorem ntohl_htonl_append (value : Nat) (rest : List UInt8) :
    ntohl (htonl value ++ rest) = value % 4294967296 := by
  simp only [ntohl, htonl, List.cons_append, List.nil_append, List.getD_cons_zero,
    List.getD_cons_succ, UInt8.toNat_ofNat']
  omega

theorem getD_append_left {bytes : List UInt8} {index : Nat}
    (inside : index < bytes.length) (rest : List UInt8) :
    (bytes ++ rest).getD index 0 = bytes.getD index 0 := by
  rw [List.getD_eq_getElem?_getD, List.getD_eq_getElem?_getD,
    List.getElem?_append_left inside]

/-- Only the first four bytes matter. -/
theorem ntohl_append {bytes : List UInt8} (long : 4 ≤ bytes.length)
    (rest : List UInt8) : ntohl (bytes ++ rest) = ntohl bytes := by
  simp only [ntohl]
  rw [getD_append_left (by omega), getD_append_left (by omega),
    getD_append_left (by omega), getD_append_left (by omega)]

/-- `memcpy` of the new bytes to an offset of a block. -/
def overwrite (bytes : List UInt8) (offset : Nat) (new : List UInt8) : List UInt8 :=
  bytes.take offset ++ new ++ bytes.drop (offset + new.length)

/-- The `count` bytes of a block from an offset on. -/
def slice (bytes : List UInt8) (offset count : Nat) : List UInt8 :=
  (bytes.drop offset).take count

theorem length_overwrite {bytes new : List UInt8} {offset : Nat}
    (inside : offset + new.length ≤ bytes.length) :
    (overwrite bytes offset new).length = bytes.length := by
  simp only [overwrite, List.length_append, List.length_take, List.length_drop]
  omega

/-!
A byte buffer is a block of memory whose first `used` bytes are in use.
-/

structure ByteBuffer where
  bytes : List UInt8
  used : Nat
  used_le : used ≤ bytes.length

namespace ByteBuffer

/-- A null pointer: no bytes at all. -/
def null : ByteBuffer := ⟨[], 0, Nat.le_refl 0⟩

/-- A zeroed block of the given size, none of it in use. -/
def zeroed (size : Nat) : ByteBuffer := ⟨List.replicate size 0, 0, Nat.zero_le _⟩

def capacity (buffer : ByteBuffer) : Nat := buffer.bytes.length

def room (buffer : ByteBuffer) : Nat := buffer.capacity - buffer.used

def contents (buffer : ByteBuffer) : List UInt8 := buffer.bytes.take buffer.used

@[simp] theorem length_contents (buffer : ByteBuffer) :
    buffer.contents.length = buffer.used :=
  List.length_take_of_le buffer.used_le

theorem used_le_capacity (buffer : ByteBuffer) : buffer.used ≤ buffer.capacity :=
  buffer.used_le

theorem bytes_eq_contents_append (buffer : ByteBuffer) :
    buffer.bytes = buffer.contents ++ buffer.bytes.drop buffer.used :=
  (List.take_append_drop _ _).symm

@[simp] theorem capacity_zeroed (size : Nat) : (zeroed size).capacity = size := by
  simp [zeroed, capacity]

@[simp] theorem used_zeroed (size : Nat) : (zeroed size).used = 0 := rfl

@[simp] theorem contents_zeroed (size : Nat) : (zeroed size).contents = [] := by
  simp [zeroed, contents]

/-- Copy as much of the data behind the used bytes as there is room for. -/
def fill (buffer : ByteBuffer) (data : List UInt8) : ByteBuffer where
  bytes := overwrite buffer.bytes buffer.used (data.take buffer.room)
  used := buffer.used + min data.length buffer.room
  used_le := by
    have inside := buffer.used_le
    rw [length_overwrite] <;> simp only [List.length_take, room, capacity] <;> omega

@[simp] theorem capacity_fill (buffer : ByteBuffer) (data : List UInt8) :
    (buffer.fill data).capacity = buffer.capacity := by
  have inside := buffer.used_le
  refine length_overwrite ?_
  simp only [List.length_take, room, capacity]
  omega

theorem used_fill (buffer : ByteBuffer) (data : List UInt8) :
    (buffer.fill data).used = buffer.used + min data.length buffer.room := rfl

@[simp] theorem contents_fill (buffer : ByteBuffer) (data : List UInt8) :
    (buffer.fill data).contents = buffer.contents ++ data.take buffer.room := by
  have inside := buffer.used_le
  have length : (buffer.bytes.take buffer.used ++ data.take buffer.room).length =
      buffer.used + min data.length buffer.room := by
    simp only [List.length_append, List.length_take]
    omega
  simp only [contents, fill, overwrite]
  rw [← length, List.take_left']
  rfl

theorem used_fill_of_le {buffer : ByteBuffer} {data : List UInt8}
    (fits : data.length ≤ buffer.room) :
    (buffer.fill data).used = buffer.used + data.length := by
  rw [used_fill, Nat.min_eq_left fits]

/-- Drop the first `count` used bytes and move the other used bytes down. -/
def shift (buffer : ByteBuffer) (count : Nat) : ByteBuffer where
  bytes := overwrite buffer.bytes 0 (slice buffer.bytes count (buffer.used - count))
  used := buffer.used - count
  used_le := by
    have inside := buffer.used_le
    rw [length_overwrite]
    · omega
    · simp only [slice, List.length_take, List.length_drop]
      omega

@[simp] theorem capacity_shift (buffer : ByteBuffer) (count : Nat) :
    (buffer.shift count).capacity = buffer.capacity := by
  have inside := buffer.used_le
  refine length_overwrite ?_
  simp only [slice, List.length_take, List.length_drop]
  omega

@[simp] theorem used_shift (buffer : ByteBuffer) (count : Nat) :
    (buffer.shift count).used = buffer.used - count := rfl

@[simp] theorem contents_shift (buffer : ByteBuffer) (count : Nat) :
    (buffer.shift count).contents = buffer.contents.drop count := by
  have inside := buffer.used_le
  have length : (slice buffer.bytes count (buffer.used - count)).length =
      buffer.used - count := by
    simp only [slice, List.length_take, List.length_drop]
    omega
  simp only [contents, shift, overwrite, List.take_zero, List.nil_append]
  rw [List.take_left' length, List.drop_take, slice]

/-- Forget the last `count` used bytes and copy them to the front. -/
def retract (buffer : ByteBuffer) (count : Nat) : ByteBuffer where
  bytes := overwrite buffer.bytes 0 (slice buffer.bytes (buffer.used - count) count)
  used := buffer.used - count
  used_le := by
    have inside := buffer.used_le
    rw [length_overwrite]
    · omega
    · simp only [slice, List.length_take, List.length_drop]
      omega

@[simp] theorem capacity_retract (buffer : ByteBuffer) (count : Nat) :
    (buffer.retract count).capacity = buffer.capacity := by
  have inside := buffer.used_le
  refine length_overwrite ?_
  simp only [slice, List.length_take, List.length_drop]
  omega

@[simp] theorem used_retract (buffer : ByteBuffer) (count : Nat) :
    (buffer.retract count).used = buffer.used - count := rfl

/-- Nothing is left when every used byte is forgotten. -/
theorem contents_retract_all (buffer : ByteBuffer) :
    (buffer.retract buffer.used).contents = [] := by
  simp [contents]

@[simp] theorem retract_zero (buffer : ByteBuffer) : buffer.retract 0 = buffer := by
  simp [retract, overwrite, slice]

/-- Nothing is in use any more. -/
def empty (buffer : ByteBuffer) : ByteBuffer := ⟨buffer.bytes, 0, Nat.zero_le _⟩

@[simp] theorem capacity_empty (buffer : ByteBuffer) :
    buffer.empty.capacity = buffer.capacity := rfl

@[simp] theorem used_empty (buffer : ByteBuffer) : buffer.empty.used = 0 := rfl

@[simp] theorem contents_empty (buffer : ByteBuffer) : buffer.empty.contents = [] := by
  simp [empty, contents]

/-- Zero every byte that is not in use. -/
def clearTail (buffer : ByteBuffer) : ByteBuffer where
  bytes := buffer.contents ++ List.replicate buffer.room 0
  used := buffer.used
  used_le := by simp

@[simp] theorem capacity_clearTail (buffer : ByteBuffer) :
    buffer.clearTail.capacity = buffer.capacity := by
  have inside := buffer.used_le_capacity
  have sizes : buffer.clearTail.capacity = buffer.used + buffer.room := by
    simp [capacity, clearTail]
  rw [sizes, room]
  omega

@[simp] theorem used_clearTail (buffer : ByteBuffer) :
    buffer.clearTail.used = buffer.used := rfl

@[simp] theorem contents_clearTail (buffer : ByteBuffer) :
    buffer.clearTail.contents = buffer.contents := by
  simp only [contents, clearTail]
  exact List.take_left' buffer.length_contents

/-- Make the block `size` bytes long; the new bytes are zero. -/
def grow (buffer : ByteBuffer) (size : Nat) : ByteBuffer where
  bytes := buffer.bytes ++ List.replicate (size - buffer.capacity) 0
  used := buffer.used
  used_le := by
    have inside := buffer.used_le
    simp only [List.length_append]
    omega

@[simp] theorem capacity_grow (buffer : ByteBuffer) (size : Nat) :
    (buffer.grow size).capacity = max buffer.capacity size := by
  simp only [capacity, grow, List.length_append, List.length_replicate]
  omega

@[simp] theorem used_grow (buffer : ByteBuffer) (size : Nat) :
    (buffer.grow size).used = buffer.used := rfl

@[simp] theorem contents_grow (buffer : ByteBuffer) (size : Nat) :
    (buffer.grow size).contents = buffer.contents := by
  simp only [contents, grow]
  exact List.take_append_of_le_length buffer.used_le

/-- Every byte that is not in use is zero. -/
def Tidy (buffer : ByteBuffer) : Prop :=
  buffer.bytes = buffer.contents ++ List.replicate buffer.room 0

theorem zeroed_tidy (size : Nat) : (zeroed size).Tidy := by
  simp [Tidy, room, zeroed, capacity, contents]

theorem clearTail_tidy (buffer : ByteBuffer) : buffer.clearTail.Tidy := by
  have room : buffer.clearTail.room = buffer.room := by simp [room]
  rw [Tidy, contents_clearTail, room]
  rfl

theorem Tidy.fill {buffer : ByteBuffer} (tidy : buffer.Tidy) (data : List UInt8) :
    (buffer.fill data).Tidy := by
  have inside := buffer.used_le_capacity
  have left : (buffer.fill data).room = buffer.room - min data.length buffer.room := by
    rw [room, capacity_fill, used_fill, room]
    omega
  have copied : (data.take buffer.room).length = min data.length buffer.room := by
    rw [List.length_take, Nat.min_comm]
  rw [Tidy, contents_fill, left]
  have tail : buffer.bytes.drop (buffer.used + (data.take buffer.room).length) =
      List.replicate (buffer.room - min data.length buffer.room) 0 := by
    rw [tidy, copied, ← buffer.length_contents, List.drop_length_add_append,
      List.drop_replicate]
  change overwrite buffer.bytes buffer.used (data.take buffer.room) = _
  rw [overwrite, tail]
  rfl

/-- A tidy buffer is determined by its size and its used bytes. -/
theorem Tidy.eq_of_contents {left right : ByteBuffer} (leftTidy : left.Tidy)
    (rightTidy : right.Tidy) (capacity : left.capacity = right.capacity)
    (contents : left.contents = right.contents) : left = right := by
  have used : left.used = right.used := by
    rw [← left.length_contents, ← right.length_contents, contents]
  have room : left.room = right.room := by rw [ByteBuffer.room, ByteBuffer.room, capacity, used]
  have bytes : left.bytes = right.bytes := by rw [leftTidy, rightTidy, contents, room]
  cases left
  cases right
  simp only at used bytes
  subst used
  subst bytes
  rfl

end ByteBuffer

end OpenDiameter.Foundation
