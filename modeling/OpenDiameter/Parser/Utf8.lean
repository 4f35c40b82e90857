import Mathlib.Algebra.Group.Nat.Defs
import Mathlib.Data.List.Basic
import OpenDiameter.Parser.AvpValue

/-!
Which strings of octets `UTF8Checker` accepts, beside the table that it is written after.
-/

namespace OpenDiameter.Parser

namespace UTF8Checker

/-- The loop that counts the ones behind the first. `b && 0x40` is a logical and, and `b` does not
change. -/
def countOnes (b : UInt8) : (rounds : Nat) → (count : Nat) → Nat
  | 0, count => count
  | rounds + 1, count =>
    if (b != 0 && (0x40 : UInt8) != 0) = false then count else countOnes b rounds (count + 1)

/-- The loop over the remaining octets, which are signed characters: what comes after them. -/
def remaining : (count : Nat) → (data : List UInt8) → Option (List UInt8)
  | 0, data => some data
  | _ + 1, [] => none
  | count + 1, octet :: data =>
    if octet.toInt8.toInt / 64 ≠ 0x02 then none else remaining count data

/-- What one pass of the outer loop makes of the first octet and those that come after it. -/
def pass (nullCheck : Bool) (b : UInt8) (data : List UInt8) : Option (List UInt8) :=
  if b = 0 ∧ nullCheck then
    none
  else if b ≠ 0 ∧ b >>> 7 = 0 then
    some data
  else if b >>> 1 = 0x76 then
    none
  else
    let count := countOnes (b <<< 1) 5 0
    if count = 0 then none else remaining count data

/-- The outer loop. Each pass takes an octet, so one pass for each octet is enough. -/
def passes (nullCheck : Bool) : (rounds : Nat) → (data : List UInt8) → Bool
  | _, [] => true
  | 0, _ :: _ => false
  | rounds + 1, b :: data =>
    match pass nullCheck b data with
    | none => false
    | some data => passes nullCheck rounds data

/-- `operator()` returns 0. -/
def accepts (data : List UInt8) (nullCheck : Bool) : Bool :=
  passes nullCheck data.length data

/-! The strings that the table allows. -/

def isContinuation (octet : UInt8) : Prop := octet.toNat / 64 = 2

/-- A row of the table: one octet that begins with a zero, or an octet that begins with as many
ones as there are octets, and a zero. -/
inductive Sequence : List UInt8 → Prop where
  | single (octet : UInt8) (low : octet.toNat < 128) : Sequence [octet]
  | several (first : UInt8) (others : List UInt8) (few : others.length < 6)
      (some : 0 < others.length)
      (isFirst : first.toNat / 2 ^ (6 - others.length) = 2 ^ (others.length + 2) - 2)
      (continuations : ∀ octet ∈ others, isContinuation octet) : Sequence (first :: others)

structure WellFormed (data : List UInt8) (nullCheck : Bool) : Prop where
  sequences : ∃ sequences : List (List UInt8), sequences.flatten = data ∧
    ∀ sequence ∈ sequences, Sequence sequence
  nullFree : nullCheck = true → 0 ∉ data

/-- An octet of the ASCII characters other than NUL. -/
def isAscii (octet : UInt8) : Prop := octet ≠ 0 ∧ octet.toNat < 128

theorem remaining_none {count : Nat} (more : count ≠ 0) (data : List UInt8) :
    remaining count data = none := by
  obtain ⟨count, rfl⟩ := Nat.exists_eq_succ_of_ne_zero more
  cases data with
  | nil => rfl
  | cons octet data =>
    have signed : octet.toInt8.toInt / 64 ≠ 0x02 := by
      have bound := Int8.toInt_lt octet.toInt8
      omega
    rw [remaining, if_pos signed]

theorem shifted_eq_zero_iff (octet : UInt8) : octet >>> 7 = 0 ↔ octet.toNat < 128 := by
  rw [← UInt8.toNat_inj, UInt8.toNat_shiftRight]
  change octet.toNat >>> 7 = 0 ↔ _
  rw [Nat.shiftRight_eq_div_pow]
  omega

/-- A pass goes on just behind an ASCII character. -/
theorem pass_eq (nullCheck : Bool) (b : UInt8) (data : List UInt8) [Decidable (isAscii b)] :
    pass nullCheck b data = if isAscii b then some data else none := by
  by_cases ascii : isAscii b
  · have named : ¬(b = 0 ∧ nullCheck = true) := fun null => ascii.1 null.1
    rw [pass, if_neg named, if_pos ⟨ascii.1, (shifted_eq_zero_iff b).2 ascii.2⟩, if_pos ascii]
  · have notLow : ¬(b ≠ 0 ∧ b >>> 7 = 0) := by
      rw [shifted_eq_zero_iff]
      exact ascii
    rw [pass, if_neg notLow, if_neg ascii]
    split
    · rfl
    · split
      · rfl
      · dsimp only
        split
        · rfl
        · rename_i more
          exact remaining_none more data

theorem passes_iff (nullCheck : Bool) {rounds : Nat} {data : List UInt8}
    (enough : data.length ≤ rounds) :
    passes nullCheck rounds data = true ↔ ∀ octet ∈ data, isAscii octet := by
  classical
  induction data generalizing rounds with
  | nil =>
    cases rounds <;> exact iff_of_true rfl fun _ listed => (nomatch listed)
  | cons b data induction =>
    cases rounds with
    | zero => cases enough
    | succ rounds =>
      rw [passes, pass_eq, List.forall_mem_cons]
      by_cases ascii : isAscii b
      · rw [if_pos ascii]
        exact (induction (Nat.le_of_succ_le_succ enough)).trans (and_iff_right ascii).symm
      · rw [if_neg ascii]
        exact iff_of_false Bool.false_ne_true fun both => ascii both.1

/-- Only strings of ASCII characters are accepted, and none that has a NUL. -/
theorem accepts_iff_ascii (data : List UInt8) (nullCheck : Bool) :
    accepts data nullCheck = true ↔ ∀ octet ∈ data, isAscii octet :=
  passes_iff nullCheck (Nat.le_refl _)

theorem wellFormed_of_ascii {data : List UInt8} (ascii : ∀ octet ∈ data, isAscii octet)
    (nullCheck : Bool) : WellFormed data nullCheck where
  sequences := by
    refine ⟨data.map fun octet => [octet], ?_, ?_⟩
    · exact List.flatMap_singleton' data
    · intro sequence listed
      obtain ⟨octet, isOctet, same⟩ := List.mem_map.1 listed
      rw [← same]
      exact .single octet (ascii octet isOctet).2
  nullFree := fun _ isNull => (ascii 0 isNull).1 rfl

/-- The checker agrees with the table on every string that the table does not allow, and on the
ASCII strings without a NUL. -/
theorem accepts_agrees_iff (data : List UInt8) (nullCheck : Bool) :
    (accepts data nullCheck = true ↔ WellFormed data nullCheck) ↔
      (∀ octet ∈ data, isAscii octet) ∨ ¬WellFormed data nullCheck := by
  rw [accepts_iff_ascii]
  constructor
  · intro agrees
    by_cases wellFormed : WellFormed data nullCheck
    · exact .inl (agrees.2 wellFormed)
    · exact .inr wellFormed
  · intro either
    refine ⟨fun ascii => wellFormed_of_ascii ascii nullCheck, fun wellFormed => ?_⟩
    exact either.resolve_right fun not => not wellFormed

/-- The Latin small letter e with an acute accent is refused, and so is the NUL where no null
check is asked for. -/
theorem accented_refused :
    (accepts [0xC3, 0xA9] false = false ∧ accepts [0xC3, 0xA9] true = false ∧
      WellFormed [0xC3, 0xA9] false ∧ WellFormed [0xC3, 0xA9] true) ∧
    accepts [0] false = false ∧ WellFormed [0] false := by
  have accented : Sequence [0xC3, 0xA9] :=
    .several 0xC3 [0xA9] (by decide) (by decide) (by decide) fun octet listed => by
      rw [List.mem_singleton.1 listed]
      exact (by decide : UInt8.toNat 0xA9 / 64 = 2)
  have whole (sequence : List UInt8) (isSequence : Sequence sequence) :
      ∃ sequences : List (List UInt8), sequences.flatten = sequence ∧
        ∀ sequence ∈ sequences, Sequence sequence := by
    refine ⟨[sequence], List.append_nil _, fun other listed => ?_⟩
    rw [List.mem_singleton.1 listed]
    exact isSequence
  refine ⟨⟨by decide, by decide, ⟨whole _ accented, fun _ => by decide⟩,
    ⟨whole _ accented, fun _ => by decide⟩⟩, by decide, ⟨whole _ (.single 0 (by decide)), ?_⟩⟩
  intro checked
  cases checked

/-- The scan that the parsers of text values use is the checker without a null check. -/
theorem check_eq_accepts (data : List UInt8) : check 0 data = accepts data false := by
  have refused (count : Nat) (data : List UInt8) : check (count + 1) data = false := by
    cases data with
    | nil => rfl
    | cons octet data =>
      have signed : octet.toInt8.toInt / 64 ≠ 2 := by
        have bound := Int8.toInt_lt octet.toInt8
        omega
      rw [check, if_neg signed]
  rw [Bool.eq_iff_iff, accepts_iff_ascii]
  induction data with
  | nil => exact iff_of_true rfl fun _ listed => (nomatch listed)
  | cons b data induction =>
    rw [List.forall_mem_cons, ← induction, check]
    by_cases ascii : isAscii b
    · rw [if_pos ⟨ascii.1, (shifted_eq_zero_iff b).2 ascii.2⟩]
      exact (and_iff_right ascii).symm
    · have notLow : ¬(b ≠ 0 ∧ b >>> 7 = 0) := by
        rw [shifted_eq_zero_iff]
        exact ascii
      rw [if_neg notLow, refused]
      have no : ¬(isAscii b ∧ check 0 data = true) := fun both => ascii both.1
      split
      · exact iff_of_false Bool.false_ne_true no
      · split
        · exact iff_of_false Bool.false_ne_true no
        · exact iff_of_false Bool.false_ne_true no

end UTF8Checker

end OpenDiameter.Parser
