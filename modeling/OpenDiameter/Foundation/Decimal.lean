import Mathlib.Data.List.TakeWhile

/-!
Decimal numbers as octets: how they are printed, and how they are read from the front of a text.
-/

namespace OpenDiameter.Foundation.Decimal

def isDigit (octet : UInt8) : Bool := 48 ≤ octet && octet ≤ 57

def digit (value : Nat) : UInt8 := UInt8.ofNat (48 + value)

def digitValue (octet : UInt8) : Nat := octet.toNat - 48

/-- The number that digits stand for. -/
def value (digits : List UInt8) : Nat :=
  digits.foldl (fun number octet => number * 10 + digitValue octet) 0

def writeFrom : (rounds : Nat) → Nat → List UInt8
  | 0, _ => []
  | rounds + 1, number =>
    if number < 10 then [digit number]
    else writeFrom rounds (number / 10) ++ [digit (number % 10)]

/-- A number without leading zeros. -/
def write (number : Nat) : List UInt8 := writeFrom (number + 1) number

/-- The digits at the front, at most as many. -/
def run (most : Nat) (input : List UInt8) : List UInt8 := (input.takeWhile isDigit).take most

/-- The number at the front, of at most as many digits, if it is not larger than the bound. -/
def read (most bound : Nat) (input : List UInt8) : Option (Nat × List UInt8) :=
  let digits := run most input
  if digits = [] ∨ bound < value digits then none
  else some (value digits, input.drop digits.length)

theorem digit_spec {number : Nat} (small : number < 10) :
    isDigit (digit number) = true ∧ digitValue (digit number) = number := by
  have all : ∀ number < 10, isDigit (digit number) = true ∧ digitValue (digit number) = number := by
    decide
  exact all number small

theorem value_snoc (digits : List UInt8) (octet : UInt8) :
    value (digits ++ [octet]) = value digits * 10 + digitValue octet := by
  rw [value, List.foldl_append]
  rfl

theorem writeFrom_spec {rounds number : Nat} (enough : number < rounds) :
    (∀ octet ∈ writeFrom rounds number, isDigit octet = true) ∧
      writeFrom rounds number ≠ [] ∧ value (writeFrom rounds number) = number := by
  induction rounds generalizing number with
  | zero => cases enough
  | succ rounds induction =>
    rw [writeFrom]
    by_cases small : number < 10
    · rw [if_pos small]
      obtain ⟨isOne, isValue⟩ := digit_spec small
      refine ⟨?_, List.cons_ne_nil _ _, ?_⟩
      · rw [List.forall_mem_singleton]
        exact isOne
      · exact (value_snoc [] _).trans (by rw [isValue]; exact Nat.zero_add _)
    · rw [if_neg small]
      obtain ⟨all, _, isValue⟩ := @induction (number / 10) (by omega)
      obtain ⟨isOne, isLast⟩ := digit_spec (Nat.mod_lt number (by decide : 0 < 10))
      refine ⟨?_, List.concat_ne_nil _ _, ?_⟩
      · rw [List.forall_mem_append, List.forall_mem_singleton]
        exact ⟨all, isOne⟩
      · rw [value_snoc, isValue, isLast]
        omega

theorem isDigit_of_write {number : Nat} : ∀ octet ∈ write number, isDigit octet = true :=
  (writeFrom_spec (Nat.lt_succ_self number)).1

theorem write_ne_nil (number : Nat) : write number ≠ [] :=
  (writeFrom_spec (Nat.lt_succ_self number)).2.1

@[simp] theorem value_write (number : Nat) : value (write number) = number :=
  (writeFrom_spec (Nat.lt_succ_self number)).2.2

/-- The octet is not a digit, if there is one. -/
def Ends (rest : List UInt8) : Prop := ∀ octet ∈ rest.head?, isDigit octet = false

theorem takeWhile_append {digits rest : List UInt8} (all : ∀ octet ∈ digits, isDigit octet = true)
    (ends : Ends rest) : (digits ++ rest).takeWhile isDigit = digits := by
  rw [List.takeWhile_append_of_pos all]
  cases rest with
  | nil => exact List.append_nil _
  | cons octet rest =>
    have other := ends octet rfl
    rw [List.takeWhile_cons_of_neg, List.append_nil]
    rw [other]
    exact Bool.false_ne_true

/-- A number that is printed is read back. -/
theorem read_write {number most bound : Nat} {rest : List UInt8} (le : number ≤ bound)
    (short : (write number).length ≤ most) (ends : Ends rest) :
    read most bound (write number ++ rest) = some (number, rest) := by
  have isRun : run most (write number ++ rest) = write number := by
    rw [run, takeWhile_append isDigit_of_write ends, List.take_of_length_le short]
  rw [read]
  rw [isRun, value_write, if_neg, List.drop_left]
  rw [not_or, Nat.not_lt]
  exact ⟨write_ne_nil number, le⟩

end OpenDiameter.Foundation.Decimal
