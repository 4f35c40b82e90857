import Mathlib.Data.List.Forall2
import OpenDiameter.Parser.PayloadDecoder

namespace OpenDiameter.Parser

open Foundation

/-! The bytes that the scan of a payload reads, and the AVPs that it lists. -/

/-- Bytes of a block, from an offset on. -/
structure ByteRange where
  start : Nat
  count : Nat
  deriving DecidableEq, Repr

def ByteRange.stop (range : ByteRange) : Nat := range.start + range.count

/-- The length of the header that an AVP itself has. -/
def AvpHeader.headerLength (h : AvpHeader) : Nat := if h.flag.v then 12 else 8

/-- What the loop of `create` reads when it has come to `offset`: the code, the
flags with the length, and, once the length is accepted, the vendor. -/
def AvpHeaderList.readsFrom : (passes : Nat) → (cavp : List UInt8) → (left offset : Nat) →
    List ByteRange
  | 0, _, _, _ => []
  | passes + 1, cavp, left, offset =>
    if left = 0 then
      []
    else
      let h := AvpHeader.read cavp
      let taken := adjustWordBoundary h.length
      ⟨offset, 4⟩ :: ⟨offset + 4, 4⟩ ::
        if h.length = 0 ∨ left < h.length then
          []
        else
          (if h.flag.v then [⟨offset + 8, 4⟩] else []) ++
            readsFrom passes (cavp.drop taken) (left - taken) (offset + taken)

def AvpHeaderList.reads (block : ValueBlock) : List ByteRange :=
  AvpHeaderList.readsFrom block.size block.base block.size 0

/-- The header stands at the start of the range, and its AVP is the whole range. -/
def AvpHeader.At (base : List UInt8) (h : AvpHeader) (range : ByteRange) : Prop :=
  h.value_p = base.drop range.start ∧ h.length = range.count

/-- The scan throws, or it stays inside of the payload: it reads nothing else, and
it lists AVPs inside of it, one behind the other, none shorter than its header. -/
def SafeScan (block : ValueBlock) : Prop :=
  match AvpHeaderList.create block with
  | .error failure => ∃ st, failure = .error st
  | .ok ahl =>
    (∀ read ∈ AvpHeaderList.reads block, read.stop ≤ block.size) ∧
    (∃ ranges : List ByteRange, List.Forall₂ (AvpHeader.At block.base) ahl ranges ∧
      ranges.Pairwise (fun first second => first.stop ≤ second.start) ∧
      ∀ range ∈ ranges, range.stop ≤ block.size) ∧
    ∀ h ∈ ahl, h.headerLength ≤ h.length

/-- A test of the AVPs that the length fields lead to, one after the other, as long
as bytes are left. -/
def meets (test : AvpHeader → (left : Nat) → Bool) : (passes : Nat) → (cavp : List UInt8) →
    (left : Nat) → Bool
  | 0, _, _ => false
  | passes + 1, cavp, left =>
    let h := AvpHeader.read cavp
    let taken := adjustWordBoundary h.length
    left != 0 && (test h left || meets test passes (cavp.drop taken) (left - taken))

/-- The length field is zero or leads behind the end. -/
def brokenLength (h : AvpHeader) (left : Nat) : Bool := h.length == 0 || decide (left < h.length)

/-- The length field does not even cover the header. -/
def shortLength (h : AvpHeader) (_ : Nat) : Bool := decide (h.length < h.headerLength)

section Scan

theorem AvpHeader.read_length_lt (cavp : List UInt8) :
    (AvpHeader.read cavp).length < 16777216 :=
  Nat.mod_lt _ (by decide)

theorem length_le_taken (cavp : List UInt8) :
    (AvpHeader.read cavp).length ≤ adjustWordBoundary (AvpHeader.read cavp).length := by
  have small := AvpHeader.read_length_lt cavp
  rw [adjustWordBoundary_eq (by omega)]
  omega

variable {passes : Nat} {cavp : List UInt8} {left : Nat} {ahl : AvpHeaderList}

/-- One pass of the loop that goes on. -/
theorem createFrom_succ_ok (created : AvpHeaderList.createFrom (passes + 1) cavp left = .ok ahl) :
    (left = 0 ∧ ahl = []) ∨
      ∃ later, left ≠ 0 ∧ (AvpHeader.read cavp).length ≠ 0 ∧
        (AvpHeader.read cavp).length ≤ left ∧ ahl = AvpHeader.read cavp :: later ∧
        AvpHeaderList.createFrom passes
          (cavp.drop (adjustWordBoundary (AvpHeader.read cavp).length))
          (left - adjustWordBoundary (AvpHeader.read cavp).length) = .ok later := by
  rw [AvpHeaderList.createFrom] at created
  split at created
  · rename_i done
    cases created
    exact .inl ⟨done, rfl⟩
  · rename_i more
    dsimp only at created
    split at created
    · cases created
    · rename_i sound
      rw [not_or] at sound
      cases rest : AvpHeaderList.createFrom passes
          (cavp.drop (adjustWordBoundary (AvpHeader.read cavp).length))
          (left - adjustWordBoundary (AvpHeader.read cavp).length) with
      | error st =>
        rw [rest] at created
        cases created
      | ok later =>
        rw [rest] at created
        cases created
        exact .inr ⟨later, more, sound.1, Nat.le_of_not_lt sound.2, rfl, rfl⟩

/-- The scan throws when it meets a broken length. -/
theorem createFrom_error_iff (passes : Nat) (cavp : List UInt8) (left : Nat) :
    (∃ failure, AvpHeaderList.createFrom passes cavp left = .error failure) ↔
      meets brokenLength passes cavp left = true := by
  induction passes generalizing cavp left with
  | zero => simp [AvpHeaderList.createFrom, meets]
  | succ passes induction =>
    rw [AvpHeaderList.createFrom, meets]
    by_cases done : left = 0
    · simp [done]
    · by_cases broken : (AvpHeader.read cavp).length = 0 ∨ left < (AvpHeader.read cavp).length
      · simp [done, broken, brokenLength]
      · have sound : brokenLength (AvpHeader.read cavp) left = false := by
          simpa [brokenLength] using broken
        have more : (left != 0) = true := by simpa using done
        simp only [done, broken, if_false, sound, more, Bool.false_or, Bool.true_and]
        rw [← induction]
        cases AvpHeaderList.createFrom passes
            (cavp.drop (adjustWordBoundary (AvpHeader.read cavp).length))
            (left - adjustWordBoundary (AvpHeader.read cavp).length) with
        | error st => simp
        | ok later => simp

/-- A scan that returns meets a short length where it lists one. -/
theorem meets_shortLength (created : AvpHeaderList.createFrom passes cavp left = .ok ahl) :
    meets shortLength passes cavp left = false ↔ ∀ h ∈ ahl, h.headerLength ≤ h.length := by
  induction passes generalizing cavp left ahl with
  | zero =>
    cases created
    simp [meets]
  | succ passes induction =>
    rcases createFrom_succ_ok created with ⟨rfl, rfl⟩ | ⟨later, more, _, _, rfl, rest⟩
    · simp [meets]
    · have going : (left != 0) = true := by simpa using more
      rw [meets]
      simp only [going, Bool.true_and, Bool.or_eq_false_iff, induction rest,
        List.forall_mem_cons, shortLength, decide_eq_false_iff_not, Nat.not_lt]

/-- The listed AVPs lie one behind the other, inside of the bytes that are left. -/
theorem ranges_of_created (base : List UInt8) {passes left : Nat} (offset : Nat)
    (created : AvpHeaderList.createFrom passes (base.drop offset) left = .ok ahl) :
    ∃ ranges : List ByteRange, List.Forall₂ (AvpHeader.At base) ahl ranges ∧
      ranges.Pairwise (fun first second => first.stop ≤ second.start) ∧
      ∀ range ∈ ranges, offset ≤ range.start ∧ range.start < offset + left ∧
        range.stop ≤ offset + left := by
  induction passes generalizing left offset ahl with
  | zero =>
    cases created
    exact ⟨[], .nil, .nil, by simp⟩
  | succ passes induction =>
    rcases createFrom_succ_ok created with ⟨_, rfl⟩ | ⟨later, more, _, inside, rfl, rest⟩
    · exact ⟨[], .nil, .nil, by simp⟩
    · have padded := length_le_taken (base.drop offset)
      rw [List.drop_drop] at rest
      obtain ⟨ranges, places, ordered, within⟩ := induction _ rest
      refine ⟨⟨offset, (AvpHeader.read (base.drop offset)).length⟩ :: ranges,
        .cons ⟨rfl, rfl⟩ places, .cons ?_ ordered, ?_⟩
      · intro range member
        have beyond := (within range member).1
        simp only [ByteRange.stop]
        omega
      · intro range member
        rcases List.mem_cons.mp member with rfl | member
        · simp only [ByteRange.stop]
          omega
        · -- Padding that leads behind the end leaves nothing to list.
          have beyond := within range member
          simp only [ByteRange.stop] at beyond ⊢
          omega

/-- A scan without short lengths reads inside of the bytes that are left. -/
theorem reads_inside (created : AvpHeaderList.createFrom passes cavp left = .ok ahl)
    (covered : ∀ h ∈ ahl, h.headerLength ≤ h.length) (offset : Nat) :
    ∀ read ∈ AvpHeaderList.readsFrom passes cavp left offset,
      offset ≤ read.start ∧ read.start < offset + left ∧ read.stop ≤ offset + left := by
  induction passes generalizing cavp left ahl offset with
  | zero => simp [AvpHeaderList.readsFrom]
  | succ passes induction =>
    rcases createFrom_succ_ok created with ⟨rfl, rfl⟩ | ⟨later, more, some, inside, rfl, rest⟩
    · simp [AvpHeaderList.readsFrom]
    · have own := covered _ List.mem_cons_self
      have others := induction rest (fun h member => covered h (List.mem_cons_of_mem _ member))
        (offset + adjustWordBoundary (AvpHeader.read cavp).length)
      have padded := length_le_taken cavp
      have sound : ¬ ((AvpHeader.read cavp).length = 0 ∨
          left < (AvpHeader.read cavp).length) := by
        omega
      intro read member
      rw [AvpHeaderList.readsFrom] at member
      simp only [more, sound, if_false, List.mem_cons, List.mem_append] at member
      unfold AvpHeader.headerLength at own
      rcases member with rfl | rfl | vendor | later
      · simp only [ByteRange.stop]
        split at own <;> omega
      · simp only [ByteRange.stop]
        split at own <;> omega
      · split at vendor
        · rename_i flagged
          rw [if_pos flagged] at own
          rw [List.mem_singleton.mp vendor]
          simp only [ByteRange.stop]
          omega
        · cases vendor
      · have beyond := others read later
        omega

/-- What the scan throws is always an error of the specification. -/
theorem createFrom_throws {failure : Failure}
    (failed : AvpHeaderList.createFrom passes cavp left = .error failure) :
    failure = .normal ResultCode.invalidMessageLength := by
  induction passes generalizing cavp left with
  | zero => cases failed
  | succ passes induction =>
    rw [AvpHeaderList.createFrom] at failed
    split at failed
    · cases failed
    · dsimp only at failed
      split at failed
      · cases failed
        rfl
      · cases rest : AvpHeaderList.createFrom passes
            (cavp.drop (adjustWordBoundary (AvpHeader.read cavp).length))
            (left - adjustWordBoundary (AvpHeader.read cavp).length) with
        | error st =>
          rw [rest] at failed
          cases failed
          exact induction rest
        | ok later =>
          rw [rest] at failed
          cases failed

end Scan

/-- The scan of a payload is safe exactly when the length fields lead to a broken
length, or else never to a short one. -/
theorem scan_safe_iff (block : ValueBlock) :
    SafeScan block ↔
      meets brokenLength block.size block.base block.size = true ∨
        meets shortLength block.size block.base block.size = false := by
  unfold SafeScan
  cases created : AvpHeaderList.create block with
  | error failure =>
    have broken := (createFrom_error_iff _ _ _).mp ⟨failure, created⟩
    simp only [broken, true_or, iff_true]
    exact ⟨_, createFrom_throws created⟩
  | ok ahl =>
    have whole : meets brokenLength block.size block.base block.size = false := by
      rw [Bool.eq_false_iff]
      intro broken
      obtain ⟨failure, failed⟩ := (createFrom_error_iff _ _ _).mpr broken
      cases created.symm.trans failed
    rw [whole, meets_shortLength created]
    simp only [Bool.false_eq_true, false_or]
    constructor
    · intro safe
      exact safe.2.2
    · intro covered
      refine ⟨?_, ?_, covered⟩
      · intro read member
        have inside := reads_inside created covered 0 read member
        omega
      · obtain ⟨ranges, places, ordered, within⟩ := ranges_of_created block.base 0 created
        refine ⟨ranges, places, ordered, ?_⟩
        intro range member
        have inside := within range member
        omega

/-- An AVP of eight bytes with the V flag: its vendor lies behind the payload. -/
def shortVendorAvp : ValueBlock := ⟨[0, 0, 0, 33, 192, 0, 0, 8], 8⟩

theorem short_vendor_avp_unsafe : ¬ SafeScan shortVendorAvp := by
  intro safe
  have covered := safe.2.2 (AvpHeader.read shortVendorAvp.base) List.mem_cons_self
  exact absurd covered (by decide)

end OpenDiameter.Parser
