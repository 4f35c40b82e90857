import Mathlib.Data.List.Lex
import Mathlib.Data.Prod.Lex
import OpenDiameter.Router.RouteTable
import OpenDiameter.Utility.RbTreeCompare

/-!
Session ids, their counters, and how the nodes of the session database compare.
-/

namespace OpenDiameter.Session

open OpenDiameter.Router OpenDiameter.Utility

/-- `DiameterSessionCounter` -/
structure SessionCounter where
  high : UInt32
  low : UInt32
  deriving DecidableEq, Repr

namespace SessionCounter

/-- The counter of an id that is still to be generated. -/
def nullCounter : SessionCounter := ⟨0, 0⟩

/-- `operator++` -/
def next (counter : SessionCounter) : SessionCounter :=
  let low := counter.low + 1
  let (high, low) := if low = 0xffffffff then (counter.high + 1, 0) else (counter.high, low)
  ⟨if high = 0xffffffff then 0 else high, low⟩

/-- `operator<` -/
def less (counter other : SessionCounter) : Bool :=
  counter.high < other.high || (counter.high == other.high && counter.low < other.low)

/-- The place of a counter in the order of `operator<`. -/
def value (counter : SessionCounter) : Nat :=
  counter.high.toNat * 4294967296 + counter.low.toNat

theorem less_iff (counter other : SessionCounter) :
    counter.less other = true ↔ counter.value < other.value := by
  have lowSize := counter.low.toNat_lt
  have otherLowSize := other.low.toNat_lt
  simp only [less, Bool.or_eq_true, Bool.and_eq_true, decide_eq_true_eq, beq_iff_eq, value,
    UInt32.lt_iff_toNat_lt, ← UInt32.toNat_inj]
  omega

end SessionCounter

/-- What the nodes of the database are told apart by. -/
structure SessionKey where
  diameterId : Octets
  optionalVal : Octets
  deriving Repr

/-- `std::string::compare`, which takes the characters as unsigned. -/
def characters (text : Octets) : List Nat :=
  text.map UInt8.toNat

theorem characters_inj {text other : Octets} (same : characters text = characters other) :
    text = other :=
  List.map_injective_iff.mpr (fun _ _ => UInt8.toNat_inj.mp) same

namespace SessionKey

/-- The two strings one after the other. -/
def order (key : SessionKey) : List Nat ×ₗ List Nat :=
  toLex (characters key.diameterId, characters key.optionalVal)

theorem order_injective : Function.Injective order := by
  intro key other same
  rcases key with ⟨diameterId, optionalVal⟩
  rcases other with ⟨otherId, otherVal⟩
  rcases Prod.mk.inj (toLex.injective same) with ⟨ids, values⟩
  cases characters_inj ids
  cases characters_inj values
  rfl

instance : LinearOrder SessionKey :=
  LinearOrder.lift' order order_injective

theorem lt_iff {key other : SessionKey} :
    key < other ↔ characters key.diameterId < characters other.diameterId ∨
      key.diameterId = other.diameterId ∧
        characters key.optionalVal < characters other.optionalVal := by
  change order key < order other ↔ _
  rw [order, order, Prod.Lex.toLex_lt_toLex]
  constructor
  · rintro (less | ⟨same, less⟩)
    · exact .inl less
    · exact .inr ⟨characters_inj same, less⟩
  · rintro (less | ⟨same, less⟩)
    · exact .inl less
    · exact .inr ⟨congrArg characters same, less⟩

/-- `operator==` of a node, which its empty optional value takes for no difference. -/
def same (stored key : SessionKey) : Bool :=
  stored.diameterId == key.diameterId &&
    (stored.optionalVal.isEmpty || stored.optionalVal == key.optionalVal)

/-- `operator<` of a node -/
def less (key stored : SessionKey) : Bool :=
  decide (characters key.diameterId < characters stored.diameterId) &&
    (key.optionalVal.isEmpty ||
      decide (characters key.optionalVal < characters stored.optionalVal))

/-- How the nodes of the database compare. -/
def comparison : Comparison SessionKey where
  same := same
  less := less

variable {stored key : SessionKey}

theorem comparesRight_of_below (below : characters stored.diameterId < characters key.diameterId) :
    RbTreeTree.ComparesRight comparison stored key := by
  have other : stored.diameterId ≠ key.diameterId :=
    fun isSame => (ne_of_lt below) (congrArg characters isSame)
  have different : stored ≠ key := fun isSame => other (congrArg diameterId isSame)
  have notLess : ¬ key < stored := by
    rw [lt_iff]
    rintro (less | ⟨isSame, _⟩)
    · exact lt_asymm below less
    · exact other isSame.symm
  constructor
  · simp [comparison, same, other, different]
  · simp [comparison, less, lt_asymm below, notLess]

/-- Of one diameter id, the node is found to be below where it has an optional value. -/
theorem comparesRight_of_level (ids : stored.diameterId = key.diameterId)
    (values : stored.optionalVal ≠ key.optionalVal) :
    RbTreeTree.ComparesRight comparison stored key ↔
      stored.optionalVal ≠ [] ∧ characters stored.optionalVal < characters key.optionalVal := by
  have different : stored ≠ key := fun isSame => values (congrArg optionalVal isSame)
  have order : key < stored ↔
      characters key.optionalVal < characters stored.optionalVal := by
    rw [lt_iff]
    simp [ids]
  have asked : same stored key = true ↔ stored.optionalVal = [] := by
    simp [same, ids, values]
  have notBelow : less key stored = false := by
    simp [less, ids]
  constructor
  · intro right
    have noLess : ¬ key < stored := by
      rw [← right.less]
      simp [comparison, notBelow]
    constructor
    · intro empty
      exact different (right.same.mp (asked.mpr empty))
    · rw [order, not_lt] at noLess
      exact lt_of_le_of_ne noLess fun isSame => values (characters_inj isSame)
  · rintro ⟨nonempty, smaller⟩
    constructor
    · change same stored key = true ↔ _
      rw [asked]
      simp [nonempty, different]
    · rw [order]
      simp [comparison, notBelow, lt_asymm smaller]

theorem comparesRight_of_above (above : characters key.diameterId < characters stored.diameterId) :
    RbTreeTree.ComparesRight comparison stored key ↔
      (key.optionalVal = [] ∨ characters key.optionalVal < characters stored.optionalVal) := by
  have other : stored.diameterId ≠ key.diameterId :=
    fun isSame => (ne_of_gt above) (congrArg characters isSame)
  have different : stored ≠ key := fun isSame => other (congrArg diameterId isSame)
  have isLess : key < stored := lt_iff.mpr (.inl above)
  have asked : less key stored = true ↔ (key.optionalVal = [] ∨
      characters key.optionalVal < characters stored.optionalVal) := by
    simp [less, above]
  constructor
  · intro right
    exact asked.mp (right.less.mpr isLess)
  · intro value
    constructor
    · simp [comparison, same, other, different]
    · change less key stored = true ↔ _
      rw [asked]
      simp [value, isLess]

/-- In which cases a node compares with a key as two pairs of strings do. -/
theorem comparesRight_iff :
    RbTreeTree.ComparesRight comparison stored key ↔
      stored = key ∨ characters stored.diameterId < characters key.diameterId ∨
        (stored.diameterId = key.diameterId ∧ stored.optionalVal ≠ [] ∧
          characters stored.optionalVal < characters key.optionalVal) ∨
        (characters key.diameterId < characters stored.diameterId ∧
          (key.optionalVal = [] ∨
            characters key.optionalVal < characters stored.optionalVal)) := by
  rcases lt_trichotomy (characters stored.diameterId) (characters key.diameterId) with
    below | level | above
  · simp only [below, comparesRight_of_below below, true_or, or_true]
  · have ids := characters_inj level
    by_cases values : stored.optionalVal = key.optionalVal
    · have equal : stored = key := by
        cases stored
        cases key
        cases ids
        cases values
        rfl
      subst equal
      exact iff_of_true ⟨by simp [comparison, same], by simp [comparison, less]⟩ (.inl rfl)
    · have different : stored ≠ key := fun isSame => values (congrArg optionalVal isSame)
      rw [comparesRight_of_level ids values, ids]
      simp [different]
  · have ids : stored.diameterId ≠ key.diameterId :=
      fun isSame => (ne_of_gt above) (congrArg characters isSame)
    have different : stored ≠ key := fun isSame => ids (congrArg diameterId isSame)
    rw [comparesRight_of_above above]
    simp [different, ids, above, lt_asymm above]

end SessionKey

/-- `DiameterSessionId` -/
structure SessionId where
  key : SessionKey
  counter : SessionCounter
  deriving DecidableEq, Repr

namespace SessionId

/-- `operator==`: the empty optional value of the left id is taken for no difference. -/
def same (id other : SessionId) : Bool :=
  (id.counter.high == other.counter.high && id.counter.low == other.counter.low) &&
    id.key.same other.key

theorem same_iff {id other : SessionId} :
    id.same other = true ↔ id.counter = other.counter ∧
      id.key.diameterId = other.key.diameterId ∧
        (id.key.optionalVal = [] ∨ id.key.optionalVal = other.key.optionalVal) := by
  obtain ⟨⟨diameterId, optionalVal⟩, high, low⟩ := id
  obtain ⟨⟨otherId, otherVal⟩, otherHigh, otherLow⟩ := other
  simp [same, SessionKey.same]

/-- Where all the parts of the ids agree. -/
def Agrees (id other : SessionId) : Prop :=
  id.key.diameterId = other.key.diameterId ∧ id.key.optionalVal = other.key.optionalVal ∧
    id.counter.high = other.counter.high ∧ id.counter.low = other.counter.low

theorem agrees_iff_eq {id other : SessionId} : id.Agrees other ↔ id = other := by
  obtain ⟨⟨diameterId, optionalVal⟩, high, low⟩ := id
  obtain ⟨⟨otherId, otherVal⟩, otherHigh, otherLow⟩ := other
  simp [Agrees, and_assoc]

theorem same_self (id : SessionId) : id.same id = true :=
  same_iff.mpr ⟨rfl, rfl, .inr rfl⟩

theorem same_trans {id other third : SessionId} (first : id.same other = true)
    (second : other.same third = true) : id.same third = true := by
  rw [same_iff] at *
  refine ⟨first.1.trans second.1, first.2.1.trans second.2.1, ?_⟩
  rcases first.2.2 with empty | alike
  · exact .inl empty
  · rw [alike]
    exact second.2.2

/-- What makes `operator==` of ids an equality, of three ids. -/
structure ActsAsEquality (id other third : SessionId) : Prop where
  reflexive : id.same id = true
  symmetric : id.same other = true → other.same id = true
  transitive : id.same other = true → other.same third = true → id.same third = true
  exact_ : id.same other = true ↔ id.Agrees other

/-- The operator is an equality but for an id without an optional value, which it takes for one
that has one. -/
theorem actsAsEquality_iff (id other third : SessionId) :
    id.ActsAsEquality other third ↔
      (id.counter = other.counter → id.key.diameterId = other.key.diameterId →
        id.key.optionalVal = [] → other.key.optionalVal = []) := by
  constructor
  · intro acts counters ids empty
    have agrees := acts.exact_.mp (same_iff.mpr ⟨counters, ids, .inl empty⟩)
    rw [← agrees.2.1, empty]
  · intro kept
    have exact_ : id.same other = true ↔ id = other := by
      constructor
      · intro same
        obtain ⟨counters, ids, empty | alike⟩ := same_iff.mp same
        · rw [← agrees_iff_eq, Agrees, counters]
          exact ⟨ids, empty.trans (kept counters ids empty).symm, rfl, rfl⟩
        · rw [← agrees_iff_eq, Agrees, counters]
          exact ⟨ids, alike, rfl, rfl⟩
      · rintro rfl
        exact same_self id
    refine ⟨same_self id, ?_, same_trans, exact_.trans agrees_iff_eq.symm⟩
    intro same
    rw [exact_.mp same]
    exact same_self other

/-- The id without an optional value is the same as the one with it, but not the other way
round. -/
theorem emptyOptional_oneWay :
    ¬ ActsAsEquality ⟨⟨[97], []⟩, ⟨1, 2⟩⟩ ⟨⟨[97], [98]⟩, ⟨1, 2⟩⟩ ⟨⟨[97], []⟩, ⟨1, 2⟩⟩ := by
  intro acts
  exact absurd (acts.symmetric (by decide)) (by decide)

end SessionId

end OpenDiameter.Session
