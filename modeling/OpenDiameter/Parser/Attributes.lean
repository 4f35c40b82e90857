/-!
The attributes that a parser reads from a message and writes to one.
-/

namespace OpenDiameter.Parser

/-- `AAAScholarAttribute` -/
structure ScholarAttribute (α : Type) where
  value : α
  isSet : Bool
  deriving DecidableEq, Repr

namespace ScholarAttribute

variable {α : Type}

/-- `operator=` of a value, and `Set` -/
def of (value : α) : ScholarAttribute α := ⟨value, true⟩

/-- An attribute without a value. -/
def unset [Inhabited α] : ScholarAttribute α := ⟨default, false⟩

/-- `Clear`, which keeps the value. -/
def clear (own : ScholarAttribute α) : ScholarAttribute α := { own with isSet := false }

/-- `CopyFrom` of the container that a message has for the attribute, if it has one. -/
def copyFrom (own : ScholarAttribute α) (avp : Option α) : ScholarAttribute α :=
  match avp with
  | none => own
  | some value => of value

/-- What a message gets of it. -/
def avp (own : ScholarAttribute α) : Option α := if own.isSet then some own.value else none

theorem avp_eq {own : ScholarAttribute α} (isSet : own.avp.isSome) : own.avp = some own.value := by
  cases own with
  | mk value set =>
    cases set with
    | true => rfl
    | false => cases isSet

/-- A parser clears an attribute before it reads it. -/
@[simp] theorem avp_copyFrom_clear (own : ScholarAttribute α) (read : Option α) :
    (own.clear.copyFrom read).avp = read := by
  cases read with
  | none => rfl
  | some value => rfl

end ScholarAttribute

/-- `AAAVectorAttribute` -/
structure VectorAttribute (α : Type) where
  values : List α
  isSet : Bool
  deriving DecidableEq, Repr

namespace VectorAttribute

variable {α : Type}

/-- An attribute without values. -/
def unset : VectorAttribute α := ⟨[], false⟩

/-- What a message gets of it. -/
def avps (own : VectorAttribute α) : Option (List α) := if own.isSet then some own.values else none

theorem avps_eq {own : VectorAttribute α} (isSet : own.avps.isSome) :
    own.avps = some own.values := by
  cases own with
  | mk values set =>
    cases set with
    | true => rfl
    | false => cases isSet

end VectorAttribute

end OpenDiameter.Parser
