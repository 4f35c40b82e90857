namespace OpenDiameter.Foundation

/-!
A reduction is a partial step function that hands out outputs. Being a function
it is deterministic, so a state has at most one normal form and one sequence of
outputs on the way there.
-/

abbrev Reduction (State Output : Type) :=
  State → Option (List Output × State)

namespace Reduction

variable {State Output : Type}

inductive Reduces (step : Reduction State Output) :
    State → List Output → State → Prop
  | refl (state) : Reduces step state [] state
  | head {state outputs next rest last} :
      step state = some (outputs, next) → Reduces step next rest last →
      Reduces step state (outputs ++ rest) last

def Normal (step : Reduction State Output) (state : State) : Prop :=
  step state = none

variable {step : Reduction State Output}

theorem Reduces.single {state next : State} {outputs : List Output}
    (taken : step state = some (outputs, next)) : Reduces step state outputs next := by
  simpa using Reduces.head taken (.refl next)

theorem Reduces.trans {first middle last : State} {before after : List Output}
    (left : Reduces step first before middle)
    (right : Reduces step middle after last) :
    Reduces step first (before ++ after) last := by
  induction left with
  | refl => simpa using right
  | head taken _ induction =>
    rw [List.append_assoc]
    exact .head taken (induction right)

/-- Two reductions to normal forms hand out the same outputs and end in the same
state. -/
theorem Reduces.unique {state leftLast rightLast : State}
    {leftOutputs rightOutputs : List Output}
    (left : Reduces step state leftOutputs leftLast) (leftNormal : Normal step leftLast)
    (right : Reduces step state rightOutputs rightLast)
    (rightNormal : Normal step rightLast) :
    leftOutputs = rightOutputs ∧ leftLast = rightLast := by
  induction left generalizing rightOutputs with
  | refl =>
    cases right with
    | refl => exact ⟨rfl, rfl⟩
    | head taken _ =>
      rw [Normal, taken] at leftNormal
      cases leftNormal
  | head leftTaken _ induction =>
    cases right with
    | refl =>
      rw [Normal, leftTaken] at rightNormal
      cases rightNormal
    | head rightTaken rest =>
      rw [leftTaken] at rightTaken
      cases rightTaken
      rcases induction leftNormal rest with ⟨rfl, rfl⟩
      exact ⟨rfl, rfl⟩

/-- What every step keeps holds at the end of a reduction. -/
theorem Reduces.invariant (Holds : State → Prop)
    (keeps : ∀ state outputs next, Holds state →
      step state = some (outputs, next) → Holds next)
    {outputs : List Output} {state last : State}
    (reduces : Reduces step state outputs last) (holds : Holds state) : Holds last := by
  induction reduces with
  | refl => exact holds
  | head taken _ induction => exact induction (keeps _ _ _ holds taken)

end Reduction

end OpenDiameter.Foundation
