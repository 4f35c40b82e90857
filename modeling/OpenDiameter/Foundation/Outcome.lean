namespace OpenDiameter.Foundation

/-!
A computation that can fail, with a bound on the failures it can end with.
-/

variable {Failure Value Result : Type}

/-- Every failure of the computation is an allowed one. -/
def FailsOnly (allowed : Failure → Prop) (outcome : Except Failure Value) : Prop :=
  ∀ failure, outcome = .error failure → allowed failure

namespace FailsOnly

variable {allowed : Failure → Prop}

theorem ok (value : Value) : FailsOnly allowed (.ok value) := by
  intro failure failed
  cases failed

theorem error {failure : Failure} (holds : allowed failure) :
    FailsOnly allowed (.error failure : Except Failure Value) := by
  intro other failed
  cases failed
  exact holds

theorem bind {first : Except Failure Value} {next : Value → Except Failure Result}
    (firstFails : FailsOnly allowed first)
    (nextFails : ∀ value, first = .ok value → FailsOnly allowed (next value)) :
    FailsOnly allowed (first >>= next) := by
  cases first with
  | error failure => exact error (firstFails failure rfl)
  | ok value => exact nextFails value rfl

theorem map {outcome : Except Failure Value} (change : Value → Result)
    (fails : FailsOnly allowed outcome) : FailsOnly allowed (outcome.map change) := by
  cases outcome with
  | error failure => exact error (fails failure rfl)
  | ok value => exact ok (change value)

theorem foldlM {Item : Type} {step : Value → Item → Except Failure Value}
    (stepFails : ∀ value item, FailsOnly allowed (step value item)) (items : List Item) :
    ∀ value, FailsOnly allowed (items.foldlM step value) := by
  induction items with
  | nil =>
    intro value
    exact ok value
  | cons item items induction =>
    intro value
    rw [List.foldlM_cons]
    apply bind (stepFails value item)
    intro next _
    exact induction next

end FailsOnly

/-- A sequence of two computations returns when both do. -/
theorem bind_eq_ok {first : Except Failure Value} {next : Value → Except Failure Result}
    {result : Result} :
    (first >>= next) = .ok result ↔ ∃ value, first = .ok value ∧ next value = .ok result := by
  cases first with
  | error failure =>
    constructor
    · intro returned
      cases returned
    · intro ⟨_, returned, _⟩
      cases returned
  | ok value =>
    constructor
    · intro returned
      exact ⟨value, rfl, returned⟩
    · intro ⟨_, same, returned⟩
      cases same
      exact returned

theorem map_eq_ok {outcome : Except Failure Value} {change : Value → Result}
    {result : Result} :
    outcome.map change = .ok result ↔ ∃ value, outcome = .ok value ∧ change value = result := by
  cases outcome with
  | error failure => simp [Except.map]
  | ok value => simp [Except.map]

theorem map_eq_error {outcome : Except Failure Value} {change : Value → Result}
    {failure : Failure} :
    outcome.map change = .error failure ↔ outcome = .error failure := by
  cases outcome with
  | error other => simp [Except.map]
  | ok value => simp [Except.map]

end OpenDiameter.Foundation
