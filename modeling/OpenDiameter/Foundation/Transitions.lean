import Mathlib.Logic.Function.Iterate

/-!
The states that a system reaches by steps of which some are allowed.
-/

namespace OpenDiameter.Foundation

universe u v

variable {State : Type u} {Event : Type v}

inductive Reached (start : State → Prop) (step : State → Event → State → Prop)
    (allowed : State → Event → Prop) : State → Prop where
  | start {state : State} : start state → Reached start step allowed state
  | step {state next : State} {event : Event} : Reached start step allowed state →
      step state event next → allowed state event → Reached start step allowed next

namespace Reached

variable {start : State → Prop} {step : State → Event → State → Prop}
  {allowed : State → Event → Prop} {state : State}

/-- What holds at the start and is kept by each step holds wherever the system gets. -/
theorem invariant (reached : Reached start step allowed state) (Invariant : State → Prop)
    (initially : ∀ state, start state → Invariant state)
    (kept : ∀ state event next, Invariant state → step state event next → allowed state event →
      Invariant next) : Invariant state := by
  induction reached with
  | start isStart => exact initially _ isStart
  | step _ taken allowed induction => exact kept _ _ _ induction taken allowed

theorem after (reached : Reached start step allowed state) (event : Event) {next : State}
    (taken : step state event next) (isAllowed : allowed state event) :
    Reached start step allowed next :=
  .step reached taken isAllowed

/-- A system that is allowed more reaches more. -/
theorem mono {weaker : State → Event → Prop} (reached : Reached start step allowed state)
    (weakens : ∀ state event, allowed state event → weaker state event) :
    Reached start step weaker state := by
  induction reached with
  | start isStart => exact .start isStart
  | step _ taken allowed induction => exact .step induction taken (weakens _ _ allowed)

end Reached

/-- The runs from a state to another one, with their events. -/
inductive Traces (step : State → Event → State → Prop) : State → List Event → State → Prop where
  | nil (state : State) : Traces step state [] state
  | cons {state middle last : State} {event : Event} {events : List Event} :
      step state event middle → Traces step middle events last →
      Traces step state (event :: events) last

/-- What each event adds to a history is there after a run, in its order. -/
theorem Traces.history {step : State → Event → State → Prop} {state last : State}
    {events : List Event} (traces : Traces step state events last) {Datum : Type}
    {history : State → List Datum} {adds : Event → List Datum}
    (each : ∀ state event next, step state event next →
      history next = history state ++ adds event) :
    history last = history state ++ events.flatMap adds := by
  induction traces with
  | nil => exact (List.append_nil _).symm
  | cons taken _ induction =>
    rw [induction, each _ _ _ taken, List.flatMap_cons, List.append_assoc]

/-- The state after the inputs, unless one of them does not fit the state that it meets. -/
def runInputs (apply : Event → State → State) (fits : State → Event → Bool) :
    State → List Event → Option State
  | state, [] => some state
  | state, event :: events =>
    if fits state event then runInputs apply fits (apply event state) events else none

theorem Reached.runInputs {start : State → Prop} {step : State → Event → State → Prop}
    {allowed : State → Event → Prop} {apply : Event → State → State}
    {fits : State → Event → Bool}
    (sound : ∀ state event, fits state event = true →
      step state event (apply event state) ∧ allowed state event)
    {state last : State} {events : List Event} (reached : Reached start step allowed state)
    (runs : Foundation.runInputs apply fits state events = some last) :
    Reached start step allowed last := by
  induction events generalizing state with
  | nil =>
    cases runs
    exact reached
  | cons event events induction =>
    rw [Foundation.runInputs] at runs
    split at runs
    · rename_i fitting
      have stepped := sound state event fitting
      exact induction (reached.step stepped.1 stepped.2) runs
    · cases runs

/-- A run stays good just where each of its steps meets a condition, if that is so of one step from
a state of the runs that do. -/
theorem run_good_iff {apply : Event → State → State} {Invariant Good : State → Prop}
    {Meets : Event → State → Prop} (good : ∀ state, Invariant state → Good state)
    (step : ∀ event state, Invariant state → (Good (apply event state) ↔ Meets event state))
    (kept : ∀ event state, Invariant state → Meets event state → Invariant (apply event state))
    {state : State} (start : Invariant state) (events : List Event) :
    (∀ before after, events = before ++ after →
        Good (before.foldl (fun state event => apply event state) state)) ↔
      ∀ before event after, events = before ++ event :: after →
        Meets event (before.foldl (fun state event => apply event state) state) := by
  induction events generalizing state with
  | nil =>
    constructor
    · intro _ before event after split
      cases before with
      | nil => cases split
      | cons => cases split
    · intro _ before after split
      rw [(List.append_eq_nil_iff.1 split.symm).1]
      exact good state start
  | cons event events induction =>
    have later (meets : Meets event state) := induction (kept event state start meets)
    constructor
    · intro stays
      have meets := (step event state start).1 (stays [event] events rfl)
      have rest := (later meets).1 fun before after split =>
        stays (event :: before) after (congrArg (event :: ·) split)
      intro before other after split
      cases before with
      | nil =>
        cases split
        exact meets
      | cons head before =>
        cases split
        exact rest before other after rfl
    · intro meets
      have rest := (later (meets [] event events rfl)).2 fun before other after split =>
        meets (event :: before) other after (congrArg (event :: ·) split)
      intro before after split
      cases before with
      | nil => exact good state start
      | cons head before =>
        cases split
        exact rest before after rfl

/-- A system that moves by itself stops in one state only. -/
theorem iterate_unique {next : State → State} {state : State} {steps others : Nat}
    (stops : next (next^[steps] state) = next^[steps] state)
    (otherStops : next (next^[others] state) = next^[others] state) :
    next^[steps] state = next^[others] state := by
  apply (Nat.le_total steps others).elim
  · intro isLater
    obtain ⟨more, rfl⟩ := Nat.exists_eq_add_of_le' isLater
    rw [Function.iterate_add_apply, Function.iterate_fixed stops]
  · intro isLater
    obtain ⟨more, rfl⟩ := Nat.exists_eq_add_of_le' isLater
    rw [Function.iterate_add_apply, Function.iterate_fixed otherStops]

end OpenDiameter.Foundation
