/-!
What a program that changes a state, and may stop on the way, ensures: where it returns and
where it stops when it starts in a state that has a property.
-/

namespace OpenDiameter.Foundation

universe u

variable {State Failure Value Result : Type u}

def Ensures (before : State → Prop) (program : EStateM Failure State Value)
    (returns : Value → State → Prop) (stops : Failure → State → Prop) : Prop :=
  ∀ state, before state →
    match program.run state with
    | .ok value after => returns value after
    | .error failure after => stops failure after

namespace Ensures

variable {before : State → Prop} {program : EStateM Failure State Value}
  {returns : Value → State → Prop} {stops : Failure → State → Prop}

theorem of_pure {value : Value} (holds : ∀ state, before state → returns value state) :
    Ensures before (pure value) returns stops :=
  holds

theorem of_throw {failure : Failure} (holds : ∀ state, before state → stops failure state) :
    Ensures before (throw failure : EStateM Failure State Value) returns stops :=
  holds

theorem of_modify {change : State → State} {returns : PUnit → State → Prop}
    (holds : ∀ state, before state → returns ⟨⟩ (change state)) :
    Ensures before (modify change) returns stops :=
  holds

theorem of_modifyGet {change : State → Value × State}
    (holds : ∀ state, before state → returns (change state).1 (change state).2) :
    Ensures before (modifyGet change) returns stops :=
  holds

theorem of_set {after : State} {returns : PUnit → State → Prop}
    (holds : returns ⟨⟩ after) : Ensures before (set after) returns stops := by
  intro state _
  exact holds

theorem bind {next : Value → EStateM Failure State Result} {between : Value → State → Prop}
    {returns : Result → State → Prop} (first : Ensures before program between stops)
    (later : ∀ value, Ensures (between value) (next value) returns stops) :
    Ensures before (program >>= next) returns stops := by
  intro state holds
  have outcome := first state holds
  rw [EStateM.run_bind]
  split at outcome
  · rename_i value after returned
    rw [returned]
    exact later value after outcome
  · rename_i failure after stopped
    rw [stopped]
    exact outcome

/-- What is read is a state with the property, and the state still has it. -/
theorem get_bind {next : State → EStateM Failure State Value}
    (later : ∀ read, before read → Ensures before (next read) returns stops) :
    Ensures before (get >>= next) returns stops := by
  intro state holds
  exact later state holds state holds

theorem mono {weaker : State → Prop} {stronger : Value → State → Prop}
    {failing : Failure → State → Prop} (holds : Ensures weaker program stronger failing)
    (starts : ∀ state, before state → weaker state)
    (returned : ∀ value state, stronger value state → returns value state)
    (stopped : ∀ failure state, failing failure state → stops failure state) :
    Ensures before program returns stops := by
  intro state isBefore
  have outcome := holds state (starts state isBefore)
  split at outcome
  · exact returned _ _ outcome
  · exact stopped _ _ outcome

/-- What holds whenever the program starts may be assumed. -/
theorem of_fact {fact : Prop} (holds : fact → Ensures before program returns stops) :
    Ensures (fun state => fact ∧ before state) program returns stops := by
  intro state isBefore
  exact holds isBefore.1 state isBefore.2

/-- A program that is run from a state of the kind it starts in. -/
theorem at_state {state : State} (holds : Ensures before program returns stops)
    (isBefore : before state) :
    (∃ value after, program.run state = .ok value after ∧ returns value after) ∨
      ∃ failure after, program.run state = .error failure after ∧ stops failure after := by
  have outcome := holds state isBefore
  cases run : program.run state with
  | ok value after =>
    rw [run] at outcome
    exact .inl ⟨value, after, rfl, outcome⟩
  | error failure after =>
    rw [run] at outcome
    exact .inr ⟨failure, after, rfl, outcome⟩

end Ensures

end OpenDiameter.Foundation
