namespace OpenDiameter.Foundation

/-!
A loop body is a function of the loop's state. One pass reports what the body
handed to its environment, and either goes round again with a new state or
leaves the loop with a result.
-/

inductive Pass (State Output Result : Type) where
  | again (outputs : List Output) (next : State)
  | leave (outputs : List Output) (result : Result)

/-- The same pass with more outputs in front of its own. -/
def Pass.emit {State Output Result : Type} (before : List Output) :
    Pass State Output Result → Pass State Output Result
  | .again outputs next => .again (before ++ outputs) next
  | .leave outputs result => .leave (before ++ outputs) result

abbrev Loop (State Output Result : Type) :=
  State → Pass State Output Result

namespace Loop

variable {State Output Result : Type}

/-- Execute at most `fuel` passes. -/
def run (body : Loop State Output Result) :
    Nat → State → Option (List Output × Result)
  | 0, _ => none
  | fuel + 1, state =>
    match body state with
    | .leave outputs result => some (outputs, result)
    | .again outputs next =>
      (run body fuel next).map fun (rest, result) => (outputs ++ rest, result)

/-- The loop started in a state leaves with the given outputs and result. -/
inductive Runs (body : Loop State Output Result) :
    State → List Output → Result → Prop
  | leave {state outputs result} :
      body state = .leave outputs result → Runs body state outputs result
  | again {state outputs next rest result} :
      body state = .again outputs next → Runs body next rest result →
      Runs body state (outputs ++ rest) result

/-- The states at the head of the loop that a run passes through. -/
inductive Reaches (body : Loop State Output Result) :
    State → List Output → State → Prop
  | here (state) : Reaches body state [] state
  | again {state outputs next rest last} :
      body state = .again outputs next → Reaches body next rest last →
      Reaches body state (outputs ++ rest) last

def Terminates (body : Loop State Output Result) (state : State) : Prop :=
  ∃ outputs result, Runs body state outputs result

variable {body : Loop State Output Result}

variable {fuel : Nat} {state : State} {outputs : List Output} {result : Result}

theorem run_sound (returned : run body fuel state = some (outputs, result)) :
    Runs body state outputs result := by
  induction fuel generalizing state outputs with
  | zero => simp [run] at returned
  | succ fuel induction =>
    simp only [run] at returned
    cases pass : body state with
    | leave passOutputs passResult =>
      simp only [pass, Option.some.injEq, Prod.mk.injEq] at returned
      rcases returned with ⟨rfl, rfl⟩
      exact .leave pass
    | again passOutputs next =>
      simp only [pass, Option.map_eq_some_iff, Prod.exists, Prod.mk.injEq]
        at returned
      rcases returned with ⟨rest, _, tail, rfl, rfl⟩
      exact .again pass (induction tail)

theorem Runs.complete (runs : Runs body state outputs result) :
    ∃ fuel, run body fuel state = some (outputs, result) := by
  induction runs with
  | leave pass => exact ⟨1, by simp [run, pass]⟩
  | again pass _ induction =>
    rcases induction with ⟨fuel, tail⟩
    exact ⟨fuel + 1, by simp [run, pass, tail]⟩

/-- The fuelled execution and the big-step relation agree. -/
theorem runs_iff_run :
    Runs body state outputs result ↔
      ∃ fuel, run body fuel state = some (outputs, result) := by
  constructor
  · exact Runs.complete
  · rintro ⟨fuel, returned⟩
    exact run_sound returned

theorem Runs.deterministic {leftOutputs rightOutputs : List Output}
    {leftResult rightResult : Result} (left : Runs body state leftOutputs leftResult)
    (right : Runs body state rightOutputs rightResult) :
    leftOutputs = rightOutputs ∧ leftResult = rightResult := by
  induction left generalizing rightOutputs with
  | leave leftPass =>
    cases right with
    | leave rightPass =>
      rw [leftPass] at rightPass
      cases rightPass
      exact ⟨rfl, rfl⟩
    | again rightPass _ =>
      rw [leftPass] at rightPass
      cases rightPass
  | again leftPass _ induction =>
    cases right with
    | leave rightPass =>
      rw [leftPass] at rightPass
      cases rightPass
    | again rightPass tail =>
      rw [leftPass] at rightPass
      cases rightPass
      rcases induction tail with ⟨rfl, rfl⟩
      exact ⟨rfl, rfl⟩

theorem Reaches.single {state next : State} (pass : body state = .again outputs next) :
    Reaches body state outputs next := by
  simpa using Reaches.again pass (.here next)

/-- A property that every pass keeps holds wherever a run gets; what is known of
every state the run reaches may be used on the way. -/
theorem Reaches.invariant_of_known (Holds Known : State → Prop)
    (keeps : ∀ state outputs next, Holds state → Known state →
      body state = .again outputs next → Holds next) {state last : State}
    (known : ∀ outputs last, Reaches body state outputs last → Known last)
    (reaches : Reaches body state outputs last) (holds : Holds state) :
    Holds last := by
  induction reaches with
  | here => exact holds
  | again pass _ induction =>
    refine induction (fun _ _ rest => known _ _ (.again pass rest)) ?_
    exact keeps _ _ _ holds (known _ _ (.here _)) pass

theorem Reaches.invariant (Holds : State → Prop)
    (keeps : ∀ state outputs next, Holds state → body state = .again outputs next → Holds next)
    {state last : State} (reaches : Reaches body state outputs last) (holds : Holds state) :
    Holds last :=
  Reaches.invariant_of_known Holds (fun _ => True)
    (fun _ _ _ holds _ pass => keeps _ _ _ holds pass) (fun _ _ _ => trivial) reaches holds

/-- A loop that terminates does so from every state on the way. -/
theorem Reaches.terminates {state last : State} (reaches : Reaches body state outputs last)
    (terminates : Terminates body state) :
    Terminates body last := by
  induction reaches with
  | here => exact terminates
  | again pass _ induction =>
    rcases terminates with ⟨_, result, runs⟩
    cases runs with
    | leave leaves =>
      rw [leaves] at pass
      cases pass
    | again samePass tail =>
      rw [samePass] at pass
      cases pass
      exact induction ⟨_, result, tail⟩

/-- A run leaves the loop from some state that it reached. -/
theorem Runs.exists_leave (runs : Runs body state outputs result) :
    ∃ last before after, Reaches body state before last ∧
      body last = .leave after result ∧ outputs = before ++ after := by
  induction runs with
  | leave pass => exact ⟨_, [], _, .here _, pass, rfl⟩
  | again pass _ induction =>
    rcases induction with ⟨last, before, after, reaches, leaves, rfl⟩
    exact ⟨last, _, after, .again pass reaches, leaves,
      (List.append_assoc _ _ _).symm⟩

/-!
The total-correctness rule: one pass keeps the invariant and lowers its bound,
or leaves with the postcondition. The bound is a ghost of the proof; it need not
be a function of the state.
-/

theorem run_of_bound (Holds : Nat → State → Prop) (Post : Result → Prop)
    (step : ∀ bound state, Holds bound state →
      (∃ outputs result, body state = .leave outputs result ∧ Post result) ∨
      ∃ outputs next lower, body state = .again outputs next ∧ Holds lower next ∧
        lower < bound) {bound : Nat} (holds : Holds bound state) (enough : bound < fuel) :
    ∃ outputs result, run body fuel state = some (outputs, result) ∧ Post result := by
  induction fuel generalizing bound state with
  | zero => omega
  | succ fuel induction =>
    rcases step bound state holds with
      ⟨outputs, result, pass, post⟩ | ⟨outputs, next, lower, pass, nextHolds, below⟩
    · exact ⟨outputs, result, by simp [run, pass], post⟩
    · rcases induction nextHolds (by omega) with ⟨rest, result, returned, post⟩
      exact ⟨outputs ++ rest, result, by simp [run, pass, returned], post⟩

/-- A loop terminates from every state of a set whose passes stay in the set and
lower the measure. -/
theorem terminates_of_measure (Holds : State → Prop) (measure : State → Nat)
    (step : ∀ state outputs next, Holds state → body state = .again outputs next →
      Holds next ∧ measure next < measure state) (holds : Holds state) : Terminates body state := by
  induction bound : measure state using Nat.strongRecOn generalizing state with
  | _ n induction =>
    cases pass : body state with
    | leave outputs result => exact ⟨outputs, result, .leave pass⟩
    | again outputs next =>
      rcases step state outputs next holds pass with ⟨nextHolds, lower⟩
      rcases induction _ (bound ▸ lower) nextHolds rfl with ⟨rest, result, tail⟩
      exact ⟨outputs ++ rest, result, .again pass tail⟩

/-- A loop never leaves a set of states from which it always goes round again
into the set. -/
theorem not_terminates_of_recurrent {Stuck : State → Prop}
    (recurrent : ∀ state, Stuck state →
      ∃ outputs next, body state = .again outputs next ∧ Stuck next) (stuck : Stuck state) :
    ¬ Terminates body state := by
  rintro ⟨outputs, result, runs⟩
  induction runs with
  | leave pass =>
    rcases recurrent _ stuck with ⟨_, _, goesOn, _⟩
    rw [pass] at goesOn
    cases goesOn
  | again pass _ induction =>
    rcases recurrent _ stuck with ⟨_, _, goesOn, nextStuck⟩
    rw [pass] at goesOn
    cases goesOn
    exact induction nextStuck

/-- When every pass outside a recurrent set lowers the measure, the loop
terminates exactly when it does not reach that set. -/
theorem terminates_iff (Holds : State → Prop) {Stuck : State → Prop} (measure : State → Nat)
    (keeps : ∀ state outputs next, Holds state → body state = .again outputs next → Holds next)
    (progress : ∀ state outputs next, Holds state → ¬ Stuck state →
      body state = .again outputs next → measure next < measure state)
    (recurrent : ∀ state, Stuck state →
      ∃ outputs next, body state = .again outputs next ∧ Stuck next) (holds : Holds state) :
    Terminates body state ↔
      ∀ outputs last, Reaches body state outputs last → ¬ Stuck last := by
  constructor
  · rintro ⟨outputs, result, runs⟩ before last reaches stuck
    refine not_terminates_of_recurrent recurrent stuck ?_
    exact reaches.terminates ⟨outputs, result, runs⟩
  · intro avoids
    refine terminates_of_measure
      (fun state => Holds state ∧ ∀ outputs last, Reaches body state outputs last → ¬ Stuck last)
      measure ?_ ⟨holds, avoids⟩
    rintro state outputs next ⟨holds, avoids⟩ pass
    refine ⟨⟨keeps _ _ _ holds pass, ?_⟩, ?_⟩
    · intro rest last reaches
      exact avoids _ last (.again pass reaches)
    · exact progress state outputs next holds (avoids _ _ (.here state)) pass

/-!
A loop without outputs whose passes may fail.
-/

def checked (body : State → Option (Pass State Empty Result)) :
    Loop State Empty (Option Result) :=
  fun state =>
    match body state with
    | none => .leave [] none
    | some (.again _ next) => .again [] next
    | some (.leave _ result) => .leave [] (some result)

/-- The result, unless a pass fails or the fuel is too little. -/
def execute (body : State → Option (Pass State Empty Result)) (fuel : Nat)
    (state : State) : Option Result :=
  (run (checked body) fuel state).bind Prod.snd

theorem execute_of_bound {body : State → Option (Pass State Empty Result)}
    (Holds : Nat → State → Prop) (Post : Result → Prop)
    (step : ∀ bound state, Holds bound state →
      (∃ result, body state = some (.leave [] result) ∧ Post result) ∨
      ∃ next lower, body state = some (.again [] next) ∧ Holds lower next ∧ lower < bound)
    {bound : Nat} (holds : Holds bound state) (enough : bound < fuel) :
    ∃ result, execute body fuel state = some result ∧ Post result := by
  have checkedStep : ∀ bound state, Holds bound state →
      (∃ outputs result, checked body state = .leave outputs result ∧
        ∃ value, result = some value ∧ Post value) ∨
      ∃ outputs next lower, checked body state = .again outputs next ∧ Holds lower next ∧
        lower < bound := by
    intro bound state holds
    rcases step bound state holds with
      ⟨result, pass, post⟩ | ⟨next, lower, pass, nextHolds, below⟩
    · exact Or.inl ⟨[], some result, by simp [checked, pass], result, rfl, post⟩
    · exact Or.inr ⟨[], next, lower, by simp [checked, pass], nextHolds, below⟩
  rcases run_of_bound Holds _ checkedStep holds enough with
    ⟨outputs, _, returned, value, rfl, post⟩
  exact ⟨value, by simp [execute, returned], post⟩

/-- Two loops that agree wherever the first one gets have one result. -/
theorem execute_congr {body other : State → Option (Pass State Empty Result)} (Holds : State → Prop)
    (agree : ∀ state, Holds state → body state = other state)
    (keeps : ∀ state outputs next, Holds state → body state = some (.again outputs next) →
      Holds next) (holds : Holds state) (fuel : Nat) :
    execute body fuel state = execute other fuel state := by
  have runs : run (checked body) fuel state = run (checked other) fuel state := by
    induction fuel generalizing state with
    | zero => rfl
    | succ fuel induction =>
      have same : checked body state = checked other state := by
        rw [checked, checked, agree state holds]
      simp only [run, same]
      cases pass : checked other state with
      | leave outputs result => rfl
      | again outputs next =>
        have nextHolds : Holds next := by
          rw [← same] at pass
          unfold checked at pass
          split at pass
          · cases pass
          · rename_i isAgain
            cases pass
            exact keeps _ _ _ holds isAgain
          · cases pass
        dsimp only
        rw [induction nextHolds]
  rw [execute, execute, runs]

/-- What a loop leaves with, where its states have a property. -/
theorem execute_post {body : State → Option (Pass State Empty Result)} (Holds : State → Prop)
    (Post : Result → Prop)
    (keeps : ∀ state outputs next, Holds state → body state = some (.again outputs next) →
      Holds next)
    (leaves : ∀ state outputs result, Holds state → body state = some (.leave outputs result) →
      Post result) (holds : Holds state) (returned : execute body fuel state = some result) :
    Post result := by
  induction fuel generalizing state with
  | zero => cases returned
  | succ fuel induction =>
    unfold execute at returned induction
    rw [run] at returned
    cases pass : body state with
    | none =>
      simp only [checked, pass] at returned
      cases returned
    | some went =>
      cases went with
      | leave outputs left =>
        simp only [checked, pass] at returned
        cases returned
        exact leaves state outputs _ holds pass
      | again outputs next =>
        apply induction (keeps state outputs next holds pass)
        simp only [checked, pass] at returned
        cases rest : run (checked body) fuel next with
        | none =>
          rw [rest] at returned
          cases returned
        | some pair =>
          rw [rest] at returned
          exact returned

end Loop

/-!
A component is called with one input after another; a call may fail to return,
so it is a relation between the state before, the outputs and the state after.
-/

abbrev Call (State Input Output : Type) :=
  State → Input → List Output → State → Prop

namespace Call

variable {State Input Output : Type}

/-- Every call of the sequence returns. -/
inductive RunsAll (call : Call State Input Output) :
    State → List Input → List Output → State → Prop
  | nil (state) : RunsAll call state [] [] state
  | cons {state input outputs next inputs rest last} :
      call state input outputs next → RunsAll call next inputs rest last →
      RunsAll call state (input :: inputs) (outputs ++ rest) last

variable {call : Call State Input Output}

theorem RunsAll.deterministic
    (callDeterministic : ∀ {state input leftOutputs rightOutputs left right},
      call state input leftOutputs left → call state input rightOutputs right →
      leftOutputs = rightOutputs ∧ left = right)
    {state leftLast rightLast : State} {inputs : List Input}
    {leftOutputs rightOutputs : List Output}
    (left : RunsAll call state inputs leftOutputs leftLast)
    (right : RunsAll call state inputs rightOutputs rightLast) :
    leftOutputs = rightOutputs ∧ leftLast = rightLast := by
  induction left generalizing rightOutputs with
  | nil =>
    cases right
    exact ⟨rfl, rfl⟩
  | cons leftCall _ induction =>
    cases right with
    | cons rightCall rightRest =>
      rcases callDeterministic leftCall rightCall with ⟨rfl, rfl⟩
      rcases induction rightRest with ⟨rfl, rfl⟩
      exact ⟨rfl, rfl⟩

theorem RunsAll.invariant (Holds : State → Prop)
    (keeps : ∀ {state input outputs next}, Holds state →
      call state input outputs next → Holds next)
    {state last : State} {inputs : List Input} {outputs : List Output}
    (runs : RunsAll call state inputs outputs last) (holds : Holds state) :
    Holds last := by
  induction runs with
  | nil => exact holds
  | cons called _ induction => exact induction (keeps holds called)

end Call

end OpenDiameter.Foundation
