namespace OpenDiameter.Foundation

/-!
A component answers a call and is in a new state, or the call has no defined
effect. A property of its states may depend on the calls it is given.
-/

abbrev Component (State Input Output : Type) :=
  State → Input → Option (Output × State)

namespace Component

variable {State Input Output : Type} (component : Component State Input Output)

/-- The calls with their answers, and the state after them. -/
def run : State → List Input → Option (List (Input × Output) × State)
  | state, [] => some ([], state)
  | state, input :: inputs => do
      let (output, next) ← component state input
      let (events, last) ← run next inputs
      return ((input, output) :: events, last)

/-- Every call has a defined effect and every state met has the property. -/
def Always (Holds : State → Prop) : State → List Input → Prop
  | state, [] => Holds state
  | state, input :: inputs =>
    Holds state ∧ ∃ output next, component state input = some (output, next) ∧
      Always Holds next inputs

/-- Every call is made in a state where the condition on it holds. -/
def Meets (Fits : State → Input → Prop) : State → List Input → Prop
  | _, [] => True
  | state, input :: inputs =>
    Fits state input ∧ ∀ output next, component state input = some (output, next) →
      Meets Fits next inputs

variable {component}

variable {inputs : List Input}

theorem Always.start {Holds : State → Prop} {state : State}
    (always : component.Always Holds state inputs) : Holds state := by
  cases inputs with
  | nil => exact always
  | cons input inputs => exact always.1

/-- Where the condition says of each call whether it keeps the property, it says
so of every sequence of calls. -/
theorem always_iff_meets {Allowed : Input → Prop} (Known : State → Prop) {Holds : State → Prop}
    {Fits : State → Input → Prop}
    (knows : ∀ {state input output next}, Allowed input → Known state → Holds state →
      component state input = some (output, next) → Known next)
    (step : ∀ {state input}, Allowed input → Known state → Holds state →
      (Fits state input ↔
        ∃ output next, component state input = some (output, next) ∧ Holds next)) {state : State}
    (allowed : ∀ input ∈ inputs, Allowed input) (known : Known state) (holds : Holds state) :
    component.Always Holds state inputs ↔ component.Meets Fits state inputs := by
  induction inputs generalizing state with
  | nil => exact ⟨fun _ => trivial, fun _ => holds⟩
  | cons input inputs induction =>
    have allowedHead : Allowed input := allowed input (by simp)
    have allowedTail : ∀ other ∈ inputs, Allowed other := by
      intro other member
      exact allowed other (by simp [member])
    constructor
    · intro always
      rcases always with ⟨_, output, next, answered, rest⟩
      constructor
      · exact (step allowedHead known holds).mpr ⟨output, next, answered, rest.start⟩
      · intro output' next' answered'
        rw [answered] at answered'
        cases answered'
        exact (induction allowedTail (knows allowedHead known holds answered) rest.start).mp rest
    · intro meets
      rcases (step allowedHead known holds).mp meets.1 with
        ⟨output, next, answered, nextHolds⟩
      have rest := meets.2 output next answered
      exact ⟨holds, output, next, answered,
        (induction allowedTail (knows allowedHead known holds answered) nextHolds).mpr rest⟩

/-- Where every call is answered and keeps a relation between the calls answered so
far and the state, every sequence of calls is answered and the relation holds at
its end. -/
theorem run_invariant {Allowed : Input → Prop} (Holds : List (Input × Output) → State → Prop)
    (keeps : ∀ {events state input}, Allowed input → Holds events state →
      ∃ output next, component state input = some (output, next) ∧
        Holds (events ++ [(input, output)]) next) {state : State} {before : List (Input × Output)}
    (allowed : ∀ input ∈ inputs, Allowed input) (holds : Holds before state) :
    ∃ events last, component.run state inputs = some (events, last) ∧
      Holds (before ++ events) last := by
  induction inputs generalizing state before with
  | nil => exact ⟨[], state, rfl, by simpa using holds⟩
  | cons input inputs induction =>
    rcases keeps (allowed input (by simp)) holds with ⟨output, next, answered, nextHolds⟩
    have allowedTail : ∀ other ∈ inputs, Allowed other := by
      intro other member
      exact allowed other (by simp [member])
    rcases induction allowedTail nextHolds with ⟨events, last, ran, final⟩
    refine ⟨(input, output) :: events, last, ?_, ?_⟩
    · simp [run, answered, ran]
    · simpa using final

end Component

end OpenDiameter.Foundation
