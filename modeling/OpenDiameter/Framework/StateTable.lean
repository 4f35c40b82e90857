namespace OpenDiameter.Framework

/-!
`AAA_StateTable` of `framework.h`: a list of entries, searched for the first one of
the state with the event; an entry for any event serves where there is none.
-/

structure StateTableEntry (State Event Action : Type) where
  prevState : State
  /-- Nothing for a wildcard entry. -/
  event : Option Event
  nextState : State
  /-- Nothing for `AAA_NullAction`. -/
  action : Option Action

abbrev StateTable (State Event Action : Type) :=
  List (StateTableEntry State Event Action)

namespace StateTable

variable {State Event Action : Type} [DecidableEq State] [DecidableEq Event]

/-- `FindStateTableEntry` from an entry on, with the wildcard entry found so far. -/
def findFrom (state : State) (event : Event)
    (found : Option (StateTableEntry State Event Action)) :
    StateTable State Event Action → Option (StateTableEntry State Event Action)
  | [] => found
  | entry :: rest =>
    if entry.prevState ≠ state then findFrom state event found rest
    else
      match entry.event with
      | none => findFrom state event (some entry) rest
      | some expected =>
        if expected = event then some entry else findFrom state event found rest

def find (table : StateTable State Event Action) (state : State) (event : Event) :
    Option (StateTableEntry State Event Action) :=
  findFrom state event none table

/-- An entry serves the event in the state. -/
def Serves (state : State) (event : Event) (entry : StateTableEntry State Event Action) :
    Prop :=
  entry.prevState = state ∧ ∀ expected ∈ entry.event, expected = event

theorem findFrom_sound {state : State} {event : Event}
    {found : Option (StateTableEntry State Event Action)}
    {table : StateTable State Event Action} {entry : StateTableEntry State Event Action}
    (outcome : findFrom state event found table = some entry) :
    found = some entry ∨ entry ∈ table ∧ Serves state event entry := by
  induction table generalizing found with
  | nil => exact .inl outcome
  | cons head rest induction =>
    rw [findFrom] at outcome
    have later {found : Option (StateTableEntry State Event Action)}
        (step : findFrom state event found rest = some entry) :
        found = some entry ∨ entry ∈ head :: rest ∧ Serves state event entry := by
      apply (induction step).imp_right
      intro member
      exact ⟨List.mem_cons_of_mem _ member.1, member.2⟩
    split at outcome
    · exact later outcome
    · rename_i same
      split at outcome
      · rename_i wildcard
        apply (later outcome).elim
        · intro isHead
          cases isHead
          exact .inr ⟨List.mem_cons_self, by simpa using same, by simp [wildcard]⟩
        · exact .inr
      · rename_i expected listed
        split at outcome
        · rename_i matched
          cases outcome
          exact .inr ⟨List.mem_cons_self, by simpa using same, by simp [listed, matched]⟩
        · exact later outcome

theorem find_sound {state : State} {event : Event} {table : StateTable State Event Action}
    {entry : StateTableEntry State Event Action}
    (outcome : table.find state event = some entry) :
    entry ∈ table ∧ Serves state event entry := by
  apply (findFrom_sound outcome).resolve_left
  exact fun absurd => nomatch absurd

end StateTable

end OpenDiameter.Framework
