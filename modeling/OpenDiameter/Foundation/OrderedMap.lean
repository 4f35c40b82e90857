import OpenDiameter.Foundation.SortedList

/-!
A finite map as a list of entries in the order of their keys, in which the value of one key is
set, changed or taken out.
-/

namespace OpenDiameter.Foundation

abbrev OrderedMap (Key Value : Type) := List (Key × Value)

namespace OrderedMap

variable {Key Value : Type} [LinearOrder Key]

def get : OrderedMap Key Value → Key → Option Value
  | [], _ => none
  | (other, value) :: rest, key => if key = other then some value else get rest key

/-- An entry before the rest, or none. -/
def put (key : Key) (value : Option Value) (rest : OrderedMap Key Value) :
    OrderedMap Key Value :=
  match value with
  | none => rest
  | some value => (key, value) :: rest

/-- What the key has becomes what is made of it. -/
def alter (key : Key) (change : Option Value → Option Value) :
    OrderedMap Key Value → OrderedMap Key Value
  | [] => put key (change none) []
  | (other, value) :: rest =>
    if key < other then put key (change none) ((other, value) :: rest)
    else if key = other then put key (change (some value)) rest
    else (other, value) :: alter key change rest

variable {map : OrderedMap Key Value} {key other : Key} {value : Value}
  {change : Option Value → Option Value}

theorem get_put {rest : OrderedMap Key Value} {result : Option Value}
    (absent : rest.get key = none) :
    (put key result rest).get other = if other = key then result else rest.get other := by
  cases result with
  | none =>
    split
    · rename_i same
      rw [put, same, absent]
    · rfl
  | some value => rfl

theorem get_eq_none (absent : ∀ entry ∈ map, key ≠ entry.1) : map.get key = none := by
  induction map with
  | nil => rfl
  | cons entry map induction =>
    rw [get, if_neg (absent entry List.mem_cons_self)]
    exact induction fun other isIn => absent other (List.mem_cons_of_mem _ isIn)

theorem get_of_below (below : ∀ entry ∈ map, key < entry.1) : map.get key = none :=
  get_eq_none fun entry isIn => ne_of_lt (below entry isIn)

/-- The other keys have what they had. -/
theorem get_alter (ascending : Ascending Prod.fst map) :
    (alter key change map).get other =
      if other = key then change (map.get key) else map.get other := by
  induction map with
  | nil => exact get_put rfl
  | cons entry map induction =>
    obtain ⟨first, value⟩ := entry
    obtain ⟨above, ascending⟩ := List.pairwise_cons.1 ascending
    rw [alter]
    by_cases before : key < first
    · have absent : get ((first, value) :: map) key = none := by
        apply get_of_below
        intro entry isIn
        rcases List.mem_cons.1 isIn with rfl | isIn
        · exact before
        · exact lt_trans before (above entry isIn)
      rw [if_pos before, get_put absent, absent]
    · rw [if_neg before]
      by_cases same : key = first
      · subst same
        rw [if_pos rfl, get_put (get_of_below above), get, if_pos rfl]
        split
        · rfl
        · rename_i differs
          rw [get, if_neg differs]
      · rw [if_neg same, get, induction ascending, get, if_neg same, get]
        split
        · rename_i isFirst
          rw [if_neg (fun isKey => same (isKey.symm.trans isFirst))]
        · rfl

omit [LinearOrder Key] in
theorem mem_put {rest : OrderedMap Key Value} {result : Option Value} {entry : Key × Value}
    (isIn : entry ∈ put key result rest) :
    (entry.1 = key ∧ result = some entry.2) ∨ entry ∈ rest := by
  cases result with
  | none => exact .inr isIn
  | some value =>
    rcases List.mem_cons.1 isIn with rfl | isIn
    · exact .inl ⟨rfl, rfl⟩
    · exact .inr isIn

/-- An entry is the one that was changed or an old one. -/
theorem mem_alter {entry : Key × Value} (isIn : entry ∈ alter key change map) :
    (entry.1 = key ∧ ∃ old, change old = some entry.2 ∧ ∀ value, old = some value →
      (key, value) ∈ map) ∨ entry ∈ map := by
  induction map with
  | nil =>
    rcases mem_put isIn with ⟨isKey, isNew⟩ | isIn
    · exact .inl ⟨isKey, none, isNew, fun _ isSome => nomatch isSome⟩
    · exact nomatch isIn
  | cons first map induction =>
    rw [alter] at isIn
    split at isIn
    · rcases mem_put isIn with ⟨isKey, isNew⟩ | isIn
      · exact .inl ⟨isKey, none, isNew, fun _ isSome => nomatch isSome⟩
      · exact .inr isIn
    · split at isIn
      · rename_i same
        rcases mem_put isIn with ⟨isKey, isNew⟩ | isIn
        · refine .inl ⟨isKey, some first.2, isNew, fun value isSome => ?_⟩
          rw [same, ← Option.some.inj isSome]
          exact List.mem_cons_self
        · exact .inr (List.mem_cons_of_mem _ isIn)
      · rcases List.mem_cons.1 isIn with rfl | isIn
        · exact .inr List.mem_cons_self
        · rcases induction isIn with ⟨isKey, old, isNew, isOld⟩ | isIn
          · exact .inl ⟨isKey, old, isNew, fun value isSome =>
              List.mem_cons_of_mem _ (isOld value isSome)⟩
          · exact .inr (List.mem_cons_of_mem _ isIn)

theorem ascending_put {rest : OrderedMap Key Value} {result : Option Value}
    (ascending : Ascending Prod.fst rest) (below : ∀ entry ∈ rest, key < entry.1) :
    Ascending Prod.fst (put key result rest) := by
  cases result with
  | none => exact ascending
  | some value => exact List.pairwise_cons.2 ⟨below, ascending⟩

theorem ascending_alter (ascending : Ascending Prod.fst map) :
    Ascending Prod.fst (alter key change map) := by
  induction map with
  | nil => exact ascending_put .nil fun _ isIn => nomatch isIn
  | cons first map induction =>
    obtain ⟨above, rest⟩ := List.pairwise_cons.1 ascending
    rw [alter]
    split
    · rename_i before
      refine ascending_put ascending fun entry isIn => ?_
      rcases List.mem_cons.1 isIn with rfl | isIn
      · exact before
      · exact lt_trans before (above entry isIn)
    · rename_i notBefore
      split
      · rename_i same
        subst same
        exact ascending_put rest above
      · rename_i differs
        refine List.pairwise_cons.2 ⟨fun entry isIn => ?_, induction rest⟩
        rcases mem_alter isIn with ⟨isKey, -⟩ | isIn
        · rw [isKey]
          exact lt_of_le_of_ne (not_lt.1 notBefore) (Ne.symm differs)
        · exact above entry isIn

theorem get_of_mem (ascending : Ascending Prod.fst map) (isIn : (key, value) ∈ map) :
    map.get key = some value := by
  induction map with
  | nil => exact nomatch isIn
  | cons first map induction =>
    obtain ⟨above, rest⟩ := List.pairwise_cons.1 ascending
    rcases List.mem_cons.1 isIn with rfl | isIn
    · exact if_pos rfl
    · rw [get, if_neg (ne_of_gt (above _ isIn))]
      exact induction rest isIn

theorem mem_of_get (found : map.get key = some value) : (key, value) ∈ map := by
  induction map with
  | nil => exact nomatch found
  | cons first map induction =>
    rw [get] at found
    split at found
    · rename_i same
      rw [same, ← Option.some.inj found]
      exact List.mem_cons_self
    · exact List.mem_cons_of_mem _ (induction found)

end OrderedMap

end OpenDiameter.Foundation
