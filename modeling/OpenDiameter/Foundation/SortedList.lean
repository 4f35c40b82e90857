import Mathlib.Order.Lattice

/-!
A list of entries with strictly increasing keys as a finite map.
-/

namespace OpenDiameter.Foundation

variable {Entry Key : Type} [LinearOrder Key]

def Ascending (key : Entry → Key) (entries : List Entry) : Prop :=
  entries.Pairwise fun left right => key left < key right

/-- The entry with the given key. -/
def lookup (key : Entry → Key) (entries : List Entry) (wanted : Key) : Option Entry :=
  entries.find? fun entry => key entry = wanted

variable {key : Entry → Key} {before after : List Entry} {entry : Entry} {wanted : Key}

theorem lookup_append : lookup key (before ++ after) wanted =
    (lookup key before wanted).or (lookup key after wanted) :=
  List.find?_append

theorem lookup_eq_none {entries : List Entry}
    (absent : ∀ entry ∈ entries, key entry ≠ wanted) : lookup key entries wanted = none := by
  rw [lookup, List.find?_eq_none]
  intro entry member
  simpa using absent entry member

/-- No key of the list is the given one: some are below it, the rest above. -/
theorem lookup_between (below : ∀ entry ∈ before, key entry < wanted)
    (above : ∀ entry ∈ after, wanted < key entry) :
    lookup key (before ++ after) wanted = none := by
  apply lookup_eq_none
  intro entry member
  rcases List.mem_append.mp member with inBefore | inAfter
  · exact ne_of_lt (below entry inBefore)
  · exact ne_of_gt (above entry inAfter)

theorem lookup_insert (below : ∀ other ∈ before, key other < key entry) :
    lookup key (before ++ entry :: after) wanted =
      if wanted = key entry then some entry else lookup key (before ++ after) wanted := by
  rw [lookup_append, lookup_append]
  by_cases same : wanted = key entry
  · have absent : lookup key before wanted = none := by
      apply lookup_eq_none
      intro other member
      rw [same]
      exact ne_of_lt (below other member)
    rw [absent, if_pos same]
    simp [lookup, same]
  · have skipped : lookup key (entry :: after) wanted = lookup key after wanted := by
      simp [lookup, Ne.symm same]
    rw [skipped, if_neg same]

namespace Ascending

theorem around (ascending : Ascending key (before ++ entry :: after)) :
    (∀ other ∈ before, key other < key entry) ∧ ∀ other ∈ after, key entry < key other := by
  rw [Ascending, List.pairwise_append, List.pairwise_cons] at ascending
  exact ⟨fun other member => ascending.2.2 other member entry List.mem_cons_self,
    ascending.2.1.1⟩

theorem remove (ascending : Ascending key (before ++ entry :: after)) :
    Ascending key (before ++ after) :=
  List.Pairwise.sublist (List.Sublist.append_left (List.sublist_cons_self ..) before) ascending

theorem insert (ascending : Ascending key (before ++ after))
    (below : ∀ other ∈ before, key other < key entry)
    (above : ∀ other ∈ after, key entry < key other) :
    Ascending key (before ++ entry :: after) := by
  rw [Ascending, List.pairwise_append] at ascending ⊢
  rcases ascending with ⟨beforeAscending, afterAscending, apart⟩
  refine ⟨beforeAscending, List.pairwise_cons.mpr ⟨above, afterAscending⟩, ?_⟩
  intro left inBefore right member
  rcases List.mem_cons.mp member with rfl | inAfter
  · exact below left inBefore
  · exact apart left inBefore right inAfter

theorem lookup_self (ascending : Ascending key (before ++ entry :: after)) :
    lookup key (before ++ entry :: after) (key entry) = some entry := by
  rw [lookup_insert ascending.around.1, if_pos rfl]

theorem lookup_remove (ascending : Ascending key (before ++ entry :: after)) :
    lookup key (before ++ after) wanted =
      if wanted = key entry then none
      else lookup key (before ++ entry :: after) wanted := by
  rw [lookup_insert ascending.around.1]
  by_cases same : wanted = key entry
  · rw [if_pos same, same]
    exact lookup_between ascending.around.1 ascending.around.2
  · rw [if_neg same, if_neg same]

end Ascending

end OpenDiameter.Foundation
