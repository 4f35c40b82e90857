import Mathlib.Data.List.AList

/-!
`AAA_ProtectedMap`: a `std::map` whose calls are each made under its lock. `Iterate` goes
through the entries by their indexes; what is added behind the current one is visited too.
-/

namespace OpenDiameter.Framework

abbrev ProtectedMap (Index Data : Type) := AList fun _ : Index => Data

namespace ProtectedMap

variable {Index Data : Type} [DecidableEq Index]

/-- `Add`: `std::map::insert` leaves an entry that is there as it is. -/
def add (map : ProtectedMap Index Data) (ndx : Index) (data : Data) : ProtectedMap Index Data :=
  if (map.lookup ndx).isSome then map else map.insert ndx data

/-- The entry is a pointer: what it points to is changed. -/
def update (map : ProtectedMap Index Data) (ndx : Index) (change : Data → Data) :
    ProtectedMap Index Data :=
  match map.lookup ndx with
  | none => map
  | some data => map.insert ndx (change data)

/-- `Remove` -/
def remove (map : ProtectedMap Index Data) (ndx : Index) : ProtectedMap Index Data :=
  map.erase ndx

@[simp] theorem lookup_insert_eq (map : ProtectedMap Index Data) (ndx other : Index)
    (data : Data) :
    (map.insert ndx data).lookup other = if other = ndx then some data else map.lookup other := by
  by_cases same : other = ndx
  · rw [if_pos same, same]
    exact AList.lookup_insert map
  · rw [if_neg same]
    exact AList.lookup_insert_ne same

@[simp] theorem lookup_add (map : ProtectedMap Index Data) (ndx other : Index) (data : Data) :
    (map.add ndx data).lookup other =
      if other = ndx then some ((map.lookup ndx).getD data) else map.lookup other := by
  unfold add
  cases present : map.lookup ndx with
  | none => simp
  | some old =>
    by_cases same : other = ndx
    · subst same
      simp [present]
    · simp [same]

@[simp] theorem lookup_update (map : ProtectedMap Index Data) (ndx other : Index)
    (change : Data → Data) :
    (map.update ndx change).lookup other =
      if other = ndx then (map.lookup ndx).map change else map.lookup other := by
  unfold update
  cases present : map.lookup ndx with
  | none =>
    by_cases same : other = ndx
    · subst same
      simp [present]
    · simp [same]
  | some old => simp

@[simp] theorem lookup_remove (map : ProtectedMap Index Data) (ndx other : Index) :
    (map.remove ndx).lookup other = if other = ndx then none else map.lookup other := by
  unfold remove
  by_cases same : other = ndx
  · rw [if_pos same, same]
    exact AList.lookup_erase ndx map
  · rw [if_neg same]
    exact AList.lookup_erase_ne same

end ProtectedMap

end OpenDiameter.Framework
