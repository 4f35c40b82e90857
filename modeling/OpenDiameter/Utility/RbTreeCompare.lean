import OpenDiameter.Utility.RbTreeRuns

/-!
The tree over keys that compare themselves. Where every comparison on the way down is that of a
linear order, the operations are those of the order.
-/

namespace OpenDiameter.Utility

open Foundation

variable {Key Payload : Type}

/-- The two operators of a node's data. -/
structure Comparison (Key : Type) where
  /-- The data of the node is asked. -/
  same : Key → Key → Bool
  /-- The data that is looked for is asked. -/
  less : Key → Key → Bool

namespace RbTreeTree

section

variable (compare : Comparison Key)

def searchPassBy (tree : RbTreeTree Key Payload) (key : Key) (state : Ref × Ref) :
    Option (Pass (Ref × Ref) Empty (Ref × Ref)) := do
  let (parent, current) := state
  if current = nil then return .leave [] (parent, current)
  let data ← tree.data current
  if compare.same data.key key then return .leave [] (parent, current)
  if compare.less key data.key then return .again [] (current, ← tree.child .left current)
  else return .again [] (current, ← tree.child .right current)

def searchBy (fuel : Nat) (tree : RbTreeTree Key Payload) (key : Key) : Option (Ref × Ref) :=
  Loop.execute (tree.searchPassBy compare key) fuel (null, tree.root)

def attachBy (tree : RbTreeTree Key Payload) (parent current : Ref)
    (data : RbTreeData Key Payload) : Option (RbTreeTree Key Payload) := do
  if parent ≠ null then
    if compare.less data.key (← tree.data parent).key then tree.setChild .left parent current
    else tree.setChild .right parent current
  else return { tree with root := current }

/-- `Insert` -/
def insertBy (fuel : Nat) (tree : RbTreeTree Key Payload) (data : RbTreeData Key Payload) :
    Option (RbTreeTree Key Payload × Option (RbTreeData Key Payload)) := do
  let (parent, current) ← tree.searchBy compare fuel data.key
  if current ≠ nil then return (tree, (← tree.load current).data)
  let current := tree.fresh
  let tree := tree.allocate
    { left := nil, right := nil, parent := parent, color := .red, data := some data }
  let tree ← tree.attachBy compare parent current data
  let tree ← tree.fixupInsert fuel current
  return (tree, (← tree.load current).data)

/-- `Find` -/
def findBy (fuel : Nat) (tree : RbTreeTree Key Payload) (key : Key) :
    Option (Option (RbTreeData Key Payload)) := do
  let (_, current) ← tree.searchBy compare fuel key
  if current ≠ nil then return (← tree.load current).data
  return none

/-- `Remove` -/
def removeBy (fuel : Nat) (tree : RbTreeTree Key Payload) (key : Key) :
    Option (RbTreeTree Key Payload × Option (RbTreeData Key Payload)) := do
  let (_, z) ← tree.searchBy compare fuel key
  if z = null ∨ z = nil then return (tree, none)
  tree.takeOut fuel z (← tree.removable fuel z)

/-- The way down to a key: the parents with the nodes that they lead to. -/
inductive Visits (tree : RbTreeTree Key Payload) (key : Key) : Ref × Ref → Prop where
  | root : Visits tree key (null, tree.root)
  | down {state next : Ref × Ref} : Visits tree key state →
      tree.searchPassBy compare key state = some (.again [] next) → Visits tree key next

end

section

variable {compare : Comparison Key} {tree : RbTreeTree Key Payload} {key : Key}

theorem searchPassBy_eq_again {state next : Ref × Ref} {outputs : List Empty}
    (pass : tree.searchPassBy compare key state = some (.again outputs next)) :
    next.1 = state.2 ∧ ∃ data, tree.data state.2 = some data := by
  rcases state with ⟨parent, current⟩
  simp only [searchPassBy] at pass
  by_cases missing : current = nil
  · simp [missing] at pass
  · cases found : tree.data current with
    | none => simp [missing, found] at pass
    | some data =>
      refine ⟨?_, data, rfl⟩
      simp only [missing, found, if_false, Option.bind_eq_bind, Option.bind_some] at pass
      split at pass
      · cases pass
      · split at pass <;>
        · rcases Option.bind_eq_some_iff.mp pass with ⟨child, _, went⟩
          cases went
          rfl

theorem searchPassBy_eq_leave {state result : Ref × Ref} {outputs : List Empty}
    (pass : tree.searchPassBy compare key state = some (.leave outputs result)) :
    result = state := by
  rcases state with ⟨parent, current⟩
  simp only [searchPassBy] at pass
  by_cases missing : current = nil
  · simp only [missing, if_true] at pass
    cases pass
    rw [missing]
  · cases found : tree.data current with
    | none => simp [missing, found] at pass
    | some data =>
      simp only [missing, found, if_false, Option.bind_eq_bind, Option.bind_some] at pass
      split at pass
      · cases pass
        rfl
      · split at pass <;>
        · rcases Option.bind_eq_some_iff.mp pass with ⟨child, _, went⟩
          cases went

/-- The search ends on the way that it goes. -/
theorem visits_of_searchBy {fuel : Nat} {state : Ref × Ref}
    (searched : tree.searchBy compare fuel key = some state) : Visits compare tree key state := by
  apply Loop.execute_post (Visits compare tree key) _ _ _ .root searched
  · intro state outputs next visits pass
    cases outputs with
    | nil => exact .down visits pass
    | cons output => cases output
  · intro state outputs result visits pass
    rw [searchPassBy_eq_leave pass]
    exact visits

/-- The parent that the search remembers is a node that it has been at. -/
theorem Visits.parent {state : Ref × Ref} (visits : Visits compare tree key state) :
    state.1 = null ∨ ∃ grandparent data, Visits compare tree key (grandparent, state.1) ∧
      tree.data state.1 = some data := by
  cases visits with
  | root => exact .inl rfl
  | @down before _ came pass =>
    rcases searchPassBy_eq_again pass with ⟨same, data, found⟩
    rw [same]
    exact .inr ⟨before.1, data, came, found⟩

end

section

variable [LinearOrder Key] {compare : Comparison Key} {tree : RbTreeTree Key Payload} {key : Key}

/-- The data of a node compares with the key as the order has it. -/
structure ComparesRight (compare : Comparison Key) (stored key : Key) : Prop where
  same : compare.same stored key = true ↔ stored = key
  less : compare.less key stored = true ↔ key < stored

/-- Every comparison on the way down is right. -/
def WalksRight (compare : Comparison Key) (tree : RbTreeTree Key Payload) (key : Key) : Prop :=
  ∀ state data, Visits compare tree key state → tree.data state.2 = some data →
    ComparesRight compare data.key key

/-- A search for the key of the root, or in an empty tree, compares nothing else. -/
theorem WalksRight.of_root (right : ComparesRight compare key key)
    (root : ∀ data, tree.data tree.root = some data → data.key = key) :
    WalksRight compare tree key := by
  have stays : ∀ state, Visits compare tree key state → state = (null, tree.root) := by
    intro state visits
    induction visits with
    | root => rfl
    | down before pass induction =>
      subst induction
      rcases searchPassBy_eq_again pass with ⟨_, data, found⟩
      have missing : tree.root ≠ nil := by
        intro missing
        simp [searchPassBy, missing] at pass
      have same : compare.same data.key key = true := by
        rw [root data found]
        exact right.same.mpr rfl
      simp [searchPassBy, missing, found, same] at pass
  intro state data visits found
  rw [stays state visits] at found
  rw [root data found]
  exact right

theorem searchPassBy_eq {state : Ref × Ref}
    (right : ∀ data, tree.data state.2 = some data → ComparesRight compare data.key key) :
    tree.searchPassBy compare key state = tree.searchPass key state := by
  rcases state with ⟨parent, current⟩
  simp only [searchPassBy, searchPass]
  by_cases missing : current = nil
  · simp [missing]
  · cases found : tree.data current with
    | none => simp [missing]
    | some data =>
      have compares := right data found
      simp [missing, compares.same, compares.less]

theorem searchBy_eq (right : WalksRight compare tree key) (fuel : Nat) :
    tree.searchBy compare fuel key = tree.search fuel key := by
  apply Loop.execute_congr (Visits compare tree key)
  · intro state visits
    exact searchPassBy_eq fun data => right state data visits
  · intro state outputs next visits pass
    cases outputs with
    | nil => exact .down visits pass
    | cons output => cases output
  · exact .root

theorem findBy_eq (right : WalksRight compare tree key) (fuel : Nat) :
    tree.findBy compare fuel key = tree.find fuel key := by
  rw [findBy, find, searchBy_eq right]

theorem removeBy_eq (right : WalksRight compare tree key) (fuel : Nat) :
    tree.removeBy compare fuel key = tree.remove fuel key := by
  rw [removeBy, remove, searchBy_eq right]

theorem attachBy_eq {parent current : Ref} {data : RbTreeData Key Payload}
    (right : parent ≠ null → ∀ above, tree.data parent = some above →
      ComparesRight compare above.key data.key) :
    tree.attachBy compare parent current data = tree.attach parent current data := by
  unfold attachBy attach
  by_cases isRoot : parent = null
  · simp [isRoot]
  · cases found : tree.data parent with
    | none => simp [isRoot]
    | some above => simp [isRoot, (right isRoot above found).less]

end

end RbTreeTree

namespace WellFormed

variable [LinearOrder Key] {compare : Comparison Key} {tree : RbTreeTree Key Payload}
  {whole : ColorTree (Slot Key Payload)} {data : RbTreeData Key Payload} {fuel : Nat}

theorem insertBy_eq (wellFormed : WellFormed tree whole)
    (right : RbTreeTree.WalksRight compare tree data.key) (enough : whole.items.length < fuel) :
    tree.insertBy compare fuel data = tree.insert fuel data := by
  rcases wellFormed.search data.key enough with
    ⟨nilParent, path, focus, searched, focused, _, _, _⟩
  have searchedBy := RbTreeTree.searchBy_eq right fuel
  rw [searched] at searchedBy
  have visits := RbTreeTree.visits_of_searchBy searchedBy
  unfold RbTreeTree.insertBy RbTreeTree.insert
  rw [searchedBy, searched]
  simp only [Option.bind_eq_bind, Option.bind_some]
  congr 1
  rw [RbTreeTree.attachBy_eq]
  intro notNull above found
  rcases visits.parent with isNull | ⟨grandparent, stored, came, isStored⟩
  · exact absurd isNull notNull
  · have older : parentRef path ≠ tree.fresh := by
      cases path with
      | nil => exact absurd rfl notNull
      | cons frame path =>
        have member : frame.item.ref ∈ refs (TreePath.plug (frame :: path) focus) :=
          mem_refs_plug.mpr (.inr List.mem_cons_self)
        exact Nat.ne_of_lt (focused.allocated _ member).2
    have same : (tree.allocate ⟨RbTreeTree.nil, RbTreeTree.nil, parentRef path, .red,
        some data⟩).data (parentRef path) = tree.data (parentRef path) := by
      simp [RbTreeTree.data, RbTreeTree.load, RbTreeTree.allocate, RbTreeTree.write, older]
    rw [same] at found
    exact right _ above came found

end WellFormed

end OpenDiameter.Utility
