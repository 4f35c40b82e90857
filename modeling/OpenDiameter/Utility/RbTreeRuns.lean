import Mathlib.Data.Nat.Basic
import OpenDiameter.Utility.RbTreeMap

/-!
Sequences of calls against the finite map they stand for.
-/

namespace OpenDiameter.Utility

open Foundation

variable {Key Payload : Type} [LinearOrder Key]

abbrev Bindings (Key Payload : Type) := Key → Option (RbTreeData Key Payload)

namespace Bindings

/-- A key keeps the data first inserted under it until it is removed. -/
def perform (bindings : Bindings Key Payload) :
    RbTreeTree.Operation Key Payload →
      Bindings Key Payload × Option (RbTreeData Key Payload)
  | .insert data =>
    match bindings data.key with
    | some bound => (bindings, some bound)
    | none => (fun key => if key = data.key then some data else bindings key, some data)
  | .remove key => (fun other => if other = key then none else bindings other, bindings key)

def performAll (bindings : Bindings Key Payload) :
    List (RbTreeTree.Operation Key Payload) →
      Bindings Key Payload × List (Option (RbTreeData Key Payload))
  | [] => (bindings, [])
  | operation :: operations =>
    let (next, returned) := bindings.perform operation
    let (last, rest) := performAll next operations
    (last, returned :: rest)

end Bindings

/-- What holds between calls: the keys increase, the tree is red and black as it
should be, and the links in the memory are those of the tree in both directions. -/
structure RedBlackTree (tree : RbTreeTree Key Payload) (whole : ColorTree (Slot Key Payload)) :
    Prop where
  keysIncrease : (contents whole).Pairwise fun left right => left.key < right.key
  rootBlack : whole.color = .black
  noRedRed : whole.NoRedRed
  sameBlackCount : ∃ total, ∀ count ∈ whole.blackCounts, count = total
  root : tree.root = rootRef whole
  links : Laid tree.memory null whole

namespace WellFormed

variable {tree : RbTreeTree Key Payload} {whole : ColorTree (Slot Key Payload)} {fuel : Nat}

theorem redBlackTree (wellFormed : WellFormed tree whole) : RedBlackTree tree whole := by
  rcases wellFormed.layout with ⟨nilParent, focused⟩
  rcases wellFormed.balanced with ⟨total, balanced⟩
  exact
    { keysIncrease := wellFormed.ascending
      rootBlack := balanced.color_eq
      noRedRed := balanced.noRedRed
      sameBlackCount := ⟨total, balanced.blackCounts_eq⟩
      root := focused.root
      links := focused.below }

/-- One call does to the tree what it does to the map. -/
theorem perform (wellFormed : WellFormed tree whole)
    (operation : RbTreeTree.Operation Key Payload)
    (enough : 2 * whole.items.length + 1 < fuel) :
    ∃ tree' whole',
      tree.perform fuel operation =
        some (tree', (Bindings.perform (binding whole) operation).2) ∧
      WellFormed tree' whole' ∧ whole'.items.length ≤ whole.items.length + 1 ∧
      binding whole' = (Bindings.perform (binding whole) operation).1 := by
  have searchFuel : whole.items.length < fuel := by omega
  cases operation with
  | insert data =>
    cases bound : binding whole data.key with
    | some old =>
      refine ⟨tree, whole, ?_, wellFormed, Nat.le_succ _, ?_⟩
      · simp [RbTreeTree.perform, Bindings.perform, bound,
          wellFormed.insert_bound bound searchFuel]
      · simp [Bindings.perform, bound]
    | none =>
      rcases wellFormed.insert_unbound bound searchFuel with
        ⟨tree', whole', inserted, wellFormed', size, bindings⟩
      refine ⟨tree', whole', ?_, wellFormed', Nat.le_of_eq size, ?_⟩
      · simp [RbTreeTree.perform, Bindings.perform, bound, inserted]
      · funext key
        simp [Bindings.perform, bound, bindings]
  | remove key =>
    rcases wellFormed.remove key enough with
      ⟨tree', whole', removed, wellFormed', size, bindings⟩
    refine ⟨tree', whole', ?_, wellFormed', Nat.le_succ_of_le size, ?_⟩
    · simp [RbTreeTree.perform, Bindings.perform, removed]
    · funext other
      simp [Bindings.perform, bindings]

theorem performAll (wellFormed : WellFormed tree whole)
    (operations : List (RbTreeTree.Operation Key Payload))
    (enough : 2 * (whole.items.length + operations.length) + 1 < fuel) :
    ∃ tree' whole',
      tree.performAll fuel operations =
        some (tree', (Bindings.performAll (binding whole) operations).2) ∧
      WellFormed tree' whole' ∧
      whole'.items.length ≤ whole.items.length + operations.length ∧
      binding whole' = (Bindings.performAll (binding whole) operations).1 := by
  induction operations generalizing tree whole with
  | nil => exact ⟨tree, whole, rfl, wellFormed, Nat.le_refl _, rfl⟩
  | cons operation operations induction =>
    rw [List.length_cons] at enough
    have enoughOnce : 2 * whole.items.length + 1 < fuel := by omega
    rcases wellFormed.perform operation enoughOnce with
      ⟨next, nextWhole, performed, nextWellFormed, nextSize, nextBindings⟩
    have enoughAfter : 2 * (nextWhole.items.length + operations.length) + 1 < fuel := by
      omega
    rcases induction nextWellFormed enoughAfter with
      ⟨tree', whole', rest, wellFormed', size, bindings⟩
    rw [nextBindings] at rest bindings
    refine ⟨tree', whole', ?_, wellFormed', ?_, bindings⟩
    · simp [RbTreeTree.performAll, Bindings.performAll, performed, rest]
    · rw [List.length_cons]
      omega

end WellFormed

/-- Any sequence of `Insert` and `Remove` calls on an empty tree returns what the
finite map returns; afterwards the tree is a red-black tree, `Find` answers from
the map, and inserting a bound key changes nothing. -/
theorem calls_implement_map (operations : List (RbTreeTree.Operation Key Payload))
    (fuel : Nat) (enough : 2 * operations.length + 1 < fuel) :
    ∃ tree whole,
      RbTreeTree.empty.performAll fuel operations =
        some (tree, (Bindings.performAll (fun _ => none) operations).2) ∧
      RedBlackTree tree whole ∧
      (∀ key, tree.find fuel key =
        some ((Bindings.performAll (fun _ => none) operations).1 key)) ∧
      ∀ data bound,
        (Bindings.performAll (fun _ => none) operations).1 data.key = some bound →
        tree.insert fuel data = some (tree, some bound) := by
  have start : 2 * ((ColorTree.nil : ColorTree (Slot Key Payload)).items.length + operations.length) + 1 <
      fuel := by
    simpa [ColorTree.items] using enough
  rcases WellFormed.empty.performAll operations start with
    ⟨tree, whole, performed, wellFormed, size, bindings⟩
  have searchFuel : whole.items.length < fuel := by
    simp only [ColorTree.items, List.length_nil, Nat.zero_add] at size
    omega
  refine ⟨tree, whole, performed, wellFormed.redBlackTree, ?_, ?_⟩
  · intro key
    rw [wellFormed.find key searchFuel, bindings]
    rfl
  · intro data bound present
    have present' : binding whole data.key = some bound := by
      rw [bindings]
      exact present
    exact wellFormed.insert_bound present' searchFuel

/-- Two insertions under one key, another key, and a removal. -/
theorem calls_implement_map_duplicate :
    ∃ (tree : RbTreeTree Nat String) (whole : ColorTree (Slot Nat String)),
      RbTreeTree.empty.performAll 10
          [.insert ⟨2, "two"⟩, .insert ⟨1, "one"⟩, .insert ⟨2, "other"⟩, .remove 1] =
        some (tree, [some ⟨2, "two"⟩, some ⟨1, "one"⟩, some ⟨2, "two"⟩, some ⟨1, "one"⟩]) ∧
      RedBlackTree tree whole ∧ tree.find 10 2 = some (some ⟨2, "two"⟩) ∧
      tree.find 10 1 = some none := by
  let operations : List (RbTreeTree.Operation Nat String) :=
    [.insert ⟨2, "two"⟩, .insert ⟨1, "one"⟩, .insert ⟨2, "other"⟩, .remove 1]
  rcases calls_implement_map operations 10 (by decide) with
    ⟨tree, whole, performed, redBlack, found, _⟩
  exact ⟨tree, whole, performed, redBlack, found 2, found 1⟩

/-- After any calls `Find` answers from the map within a number of passes that is logarithmic in the
number of keys. -/
theorem calls_find_within_log (operations : List (RbTreeTree.Operation Key Payload)) :
    ∃ tree whole,
      RbTreeTree.empty.performAll (2 * operations.length + 2) operations =
        some (tree, (Bindings.performAll (fun _ => none) operations).2) ∧
      RedBlackTree tree whole ∧ whole.items.length ≤ operations.length ∧
      ∀ key, tree.find (2 * Nat.log2 (whole.items.length + 1) + 1) key =
        some ((Bindings.performAll (fun _ => none) operations).1 key) := by
  have start : 2 * ((ColorTree.nil : ColorTree (Slot Key Payload)).items.length +
      operations.length) + 1 < 2 * operations.length + 2 := by
    simp [ColorTree.items]
  rcases WellFormed.empty.performAll operations start with
    ⟨tree, whole, performed, wellFormed, size, bindings⟩
  refine ⟨tree, whole, performed, wellFormed.redBlackTree, ?_, ?_⟩
  · simpa [ColorTree.items] using size
  · intro key
    rw [wellFormed.find_within key (Nat.lt_succ_self _), bindings]
    rfl

end OpenDiameter.Utility
