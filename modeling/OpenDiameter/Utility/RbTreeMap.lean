import OpenDiameter.Utility.RbTreeSearch
import OpenDiameter.Utility.RbTreeUnlink

/-!
The tree is a finite map from keys to data, over any sequence of calls.
-/

namespace OpenDiameter.Utility

open Foundation

variable {Key Payload : Type} [LinearOrder Key]

def binding (whole : ColorTree (Slot Key Payload)) (key : Key) : Option (RbTreeData Key Payload) :=
  lookup RbTreeData.key (contents whole) key

/-- Between calls the memory holds `whole`, a red-black tree in key order. -/
structure WellFormed (tree : RbTreeTree Key Payload) (whole : ColorTree (Slot Key Payload)) :
    Prop where
  layout : ∃ nilParent, Focused tree nilParent [] whole
  ascending : Ascending RbTreeData.key (contents whole)
  balanced : ∃ total, Balanced .black total whole

theorem WellFormed.ascending_slots {tree : RbTreeTree Key Payload}
    {whole : ColorTree (Slot Key Payload)} (wellFormed : WellFormed tree whole) :
    Ascending Slot.key whole.items := by
  have ascending := wellFormed.ascending
  rwa [Ascending, contents, List.pairwise_map] at ascending

namespace LeadsTo

variable {key : Key} {path : TreePath (Slot Key Payload)}

theorem below_data (leads : LeadsTo key path) :
    ∀ data ∈ path.before.map Slot.data, data.key < key := by
  intro data member
  rcases List.mem_map.mp member with ⟨slot, inBefore, rfl⟩
  exact leads.1 slot inBefore

theorem above_data (leads : LeadsTo key path) :
    ∀ data ∈ path.after.map Slot.data, key < data.key := by
  intro data member
  rcases List.mem_map.mp member with ⟨slot, inAfter, rfl⟩
  exact leads.2 slot inAfter

/-- A missing child there means the key is not in the tree. -/
theorem binding_nil (leads : LeadsTo key path) : binding (path.plug .nil) key = none := by
  rw [binding, contents_plug]
  exact lookup_between leads.below_data leads.above_data

end LeadsTo

namespace Focused

variable {tree : RbTreeTree Key Payload} {nilParent : Ref} {path : TreePath (Slot Key Payload)}

/-- The new node becomes the child on the side of its key. -/
theorem attach_eq {tree : RbTreeTree Key Payload} {data : RbTreeData Key Payload}
    {hole current : Ref} (above : LaidPath tree.memory hole path)
    (present : ∀ frame ∈ path.head?, frame.item.ref ≠ null)
    (leads : LeadsTo data.key path) :
    tree.attach (parentRef path) current data = some (tree.link current path) := by
  cases path with
  | nil => simp [RbTreeTree.attach, RbTreeTree.link]
  | cons frame path =>
    rcases frame with ⟨side, color, slot, sibling⟩
    rcases above with ⟨node, _, _⟩
    have parentPresent : slot.ref ≠ null := present _ rfl
    have parentData : tree.data slot.ref = some slot.data := by
      simp [RbTreeTree.data, RbTreeTree.load, node]
    cases side with
    | left =>
      have less : data.key < slot.data.key :=
        leads.2 slot (by simp [TreePath.after, Frame.after])
      simp [RbTreeTree.attach, parentPresent, parentData, less,
        RbTreeTree.setChild_eq node, RbTreeTree.link]
    | right =>
      have greater : slot.data.key < data.key :=
        leads.1 slot (by simp [TreePath.before, Frame.before])
      simp [RbTreeTree.attach, parentPresent, parentData, not_lt_of_gt greater,
        RbTreeTree.setChild_eq node, RbTreeTree.link]

/-- A new node takes the place of a missing child. -/
theorem attach {data : RbTreeData Key Payload} (focused : Focused tree nilParent path .nil)
    (leads : LeadsTo data.key path) :
    ∃ tree', (tree.allocate
        ⟨RbTreeTree.nil, RbTreeTree.nil, parentRef path, .red, some data⟩).attach
          (parentRef path) tree.fresh data = some tree' ∧
      Focused tree' nilParent path (.node .red .nil ⟨tree.fresh, data⟩ .nil) := by
  have inPath : ∀ ref ∈ pathRefs path, RbTreeTree.nil < ref ∧ ref < tree.fresh :=
    fun ref member => focused.allocated ref (mem_refs_plug.mpr (Or.inr member))
  have freshNotPath : tree.fresh ∉ pathRefs path :=
    fun member => Nat.lt_irrefl _ (inPath _ member).2
  have nilNotPath : RbTreeTree.nil ∉ pathRefs path :=
    fun member => Nat.lt_irrefl _ (inPath _ member).1
  have notNil : RbTreeTree.nil ≠ tree.fresh := Nat.ne_of_lt focused.fresh
  have above : LaidPath (tree.allocate
      ⟨RbTreeTree.nil, RbTreeTree.nil, parentRef path, .red, some data⟩).memory
      RbTreeTree.nil path := focused.above.update freshNotPath
  have present : ∀ frame ∈ path.head?, frame.item.ref ≠ null := by
    cases path with
    | nil => simp
    | cons frame path =>
      intro first same
      cases same
      exact Nat.ne_of_gt (Nat.lt_trans (by decide) focused.frame_nil_lt)
  rcases nodup_refs_plug.mp focused.distinct with ⟨_, pathDistinct, _⟩
  refine ⟨_, attach_eq above present leads, ?_⟩
  exact
    { root := RbTreeTree.root_link focused.root
      sentinel := by
        apply (RbTreeTree.load_link nilNotPath).trans
        exact (RbTreeTree.load_write_of_ne notNil).trans focused.sentinel
      below := ⟨(RbTreeTree.load_link freshNotPath).trans RbTreeTree.load_write, trivial,
        trivial⟩
      above := above.link pathDistinct
      distinct := by
        rw [nodup_refs_plug]
        simpa [refs, ColorTree.items, pathDistinct] using freshNotPath
      allocated := by
        rw [RbTreeTree.fresh_link]
        intro ref member
        rw [mem_refs_plug] at member
        rcases member with isFresh | inPath'
        · simp only [refs, ColorTree.items, List.nil_append, List.map_cons, List.map_nil,
            List.mem_singleton] at isFresh
          rw [isFresh]
          exact ⟨focused.fresh, Nat.lt_succ_self _⟩
        · exact ⟨(inPath ref inPath').1, Nat.lt_succ_of_lt (inPath ref inPath').2⟩
      fresh := by
        rw [RbTreeTree.fresh_link]
        exact Nat.lt_succ_of_lt focused.fresh }

end Focused

namespace WellFormed

variable {tree : RbTreeTree Key Payload} {whole : ColorTree (Slot Key Payload)} {fuel : Nat}

theorem empty : WellFormed (RbTreeTree.empty : RbTreeTree Key Payload) .nil where
  layout := ⟨null,
    { root := rfl
      sentinel := by simp [RbTreeTree.empty]
      below := trivial
      above := trivial
      distinct := by simp [refs, ColorTree.items]
      allocated := by simp [refs, ColorTree.items]
      fresh := Nat.lt_succ_self 1 }⟩
  ascending := List.Pairwise.nil
  balanced := ⟨0, .nil⟩

theorem search (wellFormed : WellFormed tree whole) (key : Key)
    (enough : whole.items.length < fuel) :
    ∃ nilParent path focus, tree.search fuel key = some (parentRef path, rootRef focus) ∧
      Focused tree nilParent path focus ∧ path.plug focus = whole ∧ LeadsTo key path ∧
      Found key focus := by
  rcases wellFormed.layout with ⟨nilParent, focused⟩
  rcases focused.search key wellFormed.ascending_slots enough with ⟨path, focus, found⟩
  exact ⟨nilParent, path, focus, found⟩

/-- The node with the key holds its binding. -/
theorem binding_found {path : TreePath (Slot Key Payload)} {color : Color}
    {left right : ColorTree (Slot Key Payload)} {slot : Slot Key Payload}
    (wellFormed : WellFormed tree (path.plug (.join .left color left slot right))) :
    binding (path.plug (.join .left color left slot right)) slot.key = some slot.data := by
  have ascending := wellFormed.ascending
  have split : contents (path.plug (.join .left color left slot right)) =
      (path.before.map Slot.data ++ contents left) ++
        slot.data :: (contents right ++ path.after.map Slot.data) := by
    rw [contents_plug]
    simp [contents, ColorTree.join, ColorTree.items]
  rw [split] at ascending
  rw [binding, split]
  exact ascending.lookup_self

theorem find_searched (wellFormed : WellFormed tree whole) {key : Key}
    (searched : ∃ nilParent path focus,
      tree.search fuel key = some (parentRef path, rootRef focus) ∧
      Focused tree nilParent path focus ∧ path.plug focus = whole ∧ LeadsTo key path ∧
      Found key focus) : tree.find fuel key = some (binding whole key) := by
  rcases searched with ⟨nilParent, path, focus, searched, focused, rfl, leads, found⟩
  rcases found with rfl | ⟨color, left, slot, right, rfl, rfl⟩
  · rw [leads.binding_nil]
    simp [RbTreeTree.find, searched]
  · rw [wellFormed.binding_found]
    have present := Ne.symm focused.nil_ne_slot
    rw [rootRef_join] at searched
    simp [RbTreeTree.find, searched, present, focused.load_join]

theorem find (wellFormed : WellFormed tree whole) (key : Key)
    (enough : whole.items.length < fuel) : tree.find fuel key = some (binding whole key) :=
  wellFormed.find_searched (wellFormed.search key enough)

/-- A search goes at most as deep as a balanced tree is. -/
theorem find_within (wellFormed : WellFormed tree whole) (key : Key)
    (enough : 2 * Nat.log2 (whole.items.length + 1) < fuel) :
    tree.find fuel key = some (binding whole key) := by
  rcases wellFormed.layout with ⟨nilParent, focused⟩
  rcases wellFormed.balanced with ⟨total, balanced⟩
  have deep : whole.depth < fuel := Nat.lt_of_le_of_lt balanced.depth_le_log2 enough
  exact wellFormed.find_searched ⟨nilParent, focused.search_within key wellFormed.ascending_slots
    ColorTree.depth Frame.depth_lt deep⟩

/-- A key that is bound keeps its data, and the tree is as before. -/
theorem insert_bound (wellFormed : WellFormed tree whole) {data bound : RbTreeData Key Payload}
    (present : binding whole data.key = some bound) (enough : whole.items.length < fuel) :
    tree.insert fuel data = some (tree, some bound) := by
  rcases wellFormed.search data.key enough with
    ⟨nilParent, path, focus, searched, focused, rfl, leads, found⟩
  rcases found with rfl | ⟨color, left, slot, right, rfl, same⟩
  · rw [leads.binding_nil] at present
    cases present
  · rw [← same, wellFormed.binding_found] at present
    cases present
    have notNil := Ne.symm focused.nil_ne_slot
    rw [rootRef_join] at searched
    simp [RbTreeTree.insert, searched, notNil, focused.load_join]

theorem insert_unbound (wellFormed : WellFormed tree whole) {data : RbTreeData Key Payload}
    (absent : binding whole data.key = none) (enough : whole.items.length < fuel) :
    ∃ tree' whole', tree.insert fuel data = some (tree', some data) ∧
      WellFormed tree' whole' ∧ whole'.items.length = whole.items.length + 1 ∧
      ∀ key, binding whole' key = if key = data.key then some data else binding whole key := by
  rcases wellFormed.search data.key enough with
    ⟨nilParent, path, focus, searched, focused, rfl, leads, found⟩
  rcases found with rfl | ⟨color, left, slot, right, rfl, same⟩
  · rcases focused.attach leads with ⟨tree₁, attached, focused₁⟩
    rcases wellFormed.balanced with ⟨total, balanced⟩
    have short := TreePath.length_add_length_items path (.nil : ColorTree (Slot Key Payload))
    have rising := Rising.of_leaf (⟨tree.fresh, data⟩ : Slot Key Payload) balanced
    rcases focused₁.fixupInsert rising (Nat.lt_of_le_of_lt (by omega) enough) with
      ⟨tree', fixed, whole', total', focused', balanced', sameItems⟩
    have inserted : contents whole' =
        path.before.map Slot.data ++ data :: path.after.map Slot.data := by
      rw [contents, sameItems, ← contents, contents_plug]
      rfl
    have before : contents (path.plug .nil) =
        path.before.map Slot.data ++ path.after.map Slot.data := contents_plug path .nil
    have member : (⟨tree.fresh, data⟩ : Slot Key Payload) ∈ whole'.items := by
      rw [sameItems, TreePath.items_plug]
      simp [ColorTree.items]
    rcases focused'.below.data_of_mem member with ⟨node, loaded, nodeData⟩
    have loaded' : tree'.load tree.fresh = some node := loaded
    have ascending := wellFormed.ascending
    rw [before] at ascending
    refine ⟨tree', whole', ?_, ⟨⟨nilParent, focused'⟩, ?_, total', balanced'⟩, ?_, ?_⟩
    · rw [rootRef_nil] at searched
      have fixed' : tree₁.fixupInsert fuel tree.fresh = some tree' := fixed
      simp [RbTreeTree.insert, searched, attached, fixed', loaded', nodeData]
    · rw [inserted]
      exact ascending.insert leads.below_data leads.above_data
    · rw [sameItems]
      simp [TreePath.items_plug, ColorTree.items]
      omega
    · intro key
      rw [binding, binding, inserted, before]
      exact lookup_insert leads.below_data
  · rw [← same, wellFormed.binding_found] at absent
    cases absent

theorem remove (wellFormed : WellFormed tree whole) (key : Key)
    (enough : 2 * whole.items.length + 1 < fuel) :
    ∃ tree' whole', tree.remove fuel key = some (tree', binding whole key) ∧
      WellFormed tree' whole' ∧ whole'.items.length ≤ whole.items.length ∧
      ∀ other, binding whole' other = if other = key then none else binding whole other := by
  have searchFuel : whole.items.length < fuel := by omega
  rcases wellFormed.search key searchFuel with
    ⟨nilParent, path, focus, searched, focused, rfl, leads, found⟩
  rcases found with rfl | ⟨color, left, slot, right, rfl, rfl⟩
  · refine ⟨tree, path.plug .nil, ?_, wellFormed, Nat.le_refl _, ?_⟩
    · rw [leads.binding_nil]
      simp [RbTreeTree.remove, searched]
    · intro other
      split
      · next same => rw [same, leads.binding_nil]
      · rfl
  · rcases wellFormed.balanced with ⟨total, balanced⟩
    rcases focused.removeNode balanced enough with
      ⟨y, tree', nilParent', whole', total', successor, taken, focused', balanced', rest⟩
    have before : contents (path.plug (.join .left color left slot right)) =
        (path.before.map Slot.data ++ contents left) ++
          slot.data :: (contents right ++ path.after.map Slot.data) := by
      rw [contents_plug]
      simp [contents, ColorTree.join, ColorTree.items]
    rw [← List.append_assoc] at rest
    have ascending := wellFormed.ascending
    rw [before] at ascending
    refine ⟨tree', whole', ?_, ⟨⟨nilParent', focused'⟩, ?_, total', balanced'⟩, ?_, ?_⟩
    · have notNull : slot.ref ≠ null :=
        Nat.ne_of_gt (Nat.lt_trans (by decide) (focused.nil_lt (by simp)))
      have notNil := Ne.symm focused.nil_ne_slot
      rw [rootRef_join] at searched
      rw [wellFormed.binding_found]
      simp [RbTreeTree.remove, searched, notNull, notNil, successor, taken]
    · rw [rest]
      exact ascending.remove
    · have fewer := congrArg List.length rest
      have more := congrArg List.length before
      simp only [contents, List.length_map, List.length_append, List.length_cons] at fewer more
      omega
    · intro other
      rw [binding, binding, rest, before]
      exact ascending.lookup_remove

end WellFormed

end OpenDiameter.Utility
