import OpenDiameter.Utility.RbTreeRemove

/-!
Taking a node with at most one child out of the parent chain.
-/

namespace OpenDiameter.Utility

open Foundation

variable {Key Payload : Type}

namespace Focused

variable {tree : RbTreeTree Key Payload} {nilParent : Ref}
  {path : TreePath (Slot Key Payload)} {color : Color} {side : Side}
  {slot : Slot Key Payload} {child : ColorTree (Slot Key Payload)}

/-- The walk of `Remove` to the successor ends at the first node of the subtree. -/
theorem leftmost {fuel : Nat} {sub : ColorTree (Slot Key Payload)}
    (focused : Focused tree nilParent path sub) (present : sub ≠ .nil)
    (enough : sub.items.length < fuel) :
    ∃ inner color slot child,
      Loop.execute tree.leftmostPass fuel (rootRef sub) = some slot.ref ∧
      TreePath.plug inner (.join .left color .nil slot child) = sub ∧ TreePath.before inner = [] := by
  have step : ∀ bound state,
      (∃ inner focus, focus ≠ .nil ∧ state = rootRef focus ∧
        Focused tree nilParent (inner ++ path) focus ∧ TreePath.plug inner focus = sub ∧
        TreePath.before inner = [] ∧ focus.items.length = bound) →
      (∃ result, tree.leftmostPass state = some (.leave [] result) ∧
        ∃ inner color slot child, result = slot.ref ∧
          TreePath.plug inner (.join .left color .nil slot child) = sub ∧
          TreePath.before inner = []) ∨
      ∃ next lower, tree.leftmostPass state = some (.again [] next) ∧
        (∃ inner focus, focus ≠ .nil ∧ next = rootRef focus ∧
          Focused tree nilParent (inner ++ path) focus ∧ TreePath.plug inner focus = sub ∧
          TreePath.before inner = [] ∧ focus.items.length = lower) ∧ lower < bound := by
    rintro bound _ ⟨inner, focus, present, rfl, focused, inside, first, rfl⟩
    rcases ColorTree.exists_join .left present with ⟨left, slot, right, shape⟩
    generalize focus.color = color at shape
    subst shape
    have read := focused.child_near
    have leftFocused := toNear.mp focused
    by_cases last : left = .nil
    · subst last
      rw [rootRef_nil] at read
      refine Or.inl ⟨slot.ref, ?_, inner, color, slot, right, rfl, inside, first⟩
      simp [RbTreeTree.leftmostPass, read]
    · have more : rootRef left ≠ RbTreeTree.nil := by
        intro same
        exact last (leftFocused.rootRef_eq_nil.mp same)
      refine Or.inr ⟨rootRef left, _, ?_, ⟨⟨.left, color, slot, right⟩ :: inner, left, last,
        rfl, leftFocused, inside, ?_, rfl⟩, ?_⟩
      · simp [RbTreeTree.leftmostPass, read, more]
      · simp [TreePath.before, Frame.before, first]
      · exact Frame.length_items_lt ⟨.left, color, slot, right⟩ left
  rcases Loop.execute_of_bound _ _ step ⟨[], sub, present, rfl, focused, rfl, rfl, rfl⟩ enough
    with ⟨_, returned, inner, color, slot, child, rfl, inside, first⟩
  exact ⟨inner, color, slot, child, returned, inside, first⟩


/-- The parent link of the child that moves up; a missing child's is kept at the
sentinel. -/
theorem setParent_child {old : Ref} (parent : Ref) (laid : Laid tree.memory old child)
    (sentinel : tree.load RbTreeTree.nil =
      some ⟨RbTreeTree.nil, RbTreeTree.nil, nilParent, .black, none⟩)
    (aboveNil : ∀ ref ∈ refs child, RbTreeTree.nil < ref) (distinct : (refs child).Nodup) :
    ∃ tree' nilParent', tree.setParent (rootRef child) parent = some tree' ∧
      tree'.root = tree.root ∧ tree'.fresh = tree.fresh ∧
      (∀ ref, ref ≠ rootRef child → tree'.load ref = tree.load ref) ∧
      tree'.load RbTreeTree.nil =
        some ⟨RbTreeTree.nil, RbTreeTree.nil, nilParent', .black, none⟩ ∧
      (child = .nil → nilParent' = parent) ∧ Laid tree'.memory parent child := by
  cases child with
  | nil =>
    refine ⟨_, parent, RbTreeTree.setParent_eq sentinel, rfl, rfl, ?_, ?_, ?_, trivial⟩
    · exact fun ref different => RbTreeTree.load_write_of_ne different
    · exact RbTreeTree.load_write
    · exact fun _ => rfl
  | node color left slot right =>
    have present : RbTreeTree.nil ≠ slot.ref :=
      Nat.ne_of_lt (aboveNil _ (rootRef_mem (by simp)))
    refine ⟨_, nilParent, RbTreeTree.setParent_eq laid.1, rfl, rfl, ?_, ?_, ?_,
      Laid.hang laid distinct⟩
    · exact fun ref different => RbTreeTree.load_write_of_ne different
    · exact (RbTreeTree.load_write_of_ne present).trans sentinel
    · exact fun missing => by cases missing

/-- The only child of a node takes its place; the node stays allocated. -/
theorem unlink (focused : Focused tree nilParent path (.join side color .nil slot child)) :
    ∃ tree' nilParent', tree.unlink slot.ref (rootRef child) = some tree' ∧
      Focused tree' nilParent' path child ∧
      (child = .nil → nilParent' = parentRef path) ∧
      tree'.load slot.ref = tree.load slot.ref ∧ slot.ref ∉ refs (path.plug child) := by
  have node := focused.load_join
  have linkApart := focused.frame_apart (by simp)
  have laid := (laid_join.mp focused.below).2.2
  have above := focused.above
  have root := focused.root
  have inTree : ∀ ref, ref ∈ refs (path.plug child) →
      ref ∈ refs (path.plug (.join side color .nil slot child)) := by
    intro ref member
    simp only [mem_refs_plug, mem_refs_join] at member ⊢
    exact member.imp (fun inChild => Or.inr (Or.inr inChild)) id
  have allocated := fun ref member => focused.allocated ref (inTree ref member)
  have aboveNil : ∀ ref ∈ refs child, RbTreeTree.nil < ref :=
    fun ref inChild => (allocated ref (mem_refs_plug.mpr (Or.inl inChild))).1
  have nilNotPath : RbTreeTree.nil ∉ pathRefs path :=
    fun inPath => Nat.lt_irrefl _ (allocated _ (mem_refs_plug.mpr (Or.inr inPath))).1
  rcases nodup_refs_plug.mp focused.distinct with ⟨distinct, pathDistinct, apart⟩
  simp only [nodup_refs_join, mem_refs_join, rootRef_join] at distinct apart above root linkApart
  rcases distinct with ⟨⟨_, notChild⟩, _, childDistinct, _⟩
  have slotNotPath := apart slot.ref (Or.inl rfl)
  have childNotPath : ∀ ref ∈ refs child, ref ∉ pathRefs path :=
    fun ref inChild => apart ref (Or.inr (Or.inr inChild))
  have notChildRef : ∀ ref, (ref = slot.ref ∨ ref ∈ pathRefs path) → ref ≠ rootRef child := by
    rintro ref other same
    by_cases missing : child = .nil
    · rw [same, missing, rootRef_nil] at other
      rcases other with isSlot | inPath
      · exact focused.nil_ne_slot isSlot
      · exact nilNotPath inPath
    · have inChild := rootRef_mem missing
      rw [← same] at inChild
      rcases other with isSlot | inPath
      · exact notChild (isSlot ▸ inChild)
      · exact childNotPath ref inChild inPath
  rcases setParent_child (parentRef path) laid focused.sentinel aboveNil childDistinct with
    ⟨tree₁, nilParent', adopted, root₁, fresh₁, same₁, sentinel₁, linked₁, laid₁⟩
  have node₁ := (same₁ slot.ref (notChildRef _ (Or.inl rfl))).trans node
  have above₁ : LaidPath tree₁.memory slot.ref path :=
    above.congr fun ref inPath => same₁ ref (notChildRef ref (Or.inr inPath))
  have linked : tree₁.replaceChild .left (parentRef path) slot.ref (rootRef child) =
      some (tree₁.link (rootRef child) path) :=
    RbTreeTree.replaceChild_eq .left above₁ linkApart
  refine ⟨tree₁.link (rootRef child) path, nilParent', ?_, ?_, linked₁, ?_, ?_⟩
  · have parentRead := RbTreeTree.parent_eq node
    have parentRead₁ := RbTreeTree.parent_eq node₁
    rw [RbTreeNode.parent_make] at parentRead parentRead₁
    simp [RbTreeTree.unlink, parentRead, adopted, parentRead₁, linked]
  · exact
      { root := RbTreeTree.root_link (root₁.trans root)
        sentinel := (RbTreeTree.load_link nilNotPath).trans sentinel₁
        below := laid₁.linkElsewhere childNotPath
        above := above₁.link pathDistinct
        distinct := nodup_refs_plug.mpr ⟨childDistinct, pathDistinct, childNotPath⟩
        allocated := by
          rw [RbTreeTree.fresh_link, fresh₁]
          exact allocated
        fresh := by
          rw [RbTreeTree.fresh_link, fresh₁]
          exact focused.fresh }
  · exact (RbTreeTree.load_link slotNotPath).trans (node₁.trans node.symm)
  · rw [mem_refs_plug, not_or]
    exact ⟨notChild, slotNotPath⟩

variable {fuel total : Nat}

/-- The colors of the node taken out decide whether the tree needs repair. -/
theorem repairRemoved {y : Ref} (focused : Focused tree nilParent path child)
    (linked : child = .nil → nilParent = parentRef path) (colorRead : tree.color y = some color)
    (balanced : Balanced .black total (path.plug (.join side color .nil slot child)))
    (enough : 2 * path.length + 1 < fuel) :
    ∃ tree' whole total, tree.repairRemoved fuel y (rootRef child) = some tree' ∧
      Focused tree' nilParent [] whole ∧ Balanced .black total whole ∧
      whole.items = (path.plug child).items := by
  cases color with
  | red =>
    rcases (of_unlink balanced).1 rfl with ⟨total, rest⟩
    refine ⟨tree, path.plug child, total, ?_, focused.whole, rest, rfl⟩
    simp [RbTreeTree.repairRemoved, colorRead]
  | black =>
    have work : Repair.workLeft path child < fuel := by
      unfold Repair.workLeft
      split <;> omega
    rcases focused.fixupRemove linked ((of_unlink balanced).2 rfl) work with
      ⟨tree', repaired, whole, total, focused', balanced', sameItems⟩
    refine ⟨tree', whole, total, ?_, focused', balanced', sameItems⟩
    simp [RbTreeTree.repairRemoved, colorRead, repaired]

/-- A node that is not in the tree may be deleted. -/
theorem free {focus : ColorTree (Slot Key Payload)} {ref : Ref}
    (focused : Focused tree nilParent path focus) (outside : ref ∉ refs (path.plug focus))
    (notNil : RbTreeTree.nil ≠ ref) : Focused (tree.free ref) nilParent path focus := by
  rw [mem_refs_plug, not_or] at outside
  exact
    { root := focused.root
      sentinel := (Function.update_of_ne notNil _ _).trans focused.sentinel
      below := focused.below.update outside.1
      above := focused.above.update outside.2
      distinct := focused.distinct
      allocated := focused.allocated
      fresh := focused.fresh }

/-- The key's node gets the data of its successor, from wherever the tree is seen. -/
theorem setData {inner outer : TreePath (Slot Key Payload)} {frame : Frame (Slot Key Payload)}
    {focus : ColorTree (Slot Key Payload)} (data : RbTreeData Key Payload)
    (focused : Focused tree nilParent (inner ++ frame :: outer) focus) :
    ∃ tree', tree.setData frame.item.ref (some data) = some tree' ∧
      Focused tree' nilParent
        (inner ++ { frame with item := ⟨frame.item.ref, data⟩ } :: outer) focus := by
  have atFrame := zoomOut.mp (zoomOut_append.mp focused)
  rcases atFrame.modify (fun node => { node with data := some data })
    (RbTreeNode.setData_make ..) with ⟨tree', changed, focused'⟩
  exact ⟨tree', changed, zoomOut_append.mpr (zoomOut.mpr focused')⟩

theorem onlyChild (focused : Focused tree nilParent path (.join side color .nil slot child)) :
    tree.onlyChild slot.ref = some (rootRef child) := by
  have near := focused.child_near
  have far := focused.child_far
  cases side with
  | left =>
    simp only [Side.flip] at far
    simp [RbTreeTree.onlyChild, near, far]
  | right =>
    simp only [Side.flip] at far
    by_cases missing : rootRef child = RbTreeTree.nil
    · simp [RbTreeTree.onlyChild, near, far, missing]
    · simp [RbTreeTree.onlyChild, far, missing]

/-- Removal at a node with at most one child. -/
theorem takeOut_self (focused : Focused tree nilParent path (.join side color .nil slot child))
    (balanced : Balanced .black total (path.plug (.join side color .nil slot child)))
    (enough : 2 * path.length + 1 < fuel) :
    ∃ tree' nilParent' whole total,
      tree.takeOut fuel slot.ref slot.ref = some (tree', some slot.data) ∧
      Focused tree' nilParent' [] whole ∧ Balanced .black total whole ∧
      contents whole = contents (path.plug child) := by
  have notNil := focused.nil_ne_slot
  rcases focused.unlink with
    ⟨tree₁, nilParent', unlinked, focused₁, linked, node, outside⟩
  rw [focused.load_join] at node
  have colorRead : tree₁.color slot.ref = some color := by simp [RbTreeTree.color, node]
  rcases focused₁.repairRemoved linked colorRead balanced enough with
    ⟨tree₂, whole, total', repaired, focused₂, balanced₂, sameItems⟩
  have outside₂ : slot.ref ∉ refs whole := by
    rwa [refs, sameItems]
  refine ⟨tree₂.free slot.ref, nilParent', whole, total', ?_, focused₂.free outside₂ notNil,
    balanced₂, ?_⟩
  · simp [RbTreeTree.takeOut, focused.onlyChild, unlinked, node, RbTreeTree.moveData, repaired]
  · rw [contents, contents, sameItems]

/-- Removal at a node whose successor has at most one child. -/
theorem takeOut_successor {inner outer : TreePath (Slot Key Payload)}
    {frame : Frame (Slot Key Payload)}
    (focused : Focused tree nilParent (inner ++ frame :: outer) (.join side color .nil slot child))
    (balanced : Balanced .black total
      (TreePath.plug (inner ++ frame :: outer) (.join side color .nil slot child)))
    (enough : 2 * (inner ++ frame :: outer).length + 1 < fuel) :
    ∃ tree' nilParent' whole total,
      tree.takeOut fuel frame.item.ref slot.ref = some (tree', some frame.item.data) ∧
      Focused tree' nilParent' [] whole ∧ Balanced .black total whole ∧
      contents whole = contents (TreePath.plug
        (inner ++ { frame with item := ⟨frame.item.ref, slot.data⟩ } :: outer) child) := by
  have notNil := focused.nil_ne_slot
  rcases focused.unlink with
    ⟨tree₁, nilParent', unlinked, focused₁, linked, node, outside⟩
  rw [focused.load_join] at node
  have zNode := (zoomOut.mp (zoomOut_append.mp focused₁)).load_join
  have different : slot.ref ≠ frame.item.ref := by
    intro same
    apply outside
    rw [same, TreePath.plug_append, TreePath.plug_cons, mem_refs_plug, Frame.fill, mem_refs_join]
    exact Or.inl (Or.inl rfl)
  rcases focused₁.setData slot.data with ⟨tree₂, moved, focused₂⟩
  have node₂ := (RbTreeTree.load_of_modify moved different).trans node
  have colorRead : tree₂.color slot.ref = some color := by simp [RbTreeTree.color, node₂]
  have linked₂ : child = .nil → nilParent' =
      parentRef (inner ++ { frame with item := ⟨frame.item.ref, slot.data⟩ } :: outer) := by
    intro missing
    rw [linked missing]
    cases inner <;> rfl
  rcases Context.balanced_plug_setItem ⟨frame.item.ref, slot.data⟩ balanced with
    ⟨total₂, balanced₂⟩
  rcases focused₂.repairRemoved linked₂ colorRead balanced₂ (by simpa using enough) with
    ⟨tree₃, whole, total₃, repaired, focused₃, balanced₃, sameItems⟩
  have outside₃ : slot.ref ∉ refs whole := by
    rw [refs, sameItems, ← refs]
    intro member
    apply outside
    simp only [TreePath.plug_append, TreePath.plug_cons, mem_refs_plug, Frame.fill, mem_refs_join]
      at member ⊢
    exact member
  refine ⟨tree₃.free slot.ref, nilParent', whole, total₃, ?_, focused₃.free outside₃ notNil,
    balanced₃, ?_⟩
  · simp [RbTreeTree.takeOut, focused.onlyChild, unlinked, zNode, RbTreeTree.moveData,
      different, node, moved, repaired]
  · rw [contents, contents, sameItems]

/-- Removal of the data at any node. -/
theorem removeNode {left right : ColorTree (Slot Key Payload)}
    (focused : Focused tree nilParent path (.join .left color left slot right))
    (balanced : Balanced .black total (path.plug (.join .left color left slot right)))
    (enough : 2 * (path.plug (.join .left color left slot right)).items.length + 1 < fuel) :
    ∃ y tree' nilParent' whole total, tree.removable fuel slot.ref = some y ∧
      tree.takeOut fuel slot.ref y = some (tree', some slot.data) ∧
      Focused tree' nilParent' [] whole ∧ Balanced .black total whole ∧
      contents whole = path.before.map Slot.data ++
        (contents left ++ (contents right ++ path.after.map Slot.data)) := by
  have leftRead := focused.child_near
  have rightRead := focused.child_far
  simp only [Side.flip] at rightRead
  have short := path.length_add_length_items (.join .left color left slot right)
  have shortPath : 2 * path.length + 1 < fuel := by omega
  by_cases leftMissing : left = .nil
  · subst leftMissing
    rcases focused.takeOut_self balanced shortPath with
      ⟨tree', nilParent', whole, total', taken, focused', balanced', same⟩
    refine ⟨slot.ref, tree', nilParent', whole, total', ?_, taken, focused', balanced', ?_⟩
    · simp [RbTreeTree.removable, leftRead, rightRead]
    · rw [same, contents_plug]
      rfl
  · by_cases rightMissing : right = .nil
    · subst rightMissing
      have mirrored : ColorTree.join .left color left slot .nil =
          ColorTree.join .right color .nil slot left := rfl
      rw [mirrored] at focused balanced
      rcases focused.takeOut_self balanced shortPath with
        ⟨tree', nilParent', whole, total', taken, focused', balanced', same⟩
      refine ⟨slot.ref, tree', nilParent', whole, total', ?_, taken, focused', balanced', ?_⟩
      · simp [RbTreeTree.removable, leftRead, rightRead]
      · rw [same, contents_plug]
        rfl
    · have leftPresent : rootRef left ≠ RbTreeTree.nil := by
        intro same
        exact leftMissing ((toNear.mp focused).rootRef_eq_nil.mp same)
      have rightFocused := toFar.mp focused
      have rightPresent : rootRef right ≠ RbTreeTree.nil := by
        intro same
        exact rightMissing (rightFocused.rootRef_eq_nil.mp same)
      have rightShort : right.items.length < fuel := by
        have inside := TreePath.length_add_length_items path (.join .left color left slot right)
        simp only [ColorTree.join, ColorTree.items, List.length_append, List.length_cons] at inside
        simp only [ColorTree.join] at enough
        omega
      rcases rightFocused.leftmost rightMissing rightShort with
        ⟨inner, yColor, y, child, walked, inside, first⟩
      subst inside
      have whole : TreePath.plug (inner ++ ⟨.right, color, slot, left⟩ :: path)
            (.join .left yColor .nil y child) =
          path.plug (.join .left color left slot
            (inner.plug (.join .left yColor .nil y child))) := TreePath.plug_append ..
      rw [← whole] at balanced enough
      have shortInner := TreePath.length_add_length_items
        (inner ++ ⟨.right, color, slot, left⟩ :: path) (.join .left yColor .nil y child)
      have shortPath : 2 * (inner ++ ⟨.right, color, slot, left⟩ :: path).length + 1 < fuel := by
        omega
      rcases (zoomOut_append.mpr rightFocused).takeOut_successor balanced shortPath with
        ⟨tree', nilParent', whole, total', taken, focused', balanced', same⟩
      refine ⟨y.ref, tree', nilParent', whole, total', ?_, taken, focused', balanced', ?_⟩
      · simp [RbTreeTree.removable, leftRead, rightRead, leftPresent, rightPresent, walked]
      · rw [same]
        simp [contents, TreePath.items_plug, TreePath.before_append, TreePath.after_append, TreePath.before,
          TreePath.after, Frame.before, Frame.after, Side.flip, ColorTree.join, ColorTree.items, first]

end Focused

end OpenDiameter.Utility
