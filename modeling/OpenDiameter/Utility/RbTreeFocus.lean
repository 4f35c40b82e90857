import OpenDiameter.Utility.RbTreeLayout

/-!
The state of an `RbTreeTree` seen from a subtree, and what the writes of the
fixups do to it.
-/

namespace OpenDiameter.Utility

open Foundation

variable {Key Payload : Type}

/-- The memory holds the tree made of `path` and `focus`; the sentinel's parent
link, which only `Remove` uses, is `nilParent`. -/
structure Focused (tree : RbTreeTree Key Payload) (nilParent : Ref)
    (path : TreePath (Slot Key Payload)) (focus : ColorTree (Slot Key Payload)) : Prop where
  root : tree.root = topRef (rootRef focus) path
  sentinel : tree.memory RbTreeTree.nil =
    some ⟨RbTreeTree.nil, RbTreeTree.nil, nilParent, .black, none⟩
  below : Laid tree.memory (parentRef path) focus
  above : LaidPath tree.memory (rootRef focus) path
  distinct : (refs (path.plug focus)).Nodup
  allocated : ∀ ref ∈ refs (path.plug focus), RbTreeTree.nil < ref ∧ ref < tree.fresh
  fresh : RbTreeTree.nil < tree.fresh

namespace Focused

variable {tree : RbTreeTree Key Payload} {nilParent : Ref}
  {path : TreePath (Slot Key Payload)} {focus : ColorTree (Slot Key Payload)}

variable {frame : Frame (Slot Key Payload)}

theorem zoomOut :
    Focused tree nilParent (frame :: path) focus ↔
      Focused tree nilParent path (frame.fill focus) := by
  constructor
  · intro focused
    rcases focused.above with ⟨node, sibling, above⟩
    exact
      { root := by simpa [topRef] using focused.root
        sentinel := focused.sentinel
        below := laid_join.mpr ⟨node, focused.below, sibling⟩
        above := by simpa using above
        distinct := focused.distinct
        allocated := focused.allocated
        fresh := focused.fresh }
  · intro focused
    rcases laid_join.mp focused.below with ⟨node, below, sibling⟩
    exact
      { root := by simpa [topRef] using focused.root
        sentinel := focused.sentinel
        below := below
        above := ⟨node, sibling, by simpa using focused.above⟩
        distinct := focused.distinct
        allocated := focused.allocated
        fresh := focused.fresh }

theorem zoomOut_append {inner : TreePath (Slot Key Payload)} :
    Focused tree nilParent (inner ++ path) focus ↔
      Focused tree nilParent path (inner.plug focus) := by
  induction inner generalizing focus with
  | nil => rfl
  | cons frame inner induction => exact zoomOut.trans induction

variable {side : Side} {color : Color} {slot : Slot Key Payload}

/-- The sibling takes the place of the focus. -/
theorem acrossSibling {sibling : ColorTree (Slot Key Payload)} :
    Focused tree nilParent (⟨side, color, slot, sibling⟩ :: path) focus ↔
      Focused tree nilParent (⟨side.flip, color, slot, focus⟩ :: path) sibling := by
  rw [zoomOut, zoomOut, Frame.fill, Frame.fill, ColorTree.join_flip]

variable {near far : ColorTree (Slot Key Payload)}

/-- The focus goes down to the child on the given side. -/
theorem toNear :
    Focused tree nilParent path (.join side color near slot far) ↔
      Focused tree nilParent (⟨side, color, slot, far⟩ :: path) near := by
  rw [zoomOut, Frame.fill]

theorem toFar :
    Focused tree nilParent path (.join side color near slot far) ↔
      Focused tree nilParent (⟨side.flip, color, slot, near⟩ :: path) far :=
  toNear.trans acrossSibling

/-!
Reading at the focus.
-/

theorem load_join (focused : Focused tree nilParent path (.join side color near slot far)) :
    tree.load slot.ref = some (.make side (rootRef near) (rootRef far) (parentRef path) color
      (some slot.data)) :=
  (laid_join.mp focused.below).1

theorem child_near (focused : Focused tree nilParent path (.join side color near slot far)) :
    tree.child side slot.ref = some (rootRef near) := by
  simp [RbTreeTree.child, focused.load_join]

theorem child_far (focused : Focused tree nilParent path (.join side color near slot far)) :
    tree.child side.flip slot.ref = some (rootRef far) := by
  simp [RbTreeTree.child, focused.load_join]

/-- The parent link matches the child link, at the sentinel when it has been set
for a missing child. -/
theorem parent_eq (focused : Focused tree nilParent path focus)
    (linked : focus = .nil → nilParent = parentRef path) :
    tree.parent (rootRef focus) = some (parentRef path) := by
  cases focus with
  | nil => simp [RbTreeTree.parent, RbTreeTree.load, focused.sentinel, linked rfl]
  | node color left slot right =>
    simp [RbTreeTree.parent, RbTreeTree.load, rootRef, focused.below.1]

theorem color_eq (focused : Focused tree nilParent path focus) :
    tree.color (rootRef focus) = some focus.color := by
  cases focus with
  | nil => simp [RbTreeTree.color, RbTreeTree.load, focused.sentinel]
  | node color left slot right =>
    simp [RbTreeTree.color, RbTreeTree.load, rootRef, focused.below.1]

theorem data_join (focused : Focused tree nilParent path (.join side color near slot far)) :
    tree.data slot.ref = some slot.data := by
  simp [RbTreeTree.data, focused.load_join]

theorem nil_lt (focused : Focused tree nilParent path focus) (present : focus ≠ .nil) :
    RbTreeTree.nil < rootRef focus := by
  apply (focused.allocated _ _).1
  rw [mem_refs_plug]
  exact Or.inl (rootRef_mem present)

theorem nil_ne_slot (focused : Focused tree nilParent path (.join side color near slot far)) :
    RbTreeTree.nil ≠ slot.ref := by
  have above := focused.nil_lt (by simp)
  rw [rootRef_join] at above
  exact Nat.ne_of_lt above

theorem rootRef_eq_nil (focused : Focused tree nilParent path focus) :
    rootRef focus = RbTreeTree.nil ↔ focus = .nil := by
  constructor
  · intro same
    apply Classical.byContradiction
    intro present
    have above := focused.nil_lt present
    rw [same] at above
    exact Nat.lt_irrefl _ above
  · intro empty
    rw [empty, rootRef_nil]

theorem frame_nil_lt (focused : Focused tree nilParent (frame :: path) focus) :
    RbTreeTree.nil < frame.item.ref := by
  have parent := (zoomOut.mp focused).nil_lt (frame.fill_ne_nil focus)
  rwa [rootRef_fill] at parent

/-- A node and its sibling have different addresses unless both are missing. -/
theorem rootRef_ne_sibling (focused : Focused tree nilParent (frame :: path) focus)
    (present : focus ≠ .nil ∨ frame.sibling ≠ .nil) :
    rootRef focus ≠ rootRef frame.sibling := by
  intro same
  have sibling := acrossSibling.mp focused
  by_cases missing : focus = .nil
  · have siblingPresent := present.resolve_left (not_not.mpr missing)
    have above := sibling.nil_lt siblingPresent
    rw [← same, missing, rootRef_nil] at above
    exact Nat.lt_irrefl _ above
  · have siblingPresent : frame.sibling ≠ .nil := by
      intro empty
      have above := focused.nil_lt missing
      rw [same, empty, rootRef_nil] at above
      exact Nat.lt_irrefl _ above
    have apart := (nodup_refs_plug.mp (zoomOut.mp focused).distinct).1
    rw [Frame.fill, nodup_refs_join] at apart
    apply apart.2.2.2 _ (rootRef_mem missing)
    rw [same]
    exact rootRef_mem siblingPresent

theorem topRef_mem {hole : Ref} (notRoot : path ≠ []) : topRef hole path ∈ pathRefs path := by
  induction path generalizing hole with
  | nil => exact absurd rfl notRoot
  | cons frame path induction =>
    cases path with
    | nil => simp [topRef, pathRefs]
    | cons next rest =>
      rw [topRef, pathRefs, List.mem_append]
      apply Or.inr
      exact induction (by simp)

/-- Only the whole tree starts at the root. -/
theorem rootRef_eq_root (focused : Focused tree nilParent path focus) :
    rootRef focus = tree.root ↔ path = [] := by
  rw [focused.root]
  constructor
  · intro same
    apply Classical.byContradiction
    intro notRoot
    have inPath : rootRef focus ∈ pathRefs path := by
      rw [same]
      exact topRef_mem notRoot
    have apart := (nodup_refs_plug.mp focused.distinct).2.2
    by_cases missing : focus = .nil
    · have above := (focused.allocated _ (mem_refs_plug.mpr (Or.inr inPath))).1
      rw [missing, rootRef_nil] at above
      exact Nat.lt_irrefl _ above
    · exact apart _ (rootRef_mem missing) inPath
  · intro whole
    rw [whole]
    rfl

/-!
Writing at the focus.
-/

theorem modify {color color' : Color} {data' : RbTreeData Key Payload}
    (change : RbTreeNode Key Payload → RbTreeNode Key Payload)
    (focused : Focused tree nilParent path (.join side color near slot far))
    (changed : change (.make side (rootRef near) (rootRef far) (parentRef path) color
        (some slot.data)) =
      .make side (rootRef near) (rootRef far) (parentRef path) color' (some data')) :
    ∃ tree', tree.modify slot.ref change = some tree' ∧
      Focused tree' nilParent path (.join side color' near ⟨slot.ref, data'⟩ far) := by
  refine ⟨tree.write slot.ref (.make side (rootRef near) (rootRef far) (parentRef path)
    color' (some data')), ?_, ?_⟩
  · simp only [RbTreeTree.modify, focused.load_join, Option.map_some, changed]
  · have sameRefs : refs (.join side color' near ⟨slot.ref, data'⟩ far) =
        refs (.join side color near slot far) := by
      cases side <;> simp [refs, ColorTree.join, ColorTree.items]
    have samePlug : ∀ ref, ref ∈ refs (path.plug (.join side color' near ⟨slot.ref, data'⟩ far)) ↔
        ref ∈ refs (path.plug (.join side color near slot far)) := by
      intro ref
      rw [mem_refs_plug, mem_refs_plug, sameRefs]
    rcases nodup_refs_plug.mp focused.distinct with ⟨distinct, _, apart⟩
    rcases nodup_refs_join.mp distinct with ⟨⟨notNear, notFar⟩, _⟩
    rcases laid_join.mp focused.below with ⟨_, nearLaid, farLaid⟩
    exact
      { root := by simpa [RbTreeTree.write] using focused.root
        sentinel := by
          rw [← focused.sentinel]
          exact Function.update_of_ne focused.nil_ne_slot _ _
        below := by
          rw [laid_join]
          exact ⟨Function.update_self .., nearLaid.update notNear, farLaid.update notFar⟩
        above := by
          have above := focused.above
          simp only [rootRef_join] at above ⊢
          apply above.update
          exact apart _ (mem_refs_join.mpr (Or.inl rfl))
        distinct := by
          rw [nodup_refs_plug, sameRefs, ← nodup_refs_plug]
          exact focused.distinct
        allocated := fun ref inTree => focused.allocated ref ((samePlug ref).mp inTree)
        fresh := focused.fresh }

/-- Painting the focus; the sentinel is black already. -/
theorem setColor (color : Color) (focused : Focused tree nilParent path focus)
    (paintable : focus ≠ .nil ∨ color = .black) :
    ∃ tree', tree.setColor (rootRef focus) color = some tree' ∧
      Focused tree' nilParent path (focus.paint color) := by
  cases focus with
  | nil =>
    have black := paintable.resolve_left (not_not.mpr rfl)
    refine ⟨tree, ?_, focused⟩
    have unchanged := Function.update_eq_self RbTreeTree.nil tree.memory
    rw [focused.sentinel] at unchanged
    simp [RbTreeTree.setColor, RbTreeTree.modify, RbTreeTree.load, RbTreeTree.write,
      focused.sentinel, black, unchanged]
  | node old left slot right =>
    exact modify _ (show Focused tree nilParent path (.join .left old left slot right) from
      focused) rfl

end Focused

end OpenDiameter.Utility
