import OpenDiameter.Utility.RbTreeRotate

/-!
`FixupInsert` raises the red node of a red-black tree with one more red leaf.
-/

namespace OpenDiameter.Utility

open Foundation

variable {Key Payload : Type}

namespace Focused

variable {tree : RbTreeTree Key Payload} {nilParent : Ref}
  {path : TreePath (Slot Key Payload)} {focus : ColorTree (Slot Key Payload)}

variable {frame : Frame (Slot Key Payload)}

/-- What the comparison of a node with a child of its parent tells. -/
theorem child_of_parent (focused : Focused tree nilParent (frame :: path) focus)
    (present : focus ≠ .nil ∨ frame.sibling ≠ .nil) (side : Side) :
    ∃ child, tree.child side frame.item.ref = some child ∧
      (rootRef focus = child ↔ side = frame.side) := by
  have parent := zoomOut.mp focused
  rcases side.eq_or_eq_flip frame.side with same | other
  · refine ⟨rootRef focus, ?_, by simp [same]⟩
    rw [same]
    exact parent.child_near
  · refine ⟨rootRef frame.sibling, ?_, ?_⟩
    · rw [other]
      exact parent.child_far
    · simp [other, focused.rootRef_ne_sibling present]

theorem parent_of_present (focused : Focused tree nilParent path focus)
    (present : focus ≠ .nil) : tree.parent (rootRef focus) = some (parentRef path) :=
  focused.parent_eq fun missing => absurd missing present

theorem parent_of_frame (focused : Focused tree nilParent (frame :: path) focus) :
    tree.parent frame.item.ref = some (parentRef path) := by
  have linked := (zoomOut.mp focused).parent_of_present (frame.fill_ne_nil focus)
  rwa [rootRef_fill] at linked

theorem color_of_frame (focused : Focused tree nilParent (frame :: path) focus) :
    tree.color frame.item.ref = some frame.color := by
  have colored := (zoomOut.mp focused).color_eq
  rwa [rootRef_fill, Frame.color_fill] at colored

variable {side : Side} {color : Color} {slot : Slot Key Payload}
  {sibling : ColorTree (Slot Key Payload)}

/-- Painting the parent of the focus. -/
theorem setColor_parent (color' : Color)
    (focused : Focused tree nilParent (⟨side, color, slot, sibling⟩ :: path) focus) :
    ∃ tree', tree.setColor slot.ref color' = some tree' ∧
      Focused tree' nilParent (⟨side, color', slot, sibling⟩ :: path) focus := by
  rcases (zoomOut.mp focused).setColor color' (Or.inl (by simp)) with
    ⟨tree', painted, focused'⟩
  rw [rootRef_fill] at painted
  rw [Frame.fill, ColorTree.paint_join] at focused'
  exact ⟨tree', painted, toNear.mp focused'⟩

/-- Painting the sibling of the focus. -/
theorem setColor_sibling (color' : Color)
    (focused : Focused tree nilParent (⟨side, color, slot, sibling⟩ :: path) focus)
    (paintable : sibling ≠ .nil ∨ color' = .black) :
    ∃ tree', tree.setColor (rootRef sibling) color' = some tree' ∧
      Focused tree' nilParent (⟨side, color, slot, sibling.paint color'⟩ :: path) focus := by
  rcases (acrossSibling.mp focused).setColor color' paintable with ⟨tree', painted, focused'⟩
  exact ⟨tree', painted, acrossSibling.mpr focused'⟩

/-- Painting the grandparent of the focus. -/
theorem setColor_grandparent (color' : Color)
    (focused : Focused tree nilParent (frame :: ⟨side, color, slot, sibling⟩ :: path) focus) :
    ∃ tree', tree.setColor slot.ref color' = some tree' ∧
      Focused tree' nilParent (frame :: ⟨side, color', slot, sibling⟩ :: path) focus := by
  rcases (zoomOut.mp focused).setColor_parent color' with ⟨tree', painted, focused'⟩
  exact ⟨tree', painted, zoomOut.mpr focused'⟩

/-!
The parts of the loop's body.
-/

theorem makeOuter_outer {parent : Slot Key Payload} {brother : ColorTree (Slot Key Payload)}
    (present : focus ≠ .nil)
    (focused : Focused tree nilParent (⟨side, color, parent, brother⟩ :: path) focus) :
    tree.makeOuter side (rootRef focus) = some (tree, rootRef focus) := by
  rcases focused.child_of_parent (Or.inl present) side.flip with ⟨child, read, same⟩
  have other : ¬ rootRef focus = child := fun equal => Side.flip_ne side (same.mp equal)
  simp only at read
  simp [RbTreeTree.makeOuter, focused.parent_of_present present, read, other]

theorem makeOuter_inner {parent slot : Slot Key Payload}
    {brother near far : ColorTree (Slot Key Payload)}
    (focused : Focused tree nilParent (⟨side.flip, .red, parent, brother⟩ :: path)
      (.join side .red near slot far)) :
    ∃ tree', tree.makeOuter side slot.ref = some (tree', parent.ref) ∧
      Focused tree' nilParent (⟨side, .red, slot, far⟩ :: path)
        (.join side .red brother parent near) := by
  rcases focused.child_of_parent (Or.inl (by simp)) side.flip with ⟨child, read, same⟩
  have linked := focused.parent_of_present (by simp)
  have whole := zoomOut.mp focused
  rw [Frame.fill, ColorTree.join_flip] at whole
  rcases whole.rotate with ⟨tree', rotated, focused'⟩
  have equal := same.mpr rfl
  rw [← equal] at read
  simp only [rootRef_join, parentRef_cons] at linked read
  refine ⟨tree', ?_, toNear.mp focused'⟩
  simp [RbTreeTree.makeOuter, linked, read, rotated]

theorem recolorAndRotate {parent grandparent : Slot Key Payload}
    {brother uncle : ColorTree (Slot Key Payload)} (present : focus ≠ .nil)
    (focused : Focused tree nilParent
      (⟨side, .red, parent, brother⟩ :: ⟨side, .black, grandparent, uncle⟩ :: path) focus) :
    ∃ tree', tree.recolorAndRotate side (rootRef focus) = some tree' ∧
      Focused tree' nilParent
        (⟨side, .black, parent, .join side .red brother grandparent uncle⟩ :: path) focus := by
  rcases focused.setColor_parent .black with ⟨tree₁, painted, focused₁⟩
  rcases focused₁.setColor_grandparent .red with ⟨tree₂, repainted, focused₂⟩
  have whole := zoomOut.mp (zoomOut.mp focused₂)
  simp only [Frame.fill, ← ColorTree.join_flip side] at whole
  rcases whole.rotate with ⟨tree₃, rotated, focused₃⟩
  simp only [ColorTree.join_flip] at focused₃
  refine ⟨tree₃, ?_, toNear.mp focused₃⟩
  simp [RbTreeTree.recolorAndRotate, focused.parent_of_present present, painted,
    focused₁.parent_of_present present, focused₁.parent_of_frame, repainted,
    focused₂.parent_of_present present, focused₂.parent_of_frame, rotated]

theorem recolorUncle {side side' : Side} {parent grandparent : Slot Key Payload}
    {brother uncle : ColorTree (Slot Key Payload)} (present : focus ≠ .nil)
    (focused : Focused tree nilParent
      (⟨side, .red, parent, brother⟩ :: ⟨side', .black, grandparent, uncle⟩ :: path) focus) :
    ∃ tree', tree.recolorUncle (rootRef focus) (rootRef uncle) =
        some (tree', grandparent.ref) ∧
      Focused tree' nilParent path
        (.join side' .red (.join side .black focus parent brother) grandparent
          (uncle.paint .black)) := by
  rcases focused.setColor_parent .black with ⟨tree₁, painted, focused₁⟩
  rcases (zoomOut.mp focused₁).setColor_sibling .black (Or.inr rfl) with
    ⟨tree₂, unclePainted, focused₂⟩
  have focused₂ := zoomOut.mpr focused₂
  rcases focused₂.setColor_grandparent .red with ⟨tree₃, repainted, focused₃⟩
  refine ⟨tree₃, ?_, zoomOut.mp (zoomOut.mp focused₃)⟩
  simp [RbTreeTree.recolorUncle, focused.parent_of_present present, painted, unclePainted,
    focused₂.parent_of_present present, focused₂.parent_of_frame, repainted,
    focused₃.parent_of_present present, focused₃.parent_of_frame]

/-- The body of the loop takes the step that the colors around call for. -/
theorem fixupInsertSide {frame grandparent : Frame (Slot Key Payload)}
    {path' : TreePath (Slot Key Payload)} {focus' : ColorTree (Slot Key Payload)}
    (present : focus ≠ .nil)
    (focused : Focused tree nilParent (frame :: grandparent :: path) focus)
    (raise : Raise (frame :: grandparent :: path) focus path' focus') :
    ∃ tree', tree.fixupInsertSide grandparent.side (rootRef focus) =
        some (tree', rootRef focus') ∧
      Focused tree' nilParent path' focus' := by
  have linked := focused.parent_of_present present
  have linkedTwice := focused.parent_of_frame
  have uncleRead := (zoomOut.mp (zoomOut.mp focused)).child_far
  have uncleColor := (acrossSibling.mp (zoomOut.mp focused)).color_eq
  simp only [parentRef_cons] at linked linkedTwice
  cases raise with
  | uncleRed uncleRed =>
    rcases focused.recolorUncle present with ⟨tree', recolored, focused'⟩
    refine ⟨tree', ?_, focused'⟩
    simp only at linked linkedTwice uncleRead uncleColor
    simp [RbTreeTree.fixupInsertSide, linked, linkedTwice, uncleRead, uncleColor, uncleRed,
      recolored]
  | outer uncleBlack =>
    rcases focused.recolorAndRotate present with ⟨tree', turned, focused'⟩
    refine ⟨tree', ?_, focused'⟩
    simp only at linked linkedTwice uncleRead uncleColor
    simp [RbTreeTree.fixupInsertSide, linked, linkedTwice, uncleRead, uncleColor, uncleBlack,
      focused.makeOuter_outer present, turned]
  | inner uncleBlack =>
    rcases focused.makeOuter_inner with ⟨tree₁, made, focused₁⟩
    rcases focused₁.recolorAndRotate (by simp) with ⟨tree', turned, focused'⟩
    refine ⟨tree', ?_, focused'⟩
    simp only [rootRef_join] at linked linkedTwice uncleRead uncleColor turned
    simp [RbTreeTree.fixupInsertSide, linked, linkedTwice, uncleRead, uncleColor, uncleBlack,
      made, turned]

/-- One pass of the loop is one step of the repair. -/
theorem fixupInsertPass_of_raise {path' : TreePath (Slot Key Payload)}
    {focus' : ColorTree (Slot Key Payload)} (present : focus ≠ .nil)
    (focused : Focused tree nilParent path focus) (raise : Raise path focus path' focus') :
    ∃ tree', RbTreeTree.fixupInsertPass (tree, rootRef focus) =
        some (.again [] (tree', rootRef focus')) ∧
      Focused tree' nilParent path' focus' := by
  have raised : ∃ frame grandparent rest, path = frame :: grandparent :: rest ∧
      frame.color = .red := by
    cases raise <;> exact ⟨_, _, _, rfl, rfl⟩
  rcases raised with ⟨frame, grandparent, rest, rfl, parentRed⟩
  rcases focused.fixupInsertSide present raise with ⟨tree', taken, focused'⟩
  have notRoot : rootRef focus ≠ tree.root := by
    intro same
    have whole := focused.rootRef_eq_root.mp same
    cases whole
  have linked := focused.parent_of_present present
  rcases (zoomOut.mp focused).child_of_parent (Or.inl (by simp)) .left with
    ⟨child, read, same⟩
  rw [rootRef_fill] at same
  simp only [parentRef_cons] at linked
  refine ⟨tree', ?_, focused'⟩
  cases side : grandparent.side with
  | left =>
    have equal := same.mpr side.symm
    rw [side] at taken
    rw [← equal] at read
    simp [RbTreeTree.fixupInsertPass, notRoot, linked, focused.color_of_frame, parentRed,
      focused.parent_of_frame, read, taken]
  | right =>
    have other : ¬ frame.item.ref = child := by
      intro equal
      have left := same.mp equal
      rw [side] at left
      cases left
    rw [side] at taken
    simp [RbTreeTree.fixupInsertPass, notRoot, linked, focused.color_of_frame, parentRed,
      focused.parent_of_frame, read, other, taken]

theorem whole (focused : Focused tree nilParent path focus) :
    Focused tree nilParent [] (path.plug focus) := by
  apply zoomOut_append.mp
  rwa [List.append_nil]

/-- At the root or below a black parent the loop is left. -/
theorem fixupInsertPass_of_settled (present : focus ≠ .nil)
    (focused : Focused tree nilParent path focus)
    (parentBlack : ∀ frame ∈ path.head?, frame.color = .black) :
    ∃ tree', RbTreeTree.fixupInsertPass (tree, rootRef focus) = some (.leave [] tree') ∧
      Focused tree' nilParent [] ((path.plug focus).paint .black) := by
  rcases focused.whole.setColor .black (Or.inr rfl) with ⟨tree', painted, focused'⟩
  have top : rootRef (path.plug focus) = tree.root := focused.whole.root.symm
  rw [top] at painted
  refine ⟨tree', ?_, focused'⟩
  cases path with
  | nil =>
    have atRoot : rootRef focus = tree.root := top
    simp [RbTreeTree.fixupInsertPass, atRoot, painted]
  | cons frame path =>
    have notRoot : rootRef focus ≠ tree.root := by
      intro same
      have whole := focused.rootRef_eq_root.mp same
      cases whole
    simp [RbTreeTree.fixupInsertPass, notRoot, focused.parent_of_present present,
      focused.color_of_frame, parentBlack frame rfl, painted]

/-- `FixupInsert` returns a red-black tree with the same nodes in the same order. -/
theorem fixupInsert {fuel : Nat} (focused : Focused tree nilParent path focus)
    (rising : Rising path focus) (enough : path.length < fuel) :
    ∃ tree', tree.fixupInsert fuel (rootRef focus) = some tree' ∧
      ∃ whole total, Focused tree' nilParent [] whole ∧ Balanced .black total whole ∧
        whole.items = (path.plug focus).items := by
  apply Loop.execute_of_bound
    (fun bound state => ∃ path' focus', path'.length = bound ∧
      state.2 = rootRef focus' ∧ Focused state.1 nilParent path' focus' ∧
      Rising path' focus' ∧ (path'.plug focus').items = (path.plug focus).items)
  · rintro bound ⟨tree, x⟩ ⟨path', focus', rfl, rfl, focused, rising, sameItems⟩
    have present : focus' ≠ .nil := by
      rcases rising with ⟨_, _, _, balanced⟩
      exact ColorTree.ne_nil_of_red balanced.color_eq
    by_cases parentBlack : ∀ frame ∈ path'.head?, frame.color = .black
    · rcases focused.fixupInsertPass_of_settled present parentBlack with
        ⟨tree', pass, focused'⟩
      rcases rising.settled parentBlack with ⟨total, balanced⟩
      refine Or.inl ⟨tree', pass, _, total, focused', balanced, ?_⟩
      rw [ColorTree.items_paint, sameItems]
    · cases path' with
      | nil => exact absurd (by simp) parentBlack
      | cons frame path' =>
        have parentRed : frame.color = .red := by
          cases color : frame.color with
          | red => rfl
          | black => exact absurd (by simp [color]) parentBlack
        rcases rising.exists_raise parentRed with ⟨path'', focus'', raise⟩
        rcases focused.fixupInsertPass_of_raise present raise with ⟨tree', pass, focused'⟩
        refine Or.inr ⟨_, _, pass, ⟨path'', focus'', rfl, rfl, focused',
          raise.rising rising, ?_⟩, raise.shorter⟩
        rw [raise.items_eq, sameItems]
  · exact ⟨path, focus, rfl, rfl, focused, rising, rfl⟩
  · exact enough

end Focused

end OpenDiameter.Utility
