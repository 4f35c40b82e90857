import OpenDiameter.Utility.RbTreeInsert

/-!
`FixupRemove` supplies the black node that the paths through a subtree lack. The
subtree may be the sentinel, whose parent link then leads up like any other.
-/

namespace OpenDiameter.Utility

open Foundation

variable {Key Payload : Type}

namespace Focused

variable {tree : RbTreeTree Key Payload} {nilParent : Ref}
  {path : TreePath (Slot Key Payload)} {focus : ColorTree (Slot Key Payload)}
  {side : Side} {color siblingColor : Color} {parent sibling : Slot Key Payload}
  {near far : ColorTree (Slot Key Payload)}

/-!
The parts of the loop's body.
-/

theorem child_of_sibling
    (focused : Focused tree nilParent
      (⟨side, color, parent, .join side siblingColor near sibling far⟩ :: path) focus) :
    tree.child side sibling.ref = some (rootRef near) ∧
      tree.child side.flip sibling.ref = some (rootRef far) ∧
      tree.color (rootRef near) = some near.color ∧
      tree.color (rootRef far) = some far.color ∧
      tree.color sibling.ref = some siblingColor := by
  have atSibling := acrossSibling.mp focused
  have colored := atSibling.color_eq
  rw [rootRef_join, ColorTree.color_join] at colored
  exact ⟨atSibling.child_near, atSibling.child_far, (toNear.mp atSibling).color_eq,
    (toFar.mp atSibling).color_eq, colored⟩

theorem exposeBlack_red (linked : focus = .nil → nilParent = parent.ref)
    (focused : Focused tree nilParent
      (⟨side, .black, parent, .join side .red near sibling far⟩ :: path) focus) :
    ∃ tree', tree.exposeBlack side (rootRef focus) sibling.ref =
        some (tree', rootRef near) ∧
      Focused tree' nilParent
        (⟨side, .red, parent, near⟩ :: ⟨side, .black, sibling, far⟩ :: path) focus := by
  rcases focused.setColor_sibling .black (Or.inr rfl) with ⟨tree₁, painted, focused₁⟩
  rcases focused₁.setColor_parent .red with ⟨tree₂, repainted, focused₂⟩
  simp only [ColorTree.paint_join] at focused₁ focused₂
  rcases (zoomOut.mp focused₂).rotate with ⟨tree₃, rotated, focused₃⟩
  have focused' := toNear.mp (toNear.mp focused₃)
  rw [rootRef_join] at painted
  have read := (toNear.mp focused₃).child_far
  simp only at rotated read
  refine ⟨tree₃, ?_, focused'⟩
  simp [RbTreeTree.exposeBlack, focused.child_of_sibling, painted, focused₁.parent_eq linked,
    repainted, focused₂.parent_eq linked, rotated, focused'.parent_eq linked, read]

theorem exposeBlack_black {x : Ref} (siblingBlack : siblingColor = .black)
    (focused : Focused tree nilParent
      (⟨side, color, parent, .join side siblingColor near sibling far⟩ :: path) focus) :
    tree.exposeBlack side x sibling.ref = some (tree, sibling.ref) := by
  simp [RbTreeTree.exposeBlack, focused.child_of_sibling, siblingBlack]

theorem makeFarRed_near {nearNear nearFar : ColorTree (Slot Key Payload)}
    {nearSlot : Slot Key Payload} (linked : focus = .nil → nilParent = parent.ref)
    (farBlack : far.color = .black)
    (focused : Focused tree nilParent
      (⟨side, color, parent,
        .join side .black (.join side .red nearNear nearSlot nearFar) sibling far⟩ :: path)
      focus) :
    ∃ tree', tree.makeFarRed side (rootRef focus) sibling.ref = some (tree', nearSlot.ref) ∧
      Focused tree' nilParent
        (⟨side, color, parent,
          .join side .black nearNear nearSlot (.join side .red nearFar sibling far)⟩ :: path)
        focus := by
  rcases (toNear.mp (acrossSibling.mp focused)).setColor .black (Or.inr rfl) with
    ⟨tree₁, painted, focused₁⟩
  have atSibling₁ := toNear.mpr focused₁
  rcases atSibling₁.setColor .red (Or.inl (by simp)) with ⟨tree₂, repainted, focused₂⟩
  simp only [ColorTree.paint_join, ← ColorTree.join_flip side] at focused₂
  rcases focused₂.rotate with ⟨tree₃, rotated, focused₃⟩
  simp only [ColorTree.join_flip side] at focused₃
  have focused' := acrossSibling.mpr focused₃
  rw [rootRef_join] at painted repainted
  have read := (zoomOut.mp focused').child_far
  simp only [rootRef_join] at read
  refine ⟨tree₃, ?_, focused'⟩
  have reads := focused.child_of_sibling
  simp [RbTreeTree.makeFarRed, reads, farBlack, painted, repainted, rotated,
    focused'.parent_eq linked, read]

theorem makeFarRed_far {x : Ref} (farRed : far.color = .red)
    (focused : Focused tree nilParent
      (⟨side, color, parent, .join side siblingColor near sibling far⟩ :: path) focus) :
    tree.makeFarRed side x sibling.ref = some (tree, sibling.ref) := by
  simp [RbTreeTree.makeFarRed, focused.child_of_sibling, farRed]

theorem takeFromFar (linked : focus = .nil → nilParent = parent.ref)
    (focused : Focused tree nilParent
      (⟨side, color, parent, .join side siblingColor near sibling far⟩ :: path) focus) :
    ∃ tree', tree.takeFromFar side (rootRef focus) sibling.ref = some tree' ∧
      Focused tree' nilParent path
        (.join side color (.join side .black focus parent near) sibling
          (far.paint .black)) := by
  rcases focused.setColor_sibling color (Or.inl (by simp)) with ⟨tree₁, painted, focused₁⟩
  rcases focused₁.setColor_parent .black with ⟨tree₂, repainted, focused₂⟩
  simp only [ColorTree.paint_join] at focused₁ focused₂
  rcases (toFar.mp (acrossSibling.mp focused₂)).setColor .black (Or.inr rfl) with
    ⟨tree₃, farPainted, focused₃⟩
  have atParent := acrossSibling.mpr (toFar.mpr focused₃)
  rcases (zoomOut.mp atParent).rotate with ⟨tree₄, rotated, focused₄⟩
  rw [rootRef_join] at painted
  have colored := focused.color_of_frame
  simp only at rotated colored
  refine ⟨tree₄, ?_, focused₄⟩
  simp [RbTreeTree.takeFromFar, focused.parent_eq linked, colored, painted,
    focused₁.parent_eq linked, repainted, focused₂.child_of_sibling, farPainted,
    atParent.parent_eq linked, rotated]

theorem root_eq_rootRef (focused : Focused tree nilParent path focus) :
    tree.root = rootRef (path.plug focus) :=
  focused.whole.root

variable {path' : TreePath (Slot Key Payload)} {focus' : ColorTree (Slot Key Payload)}

/-- The body of the loop below a black sibling. -/
theorem absorbBlack {frame : Frame (Slot Key Payload)}
    (focused : Focused tree nilParent (frame :: path) focus)
    (linked : focus = .nil → nilParent = frame.item.ref)
    (absorb : Absorb (frame :: path) focus path' focus') :
    ∃ tree', tree.absorbBlack frame.side (rootRef focus) (rootRef frame.sibling) =
        some (tree', rootRef focus') ∧
      Focused tree' nilParent path' focus' := by
  cases absorb with
  | bothBlack nearBlack farBlack =>
    rcases focused.setColor_sibling .red (Or.inl (by simp)) with ⟨tree', painted, focused'⟩
    have reads := focused.child_of_sibling
    rw [rootRef_join] at painted
    rw [ColorTree.paint_join] at focused'
    refine ⟨tree', ?_, zoomOut.mp focused'⟩
    simp [RbTreeTree.absorbBlack, reads, nearBlack, farBlack, painted,
      focused'.parent_eq linked]
  | farRed farRed =>
    rcases focused.takeFromFar linked with ⟨tree', taken, focused'⟩
    have reads := focused.child_of_sibling
    refine ⟨tree', ?_, focused'.whole⟩
    simp [RbTreeTree.absorbBlack, reads, farRed, focused.makeFarRed_far farRed, taken,
      focused'.root_eq_rootRef]
  | nearRed farBlack =>
    rcases focused.makeFarRed_near linked farBlack with ⟨tree₁, made, focused₁⟩
    rcases focused₁.takeFromFar linked with ⟨tree', taken, focused'⟩
    rw [ColorTree.paint_join] at focused'
    have reads := focused.child_of_sibling
    simp only [rootRef_join, ColorTree.color_join] at reads
    refine ⟨tree', ?_, focused'.whole⟩
    simp [RbTreeTree.absorbBlack, reads, made, taken, focused'.root_eq_rootRef]

/-- The body of the loop is one step of the repair. -/
theorem fixupRemoveSide {frame : Frame (Slot Key Payload)}
    (linked : focus = .nil → nilParent = frame.item.ref)
    (focused : Focused tree nilParent (frame :: path) focus)
    (repair : Repair (frame :: path) focus path' focus') :
    ∃ tree', tree.fixupRemoveSide frame.side (rootRef focus) =
        some (tree', rootRef focus') ∧
      Focused tree' nilParent path' focus' := by
  have parentRead := focused.parent_eq linked
  have siblingRead := (zoomOut.mp focused).child_far
  rw [parentRef_cons] at parentRead
  cases repair with
  | direct absorb =>
    rcases focused.absorbBlack linked absorb with ⟨tree', absorbed, focused'⟩
    have exposed : tree.exposeBlack frame.side (rootRef focus) (rootRef frame.sibling) =
        some (tree, rootRef frame.sibling) := by
      cases absorb <;> rw [rootRef_join] <;> exact focused.exposeBlack_black rfl
    refine ⟨tree', ?_, focused'⟩
    simp [RbTreeTree.fixupRemoveSide, parentRead, siblingRead, exposed, absorbed]
  | exposed exposed absorb =>
    cases exposed with
    | turn =>
      rcases focused.exposeBlack_red linked with ⟨tree₁, turned, focused₁⟩
      rcases focused₁.absorbBlack linked absorb with ⟨tree', absorbed, focused'⟩
      simp only [rootRef_join] at parentRead siblingRead absorbed
      refine ⟨tree', ?_, focused'⟩
      simp [RbTreeTree.fixupRemoveSide, parentRead, siblingRead, turned, absorbed]

theorem fixupRemovePass_of_repair (black : focus.color = .black)
    (linked : focus = .nil → nilParent = parentRef path)
    (focused : Focused tree nilParent path focus) (repair : Repair path focus path' focus') :
    ∃ tree', RbTreeTree.fixupRemovePass (tree, rootRef focus) =
        some (.again [] (tree', rootRef focus')) ∧
      Focused tree' nilParent path' focus' := by
  have sibling : ∃ frame rest, path = frame :: rest ∧ frame.sibling ≠ .nil := by
    cases repair with
    | direct absorb => cases absorb <;> exact ⟨_, _, rfl, by simp⟩
    | exposed exposed _ =>
      cases exposed
      exact ⟨_, _, rfl, by simp⟩
  rcases sibling with ⟨frame, rest, rfl, siblingPresent⟩
  rcases focused.fixupRemoveSide linked repair with ⟨tree', taken, focused'⟩
  have notRoot : rootRef focus ≠ tree.root := by
    intro same
    have whole := focused.rootRef_eq_root.mp same
    cases whole
  have parentRead := focused.parent_eq linked
  have colorRead := focused.color_eq
  rcases focused.child_of_parent (Or.inr siblingPresent) .left with ⟨child, read, same⟩
  rw [parentRef_cons] at parentRead
  refine ⟨tree', ?_, focused'⟩
  cases side : frame.side with
  | left =>
    have equal := same.mpr side.symm
    rw [side] at taken
    rw [← equal] at read
    simp [RbTreeTree.fixupRemovePass, notRoot, colorRead, black, parentRead, read, taken]
  | right =>
    have other : ¬ rootRef focus = child := by
      intro equal
      have left := same.mp equal
      rw [side] at left
      cases left
    rw [side] at taken
    simp [RbTreeTree.fixupRemovePass, notRoot, colorRead, black, parentRead, read, other,
      taken]

/-- At the root or at a red node the loop is left. -/
theorem fixupRemovePass_of_settled (focused : Focused tree nilParent path focus)
    (settled : path = [] ∨ focus.color = .red) :
    ∃ tree', RbTreeTree.fixupRemovePass (tree, rootRef focus) = some (.leave [] tree') ∧
      Focused tree' nilParent path (focus.paint .black) := by
  rcases focused.setColor .black (Or.inr rfl) with ⟨tree', painted, focused'⟩
  refine ⟨tree', ?_, focused'⟩
  have colorRead := focused.color_eq
  rcases settled with atRoot | red
  · have same := focused.rootRef_eq_root.mpr atRoot
    rw [same] at painted colorRead
    simp [RbTreeTree.fixupRemovePass, same, colorRead, painted]
  · simp [RbTreeTree.fixupRemovePass, colorRead, red, painted]

/-- `FixupRemove` returns a red-black tree with the same nodes in the same order. -/
theorem fixupRemove {fuel : Nat} (linked : focus = .nil → nilParent = parentRef path)
    (focused : Focused tree nilParent path focus) (lacking : Lacking path focus)
    (enough : Repair.workLeft path focus < fuel) :
    ∃ tree', tree.fixupRemove fuel (rootRef focus) = some tree' ∧
      ∃ whole total, Focused tree' nilParent [] whole ∧ Balanced .black total whole ∧
        whole.items = (path.plug focus).items := by
  apply Loop.execute_of_bound
    (fun bound state => ∃ path' focus', Repair.workLeft path' focus' = bound ∧
      state.2 = rootRef focus' ∧ Focused state.1 nilParent path' focus' ∧
      (focus' = .nil → nilParent = parentRef path') ∧ Lacking path' focus' ∧
      (path'.plug focus').items = (path.plug focus).items)
  · rintro bound ⟨tree, x⟩ ⟨path', focus', rfl, rfl, focused, linked, lacking, sameItems⟩
    by_cases settled : path' = [] ∨ focus'.color = .red
    · rcases focused.fixupRemovePass_of_settled settled with ⟨tree', pass, focused'⟩
      rcases lacking.settled settled with ⟨total, balanced⟩
      refine Or.inl ⟨tree', pass, _, total, focused'.whole, balanced, ?_⟩
      rw [← sameItems]
      exact TreePath.items_plug_congr _ (ColorTree.items_paint ..)
    · rcases not_or.mp settled with ⟨notRoot, notRed⟩
      have black : focus'.color = .black := by
        cases color : focus'.color with
        | red => exact absurd color notRed
        | black => rfl
      cases path' with
      | nil => exact absurd rfl notRoot
      | cons frame path' =>
        rcases lacking.exists_repair black with ⟨path'', focus'', repair⟩
        rcases focused.fixupRemovePass_of_repair black linked repair with
          ⟨tree', pass, focused'⟩
        refine Or.inr ⟨_, _, pass, ⟨path'', focus'', rfl, rfl, focused', ?_,
          repair.lacking lacking black, ?_⟩, repair.workLeft_lt black⟩
        · exact fun missing => absurd missing repair.ne_nil
        · rw [repair.items_eq, sameItems]
  · exact ⟨path, focus, rfl, rfl, focused, linked, lacking, rfl⟩
  · exact enough

end Focused

end OpenDiameter.Utility
