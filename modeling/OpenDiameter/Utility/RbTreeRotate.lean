import OpenDiameter.Utility.RbTreeFocus

/-!
Links between a subtree and what is around it, and the rotation made of them.
-/

namespace OpenDiameter.Utility

open Foundation

variable {Key Payload : Type}

namespace RbTreeTree

/-- The tree after `child` has got a new parent link. -/
def hang (tree : RbTreeTree Key Payload) (parent : Ref) :
    ColorTree (Slot Key Payload) → RbTreeTree Key Payload
  | .nil => tree
  | .node color left slot right =>
    tree.write slot.ref ⟨rootRef left, rootRef right, parent, color, some slot.data⟩

/-- The tree after the last link of the path has been set to `child`. -/
def link (tree : RbTreeTree Key Payload) (child : Ref) :
    TreePath (Slot Key Payload) → RbTreeTree Key Payload
  | [] => { tree with root := child }
  | frame :: path =>
    tree.write frame.item.ref
      (.make frame.side child (rootRef frame.sibling) (parentRef path) frame.color
        (some frame.item.data))

variable {tree : RbTreeTree Key Payload} {parent hole child ref : Ref}
  {below : ColorTree (Slot Key Payload)} {path : TreePath (Slot Key Payload)}

theorem load_hang (elsewhere : ref ∉ refs below) :
    (tree.hang parent below).load ref = tree.load ref := by
  cases below with
  | nil => rfl
  | node color left slot right =>
    apply load_write_of_ne
    intro same
    apply elsewhere
    simp [refs, ColorTree.items, same]

@[simp] theorem root_hang : (tree.hang parent below).root = tree.root := by
  cases below <;> rfl

@[simp] theorem fresh_hang : (tree.hang parent below).fresh = tree.fresh := by
  cases below <;> rfl

theorem load_link (elsewhere : ref ∉ pathRefs path) :
    (tree.link child path).load ref = tree.load ref := by
  cases path with
  | nil => rfl
  | cons frame path =>
    apply load_write_of_ne
    intro same
    apply elsewhere
    simp [pathRefs, same]

theorem root_link (root : tree.root = topRef hole path) :
    (tree.link child path).root = topRef child path := by
  cases path with
  | nil => rfl
  | cons frame path => exact root

@[simp] theorem fresh_link : (tree.link child path).fresh = tree.fresh := by
  cases path <;> rfl

theorem adopt_eq {old : Ref} (laid : Laid tree.memory old below)
    (aboveNil : ∀ ref ∈ refs below, nil < ref) :
    tree.adopt (rootRef below) parent = some (tree.hang parent below) := by
  cases below with
  | nil => simp [adopt, hang]
  | node color left slot right =>
    have present : slot.ref ≠ nil := by
      apply Nat.ne_of_gt
      exact aboveNil _ (rootRef_mem (by simp))
    simp [adopt, rootRef, present, setParent_eq laid.1, hang]

/-- The path's last link is the root pointer when there is no parent. -/
theorem replaceChild_eq (side : Side) (laid : LaidPath tree.memory hole path)
    (apart : ∀ frame ∈ path.head?, frame.item.ref ≠ null ∧ hole ≠ rootRef frame.sibling) :
    tree.replaceChild side (parentRef path) hole child = some (tree.link child path) := by
  cases path with
  | nil => simp [replaceChild, link]
  | cons frame path =>
    rcases laid with ⟨node, _, _⟩
    rcases apart frame rfl with ⟨present, notSibling⟩
    rcases frame with ⟨frameSide, color, slot, sibling⟩
    simp only at node present notSibling
    rcases side.eq_or_eq_flip frameSide with rfl | rfl
    · simp [replaceChild, child_eq node, setChild_eq node, present, link]
    · simp [replaceChild, child_eq node, setChild_eq node, present, notSibling, link]

end RbTreeTree

variable {tree : RbTreeTree Key Payload}

theorem Laid.hang {parent parent' : Ref} {below : ColorTree (Slot Key Payload)}
    (laid : Laid tree.memory parent below) (distinct : (refs below).Nodup) :
    Laid (tree.hang parent' below).memory parent' below := by
  cases below with
  | nil => trivial
  | node color left slot right =>
    rcases laid with ⟨_, leftLaid, rightLaid⟩
    have apart : (refs (ColorTree.join .left color left slot right)).Nodup := distinct
    rcases nodup_refs_join.mp apart with ⟨⟨notLeft, notRight⟩, _⟩
    exact ⟨RbTreeTree.load_write, leftLaid.update notLeft, rightLaid.update notRight⟩

variable {path : TreePath (Slot Key Payload)}

theorem LaidPath.congr {memory memory' : Memory Key Payload} {hole : Ref}
    (laid : LaidPath memory hole path) (same : ∀ ref ∈ pathRefs path, memory' ref = memory ref) :
    LaidPath memory' hole path := by
  induction path generalizing hole with
  | nil => trivial
  | cons frame path induction =>
    rcases laid with ⟨node, sibling, above⟩
    simp only [pathRefs, List.cons_append, List.mem_cons, List.mem_append] at same
    refine ⟨?_, sibling.congr ?_, induction above ?_⟩
    · rw [same _ (Or.inl rfl), node]
    · exact fun ref inSibling => same ref (Or.inr (Or.inl inSibling))
    · exact fun ref inPath => same ref (Or.inr (Or.inr inPath))

theorem LaidPath.link {hole child : Ref} (laid : LaidPath tree.memory hole path)
    (distinct : (pathRefs path).Nodup) :
    LaidPath (tree.link child path).memory child path := by
  cases path with
  | nil => trivial
  | cons frame path =>
    rcases laid with ⟨_, sibling, above⟩
    simp only [pathRefs, List.cons_append, List.nodup_cons, List.mem_append, not_or]
      at distinct
    exact ⟨RbTreeTree.load_write, sibling.update distinct.1.1, above.update distinct.1.2⟩

theorem Laid.hangElsewhere {parent parent' : Ref} {other below : ColorTree (Slot Key Payload)}
    (laid : Laid tree.memory parent other) (apart : ∀ ref ∈ refs other, ref ∉ refs below) :
    Laid (tree.hang parent' below).memory parent other :=
  laid.congr fun ref member => RbTreeTree.load_hang (apart ref member)

theorem LaidPath.hangElsewhere {hole parent : Ref} {below : ColorTree (Slot Key Payload)}
    (laid : LaidPath tree.memory hole path) (apart : ∀ ref ∈ refs below, ref ∉ pathRefs path) :
    LaidPath (tree.hang parent below).memory hole path :=
  laid.congr fun ref inPath => RbTreeTree.load_hang fun inBelow => apart ref inBelow inPath

theorem Laid.linkElsewhere {parent child : Ref} {other : ColorTree (Slot Key Payload)}
    (laid : Laid tree.memory parent other) (apart : ∀ ref ∈ refs other, ref ∉ pathRefs path) :
    Laid (tree.link child path).memory parent other :=
  laid.congr fun ref member => RbTreeTree.load_link (apart ref member)

namespace Focused

variable {tree : RbTreeTree Key Payload} {nilParent : Ref}
  {path : TreePath (Slot Key Payload)} {side : Side} {color color' : Color}
  {slot farSlot : Slot Key Payload} {near middle far : ColorTree (Slot Key Payload)}

/-- The nearest frame is a node, and its link on the path is not its other one. -/
theorem frame_apart {focus : ColorTree (Slot Key Payload)}
    (focused : Focused tree nilParent path focus) (present : focus ≠ .nil) :
    ∀ frame ∈ path.head?, frame.item.ref ≠ null ∧ rootRef focus ≠ rootRef frame.sibling := by
  cases path with
  | nil => simp
  | cons head path =>
    intro frame first
    cases first
    constructor
    · exact Nat.ne_of_gt (Nat.lt_trans (by decide) focused.frame_nil_lt)
    · exact focused.rootRef_ne_sibling (Or.inl present)

/-- The statements of a rotation, each on the tree that the one before left. -/
theorem rotate_eq
    (focused : Focused tree nilParent path
      (.join side color near slot (.join side color' middle farSlot far))) :
    tree.rotate side slot.ref = some
      ((((((tree.write slot.ref (.make side (rootRef near) (rootRef middle) (parentRef path)
            color (some slot.data))).hang slot.ref middle).write farSlot.ref
          (.make side (rootRef middle) (rootRef far) (parentRef path) color'
            (some farSlot.data))).link farSlot.ref path).write farSlot.ref
        (.make side slot.ref (rootRef far) (parentRef path) color' (some farSlot.data))).write
      slot.ref (.make side (rootRef near) (rootRef middle) farSlot.ref color
        (some slot.data))) := by
  have slotNode := focused.load_join
  have farFocused := toFar.mp focused
  have farNode := farFocused.load_join
  have middleLaid := (laid_join.mp farFocused.below).2.1
  have linkApart := focused.frame_apart (by simp)
  have slotAboveNil := focused.nil_ne_slot
  have farAboveNil := farFocused.nil_ne_slot
  have above := focused.above
  have aboveNil := fun ref inMiddle => (focused.allocated ref (mem_refs_plug.mpr (Or.inl
    (mem_refs_join.mpr (Or.inr (Or.inr (mem_refs_join.mpr (Or.inr (Or.inl inMiddle))))))))).1
  rcases nodup_refs_plug.mp focused.distinct with ⟨distinct, _, apart⟩
  simp only [nodup_refs_join, mem_refs_join, not_or] at distinct apart
  rcases distinct with ⟨⟨_, notFar, slotNotMiddle, _⟩, _, ⟨⟨farNotMiddle, _⟩, _⟩, _⟩
  have slotNotPath := apart slot.ref (Or.inl rfl)
  have farNotPath := apart farSlot.ref (Or.inr (Or.inr (Or.inl rfl)))
  simp only [rootRef_join, parentRef_cons] at slotNode farNode linkApart above
  have lowered : tree.setChild side.flip slot.ref (rootRef middle) = some
      (tree.write slot.ref (.make side (rootRef near) (rootRef middle) (parentRef path) color
        (some slot.data))) := by
    rw [RbTreeTree.setChild_eq slotNode, RbTreeNode.setChild_flip_make]
  generalize lowerTree : tree.write slot.ref _ = tree₁ at lowered ⊢
  have slotNode₁ : tree₁.load slot.ref = some (.make side (rootRef near) (rootRef middle)
      (parentRef path) color (some slot.data)) := by
    rw [← lowerTree, RbTreeTree.load_write]
  have farNode₁ : tree₁.load farSlot.ref = some (.make side (rootRef middle) (rootRef far)
      slot.ref color' (some farSlot.data)) := by
    rw [← lowerTree, RbTreeTree.load_write_of_ne (Ne.symm notFar), farNode]
  have middleLaid₁ : Laid tree₁.memory farSlot.ref middle := by
    rw [← lowerTree]
    exact middleLaid.update slotNotMiddle
  have above₁ : LaidPath tree₁.memory slot.ref path := by
    rw [← lowerTree]
    exact above.update slotNotPath
  have hung : tree₁.adopt (rootRef middle) slot.ref = some (tree₁.hang slot.ref middle) :=
    RbTreeTree.adopt_eq middleLaid₁ aboveNil
  generalize hungTree : tree₁.hang slot.ref middle = tree₂ at hung ⊢
  have slotNode₂ : tree₂.load slot.ref = some (.make side (rootRef near) (rootRef middle)
      (parentRef path) color (some slot.data)) := by
    rw [← hungTree, RbTreeTree.load_hang slotNotMiddle, slotNode₁]
  have farNode₂ : tree₂.load farSlot.ref = some (.make side (rootRef middle) (rootRef far)
      slot.ref color' (some farSlot.data)) := by
    rw [← hungTree, RbTreeTree.load_hang farNotMiddle, farNode₁]
  have above₂ : LaidPath tree₂.memory slot.ref path := by
    rw [← hungTree]
    exact above₁.hangElsewhere fun ref inMiddle =>
      apart ref (Or.inr (Or.inr (Or.inr (Or.inl inMiddle))))
  have raised : tree₂.adopt farSlot.ref (parentRef path) = some (tree₂.write farSlot.ref
      (.make side (rootRef middle) (rootRef far) (parentRef path) color'
        (some farSlot.data))) := by
    rw [RbTreeTree.adopt, if_pos (Ne.symm farAboveNil), RbTreeTree.setParent_eq farNode₂,
      RbTreeNode.setParent_make]
  generalize raisedTree : tree₂.write farSlot.ref _ = tree₃ at raised ⊢
  have slotNode₃ : tree₃.load slot.ref = some (.make side (rootRef near) (rootRef middle)
      (parentRef path) color (some slot.data)) := by
    rw [← raisedTree, RbTreeTree.load_write_of_ne notFar, slotNode₂]
  have farNode₃ : tree₃.load farSlot.ref = some (.make side (rootRef middle) (rootRef far)
      (parentRef path) color' (some farSlot.data)) := by
    rw [← raisedTree, RbTreeTree.load_write]
  have above₃ : LaidPath tree₃.memory slot.ref path := by
    rw [← raisedTree]
    exact above₂.update farNotPath
  have linked : tree₃.replaceChild side (parentRef path) slot.ref farSlot.ref =
      some (tree₃.link farSlot.ref path) :=
    RbTreeTree.replaceChild_eq side above₃ linkApart
  generalize linkedTree : tree₃.link farSlot.ref path = tree₄ at linked ⊢
  have slotNode₄ : tree₄.load slot.ref = some (.make side (rootRef near) (rootRef middle)
      (parentRef path) color (some slot.data)) := by
    rw [← linkedTree, RbTreeTree.load_link slotNotPath, slotNode₃]
  have farNode₄ : tree₄.load farSlot.ref = some (.make side (rootRef middle) (rootRef far)
      (parentRef path) color' (some farSlot.data)) := by
    rw [← linkedTree, RbTreeTree.load_link farNotPath, farNode₃]
  have joined : tree₄.setChild side farSlot.ref slot.ref = some (tree₄.write farSlot.ref
      (.make side slot.ref (rootRef far) (parentRef path) color' (some farSlot.data))) := by
    rw [RbTreeTree.setChild_eq farNode₄, RbTreeNode.setChild_make]
  generalize joinedTree : tree₄.write farSlot.ref _ = tree₅ at joined ⊢
  have slotNode₅ : tree₅.load slot.ref = some (.make side (rootRef near) (rootRef middle)
      (parentRef path) color (some slot.data)) := by
    rw [← joinedTree, RbTreeTree.load_write_of_ne notFar, slotNode₄]
  have adopted : tree₅.adopt slot.ref farSlot.ref = some (tree₅.write slot.ref
      (.make side (rootRef near) (rootRef middle) farSlot.ref color (some slot.data))) := by
    rw [RbTreeTree.adopt, if_pos (Ne.symm slotAboveNil), RbTreeTree.setParent_eq slotNode₅,
      RbTreeNode.setParent_make]
  simp only [RbTreeTree.rotate, RbTreeTree.child_eq slotNode, RbTreeTree.child_eq farNode,
    RbTreeTree.child_eq farNode₁, RbTreeTree.parent_eq slotNode₂,
    RbTreeTree.parent_eq slotNode₃, RbTreeNode.child_make, RbTreeNode.child_flip_make,
    RbTreeNode.parent_make, lowered, hung, raised, linked, joined, adopted,
    Option.bind_eq_bind, Option.bind_some]

/-- A rotation turns the edge from the focus to its child on the other side. -/
theorem rotate
    (focused : Focused tree nilParent path
      (.join side color near slot (.join side color' middle farSlot far))) :
    ∃ tree', tree.rotate side slot.ref = some tree' ∧
      Focused tree' nilParent path
        (.join side color' (.join side color near slot middle) farSlot far) := by
  refine ⟨_, focused.rotate_eq, ?_⟩
  have slotAboveNil := focused.nil_ne_slot
  have farAboveNil := (toFar.mp focused).nil_ne_slot
  have sameItems := path.items_plug_congr
    (ColorTree.items_rotate side color color' color' color near slot middle farSlot far)
  have nilApart : ∀ ref, ref ∈ refs middle ∨ ref ∈ pathRefs path → RbTreeTree.nil ≠ ref := by
    intro ref member
    apply Nat.ne_of_lt
    apply (focused.allocated ref _).1
    simp only [mem_refs_plug, mem_refs_join]
    exact member.imp (fun inMiddle => .inr (.inr (.inr (.inl inMiddle)))) id
  have above := focused.above
  rcases laid_join.mp focused.below with ⟨_, nearLaid, farLaid⟩
  rcases laid_join.mp farLaid with ⟨_, middleLaid, farLaid⟩
  rcases nodup_refs_plug.mp focused.distinct with ⟨distinct, pathDistinct, apart⟩
  simp only [nodup_refs_join, mem_refs_join, not_or] at distinct apart
  rcases distinct with ⟨⟨slotNotNear, notFar, slotNotMiddle, slotNotFar⟩, _,
    ⟨⟨farNotMiddle, farNotFar⟩, middleDistinct, _, middleApartFar⟩, nearApart⟩
  have slotNotPath := apart slot.ref (Or.inl rfl)
  have farNotPath := apart farSlot.ref (Or.inr (Or.inr (Or.inl rfl)))
  have nearNotPath : ∀ ref ∈ refs near, ref ∉ pathRefs path :=
    fun ref inNear => apart ref (Or.inr (Or.inl inNear))
  have middleNotPath : ∀ ref ∈ refs middle, ref ∉ pathRefs path :=
    fun ref inMiddle => apart ref (Or.inr (Or.inr (Or.inr (Or.inl inMiddle))))
  have farPartNotPath : ∀ ref ∈ refs far, ref ∉ pathRefs path :=
    fun ref inFar => apart ref (Or.inr (Or.inr (Or.inr (Or.inr inFar))))
  have farNotNear : farSlot.ref ∉ refs near := fun inNear => (nearApart _ inNear).1 rfl
  have nearNotMiddle : ∀ ref ∈ refs near, ref ∉ refs middle :=
    fun ref inNear => (nearApart ref inNear).2.1
  have farPartNotMiddle : ∀ ref ∈ refs far, ref ∉ refs middle :=
    fun ref inFar inMiddle => middleApartFar ref inMiddle inFar
  have root := focused.root
  simp only [rootRef_join] at above root
  exact
    { root := by
        rw [rootRef_join]
        exact RbTreeTree.root_link (RbTreeTree.root_hang.trans root)
      sentinel := by
        have nilNotMiddle : RbTreeTree.nil ∉ refs middle :=
          fun inMiddle => nilApart _ (Or.inl inMiddle) rfl
        have nilNotPath : RbTreeTree.nil ∉ pathRefs path :=
          fun inPath => nilApart _ (Or.inr inPath) rfl
        rw [← focused.sentinel]
        apply (RbTreeTree.load_write_of_ne slotAboveNil).trans
        apply (RbTreeTree.load_write_of_ne farAboveNil).trans
        apply (RbTreeTree.load_link nilNotPath).trans
        apply (RbTreeTree.load_write_of_ne farAboveNil).trans
        apply (RbTreeTree.load_hang nilNotMiddle).trans
        exact RbTreeTree.load_write_of_ne slotAboveNil
      below := by
        rw [laid_join, laid_join, rootRef_join]
        refine ⟨?_, ⟨RbTreeTree.load_write, ?_, ?_⟩, ?_⟩
        · exact (RbTreeTree.load_write_of_ne (Ne.symm notFar)).trans RbTreeTree.load_write
        · exact (((((nearLaid.update slotNotNear).hangElsewhere nearNotMiddle).update
            farNotNear).linkElsewhere nearNotPath).update farNotNear).update slotNotNear
        · exact (((((middleLaid.update slotNotMiddle).hang middleDistinct).update
            farNotMiddle).linkElsewhere middleNotPath).update farNotMiddle).update slotNotMiddle
        · exact (((((farLaid.update slotNotFar).hangElsewhere farPartNotMiddle).update
            farNotFar).linkElsewhere farPartNotPath).update farNotFar).update slotNotFar
      above := by
        rw [rootRef_join]
        exact (((((above.update slotNotPath).hangElsewhere middleNotPath).update
          farNotPath).link pathDistinct).update farNotPath).update slotNotPath
      distinct := by
        rw [refs, ← sameItems]
        exact focused.distinct
      allocated := by
        rw [refs, ← sameItems]
        intro ref inTree
        simpa using focused.allocated ref inTree
      fresh := by simpa using focused.fresh }

end Focused

end OpenDiameter.Utility
