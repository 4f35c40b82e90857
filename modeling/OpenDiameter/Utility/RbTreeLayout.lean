import OpenDiameter.Foundation.RedBlack
import OpenDiameter.Utility.RbTree

/-!
How a colored tree is laid out in the memory of an `RbTreeTree`, seen from one
of its subtrees: the subtree below, the path above, and the sentinel beside them.
-/

namespace OpenDiameter.Utility

open Foundation

variable {Key Payload : Type}

/-- A node of the abstract tree: its address and the data it points to. -/
structure Slot (Key Payload : Type) where
  ref : Ref
  data : RbTreeData Key Payload

abbrev Memory (Key Payload : Type) := Ref → Option (RbTreeNode Key Payload)

/-- A node seen from one side. -/
def RbTreeNode.make (side : Side) (near far parent : Ref) (color : Color)
    (data : Option (RbTreeData Key Payload)) : RbTreeNode Key Payload :=
  match side with
  | .left => ⟨near, far, parent, color, data⟩
  | .right => ⟨far, near, parent, color, data⟩

namespace RbTreeNode

variable (side : Side) (near far up other : Ref) (paint otherPaint : Color)
  (content otherContent : Option (RbTreeData Key Payload))

@[simp] theorem child_make :
    (make side near far up paint content).child side = near := by
  cases side <;> rfl

@[simp] theorem child_flip_make :
    (make side near far up paint content).child side.flip = far := by
  cases side <;> rfl

@[simp] theorem setChild_make :
    (make side near far up paint content).setChild side other =
      make side other far up paint content := by
  cases side <;> rfl

@[simp] theorem setChild_flip_make :
    (make side near far up paint content).setChild side.flip other =
      make side near other up paint content := by
  cases side <;> rfl

@[simp] theorem parent_make : (make side near far up paint content).parent = up := by
  cases side <;> rfl

@[simp] theorem color_make : (make side near far up paint content).color = paint := by
  cases side <;> rfl

@[simp] theorem data_make : (make side near far up paint content).data = content := by
  cases side <;> rfl

@[simp] theorem setParent_make :
    { make side near far up paint content with parent := other } =
      make side near far other paint content := by
  cases side <;> rfl

@[simp] theorem setColor_make :
    { make side near far up paint content with color := otherPaint } =
      make side near far up otherPaint content := by
  cases side <;> rfl

@[simp] theorem setData_make :
    { make side near far up paint content with data := otherContent } =
      make side near far up paint otherContent := by
  cases side <;> rfl

end RbTreeNode

namespace RbTreeTree

variable {tree : RbTreeTree Key Payload} {ref other : Ref}
  {node : RbTreeNode Key Payload}

@[simp] theorem load_write : (tree.write ref node).load ref = some node :=
  Function.update_self ..

theorem load_write_of_ne (different : other ≠ ref) :
    (tree.write ref node).load other = tree.load other :=
  Function.update_of_ne different _ _

@[simp] theorem root_write : (tree.write ref node).root = tree.root := rfl

@[simp] theorem fresh_write : (tree.write ref node).fresh = tree.fresh := rfl

theorem setChild_eq {side : Side} {child : Ref} (loaded : tree.load ref = some node) :
    tree.setChild side ref child = some (tree.write ref (node.setChild side child)) := by
  simp [setChild, modify, loaded]

theorem setParent_eq {parent : Ref} (loaded : tree.load ref = some node) :
    tree.setParent ref parent = some (tree.write ref { node with parent := parent }) := by
  simp [setParent, modify, loaded]

theorem child_eq {side : Side} (loaded : tree.load ref = some node) :
    tree.child side ref = some (node.child side) := by
  simp [child, loaded]

theorem parent_eq (loaded : tree.load ref = some node) :
    tree.parent ref = some node.parent := by
  simp [parent, loaded]

theorem load_of_modify {tree' : RbTreeTree Key Payload}
    {change : RbTreeNode Key Payload → RbTreeNode Key Payload}
    (modified : tree.modify ref change = some tree') (different : other ≠ ref) :
    tree'.load other = tree.load other := by
  rcases Option.map_eq_some_iff.mp modified with ⟨node, _, rfl⟩
  exact load_write_of_ne different

end RbTreeTree

/-- The pointer to a tree: its root's address, or the sentinel. -/
def rootRef : ColorTree (Slot Key Payload) → Ref
  | .nil => RbTreeTree.nil
  | .node _ _ slot _ => slot.ref

@[simp] theorem rootRef_nil : rootRef (.nil : ColorTree (Slot Key Payload)) = RbTreeTree.nil :=
  rfl

@[simp] theorem rootRef_join (side : Side) (color : Color) (slot : Slot Key Payload)
    (near far : ColorTree (Slot Key Payload)) :
    rootRef (.join side color near slot far) = slot.ref := by
  cases side <;> rfl

@[simp] theorem rootRef_fill (frame : Frame (Slot Key Payload))
    (tree : ColorTree (Slot Key Payload)) : rootRef (frame.fill tree) = frame.item.ref := by
  simp [Frame.fill]

@[simp] theorem rootRef_paint (color : Color) (tree : ColorTree (Slot Key Payload)) :
    rootRef (tree.paint color) = rootRef tree := by
  cases tree <;> rfl

def parentRef : TreePath (Slot Key Payload) → Ref
  | [] => null
  | frame :: _ => frame.item.ref

@[simp] theorem parentRef_nil : parentRef ([] : TreePath (Slot Key Payload)) = null := rfl

@[simp] theorem parentRef_cons (frame : Frame (Slot Key Payload))
    (path : TreePath (Slot Key Payload)) : parentRef (frame :: path) = frame.item.ref := rfl

/-- The root of the whole tree when the path ends at `hole`. -/
def topRef (hole : Ref) : TreePath (Slot Key Payload) → Ref
  | [] => hole
  | frame :: path => topRef frame.item.ref path

/-!
The addresses of a tree and of a path.
-/

def refs (tree : ColorTree (Slot Key Payload)) : List Ref :=
  tree.items.map Slot.ref

def pathRefs : TreePath (Slot Key Payload) → List Ref
  | [] => []
  | frame :: path => frame.item.ref :: refs frame.sibling ++ pathRefs path

@[simp] theorem refs_nil : refs (.nil : ColorTree (Slot Key Payload)) = [] := rfl

theorem refs_join_perm (side : Side) (color : Color) (slot : Slot Key Payload)
    (near far : ColorTree (Slot Key Payload)) :
    (refs (.join side color near slot far)).Perm (slot.ref :: (refs near ++ refs far)) := by
  cases side with
  | left =>
    simp only [refs, ColorTree.join, ColorTree.items, List.map_append, List.map_cons]
    exact List.perm_middle
  | right =>
    simp only [refs, ColorTree.join, ColorTree.items, List.map_append, List.map_cons]
    exact List.perm_middle.trans (.cons _ List.perm_append_comm)

theorem refs_plug_perm (path : TreePath (Slot Key Payload)) (tree : ColorTree (Slot Key Payload)) :
    (refs (path.plug tree)).Perm (refs tree ++ pathRefs path) := by
  induction path generalizing tree with
  | nil => simp [pathRefs]
  | cons frame path induction =>
    have filled := refs_join_perm frame.side frame.color frame.item tree frame.sibling
    apply (induction (frame.fill tree)).trans
    apply (filled.append_right _).trans
    simp only [pathRefs, List.cons_append, List.append_assoc]
    exact List.perm_middle.symm

@[simp] theorem mem_refs_join {side : Side} {color : Color} {slot : Slot Key Payload}
    {near far : ColorTree (Slot Key Payload)} {ref : Ref} :
    ref ∈ refs (.join side color near slot far) ↔
      ref = slot.ref ∨ ref ∈ refs near ∨ ref ∈ refs far := by
  rw [(refs_join_perm ..).mem_iff]
  simp

@[simp] theorem mem_refs_plug {path : TreePath (Slot Key Payload)}
    {tree : ColorTree (Slot Key Payload)} {ref : Ref} :
    ref ∈ refs (path.plug tree) ↔ ref ∈ refs tree ∨ ref ∈ pathRefs path := by
  rw [(refs_plug_perm ..).mem_iff]
  simp

variable {slot : Slot Key Payload}

theorem nodup_refs_join {side : Side} {color : Color} {near far : ColorTree (Slot Key Payload)} :
    (refs (.join side color near slot far)).Nodup ↔
      (slot.ref ∉ refs near ∧ slot.ref ∉ refs far) ∧
        (refs near).Nodup ∧ (refs far).Nodup ∧ ∀ ref ∈ refs near, ref ∉ refs far := by
  rw [(refs_join_perm ..).nodup_iff]
  simp only [List.nodup_cons, List.mem_append, not_or, List.nodup_append]
  constructor
  · rintro ⟨slotFree, near, far, apart⟩
    exact ⟨slotFree, near, far, fun ref inNear inFar => apart ref inNear ref inFar rfl⟩
  · rintro ⟨slotFree, near, far, apart⟩
    refine ⟨slotFree, near, far, ?_⟩
    rintro ref inNear _ inFar rfl
    exact apart ref inNear inFar

variable {tree : ColorTree (Slot Key Payload)}

theorem nodup_refs_plug {path : TreePath (Slot Key Payload)} :
    (refs (path.plug tree)).Nodup ↔
      (refs tree).Nodup ∧ (pathRefs path).Nodup ∧ ∀ ref ∈ refs tree, ref ∉ pathRefs path := by
  rw [(refs_plug_perm ..).nodup_iff, List.nodup_append]
  constructor
  · rintro ⟨tree, path, apart⟩
    exact ⟨tree, path, fun ref inTree inPath => apart ref inTree ref inPath rfl⟩
  · rintro ⟨tree, path, apart⟩
    refine ⟨tree, path, ?_⟩
    rintro ref inTree _ inPath rfl
    exact apart ref inTree inPath

theorem rootRef_mem (present : tree ≠ .nil) :
    rootRef tree ∈ refs tree := by
  cases tree with
  | nil => exact absurd rfl present
  | node color left slot right => simp [refs, rootRef, ColorTree.items]

/-- The data in the order of the tree. -/
def contents (tree : ColorTree (Slot Key Payload)) : List (RbTreeData Key Payload) :=
  tree.items.map Slot.data

theorem contents_plug (path : TreePath (Slot Key Payload)) (tree : ColorTree (Slot Key Payload)) :
    contents (path.plug tree) =
      path.before.map Slot.data ++ (contents tree ++ path.after.map Slot.data) := by
  simp [contents, TreePath.items_plug]

/-!
The memory holds a node for every slot, with the links of the tree.
-/

def Laid (memory : Memory Key Payload) : Ref → ColorTree (Slot Key Payload) → Prop
  | _, .nil => True
  | parent, .node color left slot right =>
    memory slot.ref = some ⟨rootRef left, rootRef right, parent, color, some slot.data⟩ ∧
      Laid memory slot.ref left ∧ Laid memory slot.ref right

def LaidPath (memory : Memory Key Payload) : Ref → TreePath (Slot Key Payload) → Prop
  | _, [] => True
  | hole, frame :: path =>
    memory frame.item.ref = some (.make frame.side hole (rootRef frame.sibling)
        (parentRef path) frame.color (some frame.item.data)) ∧
      Laid memory frame.item.ref frame.sibling ∧ LaidPath memory frame.item.ref path

@[simp] theorem laid_nil (memory : Memory Key Payload) (parent : Ref) :
    Laid memory parent .nil :=
  trivial

variable {memory : Memory Key Payload}

theorem laid_join {parent : Ref} {side : Side} {color : Color}
    {near far : ColorTree (Slot Key Payload)} :
    Laid memory parent (.join side color near slot far) ↔
      memory slot.ref = some (.make side (rootRef near) (rootRef far) parent color
          (some slot.data)) ∧
        Laid memory slot.ref near ∧ Laid memory slot.ref far := by
  cases side with
  | left => rfl
  | right => exact and_congr_right fun _ => and_comm

theorem Laid.congr {memory memory' : Memory Key Payload} {parent : Ref}
    (laid : Laid memory parent tree) (same : ∀ ref ∈ refs tree, memory' ref = memory ref) :
    Laid memory' parent tree := by
  induction tree generalizing parent with
  | nil => trivial
  | node color left slot right leftInduction rightInduction =>
    rcases laid with ⟨root, leftLaid, rightLaid⟩
    simp only [refs, ColorTree.items, List.map_append, List.map_cons, List.mem_append,
      List.mem_cons] at same
    refine ⟨?_, leftInduction leftLaid ?_, rightInduction rightLaid ?_⟩
    · rw [same _ (Or.inr (Or.inl rfl)), root]
    · exact fun ref inLeft => same ref (Or.inl inLeft)
    · exact fun ref inRight => same ref (Or.inr (Or.inr inRight))

theorem Laid.update {parent ref : Ref} {node : Option (RbTreeNode Key Payload)}
    (laid : Laid memory parent tree) (elsewhere : ref ∉ refs tree) :
    Laid (Function.update memory ref node) parent tree := by
  apply laid.congr
  intro other inTree
  apply Function.update_of_ne
  intro same
  exact elsewhere (same ▸ inTree)

theorem Laid.data_of_mem {parent : Ref} (laid : Laid memory parent tree)
    (member : slot ∈ tree.items) :
    ∃ node, memory slot.ref = some node ∧ node.data = some slot.data := by
  induction tree generalizing parent with
  | nil => cases member
  | node color left item right leftInduction rightInduction =>
    rcases laid with ⟨root, leftLaid, rightLaid⟩
    simp only [ColorTree.items, List.mem_append, List.mem_cons] at member
    rcases member with inLeft | rfl | inRight
    · exact leftInduction leftLaid inLeft
    · exact ⟨_, root, rfl⟩
    · exact rightInduction rightLaid inRight

theorem LaidPath.update {hole ref : Ref} {path : TreePath (Slot Key Payload)}
    {node : Option (RbTreeNode Key Payload)} (laid : LaidPath memory hole path)
    (elsewhere : ref ∉ pathRefs path) :
    LaidPath (Function.update memory ref node) hole path := by
  induction path generalizing hole with
  | nil => trivial
  | cons frame path induction =>
    rcases laid with ⟨node, sibling, above⟩
    simp only [pathRefs, List.cons_append, List.mem_cons, List.mem_append, not_or]
      at elsewhere
    refine ⟨?_, sibling.update elsewhere.2.1, induction above elsewhere.2.2⟩
    rw [Function.update_of_ne (Ne.symm elsewhere.1), node]

end OpenDiameter.Utility
