namespace OpenDiameter.Foundation

/-!
Binary trees with a color at every node, seen from either side, and the path
from a subtree up to the root.
-/

inductive Color where
  | black
  | red
deriving Repr, DecidableEq

inductive Side where
  | left
  | right
deriving Repr, DecidableEq

def Side.flip : Side → Side
  | .left => .right
  | .right => .left

@[simp] theorem Side.flip_flip (side : Side) : side.flip.flip = side := by
  cases side <;> rfl

@[simp] theorem Side.flip_ne (side : Side) : side.flip ≠ side := by
  cases side <;> decide

theorem Side.eq_or_eq_flip (side other : Side) : side = other ∨ side = other.flip := by
  cases side <;> cases other <;> decide

inductive ColorTree (Item : Type) where
  | nil
  | node (color : Color) (left : ColorTree Item) (item : Item) (right : ColorTree Item)
deriving Repr, DecidableEq

namespace ColorTree

variable {Item : Type}

/-- The empty tree counts as black. -/
def color : ColorTree Item → Color
  | nil => .black
  | node color _ _ _ => color

def paint (color : Color) : ColorTree Item → ColorTree Item
  | nil => nil
  | node _ left item right => node color left item right

def items : ColorTree Item → List Item
  | nil => []
  | node _ left item right => left.items ++ item :: right.items

/-- The nodes on the longest path down. -/
def depth : ColorTree Item → Nat
  | .nil => 0
  | .node _ left _ right => max left.depth right.depth + 1

/-- The node whose child on the given side is `near`. -/
def join (side : Side) (color : Color) (near : ColorTree Item) (item : Item)
    (far : ColorTree Item) : ColorTree Item :=
  match side with
  | .left => node color near item far
  | .right => node color far item near

@[simp] theorem color_nil : (nil : ColorTree Item).color = .black := rfl

@[simp] theorem color_node (color : Color) (left : ColorTree Item) (item : Item)
    (right : ColorTree Item) : (node color left item right).color = color := rfl

@[simp] theorem color_join (side : Side) (color : Color) (near : ColorTree Item)
    (item : Item) (far : ColorTree Item) : (join side color near item far).color = color := by
  cases side <;> rfl

@[simp] theorem paint_join (side : Side) (color paint : Color) (near : ColorTree Item)
    (item : Item) (far : ColorTree Item) :
    (join side color near item far).paint paint = join side paint near item far := by
  cases side <;> rfl

@[simp] theorem items_paint (color : Color) (tree : ColorTree Item) :
    (tree.paint color).items = tree.items := by
  cases tree <;> rfl

@[simp] theorem paint_color (tree : ColorTree Item) : tree.paint tree.color = tree := by
  cases tree <;> rfl

@[simp] theorem join_ne_nil (side : Side) (color : Color) (near : ColorTree Item)
    (item : Item) (far : ColorTree Item) : join side color near item far ≠ nil := by
  cases side <;> simp [join]

theorem join_flip (side : Side) (color : Color) (near : ColorTree Item) (item : Item)
    (far : ColorTree Item) :
    join side.flip color near item far = join side color far item near := by
  cases side <;> rfl

/-- A tree that is not empty is a node seen from any side. -/
theorem exists_join (side : Side) {tree : ColorTree Item} (present : tree ≠ nil) :
    ∃ near item far, tree = join side tree.color near item far := by
  cases tree with
  | nil => exact absurd rfl present
  | node color left item right =>
    cases side with
    | left => exact ⟨left, item, right, rfl⟩
    | right => exact ⟨right, item, left, rfl⟩

theorem ne_nil_of_red {tree : ColorTree Item} (red : tree.color = .red) : tree ≠ nil := by
  intro empty
  rw [empty] at red
  cases red

/-- Turning the edge between a node and its far child changes no order. -/
theorem items_rotate (side : Side) (outer inner outer' inner' : Color)
    (near : ColorTree Item) (item : Item) (middle : ColorTree Item) (farItem : Item)
    (far : ColorTree Item) :
    (join side outer near item (join side inner middle farItem far)).items =
      (join side outer' (join side inner' near item middle) farItem far).items := by
  cases side <;> simp [join, items]

theorem items_recolor (side : Side) (color color' : Color) (near near' : ColorTree Item)
    (item : Item) (far far' : ColorTree Item) (nearItems : near.items = near'.items)
    (farItems : far.items = far'.items) :
    (join side color near item far).items = (join side color' near' item far').items := by
  cases side <;> simp [join, items, nearItems, farItems]

end ColorTree

/-- A node on the way to a subtree: the subtree is its child on `side`. -/
structure Frame (Item : Type) where
  side : Side
  color : Color
  item : Item
  sibling : ColorTree Item
deriving Repr, DecidableEq

/-- The frames from a subtree up to the root. -/
abbrev TreePath (Item : Type) := List (Frame Item)

namespace Frame

variable {Item : Type}

def fill (frame : Frame Item) (tree : ColorTree Item) : ColorTree Item :=
  .join frame.side frame.color tree frame.item frame.sibling

def before (frame : Frame Item) : List Item :=
  match frame.side with
  | .left => []
  | .right => frame.sibling.items ++ [frame.item]

def after (frame : Frame Item) : List Item :=
  match frame.side with
  | .left => frame.item :: frame.sibling.items
  | .right => []

theorem items_fill (frame : Frame Item) (tree : ColorTree Item) :
    (frame.fill tree).items = frame.before ++ tree.items ++ frame.after := by
  rcases frame with ⟨side, color, item, sibling⟩
  cases side <;> simp [fill, before, after, ColorTree.join, ColorTree.items]

theorem length_items_lt (frame : Frame Item) (tree : ColorTree Item) :
    tree.items.length < (frame.fill tree).items.length := by
  rcases frame with ⟨side, color, item, sibling⟩
  cases side <;> simp [fill, ColorTree.join, ColorTree.items] <;> omega

theorem depth_lt (frame : Frame Item) (tree : ColorTree Item) :
    tree.depth < (frame.fill tree).depth := by
  rcases frame with ⟨side, color, item, sibling⟩
  cases side <;> simp only [fill, ColorTree.join, ColorTree.depth] <;> omega

@[simp] theorem color_fill (frame : Frame Item) (tree : ColorTree Item) :
    (frame.fill tree).color = frame.color :=
  ColorTree.color_join ..

@[simp] theorem fill_ne_nil (frame : Frame Item) (tree : ColorTree Item) :
    frame.fill tree ≠ .nil := by
  simp [fill]

end Frame

namespace TreePath

variable {Item : Type}

/-- The whole tree around a subtree. -/
def plug : TreePath Item → ColorTree Item → ColorTree Item
  | [], tree => tree
  | frame :: path, tree => plug path (frame.fill tree)

def before : TreePath Item → List Item
  | [] => []
  | frame :: path => before path ++ frame.before

def after : TreePath Item → List Item
  | [] => []
  | frame :: path => frame.after ++ after path

@[simp] theorem plug_nil (tree : ColorTree Item) : plug [] tree = tree := rfl

@[simp] theorem plug_cons (frame : Frame Item) (path : TreePath Item) (tree : ColorTree Item) :
    plug (frame :: path) tree = plug path (frame.fill tree) := rfl

theorem plug_append (inner outer : TreePath Item) (tree : ColorTree Item) :
    plug (inner ++ outer) tree = plug outer (plug inner tree) := by
  induction inner generalizing tree with
  | nil => rfl
  | cons frame inner induction => exact induction (frame.fill tree)

theorem plug_ne_nil (path : TreePath Item) {tree : ColorTree Item} (present : tree ≠ .nil) :
    plug path tree ≠ .nil := by
  induction path generalizing tree with
  | nil => exact present
  | cons frame path induction => exact induction (frame.fill_ne_nil tree)

theorem items_plug (path : TreePath Item) (tree : ColorTree Item) :
    (plug path tree).items = before path ++ tree.items ++ after path := by
  induction path generalizing tree with
  | nil => simp [before, after]
  | cons frame path induction =>
    simp [induction, before, after, Frame.items_fill]

/-- Replacing a subtree by one with the same items changes no order. -/
theorem items_plug_congr (path : TreePath Item) {tree tree' : ColorTree Item}
    (same : tree.items = tree'.items) :
    (plug path tree).items = (plug path tree').items := by
  rw [items_plug, items_plug, same]

theorem before_append (inner outer : TreePath Item) :
    before (inner ++ outer) = before outer ++ before inner := by
  induction inner with
  | nil => simp [before]
  | cons frame inner induction => simp [before, induction]

theorem after_append (inner outer : TreePath Item) :
    after (inner ++ outer) = after inner ++ after outer := by
  induction inner with
  | nil => rfl
  | cons frame inner induction => simp [after, induction]

/-- Every path is shorter than the tree around it is large. -/
theorem length_add_length_items (path : TreePath Item) (tree : ColorTree Item) :
    path.length + tree.items.length ≤ (plug path tree).items.length := by
  induction path generalizing tree with
  | nil => simp
  | cons frame path induction =>
    have longer := frame.length_items_lt tree
    have rest := induction (frame.fill tree)
    simp only [List.length_cons, plug_cons]
    omega

end TreePath

end OpenDiameter.Foundation
