import Mathlib.Logic.Function.Basic
import Mathlib.Order.Lattice
import OpenDiameter.Foundation.ColoredTree
import OpenDiameter.Foundation.Loop

/-!
The red-black tree of `od_utl_rbtree`. Its nodes live in a memory and point to
each other; where the source has a branch for the left side and its mirror image
for the right side, one definition takes the side.
-/

namespace OpenDiameter.Utility

open Foundation

/-- An address in the tree's memory. -/
abbrev Ref := Nat

def null : Ref := 0

structure RbTreeData (Key Payload : Type) where
  key : Key
  payload : Payload
deriving Repr, DecidableEq

structure RbTreeNode (Key Payload : Type) where
  left : Ref
  right : Ref
  parent : Ref
  color : Color
  data : Option (RbTreeData Key Payload)
deriving Repr, DecidableEq

namespace RbTreeNode

variable {Key Payload : Type}

def child (side : Side) (node : RbTreeNode Key Payload) : Ref :=
  match side with
  | .left => node.left
  | .right => node.right

def setChild (side : Side) (child : Ref) (node : RbTreeNode Key Payload) :
    RbTreeNode Key Payload :=
  match side with
  | .left => { node with left := child }
  | .right => { node with right := child }

end RbTreeNode

/-- The nodes that are allocated, and the next address that `new` returns. -/
structure RbTreeTree (Key Payload : Type) where
  root : Ref
  memory : Ref → Option (RbTreeNode Key Payload)
  fresh : Ref

namespace RbTreeTree

variable {Key Payload : Type}

/-- The sentinel node that stands for every missing child. -/
def nil : Ref := 1

def empty : RbTreeTree Key Payload :=
  { root := nil
    memory := Function.update (fun _ => none) nil (some ⟨nil, nil, null, .black, none⟩)
    fresh := 2 }

/-!
Reading or writing through a pointer fails when nothing is allocated there, as
it is at the null pointer.
-/

def load (tree : RbTreeTree Key Payload) (ref : Ref) : Option (RbTreeNode Key Payload) :=
  tree.memory ref

def child (side : Side) (tree : RbTreeTree Key Payload) (ref : Ref) : Option Ref :=
  (tree.load ref).map (RbTreeNode.child side)

def parent (tree : RbTreeTree Key Payload) (ref : Ref) : Option Ref :=
  (tree.load ref).map RbTreeNode.parent

def color (tree : RbTreeTree Key Payload) (ref : Ref) : Option Color :=
  (tree.load ref).map RbTreeNode.color

/-- The data a node points to, where the source compares it. -/
def data (tree : RbTreeTree Key Payload) (ref : Ref) : Option (RbTreeData Key Payload) :=
  (tree.load ref).bind RbTreeNode.data

def write (tree : RbTreeTree Key Payload) (ref : Ref) (node : RbTreeNode Key Payload) :
    RbTreeTree Key Payload :=
  { tree with memory := Function.update tree.memory ref (some node) }

def modify (tree : RbTreeTree Key Payload) (ref : Ref)
    (change : RbTreeNode Key Payload → RbTreeNode Key Payload) :
    Option (RbTreeTree Key Payload) :=
  (tree.load ref).map fun node => tree.write ref (change node)

def setChild (side : Side) (tree : RbTreeTree Key Payload) (ref child : Ref) :
    Option (RbTreeTree Key Payload) :=
  tree.modify ref (RbTreeNode.setChild side child)

def setParent (tree : RbTreeTree Key Payload) (ref parent : Ref) :
    Option (RbTreeTree Key Payload) :=
  tree.modify ref fun node => { node with parent := parent }

def setColor (tree : RbTreeTree Key Payload) (ref : Ref) (color : Color) :
    Option (RbTreeTree Key Payload) :=
  tree.modify ref fun node => { node with color := color }

def setData (tree : RbTreeTree Key Payload) (ref : Ref)
    (data : Option (RbTreeData Key Payload)) : Option (RbTreeTree Key Payload) :=
  tree.modify ref fun node => { node with data := data }

/-- `new` and the assignments to the five members that follow it. -/
def allocate (tree : RbTreeTree Key Payload) (node : RbTreeNode Key Payload) :
    RbTreeTree Key Payload :=
  { tree.write tree.fresh node with fresh := tree.fresh + 1 }

/-- `delete`. -/
def free (tree : RbTreeTree Key Payload) (ref : Ref) : RbTreeTree Key Payload :=
  { tree with memory := Function.update tree.memory ref none }

/-- The link from `parent` down to `old` goes to `new`; without a parent `new`
becomes the root. The source looks at the child on `side` first. -/
def replaceChild (side : Side) (tree : RbTreeTree Key Payload) (parent old new : Ref) :
    Option (RbTreeTree Key Payload) := do
  if parent ≠ null then
    if old = (← tree.child side parent) then tree.setChild side parent new
    else tree.setChild side.flip parent new
  else return { tree with root := new }

/-- The parent link of a node is set, the sentinel's is left alone. -/
def adopt (tree : RbTreeTree Key Payload) (ref parent : Ref) :
    Option (RbTreeTree Key Payload) :=
  if ref ≠ nil then tree.setParent ref parent else some tree

/-- The node `x` goes down to `side` and its other child takes its place. -/
def rotate (side : Side) (tree : RbTreeTree Key Payload) (x : Ref) :
    Option (RbTreeTree Key Payload) := do
  let y ← tree.child side.flip x
  let tree ← tree.setChild side.flip x (← tree.child side y)
  let tree ← tree.adopt (← tree.child side y) x
  let tree ← tree.adopt y (← tree.parent x)
  let tree ← tree.replaceChild side (← tree.parent x) x y
  let tree ← tree.setChild side y x
  tree.adopt x y

def rotateLeft (tree : RbTreeTree Key Payload) (x : Ref) : Option (RbTreeTree Key Payload) :=
  tree.rotate .left x

def rotateRight (tree : RbTreeTree Key Payload) (x : Ref) : Option (RbTreeTree Key Payload) :=
  tree.rotate .right x

/-!
The loop of `FixupInsert`.
-/

/-- A node on the far side of its red parent is turned into a child on `side`. -/
def makeOuter (side : Side) (tree : RbTreeTree Key Payload) (x : Ref) :
    Option (RbTreeTree Key Payload × Ref) := do
  if x = (← tree.child side.flip (← tree.parent x)) then
    let x ← tree.parent x
    return (← tree.rotate side x, x)
  else return (tree, x)

/-- The parent becomes black and is turned into the place of the grandparent. -/
def recolorAndRotate (side : Side) (tree : RbTreeTree Key Payload) (x : Ref) :
    Option (RbTreeTree Key Payload) := do
  let tree ← tree.setColor (← tree.parent x) .black
  let tree ← tree.setColor (← tree.parent (← tree.parent x)) .red
  tree.rotate side.flip (← tree.parent (← tree.parent x))

/-- Parent and uncle `y` become black and the grandparent red. -/
def recolorUncle (tree : RbTreeTree Key Payload) (x y : Ref) :
    Option (RbTreeTree Key Payload × Ref) := do
  let tree ← tree.setColor (← tree.parent x) .black
  let tree ← tree.setColor y .black
  let tree ← tree.setColor (← tree.parent (← tree.parent x)) .red
  return (tree, ← tree.parent (← tree.parent x))

/-- The body of the loop when the parent of `x` is the child on `side` of the
grandparent. -/
def fixupInsertSide (side : Side) (tree : RbTreeTree Key Payload) (x : Ref) :
    Option (RbTreeTree Key Payload × Ref) := do
  let y ← tree.child side.flip (← tree.parent (← tree.parent x))
  if (← tree.color y) = .red then tree.recolorUncle x y
  else
    let (tree, x) ← tree.makeOuter side x
    return (← tree.recolorAndRotate side x, x)

def fixupInsertPass (state : RbTreeTree Key Payload × Ref) :
    Option (Pass (RbTreeTree Key Payload × Ref) Empty (RbTreeTree Key Payload)) := do
  let (tree, x) := state
  if x = tree.root then return .leave [] (← tree.setColor tree.root .black)
  let parent ← tree.parent x
  if (← tree.color parent) = .red then
    if parent = (← tree.child .left (← tree.parent parent)) then
      return .again [] (← tree.fixupInsertSide .left x)
    else return .again [] (← tree.fixupInsertSide .right x)
  else return .leave [] (← tree.setColor tree.root .black)

def fixupInsert (fuel : Nat) (tree : RbTreeTree Key Payload) (x : Ref) :
    Option (RbTreeTree Key Payload) :=
  Loop.execute fixupInsertPass fuel (tree, x)

/-!
The loop of `FixupRemove`.
-/

/-- A red sibling `w` changes places with the parent of `x`; the result is the
sibling afterwards. -/
def exposeBlack (side : Side) (tree : RbTreeTree Key Payload) (x w : Ref) :
    Option (RbTreeTree Key Payload × Ref) := do
  if (← tree.color w) = .red then
    let tree ← tree.setColor w .black
    let tree ← tree.setColor (← tree.parent x) .red
    let tree ← tree.rotate side (← tree.parent x)
    return (tree, ← tree.child side.flip (← tree.parent x))
  else return (tree, w)

/-- With a black far nephew the near one is turned into the sibling. -/
def makeFarRed (side : Side) (tree : RbTreeTree Key Payload) (x w : Ref) :
    Option (RbTreeTree Key Payload × Ref) := do
  if (← tree.color (← tree.child side.flip w)) = .black then
    let tree ← tree.setColor (← tree.child side w) .black
    let tree ← tree.setColor w .red
    let tree ← tree.rotate side.flip w
    return (tree, ← tree.child side.flip (← tree.parent x))
  else return (tree, w)

/-- The sibling `w` takes the place and color of the parent; its red child on the
far side becomes black. -/
def takeFromFar (side : Side) (tree : RbTreeTree Key Payload) (x w : Ref) :
    Option (RbTreeTree Key Payload) := do
  let tree ← tree.setColor w (← tree.color (← tree.parent x))
  let tree ← tree.setColor (← tree.parent x) .black
  let tree ← tree.setColor (← tree.child side.flip w) .black
  tree.rotate side (← tree.parent x)

/-- The rest of the body, where the sibling `w` is black. -/
def absorbBlack (side : Side) (tree : RbTreeTree Key Payload) (x w : Ref) :
    Option (RbTreeTree Key Payload × Ref) := do
  if (← tree.color (← tree.child side w)) = .black ∧
      (← tree.color (← tree.child side.flip w)) = .black then
    let tree ← tree.setColor w .red
    return (tree, ← tree.parent x)
  else
    let (tree, w) ← tree.makeFarRed side x w
    let tree ← tree.takeFromFar side x w
    return (tree, tree.root)

/-- The body of the loop when `x` is the child on `side`. -/
def fixupRemoveSide (side : Side) (tree : RbTreeTree Key Payload) (x : Ref) :
    Option (RbTreeTree Key Payload × Ref) := do
  let w ← tree.child side.flip (← tree.parent x)
  let (tree, w) ← tree.exposeBlack side x w
  tree.absorbBlack side x w

def fixupRemovePass (state : RbTreeTree Key Payload × Ref) :
    Option (Pass (RbTreeTree Key Payload × Ref) Empty (RbTreeTree Key Payload)) := do
  let (tree, x) := state
  if x ≠ tree.root ∧ (← tree.color x) = .black then
    if x = (← tree.child .left (← tree.parent x)) then
      return .again [] (← tree.fixupRemoveSide .left x)
    else return .again [] (← tree.fixupRemoveSide .right x)
  else return .leave [] (← tree.setColor x .black)

def fixupRemove (fuel : Nat) (tree : RbTreeTree Key Payload) (x : Ref) :
    Option (RbTreeTree Key Payload) :=
  Loop.execute fixupRemovePass fuel (tree, x)

/-!
The operations. `Insert`, `Find` and `Remove` each walk down from the root;
`Insert` also keeps the parent.
-/

variable [LinearOrder Key]

def searchPass (tree : RbTreeTree Key Payload) (key : Key) (state : Ref × Ref) :
    Option (Pass (Ref × Ref) Empty (Ref × Ref)) := do
  let (parent, current) := state
  if current = nil then return .leave [] (parent, current)
  let data ← tree.data current
  if data.key = key then return .leave [] (parent, current)
  if key < data.key then return .again [] (current, ← tree.child .left current)
  else return .again [] (current, ← tree.child .right current)

/-- The last node on the way to the key, and its child there. -/
def search (fuel : Nat) (tree : RbTreeTree Key Payload) (key : Key) : Option (Ref × Ref) :=
  Loop.execute (tree.searchPass key) fuel (null, tree.root)

/-- The new node becomes a child of `parent`, or the root. -/
def attach (tree : RbTreeTree Key Payload) (parent current : Ref)
    (data : RbTreeData Key Payload) : Option (RbTreeTree Key Payload) := do
  if parent ≠ null then
    if data.key < (← tree.data parent).key then tree.setChild .left parent current
    else tree.setChild .right parent current
  else return { tree with root := current }

def insert (fuel : Nat) (tree : RbTreeTree Key Payload) (data : RbTreeData Key Payload) :
    Option (RbTreeTree Key Payload × Option (RbTreeData Key Payload)) := do
  let (parent, current) ← tree.search fuel data.key
  if current ≠ nil then return (tree, (← tree.load current).data)
  let current := tree.fresh
  let tree := tree.allocate
    { left := nil, right := nil, parent := parent, color := .red, data := some data }
  let tree ← tree.attach parent current data
  let tree ← tree.fixupInsert fuel current
  return (tree, (← tree.load current).data)

def find (fuel : Nat) (tree : RbTreeTree Key Payload) (key : Key) :
    Option (Option (RbTreeData Key Payload)) := do
  let (_, current) ← tree.search fuel key
  if current ≠ nil then return (← tree.load current).data
  return none

def leftmostPass (tree : RbTreeTree Key Payload) (y : Ref) :
    Option (Pass Ref Empty Ref) := do
  let left ← tree.child .left y
  if left ≠ nil then return .again [] left else return .leave [] y

/-- The node to take out of the parent chain: `z`, or its successor. -/
def removable (fuel : Nat) (tree : RbTreeTree Key Payload) (z : Ref) : Option Ref := do
  if (← tree.child .left z) = nil ∨ (← tree.child .right z) = nil then return z
  else Loop.execute tree.leftmostPass fuel (← tree.child .right z)

def onlyChild (tree : RbTreeTree Key Payload) (y : Ref) : Option Ref := do
  if (← tree.child .left y) ≠ nil then tree.child .left y else tree.child .right y

/-- `x` takes the place of `y` in the parent chain. -/
def unlink (tree : RbTreeTree Key Payload) (y x : Ref) :
    Option (RbTreeTree Key Payload) := do
  let tree ← tree.setParent x (← tree.parent y)
  tree.replaceChild .left (← tree.parent y) y x

/-- `z` stays in the tree with the data of `y`. -/
def moveData (tree : RbTreeTree Key Payload) (y z : Ref) :
    Option (RbTreeTree Key Payload) := do
  if y ≠ z then tree.setData z (← tree.load y).data else return tree

def repairRemoved (fuel : Nat) (tree : RbTreeTree Key Payload) (y x : Ref) :
    Option (RbTreeTree Key Payload) := do
  if (← tree.color y) = .black then tree.fixupRemove fuel x else return tree

/-- Node `y` goes, and with it what was to be removed at `z`. -/
def takeOut (fuel : Nat) (tree : RbTreeTree Key Payload) (z y : Ref) :
    Option (RbTreeTree Key Payload × Option (RbTreeData Key Payload)) := do
  let x ← tree.onlyChild y
  let tree ← tree.unlink y x
  let val := (← tree.load z).data
  let tree ← tree.moveData y z
  let tree ← tree.repairRemoved fuel y x
  return (tree.free y, val)

def remove (fuel : Nat) (tree : RbTreeTree Key Payload) (key : Key) :
    Option (RbTreeTree Key Payload × Option (RbTreeData Key Payload)) := do
  let (_, z) ← tree.search fuel key
  if z = null ∨ z = nil then return (tree, none)
  tree.takeOut fuel z (← tree.removable fuel z)

inductive Operation (Key Payload : Type) where
  | insert (data : RbTreeData Key Payload)
  | remove (key : Key)
deriving Repr, DecidableEq

def perform (fuel : Nat) (tree : RbTreeTree Key Payload) :
    Operation Key Payload →
      Option (RbTreeTree Key Payload × Option (RbTreeData Key Payload))
  | .insert data => tree.insert fuel data
  | .remove key => tree.remove fuel key

/-- Calls one after another, with what they return. -/
def performAll (fuel : Nat) (tree : RbTreeTree Key Payload) :
    List (Operation Key Payload) →
      Option (RbTreeTree Key Payload × List (Option (RbTreeData Key Payload)))
  | [] => some (tree, [])
  | operation :: operations => do
      let (tree, returned) ← tree.perform fuel operation
      let (tree, rest) ← tree.performAll fuel operations
      return (tree, returned :: rest)

end RbTreeTree

end OpenDiameter.Utility
