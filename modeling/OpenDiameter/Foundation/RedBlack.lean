import Mathlib.Algebra.Group.Nat.Defs
import OpenDiameter.Foundation.ColoredTree

/-!
The balance of red-black trees, and what insertion and removal have to repair on
the way up to the root. Every step is stated once for both sides.
-/

namespace OpenDiameter.Foundation

open ColorTree

variable {Item : Type}

/-- A red-black tree with the given root color and number of black nodes on
every path down. -/
inductive Balanced : Color → Nat → ColorTree Item → Prop
  | nil : Balanced .black 0 .nil
  | red {height left item right} :
      Balanced .black height left → Balanced .black height right →
      Balanced .red height (.node .red left item right)
  | black {leftColor rightColor height left item right} :
      Balanced leftColor height left → Balanced rightColor height right →
      Balanced .black (height + 1) (.node .black left item right)

/-- No red node has a red child. -/
def ColorTree.NoRedRed : ColorTree Item → Prop
  | .nil => True
  | .node color left _ right =>
    (color = .red → left.color = .black ∧ right.color = .black) ∧
      left.NoRedRed ∧ right.NoRedRed

/-- The number of black nodes on each path from the root to a leaf. -/
def ColorTree.blackCounts : ColorTree Item → List Nat
  | .nil => [0]
  | .node color left _ right =>
    (left.blackCounts ++ right.blackCounts).map
      (· + if color = .black then 1 else 0)

namespace Balanced

variable {color : Color} {height : Nat} {tree : ColorTree Item}

theorem color_eq (balanced : Balanced color height tree) : tree.color = color := by
  cases balanced <;> rfl

theorem noRedRed (balanced : Balanced color height tree) : tree.NoRedRed := by
  induction balanced with
  | nil => trivial
  | red left right leftInduction rightInduction =>
    exact ⟨fun _ => ⟨left.color_eq, right.color_eq⟩, leftInduction, rightInduction⟩
  | black left right leftInduction rightInduction =>
    exact ⟨nofun, leftInduction, rightInduction⟩

theorem blackCounts_eq (balanced : Balanced color height tree) :
    ∀ count ∈ tree.blackCounts, count = height := by
  induction balanced with
  | nil => simp [ColorTree.blackCounts]
  | red left right leftInduction rightInduction =>
    intro count counted
    simp only [ColorTree.blackCounts, List.mem_map, List.mem_append] at counted
    rcases counted with ⟨below, inLeft | inRight, rfl⟩
    · simpa using leftInduction below inLeft
    · simpa using rightInduction below inRight
  | black left right leftInduction rightInduction =>
    intro count counted
    simp only [ColorTree.blackCounts, List.mem_map, List.mem_append] at counted
    rcases counted with ⟨below, inLeft | inRight, rfl⟩
    · simpa using leftInduction below inLeft
    · simpa using rightInduction below inRight

theorem depth_le (balanced : Balanced color height tree) :
    tree.depth ≤ 2 * height + if color = .red then 1 else 0 := by
  induction balanced with
  | nil => exact Nat.le_refl _
  | red left right leftInduction rightInduction =>
    simp only [ColorTree.depth, reduceCtorEq, if_true, if_false] at leftInduction rightInduction ⊢
    omega
  | black left right leftInduction rightInduction =>
    simp only [ColorTree.depth, reduceCtorEq, if_false]
    split at leftInduction <;> split at rightInduction <;> omega

theorem pow_le (balanced : Balanced color height tree) :
    2 ^ height ≤ tree.items.length + 1 := by
  induction balanced with
  | nil => exact Nat.le_refl _
  | red left right leftInduction rightInduction =>
    simp only [ColorTree.items, List.length_append, List.length_cons]
    omega
  | black left right leftInduction rightInduction =>
    simp only [ColorTree.items, List.length_append, List.length_cons, Nat.pow_succ]
    omega

theorem depth_le_log2 (balanced : Balanced .black height tree) :
    tree.depth ≤ 2 * Nat.log2 (tree.items.length + 1) :=
  Nat.le_trans balanced.depth_le (Nat.mul_le_mul_left 2
    ((Nat.le_log2 (Nat.succ_ne_zero _)).2 balanced.pow_le))

theorem ne_nil_of_height (balanced : Balanced color (height + 1) tree) : tree ≠ .nil := by
  intro empty
  rw [empty] at balanced
  cases balanced

variable {side : Side} {near far : ColorTree Item} {item : Item}

theorem red_join (nearBalanced : Balanced .black height near)
    (farBalanced : Balanced .black height far) :
    Balanced .red height (join side .red near item far) := by
  cases side with
  | left => exact .red nearBalanced farBalanced
  | right => exact .red farBalanced nearBalanced

theorem black_join {nearColor farColor : Color} (nearBalanced : Balanced nearColor height near)
    (farBalanced : Balanced farColor height far) :
    Balanced .black (height + 1) (join side .black near item far) := by
  cases side with
  | left => exact .black nearBalanced farBalanced
  | right => exact .black farBalanced nearBalanced

theorem of_red_join (balanced : Balanced color height (join side .red near item far)) :
    color = .red ∧ Balanced .black height near ∧ Balanced .black height far := by
  cases side with
  | left =>
    cases balanced with
    | red left right => exact ⟨rfl, left, right⟩
  | right =>
    cases balanced with
    | red left right => exact ⟨rfl, right, left⟩

theorem of_black_join (balanced : Balanced color height (join side .black near item far)) :
    color = .black ∧ ∃ below nearColor farColor, height = below + 1 ∧
      Balanced nearColor below near ∧ Balanced farColor below far := by
  cases side with
  | left =>
    cases balanced with
    | black left right => exact ⟨rfl, _, _, _, rfl, left, right⟩
  | right =>
    cases balanced with
    | black left right => exact ⟨rfl, _, _, _, rfl, right, left⟩

/-- A tree with a red root, seen from any side. -/
theorem exists_red_join (side : Side) (balanced : Balanced .red height tree) :
    ∃ near item far, tree = join side .red near item far ∧
      Balanced .black height near ∧ Balanced .black height far := by
  have red := balanced.color_eq
  rcases exists_join side (ne_nil_of_red red) with ⟨near, item, far, same⟩
  rw [red] at same
  rw [same] at balanced
  exact ⟨near, item, far, same, balanced.of_red_join.2⟩

/-- A tree with a black root that is not empty, seen from any side. -/
theorem exists_black_join (side : Side) (balanced : Balanced .black (height + 1) tree) :
    ∃ near item far nearColor farColor, tree = join side .black near item far ∧
      Balanced nearColor height near ∧ Balanced farColor height far := by
  rcases exists_join side balanced.ne_nil_of_height with ⟨near, item, far, same⟩
  rw [balanced.color_eq] at same
  rw [same] at balanced
  rcases balanced.of_black_join.2 with ⟨below, nearColor, farColor, heights, parts⟩
  cases heights
  exact ⟨near, item, far, nearColor, farColor, same, parts⟩

theorem paint_red (balanced : Balanced .red height tree) :
    Balanced .black (height + 1) (tree.paint .black) := by
  cases balanced with
  | red left right => exact .black left right

theorem paint_black (balanced : Balanced .black height tree) :
    Balanced .black height (tree.paint .black) := by
  have same := tree.paint_color
  rw [balanced.color_eq] at same
  rwa [same]

end Balanced

/-- The frames above a subtree of the given height are those of a red-black
tree with a black root; the color is that of the nearest frame. -/
inductive Context : Color → Nat → TreePath Item → Prop
  | root (height) : Context .black height []
  | red {height frame path} :
      frame.color = .red → Balanced .black height frame.sibling →
      path ≠ [] → Context .black height path → Context .red height (frame :: path)
  | black {color siblingColor height frame path} :
      frame.color = .black → Balanced siblingColor height frame.sibling →
      Context color (height + 1) path → Context .black height (frame :: path)

namespace Context

variable {color : Color} {height : Nat} {path : TreePath Item} {tree : ColorTree Item}

/-- A tree may stand below the frames: its root is black, or their nearest is. -/
def Allows (color : Color) (path : TreePath Item) (below : Color) : Prop :=
  below = .black ∨ color = .black ∧ path ≠ []

theorem balanced_plug {below : Color} (context : Context color height path)
    (balanced : Balanced below height tree) (allows : Allows color path below) :
    ∃ total, Balanced .black total (path.plug tree) := by
  induction context generalizing tree below with
  | root height =>
    rcases allows with rfl | ⟨_, notRoot⟩
    · exact ⟨height, balanced⟩
    · exact absurd rfl notRoot
  | @red height frame path frameRed sibling notRoot context induction =>
    have black : below = .black := by
      rcases allows with black | ⟨red, _⟩
      · exact black
      · cases red
    subst black
    have filled : Balanced .red height (frame.fill tree) := by
      rw [Frame.fill, frameRed]
      exact balanced.red_join sibling
    exact induction filled (Or.inr ⟨rfl, notRoot⟩)
  | @black _ _ height frame path frameBlack sibling context induction =>
    have filled : Balanced .black (height + 1) (frame.fill tree) := by
      rw [Frame.fill, frameBlack]
      exact balanced.black_join sibling
    exact induction filled (Or.inl rfl)

/-- Every subtree of a red-black tree is one, and so are the frames above it. -/
theorem of_balanced_plug {total : Nat} (balanced : Balanced .black total (path.plug tree)) :
    ∃ color height below, Context color height path ∧ Balanced below height tree ∧
      Allows color path below := by
  induction path generalizing tree with
  | nil => exact ⟨.black, total, .black, .root _, balanced, Or.inl rfl⟩
  | cons frame path induction =>
    rcases induction balanced with ⟨color, height, below, context, filled, allows⟩
    cases frameColor : frame.color with
    | red =>
      rw [Frame.fill, frameColor] at filled
      rcases filled.of_red_join with ⟨rfl, near, sibling⟩
      rcases allows with black | ⟨rfl, notRoot⟩
      · cases black
      · exact ⟨.red, height, .black, .red frameColor sibling notRoot context, near,
          Or.inl rfl⟩
    | black =>
      rw [Frame.fill, frameColor] at filled
      rcases filled.of_black_join with ⟨rfl, height, nearColor, _, rfl, near, sibling⟩
      exact ⟨.black, height, nearColor, .black frameColor sibling context, near,
        Or.inr ⟨rfl, by simp⟩⟩


variable {frame : Frame Item}

/-- A frame may be filled with two black trees of the height it was made for. -/
theorem balanced_plug_join {side : Side} {near far : ColorTree Item} {item : Item}
    (context : Context color height (frame :: path)) (nearBalanced : Balanced .black height near)
    (farBalanced : Balanced .black height far) :
    ∃ total, Balanced .black total (path.plug (join side frame.color near item far)) := by
  cases context with
  | red frameRed _ notRoot above =>
    rw [frameRed]
    exact above.balanced_plug (nearBalanced.red_join farBalanced) (Or.inr ⟨rfl, notRoot⟩)
  | black frameBlack _ above =>
    rw [frameBlack]
    exact above.balanced_plug (nearBalanced.black_join farBalanced) (Or.inl rfl)

theorem of_black_sibling {side : Side} {frameColor : Color} {near far : ColorTree Item}
    {parent item : Item} (context : Context color (height + 1)
      (⟨side, frameColor, parent, join side .black near item far⟩ :: path)) :
    ∃ nearColor farColor, Balanced nearColor height near ∧ Balanced farColor height far := by
  have children : ∀ {color}, Balanced color (height + 1) (join side .black near item far) →
      ∃ nearColor farColor, Balanced nearColor height near ∧ Balanced farColor height far := by
    intro color sibling
    rcases sibling.of_black_join.2 with ⟨below, nearColor, farColor, heights, parts⟩
    cases heights
    exact ⟨nearColor, farColor, parts⟩
  cases context with
  | red _ sibling _ _ => exact children sibling
  | black _ sibling _ => exact children sibling

/-- The balance does not depend on the items of the frames. -/
theorem setItem {inner outer : TreePath Item} (item : Item)
    (context : Context color height (inner ++ frame :: outer)) :
    Context color height (inner ++ { frame with item := item } :: outer) := by
  induction inner generalizing color height with
  | nil =>
    cases context with
    | red frameRed sibling notRoot context =>
      exact .red frameRed sibling notRoot context
    | black frameBlack sibling context => exact .black frameBlack sibling context
  | cons head inner induction =>
    cases context with
    | red frameRed sibling notRoot context =>
      apply Context.red frameRed sibling _ (induction context)
      simp
    | black frameBlack sibling context =>
      exact .black frameBlack sibling (induction context)

theorem balanced_plug_setItem {inner outer : TreePath Item} {total : Nat} (item : Item)
    (balanced : Balanced .black total (TreePath.plug (inner ++ frame :: outer) tree)) :
    ∃ total, Balanced .black total
      (TreePath.plug (inner ++ { frame with item := item } :: outer) tree) := by
  rcases of_balanced_plug balanced with ⟨color, height, below, context, subtree, allows⟩
  apply (context.setItem item).balanced_plug subtree
  exact allows.imp id fun parentBlack => ⟨parentBlack.1, by simp⟩

end Context

/-!
Insertion hangs a red node below frames that may end in a red one. A step of the
repair moves the red node two levels up, or turns the tree so that its parent
becomes black.
-/

/-- The subtree is a red-black tree with a red root; its parent may be red too. -/
def Rising (path : TreePath Item) (tree : ColorTree Item) : Prop :=
  ∃ color height, Context color height path ∧ Balanced .red height tree

inductive Raise : TreePath Item → ColorTree Item → TreePath Item → ColorTree Item → Prop
  | uncleRed {side side' parent grandparent brother uncle path tree} :
      uncle.color = .red →
      Raise (⟨side, .red, parent, brother⟩ :: ⟨side', .black, grandparent, uncle⟩ :: path)
        tree path
        (join side' .red (join side .black tree parent brother) grandparent
          (uncle.paint .black))
  | outer {side parent grandparent brother uncle path tree} :
      uncle.color = .black →
      Raise (⟨side, .red, parent, brother⟩ :: ⟨side, .black, grandparent, uncle⟩ :: path)
        tree (⟨side, .black, parent, join side .red brother grandparent uncle⟩ :: path) tree
  | inner {side parent grandparent brother uncle path near item far} :
      uncle.color = .black →
      Raise
        (⟨side.flip, .red, parent, brother⟩ :: ⟨side, .black, grandparent, uncle⟩ :: path)
        (join side .red near item far)
        (⟨side, .black, item, join side .red far grandparent uncle⟩ :: path)
        (join side .red brother parent near)

variable {path : TreePath Item}

/-- A new red leaf in the place of an empty subtree. -/
theorem Rising.of_leaf {total : Nat} (item : Item)
    (balanced : Balanced .black total (path.plug .nil)) :
    Rising path (.node .red .nil item .nil) := by
  rcases Context.of_balanced_plug balanced with ⟨color, height, below, context, empty, _⟩
  cases empty
  exact ⟨color, 0, context, .red .nil .nil⟩

/-- As long as the parent is red there is a step to take. -/
theorem Rising.exists_raise {frame : Frame Item} {tree : ColorTree Item}
    (rising : Rising (frame :: path) tree) (parentRed : frame.color = .red) :
    ∃ path' tree', Raise (frame :: path) tree path' tree' := by
  rcases rising with ⟨color, height, context, balanced⟩
  rcases frame with ⟨side, frameColor, parent, brother⟩
  cases parentRed
  cases context with
  | black frameBlack => cases frameBlack
  | red _ _ notRoot above =>
    cases above with
    | root => exact absurd rfl notRoot
    | @black _ _ _ grandparent path grandparentBlack _ _ =>
      rcases grandparent with ⟨side', grandparentColor, grandparent, uncle⟩
      cases grandparentBlack
      cases uncleColor : uncle.color with
      | red => exact ⟨_, _, .uncleRed uncleColor⟩
      | black =>
        rcases side.eq_or_eq_flip side' with rfl | rfl
        · exact ⟨_, _, .outer uncleColor⟩
        · rcases balanced.exists_red_join side' with ⟨near, item, far, rfl, _⟩
          exact ⟨_, _, .inner uncleColor⟩

namespace Raise

variable {path path' : TreePath Item} {tree tree' : ColorTree Item}

theorem items_eq (raise : Raise path tree path' tree') :
    (path'.plug tree').items = (path.plug tree).items := by
  cases raise with
  | @uncleRed side side' =>
    apply TreePath.items_plug_congr
    apply items_recolor
    · exact items_recolor _ _ _ _ _ _ _ _ rfl rfl
    · exact items_paint ..
  | @outer side =>
    simp only [TreePath.plug_cons]
    apply TreePath.items_plug_congr
    cases side <;> simp [Frame.fill, join, items]
  | @inner side =>
    simp only [TreePath.plug_cons]
    apply TreePath.items_plug_congr
    cases side <;> simp [Frame.fill, join, items, Side.flip]

theorem shorter (raise : Raise path tree path' tree') : path'.length < path.length := by
  cases raise <;> simp <;> omega

theorem rising (raise : Raise path tree path' tree') (rising : Rising path tree) :
    Rising path' tree' := by
  rcases rising with ⟨color, height, context, balanced⟩
  cases raise with
  | uncleRed uncleRed =>
    cases context with
    | black frameBlack => cases frameBlack
    | red _ brother _ above =>
      cases above with
      | black _ uncle above =>
        have repainted := uncle.color_eq.symm.trans uncleRed
        subst repainted
        exact ⟨_, _, above, (balanced.black_join brother).red_join uncle.paint_red⟩
  | outer uncleBlack =>
    cases context with
    | black frameBlack => cases frameBlack
    | red _ brother _ above =>
      cases above with
      | black _ uncle above =>
        have black := uncle.color_eq.symm.trans uncleBlack
        subst black
        exact ⟨_, _, .black rfl (brother.red_join uncle) above, balanced⟩
  | inner uncleBlack =>
    rcases balanced.of_red_join with ⟨_, near, far⟩
    cases context with
    | black frameBlack => cases frameBlack
    | red _ brother _ above =>
      cases above with
      | black _ uncle above =>
        have black := uncle.color_eq.symm.trans uncleBlack
        subst black
        exact ⟨_, _, .black rfl (far.red_join uncle) above, brother.red_join near⟩

end Raise

/-- Once the parent is black, painting the root black completes the insertion. -/
theorem Rising.settled {tree : ColorTree Item} (rising : Rising path tree)
    (parentBlack : ∀ frame ∈ path.head?, frame.color = .black) :
    ∃ total, Balanced .black total ((path.plug tree).paint .black) := by
  rcases rising with ⟨color, height, context, balanced⟩
  cases context with
  | root => exact ⟨_, balanced.paint_red⟩
  | red frameRed _ _ _ =>
    have black := parentBlack _ rfl
    rw [frameRed] at black
    cases black
  | black frameBlack sibling above =>
    rcases Context.balanced_plug (.black frameBlack sibling above) balanced
      (Or.inr ⟨rfl, by simp⟩) with ⟨total, whole⟩
    exact ⟨total, whole.paint_black⟩

/-!
Removal takes a black node off the paths through a subtree. A step of the repair
moves the missing node one level up, or finds it at a red sibling or nephew.
-/

/-- The paths through the subtree lack one black node, or its root is a red node
that can be painted black to supply it. -/
def Lacking (path : TreePath Item) (tree : ColorTree Item) : Prop :=
  ∃ color height, Context color (height + 1) path ∧
    (Balanced .black height tree ∨
      tree.color = .red ∧ Balanced .black (height + 1) (tree.paint .black))

/-- A red sibling changes places with the parent; the new sibling is black. -/
inductive Expose : TreePath Item → TreePath Item → Prop
  | turn {side parent near item far path} :
      Expose (⟨side, .black, parent, join side .red near item far⟩ :: path)
        (⟨side, .red, parent, near⟩ :: ⟨side, .black, item, far⟩ :: path)

theorem Expose.items_eq {path path' : TreePath Item} (exposed : Expose path path')
    (tree : ColorTree Item) : (path'.plug tree).items = (path.plug tree).items := by
  cases exposed with
  | @turn side =>
    simp only [TreePath.plug_cons]
    apply TreePath.items_plug_congr
    cases side <;> simp [Frame.fill, join, items]

/-- What happens below a black sibling. -/
inductive Absorb : TreePath Item → ColorTree Item → TreePath Item → ColorTree Item → Prop
  | bothBlack {side color parent near item far} {path : TreePath Item} {tree} :
      near.color = .black → far.color = .black →
      Absorb (⟨side, color, parent, join side .black near item far⟩ :: path) tree
        path (join side color tree parent (join side .red near item far))
  | farRed {side color parent near item far} {path : TreePath Item} {tree} :
      far.color = .red →
      Absorb (⟨side, color, parent, join side .black near item far⟩ :: path) tree []
        (path.plug (join side color (join side .black tree parent near) item
          (far.paint .black)))
  | nearRed {side color parent nearNear nearItem nearFar item far} {path : TreePath Item}
      {tree} :
      far.color = .black →
      Absorb
        (⟨side, color, parent,
          join side .black (join side .red nearNear nearItem nearFar) item far⟩ :: path) tree []
        (path.plug (join side color (join side .black tree parent nearNear) nearItem
          (join side .black nearFar item far)))

inductive Repair : TreePath Item → ColorTree Item → TreePath Item → ColorTree Item → Prop
  | direct {path path' tree tree'} :
      Absorb path tree path' tree' → Repair path tree path' tree'
  | exposed {path middle path' tree tree'} :
      Expose path middle → Absorb middle tree path' tree' → Repair path tree path' tree'

/-- Taking out a node with at most one child. -/
theorem of_unlink {total : Nat} {side : Side} {color : Color} {item : Item} {child : ColorTree Item}
    (balanced : Balanced .black total (path.plug (join side color .nil item child))) :
    (color = .red → ∃ total, Balanced .black total (path.plug child)) ∧
      (color = .black → Lacking path child) := by
  rcases Context.of_balanced_plug balanced with
    ⟨pathColor, height, below, context, node, _⟩
  constructor
  · intro red
    subst red
    rcases node.of_red_join with ⟨_, empty, childBalanced⟩
    cases empty
    exact context.balanced_plug childBalanced (Or.inl rfl)
  · intro black
    subst black
    rcases node.of_black_join.2 with ⟨height, _, childColor, rfl, empty, childBalanced⟩
    cases empty
    refine ⟨pathColor, 0, context, ?_⟩
    cases childColor with
    | black => exact Or.inl childBalanced
    | red => exact Or.inr ⟨childBalanced.color_eq, childBalanced.paint_red⟩

namespace Lacking

variable {path path' : TreePath Item} {tree tree' : ColorTree Item}

theorem of_black (lacking : Lacking path tree) (black : tree.color = .black) :
    ∃ color height, Context color (height + 1) path ∧ Balanced .black height tree := by
  rcases lacking with ⟨color, height, context, balanced | ⟨red, _⟩⟩
  · exact ⟨color, height, context, balanced⟩
  · rw [black] at red
    cases red

theorem expose (lacking : Lacking path tree) (black : tree.color = .black)
    (exposed : Expose path path') : Lacking path' tree := by
  rcases lacking.of_black black with ⟨color, height, context, balanced⟩
  cases exposed with
  | turn =>
    cases context with
    | red frameRed => cases frameRed
    | black _ sibling above =>
      rcases sibling.of_red_join with ⟨_, near, far⟩
      refine ⟨.red, height, .red rfl near ?_ (.black rfl far above), Or.inl balanced⟩
      simp

theorem exists_absorb (frame : Frame Item) (path : TreePath Item) (tree : ColorTree Item)
    {near far : ColorTree Item} {item : Item}
    (sibling : frame.sibling = join frame.side .black near item far) :
    ∃ path' tree', Absorb (frame :: path) tree path' tree' := by
  rcases frame with ⟨side, color, parent, brother⟩
  simp only at sibling
  subst sibling
  cases farColor : far.color with
  | red => exact ⟨_, _, .farRed farColor⟩
  | black =>
    cases nearColor : near.color with
    | black => exact ⟨_, _, .bothBlack nearColor farColor⟩
    | red =>
      rcases exists_join side (ne_nil_of_red nearColor) with
        ⟨nearNear, nearItem, nearFar, same⟩
      rw [nearColor] at same
      rw [same]
      exact ⟨_, _, .nearRed farColor⟩

/-- Below the root, a black subtree that lacks a node has a sibling to take it
from. -/
theorem exists_repair {frame : Frame Item} (lacking : Lacking (frame :: path) tree)
    (black : tree.color = .black) :
    ∃ path' tree', Repair (frame :: path) tree path' tree' := by
  rcases lacking.of_black black with ⟨color, height, context, balanced⟩
  cases context with
  | red _ sibling _ _ =>
    rcases sibling.exists_black_join frame.side with ⟨near, item, far, _, _, same, _⟩
    rcases exists_absorb frame path tree same with ⟨path', tree', absorb⟩
    exact ⟨path', tree', .direct absorb⟩
  | @black _ siblingColor _ _ _ frameBlack sibling above =>
    cases siblingColor with
    | black =>
      rcases sibling.exists_black_join frame.side with ⟨near, item, far, _, _, same, _⟩
      rcases exists_absorb frame path tree same with ⟨path', tree', absorb⟩
      exact ⟨path', tree', .direct absorb⟩
    | red =>
      rcases sibling.exists_red_join frame.side with ⟨near, item, far, same, nearBalanced, _⟩
      rcases frame with ⟨side, frameColor, parent, brother⟩
      simp only at frameBlack same nearBalanced
      subst frameBlack same
      rcases nearBalanced.exists_black_join side with
        ⟨nearNear, nearItem, nearFar, _, _, nearSame, _⟩
      rcases exists_absorb ⟨side, .red, parent, near⟩ (⟨side, .black, item, far⟩ :: path)
        tree nearSame with ⟨path', tree', absorb⟩
      exact ⟨path', tree', .exposed .turn absorb⟩

/-- Once the subtree is the whole tree or has a red root, painting it black
completes the removal. -/
theorem settled (lacking : Lacking path tree) (settled : path = [] ∨ tree.color = .red) :
    ∃ total, Balanced .black total (path.plug (tree.paint .black)) := by
  rcases lacking with ⟨color, height, context, balanced | ⟨_, painted⟩⟩
  · rcases settled with rfl | red
    · exact ⟨height, balanced.paint_black⟩
    · rw [balanced.color_eq] at red
      cases red
  · exact context.balanced_plug painted (Or.inl rfl)

/-- A tree that lacks nothing may stand at the root. -/
theorem of_balanced {total : Nat} (balanced : Balanced .black total tree) :
    Lacking [] tree :=
  ⟨.black, total, .root _, Or.inl balanced⟩

end Lacking

namespace Absorb

variable {path path' : TreePath Item} {tree tree' : ColorTree Item}

theorem items_eq (absorb : Absorb path tree path' tree') :
    (path'.plug tree').items = (path.plug tree).items := by
  cases absorb with
  | @bothBlack side =>
    simp only [TreePath.plug_cons]
    apply TreePath.items_plug_congr
    exact items_recolor _ _ _ _ _ _ _ _ rfl (items_recolor _ _ _ _ _ _ _ _ rfl rfl)
  | @farRed side =>
    simp only [TreePath.plug_cons, TreePath.plug_nil]
    apply TreePath.items_plug_congr
    cases side <;> simp [Frame.fill, join, items]
  | @nearRed side =>
    simp only [TreePath.plug_cons, TreePath.plug_nil]
    apply TreePath.items_plug_congr
    cases side <;> simp [Frame.fill, join, items]

theorem lacking (absorb : Absorb path tree path' tree') (lacking : Lacking path tree)
    (black : tree.color = .black) : Lacking path' tree' := by
  rcases lacking.of_black black with ⟨color, height, context, balanced⟩
  cases absorb with
  | bothBlack nearBlack farBlack =>
    rcases context.of_black_sibling with ⟨nearColor, farColor, near, far⟩
    have nearColor := near.color_eq.symm.trans nearBlack
    have farColor := far.color_eq.symm.trans farBlack
    subst nearColor farColor
    cases context with
    | red frameRed _ _ above =>
      simp only at frameRed
      subst frameRed
      refine ⟨_, _, above, Or.inr ⟨color_join .., ?_⟩⟩
      rw [paint_join]
      exact balanced.black_join (near.red_join far)
    | black frameBlack _ above =>
      simp only at frameBlack
      subst frameBlack
      exact ⟨_, _, above, Or.inl (balanced.black_join (near.red_join far))⟩
  | farRed farRed =>
    rcases context.of_black_sibling with ⟨nearColor, farColor, near, far⟩
    have farColor := far.color_eq.symm.trans farRed
    subst farColor
    rcases context.balanced_plug_join (balanced.black_join near) far.paint_red with
      ⟨total, whole⟩
    exact Lacking.of_balanced whole
  | nearRed farBlack =>
    rcases context.of_black_sibling with ⟨nearColor, farColor, near, far⟩
    rcases near.of_red_join with ⟨_, nearNear, nearFar⟩
    rcases context.balanced_plug_join (balanced.black_join nearNear)
      (nearFar.black_join far) with ⟨total, whole⟩
    exact Lacking.of_balanced whole

end Absorb

namespace Repair

variable {path path' : TreePath Item} {tree tree' : ColorTree Item}

theorem items_eq (repair : Repair path tree path' tree') :
    (path'.plug tree').items = (path.plug tree).items := by
  cases repair with
  | direct absorb => exact absorb.items_eq
  | exposed exposed absorb =>
    rw [absorb.items_eq]
    exact exposed.items_eq tree

theorem lacking (repair : Repair path tree path' tree') (lacking : Lacking path tree)
    (black : tree.color = .black) : Lacking path' tree' := by
  cases repair with
  | direct absorb => exact absorb.lacking lacking black
  | exposed exposed absorb => exact absorb.lacking (lacking.expose black exposed) black

theorem ne_nil (repair : Repair path tree path' tree') : tree' ≠ .nil := by
  have absorbed : ∀ {path : TreePath Item}, Absorb path tree path' tree' → tree' ≠ .nil := by
    intro path absorb
    cases absorb with
    | bothBlack => simp
    | farRed => exact TreePath.plug_ne_nil _ (by simp)
    | nearRed => exact TreePath.plug_ne_nil _ (by simp)
  cases repair with
  | direct absorb => exact absorbed absorb
  | exposed _ absorb => exact absorbed absorb

/-- What is left to do: the way to the root, or a red node that ends it. -/
def workLeft (path : TreePath Item) (tree : ColorTree Item) : Nat :=
  2 * path.length + if tree.color = .black then 1 else 0

theorem workLeft_lt (repair : Repair path tree path' tree') (black : tree.color = .black) :
    workLeft path' tree' < workLeft path tree := by
  cases repair with
  | direct absorb =>
    cases absorb <;> simp only [workLeft, black, List.length_cons, List.length_nil] <;>
      split <;> simp <;> omega
  | exposed exposed absorb =>
    cases exposed
    cases absorb <;>
      simp only [workLeft, black, List.length_cons, List.length_nil, color_join]
    · simp
    · split <;> simp <;> omega
    · split <;> simp <;> omega

end Repair

end OpenDiameter.Foundation
