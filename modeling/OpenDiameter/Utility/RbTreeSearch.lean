import OpenDiameter.Foundation.SortedList
import OpenDiameter.Utility.RbTreeRemove

/-!
The walk of the operations down the tree.
-/

namespace OpenDiameter.Utility

open Foundation

variable {Key Payload : Type} [LinearOrder Key]

def Slot.key (slot : Slot Key Payload) : Key := slot.data.key

/-- The path down to where the key belongs. -/
def LeadsTo (key : Key) (path : TreePath (Slot Key Payload)) : Prop :=
  (∀ slot ∈ path.before, slot.key < key) ∧ ∀ slot ∈ path.after, key < slot.key

/-- The walk has come to a missing child or to the key's node. -/
def Found (key : Key) (focus : ColorTree (Slot Key Payload)) : Prop :=
  focus = .nil ∨
    ∃ color left slot right, focus = .join .left color left slot right ∧ slot.key = key

/-- The walk stands at a subtree of `whole`. -/
structure Walked (tree : RbTreeTree Key Payload) (nilParent : Ref)
    (whole : ColorTree (Slot Key Payload)) (key : Key) (path : TreePath (Slot Key Payload))
    (focus : ColorTree (Slot Key Payload)) (state : Ref × Ref) : Prop where
  state_eq : state = (parentRef path, rootRef focus)
  focused : Focused tree nilParent path focus
  inside : path.plug focus = whole
  leads : LeadsTo key path

namespace LeadsTo

variable {key : Key} {path : TreePath (Slot Key Payload)} {color : Color}
  {slot : Slot Key Payload} {left right : ColorTree (Slot Key Payload)}

theorem below (leads : LeadsTo key path)
    (ascending : Ascending Slot.key (path.plug (.join .left color left slot right)).items)
    (less : key < slot.key) : LeadsTo key (⟨.left, color, slot, right⟩ :: path) := by
  rw [TreePath.items_plug, ColorTree.join, ColorTree.items] at ascending
  have around := (List.Pairwise.sublist (List.sublist_append_right ..)
    (List.Pairwise.sublist (List.sublist_append_left ..) ascending)).sublist
    (List.sublist_append_right ..)
  constructor
  · simpa [TreePath.before, Frame.before] using leads.1
  · intro other member
    simp only [TreePath.after, Frame.after, List.cons_append, List.mem_cons, List.mem_append]
      at member
    rcases member with rfl | inRight | inAfter
    · exact less
    · exact lt_trans less ((List.pairwise_cons.mp around).1 other inRight)
    · exact leads.2 other inAfter

theorem above (leads : LeadsTo key path)
    (ascending : Ascending Slot.key (path.plug (.join .left color left slot right)).items)
    (greater : slot.key < key) :
    LeadsTo key (⟨.right, color, slot, left⟩ :: path) := by
  rw [TreePath.items_plug, ColorTree.join, ColorTree.items] at ascending
  have around := Ascending.around (List.Pairwise.sublist (List.sublist_append_right ..)
    (List.Pairwise.sublist (List.sublist_append_left ..) ascending))
  constructor
  · intro other member
    simp only [TreePath.before, Frame.before, List.mem_append, List.mem_singleton] at member
    rcases member with inBefore | inLeft | rfl
    · exact leads.1 other inBefore
    · exact lt_trans (around.1 other inLeft) greater
    · exact greater
  · simpa [TreePath.after, Frame.after] using leads.2

end LeadsTo

namespace Focused

variable {tree : RbTreeTree Key Payload} {nilParent : Ref} {key : Key}
  {path : TreePath (Slot Key Payload)} {focus : ColorTree (Slot Key Payload)}

theorem searchPass_of_found (focused : Focused tree nilParent path focus)
    (found : Found key focus) :
    tree.searchPass key (parentRef path, rootRef focus) =
      some (.leave [] (parentRef path, rootRef focus)) := by
  rcases found with rfl | ⟨color, left, slot, right, rfl, same⟩
  · simp [RbTreeTree.searchPass]
  · have present := Ne.symm focused.nil_ne_slot
    have equal : slot.data.key = key := same
    simp [RbTreeTree.searchPass, present, focused.data_join, equal]

/-- A pass that does not find the key goes down to the child where it belongs. -/
theorem searchPass_of_other {color : Color} {slot : Slot Key Payload}
    {left right : ColorTree (Slot Key Payload)}
    (focused : Focused tree nilParent path (.join .left color left slot right))
    (leads : LeadsTo key path)
    (ascending : Ascending Slot.key (path.plug (.join .left color left slot right)).items)
    (other : slot.key ≠ key) :
    ∃ frame child, tree.searchPass key (parentRef path, slot.ref) =
        some (.again [] (slot.ref, rootRef child)) ∧
      frame.item.ref = slot.ref ∧ LeadsTo key (frame :: path) ∧
      frame.fill child = .join .left color left slot right := by
  have present := Ne.symm focused.nil_ne_slot
  have different : ¬ slot.data.key = key := other
  have leftRead := focused.child_near
  have rightRead := focused.child_far
  rcases lt_or_gt_of_ne other with greater | less
  · have notLess : ¬ key < slot.data.key := not_lt_of_gt greater
    refine ⟨⟨.right, color, slot, left⟩, right, ?_, rfl, leads.above ascending greater, rfl⟩
    simp only [Side.flip] at rightRead
    simp [RbTreeTree.searchPass, present, focused.data_join, different, notLess, rightRead]
  · have isLess : key < slot.data.key := less
    refine ⟨⟨.left, color, slot, right⟩, left, ?_, rfl, leads.below ascending less, rfl⟩
    simp [RbTreeTree.searchPass, present, focused.data_join, different, isLess, leftRead]

end Focused

namespace Walked

variable {tree : RbTreeTree Key Payload} {nilParent : Ref} {key : Key}
  {whole : ColorTree (Slot Key Payload)} {path : TreePath (Slot Key Payload)}
  {focus : ColorTree (Slot Key Payload)} {state : Ref × Ref}

theorem start (focused : Focused tree nilParent [] whole) :
    Walked tree nilParent whole key [] whole (null, tree.root) := by
  refine ⟨?_, focused, rfl, ?_⟩
  · rw [focused.root]
    rfl
  · simp [LeadsTo, TreePath.before, TreePath.after]

theorem pass (walked : Walked tree nilParent whole key path focus state)
    (ascending : Ascending Slot.key whole.items) :
    (tree.searchPass key state = some (.leave [] state) ∧ Found key focus) ∨
      ∃ next path' frame focus', tree.searchPass key state = some (.again [] next) ∧
        Walked tree nilParent whole key path' focus' next ∧ Frame.fill frame focus' = focus := by
  rcases walked with ⟨rfl, focused, rfl, leads⟩
  by_cases found : Found key focus
  · exact Or.inl ⟨focused.searchPass_of_found found, found⟩
  · rcases not_or.mp found with ⟨present, otherKey⟩
    rcases ColorTree.exists_join .left present with ⟨left, slot, right, shape⟩
    have other : slot.key ≠ key := fun same => otherKey ⟨_, left, slot, right, shape, same⟩
    generalize focus.color = color at shape
    subst shape
    rcases focused.searchPass_of_other leads ascending other with
      ⟨frame, child, pass, frameRef, leads', filled⟩
    rw [rootRef_join]
    refine Or.inr ⟨_, frame :: path, frame, child, pass, ⟨?_, ?_, ?_, leads'⟩, filled⟩
    · rw [parentRef_cons, frameRef]
    · rw [Focused.zoomOut, filled]
      exact focused
    · rw [TreePath.plug_cons, filled]

end Walked

/-- The walk ends where the key is or belongs, within any number that a subtree has less of. -/
theorem Focused.search_within {tree : RbTreeTree Key Payload} {nilParent : Ref} {fuel : Nat}
    {whole : ColorTree (Slot Key Payload)} (key : Key) (focused : Focused tree nilParent [] whole)
    (ascending : Ascending Slot.key whole.items) (size : ColorTree (Slot Key Payload) → Nat)
    (grows : ∀ (frame : Frame (Slot Key Payload)) child, size child < size (frame.fill child))
    (enough : size whole < fuel) :
    ∃ path focus, tree.search fuel key = some (parentRef path, rootRef focus) ∧
      Focused tree nilParent path focus ∧ path.plug focus = whole ∧ LeadsTo key path ∧
      Found key focus := by
  have step : ∀ bound state,
      (∃ path focus, Walked tree nilParent whole key path focus state ∧ size focus = bound) →
      (∃ result, tree.searchPass key state = some (.leave [] result) ∧
        ∃ path focus, Walked tree nilParent whole key path focus result ∧ Found key focus) ∨
      ∃ next lower, tree.searchPass key state = some (.again [] next) ∧
        (∃ path focus, Walked tree nilParent whole key path focus next ∧ size focus = lower) ∧
        lower < bound := by
    rintro bound state ⟨path, focus, walked, rfl⟩
    rcases walked.pass ascending with
      ⟨pass, found⟩ | ⟨next, path', frame, focus', pass, walked', rfl⟩
    · exact Or.inl ⟨state, pass, path, focus, walked, found⟩
    · exact Or.inr ⟨next, _, pass, ⟨path', focus', walked', rfl⟩, grows frame focus'⟩
  rcases Loop.execute_of_bound _ _ step ⟨[], whole, Walked.start focused, rfl⟩ enough with
    ⟨_, returned, path, focus, ⟨rfl, focused, inside, leads⟩, found⟩
  exact ⟨path, focus, returned, focused, inside, leads, found⟩

theorem Focused.search {tree : RbTreeTree Key Payload} {nilParent : Ref} {fuel : Nat}
    {whole : ColorTree (Slot Key Payload)} (key : Key) (focused : Focused tree nilParent [] whole)
    (ascending : Ascending Slot.key whole.items) (enough : whole.items.length < fuel) :
    ∃ path focus, tree.search fuel key = some (parentRef path, rootRef focus) ∧
      Focused tree nilParent path focus ∧ path.plug focus = whole ∧ LeadsTo key path ∧
      Found key focus :=
  focused.search_within key ascending (fun focus => focus.items.length) Frame.length_items_lt enough

end OpenDiameter.Utility
