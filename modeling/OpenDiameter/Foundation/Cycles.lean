import Mathlib.Data.Set.Finite.List

/-!
A relation on finitely many elements can be followed only finitely often from each of them
exactly when none of them leads back to itself.
-/

namespace OpenDiameter.Foundation

open Relation

variable {α : Type} {r : α → α → Prop} {a : α}

theorem not_self_of_acc (acc : Acc r a) : ¬ r a a := by
  induction acc with
  | intro a _ induction => exact fun self => induction a self self

/-- A list that the relation does not lead out of, downwards. -/
def Closed (r : α → α → Prop) (elements : List α) : Prop :=
  ∀ a ∈ elements, ∀ b, r b a → b ∈ elements

theorem acc_iff_acyclic {elements : List α} (closed : Closed r elements) :
    (∀ a ∈ elements, Acc r a) ↔ ∀ a ∈ elements, ¬ TransGen r a a := by
  constructor
  · exact fun all a isElement => not_self_of_acc (all a isElement).transGen
  · intro acyclic a isElement
    let below (x y : { a // a ∈ elements }) : Prop := TransGen r x.1 y.1
    have finite : Finite { a // a ∈ elements } := (List.finite_toSet elements).to_subtype
    have trans : IsTrans _ below := ⟨fun _ _ _ => TransGen.trans⟩
    have irrefl : Std.Irrefl below := ⟨fun x => acyclic x.1 x.2⟩
    have acc : ∀ x : { a // a ∈ elements }, Acc r x.1 := by
      intro x
      induction x using (Finite.wellFounded_of_trans_of_irrefl below).induction with
      | _ x induction =>
        constructor
        intro b related
        exact induction ⟨b, closed x.1 x.2 b related⟩ (.single related)
    exact acc ⟨a, isElement⟩

end OpenDiameter.Foundation
