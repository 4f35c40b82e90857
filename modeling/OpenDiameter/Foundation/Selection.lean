import Mathlib.Data.List.TakeWhile

namespace OpenDiameter.Foundation

/-!
Taking items that pass a test out of a list: the run of them at the front, or
all of them.
-/

inductive SelectionMode where
  | front
  | anywhere
  deriving DecidableEq, Repr

structure Selection (Item : Type) where
  mode : SelectionMode
  takes : Item → Bool

namespace Selection

variable {Item : Type} (selection : Selection Item)

def picks (items : List Item) : List Item :=
  match selection.mode with
  | .front => items.takeWhile selection.takes
  | .anywhere => items.filter selection.takes

def leaves (items : List Item) : List Item :=
  match selection.mode with
  | .front => items.dropWhile selection.takes
  | .anywhere => items.filter fun item => !selection.takes item

/-- The list without its first item that is taken. -/
def after (items : List Item) : List Item :=
  match selection.mode with
  | .front => items.tail
  | .anywhere => items.eraseP selection.takes

@[simp] theorem picks_nil : selection.picks [] = [] := by
  unfold picks
  split <;> rfl

variable {item : Item}

theorem takes_of_mem_picks {items : List Item} (picked : item ∈ selection.picks items) :
    selection.takes item = true := by
  unfold picks at picked
  split at picked
  · exact List.mem_takeWhile_imp picked
  · exact (List.mem_filter.mp picked).2

theorem picks_sublist (items : List Item) : (selection.picks items).Sublist items := by
  unfold picks
  split
  · exact (List.takeWhile_prefix selection.takes).sublist
  · exact List.filter_sublist

theorem leaves_sublist (items : List Item) : (selection.leaves items).Sublist items := by
  unfold leaves
  split
  · exact (List.dropWhile_suffix selection.takes).sublist
  · exact List.filter_sublist

theorem after_sublist (items : List Item) : (selection.after items).Sublist items := by
  unfold after
  split
  · exact List.tail_sublist items
  · exact List.eraseP_sublist

/-- Every item is picked or left. -/
theorem picks_append_leaves_perm (items : List Item) :
    (selection.picks items ++ selection.leaves items).Perm items := by
  unfold picks leaves
  cases selection.mode with
  | front =>
    dsimp only
    rw [List.takeWhile_append_dropWhile]
  | anywhere => exact List.filter_append_perm selection.takes items

variable {items picked : List Item}

/-- Where the first picked item stands. -/
theorem picks_eq_cons (first : selection.picks items = item :: picked) :
    ∃ before behind, items = before ++ item :: behind ∧
      (∀ other ∈ before, selection.takes other = false) ∧ selection.takes item = true ∧
      (selection.mode = .front → before = []) := by
  have taken : selection.takes item = true :=
    selection.takes_of_mem_picks (first ▸ List.mem_cons_self)
  cases mode : selection.mode with
  | front =>
    rw [picks, mode] at first
    cases items with
    | nil => cases first
    | cons head tail =>
      cases headTaken : selection.takes head with
      | false => simp [headTaken] at first
      | true =>
        simp only [List.takeWhile_cons, headTaken, if_true, List.cons.injEq] at first
        rw [first.1]
        exact ⟨[], tail, rfl, by simp, taken, fun _ => rfl⟩
  | anywhere =>
    rw [picks, mode] at first
    obtain ⟨before, behind, shape, refused, _, _⟩ := List.filter_eq_cons_iff.mp first
    refine ⟨before, behind, shape, ?_, taken, by simp⟩
    intro other inside
    simpa using refused other inside

theorem after_of_first {before behind : List Item}
    (refused : ∀ other ∈ before, selection.takes other = false)
    (taken : selection.takes item = true) (front : selection.mode = .front → before = []) :
    selection.after (before ++ item :: behind) = before ++ behind := by
  unfold after
  cases mode : selection.mode with
  | front =>
    rw [front mode]
    rfl
  | anywhere =>
    have none : ∀ other ∈ before, ¬ selection.takes other = true := by
      intro other inside
      simp [refused other inside]
    dsimp only
    rw [List.eraseP_append_right _ none, List.eraseP_cons_of_pos taken]

/-- Taking the first item off moves on among the picked ones. -/
theorem picks_after (first : selection.picks items = item :: picked) :
    selection.picks (selection.after items) = picked := by
  obtain ⟨before, behind, rfl, refused, taken, front⟩ := selection.picks_eq_cons first
  rw [selection.after_of_first refused taken front]
  unfold picks at first ⊢
  cases mode : selection.mode with
  | front =>
    rw [mode, front mode, List.nil_append] at first
    simp only [List.takeWhile_cons, taken, if_true, List.cons.injEq] at first
    rw [front mode]
    exact first.2
  | anywhere =>
    have skipped : before.filter selection.takes = [] :=
      List.filter_eq_nil_iff.mpr fun other inside => by simp [refused other inside]
    rw [mode] at first
    simp only [List.filter_append, skipped, List.nil_append, List.filter_cons, taken,
      if_true, List.cons.injEq] at first ⊢
    exact first.2

theorem leaves_after (first : selection.picks items = item :: picked) :
    selection.leaves (selection.after items) = selection.leaves items := by
  obtain ⟨before, behind, rfl, refused, taken, front⟩ := selection.picks_eq_cons first
  rw [selection.after_of_first refused taken front]
  unfold leaves
  cases mode : selection.mode with
  | front =>
    rw [front mode]
    simp [taken]
  | anywhere => simp [taken]

theorem leaves_eq_self {items : List Item} (none : selection.picks items = []) :
    selection.leaves items = items := by
  have all := selection.picks_append_leaves_perm items
  rw [none, List.nil_append] at all
  exact (selection.leaves_sublist items).eq_of_length all.length_eq

/-- Items that are not taken change nothing when they stand at the end. -/
theorem picks_append_refused (items : List Item) {extra : List Item}
    (refused : ∀ item ∈ extra, selection.takes item = false) :
    selection.picks (items ++ extra) = selection.picks items := by
  have none : ∀ item ∈ extra, ¬ selection.takes item = true := by
    intro item inside
    simp [refused item inside]
  have run : extra.takeWhile selection.takes = [] := by
    cases extra with
    | nil => rfl
    | cons head tail => exact List.takeWhile_cons_of_neg (none head List.mem_cons_self)
  unfold picks
  cases selection.mode with
  | front =>
    dsimp only
    rw [List.takeWhile_append, run, List.append_nil]
    split
    · rename_i whole
      exact ((List.takeWhile_prefix selection.takes).eq_of_length whole).symm
    · rfl
  | anywhere =>
    dsimp only
    rw [List.filter_append, List.filter_eq_nil_iff.mpr none, List.append_nil]

theorem after_append (first : selection.picks items = item :: picked) (extra : List Item) :
    selection.after (items ++ extra) = selection.after items ++ extra := by
  obtain ⟨before, behind, rfl, refused, taken, front⟩ := selection.picks_eq_cons first
  rw [selection.after_of_first refused taken front, List.append_assoc, List.cons_append,
    selection.after_of_first refused taken front, List.append_assoc]

end Selection

end OpenDiameter.Foundation
