import OpenDiameter.Framework.GroupedJob
import OpenDiameter.Framework.QueueOrder
import Mathlib.Algebra.Order.BigOperators.Group.List

/-!
What `Remove` returns: the count of the last data queue that held the entry, where the
references to release are all that were queued.
-/

namespace OpenDiameter.Framework

/-- The last of the numbers that is not zero. -/
def lastCount (counts : List Nat) : Nat :=
  counts.foldl (fun last count => if count = 0 then last else count) 0

theorem lastCount_concat (counts : List Nat) (count : Nat) :
    lastCount (counts ++ [count]) = if count = 0 then lastCount counts else count := by
  rw [lastCount, List.foldl_append]
  rfl

theorem lastCount_eq_sum_iff (counts : List Nat) :
    lastCount counts = counts.sum ↔
      counts.Pairwise fun count other => count = 0 ∨ other = 0 := by
  induction counts using List.reverseRecOn with
  | nil => exact iff_of_true rfl .nil
  | append_singleton counts count induction =>
    rw [lastCount_concat, List.sum_append, List.sum_singleton, List.pairwise_append]
    by_cases none : count = 0
    · rw [if_pos none, none, Nat.add_zero, induction]
      constructor
      · intro apart
        refine ⟨apart, List.pairwise_singleton _ _, fun _ _ other isOther => .inr ?_⟩
        exact List.mem_singleton.mp isOther
      · exact And.left
    · rw [if_neg none, Nat.right_eq_add, List.sum_eq_zero_iff_forall_eq_nat]
      constructor
      · intro zeros
        refine ⟨List.pairwise_of_forall_mem_list ?_, List.pairwise_singleton _ _, ?_⟩
        · exact fun other isOther _ _ => .inl (zeros other isOther)
        · exact fun other isOther _ _ => .inl (zeros other isOther)
      · intro ⟨_, _, apart⟩ other isOther
        exact (apart other isOther count (List.mem_singleton_self _)).resolve_right none

namespace QueueJob

variable {Entry : Type} {shape : QueueShape} [DecidableEq Entry]

/-- How often the entry is queued. -/
def occurrences (shape : QueueShape) (queue : QueueJob Entry) (entry : Entry) : Nat :=
  (shape.dataQueues.map fun d => (queue.dataQueue d).count entry).sum

/-- `Remove` takes the entry out of every data queue, leaves the others as they are, and returns
how often it was queued. -/
structure RemovesAll (shape : QueueShape) (queue : QueueJob Entry) (entry : Entry) : Prop where
  data : ∀ d ∈ shape.dataQueues,
    (queue.remove shape entry).1.dataQueue d = (queue.dataQueue d).filter (· ≠ entry)
  returned : (queue.remove shape entry).2 = queue.occurrences shape entry

/-- No two data queues hold the entry, and an `int` holds how often it is queued. -/
def CountsRight (shape : QueueShape) (queue : QueueJob Entry) (entry : Entry) : Prop :=
  (shape.dataQueues.Pairwise fun d other =>
    entry ∉ queue.dataQueue d ∨ entry ∉ queue.dataQueue other) ∧
  queue.occurrences shape entry < 2 ^ 31

variable {queue : QueueJob Entry} {entry : Entry}

theorem removeFrom_dataQueue (pIndex : Nat) (state : QueueJob Entry × Int) (d : Nat) :
    (removeFrom entry pIndex state d).1.dataQueue =
      Function.update state.1.dataQueue d ((state.1.dataQueue d).filter (· ≠ entry)) := by
  unfold removeFrom
  dsimp only
  split <;> rfl

/-- What `totalRemove` is after a data queue with so many of the entry. -/
def removedAfter (totalRemove : Int) (count : Nat) : Int :=
  if count % 2 ^ 32 = 0 then totalRemove else Int.bmod (count % 2 ^ 32 : Nat) (2 ^ 32)

theorem length_without (entries : List Entry) :
    entries.length = entries.count entry + (entries.filter (· ≠ entry)).length := by
  rw [List.length_eq_length_filter_add (· == entry), List.count_eq_length_filter]
  congr 2
  apply List.filter_congr
  intro other _
  by_cases same : other = entry <;> simp [same]

theorem sizes_differ (count left : Nat) :
    ((count + left) % 2 ^ 32 ≠ left % 2 ^ 32 ↔ ¬ count % 2 ^ 32 = 0) ∧
      ((count + left) % 2 ^ 32 + (2 ^ 32 - left % 2 ^ 32)) % 2 ^ 32 = count % 2 ^ 32 := by
  have sizes := Nat.add_mod count left (2 ^ 32)
  have countBound := Nat.mod_lt count (Nat.two_pow_pos 32)
  have leftBound := Nat.mod_lt left (Nat.two_pow_pos 32)
  rw [sizes]
  generalize count % 2 ^ 32 = c at *
  generalize left % 2 ^ 32 = l at *
  omega

theorem removeFrom_value (pIndex : Nat) (state : QueueJob Entry × Int) (d : Nat) :
    (removeFrom entry pIndex state d).2 =
      removedAfter state.2 ((state.1.dataQueue d).count entry) := by
  have differ := sizes_differ ((state.1.dataQueue d).count entry)
    ((state.1.dataQueue d).filter (· ≠ entry)).length
  unfold removeFrom removedAfter
  dsimp only
  rw [@length_without _ _ entry (state.1.dataQueue d), differ.2]
  by_cases none : (state.1.dataQueue d).count entry % 2 ^ 32 = 0
  · rw [if_neg fun differs => differ.1.mp differs none, if_pos none]
  · rw [if_pos (differ.1.mpr none), if_neg none]

/-- The loop of `Remove` over data queues that are all different. -/
theorem foldl_removeFrom (ds : List Nat) (once : ds.Nodup) (state : QueueJob Entry × Int) :
    let after := ds.foldl (fun state d => removeFrom entry (shape.priorityOf d) state d) state
    (∀ d, after.1.dataQueue d =
      if d ∈ ds then (state.1.dataQueue d).filter (· ≠ entry) else state.1.dataQueue d) ∧
    after.2 =
      (ds.map fun d => (state.1.dataQueue d).count entry).foldl removedAfter state.2 := by
  induction ds generalizing state with
  | nil => exact ⟨fun _ => (if_neg List.not_mem_nil).symm, rfl⟩
  | cons d ds induction =>
    have ⟨fresh, restOnce⟩ := List.nodup_cons.mp once
    have first := @removeFrom_dataQueue _ _ entry (shape.priorityOf d) state d
    have value := @removeFrom_value _ _ entry (shape.priorityOf d) state d
    have ⟨data, removed⟩ :=
      induction restOnce (removeFrom entry (shape.priorityOf d) state d)
    constructor
    · intro other
      rw [List.foldl_cons, data, first]
      by_cases same : other = d
      · subst same
        simp [fresh]
      · simp [same]
    · rw [List.foldl_cons, removed, value, List.map_cons, List.foldl_cons]
      congr 1
      apply List.map_congr_left
      intro other member
      have other_ne : other ≠ d := fun same => fresh (same ▸ member)
      rw [first, Function.update_of_ne other_ne]

theorem remove_dataQueue (queue : QueueJob Entry) (entry : Entry) (d : Nat)
    (inArray : d ∈ shape.dataQueues) :
    (queue.remove shape entry).1.dataQueue d =
      (queue.dataQueue d).filter (· ≠ entry) := by
  have once : shape.dataQueues.Nodup := List.nodup_range
  rw [remove_eq_foldl, (foldl_removeFrom _ once _).1, if_pos inArray]

theorem remove_value (queue : QueueJob Entry) (entry : Entry) :
    (queue.remove shape entry).2 =
      (shape.dataQueues.map fun d => (queue.dataQueue d).count entry).foldl removedAfter 0 := by
  have once : shape.dataQueues.Nodup := List.nodup_range
  rw [remove_eq_foldl, (foldl_removeFrom _ once _).2]

/-- The reference count is an `int`. -/
theorem removedAfter_lt (counts : List Nat) :
    counts.foldl removedAfter 0 < 2 ^ 31 := by
  induction counts using List.reverseRecOn with
  | nil => decide
  | append_singleton counts count induction =>
    rw [List.foldl_append, List.foldl_cons, List.foldl_nil, removedAfter]
    split
    · exact induction
    · exact Int.bmod_lt (by decide)

theorem removedAfter_small (counts : List Nat) (small : ∀ count ∈ counts, count < 2 ^ 31) :
    counts.foldl removedAfter 0 = lastCount counts := by
  induction counts using List.reverseRecOn with
  | nil => rfl
  | append_singleton counts count induction =>
    have before := induction fun other member => small other (List.mem_append_left _ member)
    have bound := small count (List.mem_append_right _ (List.mem_singleton_self _))
    rw [List.foldl_append, List.foldl_cons, List.foldl_nil, removedAfter, before,
      lastCount_concat, Nat.mod_eq_of_lt (Nat.lt_trans bound (by decide))]
    split
    · rfl
    · rw [Int.bmod_eq_of_le (by omega) (by omega)]

theorem returned_iff (queue : QueueJob Entry) (entry : Entry) :
    (queue.remove shape entry).2 = queue.occurrences shape entry ↔
      queue.CountsRight shape entry := by
  have bound := removedAfter_lt (shape.dataQueues.map fun d => (queue.dataQueue d).count entry)
  have value : queue.occurrences shape entry < 2 ^ 31 →
      (queue.remove shape entry).2 =
        lastCount (shape.dataQueues.map fun d => (queue.dataQueue d).count entry) := by
    intro small
    rw [remove_value]
    apply removedAfter_small
    intro count member
    exact Nat.lt_of_le_of_lt (List.le_sum_of_mem member) small
  have apart : (shape.dataQueues.map fun d => (queue.dataQueue d).count entry).Pairwise
      (fun count other => count = 0 ∨ other = 0) ↔
      shape.dataQueues.Pairwise fun d other =>
        entry ∉ queue.dataQueue d ∨ entry ∉ queue.dataQueue other := by
    rw [List.pairwise_map]
    simp only [List.count_eq_zero]
  constructor
  · intro returned
    have small : queue.occurrences shape entry < 2 ^ 31 := by
      rw [remove_value] at returned
      omega
    rw [value small, Int.natCast_inj] at returned
    exact ⟨apart.mp ((lastCount_eq_sum_iff _).mp returned), small⟩
  · intro ⟨once, small⟩
    rw [value small, (lastCount_eq_sum_iff _).mpr (apart.mpr once)]
    rfl

/-- `Remove` counts right exactly where only one data queue holds the entry, and then
`AAA_GroupedJob::Remove` releases as many references as there were. -/
theorem remove_counts_iff (family : JobFamily Entry) (system : JobSystem Entry)
    (group job : Entry) :
    (RemovesAll (family.shape group) (system.queue group) job ↔
      CountsRight (family.shape group) (system.queue group) job) ∧
    (CountsRight (family.shape group) (system.queue group) job →
      system.remove family group job =
        ((system.setQueue group ((system.queue group).remove (family.shape group) job).1).release
          job ((system.queue group).occurrences (family.shape group) job)).2) := by
  refine ⟨⟨fun removes => (returned_iff _ _).mp removes.returned, ?_⟩, ?_⟩
  · intro right
    exact ⟨fun d inArray => remove_dataQueue _ _ d inArray, (returned_iff _ _).mpr right⟩
  · intro right
    have returned := (returned_iff _ _).mpr right
    unfold JobSystem.remove
    rw [← returned]

/-- One priority with two weights. -/
def twoWeights : QueueShape where
  numPriority := 1
  maxWeight := 2
  maxSize := 2 ^ 64 - 1
  fewPriorities := singleQueue.fewPriorities
  lowWeight := fourQueues.lowWeight
  wideSize := singleQueue.wideSize

/-- A job enqueued with each of two weights: both entries are taken out, one is counted. -/
theorem two_weights_counted_once :
    ¬ RemovesAll twoWeights
      ((fresh.enqueue twoWeights 7 false 1 1).2.enqueue twoWeights 7 false 1 2).2 7 := by
  intro removes
  have returned := removes.returned
  revert returned
  decide

end QueueJob

end OpenDiameter.Framework
