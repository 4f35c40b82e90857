import Mathlib.Algebra.Order.BigOperators.Group.Finset
import Mathlib.Data.Fintype.BigOperators
import OpenDiameter.Framework.GroupedJob
import OpenDiameter.Framework.QueueRuns

/-!
What the calls of a grouped job do to its queue, of which they use one data queue.
-/

namespace OpenDiameter.Framework

namespace QueueJob

variable {Entry : Type} {shape : QueueShape} {queue : QueueJob Entry}

/-- A queue whose entries are all of the first priority and weight. -/
structure Single (shape : QueueShape) (queue : QueueJob Entry) : Prop where
  placed : Placed shape queue
  counted : Counted shape queue
  others : ∀ d, d ≠ 0 → queue.dataQueue d = []

@[simp] theorem fresh_queuedEntries (shape : QueueShape) :
    (fresh : QueueJob Entry).queuedEntries shape = [] := by
  simp [queuedEntries, fresh]

theorem fresh_single : Single shape (fresh : QueueJob Entry) where
  placed := fresh_placed
  counted := ⟨by simp [fresh, backlog], fresh_small⟩
  others := by simp [fresh]

theorem Single.change (single : Single shape queue) {index : List Nat} {left : List Entry}
    {total : Nat} (placed : Placed shape (queue.change shape 0 index left total))
    (counted : Counted shape (queue.change shape 0 index left total)) :
    Single shape (queue.change shape 0 index left total) where
  placed := placed
  counted := counted
  others := by
    intro d other
    simpa [QueueJob.change, other] using single.others d other

theorem dataIndex_one (hasPriority : 1 ≤ shape.numPriority) (hasWeight : 1 ≤ shape.maxWeight) :
    shape.dataIndex 1 1 = 0 ∧ 0 < shape.numPriority * shape.maxWeight := by
  have inArray := (shape.dataIndex_inRange (Nat.le_refl 1) hasPriority (Nat.le_refl 1)
    hasWeight).2.2.2
  have zero : shape.dataIndex 1 1 = 0 := by
    simp [QueueShape.dataIndex, maxNumPriority, maxMaxWeight]
  rw [zero] at inArray
  exact ⟨zero, inArray⟩

/-- An entry put in where there is room. -/
theorem Single.enqueue (single : Single shape queue) (hasPriority : 1 ≤ shape.numPriority)
    (hasWeight : 1 ≤ shape.maxWeight) (room : queue.total < 2 ^ 32 - 1) (entry : Entry)
    (blocking : Bool) :
    ∃ value next, queue.enqueue shape entry blocking 1 1 = (.queued value, next) ∧
      Single shape next ∧
      (next.queuedEntries shape).Perm (queue.queuedEntries shape ++ [entry]) := by
  rcases dataIndex_one hasPriority hasWeight with ⟨zero, inArray⟩
  have wide := shape.wideSize
  have notFull : queue.total ≠ shape.maxSize := by omega
  have entered := enqueue_room single.placed notFull entry blocking (Nat.le_refl 1)
    hasPriority (Nat.le_refl 1) hasWeight
  rw [zero] at entered
  refine ⟨_, _, entered, single.change (single.placed.push inArray) ?_, push_queuedEntries inArray⟩
  have counted := single.counted
  constructor
  · rw [push_backlog inArray, ← counted.1]
    exact Nat.mod_eq_of_lt (by omega)
  · exact Nat.mod_lt _ (Nat.two_pow_pos 32)

/-- An entry taken out, whatever the indexes are. -/
theorem Single.dequeue (single : Single shape queue) {blocking : Bool} {d : Nat}
    {entry : Entry} {next : QueueJob Entry}
    (dequeued : queue.dequeue shape blocking = some (.serves d entry, next)) :
    Single shape next ∧
      (queue.queuedEntries shape).Perm (entry :: next.queuedEntries shape) := by
  have placed := single.placed
  have perm := queuedEntries_of_dequeue placed dequeued
  have counted := (counted_of_dequeue placed single.counted dequeued).1
  rcases taken_of_dequeue placed dequeued with ⟨_, nextPlaced, index, left, data, rfl⟩
  have first : d = 0 := by
    by_contra other
    simp [single.others d other] at data
  subst first
  exact ⟨single.change nextPlaced counted, perm⟩

section Remove

variable [DecidableEq Entry]

theorem removeFrom_of_not_mem {entry : Entry} {d : Nat} (absent : entry ∉ queue.dataQueue d)
    (p : Nat) (totalRemove : Int) :
    removeFrom entry p (queue, totalRemove) d = (queue, totalRemove) := by
  have same : (queue.dataQueue d).filter (· ≠ entry) = queue.dataQueue d := by
    apply List.filter_eq_self.mpr
    intro other member
    simpa using fun equal : other = entry => absent (equal ▸ member)
  unfold removeFrom
  simp only [same, ne_eq, not_true, if_false, Function.update_eq_self]

theorem foldl_removeFrom_of_not_mem {entry : Entry} (ds : List Nat)
    (absent : ∀ d ∈ ds, entry ∉ queue.dataQueue d) (totalRemove : Int) :
    ds.foldl (fun state d => removeFrom entry (shape.priorityOf d) state d)
      (queue, totalRemove) = (queue, totalRemove) := by
  induction ds with
  | nil => rfl
  | cons d ds induction =>
    rw [List.foldl_cons, removeFrom_of_not_mem (absent d (by simp))]
    exact induction fun other member => absent other (by simp [member])

theorem removeFrom_count {d : Nat} (counted : Counted shape queue)
    (inArray : d < shape.numPriority * shape.maxWeight) (entry : Entry) (p : Nat) :
    (removeFrom entry p (queue, 0) d).2 =
      Int.bmod ((queue.dataQueue d).count entry) (2 ^ 32) := by
  have small := counted.2
  have total := counted.1
  rw [backlog_eq queue inArray] at total
  have parts := List.length_eq_countP_add_countP (· == entry) (l := queue.dataQueue d)
  have left : ((queue.dataQueue d).filter (· ≠ entry)).length =
      (queue.dataQueue d).countP (fun other => ¬ (other == entry) = true) := by
    rw [List.countP_eq_length_filter]
    congr 2
    funext other
    simp
  rw [← left] at parts
  have preSize : (queue.dataQueue d).length % 2 ^ 32 = (queue.dataQueue d).length :=
    Nat.mod_eq_of_lt (by omega)
  have postSize : ((queue.dataQueue d).filter (· ≠ entry)).length % 2 ^ 32 =
      ((queue.dataQueue d).filter (· ≠ entry)).length := Nat.mod_eq_of_lt (by omega)
  change (queue.dataQueue d).length = (queue.dataQueue d).count entry + _ at parts
  unfold removeFrom
  dsimp only
  rw [preSize, postSize]
  split
  · have removed : ((queue.dataQueue d).length +
        (2 ^ 32 - ((queue.dataQueue d).filter (· ≠ entry)).length)) % 2 ^ 32 =
        (queue.dataQueue d).count entry := by
      omega
    dsimp only
    rw [removed]
  · have none : (queue.dataQueue d).count entry = 0 := by omega
    rw [none]
    rfl

end Remove

theorem Single.queuedEntries_eq (single : Single shape queue)
    (inArray : 0 < shape.numPriority * shape.maxWeight) :
    queue.queuedEntries shape = queue.dataQueue 0 := by
  have empty : ∀ ds : List Nat, ds.flatMap (fun d => queue.dataQueue (d + 1)) = [] := by
    intro ds
    apply List.flatMap_eq_nil_iff.mpr
    intro d _
    exact single.others (d + 1) (Nat.succ_ne_zero d)
  unfold queuedEntries QueueShape.dataQueues
  rw [← Nat.succ_pred_eq_of_pos inArray, List.range_succ_eq_map, List.flatMap_cons,
    List.flatMap_map]
  simp [empty]

/-- Where there is one data queue, the number of removed entries is returned. -/
theorem Single.remove [DecidableEq Entry] (single : Single shape queue)
    (hasPriority : 1 ≤ shape.numPriority) (hasWeight : 1 ≤ shape.maxWeight) (entry : Entry) :
    ∃ next, queue.remove shape entry =
        (next, Int.bmod ((queue.queuedEntries shape).count entry) (2 ^ 32)) ∧
      Single shape next ∧
      next.queuedEntries shape = (queue.queuedEntries shape).filter (· ≠ entry) := by
  have inArray := (dataIndex_one hasPriority hasWeight).2
  have first : shape.priorityOf 0 = 0 := Nat.zero_div _
  have removed := removeFrom_eq entry single.counted inArray 0
  have count := removeFrom_count single.counted inArray entry (shape.priorityOf 0)
  have next : Single shape (queue.without shape entry 0) :=
    single.change (without_placed single.placed inArray)
      (without_counted entry single.counted inArray)
  have others : ∀ d ∈ (List.range (shape.numPriority * shape.maxWeight).pred).map Nat.succ,
      entry ∉ (queue.without shape entry 0).dataQueue d := by
    intro d member
    have positive : d ≠ 0 := by
      rcases List.mem_map.mp member with ⟨before, _, rfl⟩
      exact Nat.succ_ne_zero before
    rw [next.others d positive]
    exact List.not_mem_nil
  refine ⟨queue.without shape entry 0, ?_, next, ?_⟩
  · rw [remove_eq_foldl, QueueShape.dataQueues, ← Nat.succ_pred_eq_of_pos inArray,
      List.range_succ_eq_map, List.foldl_cons, ← Prod.mk.eta (p := removeFrom _ _ _ _),
      removed, foldl_removeFrom_of_not_mem _ others, count, single.queuedEntries_eq inArray]
  · rw [next.queuedEntries_eq inArray, single.queuedEntries_eq inArray,
      without_dataQueue_self]

end QueueJob

end OpenDiameter.Framework
