import OpenDiameter.Framework.QueueJob

/-!
The index queues count, for every data queue, how often it may be served before
it is looked at again.
-/

namespace OpenDiameter.Framework

namespace QueueShape

variable (shape : QueueShape)

/-- Arguments in range name a data queue of the array. -/
theorem dataIndex_inRange {priority weight : Nat} (lowPriority : 1 ≤ priority)
    (highPriority : priority ≤ shape.numPriority) (lowWeight : 1 ≤ weight)
    (highWeight : weight ≤ shape.maxWeight) :
    shape.priorityOf (shape.dataIndex priority weight) = priority - 1 ∧
      shape.weightOf (shape.dataIndex priority weight) = weight ∧
      index priority = priority - 1 ∧
      shape.dataIndex priority weight < shape.numPriority * shape.maxWeight := by
  have fewPriorities := shape.fewPriorities
  have fewWeights := shape.lowWeight
  have priorityFits : ¬ priority > maxNumPriority := by omega
  have weightFits : ¬ weight > maxMaxWeight := by omega
  have positive : 0 < shape.maxWeight := by omega
  have below : weight - 1 < shape.maxWeight := by omega
  have indexed : shape.dataIndex priority weight =
      (priority - 1) * shape.maxWeight + (weight - 1) := by
    simp only [dataIndex, priorityFits, weightFits, if_false]
  have rowFits : (priority - 1 + 1) * shape.maxWeight ≤
      shape.numPriority * shape.maxWeight := by
    apply Nat.mul_le_mul_right
    omega
  refine ⟨?_, ?_, ?_, ?_⟩
  · rw [priorityOf, indexed, Nat.mul_comm, Nat.mul_add_div positive,
      Nat.div_eq_of_lt below, Nat.add_zero]
  · rw [weightOf, indexed, Nat.mul_comm, Nat.mul_add_mod, Nat.mod_eq_of_lt below]
    omega
  · simp only [index, priorityFits, if_false]
  · rw [Nat.add_mul, Nat.one_mul] at rowFits
    omega

theorem priorityOf_lt {dIndex : Nat}
    (inArray : dIndex < shape.numPriority * shape.maxWeight) :
    shape.priorityOf dIndex < shape.numPriority := by
  rw [Nat.mul_comm] at inArray
  exact Nat.div_lt_of_lt_mul inArray

theorem weightOf_pos (dIndex : Nat) : 0 < shape.weightOf dIndex :=
  Nat.succ_pos _

end QueueShape

namespace QueueJob

variable {Entry : Type} (shape : QueueShape)

/-- What holds whatever is removed: an index queue only names data queues of its
priority, names and data are only in the array, and nobody has signaled. -/
structure Placed (queue : QueueJob Entry) : Prop where
  ofPriority : ∀ {p d}, d ∈ queue.indexQueue p → shape.priorityOf d = p
  named : ∀ {p d}, d ∈ queue.indexQueue p → d < shape.numPriority * shape.maxWeight
  inArray : ∀ {d}, queue.dataQueue d ≠ [] → d < shape.numPriority * shape.maxWeight
  quiet : queue.signaled = false

/-- A data queue is named once for every entry, up to its weight. -/
def Indexed (queue : QueueJob Entry) : Prop :=
  ∀ d, (queue.indexQueue (shape.priorityOf d)).count d =
    min (queue.dataQueue d).length (shape.weightOf d)

/-- The sum of the lengths of the data queues. -/
def backlog (queue : QueueJob Entry) : Nat :=
  (shape.dataQueues.map fun d => (queue.dataQueue d).length).sum

def queuedEntries (queue : QueueJob Entry) : List Entry :=
  shape.dataQueues.flatMap queue.dataQueue

variable {shape} {queue : QueueJob Entry}

theorem length_queuedEntries :
    (queue.queuedEntries shape).length = queue.backlog shape := by
  simp [queuedEntries, backlog, List.length_flatMap]

theorem Indexed.mem_iff (indexed : Indexed shape queue) (d : Nat) :
    d ∈ queue.indexQueue (shape.priorityOf d) ↔ queue.dataQueue d ≠ [] := by
  have counted := indexed d
  have weight := shape.weightOf_pos d
  rw [← List.count_pos_iff, counted, ← List.length_pos_iff]
  omega

theorem Placed.count_eq_zero (placed : Placed shape queue) {p d : Nat}
    (other : shape.priorityOf d ≠ p) : (queue.indexQueue p).count d = 0 := by
  rw [List.count_eq_zero]
  intro member
  exact other (placed.ofPriority member)

theorem fresh_placed : Placed shape (fresh : QueueJob Entry) where
  ofPriority := by simp [fresh]
  named := by simp [fresh]
  inArray := by simp [fresh]
  quiet := rfl

theorem fresh_indexed : Indexed shape (fresh : QueueJob Entry) := by
  simp [Indexed, fresh]

/-- One data queue and the index queue of its priority are replaced. -/
def change (shape : QueueShape) (queue : QueueJob Entry) (d : Nat) (index : List Nat)
    (left : List Entry) (total : Nat) : QueueJob Entry :=
  { queue with
    indexQueue := Function.update queue.indexQueue (shape.priorityOf d) index
    dataQueue := Function.update queue.dataQueue d left
    total }

section Change

variable {d : Nat} {index : List Nat} {left : List Entry} {total : Nat}

theorem Placed.change (placed : Placed shape queue)
    (named : ∀ other ∈ index, other ∈ queue.indexQueue (shape.priorityOf d) ∨ other = d)
    (inArray : d < shape.numPriority * shape.maxWeight) :
    Placed shape (queue.change shape d index left total) where
  ofPriority := by
    intro p other member
    by_cases same : p = shape.priorityOf d
    · subst same
      simp only [QueueJob.change, Function.update_self] at member
      rcases named other member with before | rfl
      · exact placed.ofPriority before
      · rfl
    · simp only [QueueJob.change, Function.update_of_ne same] at member
      exact placed.ofPriority member
  named := by
    intro p other member
    by_cases same : p = shape.priorityOf d
    · subst same
      simp only [QueueJob.change, Function.update_self] at member
      rcases named other member with before | rfl
      · exact placed.named before
      · exact inArray
    · simp only [QueueJob.change, Function.update_of_ne same] at member
      exact placed.named member
  inArray := by
    intro other some
    by_cases same : other = d
    · rw [same]
      exact inArray
    · simp only [QueueJob.change, Function.update_of_ne same] at some
      exact placed.inArray some
  quiet := placed.quiet

theorem Indexed.change (indexed : Indexed shape queue)
    (counted : index.count d = min left.length (shape.weightOf d))
    (others : ∀ other, other ≠ d →
      index.count other = (queue.indexQueue (shape.priorityOf d)).count other) :
    Indexed shape (queue.change shape d index left total) := by
  intro other
  by_cases same : other = d
  · simp [QueueJob.change, same, counted]
  · have before := indexed other
    by_cases samePriority : shape.priorityOf other = shape.priorityOf d
    · rw [samePriority] at before
      simp only [QueueJob.change, samePriority, Function.update_self,
        Function.update_of_ne same, others other same]
      exact before
    · simpa only [QueueJob.change, Function.update_of_ne samePriority,
        Function.update_of_ne same] using before

/-- The entries of all data queues but one. -/
def besides (shape : QueueShape) (queue : QueueJob Entry) (d : Nat) : List Entry :=
  (shape.dataQueues.erase d).flatMap queue.dataQueue

theorem queuedEntries_perm (queue : QueueJob Entry)
    (inArray : d < shape.numPriority * shape.maxWeight) :
    (queue.queuedEntries shape).Perm (queue.dataQueue d ++ queue.besides shape d) := by
  have member : d ∈ shape.dataQueues := List.mem_range.mpr inArray
  exact (List.perm_cons_erase member).flatMap_right queue.dataQueue

theorem besides_change : (queue.change shape d index left total).besides shape d =
    queue.besides shape d := by
  unfold besides
  apply List.flatMap_congr
  intro other member
  have different : other ≠ d := by
    intro same
    subst same
    exact (List.nodup_range.mem_erase_iff.mp member).1 rfl
  exact Function.update_of_ne different _ _

theorem queuedEntries_change (inArray : d < shape.numPriority * shape.maxWeight) :
    ((queue.change shape d index left total).queuedEntries shape).Perm
      (left ++ queue.besides shape d) := by
  have perm :=
    (queue.change shape d index left total).queuedEntries_perm inArray
  rw [besides_change] at perm
  simpa [QueueJob.change] using perm

theorem backlog_eq (queue : QueueJob Entry)
    (inArray : d < shape.numPriority * shape.maxWeight) :
    queue.backlog shape =
      (queue.dataQueue d).length + (queue.besides shape d).length := by
  rw [← length_queuedEntries, (queue.queuedEntries_perm inArray).length_eq,
    List.length_append]

theorem backlog_change (inArray : d < shape.numPriority * shape.maxWeight) :
    (queue.change shape d index left total).backlog shape =
      left.length + (queue.besides shape d).length := by
  rw [← length_queuedEntries, (queuedEntries_change inArray).length_eq,
    List.length_append]

end Change

/-! What `Enqueue` does. -/

section Enqueue

variable {entry : Entry} {priority weight : Nat}

theorem enqueue_full (placed : Placed shape queue) (full : queue.total = shape.maxSize)
    (blocking : Bool) :
    queue.enqueue shape entry blocking priority weight =
      (if blocking then .waits else .declines 0, queue) := by
  simp [enqueue, placed.quiet, full]

theorem enqueue_room (placed : Placed shape queue) (room : queue.total ≠ shape.maxSize)
    (entry : Entry) (blocking : Bool) (lowPriority : 1 ≤ priority) (highPriority : priority ≤ shape.numPriority)
    (lowWeight : 1 ≤ weight) (highWeight : weight ≤ shape.maxWeight) :
    let d := shape.dataIndex priority weight
    let index := queue.indexQueue (shape.priorityOf d)
    queue.enqueue shape entry blocking priority weight =
      (.queued (Int.bmod ((queue.total + 1) % 2 ^ 32 : Nat) (2 ^ 32)),
        queue.change shape d
          (if (queue.dataQueue d).length < shape.weightOf d then index ++ [d] else index)
          (queue.dataQueue d ++ [entry]) ((queue.total + 1) % 2 ^ 32)) := by
  rcases shape.dataIndex_inRange lowPriority highPriority lowWeight highWeight with
    ⟨ofPriority, ofWeight, indexed, _⟩
  intro d index
  have updated : (if (queue.dataQueue d).length < weight then
        Function.update queue.indexQueue (priority - 1)
          (queue.indexQueue (priority - 1) ++ [d])
      else queue.indexQueue) =
      Function.update queue.indexQueue (priority - 1)
        (if (queue.dataQueue d).length < weight then queue.indexQueue (priority - 1) ++ [d]
          else queue.indexQueue (priority - 1)) := by
    split
    · rfl
    · exact (Function.update_eq_self _ _).symm
  simp only [index, d, enqueue, placed.quiet, room, and_false, if_false, Bool.false_eq_true,
    false_and, change, ofPriority, ofWeight, indexed]
  rw [updated]

theorem Indexed.push (indexed : Indexed shape queue) {d total : Nat} :
    let index := queue.indexQueue (shape.priorityOf d)
    Indexed shape (queue.change shape d
      (if (queue.dataQueue d).length < shape.weightOf d then index ++ [d] else index)
      (queue.dataQueue d ++ [entry]) total) := by
  intro index
  have before := indexed d
  have counted : index.count d = min (queue.dataQueue d).length (shape.weightOf d) := before
  apply indexed.change
  · split
    · rw [List.count_append, counted, List.length_append, List.count_singleton_self,
        List.length_singleton]
      omega
    · rw [counted, List.length_append, List.length_singleton]
      omega
  · intro other different
    split
    · simp [List.count_append, different.symm, index]
    · rfl

theorem Placed.push (placed : Placed shape queue) {d total : Nat}
    (inArray : d < shape.numPriority * shape.maxWeight) :
    let index := queue.indexQueue (shape.priorityOf d)
    Placed shape (queue.change shape d
      (if (queue.dataQueue d).length < shape.weightOf d then index ++ [d] else index)
      (queue.dataQueue d ++ [entry]) total) := by
  intro index
  apply placed.change _ inArray
  intro other member
  split at member
  · simpa using member
  · exact Or.inl member

end Enqueue

/-! What `Dequeue` does. -/

section Dequeue

theorem front_eq_some {p d : Nat} {rest : List Nat}
    (found : queue.front shape = some (p, d, rest)) :
    queue.indexQueue p = d :: rest ∧ ∀ higher < p, queue.indexQueue higher = [] := by
  rcases List.findSome?_eq_some_iff.mp found with ⟨before, p', after, range, atFront, skipped⟩
  have front : p' = p ∧ queue.indexQueue p = d :: rest := by
    cases indexed : queue.indexQueue p' with
    | nil => simp [indexed] at atFront
    | cons first others =>
      simp only [indexed, Option.some.injEq, Prod.mk.injEq] at atFront
      rcases atFront with ⟨rfl, rfl, rfl⟩
      exact ⟨rfl, indexed⟩
  rcases front with ⟨rfl, front⟩
  constructor
  · exact front
  · intro higher less
    have ascending : (List.range shape.numPriority).Pairwise (· < ·) :=
      List.pairwise_lt_range
    have member : higher ∈ List.range shape.numPriority := by
      have bound : p' ∈ List.range shape.numPriority := by simp [range]
      rw [List.mem_range] at bound ⊢
      omega
    rw [range] at ascending member
    have above := (List.pairwise_cons.mp (List.pairwise_append.mp ascending).2.1).1
    have inBefore : higher ∈ before := by
      rcases List.mem_append.mp member with early | late
      · exact early
      · rcases List.mem_cons.mp late with same | beyond
        · omega
        · have := above higher beyond
          omega
    have none := skipped higher inBefore
    cases indexed : queue.indexQueue higher with
    | nil => rfl
    | cons first others => simp [indexed] at none

theorem front_isSome {d : Nat} (member : d ∈ queue.indexQueue (shape.priorityOf d))
    (inArray : d < shape.numPriority * shape.maxWeight) :
    ∃ p d' rest, queue.front shape = some (p, d', rest) := by
  cases found : queue.front shape with
  | some first => exact ⟨first.1, first.2.1, first.2.2, rfl⟩
  | none =>
    have empty := List.findSome?_eq_none_iff.mp found (shape.priorityOf d)
      (List.mem_range.mpr (shape.priorityOf_lt inArray))
    cases indexed : queue.indexQueue (shape.priorityOf d) with
    | nil => simp [indexed] at member
    | cons first others => simp [indexed] at empty

theorem dequeue_idle (placed : Placed shape queue) (idle : queue.total = 0)
    (blocking : Bool) :
    queue.dequeue shape blocking =
      some (if blocking then .waits else .declines 0, queue) := by
  simp [dequeue, placed.quiet, idle]

/-- What is taken out of a data queue, and what is left of the queues. -/
structure Served (shape : QueueShape) (queue : QueueJob Entry) (d : Nat) (entry : Entry)
    (next : QueueJob Entry) : Prop where
  changed : ∃ index left, queue.dataQueue d = entry :: left ∧
    next = queue.change shape d index left ((queue.total + (2 ^ 32 - 1)) % 2 ^ 32)
  highest : ∀ other, shape.priorityOf other < shape.priorityOf d →
    queue.dataQueue other = []
  placed : Placed shape next
  indexed : Indexed shape next

theorem dequeue_unserved {blocking : Bool} {reply : Reply Entry} {next : QueueJob Entry}
    (dequeued : queue.dequeue shape blocking = some (reply, next))
    (unserved : ∀ d entry, reply ≠ .serves d entry) : next = queue := by
  unfold dequeue at dequeued
  split at dequeued
  · simp only [Option.some.injEq, Prod.mk.injEq] at dequeued
    exact dequeued.2.symm
  · split at dequeued
    · simp only [Option.some.injEq, Prod.mk.injEq] at dequeued
      exact dequeued.2.symm
    · split at dequeued
      · simp only [Option.some.injEq, Prod.mk.injEq] at dequeued
        exact dequeued.2.symm
      · split at dequeued
        · cases dequeued
        · simp only [Option.some.injEq, Prod.mk.injEq] at dequeued
          exact (unserved _ _ dequeued.1.symm).elim

/-- An entry that is taken out was the first of its data queue, whatever is indexed. -/
theorem taken_of_dequeue (placed : Placed shape queue) {blocking : Bool} {d : Nat}
    {entry : Entry} {next : QueueJob Entry}
    (dequeued : queue.dequeue shape blocking = some (.serves d entry, next)) :
    queue.total ≠ 0 ∧ Placed shape next ∧
      ∃ index left, queue.dataQueue d = entry :: left ∧
        next = queue.change shape d index left ((queue.total + (2 ^ 32 - 1)) % 2 ^ 32) := by
  by_cases idle : queue.total = 0
  · rw [dequeue_idle placed idle] at dequeued
    cases blocking <;> simp at dequeued
  · simp only [dequeue, placed.quiet, idle, and_false, if_false, Bool.false_eq_true,
      false_and] at dequeued
    split at dequeued
    · simp at dequeued
    · rename_i p served rest found
      split at dequeued
      · simp at dequeued
      · rename_i first left data
        simp only [Option.some.injEq, Prod.mk.injEq, Reply.serves.injEq] at dequeued
        rcases dequeued with ⟨⟨rfl, rfl⟩, nextEq⟩
        have front := (front_eq_some found).1
        have ofPriority : shape.priorityOf served = p := placed.ofPriority (by simp [front])
        subst ofPriority
        have inArray : served < shape.numPriority * shape.maxWeight :=
          placed.inArray (by simp [data])
        have changed : next = queue.change shape served
            (if left.length ≥ shape.weightOf served then rest ++ [served] else rest) left
            ((queue.total + (2 ^ 32 - 1)) % 2 ^ 32) := by
          rw [← nextEq]
          simp [change, placed.quiet]
        refine ⟨idle, ?_, _, left, data, changed⟩
        rw [changed]
        apply placed.change _ inArray
        intro other member
        rw [front]
        split at member
        · rcases List.mem_append.mp member with member | member
          · exact Or.inl (List.mem_cons_of_mem _ member)
          · exact Or.inr (List.mem_singleton.mp member)
        · exact Or.inl (List.mem_cons_of_mem _ member)

/-- Where an entry is queued, one of the highest priority that has any is served. -/
theorem dequeue_serves (placed : Placed shape queue) (indexed : Indexed shape queue)
    (busy : queue.total ≠ 0) {d : Nat} (waiting : queue.dataQueue d ≠ []) (blocking : Bool) :
    ∃ d entry next, queue.dequeue shape blocking = some (.serves d entry, next) ∧
      Served shape queue d entry next := by
  rcases front_isSome ((indexed.mem_iff d).mpr waiting) (placed.inArray waiting) with
    ⟨p, served, rest, found⟩
  rcases front_eq_some found with ⟨front, higher⟩
  have ofPriority : shape.priorityOf served = p := placed.ofPriority (by simp [front])
  subst ofPriority
  have occupied : queue.dataQueue served ≠ [] := (indexed.mem_iff served).mp (by simp [front])
  rcases List.exists_cons_of_ne_nil occupied with ⟨entry, left, data⟩
  have counted := indexed served
  rw [front, data, List.count_cons_self, List.length_cons] at counted
  let index := if left.length ≥ shape.weightOf served then rest ++ [served] else rest
  have dequeued : queue.dequeue shape blocking = some (.serves served entry,
      queue.change shape served index left ((queue.total + (2 ^ 32 - 1)) % 2 ^ 32)) := by
    simp [dequeue, placed.quiet, busy, found, data, change, index]
  refine ⟨served, entry, _, dequeued, ⟨index, left, data, rfl⟩, ?_,
    (taken_of_dequeue placed dequeued).2.1, ?_⟩
  · intro other less
    have empty := higher _ less
    by_contra occupied
    have member := (indexed.mem_iff other).mpr occupied
    simp [empty] at member
  · apply indexed.change
    · unfold index
      split
      · rw [List.count_append, List.count_singleton_self]
        omega
      · omega
    · intro other different
      rw [front, List.count_cons_of_ne different.symm]
      unfold index
      split
      · simp [List.count_append, different.symm]
      · rfl

end Dequeue

end QueueJob

end OpenDiameter.Framework
