import OpenDiameter.Framework.QueueIndex

/-!
`Remove` takes an entry out of every data queue. The loop that should shorten the
index queue to the entries left erases every index of the data queue.
-/

namespace OpenDiameter.Framework

namespace QueueJob

variable {Entry : Type} {shape : QueueShape} {queue : QueueJob Entry}

theorem adjustIndexQueue_eq_filter (dIndex size j : Nat) (index : List Nat) :
    adjustIndexQueue dIndex size j index = index.filter (· ≠ dIndex) := by
  fun_induction adjustIndexQueue dIndex size j index with
  | case1 => rfl
  | case2 j rest beyond induction => simpa using induction
  | case3 j rest within induction => exact induction
  | case4 j index rest different induction => simp [different, induction]

/-- The number kept of the entries is the number there are. -/
def Counted (shape : QueueShape) (queue : QueueJob Entry) : Prop :=
  queue.total = queue.backlog shape ∧ queue.total < 2 ^ 32

section Remove

variable [DecidableEq Entry] {entry : Entry}

/-- One data queue loses the entry, and all its indexes if it held it. -/
def without (shape : QueueShape) (queue : QueueJob Entry) (entry : Entry) (d : Nat) :
    QueueJob Entry :=
  let left := (queue.dataQueue d).filter (· ≠ entry)
  queue.change shape d
    ((queue.indexQueue (shape.priorityOf d)).filter
      fun other => other ≠ d ∨ entry ∉ queue.dataQueue d)
    left (left.length + (queue.besides shape d).length)

theorem without_counted (entry : Entry) {d : Nat} (counted : Counted shape queue)
    (inArray : d < shape.numPriority * shape.maxWeight) :
    Counted shape (queue.without shape entry d) := by
  have before := counted.1
  have small := counted.2
  rw [backlog_eq queue inArray] at before
  have shorter := List.length_filter_le (· ≠ entry) (queue.dataQueue d)
  constructor
  · exact (backlog_change inArray).symm
  · change ((queue.dataQueue d).filter (· ≠ entry)).length +
      (queue.besides shape d).length < 2 ^ 32
    omega

theorem without_placed {d : Nat} (placed : Placed shape queue)
    (inArray : d < shape.numPriority * shape.maxWeight) :
    Placed shape (queue.without shape entry d) := by
  apply placed.change _ inArray
  intro other member
  exact Or.inl (List.mem_filter.mp member).1

theorem removeFrom_eq (entry : Entry) {d : Nat} (counted : Counted shape queue)
    (inArray : d < shape.numPriority * shape.maxWeight) (totalRemove : Int) :
    (removeFrom entry (shape.priorityOf d) (queue, totalRemove) d).1 =
      queue.without shape entry d := by
  have before := counted.1
  have small := counted.2
  rw [backlog_eq queue inArray] at before
  have shorter := List.length_filter_le (· ≠ entry) (queue.dataQueue d)
  have preSize : (queue.dataQueue d).length % 2 ^ 32 = (queue.dataQueue d).length :=
    Nat.mod_eq_of_lt (by omega)
  have postSize : ((queue.dataQueue d).filter (· ≠ entry)).length % 2 ^ 32 =
      ((queue.dataQueue d).filter (· ≠ entry)).length := Nat.mod_eq_of_lt (by omega)
  by_cases held : entry ∈ queue.dataQueue d
  · have fewer : ((queue.dataQueue d).filter (· ≠ entry)).length <
        (queue.dataQueue d).length := by
      apply List.length_filter_lt_length_iff_exists.mpr
      exact ⟨entry, held, by simp⟩
    have total : (queue.total + (2 ^ 32 - ((queue.dataQueue d).length +
          (2 ^ 32 - ((queue.dataQueue d).filter (· ≠ entry)).length)) % 2 ^ 32)) % 2 ^ 32 =
        ((queue.dataQueue d).filter (· ≠ entry)).length + (queue.besides shape d).length := by
      omega
    have index : (queue.indexQueue (shape.priorityOf d)).filter
          (fun other => other ≠ d ∨ entry ∉ queue.dataQueue d) =
        (queue.indexQueue (shape.priorityOf d)).filter (· ≠ d) := by
      simp [held]
    unfold removeFrom without change
    dsimp only
    rw [preSize, postSize, if_pos fewer.ne', adjustIndexQueue_eq_filter, total, index]
  · have same : (queue.dataQueue d).filter (· ≠ entry) = queue.dataQueue d := by
      apply List.filter_eq_self.mpr
      intro other member
      simpa using fun equal : other = entry => held (equal ▸ member)
    unfold removeFrom without change
    simp only [same, held, not_false_eq_true, or_true, decide_true, List.filter_true,
      Function.update_eq_self, ne_eq, not_true, if_false]
    rw [← before]

@[simp] theorem without_dataQueue_self (queue : QueueJob Entry) (d : Nat) :
    (queue.without shape entry d).dataQueue d = (queue.dataQueue d).filter (· ≠ entry) := by
  simp [without, change]

theorem without_dataQueue_of_ne (queue : QueueJob Entry) {d other : Nat}
    (different : other ≠ d) :
    (queue.without shape entry d).dataQueue other = queue.dataQueue other := by
  simp [without, change, different]

theorem without_indexQueue (placed : Placed shape queue) (d p : Nat) :
    (queue.without shape entry d).indexQueue p =
      (queue.indexQueue p).filter fun other => other ≠ d ∨ entry ∉ queue.dataQueue d := by
  by_cases same : p = shape.priorityOf d
  · simp [without, change, same]
  · simp only [without, change, Function.update_of_ne same]
    symm
    apply List.filter_eq_self.mpr
    intro other member
    have different : other ≠ d := by
      intro equal
      apply same
      rw [← equal]
      exact (placed.ofPriority member).symm
    simp [different]

/-- The entry is gone from the listed data queues, and so is every index of those
that held it. -/
structure RemovedFrom (shape : QueueShape) (queue : QueueJob Entry) (entry : Entry)
    (ds : List Nat) (next : QueueJob Entry) : Prop where
  counted : Counted shape next
  placed : Placed shape next
  data : ∀ d, next.dataQueue d =
    if d ∈ ds then (queue.dataQueue d).filter (· ≠ entry) else queue.dataQueue d
  index : ∀ p, next.indexQueue p =
    (queue.indexQueue p).filter fun d => d ∉ ds ∨ entry ∉ queue.dataQueue d

theorem removeFrom_all (counted : Counted shape queue) (placed : Placed shape queue)
    (ds : List Nat) (once : ds.Nodup)
    (inArray : ∀ d ∈ ds, d < shape.numPriority * shape.maxWeight) (totalRemove : Int) :
    RemovedFrom shape queue entry ds
      (ds.foldl (fun state d => removeFrom entry (shape.priorityOf d) state d)
        (queue, totalRemove)).1 := by
  induction ds generalizing queue totalRemove with
  | nil => exact ⟨counted, placed, by simp, by simp⟩
  | cons d ds induction =>
    have headInArray : d < shape.numPriority * shape.maxWeight := inArray d (by simp)
    have headOnce : d ∉ ds := (List.nodup_cons.mp once).1
    have removed := removeFrom_eq entry counted headInArray totalRemove
    have rest := induction (without_counted entry counted headInArray)
      (without_placed placed headInArray) (List.nodup_cons.mp once).2
      (fun other member => inArray other (by simp [member]))
      (removeFrom entry (shape.priorityOf d) (queue, totalRemove) d).2
    rw [← removed, Prod.mk.eta] at rest
    rw [List.foldl_cons]
    constructor
    · exact rest.counted
    · exact rest.placed
    · intro other
      rw [rest.data, removed]
      by_cases same : other = d
      · simp [same, headOnce]
      · simp [same, without_dataQueue_of_ne queue same]
    · intro p
      rw [rest.index, removed, without_indexQueue placed, List.filter_filter]
      apply List.filter_congr
      intro other _
      by_cases same : other = d
      · simp [same, headOnce]
      · simp [same, without_dataQueue_of_ne queue same]

theorem remove_eq_foldl (queue : QueueJob Entry) (entry : Entry) :
    queue.remove shape entry =
      shape.dataQueues.foldl (fun state d => removeFrom entry (shape.priorityOf d) state d)
        (queue, 0) := by
  have rows : ∀ n, (List.range n).flatMap
      (fun i => List.range' (i * shape.maxWeight) shape.maxWeight) =
        List.range (n * shape.maxWeight) := by
    intro n
    induction n with
    | zero => simp
    | succ n induction =>
      rw [List.range_succ, List.flatMap_append, induction, List.range_eq_range',
        List.range_eq_range', Nat.add_mul, Nat.one_mul, ← List.range'_append_1]
      simp
  unfold remove QueueShape.dataQueues
  rw [← rows, List.foldl_flatMap]
  apply List.foldl_ext
  intro state i _
  apply List.foldl_ext
  intro state d member
  have row := List.mem_range'_1.mp member
  have ofPriority : shape.priorityOf d = i := by
    apply Nat.div_eq_of_lt_le
    · omega
    · rw [Nat.add_mul, Nat.one_mul]
      omega
  rw [ofPriority]

/-- `Remove` of an entry from a queue whose number of entries is right. -/
theorem remove_spec (counted : Counted shape queue) (placed : Placed shape queue)
    (entry : Entry) :
    RemovedFrom shape queue entry shape.dataQueues (queue.remove shape entry).1 := by
  rw [remove_eq_foldl]
  apply removeFrom_all counted placed _ List.nodup_range
  intro d member
  exact List.mem_range.mp member

end Remove

end QueueJob

end OpenDiameter.Framework
