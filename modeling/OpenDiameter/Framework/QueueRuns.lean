import OpenDiameter.Foundation.Histories
import OpenDiameter.Framework.QueueRemoval

/-!
Sequences of calls on a queue that has just been constructed.
-/

namespace OpenDiameter.Framework

open Foundation

namespace QueueJob

variable {Entry : Type}

/-- That many `Dequeue` calls, each of which takes out an entry. -/
def drain (shape : QueueShape) : Nat → QueueJob Entry → Option (List Entry × QueueJob Entry)
  | 0, queue => some ([], queue)
  | count + 1, queue =>
    match queue.dequeue shape false with
    | some (.serves _ entry, next) => do
        let (entries, last) ← next.drain shape count
        return (entry :: entries, last)
    | _ => none

/-- The index queue of a priority holds the number of each of its data queues as
often as it may be served, the total is right, `Dequeue` succeeds when an entry is
queued, and every queued entry comes out. -/
structure Sound (shape : QueueShape) (queue : QueueJob Entry) : Prop where
  indexed : ∀ p < shape.numPriority, ∀ d ∈ shape.dataQueues,
    (queue.indexQueue p).count d =
      if shape.priorityOf d = p then
        min (queue.dataQueue d).length (shape.weightOf d)
      else 0
  total : queue.total = queue.backlog shape
  serves : 0 < queue.backlog shape → ∀ blocking, ∃ d entry next,
    queue.dequeue shape blocking = some (.serves d entry, next)
  drains : ∃ entries last, queue.drain shape (queue.backlog shape) = some (entries, last) ∧
    entries.Perm (queue.queuedEntries shape) ∧ last.queuedEntries shape = []

variable {shape : QueueShape} {queue : QueueJob Entry}

theorem exists_waiting (some : 0 < queue.backlog shape) :
    ∃ d, queue.dataQueue d ≠ [] := by
  rw [← length_queuedEntries, List.length_pos_iff_exists_mem] at some
  rcases some with ⟨entry, queued⟩
  rcases List.mem_flatMap.mp queued with ⟨d, _, member⟩
  exact ⟨d, List.ne_nil_of_mem member⟩

/-- An entry that is taken out leaves the others queued. -/
theorem queuedEntries_of_dequeue (placed : Placed shape queue) {blocking : Bool} {d : Nat}
    {entry : Entry} {next : QueueJob Entry}
    (dequeued : queue.dequeue shape blocking = some (.serves d entry, next)) :
    (queue.queuedEntries shape).Perm (entry :: next.queuedEntries shape) := by
  rcases taken_of_dequeue placed dequeued with ⟨_, _, index, left, data, rfl⟩
  have inArray : d < shape.numPriority * shape.maxWeight :=
    placed.inArray (by simp [data])
  have before := queue.queuedEntries_perm inArray
  rw [data, List.cons_append] at before
  exact before.trans ((queuedEntries_change inArray).symm.cons entry)

theorem counted_of_dequeue (placed : Placed shape queue) (counted : Counted shape queue)
    {blocking : Bool} {d : Nat} {entry : Entry} {next : QueueJob Entry}
    (dequeued : queue.dequeue shape blocking = some (.serves d entry, next)) :
    Counted shape next ∧ queue.backlog shape = next.backlog shape + 1 := by
  have perm := (queuedEntries_of_dequeue placed dequeued).length_eq
  rw [List.length_cons, length_queuedEntries, length_queuedEntries] at perm
  have small := counted.2
  have before := counted.1
  rcases taken_of_dequeue placed dequeued with ⟨_, _, index, left, _, rfl⟩
  have total : (queue.change shape d index left ((queue.total + (2 ^ 32 - 1)) % 2 ^ 32)).total =
      (queue.total + (2 ^ 32 - 1)) % 2 ^ 32 := rfl
  refine ⟨⟨?_, ?_⟩, perm⟩
  · rw [total]
    omega
  · rw [total]
    omega

theorem drains (count : Nat) (placed : Placed shape queue) (indexed : Indexed shape queue)
    (counted : Counted shape queue) (backlog : queue.backlog shape = count) :
    ∃ entries last, queue.drain shape count = some (entries, last) ∧
      entries.Perm (queue.queuedEntries shape) ∧ last.queuedEntries shape = [] := by
  induction count generalizing queue with
  | zero =>
    rw [← length_queuedEntries, List.length_eq_zero_iff] at backlog
    exact ⟨[], queue, rfl, by rw [backlog], backlog⟩
  | succ count induction =>
    have busy : queue.total ≠ 0 := by
      rw [counted.1]
      omega
    have some : 0 < queue.backlog shape := by omega
    rcases exists_waiting some with ⟨d, waiting⟩
    rcases dequeue_serves placed indexed busy waiting false with
      ⟨d, entry, next, dequeued, served⟩
    have after := counted_of_dequeue placed counted dequeued
    rcases induction served.placed served.indexed after.1 (by omega) with
      ⟨entries, last, drained, perm, empty⟩
    refine ⟨entry :: entries, last, ?_, ?_, empty⟩
    · simp [drain, dequeued, drained]
    · exact (perm.cons entry).trans (queuedEntries_of_dequeue placed dequeued).symm

theorem sound_iff (placed : Placed shape queue) (small : queue.total < 2 ^ 32) :
    Sound shape queue ↔ Indexed shape queue ∧ Counted shape queue := by
  constructor
  · intro sound
    constructor
    · intro d
      by_cases inArray : d < shape.numPriority * shape.maxWeight
      · have counted := sound.indexed _ (shape.priorityOf_lt inArray) d
          (List.mem_range.mpr inArray)
        simpa using counted
      · have empty : queue.dataQueue d = [] := by
          by_contra occupied
          exact inArray (placed.inArray occupied)
        rw [empty, List.length_nil, Nat.zero_min, List.count_eq_zero]
        exact fun member => inArray (placed.named member)
    · exact ⟨sound.total, small⟩
  · intro both
    rcases both with ⟨indexed, counted⟩
    constructor
    · intro p _ d _
      split
      · rename_i same
        rw [← same]
        exact indexed d
      · rename_i other
        exact placed.count_eq_zero other
    · exact counted.1
    · intro some blocking
      rcases exists_waiting some with ⟨d, waiting⟩
      have busy : queue.total ≠ 0 := by
        rw [counted.1]
        omega
      rcases dequeue_serves placed indexed busy waiting blocking with
        ⟨d, entry, next, dequeued, _⟩
      exact ⟨d, entry, next, dequeued⟩
    · exact drains _ placed indexed counted rfl

theorem push_backlog {entry : Entry} {d total : Nat} {index : List Nat}
    (inArray : d < shape.numPriority * shape.maxWeight) :
    (queue.change shape d index (queue.dataQueue d ++ [entry]) total).backlog shape =
      queue.backlog shape + 1 := by
  rw [backlog_change inArray, backlog_eq queue inArray, List.length_append,
    List.length_singleton]
  omega

theorem push_queuedEntries {entry : Entry} {d total : Nat} {index : List Nat}
    (inArray : d < shape.numPriority * shape.maxWeight) :
    ((queue.change shape d index (queue.dataQueue d ++ [entry]) total).queuedEntries shape).Perm
      (queue.queuedEntries shape ++ [entry]) := by
  apply (queuedEntries_change inArray).trans
  apply List.Perm.trans _ ((queue.queuedEntries_perm inArray).symm.append_right [entry])
  rw [List.append_assoc, List.append_assoc]
  exact List.perm_append_comm.append_left _

/-- What holds of every state, whatever the calls. -/
structure Known (shape : QueueShape) (queue : QueueJob Entry) : Prop where
  placed : Placed shape queue
  small : queue.total < 2 ^ 32

theorem fresh_small : (fresh : QueueJob Entry).total < 2 ^ 32 :=
  Nat.two_pow_pos 32

theorem fresh_known : Known shape (fresh : QueueJob Entry) :=
  ⟨fresh_placed, fresh_small⟩

theorem fresh_sound : Sound shape (fresh : QueueJob Entry) := by
  rw [sound_iff fresh_placed fresh_small]
  exact ⟨fresh_indexed, by simp [fresh, backlog], fresh_small⟩

end QueueJob

namespace QueueCall

variable {Entry : Type}

/-- The condition on a call: `Enqueue` on a platform where `size_t` is wider than
`unsigned` does not find `UINT_MAX` entries queued, and `Remove` leaves no entry in
a data queue it takes one from. -/
def Fits (shape : QueueShape) (queue : QueueJob Entry) : QueueCall Entry → Prop
  | .enqueue .. => queue.backlog shape ≠ 2 ^ 32 - 1 ∨ shape.maxSize = 2 ^ 32 - 1
  | .remove entry =>
    ∀ d ∈ shape.dataQueues, entry ∈ queue.dataQueue d →
      ∀ other ∈ queue.dataQueue d, other = entry
  | _ => True

variable {shape : QueueShape} {queue : QueueJob Entry}

open QueueJob

theorem enqueue_sound_iff {entry : Entry} {blocking : Bool} {priority weight : Nat}
    (known : Known shape queue) (sound : Sound shape queue)
    (inRange : InRange shape (.enqueue entry blocking priority weight)) :
    let next := (queue.enqueue shape entry blocking priority weight).2
    Known shape next ∧
      (Fits shape queue (.enqueue entry blocking priority weight) ↔ Sound shape next) := by
  rcases inRange with ⟨lowPriority, highPriority, lowWeight, highWeight⟩
  have inArray :=
    (shape.dataIndex_inRange lowPriority highPriority lowWeight highWeight).2.2.2
  have small := known.small
  have wide := shape.wideSize
  have total := sound.total
  intro next
  by_cases full : queue.total = shape.maxSize
  · have unchanged : next = queue := by
      simp only [next, enqueue_full known.placed full]
    rw [unchanged]
    refine ⟨known, fun _ => sound, fun _ => Or.inr ?_⟩
    omega
  · have entered := enqueue_room known.placed full entry blocking lowPriority
      highPriority lowWeight highWeight
    have nextEq := congrArg Prod.snd entered
    change next = _ at nextEq
    have indexed := ((sound_iff known.placed small).mp sound).1
    have nextPlaced : Placed shape next := by
      rw [nextEq]
      exact known.placed.push inArray
    have nextIndexed : Indexed shape next := by
      rw [nextEq]
      exact indexed.push
    have nextTotal : next.total = (queue.total + 1) % 2 ^ 32 := by
      rw [nextEq]
      rfl
    have nextBacklog : next.backlog shape = queue.backlog shape + 1 := by
      rw [nextEq]
      exact push_backlog inArray
    have nextSmall : next.total < 2 ^ 32 := by omega
    refine ⟨⟨nextPlaced, nextSmall⟩, ?_⟩
    rw [sound_iff nextPlaced nextSmall]
    simp only [Fits, Counted, nextIndexed, true_and, nextTotal, nextBacklog]
    omega

theorem dequeue_sound (blocking : Bool) (known : Known shape queue)
    (sound : Sound shape queue) :
    ∃ reply next, queue.dequeue shape blocking = some (reply, next) ∧
      Known shape next ∧ Sound shape next := by
  rcases (sound_iff known.placed known.small).mp sound with ⟨indexed, counted⟩
  by_cases idle : queue.total = 0
  · exact ⟨_, queue, dequeue_idle known.placed idle blocking, known, sound⟩
  · have some : 0 < queue.backlog shape := by
      rw [← counted.1]
      omega
    rcases exists_waiting some with ⟨d, waiting⟩
    rcases dequeue_serves known.placed indexed idle waiting blocking with
      ⟨d, entry, next, dequeued, served⟩
    have after := (counted_of_dequeue known.placed counted dequeued).1
    refine ⟨_, next, dequeued, ⟨served.placed, after.2⟩, ?_⟩
    exact (sound_iff served.placed after.2).mpr ⟨served.indexed, after⟩

variable [DecidableEq Entry]

/-- `Remove` erases the indexes of entries that stay. -/
theorem remove_sound_iff (entry : Entry) (known : Known shape queue)
    (sound : Sound shape queue) :
    let next := (queue.remove shape entry).1
    Known shape next ∧ (Fits shape queue (.remove entry) ↔ Sound shape next) := by
  rcases (sound_iff known.placed known.small).mp sound with ⟨indexed, counted⟩
  intro next
  have removed : RemovedFrom shape queue entry shape.dataQueues next :=
    remove_spec counted known.placed entry
  refine ⟨⟨removed.placed, removed.counted.2⟩, ?_⟩
  have data : ∀ d, next.dataQueue d = (queue.dataQueue d).filter (· ≠ entry) := by
    intro d
    rw [removed.data]
    split
    · rfl
    · rename_i outside
      have empty : queue.dataQueue d = [] := by
        by_contra occupied
        exact outside (List.mem_range.mpr (known.placed.inArray occupied))
      simp [empty]
  have index : ∀ d, (next.indexQueue (shape.priorityOf d)).count d =
      if entry ∈ queue.dataQueue d then 0
      else min (queue.dataQueue d).length (shape.weightOf d) := by
    intro d
    rw [removed.index]
    split
    · rename_i held
      have inArray := known.placed.inArray (List.ne_nil_of_mem held)
      rw [List.count_eq_zero]
      intro member
      have kept := (List.mem_filter.mp member).2
      simp [QueueShape.dataQueues, held, inArray] at kept
    · rename_i free
      rw [List.count_filter (by simp [free]), indexed d]
  rw [sound_iff removed.placed removed.counted.2]
  constructor
  · intro fits
    refine ⟨?_, removed.counted⟩
    intro d
    rw [index, data]
    split
    · rename_i held
      have inArray := known.placed.inArray (List.ne_nil_of_mem held)
      have gone : (queue.dataQueue d).filter (· ≠ entry) = [] := by
        apply List.filter_eq_nil_iff.mpr
        intro other member
        simpa using fits d (List.mem_range.mpr inArray) held other member
      rw [gone]
      rfl
    · rename_i free
      have same : (queue.dataQueue d).filter (· ≠ entry) = queue.dataQueue d := by
        apply List.filter_eq_self.mpr
        intro other member
        simpa using fun equal : other = entry => free (equal ▸ member)
      rw [same]
  · intro both d _ held other member
    by_contra different
    have left := both.1 d
    rw [index, data, if_pos held] at left
    have kept : other ∈ (queue.dataQueue d).filter (· ≠ entry) := by
      simpa using ⟨member, different⟩
    have positive := List.length_pos_of_mem kept
    have weight := shape.weightOf_pos d
    omega

omit [DecidableEq Entry] in
theorem flush_sound (known : Known shape queue) :
    Known shape (queue.flush shape) ∧ Sound shape (queue.flush shape) := by
  have data : ∀ d, (queue.flush shape).dataQueue d = [] := by
    intro d
    by_contra occupied
    simp only [QueueJob.flush] at occupied
    split at occupied
    · exact occupied rfl
    · rename_i outside
      exact outside (known.placed.inArray occupied)
  have index : ∀ p, (queue.flush shape).indexQueue p = [] := by
    intro p
    apply List.eq_nil_iff_forall_not_mem.mpr
    intro d member
    simp only [QueueJob.flush] at member
    split at member
    · cases member
    · rename_i outside
      apply outside
      rw [← known.placed.ofPriority member]
      exact shape.priorityOf_lt (known.placed.named member)
  have placed : Placed shape (queue.flush shape) :=
    { ofPriority := by simp [index]
      named := by simp [index]
      inArray := by simp [data]
      quiet := known.placed.quiet }
  have small : (queue.flush shape).total < 2 ^ 32 := by simp [QueueJob.flush]
  refine ⟨⟨placed, small⟩, (sound_iff placed small).mpr ⟨?_, ?_, small⟩⟩
  · simp [Indexed, index, data]
  · have empty : (queue.flush shape).backlog shape = 0 := by simp [backlog, data]
    rw [empty]
    rfl

/-- A call keeps the queue sound exactly when it fits. -/
theorem perform_sound_iff {call : QueueCall Entry} (inRange : call.InRange shape)
    (known : Known shape queue) (sound : Sound shape queue) :
    ∃ reply next, call.perform shape queue = some (reply, next) ∧ Known shape next ∧
      (call.Fits shape queue ↔ Sound shape next) := by
  cases call with
  | enqueue entry blocking priority weight =>
    have entered := enqueue_sound_iff known sound inRange
    exact ⟨_, _, rfl, entered⟩
  | dequeue blocking =>
    rcases dequeue_sound blocking known sound with
      ⟨reply, next, dequeued, nextKnown, nextSound⟩
    exact ⟨reply, next, dequeued, nextKnown, fun _ => nextSound, fun _ => trivial⟩
  | remove entry =>
    have removed := remove_sound_iff entry known sound
    exact ⟨_, _, rfl, removed⟩
  | flush =>
    have flushed := flush_sound known
    exact ⟨_, _, rfl, flushed.1, fun _ => flushed.2, fun _ => trivial⟩

end QueueCall

/-- A sequence of calls in range keeps the queue sound throughout exactly when
each of its calls fits the queue it is made on. -/
theorem queue_sound_iff {Entry : Type} [DecidableEq Entry] (shape : QueueShape)
    (calls : List (QueueCall Entry)) (inRange : ∀ call ∈ calls, call.InRange shape) :
    Component.Always (QueueCall.perform shape) (QueueJob.Sound shape) .fresh calls ↔
      Component.Meets (QueueCall.perform shape) (QueueCall.Fits shape) .fresh calls := by
  apply Component.always_iff_meets (QueueJob.Known shape) _ _ inRange
    QueueJob.fresh_known QueueJob.fresh_sound
  · intro queue call reply next callInRange known sound performed
    rcases QueueCall.perform_sound_iff callInRange known sound with
      ⟨_, _, performed', nextKnown, _⟩
    rw [performed] at performed'
    cases performed'
    exact nextKnown
  · intro queue call callInRange known sound
    rcases QueueCall.perform_sound_iff callInRange known sound with
      ⟨reply, next, performed, _, fits⟩
    rw [fits]
    constructor
    · intro nextSound
      exact ⟨reply, next, performed, nextSound⟩
    · intro after
      rcases after with ⟨reply', next', performed', nextSound⟩
      rw [performed] at performed'
      cases performed'
      exact nextSound

/-- One priority and one weight, where `size_t` has 64 bits. -/
def singleQueue : QueueShape where
  numPriority := 1
  maxWeight := 1
  maxSize := 2 ^ 64 - 1
  fewPriorities := by decide
  lowWeight := by decide
  wideSize := by decide

/-- A removal that empties the data queue. -/
theorem queue_sound_after_remove :
    Component.Always (QueueCall.perform singleQueue) (QueueJob.Sound singleQueue)
      .fresh [.enqueue "first" false 1 1, .remove "first", .dequeue true] := by
  apply (queue_sound_iff singleQueue _ (by simp [QueueCall.InRange, singleQueue])).mpr
  simp [Component.Meets, QueueCall.Fits, QueueCall.perform, QueueJob.enqueue, QueueJob.fresh,
    QueueJob.backlog, QueueShape.dataQueues, QueueShape.dataIndex, QueueShape.index,
    singleQueue, maxNumPriority, maxMaxWeight]

/-- The entry put in behind the removed one is stranded. -/
theorem queue_unsound_after_remove :
    ¬ Component.Always (QueueCall.perform singleQueue) (QueueJob.Sound singleQueue)
      .fresh [.enqueue "first" false 1 1, .enqueue "second" false 1 1, .remove "first"] := by
  intro always
  rcases always with ⟨_, _, one, first, _, _, two, second, _, _, three, third, sound⟩
  simp [QueueCall.perform, QueueJob.enqueue, QueueJob.fresh, singleQueue, QueueShape.dataIndex,
    QueueShape.index, maxNumPriority, maxMaxWeight] at first
  rcases first with ⟨_, rfl⟩
  simp [QueueCall.perform, QueueJob.enqueue, singleQueue, QueueShape.dataIndex,
    maxNumPriority, maxMaxWeight] at second
  rcases second with ⟨_, rfl⟩
  simp [QueueCall.perform, QueueJob.remove, QueueJob.removeFrom, singleQueue,
    QueueJob.adjustIndexQueue_eq_filter] at third
  rcases third with ⟨_, rfl⟩
  have counted := sound.indexed 0 (by decide) 0 (by decide)
  simp [singleQueue, QueueShape.priorityOf, QueueShape.weightOf] at counted

end OpenDiameter.Framework
