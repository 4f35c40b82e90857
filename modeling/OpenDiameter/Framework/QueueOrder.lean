import OpenDiameter.Framework.QueueRuns

/-!
The order in which entries come out, and that they are the entries put in.
-/

namespace OpenDiameter.Framework

open Foundation

variable {Entry : Type}

abbrev QueueEvent (Entry : Type) := QueueCall Entry × Reply Entry

namespace QueueEvent

def enteredAt (priority weight : Nat) : QueueEvent Entry → Option Entry
  | (.enqueue entry _ p w, .queued _) => if p = priority ∧ w = weight then some entry else none
  | _ => none

def enteredEntry : QueueEvent Entry → Option Entry
  | (.enqueue entry _ _ _, .queued _) => some entry
  | _ => none

def servedAt (d : Nat) : QueueEvent Entry → Option Entry
  | (_, .serves dIndex entry) => if dIndex = d then some entry else none
  | _ => none

def servedEntry : QueueEvent Entry → Option Entry
  | (_, .serves _ entry) => some entry
  | _ => none

end QueueEvent

/-- `Enqueue` and `Dequeue`. -/
def QueueCall.Moves : QueueCall Entry → Prop
  | .enqueue .. => True
  | .dequeue _ => True
  | _ => False

open QueueEvent QueueJob

/-- Each data queue gives out what was put into it, in that order, and holds the
rest; together nothing is lost or duplicated. -/
structure Conserves (shape : QueueShape) (events : List (QueueEvent Entry))
    (queue : QueueJob Entry) : Prop where
  ordered : ∀ priority weight, 1 ≤ priority → priority ≤ shape.numPriority →
    1 ≤ weight → weight ≤ shape.maxWeight →
    events.filterMap (enteredAt priority weight) =
      events.filterMap (servedAt (shape.dataIndex priority weight)) ++
        queue.dataQueue (shape.dataIndex priority weight)
  conserved : (events.filterMap enteredEntry).Perm
    (events.filterMap servedEntry ++ queue.queuedEntries shape)

/-- `Dequeue` takes the first entry of a data queue of the highest priority that has
any; it takes none only when the total is 0, which is the number of the queued
entries modulo 2^32. -/
structure ServesHighest (shape : QueueShape) (queue : QueueJob Entry) : Prop where
  total : queue.total = queue.backlog shape % 2 ^ 32
  serves : ∀ blocking, ∃ reply next, queue.dequeue shape blocking = some (reply, next) ∧
    ((queue.total = 0 ∧ reply = (if blocking then .waits else .declines 0)) ∨
      ∃ d entry left, reply = .serves d entry ∧ queue.dataQueue d = entry :: left ∧
        next.dataQueue = Function.update queue.dataQueue d left ∧
        ∀ other, shape.priorityOf other < shape.priorityOf d → queue.dataQueue other = [])

namespace QueueJob

variable {shape : QueueShape} {queue : QueueJob Entry} {events : List (QueueEvent Entry)}

/-- What `Enqueue` and `Dequeue` keep. -/
structure Queued (shape : QueueShape) (events : List (QueueEvent Entry))
    (queue : QueueJob Entry) : Prop where
  placed : Placed shape queue
  indexed : Indexed shape queue
  total : queue.total = queue.backlog shape % 2 ^ 32
  conserves : Conserves shape events queue

theorem fresh_queued : Queued shape [] (fresh : QueueJob Entry) where
  placed := fresh_placed
  indexed := fresh_indexed
  total := by simp [fresh, backlog]
  conserves :=
    { ordered := by simp [fresh]
      conserved := by simp [fresh, queuedEntries] }

/-- A call that neither enters nor serves an entry. -/
theorem Queued.idle (queued : Queued shape events queue) {call : QueueCall Entry}
    {reply : Reply Entry} (notQueued : ∀ value, reply ≠ .queued value)
    (notServed : ∀ d entry, reply ≠ .serves d entry) :
    Queued shape (events ++ [(call, reply)]) queue := by
  have noEntry : ∀ priority weight, enteredAt priority weight (call, reply) = none := by
    intro priority weight
    cases reply <;> cases call <;> simp_all [enteredAt]
  have noEntered : enteredEntry (call, reply) = none := by
    cases reply <;> cases call <;> simp_all [enteredEntry]
  have noService : ∀ d, servedAt d (call, reply) = none := by
    intro d
    cases reply <;> simp_all [servedAt]
  have noServed : servedEntry (call, reply) = none := by
    cases reply <;> simp_all [servedEntry]
  refine ⟨queued.placed, queued.indexed, queued.total, ?_, ?_⟩
  · intro priority weight lowPriority highPriority lowWeight highWeight
    simpa [List.filterMap_append, noEntry, noService] using
      queued.conserves.ordered priority weight lowPriority highPriority lowWeight highWeight
  · simpa [List.filterMap_append, noEntered, noServed] using queued.conserves.conserved

theorem Queued.enqueue (queued : Queued shape events queue) {entry : Entry} {blocking : Bool}
    {priority weight : Nat}
    (inRange : QueueCall.InRange shape (.enqueue entry blocking priority weight)) :
    let answer := queue.enqueue shape entry blocking priority weight
    Queued shape (events ++ [(.enqueue entry blocking priority weight, answer.1)])
      answer.2 := by
  rcases inRange with ⟨lowPriority, highPriority, lowWeight, highWeight⟩
  have placed := shape.dataIndex_inRange lowPriority highPriority lowWeight highWeight
  have inArray := placed.2.2.2
  intro answer
  by_cases full : queue.total = shape.maxSize
  · have answerEq : answer = (if blocking then .waits else .declines 0, queue) :=
      enqueue_full queued.placed full blocking
    rw [answerEq]
    apply queued.idle
    · cases blocking <;> simp
    · cases blocking <;> simp
  · have answerEq := enqueue_room queued.placed full entry blocking lowPriority
      highPriority lowWeight highWeight
    change answer = _ at answerEq
    rw [answerEq]
    have total := queued.total
    refine ⟨queued.placed.push inArray, queued.indexed.push, ?_, ?_, ?_⟩
    · rw [push_backlog inArray]
      change (queue.total + 1) % 2 ^ 32 = _
      omega
    · intro p w lowP highP lowW highW
      have before := queued.conserves.ordered p w lowP highP lowW highW
      have other := shape.dataIndex_inRange lowP highP lowW highW
      simp only [List.filterMap_append, before, List.filterMap_cons, List.filterMap_nil,
        enteredAt, servedAt, List.append_nil, change]
      by_cases same : priority = p ∧ weight = w
      · rw [same.1, same.2]
        simp
      · have different : shape.dataIndex p w ≠ shape.dataIndex priority weight := by
          intro equal
          rw [equal] at other
          omega
        simp [same, Function.update_of_ne different]
    · have before := queued.conserves.conserved
      simp only [List.filterMap_append, List.filterMap_cons, List.filterMap_nil,
        enteredEntry, servedEntry, List.append_nil]
      have entered := before.append_right [entry]
      rw [List.append_assoc] at entered
      exact entered.trans ((push_queuedEntries inArray).symm.append_left _)

theorem Queued.exists_waiting (queued : Queued shape events queue)
    (busy : queue.total ≠ 0) : ∃ d, queue.dataQueue d ≠ [] := by
  have total := queued.total
  have some : 0 < queue.backlog shape := by
    by_contra none
    have zero : queue.backlog shape = 0 := by omega
    rw [zero] at total
    exact busy total
  exact QueueJob.exists_waiting some

theorem Queued.dequeue (queued : Queued shape events queue) (blocking : Bool) :
    ∃ reply next, queue.dequeue shape blocking = some (reply, next) ∧
      Queued shape (events ++ [(.dequeue blocking, reply)]) next := by
  by_cases idle : queue.total = 0
  · refine ⟨_, queue, dequeue_idle queued.placed idle blocking, ?_⟩
    apply queued.idle
    · cases blocking <;> simp
    · cases blocking <;> simp
  · rcases queued.exists_waiting idle with ⟨d, waiting⟩
    rcases dequeue_serves queued.placed queued.indexed idle waiting blocking with
      ⟨d, entry, next, dequeued, served⟩
    have perm := queuedEntries_of_dequeue queued.placed dequeued
    have fewer := perm.length_eq
    rw [List.length_cons, length_queuedEntries, length_queuedEntries] at fewer
    refine ⟨_, next, dequeued, served.placed, served.indexed, ?_, ?_, ?_⟩
    · rcases served.changed with ⟨index, left, data, rfl⟩
      have total := queued.total
      change (queue.total + (2 ^ 32 - 1)) % 2 ^ 32 = _
      omega
    · intro p w lowP highP lowW highW
      have before := queued.conserves.ordered p w lowP highP lowW highW
      rcases served.changed with ⟨index, left, data, rfl⟩
      simp only [List.filterMap_append, before, List.filterMap_cons, List.filterMap_nil,
        enteredAt, servedAt, List.append_nil, change]
      by_cases same : d = shape.dataIndex p w
      · subst same
        simp [data]
      · simp [same, Function.update_of_ne (Ne.symm same)]
    · have before := queued.conserves.conserved
      simp only [List.filterMap_append, List.filterMap_cons, List.filterMap_nil,
        enteredEntry, servedEntry, List.append_nil, List.append_assoc, List.cons_append,
        List.nil_append]
      exact before.trans (perm.append_left _)

theorem Queued.servesHighest (queued : Queued shape events queue) :
    ServesHighest shape queue where
  total := queued.total
  serves := by
    intro blocking
    by_cases idle : queue.total = 0
    · exact ⟨_, queue, dequeue_idle queued.placed idle blocking, Or.inl ⟨idle, rfl⟩⟩
    · rcases queued.exists_waiting idle with ⟨d, waiting⟩
      rcases dequeue_serves queued.placed queued.indexed idle waiting blocking with
        ⟨d, entry, next, dequeued, served⟩
      rcases served.changed with ⟨index, left, data, rfl⟩
      exact ⟨_, _, dequeued, Or.inr ⟨d, entry, left, rfl, data, rfl, served.highest⟩⟩

end QueueJob

/-- Two priorities and two weights, where `size_t` has 32 bits. -/
def fourQueues : QueueShape where
  numPriority := 2
  maxWeight := 2
  maxSize := 2 ^ 32 - 1
  fewPriorities := by decide
  lowWeight := by decide
  wideSize := by decide

end OpenDiameter.Framework
