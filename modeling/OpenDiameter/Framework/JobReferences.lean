import OpenDiameter.Framework.JobQueues

/-!
Every reference that is counted has a holder: the owner of the job, a child group,
or a place in a queue.
-/

namespace OpenDiameter.Framework

variable {Job : Type} [DecidableEq Job]

namespace JobSystem

section Holders

variable [Fintype Job] (family : JobFamily Job) (system : JobSystem Job)

/-- The places of a job in all queues. -/
def occurrences (job : Job) : Nat :=
  ∑ group, ((system.queue group).queuedEntries (family.shape group)).count job

/-- A group exists until its destructor has ended. -/
def Exists (group : Job) : Prop :=
  system.deletions group = 0 ∨ group ∈ system.closing

instance (group : Job) : Decidable (system.Exists group) :=
  inferInstanceAs (Decidable (_ ∨ _))

/-- The groups that are constructed with a job as their parent and hold it. -/
def children (job : Job) : Nat :=
  (Finset.univ.filter fun child =>
    family.parent child = some job ∧ system.Exists child).card

def holders (job : Job) : Nat :=
  (if system.owned job then 1 else 0) + system.children family job +
    system.occurrences family job

/-- The count of a job that has not been freed is the number of its holders, a job
has been freed once if it has no holder and not at all otherwise, and no freed job
is served or serves. -/
structure Accounted : Prop where
  counted : ∀ job, system.deletions job = 0 → system.refcount job = system.holders family job
  freed : ∀ job, system.deletions job = if system.holders family job = 0 then 1 else 0
  served : ∀ group job, (group, job) ∈ system.serving →
    system.deletions group = 0 ∧ system.deletions job = 0

end Holders

/-- The jobs as they are constructed: each has its owner's reference and one from
each child. -/
def constructed [Fintype Job] (family : JobFamily Job) : JobSystem Job where
  refcount := fun job =>
    1 + ((Finset.univ.filter fun child => family.parent child = some job).card : Int)
  owned := fun _ => true
  deletions := fun _ => 0
  running := fun _ => false
  queue := fun _ => .fresh
  serving := []
  closing := []

/-- The condition on each level of `Schedule`: the backlog is not refused and
`Enqueue` has room, where the counters do not overflow. -/
def ScheduleFits (family : JobFamily Job) (system : JobSystem Job) :
    List Job → Job → Nat → Prop
  | [], _, _ => True
  | group :: parents, job, backlogSize =>
    system.running group = true →
      backlogSize ≤ (family.enforceSchedulingPolicy group job).2 ∧
      (system.queue group).total < 2 ^ 32 - 1 ∧ system.refcount job < 2 ^ 31 - 1 ∧
      ScheduleFits family
        ((system.acquire job).enqueue family group job (family.blocking group)).2
        parents group 1

end JobSystem

namespace JobEvent

/-- The condition on an event: `Schedule` is not refused once it holds the job, nor
is the job put back after it was served; what takes a job out of a queue, or a child
from its parent, does not take the last reference; and no job is freed while a
`Serve` that uses it has not returned. -/
def Fits (family : JobFamily Job) (system : JobSystem Job) : JobEvent Job → Prop
  | .schedule group job backlogSize =>
    system.ScheduleFits family (family.lineage group) job backlogSize
  | .serve group =>
    ∀ d job queue,
      (system.queue group).dequeue (family.shape group) (family.blocking group) =
        some (.serves d job, queue) → 2 ≤ system.refcount job
  | .served group job childBacklogSize =>
    (family.enforceSchedulingPolicy group job).2 ≤ childBacklogSize →
      (system.queue group).total < 2 ^ 32 - 1 ∧ system.refcount job < 2 ^ 31 - 1
  | .remove group job =>
    ((system.queue group).queuedEntries (family.shape group)).count job <
      system.refcount job
  | .delete job =>
    system.refcount job = 1 →
      ∀ other, (other, job) ∉ system.serving ∧ (job, other) ∉ system.serving
  | .flushNext group =>
    ∀ d job queue, (system.queue group).dequeue (family.shape group) false =
      some (.serves d job, queue) → 2 ≤ system.refcount job
  | .closed group => ∀ parent, family.parent group = some parent →
      2 ≤ system.refcount parent
  | _ => True

end JobEvent

/-- The states after possible events that meet a condition, from jobs whose counters
have room for their children. -/
inductive JobRun [Fintype Job] (family : JobFamily Job)
    (Meets : JobSystem Job → JobEvent Job → Prop) : JobSystem Job → Prop
  | constructed :
      (∀ job, (Finset.univ.filter fun child => family.parent child = some job).card <
        2 ^ 31 - 1) →
      JobRun family Meets (.constructed family)
  | step {system next : JobSystem Job} (event : JobEvent Job) :
      JobRun family Meets system → event.Possible system → Meets system event →
      event.perform family system = some next → JobRun family Meets next

namespace JobSystem

variable [Fintype Job] {family : JobFamily Job} {system : JobSystem Job}

/-- What every event that fits keeps. -/
structure Sane (family : JobFamily Job) (system : JobSystem Job) : Prop where
  accounted : Accounted family system
  small : ∀ job, system.deletions job = 0 → system.refcount job < 2 ^ 31
  single : ∀ group, (system.queue group).Single (family.shape group)
  closingOnce : system.closing.Nodup
  closingDeleted : ∀ group ∈ system.closing, system.deletions group ≠ 0

/-! Occurrences when one queue changes. -/

theorem occurrences_setQueue (family : JobFamily Job) (system : JobSystem Job) (group : Job) (queue : QueueJob Job) (job : Job) :
    (system.setQueue group queue).occurrences family job +
        ((system.queue group).queuedEntries (family.shape group)).count job =
      system.occurrences family job + (queue.queuedEntries (family.shape group)).count job := by
  have member : group ∈ Finset.univ := Finset.mem_univ group
  unfold occurrences
  rw [← Finset.add_sum_erase _ _ member, ← Finset.add_sum_erase _ _ member]
  have rest : ∀ other ∈ Finset.univ.erase group,
      (((system.setQueue group queue).queue other).queuedEntries (family.shape other)).count job =
        ((system.queue other).queuedEntries (family.shape other)).count job := by
    intro other erased
    have different : other ≠ group := (Finset.mem_erase.mp erased).1
    simp [setQueue, different]
  rw [Finset.sum_congr rfl rest]
  simp only [setQueue, Function.update_self]
  omega

theorem holders_setQueue (family : JobFamily Job) (system : JobSystem Job) (group : Job)
    (queue : QueueJob Job) (job : Job) :
    (system.setQueue group queue).holders family job +
        ((system.queue group).queuedEntries (family.shape group)).count job =
      system.holders family job + (queue.queuedEntries (family.shape group)).count job := by
  have effect := occurrences_setQueue family system group queue job
  have owner : (system.setQueue group queue).owned = system.owned := rfl
  have children : (system.setQueue group queue).children family job =
      system.children family job := rfl
  unfold holders
  rw [owner, children]
  omega

/-! A reference and its holder come and go together. -/

theorem Sane.positive (sane : Sane family system) {job : Job}
    (alive : system.deletions job = 0) : 0 < system.holders family job := by
  have freed := sane.accounted.freed job
  rw [alive] at freed
  by_contra none
  have zero : system.holders family job = 0 := by omega
  simp [zero] at freed

theorem Sane.alive (sane : Sane family system) {job : Job}
    (held : 0 < system.holders family job) : system.deletions job = 0 := by
  have freed := sane.accounted.freed job
  rw [if_neg (by omega)] at freed
  exact freed

/-- Counts and holders change together, and the held jobs stay the same. -/
theorem Sane.rebalance (sane : Sane family system) {next : JobSystem Job}
    (counted : ∀ job, system.deletions job = 0 →
      next.refcount job - next.holders family job =
        system.refcount job - system.holders family job)
    (held : ∀ job, next.holders family job = 0 ↔ system.holders family job = 0)
    (small : ∀ job, system.deletions job = 0 → next.refcount job < 2 ^ 31)
    (deletions : next.deletions = system.deletions) (serving : next.serving = system.serving)
    (single : ∀ group, (next.queue group).Single (family.shape group))
    (closingOnce : next.closing.Nodup) (closing : ∀ group ∈ next.closing, group ∈ system.closing) :
    Sane family next where
  accounted :=
    { counted := by
        intro job alive
        rw [deletions] at alive
        have before := sane.accounted.counted job alive
        have after := counted job alive
        omega
      freed := by
        intro job
        rw [deletions, sane.accounted.freed job]
        simp only [held job]
      served := by
        intro group job pending
        rw [serving] at pending
        rw [deletions]
        exact sane.accounted.served group job pending }
  small := by
    intro job alive
    rw [deletions] at alive
    exact small job alive
  single := single
  closingOnce := closingOnce
  closingDeleted := by
    intro group member
    rw [deletions]
    exact sane.closingDeleted group (closing group member)

/-- The count of one job changes with its holders, and some are left. -/
theorem Sane.shift (sane : Sane family system) {next : JobSystem Job} {job : Job}
    (change : Int) (alive : system.deletions job = 0)
    (refcount : ∀ other, next.refcount other =
      if other = job then system.refcount job + change else system.refcount other)
    (holders : ∀ other, (next.holders family other : Int) =
      if other = job then system.holders family job + change
      else system.holders family other)
    (left : 0 < system.holders family job + change)
    (small : system.refcount job + change < 2 ^ 31)
    (deletions : next.deletions = system.deletions) (serving : next.serving = system.serving)
    (single : ∀ group, (next.queue group).Single (family.shape group))
    (closingOnce : next.closing.Nodup) (closing : ∀ group ∈ next.closing, group ∈ system.closing) :
    Sane family next := by
  apply sane.rebalance _ _ _ deletions serving single closingOnce closing
  · intro other _
    rw [refcount, holders]
    split
    · rename_i same
      rw [same]
      omega
    · rfl
  · intro other
    have after := holders other
    split at after
    · rename_i same
      have before := sane.positive alive
      rw [same] at after ⊢
      omega
    · omega
  · intro other otherAlive
    rw [refcount]
    split
    · exact small
    · exact sane.small other otherAlive

variable {queue : QueueJob Job}

theorem Sane.setQueue_single (sane : Sane family system) {group : Job}
    (single : queue.Single (family.shape group)) (other : Job) :
    ((system.setQueue group queue).queue other).Single (family.shape other) := by
  by_cases same : other = group
  · subst same
    simpa [setQueue] using single
  · simpa [setQueue, same] using sane.single other

theorem bmod_small {count : Int} (positive : 0 ≤ count) (small : count < 2 ^ 31) :
    Int.bmod count (2 ^ 32) = count := by
  apply Int.bmod_eq_of_le <;> omega

variable {group job : Job}

/-- `Acquire` and `Enqueue`. -/
theorem Sane.enqueue (sane : Sane family system) (blocking : Bool)
    (alive : system.deletions job = 0) (room : (system.queue group).total < 2 ^ 32 - 1)
    (small : system.refcount job < 2 ^ 31 - 1) :
    ∃ value next,
      (system.acquire job).enqueue family group job blocking = (.queued value, next) ∧
      Sane family next ∧ next.deletions = system.deletions := by
  rcases (sane.single group).enqueue (family.hasPriority group) (family.hasWeight group)
    room job blocking with ⟨value, queue, entered, single, perm⟩
  have counted := sane.accounted.counted job alive
  have acquired : Int.bmod (system.refcount job + 1) (2 ^ 32) = system.refcount job + 1 :=
    bmod_small (by omega) (by omega)
  refine ⟨value, (system.acquire job).setQueue group queue, ?_, ?_, rfl⟩
  · simp [JobSystem.enqueue, acquire, entered]
  · apply sane.shift 1 alive
    · intro other
      by_cases same : other = job
      · subst same
        simp only [setQueue, acquire, Function.update_self, if_true, acquired]
      · simp [setQueue, acquire, same]
    · intro other
      have effect := holders_setQueue family (system.acquire job) group queue other
      have unchanged : (system.acquire job).holders family other =
          system.holders family other := rfl
      have count := perm.count_eq other
      rw [List.count_append, List.count_singleton] at count
      have queueEq : (system.acquire job).queue group = system.queue group := rfl
      rw [unchanged, queueEq, count] at effect
      by_cases same : other = job
      · subst same
        simp only [beq_self_eq_true, if_true] at effect
        rw [if_pos rfl]
        omega
      · have different : ¬ job = other := fun equal => same equal.symm
        simp only [beq_iff_eq, different, if_false] at effect
        rw [if_neg same]
        omega
    · omega
    · omega
    · rfl
    · rfl
    · exact sane.setQueue_single single
    · exact sane.closingOnce
    · exact fun group member => member

theorem count_le_holders (family : JobFamily Job) (system : JobSystem Job)
    (group job : Job) :
    ((system.queue group).queuedEntries (family.shape group)).count job ≤
      system.holders family job := by
  have part : ((system.queue group).queuedEntries (family.shape group)).count job ≤
      system.occurrences family job :=
    Finset.single_le_sum
      (f := fun other => ((system.queue other).queuedEntries (family.shape other)).count job)
      (fun _ _ => Nat.zero_le _) (Finset.mem_univ group)
  unfold holders
  omega

/-- Places of a job in a queue and their `Release`, where another reference stays. -/
theorem Sane.withdraw (sane : Sane family system) (n : Nat) (alive : system.deletions job = 0)
    (single : queue.Single (family.shape group))
    (counts : ∀ other, ((system.queue group).queuedEntries (family.shape group)).count other =
      (queue.queuedEntries (family.shape group)).count other + if other = job then n else 0)
    (shared : n < system.refcount job) :
    ∃ next, (system.setQueue group queue).release job n = (0, next) ∧ Sane family next ∧
      next.deletions = system.deletions ∧ next.serving = system.serving := by
  have counted := sane.accounted.counted job alive
  have small := sane.small job alive
  have released : Int.bmod (system.refcount job - n) (2 ^ 32) = system.refcount job - n :=
    bmod_small (by omega) (by omega)
  let next : JobSystem Job :=
    { system.setQueue group queue with
      refcount := Function.update system.refcount job (system.refcount job - n) }
  refine ⟨next, ?_, ?_, rfl, rfl⟩
  · have refcount : (system.setQueue group queue).refcount = system.refcount := rfl
    unfold release
    dsimp only
    rw [refcount, released, if_neg (by omega)]
  · apply sane.shift (-n) alive
    · intro other
      by_cases same : other = job
      · subst same
        simp only [next, Function.update_self, if_true]
        omega
      · simp [next, same]
    · intro other
      have effect := holders_setQueue family system group queue other
      have unchanged : next.holders family other =
          (system.setQueue group queue).holders family other := rfl
      rw [← unchanged, counts] at effect
      split
      · rename_i same
        rw [if_pos same] at effect
        rw [same] at effect ⊢
        omega
      · rename_i same
        rw [if_neg same] at effect
        omega
    · omega
    · omega
    · rfl
    · rfl
    · exact sane.setQueue_single single
    · exact sane.closingOnce
    · exact fun group member => member

/-- An entry taken out of a queue and its `Release`. -/
theorem Sane.dequeue (sane : Sane family system) {blocking : Bool} {d : Nat}
    (dequeued : (system.queue group).dequeue (family.shape group) blocking =
      some (.serves d job, queue)) (shared : 2 ≤ system.refcount job) :
    ∃ next, (system.setQueue group queue).release job 1 = (0, next) ∧
      system.deletions job = 0 ∧ Sane family next ∧ next.deletions = system.deletions ∧
      next.serving = system.serving := by
  rcases (sane.single group).dequeue dequeued with ⟨single, perm⟩
  have alive : system.deletions job = 0 := by
    apply sane.alive
    have queued := count_le_holders family system group job
    rw [perm.count_eq, List.count_cons_self] at queued
    omega
  have counts : ∀ other,
      ((system.queue group).queuedEntries (family.shape group)).count other =
        (queue.queuedEntries (family.shape group)).count other +
          if other = job then 1 else 0 := by
    intro other
    rw [perm.count_eq, List.count_cons]
    by_cases same : other = job
    · simp [same]
    · simp [same, Ne.symm same]
  rcases sane.withdraw 1 alive single counts (by omega) with
    ⟨next, released, nextSane, deletions, serving⟩
  exact ⟨next, released, alive, nextSane, deletions, serving⟩

end JobSystem

end OpenDiameter.Framework
