import OpenDiameter.Framework.JobReferences

/-!
Runs of a family of jobs, event by event.
-/

namespace OpenDiameter.Framework

variable {Job : Type} [DecidableEq Job]

namespace JobSystem

variable [Fintype Job] {family : JobFamily Job} {system : JobSystem Job}

/-- A parent is not freed before its children. -/
theorem Sane.parent_alive (sane : Sane family system) {child parent : Job}
    (isParent : family.parent child = some parent) (present : system.Exists child) :
    system.deletions parent = 0 := by
  apply sane.alive
  have held : 0 < system.children family parent := by
    apply Finset.card_pos.mpr
    exact ⟨child, by simp [isParent, present]⟩
  unfold holders
  omega

variable {group : Job}

theorem Sane.lineage_alive (sane : Sane family system) {parents : List Job}
    (lineage : family.lineage group = parents) (alive : system.deletions group = 0) :
    ∀ other ∈ parents, system.deletions other = 0 := by
  induction parents generalizing group with
  | nil => simp
  | cons head parents induction =>
    rw [family.lineage_eq, List.cons.injEq] at lineage
    rcases lineage with ⟨rfl, rest⟩
    intro other member
    rcases List.mem_cons.mp member with rfl | member
    · exact alive
    · cases isParent : family.parent group with
      | none =>
        rw [isParent] at rest
        rw [← rest] at member
        cases member
      | some parent =>
        rw [isParent] at rest
        exact induction rest (sane.parent_alive isParent (Or.inl alive)) other member

variable {job : Job}

theorem Sane.schedule (sane : Sane family system) {parents : List Job} {backlogSize : Nat}
    (alive : system.deletions job = 0)
    (parentsAlive : ∀ other ∈ parents, system.deletions other = 0)
    (fits : system.ScheduleFits family parents job backlogSize) :
    Sane family (system.schedule family parents job backlogSize).2 := by
  induction parents generalizing system job backlogSize with
  | nil => exact sane
  | cons group parents induction =>
    by_cases running : system.running group = true
    · rcases fits running with ⟨accepted, room, small, rest⟩
      rcases sane.enqueue (family.blocking group) alive room small with
        ⟨value, next, entered, nextSane, deletions⟩
      have withinWeight :
          ¬ backlogSize > (family.enforceSchedulingPolicy group job).2 := by
        omega
      rw [entered] at rest
      simp only [JobSystem.schedule, running, Bool.true_eq_false, if_false, withinWeight,
        entered]
      split
      · exact nextSane
      · apply induction nextSane _ _ rest
        · rw [deletions]
          exact parentsAlive group (by simp)
        · intro other member
          rw [deletions]
          exact parentsAlive other (by simp [member])
    · have stopped : system.running group = false := by simpa using running
      simp only [JobSystem.schedule, stopped, if_true]
      exact sane

/-- A job is no longer being served. -/
theorem Sane.returned (sane : Sane family system) (pair : Job × Job) :
    Sane family { system with serving := system.serving.erase pair } where
  accounted :=
    { counted := sane.accounted.counted
      freed := sane.accounted.freed
      served := fun group job member =>
        sane.accounted.served group job (List.mem_of_mem_erase member) }
  small := sane.small
  single := sane.single
  closingOnce := sane.closingOnce
  closingDeleted := sane.closingDeleted

/-- A job is being served. -/
theorem Sane.serving (sane : Sane family system) {group job : Job}
    (groupAlive : system.deletions group = 0) (alive : system.deletions job = 0) :
    Sane family { system with serving := (group, job) :: system.serving } where
  accounted :=
    { counted := sane.accounted.counted
      freed := sane.accounted.freed
      served := by
        intro otherGroup other member
        rcases List.mem_cons.mp member with same | before
        · cases same
          exact ⟨groupAlive, alive⟩
        · exact sane.accounted.served otherGroup other before }
  small := sane.small
  single := sane.single
  closingOnce := sane.closingOnce
  closingDeleted := sane.closingDeleted

variable {next : JobSystem Job}

theorem Sane.serve (sane : Sane family system) (alive : system.deletions group = 0)
    (fits : (JobEvent.serve group).Fits family system)
    (served : system.serve family group = some next) : Sane family next := by
  unfold JobSystem.serve at served
  split at served
  · rename_i d job queue dequeued
    rcases sane.dequeue dequeued (fits d job queue dequeued) with
      ⟨after, released, jobAlive, afterSane, deletions, _⟩
    rw [released] at served
    dsimp only at served
    rw [if_neg (by decide), Option.some.injEq] at served
    rw [← served]
    rw [← deletions] at alive jobAlive
    exact afterSane.serving alive jobAlive
  · rename_i reply queue notServed dequeued
    have unchanged : queue = system.queue group := by
      apply QueueJob.dequeue_unserved dequeued
      intro d entry served
      exact notServed d entry served
    rw [unchanged, Option.some.injEq] at served
    rw [← served]
    have same : system.setQueue group (system.queue group) = system := by
      simp [setQueue]
    rw [same]
    exact sane
  · cases served

theorem Sane.served (sane : Sane family system) {group job : Job} {childBacklogSize : Nat}
    (pending : (group, job) ∈ system.serving)
    (fits : (JobEvent.served group job childBacklogSize).Fits family system) :
    Sane family (system.served family group job childBacklogSize) := by
  unfold JobSystem.served
  dsimp only
  split
  · exact sane.returned (group, job)
  · rename_i backlogged
    rcases fits (by omega) with ⟨room, small⟩
    have alive := (sane.accounted.served group job pending).2
    rcases (sane.returned (group, job)).enqueue
        ((family.enforceSchedulingPolicy group job).1 ≠ 0) alive room small with
      ⟨value, next, entered, nextSane, _⟩
    rw [entered]
    exact nextSane

theorem Sane.remove (sane : Sane family system) {group job : Job}
    (alive : system.deletions job = 0)
    (fits : (JobEvent.remove group job).Fits family system) :
    Sane family (system.remove family group job) := by
  rcases (sane.single group).remove (family.hasPriority group) (family.hasWeight group) job with
    ⟨queue, removed, single, left⟩
  have small := sane.small job alive
  have shared : ((system.queue group).queuedEntries (family.shape group)).count job <
    system.refcount job := fits
  have count : Int.bmod
      (((system.queue group).queuedEntries (family.shape group)).count job) (2 ^ 32) =
        ((system.queue group).queuedEntries (family.shape group)).count job :=
    bmod_small (by omega) (by omega)
  have counts : ∀ other,
      ((system.queue group).queuedEntries (family.shape group)).count other =
        (queue.queuedEntries (family.shape group)).count other +
          if other = job then
            ((system.queue group).queuedEntries (family.shape group)).count job
          else 0 := by
    intro other
    rw [left]
    by_cases same : other = job
    · subst same
      rw [if_pos rfl]
      have gone : other ∉
          ((system.queue group).queuedEntries (family.shape group)).filter (· ≠ other) := by
        simp
      rw [List.count_eq_zero.mpr gone, Nat.zero_add]
    · rw [if_neg same, List.count_filter (by simpa using same), Nat.add_zero]
  rcases sane.withdraw _ alive single counts shared with ⟨next, released, nextSane, _⟩
  unfold JobSystem.remove
  rw [removed, count]
  dsimp only
  rw [released]
  exact nextSane

/-- The state of `Delete` before it looks at the count. -/
def disown (system : JobSystem Job) (job : Job) : JobSystem Job :=
  { system with
    refcount := Function.update system.refcount job (system.refcount job - 1)
    owned := Function.update system.owned job false }

omit [Fintype Job] in
theorem disown_refcount (job other : Job) : (system.disown job).refcount other =
    if other = job then system.refcount job + -1 else system.refcount other := by
  by_cases same : other = job
  · subst same
    simp only [disown, Function.update_self, if_true]
    omega
  · simp [disown, same]

theorem disown_holders (owned : system.owned job = true) (other : Job) :
    ((system.disown job).holders family other : Int) =
      if other = job then (system.holders family job : Int) + -1
      else system.holders family other := by
  have children : (system.disown job).children family other = system.children family other := rfl
  have occurrences : (system.disown job).occurrences family other =
      system.occurrences family other := rfl
  unfold holders
  rw [children, occurrences]
  by_cases same : other = job
  · subst same
    have gone : (system.disown other).owned other = false := by simp [disown]
    simp only [gone, owned, Bool.false_eq_true, if_false, if_true]
    omega
  · have kept : (system.disown job).owned other = system.owned other := by
      simp [disown, same]
    rw [if_neg same, kept]

theorem deleteThis_holders (alive : system.deletions job = 0) (other : Job) :
    (system.deleteThis job).holders family other = system.holders family other := by
  have exist : ∀ child, (system.deleteThis job).Exists child ↔ system.Exists child := by
    intro child
    by_cases same : child = job
    · simp [same, JobSystem.Exists, deleteThis, alive]
    · simp [same, JobSystem.Exists, deleteThis]
  have children : (system.deleteThis job).children family other =
      system.children family other := by
    unfold JobSystem.children
    simp only [exist]
  unfold holders
  rw [children]
  rfl

omit [Fintype Job] in
theorem deleteThis_deletions (job other : Job) : (system.deleteThis job).deletions other =
    if other = job then system.deletions job + 1 else system.deletions other := by
  by_cases same : other = job
  · subst same
    simp [deleteThis]
  · simp [deleteThis, same]

/-- The owner's reference was the last one. -/
theorem Sane.delete_last (sane : Sane family system) (owned : system.owned job = true)
    (last : system.holders family job = 1)
    (unused : ∀ other, (other, job) ∉ system.serving ∧ (job, other) ∉ system.serving) :
    Sane family ((system.disown job).deleteThis job) := by
  have alive : system.deletions job = 0 := sane.alive (by omega)
  have fresh : job ∉ system.closing := fun closing => sane.closingDeleted job closing alive
  have disownedAlive : (system.disown job).deletions job = 0 := alive
  have deletions : ∀ other, ((system.disown job).deleteThis job).deletions other =
      if other = job then 1 else system.deletions other := by
    intro other
    rw [deleteThis_deletions, disownedAlive]
    rfl
  have holders : ∀ other, ((system.disown job).deleteThis job).holders family other =
      if other = job then 0 else system.holders family other := by
    intro other
    have disowned : ((system.disown job).holders family other : Int) =
        if other = job then (system.holders family job : Int) + -1
        else system.holders family other :=
      disown_holders owned other
    rw [deleteThis_holders disownedAlive]
    split
    · rename_i same
      rw [if_pos same, last] at disowned
      omega
    · rename_i same
      rw [if_neg same] at disowned
      omega
  have refcount : ∀ other, other ≠ job →
      ((system.disown job).deleteThis job).refcount other = system.refcount other := by
    intro other same
    change (system.disown job).refcount other = _
    rw [disown_refcount, if_neg same]
  constructor
  · constructor
    · intro other otherAlive
      rw [deletions] at otherAlive
      have same : other ≠ job := by
        intro same
        simp [same] at otherAlive
      rw [if_neg same] at otherAlive
      rw [refcount other same, holders, if_neg same]
      exact sane.accounted.counted other otherAlive
    · intro other
      rw [deletions, holders]
      by_cases same : other = job
      · simp [same]
      · simpa only [if_neg same] using sane.accounted.freed other
    · intro group other pending
      have before := sane.accounted.served group other pending
      have groupKept : group ≠ job := by
        intro same
        exact (unused other).2 (same ▸ pending)
      have otherKept : other ≠ job := by
        intro same
        exact (unused group).1 (same ▸ pending)
      rw [deletions, deletions, if_neg groupKept, if_neg otherKept]
      exact before
  · intro other otherAlive
    rw [deletions] at otherAlive
    have same : other ≠ job := by
      intro same
      simp [same] at otherAlive
    rw [if_neg same] at otherAlive
    rw [refcount other same]
    exact sane.small other otherAlive
  · exact sane.single
  · exact List.nodup_cons.mpr ⟨fresh, sane.closingOnce⟩
  · intro group member
    rw [deletions]
    split
    · exact Nat.one_ne_zero
    · rename_i same
      rcases List.mem_cons.mp member with equal | before
      · exact (same equal).elim
      · exact sane.closingDeleted group before

theorem Sane.delete (sane : Sane family system) (owned : system.owned job = true)
    (fits : (JobEvent.delete job).Fits family system) :
    Sane family (system.delete job) := by
  have held : 0 < system.holders family job := by
    unfold holders
    rw [if_pos owned]
    omega
  have alive : system.deletions job = 0 := sane.alive held
  have counted := sane.accounted.counted job alive
  have small := sane.small job alive
  have decreased : Int.bmod (system.refcount job - 1) (2 ^ 32) = system.refcount job - 1 :=
    bmod_small (by omega) (by omega)
  have deleted : system.delete job =
      if system.refcount job - 1 ≤ 0 then (system.disown job).deleteThis job
      else system.disown job := by
    unfold JobSystem.delete disown
    dsimp only
    rw [decreased]
  rw [deleted]
  split
  · exact sane.delete_last owned (by omega) (fits (by omega))
  · exact sane.shift (-1) alive (disown_refcount job) (disown_holders owned) (by omega)
      (by omega) rfl rfl sane.single sane.closingOnce (fun _ member => member)

theorem Sane.flushNext (sane : Sane family system)
    (fits : (JobEvent.flushNext group).Fits family system)
    (flushed : system.flushNext family group = some next) : Sane family next := by
  unfold JobSystem.flushNext at flushed
  split at flushed
  · rename_i d job queue dequeued
    rcases sane.dequeue dequeued (fits d job queue dequeued) with
      ⟨after, released, _, afterSane, _⟩
    rw [released, Option.some.injEq] at flushed
    rw [← flushed]
    exact afterSane
  · cases flushed

/-- The state of a destructor before it releases the parent. -/
def vanish (system : JobSystem Job) (group : Job) : JobSystem Job :=
  { system.setQueue group .fresh with closing := system.closing.erase group }

theorem Sane.vanish_children (sane : Sane family system) (closing : group ∈ system.closing)
    (job : Job) :
    (system.vanish group).children family job +
        (if family.parent group = some job then 1 else 0) =
      system.children family job := by
  have dead := sane.closingDeleted group closing
  have exist : ∀ child, (system.vanish group).Exists child ↔
      child ≠ group ∧ system.Exists child := by
    intro child
    have erased := sane.closingOnce.mem_erase_iff (a := child) (b := group)
    by_cases same : child = group
    · subst same
      simp [JobSystem.Exists, vanish, setQueue, erased, dead]
    · simp [JobSystem.Exists, vanish, setQueue, erased, same]
  have left : (Finset.univ.filter fun child =>
        family.parent child = some job ∧ (system.vanish group).Exists child) =
      (Finset.univ.filter fun child =>
        family.parent child = some job ∧ system.Exists child).erase group := by
    ext child
    simp only [Finset.mem_filter, Finset.mem_univ, true_and, Finset.mem_erase, exist]
    constructor
    · intro found
      exact ⟨found.2.1, found.1, found.2.2⟩
    · intro found
      exact ⟨found.2.1, found.1, found.2.2⟩
  unfold children
  rw [left]
  split
  · rename_i isParent
    apply Finset.card_erase_add_one
    exact Finset.mem_filter.mpr ⟨Finset.mem_univ group, isParent, Or.inr closing⟩
  · rename_i notParent
    rw [Finset.erase_eq_of_notMem (by simp [notParent]), Nat.add_zero]

theorem Sane.vanish_holders (sane : Sane family system) (closing : group ∈ system.closing)
    (empty : (system.queue group).total = 0) (job : Job) :
    (system.vanish group).holders family job +
        (if family.parent group = some job then 1 else 0) =
      system.holders family job := by
  have children := sane.vanish_children closing job
  have none : (system.queue group).queuedEntries (family.shape group) = [] := by
    rw [← List.length_eq_zero_iff, QueueJob.length_queuedEntries,
      ← (sane.single group).counted.1]
    exact empty
  have occurrences := occurrences_setQueue family system group .fresh job
  rw [none, QueueJob.fresh_queuedEntries] at occurrences
  have sameOccurrences : (system.vanish group).occurrences family job =
      system.occurrences family job := by
    change (system.setQueue group .fresh).occurrences family job = _
    simpa using occurrences
  have owner : (system.vanish group).owned = system.owned := rfl
  unfold holders
  rw [sameOccurrences, owner]
  omega

theorem Sane.closed (sane : Sane family system) (closing : group ∈ system.closing)
    (empty : (system.queue group).total = 0) (fits : (JobEvent.closed group).Fits family system) :
    Sane family (system.closed family group) := by
  have holders := sane.vanish_holders closing empty
  have single : ∀ other, ((system.vanish group).queue other).Single (family.shape other) :=
    sane.setQueue_single QueueJob.fresh_single
  have closingOnce : (system.vanish group).closing.Nodup := sane.closingOnce.erase group
  have stillClosing : ∀ other ∈ (system.vanish group).closing, other ∈ system.closing :=
    fun _ member => List.mem_of_mem_erase member
  cases isParent : family.parent group with
  | none =>
    have closed : system.closed family group = system.vanish group := by
      simp [JobSystem.closed, isParent, vanish]
    have same : ∀ job, (system.vanish group).holders family job =
        system.holders family job := by
      intro job
      simpa [isParent] using holders job
    have counted : ∀ job, system.deletions job = 0 →
        (system.vanish group).refcount job - (system.vanish group).holders family job =
          system.refcount job - system.holders family job := by
      intro job _
      rw [same]
      rfl
    have held : ∀ job, (system.vanish group).holders family job = 0 ↔
        system.holders family job = 0 := by
      intro job
      rw [same]
    rw [closed]
    exact sane.rebalance counted held sane.small rfl rfl single closingOnce stillClosing
  | some parent =>
    have shared := fits parent isParent
    have alive := sane.parent_alive isParent (Or.inr closing)
    have small := sane.small parent alive
    have counted := sane.accounted.counted parent alive
    have released : Int.bmod (system.refcount parent - 1) (2 ^ 32) =
        system.refcount parent - 1 :=
      bmod_small (by omega) (by omega)
    have closed : system.closed family group =
        { system.vanish group with
          refcount :=
            Function.update system.refcount parent (system.refcount parent - 1) } := by
      have refcount : (system.vanish group).refcount = system.refcount := rfl
      unfold JobSystem.closed
      rw [isParent]
      change ((system.vanish group).release parent 1).2 = _
      unfold release
      dsimp only
      rw [refcount, released, if_neg (by omega)]
    rw [closed]
    apply sane.shift (-1) alive
    · intro other
      by_cases same : other = parent
      · subst same
        simp only [Function.update_self, if_true]
        omega
      · simp [same]
    · intro other
      have effect := holders other
      change ((system.vanish group).holders family other : Int) = _
      simp only [isParent, Option.some.injEq] at effect
      by_cases same : other = parent
      · rw [if_pos same]
        rw [if_pos same.symm] at effect
        rw [same] at effect ⊢
        omega
      · rw [if_neg same]
        rw [if_neg (Ne.symm same)] at effect
        omega
    · omega
    · omega
    · rfl
    · rfl
    · exact single
    · exact closingOnce
    · exact stillClosing

theorem constructed_sane
    (small : ∀ job, (Finset.univ.filter fun child => family.parent child = some job).card <
      2 ^ 31 - 1) :
    Sane family (constructed family : JobSystem Job) := by
  have occurrences : ∀ job, (constructed family).occurrences family job = 0 := by
    intro job
    simp [JobSystem.occurrences, constructed]
  have holders : ∀ job, (constructed family).holders family job =
      1 + (Finset.univ.filter fun child => family.parent child = some job).card := by
    intro job
    unfold JobSystem.holders
    rw [occurrences]
    simp [JobSystem.children, JobSystem.Exists, constructed]
  constructor
  · constructor
    · intro job _
      rw [holders]
      simp [constructed]
    · intro job
      rw [holders, if_neg (by omega)]
      rfl
    · intro group job pending
      cases pending
  · intro job _
    have bound := small job
    simp only [constructed]
    omega
  · intro group
    exact QueueJob.fresh_single
  · exact List.nodup_nil
  · intro group member
    cases member

theorem Sane.perform (sane : Sane family system) {event : JobEvent Job}
    (possible : event.Possible system) (fits : event.Fits family system)
    (performed : event.perform family system = some next) :
    Sane family next := by
  cases event with
  | start group =>
    cases performed
    exact ⟨⟨sane.accounted.counted, sane.accounted.freed, sane.accounted.served⟩,
      sane.small, sane.single, sane.closingOnce, sane.closingDeleted⟩
  | schedule group job backlogSize =>
    cases performed
    exact sane.schedule possible.2 (sane.lineage_alive rfl possible.1) fits
  | serve group => exact sane.serve possible fits performed
  | served group job childBacklogSize =>
    cases performed
    exact sane.served possible fits
  | remove group job =>
    cases performed
    exact sane.remove possible.2 fits
  | delete job =>
    cases performed
    exact sane.delete possible fits
  | flushNext group => exact sane.flushNext fits performed
  | closed group =>
    cases performed
    exact sane.closed possible.1 possible.2 fits

end JobSystem

/-- Two root groups under weighted fair queueing. -/
def twoGroups : JobFamily (Fin 2) where
  shape := fun _ => singleQueue
  policy := fun _ => schedWfq
  blocking := fun _ => false
  priority := fun _ => 1
  weight := fun _ => 1
  parent := fun _ => none
  lineage := fun job => [job]
  lineage_eq := fun _ => rfl
  hasPriority := fun _ => Nat.le_refl 1
  hasWeight := fun _ => Nat.le_refl 1

end OpenDiameter.Framework
