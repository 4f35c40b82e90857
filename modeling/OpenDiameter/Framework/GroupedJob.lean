import OpenDiameter.Framework.QueueJob

/-!
`AAA_Job` and `AAA_GroupedJob` of `framework.h`: jobs are shared by their owner and
by the queues they wait in, and are freed by counting references.
-/

namespace OpenDiameter.Framework

variable {Job : Type}

def schedWfq : Nat := 1

def schedPriority : Nat := 2

/-- What is fixed when the jobs have been constructed. -/
structure JobFamily (Job : Type) where
  shape : Job → QueueShape
  policy : Job → Nat
  blocking : Job → Bool
  priority : Job → Nat
  weight : Job → Nat
  parent : Job → Option Job
  /-- A job, its parent, and so on to the root. -/
  lineage : Job → List Job
  /-- A parent is constructed before its children, so this ends. -/
  lineage_eq : ∀ job, lineage job =
    job :: (match parent job with
      | some parent => lineage parent
      | none => [])
  hasPriority : ∀ job, 1 ≤ (shape job).numPriority
  hasWeight : ∀ job, 1 ≤ (shape job).maxWeight

structure JobSystem (Job : Type) where
  refcount : Job → Int
  /-- The owner has not called `Delete`. -/
  owned : Job → Bool
  /-- How often `delete this` was executed. -/
  deletions : Job → Nat
  running : Job → Bool
  queue : Job → QueueJob Job
  /-- The `Serve` calls that wait for the `Serve` of the job taken out. -/
  serving : List (Job × Job)
  /-- The jobs whose destructor is at work. -/
  closing : List Job

namespace JobFamily

variable (family : JobFamily Job)

/-- The priority and the weight after `EnforceSchedulingPolicy`. -/
def enforceSchedulingPolicy (group job : Job) : Nat × Nat :=
  let infinity := 100000
  (if family.policy group ≠ schedPriority then 1 else family.priority job,
    if family.policy group ≠ schedWfq then infinity else family.weight job)

end JobFamily

namespace JobSystem

variable [DecidableEq Job]

def acquire (system : JobSystem Job) (job : Job) : JobSystem Job :=
  { system with
    refcount := Function.update system.refcount job
      (Int.bmod (system.refcount job + 1) (2 ^ 32)) }

/-- `delete this`: the destructor starts with `running=false`. -/
def deleteThis (system : JobSystem Job) (job : Job) : JobSystem Job :=
  { system with
    deletions := Function.update system.deletions job (system.deletions job + 1)
    running := Function.update system.running job false
    closing := job :: system.closing }

def release (system : JobSystem Job) (job : Job) (n : Int) : Int × JobSystem Job :=
  let refcount := Int.bmod (system.refcount job - n) (2 ^ 32)
  let system := { system with refcount := Function.update system.refcount job refcount }
  if refcount < 0 then (-1, system.deleteThis job) else (0, system)

def delete (system : JobSystem Job) (job : Job) : JobSystem Job :=
  let refcount := Int.bmod (system.refcount job - 1) (2 ^ 32)
  let system :=
    { system with
      refcount := Function.update system.refcount job refcount
      owned := Function.update system.owned job false }
  if refcount ≤ 0 then system.deleteThis job else system

def setQueue (system : JobSystem Job) (group : Job) (queue : QueueJob Job) : JobSystem Job :=
  { system with queue := Function.update system.queue group queue }

variable (family : JobFamily Job)

/-- `Enqueue` with the default priority and weight. -/
def enqueue (system : JobSystem Job) (group job : Job) (blocking : Bool) :
    Reply Job × JobSystem Job :=
  let (reply, queue) :=
    (system.queue group).enqueue (family.shape group) job blocking 1 1
  (reply, system.setQueue group queue)

/-- `Schedule` on the first job of a lineage, which goes on with the parent. No value
is returned where the thread waits. -/
def schedule (system : JobSystem Job) :
    List Job → Job → Nat → Option Int × JobSystem Job
  | [], _, _ => (some 0, system)
  | group :: parents, job, backlogSize =>
    if system.running group = false then (some (-1), system)
    else
      let system := system.acquire job
      let weight := (family.enforceSchedulingPolicy group job).2
      if backlogSize > weight then (some 0, system)
      else
        match system.enqueue family group job (family.blocking group) with
        | (.queued value, system) =>
          if value ≤ 0 then (some (-1), system)
          else system.schedule parents group 1
        | (.declines value, system) =>
          if value ≤ 0 then (some (-1), system)
          else system.schedule parents group 1
        | (_, system) => (none, system)

/-- `Serve` up to the call of the job's own `Serve`. Where it calls none, it returns. -/
def serve (system : JobSystem Job) (group : Job) : Option (JobSystem Job) :=
  match (system.queue group).dequeue (family.shape group) (family.blocking group) with
  | some (.serves _ job, queue) =>
    let (released, system) := (system.setQueue group queue).release job 1
    if released = -1 then some system
    else some { system with serving := (group, job) :: system.serving }
  | some (_, queue) => some (system.setQueue group queue)
  | none => none

/-- `Serve` from the return of the job's own `Serve` on. -/
def served (system : JobSystem Job) (group job : Job) (childBacklogSize : Nat) :
    JobSystem Job :=
  let system := { system with serving := system.serving.erase (group, job) }
  let (priority, weight) := family.enforceSchedulingPolicy group job
  if childBacklogSize < weight then system
  else ((system.acquire job).enqueue family group job (priority ≠ 0)).2

def remove (system : JobSystem Job) (group job : Job) : JobSystem Job :=
  let (queue, n) := (system.queue group).remove (family.shape group) job
  ((system.setQueue group queue).release job n).2

/-- One round of the loop in `Flush`, which the destructor calls. Where `Dequeue`
leaves the null pointer, its `Release` is undefined. -/
def flushNext (system : JobSystem Job) (group : Job) : Option (JobSystem Job) :=
  match (system.queue group).dequeue (family.shape group) false with
  | some (.serves _ job, queue) => some ((system.setQueue group queue).release job 1).2
  | _ => none

/-- The end of the destructor, after which the object is gone. -/
def closed (system : JobSystem Job) (group : Job) : JobSystem Job :=
  let system :=
    { system.setQueue group .fresh with closing := system.closing.erase group }
  match family.parent group with
  | some parent => (system.release parent 1).2
  | none => system

end JobSystem

/-- What can happen to the jobs: a call, the return of a served job, and the rounds
and the end of a destructor. -/
inductive JobEvent (Job : Type) where
  | start (group : Job)
  | schedule (group job : Job) (backlogSize : Nat)
  | serve (group : Job)
  | served (group job : Job) (childBacklogSize : Nat)
  | remove (group job : Job)
  | delete (job : Job)
  | flushNext (group : Job)
  | closed (group : Job)

namespace JobEvent

variable [DecidableEq Job] (family : JobFamily Job)

/-- Calls are made on objects that exist, and the owner deletes once. -/
def Possible (system : JobSystem Job) : JobEvent Job → Prop
  | .start group => system.deletions group = 0
  | .schedule group job _ => system.deletions group = 0 ∧ system.deletions job = 0
  | .serve group => system.deletions group = 0
  | .served group job _ => (group, job) ∈ system.serving
  | .remove group job => system.deletions group = 0 ∧ system.deletions job = 0
  | .delete job => system.owned job = true
  | .flushNext group => group ∈ system.closing ∧ (system.queue group).total > 0
  | .closed group => group ∈ system.closing ∧ (system.queue group).total = 0

def perform (system : JobSystem Job) : JobEvent Job → Option (JobSystem Job)
  | .start group =>
    some { system with running := Function.update system.running group true }
  | .schedule group job backlogSize =>
    some (system.schedule family (family.lineage group) job backlogSize).2
  | .serve group => system.serve family group
  | .served group job childBacklogSize =>
    some (system.served family group job childBacklogSize)
  | .remove group job => some (system.remove family group job)
  | .delete job => some (system.delete job)
  | .flushNext group => system.flushNext family group
  | .closed group => some (system.closed family group)

end JobEvent

end OpenDiameter.Framework
