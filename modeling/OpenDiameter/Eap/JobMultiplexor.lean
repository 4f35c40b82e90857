import OpenDiameter.Foundation.Transitions

/-!
`EapJobMultiplexor` and `EapStateMachine` of `eap_fsm.hxx`: the events of a machine wait in its own
queue, and for each of them the machine waits in the queue that the machines of a session share.
-/

namespace OpenDiameter.Eap

open OpenDiameter.Foundation

/-- An event in the queue of a machine. -/
structure WaitingEvent where
  event : Int
  /-- The machine ran when it was notified. -/
  running : Bool
  /-- The machine was stopped since. -/
  stopped : Bool
  deriving DecidableEq

structure QueueingMachine where
  /-- It was created and not deleted since. -/
  live : Bool
  running : Bool
  queue : List WaitingEvent
  /-- What it was notified of while it ran. -/
  notified : List Int
  /-- What it executed. -/
  served : List WaitingEvent

namespace QueueingMachine

def created : QueueingMachine := ⟨true, false, [], [], []⟩

def absent : QueueingMachine := { created with live := false }

variable (machine : QueueingMachine)

def enqueue (event : Int) : QueueingMachine :=
  { machine with
    queue := machine.queue ++ [⟨event, machine.running, false⟩]
    notified := if machine.running then machine.notified ++ [event] else machine.notified }

/-- `Event`, which a machine that does not run ignores. -/
def event (entry : WaitingEvent) : QueueingMachine :=
  if machine.running then { machine with served := machine.served ++ [entry] } else machine

/-- `Serve`; the event stays 0 if `Dequeue` finds none. -/
def serve : QueueingMachine :=
  match machine.queue with
  | [] => machine.event ⟨0, true, false⟩
  | entry :: queue => ({ machine with queue := queue } : QueueingMachine).event entry

def start : QueueingMachine := { machine with running := true }

def stop : QueueingMachine :=
  { machine with
    running := false
    queue := machine.queue.map fun entry => { entry with stopped := true } }

/-- The queue is gone with its machine. -/
def delete : QueueingMachine := { machine with live := false, queue := [] }

/-- The events among the entries of which the machine was notified while it ran. -/
def notifiedRunning (entries : List WaitingEvent) : List Int :=
  (entries.filter WaitingEvent.running).map WaitingEvent.event

end QueueingMachine

/-- The machines of a session are numbered as they are created, and the first is the switch. -/
structure EapJobMultiplexor where
  machine : Nat → QueueingMachine
  created : Nat
  jobs : List Nat
  /-- How often it waits for the job of the session. -/
  turns : Nat
  methodStateMachine : Option Nat
  innerMethodStateMachine : Option Nat

inductive MultiplexorInput where
  | notify (number : Nat) (event : Int)
  | start (number : Nat)
  | stop (number : Nat)
  | createMethod (hasInner : Bool)
  | deleteMethod
  | serve

namespace EapJobMultiplexor

section

variable (mux : EapJobMultiplexor)

def setMachine (number : Nat) (machine : QueueingMachine) : EapJobMultiplexor :=
  { mux with machine := Function.update mux.machine number machine }

/-- `Schedule`, as the job of the session runs. -/
def schedule (number : Nat) : EapJobMultiplexor :=
  { mux with jobs := mux.jobs ++ [number], turns := mux.turns + 1 }

/-- `Flush`, with `Remove` of the job of the session. -/
def flush : EapJobMultiplexor := { mux with jobs := [], turns := 0 }

def notify (number : Nat) (event : Int) : EapJobMultiplexor :=
  if (mux.machine number).live then
    (mux.setMachine number ((mux.machine number).enqueue event)).schedule number
  else mux

def start (number : Nat) : EapJobMultiplexor :=
  if (mux.machine number).live then
    mux.setMachine number (mux.machine number).start
  else mux

def stop (number : Nat) : EapJobMultiplexor :=
  if (mux.machine number).live then
    (mux.setMachine number (mux.machine number).stop).flush
  else mux

def create : EapJobMultiplexor :=
  { mux.setMachine mux.created .created with created := mux.created + 1 }

/-- `CreateMethodStateMachine` -/
def createMethodStateMachine (hasInner : Bool) : EapJobMultiplexor :=
  let created := { mux.create with methodStateMachine := some mux.created }
  if hasInner then { created.create with innerMethodStateMachine := some created.created }
  else created

/-- `DeleteMethodStateMachine` -/
def deleteMethodStateMachine : EapJobMultiplexor :=
  match mux.methodStateMachine with
  | none => mux
  | some number =>
    { mux.setMachine number (mux.machine number).delete with methodStateMachine := none }

/-- `Serve` in a turn of the session. The job of a deleted machine is only taken here. -/
def serve : EapJobMultiplexor :=
  match mux.turns, mux.jobs with
  | 0, _ => mux
  | turns + 1, [] => { mux with turns := turns }
  | turns + 1, number :: jobs =>
    let taken := { mux with turns := turns, jobs := jobs }
    if (mux.machine number).live then
      taken.setMachine number (mux.machine number).serve
    else taken

end

/-- A session that begins has a switch. -/
def begun : EapJobMultiplexor where
  machine := fun number => if number = 0 then .created else .absent
  created := 1
  jobs := []
  turns := 0
  methodStateMachine := none
  innerMethodStateMachine := none

/-- What an action does comes as inputs of their own after the `serve`. -/
def step (input : MultiplexorInput) (mux : EapJobMultiplexor) : EapJobMultiplexor :=
  match input with
  | .notify number event => mux.notify number event
  | .start number => mux.start number
  | .stop number => mux.stop number
  | .createMethod hasInner => mux.createMethodStateMachine hasInner
  | .deleteMethod => mux.deleteMethodStateMachine
  | .serve => mux.serve

def run (inputs : List MultiplexorInput) (mux : EapJobMultiplexor) : EapJobMultiplexor :=
  inputs.foldl (fun mux input => mux.step input) mux

/-- Events are neither lost nor delayed. -/
structure Accounted (mux : EapJobMultiplexor) : Prop where
  counted : ∀ number, (mux.machine number).live = true →
    mux.jobs.count number = (mux.machine number).queue.length
  /-- Each job has its turn. -/
  scheduled : mux.turns = mux.jobs.length
  ordered : ∀ number, (mux.machine number).notified =
    QueueingMachine.notifiedRunning
      ((mux.machine number).served ++ (mux.machine number).queue)
  /-- What waits is served in the turns that there are. -/
  served : ∀ number, (mux.machine number).notified =
    QueueingMachine.notifiedRunning ((serve^[mux.turns] mux).machine number).served
  /-- What waited when the machine was stopped is not served. -/
  fresh : ∀ number, ∀ entry ∈ (mux.machine number).served, entry.stopped = false
  /-- No job of a deleted machine is left. -/
  live : ∀ number ∈ mux.jobs, (mux.machine number).live = true

/-- A machine is stopped only while no job waits, and a method is deleted only while none of its
events waits. -/
def Meets (input : MultiplexorInput) (mux : EapJobMultiplexor) : Prop :=
  match input with
  | .stop number => (mux.machine number).live = true → mux.jobs = []
  | .deleteMethod => ∀ number, mux.methodStateMachine = some number →
      (mux.machine number).queue = []
  | _ => True

end EapJobMultiplexor

/-! What is so of one machine. -/

namespace QueueingMachine

structure Kept (machine : QueueingMachine) : Prop where
  ordered : machine.notified = notifiedRunning (machine.served ++ machine.queue)
  fresh : ∀ entry ∈ machine.served ++ machine.queue, entry.stopped = false
  idle : machine.running = false → ∀ entry ∈ machine.queue, entry.running = false
  gone : machine.live = false → machine.queue = []

variable {machine : QueueingMachine}

theorem notifiedRunning_append (entries others : List WaitingEvent) :
    notifiedRunning (entries ++ others) = notifiedRunning entries ++ notifiedRunning others := by
  rw [notifiedRunning, List.filter_append, List.map_append]
  rfl

theorem created_kept : created.Kept where
  ordered := rfl
  fresh := fun _ isIn => nomatch isIn
  idle := fun _ _ isIn => nomatch isIn
  gone := fun _ => rfl

theorem absent_kept : absent.Kept where
  ordered := rfl
  fresh := fun _ isIn => nomatch isIn
  idle := fun _ _ isIn => nomatch isIn
  gone := fun _ => rfl

theorem Kept.enqueue (kept : machine.Kept) (isLive : machine.live = true) (event : Int) :
    (machine.enqueue event).Kept where
  ordered := by
    change (if machine.running then machine.notified ++ [event] else machine.notified) =
      notifiedRunning (machine.served ++ (machine.queue ++ [⟨event, machine.running, false⟩]))
    rw [← List.append_assoc, notifiedRunning_append, ← kept.ordered]
    cases machine.running with
    | false => exact (List.append_nil _).symm
    | true => rfl
  fresh := by
    intro entry isIn
    change entry ∈ machine.served ++ (machine.queue ++ [_]) at isIn
    rw [← List.append_assoc, List.mem_append, List.mem_singleton] at isIn
    cases isIn with
    | inl isEarlier => exact kept.fresh entry isEarlier
    | inr isNew => rw [isNew]
  idle := by
    intro stopped entry isIn
    change entry ∈ machine.queue ++ [_] at isIn
    rw [List.mem_append, List.mem_singleton] at isIn
    cases isIn with
    | inl isEarlier => exact kept.idle stopped entry isEarlier
    | inr isNew =>
      rw [isNew]
      exact stopped
  gone := fun isGone => absurd (isLive.symm.trans isGone) Bool.noConfusion

theorem event_queue (entry : WaitingEvent) : (machine.event entry).queue = machine.queue := by
  rw [event]
  split <;> rfl

theorem event_live (entry : WaitingEvent) : (machine.event entry).live = machine.live := by
  rw [event]
  split <;> rfl

theorem event_notified (entry : WaitingEvent) :
    (machine.event entry).notified = machine.notified := by
  rw [event]
  split <;> rfl

theorem serve_live : machine.serve.live = machine.live := by
  rw [serve]
  split
  · exact event_live _
  · exact event_live _

theorem serve_notified : machine.serve.notified = machine.notified := by
  rw [serve]
  split
  · exact event_notified _
  · exact event_notified _

/-- The first event leaves the queue. -/
theorem serve_queue {entry : WaitingEvent} {queue : List WaitingEvent}
    (isQueue : machine.queue = entry :: queue) : machine.serve.queue = queue := by
  rw [serve, isQueue]
  exact event_queue entry

theorem Kept.serve (kept : machine.Kept) {entry : WaitingEvent} {queue : List WaitingEvent}
    (isQueue : machine.queue = entry :: queue) : machine.serve.Kept := by
  have ordered := kept.ordered
  have fresh := kept.fresh
  have idle := kept.idle
  rw [isQueue] at ordered fresh idle
  have notGone (isGone : machine.live = false) : queue = [] := by
    have isEmpty := kept.gone isGone
    rw [isQueue] at isEmpty
    cases isEmpty
  rw [QueueingMachine.serve, isQueue]
  dsimp only
  rw [event]
  split
  · rename_i isRunning
    refine ⟨?_, ?_, ?_, notGone⟩
    · dsimp only
      rw [List.append_assoc]
      exact ordered
    · dsimp only
      rw [List.append_assoc]
      exact fresh
    · exact fun isStopped => absurd (isRunning.symm.trans isStopped) Bool.noConfusion
  · rename_i notRunning
    have unnoticed := idle (Bool.eq_false_iff.mpr notRunning)
    rw [List.forall_mem_cons] at unnoticed
    refine ⟨?_, ?_, fun _ => unnoticed.2, notGone⟩
    · dsimp only
      rw [ordered, notifiedRunning_append, notifiedRunning_append]
      have skipped : notifiedRunning (entry :: queue) = notifiedRunning queue := by
        rw [notifiedRunning, List.filter_cons_of_neg (Bool.eq_false_iff.mp unnoticed.1)]
        rfl
      rw [skipped]
    · intro other isIn
      apply fresh other
      rw [List.mem_append] at isIn ⊢
      exact isIn.imp_right (List.mem_cons_of_mem entry)

theorem Kept.start (kept : machine.Kept) : machine.start.Kept :=
  ⟨kept.ordered, kept.fresh, fun isStopped => (nomatch isStopped), kept.gone⟩

theorem Kept.stop (kept : machine.Kept) (isEmpty : machine.queue = []) : machine.stop.Kept := by
  have noQueue : machine.stop.queue = [] := by
    rw [QueueingMachine.stop, isEmpty]
    rfl
  refine ⟨?_, ?_, ?_, fun _ => noQueue⟩
  · rw [noQueue, ← isEmpty]
    exact kept.ordered
  · rw [noQueue, ← isEmpty]
    exact kept.fresh
  · rw [noQueue]
    exact fun _ _ isIn => nomatch isIn

theorem Kept.delete (kept : machine.Kept) (isEmpty : machine.queue = []) :
    machine.delete.Kept := by
  refine ⟨?_, ?_, fun _ _ isIn => (nomatch isIn), fun _ => rfl⟩
  · change machine.notified = notifiedRunning (machine.served ++ [])
    rw [← isEmpty]
    exact kept.ordered
  · change ∀ entry ∈ machine.served ++ [], entry.stopped = false
    rw [← isEmpty]
    exact kept.fresh

end QueueingMachine

namespace EapJobMultiplexor

structure Kept (mux : EapJobMultiplexor) : Prop where
  counted : ∀ number, (mux.machine number).live = true →
    mux.jobs.count number = (mux.machine number).queue.length
  scheduled : mux.turns = mux.jobs.length
  machines : ∀ number, (mux.machine number).Kept
  live : ∀ number ∈ mux.jobs, (mux.machine number).live = true
  isCreated : ∀ number, (mux.machine number).live = true → number < mux.created
  method : ∀ number, mux.methodStateMachine = some number → (mux.machine number).live = true

variable {mux : EapJobMultiplexor} {number : Nat}

theorem setMachine_same (machine : QueueingMachine) :
    (mux.setMachine number machine).machine number = machine := by
  change Function.update mux.machine number machine number = machine
  rw [Function.update_self]

theorem setMachine_other (machine : QueueingMachine) {other : Nat} (differs : other ≠ number) :
    (mux.setMachine number machine).machine other = mux.machine other := by
  change Function.update mux.machine number machine other = mux.machine other
  rw [Function.update_of_ne differs]

variable {machine : QueueingMachine}

/-- What is so of each machine is so if it is so of the one that is replaced. -/
theorem forall_setMachine (Property : Nat → QueueingMachine → Prop)
    (replaced : Property number machine)
    (others : ∀ other, other ≠ number → Property other (mux.machine other)) (other : Nat) :
    Property other ((mux.setMachine number machine).machine other) := by
  by_cases same : other = number
  · rw [same, setMachine_same]
    exact replaced
  · rw [setMachine_other machine same]
    exact others other same

theorem setMachine_live (sameLive : machine.live = (mux.machine number).live) (other : Nat) :
    ((mux.setMachine number machine).machine other).live = (mux.machine other).live := by
  apply forall_setMachine fun other machine => machine.live = (mux.machine other).live
  · exact sameLive
  · exact fun _ _ => rfl

theorem Kept.begun : begun.Kept where
  counted := by
    intro number _
    rw [EapJobMultiplexor.begun]
    dsimp only
    split <;> rfl
  scheduled := rfl
  machines := by
    intro number
    rw [EapJobMultiplexor.begun]
    dsimp only
    split
    · exact QueueingMachine.created_kept
    · exact QueueingMachine.absent_kept
  live := fun _ isIn => nomatch isIn
  isCreated := by
    intro number isLive
    rw [EapJobMultiplexor.begun] at isLive ⊢
    dsimp only at isLive ⊢
    split at isLive
    · rename_i isFirst
      rw [isFirst]
      exact Nat.zero_lt_one
    · cases isLive
  method := fun _ isMethod => nomatch isMethod

variable {jobs : List Nat}

/-- A machine changes with the jobs that wait for it. -/
theorem Kept.change (kept : mux.Kept) (machineKept : machine.Kept)
    (sameLive : machine.live = (mux.machine number).live) {turns : Nat}
    (isScheduled : turns = jobs.length)
    (isCounted : machine.live = true → jobs.count number = machine.queue.length)
    (others : ∀ other, other ≠ number → jobs.count other = mux.jobs.count other)
    (isLive : ∀ other ∈ jobs, (mux.machine other).live = true) :
    ({ mux.setMachine number machine with jobs := jobs, turns := turns } :
      EapJobMultiplexor).Kept where
  counted := by
    apply forall_setMachine fun other machine =>
      machine.live = true → jobs.count other = machine.queue.length
    · exact isCounted
    · intro other differs otherLive
      rw [others other differs]
      exact kept.counted other otherLive
  scheduled := isScheduled
  machines := forall_setMachine (fun _ machine => machine.Kept) machineKept
    fun other _ => kept.machines other
  live := fun other isIn => (setMachine_live sameLive other).trans (isLive other isIn)
  isCreated := fun other otherLive =>
    kept.isCreated other ((setMachine_live sameLive other).symm.trans otherLive)
  method := fun other isMethod =>
    (setMachine_live sameLive other).trans (kept.method other isMethod)

theorem Kept.notify (kept : mux.Kept) (event : Int) : (mux.notify number event).Kept := by
  rw [EapJobMultiplexor.notify]
  split
  · rename_i isLive
    apply kept.change ((kept.machines number).enqueue isLive event) rfl
    · change mux.turns + 1 = (mux.jobs ++ [number]).length
      rw [kept.scheduled, List.length_append]
      rfl
    · intro _
      change (mux.jobs ++ [number]).count number = ((mux.machine number).queue ++ [_]).length
      rw [List.count_append, kept.counted number isLive, List.count_singleton_self,
        List.length_append]
      rfl
    · intro other differs
      change (mux.jobs ++ [number]).count other = mux.jobs.count other
      rw [List.count_append, List.count_singleton, beq_eq_false_iff_ne.mpr differs.symm]
      rfl
    · intro other isIn
      change other ∈ mux.jobs ++ [number] at isIn
      rw [List.mem_append, List.mem_singleton] at isIn
      cases isIn with
      | inl isEarlier => exact kept.live other isEarlier
      | inr isNew =>
        rw [isNew]
        exact isLive
  · exact kept

theorem Kept.start (kept : mux.Kept) : (mux.start number).Kept := by
  rw [EapJobMultiplexor.start]
  split
  · rename_i isLive
    exact kept.change (kept.machines number).start rfl kept.scheduled
      (fun _ => kept.counted number isLive) (fun _ _ => rfl) kept.live
  · exact kept

/-- The machine of the first job has an event. -/
theorem Kept.exists_event (kept : mux.Kept) (isJobs : mux.jobs = number :: jobs) :
    ∃ entry queue, (mux.machine number).queue = entry :: queue ∧
      jobs.count number = queue.length := by
  have isIn : number ∈ mux.jobs := by
    rw [isJobs]
    exact List.mem_cons_self
  have isCounted := kept.counted number (kept.live number isIn)
  rw [isJobs, List.count_cons_self] at isCounted
  cases isQueue : (mux.machine number).queue with
  | nil =>
    rw [isQueue] at isCounted
    exact nomatch isCounted
  | cons entry queue =>
    rw [isQueue] at isCounted
    exact ⟨entry, queue, rfl, Nat.succ.inj isCounted⟩

/-- A turn serves the first event of the machine whose job is the first. -/
theorem Kept.serve_eq (kept : mux.Kept) (isJobs : mux.jobs = number :: jobs) :
    mux.serve =
      { mux.setMachine number (mux.machine number).serve with
        jobs := jobs, turns := jobs.length } := by
  have isLive : (mux.machine number).live = true := by
    apply kept.live number
    rw [isJobs]
    exact List.mem_cons_self
  have isScheduled := kept.scheduled
  rw [isJobs, List.length_cons] at isScheduled
  rw [serve, isJobs, isScheduled]
  dsimp only
  rw [if_pos isLive]
  rfl

theorem Kept.serve (kept : mux.Kept) : mux.serve.Kept := by
  cases isJobs : mux.jobs with
  | nil =>
    have noTurns := kept.scheduled
    rw [isJobs] at noTurns
    rw [EapJobMultiplexor.serve, noTurns]
    exact kept
  | cons number jobs =>
    obtain ⟨entry, queue, isQueue, isCounted⟩ := kept.exists_event isJobs
    rw [kept.serve_eq isJobs]
    apply kept.change ((kept.machines number).serve isQueue) QueueingMachine.serve_live rfl
    · intro _
      rw [QueueingMachine.serve_queue isQueue]
      exact isCounted
    · intro other differs
      rw [isJobs, List.count_cons_of_ne differs.symm]
    · intro other isIn
      apply kept.live other
      rw [isJobs]
      exact List.mem_cons_of_mem number isIn

theorem Kept.queue_empty (kept : mux.Kept) (isEmpty : mux.jobs = []) (number : Nat) :
    (mux.machine number).queue = [] := by
  cases isLive : (mux.machine number).live with
  | false => exact (kept.machines number).gone isLive
  | true =>
    have isCounted := kept.counted number isLive
    rw [isEmpty] at isCounted
    exact List.length_eq_zero_iff.mp isCounted.symm

theorem Kept.stop (kept : mux.Kept) (isEmpty : (mux.machine number).live = true → mux.jobs = []) :
    (mux.stop number).Kept := by
  rw [EapJobMultiplexor.stop]
  split
  · rename_i isLive
    have noQueue := kept.queue_empty (isEmpty isLive) number
    apply kept.change ((kept.machines number).stop noQueue) rfl rfl
    · intro _
      rw [QueueingMachine.stop, noQueue]
      rfl
    · intro other _
      rw [isEmpty isLive]
    · exact fun _ isIn => nomatch isIn
  · exact kept

theorem Kept.create (kept : mux.Kept) : mux.create.Kept where
  counted := by
    apply forall_setMachine fun other machine =>
      machine.live = true → mux.jobs.count other = machine.queue.length
    · intro _
      apply List.count_eq_zero_of_not_mem
      intro isIn
      exact Nat.lt_irrefl mux.created (kept.isCreated mux.created (kept.live mux.created isIn))
    · exact fun other _ => kept.counted other
  scheduled := kept.scheduled
  machines := forall_setMachine (fun _ machine => machine.Kept) QueueingMachine.created_kept
    fun other _ => kept.machines other
  live := by
    apply forall_setMachine fun other machine => other ∈ mux.jobs → machine.live = true
    · exact fun _ => rfl
    · exact fun other _ => kept.live other
  isCreated := by
    apply forall_setMachine fun other machine => machine.live = true → other < mux.created + 1
    · exact fun _ => Nat.lt_succ_self mux.created
    · exact fun other _ isLive => Nat.lt_succ_of_lt (kept.isCreated other isLive)
  method := by
    apply forall_setMachine fun other machine =>
      mux.methodStateMachine = some other → machine.live = true
    · exact fun _ => rfl
    · exact fun other _ => kept.method other

theorem Kept.createMethodStateMachine (kept : mux.Kept) (hasInner : Bool) :
    (mux.createMethodStateMachine hasInner).Kept := by
  have created : { mux.create with methodStateMachine := some mux.created }.Kept := by
    refine ⟨kept.create.counted, kept.create.scheduled, kept.create.machines, kept.create.live,
      kept.create.isCreated, ?_⟩
    intro number isMethod
    cases isMethod
    change ((mux.setMachine mux.created .created).machine mux.created).live = true
    rw [setMachine_same]
    rfl
  rw [EapJobMultiplexor.createMethodStateMachine]
  dsimp only
  split
  · have both := created.create
    exact ⟨both.counted, both.scheduled, both.machines, both.live, both.isCreated, both.method⟩
  · exact created

theorem Kept.deleteMethodStateMachine (kept : mux.Kept)
    (isEmpty : ∀ number, mux.methodStateMachine = some number →
      (mux.machine number).queue = []) : mux.deleteMethodStateMachine.Kept := by
  rw [EapJobMultiplexor.deleteMethodStateMachine]
  split
  · exact kept
  · rename_i number isMethod
    have noQueue := isEmpty number isMethod
    have noJob : number ∉ mux.jobs := by
      rw [← List.count_eq_zero, kept.counted number (kept.method number isMethod), noQueue]
      rfl
    constructor
    · apply forall_setMachine fun other machine =>
        machine.live = true → mux.jobs.count other = machine.queue.length
      · exact fun isLive => nomatch isLive
      · exact fun other _ => kept.counted other
    · exact kept.scheduled
    · exact forall_setMachine (fun _ machine => machine.Kept)
        ((kept.machines number).delete noQueue) fun other _ => kept.machines other
    · apply forall_setMachine fun other machine => other ∈ mux.jobs → machine.live = true
      · exact fun isIn => absurd isIn noJob
      · exact fun other _ => kept.live other
    · apply forall_setMachine fun other machine => machine.live = true → other < mux.created
      · exact fun isLive => nomatch isLive
      · exact fun other _ => kept.isCreated other
    · exact fun _ isMethod => nomatch isMethod

theorem Kept.step (kept : mux.Kept) (input : MultiplexorInput) (meets : Meets input mux) :
    (mux.step input).Kept := by
  cases input with
  | notify number event => exact kept.notify event
  | start number => exact kept.start
  | stop number => exact kept.stop meets
  | createMethod hasInner => exact kept.createMethodStateMachine hasInner
  | deleteMethod => exact kept.deleteMethodStateMachine meets
  | serve => exact kept.serve

theorem Kept.serve_turns (kept : mux.Kept) : mux.serve.turns = mux.turns - 1 := by
  rw [kept.scheduled]
  cases isJobs : mux.jobs with
  | nil =>
    have noTurns := kept.scheduled
    rw [isJobs] at noTurns
    rw [EapJobMultiplexor.serve, noTurns]
    exact noTurns
  | cons number jobs =>
    rw [kept.serve_eq isJobs]
    rfl

theorem serve_notified (number : Nat) :
    (mux.serve.machine number).notified = (mux.machine number).notified := by
  rw [serve]
  split
  · rfl
  · rfl
  · rename_i first jobs _ _
    dsimp only
    split
    · apply forall_setMachine fun other machine =>
        machine.notified = (mux.machine other).notified
      · exact QueueingMachine.serve_notified
      · exact fun _ _ => rfl
    · rfl

/-- In the turns that there are all jobs are served. -/
theorem Kept.iterate_serve (kept : mux.Kept) {turns : Nat} (isTurns : mux.turns = turns) :
    (EapJobMultiplexor.serve^[turns] mux).Kept ∧
      (EapJobMultiplexor.serve^[turns] mux).jobs = [] ∧
      ∀ number, ((EapJobMultiplexor.serve^[turns] mux).machine number).notified =
        (mux.machine number).notified := by
  induction turns generalizing mux with
  | zero =>
    have noJobs := kept.scheduled
    rw [isTurns] at noJobs
    exact ⟨kept, List.length_eq_zero_iff.mp noJobs.symm, fun _ => rfl⟩
  | succ turns induction =>
    rw [Function.iterate_succ_apply]
    have later : mux.serve.turns = turns := by
      rw [kept.serve_turns, isTurns]
      rfl
    have ⟨isKept, noJobs, same⟩ := induction kept.serve later
    exact ⟨isKept, noJobs, fun number => (same number).trans (serve_notified number)⟩

theorem Kept.accounted (kept : mux.Kept) : mux.Accounted where
  counted := kept.counted
  scheduled := kept.scheduled
  ordered := fun number => (kept.machines number).ordered
  served := by
    intro number
    have ⟨isKept, noJobs, same⟩ := kept.iterate_serve rfl
    rw [← same number, (isKept.machines number).ordered, isKept.queue_empty noJobs,
      List.append_nil]
  fresh := fun number entry isIn =>
    (kept.machines number).fresh entry (List.mem_append_left _ isIn)
  live := kept.live

/-- Stopping a machine loses the turns of every job that waits. -/
theorem Kept.stop_meets (kept : mux.Kept) (accounted : (mux.stop number).Accounted)
    (isLive : (mux.machine number).live = true) : mux.jobs = [] := by
  rw [EapJobMultiplexor.stop, if_pos isLive] at accounted
  have sameLive : (mux.machine number).stop.live = (mux.machine number).live := rfl
  have noQueue (other : Nat) (otherLive : (mux.machine other).live = true) :
      (mux.machine other).queue.length = 0 := by
    have isCounted := accounted.counted other
      ((setMachine_live sameLive other).trans otherLive)
    change 0 = ((mux.setMachine number (mux.machine number).stop).machine other).queue.length
      at isCounted
    rw [isCounted]
    apply forall_setMachine fun other machine =>
      (mux.machine other).queue.length = machine.queue.length
    · exact (List.length_map _).symm
    · exact fun _ _ => rfl
  cases isJobs : mux.jobs with
  | nil => rfl
  | cons first jobs =>
    have firstLive : (mux.machine first).live = true := by
      apply kept.live first
      rw [isJobs]
      exact List.mem_cons_self
    have ⟨entry, queue, isQueue, _⟩ := kept.exists_event isJobs
    have isEmpty := noQueue first firstLive
    rw [isQueue] at isEmpty
    exact nomatch isEmpty

/-- Deleting a method leaves its jobs. -/
theorem Kept.delete_meets (kept : mux.Kept) (accounted : mux.deleteMethodStateMachine.Accounted)
    (isMethod : mux.methodStateMachine = some number) : (mux.machine number).queue = [] := by
  have noJob : number ∉ mux.jobs := by
    intro isIn
    rw [EapJobMultiplexor.deleteMethodStateMachine, isMethod] at accounted
    have isLive := accounted.live number isIn
    change ((mux.setMachine number (mux.machine number).delete).machine number).live = true
      at isLive
    rw [setMachine_same] at isLive
    exact nomatch isLive
  rw [← List.length_eq_zero_iff, ← kept.counted number (kept.method number isMethod)]
  exact List.count_eq_zero_of_not_mem noJob

theorem Kept.step_accounted_iff (kept : mux.Kept) (input : MultiplexorInput) :
    (mux.step input).Accounted ↔ Meets input mux := by
  constructor
  · intro accounted
    cases input with
    | stop number => exact kept.stop_meets accounted
    | deleteMethod => exact fun number isMethod => kept.delete_meets accounted isMethod
    | notify => trivial
    | start => trivial
    | createMethod => trivial
    | serve => trivial
  · exact fun meets => (kept.step input meets).accounted

end EapJobMultiplexor

/-- In a run no event is lost or delayed exactly when machines are stopped and methods deleted only
while nothing waits that they leave behind. -/
theorem events_accounted_iff (inputs : List MultiplexorInput) :
    (∀ before after, inputs = before ++ after →
        (EapJobMultiplexor.begun.run before).Accounted) ↔
      ∀ before input after, inputs = before ++ input :: after →
        EapJobMultiplexor.Meets input (EapJobMultiplexor.begun.run before) := by
  apply @run_good_iff _ _ EapJobMultiplexor.step EapJobMultiplexor.Kept
    EapJobMultiplexor.Accounted EapJobMultiplexor.Meets
  · exact fun _ kept => kept.accounted
  · exact fun input _ kept => kept.step_accounted_iff input
  · exact fun input _ kept meets => kept.step input meets
  · exact EapJobMultiplexor.Kept.begun

/-- An event from before a stop is served in the place of the new one, and the job of a deleted
method is left. -/
theorem stopped_event_served :
    ((EapJobMultiplexor.begun.run
        [.start 0, .notify 0 1, .stop 0, .start 0, .notify 0 2, .serve]).machine 0).served =
      [⟨1, true, true⟩] ∧
    ((EapJobMultiplexor.begun.run
        [.start 0, .notify 0 1, .stop 0, .start 0, .notify 0 2, .serve]).machine 0).queue =
      [⟨2, true, false⟩] ∧
    (EapJobMultiplexor.begun.run
        [.start 0, .notify 0 1, .stop 0, .start 0, .notify 0 2, .serve]).jobs = [] ∧
    (EapJobMultiplexor.begun.run
        [.createMethod false, .start 1, .notify 1 1, .deleteMethod]).jobs = [1] ∧
    ((EapJobMultiplexor.begun.run
        [.createMethod false, .start 1, .notify 1 1, .deleteMethod]).machine 1).live = false ∧
    ¬ ∀ inputs, (EapJobMultiplexor.begun.run inputs).Accounted := by
  refine ⟨rfl, rfl, rfl, rfl, rfl, fun accounted => ?_⟩
  have isFresh := (accounted
    [.start 0, .notify 0 1, .stop 0, .start 0, .notify 0 2, .serve]).fresh 0 ⟨1, true, true⟩
    List.mem_cons_self
  exact nomatch isFresh

end OpenDiameter.Eap
