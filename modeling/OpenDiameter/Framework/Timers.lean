import OpenDiameter.Foundation.Transitions

/-!
`AAA_StateMachineWithTimer` of `framework.h`, where `Timeout` puts the event into the queue of the
machine, as the ones of EAP, PANA and credit control do. A timer expires until it is cancelled.
-/

namespace OpenDiameter.Framework

open OpenDiameter.Foundation

/-- What an action does to the timers and the queue of its machine. -/
inductive TimerOp (Timer Event : Type) where
  | schedule (type : Timer) (event : Event)
  | cancel (type : Timer)
  | cancelAll
  | notify (event : Event)

structure QueuedEvent (Timer Event : Type) where
  event : Event
  /-- The timer whose expiry it is. -/
  expired : Option Timer
  /-- The timer was cancelled or rescheduled since. -/
  cancelled : Bool

structure TimedMachine (State Timer Event : Type) where
  /-- `Event`, and what its action does. -/
  act : State → Event → State × List (TimerOp Timer Event)
  /-- A machine of PANA that is not running is not notified. -/
  notified : State → Bool

/-- A machine with its timers and its queue. -/
structure Timed (State Timer Event : Type) where
  state : State
  /-- `timerHandleMap`, with the events of the timers. -/
  timers : List (Timer × Event)
  queue : List (QueuedEvent Timer Event)
  /-- The last event is the first one of the list. -/
  served : List (QueuedEvent Timer Event)

namespace Timed

variable {State Timer Event : Type} [DecidableEq Timer]

section

variable (machine : TimedMachine State Timer Event) (timed : Timed State Timer Event)

def enqueue (entry : QueuedEvent Timer Event) : Timed State Timer Event :=
  { timed with
    queue := if machine.notified timed.state then timed.queue ++ [entry] else timed.queue }

def markCancelled (type : Timer) (entry : QueuedEvent Timer Event) : QueuedEvent Timer Event :=
  if entry.expired = some type then { entry with cancelled := true } else entry

/-- `CancelTimer` -/
def cancelTimer (type : Timer) : Timed State Timer Event :=
  match timed.timers.find? fun timer => timer.1 = type with
  | none => timed
  | some _ =>
    { timed with
      timers := timed.timers.filter fun timer => timer.1 ≠ type
      queue := timed.queue.map (markCancelled type) }

/-- `ScheduleTimer` -/
def scheduleTimer (type : Timer) (event : Event) : Timed State Timer Event :=
  let timed := timed.cancelTimer type
  { timed with timers := timed.timers ++ [(type, event)] }

/-- `CancelAllTimer` -/
def cancelAllTimer : Timed State Timer Event :=
  timed.timers.foldl (fun timed timer => timed.cancelTimer timer.1) timed

def apply : TimerOp Timer Event → Timed State Timer Event
  | .schedule type event => timed.scheduleTimer type event
  | .cancel type => timed.cancelTimer type
  | .cancelAll => timed.cancelAllTimer
  | .notify event => timed.enqueue machine ⟨event, none, false⟩

def applyAll (ops : List (TimerOp Timer Event)) : Timed State Timer Event :=
  ops.foldl (fun timed op => timed.apply machine op) timed

/-- The reactor lets a timer expire. -/
def expire (type : Timer) : Timed State Timer Event :=
  match timed.timers.find? fun timer => timer.1 = type with
  | none => timed
  | some timer => timed.enqueue machine ⟨timer.2, some type, false⟩

/-- `Serve` -/
def serve : Timed State Timer Event :=
  match timed.queue with
  | [] => timed
  | entry :: queue =>
    let acted := machine.act timed.state entry.event
    applyAll machine
      { timed with state := acted.1, queue := queue, served := entry :: timed.served } acted.2

end

/-- A machine before anything happens. -/
def start (state : State) : Timed State Timer Event := ⟨state, [], [], []⟩

end Timed

inductive TimedInput (State Timer Event : Type) where
  | expire (type : Timer)
  /-- Something other than an event changes the machine, as a message or the application does. -/
  | outside (state : State) (ops : List (TimerOp Timer Event))
  | serve

namespace Timed

variable {State Timer Event : Type} [DecidableEq Timer]

section

variable (machine : TimedMachine State Timer Event)

def step (input : TimedInput State Timer Event) (timed : Timed State Timer Event) :
    Timed State Timer Event :=
  match input with
  | .expire type => timed.expire machine type
  | .outside state ops => applyAll machine { timed with state := state } ops
  | .serve => timed.serve machine

def run (inputs : List (TimedInput State Timer Event)) (timed : Timed State Timer Event) :
    Timed State Timer Event :=
  inputs.foldl (fun timed input => timed.step machine input) timed

/-- No expiry of the timer is in the queue. -/
def Quiet (type : Timer) (timed : Timed State Timer Event) : Prop :=
  ∀ entry ∈ timed.queue, entry.expired ≠ some type

/-- A timer is cancelled or rescheduled only while no expiry of it is in the queue. -/
def Timely (timed : Timed State Timer Event) : TimerOp Timer Event → Prop
  | .schedule type _ | .cancel type => type ∈ timed.timers.map Prod.fst → timed.Quiet type
  | .cancelAll => ∀ type ∈ timed.timers.map Prod.fst, timed.Quiet type
  | .notify _ => True

def AllTimely : List (TimerOp Timer Event) → Timed State Timer Event → Prop
  | [], _ => True
  | op :: ops, timed => timed.Timely op ∧ AllTimely ops (timed.apply machine op)

/-- So it is with what an input makes the machine do. -/
def Meets (input : TimedInput State Timer Event) (timed : Timed State Timer Event) : Prop :=
  match input with
  | .expire _ => True
  | .outside state ops => AllTimely machine ops { timed with state := state }
  | .serve =>
    match timed.queue with
    | [] => True
    | entry :: queue =>
      let acted := machine.act timed.state entry.event
      AllTimely machine acted.2
        { timed with state := acted.1, queue := queue, served := entry :: timed.served }

end

/-- No expiry of a timer that was cancelled or rescheduled waits in the queue. -/
def Fresh (timed : Timed State Timer Event) : Prop :=
  ∀ entry ∈ timed.queue, entry.cancelled = false

section

variable {machine : TimedMachine State Timer Event} {timed : Timed State Timer Event}
  {type : Timer}

omit [DecidableEq Timer] in
theorem enqueue_fresh {event : Event} {expired : Option Timer} :
    (timed.enqueue machine ⟨event, expired, false⟩).Fresh ↔ timed.Fresh := by
  rw [enqueue, Fresh]
  dsimp only
  split
  · rw [List.forall_mem_append, List.forall_mem_singleton]
    exact and_iff_left rfl
  · exact Iff.rfl

theorem markCancelled_fresh {entry : QueuedEvent Timer Event} :
    (markCancelled type entry).cancelled = false ↔
      entry.cancelled = false ∧ entry.expired ≠ some type := by
  rw [markCancelled]
  split
  · rename_i same
    exact iff_of_false Bool.noConfusion fun both => both.2 same
  · rename_i differs
    exact (and_iff_left differs).symm

theorem find_timer :
    (timed.timers.find? fun timer => timer.1 = type).isSome ↔
      type ∈ timed.timers.map Prod.fst := by
  rw [List.find?_isSome, List.mem_map]
  simp only [decide_eq_true_eq]

theorem cancelTimer_fresh :
    (timed.cancelTimer type).Fresh ↔
      timed.Fresh ∧ (type ∈ timed.timers.map Prod.fst → timed.Quiet type) := by
  rw [← find_timer, cancelTimer]
  split
  · rename_i missing
    rw [missing]
    exact (and_iff_left fun found => nomatch found).symm
  · rename_i timer found
    rw [found, Fresh, List.forall_mem_map]
    simp only [markCancelled_fresh]
    constructor
    · intro fresh
      exact ⟨fun entry isIn => (fresh entry isIn).1, fun _ entry isIn => (fresh entry isIn).2⟩
    · intro ⟨fresh, quiet⟩ entry isIn
      exact ⟨fresh entry isIn, quiet rfl entry isIn⟩

theorem cancelTimer_quiet {other : Timer} :
    (timed.cancelTimer type).Quiet other ↔ timed.Quiet other := by
  rw [cancelTimer]
  split
  · exact Iff.rfl
  · rw [Quiet, List.forall_mem_map]
    have same (entry : QueuedEvent Timer Event) :
        (markCancelled type entry).expired = entry.expired := by
      rw [markCancelled]
      split <;> rfl
    simp only [same]
    exact Iff.rfl

theorem mem_cancelTimer {other : Timer} :
    other ∈ (timed.cancelTimer type).timers.map Prod.fst ↔
      other ∈ timed.timers.map Prod.fst ∧ other ≠ type := by
  rw [cancelTimer]
  split
  · rename_i missing
    constructor
    · intro isTimer
      refine ⟨isTimer, fun same => ?_⟩
      rw [same, ← find_timer, missing] at isTimer
      exact nomatch isTimer
    · exact And.left
  · simp only [List.mem_map, List.mem_filter, decide_eq_true_eq]
    constructor
    · rintro ⟨timer, ⟨isTimer, differs⟩, rfl⟩
      exact ⟨⟨timer, isTimer, rfl⟩, differs⟩
    · rintro ⟨⟨timer, isTimer, rfl⟩, differs⟩
      exact ⟨timer, ⟨isTimer, differs⟩, rfl⟩

theorem cancelEach_fresh (timers : List (Timer × Event)) :
    (timers.foldl (fun timed timer => timed.cancelTimer timer.1) timed).Fresh ↔
      timed.Fresh ∧ ∀ timer ∈ timers, timer.1 ∈ timed.timers.map Prod.fst →
        timed.Quiet timer.1 := by
  induction timers generalizing timed with
  | nil => exact (and_iff_left fun _ isIn => nomatch isIn).symm
  | cons timer timers induction =>
    rw [List.foldl_cons, induction, cancelTimer_fresh, List.forall_mem_cons, and_assoc]
    simp only [mem_cancelTimer, cancelTimer_quiet]
    apply and_congr_right
    intro _
    apply and_congr_right
    intro quiet
    constructor
    · intro others other isIn isTimer
      by_cases same : other.1 = timer.1
      · rw [same] at isTimer ⊢
        exact quiet isTimer
      · exact others other isIn ⟨isTimer, same⟩
    · exact fun others other isIn isTimer => others other isIn isTimer.1

theorem cancelAllTimer_fresh :
    timed.cancelAllTimer.Fresh ↔
      timed.Fresh ∧ ∀ type ∈ timed.timers.map Prod.fst, timed.Quiet type := by
  rw [cancelAllTimer, cancelEach_fresh, List.forall_mem_map]
  apply and_congr_right
  intro _
  constructor
  · exact fun quiet timer isTimer => quiet timer isTimer (List.mem_map_of_mem isTimer)
  · exact fun quiet timer isTimer _ => quiet timer isTimer

/-- One operation leaves no stale expiry exactly when it is timely. -/
theorem apply_fresh (op : TimerOp Timer Event) :
    (timed.apply machine op).Fresh ↔ timed.Fresh ∧ timed.Timely op := by
  cases op with
  | schedule type event => exact cancelTimer_fresh
  | cancel type => exact cancelTimer_fresh
  | cancelAll => exact cancelAllTimer_fresh
  | notify event => exact enqueue_fresh.trans (and_iff_left trivial).symm

theorem applyAll_fresh (ops : List (TimerOp Timer Event)) :
    (applyAll machine timed ops).Fresh ↔ timed.Fresh ∧ AllTimely machine ops timed := by
  induction ops generalizing timed with
  | nil => exact (and_iff_left trivial).symm
  | cons op ops induction =>
    change (applyAll machine (timed.apply machine op) ops).Fresh ↔ _
    rw [induction, apply_fresh, and_assoc]
    exact Iff.rfl

theorem step_fresh (fresh : timed.Fresh) (input : TimedInput State Timer Event) :
    (timed.step machine input).Fresh ↔ Meets machine input timed := by
  cases input with
  | expire type =>
    rw [step, expire]
    split
    · exact iff_of_true fresh trivial
    · exact iff_of_true (enqueue_fresh.mpr fresh) trivial
  | outside state ops =>
    rw [step, applyAll_fresh]
    exact and_iff_right fresh
  | serve =>
    rw [step, serve, Meets]
    split
    · exact iff_of_true fresh trivial
    · rename_i entry queue isQueue
      rw [applyAll_fresh]
      rw [Fresh, isQueue, List.forall_mem_cons] at fresh
      exact and_iff_right fresh.2

/-! What was served stays as it was. -/

theorem apply_served (op : TimerOp Timer Event) :
    (timed.apply machine op).served = timed.served := by
  have cancelled (timed : Timed State Timer Event) (type : Timer) :
      (timed.cancelTimer type).served = timed.served := by
    rw [cancelTimer]
    split <;> rfl
  have each (timers : List (Timer × Event)) (timed : Timed State Timer Event) :
      (timers.foldl (fun timed timer => timed.cancelTimer timer.1) timed).served =
        timed.served := by
    induction timers generalizing timed with
    | nil => rfl
    | cons timer timers induction => rw [List.foldl_cons, induction, cancelled]
  cases op with
  | schedule type event => exact cancelled timed type
  | cancel type => exact cancelled timed type
  | cancelAll => exact each timed.timers timed
  | notify event => rfl

theorem applyAll_served (ops : List (TimerOp Timer Event)) :
    (applyAll machine timed ops).served = timed.served := by
  induction ops generalizing timed with
  | nil => rfl
  | cons op ops induction => exact induction.trans (apply_served op)

/-- Nothing was served that was cancelled before. -/
def Heeded (timed : Timed State Timer Event) : Prop :=
  ∀ entry ∈ timed.served, entry.cancelled = false

theorem step_heeded (fresh : timed.Fresh) (heeded : timed.Heeded)
    (input : TimedInput State Timer Event) : (timed.step machine input).Heeded := by
  cases input with
  | expire type =>
    rw [step, expire]
    split <;> exact heeded
  | outside state ops =>
    rw [step, Heeded, applyAll_served]
    exact heeded
  | serve =>
    rw [step, serve]
    split
    · exact heeded
    · rename_i entry queue isQueue
      rw [Heeded, applyAll_served]
      rw [Fresh, isQueue, List.forall_mem_cons] at fresh
      exact List.forall_mem_cons.mpr ⟨fresh.1, heeded⟩

end

/-- A course of a machine all of whose steps are as asked. -/
abbrev Course (machine : TimedMachine State Timer Event)
    (asked : Timed State Timer Event → TimedInput State Timer Event → Prop) :
    Timed State Timer Event → Prop :=
  Reached (fun timed => ∃ state, timed = start state)
    (fun timed input next => next = timed.step machine input) asked

section

variable {machine : TimedMachine State Timer Event} {timed : Timed State Timer Event}

theorem Course.fresh
    (course : Course machine (fun timed input => Meets machine input timed) timed) :
    timed.Fresh ∧ timed.Heeded := by
  apply course.invariant fun timed => timed.Fresh ∧ timed.Heeded
  · rintro _ ⟨state, rfl⟩
    exact ⟨fun _ isIn => (nomatch isIn), fun _ isIn => (nomatch isIn)⟩
  · rintro timed input _ ⟨fresh, heeded⟩ rfl meets
    exact ⟨(step_fresh fresh input).mpr meets, step_heeded fresh heeded input⟩

end

end Timed

/-- Of a machine that cancels and reschedules a timer only while no expiry of it is in the queue, no
expiry is served after its timer was cancelled or rescheduled. -/
theorem cancelled_timer_not_served {State Timer Event : Type} [DecidableEq Timer]
    (machine : TimedMachine State Timer Event) {timed : Timed State Timer Event}
    (course : Timed.Course machine (fun timed input => Timed.Meets machine input timed) timed) :
    ∀ entry ∈ timed.served, entry.cancelled = false :=
  course.fresh.2

end OpenDiameter.Framework
