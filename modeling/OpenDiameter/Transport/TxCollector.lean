import Mathlib.Logic.Function.Basic
import OpenDiameter.Foundation.Transitions

/-!
`DiameterTxMsgCollector`: the threads that send and the one that transmits, with the mutex and the
condition between them.
-/

namespace OpenDiameter.Transport

open OpenDiameter.Foundation

/-- Where `svc` is. -/
inductive TxWorker where
  /-- Before the guard of the mutex. -/
  | acquiring
  /-- The mutex is taken, `m_Condition.wait` comes next. -/
  | acquired
  | waiting
  /-- Out of the wait, but for the mutex. -/
  | woken
  | draining
  /-- The queue was empty, the guard goes. -/
  | releasing
  /-- `while (m_Active)` -/
  | testing
  | exited
  deriving DecidableEq, Repr

def TxWorker.holdsMutex : TxWorker → Bool
  | .acquired | .draining | .releasing => true
  | _ => false

/-- Where a thread is in `Send`. -/
inductive TxSender where
  | idle
  | enqueued
  | acquired
  | signalled
  deriving DecidableEq, Repr

def TxSender.holdsMutex : TxSender → Bool
  | .acquired | .signalled => true
  | _ => false

/-- The message is in the queue, and the signal is still to come. -/
def TxSender.AboutToSignal (sender : TxSender) : Prop :=
  sender = .enqueued ∨ sender = .acquired

inductive TxHolder (Thread : Type) where
  | worker
  | sender (thread : Thread)
  deriving DecidableEq

structure TxMsgCollector (Thread Datum : Type) where
  sendQueue : List Datum
  active : Bool
  /-- The mutex of `m_Condition`. -/
  mutex : Option (TxHolder Thread)
  worker : TxWorker
  senders : Thread → TxSender
  /-- What `SafeSend` was called with, the last first. -/
  safeSent : List Datum

inductive TxEvent (Thread Datum : Type) where
  | enqueue (thread : Thread) (datum : Datum)
  | lock (thread : Thread)
  | signal (thread : Thread)
  | unlock (thread : Thread)
  | workerLock
  | wait
  | spuriousWakeup
  | leaveWait
  | dequeue
  | drained
  | release
  | test
  | deactivate
  | stopSignal

namespace TxMsgCollector

variable {Thread Datum : Type}

/-- After `Start`. -/
def initial : TxMsgCollector Thread Datum where
  sendQueue := []
  active := true
  mutex := none
  worker := .acquiring
  senders := fun _ => .idle
  safeSent := []

/-- `m_Condition.signal()`, which is lost unless a thread waits. -/
def signalled (worker : TxWorker) : TxWorker :=
  if worker = .waiting then .woken else worker

section

variable [DecidableEq Thread]

def setSender (collector : TxMsgCollector Thread Datum) (thread : Thread) (sender : TxSender) :
    TxMsgCollector Thread Datum :=
  { collector with senders := Function.update collector.senders thread sender }

/-- The steps of the threads in `Send`, of the worker in `svc`, and of `Stop`. -/
inductive Step (collector : TxMsgCollector Thread Datum) :
    TxEvent Thread Datum → TxMsgCollector Thread Datum → Prop where
  | enqueue (thread : Thread) (datum : Datum) : collector.senders thread = .idle →
      Step collector (.enqueue thread datum)
        ({ collector with sendQueue := collector.sendQueue ++ [datum] }.setSender thread .enqueued)
  | lock (thread : Thread) : collector.senders thread = .enqueued → collector.mutex = none →
      Step collector (.lock thread)
        ({ collector with mutex := some (.sender thread) }.setSender thread .acquired)
  | signal (thread : Thread) : collector.senders thread = .acquired →
      Step collector (.signal thread)
        ({ collector with worker := signalled collector.worker }.setSender thread .signalled)
  | unlock (thread : Thread) : collector.senders thread = .signalled →
      Step collector (.unlock thread) ({ collector with mutex := none }.setSender thread .idle)
  | workerLock : collector.worker = .acquiring → collector.mutex = none →
      Step collector .workerLock { collector with mutex := some .worker, worker := .acquired }
  | wait : collector.worker = .acquired →
      Step collector .wait { collector with mutex := none, worker := .waiting }
  | spuriousWakeup : collector.worker = .waiting →
      Step collector .spuriousWakeup { collector with worker := .woken }
  | leaveWait : collector.worker = .woken → collector.mutex = none →
      Step collector .leaveWait { collector with mutex := some .worker, worker := .draining }
  | dequeue (datum : Datum) (rest : List Datum) : collector.worker = .draining →
      collector.sendQueue = datum :: rest →
      Step collector .dequeue
        { collector with sendQueue := rest, safeSent := datum :: collector.safeSent }
  | drained : collector.worker = .draining → collector.sendQueue = [] →
      Step collector .drained { collector with worker := .releasing }
  | release : collector.worker = .releasing →
      Step collector .release { collector with mutex := none, worker := .testing }
  | test : collector.worker = .testing →
      Step collector .test
        { collector with worker := if collector.active then .acquiring else .exited }
  | deactivate : Step collector .deactivate { collector with active := false }
  | stopSignal : collector.active = false →
      Step collector .stopSignal { collector with worker := signalled collector.worker }

end

/-- The worker waits for a signal that no thread is about to give, with a message in the queue. -/
def Blocked (collector : TxMsgCollector Thread Datum) : Prop :=
  collector.worker = .waiting ∧ collector.sendQueue ≠ [] ∧
    ∀ thread, ¬ (collector.senders thread).AboutToSignal

/-- The worker is going to wait, whatever is in the queue. -/
def HeadsForWait (collector : TxMsgCollector Thread Datum) : Prop :=
  collector.worker = .acquiring ∨ collector.worker = .testing ∧ collector.active = true

/-- The last signal for what is in the queue comes before the worker waits. -/
def SignalLost (collector : TxMsgCollector Thread Datum) (thread : Thread) : Prop :=
  collector.HeadsForWait ∧ collector.sendQueue ≠ [] ∧
    ∀ other, other ≠ thread → ¬ (collector.senders other).AboutToSignal

/-- No signal is lost. -/
def SignalHeard (collector : TxMsgCollector Thread Datum) : TxEvent Thread Datum → Prop
  | .signal thread => ¬ collector.SignalLost thread
  | _ => True

variable {collector : TxMsgCollector Thread Datum}

theorem not_signalLost_of_waiting {thread : Thread} (waiting : collector.worker = .waiting) :
    ¬ collector.SignalLost thread := by
  rintro ⟨heads, _⟩
  cases heads with
  | inl acquiring => cases waiting.symm.trans acquiring
  | inr testing => cases waiting.symm.trans testing.1

/-- The mutex is held by the one thread that is between its lock and its unlock. -/
structure Exclusive (collector : TxMsgCollector Thread Datum) : Prop where
  worker : collector.worker.holdsMutex = true ↔ collector.mutex = some .worker
  sender : ∀ thread, (collector.senders thread).holdsMutex = true ↔
    collector.mutex = some (.sender thread)

section

variable {collector : TxMsgCollector Thread Datum}

theorem holdsMutex_signalled (worker : TxWorker) :
    (signalled worker).holdsMutex = worker.holdsMutex := by
  cases worker <;> rfl

theorem Exclusive.initial : Exclusive (initial : TxMsgCollector Thread Datum) where
  worker := by simp [TxMsgCollector.initial, TxWorker.holdsMutex]
  sender := by simp [TxMsgCollector.initial, TxSender.holdsMutex]

variable {worker : TxWorker}

theorem Exclusive.setWorker (exclusive : Exclusive collector)
    (same : worker.holdsMutex = collector.worker.holdsMutex) :
    Exclusive { collector with worker } where
  worker := by simpa [same] using exclusive.worker
  sender := exclusive.sender

theorem Exclusive.takes (exclusive : Exclusive collector) (free : collector.mutex = none)
    (holds : worker.holdsMutex = true) :
    Exclusive { collector with mutex := some .worker, worker } where
  worker := by simp [holds]
  sender thread := by simpa [free] using exclusive.sender thread

theorem Exclusive.gives (exclusive : Exclusive collector)
    (held : collector.worker.holdsMutex = true) (holdsNot : worker.holdsMutex = false) :
    Exclusive { collector with mutex := none, worker } where
  worker := by simp [holdsNot]
  sender thread := by simpa [exclusive.worker.mp held] using exclusive.sender thread

end

section

variable [DecidableEq Thread] {collector next : TxMsgCollector Thread Datum}
  {event : TxEvent Thread Datum}

/-- A thread goes to where it holds the mutex as before. -/
theorem Exclusive.setSender (exclusive : Exclusive collector) {thread : Thread}
    {sender : TxSender}
    (same : sender.holdsMutex = (collector.senders thread).holdsMutex) :
    Exclusive (collector.setSender thread sender) := by
  constructor
  · exact exclusive.worker
  · intro other
    by_cases here : other = thread
    · subst here
      simpa [TxMsgCollector.setSender, same] using exclusive.sender other
    · simpa [TxMsgCollector.setSender, here] using exclusive.sender other

theorem Exclusive.step (exclusive : Exclusive collector) (step : Step collector event next) :
    Exclusive next := by
  cases step with
  | enqueue thread datum idle =>
    have queued : Exclusive
        { collector with sendQueue := collector.sendQueue ++ [datum] } :=
      ⟨exclusive.worker, exclusive.sender⟩
    apply queued.setSender
    rw [idle]
    rfl
  | lock thread enqueued free =>
    constructor
    · have worker := exclusive.worker
      rw [free] at worker
      simpa [TxMsgCollector.setSender] using worker
    · intro other
      have sender := exclusive.sender other
      rw [free] at sender
      by_cases here : other = thread
      · simp [TxMsgCollector.setSender, here, TxSender.holdsMutex]
      · simpa [TxMsgCollector.setSender, here, Ne.symm here] using sender
  | signal thread acquired =>
    apply (exclusive.setWorker (holdsMutex_signalled collector.worker)).setSender
    change _ = (collector.senders thread).holdsMutex
    rw [acquired]
    rfl
  | unlock thread signalled =>
    have holder : collector.mutex = some (.sender thread) := by
      apply (exclusive.sender thread).mp
      rw [signalled]
      rfl
    constructor
    · have worker := exclusive.worker
      rw [holder] at worker
      simpa [TxMsgCollector.setSender] using worker
    · intro other
      have sender := exclusive.sender other
      rw [holder] at sender
      by_cases here : other = thread
      · simp [TxMsgCollector.setSender, here, TxSender.holdsMutex]
      · simpa [TxMsgCollector.setSender, here, Ne.symm here] using sender
  | workerLock acquiring free => exact exclusive.takes free rfl
  | wait acquired => exact exclusive.gives (by rw [acquired]; rfl) rfl
  | spuriousWakeup waiting => exact exclusive.setWorker (by rw [waiting]; rfl)
  | leaveWait woken free => exact exclusive.takes free rfl
  | dequeue datum rest draining queued => exact ⟨exclusive.worker, exclusive.sender⟩
  | drained draining empty => exact exclusive.setWorker (by rw [draining]; rfl)
  | release releasing => exact exclusive.gives (by rw [releasing]; rfl) rfl
  | test testing =>
    apply exclusive.setWorker
    rw [testing]
    split <;> rfl
  | deactivate => exact ⟨exclusive.worker, exclusive.sender⟩
  | stopSignal => exact exclusive.setWorker (holdsMutex_signalled collector.worker)

end

/-- The worker comes to the wait without a look at the queue. -/
def TowardsWait (collector : TxMsgCollector Thread Datum) : Prop :=
  match collector.worker with
  | .acquiring | .acquired | .waiting | .releasing => True
  | .testing => collector.active = true
  | _ => False

/-- Before the wait, some thread is about to signal for what is in the queue. -/
def Attended (collector : TxMsgCollector Thread Datum) : Prop :=
  collector.TowardsWait → collector.sendQueue ≠ [] →
    ∃ thread, (collector.senders thread).AboutToSignal

theorem Attended.not_blocked (attended : collector.Attended) : ¬ collector.Blocked := by
  rintro ⟨waiting, queued, none⟩
  have towards : collector.TowardsWait := by
    rw [TowardsWait, waiting]
    trivial
  rcases attended towards queued with ⟨thread, about⟩
  exact none thread about

/-- A step of the worker that leaves the queue as it is. -/
theorem Attended.of_worker {collector next : TxMsgCollector Thread Datum}
    (attended : collector.Attended) (towards : next.TowardsWait → collector.TowardsWait)
    (queue : next.sendQueue = collector.sendQueue) (senders : next.senders = collector.senders) :
    next.Attended := by
  intro comes queued
  rw [queue] at queued
  rw [senders]
  exact attended (towards comes) queued

theorem TowardsWait.of_signalled
    (towards : TowardsWait { collector with worker := signalled collector.worker }) :
    collector.worker ≠ .waiting ∧ collector.TowardsWait := by
  by_cases waiting : collector.worker = .waiting
  · simp [TowardsWait, signalled, waiting] at towards
  · refine ⟨waiting, ?_⟩
    simpa [TowardsWait, signalled, waiting] using towards

/-- A thread that signals holds the mutex, so the worker is not between its lock and its wait. -/
theorem Exclusive.heads_of_towards (exclusive : Exclusive collector) {thread : Thread}
    (acquired : collector.senders thread = .acquired) (towards : collector.TowardsWait)
    (waits : collector.worker ≠ .waiting) : collector.HeadsForWait := by
  have holder : collector.mutex = some (.sender thread) := by
    apply (exclusive.sender thread).mp
    rw [acquired]
    rfl
  have worker := exclusive.worker
  rw [holder] at worker
  cases place : collector.worker with
  | acquiring => exact .inl place
  | testing =>
    rw [TowardsWait, place] at towards
    exact .inr ⟨place, towards⟩
  | acquired => simp [place, TxWorker.holdsMutex] at worker
  | releasing => simp [place, TxWorker.holdsMutex] at worker
  | waiting => exact absurd place waits
  | woken => simp [TowardsWait, place] at towards
  | draining => simp [TowardsWait, place] at towards
  | exited => simp [TowardsWait, place] at towards

section

variable [DecidableEq Thread] {collector next : TxMsgCollector Thread Datum}
  {event : TxEvent Thread Datum}

theorem Attended.setSender (attended : collector.Attended) {thread : Thread}
    {sender : TxSender}
    (same : (collector.senders thread).AboutToSignal → sender.AboutToSignal) :
    (collector.setSender thread sender).Attended := by
  intro towards queued
  rcases attended towards queued with ⟨other, about⟩
  refine ⟨other, ?_⟩
  by_cases here : other = thread
  · subst here
    simpa [TxMsgCollector.setSender] using same about
  · simpa [TxMsgCollector.setSender, here] using about

theorem Attended.step (attended : collector.Attended) (exclusive : Exclusive collector)
    (heard : collector.SignalHeard event) (step : Step collector event next) : next.Attended := by
  cases step with
  | enqueue thread datum idle =>
    intro _ _
    exact ⟨thread, .inl (by simp [TxMsgCollector.setSender])⟩
  | lock thread enqueued free =>
    have same : Attended { collector with mutex := some (.sender thread) } :=
      attended.of_worker id rfl rfl
    exact same.setSender fun _ => .inr rfl
  | signal thread acquired =>
    intro towards queued
    rcases TowardsWait.of_signalled towards with ⟨waits, before⟩
    have heads := exclusive.heads_of_towards acquired before waits
    rcases Classical.not_forall.mp (fun none => heard ⟨heads, queued, none⟩) with
      ⟨other, about⟩
    rcases Classical.not_imp.mp about with ⟨elsewhere, about⟩
    refine ⟨other, ?_⟩
    simpa [TxMsgCollector.setSender, elsewhere] using Classical.not_not.mp about
  | unlock thread signalled =>
    have same : Attended { collector with mutex := none } := attended.of_worker id rfl rfl
    apply same.setSender
    intro about
    change (collector.senders thread).AboutToSignal at about
    simp [signalled, TxSender.AboutToSignal] at about
  | workerLock acquiring free =>
    exact attended.of_worker (fun _ => by simp [TowardsWait, acquiring]) rfl rfl
  | wait acquired =>
    exact attended.of_worker (fun _ => by simp [TowardsWait, acquired]) rfl rfl
  | spuriousWakeup waiting => exact attended.of_worker (fun towards => towards.elim) rfl rfl
  | leaveWait woken free => exact attended.of_worker (fun towards => towards.elim) rfl rfl
  | dequeue datum rest draining queued =>
    intro towards
    simp [TowardsWait, draining] at towards
  | drained draining empty =>
    intro _ queued
    exact absurd empty queued
  | release releasing =>
    exact attended.of_worker (fun _ => by simp [TowardsWait, releasing]) rfl rfl
  | test testing =>
    refine attended.of_worker ?_ rfl rfl
    intro towards
    by_cases active : collector.active = true
    · simp [TowardsWait, testing, active]
    · simp [TowardsWait, active] at towards
  | deactivate =>
    refine attended.of_worker ?_ rfl rfl
    intro towards
    cases place : collector.worker <;> simp_all [TowardsWait]
  | stopSignal => exact attended.of_worker (fun towards => towards.of_signalled.2) rfl rfl

/-- Where no signal is lost, the worker is not left in its wait. -/
theorem worker_wakes_up (reached : Reached (· = initial) Step SignalHeard collector) :
    ¬ collector.Blocked := by
  have kept : Exclusive collector ∧ collector.Attended := by
    apply reached.invariant fun collector => Exclusive collector ∧ collector.Attended
    · rintro _ rfl
      exact ⟨.initial, fun _ queued => absurd rfl queued⟩
    · rintro collector event next ⟨exclusive, attended⟩ step heard
      exact ⟨exclusive.step step, attended.step exclusive heard step⟩
  exact kept.2.not_blocked

theorem worker_wakes_up_waiting :
    ∃ collector : TxMsgCollector Unit Bool, collector.sendQueue = [true] ∧
      collector.worker = .woken ∧ ¬ collector.Blocked := by
  have started : Reached (· = (initial : TxMsgCollector Unit Bool)) Step SignalHeard initial :=
    .start rfl
  have locked := started.step (.workerLock rfl rfl) trivial
  have waiting := locked.step (.wait rfl) trivial
  have enqueued := waiting.step (.enqueue () true rfl) trivial
  have acquired := enqueued.step (.lock () rfl rfl) trivial
  have signalled := acquired.step (.signal () rfl) (not_signalLost_of_waiting rfl)
  exact ⟨_, rfl, rfl, worker_wakes_up signalled⟩

/-- The first message can be sent before the worker waits for the first time. -/
theorem first_signal_lost :
    ∃ collector : TxMsgCollector Unit Bool,
      Reached (· = initial) Step (fun _ _ => True) collector ∧ collector.Blocked := by
  have started : Reached (· = (initial : TxMsgCollector Unit Bool)) Step (fun _ _ => True)
      initial := .start rfl
  have enqueued := started.step (.enqueue () true rfl) trivial
  have acquired := enqueued.step (.lock () rfl rfl) trivial
  have signalled := acquired.step (.signal () rfl) trivial
  have unlocked := signalled.step (.unlock () rfl) trivial
  have locked := unlocked.step (.workerLock rfl rfl) trivial
  have waiting := locked.step (.wait rfl) trivial
  refine ⟨_, waiting, rfl, List.cons_ne_nil true [], ?_⟩
  intro thread about
  cases about with
  | inl enqueued => cases enqueued
  | inr acquired => cases acquired

/-! The messages on their way through the queue. -/

def sentBy : TxEvent Thread Datum → List Datum
  | .enqueue _ datum => [datum]
  | _ => []

/-- What was taken from the queue, and what is in it. -/
def passed (collector : TxMsgCollector Thread Datum) : List Datum :=
  collector.safeSent.reverse ++ collector.sendQueue

theorem Step.passed (step : Step collector event next) :
    next.passed = collector.passed ++ sentBy event := by
  cases step with
  | enqueue thread datum idle => exact (List.append_assoc _ _ _).symm
  | dequeue datum rest draining queued =>
    refine Eq.trans ?_ (List.append_nil _).symm
    rw [TxMsgCollector.passed, TxMsgCollector.passed, queued, List.reverse_cons,
      List.append_assoc, List.singleton_append]
  | _ => exact (List.append_nil _).symm

end

end TxMsgCollector

end OpenDiameter.Transport
