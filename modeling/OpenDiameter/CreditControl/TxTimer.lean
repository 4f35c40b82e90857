import OpenDiameter.CreditControl.Client
import OpenDiameter.Framework.Timers

/-!
The client of credit control as a machine with a timer, Tx.
-/

namespace OpenDiameter.CreditControl

open OpenDiameter.Framework

abbrev CcTimed : Type := Timed (CcClientCallbacks × CcClient) Unit CcClientEvent

/-- What the actions do to the timer. -/
def txOps : CcClientAction → List (TimerOp Unit CcClientEvent)
  | .initialRequest => [.schedule () .txExpired]
  | .initialAnswer => [.cancel ()]
  | .sendRequest => []
  | .txExpired => [.cancel ()]

/-- The client with the queue left to the machine. -/
def CcClient.bare (session : CcClient) : CcClient := { session with queue := [] }

/-- `DiameterCCClientStateMachine` -/
def ccClientMachine : TimedMachine (CcClientCallbacks × CcClient) Unit CcClientEvent where
  act := fun (callbacks, session) event =>
    let after := CcClient.event callbacks session event
    let action := (ccClientTable.find session.state event).bind fun entry => entry.action
    ((callbacks, after.bare), (action.map txOps).getD [] ++ after.queue.map .notify)
  notified := fun _ => true

/-- The machine does what the session does. -/
structure Follows (session : CcClient) (timed : CcTimed) : Prop where
  state : timed.state.2 = session.bare
  timers : timed.timers = if session.tx then [((), .txExpired)] else []
  queue : timed.queue.map QueuedEvent.event = session.queue

/-- What the machine does for an input of the session. -/
def timedInputs (session : CcClient) (callbacks : CcClientCallbacks) :
    CcClientInput → List (TimedInput (CcClientCallbacks × CcClient) Unit CcClientEvent)
  | .notify event => [.outside (callbacks, session.bare) [.notify event]]
  | .fillRequest other => [.outside (callbacks, (session.fillRequest other).bare) []]
  | .sendCcr => [.outside (callbacks, session.sendCcr.bare) []]
  | .rxAnswer msg =>
    [.outside (callbacks, (session.rxAnswer msg).bare)
      (((session.rxAnswer msg).queue.drop session.queue.length).map .notify)]
  | .timeout => [.expire ()]
  | .serve callbacks => [.outside (callbacks, session.bare) [], .serve]

section

variable {session : CcClient} {timed : CcTimed} {tx : Bool}

theorem initial_follows (callbacks : CcClientCallbacks) :
    Follows .initial (Timed.start (callbacks, .initial)) := ⟨rfl, rfl, rfl⟩

theorem applyAll_notify (events : List CcClientEvent) :
    Timed.applyAll ccClientMachine timed (events.map .notify) =
      { timed with queue := timed.queue ++ events.map fun event => ⟨event, none, false⟩ } := by
  induction events generalizing timed with
  | nil =>
    rw [List.map_nil, List.map_nil, List.append_nil]
    rfl
  | cons event events induction =>
    change Timed.applyAll ccClientMachine (timed.apply ccClientMachine (.notify event))
      (events.map .notify) = _
    rw [induction]
    change { timed with queue := (timed.queue ++ [_]) ++ _ } = _
    rw [List.append_assoc]
    rfl

theorem handleFailure_bare (callbacks : CcClientCallbacks) (session : CcClient)
    (queue : List CcClientEvent) :
    CcClient.handleFailure callbacks { session with queue := queue } =
      { CcClient.handleFailure callbacks session.bare with
        queue := queue ++ (CcClient.handleFailure callbacks session.bare).queue } := by
  rw [CcClient.handleFailure, CcClient.handleFailure]
  split
  · rfl
  · split
    · rfl
    · exact congrArg (fun queue => { session with queue := queue }) (List.append_nil queue).symm

theorem act_bare (callbacks : CcClientCallbacks) (session : CcClient)
    (queue : List CcClientEvent) (action : CcClientAction) :
    CcClient.act callbacks { session with queue := queue } action =
      { CcClient.act callbacks session.bare action with
        queue := queue ++ (CcClient.act callbacks session.bare action).queue } := by
  have unqueued (acted : CcClient) :
      { acted with queue := queue } = { acted with queue := queue ++ [] } := by
    rw [List.append_nil]
  cases action with
  | initialRequest => exact unqueued (CcClient.act callbacks session.bare .initialRequest)
  | initialAnswer => exact unqueued (CcClient.act callbacks session.bare .initialAnswer)
  | sendRequest => exact unqueued (CcClient.act callbacks session.bare .sendRequest)
  | txExpired =>
    have acted (session : CcClient) : CcClient.act callbacks session .txExpired =
        if session.ccrData.ccRequestType.value = ccTypeEventRequest then
          { session with tx := false, expired := true }
        else CcClient.handleFailure callbacks { session with tx := false, expired := true } := rfl
    rw [acted, acted]
    by_cases isEvent : session.ccrData.ccRequestType.value = ccTypeEventRequest
    · rw [if_pos isEvent, if_pos (show session.bare.ccrData.ccRequestType.value = _ from isEvent)]
      exact unqueued { session with tx := false, expired := true }
    · have otherwise : ¬session.bare.ccrData.ccRequestType.value = ccTypeEventRequest := isEvent
      rw [if_neg isEvent, if_neg otherwise]
      exact handleFailure_bare callbacks { session with tx := false, expired := true } queue

/-- An event does to a queue what it does to an empty one. -/
theorem event_bare (callbacks : CcClientCallbacks) (session : CcClient)
    (queue : List CcClientEvent) (event : CcClientEvent) :
    CcClient.event callbacks { session with queue := queue } event =
      { CcClient.event callbacks session.bare event with
        queue := queue ++ (CcClient.event callbacks session.bare event).queue } := by
  have same : ccClientTable.find session.bare.state event =
    ccClientTable.find session.state event := rfl
  rw [CcClient.event, CcClient.event, same]
  cases ccClientTable.find session.state event with
  | none =>
    exact congrArg (fun queue => { session with queue := queue }) (List.append_nil queue).symm
  | some entry =>
    obtain ⟨prevState, expected, nextState, action⟩ := entry
    cases action with
    | none =>
      exact congrArg (fun queue => { session with
        state := nextState
        expired := session.expired && nextState = session.state
        queue := queue }) (List.append_nil queue).symm
    | some action =>
      exact act_bare callbacks { session with
        state := nextState
        expired := session.expired && nextState = session.state } queue action

theorem rxAnswer_grows (session : CcClient) (msg : Cca) :
    session.queue <+: (session.rxAnswer msg).queue ∧ (session.rxAnswer msg).tx = session.tx := by
  rw [CcClient.rxAnswer]
  dsimp only
  split
  · split
    · exact ⟨List.prefix_refl _, rfl⟩
    · exact ⟨List.prefix_append _ _, rfl⟩
  · exact ⟨List.prefix_refl _, rfl⟩

theorem event_tx (callbacks : CcClientCallbacks) (session : CcClient) (event : CcClientEvent) :
    (CcClient.event callbacks session event).tx =
      match (ccClientTable.find session.state event).bind fun entry => entry.action with
      | some .initialRequest => true
      | some .initialAnswer | some .txExpired => false
      | _ => session.tx := by
  rw [CcClient.event]
  cases ccClientTable.find session.state event with
  | none => rfl
  | some entry =>
    obtain ⟨prevState, expected, nextState, action⟩ := entry
    cases action with
    | none => rfl
    | some action =>
      cases action with
      | txExpired =>
        dsimp only [CcClient.act, CcClient.handleFailure, CcClient.notify]
        split
        · rfl
        · split
          · rfl
          · split <;> rfl
      | _ => rfl

theorem cancelTx (scheduled : timed.timers = if tx then [((), .txExpired)] else []) :
    (timed.cancelTimer ()).state = timed.state ∧
      (timed.cancelTimer ()).queue.map QueuedEvent.event = timed.queue.map QueuedEvent.event ∧
      (timed.cancelTimer ()).timers = [] := by
  have events : (timed.queue.map (Timed.markCancelled ())).map QueuedEvent.event =
      timed.queue.map QueuedEvent.event := by
    rw [List.map_map]
    apply List.map_congr_left
    intro entry _
    show (Timed.markCancelled () entry).event = entry.event
    rw [Timed.markCancelled]
    split <;> rfl
  rw [Timed.cancelTimer, scheduled]
  cases tx with
  | false => exact ⟨rfl, rfl, scheduled⟩
  | true => exact ⟨rfl, events, rfl⟩

/-- The operations of an action on the timer alone. -/
theorem txOps_apply (scheduled : timed.timers = if tx then [((), .txExpired)] else [])
    (action : Option CcClientAction) :
    let after := Timed.applyAll ccClientMachine timed ((action.map txOps).getD [])
    after.state = timed.state ∧
      after.queue.map QueuedEvent.event = timed.queue.map QueuedEvent.event ∧
      after.timers = if (match action with
        | some .initialRequest => true
        | some .initialAnswer | some .txExpired => false
        | _ => tx) then [((), .txExpired)] else [] := by
  have cancelled := cancelTx scheduled
  cases action with
  | none => exact ⟨rfl, rfl, scheduled⟩
  | some action =>
    cases action with
    | initialRequest =>
      refine ⟨cancelled.1, cancelled.2.1, ?_⟩
      show (timed.cancelTimer ()).timers ++ [((), .txExpired)] = _
      rw [cancelled.2.2]
      rfl
    | initialAnswer => exact cancelled
    | sendRequest => exact ⟨rfl, rfl, scheduled⟩
    | txExpired => exact cancelled

theorem map_notified (events : List CcClientEvent) :
    (events.map fun event => (⟨event, none, false⟩ : QueuedEvent Unit CcClientEvent)).map
      QueuedEvent.event = events := by
  rw [List.map_map]
  exact List.map_id events

theorem follows_serve (follows : Follows session timed) (callbacks : CcClientCallbacks)
    (isState : timed.state = (callbacks, session.bare)) :
    Follows (session.serve callbacks) (timed.serve ccClientMachine) := by
  rw [CcClient.serve, Timed.serve]
  have queue := follows.queue
  cases isQueue : timed.queue with
  | nil =>
    rw [isQueue] at queue
    rw [← queue]
    exact follows
  | cons entry rest =>
    rw [isQueue, List.map_cons] at queue
    rw [← queue]
    dsimp only
    rw [event_bare, isState]
    let taken : CcTimed := { timed with
      state := (callbacks, (CcClient.event callbacks session.bare entry.event).bare)
      queue := rest
      served := entry :: timed.served }
    have ops := txOps_apply (show taken.timers = _ from follows.timers)
      ((ccClientTable.find session.bare.state entry.event).bind fun entry => entry.action)
    show Follows _ (Timed.applyAll ccClientMachine _ (_ ++ List.map _ _))
    rw [Timed.applyAll, List.foldl_append]
    change Follows _ (Timed.applyAll ccClientMachine (Timed.applyAll ccClientMachine _ _) _)
    rw [applyAll_notify]
    constructor
    · exact congrArg Prod.snd ops.1
    · exact ops.2.2.trans (by rw [event_tx]; rfl)
    · rw [List.map_append, map_notified]
      exact congrArg (· ++ _) ops.2.1

theorem follows_step (follows : Follows session timed) (input : CcClientInput) :
    Follows (session.step input)
      (timed.run ccClientMachine (timedInputs session timed.state.1 input)) := by
  cases input with
  | notify event =>
    refine ⟨rfl, follows.timers, ?_⟩
    show (timed.queue ++ [_]).map QueuedEvent.event = session.queue ++ [event]
    rw [List.map_append, follows.queue]
    rfl
  | fillRequest other => exact ⟨rfl, follows.timers, follows.queue⟩
  | sendCcr => exact ⟨rfl, follows.timers, follows.queue⟩
  | rxAnswer msg =>
    have grows := rxAnswer_grows session msg
    show Follows (session.rxAnswer msg) (Timed.applyAll ccClientMachine _ _)
    rw [applyAll_notify]
    constructor
    · rfl
    · rw [grows.2]
      exact follows.timers
    · rw [List.map_append, map_notified]
      show timed.queue.map QueuedEvent.event ++ _ = _
      rw [follows.queue]
      exact (List.prefix_iff_eq_append.mp grows.1)
  | timeout =>
    show Follows (if session.tx then session.notify .txExpired else session)
      (timed.expire ccClientMachine ())
    rw [Timed.expire, follows.timers]
    cases isTx : session.tx with
    | false => exact follows
    | true =>
      refine ⟨follows.state, ?_, ?_⟩
      · show timed.timers = if session.tx then [((), .txExpired)] else []
        exact follows.timers
      · show (timed.queue ++ [_]).map QueuedEvent.event = session.queue ++ [.txExpired]
        rw [List.map_append, follows.queue]
        rfl
  | serve callbacks =>
    apply follows_serve
    · exact ⟨rfl, follows.timers, follows.queue⟩
    · rfl

/-- A step of the client, and what the machine does for its input. -/
def stepBoth (both : CcClient × CcTimed) (input : CcClientInput) : CcClient × CcTimed :=
  (both.1.step input, both.2.run ccClientMachine (timedInputs both.1 both.2.state.1 input))

theorem follows_both {both : CcClient × CcTimed} (follows : Follows both.1 both.2)
    (inputs : List CcClientInput) :
    let last := inputs.foldl stepBoth both
    last.1 = both.1.run inputs ∧ Follows last.1 last.2 := by
  induction inputs generalizing both with
  | nil => exact ⟨rfl, follows⟩
  | cons input inputs induction => exact induction (follows_step follows input)

/-- The machine with the timer simulates the client in every run. -/
theorem machine_simulates_client (callbacks : CcClientCallbacks) (inputs : List CcClientInput) :
    let last := inputs.foldl stepBoth (.initial, Timed.start (callbacks, .initial))
    last.1 = CcClient.initial.run inputs ∧ Follows last.1 last.2 :=
  follows_both (initial_follows callbacks) inputs

end

namespace TxRuns

def state (session : CcClient) : CcClientCallbacks × CcClient := ({}, session)

/-- The first request is sent. -/
def requested : List (TimedInput (CcClientCallbacks × CcClient) Unit CcClientEvent) :=
  [.outside (state .initial) [.notify .initialRequest], .serve]

def waiting : CcClient := (CcClient.initial.run [.notify .initialRequest, .serve {}]).bare

/-- The answer is received, Tx expires, and then both are served. -/
def answered : List (TimedInput (CcClientCallbacks × CcClient) Unit CcClientEvent) :=
  requested ++ [.outside (state waiting) [.notify .initialAnswer], .expire (), .serve, .serve]

def expired : CcTimed :=
  Timed.run ccClientMachine (requested ++ [.expire (), .serve]) (Timed.start (state .initial))

theorem expired_course : Timed.Course ccClientMachine
    (fun timed input => Timed.Meets ccClientMachine input timed) expired := by
  have started : Timed.Course ccClientMachine
      (fun timed input => Timed.Meets ccClientMachine input timed)
      (Timed.start (state .initial)) := .start ⟨_, rfl⟩
  have notified := started.after (.outside (state .initial) [.notify .initialRequest]) rfl
    ⟨trivial, trivial⟩
  have sent := notified.after .serve rfl ⟨fun isTimer => (nomatch isTimer), trivial⟩
  have posted := sent.after (.expire ()) rfl trivial
  exact posted.after .serve rfl ⟨fun _ _ isIn => (nomatch isIn), trivial, trivial⟩

end TxRuns

open TxRuns in
/-- An expiry is served before its timer is cancelled. -/
theorem tx_expires_in_time :
    ∃ entry ∈ expired.served, entry.expired = some () ∧ entry.cancelled = false := by
  refine ⟨_, List.mem_cons_self, rfl, ?_⟩
  exact cancelled_timer_not_served ccClientMachine expired_course _ List.mem_cons_self

open TxRuns in
/-- The request was answered and Tx cancelled, and the expiry then ends the session. -/
theorem cancelled_tx_served :
    ∃ entry, (Timed.run ccClientMachine answered (Timed.start (state .initial))).served.head? =
        some entry ∧ entry.event = .txExpired ∧ entry.expired = some () ∧ entry.cancelled = true ∧
      (Timed.run ccClientMachine answered (Timed.start (state .initial))).state.2.state =
        .stTerminated ∧
      (CcClient.initial.run [.notify .initialRequest, .serve {}, .notify .initialAnswer, .timeout,
        .serve {}, .serve {}]).state = .stTerminated :=
  ⟨_, rfl, rfl, rfl, rfl, rfl, rfl⟩

end OpenDiameter.CreditControl
