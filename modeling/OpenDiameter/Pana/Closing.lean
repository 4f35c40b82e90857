import OpenDiameter.Pana.Service

/-!
The end of a session. What enters CLOSED calls `Disconnect` once and last, and what arrives in
CLOSED leaves the messages sent and the timers as they are.
-/

namespace OpenDiameter.Pana

open OpenDiameter.Foundation OpenDiameter.Framework

/-- Whether each timer is scheduled. -/
abbrev PanaTimers := PanaTimer → Bool

section Steps

variable (settings : PanaSettings)

/-- `PaaClosed` has no code. -/
def hasCode : (role : PanaRole) → (machine settings role).Action → Bool
  | .pac, _ => true
  | .paa, action =>
    match (action : PaaAction) with
    | .closed => false
    | _ => true

variable (role : PanaRole)

/-- `Disconnect` cancels all timers, and nothing follows it in an action. What the other actions
schedule and cancel is left open. -/
structure TimersServed (callbacks : PanaCallbacks) (session : PanaSession)
    (timers after : PanaTimers) : Prop where
  idle : (∀ start action,
      nextAction settings role ((machine settings role).serveMessage session) =
        some (start, action) → hasCode settings role action = false) → after = timers
  cancelled : ∀ start action,
    nextAction settings role ((machine settings role).serveMessage session) =
        some (start, action) →
      (actionUses settings callbacks start role action).disconnects = true →
      ((machine settings role).serve callbacks session).fault = none →
      ∀ timer, after timer = false

/-- A step of a session with its timers. A timer that goes off was scheduled, and is not again. -/
def TimedStep (before : PanaSession × PanaTimers) (input : PanaInput settings role)
    (after : PanaSession × PanaTimers) : Prop :=
  Step settings before.1 input after.1 ∧
    match input with
    | .receive _ | .call _ => after.2 = before.2
    | .timeout timer =>
      before.2 timer = true ∧
        after.2 = fun other => if other = timer then false else before.2 other
    | .serve callbacks => TimersServed settings role callbacks before.1 before.2 after.2
    | .abort _ => ∀ timer, after.2 timer = false

def TimedStart (before : PanaSession × PanaTimers) : Prop :=
  Started settings role before.1 ∧ ∀ timer, before.2 timer = false

/-- The session in which an event is served. -/
def atEvent (session : PanaSession) : PanaInput settings role → PanaSession
  | .serve _ => (machine settings role).serveMessage session
  | _ => session

/-- The application is told so once, and the session is what `Reset` leaves. -/
structure Disconnected (start after : PanaSession) : Prop where
  told : ∃ cause, after.notified = start.notified ++ [.disconnect cause]
  reset : ∃ callbacks, after.reset settings callbacks = after

structure ClosesCompletely (before : PanaSession × PanaTimers) (input : PanaInput settings role)
    (after : PanaSession × PanaTimers) : Prop where
  entered : before.1.state ≠ .closed → after.1.state = .closed →
    Disconnected settings (atEvent settings role before.1 input) after.1 ∧
      ∀ timer, after.2 timer = false
  silent : before.1.state = .closed →
    after.1.sent = before.1.sent ∧ ∀ timer, after.2 timer = true → before.2 timer = true

/-- A client that waits for a PNA does not give up its retransmissions, and an action that
disconnects finds the message that it takes. -/
def Closable (before : PanaSession × PanaTimers) : PanaInput settings role → Prop
  | .serve callbacks =>
    let served := (machine settings role).serveMessage before.1
    (role = .pac → served.state = .waitPna →
      ∀ queued ∈ served.events.head?, queued.event ≠ { doRetryTimeout := true }) ∧
    ∀ start action, nextAction settings role served = some (start, action) →
      (actionUses settings callbacks start role action).disconnects = true →
      (actionUses settings callbacks start role action).takesMessage = true →
      start.rxMsgQueue ≠ []
  | _ => True

end Steps

section Messages

variable {settings : PanaSettings} {role : PanaRole} {msg : PanaMessage}
  {start after session : PanaSession}

theorem Received.state (received : Received settings role msg start after) :
    after.state = start.state := by
  cases received with
  | dropped unchecked => exact unchecked.state
  | refused _ outcome => exact outcome.elim (·.state) (·.state)
  | posted _ passed _ => exact passed.state
  | faulted _ _ outcome => exact outcome.elim (·.state) (·.state)

theorem closed_not_handled (role : PanaRole) (type : UInt16) :
    .closed ∉ handlerStates role type := by
  cases role with
  | pac =>
    unfold handlerStates
    repeat' split
    all_goals decide
  | paa =>
    unfold handlerStates
    repeat' split
    all_goals decide

/-- No handler has a message in CLOSED. -/
theorem Received.sent_of_closed (received : Received settings role msg start after)
    (isClosed : start.state = .closed) : after.sent = start.sent := by
  have unhandled : ¬ ReachesCheck role start msg := by
    intro reaches
    have handled := reaches.1
    rw [isClosed] at handled
    exact closed_not_handled role msg.type handled
  cases received with
  | dropped unchecked => exact unchecked.sent
  | refused reaches _ => exact absurd reaches unhandled
  | posted reaches _ _ => exact absurd reaches unhandled
  | faulted reaches _ _ => exact absurd reaches unhandled

theorem serveMessage_state (session : PanaSession) :
    ((machine settings role).serveMessage session).state = session.state := by
  unfold PanaMachine.serveMessage
  split
  · rfl
  · exact (receive_received settings role _ _).state

theorem serveMessage_sent (isClosed : session.state = .closed) :
    ((machine settings role).serveMessage session).sent = session.sent := by
  unfold PanaMachine.serveMessage
  split
  · rfl
  · exact (receive_received settings role _ _).sent_of_closed isClosed

end Messages

theorem machine_state (settings : PanaSettings) (role : PanaRole)
    (call : (machine settings role).Call) (session : PanaSession) :
    ((machine settings role).apply call session).state = session.state := by
  cases role with
  | pac =>
    cases call with
    | start address => cases address <;> rfl
    | _ => rfl
  | paa =>
    cases call with
    | eapSuccess req isUserAuthorized => cases req <;> rfl
    | eapFailure req => cases req <;> rfl
    | _ => rfl

section Rows

variable {settings : PanaSettings} {role : PanaRole} {callbacks : PanaCallbacks}
  {start between session : PanaSession}

/-- A row of CLOSED stays there and runs no code. -/
theorem closed_rows
    {entry : StateTableEntry PanaState PanaEvent (machine settings role).Action}
    (listed : entry ∈ (machine settings role).table) (isClosed : entry.prevState = .closed) :
    entry.nextState = .closed ∧ ∀ action, entry.action = some action →
      hasCode settings role action = false := by
  cases role with
  | pac =>
    have rows : ∀ entry ∈ clientStateTable, entry.prevState = .closed →
        entry.nextState = .closed ∧ entry.action = none := by decide
    have ⟨stays, noAction⟩ := rows entry listed isClosed
    refine ⟨stays, fun action isAction => ?_⟩
    cases noAction.symm.trans isAction
  | paa =>
    have rows : ∀ entry ∈ paaStateTable, entry.prevState = .closed →
        entry.nextState = .closed ∧ (entry.action = none ∨ entry.action = some .closed) := by
      decide
    have ⟨stays, outcome⟩ := rows entry listed isClosed
    refine ⟨stays, fun action isAction => ?_⟩
    cases outcome with
    | inl noAction => cases noAction.symm.trans isAction
    | inr isClosing =>
      cases isClosing.symm.trans isAction
      rfl

/-- A row that enters CLOSED has an action that disconnects, but for one row of the client. -/
theorem closing_rows (callbacks : PanaCallbacks) (start : PanaSession)
    {entry : StateTableEntry PanaState PanaEvent (machine settings role).Action}
    (listed : entry ∈ (machine settings role).table) (outside : entry.prevState ≠ .closed)
    (enters : entry.nextState = .closed) :
    (∃ action, entry.action = some action ∧
      (actionUses settings callbacks start role action).disconnects = true) ∨
    role = .pac ∧ entry.prevState = .waitPna ∧ entry.event = some { doRetryTimeout := true } := by
  cases role with
  | pac =>
    let closing : List PacAction :=
      [.exitActionTimeout, .waitEapFailExitActionClose, .waitEapSuccessExitActionClose,
       .openExitActionRxPTR, .sessTermExitActionRxPTA]
    have rows : ∀ entry ∈ clientStateTable, entry.prevState ≠ .closed →
        entry.nextState = .closed → (∃ action ∈ closing, entry.action = some action) ∨
          entry.prevState = .waitPna ∧ entry.event = some { doRetryTimeout := true } := by
      decide
    have disconnects : ∀ action ∈ closing,
        (PacAction.uses settings callbacks start action).disconnects = true := by
      simp [closing, PacAction.uses]
    apply (rows entry listed outside enters).imp
    · rintro ⟨action, isClosing, isAction⟩
      exact ⟨action, isAction, disconnects action isClosing⟩
    · exact fun retry => ⟨rfl, retry⟩
  | paa =>
    let closing : List PaaAction :=
      [.exitActionTimeout, .exitActionEapTimeout, .exitActionRxPANCompleteFail,
       .openExitActionRxPTR, .sessExitActionRxPTA]
    have rows : ∀ entry ∈ paaStateTable, entry.prevState ≠ .closed →
        entry.nextState = .closed → ∃ action ∈ closing, entry.action = some action := by
      decide
    have disconnects : ∀ action ∈ closing,
        (PaaAction.uses settings callbacks action).disconnects = true := by
      simp [closing, PaaAction.uses]
    obtain ⟨action, isClosing, isAction⟩ := rows entry listed outside enters
    exact .inl ⟨action, isAction, disconnects action isClosing⟩

end Rows

section Actions

variable {settings : PanaSettings} {role : PanaRole} {callbacks : PanaCallbacks}
  {start between session : PanaSession}

/-- `Disconnect` at the end of an action, which tells the application of it. -/
theorem disconnected_reset {cause : UInt32}
    (told : between.notified = start.notified ++ [.disconnect cause]) :
    Disconnected settings start (between.reset settings callbacks) where
  told := ⟨cause, told⟩
  reset := ⟨callbacks, rfl⟩

theorem dequeueRxMsg_run {msg : PanaMessage} {rest : List PanaMessage}
    (isQueue : session.rxMsgQueue = msg :: rest) :
    dequeueRxMsg.run session = .ok msg
      { session with
        rxMsgQueue := rest
        acted := session.acted ++ [(msg, session.sa.authKey)] } := by
  unfold dequeueRxMsg
  rw [EStateM.run_bind, EStateM.run_get]
  dsimp only
  rw [isQueue]
  rfl

/-- A program that returns, and has disconnected when it does. -/
def Ends (settings : PanaSettings) (program : PanaM Unit) (start : PanaSession) : Prop :=
  ∃ after, program.run start = .ok () after ∧ Disconnected settings start after ∧
    after.state = start.state ∧ after.fault = start.fault

theorem disconnect_ends (cause : UInt32) :
    Ends settings (disconnect settings callbacks cause) start :=
  ⟨_, rfl, disconnected_reset rfl, rfl, rfl⟩

theorem txPANComplete_ends (authSuccess : Bool) :
    Ends settings (do
      Client.txPANComplete settings callbacks authSuccess
      disconnect settings callbacks 0) start := by
  cases authSuccess with
  | false => exact ⟨_, rfl, disconnected_reset rfl, rfl, rfl⟩
  | true =>
    cases isKey : callbacks.newKey with
    | none =>
      unfold Client.txPANComplete updateAaaKeys
      rw [isKey]
      exact ⟨_, rfl, disconnected_reset rfl, rfl, rfl⟩
    | some newKey =>
      unfold Client.txPANComplete updateAaaKeys
      rw [isKey]
      exact ⟨_, rfl, disconnected_reset rfl, rfl, rfl⟩

/-- A program that goes on with the first message. -/
theorem ends_of_dequeue {next : PanaMessage → PanaM Unit} (queued : start.rxMsgQueue ≠ [])
    (later : ∀ msg rest, Ends settings (next msg)
      { start with rxMsgQueue := rest, acted := start.acted ++ [(msg, start.sa.authKey)] }) :
    Ends settings (dequeueRxMsg >>= next) start := by
  obtain ⟨msg, rest, isQueue⟩ := List.exists_cons_of_ne_nil queued
  obtain ⟨after, run, disconnected, state, fault⟩ := later msg rest
  refine ⟨after, ?_, ⟨disconnected.told, disconnected.reset⟩, state, fault⟩
  rw [EStateM.run_bind, dequeueRxMsg_run isQueue]
  exact run

theorem rxPTR_ends (queued : start.rxMsgQueue ≠ []) :
    Ends settings (rxPTR settings role callbacks) start := by
  apply ends_of_dequeue queued
  intro msg rest
  exact ⟨_, rfl, disconnected_reset rfl, rfl, rfl⟩

/-- An action that disconnects does so last, if there is the message that it takes. -/
theorem perform_ends {action : (machine settings role).Action}
    (disconnects : (actionUses settings callbacks start role action).disconnects = true)
    (queued : (actionUses settings callbacks start role action).takesMessage = true →
      start.rxMsgQueue ≠ []) :
    Ends settings ((machine settings role).perform callbacks action) start := by
  cases role with
  | pac =>
    cases action with
    | exitActionTimeout => exact disconnect_ends _
    | waitEapFailExitActionClose => exact txPANComplete_ends false
    | waitEapSuccessExitActionClose => exact txPANComplete_ends true
    | openExitActionRxPTR => exact rxPTR_ends (queued rfl)
    | sessTermExitActionRxPTA =>
      exact ends_of_dequeue (queued rfl) fun _ _ => disconnect_ends _
    | _ => cases disconnects
  | paa =>
    cases action with
    | exitActionTimeout => exact disconnect_ends _
    | exitActionEapTimeout => exact disconnect_ends _
    | exitActionRxPANCompleteFail =>
      exact ends_of_dequeue (queued rfl) fun _ _ => disconnect_ends _
    | openExitActionRxPTR => exact rxPTR_ends (queued rfl)
    | sessExitActionRxPTA => exact disconnect_ends _
    | _ => cases disconnects

end Actions

section Events

variable {settings : PanaSettings} {role : PanaRole} {callbacks : PanaCallbacks}
  {session : PanaSession}

theorem serve_of_faultless
    (faultless : ((machine settings role).serveMessage session).fault = none) :
    (machine settings role).serve callbacks session =
      (machine settings role).serveEvent callbacks
        ((machine settings role).serveMessage session) := by
  unfold PanaMachine.serve
  dsimp only
  rw [faultless]
  rfl

theorem serveEvent_state {first : QueuedEvent} {rest : List QueuedEvent}
    {entry : StateTableEntry PanaState PanaEvent (machine settings role).Action}
    (isEvents : session.events = first :: rest)
    (found : (machine settings role).table.find session.state first.event = some entry) :
    ((machine settings role).serveEvent callbacks session).state = entry.nextState := by
  have eventful := serveEvent_eventful settings role callbacks session
  generalize (machine settings role).serveEvent callbacks session = after at eventful ⊢
  cases eventful with
  | idle isEmpty => cases isEvents.symm.trans isEmpty
  | unlisted isFirst unlisted =>
    cases isEvents.symm.trans isFirst
    cases found.symm.trans unlisted
  | moved isFirst listed _ =>
    cases isEvents.symm.trans isFirst
    cases found.symm.trans listed
    rfl
  | acted isFirst listed _ done outcome =>
    cases isEvents.symm.trans isFirst
    cases found.symm.trans listed
    cases outcome with
    | inl same => exact (congrArg (·.state) same).trans done.state
    | inr posted => exact (congrArg (·.state) posted).trans done.state
  | faulted isFirst listed _ stops =>
    cases isEvents.symm.trans isFirst
    cases found.symm.trans listed
    have ⟨_, _, effect⟩ := stops.1
    exact effect.state

theorem serveEvent_idle (isEvents : session.events = [] ∨ ∃ first rest,
      session.events = first :: rest ∧
        (machine settings role).table.find session.state first.event = none) :
    ((machine settings role).serveEvent callbacks session).state = session.state ∧
      ((machine settings role).serveEvent callbacks session).sent = session.sent ∧
      nextAction settings role session = none := by
  unfold PanaMachine.serveEvent nextAction
  cases isEvents with
  | inl isEmpty =>
    rw [isEmpty]
    exact ⟨rfl, rfl, rfl⟩
  | inr unlisted =>
    obtain ⟨first, rest, isEvents, unlisted⟩ := unlisted
    simp only [isEvents, unlisted, and_self]

/-- The first event with its row, or neither is there. -/
theorem first_event (session : PanaSession) :
    (session.events = [] ∨ ∃ first rest, session.events = first :: rest ∧
        (machine settings role).table.find session.state first.event = none) ∨
      ∃ first rest entry, session.events = first :: rest ∧
        (machine settings role).table.find session.state first.event = some entry := by
  cases isEvents : session.events with
  | nil => exact .inl (.inl rfl)
  | cons first rest =>
    cases found : (machine settings role).table.find session.state first.event with
    | none => exact .inl (.inr ⟨first, rest, rfl, found⟩)
    | some entry => exact .inr ⟨first, rest, entry, rfl, found⟩

/-- The event that makes a session enter CLOSED is that of an action which disconnects. -/
theorem serveEvent_enters (faultless : session.fault = none) (outside : session.state ≠ .closed)
    (enters : ((machine settings role).serveEvent callbacks session).state = .closed)
    (waits : role = .pac → session.state = .waitPna →
      ∀ queued ∈ session.events.head?, queued.event ≠ { doRetryTimeout := true })
    (queued : ∀ start action, nextAction settings role session = some (start, action) →
      (actionUses settings callbacks start role action).disconnects = true →
      (actionUses settings callbacks start role action).takesMessage = true →
      start.rxMsgQueue ≠ []) :
    ∃ start action, nextAction settings role session = some (start, action) ∧
      (actionUses settings callbacks start role action).disconnects = true ∧
      Disconnected settings session ((machine settings role).serveEvent callbacks session) ∧
      ((machine settings role).serveEvent callbacks session).fault = none := by
  cases @first_event settings role session with
  | inl idle => exact absurd ((serveEvent_idle idle).1.symm.trans enters) outside
  | inr listed =>
    obtain ⟨first, rest, entry, isEvents, found⟩ := listed
    have ⟨listed, isState, serves⟩ := StateTable.find_sound found
    cases closing_rows callbacks (actionStart session first rest entry.nextState) listed
      (isState ▸ outside) ((serveEvent_state isEvents found).symm.trans enters) with
    | inl disconnecting =>
      obtain ⟨action, isAction, disconnects⟩ := disconnecting
      have next := nextAction_eq isEvents found isAction
      obtain ⟨after, run, disconnected, _, fault⟩ :=
        perform_ends disconnects (queued _ action next disconnects)
      have served : (machine settings role).serveEvent callbacks session = after := by
        unfold PanaMachine.serveEvent
        simp only [isEvents, found, isAction]
        change settle _ (EStateM.run _ (actionStart session first rest entry.nextState)) = _
        rw [run]
        rfl
      rw [served]
      exact ⟨_, action, next, disconnects, ⟨disconnected.told, disconnected.reset⟩,
        fault.trans faultless⟩
    | inr retry =>
      have same := serves _ retry.2.2
      exact absurd same.symm
        (waits retry.1 (isState ▸ retry.2.1) first (by rw [isEvents]; rfl))

/-- An event in CLOSED sends nothing, and no action with code has it. -/
theorem serveEvent_closed (isClosed : session.state = .closed) :
    ((machine settings role).serveEvent callbacks session).sent = session.sent ∧
      ∀ start action, nextAction settings role session = some (start, action) →
        hasCode settings role action = false := by
  cases @first_event settings role session with
  | inl idle =>
    have ⟨_, sent, noAction⟩ := @serveEvent_idle settings role callbacks session idle
    refine ⟨sent, fun start action isNext => ?_⟩
    cases noAction.symm.trans isNext
  | inr listed =>
    obtain ⟨first, rest, entry, isEvents, found⟩ := listed
    have ⟨listed, isState, _⟩ := StateTable.find_sound found
    have codeless := (closed_rows listed (isState.trans isClosed)).2
    cases isAction : entry.action with
    | none =>
      unfold PanaMachine.serveEvent nextAction
      simp only [isEvents, found, isAction, Option.map_none, reduceCtorEq, false_implies,
        implies_true, and_self]
    | some action =>
      constructor
      · unfold PanaMachine.serveEvent
        simp only [isEvents, found, isAction]
        cases role with
        | pac => cases codeless action isAction
        | paa =>
          cases action with
          | closed => rfl
          | _ => cases codeless _ isAction
      · intro start other isNext
        cases (nextAction_eq isEvents found isAction).symm.trans isNext
        exact codeless action isAction

end Events

section Runs

variable {settings : PanaSettings} {role : PanaRole} {callbacks : PanaCallbacks}
  {before after : PanaSession × PanaTimers}

/-- What serving a session ends in CLOSED, from another state. -/
theorem serve_enters (taken : TimedStep settings role before (.serve callbacks) after)
    (closable : Closable settings role before (.serve callbacks))
    (outside : before.1.state ≠ .closed) (enters : after.1.state = .closed) :
    Disconnected settings ((machine settings role).serveMessage before.1) after.1 ∧
      ∀ timer, after.2 timer = false := by
  obtain ⟨⟨_, isAfter⟩, timers⟩ := taken
  rw [isAfter] at enters ⊢
  change ((machine settings role).serve callbacks before.1).state = .closed at enters
  change Disconnected settings _ ((machine settings role).serve callbacks before.1) ∧ _
  have stays := @serveMessage_state settings role before.1
  cases isFault : ((machine settings role).serveMessage before.1).fault with
  | some fault =>
    unfold PanaMachine.serve at enters
    simp only [isFault, Option.isSome_some, if_true] at enters
    exact absurd (stays.symm.trans enters) outside
  | none =>
    rw [serve_of_faultless isFault] at enters ⊢
    obtain ⟨start, action, isNext, disconnects, disconnected, fault⟩ :=
      serveEvent_enters isFault (stays ▸ outside) enters closable.1 closable.2
    refine ⟨disconnected, timers.cancelled start action isNext disconnects ?_⟩
    rw [serve_of_faultless isFault]
    exact fault

theorem serve_silent (taken : TimedStep settings role before (.serve callbacks) after)
    (isClosed : before.1.state = .closed) :
    after.1.sent = before.1.sent ∧ after.2 = before.2 := by
  obtain ⟨⟨_, isAfter⟩, timers⟩ := taken
  have stays := @serveMessage_state settings role before.1
  have event := @serveEvent_closed settings role callbacks _ (stays.trans isClosed)
  refine ⟨?_, timers.idle event.2⟩
  rw [isAfter]
  change ((machine settings role).serve callbacks before.1).sent = _
  unfold PanaMachine.serve
  dsimp only
  split
  · exact serveMessage_sent isClosed
  · exact event.1.trans (serveMessage_sent isClosed)

/-- A step that may be taken closes completely. -/
theorem step_closes {input : PanaInput settings role}
    (taken : TimedStep settings role before input after)
    (closable : Closable settings role before input) :
    ClosesCompletely settings role before input after := by
  have isAfter := taken.1.2
  cases input with
  | receive msg =>
    refine ⟨fun outside enters => ?_, fun _ => ?_⟩
    · rw [isAfter] at enters
      exact absurd enters outside
    · rw [isAfter, taken.2]
      exact ⟨rfl, fun _ => id⟩
  | call made =>
    refine ⟨fun outside enters => ?_, fun _ => ?_⟩
    · rw [isAfter] at enters
      exact absurd ((machine_state settings role made before.1).symm.trans enters) outside
    · rw [isAfter, taken.2]
      exact ⟨(machine_posts settings role made before.1).sent, fun _ => id⟩
  | timeout timer =>
    refine ⟨fun outside enters => ?_, fun _ => ?_⟩
    · rw [isAfter] at enters
      exact absurd enters outside
    · rw [isAfter, taken.2.2]
      refine ⟨rfl, fun other isOn => ?_⟩
      dsimp only at isOn
      split at isOn
      · cases isOn
      · exact isOn
  | serve callbacks =>
    refine ⟨serve_enters taken closable, fun isClosed => ?_⟩
    have ⟨sent, timers⟩ := serve_silent taken isClosed
    exact ⟨sent, fun timer isOn => timers ▸ isOn⟩
  | abort callbacks =>
    refine ⟨fun outside enters => ?_, fun _ => ?_⟩
    · rw [isAfter] at enters
      exact absurd enters outside
    · refine ⟨?_, fun timer isOn => ?_⟩
      · rw [isAfter]
        rfl
      · rw [taken.2 timer] at isOn
        cases isOn

/-- In a run of steps that may be taken, no timer is scheduled in CLOSED, what enters CLOSED
disconnects once and cancels all timers, and what arrives there sends and schedules nothing. -/
theorem closing_complete (settings : PanaSettings) (role : PanaRole)
    {input : PanaInput settings role}
    (reached : Reached (TimedStart settings role) (TimedStep settings role)
      (Closable settings role) before)
    (taken : TimedStep settings role before input after)
    (closable : Closable settings role before input) :
    (before.1.state = .closed → ∀ timer, before.2 timer = false) ∧
      ClosesCompletely settings role before input after := by
  refine ⟨?_, step_closes taken closable⟩
  apply reached.invariant fun before => before.1.state = .closed → ∀ timer, before.2 timer = false
  · exact fun before started _ => started.2
  · intro before input after quiet taken closable enters timer
    have closes := step_closes taken closable
    by_cases isClosed : before.1.state = .closed
    · cases isOn : after.2 timer with
      | false => rfl
      | true => exact ((closes.silent isClosed).2 timer isOn).symm.trans (quiet isClosed timer)
    · exact (closes.entered isClosed enters).2 timer

/-- An action with code that does not disconnect may leave any timers. -/
theorem timersServed_of_action {session start : PanaSession} {timers after : PanaTimers}
    {action : (machine settings role).Action}
    (isNext : nextAction settings role ((machine settings role).serveMessage session) =
      some (start, action)) (code : hasCode settings role action = true)
    (keeps : (actionUses settings callbacks start role action).disconnects = false) :
    TimersServed settings role callbacks session timers after where
  idle codeless := by cases code.symm.trans (codeless start action isNext)
  cancelled other another isOther disconnects := by
    cases isNext.symm.trans isOther
    cases keeps.symm.trans disconnects

theorem timedStep_serve {session : PanaSession} {timers : PanaTimers} (after : PanaTimers)
    (faultless : session.fault = none)
    (served : TimersServed settings role callbacks session timers after) :
    TimedStep settings role (session, timers) (.serve callbacks)
      ((machine settings role).serve callbacks session, after) :=
  ⟨⟨faultless, rfl⟩, served⟩

/-- A run goes on with an input. -/
theorem reached_apply {session : PanaSession} {timers : PanaTimers}
    {allowed : PanaSession × PanaTimers → PanaInput settings role → Prop}
    (reached : Reached (TimedStart settings role) (TimedStep settings role) allowed
      (session, timers)) (input : PanaInput settings role) (after : PanaTimers)
    (taken : TimedStep settings role (session, timers) input (input.apply session, after))
    (isAllowed : allowed (session, timers) input) :
    Reached (TimedStart settings role) (TimedStep settings role) allowed
      (input.apply session, after) :=
  reached.after input taken isAllowed

end Runs

def noTimers : PanaTimers := fun _ => false

/-- A PaC that never hears of a PAA gives up. -/
theorem closing_complete_unheard :
    ∃ before after : PanaSession × PanaTimers, before.1.state = .initial ∧
      after.1.state = .closed ∧
      ClosesCompletely plainSettings .pac before (.serve {}) after := by
  have started : Reached (TimedStart plainSettings .pac) (TimedStep plainSettings .pac)
      (Closable plainSettings .pac)
      (newClient plainSettings ⟨1, 0⟩ ⟨2, 716⟩ {}, noTimers) :=
    .start ⟨⟨_, _, _, rfl⟩, fun _ => rfl⟩
  have called := reached_apply started (.call (PacCall.start none)) noTimers
    ⟨⟨rfl, rfl⟩, rfl⟩ trivial
  have sent := reached_apply called (.serve {}) (· == .retry)
    ⟨⟨rfl, rfl⟩, timersServed_of_action rfl rfl rfl⟩
    ⟨fun _ isWaiting => (nomatch isWaiting), fun start action isNext disconnects => by
      cases isNext
      cases disconnects⟩
  have late := reached_apply sent (.timeout .retry) _ ⟨⟨rfl, rfl⟩, rfl, rfl⟩ trivial
  have givenUp := reached_apply late (.serve { reScheduled := false }) noTimers
    ⟨⟨rfl, rfl⟩, timersServed_of_action rfl rfl rfl⟩
    ⟨fun _ isWaiting => (nomatch isWaiting), fun start action isNext disconnects => by
      cases isNext
      cases disconnects⟩
  refine ⟨_, _, rfl, ?_, (closing_complete plainSettings .pac givenUp
    (timedStep_serve noTimers rfl ⟨fun codeless => ?_, fun _ _ _ _ _ _ => rfl⟩) ?_).2⟩
  · rfl
  · cases codeless _ _ rfl
  · refine ⟨fun _ isWaiting => (nomatch isWaiting), fun start action isNext _ takes => ?_⟩
    cases isNext
    cases takes

/-- After a ping that nobody answers the client is closed, and has not disconnected. -/
theorem unanswered_ping_stays_connected :
    ∃ before after : PanaSession × PanaTimers,
      Reached (TimedStart plainSettings .pac) (TimedStep plainSettings .pac) (fun _ _ => True)
        before ∧
      TimedStep plainSettings .pac before (.serve { reScheduled := false }) after ∧
      ¬ ClosesCompletely plainSettings .pac before (.serve { reScheduled := false }) after := by
  have started : Reached (TimedStart plainSettings .pac) (TimedStep plainSettings .pac)
      (fun _ _ => True) (newClient plainSettings ⟨1, 0⟩ ⟨2, 716⟩ {}, noTimers) :=
    .start ⟨⟨_, _, _, rfl⟩, fun _ => rfl⟩
  have received := reached_apply started (.receive (parStart 5 1)) noTimers
    ⟨⟨rfl, rfl⟩, rfl⟩ trivial
  have answered := reached_apply received (.serve {}) (· == .session)
    ⟨⟨rfl, rfl⟩, timersServed_of_action rfl rfl rfl⟩ trivial
  have completed := reached_apply answered (.receive
    { flags := { request := true, complete := true }, type := mtypePar, sessionId := 5, seq := 2
      avpList := [.resultCode rcodeSuccess, .eapPayload [3]] }) _ ⟨⟨rfl, rfl⟩, rfl⟩ trivial
  have waiting := reached_apply completed (.serve {}) (· == .session)
    ⟨⟨rfl, rfl⟩, timersServed_of_action rfl rfl rfl⟩ trivial
  have accepted := reached_apply waiting (.call PacCall.eapSuccess) _ ⟨⟨rfl, rfl⟩, rfl⟩ trivial
  have opened := reached_apply accepted (.serve {}) (· == .session)
    ⟨⟨rfl, rfl⟩, timersServed_of_action rfl rfl rfl⟩ trivial
  have pinged := reached_apply opened (.call PacCall.ping) _ ⟨⟨rfl, rfl⟩, rfl⟩ trivial
  have sent := reached_apply pinged (.serve {}) (· != .eapResp)
    ⟨⟨rfl, rfl⟩, timersServed_of_action rfl rfl rfl⟩ trivial
  have late := reached_apply sent (.timeout .retry) _ ⟨⟨rfl, rfl⟩, rfl, rfl⟩ trivial
  have givenUp := reached_apply late (.serve { reScheduled := false }) (· == .session)
    ⟨⟨rfl, rfl⟩, timersServed_of_action rfl rfl rfl⟩ trivial
  refine ⟨_, _, givenUp, timedStep_serve (· == .session) rfl (timersServed_of_action rfl rfl rfl),
    fun closes => ?_⟩
  have ⟨cause, told⟩ := (closes.entered (by decide) rfl).1.told
  have longer := congrArg List.length told
  rw [List.length_append] at longer
  exact absurd longer (Nat.ne_of_lt (Nat.lt_succ_self _))

end OpenDiameter.Pana
