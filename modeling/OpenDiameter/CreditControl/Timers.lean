import OpenDiameter.CreditControl.ClientEvents
import OpenDiameter.CreditControl.ServerEvents
import OpenDiameter.Foundation.Transitions

/-!
Whether the Tx timer of a credit-control client and the Tcc timer of a server are scheduled just
where they should be.
-/

namespace OpenDiameter.CreditControl

open OpenDiameter.Framework OpenDiameter.Foundation

namespace CcClient

variable {callbacks : CcClientCallbacks} {session : CcClient}

/-- The answer to a request is waited for. -/
def Awaits (state : CcClientState) : Prop :=
  state ∈ [.stPendingI, .stPendingU, .stPendingT, .stPendingE]

instance (state : CcClientState) : Decidable (Awaits state) :=
  inferInstanceAs (Decidable (_ ∈ _))

/-- Tx is scheduled while an answer is waited for and it has not expired. -/
structure TxFollows (session : CcClient) : Prop where
  scheduled : session.tx = true ↔ Awaits session.state ∧ session.expired = false
  idle : session.state = .stIdle → session.tx = false

/-- The events of an open session after which an answer is waited for. -/
def furtherRequests : List CcClientEvent :=
  [.sentUpdateRequest, .terminationRequest, .changeInRating, .serviceTerminated, .rarReceived]

/-- The events of `PendingI` that keep its timer, or cancel it. -/
def initialEvents : List CcClientEvent :=
  [.initialAnswer, .txExpired, .grantService, .serviceTerminated, .changeInRating]

/-- What may be served. -/
structure TxServes (session : CcClient) (event : CcClientEvent) : Prop where
  idle : session.state = .stIdle → event ∉ eventRequests
  opened : session.state = .stOpen → event ∉ furtherRequests
  pending : session.state = .stPendingI → session.expired = false → event ∈ initialEvents

/-- When the timer follows the state. -/
def TxKept (input : CcClientInput) (session : CcClient) : Prop :=
  ∀ callbacks event queue, input = .serve callbacks → session.queue = event :: queue →
    TxServes session event

/-- The runs that keep the timer as it should be wait for initial answers only. -/
structure TxRegular (session : CcClient) : Prop where
  follows : TxFollows session
  state : ¬(session.state = .stPendingU ∨ session.state = .stPendingT ∨
    session.state = .stPendingE)

/-- What the timer depends on. -/
def timing (session : CcClient) : CcClientState × Bool × Bool :=
  (session.state, session.tx, session.expired)

/-- What the actions do to it. -/
def timed : Option CcClientAction → CcClientState × Bool × Bool → CcClientState × Bool × Bool
  | some .initialRequest, (state, _, expired) => (state, true, expired)
  | some .initialAnswer, (state, _, expired) => (state, false, expired)
  | some .txExpired, (state, _, _) => (state, false, true)
  | some .sendRequest, timing => timing
  | none, timing => timing

theorem timing_handleFailure : timing (session.handleFailure callbacks) = timing session := by
  rw [handleFailure]
  split
  · rfl
  · split
    · rfl
    · rfl

theorem timing_perform (action : Option CcClientAction) :
    timing (perform callbacks action session) = timed action (timing session) := by
  cases action with
  | none => rfl
  | some action =>
    cases action with
    | txExpired =>
      rw [perform, act]
      dsimp only
      split
      · rfl
      · exact timing_handleFailure
    | _ => rfl

theorem timing_event {served : CcClientEvent} {state next : CcClientState}
    {action : Option CcClientAction} (isState : session.state = state)
    (isRow : row state served = some (next, action)) :
    timing (event callbacks session served) =
      timed action (next, session.tx, session.expired && next = state) := by
  rw [event_row isState isRow, timing_perform, timing, moved, isState]

variable {next : CcClient}

theorem TxRegular.of_timing {state : CcClientState} {tx expired : Bool}
    (isTiming : timing next = (state, tx, expired))
    (scheduled : tx = true ↔ Awaits state ∧ expired = false) (idle : state = .stIdle → tx = false)
    (pending : ¬(state = .stPendingU ∨ state = .stPendingT ∨ state = .stPendingE)) :
    TxRegular next := by
  cases isTiming
  exact ⟨⟨scheduled, idle⟩, pending⟩

theorem TxRegular.of_eq (regular : TxRegular session) (same : timing next = timing session) :
    TxRegular next :=
  .of_timing same regular.follows.scheduled regular.follows.idle regular.state

theorem not_follows_of_timing {state : CcClientState} {tx expired : Bool}
    (isTiming : timing next = (state, tx, expired))
    (wrong : ¬(tx = true ↔ Awaits state ∧ expired = false)) : ¬TxFollows next := by
  cases isTiming
  exact fun follows => wrong follows.scheduled

/-- The event may be served, and the session stays regular, or the timer is wrong after it. -/
def TxOutcome (callbacks : CcClientCallbacks) (session : CcClient) (served : CcClientEvent) :
    Prop :=
  TxServes session served ∧ TxRegular (event callbacks session served) ∨
    ¬TxServes session served ∧ ¬TxFollows (event callbacks session served)

theorem txOutcome_idle (regular : TxRegular session) (isIdle : session.state = .stIdle)
    (served : CcClientEvent) : TxOutcome callbacks session served := by
  have noTimer := regular.follows.idle isIdle
  have isRow := row_idle served
  have serves (notRequest : served ∉ eventRequests) : TxServes session served := by
    refine ⟨fun _ => notRequest, fun isOpen => ?_, fun isPending => ?_⟩
    · cases isIdle.symm.trans isOpen
    · cases isIdle.symm.trans isPending
  split at isRow
  · rename_i isInitial
    subst isInitial
    have isTiming := @timing_event callbacks _ _ _ _ _ isIdle isRow
    left
    exact ⟨serves (by decide), .of_timing isTiming (by simp [Awaits]) nofun (by simp)⟩
  · split at isRow
    · rename_i isRequest
      have isTiming := @timing_event callbacks _ _ _ _ _ isIdle isRow
      right
      exact ⟨fun serves => serves.idle isIdle isRequest,
        not_follows_of_timing isTiming (by simp [Awaits, noTimer])⟩
    · rename_i notRequest
      left
      refine ⟨serves notRequest, ?_⟩
      split at isRow
      · have isTiming := @timing_event callbacks _ _ _ _ _ isIdle isRow
        exact .of_timing isTiming (by simp [Awaits, noTimer]) nofun (by simp)
      · split at isRow
        · have isTiming := @timing_event callbacks _ _ _ _ _ isIdle isRow
          exact .of_timing isTiming (by simp [Awaits, noTimer]) (fun _ => noTimer) (by simp)
        · have isTiming := @timing_event callbacks _ _ _ _ _ isIdle isRow
          exact .of_timing isTiming (by simp [Awaits, noTimer]) nofun (by simp)

theorem txOutcome_open (regular : TxRegular session) (isOpen : session.state = .stOpen)
    (served : CcClientEvent) : TxOutcome callbacks session served := by
  have noTimer : session.tx = false := by
    apply eq_false_of_ne_true
    intro isScheduled
    have awaits := (regular.follows.scheduled.1 isScheduled).1
    rw [isOpen] at awaits
    exact absurd awaits (by decide)
  have isRow := row_open served
  have serves (notRequest : served ∉ furtherRequests) : TxServes session served := by
    refine ⟨fun isIdle => ?_, fun _ => notRequest, fun isPending => ?_⟩
    · cases isOpen.symm.trans isIdle
    · cases isOpen.symm.trans isPending
  have requests {next : CcClientState} {action : Option CcClientAction}
      (isRow : row .stOpen served = some (next, action)) (isRequest : served ∈ furtherRequests)
      (awaits : Awaits next ∧ next ≠ .stOpen) (keeps : ∀ timing, timed action timing = timing) :
      TxOutcome callbacks session served := by
    have isTiming := @timing_event callbacks _ _ _ _ _ isOpen isRow
    rw [keeps] at isTiming
    right
    refine ⟨fun serves => serves.opened isOpen isRequest, not_follows_of_timing isTiming ?_⟩
    simp [awaits, noTimer]
  split at isRow
  · rename_i isTermination
    subst isTermination
    exact requests isRow (by decide) (by decide) fun _ => rfl
  · split at isRow
    · rename_i isTerminated
      subst isTerminated
      exact requests isRow (by decide) (by decide) fun _ => rfl
    · split at isRow
      · rename_i isUpdate
        have isRequest : served ∈ furtherRequests := by
          simp only [List.mem_cons, List.not_mem_nil, or_false] at isUpdate
          obtain rfl | rfl | rfl := isUpdate
          · decide
          · decide
          · decide
        exact requests isRow isRequest (by decide) fun _ => rfl
      · rename_i notTermination notTerminated notUpdate
        left
        have notRequest : served ∉ furtherRequests := by
          simp only [List.mem_cons, List.not_mem_nil, or_false, not_or, furtherRequests] at *
          exact ⟨notUpdate.1, notTermination, notUpdate.2.1, notTerminated, notUpdate.2.2⟩
        refine ⟨serves notRequest, ?_⟩
        split at isRow
        · have isTiming := @timing_event callbacks _ _ _ _ _ isOpen isRow
          exact .of_timing isTiming (by simp [Awaits, noTimer]) nofun (by simp)
        · have isTiming := @timing_event callbacks _ _ _ _ _ isOpen isRow
          exact .of_timing isTiming (by simp [Awaits, noTimer]) nofun (by simp)

theorem txOutcome_pendingI (regular : TxRegular session)
    (isPending : session.state = .stPendingI) (served : CcClientEvent) :
    TxOutcome callbacks session served := by
  have isRow := row_pendingI served
  have scheduled : session.tx = true ↔ session.expired = false := by
    rw [regular.follows.scheduled, isPending]
    exact and_iff_right (by decide)
  have serves (initial : session.expired = false → served ∈ initialEvents) :
      TxServes session served := by
    refine ⟨fun isIdle => ?_, fun isOpen => ?_, fun _ => initial⟩
    · cases isPending.symm.trans isIdle
    · cases isPending.symm.trans isOpen
  have leaves {next : CcClientState} (isRow : row .stPendingI served = some (next, none))
      (isOther : served ∉ initialEvents)
      (ends : ¬Awaits next ∧ (next = .stPendingI ∨ next = .stPendingU ∨ next = .stPendingT ∨
        next = .stPendingE → False)) : TxOutcome callbacks session served := by
    have isTiming := @timing_event callbacks _ _ _ _ _ isPending isRow
    cases isExpired : session.expired with
    | false =>
      right
      refine ⟨fun serves => isOther (serves.pending isPending isExpired),
        not_follows_of_timing isTiming ?_⟩
      rw [scheduled]
      simp [ends, isExpired]
    | true =>
      left
      have noTimer : session.tx = false := by
        apply eq_false_of_ne_true
        intro isScheduled
        cases isExpired.symm.trans (scheduled.1 isScheduled)
      refine ⟨serves fun notExpired => ?_, .of_timing isTiming ?_ (fun _ => noTimer) ?_⟩
      · cases isExpired.symm.trans notExpired
      · simp [ends, noTimer]
      · exact fun others => ends.2 (.inr others)
  split at isRow
  · rename_i isAnswer
    subst isAnswer
    have isTiming := @timing_event callbacks _ _ _ _ _ isPending isRow
    left
    exact ⟨serves fun _ => by decide, .of_timing isTiming (by simp [Awaits]) nofun (by simp)⟩
  · split at isRow
    · rename_i isExpiry
      subst isExpiry
      have isTiming := @timing_event callbacks _ _ _ _ _ isPending isRow
      left
      exact ⟨serves fun _ => by decide, .of_timing isTiming (by simp) nofun (by simp)⟩
    · split at isRow
      · rename_i stays
        have isInitial : served ∈ initialEvents := List.mem_cons_of_mem _ (List.mem_cons_of_mem _ stays)
        have isTiming := @timing_event callbacks _ _ _ _ _ isPending isRow
        left
        refine ⟨serves fun _ => isInitial, .of_timing isTiming ?_ nofun (by simp)⟩
        simp [Awaits, scheduled]
      · rename_i notAnswer notExpiry leavesIt
        have isOther : served ∉ initialEvents := by
          simp only [List.mem_cons, List.not_mem_nil, or_false, not_or, initialEvents] at *
          exact ⟨notAnswer, notExpiry, leavesIt⟩
        split at isRow
        · exact leaves isRow isOther (by simp [Awaits])
        · exact leaves isRow isOther (by simp [Awaits])

/-- The states in which anything may be served. -/
theorem txServes_of_state {served : CcClientEvent}
    (isState : session.state = .stPendingB ∨ session.state = .stTerminated) :
    TxServes session served := by
  refine ⟨fun isIdle => ?_, fun isOpen => ?_, fun isPending => ?_⟩
  · exact isState.elim (fun other => nomatch isIdle.symm.trans other)
      fun other => nomatch isIdle.symm.trans other
  · exact isState.elim (fun other => nomatch isOpen.symm.trans other)
      fun other => nomatch isOpen.symm.trans other
  · exact isState.elim (fun other => nomatch isPending.symm.trans other)
      fun other => nomatch isPending.symm.trans other

theorem tx_event (regular : TxRegular session) (served : CcClientEvent) :
    TxOutcome callbacks session served := by
  cases isState : session.state with
  | stIdle => exact txOutcome_idle regular isState served
  | stPendingI => exact txOutcome_pendingI regular isState served
  | stOpen => exact txOutcome_open regular isState served
  | stPendingU => exact absurd (.inl isState) regular.state
  | stPendingT => exact absurd (.inr (.inl isState)) regular.state
  | stPendingE => exact absurd (.inr (.inr isState)) regular.state
  | stPendingB =>
    left
    refine ⟨txServes_of_state (.inl isState), ?_⟩
    have noTimer : session.tx = false := by
      apply eq_false_of_ne_true
      intro isScheduled
      have awaits := (regular.follows.scheduled.1 isScheduled).1
      rw [isState] at awaits
      exact absurd awaits (by decide)
    have isRow := row_pendingB served
    split at isRow
    · have isTiming := @timing_event callbacks _ _ _ _ _ isState isRow
      exact .of_timing isTiming (by simp [Awaits, noTimer]) (fun _ => noTimer) (by simp)
    · have isTiming := @timing_event callbacks _ _ _ _ _ isState isRow
      exact .of_timing isTiming (by simp [Awaits, noTimer]) nofun (by simp)
  | stTerminated =>
    left
    rw [event_terminated isState]
    exact ⟨txServes_of_state (.inr isState), regular⟩

/-- One input keeps the timer as it should be just under the condition. -/
theorem tx_step (regular : TxRegular session) (input : CcClientInput) :
    (TxKept input session ∧ TxRegular (session.step input)) ∨
      (¬TxKept input session ∧ ¬TxFollows (session.step input)) := by
  have unserved (same : timing (session.step input) = timing session)
      (isOther : ∀ callbacks, input ≠ .serve callbacks) :
      (TxKept input session ∧ TxRegular (session.step input)) ∨
        (¬TxKept input session ∧ ¬TxFollows (session.step input)) := by
    left
    exact ⟨fun callbacks _ _ isServe => absurd isServe (isOther callbacks), regular.of_eq same⟩
  cases input with
  | notify event => exact unserved rfl nofun
  | fillRequest callbacks => exact unserved rfl nofun
  | sendCcr => exact unserved rfl nofun
  | rxAnswer msg =>
    apply unserved _ nofun
    rw [step, rxAnswer]
    split
    · split
      · rfl
      · rfl
    · rfl
  | timeout =>
    apply unserved _ nofun
    rw [step]
    split
    · rfl
    · rfl
  | serve callbacks =>
    rw [step, serve]
    cases isQueue : session.queue with
    | nil =>
      left
      refine ⟨fun _ _ _ _ isCons => ?_, regular⟩
      cases isQueue.symm.trans isCons
    | cons served queue =>
      have outcome := @tx_event callbacks { session with queue := queue }
        (regular.of_eq rfl) served
      apply outcome.imp
      · intro good
        refine ⟨fun _ _ _ _ isCons => ?_, good.2⟩
        cases isQueue.symm.trans isCons
        exact ⟨good.1.idle, good.1.opened, good.1.pending⟩
      · intro bad
        refine ⟨fun kept => bad.1 ?_, bad.2⟩
        have serves := kept callbacks served queue rfl isQueue
        exact ⟨serves.idle, serves.opened, serves.pending⟩

theorem regular_initial : TxRegular initial :=
  .of_timing rfl (by decide) (fun _ => rfl) (by decide)

end CcClient

namespace CcServer

variable {verdicts : CcVerdicts} {session : CcServer}

/-- The session is open, or serves an update or a termination request. -/
def Supervised (state : CcServerState) : Prop :=
  state ∈ [.stOpen, .stOpenValidateRequest, .stUpdateRequest, .stTerminationRequest]

instance (state : CcServerState) : Decidable (Supervised state) :=
  inferInstanceAs (Decidable (_ ∈ _))

/-- Serving the event calls a function of the application that validates or processes a request,
and it finds a session. -/
inductive Calls (verdicts : CcVerdicts) : CcServer → CcServerEvent → CcServer → Prop where
  | validate {session : CcServer} {event : CcServerEvent} {kind : CcRequest}
      {entry : StateTableEntry CcServerState CcServerEvent CcServerAction}
      (found : ccServerTable.find session.state event = some entry)
      (action : entry.action = some (.validate kind)) :
      Calls verdicts session event { session with state := entry.nextState }
  | process {session : CcServer} {event : CcServerEvent} {kind : CcRequest}
      {entry : StateTableEntry CcServerState CcServerEvent CcServerAction}
      (found : ccServerTable.find session.state event = some entry)
      (action : entry.action = some (.process kind)) :
      Calls verdicts session event { session with state := entry.nextState }
  | validated {session called : CcServer} {event : CcServerEvent} {kind : CcRequest}
      {entry : StateTableEntry CcServerState CcServerEvent CcServerAction}
      (found : ccServerTable.find session.state event = some entry)
      (action : entry.action = some (.validate kind))
      (calls : Calls verdicts { session with state := entry.nextState }
        (if verdicts.validate kind then .valid kind else .invalid kind) called) :
      Calls verdicts session event called

/-- Tcc is scheduled just while the session is supervised, also where a function of the
application is called. -/
structure TccFollows (session : CcServer) : Prop where
  scheduled : session.tcc = true ↔ Supervised session.state
  serving : ∀ verdicts event called, Calls verdicts session event called →
    (called.tcc = true ↔ Supervised called.state)
  idle : session.state = .stIdle → session.tcc = false

/-- What may be served. -/
structure TccServes (verdicts : CcVerdicts) (session : CcServer) (event : CcServerEvent) :
    Prop where
  idle : session.state = .stIdle → event = .request .initial → verdicts.Accepts .initial →
    verdicts.initialAnswer = true
  opened : session.state = .stOpen → event = .tccExpired ∨
    (event = .request .update ∧ verdicts.Accepts .update) ∨
    (event = .request .termination ∧ verdicts.Accepts .termination)

/-- When the timer follows the state. -/
def TccKept (input : CcServerInput) (session : CcServer) : Prop :=
  ∀ verdicts queued queue, input = .serve verdicts → session.queue = queued :: queue →
    TccServes verdicts session queued.event

/-- The action calls a function of the application that validates or processes a request. -/
def calling : CcServerAction → Bool
  | .validate _ => true
  | .process _ => true
  | _ => false

theorem supervised_row : ∀ entry ∈ ccServerTable, entry.action.any calling = true →
    (Supervised entry.prevState ↔ Supervised entry.nextState) := by decide

theorem Calls.supervised {called : CcServer} {event : CcServerEvent}
    (calls : Calls verdicts session event called)
    (scheduled : session.tcc = true ↔ Supervised session.state) :
    called.tcc = true ↔ Supervised called.state := by
  have keeps {state : CcServerState} {event : CcServerEvent}
      {entry : StateTableEntry CcServerState CcServerEvent CcServerAction}
      (found : ccServerTable.find state event = some entry)
      (isCalling : entry.action.any calling = true) :
      Supervised state ↔ Supervised entry.nextState := by
    have sound := StateTable.find_sound found
    rw [← sound.2.1]
    exact supervised_row entry sound.1 isCalling
  induction calls with
  | validate found action => exact scheduled.trans (keeps found (by rw [action]; rfl))
  | process found action => exact scheduled.trans (keeps found (by rw [action]; rfl))
  | validated found action _ induction =>
    exact induction (scheduled.trans (keeps found (by rw [action]; rfl)))

theorem TccFollows.of_scheduled (scheduled : session.tcc = true ↔ Supervised session.state) :
    TccFollows session where
  scheduled := scheduled
  serving _ _ _ calls := calls.supervised scheduled
  idle isIdle := by
    rw [isIdle] at scheduled
    exact eq_false_of_ne_true fun isScheduled => absurd (scheduled.1 isScheduled) (by decide)

theorem not_tccFollows (wrong : ¬(session.tcc = true ↔ Supervised session.state)) :
    ¬TccFollows session :=
  fun follows => wrong follows.scheduled

@[simp] theorem tcc_unsuccessfulAnswer (kind : CcRequest) :
    (session.unsuccessfulAnswer verdicts kind).tcc = session.tcc := by
  cases kind with
  | initial =>
    rw [unsuccessfulAnswer]
    split
    · rfl
    · rfl
  | _ => rfl

/-- The event may be served, and the timer is right after it, or it is wrong. -/
def TccOutcome (verdicts : CcVerdicts) (session : CcServer) (served : CcServerEvent) : Prop :=
  TccServes verdicts session served ∧ TccFollows (event verdicts served session) ∨
    ¬TccServes verdicts session served ∧ ¬TccFollows (event verdicts served session)

/-- A refused request leaves the timer as it is, in an idle session. -/
theorem tccFollows_refused (kind : CcRequest) :
    TccFollows (unsuccessfulAnswer verdicts { session with state := .stIdle } kind) ↔
      session.tcc = false := by
  constructor
  · intro follows
    have idle := follows.idle (state_unsuccessfulAnswer kind)
    rwa [tcc_unsuccessfulAnswer] at idle
  · intro noTimer
    apply TccFollows.of_scheduled
    rw [tcc_unsuccessfulAnswer, state_unsuccessfulAnswer]
    simp [noTimer, Supervised]

theorem tccOutcome_idle (noTimer : session.tcc = false) (isIdle : session.state = .stIdle)
    (served : CcServerEvent) : TccOutcome verdicts session served := by
  have serves (initial : served = .request .initial → verdicts.Accepts .initial →
      verdicts.initialAnswer = true) : TccServes verdicts session served := by
    refine ⟨fun _ => initial, fun isOpen => ?_⟩
    cases isIdle.symm.trans isOpen
  by_cases expected : Expected session.state served
  · cases expected with
    | tccExpired isOpen => cases isIdle.symm.trans isOpen
    | @request kind next isServed =>
      rw [isIdle] at isServed
      rw [TccOutcome, event_request isIdle isServed]
      split
      · rename_i accepts
        cases isServed with
        | initial =>
          cases answers : verdicts.initialAnswer with
          | true =>
            left
            refine ⟨serves fun _ _ => answers, .of_scheduled ?_⟩
            have scheduled : (answerAccepted verdicts .initial
                { session with state := .stOpen }).tcc = true := by
              rw [answerAccepted, if_neg (by decide), successfulAnswer, if_pos answers]
              rfl
            rw [scheduled, state_answerAccepted]
            simp [Supervised]
          | false =>
            right
            refine ⟨fun serves => ?_, not_tccFollows ?_⟩
            · cases answers.symm.trans (serves.idle isIdle rfl accepts)
            · have same : answerAccepted verdicts .initial
                  { session with state := .stOpen } = { session with state := .stOpen } := by
                rw [answerAccepted, if_neg (by decide), successfulAnswer,
                  if_neg (by simp [answers])]
              rw [same]
              simp [noTimer, Supervised]
        | _ =>
          left
          refine ⟨serves (by rintro ⟨⟩), .of_scheduled ?_⟩
          exact iff_of_false (by simp [answerAccepted, successfulAnswer, fill,
            fillCheckBalance, sendCca, noTimer]) (by rw [state_answerAccepted]; simp [Supervised])
      · rename_i refuses
        left
        refine ⟨serves ?_, (tccFollows_refused kind).2 noTimer⟩
        rintro ⟨⟩ accepts
        exact absurd accepts refuses
  · left
    refine ⟨serves ?_, ?_⟩
    · rintro rfl
      exact absurd (.request (isIdle ▸ Served.initial)) expected
    · rw [event_unexpected (.inl isIdle) expected]
      exact .of_scheduled (by simp [noTimer, Supervised])

theorem tccOutcome_open (isScheduled : session.tcc = true) (isOpen : session.state = .stOpen)
    (served : CcServerEvent) : TccOutcome verdicts session served := by
  have serves (expected : served = .tccExpired ∨
      (served = .request .update ∧ verdicts.Accepts .update) ∨
      (served = .request .termination ∧ verdicts.Accepts .termination)) :
      TccServes verdicts session served := by
    refine ⟨fun isIdle => ?_, fun _ => expected⟩
    cases isOpen.symm.trans isIdle
  by_cases expected : Expected session.state served
  · cases expected with
    | tccExpired _ =>
      left
      rw [event_tccExpired isOpen]
      exact ⟨serves (.inl rfl), .of_scheduled (by simp [Supervised])⟩
    | @request kind next isServed =>
      rw [isOpen] at isServed
      rw [TccOutcome, event_request isOpen isServed]
      split
      · rename_i accepts
        left
        cases isServed with
        | update =>
          refine ⟨serves (.inr (.inl ⟨rfl, accepts⟩)), .of_scheduled ?_⟩
          exact iff_of_true rfl (by rw [state_answerAccepted]; simp [Supervised])
        | termination =>
          refine ⟨serves (.inr (.inr ⟨rfl, accepts⟩)), .of_scheduled ?_⟩
          exact iff_of_false Bool.false_ne_true
            (by rw [state_answerAccepted]; simp [Supervised])
      · rename_i refuses
        right
        refine ⟨fun serves => ?_, fun follows => ?_⟩
        · obtain isExpiry | ⟨isUpdate, accepts⟩ | ⟨isTermination, accepts⟩ := serves.opened isOpen
          · cases isExpiry
          · cases isUpdate
            exact refuses accepts
          · cases isTermination
            exact refuses accepts
        · cases isScheduled.symm.trans ((tccFollows_refused kind).1 follows)
  · right
    refine ⟨fun serves => ?_, ?_⟩
    · obtain rfl | ⟨rfl, _⟩ | ⟨rfl, _⟩ := serves.opened isOpen
      · exact expected (.tccExpired isOpen)
      · exact expected (.request (isOpen ▸ Served.update))
      · exact expected (.request (isOpen ▸ Served.termination))
    · rw [event_unexpected (.inr (.inl isOpen)) expected]
      exact not_tccFollows (by simp [isScheduled, Supervised])

theorem tcc_event (rests : session.Rests) (follows : TccFollows session)
    (served : CcServerEvent) : TccOutcome verdicts session served := by
  obtain isIdle | isOpen | isTerminated := rests
  · exact tccOutcome_idle (follows.idle isIdle) isIdle served
  · have isScheduled : session.tcc = true := by
      rw [follows.scheduled, isOpen]
      decide
    exact tccOutcome_open isScheduled isOpen served
  · left
    have noTimer : session.tcc = false := by
      apply eq_false_of_ne_true
      rw [follows.scheduled, isTerminated]
      decide
    refine ⟨⟨fun isIdle => ?_, fun isOpen => ?_⟩, ?_⟩
    · cases isTerminated.symm.trans isIdle
    · cases isTerminated.symm.trans isOpen
    · have unexpected : ¬Expected session.state served := by
        rw [isTerminated]
        rintro (⟨⟨⟩⟩ | ⟨⟨⟩⟩)
      rw [event_unexpected (.inr (.inr isTerminated)) unexpected]
      exact .of_scheduled (by simp [noTimer, Supervised])

theorem tcc_step (rests : session.Rests) (follows : TccFollows session) (input : CcServerInput) :
    (TccKept input session ∧ TccFollows (session.step input)) ∨
      (¬TccKept input session ∧ ¬TccFollows (session.step input)) := by
  have unserved (sameState : (session.step input).state = session.state)
      (sameTimer : (session.step input).tcc = session.tcc)
      (isOther : ∀ verdicts, input ≠ .serve verdicts) :
      (TccKept input session ∧ TccFollows (session.step input)) ∨
        (¬TccKept input session ∧ ¬TccFollows (session.step input)) := by
    left
    refine ⟨fun verdicts _ _ isServe => absurd isServe (isOther verdicts), .of_scheduled ?_⟩
    rw [sameState, sameTimer]
    exact follows.scheduled
  cases input with
  | rxRequest msg =>
    apply unserved (state_rxRequest msg) _ (by rintro _ ⟨⟩)
    rw [step, rxRequest]
    split
    · split
      · rfl
      · rfl
    · rfl
  | timeout =>
    apply unserved _ _ (by rintro _ ⟨⟩)
    · rw [step]
      split
      · rfl
      · rfl
    · rw [step]
      split
      · rfl
      · rfl
  | disconnect => exact unserved rfl rfl (by rintro _ ⟨⟩)
  | sessionTimeout => exact unserved rfl rfl (by rintro _ ⟨⟩)
  | generalTimeout => exact unserved rfl rfl (by rintro _ ⟨⟩)
  | serve verdicts =>
    rw [step, serve]
    cases isQueue : session.queue with
    | nil =>
      left
      refine ⟨fun _ _ _ _ isCons => ?_, follows⟩
      cases isQueue.symm.trans isCons
    | cons queued queue =>
      have outcome := @tcc_event verdicts { session with queue := queue } rests
        (.of_scheduled follows.scheduled) queued.event
      apply outcome.imp
      · intro good
        refine ⟨fun _ _ _ isServe isCons => ?_, good.2⟩
        cases isServe
        cases isQueue.symm.trans isCons
        exact ⟨good.1.idle, good.1.opened⟩
      · intro bad
        refine ⟨fun kept => bad.1 ?_, bad.2⟩
        have serves := kept verdicts queued queue rfl isQueue
        exact ⟨serves.idle, serves.opened⟩

theorem follows_initial : TccFollows initial := .of_scheduled (by decide)

end CcServer

/-- In a run of a client, and in one of a server, the timer follows the state in each state just
where each step meets the condition. -/
theorem timers_follow_iff (clientInputs : List CcClientInput) (serverInputs : List CcServerInput) :
    ((∀ before after, clientInputs = before ++ after →
        CcClient.TxFollows (CcClient.initial.run before)) ↔
      ∀ before input after, clientInputs = before ++ input :: after →
        CcClient.TxKept input (CcClient.initial.run before)) ∧
    ((∀ before after, serverInputs = before ++ after →
        CcServer.TccFollows (CcServer.initial.run before)) ↔
      ∀ before input after, serverInputs = before ++ input :: after →
        CcServer.TccKept input (CcServer.initial.run before)) := by
  constructor
  · apply @run_good_iff _ _ CcClient.step CcClient.TxRegular
    · exact fun _ regular => regular.follows
    · intro input session regular
      apply (CcClient.tx_step regular input).elim
      · exact fun good => iff_of_true good.2.follows good.1
      · exact fun bad => iff_of_false bad.2 bad.1
    · intro input session regular kept
      exact ((CcClient.tx_step regular input).resolve_right fun bad => bad.1 kept).2
    · exact CcClient.regular_initial
  · apply @run_good_iff _ _ CcServer.step fun session => session.Rests ∧ CcServer.TccFollows session
    · exact fun _ regular => regular.2
    · intro input session regular
      apply (CcServer.tcc_step regular.1 regular.2 input).elim
      · exact fun good => iff_of_true good.2 good.1
      · exact fun bad => iff_of_false bad.2 bad.1
    · intro input session regular kept
      have outcome := CcServer.tcc_step regular.1 regular.2 input
      exact ⟨regular.1.step input, (outcome.resolve_right fun bad => bad.1 kept).2⟩
    · exact ⟨CcServer.rests_initial, CcServer.follows_initial⟩

/-- An accepted initial request, and a termination request that is refused. -/
def refusedTermination : List CcServerInput :=
  [.rxRequest { ccRequestType := some ccTypeInitialRequest, ccRequestNumber := some 0 },
    .serve {},
    .rxRequest { ccRequestType := some ccTypeTerminationRequest, ccRequestNumber := some 1 },
    .serve { process := fun _ => false }]

/-- The timer of the idle session expires, and the session is terminated. -/
theorem refusedTermination_expires :
    ¬CcServer.TccFollows (CcServer.initial.run refusedTermination) ∧
      (CcServer.initial.run refusedTermination).state = .stIdle ∧
      (CcServer.initial.run (refusedTermination ++ [.timeout, .serve {}])).state =
        .stTerminated := by
  have isIdle : (CcServer.initial.run refusedTermination).state = .stIdle := by decide
  refine ⟨fun follows => ?_, isIdle, by decide⟩
  exact absurd (follows.idle isIdle) (by decide)

end OpenDiameter.CreditControl
