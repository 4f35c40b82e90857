import OpenDiameter.Foundation.Transitions
import OpenDiameter.Session.AuthClient
import OpenDiameter.Session.AuthServer

/-!
Which timers stand behind a session that is disconnecting.
-/

namespace OpenDiameter.Session

open OpenDiameter.Foundation OpenDiameter.Framework OpenDiameter.Router

namespace AuthSession

/-- A timer is armed that comes with one of the events. -/
def TimerBehind (events : List AuthEvent) (session : AuthSession) : Prop :=
  ∃ type timer, session.timers type = some timer ∧ timer.event ∈ events

/-- The session does not wait in the state without a timer. Once reset it is in another one. -/
def Guarded (events : List AuthEvent) (session : AuthSession) : Prop :=
  session.state = .stDisc → session.TimerBehind events

variable {events : List AuthEvent}

theorem TimerBehind.of_timers {session next : AuthSession} (same : next.timers = session.timers) :
    next.TimerBehind events ↔ session.TimerBehind events := by
  rw [TimerBehind, TimerBehind, same]

theorem not_timerBehind {session : AuthSession} (none : ∀ type, session.timers type = none) :
    ¬ session.TimerBehind events := by
  rintro ⟨type, timer, armed, _⟩
  rw [none type] at armed
  cases armed

/-- The state machine is where it was. -/
structure SameMachine (next session : AuthSession) : Prop where
  running : next.running = session.running
  state : next.state = session.state
  timers : next.timers = session.timers

theorem Guarded.of_same {session next : AuthSession} (guarded : session.Guarded events)
    (same : SameMachine next session) :
    next.Guarded events := by
  intro disc
  rw [same.state] at disc
  exact (TimerBehind.of_timers same.timers).mpr (guarded disc)

end AuthSession

/-- The action cancels the timers. -/
def ClientAction.cancels : ClientAction → Bool
  | .sessionTimeoutState | .authTimeout | .userAbort => true
  | _ => false

/-- The action resets the session, or arms its timers anew. -/
def ClientAction.settles : ClientAction → Bool
  | .grantAccess | .sessionTimeout | .cleanup | .disconnect => true
  | _ => false

namespace AuthClient

variable {config : AuthConfig} {callbacks : AuthCallbacks} {session next : AuthSession}

/-- The timers that take a client out of the state. -/
def timeouts : List AuthEvent :=
  [.sessionToutSt, .lifetimeTout]

/-- The row's action cancels the timers. -/
def cancels (entry : StateTableEntry AuthState AuthEvent ClientAction) : Bool :=
  entry.action.any ClientAction.cancels

/-- A client that begins to disconnect on the event has a timer that it does not cancel. -/
def EventBacked (session : AuthSession) (event : AuthEvent) : Prop :=
  session.running = true → session.state ≠ .stDisc →
    ∀ entry, clientStateTable.find session.state event = some entry → entry.nextState = .stDisc →
      cancels entry = false ∧ session.TimerBehind timeouts

/-- The event that a call posts. -/
def postedEvent (callbacks : AuthCallbacks) (session : AuthSession) : AuthCall → Option AuthEvent
  | .notify event _ _ => some event
  | .delivered msg => deliveredEvent callbacks session.attributes msg

def Backed (session : AuthSession) (input : AuthCallbacks × AuthInput) : Prop :=
  ∀ index call event, input.2 = .serve index → session.calls[index]? = some call →
    postedEvent input.1 session call = some event → EventBacked session event

theorem disconnecting_rows : ∀ entry ∈ clientStateTable, entry.nextState = .stDisc →
    entry.action.any ClientAction.settles = false ∧
      (entry.prevState = .stDisc → cancels entry = false) := by
  decide

section

variable {msg answers : Option AuthMsg}

theorem act_fields {action : ClientAction} (settles : action.settles = false) :
    (act config callbacks msg answers action session).state = session.state ∧
      (act config callbacks msg answers action session).running = session.running ∧
      (act config callbacks msg answers action session).timers =
        if action.cancels then fun _ => none else session.timers := by
  cases action with
  | txSsar | rxSsa => cases msg <;> exact ⟨by simp [act, AuthSession.msgIdRxMessage],
      by simp [act, AuthSession.msgIdRxMessage],
      by simp [act, AuthSession.msgIdRxMessage, ClientAction.cancels]⟩
  | grantAccess | sessionTimeout | cleanup | disconnect => cases settles
  | _ => simp [act, txStr, txAsa, txRaa, txAnswer, ClientAction.cancels, AuthSession.cancelAllTimer]

theorem act_state (action : ClientAction) :
    (act config callbacks msg answers action session).state = session.state := by
  cases action with
  | txSsar | rxSsa => cases msg <;> simp [act, AuthSession.msgIdRxMessage]
  | grantAccess =>
    simp only [act, grantAccess]
    split
    · rfl
    · split <;> rfl
  | sessionTimeout | cleanup | disconnect => rfl
  | _ => simp [act, txStr, txAsa, txRaa, txAnswer, AuthSession.cancelAllTimer]

theorem take_fields (config : AuthConfig) (callbacks : AuthCallbacks) (session : AuthSession)
    (msg answers : Option AuthMsg) {entry : StateTableEntry AuthState AuthEvent ClientAction}
    (settles : entry.action.any ClientAction.settles = false) :
    (session.take (act config callbacks msg answers) entry).running = session.running ∧
      (session.take (act config callbacks msg answers) entry).timers =
        if cancels entry then fun _ => none else session.timers := by
  rw [AuthSession.take, cancels]
  cases isAction : entry.action with
  | none => exact ⟨rfl, rfl⟩
  | some action =>
    rw [isAction] at settles
    exact (act_fields settles).2

theorem take_state (entry : StateTableEntry AuthState AuthEvent ClientAction) :
    (session.take (act config callbacks msg answers) entry).state = entry.nextState := by
  rw [AuthSession.take]
  cases entry.action with
  | none => rfl
  | some action => exact act_state action

/-- Whether the client is guarded after an event is whether it was backed in it. -/
theorem guarded_process_iff (guarded : session.Guarded timeouts) (event : AuthEvent) :
    (process config callbacks session event msg answers).Guarded timeouts ↔
      EventBacked session event := by
  by_cases running : session.running = true
  · cases found : clientStateTable.find session.state event with
    | none =>
      rw [process, AuthSession.process_of_none found]
      constructor
      · intro _ _ _ entry isFound
        cases found.symm.trans isFound
      · exact fun _ => guarded
    | some entry =>
      rw [process, AuthSession.process_of_find running found]
      have member := (StateTable.find_sound found).1
      have isPrev := (StateTable.find_sound found).2.1
      by_cases disc : entry.nextState = .stDisc
      · have row := disconnecting_rows entry member disc
        have fields := take_fields config callbacks session msg answers row.1
        by_cases was : session.state = .stDisc
        · rw [row.2 (isPrev.trans was)] at fields
          constructor
          · exact fun _ _ isNot => absurd was isNot
          · intro _ _
            exact (AuthSession.TimerBehind.of_timers fields.2).mpr (guarded was)
        · constructor
          · intro after _ _ other isFound _
            cases found.symm.trans isFound
            have behind := after ((take_state entry).trans disc)
            cases keeps : cancels entry with
            | true =>
              rw [keeps] at fields
              exact absurd behind (AuthSession.not_timerBehind fun type => by rw [fields.2]; rfl)
            | false =>
              rw [keeps] at fields
              exact ⟨rfl, (AuthSession.TimerBehind.of_timers fields.2).mp behind⟩
          · intro backed _
            have before := backed running was entry found disc
            rw [before.1] at fields
            exact (AuthSession.TimerBehind.of_timers fields.2).mpr before.2
      · constructor
        · intro _ _ _ other isFound isDisc
          cases found.symm.trans isFound
          exact absurd isDisc disc
        · intro _ isDisc
          rw [take_state] at isDisc
          exact absurd isDisc disc
  · have stopped : session.running = false := by simpa using running
    rw [process, AuthSession.process_of_stopped stopped]
    constructor
    · exact fun _ runs => absurd runs running
    · exact fun _ => guarded

end

theorem guarded_serve_iff (guarded : session.Guarded timeouts) (call : AuthCall) :
    (serve config callbacks session call).Guarded timeouts ↔
      ∀ event, postedEvent callbacks session call = some event → EventBacked session event := by
  cases call with
  | notify event msg answers =>
    rw [serve, guarded_process_iff guarded]
    simp [postedEvent]
  | delivered msg =>
    rw [serve, postedEvent]
    cases posted : deliveredEvent callbacks session.attributes msg with
    | none => simpa using guarded
    | some event =>
      rw [guarded_process_iff guarded]
      simp

theorem same_rxRequest (msg : AuthMsg) :
    AuthSession.SameMachine (rxRequest callbacks session msg) session := by
  unfold rxRequest
  split
  · exact ⟨rfl, rfl, rfl⟩
  · split
    · exact ⟨rfl, rfl, rfl⟩
    · split
      · dsimp only
        split <;> exact ⟨rfl, rfl, rfl⟩
      · exact ⟨rfl, rfl, rfl⟩

theorem same_rxAnswer (msg : AuthMsg) :
    AuthSession.SameMachine (rxAnswer session msg) session := by
  unfold rxAnswer
  split
  · split <;> exact ⟨rfl, rfl, rfl⟩
  · split <;> exact ⟨rfl, rfl, rfl⟩

theorem same_send (msg : AuthMsg) (answers : Option AuthMsg) :
    AuthSession.SameMachine (send session msg answers) session := by
  unfold send
  split <;> exact ⟨rfl, rfl, rfl⟩

/-- A client that begins anew is in another state. -/
theorem guarded_begin (guarded : session.Guarded timeouts) (optionValue : Option Octets) :
    (begin config callbacks session optionValue).Guarded timeouts := by
  intro disc
  by_cases running : session.running = true
  · cases starts : callbacks.reStart with
    | true =>
      simp only [begin, running, starts, if_true] at disc ⊢
      exact guarded disc
    | false =>
      simp only [begin, running, starts, if_true] at disc ⊢
      exact guarded disc
  · cases starts : callbacks.reStart <;> simp [begin, running, starts, AuthSession.stop,
      AuthSession.notify] at disc

/-- Whether the client is guarded after a step is whether it was backed in it. -/
theorem guarded_next_iff (guarded : session.Guarded timeouts) {input : AuthInput}
    (step : AuthClient.next config callbacks session input = some next) :
    next.Guarded timeouts ↔ Backed session (callbacks, input) := by
  have unserved : (∀ index, input ≠ .serve index) → next.Guarded timeouts →
      (next.Guarded timeouts ↔ Backed session (callbacks, input)) := by
    intro isOther after
    exact ⟨fun _ index _ _ isServe => absurd isServe (isOther index), fun _ => after⟩
  cases input with
  | serve index =>
    rw [AuthClient.next, Option.map_eq_some_iff] at step
    rcases step with ⟨call, isCall, rfl⟩
    have left : AuthSession.Guarded timeouts
        { session with calls := session.calls.eraseIdx index } :=
      guarded.of_same ⟨rfl, rfl, rfl⟩
    rw [guarded_serve_iff left]
    constructor
    · intro backed other same event isServe isSame posted
      cases isServe
      cases isCall.symm.trans isSame
      exact backed event posted
    · intro backed event posted
      exact backed index call event rfl isCall posted
  | rxRequest msg =>
    apply unserved (by simp)
    simp only [AuthClient.next] at step
    split at step
    · cases step
      exact guarded.of_same (same_rxRequest msg)
    · cases step
  | rxAnswer msg =>
    apply unserved (by simp)
    simp only [AuthClient.next] at step
    split at step
    · cases step
    · cases step
      exact guarded.of_same (same_rxAnswer msg)
  | send msg answers =>
    cases step
    exact unserved (by simp) (guarded.of_same (same_send msg answers))
  | begin optionValue =>
    cases step
    exact unserved (by simp) (guarded_begin guarded optionValue)
  | reAuth type => cases step
  | finish =>
    apply unserved (by simp)
    simp only [AuthClient.next] at step
    split at step <;> cases step <;> exact guarded.of_same ⟨rfl, rfl, rfl⟩
  | timeout type =>
    rw [AuthClient.next, Option.map_eq_some_iff] at step
    rcases step with ⟨timer, _, rfl⟩
    exact unserved (by simp) (guarded.of_same ⟨rfl, rfl, rfl⟩)

end AuthClient

namespace AuthServer

variable {config : AuthConfig} {callbacks : AuthCallbacks} {session next : AuthSession}

/-- The timers that take a server out of the state, or let it try again. -/
def timeouts : List AuthEvent :=
  [.txAsrFail, .sessionToutSt, .lifetimeTout]

/-- Nothing brings an ASA to a running session. -/
structure Quiet (session : AuthSession) : Prop where
  asrSent : session.running = true → session.asrSent = false
  calls : session.running = true → ∀ msg answers,
    AuthCall.notify .rxAsaOk msg answers ∉ session.calls
  timers : ∀ type timer, session.timers type = some timer → timer.event ≠ .rxAsaOk

theorem Quiet.of_timers (quiet : Quiet session) {timers : TimerType → Option Timer}
    (events : ∀ type timer, timers type = some timer → timer.event ≠ .rxAsaOk) :
    Quiet { session with timers } where
  asrSent := quiet.asrSent
  calls := quiet.calls
  timers := events

theorem Quiet.scheduleTimer (quiet : Quiet session) {event : AuthEvent}
    (other : event ≠ .rxAsaOk) (seconds : UInt32) (type : TimerType) :
    Quiet (session.scheduleTimer event seconds type) := by
  apply quiet.of_timers
  intro place timer armed
  by_cases here : place = type
  · rw [here, Function.update_self] at armed
    cases armed
    exact other
  · rw [Function.update_of_ne here] at armed
    exact quiet.timers place timer armed

theorem Quiet.cancelTimer (quiet : Quiet session) (type : TimerType) :
    Quiet (session.cancelTimer type) := by
  apply quiet.of_timers
  intro place timer armed
  by_cases here : place = type
  · rw [here, Function.update_self] at armed
    cases armed
  · rw [Function.update_of_ne here] at armed
    exact quiet.timers place timer armed

theorem Quiet.cancelAllTimer (quiet : Quiet session) : Quiet session.cancelAllTimer :=
  quiet.of_timers fun _ _ armed => by cases armed

theorem Quiet.txDelivery (quiet : Quiet session) (msg : AuthMsg) (answers : Option AuthMsg) :
    Quiet (AuthServer.txDelivery config callbacks session msg answers).1 where
  asrSent := by simpa using quiet.asrSent
  calls := by simpa using quiet.calls
  timers := by simpa using quiet.timers

theorem Quiet.reset (quiet : Quiet session) : Quiet (AuthServer.reset session) where
  asrSent runs := by cases runs
  calls runs := by cases runs
  timers := quiet.timers

/-- The ASR that the session sends on entering the state is not taken by the router. -/
def Unsent (config : AuthConfig) (callbacks : AuthCallbacks) (session : AuthSession) : Prop :=
  (AuthServer.txDelivery config callbacks session (abortRequest config session) none).2 = false

/-- An event that makes the server send its ASR finds a router that does not take it. -/
def EventBacked (config : AuthConfig) (callbacks : AuthCallbacks) (session : AuthSession)
    (event : AuthEvent) : Prop :=
  session.running = true → ∀ entry, serverStateTable.find session.state event = some entry →
    entry.action = some .txAsr →
      Unsent config callbacks { session with state := entry.nextState }.cancelAllTimer

def postedEvent (callbacks : AuthCallbacks) (session : AuthSession) : AuthCall → Option AuthEvent
  | .notify event _ _ => some event
  | .delivered msg =>
    if session.attributes.stateMaintained then some (deliveredEvent callbacks msg) else none

def Backed (config : AuthConfig) (session : AuthSession) (input : AuthCallbacks × AuthInput) :
    Prop :=
  ∀ index call event, input.2 = .serve index → session.calls[index]? = some call →
    postedEvent input.1 session call = some event → EventBacked config input.1 session event

theorem disconnecting_rows : ∀ entry ∈ serverStateTable, entry.nextState = .stDisc →
    entry.action = some .txAsr ∨ entry.event = some .rxAsaOk ∨
      entry.prevState = .stDisc ∧
        (entry.action = none ∨ entry.action = some .txSsaaDiscard ∨
          entry.action = some .rxSsarDiscard) := by
  decide

theorem asr_rows : ∀ entry ∈ serverStateTable, entry.action = some .txAsr →
    entry.nextState = .stDisc := by
  decide

theorem txAsr_of_unsent (unsent : Unsent config callbacks session) :
    txAsr config callbacks session =
      (AuthServer.txDelivery config callbacks session (abortRequest config session)
        none).1.scheduleTimer .txAsrFail config.abortRetryTm .asr := by
  rw [Unsent] at unsent
  rw [txAsr]
  dsimp only
  rw [unsent]
  rfl

theorem txAsr_of_sent (sent : ¬ Unsent config callbacks session) :
    txAsr config callbacks session =
      { (AuthServer.txDelivery config callbacks session (abortRequest config session) none).1 with
        asrSent := true } := by
  rw [Unsent, Bool.not_eq_false] at sent
  rw [txAsr]
  dsimp only
  rw [sent]
  rfl

@[simp] theorem state_txAsr : (txAsr config callbacks session).state = session.state := by
  by_cases unsent : Unsent config callbacks session
  · rw [txAsr_of_unsent unsent]
    exact state_txDelivery ..
  · rw [txAsr_of_sent unsent]
    exact state_txDelivery ..

section

variable {msg answers : Option AuthMsg}

theorem act_state (action : ServerAction) :
    (act config callbacks msg answers action session).state = session.state := by
  cases action with
  | rxSsa => cases msg <;> rfl
  | txSsa =>
    cases msg with
    | none => rfl
    | some msg =>
      simp only [act, extendAccess]
      split
      · exact state_txDelivery ..
      · split <;> exact state_txDelivery ..
  | txAsr => exact state_txAsr
  | txRar =>
    simp only [act]
    split
    · rfl
    · exact state_txDelivery ..
  | txStaCleanup | txStaCleanupIdle => exact state_txDelivery ..
  | sessionReclaim =>
    simp only [act]
    split <;> rfl
  | _ => rfl

theorem Quiet.act (quiet : Quiet session) {action : ServerAction}
    (unsent : action = .txAsr → Unsent config callbacks session.cancelAllTimer) :
    Quiet (AuthServer.act config callbacks msg answers action session) := by
  cases action with
  | rxSsarDiscard | txSsaaDiscard | rxRaa => exact quiet
  | rxSsa =>
    cases msg with
    | none => exact quiet
    | some msg =>
      constructor
      · exact quiet.asrSent
      · intro runs posted answers member
        cases List.mem_append.mp member with
        | inl before => exact quiet.calls runs posted answers before
        | inr new => simp at new
      · exact quiet.timers
  | txSsa =>
    cases msg with
    | none => exact quiet
    | some msg =>
      simp only [AuthServer.act, extendAccess]
      split
      · exact quiet.txDelivery msg answers
      · have sent : Quiet (AuthServer.txDelivery config callbacks session msg answers).1 :=
          quiet.txDelivery msg answers
        have cancelled := sent.cancelAllTimer
        split
        · exact cancelled.scheduleTimer (by decide) _ _
        · exact cancelled.scheduleTimer (by decide) _ _
  | grantAccess =>
    exact (quiet.cancelAllTimer.scheduleTimer (by decide) _ _).scheduleTimer (by decide) _ _
  | txAsr =>
    simp only [AuthServer.act]
    rw [txAsr_of_unsent (unsent rfl)]
    exact (quiet.cancelAllTimer.txDelivery _ _).scheduleTimer (by decide) _ _
  | txRar =>
    simp only [AuthServer.act]
    split
    · exact quiet
    · exact quiet.txDelivery _ _
  | txStaCleanup | txStaCleanupIdle => exact (quiet.cancelAllTimer.txDelivery _ _).reset
  | rxAsa => exact quiet.cancelTimer _
  | authTimeout | sessionTimeout | cleanup => exact quiet.cancelAllTimer.reset
  | sessionReclaim =>
    simp only [AuthServer.act]
    split
    · exact quiet.cancelAllTimer.reset
    · exact quiet.cancelAllTimer.scheduleTimer (by decide) _ _

theorem take_state (entry : StateTableEntry AuthState AuthEvent ServerAction) :
    (session.take (act config callbacks msg answers) entry).state = entry.nextState := by
  rw [AuthSession.take]
  cases entry.action with
  | none => rfl
  | some action => exact act_state action

/-- Whether the server is guarded after it has sent its ASR is whether it could not. -/
theorem guarded_txAsr_iff (config : AuthConfig) (callbacks : AuthCallbacks)
    (session : AuthSession) (disc : session.state = .stDisc) :
    (txAsr config callbacks session.cancelAllTimer).Guarded timeouts ↔
      Unsent config callbacks session.cancelAllTimer := by
  constructor
  · intro guarded
    apply Classical.byContradiction
    intro sent
    have behind := guarded (state_txAsr.trans disc)
    have cancelled : ∀ type, (txAsr config callbacks session.cancelAllTimer).timers type = none := by
      intro type
      rw [txAsr_of_sent sent]
      dsimp only
      rw [timers_txDelivery]
      rfl
    exact AuthSession.not_timerBehind cancelled behind
  · intro unsent _
    refine ⟨.asr, ⟨.txAsrFail, config.abortRetryTm⟩, ?_, List.mem_cons_self⟩
    rw [txAsr_of_unsent unsent]
    simp [AuthSession.scheduleTimer]

/-- Whether the server is guarded after an event is whether it was backed in it. -/
theorem guarded_process_iff (guarded : session.Guarded timeouts) {event : AuthEvent}
    (noAsa : session.running = true → event ≠ .rxAsaOk) :
    (process config callbacks session event msg answers).Guarded timeouts ↔
      EventBacked config callbacks session event := by
  by_cases running : session.running = true
  · cases found : serverStateTable.find session.state event with
    | none =>
      rw [process, AuthSession.process_of_none found]
      constructor
      · intro _ _ entry isFound
        cases found.symm.trans isFound
      · exact fun _ => guarded
    | some entry =>
      rw [process, AuthSession.process_of_find running found]
      have member := (StateTable.find_sound found).1
      have serves := (StateTable.find_sound found).2
      by_cases sends : entry.action = some .txAsr
      · have disc := asr_rows entry member sends
        have enters : session.take (act config callbacks msg answers) entry =
            txAsr config callbacks { session with state := entry.nextState }.cancelAllTimer := by
          rw [AuthSession.take, sends]
          rfl
        rw [enters, guarded_txAsr_iff config callbacks { session with state := entry.nextState }
          disc]
        constructor
        · intro unsent _ other isFound _
          cases found.symm.trans isFound
          exact unsent
        · exact fun backed => backed running entry found sends
      · constructor
        · intro _ _ other isFound isSending
          cases found.symm.trans isFound
          exact absurd isSending sends
        · intro _ disc
          rw [take_state] at disc
          rcases disconnecting_rows entry member disc with isSending | isAsa | ⟨was, quiet⟩
          · exact absurd isSending sends
          · exact absurd (serves.2 _ isAsa).symm (noAsa running)
          · have behind := guarded (serves.1.symm.trans was)
            rcases quiet with action | action | action
            all_goals
              rw [AuthSession.take, action]
              exact behind
  · have stopped : session.running = false := by simpa using running
    rw [process, AuthSession.process_of_stopped stopped]
    constructor
    · exact fun _ runs => absurd runs running
    · exact fun _ => guarded

theorem Quiet.process (quiet : Quiet session) {event : AuthEvent}
    (backed : EventBacked config callbacks session event) :
    Quiet (AuthServer.process config callbacks session event msg answers) := by
  by_cases running : session.running = true
  · cases found : serverStateTable.find session.state event with
    | none =>
      rw [AuthServer.process, AuthSession.process_of_none found]
      exact quiet
    | some entry =>
      rw [AuthServer.process, AuthSession.process_of_find running found, AuthSession.take]
      have entered : Quiet { session with state := entry.nextState } :=
        ⟨quiet.asrSent, quiet.calls, quiet.timers⟩
      cases isAction : entry.action with
      | none => exact entered
      | some action =>
        apply entered.act
        intro sends
        subst sends
        exact backed running entry found isAction
  · have stopped : session.running = false := by simpa using running
    rw [AuthServer.process, AuthSession.process_of_stopped stopped]
    exact quiet

end

theorem guarded_serve_iff (guarded : session.Guarded timeouts) (call : AuthCall)
    (noAsa : session.running = true → ∀ event, postedEvent callbacks session call = some event →
      event ≠ .rxAsaOk) :
    (serve config callbacks session call).Guarded timeouts ↔
      ∀ event, postedEvent callbacks session call = some event →
        EventBacked config callbacks session event := by
  cases call with
  | notify event msg answers =>
    rw [serve, guarded_process_iff guarded fun runs => noAsa runs event rfl]
    simp [postedEvent]
  | delivered msg =>
    rw [serve]
    split
    · rename_i maintained
      have posted : postedEvent callbacks session (.delivered msg) =
          some (deliveredEvent callbacks msg) := if_pos maintained
      rw [guarded_process_iff guarded fun runs => noAsa runs _ posted, posted]
      simp
    · rename_i stateless
      have posted : postedEvent callbacks session (.delivered msg) = none := if_neg stateless
      rw [posted]
      simpa using guarded

theorem Quiet.serve (quiet : Quiet session) {call : AuthCall}
    (backed : ∀ event, postedEvent callbacks session call = some event →
      EventBacked config callbacks session event) :
    Quiet (AuthServer.serve config callbacks session call) := by
  cases call with
  | notify event msg answers => exact quiet.process (backed event rfl)
  | delivered msg =>
    rw [AuthServer.serve]
    split
    · rename_i maintained
      exact quiet.process (backed _ (if_pos maintained))
    · exact quiet

theorem Quiet.notify (quiet : Quiet session) {event : AuthEvent} (other : event ≠ .rxAsaOk)
    (msg answers : Option AuthMsg) : Quiet (session.notify event msg answers) where
  asrSent := quiet.asrSent
  calls := by
    intro runs posted answered member
    cases List.mem_append.mp member with
    | inl before => exact quiet.calls runs posted answered before
    | inr new =>
      cases List.mem_singleton.mp new
      exact other rfl
  timers := quiet.timers

theorem Quiet.of_attributes (quiet : Quiet session) (attributes : AuthAttributes)
    (recorded : List AuthMsg) : Quiet { session with attributes, recorded } :=
  ⟨quiet.asrSent, quiet.calls, quiet.timers⟩

theorem Quiet.rxRequest (quiet : Quiet session) (msg : AuthMsg) :
    Quiet (AuthServer.rxRequest config callbacks session msg) := by
  unfold AuthServer.rxRequest
  dsimp only
  split
  · exact quiet
  · split
    · exact (quiet.of_attributes _ _).notify (by decide) _ _
    · split
      · exact quiet.of_attributes _ _
      · exact (quiet.of_attributes _ _).notify (by decide) _ _

/-- An ASA is passed on to a session that has sent an ASR only. -/
theorem Quiet.rxAnswer (quiet : Quiet session) (msg : AuthMsg) :
    Quiet (AuthServer.rxAnswer session msg) := by
  unfold AuthServer.rxAnswer
  split
  · split
    · rename_i sent
      have stopped : ¬ session.running = true := by
        intro runs
        rw [quiet.asrSent runs] at sent
        cases sent
      exact ⟨fun runs => absurd runs stopped, fun runs => absurd runs stopped, quiet.timers⟩
    · exact quiet
  · split
    · exact quiet
    · split
      · dsimp only
        split
        · exact (quiet.of_attributes _ _).notify (by decide) _ _
        · exact quiet.of_attributes _ _
      · exact quiet.notify (by decide) _ _

theorem same_rxRequest (msg : AuthMsg) :
    AuthSession.SameMachine (rxRequest config callbacks session msg) session := by
  unfold rxRequest
  dsimp only
  split
  · exact ⟨rfl, rfl, rfl⟩
  · split
    · exact ⟨rfl, rfl, rfl⟩
    · split <;> exact ⟨rfl, rfl, rfl⟩

theorem same_rxAnswer (msg : AuthMsg) :
    AuthSession.SameMachine (rxAnswer session msg) session := by
  unfold rxAnswer
  split
  · split <;> exact ⟨rfl, rfl, rfl⟩
  · split
    · exact ⟨rfl, rfl, rfl⟩
    · split
      · dsimp only
        split <;> exact ⟨rfl, rfl, rfl⟩
      · exact ⟨rfl, rfl, rfl⟩

theorem Quiet.left (quiet : Quiet session) (index : Nat) :
    Quiet { session with calls := session.calls.eraseIdx index } where
  asrSent := quiet.asrSent
  calls runs msg answers member := quiet.calls runs msg answers (List.mem_of_mem_eraseIdx member)
  timers := quiet.timers

/-- A server that was backed in every step before is quiet, and whether it is guarded after a
step is whether it was backed in it. -/
theorem guarded_next_iff (guarded : session.Guarded timeouts) (quiet : Quiet session)
    {input : AuthInput}
    (step : AuthServer.next config callbacks session input = some next) :
    (next.Guarded timeouts ↔ Backed config session (callbacks, input)) ∧
      (Backed config session (callbacks, input) → Quiet next) := by
  have unserved : (∀ index, input ≠ .serve index) → Quiet next →
      AuthSession.SameMachine next session →
        (next.Guarded timeouts ↔ Backed config session (callbacks, input)) ∧
          (Backed config session (callbacks, input) → Quiet next) := by
    intro isOther after same
    refine ⟨⟨?_, fun _ => guarded.of_same same⟩, fun _ => after⟩
    intro _ index _ _ isServe
    exact absurd isServe (isOther index)
  cases input with
  | serve index =>
    rw [AuthServer.next, Option.map_eq_some_iff] at step
    rcases step with ⟨call, isCall, rfl⟩
    have left : AuthSession.Guarded timeouts
        { session with calls := session.calls.eraseIdx index } :=
      guarded.of_same ⟨rfl, rfl, rfl⟩
    have noAsa : session.running = true → ∀ event, postedEvent callbacks session call =
        some event → event ≠ .rxAsaOk := by
      intro runs event posted
      cases call with
      | notify own msg answers =>
        cases posted
        intro isAsa
        subst isAsa
        exact quiet.calls runs msg answers (List.mem_of_getElem? isCall)
      | delivered msg =>
        rw [postedEvent] at posted
        split at posted
        · cases posted
          unfold deliveredEvent
          split <;> decide
        · cases posted
    have backed : Backed config session (callbacks, .serve index) ↔
        ∀ event, postedEvent callbacks session call = some event →
          EventBacked config callbacks session event := by
      constructor
      · intro backed event posted
        exact backed index call event rfl isCall posted
      · intro backed other same event isServe isSame posted
        cases isServe
        cases isCall.symm.trans isSame
        exact backed event posted
    rw [backed]
    exact ⟨guarded_serve_iff left call noAsa, fun backed => (quiet.left index).serve backed⟩
  | rxRequest msg =>
    simp only [AuthServer.next] at step
    split at step
    · cases step
      exact unserved (by simp) (quiet.rxRequest msg) (same_rxRequest msg)
    · cases step
  | rxAnswer msg =>
    simp only [AuthServer.next] at step
    split at step
    · cases step
    · cases step
      exact unserved (by simp) (quiet.rxAnswer msg) (same_rxAnswer msg)
  | send msg answers =>
    simp only [AuthServer.next] at step
    split at step <;> cases step
    · refine unserved (by simp) (quiet.notify ?_ _ _) ⟨rfl, rfl, rfl⟩
      split <;> decide
    · exact unserved (by simp) quiet ⟨rfl, rfl, rfl⟩
  | begin optionValue => cases step
  | reAuth type =>
    simp only [AuthServer.next] at step
    split at step <;> cases step
    · exact unserved (by simp) ((quiet.of_attributes _ _).notify (by decide) _ _)
        ⟨rfl, rfl, rfl⟩
    · exact unserved (by simp) quiet ⟨rfl, rfl, rfl⟩
  | finish =>
    simp only [AuthServer.next] at step
    split at step <;> cases step
    · exact unserved (by simp) (quiet.notify (by decide) _ _) ⟨rfl, rfl, rfl⟩
    · exact unserved (by simp) quiet ⟨rfl, rfl, rfl⟩
  | timeout type =>
    rw [AuthServer.next, Option.map_eq_some_iff] at step
    rcases step with ⟨timer, armed, rfl⟩
    exact unserved (by simp) (quiet.notify (quiet.timers type timer armed) _ _)
      ⟨rfl, rfl, rfl⟩

end AuthServer

/-- What a client or a server does on an input, with what its callbacks answer in it. -/
def AuthClient.Step (config : AuthConfig) (session : AuthSession)
    (input : AuthCallbacks × AuthInput) (after : AuthSession) : Prop :=
  AuthClient.next config input.1 session input.2 = some after

def AuthServer.Step (config : AuthConfig) (session : AuthSession)
    (input : AuthCallbacks × AuthInput) (after : AuthSession) : Prop :=
  AuthServer.next config input.1 session input.2 = some after

def AuthClient.Started (config : AuthConfig) (session : AuthSession) : Prop :=
  ∃ applicationId, session = AuthClient.initial config applicationId

def AuthServer.Started (config : AuthConfig) (session : AuthSession) : Prop :=
  ∃ applicationId, session = AuthServer.initial config applicationId

section

variable {config : AuthConfig} {session : AuthSession}

theorem AuthClient.guarded_of_reached
    (reached : Reached (AuthClient.Started config) (AuthClient.Step config) AuthClient.Backed
      session) :
    session.Guarded AuthClient.timeouts := by
  apply reached.invariant (AuthSession.Guarded AuthClient.timeouts)
  · rintro _ ⟨applicationId, rfl⟩ disc
    cases disc
  · intro session input next guarded step backed
    exact (AuthClient.guarded_next_iff guarded step).mpr backed

theorem AuthServer.guarded_of_reached
    (reached : Reached (AuthServer.Started config) (AuthServer.Step config)
      (AuthServer.Backed config) session) :
    session.Guarded AuthServer.timeouts ∧ AuthServer.Quiet session := by
  apply reached.invariant fun session =>
    session.Guarded AuthServer.timeouts ∧ AuthServer.Quiet session
  · rintro _ ⟨applicationId, rfl⟩
    constructor
    · intro disc
      cases disc
    · constructor
      · exact fun _ => rfl
      · exact fun _ _ _ member => by cases member
      · exact fun _ _ armed => by cases armed
  · intro session input next invariant step backed
    have kept := AuthServer.guarded_next_iff invariant.1 invariant.2 step
    exact ⟨kept.1.mpr backed, kept.2 backed⟩

end

/-- A session whose timers were not cancelled on the way into the state is not stuck in it, and
one that gets there without them is. -/
theorem disconnection_guarded (config : AuthConfig) :
    (∀ session, Reached (AuthClient.Started config) (AuthClient.Step config) AuthClient.Backed
        session →
      session.Guarded AuthClient.timeouts ∧
        ∀ input next, AuthClient.Step config session input next →
          (next.Guarded AuthClient.timeouts ↔ AuthClient.Backed session input)) ∧
      ∀ session, Reached (AuthServer.Started config) (AuthServer.Step config)
          (AuthServer.Backed config) session →
        session.Guarded AuthServer.timeouts ∧
          ∀ input next, AuthServer.Step config session input next →
            (next.Guarded AuthServer.timeouts ↔ AuthServer.Backed config session input) := by
  constructor
  · intro session reached
    have guarded := AuthClient.guarded_of_reached reached
    refine ⟨guarded, ?_⟩
    intro input next step
    exact AuthClient.guarded_next_iff guarded step
  · intro session reached
    have invariant := AuthServer.guarded_of_reached reached
    refine ⟨invariant.1, ?_⟩
    intro input next step
    exact (AuthServer.guarded_next_iff invariant.1 invariant.2 step).1

section

/-- A server that keeps its state, with timers of a minute. -/
def minuteConfig : AuthConfig where
  identity := []
  realm := []
  stateful := sessionStateMaintained
  sessionTm := 60
  lifetimeTm := 30
  graceTm := 10
  abortRetryTm := 20

/-- An application that grants access, over a router that takes what it can. -/
def grantingCallbacks (routed : Bool) : AuthCallbacks where
  setSessionTimeout _ := none
  setAuthLifetimeTimeout _ := none
  setAuthGracePeriodTimeout := none
  setAuthSessionState _ := none
  setDestinationHost := none
  setDestinationRealm := none
  setUsername := none
  reStart := true
  processMsg _ := .success
  abortSession := true
  reClaimSession := true
  reAuthenticate _ := success
  routed _ := routed
  hopByHop := 1
  endToEnd := 1
  sessionCounter := ⟨0, 0⟩

def accessRequest : AuthMsg where
  request := true
  code := 265
  hh := 1
  ee := 1
  sessionId := some ⟨⟨[], []⟩, .nullCounter⟩

theorem AuthServer.backed_of_unserved {config : AuthConfig} {session : AuthSession}
    {callbacks : AuthCallbacks} {input : AuthInput} (unserved : ∀ index, input ≠ .serve index) :
    AuthServer.Backed config session (callbacks, input) :=
  fun index _ _ isServe => absurd isServe (unserved index)

theorem AuthServer.backed_of_row {config : AuthConfig} {session : AuthSession}
    {callbacks : AuthCallbacks} {index : Nat} {call : AuthCall} {event : AuthEvent}
    {entry : StateTableEntry AuthState AuthEvent ServerAction}
    (isCall : session.calls[index]? = some call)
    (posted : AuthServer.postedEvent callbacks session call = some event)
    (found : serverStateTable.find session.state event = some entry)
    (other : entry.action ≠ some .txAsr) :
    AuthServer.Backed config session (callbacks, .serve index) := by
  intro place same posts isServe isSame isPosted _ row isFound sends
  cases isServe
  cases isCall.symm.trans isSame
  cases posted.symm.trans isPosted
  cases found.symm.trans isFound
  exact absurd sends other

/-- A server that is open sends an ASR, which the router takes or not. -/
theorem AuthServer.aborted_reached (routed : Bool) :
    ∃ before after, Reached (AuthServer.Started minuteConfig) (AuthServer.Step minuteConfig)
        (AuthServer.Backed minuteConfig) before ∧
      AuthServer.Step minuteConfig before (grantingCallbacks routed, .serve 0) after ∧
        (routed = false →
          AuthServer.Backed minuteConfig before (grantingCallbacks routed, .serve 0)) ∧
        after.running = true ∧ after.state = .stDisc ∧ after.calls = [] ∧
          (routed = true → ∀ type, after.timers type = none) := by
  have started : Reached (AuthServer.Started minuteConfig) (AuthServer.Step minuteConfig)
      (AuthServer.Backed minuteConfig) (AuthServer.initial minuteConfig 1) := .start ⟨1, rfl⟩
  have received := started.after (grantingCallbacks routed, .rxRequest accessRequest) rfl
    (AuthServer.backed_of_unserved (by simp))
  have accessed := received.after (grantingCallbacks routed, .serve 0) rfl
    (AuthServer.backed_of_row rfl rfl rfl (by decide))
  have opened := accessed.after (grantingCallbacks routed, .serve 0) rfl
    (AuthServer.backed_of_row rfl rfl rfl (by decide))
  have finished := opened.after (grantingCallbacks routed, .finish) rfl
    (AuthServer.backed_of_unserved (by simp))
  refine ⟨_, _, finished, rfl, ?_, ?_⟩
  · rintro rfl index call event isServe isCall posted _ entry found _
    cases isServe
    cases isCall
    cases posted
    cases found
    rfl
  · cases routed with
    | false => exact ⟨rfl, rfl, rfl, fun isTrue => by cases isTrue⟩
    | true => exact ⟨rfl, rfl, rfl, fun _ type => by cases type <;> rfl⟩

theorem disconnection_guarded_unsent :
    ∃ session : AuthSession, session.running = true ∧ session.state = .stDisc ∧
      session.Guarded AuthServer.timeouts := by
  have ⟨before, after, reached, step, backed, running, disc, _⟩ :=
    AuthServer.aborted_reached false
  refine ⟨after, running, disc, ?_⟩
  exact (((disconnection_guarded minuteConfig).2 before reached).2 _ after step).mpr (backed rfl)

/-- The server waits for an ASA with no timer behind it. -/
theorem disconnection_stuck :
    ∃ session, Reached (AuthServer.Started minuteConfig) (AuthServer.Step minuteConfig)
        (fun _ _ => True) session ∧
      session.running = true ∧ session.state = .stDisc ∧ session.calls = [] ∧
        ∀ type, session.timers type = none := by
  have ⟨_, after, reached, step, _, running, disc, calls, timers⟩ :=
    AuthServer.aborted_reached true
  exact ⟨after, (reached.mono fun _ _ _ => trivial).step step trivial, running, disc, calls,
    timers rfl⟩

end

end OpenDiameter.Session
