import OpenDiameter.Session.AuthDisconnection

/-!
Which ids the answers of an authorization session leave with.
-/

namespace OpenDiameter.Session

open OpenDiameter.Foundation OpenDiameter.Framework OpenDiameter.Router

namespace AuthSession

/-- Each answer left with the ids of the request that it answers. -/
def Answered (session : AuthSession) : Prop :=
  ∀ delivery ∈ session.deliveries, delivery.msg.request = false →
    ∀ request, delivery.answers = some request → delivery.msg.ids = request.ids

/-- The ids of the request that was taken down last. -/
def lastRecorded (session : AuthSession) : MsgIds :=
  (session.recorded.head?.map AuthMsg.ids).getD ⟨0, 0⟩

def Noted (session : AuthSession) : Prop :=
  session.attributes.lastRx = session.lastRecorded

/-- The request that is answered is the one that was taken down last. -/
def InTurn (session : AuthSession) (answers : Option AuthMsg) : Prop :=
  ∀ request, answers = some request → request.ids = session.lastRecorded

theorem inTurn_of_last {session : AuthSession} {request : AuthMsg} {earlier : List AuthMsg}
    (last : session.recorded = request :: earlier) : session.InTurn (some request) := by
  intro _ answered
  cases answered
  rw [lastRecorded, last]
  rfl

/-- What a step does to the ids that are kept and to the answers that have left: they stay right
where the turn is kept. -/
structure Follows (turn : Prop) (next session : AuthSession) : Prop where
  noted : session.Noted → next.Noted
  answered_iff : session.Noted → (next.Answered ↔ session.Answered ∧ turn)

variable {turn : Prop} {session middle next : AuthSession}

theorem Follows.of_same (deliveries : next.deliveries = session.deliveries)
    (lastRx : next.attributes.lastRx = session.attributes.lastRx)
    (recorded : next.recorded = session.recorded) : Follows True next session where
  noted noted := by
    rw [Noted, lastRx, lastRecorded, recorded]
    exact noted
  answered_iff _ := by
    rw [Answered, deliveries, and_true]
    rfl

theorem Follows.trans (first : Follows True middle session) (second : Follows turn next middle) :
    Follows turn next session where
  noted noted := second.noted (first.noted noted)
  answered_iff noted := by
    rw [second.answered_iff (first.noted noted), first.answered_iff noted, and_true]

theorem Follows.trans_true (first : Follows turn middle session)
    (second : Follows True next middle) : Follows turn next session where
  noted noted := second.noted (first.noted noted)
  answered_iff noted := by
    rw [second.answered_iff (first.noted noted), and_true, first.answered_iff noted]

theorem Follows.of_iff {other : Prop} (follows : Follows turn next session)
    (same : turn ↔ other) : Follows other next session where
  noted := follows.noted
  answered_iff noted := by rw [follows.answered_iff noted, same]

theorem Follows.of_true (follows : Follows True next session) (holds : turn) :
    Follows turn next session :=
  follows.of_iff (iff_of_true trivial holds)

theorem follows_msgIdRxMessage (session : AuthSession) (msg : AuthMsg) :
    Follows True (session.msgIdRxMessage msg) session where
  noted noted := by
    rw [Noted, lastRecorded, AuthSession.msgIdRxMessage, AuthAttributes.msgIdRxMessage]
    cases isRequest : msg.request with
    | true => rfl
    | false => exact noted
  answered_iff _ := by
    rw [and_true]
    rfl

/-- A request is given ids of its own, an answer the ones that were taken down last. -/
theorem msgIdTxMessage_ids (callbacks : AuthCallbacks) (attributes : AuthAttributes)
    (msg : AuthMsg) :
    (attributes.msgIdTxMessage callbacks msg).1.lastRx = attributes.lastRx ∧
      (attributes.msgIdTxMessage callbacks msg).2.request = msg.request ∧
        (msg.request = false →
          (attributes.msgIdTxMessage callbacks msg).2.ids = attributes.lastRx) := by
  rw [AuthAttributes.msgIdTxMessage]
  cases isRequest : msg.request with
  | true => exact ⟨rfl, rfl, fun isAnswer => by cases isAnswer⟩
  | false => exact ⟨rfl, rfl, fun _ => rfl⟩

/-- A message that leaves keeps to its turn where it is an answer. -/
theorem Follows.of_sent {answers : Option AuthMsg} {msg : AuthMsg} {isRequest : Bool}
    (deliveries : next.deliveries = ⟨msg, answers⟩ :: session.deliveries)
    (lastRx : next.attributes.lastRx = session.attributes.lastRx)
    (recorded : next.recorded = session.recorded) (kind : msg.request = isRequest)
    (ids : isRequest = false → msg.ids = session.attributes.lastRx) :
    Follows (isRequest = false → session.InTurn answers) next session where
  noted noted := by
    rw [Noted, lastRx, lastRecorded, recorded]
    exact noted
  answered_iff noted := by
    rw [Answered, deliveries, List.forall_mem_cons, kind]
    constructor
    · intro both
      refine ⟨both.2, ?_⟩
      intro isAnswer request answered
      rw [← both.1 isAnswer request answered, ids isAnswer]
      exact noted
    · intro both
      refine ⟨?_, both.1⟩
      intro isAnswer request answered
      rw [ids isAnswer, both.2 isAnswer request answered]
      exact noted

theorem follows_txDelivery (config : AuthConfig) (callbacks : AuthCallbacks)
    (session : AuthSession) (msg : AuthMsg) (answers : Option AuthMsg) :
    Follows (msg.request = false → session.InTurn answers)
      (session.txDelivery config callbacks msg answers).1 session := by
  rw [AuthSession.txDelivery]
  dsimp only
  split
  · rename_i refused
    have isRequest : msg.request = true := by
      rw [Bool.and_eq_true] at refused
      exact refused.2
    apply Follows.of_iff (Follows.of_same ?_ ?_ ?_)
    · simp [isRequest]
    · rfl
    · rfl
    · rfl
  · refine .of_sent rfl (msgIdTxMessage_ids ..).1 rfl (msgIdTxMessage_ids ..).2.1 ?_
    intro isAnswer
    exact (msgIdTxMessage_ids ..).2.2 isAnswer

/-- An event that makes the session send an answer is for the request that was taken down last. -/
def EventInTurn {Action : Type} (table : StateTable AuthState AuthEvent Action)
    (sendsAnswer : Action → Bool) (session : AuthSession) (event : AuthEvent)
    (answers : Option AuthMsg) : Prop :=
  session.running = true → ∀ entry action, table.find session.state event = some entry →
    entry.action = some action → sendsAnswer action = true → session.InTurn answers

theorem follows_process {Action : Type} {table : StateTable AuthState AuthEvent Action}
    {act : Action → AuthSession → AuthSession} {sendsAnswer : Action → Bool}
    {answers : Option AuthMsg}
    (acts : ∀ action session, Follows (sendsAnswer action = true → session.InTurn answers)
      (act action session) session)
    (session : AuthSession) (event : AuthEvent) :
    Follows (EventInTurn table sendsAnswer session event answers)
      (session.process table act event) session := by
  by_cases running : session.running = true
  · cases found : table.find session.state event with
    | none =>
      rw [process_of_none found]
      refine Follows.of_true (.of_same rfl rfl rfl) ?_
      intro _ entry action isFound
      cases found.symm.trans isFound
    | some entry =>
      rw [process_of_find running found, take]
      have entered : Follows True { session with state := entry.nextState } session :=
        .of_same rfl rfl rfl
      cases isAction : entry.action with
      | none =>
        refine entered.of_true ?_
        intro _ other action isFound isOther
        cases found.symm.trans isFound
        cases isAction.symm.trans isOther
      | some action =>
        refine (entered.trans (acts action _)).of_iff ?_
        constructor
        · intro turn _ other same isFound isSame
          cases found.symm.trans isFound
          cases isAction.symm.trans isSame
          exact turn
        · intro turn
          exact turn running entry action found isAction
  · have stopped : session.running = false := by simpa using running
    rw [process_of_stopped stopped]
    exact Follows.of_true (.of_same rfl rfl rfl) fun runs => absurd runs running

/-- After the application has looked at a message no request is answered. -/
theorem eventInTurn_none {Action : Type} (table : StateTable AuthState AuthEvent Action)
    (sendsAnswer : Action → Bool) (session : AuthSession) (event : AuthEvent) :
    EventInTurn table sendsAnswer session event none := by
  intro _ _ _ _ _ _ request answered
  cases answered

/-- The call that is served, if any, keeps to its turn. -/
def ServedInTurn {Action : Type} (table : StateTable AuthState AuthEvent Action)
    (sendsAnswer : Option AuthMsg → Action → Bool) (session : AuthSession) (input : AuthInput) :
    Prop :=
  ∀ index event msg answers, input = .serve index →
    session.calls[index]? = some (.notify event msg answers) →
      EventInTurn table (sendsAnswer msg) session event answers

section

variable {Action : Type} {table : StateTable AuthState AuthEvent Action}
  {sendsAnswer : Option AuthMsg → Action → Bool} {input : AuthInput}

theorem servedInTurn_of_unserved (unserved : ∀ index, input ≠ .serve index) :
    ServedInTurn table sendsAnswer session input :=
  fun index _ _ _ isServe => absurd isServe (unserved index)

theorem servedInTurn_of_delivered {index : Nat} {msg : AuthMsg}
    (isCall : session.calls[index]? = some (.delivered msg)) :
    ServedInTurn table sendsAnswer session (.serve index) := by
  intro other event posted answered isServe isSame
  cases isServe
  cases isCall.symm.trans isSame

theorem servedInTurn_iff {index : Nat} {event : AuthEvent} {msg answers : Option AuthMsg}
    (isCall : session.calls[index]? = some (.notify event msg answers)) :
    ServedInTurn table sendsAnswer session (.serve index) ↔
      EventInTurn table (sendsAnswer msg) session event answers := by
  constructor
  · exact fun turn => turn index event msg answers rfl isCall
  · intro turn other own posted answered isServe isSame
    cases isServe
    cases isCall.symm.trans isSame
    exact turn

end

end AuthSession

/-- The action sends an answer, which is the message that was posted or one of its own. -/
def ClientAction.sendsAnswer (msg : Option AuthMsg) : ClientAction → Bool
  | .txSsar => msg.any fun msg => !msg.request
  | .rxRar | .txAsaSuccess | .txAsaTxStrSuccess | .txAsaFail => true
  | _ => false

def ServerAction.sendsAnswer (msg : Option AuthMsg) : ServerAction → Bool
  | .txSsa => msg.any fun msg => !msg.request
  | .txStaCleanup | .txStaCleanupIdle => true
  | _ => false

namespace AuthClient

variable {config : AuthConfig} {callbacks : AuthCallbacks} {session next : AuthSession}

open AuthSession

theorem follows_txStr (session : AuthSession) (cause : UInt32) :
    Follows True (txStr config callbacks session cause) session :=
  (follows_txDelivery ..).of_iff (by simp)

theorem follows_txAnswer (session : AuthSession) (code rcode : UInt32)
    (answers : Option AuthMsg) :
    Follows (session.InTurn answers) (txAnswer config callbacks session code rcode answers)
      session :=
  (follows_txDelivery ..).of_iff (by simp)

theorem follows_grantAccess (session : AuthSession) :
    Follows True (grantAccess session) session := by
  rw [grantAccess]
  split
  · exact .of_same rfl rfl rfl
  · split <;> exact .of_same rfl rfl rfl

theorem follows_act (msg answers : Option AuthMsg) (action : ClientAction)
    (session : AuthSession) :
    Follows (action.sendsAnswer msg = true → session.InTurn answers)
      (act config callbacks msg answers action session) session := by
  cases action with
  | txSsar =>
    cases msg with
    | none => exact (Follows.of_same rfl rfl rfl).of_true (by simp [ClientAction.sendsAnswer])
    | some msg => exact (follows_txDelivery ..).of_iff (by simp [ClientAction.sendsAnswer])
  | rxSsa =>
    refine Follows.of_true ?_ (by simp [ClientAction.sendsAnswer])
    cases msg with
    | none => exact .of_same rfl rfl rfl
    | some msg => exact (follows_msgIdRxMessage session msg).trans (.of_same rfl rfl rfl)
  | rxRar | txAsaSuccess | txAsaFail =>
    exact (follows_txAnswer ..).of_iff (by simp [ClientAction.sendsAnswer])
  | txAsaTxStrSuccess =>
    have sent : Follows (session.InTurn answers)
        (txAsa config callbacks session success answers) session := follows_txAnswer ..
    exact (sent.trans_true (follows_txStr _ _)).of_iff (by simp [ClientAction.sendsAnswer])
  | grantAccess =>
    exact (follows_grantAccess session).of_true (by simp [ClientAction.sendsAnswer])
  | txStrNoSvc | txStrProcError =>
    exact (follows_txStr session _).of_true (by simp [ClientAction.sendsAnswer])
  | sessionTimeoutState | authTimeout | userAbort =>
    have cancelled : Follows True session.cancelAllTimer session := .of_same rfl rfl rfl
    refine Follows.of_true ?_ (by simp [ClientAction.sendsAnswer])
    exact cancelled.trans (follows_txStr _ _)
  | txSsarDiscard | rxSsaaDiscard | sessionTimeout | cleanup | disconnect =>
    refine Follows.of_true (.of_same rfl rfl rfl) ?_
    simp [ClientAction.sendsAnswer]

def InTurn (session : AuthSession) (input : AuthCallbacks × AuthInput) : Prop :=
  session.ServedInTurn clientStateTable ClientAction.sendsAnswer input.2

theorem follows_rxRequest (msg : AuthMsg) :
    Follows True (rxRequest callbacks session msg) session := by
  unfold rxRequest
  split
  · exact (follows_msgIdRxMessage session msg).trans (.of_same rfl rfl rfl)
  · split
    · exact .of_same rfl rfl rfl
    · split
      · apply (follows_msgIdRxMessage session msg).trans
        dsimp only
        split <;> exact .of_same rfl rfl rfl
      · exact .of_same rfl rfl rfl

theorem follows_rxAnswer (msg : AuthMsg) :
    Follows True (rxAnswer session msg) session := by
  unfold rxAnswer
  split
  · split
    · exact (follows_msgIdRxMessage session msg).trans (.of_same rfl rfl rfl)
    · exact .of_same rfl rfl rfl
  · split <;> exact .of_same rfl rfl rfl

theorem follows_send (msg : AuthMsg) (answers : Option AuthMsg) :
    Follows True (send session msg answers) session := by
  unfold send
  split <;> exact .of_same rfl rfl rfl

theorem follows_begin (optionValue : Option Octets) :
    Follows True (begin config callbacks session optionValue) session := by
  cases starts : callbacks.reStart <;> by_cases running : session.running = true
  all_goals
    simp only [begin, starts, running]
    exact .of_same rfl rfl rfl

theorem follows_next {input : AuthInput}
    (step : AuthClient.next config callbacks session input = some next) :
    Follows (InTurn session (callbacks, input)) next session := by
  have unserved : (∀ index, input ≠ .serve index) → Follows True next session →
      Follows (InTurn session (callbacks, input)) next session := by
    intro isOther follows
    exact follows.of_true (servedInTurn_of_unserved isOther)
  cases input with
  | serve index =>
    rw [AuthClient.next, Option.map_eq_some_iff] at step
    rcases step with ⟨call, isCall, rfl⟩
    have taken : Follows True { session with calls := session.calls.eraseIdx index } session :=
      .of_same rfl rfl rfl
    cases call with
    | notify event msg answers =>
      apply (taken.trans (follows_process (follows_act msg answers) _ event)).of_iff
      exact (servedInTurn_iff isCall).symm
    | delivered msg =>
      refine Follows.of_true ?_ (servedInTurn_of_delivered isCall)
      rw [serve]
      split
      · exact taken
      · apply taken.trans
        apply (follows_process (follows_act none none) _ _).of_iff
        exact iff_of_true (eventInTurn_none _ _ _ _) trivial
  | rxRequest msg =>
    apply unserved (by simp)
    simp only [AuthClient.next] at step
    split at step <;> cases step
    exact follows_rxRequest msg
  | rxAnswer msg =>
    apply unserved (by simp)
    simp only [AuthClient.next] at step
    split at step <;> cases step
    exact follows_rxAnswer msg
  | send msg answers =>
    cases step
    exact unserved (by simp) (follows_send msg answers)
  | begin optionValue =>
    cases step
    exact unserved (by simp) (follows_begin optionValue)
  | reAuth type => cases step
  | finish =>
    apply unserved (by simp)
    simp only [AuthClient.next] at step
    split at step <;> cases step <;> exact .of_same rfl rfl rfl
  | timeout type =>
    rw [AuthClient.next, Option.map_eq_some_iff] at step
    rcases step with ⟨timer, _, rfl⟩
    exact unserved (by simp) (.of_same rfl rfl rfl)

end AuthClient

namespace AuthServer

variable {config : AuthConfig} {callbacks : AuthCallbacks} {session next : AuthSession}

open AuthSession

theorem follows_txDelivery (session : AuthSession) (msg : AuthMsg) (answers : Option AuthMsg) :
    Follows (msg.request = false → session.InTurn answers)
      (txDelivery config callbacks session msg answers).1 session := by
  rw [txDelivery_eq]
  have dictates : Follows True
      { session with attributes := dictated session.attributes msg } session :=
    .of_same rfl rfl rfl
  have sent := AuthSession.follows_txDelivery config callbacks
    { session with attributes := dictated session.attributes msg }
    (dictatedMsg session.attributes msg) answers
  exact dictates.trans sent

theorem follows_txSta (session : AuthSession) (rcode : UInt32) (answers : Option AuthMsg) :
    Follows (session.InTurn answers) (txSta config callbacks session rcode answers) session :=
  (follows_txDelivery ..).of_iff (by simp)

theorem follows_txAsr (session : AuthSession) :
    Follows True (txAsr config callbacks session) session := by
  have sent : Follows True
      (txDelivery config callbacks session (abortRequest config session) none).1 session :=
    (follows_txDelivery ..).of_iff (by simp [abortRequest])
  by_cases unsent : Unsent config callbacks session
  · rw [txAsr_of_unsent unsent]
    exact sent.trans (.of_same rfl rfl rfl)
  · rw [txAsr_of_sent unsent]
    exact sent.trans (.of_same rfl rfl rfl)

theorem follows_txRar (session : AuthSession) (reAuthType : UInt32) :
    Follows True (txRar config callbacks session reAuthType) session :=
  (follows_txDelivery ..).of_iff (by simp)

theorem follows_extendAccess (session : AuthSession) :
    Follows True (extendAccess session) session := by
  rw [extendAccess]
  split <;> exact .of_same rfl rfl rfl

theorem follows_act (msg answers : Option AuthMsg) (action : ServerAction)
    (session : AuthSession) :
    Follows (action.sendsAnswer msg = true → session.InTurn answers)
      (act config callbacks msg answers action session) session := by
  cases action with
  | rxSsa =>
    refine Follows.of_true ?_ (by simp [ServerAction.sendsAnswer])
    cases msg with
    | none => exact .of_same rfl rfl rfl
    | some msg => exact (follows_msgIdRxMessage session msg).trans (.of_same rfl rfl rfl)
  | txSsa =>
    cases msg with
    | none => exact (Follows.of_same rfl rfl rfl).of_true (by simp [ServerAction.sendsAnswer])
    | some msg =>
      have sent : Follows (msg.request = false → session.InTurn answers)
          (txDelivery config callbacks session msg answers).1 session :=
        follows_txDelivery ..
      have isAnswer : (ServerAction.txSsa.sendsAnswer (some msg) = true →
          session.InTurn answers) ↔ (msg.request = false → session.InTurn answers) := by
        simp [ServerAction.sendsAnswer]
      apply Follows.of_iff _ isAnswer.symm
      simp only [act]
      split
      · exact sent
      · exact sent.trans_true (follows_extendAccess _)
  | txAsr =>
    have cancelled : Follows True session.cancelAllTimer session := .of_same rfl rfl rfl
    refine Follows.of_true ?_ (by simp [ServerAction.sendsAnswer])
    exact cancelled.trans (follows_txAsr _)
  | txRar =>
    refine Follows.of_true ?_ (by simp [ServerAction.sendsAnswer])
    rw [act]
    split
    · exact .of_same rfl rfl rfl
    · exact follows_txRar _ _
  | txStaCleanup | txStaCleanupIdle =>
    have cancelled : Follows True session.cancelAllTimer session := .of_same rfl rfl rfl
    have sent : Follows (session.InTurn answers)
        (txSta config callbacks session.cancelAllTimer authorizationRejected answers) session :=
      cancelled.trans (follows_txSta session.cancelAllTimer _ answers)
    have reset : Follows (session.InTurn answers) (act config callbacks msg answers
        .txStaCleanup session) session :=
      sent.trans_true (.of_same rfl rfl rfl)
    exact reset.of_iff (by simp [ServerAction.sendsAnswer])
  | sessionReclaim =>
    refine Follows.of_true ?_ (by simp [ServerAction.sendsAnswer])
    simp only [act]
    split <;> exact .of_same rfl rfl rfl
  | rxSsarDiscard | txSsaaDiscard | grantAccess | rxRaa | rxAsa | authTimeout | sessionTimeout
    | cleanup =>
      refine Follows.of_true (.of_same rfl rfl rfl) ?_
      simp [ServerAction.sendsAnswer]

def InTurn (session : AuthSession) (input : AuthCallbacks × AuthInput) : Prop :=
  session.ServedInTurn serverStateTable ServerAction.sendsAnswer input.2

theorem lastRx_filter (attributes : AuthAttributes) (msg : AuthMsg) :
    (filter config callbacks attributes msg).lastRx = attributes.lastRx := by
  simp only [filter, apply_ite AuthAttributes.lastRx, ite_self]

theorem follows_rxRequest (msg : AuthMsg) :
    Follows True (rxRequest config callbacks session msg) session := by
  unfold rxRequest
  dsimp only
  split
  · exact .of_same rfl rfl rfl
  · rename_i sessionId _
    have named : Follows True
        { session with attributes := { session.attributes with sessionId } } session :=
      .of_same rfl rfl rfl
    split
    · exact (named.trans (follows_msgIdRxMessage _ msg)).trans (.of_same rfl rfl rfl)
    · split
      · exact named
      · exact .of_same rfl (lastRx_filter ..) rfl

theorem follows_rxAnswer (msg : AuthMsg) :
    Follows True (rxAnswer session msg) session := by
  unfold rxAnswer
  split
  · split
    · exact (follows_msgIdRxMessage session msg).trans (.of_same rfl rfl rfl)
    · exact .of_same rfl rfl rfl
  · split
    · exact .of_same rfl rfl rfl
    · split
      · apply (follows_msgIdRxMessage session msg).trans
        dsimp only
        split <;> exact .of_same rfl rfl rfl
      · exact .of_same rfl rfl rfl

theorem follows_next {input : AuthInput}
    (step : AuthServer.next config callbacks session input = some next) :
    Follows (InTurn session (callbacks, input)) next session := by
  have unserved : (∀ index, input ≠ .serve index) → Follows True next session →
      Follows (InTurn session (callbacks, input)) next session := by
    intro isOther follows
    exact follows.of_true (servedInTurn_of_unserved isOther)
  cases input with
  | serve index =>
    rw [AuthServer.next, Option.map_eq_some_iff] at step
    rcases step with ⟨call, isCall, rfl⟩
    have taken : Follows True { session with calls := session.calls.eraseIdx index } session :=
      .of_same rfl rfl rfl
    cases call with
    | notify event msg answers =>
      apply (taken.trans (follows_process (follows_act msg answers) _ event)).of_iff
      exact (servedInTurn_iff isCall).symm
    | delivered msg =>
      refine Follows.of_true ?_ (servedInTurn_of_delivered isCall)
      rw [serve]
      split
      · apply taken.trans
        apply (follows_process (follows_act none none) _ _).of_iff
        exact iff_of_true (eventInTurn_none _ _ _ _) trivial
      · exact taken
  | rxRequest msg =>
    apply unserved (by simp)
    simp only [AuthServer.next] at step
    split at step <;> cases step
    exact follows_rxRequest msg
  | rxAnswer msg =>
    apply unserved (by simp)
    simp only [AuthServer.next] at step
    split at step <;> cases step
    exact follows_rxAnswer msg
  | begin optionValue => cases step
  | send | reAuth | finish =>
    apply unserved (by simp)
    simp only [AuthServer.next] at step
    split at step <;> cases step <;> exact .of_same rfl rfl rfl
  | timeout type =>
    rw [AuthServer.next, Option.map_eq_some_iff] at step
    rcases step with ⟨timer, _, rfl⟩
    exact unserved (by simp) (.of_same rfl rfl rfl)

end AuthServer

section

variable {config : AuthConfig} {session : AuthSession}
  {allowed : AuthSession → AuthCallbacks × AuthInput → Prop}

theorem AuthClient.noted_of_reached
    (reached : Reached (AuthClient.Started config) (AuthClient.Step config) allowed session) :
    session.Noted := by
  apply reached.invariant AuthSession.Noted
  · rintro _ ⟨applicationId, rfl⟩
    rfl
  · intro session input next noted step _
    exact (AuthClient.follows_next step).noted noted

theorem AuthServer.noted_of_reached
    (reached : Reached (AuthServer.Started config) (AuthServer.Step config) allowed session) :
    session.Noted := by
  apply reached.invariant AuthSession.Noted
  · rintro _ ⟨applicationId, rfl⟩
    rfl
  · intro session input next noted step _
    exact (AuthServer.follows_next step).noted noted

/-- Whether the answers stay right in a step is whether it is in turn. -/
theorem AuthClient.answered_next_iff (noted : session.Noted) (answered : session.Answered)
    {input : AuthCallbacks × AuthInput} {next : AuthSession}
    (step : AuthClient.Step config session input next) :
    next.Answered ↔ AuthClient.InTurn session input := by
  rw [(AuthClient.follows_next step).answered_iff noted]
  exact and_iff_right answered

theorem AuthServer.answered_next_iff (noted : session.Noted) (answered : session.Answered)
    {input : AuthCallbacks × AuthInput} {next : AuthSession}
    (step : AuthServer.Step config session input next) :
    next.Answered ↔ AuthServer.InTurn session input := by
  rw [(AuthServer.follows_next step).answered_iff noted]
  exact and_iff_right answered

theorem AuthClient.answered_of_reached
    (reached : Reached (AuthClient.Started config) (AuthClient.Step config) AuthClient.InTurn
      session) :
    session.Answered := by
  induction reached with
  | start started =>
    rcases started with ⟨applicationId, rfl⟩
    exact fun _ member => by cases member
  | step before taken turn induction =>
    exact (AuthClient.answered_next_iff (AuthClient.noted_of_reached before) induction
      taken).mpr turn

theorem AuthServer.answered_of_reached
    (reached : Reached (AuthServer.Started config) (AuthServer.Step config) AuthServer.InTurn
      session) :
    session.Answered := by
  induction reached with
  | start started =>
    rcases started with ⟨applicationId, rfl⟩
    exact fun _ member => by cases member
  | step before taken turn induction =>
    exact (AuthServer.answered_next_iff (AuthServer.noted_of_reached before) induction
      taken).mpr turn

end

/-- As long as each request is answered before the ids of another one are taken down, answers
leave with the ids of their requests. The first one that is not does not. -/
theorem answers_match (config : AuthConfig) :
    (∀ session, Reached (AuthClient.Started config) (AuthClient.Step config) AuthClient.InTurn
        session →
      session.Answered ∧ ∀ input next, AuthClient.Step config session input next →
        (next.Answered ↔ AuthClient.InTurn session input)) ∧
      ∀ session, Reached (AuthServer.Started config) (AuthServer.Step config) AuthServer.InTurn
          session →
        session.Answered ∧ ∀ input next, AuthServer.Step config session input next →
          (next.Answered ↔ AuthServer.InTurn session input) := by
  constructor
  · intro session reached
    have answered := AuthClient.answered_of_reached reached
    refine ⟨answered, ?_⟩
    intro input next step
    exact AuthClient.answered_next_iff (AuthClient.noted_of_reached reached) answered step
  · intro session reached
    have answered := AuthServer.answered_of_reached reached
    refine ⟨answered, ?_⟩
    intro input next step
    exact AuthServer.answered_next_iff (AuthServer.noted_of_reached reached) answered step

section

open AuthSession

def accessAnswer : AuthMsg where
  request := false
  code := 265
  sessionId := some ⟨⟨[], []⟩, .nullCounter⟩
  resultCode := some success

theorem answers_match_single :
    ∃ session : AuthSession, session.deliveries.length = 1 ∧ session.Answered := by
  have started : Reached (AuthServer.Started minuteConfig) (AuthServer.Step minuteConfig)
      AuthServer.InTurn (AuthServer.initial minuteConfig 1) := .start ⟨1, rfl⟩
  have received := started.after (grantingCallbacks true, .rxRequest accessRequest) rfl
    (servedInTurn_of_unserved (by simp))
  have recorded := received.after (grantingCallbacks true, .serve 0) rfl
    ((servedInTurn_iff rfl).mpr (eventInTurn_none _ _ _ _))
  have opened := recorded.after (grantingCallbacks true, .serve 0) rfl
    (servedInTurn_of_delivered rfl)
  have answered := opened.after (grantingCallbacks true, .send accessAnswer accessRequest) rfl
    (servedInTurn_of_unserved (by simp))
  have delivered := answered.after (grantingCallbacks true, .serve 0) rfl
    ((servedInTurn_iff rfl).mpr fun _ _ _ _ _ _ => inTurn_of_last rfl)
  exact ⟨_, rfl, ((answers_match minuteConfig).2 _ delivered).1⟩

/-- The answer to the first request leaves with the ids of the second. -/
theorem answer_mismatched :
    ∃ session, Reached (AuthServer.Started minuteConfig) (AuthServer.Step minuteConfig)
        (fun _ _ => True) session ∧
      ∃ delivery ∈ session.deliveries, delivery.msg.request = false ∧
        ∃ request ∈ session.recorded, delivery.answers = some request ∧
          delivery.msg.ids ≠ request.ids := by
  have started : Reached (AuthServer.Started minuteConfig) (AuthServer.Step minuteConfig)
      (fun _ _ => True) (AuthServer.initial minuteConfig 1) := .start ⟨1, rfl⟩
  have received := started.after (grantingCallbacks true, .rxRequest accessRequest) rfl trivial
  have recorded := received.after (grantingCallbacks true, .serve 0) rfl trivial
  have opened := recorded.after (grantingCallbacks true, .serve 0) rfl trivial
  have another := opened.after
    (grantingCallbacks true, .rxRequest { accessRequest with hh := 2, ee := 2 }) rfl trivial
  have overwritten := another.after (grantingCallbacks true, .serve 0) rfl trivial
  have answered := overwritten.after
    (grantingCallbacks true, .send accessAnswer accessRequest) rfl trivial
  have delivered := answered.after (grantingCallbacks true, .serve 1) rfl trivial
  refine ⟨_, delivered, _, List.mem_cons_self, rfl, accessRequest, ?_, rfl, by decide⟩
  exact List.mem_cons_of_mem _ List.mem_cons_self

end

end OpenDiameter.Session
