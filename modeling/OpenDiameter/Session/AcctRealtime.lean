import OpenDiameter.Session.AcctClient

/-!
Whether a client keeps the service of a user, after each outcome of a start or interim record.
-/

namespace OpenDiameter.Session

open OpenDiameter.Framework

/-- What becomes of a start or interim record. -/
inductive RecordOutcome where
  | accepted
  | refused
  | unsendable (storageSpace : Bool)
  deriving DecidableEq, Repr

/-- The comments of the table: whether the user keeps the service. -/
def RecordOutcome.Keeps (realtimeRequired : UInt32) : RecordOutcome → Prop
  | .accepted => True
  | .refused => realtimeRequired = acctRealtimeGrantAndLose
  | .unsendable storageSpace =>
    (storageSpace = true ∧ realtimeRequired ≠ acctRealtimeDeliverAndGrant) ∨
      realtimeRequired = acctRealtimeGrantAndLose

namespace AcctClient

/-- A start or interim record is on its way. -/
def AwaitsRecord (session : AcctSession) : Prop :=
  session.state = .stPendingS ∨ session.state = .stPendingI

instance (session : AcctSession) : Decidable (AwaitsRecord session) :=
  inferInstanceAs (Decidable (_ ∨ _))

/-- `TxACR` hands a message to the router, which refuses it. -/
def txFails (callbacks : AcctCallbacks) (session : AcctSession) : Bool :=
  !callbacks.delivered &&
    (!session.attributes.backwardCompatibility || callbacks.generatesMessage)

/-- The step decides what becomes of a start or interim record. -/
inductive Decides (session : AcctSession) : AcctStep → RecordOutcome → Prop where
  | start {callbacks : AcctCallbacks} (idle : session.state = .stIdle)
      (nothing : session.isLastRecordInStorage = false) (fails : txFails callbacks session = true) :
      Decides session ⟨callbacks, .begin false⟩ (.unsendable callbacks.storageSpace)
  | interim {callbacks : AcctCallbacks} {seconds : UInt32} (isOpen : session.state = .stOpen)
      (scheduled : session.timers .interval = some seconds)
      (fails : txFails callbacks session = true) :
      Decides session ⟨callbacks, .timeout .interval⟩ (.unsendable callbacks.storageSpace)
  | send {callbacks : AcctCallbacks} {request : AcctRequest} (awaits : AwaitsRecord session)
      (fails : callbacks.delivered = false) :
      Decides session ⟨callbacks, .send request⟩ (.unsendable callbacks.storageSpace)
  | accepted {callbacks : AcctCallbacks} {msg : AcctAnswer} {index : Nat}
      (awaits : AwaitsRecord session)
      (accounting : msg.code = msgCodeAccounting)
      (success : interpretedSuccess msg.resultCode = true) :
      Decides session ⟨callbacks, .rxAnswer msg index⟩ .accepted
  | refused {callbacks : AcctCallbacks} {msg : AcctAnswer} {index : Nat}
      (awaits : AwaitsRecord session)
      (accounting : msg.code = msgCodeAccounting)
      (failure : interpretedSuccess msg.resultCode = false) :
      Decides session ⟨callbacks, .rxAnswer msg index⟩ .refused

/-- `Accounting-Realtime-Required`, as the step finds it or sets it before it decides. -/
def realtimeInForce (step : AcctStep) (session : AcctSession) : UInt32 :=
  match step.input with
  | .begin _ => step.callbacks.setRealTimeRequired.getD session.attributes.realtimeRequired
  | .rxAnswer msg _ => msg.realtimeRequired.getD session.attributes.realtimeRequired
  | _ => session.attributes.realtimeRequired

/-- The service of the user goes on. -/
def InService (before after : AcctSession) : Prop :=
  after.state = .stOpen ∧ after.disconnections = before.disconnections

instance (before after : AcctSession) : Decidable (InService before after) :=
  inferInstanceAs (Decidable (_ ∧ _))

def Disconnected (before after : AcctSession) : Prop :=
  after.state = .stIdle ∧ after.disconnections = before.disconnections + 1

/-- The step keeps the service where it is to be kept, and disconnects the user otherwise. A step
that decides nothing disconnects nobody. -/
structure ObeysPolicy (next : AcctStep) (session : AcctSession) : Prop where
  keeps : ∀ outcome, Decides session next outcome →
    outcome.Keeps (realtimeInForce next session) → InService session (step next session)
  disconnects : ∀ outcome, Decides session next outcome →
    ¬outcome.Keeps (realtimeInForce next session) → Disconnected session (step next session)
  otherwise : (∀ outcome, ¬Decides session next outcome) →
    (step next session).disconnections = session.disconnections

/-- The record type as the step leaves it, before it looks at it. -/
def recordTypeInForce (step : AcctStep) (session : AcctSession) : UInt32 :=
  match step.input with
  | .begin _ => acctRecTypeStart
  | .timeout _ => acctRecTypeInterim
  | .rxAnswer msg _ => msg.recordType.getD session.attributes.recordType
  | _ => session.attributes.recordType

/-- The condition under which the policy is obeyed. -/
def PolicyApplies (next : AcctStep) (session : AcctSession) : Prop :=
  ∀ outcome, Decides session next outcome → outcome ≠ .accepted →
    session.isLastRecordInStorage = false ∧
      recordTypeInForce next session ≠ acctRecTypeStop ∧
      recordTypeInForce next session ≠ acctRecTypeEvent ∧
      (outcome = .refused →
        realtimeInForce next session ≠ acctRealtimeDeliverAndGrant ∧
          realtimeInForce next session ≠ acctRealtimeGrantAndLose)

/-! The two pending states deal with an event in one way. -/

/-- Whether the table keeps the service on the event, or decides nothing. -/
def tableKeeps : AcctEvent → Option Bool
  | .rxAcaOk | .ftsNotDag | .ftsAndGal | .rxAcaFailAndGal => some true
  | .ftsNotGal | .rxAcaFailNotGal => some false
  | _ => none

/-- What an event does to the state and to the disconnections. -/
def Settles (before after : AcctSession) : Option Bool → Prop
  | some true => InService before after
  | some false => Disconnected before after
  | none => after.state = before.state ∧ after.disconnections = before.disconnections

section

variable {callbacks : AcctCallbacks} {depth : Nat} {session : AcctSession}

@[simp] theorem disconnections_failed : session.failed.disconnections = session.disconnections := by
  rw [AcctSession.disconnections, AcctSession.disconnections, AcctSession.failed,
    AcctSession.notice, List.count_cons_of_ne (by simp)]

@[simp] theorem state_failed : session.failed.state = session.state := rfl

theorem state_storeLastRecord (recordType : UInt32) :
    (session.storeLastRecord callbacks recordType).state = session.state ∧
      (session.storeLastRecord callbacks recordType).disconnections = session.disconnections := by
  rw [AcctSession.storeLastRecord]
  split
  · exact ⟨rfl, rfl⟩
  · exact ⟨rfl, rfl⟩

/-- An action that sends nothing and does not disconnect. -/
theorem act_keeps {notify : AcctEvent → AcctSession → AcctSession} {action : AcctAction}
    (silent : action ≠ .txAcr ∧ action ≠ .interimTimeout) (kept : action ≠ .disconnect) :
    (act callbacks notify action session).state = session.state ∧
      (act callbacks notify action session).disconnections = session.disconnections := by
  cases action with
  | txAcr => exact absurd rfl silent.1
  | interimTimeout => exact absurd rfl silent.2
  | rxAcaSuccess =>
    rw [act]
    have noReset (other : AcctSession) :
        (other.notice .success).disconnections = other.disconnections := by
      rw [AcctSession.disconnections, AcctSession.notice, List.count_cons_of_ne (by simp)]
      rfl
    rw [noReset]
    split
    · exact ⟨rfl, rfl⟩
    · split
      · exact ⟨rfl, rfl⟩
      · exact ⟨rfl, rfl⟩
  | storeRecord recordType =>
    rw [act]
    have stored := @state_storeLastRecord callbacks session.cancelAllTimer recordType
    split
    · exact stored
    · exact stored
  | startIntTimer => exact ⟨rfl, rfl⟩
  | deleteRecord => exact ⟨rfl, rfl⟩
  | disconnect => exact absurd rfl kept

theorem act_disconnect {notify : AcctEvent → AcctSession → AcctSession} :
    (act callbacks notify .disconnect session).state = session.state ∧
      (act callbacks notify .disconnect session).disconnections = session.disconnections + 1 := by
  refine ⟨rfl, ?_⟩
  rw [act, AcctSession.disconnections, AcctSession.notice, List.count_cons_self]
  rfl

/-- An event in a pending state keeps the service, disconnects the user, or changes neither. -/
theorem process_settles (awaits : AwaitsRecord session) (event : AcctEvent) :
    Settles session (process callbacks (depth + 1) event session) (tableKeeps event) := by
  have keeps {state : AcctState} {action : AcctAction} (isState : session.state = state)
      (found : acctClientTable.find state event =
        some ⟨state, some event, .stOpen, some action⟩)
      (silent : action ≠ .txAcr ∧ action ≠ .interimTimeout) (kept : action ≠ .disconnect) :
      InService session (process callbacks (depth + 1) event session) := by
    rw [process_action isState found]
    exact act_keeps silent kept
  have disconnects {state : AcctState} (isState : session.state = state)
      (found : acctClientTable.find state event =
        some ⟨state, some event, .stIdle, some .disconnect⟩) :
      Disconnected session (process callbacks (depth + 1) event session) := by
    rw [process_action isState found]
    exact act_disconnect
  have stores {state : AcctState} {recordType : UInt32} (isState : session.state = state)
      (found : acctClientTable.find state event =
        some ⟨state, some event, state, some (.storeRecord recordType)⟩) :
      (process callbacks (depth + 1) event session).state = session.state ∧
        (process callbacks (depth + 1) event session).disconnections =
          session.disconnections := by
    rw [process_action isState found, isState]
    exact act_keeps (by simp) (by simp)
  have same {state : AcctState} (isState : session.state = state)
      (found : acctClientTable.find state event = some ⟨state, none, state, none⟩) :
      (process callbacks (depth + 1) event session).state = session.state ∧
        (process callbacks (depth + 1) event session).disconnections =
          session.disconnections := by
    rw [process_same isState found]
    exact ⟨rfl, rfl⟩
  apply awaits.elim
  · intro isState
    cases event with
    | rxAcaOk => exact keeps isState rfl (by decide) (by decide)
    | ftsNotDag => exact keeps isState rfl (by decide) (by decide)
    | ftsAndGal => exact keeps isState rfl (by decide) (by decide)
    | rxAcaFailAndGal => exact keeps isState rfl (by decide) (by decide)
    | ftsNotGal => exact disconnects isState rfl
    | rxAcaFailNotGal => exact disconnects isState rfl
    | stop => exact stores isState rfl
    | _ => exact same isState rfl
  · intro isState
    cases event with
    | rxAcaOk => exact keeps isState rfl (by decide) (by decide)
    | ftsNotDag => exact keeps isState rfl (by decide) (by decide)
    | ftsAndGal => exact keeps isState rfl (by decide) (by decide)
    | rxAcaFailAndGal => exact keeps isState rfl (by decide) (by decide)
    | ftsNotGal => exact disconnects isState rfl
    | rxAcaFailNotGal => exact disconnects isState rfl
    | stop => exact stores isState rfl
    | _ => exact same isState rfl

/-- What is settled on an event that decides. -/
theorem Settles.iff {before after : AcctSession} {keeps : Option Bool} {expected : Prop}
    (awaits : AwaitsRecord before) (settles : Settles before after keeps) :
    ((expected → InService before after) ∧ (¬expected → Disconnected before after)) ↔
      ∃ kept, keeps = some kept ∧ (kept = true ↔ expected) := by
  have notOpen : before.state ≠ .stOpen := by
    intro isOpen
    apply awaits.elim
    · exact fun isPending => nomatch isOpen.symm.trans isPending
    · exact fun isPending => nomatch isOpen.symm.trans isPending
  have notIdle : before.state ≠ .stIdle := by
    intro isIdle
    apply awaits.elim
    · exact fun isPending => nomatch isIdle.symm.trans isPending
    · exact fun isPending => nomatch isIdle.symm.trans isPending
  match keeps, settles with
  | some true, settles =>
    constructor
    · intro obeys
      refine ⟨true, rfl, ?_⟩
      by_cases isExpected : expected
      · exact iff_of_true rfl isExpected
      · cases settles.1.symm.trans (obeys.2 isExpected).1
    · rintro ⟨kept, isKept, same⟩
      cases isKept
      exact ⟨fun _ => settles, fun other => absurd (same.1 rfl) other⟩
  | some false, settles =>
    constructor
    · intro obeys
      refine ⟨false, rfl, ?_⟩
      by_cases isExpected : expected
      · cases settles.1.symm.trans (obeys.1 isExpected).1
      · exact iff_of_false Bool.false_ne_true isExpected
    · rintro ⟨kept, isKept, same⟩
      cases isKept
      exact ⟨fun isExpected => absurd (same.2 isExpected) Bool.false_ne_true, fun _ => settles⟩
  | none, settles =>
    constructor
    · intro obeys
      by_cases isExpected : expected
      · exact absurd (settles.1.symm.trans (obeys.1 isExpected).1) notOpen
      · exact absurd (settles.1.symm.trans (obeys.2 isExpected).1) notIdle
    · rintro ⟨kept, isKept, _⟩
      cases isKept

/-- A record that cannot be sent is dealt with as it should be, unless the storage holds one or the
record is of another type. -/
theorem failureEvent_keeps :
    (∃ kept, tableKeeps (failureEvent callbacks session) = some kept ∧
        (kept = true ↔ (RecordOutcome.unsendable callbacks.storageSpace).Keeps
          session.attributes.realtimeRequired)) ↔
      session.isLastRecordInStorage = false ∧ session.attributes.recordType ≠ acctRecTypeStop ∧
        session.attributes.recordType ≠ acctRecTypeEvent := by
  rw [failureEvent]
  split
  · rename_i stored
    apply iff_of_false
    · rintro ⟨kept, isKept, _⟩
      cases isKept
    · intro applies
      exact absurd (stored.symm.trans applies.1) (by decide)
  rename_i nothing
  split
  · rename_i other
    apply iff_of_false
    · rintro ⟨kept, isKept, _⟩
      split at isKept
      · cases isKept
      · cases isKept
    · intro applies
      exact other.elim applies.2.2 applies.2.1
  rename_i same
  have applies : session.isLastRecordInStorage = false ∧
      session.attributes.recordType ≠ acctRecTypeStop ∧
      session.attributes.recordType ≠ acctRecTypeEvent :=
    ⟨eq_false_of_ne_true nothing, fun isStop => same (.inr isStop), fun isEvent =>
      same (.inl isEvent)⟩
  apply (iff_of_true · applies)
  split
  · rename_i storable
    exact ⟨true, rfl, iff_of_true rfl (.inl storable)⟩
  · rename_i notStorable
    split
    · rename_i lose
      exact ⟨true, rfl, iff_of_true rfl (.inr lose)⟩
    · rename_i notLose
      exact ⟨false, rfl, iff_of_false Bool.false_ne_true (not_or.2 ⟨notStorable, notLose⟩)⟩

/-- A refused record is dealt with as it should be, unless the storage holds one, the record is of
another type, or the policy is one of the two that are taken for each other. -/
theorem refusalEvent_keeps :
    (∃ kept, tableKeeps (refusalEvent session) = some kept ∧
        (kept = true ↔ RecordOutcome.refused.Keeps session.attributes.realtimeRequired)) ↔
      session.isLastRecordInStorage = false ∧ session.attributes.recordType ≠ acctRecTypeStop ∧
        session.attributes.recordType ≠ acctRecTypeEvent ∧
        session.attributes.realtimeRequired ≠ acctRealtimeDeliverAndGrant ∧
        session.attributes.realtimeRequired ≠ acctRealtimeGrantAndLose := by
  rw [refusalEvent]
  split
  · rename_i other
    apply iff_of_false
    · rintro ⟨kept, isKept, _⟩
      cases isKept
    · intro applies
      apply other.elim
      · intro stored
        exact absurd (stored.symm.trans applies.1) (by decide)
      · exact fun isType => isType.elim applies.2.1 applies.2.2.1
  rename_i same
  split
  · rename_i isDeliver
    apply iff_of_false
    · rintro ⟨kept, isKept, expected⟩
      cases isKept
      exact absurd (isDeliver.symm.trans (expected.1 rfl)) (by decide)
    · exact fun applies => applies.2.2.2.1 isDeliver
  · rename_i notDeliver
    constructor
    · rintro ⟨kept, isKept, expected⟩
      cases isKept
      exact ⟨eq_false_of_ne_true fun stored => same (.inl stored),
        fun isStop => same (.inr (.inl isStop)), fun isEvent => same (.inr (.inr isEvent)),
        notDeliver, fun lose => absurd (expected.2 lose) Bool.false_ne_true⟩
    · intro applies
      exact ⟨false, rfl, iff_of_false Bool.false_ne_true applies.2.2.2.2⟩

/-! What a step does that decides nothing. -/

/-- No event of the other pending states disconnects the user. -/
theorem process_elsewhere (event : AcctEvent)
    (pending : session.state = .stPendingE ∨ session.state = .stPendingB ∨
      session.state = .stPendingL) :
    (process callbacks (depth + 1) event session).disconnections = session.disconnections := by
  have acts {state next : AcctState} {action : AcctAction} (isState : session.state = state)
      (found : acctClientTable.find state event = some ⟨state, some event, next, some action⟩)
      (silent : action ≠ .txAcr ∧ action ≠ .interimTimeout) (kept : action ≠ .disconnect) :
      (process callbacks (depth + 1) event session).disconnections = session.disconnections := by
    rw [process_action isState found]
    exact (act_keeps silent kept).2
  have moves {state next : AcctState} {expected : Option AcctEvent}
      (isState : session.state = state)
      (found : acctClientTable.find state event = some ⟨state, expected, next, none⟩) :
      (process callbacks (depth + 1) event session).disconnections = session.disconnections := by
    rw [process_state isState found]
    rfl
  obtain isState | isState | isState := pending
  · cases event with
    | rxAcaOk => exact acts isState rfl (by decide) (by decide)
    | ftsBuf => exact acts isState rfl (by simp) (by simp)
    | _ => exact moves isState rfl
  · cases event with
    | rxAcaOk => exact acts isState rfl (by decide) (by decide)
    | rxAcaFail => exact acts isState rfl (by decide) (by decide)
    | _ => exact moves isState rfl
  · cases event with
    | rxAcaOk => exact acts isState rfl (by decide) (by decide)
    | ftsBuf => exact acts isState rfl (by simp) (by simp)
    | _ => exact moves isState rfl

/-- The session that has a request refused by the router. -/
def attempted (session : AcctSession) : AcctSession :=
  let session := { session with
    attributes :=
      { session.attributes with recordNumber := session.attributes.recordNumber + 1 } }
  { session with unsent := request session :: session.unsent }

theorem txAcr_fails {notify : AcctEvent → AcctSession → AcctSession}
    (fails : txFails callbacks session = true) :
    txAcr callbacks notify session =
      (notify (failureEvent callbacks session) (attempted session)).failed := by
  rw [txFails, Bool.and_eq_true, Bool.not_eq_true', Bool.or_eq_true, Bool.not_eq_true'] at fails
  have hands : ¬(session.attributes.backwardCompatibility = true ∧
      ¬callbacks.generatesMessage = true) := by
    rintro ⟨compatible, silent⟩
    apply fails.2.elim
    · exact fun other => absurd (compatible.symm.trans other) (by decide)
    · exact silent
  rw [txAcr, if_neg hands, transmit, if_neg (by simp [fails.1])]
  rfl

theorem txAcr_passes {notify : AcctEvent → AcctSession → AcctSession}
    (passes : txFails callbacks session = false) :
    (txAcr callbacks notify session).disconnections = session.disconnections := by
  rw [txAcr]
  dsimp only
  split
  · rfl
  · rename_i hands
    have delivered : callbacks.delivered = true := by
      apply Bool.eq_true_of_not_eq_false
      intro refused
      rw [txFails, refused] at passes
      cases isCompatible : session.attributes.backwardCompatibility with
      | false => simp [isCompatible] at passes
      | true => simp_all
    rw [transmit, if_pos delivered]
    rfl

theorem txAcr_elsewhere
    (pending : session.state = .stPendingE ∨ session.state = .stPendingB ∨
      session.state = .stPendingL) :
    (txAcr callbacks (process callbacks (depth + 1)) session).disconnections =
      session.disconnections := by
  by_cases fails : txFails callbacks session = true
  · rw [txAcr_fails fails, disconnections_failed]
    exact process_elsewhere _ pending
  · exact txAcr_passes (eq_false_of_ne_true fails)

/-- An event of a session that does not wait for an answer to a start or interim record, and that
sends none. -/
theorem notify_quiet (event : AcctEvent) (awaitsNot : ¬AwaitsRecord session)
    (sendsNot : event ≠ .requestAccess ∧ event ≠ .intExpire) :
    (notify callbacks event session).disconnections = session.disconnections := by
  have same {state : AcctState} (isState : session.state = state)
      (found : acctClientTable.find state event = some ⟨state, none, state, none⟩) :
      (notify callbacks event session).disconnections = session.disconnections := by
    rw [notify, process_same isState found]
  cases isState : session.state with
  | stIdle =>
    cases event with
    | requestAccess => exact absurd rfl sendsNot.1
    | requestOnetimeAccess =>
      rw [notify, process_action isState rfl]
      exact txAcr_elsewhere (.inl rfl)
    | recInStorage =>
      rw [notify, process_action isState rfl]
      exact txAcr_elsewhere (.inr (.inl rfl))
    | _ => exact same isState rfl
  | stOpen =>
    cases event with
    | intExpire => exact absurd rfl sendsNot.2
    | stop =>
      rw [notify, process_action isState rfl]
      exact txAcr_elsewhere (.inr (.inr rfl))
    | _ => exact same isState rfl
  | stPendingS => exact absurd (.inl isState) awaitsNot
  | stPendingI => exact absurd (.inr isState) awaitsNot
  | stPendingE => exact process_elsewhere event (.inl isState)
  | stPendingB => exact process_elsewhere event (.inr (.inl isState))
  | stPendingL => exact process_elsewhere event (.inr (.inr isState))

/-- An event that decides nothing in a pending state. -/
theorem notify_undecided {event : AcctEvent} (awaits : AwaitsRecord session)
    (undecided : tableKeeps event = none) :
    (notify callbacks event session).disconnections = session.disconnections := by
  have settles := @process_settles callbacks 1 session awaits event
  rw [undecided] at settles
  exact settles.2

theorem requestAccess_passes (awaitsNot : ¬AwaitsRecord session)
    (passes : session.state = .stIdle → txFails callbacks session = false) :
    (notify callbacks .requestAccess session).disconnections = session.disconnections := by
  cases isState : session.state with
  | stIdle =>
    rw [notify, process_action isState rfl]
    exact txAcr_passes (passes isState)
  | stPendingS => exact absurd (.inl isState) awaitsNot
  | stPendingI => exact absurd (.inr isState) awaitsNot
  | _ => rw [notify, process_same isState rfl]

theorem intExpire_passes (awaitsNot : ¬AwaitsRecord session)
    (passes : session.state = .stOpen → txFails callbacks session = false) :
    (notify callbacks .intExpire session).disconnections = session.disconnections := by
  cases isState : session.state with
  | stOpen =>
    rw [notify, process_action isState rfl]
    exact txAcr_passes (passes isState)
  | stPendingS => exact absurd (.inl isState) awaitsNot
  | stPendingI => exact absurd (.inr isState) awaitsNot
  | _ => rw [notify, process_same isState rfl]

/-- A step that decides nothing. -/
theorem step_undecided {next : AcctStep} (undecided : ∀ outcome, ¬Decides session next outcome) :
    (step next session).disconnections = session.disconnections := by
  obtain ⟨callbacks, input⟩ := next
  cases input with
  | begin oneTime =>
    rw [step]
    dsimp only
    rw [begin]
    split
    · by_cases awaits : AwaitsRecord session
      · exact notify_undecided awaits rfl
      · exact notify_quiet _ awaits (by decide)
    · rename_i nothing
      split
      · by_cases awaits : AwaitsRecord session
        · exact notify_undecided awaits rfl
        · exact notify_quiet _ awaits (by decide)
      · rename_i starts
        by_cases awaits : AwaitsRecord session
        · exact notify_undecided awaits rfl
        · have once := eq_false_of_ne_true starts
          subst once
          refine requestAccess_passes awaits ?_
          intro isState
          apply eq_false_of_ne_true
          intro fails
          exact undecided _ (.start isState (eq_false_of_ne_true nothing) fails)
  | finish =>
    by_cases awaits : AwaitsRecord session
    · exact notify_undecided awaits rfl
    · exact notify_quiet _ awaits (by decide)
  | send request =>
    rw [step]
    dsimp only
    rw [transmit]
    split
    · rfl
    · rename_i refused
      rw [disconnections_failed]
      have awaits : ¬AwaitsRecord session := fun awaits =>
        undecided _ (.send awaits (eq_false_of_ne_true refused))
      refine notify_quiet _ awaits ?_
      rw [failureEvent]
      split
      · decide
      split
      · split <;> decide
      split
      · decide
      · split <;> decide
  | rxAnswer msg index =>
    rw [step]
    dsimp only
    rw [rxAnswer]
    split
    · rfl
    · rename_i accounting
      have isAccounting := not_not.1 accounting
      split
      · rename_i success
        have awaits : ¬AwaitsRecord session := fun awaits =>
          undecided _ (.accepted awaits isAccounting success)
        exact notify_quiet _ awaits (by decide)
      · rename_i failure
        rw [disconnections_failed]
        have awaits : ¬AwaitsRecord session := fun awaits =>
          undecided _ (.refused awaits isAccounting (eq_false_of_ne_true failure))
        refine notify_quiet _ awaits ?_
        rw [refusalEvent]
        split
        · decide
        · split <;> decide
  | timeout type =>
    rw [step]
    dsimp only
    split
    · rfl
    · rename_i seconds scheduled
      cases type with
      | session =>
        by_cases awaits : AwaitsRecord session
        · exact notify_undecided awaits rfl
        · exact notify_quiet _ awaits (by decide)
      | interval =>
        by_cases awaits : AwaitsRecord session
        · exact notify_undecided awaits rfl
        · refine intExpire_passes awaits ?_
          intro isState
          apply eq_false_of_ne_true
          intro fails
          exact undecided _ (.interim isState scheduled fails)

end

/-! What a step does that decides. -/

section

variable {session : AcctSession} {next : AcctStep} {outcome : RecordOutcome}

theorem Decides.unique {other : RecordOutcome} (decides : Decides session next outcome)
    (decidesOther : Decides session next other) : other = outcome := by
  cases decides with
  | start => cases decidesOther; rfl
  | interim => cases decidesOther; rfl
  | send => cases decidesOther; rfl
  | accepted awaits accounting success =>
    cases decidesOther with
    | accepted => rfl
    | refused _ _ failure => cases success.symm.trans failure
  | refused awaits accounting failure =>
    cases decidesOther with
    | accepted _ _ success => cases success.symm.trans failure
    | refused => rfl

theorem Decides.obeysPolicy_iff (decides : Decides session next outcome) :
    ObeysPolicy next session ↔
      (outcome.Keeps (realtimeInForce next session) → InService session (step next session)) ∧
        (¬outcome.Keeps (realtimeInForce next session) →
          Disconnected session (step next session)) := by
  constructor
  · intro obeys
    exact ⟨obeys.keeps outcome decides, obeys.disconnects outcome decides⟩
  · intro obeys
    refine ⟨?_, ?_, fun undecided => absurd decides (undecided outcome)⟩
    · intro other decidesOther
      cases decides.unique decidesOther
      exact obeys.1
    · intro other decidesOther
      cases decides.unique decidesOther
      exact obeys.2

theorem Decides.policyApplies_iff (decides : Decides session next outcome) :
    PolicyApplies next session ↔ (outcome ≠ .accepted →
      session.isLastRecordInStorage = false ∧
        recordTypeInForce next session ≠ acctRecTypeStop ∧
        recordTypeInForce next session ≠ acctRecTypeEvent ∧
        (outcome = .refused →
          realtimeInForce next session ≠ acctRealtimeDeliverAndGrant ∧
            realtimeInForce next session ≠ acctRealtimeGrantAndLose)) := by
  constructor
  · intro applies
    exact applies outcome decides
  · intro applies other decidesOther
    cases decides.unique decidesOther
    exact applies

/-- A pending session that has its request refused by the router. -/
theorem unsendable_iff {callbacks : AcctCallbacks} {depth : Nat} {pending : AcctSession}
    (awaits : AwaitsRecord pending) :
    (((RecordOutcome.unsendable callbacks.storageSpace).Keeps
            pending.attributes.realtimeRequired →
          InService pending
            (process callbacks (depth + 1) (failureEvent callbacks pending) pending).failed) ∧
        (¬(RecordOutcome.unsendable callbacks.storageSpace).Keeps
            pending.attributes.realtimeRequired →
          Disconnected pending
            (process callbacks (depth + 1) (failureEvent callbacks pending) pending).failed)) ↔
      pending.isLastRecordInStorage = false ∧ pending.attributes.recordType ≠ acctRecTypeStop ∧
        pending.attributes.recordType ≠ acctRecTypeEvent := by
  rw [← failureEvent_keeps, InService, Disconnected, disconnections_failed, state_failed]
  exact (process_settles awaits _).iff awaits

/-- A record that cannot be sent. -/
theorem Decides.unsendable {callbacks : AcctCallbacks} {depth : Nat} {pending : AcctSession}
    (decides : Decides session next (.unsendable callbacks.storageSpace))
    (awaits : AwaitsRecord pending)
    (run : step next session =
      (process callbacks (depth + 1) (failureEvent callbacks pending) pending).failed)
    (sameDisconnections : pending.disconnections = session.disconnections)
    (sameStorage : pending.isLastRecordInStorage = session.isLastRecordInStorage)
    (sameRealtime : pending.attributes.realtimeRequired = realtimeInForce next session)
    (sameRecordType : pending.attributes.recordType = recordTypeInForce next session) :
    ObeysPolicy next session ↔ PolicyApplies next session := by
  have settles := @unsendable_iff callbacks depth pending awaits
  rw [← run, InService, Disconnected, sameDisconnections, sameStorage, sameRealtime,
    sameRecordType] at settles
  rw [decides.obeysPolicy_iff, decides.policyApplies_iff]
  apply settles.trans
  constructor
  · intro applies _
    exact ⟨applies.1, applies.2.1, applies.2.2, nofun⟩
  · intro applies
    have holds := applies (by simp)
    exact ⟨holds.1, holds.2.1, holds.2.2.1⟩

theorem obeysPolicy_iff (next : AcctStep) (session : AcctSession) :
    ObeysPolicy next session ↔ PolicyApplies next session := by
  by_cases decided : ∃ outcome, Decides session next outcome
  · obtain ⟨outcome, decides⟩ := decided
    cases decides with
    | @start callbacks idle nothing fails =>
      let begun : AcctSession := { session with
        attributes := { session.attributes with
          realtimeRequired :=
            callbacks.setRealTimeRequired.getD session.attributes.realtimeRequired
          interimInterval :=
            callbacks.setInterimInterval.getD session.attributes.interimInterval
          recordType := acctRecTypeStart } }
      have decides : Decides session ⟨callbacks, .begin false⟩ _ := .start idle nothing fails
      let sending : AcctSession := { begun with state := .stPendingS }
      apply @Decides.unsendable _ _ callbacks 0 (attempted sending.cancelAllTimer) decides
        (.inl rfl)
      · have begins : step ⟨callbacks, .begin false⟩ session =
            notify callbacks .requestAccess begun := by
          rw [step]
          dsimp only
          rw [begin, if_neg (by simp [nothing]), if_neg Bool.false_ne_true]
        have sends : notify callbacks .requestAccess begun =
            txAcr callbacks (process callbacks 1) sending.cancelAllTimer :=
          @process_action callbacks 1 .requestAccess begun _ _ _ idle rfl
        exact (begins.trans sends).trans (txAcr_fails fails)
      · rfl
      · rfl
      · rfl
      · rfl
    | @interim callbacks seconds isOpen scheduled fails =>
      let expired : AcctSession := { session with
        state := .stPendingI
        attributes := { session.attributes with recordType := acctRecTypeInterim } }
      have decides : Decides session ⟨callbacks, .timeout .interval⟩ _ :=
        .interim isOpen scheduled fails
      apply @Decides.unsendable _ _ callbacks 0 (attempted expired.cancelAllTimer) decides
        (.inr rfl)
      · have expires : step ⟨callbacks, .timeout .interval⟩ session =
            txAcr callbacks (process callbacks 1) expired.cancelAllTimer := by
          rw [step]
          dsimp only
          rw [scheduled]
          exact @process_action callbacks 1 .intExpire session _ _ _ isOpen rfl
        exact expires.trans (txAcr_fails fails)
      · rfl
      · rfl
      · rfl
      · rfl
    | @send callbacks request awaits fails =>
      have decides : Decides session ⟨callbacks, .send request⟩ _ := .send awaits fails
      let refused : AcctSession := { session with unsent := request :: session.unsent }
      apply @Decides.unsendable _ _ callbacks 1 refused decides awaits
      · rw [step]
        dsimp only
        rw [transmit, if_neg (by simp [fails])]
        rfl
      · rfl
      · rfl
      · rfl
      · rfl
    | @accepted callbacks msg index awaits accounting success =>
      have decides : Decides session ⟨callbacks, .rxAnswer msg index⟩ _ :=
        .accepted awaits accounting success
      rw [decides.obeysPolicy_iff, decides.policyApplies_iff]
      apply iff_of_true _ (absurd rfl)
      refine ⟨fun _ => ?_, absurd trivial⟩
      rw [step]
      dsimp only
      rw [rxAnswer, if_neg (not_not.2 accounting), if_pos success]
      exact @process_settles callbacks 1 (answered msg index session) awaits .rxAcaOk
    | @refused callbacks msg index awaits accounting failure =>
      have decides : Decides session ⟨callbacks, .rxAnswer msg index⟩ _ :=
        .refused awaits accounting failure
      have run : step ⟨callbacks, .rxAnswer msg index⟩ session =
          (notify callbacks (refusalEvent (answered msg index session))
            (answered msg index session)).failed := by
        rw [step]
        dsimp only
        rw [rxAnswer, if_neg (not_not.2 accounting), if_neg (by simp [failure])]
      have pending : AwaitsRecord (answered msg index session) := awaits
      have settles := @Settles.iff _ _ _
        (RecordOutcome.refused.Keeps (answered msg index session).attributes.realtimeRequired)
        pending (@process_settles callbacks 1 _ pending (refusalEvent (answered msg index session)))
      rw [refusalEvent_keeps] at settles
      rw [decides.obeysPolicy_iff, decides.policyApplies_iff, run, InService, Disconnected,
        disconnections_failed, state_failed]
      apply settles.trans
      constructor
      · intro applies _
        exact ⟨applies.1, applies.2.1, applies.2.2.1, fun _ => applies.2.2.2⟩
      · intro applies
        have holds := applies nofun
        exact ⟨holds.1, holds.2.1, holds.2.2.1, holds.2.2.2 rfl⟩
  · have undecided := not_exists.1 decided
    apply iff_of_true
    · exact ⟨fun outcome decides => absurd decides (undecided outcome),
        fun outcome decides => absurd decides (undecided outcome), step_undecided⟩
    · exact fun outcome decides => absurd decides (undecided outcome)

/-- In a run, each step obeys the policy just where each meets the condition. -/
theorem run_obeysPolicy_iff (config : AcctConfig) (backwardCompatibility : Bool)
    (storage : List AcctRecord) (steps : List AcctStep) :
    (∀ before next after, steps = before ++ next :: after →
        ObeysPolicy next (run before (initial config backwardCompatibility storage))) ↔
      ∀ before next after, steps = before ++ next :: after →
        PolicyApplies next (run before (initial config backwardCompatibility storage)) := by
  constructor
  · intro obeys before next after split
    exact (obeysPolicy_iff _ _).1 (obeys before next after split)
  · intro applies before next after split
    exact (obeysPolicy_iff _ _).2 (applies before next after split)

/-- A start record is refused under `DELIVER_AND_GRANT`. -/
def refusedStart : AcctStep where
  input := .rxAnswer { resultCode := some 5012 } 0

/-- The session that waits for the answer. -/
def startedSession : AcctSession :=
  run [{ input := .begin false }] (initial ⟨3600, 60, acctRealtimeDeliverAndGrant⟩ false [])

/-- The service goes on. -/
theorem refusedStart_kept :
    ¬ObeysPolicy refusedStart startedSession ∧ InService startedSession
      (step refusedStart startedSession) := by
  have kept : InService startedSession (step refusedStart startedSession) := by decide
  refine ⟨fun obeys => ?_, kept⟩
  have decides : Decides startedSession refusedStart .refused := .refused (by decide) rfl rfl
  have notKept : ¬RecordOutcome.refused.Keeps (realtimeInForce refusedStart startedSession) :=
    show ¬acctRealtimeDeliverAndGrant = acctRealtimeGrantAndLose by decide
  cases kept.1.symm.trans (obeys.disconnects .refused decides notKept).1

end

end AcctClient

end OpenDiameter.Session
