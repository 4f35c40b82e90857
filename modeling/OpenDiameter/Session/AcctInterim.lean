import OpenDiameter.Foundation.Transitions
import OpenDiameter.Session.AcctRealtime

/-!
Whether a client goes on to send interim records.
-/

namespace OpenDiameter.Session

open OpenDiameter.Foundation OpenDiameter.Framework

namespace AcctClient

/-- The timer for `EV_INT_EXPIRE` is armed. -/
def Armed (session : AcctSession) : Prop := session.timers .interval ≠ none

instance (session : AcctSession) : Decidable (Armed session) :=
  inferInstanceAs (Decidable (¬_))

/-- An open client has its timer where it is to send interim records, and there is none where it is
not. -/
structure ReportsUsage (session : AcctSession) : Prop where
  armed : session.state = .stOpen → session.attributes.interimInterval ≠ 0 → Armed session
  zero : session.attributes.interimInterval = 0 → ¬Armed session

/-- `Acct-Interim-Interval`, as the step finds it or sets it before it arms a timer. -/
def intervalInForce (step : AcctStep) (session : AcctSession) : UInt32 :=
  match step.input with
  | .begin _ => step.callbacks.setInterimInterval.getD session.attributes.interimInterval
  | .rxAnswer msg _ => msg.interimInterval.getD session.attributes.interimInterval
  | _ => session.attributes.interimInterval

/-- The record is one of a service that goes on. -/
def IsServiceRecord (recordType : UInt32) : Prop :=
  recordType = acctRecTypeStart ∨ recordType = acctRecTypeInterim

/-- The condition on what becomes of a start or interim record. -/
def OutcomeReports (session : AcctSession) (recordType realtimeRequired interval : UInt32) :
    RecordOutcome → Prop
  | .accepted => interval ≠ 0 ↔ session.storage = [] ∧ IsServiceRecord recordType
  | .refused => session.storage = [] → recordType ≠ acctRecTypeStop →
      recordType ≠ acctRecTypeEvent → realtimeRequired = acctRealtimeDeliverAndGrant → interval = 0
  | .unsendable storageSpace => session.storage = [] → recordType ≠ acctRecTypeStop →
      recordType ≠ acctRecTypeEvent →
        (storageSpace = true → realtimeRequired ≠ acctRealtimeDeliverAndGrant → interval ≠ 0) ∧
        (storageSpace = false → realtimeRequired = acctRealtimeGrantAndLose → interval = 0)

/-- The step may change the interval without a change of state. -/
def SetsInterval : AcctInput → Prop
  | .begin _ => True
  | .rxAnswer msg _ => msg.code = msgCodeAccounting
  | _ => False

/-- The condition under which the timer follows the interval. -/
structure ReportsSafely (session : AcctSession) (next : AcctStep) : Prop where
  decides : ∀ outcome, Decides session next outcome →
    OutcomeReports session (recordTypeInForce next session) (realtimeInForce next session)
      (intervalInForce next session) outcome
  /-- An open client is told of an interval that its timer fits. -/
  inOpen : session.state = .stOpen → SetsInterval next.input →
    (intervalInForce next session ≠ 0 ↔ Armed session)
  /-- A client without a service is told of no interval of zero while its timer is armed, nor is it
  to arm one then. -/
  elsewhere : ∀ msg index, next.input = .rxAnswer msg index → msg.code = msgCodeAccounting →
    ¬AwaitsRecord session → intervalInForce next session = 0 →
      (session.state = .stIdle → ¬Armed session) ∧
      (session.state ≠ .stIdle → session.state ≠ .stOpen →
        interpretedSuccess msg.resultCode = true → session.storage = [] →
          ¬IsServiceRecord (recordTypeInForce next session))

/-- The timer in each state. -/
def Timed (session : AcctSession) : Prop :=
  match session.state with
  | .stOpen => session.attributes.interimInterval ≠ 0 ↔ Armed session
  | .stIdle => session.attributes.interimInterval = 0 → ¬Armed session
  | _ => ¬Armed session

section

variable {callbacks : AcctCallbacks} {depth : Nat} {session : AcctSession}

theorem Timed.of_unarmed (unarmed : ¬Armed session) (notOpen : session.state ≠ .stOpen) :
    Timed session := by
  rw [Timed]
  split
  · rename_i isOpen
    exact absurd isOpen notOpen
  · exact fun _ => unarmed
  · exact unarmed

theorem timed_open (isOpen : session.state = .stOpen) :
    Timed session ↔ (session.attributes.interimInterval ≠ 0 ↔ Armed session) := by
  rw [Timed, isOpen]

theorem timed_idle (isIdle : session.state = .stIdle) :
    Timed session ↔ (session.attributes.interimInterval = 0 → ¬Armed session) := by
  rw [Timed, isIdle]

theorem Timed.reportsUsage (timed : Timed session) : ReportsUsage session := by
  cases isState : session.state with
  | stOpen =>
    have opened := (timed_open isState).1 timed
    exact ⟨fun _ => opened.1, fun isZero armed => opened.2 armed isZero⟩
  | stIdle => exact ⟨fun isOpen => (by cases isState.symm.trans isOpen), (timed_idle isState).1 timed⟩
  | _ =>
    rw [Timed, isState] at timed
    exact ⟨fun isOpen => (by cases isState.symm.trans isOpen), fun _ => timed⟩

theorem armed_scheduleInterval : Armed session.scheduleInterval := by
  have scheduled : session.scheduleInterval.timers .interval =
      some session.attributes.interimInterval := by
    simp [AcctSession.scheduleInterval, AcctSession.scheduleTimer]
  rw [Armed, scheduled]
  exact nofun

/-- What an accepted record does to the timer. -/
theorem armed_rxAcaSuccess {notify : AcctEvent → AcctSession → AcctSession}
    (unarmed : ¬Armed session) :
    Armed (act callbacks notify .rxAcaSuccess session) ↔
      session.storage = [] ∧ IsServiceRecord session.attributes.recordType := by
  rw [act]
  split
  · rename_i stored
    have notEmpty : session.storage ≠ [] := by
      simpa [AcctSession.isLastRecordInStorage] using stored
    exact iff_of_false unarmed fun both => notEmpty both.1
  · rename_i nothing
    have isEmpty : session.storage = [] := by
      simpa [AcctSession.isLastRecordInStorage] using nothing
    split
    · rename_i service
      exact iff_of_true armed_scheduleInterval ⟨isEmpty, service⟩
    · rename_i other
      exact iff_of_false unarmed fun both => other both.2

theorem rxAcaSuccess_fields {notify : AcctEvent → AcctSession → AcctSession} :
    (act callbacks notify .rxAcaSuccess session).state = session.state ∧
      (act callbacks notify .rxAcaSuccess session).attributes = session.attributes := by
  rw [act]
  split
  · exact ⟨rfl, rfl⟩
  · split
    · exact ⟨rfl, rfl⟩
    · exact ⟨rfl, rfl⟩

theorem storeRecord_fields {notify : AcctEvent → AcctSession → AcctSession} (recordType : UInt32) :
    (act callbacks notify (.storeRecord recordType) session).state = session.state ∧
      (act callbacks notify (.storeRecord recordType) session).attributes = session.attributes ∧
      (Armed (act callbacks notify (.storeRecord recordType) session) ↔
        IsServiceRecord recordType) := by
  have stored : (session.cancelAllTimer.storeLastRecord callbacks recordType).state =
        session.state ∧
      (session.cancelAllTimer.storeLastRecord callbacks recordType).attributes =
        session.attributes ∧
      ¬Armed (session.cancelAllTimer.storeLastRecord callbacks recordType) := by
    rw [AcctSession.storeLastRecord]
    split
    · exact ⟨rfl, rfl, fun armed => armed rfl⟩
    · exact ⟨rfl, rfl, fun armed => armed rfl⟩
  rw [act]
  split
  · rename_i service
    exact ⟨stored.1, stored.2.1, iff_of_true armed_scheduleInterval service⟩
  · rename_i other
    exact ⟨stored.1, stored.2.1, iff_of_false stored.2.2 other⟩

theorem startIntTimer_unarmed {notify : AcctEvent → AcctSession → AcctSession} :
    ¬Armed (act callbacks notify .startIntTimer session) := by
  have cancelled : (act callbacks notify .startIntTimer session).timers .interval = none := by
    simp [act, AcctSession.scheduleTimer, AcctSession.cancelAllTimer]
  exact fun armed => armed cancelled

/-- The condition on an event of a session that waits for an answer to a start or interim record. -/
def EventReports (session : AcctSession) : AcctEvent → Prop
  | .rxAcaOk => session.attributes.interimInterval ≠ 0 ↔
      session.storage = [] ∧ IsServiceRecord session.attributes.recordType
  | .ftsNotDag => session.attributes.interimInterval ≠ 0
  | .ftsAndGal | .rxAcaFailAndGal => session.attributes.interimInterval = 0
  | _ => True

theorem process_awaiting (awaits : AwaitsRecord session) (unarmed : ¬Armed session)
    {event : AcctEvent} (reports : EventReports session event) :
    Timed (process callbacks (depth + 1) event session) := by
  have pending {other : AcctSession} (isPending : AwaitsRecord other) (off : ¬Armed other) :
      Timed other := by
    apply Timed.of_unarmed off
    intro isOpen
    apply isPending.elim
    · exact fun isState => by cases isOpen.symm.trans isState
    · exact fun isState => by cases isOpen.symm.trans isState
  have same {state : AcctState} (isState : session.state = state)
      (found : acctClientTable.find state event = some ⟨state, none, state, none⟩) :
      Timed (process callbacks (depth + 1) event session) := by
    rw [process_same isState found]
    exact pending awaits unarmed
  have accepts {state : AcctState} (isState : session.state = state)
      (found : acctClientTable.find state event =
        some ⟨state, some event, .stOpen, some .rxAcaSuccess⟩)
      (follows : session.attributes.interimInterval ≠ 0 ↔
        session.storage = [] ∧ IsServiceRecord session.attributes.recordType) :
      Timed (process callbacks (depth + 1) event session) := by
    let opened : AcctSession := { session with state := .stOpen }
    have fields := @rxAcaSuccess_fields callbacks opened (process callbacks depth)
    have arms := @armed_rxAcaSuccess callbacks opened (process callbacks depth) unarmed
    rw [process_action isState found, timed_open fields.1, fields.2, arms]
    exact follows
  have stores {state : AcctState} {recordType : UInt32} (isState : session.state = state)
      (found : acctClientTable.find state event =
        some ⟨state, some event, .stOpen, some (.storeRecord recordType)⟩)
      (service : IsServiceRecord recordType) (follows : session.attributes.interimInterval ≠ 0) :
      Timed (process callbacks (depth + 1) event session) := by
    let opened : AcctSession := { session with state := .stOpen }
    have fields := @storeRecord_fields callbacks opened (process callbacks depth) recordType
    rw [process_action isState found, timed_open fields.1, fields.2.1, fields.2.2]
    exact iff_of_true follows service
  have loses {state : AcctState} (isState : session.state = state)
      (found : acctClientTable.find state event =
        some ⟨state, some event, .stOpen, some .startIntTimer⟩)
      (follows : session.attributes.interimInterval = 0) :
      Timed (process callbacks (depth + 1) event session) := by
    rw [process_action isState found, timed_open rfl]
    exact iff_of_false (not_not.2 follows) startIntTimer_unarmed
  have disconnects {state : AcctState} (isState : session.state = state)
      (found : acctClientTable.find state event =
        some ⟨state, some event, .stIdle, some .disconnect⟩) :
      Timed (process callbacks (depth + 1) event session) := by
    rw [process_action isState found]
    exact Timed.of_unarmed (fun armed => armed rfl) nofun
  have ends {state : AcctState} (isState : session.state = state) (isPending : state ≠ .stOpen)
      (found : acctClientTable.find state event =
        some ⟨state, some event, state, some (.storeRecord acctRecTypeStop)⟩) :
      Timed (process callbacks (depth + 1) event session) := by
    let kept : AcctSession := { session with state := state }
    have fields := @storeRecord_fields callbacks kept (process callbacks depth) acctRecTypeStop
    rw [process_action isState found]
    apply Timed.of_unarmed
    · rw [fields.2.2, IsServiceRecord]
      decide
    · rw [fields.1]
      exact isPending
  apply awaits.elim
  · intro isState
    cases event with
    | rxAcaOk => exact accepts isState rfl reports
    | ftsNotDag => exact stores isState rfl (.inl rfl) reports
    | ftsAndGal => exact loses isState rfl reports
    | rxAcaFailAndGal => exact loses isState rfl reports
    | ftsNotGal => exact disconnects isState rfl
    | rxAcaFailNotGal => exact disconnects isState rfl
    | stop => exact ends isState nofun rfl
    | _ => exact same isState rfl
  · intro isState
    cases event with
    | rxAcaOk => exact accepts isState rfl reports
    | ftsNotDag => exact stores isState rfl (.inr rfl) reports
    | ftsAndGal => exact loses isState rfl reports
    | rxAcaFailAndGal => exact loses isState rfl reports
    | ftsNotGal => exact disconnects isState rfl
    | rxAcaFailNotGal => exact disconnects isState rfl
    | stop => exact ends isState nofun rfl
    | _ => exact same isState rfl

/-- The states in which another record is awaited. -/
def AwaitsOther (session : AcctSession) : Prop :=
  session.state = .stPendingE ∨ session.state = .stPendingB ∨ session.state = .stPendingL

theorem process_other (awaits : AwaitsOther session) (unarmed : ¬Armed session)
    {event : AcctEvent}
    (reports : event = .rxAcaOk → session.attributes.interimInterval = 0 → session.storage = [] →
      ¬IsServiceRecord session.attributes.recordType) :
    Timed (process callbacks (depth + 1) event session) := by
  have moves {state next : AcctState} {expected : Option AcctEvent}
      (isState : session.state = state)
      (found : acctClientTable.find state event = some ⟨state, expected, next, none⟩)
      (notOpen : next ≠ .stOpen) :
      Timed (process callbacks (depth + 1) event session) := by
    rw [process_state isState found]
    exact Timed.of_unarmed unarmed notOpen
  have accepts {state : AcctState} (isState : session.state = state)
      (found : acctClientTable.find state event =
        some ⟨state, some event, .stIdle, some .rxAcaSuccess⟩) (isOk : event = .rxAcaOk) :
      Timed (process callbacks (depth + 1) event session) := by
    let idle : AcctSession := { session with state := .stIdle }
    have fields := @rxAcaSuccess_fields callbacks idle (process callbacks depth)
    have arms := @armed_rxAcaSuccess callbacks idle (process callbacks depth) unarmed
    rw [process_action isState found, timed_idle fields.1, fields.2, arms]
    exact fun isZero service => reports isOk isZero service.1 service.2
  have stores {state : AcctState} {recordType : UInt32} (isState : session.state = state)
      (found : acctClientTable.find state event =
        some ⟨state, some event, .stIdle, some (.storeRecord recordType)⟩)
      (other : ¬IsServiceRecord recordType) :
      Timed (process callbacks (depth + 1) event session) := by
    let idle : AcctSession := { session with state := .stIdle }
    have fields := @storeRecord_fields callbacks idle (process callbacks depth) recordType
    rw [process_action isState found]
    apply Timed.of_unarmed
    · rw [fields.2.2]
      exact other
    · rw [fields.1]
      exact nofun
  obtain isState | isState | isState := awaits
  · cases event with
    | rxAcaOk => exact accepts isState rfl rfl
    | ftsBuf => exact stores isState rfl (by rw [IsServiceRecord]; decide)
    | _ => exact moves isState rfl nofun
  · cases event with
    | rxAcaOk => exact accepts isState rfl rfl
    | rxAcaFail =>
      rw [process_action isState rfl]
      exact Timed.of_unarmed unarmed nofun
    | _ => exact moves isState rfl nofun
  · cases event with
    | rxAcaOk => exact accepts isState rfl rfl
    | ftsBuf => exact stores isState rfl (by rw [IsServiceRecord]; decide)
    | _ => exact moves isState rfl nofun

/-- The failure to send that a record meets. -/
theorem failureEvent_reports
    (follows : OutcomeReports session session.attributes.recordType
      session.attributes.realtimeRequired session.attributes.interimInterval
      (.unsendable callbacks.storageSpace)) :
    EventReports session (failureEvent callbacks session) := by
  rw [failureEvent]
  split
  · trivial
  rename_i nothing
  have isEmpty : session.storage = [] := by
    simpa [AcctSession.isLastRecordInStorage] using nothing
  split
  · split
    · trivial
    · trivial
  rename_i service
  have follows := follows isEmpty (fun isStop => service (.inr isStop)) fun isEvent =>
    service (.inl isEvent)
  split
  · rename_i storable
    exact follows.1 storable.1 storable.2
  rename_i notStorable
  split
  · rename_i lose
    apply follows.2 _ lose
    apply eq_false_of_ne_true
    intro space
    apply notStorable ⟨space, ?_⟩
    rw [lose]
    decide
  · trivial

/-- The refusal that a record meets. -/
theorem refusalEvent_reports
    (follows : OutcomeReports session session.attributes.recordType
      session.attributes.realtimeRequired session.attributes.interimInterval .refused) :
    EventReports session (refusalEvent session) := by
  rw [refusalEvent]
  split
  · trivial
  rename_i service
  split
  · rename_i isDeliver
    apply follows _ _ _ isDeliver
    · simpa [AcctSession.isLastRecordInStorage] using fun stored => service (.inl stored)
    · exact fun isStop => service (.inr (.inl isStop))
    · exact fun isEvent => service (.inr (.inr isEvent))
  · trivial

theorem failureEvent_ne (event : AcctEvent)
    (other : event ∉ [AcctEvent.fts, .ftsBuf, .ftsNoBuf, .ftsNotDag, .ftsAndGal, .ftsNotGal]) :
    failureEvent callbacks session ≠ event := by
  intro same
  apply other
  rw [← same, failureEvent]
  split
  · decide
  split
  · split <;> decide
  split
  · decide
  · split <;> decide

theorem txAcr_unfailing {notify : AcctEvent → AcctSession → AcctSession}
    (passes : txFails callbacks session = false) :
    (txAcr callbacks notify session).state = session.state ∧
      (txAcr callbacks notify session).timers = session.timers := by
  rw [txAcr]
  dsimp only
  split
  · exact ⟨rfl, rfl⟩
  · rename_i hands
    have delivered : callbacks.delivered = true := by
      apply Bool.eq_true_of_not_eq_false
      intro refused
      rw [txFails, refused] at passes
      cases isCompatible : session.attributes.backwardCompatibility with
      | false => simp [isCompatible] at passes
      | true => simp_all
    rw [transmit, if_pos delivered]
    exact ⟨rfl, rfl⟩

theorem timed_failed : Timed session.failed ↔ Timed session := Iff.rfl

theorem txAcr_timed (unarmed : ¬Armed session) (notOpen : session.state ≠ .stOpen)
    (fails : txFails callbacks session = true →
      Timed (process callbacks (depth + 1) (failureEvent callbacks session) (attempted session))) :
    Timed (txAcr callbacks (process callbacks (depth + 1)) session) := by
  by_cases isFailing : txFails callbacks session = true
  · rw [txAcr_fails isFailing, timed_failed]
    exact fails isFailing
  · have same := @txAcr_unfailing callbacks session (process callbacks (depth + 1))
      (eq_false_of_ne_true isFailing)
    apply Timed.of_unarmed
    · rw [Armed, same.2]
      exact unarmed
    · rw [same.1]
      exact notOpen

/-- A start or interim record that is sent. -/
theorem txAcr_awaiting (awaits : AwaitsRecord session) (unarmed : ¬Armed session)
    (reports : txFails callbacks session = true →
      OutcomeReports session session.attributes.recordType session.attributes.realtimeRequired
        session.attributes.interimInterval (.unsendable callbacks.storageSpace)) :
    Timed (txAcr callbacks (process callbacks (depth + 1)) session) := by
  apply txAcr_timed unarmed
  · intro isOpen
    apply awaits.elim
    · exact fun isState => by cases isOpen.symm.trans isState
    · exact fun isState => by cases isOpen.symm.trans isState
  · intro fails
    exact @process_awaiting callbacks depth (attempted session) awaits unarmed _
      (failureEvent_reports (reports fails))

/-- Another record that is sent. -/
theorem txAcr_other (awaits : AwaitsOther session) (unarmed : ¬Armed session) :
    Timed (txAcr callbacks (process callbacks (depth + 1)) session) := by
  apply txAcr_timed unarmed
  · intro isOpen
    obtain isState | isState | isState := awaits
    · cases isOpen.symm.trans isState
    · cases isOpen.symm.trans isState
    · cases isOpen.symm.trans isState
  · intro _
    apply @process_other callbacks depth (attempted session) awaits unarmed
    intro isOk
    exact absurd isOk (failureEvent_ne .rxAcaOk (by decide))

/-- A client that waits for an answer has no timer for interim records. -/
theorem Timed.unarmed (timed : Timed session) (notIdle : session.state ≠ .stIdle)
    (notOpen : session.state ≠ .stOpen) : ¬Armed session := by
  rw [Timed] at timed
  split at timed
  · rename_i isOpen
    exact absurd isOpen notOpen
  · rename_i isIdle
    exact absurd isIdle notIdle
  · exact timed

theorem Timed.awaiting (timed : Timed session) (awaits : AwaitsRecord session) :
    ¬Armed session := by
  apply awaits.elim
  · intro isState
    exact timed.unarmed (by simp [isState]) (by simp [isState])
  · intro isState
    exact timed.unarmed (by simp [isState]) (by simp [isState])

theorem Timed.other (timed : Timed session) (awaits : AwaitsOther session) : ¬Armed session := by
  obtain isState | isState | isState := awaits
  · exact timed.unarmed (by simp [isState]) (by simp [isState])
  · exact timed.unarmed (by simp [isState]) (by simp [isState])
  · exact timed.unarmed (by simp [isState]) (by simp [isState])

/-- `Begin` asks for one of three events. -/
theorem begin_timed {attributes : AcctAttributes} {event : AcctEvent} (timed : Timed session)
    (asks : event ∈ [AcctEvent.recInStorage, .requestOnetimeAccess, .requestAccess])
    (inOpen : session.state = .stOpen → (attributes.interimInterval ≠ 0 ↔ Armed session))
    (starts : event = .requestAccess → session.state = .stIdle →
      ∀ begun : AcctSession, begun.storage = session.storage → begun.attributes = attributes →
        txFails callbacks begun = true →
          OutcomeReports begun attributes.recordType attributes.realtimeRequired
            attributes.interimInterval (.unsendable callbacks.storageSpace)) :
    Timed (notify callbacks event { session with attributes := attributes }) := by
  let begun : AcctSession := { session with attributes := attributes }
  show Timed (notify callbacks event begun)
  have same {state : AcctState} (isState : session.state = state)
      (found : acctClientTable.find state event = some ⟨state, none, state, none⟩)
      (follows : Timed begun) : Timed (notify callbacks event begun) := by
    rw [notify, @process_same callbacks 1 event begun state isState found]
    exact follows
  have pending {state : AcctState} (isState : session.state = state) (notIdle : state ≠ .stIdle)
      (notOpen : state ≠ .stOpen)
      (found : acctClientTable.find state event = some ⟨state, none, state, none⟩) :
      Timed (notify callbacks event begun) := by
    subst isState
    exact same rfl found (Timed.of_unarmed (timed.unarmed notIdle notOpen) notOpen)
  cases isState : session.state with
  | stIdle =>
    obtain rfl | rfl | rfl : event = .recInStorage ∨ event = .requestOnetimeAccess ∨
        event = .requestAccess := by simpa using asks
    · have sends : notify callbacks .recInStorage begun = _ :=
        @process_action callbacks 1 .recInStorage begun _ _ _ isState rfl
      rw [sends]
      exact txAcr_other (.inr (.inl rfl)) fun armed => armed rfl
    · have sends : notify callbacks .requestOnetimeAccess begun = _ :=
        @process_action callbacks 1 .requestOnetimeAccess begun _ _ _ isState rfl
      rw [sends]
      exact txAcr_other (.inl rfl) fun armed => armed rfl
    · have sends : notify callbacks .requestAccess begun = _ :=
        @process_action callbacks 1 .requestAccess begun _ _ _ isState rfl
      rw [sends]
      apply txAcr_awaiting (.inl rfl) fun armed => armed rfl
      intro fails
      exact starts rfl isState _ rfl rfl fails
  | stOpen =>
    have follows : Timed begun := (@timed_open begun isState).2 (inOpen isState)
    obtain rfl | rfl | rfl : event = .recInStorage ∨ event = .requestOnetimeAccess ∨
        event = .requestAccess := by simpa using asks
    · exact same isState rfl follows
    · exact same isState rfl follows
    · exact same isState rfl follows
  | _ =>
    obtain rfl | rfl | rfl : event = .recInStorage ∨ event = .requestOnetimeAccess ∨
        event = .requestAccess := by simpa using asks
    · exact pending isState (by rintro ⟨⟩) (by rintro ⟨⟩) rfl
    · exact pending isState (by rintro ⟨⟩) (by rintro ⟨⟩) rfl
    · exact pending isState (by rintro ⟨⟩) (by rintro ⟨⟩) rfl

end

section

variable {callbacks : AcctCallbacks} {session : AcctSession} {msg : AcctAnswer} {index : Nat}

theorem begin_step_timed {oneTime : Bool} (timed : Timed session)
    (safe : ReportsSafely session ⟨callbacks, .begin oneTime⟩) :
    Timed (step ⟨callbacks, .begin oneTime⟩ session) := by
  rw [step]
  dsimp only
  rw [begin]
  have inOpen (isOpen : session.state = .stOpen) := safe.inOpen isOpen trivial
  split
  · exact begin_timed timed (by decide) inOpen (by rintro ⟨⟩)
  · rename_i nothing
    split
    · exact begin_timed timed (by decide) inOpen (by rintro ⟨⟩)
    · rename_i starts
      cases eq_false_of_ne_true starts
      apply begin_timed timed (by decide) inOpen
      intro _ isIdle begun sameStorage sameAttributes fails isEmpty
      have decides : Decides session ⟨callbacks, .begin false⟩ _ :=
        .start isIdle (eq_false_of_ne_true nothing) (by
          rw [txFails, sameAttributes] at fails
          exact fails)
      exact safe.decides _ decides (sameStorage ▸ isEmpty)

theorem finish_timed : Timed (step ⟨callbacks, .finish⟩ session) := by
  let ended : AcctSession := ({ session with
    attributes := { session.attributes with recordType := acctRecTypeStop } } :
      AcctSession).cancelAllTimer
  have unarmed : ¬Armed ended := fun armed => armed rfl
  cases isState : session.state with
  | stIdle =>
    have same : step ⟨callbacks, .finish⟩ session = ended :=
      @process_same callbacks 1 .stop ended _ isState rfl
    rw [same]
    exact Timed.of_unarmed unarmed (by simp [ended, AcctSession.cancelAllTimer, isState])
  | stOpen =>
    have sends : step ⟨callbacks, .finish⟩ session = _ :=
      @process_action callbacks 1 .stop ended _ _ _ isState rfl
    rw [sends]
    exact txAcr_other (.inr (.inr rfl)) fun armed => armed rfl
  | stPendingS => exact @process_awaiting callbacks 1 ended (.inl isState) unarmed .stop trivial
  | stPendingI => exact @process_awaiting callbacks 1 ended (.inr isState) unarmed .stop trivial
  | stPendingE => exact @process_other callbacks 1 ended (.inl isState) unarmed .stop nofun
  | stPendingB =>
    exact @process_other callbacks 1 ended (.inr (.inl isState)) unarmed .stop nofun
  | stPendingL =>
    exact @process_other callbacks 1 ended (.inr (.inr isState)) unarmed .stop nofun

theorem send_timed {request : AcctRequest} (timed : Timed session)
    (safe : ReportsSafely session ⟨callbacks, .send request⟩) :
    Timed (step ⟨callbacks, .send request⟩ session) := by
  rw [step]
  dsimp only
  rw [transmit]
  split
  · exact timed
  rename_i refused
  rw [timed_failed]
  let unsent : AcctSession := { session with unsent := request :: session.unsent }
  show Timed (notify callbacks (failureEvent callbacks session) unsent)
  have isFailure := @failureEvent_ne callbacks session
  have same {state : AcctState} (isState : session.state = state)
      (found : acctClientTable.find state (failureEvent callbacks session) =
        some ⟨state, none, state, none⟩) :
      Timed (notify callbacks (failureEvent callbacks session) unsent) := by
    rw [notify, @process_same callbacks 1 _ unsent state isState found]
    exact timed
  have awaiting (awaits : AwaitsRecord session) :
      Timed (notify callbacks (failureEvent callbacks session) unsent) := by
    have decides : Decides session ⟨callbacks, .send request⟩ _ :=
      .send awaits (eq_false_of_ne_true refused)
    have reports := @failureEvent_reports callbacks session (safe.decides _ decides)
    exact @process_awaiting callbacks 1 unsent awaits (timed.awaiting awaits) _ reports
  have other (awaits : AwaitsOther session) :
      Timed (notify callbacks (failureEvent callbacks session) unsent) :=
    @process_other callbacks 1 unsent awaits (timed.other awaits) _ fun isOk =>
      absurd isOk (isFailure .rxAcaOk (by decide))
  cases isState : session.state with
  | stIdle =>
    apply same isState
    cases isEvent : failureEvent callbacks session with
    | requestAccess => exact absurd isEvent (isFailure _ (by decide))
    | requestOnetimeAccess => exact absurd isEvent (isFailure _ (by decide))
    | recInStorage => exact absurd isEvent (isFailure _ (by decide))
    | _ => rfl
  | stOpen =>
    apply same isState
    cases isEvent : failureEvent callbacks session with
    | intExpire => exact absurd isEvent (isFailure _ (by decide))
    | stop => exact absurd isEvent (isFailure _ (by decide))
    | _ => rfl
  | stPendingS => exact awaiting (.inl isState)
  | stPendingI => exact awaiting (.inr isState)
  | stPendingE => exact other (.inl isState)
  | stPendingB => exact other (.inr (.inl isState))
  | stPendingL => exact other (.inr (.inr isState))

/-- The answer that comes where none is awaited changes the interval only. -/
theorem unawaited_timed {state : AcctState} {event : AcctEvent}
    (safe : ReportsSafely session ⟨callbacks, .rxAnswer msg index⟩)
    (accounting : msg.code = msgCodeAccounting) (isState : session.state = state)
    (notAwaiting : state = .stIdle ∨ state = .stOpen)
    (found : acctClientTable.find state event = some ⟨state, none, state, none⟩) :
    Timed (notify callbacks event (answered msg index session)) := by
  have inOpen (isOpen : session.state = .stOpen) := safe.inOpen isOpen accounting
  rw [notify, @process_same callbacks 1 _ (answered msg index session) state isState found]
  apply notAwaiting.elim
  · rintro rfl
    apply (@timed_idle (answered msg index session) isState).2
    intro isZero
    have awaitsNot : ¬AwaitsRecord session := fun awaits => awaits.elim
      (fun isS => by cases isState.symm.trans isS) fun isI => by cases isState.symm.trans isI
    exact (safe.elsewhere msg index rfl accounting awaitsNot isZero).1 isState
  · rintro rfl
    exact (@timed_open (answered msg index session) isState).2 (inOpen isState)

theorem accepted_timed (timed : Timed session)
    (safe : ReportsSafely session ⟨callbacks, .rxAnswer msg index⟩)
    (accounting : msg.code = msgCodeAccounting)
    (success : interpretedSuccess msg.resultCode = true) :
    Timed (notify callbacks .rxAcaOk (answered msg index session)) := by
  have awaiting (awaits : AwaitsRecord session) :
      Timed (notify callbacks .rxAcaOk (answered msg index session)) := by
    have decides : Decides session ⟨callbacks, .rxAnswer msg index⟩ _ :=
      .accepted awaits accounting success
    exact @process_awaiting callbacks 1 (answered msg index session) awaits
      (timed.awaiting awaits) .rxAcaOk (safe.decides _ decides)
  have other (awaits : AwaitsOther session) (notIdle : session.state ≠ .stIdle)
      (notOpen : session.state ≠ .stOpen) (awaitsNot : ¬AwaitsRecord session) :
      Timed (notify callbacks .rxAcaOk (answered msg index session)) := by
    apply @process_other callbacks 1 (answered msg index session) awaits
      (timed.other awaits)
    intro _ isZero isEmpty
    exact (safe.elsewhere msg index rfl accounting awaitsNot isZero).2 notIdle notOpen
      success isEmpty
  cases isState : session.state with
  | stIdle => exact unawaited_timed safe accounting isState (.inl rfl) rfl
  | stOpen => exact unawaited_timed safe accounting isState (.inr rfl) rfl
  | stPendingS => exact awaiting (.inl isState)
  | stPendingI => exact awaiting (.inr isState)
  | stPendingE =>
    exact other (.inl isState) (by simp [isState]) (by simp [isState])
      (by simp [AwaitsRecord, isState])
  | stPendingB =>
    exact other (.inr (.inl isState)) (by simp [isState]) (by simp [isState])
      (by simp [AwaitsRecord, isState])
  | stPendingL =>
    exact other (.inr (.inr isState)) (by simp [isState]) (by simp [isState])
      (by simp [AwaitsRecord, isState])

theorem refusalEvent_cases :
    refusalEvent session = .rxAcaFail ∨ refusalEvent session = .rxAcaFailAndGal ∨
      refusalEvent session = .rxAcaFailNotGal := by
  rw [refusalEvent]
  split
  · exact .inl rfl
  · split
    · exact .inr (.inl rfl)
    · exact .inr (.inr rfl)

theorem refused_timed (timed : Timed session)
    (safe : ReportsSafely session ⟨callbacks, .rxAnswer msg index⟩)
    (accounting : msg.code = msgCodeAccounting)
    (failure : interpretedSuccess msg.resultCode = false) :
    Timed (notify callbacks (refusalEvent (answered msg index session))
      (answered msg index session)) := by
  have isRefusal := @refusalEvent_cases (answered msg index session)
  have awaiting (awaits : AwaitsRecord session) :
      Timed (notify callbacks (refusalEvent (answered msg index session))
        (answered msg index session)) := by
    have decides : Decides session ⟨callbacks, .rxAnswer msg index⟩ _ :=
      .refused awaits accounting failure
    exact @process_awaiting callbacks 1 (answered msg index session) awaits
      (timed.awaiting awaits) _ (refusalEvent_reports (safe.decides _ decides))
  have other (awaits : AwaitsOther session) :
      Timed (notify callbacks (refusalEvent (answered msg index session))
        (answered msg index session)) := by
    apply @process_other callbacks 1 (answered msg index session) awaits
      (timed.other awaits)
    intro isOk
    obtain isEvent | isEvent | isEvent := isRefusal
    · cases isOk.symm.trans isEvent
    · cases isOk.symm.trans isEvent
    · cases isOk.symm.trans isEvent
  cases isState : session.state with
  | stIdle =>
    obtain isEvent | isEvent | isEvent := isRefusal
    · exact isEvent ▸ unawaited_timed safe accounting isState (.inl rfl) rfl
    · exact isEvent ▸ unawaited_timed safe accounting isState (.inl rfl) rfl
    · exact isEvent ▸ unawaited_timed safe accounting isState (.inl rfl) rfl
  | stOpen =>
    obtain isEvent | isEvent | isEvent := isRefusal
    · exact isEvent ▸ unawaited_timed safe accounting isState (.inr rfl) rfl
    · exact isEvent ▸ unawaited_timed safe accounting isState (.inr rfl) rfl
    · exact isEvent ▸ unawaited_timed safe accounting isState (.inr rfl) rfl
  | stPendingS => exact awaiting (.inl isState)
  | stPendingI => exact awaiting (.inr isState)
  | stPendingE => exact other (.inl isState)
  | stPendingB => exact other (.inr (.inl isState))
  | stPendingL => exact other (.inr (.inr isState))

theorem answer_timed (timed : Timed session)
    (safe : ReportsSafely session ⟨callbacks, .rxAnswer msg index⟩) :
    Timed (step ⟨callbacks, .rxAnswer msg index⟩ session) := by
  rw [step]
  dsimp only
  rw [rxAnswer]
  split
  · exact timed
  rename_i isAccounting
  have accounting := not_not.1 isAccounting
  cases success : interpretedSuccess msg.resultCode with
  | true =>
    rw [if_pos rfl]
    exact accepted_timed timed safe accounting success
  | false =>
    rw [if_neg Bool.false_ne_true]
    rw [timed_failed]
    exact refused_timed timed safe accounting success

theorem timeout_timed {type : AcctTimer} (timed : Timed session)
    (safe : ReportsSafely session ⟨callbacks, .timeout type⟩) :
    Timed (step ⟨callbacks, .timeout type⟩ session) := by
  rw [step]
  dsimp only
  split
  · exact timed
  rename_i seconds scheduled
  have same {state : AcctState} {event : AcctEvent} (isState : session.state = state)
      (found : acctClientTable.find state event = some ⟨state, none, state, none⟩) :
      Timed (notify callbacks event session) := by
    rw [notify, process_same isState found]
    exact timed
  cases type with
  | session =>
    cases isState : session.state with
    | _ => exact same isState rfl
  | interval =>
    cases isState : session.state with
    | stOpen =>
      have sends : notify callbacks .intExpire session = _ :=
        @process_action callbacks 1 .intExpire session _ _ _ isState rfl
      rw [AcctTimer.event, sends]
      apply txAcr_awaiting (.inr rfl) fun armed => armed rfl
      intro fails isEmpty
      have decides : Decides session ⟨callbacks, .timeout .interval⟩ _ :=
        .interim isState scheduled fails
      exact safe.decides _ decides isEmpty
    | _ => exact same isState rfl

theorem step_timed {next : AcctStep} (timed : Timed session) (safe : ReportsSafely session next) :
    Timed (step next session) := by
  obtain ⟨callbacks, input⟩ := next
  cases input with
  | begin oneTime => exact begin_step_timed timed safe
  | finish => exact finish_timed
  | send request => exact send_timed timed safe
  | rxAnswer msg index => exact answer_timed timed safe
  | timeout type => exact timeout_timed timed safe

end

/-- In a run in which each start or interim record leads to a timer where there is an interval, and
no interval is set beside the timer, the client goes on to report. -/
theorem reached_reportsUsage (config : AcctConfig) (backwardCompatibility : Bool)
    (storage : List AcctRecord) (session : AcctSession) :
    Reached (· = initial config backwardCompatibility storage)
        (fun session next after => after = step next session) ReportsSafely session →
      ReportsUsage session := by
  intro reached
  apply Timed.reportsUsage
  apply reached.invariant Timed
  · rintro _ rfl
    exact fun _ armed => armed rfl
  · rintro session next _ timed rfl safe
    exact step_timed timed safe

/-- A service that was granted, with an interval of a minute. -/
theorem reached_reportsUsage_open :
    let first := initial ⟨3600, 60, acctRealtimeGrantAndStore⟩ false []
    let session :=
      run [{ input := .begin false }, { input := .rxAnswer { resultCode := some 2001 } 0 }] first
    session.state = .stOpen ∧ ReportsUsage session := by
  refine ⟨rfl, ?_⟩
  apply reached_reportsUsage ⟨3600, 60, acctRealtimeGrantAndStore⟩ false []
  let first := initial ⟨3600, 60, acctRealtimeGrantAndStore⟩ false []
  have safe : ReportsSafely first { input := .begin false } := by
    refine ⟨?_, nofun, nofun⟩
    intro outcome decides
    cases decides with
    | start idle nothing fails => cases fails
  have started : Reached (· = initial ⟨3600, 60, acctRealtimeGrantAndStore⟩ false [])
      (fun session next after => after = step next session) ReportsSafely
      (step { input := .begin false } first) := .step (.start rfl) rfl safe
  apply started.after { input := .rxAnswer { resultCode := some 2001 } 0 } rfl
  refine ⟨?_, nofun, ?_⟩
  · intro outcome decides
    cases decides with
    | accepted => exact iff_of_true (by decide) ⟨rfl, .inl rfl⟩
    | refused awaits accounting failure => cases failure
  · intro msg index isInput _ awaitsNot
    exact absurd (.inl rfl) awaitsNot

/-- A start record that is not sent, with no space for it, under `GRANT_AND_LOSE`. -/
def lostStart : AcctStep where
  callbacks := { storageSpace := false, delivered := false }
  input := .begin false

/-- The service goes on, and no interim record will be sent. -/
theorem lostStart_silent :
    let session := step lostStart (initial ⟨3600, 60, acctRealtimeGrantAndLose⟩ false [])
    session.state = .stOpen ∧ session.attributes.interimInterval = 60 ∧ ¬ReportsUsage session := by
  refine ⟨rfl, rfl, ?_⟩
  intro reports
  exact reports.armed rfl (by decide) rfl

end AcctClient

end OpenDiameter.Session
