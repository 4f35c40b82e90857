import OpenDiameter.Session.AcctServer

/-!
Whether each Accounting-Request is answered once, as it was sent, and stored as it is answered.
-/

namespace OpenDiameter.Session

open OpenDiameter.Framework

/-- The answer carries what the request carries. -/
structure Aca.Matches (aca : Aca) (msg : Acr) : Prop where
  ids : aca.ids = msg.ids
  recordType : msg.recordType = some aca.recordType
  recordNumber : msg.recordNumber = some aca.recordNumber
  subSessionId : msg.subSessionId = some aca.subSessionId

namespace AcctServer

variable {callbacks : AcctServerCallbacks} {session : AcctServerSession} {msg : Acr}

/-- One answer more, and one record more where the answer reports success. -/
structure Answers (msg : Acr) (aca : Aca) (session next : AcctServerSession) : Prop where
  answers : next.answers = aca :: session.answers
  succeeds : aca.resultCode = success →
    ∃ record, record.avpList = msg ∧ next.stored = record :: session.stored
  fails : aca.resultCode ≠ success → next.stored = session.stored

def AnsweredOnce (msg : Acr) (session next : AcctServerSession) : Prop :=
  ∃ aca : Aca, aca.Matches msg ∧ Answers msg aca session next

/-- There is a row for the record, where there is space for it. -/
def Accepts (state : AcctState) (recordType : UInt32) : Prop :=
  recordType = acctRecTypeEvent ∨ recordType = acctRecTypeStart ∨
    (state = .stOpen ∧ (recordType = acctRecTypeInterim ∨ recordType = acctRecTypeStop))

/-- A record of the type is answered as it is stored. -/
structure Fits (callbacks : AcctServerCallbacks) (session : AcctServerSession)
    (recordType : UInt32) : Prop where
  stateful : session.stateful = true → session.running = true ∧
    (callbacks.spaceAvailable = true → Accepts session.state recordType)
  stateless : session.stateful = false → callbacks.spaceAvailable = true

/-- When the session does with a request what it should do. -/
structure Serves (callbacks : AcctServerCallbacks) (session : AcctServerSession) (msg : Acr) :
    Prop where
  recordType : msg.recordType ≠ none
  recordNumber : msg.recordNumber ≠ none
  subSessionId : msg.subSessionId ≠ none
  sessionId : session.attributes.sessionId.key.diameterId.isEmpty = true → msg.sessionId ≠ none
  fits : ∀ value ∈ msg.recordType, Fits callbacks session value

/-- What the runs keep. -/
structure Idling (session : AcctServerSession) : Prop where
  state : session.state = .stIdle ∨ session.state = .stOpen
  compatibility : session.attributes.backwardCompatibility = false

theorem recordEvent_eq_some {recordType : UInt32} {event : AcctServerEvent}
    (isEvent : recordEvent recordType = some event) :
    (recordType = acctRecTypeEvent ∧ event = .rxAcrEvOk) ∨
      (recordType = acctRecTypeStart ∧ event = .rxAcrStartOk) ∨
      (recordType = acctRecTypeInterim ∧ event = .rxAcrIntOk) ∨
      (recordType = acctRecTypeStop ∧ event = .rxAcrStopOk) := by
  rw [recordEvent] at isEvent
  grind

/-- An event with the row of the table for it. -/
theorem notify_action {pending : Option Acr} {event : AcctServerEvent} {state next : AcctState}
    {action : AcctServerAction} (isRunning : session.running = true)
    (isState : session.state = state)
    (found : acctServerTable.find state event =
      some ⟨state, some event, next, some action⟩) :
    notify session pending event = act pending action { session with state := next } := by
  subst isState
  rw [notify, if_pos isRunning, found]

/-- An event for which there is a wildcard entry only. -/
theorem notify_same {pending : Option Acr} {event : AcctServerEvent} {state : AcctState}
    (isState : session.state = state)
    (found : acctServerTable.find state event = some ⟨state, none, state, none⟩) :
    notify session pending event = session := by
  subst isState
  rw [notify, found]
  exact ite_self _

theorem notify_stopped {pending : Option Acr} {event : AcctServerEvent}
    (isStopped : session.running = false) : notify session pending event = session := by
  rw [notify, if_neg (by simp [isStopped])]

theorem txAca_eq {resultCode : UInt32}
    (isOff : session.attributes.backwardCompatibility = false) :
    txAca session resultCode =
      { session with answers := aca session resultCode :: session.answers } := by
  rw [txAca, if_neg (by simp [isOff])]

/-- The actions that store the message answer it. -/
theorem act_answers {action : AcctServerAction}
    (isOff : session.attributes.backwardCompatibility = false)
    (stores : action = .start ∨ action = .rxAcr ∨ action = .stop) :
    Answers msg (aca session success) session (act (some msg) action session) := by
  have sent (stored : AcctServerSession)
      (isOff : stored.attributes.backwardCompatibility = false) := @txAca_eq stored success isOff
  obtain rfl | rfl | rfl := stores
  · rw [act, sent (storePending (cancelAllTimer session) (some msg)) isOff]
    exact ⟨rfl, fun _ => ⟨_, rfl, rfl⟩, absurd rfl⟩
  · rw [act, sent (storePending session (some msg)) isOff]
    exact ⟨rfl, fun _ => ⟨_, rfl, rfl⟩, absurd rfl⟩
  · rw [act, sent (storePending (cancelAllTimer session) (some msg)) isOff]
    exact ⟨rfl, fun _ => ⟨_, rfl, rfl⟩, absurd rfl⟩

theorem outOfSpace_ne_success : outOfSpace ≠ success := by decide

theorem notify_noBuf {pending : Option Acr} (idling : Idling session)
    (isRunning : session.running = true) :
    Answers msg (aca session outOfSpace) session (notify session pending .rxAcrNoBuf) := by
  have acts : notify session pending .rxAcrNoBuf =
      act pending .rxAcrOutOfSpace { session with state := .stIdle } := by
    apply idling.state.elim
    · exact fun isIdle => notify_action isRunning isIdle rfl
    · exact fun isOpen => notify_action isRunning isOpen rfl
  have sent := @txAca_eq { session with state := .stIdle } outOfSpace idling.compatibility
  rw [acts, act, sent]
  exact ⟨rfl, fun isSuccess => absurd isSuccess outOfSpace_ne_success, fun _ => rfl⟩

/-- The rows for a record that is accepted. -/
theorem find_accepted {recordType : UInt32} {event : AcctServerEvent} (idling : Idling session)
    (isEvent : recordEvent recordType = some event)
    (accepts : Accepts session.state recordType) :
    ∃ next action, acctServerTable.find session.state event =
        some ⟨session.state, some event, next, some action⟩ ∧
      (action = .start ∨ action = .rxAcr ∨ action = .stop) := by
  obtain isIdle | isOpen := idling.state
  · rw [isIdle]
    obtain ⟨_, rfl⟩ | ⟨_, rfl⟩ | ⟨rfl, _⟩ | ⟨rfl, _⟩ := recordEvent_eq_some isEvent
    · exact ⟨_, _, rfl, .inr (.inl rfl)⟩
    · exact ⟨_, _, rfl, .inl rfl⟩
    · simp [Accepts, isIdle, acctRecTypeInterim, acctRecTypeEvent, acctRecTypeStart] at accepts
    · simp [Accepts, isIdle, acctRecTypeStop, acctRecTypeEvent, acctRecTypeStart] at accepts
  · rw [isOpen]
    obtain ⟨_, rfl⟩ | ⟨_, rfl⟩ | ⟨_, rfl⟩ | ⟨_, rfl⟩ := recordEvent_eq_some isEvent
    · exact ⟨_, _, rfl, .inr (.inl rfl)⟩
    · exact ⟨_, _, rfl, .inl rfl⟩
    · exact ⟨_, _, rfl, .inl rfl⟩
    · exact ⟨_, _, rfl, .inr (.inr rfl)⟩

theorem notify_accepted {recordType : UInt32} {event : AcctServerEvent} (idling : Idling session)
    (isRunning : session.running = true) (isEvent : recordEvent recordType = some event)
    (accepts : Accepts session.state recordType) :
    Answers msg (aca session success) session (notify session (some msg) event) := by
  obtain ⟨next, action, found, stores⟩ := find_accepted idling isEvent accepts
  have acts := @act_answers { session with state := next } msg action idling.compatibility stores
  rw [notify_action isRunning rfl found]
  exact ⟨acts.answers, acts.succeeds, acts.fails⟩

/-- Without a row the record is lost without an answer. -/
theorem notify_unaccepted {recordType : UInt32} {event : AcctServerEvent}
    (idling : Idling session) (isEvent : recordEvent recordType = some event)
    (refuses : ¬Accepts session.state recordType) :
    notify session (some msg) event = session := by
  rw [Accepts, not_or, not_or, not_and, not_or] at refuses
  obtain isIdle | isOpen := idling.state
  · obtain ⟨isType, _⟩ | ⟨isType, _⟩ | ⟨_, rfl⟩ | ⟨_, rfl⟩ := recordEvent_eq_some isEvent
    · exact absurd isType refuses.1
    · exact absurd isType refuses.2.1
    · exact notify_same isIdle rfl
    · exact notify_same isIdle rfl
  · have others := refuses.2.2 isOpen
    obtain ⟨isType, _⟩ | ⟨isType, _⟩ | ⟨isType, _⟩ | ⟨isType, _⟩ := recordEvent_eq_some isEvent
    · exact absurd isType refuses.1
    · exact absurd isType refuses.2.1
    · exact absurd isType others.1
    · exact absurd isType others.2

/-- There is an event for each record that is accepted. -/
theorem Accepts.recordEvent {state : AcctState} {recordType : UInt32}
    (accepts : Accepts state recordType) : ∃ event, recordEvent recordType = some event := by
  obtain rfl | rfl | ⟨_, rfl | rfl⟩ := accepts
  · exact ⟨_, rfl⟩
  · exact ⟨_, rfl⟩
  · exact ⟨_, rfl⟩
  · exact ⟨_, rfl⟩

theorem Answers.ne {aca : Aca} {next : AcctServerSession} (answers : Answers msg aca session next) :
    next.answers ≠ session.answers := by
  rw [answers.answers]
  exact List.cons_ne_self _ _

theorem serve_answers {recordType : UInt32} (idling : Idling session)
    (isType : session.attributes.recordType = recordType)
    (fits : Fits callbacks session recordType) :
    ∃ resultCode, Answers msg (aca session resultCode) session (serve callbacks session msg) := by
  subst isType
  rw [serve]
  split
  · rename_i isStateful
    have serves := fits.stateful isStateful
    split
    · rename_i space
      have accepts := serves.2 space
      obtain ⟨event, isEvent⟩ := accepts.recordEvent
      rw [isEvent]
      exact ⟨success, notify_accepted idling serves.1 isEvent accepts⟩
    · exact ⟨outOfSpace, notify_noBuf idling serves.1⟩
  · rename_i isStateless
    rw [if_pos (fits.stateless (eq_false_of_ne_true isStateless))]
    have sent := @txAca_eq (storeRecord session msg) success idling.compatibility
    rw [sent]
    exact ⟨success, rfl, fun _ => ⟨_, rfl, rfl⟩, absurd rfl⟩

/-- A stateful session leaves the answers as they are, a stateless one stores what it refuses. -/
theorem serve_fails {recordType : UInt32} (idling : Idling session)
    (isType : session.attributes.recordType = recordType)
    (misfits : ¬Fits callbacks session recordType) (aca : Aca) :
    ¬Answers msg aca session (serve callbacks session msg) := by
  subst isType
  intro answers
  have ignored (same : serve callbacks session msg = session) : False := by
    rw [same] at answers
    exact answers.ne rfl
  cases isStateful : session.stateful with
  | true =>
    cases isRunning : session.running with
    | false =>
      apply ignored
      rw [serve, if_pos isStateful]
      split
      · split
        · rfl
        · exact notify_stopped isRunning
      · exact notify_stopped isRunning
    | true =>
      have spaceRefused : callbacks.spaceAvailable = true ∧
          ¬Accepts session.state session.attributes.recordType := by
        by_contra accepted
        apply misfits
        refine ⟨fun _ => ⟨isRunning, fun space => ?_⟩, fun isStateless => ?_⟩
        · exact not_not.1 fun refuses => accepted ⟨space, refuses⟩
        · cases isStateful.symm.trans isStateless
      apply ignored
      rw [serve, if_pos isStateful, if_pos spaceRefused.1]
      split
      · rfl
      · rename_i isEvent
        exact notify_unaccepted idling isEvent spaceRefused.2
  | false =>
    have noSpace : callbacks.spaceAvailable = false := by
      apply eq_false_of_ne_true
      intro space
      apply misfits
      refine ⟨fun other => ?_, fun _ => space⟩
      cases isStateful.symm.trans other
    have sent := @txAca_eq (storeRecord session msg) outOfSpace idling.compatibility
    have serves : serve callbacks session msg = txAca (storeRecord session msg) outOfSpace := by
      rw [serve, if_neg (by simp [isStateful]), if_neg (by simp [noSpace])]
    rw [serves, sent] at answers
    have isAca : AcctServer.aca (storeRecord session msg) outOfSpace = aca :=
      (List.cons.inj answers.answers).1
    have kept := answers.fails (isAca ▸ outOfSpace_ne_success)
    exact List.cons_ne_self _ _ kept

theorem aca_matches (carriesType : msg.recordType ≠ none) (carriesNumber : msg.recordNumber ≠ none)
    (carriesSubSession : msg.subSessionId ≠ none) (sessionId : SessionId) (resultCode : UInt32) :
    (aca (received callbacks session msg sessionId) resultCode).Matches msg where
  ids := rfl
  recordType := (Option.getD_of_ne_none carriesType _).symm
  recordNumber := (Option.getD_of_ne_none carriesNumber _).symm
  subSessionId := (Option.getD_of_ne_none carriesSubSession _).symm

/-- The session that serves the request is as idle as the one that received it. -/
theorem Idling.received (idling : Idling session) (sessionId : SessionId) :
    Idling (received callbacks session msg sessionId) :=
  ⟨idling.state, idling.compatibility⟩

/-- A request is served well just under the condition. -/
theorem answeredOnce_iff (idling : Idling session) (isAccounting : msg.code = msgCodeAccounting) :
    AnsweredOnce msg session (rxRequest callbacks session msg) ↔
      Serves callbacks session msg := by
  have known (isKnown : session.attributes.sessionId.key.diameterId.isEmpty = true →
      msg.sessionId ≠ none) : ∃ sessionId, rxRequest callbacks session msg =
      serve callbacks (received callbacks session msg sessionId) msg := by
    rw [rxRequest, if_neg (not_not.2 isAccounting)]
    split
    · rename_i isEmpty
      obtain ⟨sessionId, isSome⟩ := Option.ne_none_iff_exists'.1 (isKnown isEmpty)
      rw [isSome]
      exact ⟨sessionId, rfl⟩
    · exact ⟨session.attributes.sessionId, rfl⟩
  constructor
  · intro ⟨aca, isMatch, answers⟩
    have isKnown : session.attributes.sessionId.key.diameterId.isEmpty = true →
        msg.sessionId ≠ none := by
      intro isEmpty isNone
      apply answers.ne
      rw [rxRequest, if_neg (not_not.2 isAccounting), if_pos isEmpty, isNone]
    refine ⟨?_, ?_, ?_, isKnown, ?_⟩
    · simp [isMatch.recordType]
    · simp [isMatch.recordNumber]
    · simp [isMatch.subSessionId]
    · intro value isValue
      obtain ⟨sessionId, serves⟩ := known isKnown
      have isType : (received callbacks session msg sessionId).attributes.recordType = value := by
        rw [received, Option.mem_def.1 isValue]
        rfl
      by_contra misfits
      have fails := @serve_fails callbacks (received callbacks session msg sessionId) msg value
        (idling.received sessionId) isType (fun fits => misfits ⟨fits.stateful, fits.stateless⟩) aca
      rw [serves] at answers
      exact fails ⟨answers.answers, answers.succeeds, answers.fails⟩
  · intro serves
    obtain ⟨sessionId, served⟩ := known serves.sessionId
    obtain ⟨value, isValue⟩ := Option.ne_none_iff_exists'.1 serves.recordType
    have isType : (received callbacks session msg sessionId).attributes.recordType = value := by
      rw [received, isValue]
      rfl
    have fits := serves.fits value isValue
    obtain ⟨resultCode, answers⟩ := @serve_answers callbacks
      (received callbacks session msg sessionId) msg value (idling.received sessionId) isType
      ⟨fits.stateful, fits.stateless⟩
    rw [served]
    refine ⟨_, aca_matches serves.recordType serves.recordNumber serves.subSessionId sessionId
      resultCode, answers.answers, answers.succeeds, answers.fails⟩

theorem Idling.txAca (idling : Idling session) (resultCode : UInt32) :
    Idling (txAca session resultCode) := by
  rw [txAca_eq idling.compatibility]
  exact ⟨idling.state, idling.compatibility⟩

theorem Idling.act (idling : Idling session) (pending : Option Acr) (action : AcctServerAction) :
    Idling (act pending action session) := by
  have sent {stored : AcctServerSession} (same : Idling stored) := same.txAca success
  have stores {stored : AcctServerSession} (same : Idling stored) :
      Idling (storePending stored pending) := by
    cases pending with
    | none => exact same
    | some msg => exact ⟨same.state, same.compatibility⟩
  have cancelled : Idling (cancelAllTimer session) := ⟨idling.state, idling.compatibility⟩
  cases action with
  | start =>
    have kept := sent (stores cancelled)
    exact ⟨kept.state, kept.compatibility⟩
  | rxAcr =>
    have kept := sent (stores idling)
    exact ⟨kept.state, kept.compatibility⟩
  | rxAcrOutOfSpace =>
    have kept := idling.txAca outOfSpace
    exact ⟨kept.state, kept.compatibility⟩
  | stop =>
    have kept := sent (stores cancelled)
    exact ⟨kept.state, kept.compatibility⟩
  | timeout => exact ⟨idling.state, idling.compatibility⟩

theorem nextState_idling : ∀ entry ∈ acctServerTable,
    entry.nextState = .stIdle ∨ entry.nextState = .stOpen := by decide

theorem Idling.notify (idling : Idling session) (pending : Option Acr) (event : AcctServerEvent) :
    Idling (notify session pending event) := by
  rw [AcctServer.notify]
  split
  · split
    · exact idling
    · rename_i entry found
      have moved : Idling { session with state := entry.nextState } :=
        ⟨nextState_idling entry (StateTable.find_sound found).1, idling.compatibility⟩
      dsimp only
      split
      · exact moved
      · exact moved.act pending _
  · exact idling

theorem Idling.serve (idling : Idling session) : Idling (serve callbacks session msg) := by
  rw [AcctServer.serve]
  split
  · split
    · split
      · exact idling
      · exact idling.notify _ _
    · exact idling.notify _ _
  · have stored : Idling (storeRecord session msg) := ⟨idling.state, idling.compatibility⟩
    dsimp only
    split
    · have kept := stored.txAca success
      exact ⟨kept.state, kept.compatibility⟩
    · exact stored.txAca outOfSpace

/-- Each step keeps the session in the states of the table. -/
theorem Idling.step (idling : Idling session) (next : AcctServerStep) :
    Idling (step next session) := by
  rw [AcctServer.step]
  split
  · rw [rxRequest]
    split
    · exact idling
    · dsimp only
      split
      · exact idling
      · exact (idling.received _).serve
  · split
    · exact idling
    · exact idling.notify _ _

theorem run_idling (idling : Idling session) (steps : List AcctServerStep) :
    Idling (run steps session) := by
  induction steps generalizing session with
  | nil => exact idling
  | cons next steps induction => exact induction (idling.step next)

/-- In a run, each Accounting-Request is served well just where each meets the condition. -/
theorem run_answeredOnce_iff (config : AcctConfig) (stateful : Bool) (subSessionId : UInt64)
    (lastRx : MsgIds) (steps : List AcctServerStep) :
    let before earlier := run earlier (initial config stateful subSessionId lastRx)
    (∀ earlier callbacks msg later, steps = earlier ++ ⟨callbacks, .rxRequest msg⟩ :: later →
        msg.code = msgCodeAccounting →
        AnsweredOnce msg (before earlier)
          (step ⟨callbacks, .rxRequest msg⟩ (before earlier))) ↔
      ∀ earlier callbacks msg later, steps = earlier ++ ⟨callbacks, .rxRequest msg⟩ :: later →
        msg.code = msgCodeAccounting → Serves callbacks (before earlier) msg := by
  intro before
  have starts : Idling (initial config stateful subSessionId lastRx) := ⟨.inl rfl, rfl⟩
  constructor
  · intro answers earlier callbacks msg later split isAccounting
    exact (answeredOnce_iff (run_idling starts earlier) isAccounting).1
      (answers earlier callbacks msg later split isAccounting)
  · intro serves earlier callbacks msg later split isAccounting
    exact (answeredOnce_iff (run_idling starts earlier) isAccounting).2
      (serves earlier callbacks msg later split isAccounting)

/-- An event record that a stateless session receives. -/
def eventRecord : Acr where
  ids := ⟨7, 9⟩
  sessionId := some ⟨⟨[110], []⟩, .nullCounter⟩
  subSessionId := some 1
  recordNumber := some 3
  recordType := some acctRecTypeEvent

/-- Without space the record is stored before it is refused. -/
theorem eventRecord_storedAndRefused :
    let before := initial ⟨3600, 60, acctRealtimeDeliverAndGrant⟩ false 0 ⟨0, 0⟩
    let next := step ⟨{ spaceAvailable := false }, .rxRequest eventRecord⟩ before
    ¬AnsweredOnce eventRecord before next ∧
      next.stored = [⟨eventRecord, acctRecTypeEvent, 3⟩] ∧
      next.answers.map Aca.resultCode = [outOfSpace] := by
  intro before next
  have isStored : next.stored = [⟨eventRecord, acctRecTypeEvent, 3⟩] := by decide
  have isRefused : next.answers.map Aca.resultCode = [outOfSpace] := by decide
  refine ⟨?_, isStored, isRefused⟩
  intro ⟨aca, _, answers⟩
  rw [answers.answers] at isRefused
  have fails : aca.resultCode ≠ success := by
    rw [(List.cons.inj isRefused).1]
    exact outOfSpace_ne_success
  cases isStored.symm.trans (answers.fails fails)

end AcctServer

end OpenDiameter.Session
