import OpenDiameter.Foundation.Transitions
import OpenDiameter.Session.AcctRealtime

/-!
What becomes of the stop record that a client owes after `End`, and of the records in its storage.
-/

namespace OpenDiameter.Session

open OpenDiameter.Foundation OpenDiameter.Framework

namespace AcctClient

/-- The service was started: a start or interim answer is awaited, or none. -/
def IsStarted (session : AcctSession) : Prop :=
  session.state = .stPendingS ∨ session.state = .stOpen ∨ session.state = .stPendingI

/-- From `End` of a started session on, for as long as the session has not become idle. Beside it
stands whether the storage was full at a step. -/
inductive Ending (allowed : AcctSession → AcctStep → Prop) (first : AcctSession) :
    Bool → AcctSession → Prop where
  | ended {callbacks : AcctCallbacks} (started : IsStarted first)
      (allows : allowed first ⟨callbacks, .finish⟩) :
      Ending allowed first (!callbacks.storageSpace) (step ⟨callbacks, .finish⟩ first)
  | step {full : Bool} {session : AcctSession} (before : Ending allowed first full session)
      (busy : session.state ≠ .stIdle) {next : AcctStep} (allows : allowed session next) :
      Ending allowed first (full || !next.callbacks.storageSpace) (step next session)

/-- A stop record was handed to the router after the state. -/
def StopSent (first session : AcctSession) : Prop :=
  ∃ news, session.sent = news ++ first.sent ∧
    ∃ request ∈ news, request.record.recordType = acctRecTypeStop

/-- A stop record could not be sent, and it is in the storage or that was full. -/
def StopStored (first : AcctSession) (full : Bool) (session : AcctSession) : Prop :=
  ∃ news, session.unsent = news ++ first.unsent ∧
    ∃ request ∈ news, request.record.recordType = acctRecTypeStop ∧
      (request.record ∈ session.storage ∨ full = true)

/-- What a client owes that was told to end. -/
structure StopKept (first : AcctSession) (full : Bool) (session : AcctSession) : Prop where
  idle : session.unanswered = [] → session.state = .stIdle
  kept : session.state = .stIdle → StopSent first session ∨ StopStored first full session

/-- The storage keeps what it has, unless the answer is for a record that it has. -/
def DeletesAnswered (next : AcctStep) (session : AcctSession) : Prop :=
  session.storage <:+ (step next session).storage ∨
    ∃ msg index request record rest, next.input = .rxAnswer msg index ∧
      session.unanswered[index]? = some request ∧ request.stored = some record ∧
      session.storage = record :: rest ∧ (step next session).storage = rest

/-- The condition under which no stop record is lost. -/
def EndsSafely (session : AcctSession) (next : AcctStep) : Prop :=
  match next.input with
  | .finish => ¬AwaitsRecord session ∧
      (session.state = .stOpen →
        (session.attributes.backwardCompatibility = true →
          next.callbacks.generatesMessage = true) ∧
        (next.callbacks.delivered = false → session.storage = []))
  | .rxAnswer msg index => msg.code = msgCodeAccounting →
      -- Any other record is accepted while there is none in the storage.
      (interpretedSuccess msg.resultCode = true → session.state ≠ .stIdle →
        session.state ≠ .stOpen → session.state ≠ .stPendingB → session.storage = []) ∧
      -- The stop record is refused as one.
      (interpretedSuccess msg.resultCode = false → session.state = .stPendingL →
        session.storage ≠ [] ∨
          msg.recordType.getD session.attributes.recordType = acctRecTypeStop ∨
          msg.recordType.getD session.attributes.recordType = acctRecTypeEvent) ∧
      -- The stored record is answered, not another message of the application.
      (session.state = .stPendingB → session.storage ≠ [] →
        (session.unanswered[index]?.bind AcctRequest.stored) = session.storage.head?)
  | _ => True

/-! The storage. -/

section

variable {callbacks : AcctCallbacks} {session : AcctSession}

/-- The two actions that delete are those of an answer. -/
theorem deleting_rows : ∀ entry ∈ acctClientTable,
    entry.action = some .rxAcaSuccess ∨ entry.action = some .deleteRecord →
      entry.event = some .rxAcaOk ∨ entry.event = some .rxAcaFail := by
  decide

theorem storage_storeLastRecord (recordType : UInt32) :
    session.storage <:+ (session.storeLastRecord callbacks recordType).storage := by
  rw [AcctSession.storeLastRecord]
  split
  · exact List.suffix_cons _ _
  · exact List.suffix_rfl

theorem storage_transmit {notify : AcctEvent → AcctSession → AcctSession} (request : AcctRequest)
    (keeps : ∀ (event : AcctEvent) (session : AcctSession), event ≠ .rxAcaOk →
      event ≠ .rxAcaFail → session.storage <:+ (notify event session).storage) :
    session.storage <:+ (transmit callbacks notify request session).storage := by
  rw [transmit]
  split
  · exact List.suffix_rfl
  · have isFailure : failureEvent callbacks session ≠ .rxAcaOk ∧
        failureEvent callbacks session ≠ .rxAcaFail := by
      rw [failureEvent]
      split
      · decide
      split
      · split <;> decide
      split
      · decide
      · split <;> decide
    exact keeps _ { session with unsent := request :: session.unsent } isFailure.1 isFailure.2

theorem storage_txAcr {notify : AcctEvent → AcctSession → AcctSession}
    (keeps : ∀ (event : AcctEvent) (session : AcctSession), event ≠ .rxAcaOk →
      event ≠ .rxAcaFail → session.storage <:+ (notify event session).storage) :
    session.storage <:+ (txAcr callbacks notify session).storage := by
  let counted : AcctSession := { session with
    attributes :=
      { session.attributes with recordNumber := session.attributes.recordNumber + 1 } }
  rw [txAcr]
  dsimp only
  split
  · exact List.suffix_rfl
  · exact @storage_transmit callbacks counted notify _ keeps

/-- An event that is no answer deletes nothing. -/
theorem storage_process (depth : Nat) {event : AcctEvent} (notOk : event ≠ .rxAcaOk)
    (notFail : event ≠ .rxAcaFail) :
    session.storage <:+ (process callbacks depth event session).storage := by
  induction depth generalizing event session with
  | zero => exact List.suffix_rfl
  | succ depth induction =>
    rw [process]
    split
    · exact List.suffix_rfl
    · rename_i entry found
      have listed := StateTable.find_sound found
      have deletesNot : ¬(entry.action = some .rxAcaSuccess ∨
          entry.action = some .deleteRecord) := by
        intro deletes
        apply (deleting_rows entry listed.1 deletes).elim
        · exact fun isOk => notOk (listed.2.2 _ isOk).symm
        · exact fun isFail => notFail (listed.2.2 _ isFail).symm
      let moved : AcctSession := { session with state := entry.nextState }
      dsimp only
      split
      · exact List.suffix_rfl
      · rename_i action isAction
        rw [isAction] at deletesNot
        cases action with
        | txAcr => exact @storage_txAcr callbacks moved.cancelAllTimer _ fun _ _ => induction
        | interimTimeout =>
          let interim : AcctSession := { moved.cancelAllTimer with
            attributes := { moved.attributes with recordType := acctRecTypeInterim } }
          exact @storage_txAcr callbacks interim _ fun _ _ => induction
        | rxAcaSuccess => exact absurd (.inl rfl) deletesNot
        | storeRecord recordType =>
          have stored := @storage_storeLastRecord callbacks moved.cancelAllTimer recordType
          rw [act]
          split
          · exact stored
          · exact stored
        | startIntTimer => exact List.suffix_rfl
        | deleteRecord => exact absurd (.inr rfl) deletesNot
        | disconnect => exact List.suffix_rfl

/-- An accepted record leaves an empty storage empty. -/
theorem storage_rxAcaSuccess {notify : AcctEvent → AcctSession → AcctSession} :
    (act callbacks notify .rxAcaSuccess session).storage = session.storage.tail := by
  rw [act]
  split
  · rfl
  · rename_i nothing
    have isEmpty : session.storage = [] := by
      simpa [AcctSession.isLastRecordInStorage] using nothing
    split
    · rw [isEmpty]
      exact isEmpty
    · rw [isEmpty]
      exact isEmpty

theorem notify_storage {event : AcctEvent} (notOk : event ≠ .rxAcaOk)
    (notFail : event ≠ .rxAcaFail) :
    session.storage <:+ (notify callbacks event session).storage :=
  storage_process 2 notOk notFail

/-- What an accepted answer deletes. -/
theorem storage_rxAcaOk :
    (notify callbacks .rxAcaOk session).storage = session.storage ∨
      session.state ≠ .stIdle ∧ session.state ≠ .stOpen ∧
        (notify callbacks .rxAcaOk session).storage = session.storage.tail := by
  have deletes {state next : AcctState} (isState : session.state = state)
      (found : acctClientTable.find state .rxAcaOk =
        some ⟨state, some .rxAcaOk, next, some .rxAcaSuccess⟩) :
      (notify callbacks .rxAcaOk session).storage = session.storage.tail := by
    rw [notify, process_action isState found]
    exact storage_rxAcaSuccess
  cases isState : session.state with
  | stIdle => exact .inl (by rw [notify, process_same isState rfl])
  | stOpen => exact .inl (by rw [notify, process_same isState rfl])
  | _ => exact .inr ⟨by simp, by simp, deletes isState rfl⟩

/-- What a refusal deletes. -/
theorem storage_rxAcaFail :
    (notify callbacks .rxAcaFail session).storage = session.storage ∨
      session.state = .stPendingB ∧
        (notify callbacks .rxAcaFail session).storage = session.storage.tail := by
  have keeps {state next : AcctState} {expected : Option AcctEvent}
      (isState : session.state = state)
      (found : acctClientTable.find state .rxAcaFail = some ⟨state, expected, next, none⟩) :
      (notify callbacks .rxAcaFail session).storage = session.storage := by
    rw [notify, process_state isState found]
  cases isState : session.state with
  | stPendingB =>
    refine .inr ⟨rfl, ?_⟩
    rw [notify, process_action isState rfl]
    rfl
  | _ => exact .inl (keeps isState rfl)

end

section

variable {session : AcctSession} {next : AcctStep}

/-- A record that an answer deletes is the one that it answers. -/
theorem EndsSafely.deletes (safe : EndsSafely session next) : DeletesAnswered next session := by
  obtain ⟨callbacks, input⟩ := next
  cases input with
  | begin oneTime =>
    have keeps (attributes : AcctAttributes) (event : AcctEvent) (notOk : event ≠ .rxAcaOk)
        (notFail : event ≠ .rxAcaFail) : session.storage <:+
          (notify callbacks event { session with attributes := attributes }).storage :=
      @notify_storage callbacks { session with attributes := attributes } event notOk notFail
    refine .inl ?_
    rw [step]
    dsimp only
    rw [begin]
    split
    · exact keeps _ .recInStorage (by decide) (by decide)
    · split
      · exact keeps _ .requestOnetimeAccess (by decide) (by decide)
      · exact keeps _ .requestAccess (by decide) (by decide)
  | finish =>
    let ended : AcctSession := { session with
      attributes := { session.attributes with recordType := acctRecTypeStop } }
    exact .inl (@notify_storage callbacks ended.cancelAllTimer .stop (by decide) (by decide))
  | send request => exact .inl (storage_transmit request fun _ _ => notify_storage)
  | timeout type =>
    refine .inl ?_
    rw [step]
    dsimp only
    split
    · exact List.suffix_rfl
    · cases type with
      | interval => exact notify_storage (by decide) (by decide)
      | session => exact notify_storage (by decide) (by decide)
  | rxAnswer msg index =>
    by_cases accounting : msg.code = msgCodeAccounting
    · have safe := safe accounting
      -- In `PendingB` the storage loses the record that the answered request carries.
      have inStored (isB : session.state = .stPendingB)
          (tail : (step ⟨callbacks, .rxAnswer msg index⟩ session).storage =
            session.storage.tail) :
          DeletesAnswered ⟨callbacks, .rxAnswer msg index⟩ session := by
        cases isStorage : session.storage with
        | nil =>
          rw [isStorage] at tail
          rw [DeletesAnswered, isStorage, tail]
          exact .inl List.suffix_rfl
        | cons record rest =>
          rw [isStorage] at tail
          have answers := safe.2.2 isB (by simp [isStorage])
          rw [isStorage, List.head?_cons, Option.bind_eq_some_iff] at answers
          obtain ⟨request, found, stored⟩ := answers
          exact .inr ⟨msg, index, request, record, rest, rfl, found, stored, isStorage, tail⟩
      cases success : interpretedSuccess msg.resultCode with
      | true =>
        have run : step ⟨callbacks, .rxAnswer msg index⟩ session =
            notify callbacks .rxAcaOk (answered msg index session) := by
          rw [step]
          dsimp only
          rw [rxAnswer, if_neg (not_not.2 accounting), if_pos success]
        apply (@storage_rxAcaOk callbacks (answered msg index session)).elim
        · intro same
          rw [DeletesAnswered, run, same]
          exact .inl List.suffix_rfl
        · rintro ⟨notIdle, notOpen, tail⟩
          rw [← run] at tail
          by_cases isB : session.state = .stPendingB
          · exact inStored isB tail
          · have isEmpty : session.storage = [] := safe.1 success notIdle notOpen isB
            rw [DeletesAnswered, isEmpty]
            exact .inl (List.nil_suffix)
      | false =>
        have run : (step ⟨callbacks, .rxAnswer msg index⟩ session).storage =
            (notify callbacks (refusalEvent (answered msg index session))
              (answered msg index session)).storage := by
          rw [step]
          dsimp only
          rw [rxAnswer, if_neg (not_not.2 accounting), if_neg (by simp [success])]
          rfl
        by_cases isFail : refusalEvent (answered msg index session) = .rxAcaFail
        · rw [isFail] at run
          apply (@storage_rxAcaFail callbacks (answered msg index session)).elim
          · intro same
            rw [DeletesAnswered, run, same]
            exact .inl List.suffix_rfl
          · rintro ⟨isB, tail⟩
            exact inStored isB (run.trans tail)
        · have notOk : refusalEvent (answered msg index session) ≠ .rxAcaOk := by
            rw [refusalEvent]
            split
            · decide
            · split <;> decide
          rw [DeletesAnswered, run]
          exact .inl (@notify_storage callbacks (answered msg index session) _ notOk isFail)
    · have same : step ⟨callbacks, .rxAnswer msg index⟩ session = session := by
        rw [step]
        dsimp only
        rw [rxAnswer, if_pos accounting]
      rw [DeletesAnswered, same]
      exact .inl List.suffix_rfl

end

/-! The stop record. -/

/-- A client that was told to end: it waits for the answer to its stop record, or is idle. -/
structure AwaitsStop (first : AcctSession) (full : Bool) (session : AcctSession) : Prop where
  state : session.state = .stIdle ∨
    session.state = .stPendingL ∧ session.unanswered ≠ [] ∧ StopSent first session
  kept : session.state = .stIdle → StopSent first session ∨ StopStored first full session

theorem AwaitsStop.stopKept {first session : AcctSession} {full : Bool}
    (awaits : AwaitsStop first full session) : StopKept first full session where
  idle none := awaits.state.elim id fun waiting => absurd none waiting.2.1
  kept := awaits.kept

section

variable {callbacks : AcctCallbacks} {first session : AcctSession}

/-- A session that waits for the answer to its stop record, after an event. -/
theorem notify_pendingL (pending : session.state = .stPendingL) (event : AcctEvent) :
    ((notify callbacks event session).state = .stIdle ∨
        (notify callbacks event session).state = .stPendingL) ∧
      (notify callbacks event session).sent = session.sent ∧
      (notify callbacks event session).unanswered = session.unanswered := by
  have same (found : acctClientTable.find .stPendingL event =
      some ⟨.stPendingL, none, .stPendingL, none⟩) :
      ((notify callbacks event session).state = .stIdle ∨
          (notify callbacks event session).state = .stPendingL) ∧
        (notify callbacks event session).sent = session.sent ∧
        (notify callbacks event session).unanswered = session.unanswered := by
    rw [notify, process_same pending found]
    exact ⟨.inr pending, rfl, rfl⟩
  cases event with
  | rxAcaOk =>
    rw [notify, process_action pending rfl, act]
    split
    · exact ⟨.inl rfl, rfl, rfl⟩
    · split
      · exact ⟨.inl rfl, rfl, rfl⟩
      · exact ⟨.inl rfl, rfl, rfl⟩
  | ftsBuf =>
    rw [notify, process_action pending rfl, act, if_neg (by decide), AcctSession.storeLastRecord]
    split
    · exact ⟨.inl rfl, rfl, rfl⟩
    · exact ⟨.inl rfl, rfl, rfl⟩
  | ftsNoBuf =>
    rw [notify, process_state pending rfl]
    exact ⟨.inl rfl, rfl, rfl⟩
  | rxAcaFail =>
    rw [notify, process_state pending rfl]
    exact ⟨.inl rfl, rfl, rfl⟩
  | _ => exact same rfl

/-- What is sent is not forgotten. -/
theorem StopSent.mono {next : AcctSession} (sent : StopSent first session)
    (more : session.sent <:+ next.sent) : StopSent first next := by
  obtain ⟨news, isSent, request, listed, isStop⟩ := sent
  obtain ⟨others, isMore⟩ := more
  refine ⟨others ++ news, ?_, request, List.mem_append_right _ listed, isStop⟩
  rw [List.append_assoc, ← isSent, isMore]

/-- A session that waits for the answer to its stop record keeps doing so, or becomes idle. -/
theorem AwaitsStop.of_pendingL {full : Bool} {next : AcctSession} (sent : StopSent first session)
    (state : next.state = .stIdle ∨ next.state = .stPendingL)
    (more : session.sent <:+ next.sent)
    (waits : next.state = .stPendingL → next.unanswered ≠ []) :
    AwaitsStop first full next where
  state := state.imp_right fun pending => ⟨pending, waits pending, sent.mono more⟩
  kept _ := .inl (sent.mono more)

/-- An event that is no answer leaves a session that waits for the answer to its stop record so. -/
theorem AwaitsStop.notify {full : Bool} (pending : session.state = .stPendingL)
    (waits : session.unanswered ≠ []) (sent : StopSent first session) (event : AcctEvent) :
    AwaitsStop first full (notify callbacks event session) := by
  have notified := @notify_pendingL callbacks session pending event
  apply AwaitsStop.of_pendingL sent notified.1
  · rewrite [notified.2.1]
    exact List.suffix_rfl
  · intro _
    rw [notified.2.2]
    exact waits

/-- The stop record is sent, or it is stored where there is space. -/
theorem finish_awaits (started : IsStarted first)
    (safe : EndsSafely first ⟨callbacks, .finish⟩) :
    AwaitsStop first (!callbacks.storageSpace) (step ⟨callbacks, .finish⟩ first) := by
  have isOpen : first.state = .stOpen := by
    obtain isPending | isOpen | isPending := started
    · exact absurd (.inl isPending) safe.1
    · exact isOpen
    · exact absurd (.inr isPending) safe.1
  have hands := safe.2 isOpen
  let ended : AcctSession := ({ first with
    attributes := { first.attributes with recordType := acctRecTypeStop } } :
      AcctSession).cancelAllTimer
  let leaving : AcctSession := ({ ended with state := .stPendingL } : AcctSession).cancelAllTimer
  let counted : AcctSession := { leaving with
    attributes :=
      { leaving.attributes with recordNumber := leaving.attributes.recordNumber + 1 } }
  have run : step ⟨callbacks, .finish⟩ first =
      transmit callbacks (process callbacks 1) (request counted) counted := by
    have sends : step ⟨callbacks, .finish⟩ first = txAcr callbacks (process callbacks 1) leaving :=
      @process_action callbacks 1 .stop ended _ _ _ isOpen rfl
    rw [sends, txAcr]
    exact if_neg fun silent => silent.2 (hands.1 silent.1)
  rw [run, transmit]
  cases delivered : callbacks.delivered with
  | true =>
    rw [if_pos rfl]
    have sent : StopSent first { counted with
        sent := request counted :: counted.sent
        unanswered := request counted :: counted.unanswered } :=
      ⟨[request counted], rfl, request counted, List.mem_singleton.2 rfl, rfl⟩
    exact ⟨.inr ⟨rfl, List.cons_ne_nil _ _, sent⟩, fun _ => .inl sent⟩
  | false =>
    rw [if_neg Bool.false_ne_true]
    have isEmpty : counted.storage = [] := hands.2 delivered
    let refused : AcctSession := { counted with unsent := request counted :: counted.unsent }
    cases space : callbacks.storageSpace with
    | true =>
      have event : failureEvent callbacks counted = .ftsBuf := by
        rw [failureEvent, AcctSession.isLastRecordInStorage, isEmpty, if_neg (by simp),
          if_pos (.inr rfl), space, if_pos rfl]
      have stores : process callbacks 1 .ftsBuf refused = _ :=
        @process_action callbacks 0 .ftsBuf refused _ _ _ rfl rfl
      rw [event, stores, act, AcctSession.storeLastRecord, if_pos space]
      exact ⟨.inl rfl, fun _ => .inr ⟨[request counted], rfl, request counted,
        List.mem_singleton.2 rfl, rfl, .inl List.mem_cons_self⟩⟩
    | false =>
      have event : failureEvent callbacks counted = .ftsNoBuf := by
        rw [failureEvent, AcctSession.isLastRecordInStorage, isEmpty, if_neg (by simp),
          if_pos (.inr rfl), space, if_neg Bool.false_ne_true]
      have leaves : process callbacks 1 .ftsNoBuf refused = _ :=
        @process_state callbacks 0 .ftsNoBuf refused _ _ _ rfl rfl
      rw [event, leaves]
      exact ⟨.inl rfl, fun _ => .inr ⟨[request counted], rfl, request counted,
        List.mem_singleton.2 rfl, rfl, .inr rfl⟩⟩

/-- A step of a session that waits for the answer to its stop record. -/
theorem step_awaits {full : Bool} {next : AcctStep} (safe : EndsSafely session next)
    (pending : session.state = .stPendingL) (waits : session.unanswered ≠ [])
    (sent : StopSent first session) : AwaitsStop first full (step next session) := by
  obtain ⟨callbacks, input⟩ := next
  cases input with
  | begin oneTime =>
    have begins (attributes : AcctAttributes) (event : AcctEvent) :
        AwaitsStop first full
          (AcctClient.notify callbacks event { session with attributes := attributes }) :=
      @AwaitsStop.notify callbacks first { session with attributes := attributes } full pending
        waits sent event
    rw [step]
    dsimp only
    rw [begin]
    split
    · exact begins _ _
    · split
      · exact begins _ _
      · exact begins _ _
  | finish =>
    let ended : AcctSession := { session with
      attributes := { session.attributes with recordType := acctRecTypeStop } }
    exact @AwaitsStop.notify callbacks first ended.cancelAllTimer full pending waits sent .stop
  | send request =>
    rw [step]
    dsimp only
    rw [transmit]
    split
    · exact AwaitsStop.of_pendingL sent (.inr pending) (List.suffix_cons _ _)
        fun _ => List.cons_ne_nil _ _
    · have refused := @AwaitsStop.notify callbacks first
        { session with unsent := request :: session.unsent } full pending waits sent
        (failureEvent callbacks session)
      exact ⟨refused.state, fun isIdle => (refused.kept isIdle)⟩
  | rxAnswer msg index =>
    rw [step]
    dsimp only
    rw [rxAnswer]
    split
    · exact AwaitsStop.of_pendingL sent (.inr pending) List.suffix_rfl fun _ => waits
    · rename_i isAccounting
      have safe := safe (not_not.1 isAccounting)
      have answers (event : AcctEvent) := @notify_pendingL callbacks (answered msg index session)
        pending event
      have ends {next : AcctSession} (isIdle : next.state = .stIdle)
          (same : next.sent = session.sent) : AwaitsStop first full next := by
        apply AwaitsStop.of_pendingL sent (.inl isIdle)
        · rewrite [same]
          exact List.suffix_rfl
        · intro isPending
          cases isIdle.symm.trans isPending
      split
      · apply ends
        · rw [AcctClient.notify,
            @process_action callbacks 1 .rxAcaOk (answered msg index session) _ _ _ pending rfl, act]
          split
          · rfl
          · split
            · rfl
            · rfl
        · exact (answers _).2.1
      · rename_i failure
        have event : refusalEvent (answered msg index session) = .rxAcaFail := by
          rw [refusalEvent, if_pos]
          apply (safe.2.1 (eq_false_of_ne_true failure) pending).elim
          · intro stored
            exact .inl (by simpa [AcctSession.isLastRecordInStorage, answered] using stored)
          · exact .inr
        apply ends
        · dsimp only
          rw [event, state_failed, AcctClient.notify,
            @process_state callbacks 1 .rxAcaFail (answered msg index session) _ _ _ pending rfl]
        · exact (answers _).2.1
  | timeout type =>
    rw [step]
    dsimp only
    split
    · exact AwaitsStop.of_pendingL sent (.inr pending) List.suffix_rfl fun _ => waits
    · exact AwaitsStop.notify pending waits sent _

theorem Ending.awaits {full : Bool} (ending : Ending EndsSafely first full session) :
    AwaitsStop first full session := by
  induction ending with
  | ended started allows => exact finish_awaits started allows
  | step before busy allows induction =>
    have waiting := induction.state.resolve_left busy
    exact step_awaits allows waiting.1 waiting.2.1 waiting.2.2

end

/-- An answer that accepts the record. -/
def acceptance : AcctStep where
  input := .rxAnswer { resultCode := some 2001 } 0

/-- The client ends while the answer to its start record is awaited. -/
def endedStart : AcctSession :=
  step { input := .finish } startedSession

end AcctClient

end OpenDiameter.Session
