import OpenDiameter.CreditControl.ServerEvents

/-!
Whether each answer of a credit-control server belongs to the request that it is sent for.
-/

namespace OpenDiameter.CreditControl.CcServer

open OpenDiameter.Framework

variable {verdicts : CcVerdicts} {session : CcServer}

/-- The answer carries the type and the number of the request and the result code. -/
structure Answers (msg : Ccr) (resultCode : UInt32) (answer : Cca) : Prop where
  ccRequestType : answer.ccRequestType = msg.ccRequestType
  ccRequestNumber : answer.ccRequestNumber = msg.ccRequestNumber
  resultCode : answer.resultCode = some resultCode

/-- Serving the request sends one answer to it, with a result code of its own: the one that the
answer record has from earlier does not matter. -/
def AnsweredOnce (verdicts : CcVerdicts) (msg : Ccr) (session : CcServer) : Prop :=
  ∃ resultCode, ∀ earlier : CcaData, ∃ answer,
    (serve verdicts { session with ccaData := earlier }).sent = answer :: session.sent ∧
      Answers msg resultCode answer

/-- Each request that is served is answered, and nothing else sends an answer. -/
structure Belongs (input : CcServerInput) (session : CcServer) : Prop where
  answered : ∀ verdicts queued queue msg, input = .serve verdicts →
    session.queue = queued :: queue → queued.request = some msg →
      AnsweredOnce verdicts msg session
  silent : (∀ verdicts queued queue, input = .serve verdicts →
    session.queue = queued :: queue → queued.request = none) →
      (session.step input).sent = session.sent

/-- The requests whose answer is filled in. -/
inductive Fills (verdicts : CcVerdicts) : CcServerState → CcRequest → Prop where
  | initial (answers : verdicts.initialAnswer = true) : Fills verdicts .stIdle .initial
  | termination (accepts : verdicts.Accepts .termination) : Fills verdicts .stOpen .termination
  | directDebiting (accepts : verdicts.Accepts .directDebiting) :
      Fills verdicts .stIdle .directDebiting
  | refundAccount (accepts : verdicts.Accepts .refundAccount) :
      Fills verdicts .stIdle .refundAccount
  | checkBalance : Fills verdicts .stIdle .checkBalance

/-- The request record still holds the request. -/
structure Holds (session : CcServer) (msg : Ccr) : Prop where
  ccRequestType : session.ccrData.ccRequestType.avp = msg.ccRequestType
  ccRequestNumber : session.ccrData.ccRequestNumber.avp = msg.ccRequestNumber

/-- When the answers belong to their requests. -/
def Answerable (input : CcServerInput) (session : CcServer) : Prop :=
  ∀ verdicts kind msg queue, input = .serve verdicts →
    session.queue = ⟨.request kind, some msg⟩ :: queue →
      Fills verdicts session.state kind ∧ Holds session msg

/-- An answer from the request record, with the result code. -/
def Filled (resultCode : UInt32) (session next : CcServer) : Prop :=
  ∃ answer, next.sent = answer :: session.sent ∧
    answer.ccRequestType = session.ccrData.ccRequestType.avp ∧
    answer.ccRequestNumber = session.ccrData.ccRequestNumber.avp ∧
    answer.resultCode = some resultCode

theorem filled_fill (resultCode : UInt32) :
    Filled resultCode session (session.fill resultCode).sendCca :=
  ⟨_, rfl, rfl, rfl, rfl⟩

theorem filled_fillCheckBalance (checkBalanceResult : UInt32) :
    Filled aaaSuccess session (session.fillCheckBalance checkBalanceResult).sendCca :=
  ⟨_, rfl, rfl, rfl, rfl⟩

/-- The result code of the answer to a request that it is filled in for. -/
def resultCodeFor (verdicts : CcVerdicts) (kind : CcRequest) : UInt32 :=
  if kind = .initial ∧ ¬verdicts.Accepts .initial then creditLimitReached else aaaSuccess

variable {kind : CcRequest}

theorem event_fills (fills : Fills verdicts session.state kind) :
    Filled (resultCodeFor verdicts kind) session (event verdicts (.request kind) session) := by
  generalize isState : session.state = state at fills
  cases fills with
  | initial answers =>
    rw [event_request isState .initial]
    split
    · rename_i accepts
      have isCode : resultCodeFor verdicts .initial = aaaSuccess :=
        if_neg fun refused => refused.2 accepts
      have answer : answerAccepted verdicts .initial { session with state := .stOpen } =
          (({ session with state := .stOpen } : CcServer).fill aaaSuccess).sendCca.scheduleTcc :=
        if_pos answers
      rw [isCode, answer]
      exact filled_fill aaaSuccess
    · rename_i refuses
      have isCode : resultCodeFor verdicts .initial = creditLimitReached :=
        if_pos ⟨rfl, refuses⟩
      rw [isCode, unsuccessfulAnswer, if_pos answers]
      exact filled_fill creditLimitReached
  | termination accepts =>
    rw [event_request isState .termination, if_pos accepts]
    exact filled_fill aaaSuccess
  | directDebiting accepts =>
    rw [event_request isState .directDebiting, if_pos accepts]
    exact filled_fill aaaSuccess
  | refundAccount accepts =>
    rw [event_request isState .refundAccount, if_pos accepts]
    exact filled_fill aaaSuccess
  | checkBalance =>
    rw [event_request isState .checkBalance]
    split
    · exact filled_fillCheckBalance 0
    · exact filled_fillCheckBalance 1

/-- Otherwise there is no answer, or it is what the answer record holds. -/
theorem event_unfilled (rests : session.Rests) (unfilled : ¬Fills verdicts session.state kind) :
    (event verdicts (.request kind) session).sent = session.sent ∨
      (event verdicts (.request kind) session).sent =
        session.ccaData.parseAppToRaw :: session.sent := by
  by_cases expected : Expected session.state (.request kind)
  · cases expected with
    | request served =>
      rw [event_request rfl served]
      generalize session.state = state at served unfilled
      cases served with
      | initial =>
        have silent : ¬verdicts.initialAnswer = true := fun answers => unfilled (.initial answers)
        have same : answerAccepted verdicts .initial { session with state := .stOpen } =
            { session with state := .stOpen } := if_neg silent
        split
        · rw [same]
          exact .inl rfl
        · rw [unsuccessfulAnswer, if_neg silent]
          exact .inl rfl
      | checkBalance => exact absurd .checkBalance unfilled
      | termination =>
        rw [if_neg fun accepts => unfilled (.termination accepts)]
        exact .inr rfl
      | directDebiting =>
        rw [if_neg fun accepts => unfilled (.directDebiting accepts)]
        exact .inr rfl
      | refundAccount =>
        rw [if_neg fun accepts => unfilled (.refundAccount accepts)]
        exact .inr rfl
      | priceEnquiry =>
        split
        · exact .inr rfl
        · exact .inr rfl
      | update =>
        split
        · exact .inr rfl
        · exact .inr rfl
  · rw [event_unexpected rests expected]
    exact .inl rfl

theorem serve_cons {queued : CcQueued} {queue : List CcQueued}
    (isQueue : session.queue = queued :: queue) :
    serve verdicts session = event verdicts queued.event { session with queue := queue } := by
  rw [serve, isQueue]

theorem answeredOnce_iff {msg : Ccr} {queue : List CcQueued} (rests : session.Rests)
    (isQueue : session.queue = ⟨.request kind, some msg⟩ :: queue) :
    AnsweredOnce verdicts msg session ↔
      Fills verdicts session.state kind ∧ Holds session msg := by
  have serves (earlier : CcaData) : serve verdicts { session with ccaData := earlier } =
      event verdicts (.request kind) { session with ccaData := earlier, queue := queue } :=
    @serve_cons verdicts { session with ccaData := earlier } ⟨.request kind, some msg⟩ queue isQueue
  constructor
  · intro ⟨resultCode, answered⟩
    have fills : Fills verdicts session.state kind := by
      apply Classical.byContradiction
      intro unfilled
      -- An answer record that was never filled in has no result code.
      obtain ⟨answer, isSent, answers⟩ := answered CcaData.initial
      rw [serves] at isSent
      have outcome := @event_unfilled verdicts
        { session with ccaData := CcaData.initial, queue := queue } kind rests unfilled
      apply outcome.elim
      · intro silent
        exact List.cons_ne_self _ _ (isSent.symm.trans silent)
      · intro stale
        have isAnswer := (List.cons.inj (isSent.symm.trans stale)).1
        rw [isAnswer] at answers
        cases answers.resultCode
    obtain ⟨answer, isSent, answers⟩ := answered session.ccaData
    have filled := @event_fills verdicts { session with queue := queue } kind fills
    obtain ⟨other, isOther, isType, isNumber, _⟩ := filled
    rw [serves] at isSent
    have same : answer = other := (List.cons.inj (isSent.symm.trans isOther)).1
    subst same
    exact ⟨fills, isType.symm.trans answers.ccRequestType,
      isNumber.symm.trans answers.ccRequestNumber⟩
  · intro ⟨fills, holds⟩
    rw [AnsweredOnce]
    apply Exists.intro (resultCodeFor verdicts kind)
    intro earlier
    have filled := @event_fills verdicts
      { session with ccaData := earlier, queue := queue } kind fills
    obtain ⟨answer, isSent, isType, isNumber, isCode⟩ := filled
    rw [serves]
    exact ⟨answer, isSent, isType.trans holds.ccRequestType,
      isNumber.trans holds.ccRequestNumber, isCode⟩

/-- A request comes with its event, and no other event comes with one. -/
def Sound (queued : CcQueued) : Prop :=
  (∃ kind msg, queued = ⟨.request kind, some msg⟩) ∨
    (queued.request = none ∧ ∀ kind, queued.event ≠ .request kind)

theorem sound_notify {event : CcServerEvent} (sound : ∀ queued ∈ session.queue, Sound queued)
    (isOther : ∀ kind, event ≠ .request kind) :
    ∀ queued ∈ (session.notify event).queue, Sound queued := by
  intro queued listed
  apply (List.mem_append.1 listed).elim (sound queued)
  intro isLast
  rw [List.mem_singleton.1 isLast]
  exact .inr ⟨rfl, isOther⟩

theorem sound_step (rests : session.Rests) (sound : ∀ queued ∈ session.queue, Sound queued)
    (input : CcServerInput) : ∀ queued ∈ (session.step input).queue, Sound queued := by
  cases input with
  | rxRequest msg =>
    rw [step, rxRequest]
    split
    · split
      · exact sound
      · intro queued listed
        apply (List.mem_append.1 listed).elim (sound queued)
        intro isLast
        rw [List.mem_singleton.1 isLast]
        exact .inl ⟨_, msg, rfl⟩
    · exact sound
  | timeout =>
    rw [step]
    split
    · exact sound_notify sound (by rintro _ ⟨⟩)
    · exact sound
  | disconnect => exact sound_notify sound (by rintro _ ⟨⟩)
  | sessionTimeout => exact sound_notify sound (by rintro _ ⟨⟩)
  | generalTimeout => exact sound_notify sound (by rintro _ ⟨⟩)
  | serve verdicts =>
    rw [step]
    cases isQueue : session.queue with
    | nil =>
      rw [serve, isQueue]
      exact sound
    | cons queued queue =>
      rw [serve_cons isQueue, @queue_event verdicts { session with queue := queue } rests]
      intro other listed
      exact sound other (isQueue ▸ List.mem_cons_of_mem _ listed)

theorem sound_run (rests : session.Rests) (sound : ∀ queued ∈ session.queue, Sound queued)
    (inputs : List CcServerInput) : ∀ queued ∈ (session.run inputs).queue, Sound queued := by
  induction inputs generalizing session with
  | nil => exact sound
  | cons input inputs induction =>
    exact induction (rests.step input) (sound_step rests sound input)

/-- An event that is no request is not answered. -/
theorem sent_event {other : CcServerEvent} (rests : session.Rests)
    (isOther : ∀ kind, other ≠ .request kind) :
    (event verdicts other session).sent = session.sent := by
  by_cases expected : Expected session.state other
  · cases expected with
    | request served => exact absurd rfl (isOther _)
    | tccExpired isOpen => rw [event_tccExpired isOpen]
  · rw [event_unexpected rests expected]

theorem sent_rxRequest (msg : Ccr) : (session.rxRequest msg).sent = session.sent := by
  rw [rxRequest]
  split
  · split
    · rfl
    · rfl
  · rfl

theorem belongs_serve_iff (rests : session.Rests)
    (sound : ∀ queued ∈ session.queue, Sound queued) (verdicts : CcVerdicts) :
    Belongs (.serve verdicts) session ↔ Answerable (.serve verdicts) session := by
  cases isQueue : session.queue with
  | nil =>
    have same : (session.step (.serve verdicts)).sent = session.sent := by
      rw [step, serve, isQueue]
    apply iff_of_true
    · refine Belongs.mk ?_ fun _ => same
      intro _ _ _ _ _ isCons
      cases isQueue.symm.trans isCons
    · intro _ _ _ _ _ isCons
      cases isQueue.symm.trans isCons
  | cons queued queue =>
    have isSound := sound queued (isQueue ▸ List.mem_cons_self)
    apply isSound.elim
    · rintro ⟨kind, msg, rfl⟩
      have answered := @answeredOnce_iff verdicts session kind msg queue rests isQueue
      constructor
      · rintro belongs _ _ _ _ ⟨⟩ isCons
        cases isQueue.symm.trans isCons
        exact answered.1 (belongs.answered verdicts _ queue msg rfl isQueue rfl)
      · intro answerable
        constructor
        · rintro _ _ _ _ ⟨⟩ isCons isSome
          cases isQueue.symm.trans isCons
          cases isSome
          exact answered.2 (answerable verdicts kind msg queue rfl isQueue)
        · intro none
          cases none verdicts _ queue rfl isQueue
    · rintro ⟨noRequest, isOther⟩
      have same : (session.step (.serve verdicts)).sent = session.sent := by
        rw [step, serve_cons isQueue]
        exact @sent_event verdicts { session with queue := queue } queued.event rests isOther
      apply iff_of_true
      · refine Belongs.mk ?_ fun _ => same
        intro _ _ _ _ _ isCons isSome
        cases isQueue.symm.trans isCons
        cases noRequest.symm.trans isSome
      · intro _ _ _ _ _ isCons
        cases isQueue.symm.trans isCons
        cases noRequest

theorem belongs_iff (rests : session.Rests) (sound : ∀ queued ∈ session.queue, Sound queued)
    (input : CcServerInput) : Belongs input session ↔ Answerable input session := by
  have unserved (same : (session.step input).sent = session.sent)
      (isOther : ∀ verdicts, input ≠ .serve verdicts) :
      Belongs input session ↔ Answerable input session := by
    apply iff_of_true
    · refine Belongs.mk ?_ fun _ => same
      exact fun verdicts _ _ _ isServe => absurd isServe (isOther verdicts)
    · exact fun verdicts _ _ _ isServe => absurd isServe (isOther verdicts)
  cases input with
  | serve verdicts => exact belongs_serve_iff rests sound verdicts
  | rxRequest msg => exact unserved (sent_rxRequest msg) (by rintro _ ⟨⟩)
  | timeout =>
    apply unserved _ (by rintro _ ⟨⟩)
    rw [step]
    split
    · rfl
    · rfl
  | disconnect => exact unserved rfl (by rintro _ ⟨⟩)
  | sessionTimeout => exact unserved rfl (by rintro _ ⟨⟩)
  | generalTimeout => exact unserved rfl (by rintro _ ⟨⟩)

theorem sound_initial (queued : CcQueued) (listed : queued ∈ initial.queue) : Sound queued :=
  nomatch listed

/-- In a run, the answers belong to their requests just where each step meets the condition. -/
theorem run_belongs_iff (inputs : List CcServerInput) :
    (∀ before input after, inputs = before ++ input :: after →
        Belongs input (initial.run before)) ↔
      ∀ before input after, inputs = before ++ input :: after →
        Answerable input (initial.run before) := by
  have meets (before : List CcServerInput) (input : CcServerInput) :
      Belongs input (initial.run before) ↔ Answerable input (initial.run before) :=
    belongs_iff (rests_initial.run before) (sound_run rests_initial sound_initial before) input
  constructor
  · intro belongs before input after split
    exact (meets before input).1 (belongs before input after split)
  · intro answerable before input after split
    exact (meets before input).2 (answerable before input after split)

/-- An initial request, and an update request that the server accepts. -/
def initialThenUpdate : List CcServerInput :=
  [.rxRequest { ccRequestType := some ccTypeInitialRequest, ccRequestNumber := some 0 },
    .serve {},
    .rxRequest { ccRequestType := some ccTypeUpdateRequest, ccRequestNumber := some 1 }]

/-- The update request is answered with the type and the number of the initial one. -/
theorem updateAnswer_stale :
    ¬Belongs (.serve {}) (initial.run initialThenUpdate) ∧
      (((initial.run initialThenUpdate).step (.serve {})).sent.map fun answer =>
        (answer.ccRequestType, answer.ccRequestNumber)) =
        [(some ccTypeInitialRequest, some 0), (some ccTypeInitialRequest, some 0)] := by
  refine ⟨fun belongs => ?_, by decide⟩
  let update : Ccr :=
    { ccRequestType := some ccTypeUpdateRequest, ccRequestNumber := some 1 }
  obtain ⟨resultCode, answered⟩ := belongs.answered {} ⟨.request .update, some update⟩ [] update
    rfl rfl rfl
  obtain ⟨answer, isSent, answers⟩ := answered CcaData.initial
  cases (List.cons.inj isSent).1
  cases answers.ccRequestType

end OpenDiameter.CreditControl.CcServer
