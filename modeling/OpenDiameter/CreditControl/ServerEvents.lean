import OpenDiameter.CreditControl.Server

/-!
What a server does with an event that it serves between two requests.
-/

namespace OpenDiameter.CreditControl

open OpenDiameter.Framework

/-- The request is valid, and processing it succeeds. -/
def CcVerdicts.Accepts (verdicts : CcVerdicts) (kind : CcRequest) : Prop :=
  verdicts.validate kind = true ∧ verdicts.process kind = true

instance (verdicts : CcVerdicts) (kind : CcRequest) : Decidable (verdicts.Accepts kind) :=
  inferInstanceAs (Decidable (_ ∧ _))

namespace CcServer

variable {verdicts : CcVerdicts} {session : CcServer}

/-- The rows of a request in a state, with the state after a success. -/
inductive Served : CcServerState → CcRequest → CcServerState → Prop where
  | initial : Served .stIdle .initial .stOpen
  | directDebiting : Served .stIdle .directDebiting .stIdle
  | refundAccount : Served .stIdle .refundAccount .stIdle
  | checkBalance : Served .stIdle .checkBalance .stIdle
  | priceEnquiry : Served .stIdle .priceEnquiry .stIdle
  | update : Served .stOpen .update .stOpen
  | termination : Served .stOpen .termination .stIdle

variable {state next : CcServerState} {kind : CcRequest}

theorem Served.rests (served : Served state kind next) :
    next = .stIdle ∨ next = .stOpen ∨ next = .stTerminated := by
  cases served with
  | initial => exact .inr (.inl rfl)
  | update => exact .inr (.inl rfl)
  | _ => exact .inl rfl

/-- The states between two events. -/
def Rests (session : CcServer) : Prop :=
  session.state = .stIdle ∨ session.state = .stOpen ∨ session.state = .stTerminated

/-- What becomes of a request that is accepted. -/
def answerAccepted (verdicts : CcVerdicts) (kind : CcRequest) (session : CcServer) : CcServer :=
  let session := session.successfulAnswer verdicts kind
  if kind = .termination then session.cancelTcc else session

/-- An event with the row of the table for it. -/
theorem eventIn_action {depth : Nat} {event : CcServerEvent} {action : CcServerAction}
    (isState : session.state = state)
    (found : ccServerTable.find state event = some ⟨state, some event, next, some action⟩) :
    eventIn verdicts (depth + 1) event session =
      act verdicts (eventIn verdicts depth) { session with state := next } action := by
  subst isState
  rw [eventIn, found]

/-- The rows that lead from a request to its answer. -/
structure Rows (state next : CcServerState) (kind : CcRequest) where
  validating : CcServerState
  processing : CcServerState
  request : ccServerTable.find state (.request kind) =
    some ⟨state, some (.request kind), validating, some (.validate kind)⟩
  valid : ccServerTable.find validating (.valid kind) =
    some ⟨validating, some (.valid kind), processing, some (.process kind)⟩
  invalid : ccServerTable.find validating (.invalid kind) =
    some ⟨validating, some (.invalid kind), .stIdle, some (.unsuccessfulAnswer kind)⟩
  successful : ccServerTable.find processing (.successful kind) =
    some ⟨processing, some (.successful kind), next, some (.successfulAnswer kind)⟩
  unsuccessful : ccServerTable.find processing (.unsuccessful kind) =
    some ⟨processing, some (.unsuccessful kind), .stIdle, some (.unsuccessfulAnswer kind)⟩

theorem Served.rows (served : Served state kind next) : Nonempty (Rows state next kind) := by
  cases served with
  | initial => exact ⟨.stIdleValidateRequest, .stInitialRequest, rfl, rfl, rfl, rfl, rfl⟩
  | update => exact ⟨.stOpenValidateRequest, .stUpdateRequest, rfl, rfl, rfl, rfl, rfl⟩
  | termination => exact ⟨.stOpenValidateRequest, .stTerminationRequest, rfl, rfl, rfl, rfl, rfl⟩
  | directDebiting => exact ⟨.stIdleValidateRequest, .stEventRequest, rfl, rfl, rfl, rfl, rfl⟩
  | refundAccount => exact ⟨.stIdleValidateRequest, .stEventRequest, rfl, rfl, rfl, rfl, rfl⟩
  | checkBalance => exact ⟨.stIdleValidateRequest, .stEventRequest, rfl, rfl, rfl, rfl, rfl⟩
  | priceEnquiry => exact ⟨.stIdleValidateRequest, .stEventRequest, rfl, rfl, rfl, rfl, rfl⟩

theorem event_request (isState : session.state = state) (served : Served state kind next) :
    event verdicts (.request kind) session =
      if verdicts.Accepts kind then
        answerAccepted verdicts kind { session with state := next }
      else unsuccessfulAnswer verdicts { session with state := .stIdle } kind := by
  obtain ⟨validating, processing, request, valid, invalid, successful, unsuccessful⟩ := served.rows
  rw [event, eventIn_action isState request, act]
  split
  · rename_i isValid
    rw [eventIn_action rfl valid, act]
    split
    · rename_i succeeds
      have accepts : verdicts.Accepts kind := ⟨isValid, succeeds⟩
      rw [if_pos accepts, eventIn_action rfl successful]
      rfl
    · rename_i fails
      rw [if_neg fun accepts => fails accepts.2, eventIn_action rfl unsuccessful]
      rfl
  · rename_i isInvalid
    rw [if_neg fun accepts => isInvalid accepts.1, eventIn_action rfl invalid]
    rfl

theorem event_tccExpired (isOpen : session.state = .stOpen) :
    event verdicts .tccExpired session = { session with state := .stIdle, tcc := false } := by
  rw [event, eventIn_action isOpen rfl]
  rfl

/-- An event that there is a row for. -/
inductive Expected (state : CcServerState) : CcServerEvent → Prop where
  | request {kind : CcRequest} {next : CcServerState} (served : Served state kind next) :
      Expected state (.request kind)
  | tccExpired (isOpen : state = .stOpen) : Expected state .tccExpired

theorem find_unexpected {state : CcServerState} {event : CcServerEvent}
    (rests : state = .stIdle ∨ state = .stOpen ∨ state = .stTerminated)
    (unexpected : ¬Expected state event) :
    ccServerTable.find state event = some ⟨state, none, .stTerminated, none⟩ := by
  have none {kind : CcRequest} {next : CcServerState} (isRequest : event = .request kind)
      (served : Served state kind next) : False := by
    subst isRequest
    exact unexpected (.request served)
  obtain rfl | rfl | rfl := rests
  · cases event with
    | request kind =>
      cases kind with
      | update => rfl
      | termination => rfl
      | initial => exact (none rfl .initial).elim
      | directDebiting => exact (none rfl .directDebiting).elim
      | refundAccount => exact (none rfl .refundAccount).elim
      | checkBalance => exact (none rfl .checkBalance).elim
      | priceEnquiry => exact (none rfl .priceEnquiry).elim
    | _ => rfl
  · cases event with
    | request kind =>
      cases kind with
      | update => exact (none rfl .update).elim
      | termination => exact (none rfl .termination).elim
      | _ => rfl
    | tccExpired => exact absurd (.tccExpired rfl) unexpected
    | _ => rfl
  · rfl

/-- Any other event ends the session for good. -/
theorem event_unexpected {unserved : CcServerEvent} (rests : session.Rests)
    (unexpected : ¬Expected session.state unserved) :
    event verdicts unserved session = { session with state := .stTerminated } := by
  rw [event, eventIn, find_unexpected rests unexpected]

/-! The actions leave the state and the queue as they are. -/

@[simp] theorem state_successfulAnswer (kind : CcRequest) :
    (session.successfulAnswer verdicts kind).state = session.state := by
  cases kind with
  | initial =>
    rw [successfulAnswer]
    split
    · rfl
    · rfl
  | _ => rfl

@[simp] theorem state_unsuccessfulAnswer (kind : CcRequest) :
    (session.unsuccessfulAnswer verdicts kind).state = session.state := by
  cases kind with
  | initial =>
    rw [unsuccessfulAnswer]
    split
    · rfl
    · rfl
  | _ => rfl

@[simp] theorem queue_successfulAnswer (kind : CcRequest) :
    (session.successfulAnswer verdicts kind).queue = session.queue := by
  cases kind with
  | initial =>
    rw [successfulAnswer]
    split
    · rfl
    · rfl
  | _ => rfl

@[simp] theorem queue_unsuccessfulAnswer (kind : CcRequest) :
    (session.unsuccessfulAnswer verdicts kind).queue = session.queue := by
  cases kind with
  | initial =>
    rw [unsuccessfulAnswer]
    split
    · rfl
    · rfl
  | _ => rfl

@[simp] theorem state_answerAccepted (kind : CcRequest) :
    (answerAccepted verdicts kind session).state = session.state := by
  rw [answerAccepted]
  split
  · exact state_successfulAnswer kind
  · exact state_successfulAnswer kind

@[simp] theorem queue_answerAccepted (kind : CcRequest) :
    (answerAccepted verdicts kind session).queue = session.queue := by
  rw [answerAccepted]
  split
  · exact queue_successfulAnswer kind
  · exact queue_successfulAnswer kind

theorem queue_event (rests : session.Rests) (served : CcServerEvent) :
    (event verdicts served session).queue = session.queue := by
  by_cases expected : Expected session.state served
  · cases expected with
    | request isServed =>
      rw [event_request rfl isServed]
      split
      · exact queue_answerAccepted _
      · exact queue_unsuccessfulAnswer _
    | tccExpired isOpen => rw [event_tccExpired isOpen]
  · rw [event_unexpected rests expected]

theorem Rests.event (rests : session.Rests) (served : CcServerEvent) :
    (event verdicts served session).Rests := by
  by_cases expected : Expected session.state served
  · cases expected with
    | request isServed =>
      rw [event_request rfl isServed]
      split
      · rw [Rests, state_answerAccepted]
        exact isServed.rests
      · rw [Rests, state_unsuccessfulAnswer]
        exact .inl rfl
    | tccExpired isOpen =>
      rw [event_tccExpired isOpen]
      exact .inl rfl
  · rw [event_unexpected rests expected]
    exact .inr (.inr rfl)

@[simp] theorem state_rxRequest (msg : Ccr) : (session.rxRequest msg).state = session.state := by
  rw [rxRequest]
  split
  · split
    · rfl
    · rfl
  · rfl

theorem Rests.step (rests : session.Rests) (input : CcServerInput) :
    (session.step input).Rests := by
  cases input with
  | rxRequest msg =>
    rw [CcServer.step, Rests, state_rxRequest]
    exact rests
  | timeout =>
    rw [CcServer.step]
    split
    · exact rests
    · exact rests
  | serve verdicts =>
    rw [CcServer.step, serve]
    split
    · exact rests
    · rename_i queued queue _
      exact @Rests.event verdicts { session with queue := queue } rests queued.event
  | _ => exact rests

theorem Rests.run (rests : session.Rests) (inputs : List CcServerInput) :
    (session.run inputs).Rests := by
  induction inputs generalizing session with
  | nil => exact rests
  | cons input inputs induction => exact induction (rests.step input)

theorem rests_initial : initial.Rests := .inl rfl

end CcServer

end OpenDiameter.CreditControl
