import OpenDiameter.CreditControl.Client

/-!
What a client does with an event, state by state.
-/

namespace OpenDiameter.CreditControl.CcClient

open OpenDiameter.Framework

variable {callbacks : CcClientCallbacks} {session : CcClient}

/-- The next state and the action of an event. -/
def row (state : CcClientState) (event : CcClientEvent) :
    Option (CcClientState × Option CcClientAction) :=
  (ccClientTable.find state event).map fun entry => (entry.nextState, entry.action)

/-- The session in its next state. -/
def moved (session : CcClient) (next : CcClientState) : CcClient :=
  { session with state := next, expired := session.expired && next = session.state }

/-- The session after the action of its row. -/
def perform (callbacks : CcClientCallbacks) (action : Option CcClientAction)
    (session : CcClient) : CcClient :=
  match action with
  | none => session
  | some action => act callbacks session action

theorem event_row {served : CcClientEvent} {state next : CcClientState}
    {action : Option CcClientAction} (isState : session.state = state)
    (isRow : row state served = some (next, action)) :
    event callbacks session served = perform callbacks action (session.moved next) := by
  subst isState
  rw [row, Option.map_eq_some_iff] at isRow
  obtain ⟨entry, found, isEntry⟩ := isRow
  cases isEntry
  rw [event, found]
  rfl

theorem handleFailure_eq : ∃ more, session.handleFailure callbacks =
      { session with queue := session.queue ++ more } ∧
    more ⊆ [.terminateService, .grantService] := by
  rw [handleFailure]
  split
  · exact ⟨[.terminateService], rfl, List.cons_subset_cons _ (List.nil_subset _)⟩
  · split
    · exact ⟨[.grantService], rfl, List.subset_cons_self _ _⟩
    · refine ⟨[], ?_, List.nil_subset _⟩
      rw [List.append_nil]

/-- The actions keep the state. -/
theorem state_perform (action : Option CcClientAction) :
    (perform callbacks action session).state = session.state := by
  cases action with
  | none => rfl
  | some action =>
    cases action with
    | txExpired =>
      rw [perform, act]
      dsimp only
      split
      · rfl
      · obtain ⟨more, same, _⟩ := @handleFailure_eq callbacks
          { session with tx := false, expired := true }
        rw [same]
    | _ => rfl

/-- The expiry of Tx queues at most one event more. -/
theorem queue_perform (action : Option CcClientAction) :
    ∃ more, (perform callbacks action session).queue = session.queue ++ more ∧
      more ⊆ [.terminateService, .grantService] := by
  have same : ∃ more, session.queue = session.queue ++ more ∧
      more ⊆ [CcClientEvent.terminateService, .grantService] :=
    ⟨[], (List.append_nil _).symm, List.nil_subset _⟩
  cases action with
  | none => exact same
  | some action =>
    cases action with
    | txExpired =>
      rw [perform, act]
      dsimp only
      split
      · exact same
      · obtain ⟨more, isMore, limited⟩ := @handleFailure_eq callbacks
          { session with tx := false, expired := true }
        rw [isMore]
        exact ⟨more, rfl, limited⟩
    | _ => exact same

/-- The actions that send a request. -/
def sends : Option CcClientAction → Bool
  | some .initialRequest => true
  | some .sendRequest => true
  | _ => false

theorem sent_perform (action : Option CcClientAction) :
    (perform callbacks action session).sent =
      if sends action then
        (callbacks.fillRequest session.ccrData).parseAppToRaw :: session.sent
      else session.sent := by
  cases action with
  | none => rfl
  | some action =>
    cases action with
    | txExpired =>
      rw [perform, act]
      dsimp only
      split
      · rfl
      · obtain ⟨more, same, _⟩ := @handleFailure_eq callbacks
          { session with tx := false, expired := true }
        rw [same]
        rfl
    | _ => rfl

/-- The state after an event, by the table. -/
theorem state_event (served : CcClientEvent) :
    (event callbacks session served).state =
      ((row session.state served).map Prod.fst).getD session.state := by
  cases isRow : row session.state served with
  | none =>
    rw [row, Option.map_eq_none_iff] at isRow
    rw [event, isRow]
    rfl
  | some row =>
    rw [event_row rfl isRow, state_perform]
    rfl

theorem queue_event (served : CcClientEvent) :
    ∃ more, (event callbacks session served).queue = session.queue ++ more ∧
      more ⊆ [.terminateService, .grantService] := by
  cases isRow : row session.state served with
  | none =>
    rw [row, Option.map_eq_none_iff] at isRow
    rw [event, isRow]
    exact ⟨[], (List.append_nil _).symm, List.nil_subset _⟩
  | some row =>
    rw [event_row rfl isRow]
    exact @queue_perform callbacks (session.moved row.1) row.2

theorem sent_event (served : CcClientEvent) :
    (event callbacks session served).sent =
      if sends ((row session.state served).bind Prod.snd) then
        (callbacks.fillRequest session.ccrData).parseAppToRaw :: session.sent
      else session.sent := by
  cases isRow : row session.state served with
  | none =>
    rw [row, Option.map_eq_none_iff] at isRow
    rw [event, isRow]
    rfl
  | some row =>
    rw [event_row rfl isRow, sent_perform]
    rfl

/-- An event that sends an event request. -/
def eventRequests : List CcClientEvent :=
  [.directDebitingRequest, .refundAccountRequest, .checkBalanceRequest, .priceEnquiryRequest]

theorem row_idle (event : CcClientEvent) :
    row .stIdle event =
      if event = .initialRequest then some (.stPendingI, some .initialRequest)
      else if event ∈ eventRequests then some (.stPendingE, some .sendRequest)
      else if event = .storedEventSent then some (.stPendingB, none)
      else if event = .initialAnswer then some (.stIdle, none)
      else some (.stTerminated, none) := by
  cases event <;> rfl

theorem row_pendingI (event : CcClientEvent) :
    row .stPendingI event =
      if event = .initialAnswer then some (.stOpen, some .initialAnswer)
      else if event = .txExpired then some (.stPendingI, some .txExpired)
      else if event ∈ [.grantService, .serviceTerminated, .changeInRating] then
        some (.stPendingI, none)
      else if event ∈ [.grantWoSession, .terminateService] then some (.stIdle, none)
      else some (.stTerminated, none) := by
  cases event <;> rfl

theorem row_open (event : CcClientEvent) :
    row .stOpen event =
      if event = .terminationRequest then some (.stPendingT, some .sendRequest)
      else if event = .serviceTerminated then some (.stPendingT, none)
      else if event ∈ [.sentUpdateRequest, .changeInRating, .rarReceived] then
        some (.stPendingU, none)
      else if event = .grantedUnitsElapsed then some (.stOpen, none)
      else some (.stTerminated, none) := by
  cases event <;> rfl

theorem row_pendingB (event : CcClientEvent) :
    row .stPendingB event =
      if event ∈ [.successfulAnswer, .failedAnswer, .failureToSend] then some (.stIdle, none)
      else some (.stTerminated, none) := by
  cases event <;> rfl

theorem row_terminated (event : CcClientEvent) : row .stTerminated event = none := by
  cases event <;> rfl

theorem event_terminated {served : CcClientEvent} (isTerminated : session.state = .stTerminated) :
    event callbacks session served = session := by
  have isRow := row_terminated served
  rw [row, Option.map_eq_none_iff, ← isTerminated] at isRow
  rw [event, isRow]

end OpenDiameter.CreditControl.CcClient
