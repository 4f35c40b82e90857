import OpenDiameter.DiameterEap.Authorization
import OpenDiameter.Foundation.Transitions

/-!
What the answers of a session carry of what the EAP server gave for the requests. The EAP server
answers each response that it is given at most once.
-/

namespace OpenDiameter.DiameterEap

open OpenDiameter.Parser OpenDiameter.Foundation

/-- The answer is one to its own request. -/
structure SentDea.Belongs (sent : SentDea) : Prop where
  payload : sent.resultCode ∈ [aaaMultiRoundAuth, aaaSuccess, aaaAuthenticationRejected] →
    ∃ eapMsg, sent.produced = some eapMsg ∧ sent.eapPayload = .of eapMsg
  /-- It may be the message of a success that was not authorized. -/
  erased : sent.resultCode = aaaAuthorizationRejected → sent.eapPayload.isSet = false
  key : sent.resultCode = aaaSuccess → ∀ key ∈ sent.key, sent.eapMasterSessionKey = key

/-- What the EAP server signals is for a response that it has. -/
def EapServerInput.Prompted (sm : EapServer) : EapServerInput → Prop
  | .signalContinue _ | .signalSuccess _ _ | .signalFailure _ => sm.outstanding = true
  | _ => True

def EapServerEvent.isEap : EapServerEvent → Bool
  | .rxEapRequest | .rxEapSuccess | .rxEapFailure => true
  | _ => false

namespace EapServer

abbrev Course : EapServer → Prop :=
  Reached (fun sm => sm = initial) (fun sm input next => next = sm.step input)
    fun sm input => input.Prompted sm

/-- The answers of the EAP server that are on their way, with the one that is still to come. -/
def pending (sm : EapServer) : Nat :=
  sm.queue.countP EapServerEvent.isEap + sm.outstanding.toNat

def HasKey (sm : EapServer) : Prop := ∀ key ∈ sm.key, sm.deaData .eapMasterSessionKey = key

/-- The record of the answer has what the EAP server gave. -/
structure Gave (sm : EapServer) : Prop where
  payload : ∃ eapMsg, sm.produced = some eapMsg ∧ sm.deaData .eapPayload = .of eapMsg
  key : sm.HasKey

/-- The EAP server has nothing to answer but the response to the request that was forwarded. -/
structure Rounds (sm : EapServer) : Prop where
  rests : sm.state ≠ .stCheckDer ∧ sm.state ≠ .stWaitAuthorization
  idle : sm.state ∈ [.stInitialize, .stWaitDer, .stAccepted] → sm.pending = 0
  waits : sm.state = .stWaitEapMsg → sm.pending ≤ 1
  gave : sm.state = .stWaitEapMsg → sm.outstanding = false → sm.Gave
  sent : ∀ sent ∈ sm.sent, sent.Belongs

theorem initial_rounds : initial.Rounds where
  rests := by decide
  idle := fun _ => rfl
  waits := fun isWaiting => nomatch isWaiting
  gave := fun isWaiting => nomatch isWaiting
  sent := fun _ isSent => nomatch isSent

/-! What the functions of the application leave as it is. -/

structure Alike (before after : EapServer) : Prop where
  state : after.state = before.state
  queue : after.queue = before.queue
  outstanding : after.outstanding = before.outstanding
  sent : after.sent = before.sent

/-- What the EAP server gave, too. -/
structure Unspent (before after : EapServer) : Prop extends Alike before after where
  gave : before.Gave → after.Gave

section

variable {before middle after sm : EapServer} (policy : EapServerPolicy)

theorem Alike.trans (first : Alike before middle) (second : Alike middle after) :
    Alike before after where
  state := second.state.trans first.state
  queue := second.queue.trans first.queue
  outstanding := second.outstanding.trans first.outstanding
  sent := second.sent.trans first.sent

theorem Unspent.refl : Unspent sm sm := ⟨⟨rfl, rfl, rfl, rfl⟩, id⟩

theorem Unspent.trans (first : Unspent before middle) (second : Unspent middle after) :
    Unspent before after :=
  ⟨first.toAlike.trans second.toAlike, second.gave ∘ first.gave⟩

theorem enforced_payload (authorizer : Authorizer) (dea : DeaData) :
    policy.enforced authorizer dea .eapPayload = dea .eapPayload := by
  cases authorizer <;> rfl

theorem enforced_key {authorizer : Authorizer} (other : authorizer ≠ .eapMasterSessionKey)
    (dea : DeaData) :
    policy.enforced authorizer dea .eapMasterSessionKey = dea .eapMasterSessionKey := by
  cases authorizer with
  | eapMasterSessionKey => exact absurd rfl other
  | _ => rfl

theorem call_unspent (call : AuthorizeCall) : Unspent sm (sm.call policy call) where
  toAlike := ⟨rfl, rfl, rfl, rfl⟩
  gave := by
    intro gave
    constructor
    · obtain ⟨eapMsg, isProduced, isPayload⟩ := gave.payload
      exact ⟨eapMsg, isProduced, (enforced_payload policy _ _).trans isPayload⟩
    · intro key isKey
      obtain ⟨authorizer, requested⟩ := call
      by_cases isMsk : authorizer = .eapMasterSessionKey
      · subst isMsk
        change key ∈ sm.key.map (policy.enforce .eapMasterSessionKey) at isKey
        obtain ⟨own, isOwn, rfl⟩ := Option.map_eq_some_iff.mp isKey
        rw [← gave.key own isOwn]
        rfl
      · change key ∈ (if authorizer = .eapMasterSessionKey then _ else sm.key) at isKey
        rw [if_neg isMsk] at isKey
        exact (enforced_key policy isMsk _).trans (gave.key key isKey)

theorem runStatements_unspent (statements : List AuthorizeStatement) (r : Bool) :
    Unspent sm (runStatements policy statements r sm).2 := by
  induction statements generalizing r sm with
  | nil => exact .refl
  | cons statement statements induction =>
    cases statement with
    | test call =>
      rw [runStatements]
      split
      · exact (call_unspent policy call).trans (induction r)
      · exact call_unspent policy call
    | assign call => exact (call_unspent policy call).trans (induction _)
    | drop call => exact (call_unspent policy call).trans (induction r)
    | testR =>
      rw [runStatements]
      split
      · exact induction r
      · exact .refl

theorem authorize_unspent : Unspent sm (sm.authorize policy).2 := by
  rw [authorize]
  split
  · exact .refl
  · have ran : Unspent sm
        (runStatements policy (AuthorizeStatement.all sm.derData) false sm).2 :=
      runStatements_unspent policy _ false
    split
    · rename_i outcome
      rw [outcome] at ran
      exact ⟨⟨ran.state, ran.queue, ran.outstanding, ran.sent⟩, fun gave =>
        ⟨(ran.gave gave).payload, (ran.gave gave).key⟩⟩
    · rename_i outcome
      rw [outcome] at ran
      exact ran

theorem checkDer_alike : Alike sm (sm.checkDer policy).2 := by
  rw [checkDer]
  dsimp only
  split
  · exact ⟨rfl, rfl, rfl, rfl⟩
  · split
    · exact ⟨rfl, rfl, rfl, rfl⟩
    · split
      · exact ⟨rfl, rfl, rfl, rfl⟩
      · exact ⟨rfl, rfl, rfl, rfl⟩

end

/-! The turns of the session. -/

section

variable {sm : EapServer} (policy : EapServerPolicy)

theorem forall_sendDea {Good : SentDea → Prop} (good : ∀ sent ∈ sm.sent, Good sent)
    (new : Good ⟨(sm.setDea .authApplicationId (.of eapApplicationId)).deaData, sm.ders, sm.calls,
      sm.produced, sm.key⟩) : ∀ sent ∈ (sm.sendDea policy).sent, Good sent := by
  rw [sendDea]
  dsimp only
  split
  · exact List.forall_mem_cons.mpr ⟨new, good⟩
  · exact good

/-- Once it is over nothing is answered. -/
theorem rounds_over (ended : sm.state = .stRejected ∨ sm.state = .stTerminated)
    (sent : ∀ sent ∈ sm.sent, sent.Belongs) : sm.Rounds := by
  have other : sm.state ∉ [.stInitialize, .stWaitDer, .stAccepted] ∧
      sm.state ≠ .stWaitEapMsg ∧ sm.state ≠ .stCheckDer ∧ sm.state ≠ .stWaitAuthorization := by
    rcases ended with ended | ended
    · rw [ended]
      decide
    · rw [ended]
      decide
  exact ⟨other.2.2, fun isIdle => absurd isIdle other.1, fun waits => absurd waits other.2.1,
    fun waits => absurd waits other.2.1, sent⟩

/-- The session waits for the next request. -/
theorem setDea_state (attr : DeaAttribute) (content : attr.shape.Content) :
    (sm.setDea attr content).state = sm.state := rfl

theorem setDea_pending (attr : DeaAttribute) (content : attr.shape.Content) :
    (sm.setDea attr content).pending = sm.pending := rfl

theorem sendDea_state : (sm.sendDea policy).state = sm.state := rfl

theorem sendDea_pending : (sm.sendDea policy).pending = sm.pending := rfl

theorem rounds_idle (idle : sm.state ∈ [.stInitialize, .stWaitDer, .stAccepted])
    (settled : sm.pending = 0) (sent : ∀ sent ∈ sm.sent, sent.Belongs) : sm.Rounds := by
  have other : sm.state ≠ .stWaitEapMsg ∧ sm.state ≠ .stCheckDer ∧
      sm.state ≠ .stWaitAuthorization := by
    refine ⟨?_, ?_, ?_⟩ <;> intro same <;> rw [same] at idle <;> exact absurd idle (by decide)
  exact ⟨other.2, fun _ => settled, fun waits => absurd waits other.1,
    fun waits => absurd waits other.1, sent⟩

theorem invalid_belongs {dea : DeaData} {ders : List DerData} {calls : List MadeCall}
    {produced : Option (List UInt8)} {key : Option (ScholarAttribute (List UInt8))} :
    SentDea.Belongs ⟨Function.update (Function.update dea .resultCode (.of aaaInvalidAvpValue))
      .authApplicationId (.of eapApplicationId), ders, calls, produced, key⟩ where
  payload := fun isCode => absurd (show aaaInvalidAvpValue ∈ _ from isCode) (by decide)
  erased := fun isCode => absurd (show aaaInvalidAvpValue = _ from isCode) (by decide)
  key := fun isCode => absurd (show aaaInvalidAvpValue = _ from isCode) (by decide)

/-- A request is checked where the EAP server has nothing to answer. -/
theorem checked_rounds (checking : sm.state = .stCheckDer) (settled : sm.pending = 0)
    (sent : ∀ sent ∈ sm.sent, sent.Belongs) (depth : Nat) :
    (sm.act policy (eventIn policy (depth + 1)) .checkDer).Rounds := by
  rw [act]
  have alike : Alike _ (checkDer policy { sm with
      ders := sm.derData :: sm.ders, produced := none, key := none }).2 := checkDer_alike policy
  split
  · rename_i checked outcome
    rw [outcome] at alike
    have isChecking : checked.state = .stCheckDer := alike.state.trans checking
    rw [eventIn, isChecking]
    show Rounds { checked with state := .stWaitEapMsg, forwarded := _, outstanding := true }
    have notIdle : EapServerState.stWaitEapMsg ∉ [.stInitialize, .stWaitDer, .stAccepted] := by
      decide
    refine ⟨⟨by rintro ⟨⟩, by rintro ⟨⟩⟩,
      fun isIdle => absurd isIdle notIdle, fun _ => ?_, (by rintro _ ⟨⟩), ?_⟩
    · show checked.queue.countP EapServerEvent.isEap + 1 ≤ 1
      rw [alike.queue]
      exact Nat.succ_le_succ (Nat.le_of_eq (Nat.add_eq_zero_iff.mp settled).1)
    · rw [← alike.sent] at sent
      exact sent
  · rename_i checked outcome
    rw [outcome] at alike
    have isChecking : checked.state = .stCheckDer := alike.state.trans checking
    rw [eventIn, isChecking]
    show Rounds ((EapServer.setDea .resultCode (.of aaaInvalidAvpValue)
      { checked with state := .stRejected }).sendDea policy)
    apply rounds_over (.inl rfl)
    apply forall_sendDea
    · rw [← alike.sent] at sent
      exact sent
    · exact invalid_belongs

/-- An answer with what the EAP server gave. -/
theorem gave_belongs {sent : SentDea} (gave : sm.Gave) (produced : sent.produced = sm.produced)
    (payload : sent.eapPayload = sm.deaData .eapPayload) (key : sent.key = sm.key)
    (isKey : sent.eapMasterSessionKey = sm.deaData .eapMasterSessionKey)
    (answered : sent.resultCode ≠ aaaAuthorizationRejected) : sent.Belongs where
  payload := by
    intro _
    obtain ⟨eapMsg, isProduced, isPayload⟩ := gave.payload
    exact ⟨eapMsg, produced.trans isProduced, payload.trans isPayload⟩
  erased := fun isCode => absurd isCode answered
  key := fun _ signalled isSignalled =>
    isKey.trans (gave.key signalled (by rw [← key]; exact isSignalled))

theorem accepted_rounds (authorizing : sm.state = .stWaitAuthorization) (gave : sm.Gave)
    (settled : sm.pending = 0) (sent : ∀ sent ∈ sm.sent, sent.Belongs) (depth : Nat) :
    (eventIn policy (depth + 1) .sgAuthorizationSuccess sm).Rounds := by
  rw [eventIn, authorizing]
  show Rounds ((EapServer.setDea .resultCode (.of aaaSuccess)
    { sm with state := .stAccepted }).sendDea policy)
  apply rounds_idle
  · exact show EapServerState.stAccepted ∈ [.stInitialize, .stWaitDer, .stAccepted] by decide
  · exact settled
  · apply forall_sendDea
    · exact sent
    · exact gave_belongs gave rfl rfl rfl rfl (show aaaSuccess ≠ _ by decide)

theorem refused_rounds (authorizing : sm.state = .stWaitAuthorization)
    (sent : ∀ sent ∈ sm.sent, sent.Belongs) (depth : Nat) :
    (eventIn policy (depth + 1) .sgAuthorizationFailure sm).Rounds := by
  rw [eventIn, authorizing]
  show Rounds ((EapServer.setDea .resultCode (.of aaaAuthorizationRejected) (EapServer.setDea
    .eapPayload _ { sm with state := .stRejected })).sendDea policy)
  apply rounds_over (.inl rfl)
  apply forall_sendDea
  · exact sent
  · constructor
    · exact fun isCode => absurd (show aaaAuthorizationRejected ∈ _ from isCode) (by decide)
    · exact fun _ => rfl
    · exact fun isCode => absurd (show aaaAuthorizationRejected = _ from isCode) (by decide)

theorem authorized_rounds (authorizing : sm.state = .stWaitAuthorization) (gave : sm.Gave)
    (settled : sm.pending = 0) (sent : ∀ sent ∈ sm.sent, sent.Belongs) (depth : Nat) :
    (sm.act policy (eventIn policy (depth + 1)) .authorize).Rounds := by
  rw [act]
  split
  · exact accepted_rounds policy authorizing gave settled sent depth
  · have unspent : Unspent sm (sm.authorize policy).2 := authorize_unspent policy
    split
    · rename_i authorized outcome
      rw [outcome] at unspent
      apply accepted_rounds policy (unspent.state.trans authorizing) (unspent.gave gave)
      · rw [pending, unspent.queue, unspent.outstanding]
        exact settled
      · rw [unspent.sent]
        exact sent
    · rename_i authorized outcome
      rw [outcome] at unspent
      apply refused_rounds policy (unspent.state.trans authorizing)
      rw [unspent.sent]
      exact sent

theorem continued_rounds (isNext : sm.state = .stWaitDer) (gave : sm.Gave)
    (settled : sm.pending = 0) (sent : ∀ sent ∈ sm.sent, sent.Belongs)
    {event : EapServerEvent → EapServer → EapServer} :
    (sm.act policy event .sendDeaWithContinue).Rounds := by
  rw [act]
  apply rounds_idle
  · rw [sendDea_state, setDea_state, setDea_state]
    show sm.state ∈ _
    rw [isNext]
    decide
  · rw [sendDea_pending, setDea_pending, setDea_pending]
    exact settled
  · apply forall_sendDea
    · exact sent
    · exact gave_belongs gave rfl rfl rfl rfl (show aaaMultiRoundAuth ≠ _ by decide)

theorem failed_rounds (isNext : sm.state = .stRejected) (gave : sm.Gave)
    (sent : ∀ sent ∈ sm.sent, sent.Belongs) {event : EapServerEvent → EapServer → EapServer} :
    (sm.act policy event .sendDeaDueToAuthenticationFailure).Rounds := by
  apply rounds_over
  · exact .inl isNext
  · apply forall_sendDea
    · exact sent
    · exact gave_belongs gave rfl rfl rfl rfl (show aaaAuthenticationRejected ≠ _ by decide)

variable {event : EapServerEvent}

/-- What the table has for a state in which the session rests. -/
theorem turn_cases {state : EapServerState}
    {entry : Framework.StateTableEntry EapServerState EapServerEvent EapServerAction}
    (found : eapServerTable.find state event = some entry)
    (rests : state ≠ .stCheckDer ∧ state ≠ .stWaitAuthorization) :
    (entry.nextState ∈ [.stRejected, .stTerminated] ∧ entry.action = none) ∨
      (state ∈ [.stInitialize, .stWaitDer, .stAccepted] ∧ event.isEap = false ∧
        entry.nextState = .stCheckDer ∧ entry.action = some .checkDer) ∨
      (state = .stWaitEapMsg ∧ event.isEap = true ∧
        ((entry.nextState = .stWaitDer ∧ entry.action = some .sendDeaWithContinue) ∨
          (entry.nextState = .stWaitAuthorization ∧ entry.action = some .authorize) ∨
          (entry.nextState = .stRejected ∧
            entry.action = some .sendDeaDueToAuthenticationFailure))) := by
  cases state <;> cases event <;> cases found <;> simp_all [EapServerEvent.isEap]

theorem turn_found {state : EapServerState} (rests : state ≠ .stCheckDer)
    (event : EapServerEvent) : eapServerTable.find state event ≠ none := by
  cases state with
  | stCheckDer => exact absurd rfl rests
  | _ => cases event <;> exact fun missing => nomatch missing

/-- What the EAP server gave is served where it has nothing else to answer. -/
theorem gave_of_waiting (isEap : event.isEap = true) (waiting : sm.state = .stWaitEapMsg)
    (before : Rounds { sm with queue := event :: sm.queue }) : sm.Gave ∧ sm.pending = 0 := by
  have waits := before.waits waiting
  rw [pending, List.countP_cons_of_pos isEap] at waits
  have settled : sm.queue.countP EapServerEvent.isEap + sm.outstanding.toNat = 0 := by
    change sm.queue.countP EapServerEvent.isEap + 1 + sm.outstanding.toNat ≤ 1 at waits
    omega
  have given : sm.outstanding = false := by
    cases outstanding : sm.outstanding with
    | false => rfl
    | true =>
      rw [outstanding] at settled
      exact nomatch settled
  have gave := before.gave waiting given
  exact ⟨⟨gave.payload, gave.key⟩, settled⟩

/-- A request, or what the EAP server gave, is served; anything else ends the session. -/
theorem event_rounds (before : Rounds { sm with queue := event :: sm.queue }) :
    (sm.event policy event).Rounds := by
  rw [EapServer.event, eventIn]
  split
  · rename_i missing
    exact absurd missing (turn_found before.rests.1 event)
  · rename_i entry found
    rcases turn_cases found before.rests with ⟨isOver, noAction⟩ |
      ⟨isIdle, notEap, isNext, isAction⟩ | ⟨isWaiting, isEap, answered⟩
    · rw [noAction]
      show Rounds { sm with state := entry.nextState }
      apply rounds_over
      · simpa using isOver
      · exact before.sent
    · rw [isNext, isAction]
      have settled := before.idle isIdle
      rw [pending, List.countP_cons_of_neg (by rw [notEap]; exact Bool.false_ne_true)] at settled
      have checking : EapServer.state { sm with state := .stCheckDer } = .stCheckDer := rfl
      exact checked_rounds policy checking settled before.sent 0
    · have given := gave_of_waiting isEap isWaiting before
      rcases answered with ⟨isNext, isAction⟩ | ⟨isNext, isAction⟩ | ⟨isNext, isAction⟩
      · rw [isNext, isAction]
        have isNext : EapServer.state { sm with state := .stWaitDer } = .stWaitDer := rfl
        exact continued_rounds policy isNext ⟨given.1.payload, given.1.key⟩ given.2 before.sent
      · rw [isNext, isAction]
        have authorizing :
            EapServer.state { sm with state := .stWaitAuthorization } = .stWaitAuthorization := rfl
        exact authorized_rounds policy authorizing ⟨given.1.payload, given.1.key⟩ given.2
          before.sent 0
      · rw [isNext, isAction]
        have isNext : EapServer.state { sm with state := .stRejected } = .stRejected := rfl
        exact failed_rounds policy isNext ⟨given.1.payload, given.1.key⟩ before.sent

/-- The states alike as far as the rounds go. -/
structure SameRound (before after : EapServer) : Prop where
  state : after.state = before.state
  outstanding : after.outstanding = before.outstanding
  count : after.queue.countP EapServerEvent.isEap = before.queue.countP EapServerEvent.isEap
  sent : after.sent = before.sent

theorem Rounds.of_same {other : EapServer} (rounds : sm.Rounds) (same : SameRound sm other)
    (gave : sm.Gave → other.Gave) : other.Rounds := by
  have pending_eq : other.pending = sm.pending := by
    rw [pending, pending, same.count, same.outstanding]
  constructor
  · rw [same.state]
    exact rounds.rests
  · rw [same.state, pending_eq]
    exact rounds.idle
  · rw [same.state, pending_eq]
    exact rounds.waits
  · rw [same.state, same.outstanding]
    exact fun waiting given => gave (rounds.gave waiting given)
  · rw [same.sent]
    exact rounds.sent

theorem count_posted {queue : List EapServerEvent} (notEap : event.isEap = false) :
    (queue ++ [event]).countP EapServerEvent.isEap = queue.countP EapServerEvent.isEap := by
  rw [List.countP_append, List.countP_singleton, notEap]
  rfl

theorem Rounds.signal (rounds : sm.Rounds) (isEap : event.isEap = true) (eapMsg : List UInt8)
    (key : Option (List UInt8)) (prompted : sm.outstanding = true) :
    (sm.signal event eapMsg key).Rounds := by
  have counted : (sm.signal event eapMsg key).pending = sm.pending := by
    show (sm.queue ++ [event]).countP EapServerEvent.isEap + 0 = _
    rw [pending, List.countP_append, List.countP_singleton, isEap, prompted]
    rfl
  constructor
  · exact rounds.rests
  · intro isIdle
    rw [counted]
    exact rounds.idle isIdle
  · intro waiting
    rw [counted]
    exact rounds.waits waiting
  · intro _ _
    constructor
    · refine ⟨eapMsg, rfl, ?_⟩
      cases key <;> rfl
    · intro signalled isSignalled
      cases key with
      | none => exact nomatch isSignalled
      | some key =>
        cases isSignalled
        rfl
  · exact rounds.sent

theorem Rounds.step {input : EapServerInput} (rounds : sm.Rounds)
    (prompted : input.Prompted sm) : (sm.step input).Rounds := by
  have posted (event : EapServerEvent) (notEap : event.isEap = false) :
      (sm.notify event).Rounds :=
    rounds.of_same ⟨rfl, rfl, count_posted notEap, rfl⟩ fun gave => ⟨gave.payload, gave.key⟩
  cases input with
  | rxDer der parsed =>
    cases parsed with
    | true =>
      exact rounds.of_same ⟨rfl, rfl, count_posted rfl, rfl⟩ fun gave =>
        ⟨gave.payload, gave.key⟩
    | false => exact rounds.of_same ⟨rfl, rfl, rfl, rfl⟩ fun gave => ⟨gave.payload, gave.key⟩
  | signalContinue eapMsg => exact rounds.signal rfl eapMsg none prompted
  | signalSuccess eapMsg key => exact rounds.signal rfl eapMsg key prompted
  | signalFailure eapMsg => exact rounds.signal rfl eapMsg none prompted
  | authorize policy =>
    have unspent : Unspent sm (sm.authorize policy).2 := authorize_unspent policy
    have counted : (sm.authorize policy).2.queue.countP EapServerEvent.isEap =
        sm.queue.countP EapServerEvent.isEap := by rw [unspent.queue]
    exact rounds.of_same ⟨unspent.state, unspent.outstanding, counted, unspent.sent⟩ unspent.gave
  | serve policy =>
    rw [EapServer.step, serve]
    split
    · exact rounds
    · rename_i event queue isQueue
      apply event_rounds
      have same {other : EapServer} (state : other.state = sm.state)
          (outstanding : other.outstanding = sm.outstanding) (sent : other.sent = sm.sent)
          (gave : sm.Gave → other.Gave) :
          Rounds { other with queue := event :: queue } :=
        rounds.of_same ⟨state, outstanding, by rw [isQueue], sent⟩ fun given =>
          ⟨(gave given).payload, (gave given).key⟩
      split
      · exact same rfl rfl rfl fun gave => ⟨gave.payload, gave.key⟩
      · exact same rfl rfl rfl fun gave => ⟨gave.payload, gave.key⟩
  | disconnect => exact posted .sgDisconnect rfl
  | sessionTimeout => exact posted .sgSessionTimeout rfl
  | authLifetimeTimeout => exact posted .sgAuthLifetimeTimeout rfl
  | authGracePeriodTimeout => exact posted .sgAuthGracePeriodTimeout rfl
  | timeout => exact posted .sgTimeout rfl

/-- Each signal is for a response that the EAP server has when it comes. -/
def AllPrompted : List EapServerInput → EapServer → Prop
  | [], _ => True
  | input :: inputs, sm => input.Prompted sm ∧ AllPrompted inputs (sm.step input)

theorem Course.run (course : sm.Course) {inputs : List EapServerInput}
    (prompted : AllPrompted inputs sm) : (sm.run inputs).Course := by
  induction inputs generalizing sm with
  | nil => exact course
  | cons input inputs induction =>
    exact induction (course.after input rfl prompted.1) prompted.2

theorem Course.rounds (course : sm.Course) : sm.Rounds := by
  apply course.invariant Rounds
  · intro sm isInitial
    rw [isInitial]
    exact initial_rounds
  · intro sm input next rounds isNext prompted
    rw [isNext]
    exact rounds.step prompted

end

end EapServer

/-- Each answer belongs to its own request, and one that refuses the authorization has no
payload. -/
theorem answers_belong {sm : EapServer} (course : sm.Course) {sent : SentDea}
    (isSent : sent ∈ sm.sent) : sent.Belongs :=
  (EapServer.Course.rounds course).sent sent isSent

namespace AcceptedRequest

/-- A success with a payload and a key. -/
def keyInputs (refused : List Authorizer) : List EapServerInput :=
  [.rxDer request true, .serve (policy refused), .signalSuccess [3] (some [7]),
    .serve (policy refused)]

def answered (refused : List Authorizer) : EapServer := EapServer.initial.run (keyInputs refused)

theorem answered_course (refused : List Authorizer) : (answered refused).Course :=
  EapServer.Course.run (.start rfl) ⟨trivial, trivial, rfl, trivial, trivial⟩

end AcceptedRequest

open AcceptedRequest in
theorem success_belongs :
    ∃ sent ∈ (answered []).sent, sent.Belongs ∧ sent.resultCode = aaaSuccess ∧
      sent.eapPayload = .of [3] ∧ sent.eapMasterSessionKey = .of [7] :=
  ⟨_, List.mem_cons_self, answers_belong (answered_course []) List.mem_cons_self, rfl, rfl, rfl⟩

open AcceptedRequest in
/-- The EAP server has given a payload, and the answer has none. -/
theorem refused_success_erased :
    (answered [.originHost]).Course ∧ ∃ sent ∈ (answered [.originHost]).sent,
      sent.resultCode = aaaAuthorizationRejected ∧ sent.produced = some [3] ∧
        sent.eapPayload.isSet = false :=
  ⟨answered_course _, _, List.mem_cons_self, rfl, rfl, rfl⟩

end OpenDiameter.DiameterEap
