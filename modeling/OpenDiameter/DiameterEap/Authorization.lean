import OpenDiameter.DiameterEap.Server

/-!
What a success answer says about the authorization functions that have a verdict.
-/

namespace OpenDiameter.DiameterEap

open OpenDiameter.Parser

namespace SentDea

variable (sent : SentDea)

/-- A success for an authentication that asks for authorization. -/
structure Accepts : Prop where
  success : sent.resultCode = aaaSuccess
  asks : sent.authRequestType ≠ authenticationOnly

/-- On the data of a request of the authentication each function was called in the form that is
meant for it, and agreed. -/
def Authorizes : Prop :=
  ∃ der ∈ sent.ders, ∀ authorizer, ∃ made ∈ sent.calls,
    made.call = der.applicable authorizer ∧ made.der = der ∧ made.verdict = true

end SentDea

/-! Which verdicts `Authorize` is up to. -/

section

variable (policy : EapServerPolicy) {statements : List AuthorizeStatement} {der : DerData}
  {r : Bool}

/-- What `Authorize` returns after the statements. -/
def outcome : List AuthorizeStatement → (r : Bool) → Bool
  | [], _ => true
  | .test call :: rest, r => policy.authorize call && outcome rest r
  | .assign call :: rest, _ => outcome rest (policy.authorize call)
  | .drop _ :: rest, r => outcome rest r
  | .testR :: rest, r => r && outcome rest r

theorem runStatements_outcome (sm : EapServer) :
    (EapServer.runStatements policy statements r sm).1 = outcome policy statements r := by
  induction statements generalizing r sm with
  | nil => rfl
  | cons statement statements induction =>
    cases statement with
    | test call =>
      rw [EapServer.runStatements, outcome]
      cases policy.authorize call with
      | true => exact induction _
      | false => rfl
    | assign call => exact induction _
    | drop call => exact induction _
    | testR =>
      rw [EapServer.runStatements, outcome]
      cases r with
      | true => exact induction _
      | false => rfl

variable {authorizer : Authorizer}

theorem applicable_single (isSingle : authorizer.requested = none) :
    der.applicable authorizer = ⟨authorizer, false⟩ := by
  rw [DerData.applicable, isSingle, Option.map_none, Option.getD_none]

theorem outcome_single (der : DerData) (isSingle : authorizer.requested = none) :
    outcome policy (AuthorizeStatement.single authorizer ++ statements) r =
      (policy.authorize (der.applicable authorizer) && outcome policy statements r) := by
  rw [applicable_single isSingle]
  rfl

theorem outcome_last (der : DerData) (isSingle : authorizer.requested = none) :
    outcome policy (AuthorizeStatement.single authorizer) r =
      policy.authorize (der.applicable authorizer) := by
  rw [applicable_single isSingle]
  exact Bool.and_true _

theorem outcome_checked (call : AuthorizeCall) :
    outcome policy ([.assign call, .testR] ++ statements) r =
      (policy.authorize call && outcome policy statements true) := by
  show (policy.authorize call && outcome policy statements (policy.authorize call)) = _
  cases policy.authorize call <;> rfl

theorem outcome_either (authorizer : Authorizer) :
    outcome policy (AuthorizeStatement.either der authorizer ++ statements) r =
      (policy.authorize (der.applicable authorizer) && outcome policy statements true) :=
  outcome_checked policy _

/-- The variable still holds the verdict on the port limit. -/
theorem outcome_callback {first second : AuthorizeCall} :
    outcome policy ([.drop first, .drop second, .testR] ++ statements) r =
      (r && outcome policy statements r) := rfl

theorem outcome_ipAddress {asked other : AuthorizeCall} {isSet : Bool} :
    outcome policy ([if isSet then .assign asked else .drop other, .testR] ++ statements) true =
      ((!isSet || policy.authorize asked) && outcome policy statements true) := by
  cases isSet with
  | true => exact outcome_checked policy asked
  | false => rfl

/-- The functions whose verdict is looked at, when they are called as they are meant to be. -/
def Heeded (der : DerData) : Authorizer → Prop
  | .multiRoundTimeOut | .callbackId | .callbackNumber | .framedCompression => False
  | .framedIpAddress => der.isSet .framedIpAddress = true
  | _ => True

theorem outcome_all_iff :
    outcome policy (AuthorizeStatement.all der) false = true ↔
      policy.authorize ⟨.framedCompression, !der.isSet .framedCompression⟩ = true ∧
        ∀ authorizer, Heeded der authorizer →
          policy.authorize (der.applicable authorizer) = true := by
  have address : (!der.isSet .framedIpAddress || policy.authorize ⟨.framedIpAddress, true⟩) = true ↔
      (der.isSet .framedIpAddress = true →
        policy.authorize (der.applicable .framedIpAddress) = true) := by
    rw [DerData.applicable, Authorizer.requested, Option.map_some, Option.getD_some]
    cases der.isSet .framedIpAddress with
    | true => exact ⟨fun agrees _ => agrees, fun agrees => agrees rfl⟩
    | false => exact ⟨fun _ isSet => (nomatch isSet), fun _ => rfl⟩
  unfold AuthorizeStatement.all
  simp (disch := decide) only [List.append_assoc, outcome_single policy der, outcome_either,
    outcome_callback, outcome_checked, outcome_ipAddress, outcome_last policy der, Bool.true_and,
    Bool.and_eq_true, address]
  constructor
  · intro verdicts
    constructor
    · simp only [verdicts]
    · intro authorizer heeded
      cases authorizer with
      | multiRoundTimeOut | callbackId | callbackNumber | framedCompression => exact heeded.elim
      | framedIpAddress => simp only [verdicts, show der.isSet .framedIpAddress = true from heeded]
      | _ => simp only [verdicts]
  · rintro ⟨compression, verdicts⟩
    have whenSet : der.isSet .framedIpAddress = true →
        policy.authorize (der.applicable .framedIpAddress) = true := verdicts .framedIpAddress
    and_intros
    all_goals first
      | exact verdicts _ trivial
      | exact compression
      | exact whenSet

end

/-! The form of AuthorizeFramedCompression that is called. -/

/-- The form that is called is not the one that is meant. -/
def Inverts (der : DerData) (call : AuthorizeCall) : Prop :=
  call.authorizer = .framedCompression → call.requested = !der.isSet .framedCompression

def AuthorizeStatement.called : AuthorizeStatement → Option AuthorizeCall
  | .test call | .assign call | .drop call => some call
  | .testR => none

/-- So it is with each call of the statements. -/
def AllInvert (der : DerData) (statements : List AuthorizeStatement) : Prop :=
  ∀ call ∈ statements.filterMap AuthorizeStatement.called, Inverts der call

section

variable {der : DerData} {first rest : List AuthorizeStatement} {authorizer : Authorizer}

theorem allInvert_append :
    AllInvert der (first ++ rest) ↔ AllInvert der first ∧ AllInvert der rest := by
  rw [AllInvert, List.filterMap_append]
  exact List.forall_mem_append

theorem inverts_other {call : AuthorizeCall} (other : call.authorizer ≠ .framedCompression) :
    Inverts der call :=
  fun isCompression => absurd isCompression other

theorem single_inverts (other : authorizer ≠ .framedCompression) :
    AllInvert der (AuthorizeStatement.single authorizer) :=
  List.forall_mem_singleton.mpr (inverts_other other)

theorem either_inverts (other : authorizer ≠ .framedCompression) :
    AllInvert der (AuthorizeStatement.either der authorizer) :=
  List.forall_mem_singleton.mpr (inverts_other other)

theorem callback_inverts :
    AllInvert der [.drop ⟨.callbackId, false⟩, .drop (der.applicable .callbackNumber), .testR] := by
  have other : ∀ call ∈ [⟨.callbackId, false⟩, der.applicable .callbackNumber],
      call.authorizer ≠ .framedCompression :=
    List.forall_mem_cons.mpr ⟨by decide, List.forall_mem_singleton.mpr (fun same => nomatch same)⟩
  exact fun call isCalled => inverts_other (other call isCalled)

theorem compression_inverts :
    AllInvert der [.assign ⟨.framedCompression, !der.isSet .framedCompression⟩, .testR] :=
  List.forall_mem_singleton.mpr fun _ => rfl

theorem ipAddress_inverts :
    AllInvert der [if der.isSet .framedIpAddress then .assign ⟨.framedIpAddress, true⟩
      else .drop ⟨.framedIpAddress, false⟩, .testR] := by
  split
  · exact List.forall_mem_singleton.mpr (inverts_other (by decide))
  · exact List.forall_mem_singleton.mpr (inverts_other (by decide))

theorem all_inverts : AllInvert der (AuthorizeStatement.all der) := by
  unfold AuthorizeStatement.all
  simp only [allInvert_append, single_inverts, either_inverts,
    callback_inverts, compression_inverts, ipAddress_inverts, ne_eq, reduceCtorEq,
    not_false_eq_true, and_self]

end

namespace EapServer

/-- Of the session and of each message that it sent. -/
structure Inverted (sm : EapServer) : Prop where
  calls : ∀ made ∈ sm.calls, Inverts made.der made.call
  sent : ∀ message ∈ sm.sent, ∀ made ∈ message.calls, Inverts made.der made.call

section

variable {sm : EapServer} (policy : EapServerPolicy)

theorem Inverted.call (inverted : sm.Inverted) {call : AuthorizeCall}
    (inverts : Inverts sm.derData call) : (sm.call policy call).Inverted where
  calls := List.forall_mem_cons.mpr ⟨inverts, inverted.calls⟩
  sent := inverted.sent

theorem Inverted.setDea (inverted : sm.Inverted) (attr : DeaAttribute)
    (content : attr.shape.Content) : (sm.setDea attr content).Inverted :=
  ⟨inverted.calls, inverted.sent⟩

theorem Inverted.sendDea (inverted : sm.Inverted) : (sm.sendDea policy).Inverted where
  calls := inverted.calls
  sent := by
    rw [EapServer.sendDea]
    dsimp only
    split
    · exact List.forall_mem_cons.mpr ⟨inverted.calls, inverted.sent⟩
    · exact inverted.sent

theorem Inverted.runStatements (inverted : sm.Inverted) {statements : List AuthorizeStatement}
    (inverts : AllInvert sm.derData statements) (r : Bool) :
    (EapServer.runStatements policy statements r sm).2.Inverted := by
  induction statements generalizing r sm with
  | nil => exact inverted
  | cons statement statements induction =>
    cases statement with
    | test call =>
      have split := List.forall_mem_cons.mp inverts
      rw [EapServer.runStatements]
      split
      · exact induction (inverted.call policy split.1) split.2 r
      · exact inverted.call policy split.1
    | assign call =>
      have split := List.forall_mem_cons.mp inverts
      exact induction (inverted.call policy split.1) split.2 _
    | drop call =>
      have split := List.forall_mem_cons.mp inverts
      exact induction (inverted.call policy split.1) split.2 r
    | testR =>
      rw [EapServer.runStatements]
      split
      · exact induction inverted inverts r
      · exact inverted

theorem Inverted.authorize (inverted : sm.Inverted) : (sm.authorize policy).2.Inverted := by
  rw [EapServer.authorize]
  split
  · exact inverted
  · have ran := inverted.runStatements policy all_inverts false
    split
    · rename_i outcome
      rw [outcome] at ran
      exact ⟨ran.calls, ran.sent⟩
    · rename_i outcome
      rw [outcome] at ran
      exact ran

theorem Inverted.checkDer (inverted : sm.Inverted) : (sm.checkDer policy).2.Inverted := by
  have called : ((sm.setDea .authRequestType (sm.derData .authRequestType)).call policy
      ⟨.multiRoundTimeOut, false⟩).Inverted :=
    (inverted.setDea _ _).call policy fun isCompression => nomatch isCompression
  rw [EapServer.checkDer]
  dsimp only
  split
  · exact inverted
  · split
    · exact called
    · split
      · exact ⟨called.calls, called.sent⟩
      · exact called

theorem Inverted.act (inverted : sm.Inverted) {event : EapServerEvent → EapServer → EapServer}
    (serves : ∀ {sm : EapServer} (raised : EapServerEvent), sm.Inverted →
      (event raised sm).Inverted)
    (action : EapServerAction) : (sm.act policy event action).Inverted := by
  cases action with
  | sendDeaWithContinue =>
    exact (((inverted.setDea _ _).setDea _ _).setDea _ _).sendDea policy
  | sendDeaWithSuccess => exact (inverted.setDea _ _).sendDea policy
  | sendDeaDueToAuthenticationFailure => exact (inverted.setDea _ _).sendDea policy
  | sendDeaDueToAuthorizationFailure =>
    exact ((inverted.setDea _ _).setDea _ _).sendDea policy
  | sendDeaDueToInvalidDer => exact (inverted.setDea _ _).sendDea policy
  | forwardEapResponse => exact ⟨inverted.calls, inverted.sent⟩
  | checkDer =>
    rw [EapServer.act]
    have cleared : Inverted { sm with
        ders := sm.derData :: sm.ders, produced := none, key := none } :=
      ⟨inverted.calls, inverted.sent⟩
    have checked := cleared.checkDer policy
    split
    · rename_i outcome
      rw [outcome] at checked
      exact serves _ checked
    · rename_i outcome
      rw [outcome] at checked
      exact serves _ checked
  | authorize =>
    rw [EapServer.act]
    split
    · exact serves _ inverted
    · have authorized := inverted.authorize policy
      split
      · rename_i outcome
        rw [outcome] at authorized
        exact serves _ authorized
      · rename_i outcome
        rw [outcome] at authorized
        exact serves _ authorized

theorem Inverted.eventIn (inverted : sm.Inverted) (depth : Nat) (event : EapServerEvent) :
    (EapServer.eventIn policy depth event sm).Inverted := by
  induction depth generalizing sm event with
  | zero => exact inverted
  | succ depth induction =>
    rw [EapServer.eventIn]
    split
    · exact inverted
    · dsimp only
      split
      · exact ⟨inverted.calls, inverted.sent⟩
      · rename_i entry _ _ action _
        have moved : Inverted { sm with state := entry.nextState } :=
          ⟨inverted.calls, inverted.sent⟩
        exact moved.act policy (fun raised before => induction before raised) action

theorem Inverted.step (inverted : sm.Inverted) (input : EapServerInput) :
    (sm.step input).Inverted := by
  cases input with
  | authorize policy => exact inverted.authorize policy
  | serve policy =>
    rw [EapServer.step, EapServer.serve]
    split
    · exact inverted
    · apply Inverted.eventIn
      split
      · exact ⟨fun made isMade => (nomatch isMade), inverted.sent⟩
      · exact ⟨inverted.calls, inverted.sent⟩
  | _ => exact ⟨inverted.calls, inverted.sent⟩

theorem Inverted.run (inverted : sm.Inverted) (inputs : List EapServerInput) :
    (sm.run inputs).Inverted := by
  induction inputs generalizing sm with
  | nil => exact inverted
  | cons input inputs induction => exact induction (inverted.step input)

theorem initial_inverted : initial.Inverted where
  calls := fun _ isMade => nomatch isMade
  sent := fun _ isSent => nomatch isSent

end

end EapServer

section

variable {inputs : List EapServerInput} {sent : SentDea}

theorem not_authorizes (isSent : sent ∈ (EapServer.initial.run inputs).sent) :
    ¬ sent.Authorizes := by
  rintro ⟨der, _, authorized⟩
  obtain ⟨made, isMade, isCall, isDer, _⟩ := authorized .framedCompression
  have inverts := (EapServer.initial_inverted.run inputs).sent sent isSent made isMade
  rw [isCall, isDer] at inverts
  exact (Bool.eq_not_self _).mp (inverts rfl)

/-- The function for the compression is never called in the form that is meant, so that no
success answer to an authentication that asks for authorization stands for all of them. -/
theorem acceptance_authorizes_iff (isSent : sent ∈ (EapServer.initial.run inputs).sent) :
    (sent.Accepts → sent.Authorizes) ↔ ¬ sent.Accepts := by
  constructor
  · exact fun authorizes accepts => not_authorizes isSent (authorizes accepts)
  · exact fun rejects accepts => absurd accepts rejects

end

/-! A request that asks for authorization, and a success. -/

namespace AcceptedRequest

def request : DerData := Function.update DerData.new .authRequestType (.of authorizeAuthenticate)

/-- A policy that refuses what is in the list. -/
def policy (refused : List Authorizer) : EapServerPolicy where
  authorize := fun call => call.authorizer ∉ refused
  enforce := fun _ content => content
  setReplyMessage := fun _ content => content
  setReissuedEapPayload := id
  validateUserName := fun _ => true
  validateState := fun _ _ => true
  setState := id
  sends := fun _ => true

def inputs (refused : List Authorizer) : List EapServerInput :=
  [.rxDer request true, .serve (policy refused), .signalSuccess [] none, .serve (policy refused)]

theorem granted : ∃ sent ∈ (EapServer.initial.run (inputs [])).sent, sent.Accepts :=
  ⟨_, List.mem_cons_self, rfl, by decide⟩

theorem callbackId_refused :
    ((EapServer.initial.run (inputs [.callbackId])).sent.all fun sent => sent.calls.all fun made =>
      made.call.authorizer != .callbackId || !made.verdict) = true := rfl

end AcceptedRequest

open AcceptedRequest in
/-- With all functions agreeing, too. -/
theorem granted_compression_missed :
    ∃ sent ∈ (EapServer.initial.run (inputs [])).sent,
      sent.Accepts ∧ ((sent.Accepts → sent.Authorizes) ↔ ¬ sent.Accepts) := by
  obtain ⟨sent, isSent, accepts⟩ := granted
  exact ⟨sent, isSent, accepts, acceptance_authorizes_iff isSent⟩

open AcceptedRequest in
/-- The callback id is refused, and the request is accepted. -/
theorem callbackId_refusal_ignored :
    ∃ sent ∈ (EapServer.initial.run (inputs [.callbackId])).sent, sent.Accepts ∧
      (∃ made ∈ sent.calls, made.call = ⟨.callbackId, false⟩ ∧ made.verdict = false) ∧
      ¬ sent.Authorizes := by
  refine ⟨_, List.mem_cons_self, ⟨rfl, by decide⟩, ?_, ?_⟩
  · exact ⟨_, List.mem_of_getElem? (show _[21]? = some _ from rfl), rfl, rfl⟩
  · rintro ⟨der, _, authorized⟩
    obtain ⟨made, isMade, isCall, _, agreed⟩ := authorized .callbackId
    have refused := List.all_eq_true.mp
      (List.all_eq_true.mp callbackId_refused _ List.mem_cons_self) made isMade
    rw [isCall, agreed] at refused
    exact nomatch refused

end OpenDiameter.DiameterEap
