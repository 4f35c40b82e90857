import OpenDiameter.Pana.Service

/-!
Which messages an action has while there is an AUTH key, and what was verified when the PaC
opens: as it should be, as long as no AUTH AVP is missing and no message waits for a new key.
-/

namespace OpenDiameter.Pana

open OpenDiameter.Foundation

section Conditions

variable (settings : PanaSettings) (role : PanaRole)

/-- A message is as good as the key asks for. -/
def ValidUnder (key : ScholarValue) (msg : PanaMessage) : Prop :=
  key.isSet = true →
    msg.authAvp.isSome = true ∧ validateAuthAvp settings key.value msg = true

/--
While there is a key an action only has messages that are valid under it, and a key with which
the PaC opens is one that the request was verified with.
-/
structure Authenticated (session : PanaSession) : Prop where
  acted : ∀ item ∈ session.acted, ValidUnder settings item.2 item.1
  opened : ∀ item ∈ session.derived, item.state = .opened →
    ∃ request ∈ item.asked, (request, item.key) ∈ session.verified

/-- A message that gets as far as the check of its AUTH AVP has one, if there is a key. -/
def CarriesAuth (session : PanaSession) (msg : PanaMessage) : Prop :=
  ReachesCheck role session msg → InSequence msg session → session.sa.authKey.isSet = true →
    msg.authAvp.isSome = true ∧
      (skipsAuth role msg = true → validateAuthAvp settings session.sa.authKey.value msg = true)

/-- A key is derived when no message waits, and not when the PaC opens. -/
def DerivesApart (callbacks : PanaCallbacks) (session : PanaSession) : Prop :=
  ∀ start action, nextAction settings role session = some (start, action) →
    (actionUses settings callbacks start role action).derives = true →
    start.state ≠ .opened ∧ start.rxMsgQueue = [] ∧
      ∀ queued ∈ start.events, queued.message = none

def Secure (session : PanaSession) : PanaInput settings role → Prop
  | .serve callbacks =>
    (∀ msg ∈ session.received.head?,
      CarriesAuth settings role { session with received := session.received.tail } msg) ∧
    DerivesApart settings role callbacks ((machine settings role).serveMessage session)
  | _ => True

/-- The messages that wait are valid under the key. -/
structure Secured (session : PanaSession) : Prop extends Authenticated settings session where
  queued : session.fault = none → ∀ msg ∈ session.rxMsgQueue,
    ValidUnder settings session.sa.authKey msg
  posted : session.fault = none → ∀ queued ∈ session.events, ∀ msg ∈ queued.message,
    ValidUnder settings session.sa.authKey msg

end Conditions

variable {settings : PanaSettings} {role : PanaRole} {msg : PanaMessage}
  {session after : PanaSession}

theorem validUnder_of_unset {key : ScholarValue} (unset : key.isSet = false) :
    ValidUnder settings key msg := by
  intro isSet
  rw [unset] at isSet
  cases isSet

theorem Authenticated.of_more (authenticated : Authenticated settings session)
    (acted : after.acted = session.acted) (derived : after.derived = session.derived)
    (verified : ∀ item ∈ session.verified, item ∈ after.verified) :
    Authenticated settings after where
  acted := acted ▸ authenticated.acted
  opened := by
    rw [derived]
    intro item member isOpened
    have ⟨request, isAsked, isVerified⟩ := authenticated.opened item member isOpened
    exact ⟨request, isAsked, verified _ isVerified⟩

namespace Secured

variable {start : PanaSession}

/-- A message that passed is valid under the key. -/
theorem passed_valid (carries : CarriesAuth settings role start msg)
    (reaches : ReachesCheck role start msg)
    (passed : Passed settings msg (skipsAuth role msg) start session) :
    ValidUnder settings session.sa.authKey msg := by
  intro isSet
  rw [passed.sa] at isSet ⊢
  have ⟨present, skipped⟩ := carries reaches passed.inSequence isSet
  refine ⟨present, ?_⟩
  cases skips : skipsAuth role msg with
  | true => exact skipped skips
  | false => exact passed.authentic skips present isSet

theorem verified_more (verified : VerifiedAfter settings msg start session) :
    ∀ item ∈ start.verified, item ∈ session.verified := by
  intro item member
  apply verified.elim
  · intro same
    exact same ▸ member
  · intro ⟨appended, _⟩
    rw [appended]
    exact List.mem_append_left _ member

theorem of_framed (secured : Secured settings start) (framed : Framed start session)
    (verified : VerifiedAfter settings msg start session) :
    Secured settings session where
  toAuthenticated := secured.toAuthenticated.of_more framed.acted framed.derived
    (verified_more verified)
  queued := by
    rw [framed.fault, framed.rxMsgQueue, framed.sa]
    exact secured.queued
  posted := by
    rw [framed.fault, framed.events, framed.sa]
    exact secured.posted

theorem stopped (secured : Secured settings session) (fault : PanaFault) :
    Secured settings { session with fault := some fault } where
  toAuthenticated := secured.toAuthenticated.of_more rfl rfl fun _ => id
  queued := nofun
  posted := nofun

theorem receives (secured : Secured settings start) (carries : CarriesAuth settings role start msg)
    (received : Received settings role msg start after) : Secured settings after := by
  cases received with
  | dropped unchecked =>
    have same : VerifiedAfter settings msg start after := .inl unchecked.verified
    exact secured.of_framed unchecked.toFramed same
  | refused _ outcome =>
    apply outcome.elim
    · intro rejected
      exact secured.of_framed rejected.toFramed rejected.verified
    · intro passed
      exact secured.of_framed passed.toFramed passed.verified
  | posted reaches passed _ =>
    have valid := passed_valid carries reaches passed
    have kept := secured.of_framed passed.toFramed passed.verified
    constructor
    · exact kept.toAuthenticated.of_more rfl rfl fun _ => id
    · intro faultless other member
      apply (List.mem_append.mp member).elim (kept.queued faultless other)
      intro isNew
      cases List.mem_singleton.mp isNew
      exact valid
    · intro faultless queued member other isMessage
      apply (List.mem_append.mp member).elim
      · intro earlier
        exact kept.posted faultless queued earlier other isMessage
      · intro isNew
        cases List.mem_singleton.mp isNew
        cases isMessage
        exact valid
  | faulted _ _ outcome =>
    apply stopped
    apply outcome.elim
    · intro rejected
      exact secured.of_framed rejected.toFramed rejected.verified
    · intro passed
      exact secured.of_framed passed.toFramed passed.verified

/-- The session in which the first event's action starts. -/
theorem begins {queued : QueuedEvent} {rest : List QueuedEvent} (secured : Secured settings session)
    (faultless : session.fault = none) (isFirst : session.events = queued :: rest)
    (nextState : PanaState) : Secured settings (actionStart session queued rest nextState) := by
  have posted := secured.posted faultless
  rw [isFirst] at posted
  constructor
  · constructor
    · intro item member
      apply (List.mem_append.mp member).elim (secured.acted item)
      intro isNew
      have ⟨other, isMessage, same⟩ := Option.map_eq_some_iff.mp (Option.mem_toList.mp isNew)
      subst same
      exact posted queued List.mem_cons_self other isMessage
    · exact secured.opened
  · exact secured.queued
  · intro _ other member
    exact posted other (List.mem_cons_of_mem _ member)

/-- What an action has done, whether it went on to its end or not. -/
theorem authenticated_effect {uses : Uses} {disconnected : Bool} {rx : List PanaMessage}
    {tx : List PanaOctetstring} (secured : Secured settings start) (faultless : start.fault = none)
    (apart : uses.derives = true → start.state ≠ .opened)
    (effect : Effect uses start disconnected rx tx after) : Authenticated settings after where
  acted := by
    have ⟨more, appended, proper⟩ := effect.acted
    rw [appended]
    intro item member
    apply (List.mem_append.mp member).elim (secured.acted item)
    intro isNew
    have ⟨waited, key⟩ := proper item isNew
    apply key.elim
    · intro same
      rw [same]
      exact secured.queued faultless item.1 waited
    · intro unset
      exact validUnder_of_unset unset
  opened := by
    have ⟨more, appended, proper⟩ := effect.derived
    rw [appended, effect.verified]
    intro item member isOpened
    apply (List.mem_append.mp member).elim
    · intro earlier
      exact secured.opened item earlier isOpened
    · intro isNew
      have ⟨derives, sameState⟩ := proper item isNew
      exact absurd (sameState.symm.trans isOpened) (apart derives)

theorem rxAfter_subset (uses : Uses) (start : PanaSession) :
    ∀ msg ∈ uses.rxAfter start, msg ∈ start.rxMsgQueue := by
  intro msg member
  unfold Uses.rxAfter at member
  split at member
  · cases member
  · split at member
    · exact List.mem_of_mem_tail member
    · exact member

theorem effect {uses : Uses} (secured : Secured settings start) (faultless : start.fault = none)
    (apart : uses.derives = true → start.state ≠ .opened ∧ start.rxMsgQueue = [] ∧
      ∀ queued ∈ start.events, queued.message = none) (done : uses.Done start after) :
    Secured settings after := by
  have keyed : ∀ msg, (msg ∈ start.rxMsgQueue ∨ ∃ queued ∈ start.events, msg ∈ queued.message) →
      ValidUnder settings after.sa.authKey msg := by
    intro msg waited
    apply done.authKey.elim
    · intro same
      rw [same]
      apply waited.elim (secured.queued faultless msg)
      intro ⟨queued, member, isMessage⟩
      exact secured.posted faultless queued member msg isMessage
    · intro changed
      apply changed.elim validUnder_of_unset
      intro derives
      have ⟨_, empty, bare⟩ := apart derives
      apply waited.elim
      · intro member
        rw [empty] at member
        cases member
      · intro ⟨queued, member, isMessage⟩
        rw [bare queued member] at isMessage
        cases isMessage
  have ⟨more, appended, bare⟩ := done.events
  constructor
  · exact secured.authenticated_effect faultless (fun derives => (apart derives).1) done
  · intro _ msg member
    rw [done.rxMsgQueue] at member
    exact keyed msg (.inl (rxAfter_subset uses start msg member))
  · intro _ queued member msg isMessage
    rw [appended] at member
    apply (List.mem_append.mp member).elim
    · intro earlier
      exact keyed msg (.inr ⟨queued, earlier, isMessage⟩)
    · intro isNew
      rw [(bare queued isNew).1] at isMessage
      cases isMessage

theorem post (secured : Secured settings session) (event : PanaEvent) :
    Secured settings (session.post event) where
  toAuthenticated := secured.toAuthenticated.of_more rfl rfl fun _ => id
  queued := secured.queued
  posted := by
    intro faultless queued member msg isMessage
    apply (List.mem_append.mp member).elim
    · intro earlier
      exact secured.posted faultless queued earlier msg isMessage
    · intro isNew
      cases List.mem_singleton.mp isNew
      cases isMessage

theorem serves {callbacks : PanaCallbacks} (secured : Secured settings session)
    (faultless : session.fault = none) (apart : DerivesApart settings role callbacks session)
    (eventful : Eventful settings role callbacks session after) : Secured settings after := by
  cases eventful with
  | idle _ => exact secured
  | unlisted isFirst _ =>
    have began := secured.begins faultless isFirst session.state
    exact ⟨⟨secured.acted, secured.opened⟩, secured.queued, began.posted⟩
  | moved isFirst _ _ =>
    have began := secured.begins faultless isFirst session.state
    exact ⟨⟨secured.acted, secured.opened⟩, secured.queued, began.posted⟩
  | acted isFirst found isAction done isAfter =>
    rename_i entry _ _
    have began := secured.begins faultless isFirst entry.nextState
    have acted := began.effect faultless
      (apart _ _ (nextAction_eq isFirst found isAction)) done
    apply isAfter.elim
    · intro same
      exact same ▸ acted
    · intro posted
      exact posted ▸ acted.post _
  | faulted isFirst found isAction stops =>
    rename_i entry _ _ _
    have ⟨_, _, stopped⟩ := stops.1
    have began := secured.begins faultless isFirst entry.nextState
    have acted := began.authenticated_effect faultless
      (fun derives => (apart _ _ (nextAction_eq isFirst found isAction) derives).1) stopped
    exact ⟨acted.of_more rfl rfl fun _ => id, nofun, nofun⟩

theorem kept (settings : PanaSettings) (role : PanaRole) :
    Keeps settings role (Secure settings role) (Secured settings) where
  start session fresh := by
    refine ⟨⟨?_, ?_⟩, ?_, ?_⟩
    · simp [fresh.acted]
    · simp [fresh.derived]
    · simp [fresh.rxMsgQueue]
    · intro _ queued member
      simp [(fresh.events queued member).1]
  received session msg secured :=
    ⟨⟨secured.acted, secured.opened⟩, secured.queued, secured.posted⟩
  posted session after secured posted := by
    have ⟨event, packet, _, appended, _⟩ := posted.queued
    refine ⟨?_, ?_, ?_⟩
    · apply secured.toAuthenticated.of_more posted.acted posted.derived
      exact posted.verified ▸ fun _ => id
    · rw [posted.fault, posted.rxMsgQueue, posted.sa]
      exact secured.queued
    · rw [posted.fault, appended, posted.sa]
      intro faultless queued member msg isMessage
      apply (List.mem_append.mp member).elim
      · intro earlier
        exact secured.posted faultless queued earlier msg isMessage
      · intro isNew
        cases List.mem_singleton.mp isNew
        cases isMessage
  aborted session callbacks _ secured := by
    refine ⟨⟨secured.acted, secured.opened⟩, nofun, ?_⟩
    intro _ _ _ _ _
    exact validUnder_of_unset rfl
  message session callbacks _ secure secured := by
    unfold PanaMachine.serveMessage
    split
    · exact secured
    · rename_i msg rest isFirst
      apply receives _ _ (receive_received settings role msg _)
      · exact ⟨⟨secured.acted, secured.opened⟩, secured.queued, secured.posted⟩
      · have carries := secure.1 msg (by simp [isFirst])
        rw [isFirst] at carries
        exact carries
  event session callbacks faultless secure secured :=
    secured.serves faultless secure.2 (serveEvent_eventful settings role callbacks _)

end Secured

/--
As long as no message without an AUTH AVP gets by while there is a key, and no key is derived
over waiting messages or when the PaC opens, the authentication is enforced.
-/
theorem authentication_enforced (settings : PanaSettings) (role : PanaRole)
    (session : PanaSession) (reached : ReachedBy settings role (Secure settings role) session) :
    Authenticated settings session :=
  ((Secured.kept settings role).everywhere reached).toAuthenticated

def statelessPANStart : PanaMessage :=
  { parStart 5 9 with flags := { start := true } }

/-- The MSK comes with the result of EAP. -/
def keyed : PanaCallbacks :=
  { newKey := some [7] }

/-- A PAN[C] that is signed with the key that `plainSettings` give. -/
def signedPANComplete : PanaMessage :=
  addAuthAvp plainSettings [7, 0, 0, 0, 9, 0, 0, 0, 9, 0, 0, 0, 0, 1]
    { flags := { complete := true }, type := mtypePar, sessionId := 5, seq := 10 }

/-- A PAA that opens after a PAN[C] with a valid AUTH AVP. -/
theorem authentication_enforced_signed :
    ∃ session : PanaSession, session.state = .opened ∧ session.sa.authKey.isSet = true ∧
      signedPANComplete ∈ session.acted.map Prod.fst ∧ Authenticated plainSettings session := by
  have started : ReachedBy plainSettings .paa (Secure plainSettings .paa)
      (statelessRxPANStart plainSettings statelessPANStart (newPaa plainSettings 1 {})) :=
    .start ⟨1, {}, .inr ⟨_, rfl, by decide, rfl, rfl⟩⟩
  have answered := started.after (.serve {}) ⟨rfl, rfl⟩ (by
    constructor
    · intro msg isFirst _ _ isSet
      cases isSet
    · intro start action isNext derives
      cases isNext
      cases derives)
  have accepted := answered.after (.call (PaaCall.eapSuccess (some [3]) true)) ⟨rfl, rfl⟩ trivial
  have derived := accepted.after (.serve keyed) ⟨rfl, rfl⟩ (by
    constructor
    · intro msg isFirst
      cases isFirst
    · intro start action isNext _
      cases isNext
      exact ⟨by decide +kernel, rfl, by decide +kernel⟩)
  have completed := derived.after (.receive signedPANComplete) ⟨rfl, rfl⟩ trivial
  have opened := completed.after (.serve {}) ⟨rfl, rfl⟩ (by
    constructor
    · intro msg isFirst _ _ _
      cases isFirst
      exact ⟨rfl, nofun⟩
    · intro start action isNext derives
      cases isNext
      cases derives)
  refine ⟨_, rfl, rfl, ?_, authentication_enforced plainSettings .paa _ opened⟩
  decide

/-- A PAR[C] whose AUTH AVP is not that of any key. -/
def unsignedPARComplete : PanaMessage where
  flags := { request := true, complete := true }
  type := mtypePar
  sessionId := 5
  seq := 2
  avpList := [.resultCode rcodeSuccess, .eapPayload [3], .auth [1]]

def unsignedPing : PanaMessage where
  flags := { request := true, ping := true }
  type := mtypePnr
  sessionId := 5
  seq := 3

/-- The PaC opens with a key that verified nothing, and answers a request without AUTH AVP. -/
theorem authentication_missed :
    ∃ session, ReachedBy plainSettings .pac (fun _ _ => True) session ∧
      (∃ item ∈ session.acted, item.2.isSet = true ∧ item.1.authAvp = none) ∧
      (∃ item ∈ session.derived, item.state = .opened ∧ session.verified = []) ∧
      ¬Authenticated plainSettings session := by
  have started := reached_newClient fun _ _ => True
  have received := started.after (.receive (parStart 5 1)) ⟨rfl, rfl⟩ trivial
  have answered := received.after (.serve {}) ⟨rfl, rfl⟩ trivial
  have completed := answered.after (.receive unsignedPARComplete) ⟨rfl, rfl⟩ trivial
  have waiting := completed.after (.serve {}) ⟨rfl, rfl⟩ trivial
  have accepted := waiting.after (.call PacCall.eapSuccess) ⟨rfl, rfl⟩ trivial
  have opened := accepted.after (.serve keyed) ⟨rfl, rfl⟩ trivial
  have pinged := opened.after (.receive unsignedPing) ⟨rfl, rfl⟩ trivial
  have served := pinged.after (.serve {}) ⟨rfl, rfl⟩ trivial
  refine ⟨_, served, ⟨(unsignedPing, .set [7, 0, 0, 0, 1, 0, 0, 0, 1, 0, 0, 0, 0, 1]), ?_, rfl,
    rfl⟩, ⟨_, List.mem_cons_self, rfl, rfl⟩, ?_⟩
  · decide
  · intro authenticated
    have ⟨_, _, verified⟩ := authenticated.opened _ List.mem_cons_self rfl
    cases verified

end OpenDiameter.Pana
