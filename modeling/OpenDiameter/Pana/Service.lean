import OpenDiameter.Pana.ClientEffects
import OpenDiameter.Pana.HandlerEffects
import OpenDiameter.Pana.PaaEffects

/-!
What the service of a session does: every way that the first received message can take, and
every way that the first event can take.
-/

namespace OpenDiameter.Pana

open OpenDiameter.Foundation OpenDiameter.Framework

section Messages

variable {settings : PanaSettings} {role : PanaRole} {msg : PanaMessage}

/-- The handler of the session for the message, or that it has none. -/
theorem receive_eq (settings : PanaSettings) (role : PanaRole) (msg : PanaMessage) :
    (∃ handle, (machine settings role).receive msg =
        receiveIn (handlerStates role msg.type) handle msg ∧
      Handles settings role msg (handle msg) ∧
      (flagsAdmitted role msg = false → Turns (handle msg))) ∨
    (machine settings role).receive msg = pure () := by
  cases role with
  | pac =>
    change (∃ handle, Client.receive settings msg = _ ∧ _) ∨
      Client.receive settings msg = _
    unfold Client.receive
    split
    · rename_i isPar
      refine .inl ⟨_, ?_, Client.rxPA_handles isPar, Client.rxPA_turns isPar⟩
      simp only [handlerStates, if_pos isPar]
    · rename_i notPar
      split
      · rename_i isPnr
        refine .inl ⟨_, ?_, Client.rxPN_handles, by simp [flagsAdmitted, notPar]⟩
        simp only [handlerStates, if_neg notPar, if_pos isPnr]
      · rename_i notPnr
        split
        · rename_i isPtr
          refine .inl ⟨_, ?_, Client.rxPT_handles, by simp [flagsAdmitted, notPar]⟩
          simp only [handlerStates, if_neg notPar, if_neg notPnr, if_pos isPtr]
        · exact .inr rfl
  | paa =>
    change (∃ handle, Paa.receive settings msg = _ ∧ _) ∨ Paa.receive settings msg = _
    unfold Paa.receive
    split
    · rename_i isPci
      refine .inl ⟨_, ?_, Paa.rxPCI_handles, fun turned => Paa.rxPCI_turns
        (by simpa [flagsAdmitted, isPci] using turned)⟩
      simp only [handlerStates, if_pos isPci]
    · rename_i notPci
      split
      · rename_i isPar
        refine .inl ⟨_, ?_, Paa.rxPA_handles, Paa.rxPA_turns isPar⟩
        simp only [handlerStates, if_neg notPci, if_pos isPar]
      · rename_i notPar
        split
        · rename_i isPnr
          refine .inl ⟨_, ?_, Paa.rxPN_handles, Paa.rxPN_turns isPnr⟩
          simp only [handlerStates, if_neg notPci, if_neg notPar, if_pos isPnr]
        · rename_i notPnr
          split
          · rename_i isPtr
            refine .inl ⟨_, ?_, Paa.rxPT_handles,
              by simp [flagsAdmitted, notPci, notPar, notPnr]⟩
            simp only [handlerStates, if_neg notPci, if_neg notPar, if_neg notPnr,
              if_pos isPtr]
          · exact .inr rfl

/-- What becomes of a message that the handlers have. -/
inductive Received (settings : PanaSettings) (role : PanaRole) (msg : PanaMessage)
    (start : PanaSession) : PanaSession → Prop where
  | dropped {after : PanaSession} : Unchecked start after →
      Received settings role msg start after
  | refused {after : PanaSession} : ReachesCheck role start msg →
      Rejected settings msg start after ∨ Passed settings msg (skipsAuth role msg) start after →
      Received settings role msg start after
  | posted {session : PanaSession} {event : PanaEvent} : ReachesCheck role start msg →
      Passed settings msg (skipsAuth role msg) start session → event.msgType.isSome = true →
      Received settings role msg start
        { session with
          rxMsgQueue := session.rxMsgQueue ++ [msg]
          events := session.events ++ [{ event, message := some msg }] }
  | faulted {after : PanaSession} {fault : PanaFault} : ReachesCheck role start msg →
      fault ≠ .emptyQueue →
      Rejected settings msg start after ∨ Passed settings msg (skipsAuth role msg) start after →
      Received settings role msg start { after with fault := some fault }

theorem receiveIn_received {handle : PanaMessage → PanaM PanaEvent}
    (handles : Handles settings role msg (handle msg))
    (turns : flagsAdmitted role msg = false → Turns (handle msg)) (start : PanaSession) :
    Received settings role msg start
      (settle id ((receiveIn (handlerStates role msg.type) handle msg).run start)) := by
  unfold receiveIn
  simp only [EStateM.run_bind, EStateM.run_get]
  split
  · rename_i allowed
    rw [EStateM.run_bind]
    cases admitted : flagsAdmitted role msg with
    | false =>
      apply ((turns admitted start).at_state (Unchecked.refl start)).elim
      · intro ⟨_, _, _, impossible⟩
        exact impossible.elim
      · intro ⟨stop, after, run, ⟨exception, thrown⟩, unchecked⟩
        rw [run, thrown]
        exact .dropped unchecked
    | true =>
      have reaches : ReachesCheck role start msg := ⟨allowed, admitted⟩
      apply ((handles start).at_state (Unchecked.refl start)).elim
      · intro ⟨event, session, run, typed, passed⟩
        rw [run]
        exact .posted reaches passed typed
      · intro ⟨stop, after, run, faultless, outcome⟩
        rw [run]
        cases stop with
        | thrown exception => exact .refused reaches outcome
        | fault fault =>
          apply Received.faulted reaches _ outcome
          intro isEmpty
          exact faultless (isEmpty ▸ rfl)
  · exact .dropped (Unchecked.refl start)

theorem receive_received (settings : PanaSettings) (role : PanaRole) (msg : PanaMessage)
    (start : PanaSession) :
    Received settings role msg start
      (settle id (((machine settings role).receive msg).run start)) := by
  apply (receive_eq settings role msg).elim
  · intro ⟨handle, isHandler, handles, turns⟩
    rw [isHandler]
    exact receiveIn_received handles turns start
  · intro noHandler
    rw [noHandler]
    exact .dropped (Unchecked.refl start)

end Messages

section Events

/-- What an action of either party uses of the session that it starts with. -/
def actionUses (settings : PanaSettings) (callbacks : PanaCallbacks) (start : PanaSession) :
    (role : PanaRole) → (machine settings role).Action → Uses
  | .pac, action => PacAction.uses settings callbacks start action
  | .paa, action => PaaAction.uses settings callbacks action

variable {settings : PanaSettings} {role : PanaRole} {callbacks : PanaCallbacks}

theorem perform_performs (settings : PanaSettings) (role : PanaRole) (callbacks : PanaCallbacks)
    (start : PanaSession) (action : (machine settings role).Action) :
    Performs (actionUses settings callbacks start role action) start
      ((machine settings role).perform callbacks action) := by
  cases role with
  | pac => exact PacAction.performs settings callbacks start action
  | paa => exact PaaAction.performs settings callbacks start action

/-- The session in which the action of an entry starts. -/
def actionStart (session : PanaSession) (queued : QueuedEvent) (rest : List QueuedEvent)
    (nextState : PanaState) : PanaSession :=
  PanaMachine.beginAction queued { session with events := rest, state := nextState }

/-- What becomes of an event that the state machine has. -/
inductive Eventful (settings : PanaSettings) (role : PanaRole) (callbacks : PanaCallbacks)
    (session : PanaSession) : PanaSession → Prop where
  | idle : session.events = [] → Eventful settings role callbacks session session
  | unlisted {queued : QueuedEvent} {rest : List QueuedEvent} :
      session.events = queued :: rest →
      (machine settings role).table.find session.state queued.event = none →
      Eventful settings role callbacks session { session with events := rest }
  | moved {queued : QueuedEvent} {rest : List QueuedEvent}
      {entry : StateTableEntry PanaState PanaEvent (machine settings role).Action} :
      session.events = queued :: rest →
      (machine settings role).table.find session.state queued.event = some entry →
      entry.action = none →
      Eventful settings role callbacks session
        { session with events := rest, state := entry.nextState }
  | acted {queued : QueuedEvent} {rest : List QueuedEvent}
      {entry : StateTableEntry PanaState PanaEvent (machine settings role).Action}
      {action : (machine settings role).Action} {done after : PanaSession} :
      session.events = queued :: rest →
      (machine settings role).table.find session.state queued.event = some entry →
      entry.action = some action →
      (actionUses settings callbacks (actionStart session queued rest entry.nextState) role
        action).Done (actionStart session queued rest entry.nextState) done →
      after = done ∨ after = done.post { eventApp := some .terminate } →
      Eventful settings role callbacks session after
  | faulted {queued : QueuedEvent} {rest : List QueuedEvent}
      {entry : StateTableEntry PanaState PanaEvent (machine settings role).Action}
      {action : (machine settings role).Action} {stopped : PanaSession} {fault : PanaFault} :
      session.events = queued :: rest →
      (machine settings role).table.find session.state queued.event = some entry →
      entry.action = some action →
      (actionUses settings callbacks (actionStart session queued rest entry.nextState) role
        action).Stops (actionStart session queued rest entry.nextState) (.fault fault) stopped →
      Eventful settings role callbacks session { stopped with fault := some fault }

theorem serveEvent_eventful (settings : PanaSettings) (role : PanaRole)
    (callbacks : PanaCallbacks) (session : PanaSession) :
    Eventful settings role callbacks session
      ((machine settings role).serveEvent callbacks session) := by
  unfold PanaMachine.serveEvent
  split
  · rename_i isEmpty
    exact .idle isEmpty
  · rename_i queued rest isFirst
    split
    · rename_i unlisted
      exact .unlisted isFirst unlisted
    · rename_i entry found
      dsimp only
      split
      · rename_i noAction
        exact .moved isFirst found noAction
      · rename_i action isAction
        have performs := perform_performs settings role callbacks
          (actionStart session queued rest entry.nextState) action
        apply (performs.at_state (Effect.refl _ _)).elim
        · intro ⟨_, done, run, isDone⟩
          change Eventful settings role callbacks session (settle _ (EStateM.run _
            (actionStart session queued rest entry.nextState)))
          rw [run]
          exact .acted isFirst found isAction isDone (.inl rfl)
        · intro ⟨stop, stopped, run, stops⟩
          change Eventful settings role callbacks session (settle _ (EStateM.run _
            (actionStart session queued rest entry.nextState)))
          rw [run]
          cases stop with
          | thrown exception => exact .acted isFirst found isAction stops (.inr rfl)
          | fault fault => exact .faulted isFirst found isAction stops

/-- The action that the first event leads to, with the session that it starts in. -/
def nextAction (settings : PanaSettings) (role : PanaRole) (session : PanaSession) :
    Option (PanaSession × (machine settings role).Action) :=
  match session.events with
  | [] => none
  | queued :: rest =>
    match (machine settings role).table.find session.state queued.event with
    | none => none
    | some entry => entry.action.map (actionStart session queued rest entry.nextState, ·)

theorem nextAction_eq {session : PanaSession} {queued : QueuedEvent} {rest : List QueuedEvent}
    {entry : StateTableEntry PanaState PanaEvent (machine settings role).Action}
    {action : (machine settings role).Action} (isFirst : session.events = queued :: rest)
    (found : (machine settings role).table.find session.state queued.event = some entry)
    (isAction : entry.action = some action) :
    nextAction settings role session =
      some (actionStart session queued rest entry.nextState, action) := by
  unfold nextAction
  rw [isFirst]
  simp only [found, isAction, Option.map_some]

end Events

section Calls

/-- An event without a message is posted, perhaps with a packet. -/
structure Posted (session after : PanaSession) : Prop where
  fault : after.fault = session.fault
  lastRxSeqNum : after.lastRxSeqNum = session.lastRxSeqNum
  passed : after.passed = session.passed
  sent : after.sent = session.sent
  acted : after.acted = session.acted
  verified : after.verified = session.verified
  derived : after.derived = session.derived
  sa : after.sa = session.sa
  rxMsgQueue : after.rxMsgQueue = session.rxMsgQueue
  queued : ∃ event : PanaEvent, ∃ packet : Option PanaOctetstring, event.msgType = none ∧
    after.events = session.events ++ [⟨event, none, packet⟩] ∧
    after.txEapMessageQueue = session.txEapMessageQueue ++ packet.toList

variable {event : PanaEvent}

theorem posted_post (untyped : event.msgType = none) (session : PanaSession) :
    Posted session (session.post event) where
  fault := rfl
  lastRxSeqNum := rfl
  passed := rfl
  sent := rfl
  acted := rfl
  verified := rfl
  derived := rfl
  sa := rfl
  rxMsgQueue := rfl
  queued := ⟨event, none, untyped, rfl, (List.append_nil _).symm⟩

theorem posted_postPacket (untyped : event.msgType = none) (packet : PanaOctetstring)
    (session : PanaSession) :
    Posted session (session.postPacket packet event) where
  fault := rfl
  lastRxSeqNum := rfl
  passed := rfl
  sent := rfl
  acted := rfl
  verified := rfl
  derived := rfl
  sa := rfl
  rxMsgQueue := rfl
  queued := ⟨event, some packet, untyped, rfl, rfl⟩

theorem posted_postWith (untyped : event.msgType = none) (packet : Option PanaOctetstring)
    (session : PanaSession) :
    Posted session (postWith packet event session) := by
  cases packet with
  | none => exact posted_post untyped session
  | some packet => exact posted_postPacket untyped packet session

theorem PacCall.posts (settings : PanaSettings) (call : PacCall) (session : PanaSession) :
    Posted session (call.apply settings session) := by
  cases call with
  | start paaIpAddress =>
    cases paaIpAddress with
    | none => exact posted_post rfl session
    | some ipAddress => exact { posted_post rfl session with }
  | eapSendResponse response => exact posted_postPacket rfl response session
  | eapInvalidMessage => exact posted_post rfl session
  | eapSuccess => exact posted_post rfl session
  | eapTimeout => exact posted_post rfl session
  | eapFailure => exact posted_post rfl session
  | reAuthenticate => exact posted_post rfl session
  | ping => exact posted_post rfl session
  | stop => exact posted_post rfl session

theorem PaaCall.posts (call : PaaCall) (session : PanaSession) :
    Posted session (call.apply session) := by
  cases call with
  | eapSendRequest req => exact posted_postPacket rfl req session
  | eapInvalidMessage => exact posted_post rfl session
  | eapSuccess req isUserAuthorized =>
    let event : PanaEvent := { eventEap := some .success, doAuthorize := isUserAuthorized }
    have untyped : event.msgType = none := rfl
    exact { posted_postWith untyped req { session with authorized := isUserAuthorized } with }
  | eapFailure req => exact posted_postWith rfl req session
  | eapTimeout => exact posted_post rfl session
  | eapReAuthenticate => exact posted_post rfl session
  | ping => exact posted_post rfl session
  | stop => exact posted_post rfl session

theorem machine_posts (settings : PanaSettings) (role : PanaRole)
    (call : (machine settings role).Call) (session : PanaSession) :
    Posted session ((machine settings role).apply call session) := by
  cases role with
  | pac => exact PacCall.posts settings call session
  | paa => exact PaaCall.posts call session

theorem timeout_posts (settings : PanaSettings) (role : PanaRole) (timer : PanaTimer)
    (session : PanaSession) : Posted session (session.post (timerEvent settings role timer)) := by
  apply posted_post
  cases timer <;> rfl

end Calls

/-- A session that nothing has happened to; an event may wait, but nothing with it. -/
structure Fresh (session : PanaSession) : Prop where
  fault : session.fault = none
  rxMsgQueue : session.rxMsgQueue = []
  txEapMessageQueue : session.txEapMessageQueue = []
  passed : session.passed = []
  sent : session.sent = []
  acted : session.acted = []
  derived : session.derived = []
  authKey : session.sa.authKey.isSet = false
  events : ∀ queued ∈ session.events, queued.message = none ∧ queued.packet = none

theorem newClient_fresh (settings : PanaSettings) (pacAddress paaAddress : InetAddr)
    (callbacks : PanaCallbacks) : Fresh (newClient settings pacAddress paaAddress callbacks) := by
  constructor <;> simp [newClient]

theorem newPaa_fresh (settings : PanaSettings) (sessionId : UInt32) (callbacks : PanaCallbacks) :
    Fresh (newPaa settings sessionId callbacks) := by
  constructor <;> simp [newPaa]

variable {session : PanaSession}

theorem Fresh.pacFound (fresh : Fresh session) (addr : InetAddr) :
    Fresh (pacFound addr session) := by
  refine { fresh with events := ?_ }
  intro queued member
  apply (List.mem_append.mp member).elim (fresh.events queued)
  intro isLast
  cases List.mem_singleton.mp isLast
  exact ⟨rfl, rfl⟩

variable {settings : PanaSettings}

theorem Fresh.statelessRxPANStart (fresh : Fresh session) (msg : PanaMessage) :
    Fresh (statelessRxPANStart settings msg session) :=
  { fresh with authKey := fresh.authKey }

theorem Started.fresh {role : PanaRole} (started : Started settings role session) :
    Fresh session := by
  cases role with
  | pac =>
    have ⟨pacAddress, paaAddress, callbacks, isNew⟩ := started
    rw [isNew]
    exact newClient_fresh settings pacAddress paaAddress callbacks
  | paa =>
    have ⟨sessionId, callbacks, isNew⟩ := started
    have fresh := newPaa_fresh settings sessionId callbacks
    apply isNew.elim
    · intro ⟨_, addr, found⟩
      rw [found]
      exact fresh.pacFound addr
    · intro ⟨msg, _, _, _, answered⟩
      rw [answered]
      exact fresh.statelessRxPANStart msg

/-- What keeps a property of the sessions of a role, input by input. -/
structure Keeps (settings : PanaSettings) (role : PanaRole)
    (allowed : PanaSession → PanaInput settings role → Prop)
    (Invariant : PanaSession → Prop) : Prop where
  start : ∀ session, Fresh session → Invariant session
  received : ∀ (session : PanaSession) (msg : PanaMessage), Invariant session →
    Invariant { session with received := session.received ++ [msg] }
  posted : ∀ session after, Invariant session → Posted session after → Invariant after
  aborted : ∀ session callbacks, allowed session (.abort callbacks) → Invariant session →
    Invariant (.reset settings callbacks (.post { eventApp := some .terminate } session))
  message : ∀ session callbacks, session.fault = none → allowed session (.serve callbacks) →
    Invariant session → Invariant ((machine settings role).serveMessage session)
  event : ∀ session callbacks,
    ((machine settings role).serveMessage session).fault = none →
    allowed session (.serve callbacks) →
    Invariant ((machine settings role).serveMessage session) →
    Invariant ((machine settings role).serveEvent callbacks
      ((machine settings role).serveMessage session))

theorem Keeps.everywhere {role : PanaRole} {allowed : PanaSession → PanaInput settings role → Prop}
    {Invariant : PanaSession → Prop} (keeps : Keeps settings role allowed Invariant)
    (reached : ReachedBy settings role allowed session) : Invariant session := by
  apply reached.invariant Invariant fun session started => keeps.start session started.fresh
  intro session input after holds step isAllowed
  have ⟨faultless, taken⟩ := step
  subst taken
  cases input with
  | receive msg => exact keeps.received session msg holds
  | call made => exact keeps.posted session _ holds (machine_posts settings role made session)
  | timeout timer =>
    exact keeps.posted session _ holds (timeout_posts settings role timer session)
  | abort callbacks => exact keeps.aborted session callbacks isAllowed holds
  | serve callbacks =>
    have served := keeps.message session callbacks faultless isAllowed holds
    change Invariant ((machine settings role).serve callbacks session)
    unfold PanaMachine.serve
    dsimp only
    split
    · exact served
    · rename_i running
      apply keeps.event session callbacks _ isAllowed served
      simpa using running

end OpenDiameter.Pana
