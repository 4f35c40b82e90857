import OpenDiameter.Pana.Service

/-!
The queues of a session and its events: as long as an event that comes with a message or a
packet leads to an action that takes it, the queues hold what the events came with.
-/

namespace OpenDiameter.Pana

open OpenDiameter.Foundation

/-- The queues hold what the events that wait came with, and nothing was taken from an empty one. -/
structure QueuesAgree (session : PanaSession) : Prop where
  rxMsgQueue : session.fault = none →
    session.rxMsgQueue = session.events.filterMap (·.message)
  txEapMessageQueue : session.fault = none →
    session.txEapMessageQueue = session.events.filterMap (·.packet)
  taken : session.fault ≠ some .emptyQueue

/-- Nothing came with an event. -/
def Bare (queued : QueuedEvent) : Prop :=
  queued.message = none ∧ queued.packet = none

section Conditions

variable (settings : PanaSettings) (role : PanaRole)

/--
The action of an event takes what came with it and nothing else; when it disconnects, nothing
came with the later events.
-/
structure Consumes (uses : Uses) (queued : QueuedEvent) (rest : List QueuedEvent) : Prop where
  message : uses.takesMessage = true → queued.message.isSome = true
  packet : uses.takesPacket = true → queued.packet.isSome = true
  everything : uses.disconnects = false →
    (queued.message.isSome = true → uses.takesMessage = true) ∧
      (queued.packet.isSome = true → uses.takesPacket = true)
  nothingLater : uses.disconnects = true → ∀ later ∈ rest, Bare later

/-- The first event is consumed, or nothing came with it. -/
def FirstConsumed (callbacks : PanaCallbacks) (session : PanaSession) : Prop :=
  ∀ queued rest, session.events = queued :: rest →
    (nextAction settings role session = none → Bare queued) ∧
    ∀ start action, nextAction settings role session = some (start, action) →
      Consumes (actionUses settings callbacks start role action) queued rest

def Consumed (session : PanaSession) : PanaInput settings role → Prop
  | .serve callbacks =>
    FirstConsumed settings role callbacks ((machine settings role).serveMessage session)
  | .abort _ => ∀ queued ∈ session.events, Bare queued
  | _ => True

/-- An action that takes a message takes that of its event. -/
def TakesOwn (callbacks : PanaCallbacks) (session : PanaSession) : Prop :=
  ∀ queued rest start action, session.events = queued :: rest →
    nextAction settings role session = some (start, action) →
    (actionUses settings callbacks start role action).takesMessage = true →
    ∃ msg, queued.message = some msg ∧ start.rxMsgQueue.head? = some msg

end Conditions

theorem filterMap_message_bare {queued : List QueuedEvent} (bare : ∀ event ∈ queued, Bare event) :
    queued.filterMap (·.message) = [] :=
  List.filterMap_eq_nil_iff.mpr fun event member => (bare event member).1

theorem filterMap_packet_bare {queued : List QueuedEvent} (bare : ∀ event ∈ queued, Bare event) :
    queued.filterMap (·.packet) = [] :=
  List.filterMap_eq_nil_iff.mpr fun event member => (bare event member).2

namespace QueuesAgree

variable {settings : PanaSettings} {role : PanaRole} {callbacks : PanaCallbacks}
  {msg : PanaMessage} {session after start : PanaSession} {queued : QueuedEvent}
  {rest : List QueuedEvent} {uses : Uses}

theorem of_framed (agree : QueuesAgree start) (framed : Framed start session) :
    QueuesAgree session where
  rxMsgQueue := by
    rw [framed.fault, framed.rxMsgQueue, framed.events]
    exact agree.rxMsgQueue
  txEapMessageQueue := by
    rw [framed.fault, framed.txEapMessageQueue, framed.events]
    exact agree.txEapMessageQueue
  taken := framed.fault ▸ agree.taken

theorem of_fault {fault : PanaFault} (notEmpty : fault ≠ .emptyQueue) :
    QueuesAgree { session with fault := some fault } where
  rxMsgQueue := nofun
  txEapMessageQueue := nofun
  taken := fun isEmpty => notEmpty (Option.some.inj isEmpty)

/-- A message is queued with its event. -/
theorem receives (agree : QueuesAgree start) (faultless : start.fault = none)
    (received : Received settings role msg start after) : QueuesAgree after := by
  cases received with
  | dropped unchecked => exact agree.of_framed unchecked.toFramed
  | refused _ outcome =>
    apply outcome.elim
    · intro rejected
      exact agree.of_framed rejected.toFramed
    · intro passed
      exact agree.of_framed passed.toFramed
  | @posted taken event _ passed _ =>
    have kept := agree.of_framed passed.toFramed
    have running : taken.fault = none := passed.fault.trans faultless
    constructor
    · intro _
      change taken.rxMsgQueue ++ [msg] = _
      rw [kept.rxMsgQueue running]
      simp
    · intro _
      change taken.txEapMessageQueue = _
      rw [kept.txEapMessageQueue running]
      simp
    · exact kept.taken
  | faulted _ notEmpty _ => exact of_fault notEmpty

/-- What the queues hold when the first event is out of the event queue. -/
theorem at_first (agree : QueuesAgree session) (faultless : session.fault = none)
    (isFirst : session.events = queued :: rest) :
    session.rxMsgQueue = queued.message.toList ++ rest.filterMap (·.message) ∧
      session.txEapMessageQueue = queued.packet.toList ++ rest.filterMap (·.packet) := by
  have messages := agree.rxMsgQueue faultless
  have packets := agree.txEapMessageQueue faultless
  rw [isFirst] at messages packets
  constructor
  · rw [messages]
    cases isMessage : queued.message <;> simp [isMessage]
  · rw [packets]
    cases isPacket : queued.packet <;> simp [isPacket]

theorem of_bare (agree : QueuesAgree session) (faultless : session.fault = none)
    (isFirst : session.events = queued :: rest) (bare : Bare queued) (state : PanaState) :
    QueuesAgree { session with events := rest, state } := by
  have ⟨messages, packets⟩ := agree.at_first faultless isFirst
  rw [bare.1] at messages
  rw [bare.2] at packets
  exact ⟨fun _ => messages, fun _ => packets, agree.taken⟩

theorem acts (agree : QueuesAgree session) (faultless : session.fault = none)
    (isFirst : session.events = queued :: rest) {nextState : PanaState}
    (consumes : Consumes uses queued rest)
    (done : uses.Done (actionStart session queued rest nextState) after) : QueuesAgree after := by
  have ⟨messages, packets⟩ := agree.at_first faultless isFirst
  have ⟨posted, appended, bare⟩ := done.events
  have running : after.fault = none := done.fault.trans faultless
  have laterMessages : after.events.filterMap (·.message) = rest.filterMap (·.message) := by
    rw [appended, List.filterMap_append, filterMap_message_bare bare, List.append_nil]
    rfl
  have laterPackets : after.events.filterMap (·.packet) = rest.filterMap (·.packet) := by
    rw [appended, List.filterMap_append, filterMap_packet_bare bare, List.append_nil]
    rfl
  refine ⟨fun _ => ?_, fun _ => ?_, by simp [running]⟩
  · rw [done.rxMsgQueue, laterMessages, Uses.rxAfter]
    change (if _ then _ else if _ then session.rxMsgQueue.tail else session.rxMsgQueue) = _
    rw [messages]
    split
    · rename_i disconnects
      rw [filterMap_message_bare (consumes.nothingLater disconnects)]
    · rename_i remains
      have all := (consumes.everything (by simpa using remains)).1
      split
      · rename_i takes
        have ⟨msg, isMessage⟩ := Option.isSome_iff_exists.mp (consumes.message takes)
        rw [isMessage]
        rfl
      · rename_i leaves
        have noMessage : queued.message = none := by
          rw [← Option.not_isSome_iff_eq_none]
          exact fun isMessage => leaves (all isMessage)
        rw [noMessage]
        rfl
  · rw [done.txEapMessageQueue, laterPackets, Uses.txAfter]
    change (if _ then _ else if _ then session.txEapMessageQueue.tail
      else session.txEapMessageQueue) = _
    rw [packets]
    split
    · rename_i disconnects
      rw [filterMap_packet_bare (consumes.nothingLater disconnects)]
    · rename_i remains
      have all := (consumes.everything (by simpa using remains)).2
      split
      · rename_i takes
        have ⟨packet, isPacket⟩ := Option.isSome_iff_exists.mp (consumes.packet takes)
        rw [isPacket]
        rfl
      · rename_i leaves
        have noPacket : queued.packet = none := by
          rw [← Option.not_isSome_iff_eq_none]
          exact fun isPacket => leaves (all isPacket)
        rw [noPacket]
        rfl

/-- An action that takes what came with its event finds it. -/
theorem not_empty (agree : QueuesAgree session) (faultless : session.fault = none)
    (isFirst : session.events = queued :: rest) {nextState : PanaState} {fault : PanaFault}
    (consumes : Consumes uses queued rest)
    (stops : uses.Stops (actionStart session queued rest nextState) (.fault fault) after) :
    fault ≠ .emptyQueue := by
  have ⟨messages, packets⟩ := agree.at_first faultless isFirst
  intro isEmpty
  apply (stops.2 isEmpty).elim
  · intro ⟨takes, empty⟩
    have ⟨msg, isMessage⟩ := Option.isSome_iff_exists.mp (consumes.message takes)
    change session.rxMsgQueue = [] at empty
    rw [messages, isMessage] at empty
    cases empty
  · intro ⟨takes, empty⟩
    have ⟨packet, isPacket⟩ := Option.isSome_iff_exists.mp (consumes.packet takes)
    change session.txEapMessageQueue = [] at empty
    rw [packets, isPacket] at empty
    cases empty

theorem post (agree : QueuesAgree session) (event : PanaEvent) :
    QueuesAgree (session.post event) where
  rxMsgQueue := by
    intro faultless
    change session.rxMsgQueue = (session.events ++ [({ event } : QueuedEvent)]).filterMap (·.message)
    rw [agree.rxMsgQueue faultless]
    simp
  txEapMessageQueue := by
    intro faultless
    change session.txEapMessageQueue = (session.events ++ [({ event } : QueuedEvent)]).filterMap (·.packet)
    rw [agree.txEapMessageQueue faultless]
    simp
  taken := agree.taken

theorem serves (agree : QueuesAgree session) (faultless : session.fault = none)
    (consumed : FirstConsumed settings role callbacks session)
    (eventful : Eventful settings role callbacks session after) : QueuesAgree after := by
  cases eventful with
  | idle _ => exact agree
  | unlisted isFirst unlisted =>
    apply agree.of_bare faultless isFirst _ session.state
    apply (consumed _ _ isFirst).1
    simp [nextAction, isFirst, unlisted]
  | moved isFirst found noAction =>
    apply agree.of_bare faultless isFirst
    apply (consumed _ _ isFirst).1
    simp [nextAction, isFirst, found, noAction]
  | acted isFirst found isAction done isAfter =>
    have consumes := (consumed _ _ isFirst).2 _ _ (nextAction_eq isFirst found isAction)
    have acted := agree.acts faultless isFirst consumes done
    apply isAfter.elim
    · intro same
      exact same ▸ acted
    · intro posted
      exact posted ▸ acted.post _
  | faulted isFirst found isAction stops =>
    have consumes := (consumed _ _ isFirst).2 _ _ (nextAction_eq isFirst found isAction)
    exact of_fault (agree.not_empty faultless isFirst consumes stops)

theorem kept (settings : PanaSettings) (role : PanaRole) :
    Keeps settings role (Consumed settings role) QueuesAgree where
  start session fresh := by
    refine ⟨fun _ => ?_, fun _ => ?_, by simp [fresh.fault]⟩
    · rw [fresh.rxMsgQueue, filterMap_message_bare fresh.events]
    · rw [fresh.txEapMessageQueue, filterMap_packet_bare fresh.events]
  received session msg agree := ⟨agree.rxMsgQueue, agree.txEapMessageQueue, agree.taken⟩
  posted session after agree posted := by
    have ⟨event, packet, _, appended, enqueued⟩ := posted.queued
    refine ⟨?_, ?_, posted.fault ▸ agree.taken⟩
    · rw [posted.fault, posted.rxMsgQueue, appended]
      intro faultless
      rw [agree.rxMsgQueue faultless]
      simp
    · rw [posted.fault, enqueued, appended]
      intro faultless
      rw [agree.txEapMessageQueue faultless]
      cases packet <;> simp
  aborted session callbacks bare agree := by
    have posted := agree.post { eventApp := some .terminate }
    have allBare : ∀ queued ∈ session.events ++ [{ event := { eventApp := some .terminate } }],
        Bare queued := by
      intro queued member
      apply (List.mem_append.mp member).elim (bare queued)
      intro isNew
      cases List.mem_singleton.mp isNew
      exact ⟨rfl, rfl⟩
    exact ⟨fun _ => (filterMap_message_bare allBare).symm,
      fun _ => (filterMap_packet_bare allBare).symm, agree.taken⟩
  message session callbacks faultless _ agree := by
    unfold PanaMachine.serveMessage
    split
    · exact agree
    · rename_i msg rest isFirst
      refine receives ?_ ?_ (receive_received settings role msg _)
      · exact ⟨agree.rxMsgQueue, agree.txEapMessageQueue, agree.taken⟩
      · exact faultless
  event session callbacks faultless consumed agree :=
    agree.serves faultless consumed (serveEvent_eventful settings role callbacks _)

theorem takesOwn (agree : QueuesAgree session) (faultless : session.fault = none)
    (consumed : FirstConsumed settings role callbacks session) :
    TakesOwn settings role callbacks session := by
  intro queued rest start action isFirst isNext takes
  have consumes := (consumed queued rest isFirst).2 start action isNext
  have ⟨msg, isMessage⟩ := Option.isSome_iff_exists.mp (consumes.message takes)
  refine ⟨msg, isMessage, ?_⟩
  have sameQueue : start.rxMsgQueue = session.rxMsgQueue := by
    unfold nextAction at isNext
    rw [isFirst] at isNext
    dsimp only at isNext
    split at isNext
    · cases isNext
    · have ⟨_, _, same⟩ := Option.map_eq_some_iff.mp isNext
      cases same
      rfl
  rw [sameQueue, (agree.at_first faultless isFirst).1, isMessage]
  rfl

end QueuesAgree

/--
As long as each event that comes with something leads to an action that takes it, the queues
agree with the events, and an action that takes a message takes that of its event.
-/
theorem queues_agree (settings : PanaSettings) (role : PanaRole) (session : PanaSession)
    (reached : ReachedBy settings role (Consumed settings role) session) :
    QueuesAgree session ∧ ∀ callbacks : PanaCallbacks, session.fault = none →
      Consumed settings role session (.serve callbacks) →
      ((machine settings role).serveMessage session).fault = none →
      TakesOwn settings role callbacks ((machine settings role).serveMessage session) := by
  have kept := QueuesAgree.kept settings role
  have agree := kept.everywhere reached
  refine ⟨agree, ?_⟩
  intro callbacks faultless consumed served
  exact (kept.message session callbacks faultless consumed agree).takesOwn served consumed

/-- The start that the PaC waits for is taken by the action of its event. -/
theorem queues_agree_started :
    ∃ session : PanaSession, session.state = .waitPar ∧ QueuesAgree session := by
  have started := reached_newClient (Consumed plainSettings .pac)
  have received := started.after (.receive (parStart 5 1)) ⟨rfl, rfl⟩ trivial
  have served := received.after (.serve {}) ⟨rfl, rfl⟩ (by
    intro queued rest isFirst
    cases isFirst
    refine ⟨nofun, ?_⟩
    intro start action isNext
    cases isNext
    exact ⟨fun _ => rfl, nofun, fun _ => ⟨fun _ => rfl, nofun⟩, nofun⟩)
  exact ⟨_, rfl, (queues_agree plainSettings .pac _ served).1⟩

/-- A second start is left in the queue, and taken in place of the request after it. -/
theorem message_left_behind :
    ∃ session, ReachedBy plainSettings .pac (fun _ _ => True) session ∧
      session.events = [] ∧ session.rxMsgQueue = [parStart 5 2] ∧ ¬QueuesAgree session ∧
      ¬TakesOwn plainSettings .pac {} ((machine plainSettings .pac).serveMessage
        { session with received := [{ parStart 5 3 with flags := { request := true } }] }) := by
  have started := reached_newClient fun _ _ => True
  have received := started.after (.receive (parStart 5 1)) ⟨rfl, rfl⟩ trivial
  have served := received.after (.serve {}) ⟨rfl, rfl⟩ trivial
  have another := served.after (.receive (parStart 5 2)) ⟨rfl, rfl⟩ trivial
  have ignored := another.after (.serve {}) ⟨rfl, rfl⟩ trivial
  refine ⟨_, ignored, rfl, rfl, ?_, ?_⟩
  · intro agree
    cases agree.rxMsgQueue rfl
  · intro own
    have ⟨msg, isOwn, isFirst⟩ := own _ _ _ _ rfl rfl rfl
    cases isOwn
    exact absurd isFirst (by decide)

end OpenDiameter.Pana
