import Mathlib.Data.List.Chain
import Mathlib.Data.List.Nodup
import OpenDiameter.Pana.Service

/-!
The sequence numbers of requests: each is served once, in order, and answered under its own
number, as long as 0 is not mistaken for nothing and the number of a request for that of another.
-/

namespace OpenDiameter.Pana

open OpenDiameter.Foundation

/--
The requests that passed since the last reset passed once and in order, and what was sent
because of a request has its number.
-/
structure RequestsServed (session : PanaSession) : Prop where
  once : session.passed.Nodup
  inOrder : session.passed.IsChain fun earlier later => later = earlier + 1
  answered : ∀ item ∈ session.sent, ∀ request ∈ item.request, item.message.seq = request.seq

/--
A request that a handler checks does not come when the last number is 0 although a request has
passed, nor again when the answer in the cache is that of another.
-/
def RequestInTurn (role : PanaRole) (session : PanaSession) (msg : PanaMessage) : Prop :=
  ReachesCheck role session msg → msg.flags.request = true →
    (session.lastRxSeqNum = 0 → session.passed = []) ∧
    (session.lastRxSeqNum ≠ 0 → msg.seq = session.lastRxSeqNum →
      ∀ cached ∈ session.cachedAnsMsg, msg.type = cached.type → cached.seq = msg.seq)

/-- A request is still the last one that passed when an action answers it. -/
def AnswerInTurn (settings : PanaSettings) (role : PanaRole) (callbacks : PanaCallbacks)
    (session : PanaSession) : Prop :=
  ∀ start action, nextAction settings role session = some (start, action) →
    (actionUses settings callbacks start role action).answers = true →
    ∀ request ∈ start.asked, request.seq = session.lastRxSeqNum

def ServedInTurn (settings : PanaSettings) (role : PanaRole) (session : PanaSession) :
    PanaInput settings role → Prop
  | .serve callbacks =>
    (∀ msg ∈ session.received.head?, RequestInTurn role session msg) ∧
      AnswerInTurn settings role callbacks ((machine settings role).serveMessage session)
  | _ => True

/-- With the requests served, the last one that passed and that none is beyond it. -/
structure Numbered (session : PanaSession) : Prop extends RequestsServed session where
  last : ∀ number ∈ session.passed.getLast?, number = session.lastRxSeqNum
  below : session.lastRxSeqNum ≠ 0 →
    ∀ number ∈ session.passed, number ≠ 0 ∧ number ≤ session.lastRxSeqNum

namespace Numbered

variable {settings : PanaSettings} {role : PanaRole} {msg : PanaMessage}
  {session after : PanaSession}

theorem of_answered (numbered : Numbered session)
    (lastRx : after.lastRxSeqNum = session.lastRxSeqNum) (passed : after.passed = session.passed)
    (answered : ∀ item ∈ after.sent, ∀ request ∈ item.request,
      item.message.seq = request.seq) : Numbered after where
  once := passed ▸ numbered.once
  inOrder := passed ▸ numbered.inOrder
  answered := answered
  last := by
    rw [passed, lastRx]
    exact numbered.last
  below := by
    rw [passed, lastRx]
    exact numbered.below

theorem of_same (numbered : Numbered session) (lastRx : after.lastRxSeqNum = session.lastRxSeqNum)
    (passed : after.passed = session.passed) (sent : after.sent = session.sent) :
    Numbered after :=
  numbered.of_answered lastRx passed (sent ▸ numbered.answered)

/-- Nothing has passed, and what was sent is as it should be. -/
theorem of_none (passed : after.passed = [])
    (answered : ∀ item ∈ after.sent, ∀ request ∈ item.request,
      item.message.seq = request.seq) : Numbered after where
  once := by simp [passed]
  inOrder := by simp [passed]
  answered := answered
  last := by simp [passed]
  below := by simp [passed]

/-- The first request passes. -/
theorem first {number : UInt32} (passed : after.passed = [number])
    (lastRx : after.lastRxSeqNum = number)
    (answered : ∀ item ∈ after.sent, ∀ request ∈ item.request,
      item.message.seq = request.seq) : Numbered after where
  once := by simp [passed]
  inOrder := by simp [passed]
  answered := answered
  last := by simp [passed, lastRx]
  below := by
    rw [passed, lastRx]
    intro notZero other member
    cases List.mem_singleton.mp member
    exact ⟨notZero, UInt32.le_refl _⟩

/-- The number after the last one is not among those that passed. -/
theorem next_fresh (numbered : Numbered session) (later : session.lastRxSeqNum ≠ 0) :
    session.lastRxSeqNum + 1 ∉ session.passed := by
  intro member
  have ⟨notZero, isBelow⟩ := numbered.below later _ member
  have : session.lastRxSeqNum.toNat ≠ 0 := fun zero => later (UInt32.toNat_inj.mp zero)
  have : (session.lastRxSeqNum + 1).toNat ≠ 0 := fun zero => notZero (UInt32.toNat_inj.mp zero)
  rw [UInt32.le_iff_toNat_le] at isBelow
  rw [UInt32.toNat_add] at *
  have := session.lastRxSeqNum.toNat_lt
  simp at *
  omega

/-- One more request passes, the next after a last one that is not 0. -/
theorem next (numbered : Numbered session) (later : session.lastRxSeqNum ≠ 0)
    (passed : after.passed = session.passed ++ [session.lastRxSeqNum + 1])
    (lastRx : after.lastRxSeqNum = session.lastRxSeqNum + 1)
    (answered : ∀ item ∈ after.sent, ∀ request ∈ item.request,
      item.message.seq = request.seq) : Numbered after where
  once := by
    rw [passed]
    apply List.nodup_append'.mpr
    refine ⟨numbered.once, List.nodup_singleton _, ?_⟩
    simpa using numbered.next_fresh later
  inOrder := by
    rw [passed]
    apply numbered.inOrder.append (List.isChain_singleton _)
    intro earlier isLast number isNext
    cases isNext
    rw [numbered.last earlier isLast]
  answered := answered
  last := by simp [passed, lastRx]
  below := by
    rw [passed, lastRx]
    intro notZero number member
    apply (List.mem_append.mp member).elim
    · intro earlier
      have ⟨isPositive, isBelow⟩ := numbered.below later number earlier
      refine ⟨isPositive, ?_⟩
      rw [UInt32.le_iff_toNat_le] at *
      have : (session.lastRxSeqNum + 1).toNat ≠ 0 :=
        fun zero => notZero (UInt32.toNat_inj.mp zero)
      rw [UInt32.toNat_add] at *
      have := session.lastRxSeqNum.toNat_lt
      simp at *
      omega
    · intro isNew
      cases List.mem_singleton.mp isNew
      exact ⟨notZero, UInt32.le_refl _⟩

/-- Messages are sent because of a request only under its number. -/
theorem answered_append {more : List PanaSent} (numbered : Numbered session)
    (proper : ∀ item ∈ more, ∀ request ∈ item.request, item.message.seq = request.seq)
    (sent : after.sent = session.sent ++ more) :
    ∀ item ∈ after.sent, ∀ request ∈ item.request, item.message.seq = request.seq := by
  intro item member
  rw [sent] at member
  exact (List.mem_append.mp member).elim (numbered.answered item) (proper item)

/-- A message that passes all checks. -/
theorem passes {skipAuth : Bool} (numbered : Numbered session)
    (inTurn : RequestInTurn role session msg) (reaches : ReachesCheck role session msg)
    (passed : Passed settings msg skipAuth session after) : Numbered after := by
  have answered := passed.sent ▸ numbered.answered
  apply passed.numbers.elim
  · intro ⟨_, lastRx, same⟩
    exact numbered.of_same lastRx same passed.sent
  · intro ⟨isRequest, lastRx, counted, number⟩
    by_cases isFirst : session.lastRxSeqNum = 0
    · rw [(inTurn reaches isRequest).1 isFirst] at counted
      exact .first counted lastRx answered
    · have isNext := number.resolve_left isFirst
      exact numbered.next isFirst (isNext ▸ counted) (lastRx.trans isNext) answered

/-- A message that is rejected, perhaps after the cached answer went out again. -/
theorem rejects (numbered : Numbered session) (inTurn : RequestInTurn role session msg)
    (reaches : ReachesCheck role session msg) (rejected : Rejected settings msg session after) :
    Numbered after := by
  have answered : ∀ item ∈ after.sent, ∀ request ∈ item.request,
      item.message.seq = request.seq := by
    apply rejected.sent.elim
    · intro same
      exact same ▸ numbered.answered
    · intro ⟨isRequest, later, last, cached, sent, isCached, sameType, appended, sameNumber⟩
      refine numbered.answered_append ?_ appended
      intro item isNew request isRequested
      cases List.mem_singleton.mp isNew
      cases isRequested
      rw [sameNumber]
      exact (inTurn reaches isRequest).2 later last cached isCached sameType
  apply rejected.numbers.elim
  · intro lastRx
    exact numbered.of_answered lastRx rejected.passed answered
  · intro ⟨isRequest, isFirst, _⟩
    apply of_none _ answered
    exact rejected.passed.trans ((inTurn reaches isRequest).1 isFirst)

theorem receives (numbered : Numbered session) (inTurn : RequestInTurn role session msg)
    (received : Received settings role msg session after) : Numbered after := by
  cases received with
  | dropped unchecked =>
    exact numbered.of_same unchecked.lastRxSeqNum unchecked.passed unchecked.sent
  | refused reaches outcome =>
    exact outcome.elim (numbered.rejects inTurn reaches) (numbered.passes inTurn reaches)
  | posted reaches passed _ => exact (numbered.passes inTurn reaches passed).of_same rfl rfl rfl
  | faulted reaches _ outcome =>
    have served := outcome.elim (numbered.rejects inTurn reaches) (numbered.passes inTurn reaches)
    exact served.of_same rfl rfl rfl

/-- The session in the course of an action whose answers are in turn. -/
theorem effect {uses : Uses} {start : PanaSession} {disconnected : Bool}
    {rx : List PanaMessage} {tx : List PanaOctetstring} (numbered : Numbered start)
    (inTurn : uses.answers = true → ∀ request ∈ start.asked, request.seq = start.lastRxSeqNum)
    (effect : Effect uses start disconnected rx tx after) : Numbered after := by
  have ⟨more, appended, proper⟩ := effect.sent
  have answered : ∀ item ∈ after.sent, ∀ request ∈ item.request,
      item.message.seq = request.seq := by
    refine numbered.answered_append ?_ appended
    intro item member request asked
    apply (proper item member).elim
    · intro unasked
      rw [unasked] at asked
      cases asked
    · intro ⟨answers, isAsked, number⟩
      rw [number]
      exact (inTurn answers request (isAsked ▸ asked)).symm
  cases disconnected with
  | true => exact .of_none effect.passed answered
  | false =>
    exact numbered.of_answered effect.lastRxSeqNum effect.passed answered

theorem begins (numbered : Numbered session) (queued : QueuedEvent) (rest : List QueuedEvent)
    (nextState : PanaState) : Numbered (actionStart session queued rest nextState) :=
  numbered.of_same rfl rfl rfl

theorem serves {callbacks : PanaCallbacks} (numbered : Numbered session)
    (inTurn : AnswerInTurn settings role callbacks session)
    (eventful : Eventful settings role callbacks session after) : Numbered after := by
  cases eventful with
  | idle _ => exact numbered
  | unlisted _ _ => exact numbered.of_same rfl rfl rfl
  | moved _ _ _ => exact numbered.of_same rfl rfl rfl
  | acted isFirst found isAction done isAfter =>
    have answers := inTurn _ _ (nextAction_eq isFirst found isAction)
    have acted := (numbered.begins _ _ _).effect answers done
    exact isAfter.elim (· ▸ acted) (fun posted => posted ▸ acted.of_same rfl rfl rfl)
  | faulted isFirst found isAction stops =>
    have answers := inTurn _ _ (nextAction_eq isFirst found isAction)
    have ⟨_, _, stopped⟩ := stops.1
    have acted := (numbered.begins _ _ _).effect answers stopped
    exact acted.of_same rfl rfl rfl

theorem kept (settings : PanaSettings) (role : PanaRole) :
    Keeps settings role (ServedInTurn settings role) Numbered where
  start session fresh := .of_none fresh.passed (by simp [fresh.sent])
  received session msg numbered := numbered.of_same rfl rfl rfl
  posted session after numbered posted :=
    numbered.of_same posted.lastRxSeqNum posted.passed posted.sent
  aborted session callbacks _ numbered := .of_none rfl numbered.answered
  message session callbacks _ inTurn numbered := by
    unfold PanaMachine.serveMessage
    split
    · exact numbered
    · rename_i msg rest isFirst
      apply receives _ _ (receive_received settings role msg _)
      · exact numbered.of_same rfl rfl rfl
      · exact inTurn.1 msg (by simp [isFirst])
  event session callbacks _ inTurn numbered :=
    numbered.serves inTurn.2 (serveEvent_eventful settings role callbacks _)

end Numbered

/--
As long as the last number is not 0 when a request arrives after another, a cached answer is
that of the request that arrives again, and no request passes before the last is answered.
-/
theorem requests_served (settings : PanaSettings) (role : PanaRole) (session : PanaSession)
    (reached : ReachedBy settings role (ServedInTurn settings role) session) :
    RequestsServed session :=
  ((Numbered.kept settings role).everywhere reached).toRequestsServed

theorem requests_served_first :
    ∃ session : PanaSession, session.passed = [1] ∧ RequestsServed session := by
  have started := reached_newClient (ServedInTurn plainSettings .pac)
  have received := started.after (.receive (parStart 5 1)) ⟨rfl, rfl⟩ trivial
  have served := received.after (.serve {}) ⟨rfl, rfl⟩ (by
    constructor
    · intro msg isFirst
      cases isFirst
      exact fun _ _ => ⟨fun _ => rfl, nofun⟩
    · intro start action isNext _ request isAsked
      cases isNext
      cases isAsked
      rfl)
  exact ⟨_, rfl, requests_served plainSettings .pac _ served⟩

/-- A request with the number 0 passes each time that it arrives. -/
theorem request_zero_repeated :
    ∃ session, ReachedBy plainSettings .pac (fun _ _ => True) session ∧
      session.passed = [0, 0] ∧ ¬RequestsServed session := by
  have started := reached_newClient fun _ _ => True
  have received := started.after (.receive (parStart 5 0)) ⟨rfl, rfl⟩ trivial
  have served := received.after (.serve {}) ⟨rfl, rfl⟩ trivial
  have duplicated := served.after (.receive (parStart 5 0)) ⟨rfl, rfl⟩ trivial
  have answered := duplicated.after (.serve {}) ⟨rfl, rfl⟩ trivial
  refine ⟨_, answered, rfl, ?_⟩
  intro served
  exact absurd served.once (by decide : ¬[(0 : UInt32), 0].Nodup)

end OpenDiameter.Pana
