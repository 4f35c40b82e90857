import OpenDiameter.Foundation.Ensures
import OpenDiameter.Pana.StateMachine

/-!
What the message handlers of both sessions do: a message is rejected, or it passes the checks
of `RxValidateMsg`.
-/

namespace OpenDiameter.Pana

open OpenDiameter.Foundation

/-- What no check of a message changes. -/
structure Framed (start session : PanaSession) : Prop where
  state : session.state = start.state
  fault : session.fault = start.fault
  asked : session.asked = start.asked
  rxMsgQueue : session.rxMsgQueue = start.rxMsgQueue
  txEapMessageQueue : session.txEapMessageQueue = start.txEapMessageQueue
  events : session.events = start.events
  acted : session.acted = start.acted
  derived : session.derived = start.derived
  sa : session.sa = start.sa
  lastTxSeqNum : session.lastTxSeqNum = start.lastTxSeqNum

/-- Nothing of the message has been checked yet. -/
structure Unchecked (start session : PanaSession) : Prop extends Framed start session where
  lastRxSeqNum : session.lastRxSeqNum = start.lastRxSeqNum
  passed : session.passed = start.passed
  sent : session.sent = start.sent
  cachedAnsMsg : session.cachedAnsMsg = start.cachedAnsMsg
  verified : session.verified = start.verified

theorem Unchecked.refl (session : PanaSession) : Unchecked session session where
  state := rfl
  fault := rfl
  asked := rfl
  rxMsgQueue := rfl
  txEapMessageQueue := rfl
  events := rfl
  acted := rfl
  derived := rfl
  sa := rfl
  lastTxSeqNum := rfl
  lastRxSeqNum := rfl
  passed := rfl
  sent := rfl
  cachedAnsMsg := rfl
  verified := rfl

section Checks

variable (settings : PanaSettings) (msg : PanaMessage)

/-- The messages verified so far, with this one if its AUTH AVP was accepted. -/
def VerifiedAfter (start session : PanaSession) : Prop :=
  session.verified = start.verified ∨
    session.verified = start.verified ++ [(msg, start.sa.authKey.value)] ∧
      validateAuthAvp settings start.sa.authKey.value msg = true

/-- A number that `RxValidateMsg` goes on with. -/
def InSequence (session : PanaSession) : Prop :=
  if msg.flags.request then session.lastRxSeqNum = 0 ∨ msg.seq = session.lastRxSeqNum + 1
  else msg.seq = session.lastTxSeqNum

/-- The sequence number was looked at, and the message is gone on with. -/
structure Sequenced (start : PanaSession) (doUpdate : Bool) (session : PanaSession) : Prop
    extends Framed start session where
  passed : session.passed = start.passed
  sent : session.sent = start.sent
  verified : VerifiedAfter settings msg start session
  inSequence : InSequence msg start
  numbers : msg.flags.request = false ∧ session.lastRxSeqNum = start.lastRxSeqNum ∨
    msg.flags.request = true ∧
      (start.lastRxSeqNum = 0 ∧ doUpdate = false ∧ session.lastRxSeqNum = msg.seq ∨
        start.lastRxSeqNum ≠ 0 ∧ doUpdate = true ∧ msg.seq = start.lastRxSeqNum + 1 ∧
          session.lastRxSeqNum = start.lastRxSeqNum)

/-- The AUTH AVP that the message has is one to go on with. -/
def Authentic (skipAuth : Bool) (start : PanaSession) : Prop :=
  skipAuth = false → msg.authAvp.isSome = true → start.sa.authKey.isSet = true →
    validateAuthAvp settings start.sa.authKey.value msg = true

/-- The message passed all checks. -/
structure Passed (skipAuth : Bool) (start session : PanaSession) : Prop
    extends Framed start session where
  sent : session.sent = start.sent
  verified : VerifiedAfter settings msg start session
  inSequence : InSequence msg start
  authentic : Authentic settings msg skipAuth start
  numbers : msg.flags.request = false ∧ session.lastRxSeqNum = start.lastRxSeqNum ∧
      session.passed = start.passed ∨
    msg.flags.request = true ∧ session.lastRxSeqNum = msg.seq ∧
      session.passed = start.passed ++ [msg.seq] ∧
      (start.lastRxSeqNum = 0 ∨ msg.seq = start.lastRxSeqNum + 1)

/-- The cached answer is sent once more, for a request that has the last number. -/
def Repeated (start session : PanaSession) : Prop :=
  msg.flags.request = true ∧ start.lastRxSeqNum ≠ 0 ∧ msg.seq = start.lastRxSeqNum ∧
    ∃ cached sent, start.cachedAnsMsg = some cached ∧ msg.type = cached.type ∧
      session.sent = start.sent ++ [{ message := sent, request := some msg }] ∧
      sent.seq = cached.seq

/-- The message was rejected by one of the checks. -/
structure Rejected (start session : PanaSession) : Prop extends Framed start session where
  passed : session.passed = start.passed
  verified : VerifiedAfter settings msg start session
  numbers : session.lastRxSeqNum = start.lastRxSeqNum ∨
    msg.flags.request = true ∧ start.lastRxSeqNum = 0 ∧ session.lastRxSeqNum = msg.seq
  sent : session.sent = start.sent ∨ Repeated msg start session

/-- Where a check stops; it never takes from a queue. -/
def Rejects (start : PanaSession) (stop : PanaStop) (session : PanaSession) : Prop :=
  stop ≠ .fault .emptyQueue ∧ Rejected settings msg start session

end Checks

section Validation

variable {settings : PanaSettings} {role : PanaRole} {msg : PanaMessage}
  {start session : PanaSession}

theorem Unchecked.rejected (unchecked : Unchecked start session) :
    Rejected settings msg start session :=
  { unchecked with
    verified := .inl unchecked.verified
    numbers := .inl unchecked.lastRxSeqNum
    sent := .inl unchecked.sent }

theorem Sequenced.rejected {doUpdate : Bool}
    (sequenced : Sequenced settings msg start doUpdate session) :
    Rejected settings msg start session := by
  refine { sequenced with numbers := ?_, sent := .inl sequenced.sent }
  apply sequenced.numbers.elim
  · intro answer
    exact .inl answer.2
  · intro ⟨isRequest, request⟩
    apply request.elim
    · intro ⟨first, _, number⟩
      exact .inr ⟨isRequest, first, number⟩
    · intro ⟨_, _, _, same⟩
      exact .inl same

theorem txLastAnsMsg_repeats {cached : PanaMessage} (isRequest : msg.flags.request = true)
    (later : start.lastRxSeqNum ≠ 0) (last : msg.seq = start.lastRxSeqNum)
    (isCached : start.cachedAnsMsg = some cached) (sameType : msg.type = cached.type) :
    Ensures (Unchecked start) (txLastAnsMsg settings role cached msg)
      (fun _ => Rejected settings msg start) (Rejects settings msg start) := by
  apply Ensures.of_modify
  intro session unchecked
  have sameNumber : (txPrepareMessage settings role session cached).seq = cached.seq := by
    unfold txPrepareMessage
    cases role with
    | pac => dsimp only; split <;> rfl
    | paa => rfl
  refine { unchecked with
    verified := .inl unchecked.verified
    numbers := .inl unchecked.lastRxSeqNum
    sent := .inr ⟨isRequest, later, last, cached, txPrepareMessage settings role session cached,
      isCached, sameType, ?_, sameNumber⟩ }
  change session.sent ++ _ = _
  rw [unchecked.sent]

theorem invalidMessage_rejects {Value : Type} (description : String)
    {returns : Value → PanaSession → Prop} :
    Ensures (Unchecked start) (invalidMessage description) returns
      (Rejects settings msg start) :=
  .of_throw fun _ unchecked => ⟨nofun, unchecked.rejected⟩

/-- A request whose number is the last one is answered from the cache, or not at all. -/
theorem duplicate_rejected {session : PanaSession} (unchecked : Unchecked start session)
    (isRequest : msg.flags.request = true) (later : start.lastRxSeqNum ≠ 0)
    (last : msg.seq = start.lastRxSeqNum) {returns : Bool → PanaSession → Prop} :
    Ensures (Unchecked start)
      (match session.cachedAnsMsg with
        | none => throw (.fault .noCachedAnsMsg)
        | some cached =>
          if msg.type = cached.type then do
            txLastAnsMsg settings role cached msg
            invalidMessage "Re-transmitting answer message"
          else
            invalidMessage "unexpected request msg with invalid seq number")
      returns (Rejects settings msg start) := by
  split
  · exact .of_throw fun _ unchecked => ⟨nofun, unchecked.rejected⟩
  · rename_i cached isCached
    split
    · rename_i sameType
      apply (txLastAnsMsg_repeats isRequest later last
        (unchecked.cachedAnsMsg ▸ isCached) sameType).bind
      intro _
      exact .of_throw fun _ rejected => ⟨nofun, rejected⟩
    · exact invalidMessage_rejects _

theorem validateSeqNum_effect :
    Ensures (Unchecked start) (validateSeqNum settings role msg)
      (fun doUpdate session => session.verified = start.verified ∧
        Sequenced settings msg start doUpdate session)
      (Rejects settings msg start) := by
  apply Ensures.get_bind
  intro read unchecked
  have sameNumber := unchecked.lastRxSeqNum
  split
  · rename_i isRequest
    split
    · rename_i first
      rw [sameNumber] at first
      have counted : Sequenced settings msg start false
          { read with lastRxSeqNum := msg.seq } :=
        { unchecked with
          verified := .inl unchecked.verified
          inSequence := by simp [InSequence, isRequest, first]
          numbers := .inr ⟨isRequest, .inl ⟨first, rfl, rfl⟩⟩ }
      intro state _
      exact ⟨unchecked.verified, counted⟩
    · rename_i later
      rw [sameNumber] at later
      split
      · rename_i last
        rw [sameNumber] at last
        exact duplicate_rejected unchecked isRequest later last.symm
      · split
        · exact invalidMessage_rejects _
        · rename_i isNext
          rw [sameNumber] at isNext
          apply Ensures.of_pure
          intro session still
          exact ⟨still.verified, { still with
            verified := .inl still.verified
            inSequence := by simp [InSequence, isRequest, Decidable.not_not.mp isNext]
            numbers := .inr ⟨isRequest, .inr ⟨later, rfl, Decidable.not_not.mp isNext,
              still.lastRxSeqNum⟩⟩ }⟩
  · rename_i isAnswer
    split
    · exact invalidMessage_rejects _
    · rename_i right
      rw [unchecked.lastTxSeqNum] at right
      apply Ensures.of_pure
      intro session still
      exact ⟨still.verified, { still with
        verified := .inl still.verified
        inSequence := by simp [InSequence, isAnswer, Decidable.not_not.mp right]
        numbers := .inl ⟨by simpa using isAnswer, still.lastRxSeqNum⟩ }⟩

theorem validateAuth_effect {doUpdate skipAuth : Bool} :
    Ensures
      (fun session => session.verified = start.verified ∧
        Sequenced settings msg start doUpdate session)
      (validateAuth settings msg skipAuth)
      (fun _ session => Authentic settings msg skipAuth start ∧
        Sequenced settings msg start doUpdate session)
      (Rejects settings msg start) := by
  apply Ensures.get_bind
  intro read ⟨unverified, sequenced⟩
  have sameKey : read.sa.authKey = start.sa.authKey := by rw [sequenced.sa]
  split
  · split
    · rename_i valid
      rw [sameKey] at valid
      apply Ensures.of_set
      refine ⟨fun _ _ _ => valid, { sequenced with verified := .inr ⟨?_, valid⟩ }⟩
      change read.verified ++ _ = _
      rw [unverified, sameKey]
    · exact .of_throw fun _ still => ⟨nofun, still.2.rejected⟩
  · rename_i unsecured
    apply Ensures.of_pure
    intro session still
    refine ⟨fun checked present isSet => absurd ?_ unsecured, still.2⟩
    exact ⟨checked, present, sameKey ▸ isSet⟩

theorem validateSessionId_effect {doUpdate skipAuth : Bool} :
    Ensures
      (fun session => Authentic settings msg skipAuth start ∧
        Sequenced settings msg start doUpdate session)
      (validateSessionId msg doUpdate) (fun _ => Passed settings msg skipAuth start)
      (Rejects settings msg start) := by
  apply Ensures.get_bind
  intro read ⟨authentic, sequenced⟩
  split
  · exact .of_throw fun _ still => ⟨nofun, still.2.rejected⟩
  · split
    · rename_i isRequest
      have request := (sequenced.numbers.resolve_left (by simp [isRequest])).2
      apply Ensures.of_set
      refine { sequenced with authentic, numbers := .inr ⟨isRequest, ?_, ?_, ?_⟩ }
      · apply request.elim
        · intro ⟨_, kept, number⟩
          simp [kept, number]
        · intro ⟨_, counted, number, same⟩
          simp [counted, number, same]
      · change read.passed ++ _ = _
        rw [sequenced.passed]
      · exact request.imp (·.1) (·.2.2.1)
    · rename_i isAnswer
      apply Ensures.of_pure
      intro session still
      have answer := still.2.numbers.resolve_right fun request => isAnswer request.1
      exact { still.2 with
        authentic
        numbers := .inl ⟨answer.1, answer.2, still.2.passed⟩ }

/-- `RxValidateMsg` rejects a message, or the message passed every check. -/
theorem rxValidateMsg_effect {skipAuth : Bool} :
    Ensures (Unchecked start) (rxValidateMsg settings role msg skipAuth)
      (fun _ => Passed settings msg skipAuth start)
      (Rejects settings msg start) := by
  apply validateSeqNum_effect.bind
  intro doUpdate
  apply validateAuth_effect.bind
  intro _
  exact validateSessionId_effect

end Validation

/-- The states in which a session has a handler take a message of the type. -/
def handlerStates : PanaRole → UInt16 → List PanaState
  | .pac, type =>
    if type = mtypePar then [.initial, .waitPan, .waitPar, .opened]
    else if type = mtypePnr then [.opened, .waitPna]
    else if type = mtypePtr then [.opened, .sessTerm]
    else []
  | .paa, type =>
    if type = mtypePci then [.initial]
    else if type = mtypePar then
      [.initial, .waitPanOrPar, .waitSuccPan, .waitFailPan, .opened]
    else if type = mtypePnr then [.opened, .waitPna]
    else if type = mtypePtr then [.opened, .sessTerm]
    else []

/-- The flags that a handler looks at before it calls `RxValidateMsg`. -/
def flagsAdmitted (role : PanaRole) (msg : PanaMessage) : Bool :=
  match role with
  | .pac =>
    if msg.type = mtypePar then
      !msg.flags.auth && !msg.flags.ping &&
        (msg.flags.request || !msg.flags.start && !msg.flags.complete)
    else true
  | .paa =>
    if msg.type = mtypePci then !msg.flags.request
    else if msg.type = mtypePar then
      !msg.flags.auth && !msg.flags.ping &&
        (!msg.flags.request || !msg.flags.start && !msg.flags.complete)
    else if msg.type = mtypePnr then
      !msg.flags.start && !msg.flags.complete &&
        (if msg.flags.auth then msg.flags.request else msg.flags.ping)
    else true

/-- A handler of the session calls `RxValidateMsg` for the message. -/
def ReachesCheck (role : PanaRole) (session : PanaSession) (msg : PanaMessage) : Prop :=
  session.state ∈ handlerStates role msg.type ∧ flagsAdmitted role msg = true

instance (role : PanaRole) (session : PanaSession) (msg : PanaMessage) :
    Decidable (ReachesCheck role session msg) :=
  inferInstanceAs (Decidable (_ ∧ _))

/-- The message whose AUTH AVP `PANA_CsmRxPA` leaves for later: a PAR[C] at the PaC. -/
def skipsAuth (role : PanaRole) (msg : PanaMessage) : Bool :=
  decide (role = .pac) && decide (msg.type = mtypePar) && !msg.flags.start && msg.flags.complete

section Handlers

variable (settings : PanaSettings) (role : PanaRole) (msg : PanaMessage)

/-- A handler threw: at a check of the message, or when the message had passed all of them. -/
def Refused (start : PanaSession) (stop : PanaStop) (session : PanaSession) : Prop :=
  stop ≠ .fault .emptyQueue ∧
    (Rejected settings msg start session ∨
      Passed settings msg (skipsAuth role msg) start session)

/-- The handler posts the event of a message that passed all checks, or it throws. -/
def Handles (handle : PanaM PanaEvent) : Prop :=
  ∀ start, Ensures (Unchecked start) handle
    (fun event session => event.msgType.isSome ∧
      Passed settings msg (skipsAuth role msg) start session)
    (Refused settings role msg start)

/-- The handler throws before it has changed anything. -/
def Turns (handle : PanaM PanaEvent) : Prop :=
  ∀ start, Ensures (Unchecked start) handle (fun _ _ => False)
    (fun stop session => (∃ exception, stop = .thrown exception) ∧ Unchecked start session)

variable {settings role msg} {start session : PanaSession}

theorem Passed.weaken (passed : Passed settings msg false start session) (skipAuth : Bool) :
    Passed settings msg skipAuth start session :=
  { passed with authentic := fun _ => passed.authentic rfl }

theorem rxValidateMsg_handles :
    Ensures (Unchecked start) (rxValidateMsg settings role msg false)
      (fun _ => Passed settings msg (skipsAuth role msg) start)
      (Refused settings role msg start) :=
  rxValidateMsg_effect.mono (fun _ => id) (fun _ _ passed => passed.weaken _)
    (fun _ _ => And.imp_right .inl)

theorem rxValidateMsg_skips (skips : skipsAuth role msg = true) :
    Ensures (Unchecked start) (rxValidateMsg settings role msg true)
      (fun _ => Passed settings msg (skipsAuth role msg) start)
      (Refused settings role msg start) :=
  rxValidateMsg_effect.mono (fun _ => id) (fun _ _ passed => skips ▸ passed)
    (fun _ _ => And.imp_right .inl)

theorem invalidMessage_handles {Value : Type} (description : String)
    {returns : Value → PanaSession → Prop} :
    Ensures (Unchecked start) (invalidMessage description) returns
      (Refused settings role msg start) :=
  .of_throw fun _ unchecked => ⟨nofun, .inl unchecked.rejected⟩

/-- What a handler throws at after the checks. -/
theorem throwPana_handles {Value : Type} (code : PanaExceptionCode) (description : String)
    {returns : Value → PanaSession → Prop} :
    Ensures (Passed settings msg (skipsAuth role msg) start) (throwPana code description) returns
      (Refused settings role msg start) :=
  .of_throw fun _ passed => ⟨nofun, .inr passed⟩

theorem modify_handles {change : PanaSession → PanaSession}
    {stops : PanaStop → PanaSession → Prop}
    (keeps : ∀ session, Passed settings msg (skipsAuth role msg) start session →
      Passed settings msg (skipsAuth role msg) start (change session)) :
    Ensures (Passed settings msg (skipsAuth role msg) start) (modify change)
      (fun _ => Passed settings msg (skipsAuth role msg) start) stops :=
  .of_modify keeps

end Handlers

namespace Client

variable {settings : PanaSettings} {msg : PanaMessage} {start : PanaSession}

theorem checkAlgorithms_handles :
    Ensures (Passed settings msg (skipsAuth .pac msg) start) (checkAlgorithms msg)
      (fun _ => Passed settings msg (skipsAuth .pac msg) start)
      (Refused settings .pac msg start) := by
  unfold checkAlgorithms
  split
  · exact throwPana_handles _ _
  · split
    · exact throwPana_handles _ _
    · exact .of_pure fun _ => id

theorem handleStart_handles : Handles settings .pac msg (handleStart settings msg) := by
  intro start
  unfold handleStart
  split
  · have identified : Ensures (Unchecked start)
        (modify fun session => { session with sessionId := msg.sessionId })
        (fun _ => Unchecked start) (Refused settings .pac msg start) :=
      .of_modify fun _ unchecked => { unchecked with }
    apply identified.bind
    intro _
    apply rxValidateMsg_handles.bind
    intro _
    refine Ensures.bind (modify_handles fun _ passed => { passed with }) fun _ => ?_
    apply checkAlgorithms_handles.bind
    intro _
    exact .of_pure fun _ passed => ⟨rfl, passed⟩
  · exact invalidMessage_handles _

theorem handleNormal_handles : Handles settings .pac msg (handleNormal settings msg) := by
  intro start
  apply rxValidateMsg_handles.bind
  intro _
  refine Ensures.bind (modify_handles fun _ passed => { passed with }) fun _ => ?_
  apply Ensures.of_pure
  intro _ passed
  exact ⟨by split <;> rfl, passed⟩

theorem handleComplete_handles (skips : skipsAuth .pac msg = true) :
    Handles settings .pac msg (handleComplete settings msg) := by
  intro start
  unfold handleComplete
  split
  · apply (rxValidateMsg_skips skips).bind
    intro _
    refine Ensures.bind (modify_handles fun _ passed => { passed with }) fun _ => ?_
    exact .of_pure fun _ passed => ⟨rfl, passed⟩
  · exact invalidMessage_handles _

theorem rxPA_handles (isPar : msg.type = mtypePar) :
    Handles settings .pac msg (rxPA settings msg) := by
  intro start
  unfold rxPA
  split
  · exact invalidMessage_handles _
  · split
    · exact handleStart_handles start
    · rename_i notStart
      split
      · rename_i complete
        apply handleComplete_handles
        simp [skipsAuth, isPar, complete, notStart]
      · exact handleNormal_handles start

/-- What is left of a notification once it passed the checks. -/
theorem rxPN_handles : Handles settings .pac msg (rxPN settings msg) := by
  intro start
  apply rxValidateMsg_handles.bind
  intro _
  split
  · exact throwPana_handles _ _
  · split
    · refine Ensures.bind (modify_handles fun _ passed => { passed with }) fun _ => ?_
      apply Ensures.of_pure
      intro _ passed
      exact ⟨by split <;> rfl, passed⟩
    · split
      · unfold handleAuth
        split
        · exact throwPana_handles _ _
        · refine Ensures.bind (modify_handles fun _ passed => { passed with }) fun _ => ?_
          exact .of_pure fun _ passed => ⟨rfl, passed⟩
      · exact throwPana_handles _ _

theorem rxPT_handles : Handles settings .pac msg (rxPT settings msg) := by
  intro start
  apply rxValidateMsg_handles.bind
  intro _
  refine Ensures.bind (modify_handles fun _ passed => { passed with }) fun _ => ?_
  apply Ensures.of_pure
  intro _ passed
  exact ⟨by split <;> rfl, passed⟩

theorem rxPA_turns (isPar : msg.type = mtypePar) (turned : flagsAdmitted .pac msg = false) :
    Turns (rxPA settings msg) := by
  intro start
  unfold rxPA
  split
  · exact .of_throw fun _ unchecked => ⟨⟨_, rfl⟩, unchecked⟩
  · rename_i plain
    have isAnswer : msg.flags.request = false ∧
        (msg.flags.start = true ∨ msg.flags.complete = true) := by
      simp only [flagsAdmitted, isPar, if_true] at turned
      grind
    unfold handleStart handleComplete
    simp only [isAnswer.1, Bool.false_eq_true, if_false]
    split
    · exact .of_throw fun _ unchecked => ⟨⟨_, rfl⟩, unchecked⟩
    · rename_i notStart
      simp only [isAnswer.2.resolve_left notStart, if_true]
      exact .of_throw fun _ unchecked => ⟨⟨_, rfl⟩, unchecked⟩

end Client

namespace Paa

variable {settings : PanaSettings} {msg : PanaMessage} {start : PanaSession}

variable {stops : PanaStop → PanaSession → Prop}

theorem saveAddresses_handles :
    Ensures (Passed settings msg (skipsAuth .paa msg) start) (saveAddresses msg)
      (fun _ => Passed settings msg (skipsAuth .paa msg) start) stops :=
  modify_handles fun _ passed => { passed with }

theorem saveRequestAddresses_handles :
    Ensures (Passed settings msg (skipsAuth .paa msg) start) (saveRequestAddresses msg)
      (fun _ => Passed settings msg (skipsAuth .paa msg) start) stops := by
  unfold saveRequestAddresses
  split
  · exact saveAddresses_handles
  · exact .of_pure fun _ => id

theorem saveHeader_handles :
    Ensures (Passed settings msg (skipsAuth .paa msg) start) (saveHeader msg)
      (fun _ => Passed settings msg (skipsAuth .paa msg) start) stops :=
  modify_handles fun _ passed => { passed with }

theorem rxPCI_handles : Handles settings .paa msg (rxPCI settings msg) := by
  intro start
  unfold rxPCI
  split
  · exact invalidMessage_handles _
  · apply rxValidateMsg_handles.bind
    intro _
    apply saveAddresses_handles.bind
    intro _
    apply saveHeader_handles.bind
    intro _
    exact .of_pure fun _ passed => ⟨rfl, passed⟩

theorem handleStart_handles : Handles settings .paa msg (handleStart settings msg) := by
  intro start
  unfold handleStart
  split
  · exact invalidMessage_handles _
  · apply rxValidateMsg_handles.bind
    intro _
    apply saveHeader_handles.bind
    intro _
    exact .of_pure fun _ passed => ⟨rfl, passed⟩

theorem handleComplete_handles : Handles settings .paa msg (handleComplete settings msg) := by
  intro start
  unfold handleComplete
  split
  · exact invalidMessage_handles _
  · apply rxValidateMsg_handles.bind
    intro _
    apply saveHeader_handles.bind
    intro _
    exact .of_pure fun _ passed => ⟨rfl, passed⟩

theorem handleNormal_handles : Handles settings .paa msg (handleNormal settings msg) := by
  intro start
  apply rxValidateMsg_handles.bind
  intro _
  apply saveHeader_handles.bind
  intro _
  apply saveRequestAddresses_handles.bind
  intro _
  apply Ensures.of_pure
  intro _ passed
  exact ⟨by split <;> rfl, passed⟩

theorem rxPA_handles : Handles settings .paa msg (rxPA settings msg) := by
  intro start
  unfold rxPA
  split
  · exact invalidMessage_handles _
  · split
    · exact handleStart_handles start
    · split
      · exact handleComplete_handles start
      · exact handleNormal_handles start

theorem handleAuth_handles : Handles settings .paa msg (handleAuth settings msg) := by
  intro start
  unfold handleAuth
  split
  · apply rxValidateMsg_handles.bind
    intro _
    apply saveAddresses_handles.bind
    intro _
    apply saveHeader_handles.bind
    intro _
    exact .of_pure fun _ passed => ⟨rfl, passed⟩
  · exact invalidMessage_handles _

theorem handlePing_handles : Handles settings .paa msg (handlePing settings msg) := by
  intro start
  apply rxValidateMsg_handles.bind
  intro _
  apply saveRequestAddresses_handles.bind
  intro _
  apply saveHeader_handles.bind
  intro _
  apply Ensures.of_pure
  intro _ passed
  exact ⟨by dsimp only; split <;> rfl, passed⟩

theorem rxPN_handles : Handles settings .paa msg (rxPN settings msg) := by
  intro start
  unfold rxPN
  split
  · exact invalidMessage_handles _
  · split
    · exact handleAuth_handles start
    · split
      · exact handlePing_handles start
      · exact invalidMessage_handles _

theorem rxPT_handles : Handles settings .paa msg (rxPT settings msg) := by
  intro start
  apply rxValidateMsg_handles.bind
  intro _
  apply saveRequestAddresses_handles.bind
  intro _
  apply saveHeader_handles.bind
  intro _
  apply Ensures.of_pure
  intro _ passed
  exact ⟨by dsimp only; split <;> rfl, passed⟩

theorem rxPCI_turns (turned : msg.flags.request = true) : Turns (rxPCI settings msg) := by
  intro start
  unfold rxPCI
  rw [if_pos turned]
  exact .of_throw fun _ unchecked => ⟨⟨_, rfl⟩, unchecked⟩

theorem rxPA_turns (isPar : msg.type = mtypePar) (turned : flagsAdmitted .paa msg = false) :
    Turns (rxPA settings msg) := by
  intro start
  unfold rxPA
  split
  · exact .of_throw fun _ unchecked => ⟨⟨_, rfl⟩, unchecked⟩
  · rename_i plain
    have isRequest : msg.flags.request = true ∧
        (msg.flags.start = true ∨ msg.flags.complete = true) := by
      have notPci : mtypePar ≠ mtypePci := by decide
      simp only [flagsAdmitted, isPar, if_true, if_neg notPci] at turned
      grind
    unfold handleStart handleComplete
    simp only [isRequest.1, if_true]
    split
    · exact .of_throw fun _ unchecked => ⟨⟨_, rfl⟩, unchecked⟩
    · rename_i notStart
      simp only [isRequest.2.resolve_left notStart, if_true]
      exact .of_throw fun _ unchecked => ⟨⟨_, rfl⟩, unchecked⟩

theorem rxPN_turns (isPnr : msg.type = mtypePnr) (turned : flagsAdmitted .paa msg = false) :
    Turns (rxPN settings msg) := by
  intro start
  have notPci : mtypePnr ≠ mtypePci := by decide
  have notPar : mtypePnr ≠ mtypePar := by decide
  simp only [flagsAdmitted, isPnr, if_true, if_neg notPci, if_neg notPar] at turned
  unfold rxPN
  split
  · exact .of_throw fun _ unchecked => ⟨⟨_, rfl⟩, unchecked⟩
  · rename_i plain
    split
    · rename_i auth
      have isAnswer : ¬msg.flags.request = true := by grind
      unfold handleAuth
      rw [if_neg isAnswer]
      exact .of_throw fun _ unchecked => ⟨⟨_, rfl⟩, unchecked⟩
    · rename_i notAuth
      have notPing : ¬msg.flags.ping = true := by grind
      rw [if_neg notPing]
      exact .of_throw fun _ unchecked => ⟨⟨_, rfl⟩, unchecked⟩

end Paa

end OpenDiameter.Pana
