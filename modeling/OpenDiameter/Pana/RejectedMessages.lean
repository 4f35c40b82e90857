import OpenDiameter.Pana.HandlerEffects

/-!
What a message leaves behind that a handler throws at: exactly when a session is as if the
message had never come.
-/

namespace OpenDiameter.Pana

open OpenDiameter.Foundation

/-- Nothing that decides about a later message has changed. -/
structure LeavesNoTrace (start session : PanaSession) : Prop where
  lastRxSeqNum : session.lastRxSeqNum = start.lastRxSeqNum
  lastTxSeqNum : session.lastTxSeqNum = start.lastTxSeqNum
  sessionId : session.sessionId = start.sessionId
  pacAddress : session.pacAddress = start.pacAddress
  paaAddress : session.paaAddress = start.paaAddress
  lastRxHeader : session.lastRxHeader = start.lastRxHeader
  rxMsgQueue : session.rxMsgQueue = start.rxMsgQueue

section Conditions

variable (settings : PanaSettings) (role : PanaRole) (session : PanaSession) (msg : PanaMessage)

/-- The number, the AUTH AVP and the session identifier are right. -/
def Admitted (skipAuth : Bool) : Prop :=
  InSequence msg session ∧ Authentic settings msg skipAuth session ∧
    (msg.type = mtypePci ∨ msg.sessionId = session.sessionId)

/-- A PAR[S] at the PaC. -/
def opensSession : Bool :=
  decide (role = .pac) && decide (msg.type = mtypePar) && msg.flags.start

/-- A request has the number 0, or it is one that is not counted; a start changes nothing. -/
structure Traceless : Prop where
  first : msg.flags.request = true → session.lastRxSeqNum = 0 → msg.seq = 0
  counted : msg.flags.request = true → Admitted settings session msg (skipsAuth role msg) →
    session.lastRxSeqNum = 0
  identified : opensSession role msg = true → msg.sessionId = session.sessionId
  addressed : opensSession role msg = true →
    Admitted settings session msg (skipsAuth role msg) →
    msg.srcAddress = session.paaAddress ∧ msg.toPanaMsgHeader = session.lastRxHeader

end Conditions

/-- What `RxValidateMsg` leaves as it was, the last number apart. -/
structure Kept (start session : PanaSession) : Prop where
  lastTxSeqNum : session.lastTxSeqNum = start.lastTxSeqNum
  sessionId : session.sessionId = start.sessionId
  pacAddress : session.pacAddress = start.pacAddress
  paaAddress : session.paaAddress = start.paaAddress
  lastRxHeader : session.lastRxHeader = start.lastRxHeader
  rxMsgQueue : session.rxMsgQueue = start.rxMsgQueue
  sa : session.sa = start.sa

theorem Kept.refl (session : PanaSession) : Kept session session :=
  ⟨rfl, rfl, rfl, rfl, rfl, rfl, rfl⟩

theorem Kept.leavesNoTrace {start session : PanaSession} (kept : Kept start session)
    (lastRx : session.lastRxSeqNum = start.lastRxSeqNum) : LeavesNoTrace start session :=
  { kept with lastRxSeqNum := lastRx }

/-- The last number while a message is checked: the first request sets it at once. -/
def numberSeen (session : PanaSession) (msg : PanaMessage) : UInt32 :=
  if msg.flags.request = true ∧ session.lastRxSeqNum = 0 then msg.seq else session.lastRxSeqNum

def IsThrown (stop : PanaStop) : Prop :=
  ∃ exception, stop = .thrown exception

section Validation

variable {settings : PanaSettings} {role : PanaRole} {msg : PanaMessage} {start : PanaSession}
  {skipAuth : Bool}

/-- Where `RxValidateMsg` throws. -/
def Barred (settings : PanaSettings) (msg : PanaMessage) (skipAuth : Bool) (start : PanaSession)
    (stop : PanaStop) (session : PanaSession) : Prop :=
  IsThrown stop → ¬Admitted settings start msg skipAuth ∧ Kept start session ∧
    session.lastRxSeqNum = numberSeen start msg

/-- The number has been looked at. -/
structure Counting (start : PanaSession) (msg : PanaMessage) (doUpdate : Bool)
    (session : PanaSession) : Prop where
  inSequence : InSequence msg start
  kept : Kept start session
  lastRxSeqNum : session.lastRxSeqNum = numberSeen start msg
  doUpdate : msg.flags.request = true → (doUpdate = true ↔ start.lastRxSeqNum ≠ 0)

/-- The message passed, and a request is counted. -/
structure Counted (settings : PanaSettings) (msg : PanaMessage) (skipAuth : Bool)
    (start session : PanaSession) : Prop where
  admitted : Admitted settings start msg skipAuth
  kept : Kept start session
  lastRxSeqNum : session.lastRxSeqNum =
    if msg.flags.request then msg.seq else start.lastRxSeqNum

theorem not_inSequence_barred {session : PanaSession} (wrong : ¬InSequence msg start)
    (later : msg.flags.request = true → start.lastRxSeqNum ≠ 0) (stop : PanaStop)
    (kept : Kept start session) (lastRx : session.lastRxSeqNum = start.lastRxSeqNum) :
    Barred settings msg skipAuth start stop session := by
  intro _
  refine ⟨fun admitted => wrong admitted.1, kept, ?_⟩
  rw [lastRx, numberSeen, if_neg]
  intro first
  exact later first.1 first.2

theorem validateSeqNum_counts :
    Ensures (· = start) (validateSeqNum settings role msg) (Counting start msg)
      (Barred settings msg skipAuth start) := by
  apply Ensures.get_bind
  intro read isStart
  subst isStart
  split
  · rename_i isRequest
    split
    · rename_i first
      intro state _
      refine ⟨?_, ⟨rfl, rfl, rfl, rfl, rfl, rfl, rfl⟩, ?_, ?_⟩
      · simp [InSequence, isRequest, first]
      · simp [numberSeen, isRequest, first]
      · simp [first]
    · rename_i later
      split
      · rename_i last
        have wrong : ¬InSequence msg read := by
          simp [InSequence, isRequest, later, ← last]
        split
        · exact .of_throw fun _ _ thrown => thrown.elim (by rintro _ ⟨⟩)
        · split
          · intro state isRead
            subst isRead
            exact not_inSequence_barred wrong (fun _ => later) _
              ⟨rfl, rfl, rfl, rfl, rfl, rfl, rfl⟩ rfl
          · apply Ensures.of_throw
            intro state isRead
            subst isRead
            exact not_inSequence_barred wrong (fun _ => later) _ (Kept.refl _) rfl
      · split
        · rename_i notNext
          apply Ensures.of_throw
          intro state isRead
          subst isRead
          refine not_inSequence_barred ?_ (fun _ => later) _ (Kept.refl _) rfl
          simp [InSequence, isRequest, later, notNext]
        · rename_i isNext
          apply Ensures.of_pure
          intro state isRead
          subst isRead
          refine ⟨?_, Kept.refl _, ?_, ?_⟩
          · simp [InSequence, isRequest, Decidable.not_not.mp isNext]
          · simp [numberSeen, later]
          · simp [later]
  · rename_i isAnswer
    split
    · rename_i wrong
      apply Ensures.of_throw
      intro state isRead
      subst isRead
      refine not_inSequence_barred ?_ (fun isRequest => absurd isRequest isAnswer) _
        (Kept.refl _) rfl
      simp [InSequence, isAnswer, wrong]
    · rename_i right
      apply Ensures.of_pure
      intro state isRead
      subst isRead
      refine ⟨?_, Kept.refl _, ?_, fun isRequest => absurd isRequest isAnswer⟩
      · simp [InSequence, isAnswer, Decidable.not_not.mp right]
      · simp [numberSeen, isAnswer]

theorem validateAuth_counts {doUpdate : Bool} :
    Ensures (Counting start msg doUpdate) (validateAuth settings msg skipAuth)
      (fun _ session => Authentic settings msg skipAuth start ∧
        Counting start msg doUpdate session)
      (Barred settings msg skipAuth start) := by
  apply Ensures.get_bind
  intro read counting
  have sameKey : read.sa.authKey = start.sa.authKey := by rw [counting.kept.sa]
  split
  · rename_i secured
    rw [sameKey] at secured
    split
    · rename_i valid
      rw [sameKey] at valid
      exact .of_set ⟨fun _ _ _ => valid, { counting with kept := { counting.kept with } }⟩
    · rename_i invalid
      rw [sameKey] at invalid
      apply Ensures.of_throw
      intro session still _
      refine ⟨fun admitted => invalid ?_, still.kept, still.lastRxSeqNum⟩
      exact admitted.2.1 secured.1 secured.2.1 secured.2.2
  · rename_i unsecured
    apply Ensures.of_pure
    intro session still
    refine ⟨fun checked present isSet => absurd ?_ unsecured, still⟩
    exact ⟨checked, present, sameKey ▸ isSet⟩

theorem validateSessionId_counts {doUpdate : Bool} :
    Ensures
      (fun session => Authentic settings msg skipAuth start ∧
        Counting start msg doUpdate session)
      (validateSessionId msg doUpdate) (fun _ => Counted settings msg skipAuth start)
      (Barred settings msg skipAuth start) := by
  apply Ensures.get_bind
  intro read ⟨authentic, counting⟩
  have sameId := counting.kept.sessionId
  split
  · rename_i wrong
    rw [sameId] at wrong
    apply Ensures.of_throw
    intro session ⟨_, still⟩ _
    refine ⟨fun admitted => ?_, still.kept, still.lastRxSeqNum⟩
    exact admitted.2.2.elim wrong.1 wrong.2
  · rename_i right
    rw [sameId] at right
    have admitted : Admitted settings start msg skipAuth := by
      refine ⟨counting.inSequence, authentic, ?_⟩
      by_cases isPci : msg.type = mtypePci
      · exact .inl isPci
      · exact .inr (Decidable.not_not.mp fun other => right ⟨isPci, other⟩)
    have counted := counting.inSequence
    split
    · rename_i isRequest
      apply Ensures.of_set
      refine ⟨admitted, { counting.kept with }, ?_⟩
      have updates := counting.doUpdate isRequest
      change (if doUpdate then read.lastRxSeqNum + 1 else read.lastRxSeqNum) = _
      rw [counting.lastRxSeqNum]
      simp only [InSequence, numberSeen, isRequest, true_and, if_true] at counted ⊢
      by_cases first : start.lastRxSeqNum = 0
      · simp_all
      · simp_all
    · rename_i isAnswer
      apply Ensures.of_pure
      intro session ⟨_, still⟩
      refine ⟨admitted, still.kept, ?_⟩
      rw [still.lastRxSeqNum]
      simp [numberSeen, isAnswer]

theorem rxValidateMsg_counts :
    Ensures (· = start) (rxValidateMsg settings role msg skipAuth)
      (fun _ => Counted settings msg skipAuth start)
      (Barred settings msg skipAuth start) := by
  apply validateSeqNum_counts.bind
  intro doUpdate
  apply validateAuth_counts.bind
  intro _
  exact validateSessionId_counts

end Validation

section Handlers

variable {settings : PanaSettings} {role : PanaRole} {msg : PanaMessage} {start : PanaSession}

/-- Where a handler throws. -/
def Traces (settings : PanaSettings) (role : PanaRole) (msg : PanaMessage) (start : PanaSession)
    (stop : PanaStop) (session : PanaSession) : Prop :=
  IsThrown stop → (LeavesNoTrace start session ↔
    (flagsAdmitted role msg = true → Traceless settings role start msg))

/-- A handler that throws before it has changed anything. -/
theorem invalidMessage_traces {Value : Type} (description : String)
    {returns : Value → PanaSession → Prop} (turned : flagsAdmitted role msg = false) :
    Ensures (· = start) (invalidMessage description) returns (Traces settings role msg start) := by
  apply Ensures.of_throw
  intro session isStart _
  subst isStart
  simp only [turned, Bool.false_eq_true, false_imp_iff, iff_true]
  exact (Kept.refl _).leavesNoTrace rfl

/-- A message that is no start and that `RxValidateMsg` throws at. -/
theorem barred_traces (admitted : flagsAdmitted role msg = true)
    (notStart : opensSession role msg = false) {stop : PanaStop} {session : PanaSession}
    (barred : Barred settings msg (skipsAuth role msg) start stop session) :
    Traces settings role msg start stop session := by
  intro thrown
  have ⟨notAdmitted, kept, lastRx⟩ := barred thrown
  simp only [admitted, true_imp_iff]
  constructor
  · intro same
    refine ⟨?_, fun _ => (absurd · notAdmitted), by simp [notStart], by simp [notStart]⟩
    intro isRequest first
    have same := same.lastRxSeqNum
    rw [lastRx, numberSeen, if_pos ⟨isRequest, first⟩, first] at same
    exact same
  · intro traceless
    apply kept.leavesNoTrace
    rw [lastRx, numberSeen]
    split
    · rename_i counts
      rw [traceless.first counts.1 counts.2, counts.2]
    · rfl

/-- What a handler does when a message has passed never throws. -/
theorem passing_traces {Value : Type} {next : Unit → PanaM Value} {skipAuth : Bool}
    (admitted : flagsAdmitted role msg = true) (notStart : opensSession role msg = false)
    (skips : skipAuth = skipsAuth role msg)
    (later : Ensures (fun _ => True) (next ()) (fun _ _ => True) (fun _ _ => False)) :
    Ensures (· = start) (rxValidateMsg settings role msg skipAuth >>= next) (fun _ _ => True)
      (Traces settings role msg start) := by
  subst skips
  apply (rxValidateMsg_counts.mono (fun _ => id) (fun _ _ => id)
    (fun _ _ => barred_traces admitted notStart)).bind
  intro _
  exact later.mono (fun _ _ => trivial) (fun _ _ => id) (fun _ _ => False.elim)

end Handlers

namespace Client

variable {settings : PanaSettings} {msg : PanaMessage} {start : PanaSession}

variable {session : PanaSession}

/-- The identifier is taken from a start that is checked afterwards. -/
theorem start_barred (isPar : msg.type = mtypePar) (isStart : msg.flags.start = true)
    (isRequest : msg.flags.request = true) (plain : ¬(msg.flags.auth ∨ msg.flags.ping))
    {stop : PanaStop}
    (barred : Barred settings msg false { start with sessionId := msg.sessionId } stop session) :
    Traces settings .pac msg start stop session := by
  intro thrown
  have ⟨notAdmitted, kept, lastRx⟩ := barred thrown
  have admitted : flagsAdmitted .pac msg = true := by
    simp only [flagsAdmitted, isPar, if_true]
    grind
  have opens : opensSession .pac msg = true := by simp [opensSession, isPar, isStart]
  have skips : skipsAuth .pac msg = false := by simp [skipsAuth, isStart]
  have sameNumber : numberSeen { start with sessionId := msg.sessionId } msg =
    if start.lastRxSeqNum = 0 then msg.seq else start.lastRxSeqNum := by
      simp [numberSeen, isRequest]
  rw [sameNumber] at lastRx
  simp only [admitted, true_imp_iff]
  constructor
  · intro same
    have sameId : msg.sessionId = start.sessionId := kept.sessionId.symm.trans same.sessionId
    have rejected : ¬Admitted settings start msg (skipsAuth .pac msg) := by
      rw [skips]
      rw [sameId] at notAdmitted
      exact notAdmitted
    refine ⟨?_, fun _ => (absurd · rejected), fun _ => sameId, fun _ => (absurd · rejected)⟩
    intro _ first
    have same := same.lastRxSeqNum
    rw [lastRx, if_pos first, first] at same
    exact same
  · intro traceless
    have sameId := traceless.identified opens
    rw [sameId] at kept
    apply kept.leavesNoTrace
    rw [lastRx]
    split
    · rename_i first
      rw [traceless.first isRequest first, first]
    · rfl

/-- What a start has changed when its algorithms are looked at. -/
structure StartTaken (msg : PanaMessage) (start session : PanaSession) : Prop where
  lastRxSeqNum : session.lastRxSeqNum = msg.seq
  lastTxSeqNum : session.lastTxSeqNum = start.lastTxSeqNum
  sessionId : session.sessionId = msg.sessionId
  pacAddress : session.pacAddress = start.pacAddress
  paaAddress : session.paaAddress = msg.srcAddress
  lastRxHeader : session.lastRxHeader = msg.toPanaMsgHeader
  rxMsgQueue : session.rxMsgQueue = start.rxMsgQueue

theorem StartTaken.leavesNoTrace_iff (taken : StartTaken msg start session)
    (isPar : msg.type = mtypePar) (isStart : msg.flags.start = true)
    (isRequest : msg.flags.request = true)
    (passed : Admitted settings { start with sessionId := msg.sessionId } msg false) :
    LeavesNoTrace start session ↔ Traceless settings .pac start msg := by
  have opens : opensSession .pac msg = true := by simp [opensSession, isPar, isStart]
  have skips : skipsAuth .pac msg = false := by simp [skipsAuth, isStart]
  have inSequence : start.lastRxSeqNum = 0 ∨ msg.seq = start.lastRxSeqNum + 1 := by
    simpa [InSequence, isRequest] using passed.1
  constructor
  · intro same
    have sameId : msg.sessionId = start.sessionId := taken.sessionId.symm.trans same.sessionId
    have sameNumber : msg.seq = start.lastRxSeqNum :=
      taken.lastRxSeqNum.symm.trans same.lastRxSeqNum
    have first : start.lastRxSeqNum = 0 := by
      apply inSequence.resolve_right
      rw [sameNumber]
      simp
    refine ⟨fun _ _ => sameNumber.trans first, fun _ _ => first, fun _ => sameId, fun _ _ => ?_⟩
    exact ⟨taken.paaAddress.symm.trans same.paaAddress,
      taken.lastRxHeader.symm.trans same.lastRxHeader⟩
  · intro traceless
    have sameId := traceless.identified opens
    have admitted : Admitted settings start msg (skipsAuth .pac msg) := by
      rw [skips]
      rw [sameId] at passed
      exact passed
    have first := traceless.counted isRequest admitted
    obtain ⟨sameAddress, sameHeader⟩ := traceless.addressed opens admitted
    exact {
      lastRxSeqNum := by rw [taken.lastRxSeqNum, traceless.first isRequest first, first]
      lastTxSeqNum := taken.lastTxSeqNum
      sessionId := taken.sessionId.trans sameId
      pacAddress := taken.pacAddress
      paaAddress := taken.paaAddress.trans sameAddress
      lastRxHeader := taken.lastRxHeader.trans sameHeader
      rxMsgQueue := taken.rxMsgQueue }

theorem checkAlgorithms_keeps {before : PanaSession → Prop}
    {stops : PanaStop → PanaSession → Prop}
    (thrown : ∀ exception session, before session → stops (.thrown exception) session) :
    Ensures before (checkAlgorithms msg) (fun _ _ => True) stops := by
  unfold checkAlgorithms
  split
  · exact .of_throw fun session => thrown _ session
  · split
    · exact .of_throw fun session => thrown _ session
    · exact .of_pure fun _ _ => trivial

theorem handleStart_traces (isPar : msg.type = mtypePar) (isStart : msg.flags.start = true)
    (plain : ¬(msg.flags.auth ∨ msg.flags.ping)) :
    Ensures (· = start) (handleStart settings msg) (fun _ _ => True)
      (Traces settings .pac msg start) := by
  unfold handleStart
  split
  · rename_i isRequest
    have identified : Ensures (· = start)
        (modify fun session => { session with sessionId := msg.sessionId })
        (fun _ => (· = { start with sessionId := msg.sessionId }))
        (Traces settings .pac msg start) :=
      .of_modify fun _ isStart => isStart ▸ rfl
    apply identified.bind
    intro _
    apply (rxValidateMsg_counts.mono (fun _ => id) (fun _ _ => id)
      (fun _ _ => start_barred isPar isStart isRequest plain)).bind
    intro _
    have takes : Ensures
        (Counted settings msg false { start with sessionId := msg.sessionId })
        (modify fun session =>
          { session with
            paaAddress := msg.srcAddress
            lastUsedChannel := msg.destAddress
            lastRxHeader := msg.toPanaMsgHeader })
        (fun _ session => Admitted settings { start with sessionId := msg.sessionId } msg false ∧
          StartTaken msg start session)
        (Traces settings .pac msg start) := by
      apply Ensures.of_modify
      intro session ⟨passed, kept, lastRx⟩
      rw [if_pos isRequest] at lastRx
      exact ⟨passed, { kept with
        lastRxSeqNum := lastRx
        paaAddress := rfl
        lastRxHeader := rfl }⟩
    apply takes.bind
    intro _
    have algorithms : Ensures
        (fun session => Admitted settings { start with sessionId := msg.sessionId } msg false ∧
          StartTaken msg start session)
        (checkAlgorithms msg) (fun _ _ => True) (Traces settings .pac msg start) := by
      apply checkAlgorithms_keeps
      intro _ session ⟨passed, taken⟩ _
      have admitted : flagsAdmitted .pac msg = true := by
        simp only [flagsAdmitted, isPar, if_true]
        grind
      simp only [admitted, true_imp_iff]
      exact taken.leavesNoTrace_iff isPar isStart isRequest passed
    apply algorithms.bind
    intro _
    exact .of_pure fun _ _ => trivial
  · rename_i isAnswer
    apply invalidMessage_traces
    simp [flagsAdmitted, isPar, isStart, isAnswer]

theorem rxPA_traces (isPar : msg.type = mtypePar) :
    Ensures (· = start) (rxPA settings msg) (fun _ _ => True)
      (Traces settings .pac msg start) := by
  unfold rxPA
  split
  · rename_i flagged
    apply invalidMessage_traces
    simp only [flagsAdmitted, isPar, if_true]
    grind
  · rename_i plain
    split
    · rename_i isStart
      exact handleStart_traces isPar isStart plain
    · rename_i notStart
      have opens : opensSession .pac msg = false := by simp [opensSession, notStart]
      split
      · rename_i complete
        unfold handleComplete
        split
        · rename_i isRequest
          apply passing_traces _ opens
          · simp [skipsAuth, isPar, notStart, complete]
          · exact fun _ _ => trivial
          · simp only [flagsAdmitted, isPar, if_true]
            grind
        · rename_i isAnswer
          apply invalidMessage_traces
          simp [flagsAdmitted, isPar, complete, isAnswer]
      · rename_i notComplete
        apply passing_traces _ opens
        · simp [skipsAuth, notComplete]
        · exact fun _ _ => trivial
        · simp only [flagsAdmitted, isPar, if_true]
          grind

/-- What is thrown at a notification that `RxValidateMsg` has counted. -/
theorem counted_traces (isPnr : msg.type = mtypePnr) {stop : PanaStop}
    (counted : Counted settings msg false start session) :
    Traces settings .pac msg start stop session := by
  intro _
  have ⟨passed, kept, lastRx⟩ := counted
  have notPar : mtypePnr ≠ mtypePar := by decide
  have admitted : flagsAdmitted .pac msg = true := by simp [flagsAdmitted, isPnr, notPar]
  have notStart : opensSession .pac msg = false := by simp [opensSession, isPnr, notPar]
  have skips : skipsAuth .pac msg = false := by simp [skipsAuth, isPnr, notPar]
  simp only [admitted, true_imp_iff]
  constructor
  · intro same
    have same := same.lastRxSeqNum
    have first : msg.flags.request = true → msg.seq = start.lastRxSeqNum := by
      intro isRequest
      rw [lastRx, if_pos isRequest] at same
      exact same
    refine ⟨?_, ?_, by simp [notStart], by simp [notStart]⟩
    · intro isRequest isFirst
      exact (first isRequest).trans isFirst
    · intro isRequest _
      have inSequence : start.lastRxSeqNum = 0 ∨ msg.seq = start.lastRxSeqNum + 1 := by
        simpa [InSequence, isRequest] using passed.1
      apply inSequence.resolve_right
      rw [first isRequest]
      simp
  · intro traceless
    apply kept.leavesNoTrace
    rw [lastRx]
    split
    · rename_i isRequest
      have isFirst := traceless.counted isRequest (skips ▸ passed)
      rw [traceless.first isRequest isFirst, isFirst]
    · rfl

theorem rxPN_traces (isPnr : msg.type = mtypePnr) :
    Ensures (· = start) (rxPN settings msg) (fun _ _ => True)
      (Traces settings .pac msg start) := by
  have notPar : mtypePnr ≠ mtypePar := by decide
  have admitted : flagsAdmitted .pac msg = true := by simp [flagsAdmitted, isPnr, notPar]
  have notStart : opensSession .pac msg = false := by simp [opensSession, isPnr, notPar]
  have skips : skipsAuth .pac msg = false := by simp [skipsAuth, isPnr, notPar]
  apply (rxValidateMsg_counts.mono (fun _ => id) (fun _ _ => id)
    (fun _ _ barred => barred_traces admitted notStart (skips ▸ barred))).bind
  intro _
  split
  · exact .of_throw fun _ => counted_traces isPnr
  · split
    · exact fun _ _ => trivial
    · split
      · unfold handleAuth
        split
        · exact .of_throw fun _ => counted_traces isPnr
        · exact fun _ _ => trivial
      · exact .of_throw fun _ => counted_traces isPnr

theorem rxPT_traces (isPtr : msg.type = mtypePtr) :
    Ensures (· = start) (rxPT settings msg) (fun _ _ => True)
      (Traces settings .pac msg start) := by
  have notPar : mtypePtr ≠ mtypePar := by decide
  apply passing_traces
  · simp [flagsAdmitted, isPtr, notPar]
  · simp [opensSession, isPtr, notPar]
  · simp [skipsAuth, isPtr, notPar]
  · exact fun _ _ => trivial

end Client

namespace Paa

variable {settings : PanaSettings} {msg : PanaMessage} {start : PanaSession}

/-- At the PAA nothing is thrown but what `RxValidateMsg` throws. -/
theorem passes_traces {next : Unit → PanaM PanaEvent} (admitted : flagsAdmitted .paa msg = true)
    (later : Ensures (fun _ => True) (next ()) (fun _ _ => True) (fun _ _ => False)) :
    Ensures (· = start) (rxValidateMsg settings .paa msg false >>= next) (fun _ _ => True)
      (Traces settings .paa msg start) :=
  passing_traces admitted rfl rfl later

theorem saveRequestAddresses_returns :
    Ensures (fun _ => True) (saveRequestAddresses msg) (fun _ _ => True) (fun _ _ => False) := by
  unfold saveRequestAddresses
  split
  · exact fun _ _ => trivial
  · exact fun _ _ => trivial

theorem rxPCI_traces (isPci : msg.type = mtypePci) :
    Ensures (· = start) (rxPCI settings msg) (fun _ _ => True)
      (Traces settings .paa msg start) := by
  unfold rxPCI
  split
  · rename_i isRequest
    apply invalidMessage_traces
    simp [flagsAdmitted, isPci, isRequest]
  · rename_i isAnswer
    apply passes_traces
    · simp [flagsAdmitted, isPci, isAnswer]
    · exact fun _ _ => trivial

theorem rxPA_traces (isPar : msg.type = mtypePar) :
    Ensures (· = start) (rxPA settings msg) (fun _ _ => True)
      (Traces settings .paa msg start) := by
  have notPci : mtypePar ≠ mtypePci := by decide
  have flags := flagsAdmitted.eq_def .paa msg
  simp only [isPar, if_neg notPci, if_true] at flags
  unfold rxPA
  split
  · apply invalidMessage_traces
    grind
  · split
    · unfold handleStart
      split
      · apply invalidMessage_traces
        grind
      · apply passes_traces
        · grind
        · exact fun _ _ => trivial
    · split
      · unfold handleComplete
        split
        · apply invalidMessage_traces
          grind
        · apply passes_traces
          · grind
          · exact fun _ _ => trivial
      · apply passes_traces
        · grind
        · have saved : Ensures (fun _ => True) (saveHeader msg) (fun _ _ => True)
              (fun _ _ => False) := fun _ _ => trivial
          exact saved.bind fun _ => saveRequestAddresses_returns.bind fun _ => fun _ _ => trivial

theorem rxPN_traces (isPnr : msg.type = mtypePnr) :
    Ensures (· = start) (rxPN settings msg) (fun _ _ => True)
      (Traces settings .paa msg start) := by
  have notPci : mtypePnr ≠ mtypePci := by decide
  have notPar : mtypePnr ≠ mtypePar := by decide
  have flags := flagsAdmitted.eq_def .paa msg
  simp only [isPnr, if_neg notPci, if_neg notPar, if_true] at flags
  unfold rxPN
  split
  · apply invalidMessage_traces
    grind
  · split
    · unfold handleAuth
      split
      · apply passes_traces
        · grind
        · exact fun _ _ => trivial
      · apply invalidMessage_traces
        grind
    · split
      · apply passes_traces
        · grind
        · exact saveRequestAddresses_returns.bind fun _ => fun _ _ => trivial
      · apply invalidMessage_traces
        grind

theorem rxPT_traces (isPtr : msg.type = mtypePtr) :
    Ensures (· = start) (rxPT settings msg) (fun _ _ => True)
      (Traces settings .paa msg start) := by
  apply passes_traces
  · have notPci : mtypePtr ≠ mtypePci := by decide
    have notPar : mtypePtr ≠ mtypePar := by decide
    have notPnr : mtypePtr ≠ mtypePnr := by decide
    simp [flagsAdmitted, isPtr, notPci, notPar, notPnr]
  · exact saveRequestAddresses_returns.bind fun _ => fun _ _ => trivial

end Paa

section Receive

variable {settings : PanaSettings} {role : PanaRole} {msg : PanaMessage} {start : PanaSession}

theorem receiveIn_traces {handle : PanaMessage → PanaM PanaEvent}
    (traces : Ensures (· = start) (handle msg) (fun _ _ => True)
      (Traces settings role msg start)) :
    Ensures (· = start) (receiveIn (handlerStates role msg.type) handle msg) (fun _ _ => True)
      (fun stop session => IsThrown stop → (LeavesNoTrace start session ↔
        (ReachesCheck role start msg → Traceless settings role start msg))) := by
  apply Ensures.get_bind
  intro read isStart
  subst isStart
  split
  · rename_i allowed
    have reaches : ReachesCheck role read msg ↔ flagsAdmitted role msg = true := by
      simp [ReachesCheck, allowed]
    simp only [reaches]
    exact traces.bind fun _ _ _ => trivial
  · exact .of_pure fun _ _ => trivial

theorem receive_traces (settings : PanaSettings) (role : PanaRole) (msg : PanaMessage)
    (start : PanaSession) :
    Ensures (· = start) ((machine settings role).receive msg) (fun _ _ => True)
      (fun stop session => IsThrown stop → (LeavesNoTrace start session ↔
        (ReachesCheck role start msg → Traceless settings role start msg))) := by
  cases role with
  | pac =>
    change Ensures _ (Client.receive settings msg) _ _
    unfold Client.receive
    split
    · rename_i isPar
      have received := receiveIn_traces (@Client.rxPA_traces settings msg start isPar)
      simpa only [handlerStates, if_pos isPar] using received
    · rename_i notPar
      split
      · rename_i isPnr
        have received := receiveIn_traces (@Client.rxPN_traces settings msg start isPnr)
        simpa only [handlerStates, if_neg notPar, if_pos isPnr] using received
      · rename_i notPnr
        split
        · rename_i isPtr
          have received := receiveIn_traces (@Client.rxPT_traces settings msg start isPtr)
          simpa only [handlerStates, if_neg notPar, if_neg notPnr, if_pos isPtr] using received
        · exact .of_pure fun _ _ => trivial
  | paa =>
    change Ensures _ (Paa.receive settings msg) _ _
    unfold Paa.receive
    split
    · rename_i isPci
      have received := receiveIn_traces (@Paa.rxPCI_traces settings msg start isPci)
      simpa only [handlerStates, if_pos isPci] using received
    · rename_i notPci
      split
      · rename_i isPar
        have received := receiveIn_traces (@Paa.rxPA_traces settings msg start isPar)
        simpa only [handlerStates, if_neg notPci, if_pos isPar] using received
      · rename_i notPar
        split
        · rename_i isPnr
          have received := receiveIn_traces (@Paa.rxPN_traces settings msg start isPnr)
          simpa only [handlerStates, if_neg notPci, if_neg notPar, if_pos isPnr] using received
        · rename_i notPnr
          split
          · rename_i isPtr
            have received := receiveIn_traces (@Paa.rxPT_traces settings msg start isPtr)
            simpa only [handlerStates, if_neg notPci, if_neg notPar, if_neg notPnr,
              if_pos isPtr] using received
          · exact .of_pure fun _ _ => trivial

end Receive

/--
A message that a handler throws at leaves no trace exactly if a request has the number 0 as
long as the last one is 0, no counted request is thrown at, and a start carries the identifier,
and past the checks the address and the header, that the session has.
-/
theorem rejected_without_trace_iff (settings : PanaSettings) (role : PanaRole)
    (msg : PanaMessage) (session after : PanaSession) (exception : PanaException)
    (thrown : ((machine settings role).receive msg).run session =
      .error (.thrown exception) after) :
    LeavesNoTrace session after ↔
      (ReachesCheck role session msg → Traceless settings role session msg) := by
  have traced := receive_traces settings role msg session session rfl
  rw [thrown] at traced
  exact traced ⟨exception, rfl⟩

/-- A PAR[S] that asks for an integrity algorithm that the PaC does not have. -/
def forgedStart : PanaMessage :=
  { parStart 7 5 with avpList := [.integrityAlgorithm 99] }

theorem rejected_without_trace_iff_forged :
    ∃ after, ((machine plainSettings .pac).receive forgedStart).run
        (newClient plainSettings ⟨1, 0⟩ ⟨2, 716⟩ {}) =
          .error (.thrown ⟨.failed, "PAR recevied, unsupported integrity algorithm"⟩) after ∧
      (LeavesNoTrace (newClient plainSettings ⟨1, 0⟩ ⟨2, 716⟩ {}) after ↔
        (ReachesCheck .pac (newClient plainSettings ⟨1, 0⟩ ⟨2, 716⟩ {}) forgedStart →
          Traceless plainSettings .pac (newClient plainSettings ⟨1, 0⟩ ⟨2, 716⟩ {})
            forgedStart)) :=
  ⟨_, rfl, rejected_without_trace_iff plainSettings .pac forgedStart _ _ _ rfl⟩

/-- The forged start is thrown at, and the genuine one is then refused. -/
theorem forged_start_remains :
    ∃ session after exception stop refusing,
      ReachedBy plainSettings .pac (fun _ _ => True) session ∧
      ((machine plainSettings .pac).receive forgedStart).run session =
        .error (.thrown exception) after ∧
      ¬LeavesNoTrace session after ∧
      ((machine plainSettings .pac).receive (parStart 5 1)).run after =
        .error (.thrown stop) refusing := by
  refine ⟨_, _, _, _, _, reached_newClient _, rfl, ?_, rfl⟩
  intro same
  exact absurd same.lastRxSeqNum (by decide : ¬(5 : UInt32) = 0)

end OpenDiameter.Pana
