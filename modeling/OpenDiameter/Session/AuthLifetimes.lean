import OpenDiameter.Session.AuthDisconnection

/-!
The session timeout and the authorization lifetime of a server session, and the answers that
carry them.
-/

namespace OpenDiameter.Session

open OpenDiameter.Foundation OpenDiameter.Framework OpenDiameter.Router

/-- The AVPs of a message that `TxDelivery` of a server looks at. -/
structure TimeoutAvps where
  sessionTimeout : Option UInt32
  authLifetime : Option UInt32
  deriving DecidableEq, Repr

def AuthMsg.timeouts (msg : AuthMsg) : TimeoutAvps :=
  ⟨msg.sessionTimeout, msg.authLifetime⟩

/-- What the configuration and the callbacks dictated last. -/
structure Ceilings where
  sessionTimeout : UInt32
  authLifetime : UInt32
  deriving DecidableEq, Repr

namespace NegotiatedAttribute

variable (own : NegotiatedAttribute) (avp : Option UInt32) (bound : UInt32)

theorem lower_le_iff : (own.lower avp).1.value ≤ bound ↔
    own.value ≤ bound ∨ ∃ tout, avp = some tout ∧ tout ≤ bound := by
  cases avp with
  | none => simp [lower]
  | some tout =>
    rw [lower]
    by_cases less : own.value < tout
    · rw [if_pos less]
      constructor
      · exact Or.inl
      · rintro (within | ⟨_, same, within⟩)
        · exact within
        · cases same
          exact UInt32.le_trans (UInt32.le_of_lt less) within
    · rw [if_neg less]
      have lowered : tout ≤ own.value := UInt32.not_lt.mp less
      constructor
      · exact fun within => Or.inr ⟨tout, rfl, within⟩
      · rintro (within | ⟨_, same, within⟩)
        · exact UInt32.le_trans lowered within
        · cases same
          exact within

theorem le_lower_iff : bound ≤ (own.lower avp).1.value ↔
    bound ≤ own.value ∧ ∀ tout, avp = some tout → bound ≤ tout := by
  cases avp with
  | none => simp [lower]
  | some tout =>
    rw [lower]
    by_cases less : own.value < tout
    · rw [if_pos less]
      constructor
      · intro within
        refine ⟨within, ?_⟩
        intro _ same
        cases same
        exact UInt32.le_trans within (UInt32.le_of_lt less)
      · exact And.left
    · rw [if_neg less]
      constructor
      · intro within
        refine ⟨UInt32.le_trans within (UInt32.not_lt.mp less), ?_⟩
        intro _ same
        cases same
        exact within
      · exact fun within => within.2 tout rfl

theorem lower_le : (own.lower avp).1.value ≤ own.value :=
  (lower_le_iff own avp own.value).mpr (.inl (UInt32.le_refl _))

theorem avp_lower : (own.lower avp).2 = some (own.lower avp).1.value := by
  cases avp with
  | none => rfl
  | some tout =>
    rw [lower]
    split <;> rfl

theorem dictate_of_negotiated (negotiated : own.isNegotiated = true) :
    own.dictate avp = (own, avp) := by
  rw [dictate, if_pos negotiated]

theorem dictate_of_open (isOpen : own.isNegotiated = false) :
    own.dictate avp =
      ({ (own.lower avp).1 with isNegotiated := true }, some (own.lower avp).1.value) := by
  rw [dictate, if_neg (by simp [isOpen])]
  dsimp only
  rw [avp_lower]

theorem dictate_le : (own.dictate avp).1.value ≤ own.value := by
  cases isOpen : own.isNegotiated with
  | true =>
    rw [dictate_of_negotiated own avp isOpen]
    exact UInt32.le_refl _
  | false =>
    rw [dictate_of_open own avp isOpen]
    exact lower_le own avp

theorem isNegotiated_dictate : (own.dictate avp).1.isNegotiated = true := by
  cases isOpen : own.isNegotiated with
  | true =>
    rw [dictate_of_negotiated own avp isOpen]
    exact isOpen
  | false => rw [dictate_of_open own avp isOpen]

end NegotiatedAttribute

/-- The AVPs of the answer that the action sends, which is the message that was posted or an
STA. -/
def ServerAction.answerTimeouts (posted : Option AuthMsg) : ServerAction → Option TimeoutAvps
  | .txSsa => (posted.filter fun msg => !msg.request).map AuthMsg.timeouts
  | .txStaCleanup | .txStaCleanupIdle => some ⟨none, none⟩
  | _ => none

/-- The session has the timeout and the lifetime, and an answer takes the AVPs along. -/
structure InBounds (ceilings : Ceilings) (sessionTimeout authLifetime : UInt32)
    (avps : TimeoutAvps) : Prop where
  ordered : authLifetime ≤ sessionTimeout
  timeoutBelow : sessionTimeout ≤ ceilings.sessionTimeout
  lifetimeBelow : authLifetime ≤ ceilings.authLifetime
  timeoutAvp : ∀ tout, avps.sessionTimeout = some tout → tout ≤ ceilings.sessionTimeout
  lifetimeAvp : ∀ tout, avps.authLifetime = some tout →
    tout ≤ sessionTimeout ∧ tout ≤ ceilings.authLifetime

namespace AuthSession

variable (config : AuthConfig) (callbacks : AuthCallbacks) (session : AuthSession) (msg : AuthMsg)
  (answers : Option AuthMsg)

theorem msgIdTxMessage_timeouts (attributes : AuthAttributes) :
    (attributes.msgIdTxMessage callbacks msg).1.sessionTimeout = attributes.sessionTimeout ∧
      (attributes.msgIdTxMessage callbacks msg).1.authLifetime = attributes.authLifetime ∧
        (attributes.msgIdTxMessage callbacks msg).2.request = msg.request ∧
          (attributes.msgIdTxMessage callbacks msg).2.timeouts = msg.timeouts := by
  rw [AuthAttributes.msgIdTxMessage]
  split <;> exact ⟨rfl, rfl, rfl, rfl⟩

@[simp] theorem sessionTimeout_txDelivery :
    (session.txDelivery config callbacks msg answers).1.attributes.sessionTimeout =
      session.attributes.sessionTimeout := by
  rw [txDelivery]
  dsimp only
  split
  · rfl
  · exact (msgIdTxMessage_timeouts ..).1

@[simp] theorem authLifetime_txDelivery :
    (session.txDelivery config callbacks msg answers).1.attributes.authLifetime =
      session.attributes.authLifetime := by
  rw [txDelivery]
  dsimp only
  split
  · rfl
  · exact (msgIdTxMessage_timeouts ..).2.1

/-- A message that is handed on keeps the AVPs. Only a request can be held back. -/
theorem deliveries_txDelivery :
    (∃ delivery, (session.txDelivery config callbacks msg answers).1.deliveries =
        delivery :: session.deliveries ∧
      delivery.msg.request = msg.request ∧ delivery.msg.timeouts = msg.timeouts) ∨
      msg.request = true ∧
        (session.txDelivery config callbacks msg answers).1.deliveries = session.deliveries := by
  rw [txDelivery]
  dsimp only
  split
  · rename_i refused
    rw [Bool.and_eq_true] at refused
    exact .inr ⟨refused.2, rfl⟩
  · exact .inl ⟨_, rfl, (msgIdTxMessage_timeouts ..).2.2.1, (msgIdTxMessage_timeouts ..).2.2.2⟩

end AuthSession

namespace AuthServer

/-- A lifetime within the timeout of the session, and within the one that the application sends. -/
def Within (attributes : AuthAttributes) (avps : TimeoutAvps) (lifetime : UInt32) : Prop :=
  lifetime ≤ attributes.sessionTimeout.value ∧
    ∀ tout, avps.sessionTimeout = some tout → lifetime ≤ tout

/-- The first message that is sent sets no timeout below both lifetimes, and the AVPs of later
ones are in bounds, as the session itself is. -/
def Respects (ceilings : Ceilings) (attributes : AuthAttributes) (avps : TimeoutAvps) : Prop :=
  if attributes.sessionTimeout.isNegotiated then
    attributes.authLifetime.value ≤ attributes.sessionTimeout.value ∧
      (∀ tout, avps.sessionTimeout = some tout → tout ≤ ceilings.sessionTimeout) ∧
        ∀ tout, avps.authLifetime = some tout →
          tout ≤ attributes.sessionTimeout.value ∧ tout ≤ ceilings.authLifetime
  else
    Within attributes avps attributes.authLifetime.value ∨
      ∃ tout, avps.authLifetime = some tout ∧ Within attributes avps tout

/-- Neither attribute is beyond what was dictated, and the two are negotiated together. -/
structure Below (ceilings : Ceilings) (attributes : AuthAttributes) : Prop where
  sessionTimeout : attributes.sessionTimeout.value ≤ ceilings.sessionTimeout
  authLifetime : attributes.authLifetime.value ≤ ceilings.authLifetime
  together : attributes.authLifetime.isNegotiated = attributes.sessionTimeout.isNegotiated

variable {config : AuthConfig} {callbacks : AuthCallbacks} {session next : AuthSession}
  {ceilings : Ceilings} {attributes : AuthAttributes}

theorem Below.dictated (below : Below ceilings attributes) (msg : AuthMsg) :
    Below ceilings (AuthServer.dictated attributes msg) where
  sessionTimeout := UInt32.le_trans (NegotiatedAttribute.dictate_le _ _) below.sessionTimeout
  authLifetime := UInt32.le_trans (NegotiatedAttribute.dictate_le _ _) below.authLifetime
  together :=
    (NegotiatedAttribute.isNegotiated_dictate _ _).trans
      (NegotiatedAttribute.isNegotiated_dictate _ _).symm

theorem Below.of_same {other : AuthAttributes} (below : Below ceilings attributes)
    (timeout : other.sessionTimeout = attributes.sessionTimeout)
    (lifetime : other.authLifetime = attributes.authLifetime) : Below ceilings other where
  sessionTimeout := by
    rw [timeout]
    exact below.sessionTimeout
  authLifetime := by
    rw [lifetime]
    exact below.authLifetime
  together := by
    rw [timeout, lifetime]
    exact below.together

theorem Below.txDelivery (below : Below ceilings session.attributes) (msg : AuthMsg)
    (answers : Option AuthMsg) :
    Below ceilings (AuthServer.txDelivery config callbacks session msg answers).1.attributes := by
  rw [txDelivery_eq]
  exact (below.dictated msg).of_same (AuthSession.sessionTimeout_txDelivery ..)
    (AuthSession.authLifetime_txDelivery ..)

theorem le_dictated_iff (avps : TimeoutAvps) (lifetime : UInt32) :
    lifetime ≤ (attributes.sessionTimeout.lower avps.sessionTimeout).1.value ↔
      Within attributes avps lifetime :=
  NegotiatedAttribute.le_lower_iff _ _ _

/-- Whether the session and the message are in bounds after `TxDelivery` is whether the message
respects them. -/
theorem inBounds_dictated_iff (below : Below ceilings attributes) (msg : AuthMsg) :
    InBounds ceilings (dictated attributes msg).sessionTimeout.value
        (dictated attributes msg).authLifetime.value (dictatedMsg attributes msg).timeouts ↔
      Respects ceilings attributes msg.timeouts := by
  have after := below.dictated msg
  cases isOpen : attributes.sessionTimeout.isNegotiated with
  | true =>
    have timeout := NegotiatedAttribute.dictate_of_negotiated _ msg.sessionTimeout isOpen
    have lifetime := NegotiatedAttribute.dictate_of_negotiated _ msg.authLifetime
      (below.together.trans isOpen)
    simp only [dictated, dictatedMsg, AuthMsg.timeouts, timeout, lifetime, Respects, isOpen,
      if_true]
    constructor
    · exact fun bounds => ⟨bounds.ordered, bounds.timeoutAvp, bounds.lifetimeAvp⟩
    · exact fun respects => ⟨respects.1, below.sessionTimeout, below.authLifetime, respects.2.1,
        respects.2.2⟩
  | false =>
    have timeout := NegotiatedAttribute.dictate_of_open _ msg.sessionTimeout isOpen
    have lifetime := NegotiatedAttribute.dictate_of_open _ msg.authLifetime
      (below.together.trans isOpen)
    have ordered_iff :
        (dictated attributes msg).authLifetime.value ≤
            (dictated attributes msg).sessionTimeout.value ↔
          Respects ceilings attributes msg.timeouts := by
      simp only [dictated, timeout, lifetime, Respects, isOpen, if_false, Bool.false_eq_true]
      rw [NegotiatedAttribute.lower_le_iff]
      simp only [← le_dictated_iff]
      rfl
    rw [← ordered_iff]
    constructor
    · exact InBounds.ordered
    · intro ordered
      refine ⟨ordered, after.sessionTimeout, after.authLifetime, ?_, ?_⟩
      · intro tout same
        simp only [dictatedMsg, AuthMsg.timeouts, timeout] at same
        cases same
        simpa only [dictated, timeout] using after.sessionTimeout
      · intro tout same
        simp only [dictatedMsg, AuthMsg.timeouts, lifetime] at same
        cases same
        simp only [dictated, lifetime] at ordered after
        exact ⟨ordered, after.authLifetime⟩

/-- An answer that is handed on in a step is in bounds, and so is the session then. -/
def HandsOn (ceilings : Ceilings) (next session : AuthSession) : Prop :=
  ∀ delivery, next.deliveries = delivery :: session.deliveries → delivery.msg.request = false →
    InBounds ceilings next.attributes.sessionTimeout.value next.attributes.authLifetime.value
      delivery.msg.timeouts

theorem handsOn_of_same (same : next.deliveries = session.deliveries) :
    HandsOn ceilings next session := by
  intro delivery isNew
  rw [same] at isNew
  exact absurd isNew.symm (List.cons_ne_self _ _)

theorem handsOn_of_request {delivery : AuthDelivery}
    (isNew : next.deliveries = delivery :: session.deliveries)
    (isRequest : delivery.msg.request = true) : HandsOn ceilings next session := by
  intro other isOther isAnswer
  cases isNew.symm.trans isOther
  rw [isRequest] at isAnswer
  cases isAnswer

theorem handsOn_txDelivery_of_request {msg : AuthMsg} (isRequest : msg.request = true)
    (answers : Option AuthMsg) :
    HandsOn ceilings (txDelivery config callbacks session msg answers).1 session := by
  rw [txDelivery_eq]
  cases AuthSession.deliveries_txDelivery config callbacks
      { session with attributes := dictated session.attributes msg }
      (dictatedMsg session.attributes msg) answers with
  | inl sent =>
    rcases sent with ⟨delivery, isNew, same, _⟩
    exact handsOn_of_request isNew (same.trans isRequest)
  | inr held => exact handsOn_of_same held.2

theorem handsOn_txDelivery_iff (below : Below ceilings session.attributes) {msg : AuthMsg}
    (isAnswer : msg.request = false) (answers : Option AuthMsg) :
    HandsOn ceilings (txDelivery config callbacks session msg answers).1 session ↔
      Respects ceilings session.attributes msg.timeouts := by
  rw [txDelivery_eq, ← inBounds_dictated_iff below]
  cases AuthSession.deliveries_txDelivery config callbacks
      { session with attributes := dictated session.attributes msg }
      (dictatedMsg session.attributes msg) answers with
  | inl sent =>
    rcases sent with ⟨delivery, isNew, same, avps⟩
    rw [← avps]
    constructor
    · intro hands
      simpa using hands delivery isNew (same.trans isAnswer)
    · intro bounds other isOther _
      cases isNew.symm.trans isOther
      simpa using bounds
  | inr held => cases isAnswer.symm.trans held.1

section

variable {posted answers : Option AuthMsg}

theorem Below.txAsr (below : Below ceilings session.attributes) :
    Below ceilings (AuthServer.txAsr config callbacks session).attributes := by
  by_cases unsent : Unsent config callbacks session
  · rw [txAsr_of_unsent unsent]
    exact below.txDelivery _ _
  · rw [txAsr_of_sent unsent]
    exact below.txDelivery _ _

theorem handsOn_txAsr : HandsOn ceilings (txAsr config callbacks session) session := by
  have sent : HandsOn ceilings
      (txDelivery config callbacks session (abortRequest config session) none).1 session :=
    handsOn_txDelivery_of_request rfl none
  by_cases unsent : Unsent config callbacks session
  · rw [txAsr_of_unsent unsent]
    exact sent
  · rw [txAsr_of_sent unsent]
    exact sent

theorem handsOn_txSta_iff (below : Below ceilings session.attributes) (rcode : UInt32)
    (answers : Option AuthMsg) :
    HandsOn ceilings (txSta config callbacks session rcode answers) session ↔
      Respects ceilings session.attributes ⟨none, none⟩ :=
  handsOn_txDelivery_iff below rfl answers

theorem attributes_extendAccess : (extendAccess session).attributes = session.attributes := by
  rw [extendAccess]
  split <;> rfl

theorem deliveries_extendAccess : (extendAccess session).deliveries = session.deliveries := by
  rw [extendAccess]
  split <;> rfl

theorem Below.act (below : Below ceilings session.attributes) (action : ServerAction) :
    Below ceilings (AuthServer.act config callbacks posted answers action session).attributes := by
  cases action with
  | rxSsa =>
    cases posted with
    | none => exact below
    | some msg =>
      apply below.of_same <;>
        simp only [AuthServer.act, AuthSession.msgIdRxMessage, AuthAttributes.msgIdRxMessage]
      all_goals split <;> rfl
  | txSsa =>
    cases posted with
    | none => exact below
    | some msg =>
      simp only [AuthServer.act]
      split
      · exact below.txDelivery _ _
      · rw [attributes_extendAccess]
        exact below.txDelivery _ _
  | txAsr =>
    have cancelled : Below ceilings session.cancelAllTimer.attributes := below
    exact cancelled.txAsr
  | txRar =>
    simp only [AuthServer.act]
    split
    · exact below
    · exact below.txDelivery _ _
  | txStaCleanup | txStaCleanupIdle =>
    have cancelled : Below ceilings session.cancelAllTimer.attributes := below
    exact (cancelled.txDelivery _ _).of_same rfl rfl
  | sessionReclaim =>
    simp only [AuthServer.act]
    split <;> exact below.of_same rfl rfl
  | rxSsarDiscard | txSsaaDiscard | grantAccess | rxRaa | rxAsa | authTimeout | sessionTimeout
    | cleanup => exact below.of_same rfl rfl

/-- Whether an action hands its answer on in bounds is whether that respects them. -/
theorem handsOn_act_iff (below : Below ceilings session.attributes) (action : ServerAction) :
    HandsOn ceilings (act config callbacks posted answers action session) session ↔
      ∀ avps, action.answerTimeouts posted = some avps →
        Respects ceilings session.attributes avps := by
  have silent : action.answerTimeouts posted = none →
      HandsOn ceilings (act config callbacks posted answers action session) session →
        (HandsOn ceilings (act config callbacks posted answers action session) session ↔
          ∀ avps, action.answerTimeouts posted = some avps →
            Respects ceilings session.attributes avps) := by
    intro isNone hands
    refine iff_of_true hands ?_
    intro avps isSome
    rw [isNone] at isSome
    cases isSome
  cases action with
  | rxSsa =>
    apply silent rfl
    cases posted <;> exact handsOn_of_same rfl
  | txSsa =>
    cases posted with
    | none => exact silent rfl (handsOn_of_same rfl)
    | some msg =>
      have sends : HandsOn ceilings
          (act config callbacks (some msg) answers .txSsa session) session ↔
            HandsOn ceilings (txDelivery config callbacks session msg answers).1 session := by
        simp only [act]
        split
        · rfl
        · rw [HandsOn, HandsOn, deliveries_extendAccess, attributes_extendAccess]
      cases isRequest : msg.request with
      | true =>
        apply silent (by simp [ServerAction.answerTimeouts, isRequest])
        exact sends.mpr (handsOn_txDelivery_of_request isRequest answers)
      | false =>
        rw [sends, handsOn_txDelivery_iff below isRequest]
        simp [ServerAction.answerTimeouts, isRequest]
  | txAsr =>
    have cancelled : HandsOn ceilings (txAsr config callbacks session.cancelAllTimer)
        session.cancelAllTimer := handsOn_txAsr
    exact silent rfl cancelled
  | txRar =>
    apply silent rfl
    simp only [act]
    split
    · exact handsOn_of_same rfl
    · exact handsOn_txDelivery_of_request rfl none
  | txStaCleanup | txStaCleanupIdle =>
    have cancelled : Below ceilings session.cancelAllTimer.attributes := below
    have sends : HandsOn ceilings
        (act config callbacks posted answers .txStaCleanup session) session ↔
          Respects ceilings session.attributes ⟨none, none⟩ :=
      handsOn_txSta_iff cancelled authorizationRejected answers
    exact sends.trans (by simp [ServerAction.answerTimeouts])
  | sessionReclaim =>
    apply silent rfl
    simp only [act]
    split <;> exact handsOn_of_same rfl
  | rxSsarDiscard | txSsaaDiscard | grantAccess | rxRaa | rxAsa | authTimeout | sessionTimeout
    | cleanup => exact silent rfl (handsOn_of_same rfl)

/-- An event that makes the server answer finds what the answer has to respect respected. -/
def EventRespects (ceilings : Ceilings) (session : AuthSession) (event : AuthEvent)
    (posted : Option AuthMsg) : Prop :=
  session.running = true → ∀ entry action avps,
    serverStateTable.find session.state event = some entry → entry.action = some action →
      action.answerTimeouts posted = some avps → Respects ceilings session.attributes avps

theorem handsOn_process_iff (below : Below ceilings session.attributes) (event : AuthEvent) :
    HandsOn ceilings (process config callbacks session event posted answers) session ↔
      EventRespects ceilings session event posted := by
  by_cases running : session.running = true
  · cases found : serverStateTable.find session.state event with
    | none =>
      rw [process, AuthSession.process_of_none found]
      apply iff_of_true (handsOn_of_same rfl)
      intro _ entry _ _ isFound
      cases found.symm.trans isFound
    | some entry =>
      rw [process, AuthSession.process_of_find running found, AuthSession.take]
      cases isAction : entry.action with
      | none =>
        apply iff_of_true (handsOn_of_same rfl)
        intro _ other action _ isFound isOther
        cases found.symm.trans isFound
        cases isAction.symm.trans isOther
      | some action =>
        have entered : Below ceilings
            { session with state := entry.nextState }.attributes := below
        apply (handsOn_act_iff entered action).trans
        constructor
        · intro respects _ other same avps isFound isSame answers
          cases found.symm.trans isFound
          cases isAction.symm.trans isSame
          exact respects avps answers
        · intro respects avps answers
          exact respects running entry action avps found isAction answers
  · have stopped : session.running = false := by simpa using running
    rw [process, AuthSession.process_of_stopped stopped]
    exact iff_of_true (handsOn_of_same rfl) fun runs => absurd runs running

theorem Below.process (below : Below ceilings session.attributes) (event : AuthEvent) :
    Below ceilings
      (AuthServer.process config callbacks session event posted answers).attributes := by
  by_cases running : session.running = true
  · cases found : serverStateTable.find session.state event with
    | none =>
      rw [AuthServer.process, AuthSession.process_of_none found]
      exact below
    | some entry =>
      rw [AuthServer.process, AuthSession.process_of_find running found, AuthSession.take]
      have entered : Below ceilings { session with state := entry.nextState }.attributes := below
      cases entry.action with
      | none => exact entered
      | some action => exact entered.act action
  · have stopped : session.running = false := by simpa using running
    rw [AuthServer.process, AuthSession.process_of_stopped stopped]
    exact below

theorem Below.serve (below : Below ceilings session.attributes) (call : AuthCall) :
    Below ceilings (AuthServer.serve config callbacks session call).attributes := by
  cases call with
  | notify event msg answers => exact below.process event
  | delivered msg =>
    rw [AuthServer.serve]
    split
    · exact below.process _
    · exact below

end

theorem sessionTimeout_filter (attributes : AuthAttributes) (msg : AuthMsg) :
    (filter config callbacks attributes msg).sessionTimeout =
      if attributes.sessionTimeout.isNegotiated then attributes.sessionTimeout
      else negotiate config.sessionTm msg.sessionTimeout callbacks.setSessionTimeout
        attributes.sessionTimeout := by
  simp only [filter, apply_ite AuthAttributes.sessionTimeout, ite_self]

theorem authLifetime_filter (attributes : AuthAttributes) (msg : AuthMsg) :
    (filter config callbacks attributes msg).authLifetime =
      if attributes.authLifetime.isNegotiated then attributes.authLifetime
      else sanityCheck (filter config callbacks attributes msg).sessionTimeout.value
        (negotiate config.lifetimeTm msg.authLifetime callbacks.setAuthLifetimeTimeout
          attributes.authLifetime) := by
  rw [sessionTimeout_filter]
  simp only [filter, apply_ite AuthAttributes.authLifetime, apply_ite AuthAttributes.sessionTimeout,
    ite_self]

@[simp] theorem isNegotiated_negotiate (configured : UInt32) (hint : Option UInt32)
    (callback : UInt32 → Option UInt32) (own : NegotiatedAttribute) :
    (negotiate configured hint callback own).isNegotiated = own.isNegotiated := by
  cases hint with
  | none => rfl
  | some tout =>
    rw [negotiate]
    split <;> rfl

theorem negotiate_le (configured : UInt32) (hint : Option UInt32)
    (callback : UInt32 → Option UInt32) (own : NegotiatedAttribute) :
    (negotiate configured hint callback own).value ≤
      (callback (hint.getD configured)).getD own.value := by
  cases hint with
  | none => exact UInt32.le_refl _
  | some tout =>
    rw [negotiate]
    split
    · rename_i less
      exact UInt32.le_of_lt less
    · exact UInt32.le_refl _

@[simp] theorem isNegotiated_sanityCheck (sessionTimeout : UInt32) (own : NegotiatedAttribute) :
    (sanityCheck sessionTimeout own).isNegotiated = own.isNegotiated := by
  rw [sanityCheck]
  split <;> rfl

theorem holder_le (sessionTimeout : UInt32) :
    (if sessionTimeout - 1 < 0x80000000 then sessionTimeout - 1 else sessionTimeout - 1 + 1) ≤
      sessionTimeout := by
  split
  · rename_i positive
    have bound := sessionTimeout.toNat_lt
    rw [UInt32.lt_iff_toNat_lt, UInt32.toNat_sub] at positive
    rw [UInt32.le_iff_toNat_le, UInt32.toNat_sub]
    simp only [UInt32.reduceToNat] at positive ⊢
    omega
  · rw [UInt32.sub_add_cancel]
    exact UInt32.le_refl _

theorem sanityCheck_le (sessionTimeout : UInt32) (own : NegotiatedAttribute) :
    (sanityCheck sessionTimeout own).value ≤ own.value := by
  rw [sanityCheck]
  split
  · rename_i beyond
    exact UInt32.le_trans (holder_le sessionTimeout) (UInt32.le_of_lt beyond)
  · exact UInt32.le_refl _

end AuthServer

/-- What is dictated when a request with the hints is taken: what a callback sets, where one is
asked. -/
def Ceilings.dictate (config : AuthConfig) (callbacks : AuthCallbacks) (attributes : AuthAttributes)
    (hints : TimeoutAvps) (ceilings : Ceilings) : Ceilings where
  sessionTimeout :=
    if attributes.sessionTimeout.isNegotiated then ceilings.sessionTimeout
    else (callbacks.setSessionTimeout (hints.sessionTimeout.getD config.sessionTm)).getD
      ceilings.sessionTimeout
  authLifetime :=
    if attributes.authLifetime.isNegotiated then ceilings.authLifetime
    else (callbacks.setAuthLifetimeTimeout (hints.authLifetime.getD config.lifetimeTm)).getD
      ceilings.authLifetime

namespace AuthServer

variable {config : AuthConfig} {callbacks : AuthCallbacks} {session after : AuthSession}
  {ceilings : Ceilings} {attributes : AuthAttributes}

/-- The request is one that `RxRequest` looks at for hints. -/
def takesHints (session : AuthSession) (msg : AuthMsg) : Bool :=
  (!session.attributes.sessionId.key.diameterId.isEmpty || msg.sessionId.isSome) &&
    !(msg.code = msgCodeSessionTermination && session.attributes.stateMaintained) &&
      msg.code ≠ msgCodeAbortSession

/-- What is dictated after an input. -/
def ceilingsAfter (config : AuthConfig) (callbacks : AuthCallbacks) (session : AuthSession)
    (ceilings : Ceilings) : AuthInput → Ceilings
  | .rxRequest msg =>
    if takesHints session msg then
      ceilings.dictate config callbacks session.attributes msg.timeouts
    else ceilings
  | _ => ceilings

theorem Below.filter (below : Below ceilings attributes) (msg : AuthMsg) :
    Below (ceilings.dictate config callbacks attributes msg.timeouts)
      (AuthServer.filter config callbacks attributes msg) := by
  have set_le {own ceiling : UInt32} (set : Option UInt32) (within : own ≤ ceiling) :
      set.getD own ≤ set.getD ceiling := by
    cases set with
    | none => exact within
    | some value => exact UInt32.le_refl _
  constructor
  · rw [sessionTimeout_filter, Ceilings.dictate]
    split
    · exact below.sessionTimeout
    · exact UInt32.le_trans (negotiate_le ..) (set_le _ below.sessionTimeout)
  · rw [authLifetime_filter, Ceilings.dictate]
    split
    · exact below.authLifetime
    · apply UInt32.le_trans (sanityCheck_le ..)
      exact UInt32.le_trans (negotiate_le ..) (set_le _ below.authLifetime)
  · rw [authLifetime_filter, sessionTimeout_filter, apply_ite NegotiatedAttribute.isNegotiated,
      apply_ite NegotiatedAttribute.isNegotiated]
    simp only [isNegotiated_sanityCheck, isNegotiated_negotiate, ite_self]
    exact below.together

theorem rxRequest_of_takes (config : AuthConfig) (callbacks : AuthCallbacks) {msg : AuthMsg}
    (takes : takesHints session msg = true) :
    ∃ sessionId, (rxRequest config callbacks session msg).attributes =
      filter config callbacks { session.attributes with sessionId } msg := by
  simp only [takesHints, Bool.and_eq_true, Bool.not_eq_true', decide_eq_true_eq] at takes
  rcases takes with ⟨⟨named, stays⟩, continues⟩
  rw [rxRequest]
  split
  · rename_i unnamed
    split at unnamed <;> simp_all
  · rename_i sessionId _
    refine ⟨sessionId, ?_⟩
    dsimp only
    split
    · rename_i ends
      exact absurd ends (by rw [← Bool.not_eq_true] at stays; exact stays)
    · rfl

theorem rxRequest_of_ignores (config : AuthConfig) (callbacks : AuthCallbacks) {msg : AuthMsg}
    (ignores : takesHints session msg = false) :
    (rxRequest config callbacks session msg).attributes.sessionTimeout =
        session.attributes.sessionTimeout ∧
      (rxRequest config callbacks session msg).attributes.authLifetime =
        session.attributes.authLifetime := by
  rw [rxRequest]
  split
  · exact ⟨rfl, rfl⟩
  · rename_i sessionId named
    dsimp only
    split
    · simp only [AuthSession.notify, AuthSession.msgIdRxMessage, AuthAttributes.msgIdRxMessage]
      split <;> exact ⟨rfl, rfl⟩
    · rename_i stays
      split
      · exact ⟨rfl, rfl⟩
      · rename_i continues
        exfalso
        have isNamed : (!session.attributes.sessionId.key.diameterId.isEmpty ||
            msg.sessionId.isSome) = true := by
          split at named <;> simp_all
        have stays' : (decide (msg.code = msgCodeSessionTermination) &&
            session.attributes.stateMaintained) = false := by
          rw [← Bool.not_eq_true]
          exact stays
        rw [takesHints, isNamed, stays', decide_eq_true continues] at ignores
        cases ignores

theorem Below.rxRequest (below : Below ceilings session.attributes) (msg : AuthMsg) :
    Below (ceilingsAfter config callbacks session ceilings (.rxRequest msg))
      (AuthServer.rxRequest config callbacks session msg).attributes := by
  rw [ceilingsAfter]
  cases takes : takesHints session msg with
  | true =>
    have ⟨sessionId, same⟩ := rxRequest_of_takes config callbacks takes
    have renamed : Below ceilings { session.attributes with sessionId } := below.of_same rfl rfl
    rw [same]
    exact renamed.filter msg
  | false =>
    have same := rxRequest_of_ignores config callbacks takes
    exact below.of_same same.1 same.2

theorem Below.rxAnswer (below : Below ceilings session.attributes) (msg : AuthMsg) :
    Below ceilings (AuthServer.rxAnswer session msg).attributes := by
  have noted : Below ceilings (session.msgIdRxMessage msg).attributes := by
    apply below.of_same <;> simp only [AuthSession.msgIdRxMessage, AuthAttributes.msgIdRxMessage]
    all_goals split <;> rfl
  unfold AuthServer.rxAnswer
  split
  · split
    · exact noted
    · exact below
  · split
    · exact below
    · split
      · dsimp only
        split <;> exact noted.of_same rfl rfl
      · exact below

/-- No input takes an attribute beyond what is dictated then. -/
theorem Below.next (below : Below ceilings session.attributes) {input : AuthInput}
    (step : AuthServer.next config callbacks session input = some after) :
    Below (ceilingsAfter config callbacks session ceilings input) after.attributes := by
  cases input with
  | rxRequest msg =>
    simp only [AuthServer.next] at step
    split at step <;> cases step
    exact below.rxRequest msg
  | rxAnswer msg =>
    simp only [AuthServer.next] at step
    split at step <;> cases step
    exact below.rxAnswer msg
  | begin optionValue => cases step
  | send | reAuth | finish =>
    simp only [AuthServer.next] at step
    split at step <;> cases step <;> exact below.of_same rfl rfl
  | timeout type =>
    rw [AuthServer.next, Option.map_eq_some_iff] at step
    rcases step with ⟨timer, _, rfl⟩
    exact below
  | serve index =>
    rw [AuthServer.next, Option.map_eq_some_iff] at step
    rcases step with ⟨call, _, rfl⟩
    have taken : Below ceilings
        { session with calls := session.calls.eraseIdx index }.attributes := below
    exact taken.serve call

/-- Only an STR is answered without a message that was posted. -/
theorem sta_rows : ∀ entry ∈ serverStateTable, ∀ action, entry.action = some action →
    action.answerTimeouts none ≠ none → entry.event = some .rxStr := by
  decide

theorem eventRespects_delivered (session : AuthSession) (msg : AuthMsg) :
    EventRespects ceilings session (deliveredEvent callbacks msg) none := by
  intro _ entry action avps found isAction answers
  have isStr := sta_rows entry (StateTable.find_sound found).1 action isAction (by simp [answers])
  have same := (StateTable.find_sound found).2.2 _ isStr
  unfold deliveredEvent at same
  split at same <;> cases same

/-- The answer that is sent, if any, respects what it has to. -/
def Respectful (ceilings : Ceilings) (session : AuthSession) (input : AuthInput) : Prop :=
  ∀ index event posted answers, input = .serve index →
    session.calls[index]? = some (.notify event posted answers) →
      EventRespects ceilings session event posted

theorem deliveries_rxRequest (msg : AuthMsg) :
    (rxRequest config callbacks session msg).deliveries = session.deliveries := by
  unfold rxRequest
  dsimp only
  split
  · rfl
  · split
    · rfl
    · split <;> rfl

theorem deliveries_rxAnswer (msg : AuthMsg) :
    (rxAnswer session msg).deliveries = session.deliveries := by
  unfold rxAnswer
  split
  · split <;> rfl
  · split
    · rfl
    · split
      · dsimp only
        split <;> rfl
      · rfl

theorem handsOn_next_iff (below : Below ceilings session.attributes) {input : AuthInput}
    (step : AuthServer.next config callbacks session input = some after) :
    HandsOn (ceilingsAfter config callbacks session ceilings input) after session ↔
      Respectful ceilings session input := by
  have unserved : (∀ index, input ≠ .serve index) → after.deliveries = session.deliveries →
      (HandsOn (ceilingsAfter config callbacks session ceilings input) after session ↔
        Respectful ceilings session input) := by
    intro isOther same
    apply iff_of_true (handsOn_of_same same)
    exact fun index _ _ _ isServe => absurd isServe (isOther index)
  cases input with
  | rxRequest msg =>
    apply unserved (by simp)
    simp only [AuthServer.next] at step
    split at step <;> cases step
    exact deliveries_rxRequest msg
  | rxAnswer msg =>
    apply unserved (by simp)
    simp only [AuthServer.next] at step
    split at step <;> cases step
    exact deliveries_rxAnswer msg
  | begin optionValue => cases step
  | send | reAuth | finish =>
    apply unserved (by simp)
    simp only [AuthServer.next] at step
    split at step <;> cases step <;> rfl
  | timeout type =>
    apply unserved (by simp)
    rw [AuthServer.next, Option.map_eq_some_iff] at step
    rcases step with ⟨timer, _, rfl⟩
    rfl
  | serve index =>
    rw [AuthServer.next, Option.map_eq_some_iff] at step
    rcases step with ⟨call, isCall, rfl⟩
    have taken : Below ceilings
        { session with calls := session.calls.eraseIdx index }.attributes := below
    cases call with
    | notify event posted answers =>
      apply (handsOn_process_iff taken event).trans
      constructor
      · intro respects other own same answered isServe isSame
        cases isServe
        cases isCall.symm.trans isSame
        exact respects
      · exact fun respects => respects index event posted answers rfl isCall
    | delivered msg =>
      apply iff_of_true
      · rw [serve]
        split
        · exact (handsOn_process_iff taken _).mpr (eventRespects_delivered _ msg)
        · exact handsOn_of_same rfl
      · intro other event posted answered isServe isSame
        cases isServe
        cases isCall.symm.trans isSame

/-- A server with what was dictated to it. -/
def CeiledStarted (config : AuthConfig) (state : AuthSession × Ceilings) : Prop :=
  ∃ applicationId, state = (initial config applicationId, ⟨config.sessionTm, config.lifetimeTm⟩)

def CeiledStep (config : AuthConfig) (state : AuthSession × Ceilings)
    (input : AuthCallbacks × AuthInput) (next : AuthSession × Ceilings) : Prop :=
  Step config state.1 input next.1 ∧
    next.2 = ceilingsAfter config input.1 state.1 state.2 input.2

theorem ceiled_after {ceilings : Ceilings}
    (reached : Reached (CeiledStarted config) (CeiledStep config) (fun _ _ => True)
      (session, ceilings)) (input : AuthCallbacks × AuthInput)
    (step : Step config session input after) :
    Reached (CeiledStarted config) (CeiledStep config) (fun _ _ => True)
      (after, ceilingsAfter config input.1 session ceilings input.2) :=
  reached.step ⟨step, rfl⟩ trivial

theorem below_of_reached {state : AuthSession × Ceilings}
    {allowed : AuthSession × Ceilings → AuthCallbacks × AuthInput → Prop}
    (reached : Reached (CeiledStarted config) (CeiledStep config) allowed state) :
    Below state.2 state.1.attributes := by
  apply reached.invariant fun state => Below state.2 state.1.attributes
  · rintro _ ⟨applicationId, rfl⟩
    exact ⟨UInt32.le_refl _, UInt32.le_refl _, rfl⟩
  · rintro ⟨session, ceilings⟩ input ⟨next, _⟩ below ⟨step, rfl⟩ _
    exact below.next step

end AuthServer

/-- In every run the session stays below what was dictated, and the answers that are handed on
in bounds are those whose timeout is not set below both lifetimes. -/
theorem lifetimes_bounded_iff (config : AuthConfig) {session : AuthSession} {ceilings : Ceilings}
    (reached : Reached (AuthServer.CeiledStarted config) (AuthServer.CeiledStep config)
      (fun _ _ => True) (session, ceilings)) :
    session.attributes.sessionTimeout.value ≤ ceilings.sessionTimeout ∧
      session.attributes.authLifetime.value ≤ ceilings.authLifetime ∧
        ∀ input next nextCeilings,
          AuthServer.CeiledStep config (session, ceilings) input (next, nextCeilings) →
            (AuthServer.HandsOn nextCeilings next session ↔
              AuthServer.Respectful ceilings session input.2) := by
  have below := AuthServer.below_of_reached reached
  refine ⟨below.sessionTimeout, below.authLifetime, ?_⟩
  rintro input next _ ⟨step, rfl⟩
  exact AuthServer.handsOn_next_iff below step

section

/-- The answer that grants what was dictated. -/
def grantingAnswer (sessionTimeout : Option UInt32) : AuthMsg where
  request := false
  code := 265
  resultCode := some success
  sessionTimeout

theorem AuthServer.respects_of_open {ceilings : Ceilings} {attributes : AuthAttributes}
    (isOpen : attributes.sessionTimeout.isNegotiated = false)
    (ordered : attributes.authLifetime.value ≤ attributes.sessionTimeout.value) :
    Respects ceilings attributes ⟨none, none⟩ := by
  rw [Respects, if_neg (by simp [isOpen])]
  exact .inl ⟨ordered, fun _ same => by cases same⟩

/-- The application of a server is about to answer an access request. -/
theorem AuthServer.answering_reached (sessionTimeout : Option UInt32) :
    ∃ session, Reached (CeiledStarted minuteConfig) (CeiledStep minuteConfig)
        (fun _ _ => True) (session, ⟨60, 30⟩) ∧
      ∃ next, Step minuteConfig session (grantingCallbacks true, .serve 0) next ∧
        (sessionTimeout = none →
          Respectful ⟨60, 30⟩ session (.serve 0) ∧ next.deliveries.length = 1) ∧
        (sessionTimeout = some 10 → ∃ delivery ∈ next.deliveries,
          delivery.msg.request = false ∧ delivery.msg.timeouts = ⟨some 10, some 30⟩ ∧
            next.attributes.sessionTimeout.value = 10 ∧ next.attributes.authLifetime.value = 30) := by
  have started : Reached (CeiledStarted minuteConfig) (CeiledStep minuteConfig)
      (fun _ _ => True) (initial minuteConfig 1, ⟨60, 30⟩) := .start ⟨1, rfl⟩
  have received := ceiled_after started (grantingCallbacks true, .rxRequest accessRequest) rfl
  have recorded := ceiled_after received (grantingCallbacks true, .serve 0) rfl
  have opened := ceiled_after recorded (grantingCallbacks true, .serve 0) rfl
  have answered := ceiled_after opened
    (grantingCallbacks true, .send (grantingAnswer sessionTimeout) accessRequest) rfl
  refine ⟨_, answered, _, rfl, ?_, ?_⟩
  · rintro rfl
    refine ⟨?_, rfl⟩
    intro index event posted answers isServe isCall running entry action avps found isAction avpsOf
    cases isServe
    cases isCall
    cases found
    cases isAction
    cases avpsOf
    exact respects_of_open rfl (by decide)
  · rintro rfl
    exact ⟨_, List.mem_cons_self, rfl, rfl, rfl, rfl⟩

theorem lifetimes_bounded_granted :
    ∃ session next : AuthSession, next.deliveries.length = 1 ∧
      AuthServer.HandsOn ⟨60, 30⟩ next session := by
  have ⟨session, reached, next, step, granted, _⟩ := AuthServer.answering_reached none
  have iff := (lifetimes_bounded_iff minuteConfig reached).2.2 _ next ⟨60, 30⟩ ⟨step, rfl⟩
  exact ⟨session, next, (granted rfl).2, iff.mpr (granted rfl).1⟩

/-- An answer that lowers the session timeout leaves the lifetime beyond it. -/
theorem lifetime_beyond_timeout :
    ∃ state, Reached (AuthServer.CeiledStarted minuteConfig) (AuthServer.CeiledStep minuteConfig)
        (fun _ _ => True) state ∧
      ∃ delivery ∈ state.1.deliveries, delivery.msg.request = false ∧
        delivery.msg.timeouts = ⟨some 10, some 30⟩ ∧
          state.1.attributes.authLifetime.value > state.1.attributes.sessionTimeout.value := by
  have ⟨session, reached, next, step, _, lowered⟩ := AuthServer.answering_reached (some 10)
  have ⟨delivery, handed, isAnswer, avps, timeout, lifetime⟩ := lowered rfl
  refine ⟨(next, ⟨60, 30⟩), reached.step ⟨step, rfl⟩ trivial, delivery, handed, isAnswer, avps, ?_⟩
  rw [timeout, lifetime]
  decide

end

end OpenDiameter.Session
