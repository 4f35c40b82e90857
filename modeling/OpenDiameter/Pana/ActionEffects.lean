import OpenDiameter.Foundation.Ensures
import OpenDiameter.Pana.StateMachine

/-!
What the actions of both state tables do to a session: one relation, kept by each operation of
a session, and one lemma for each action.
-/

namespace OpenDiameter.Pana

open OpenDiameter.Foundation

/-- What an action uses of a session. -/
structure Uses where
  takesMessage : Bool := false
  takesPacket : Bool := false
  answers : Bool := false
  derives : Bool := false
  disconnects : Bool := false
  deriving DecidableEq, Repr

/--
A session in the course of an action, against the session that the action started with and what
is left of its two queues.
-/
structure Effect (uses : Uses) (start : PanaSession) (disconnected : Bool)
    (rx : List PanaMessage) (tx : List PanaOctetstring) (session : PanaSession) : Prop where
  state : session.state = start.state
  fault : session.fault = start.fault
  asked : session.asked = start.asked
  verified : session.verified = start.verified
  rxMsgQueue : session.rxMsgQueue = rx
  txEapMessageQueue : session.txEapMessageQueue = tx
  lastRxSeqNum : session.lastRxSeqNum = if disconnected then 0 else start.lastRxSeqNum
  passed : session.passed = if disconnected then [] else start.passed
  events : ∃ posted, session.events = start.events ++ posted ∧
    ∀ queued ∈ posted, queued.message = none ∧ queued.packet = none
  sent : ∃ more, session.sent = start.sent ++ more ∧
    ∀ item ∈ more, item.request = none ∨ uses.answers = true ∧ item.request = start.asked ∧
      item.message.seq = start.lastRxSeqNum
  acted : ∃ more, session.acted = start.acted ++ more ∧
    ∀ item ∈ more, item.1 ∈ start.rxMsgQueue ∧
      (item.2 = start.sa.authKey ∨ item.2.isSet = false)
  authKey : session.sa.authKey = start.sa.authKey ∨ session.sa.authKey.isSet = false ∨
    uses.derives = true
  derived : ∃ more, session.derived = start.derived ++ more ∧
    ∀ item ∈ more, uses.derives = true ∧ item.state = start.state

/-- The messages that an action leaves. -/
def Uses.rxAfter (uses : Uses) (start : PanaSession) : List PanaMessage :=
  if uses.disconnects then [] else if uses.takesMessage then start.rxMsgQueue.tail
  else start.rxMsgQueue

def Uses.txAfter (uses : Uses) (start : PanaSession) : List PanaOctetstring :=
  if uses.disconnects then [] else if uses.takesPacket then start.txEapMessageQueue.tail
  else start.txEapMessageQueue

/-- A session when the action is over. -/
def Uses.Done (uses : Uses) (start session : PanaSession) : Prop :=
  Effect uses start uses.disconnects (uses.rxAfter start) (uses.txAfter start) session

/-- A session that an action stopped at; only an empty queue that it takes from is empty. -/
def Uses.Stops (uses : Uses) (start : PanaSession) : PanaStop → PanaSession → Prop
  | .thrown _, session => uses.Done start session
  | .fault fault, session =>
    (∃ rx tx, Effect uses start false rx tx session) ∧
      (fault = .emptyQueue →
        uses.takesMessage = true ∧ start.rxMsgQueue = [] ∨
          uses.takesPacket = true ∧ start.txEapMessageQueue = [])

/-- The action uses of a session what it is said to use. -/
def Performs (uses : Uses) (start : PanaSession) (program : PanaM Unit) : Prop :=
  Ensures (Effect uses start false start.rxMsgQueue start.txEapMessageQueue) program
    (fun _ => uses.Done start) (uses.Stops start)

namespace Effect

variable {uses : Uses} {start session after : PanaSession} {disconnected : Bool}
  {rx : List PanaMessage} {tx : List PanaOctetstring}

theorem refl (uses : Uses) (start : PanaSession) :
    Effect uses start false start.rxMsgQueue start.txEapMessageQueue start where
  state := rfl
  fault := rfl
  asked := rfl
  verified := rfl
  rxMsgQueue := rfl
  txEapMessageQueue := rfl
  lastRxSeqNum := rfl
  passed := rfl
  events := ⟨[], by simp⟩
  sent := ⟨[], by simp⟩
  acted := ⟨[], by simp⟩
  authKey := .inl rfl
  derived := ⟨[], by simp⟩

theorem post (effect : Effect uses start disconnected rx tx session) (event : PanaEvent) :
    Effect uses start disconnected rx tx (session.post event) := by
  have ⟨posted, appended, bare⟩ := effect.events
  refine { effect with events := ⟨posted ++ [{ event }], ?_, ?_⟩ }
  · change session.events ++ _ = _
    rw [appended, List.append_assoc]
  · intro queued member
    apply (List.mem_append.mp member).elim (bare queued)
    intro isLast
    cases List.mem_singleton.mp isLast
    exact ⟨rfl, rfl⟩

/-- One more message is sent. -/
theorem send (effect : Effect uses start disconnected rx tx session) {item : PanaSent}
    (proper : item.request = none ∨ uses.answers = true ∧ item.request = start.asked ∧
      item.message.seq = start.lastRxSeqNum)
    {lastTxReqMsg cachedAnsMsg : Option PanaMessage} :
    Effect uses start disconnected rx tx
      { session with sent := session.sent ++ [item], lastTxReqMsg, cachedAnsMsg } := by
  have ⟨more, appended, others⟩ := effect.sent
  refine { effect with sent := ⟨more ++ [item], ?_, ?_⟩ }
  · change session.sent ++ _ = _
    rw [appended, List.append_assoc]
  · intro other member
    apply (List.mem_append.mp member).elim (others other)
    intro isLast
    cases List.mem_singleton.mp isLast
    exact proper

/-- A security association that keeps its AUTH key, or forgets it. -/
theorem secured (effect : Effect uses start disconnected rx tx session)
    {sa : SecurityAssociation}
    (key : sa.authKey = session.sa.authKey ∨ sa.authKey.isSet = false) :
    Effect uses start disconnected rx tx { session with sa } := by
  refine { effect with authKey := ?_ }
  apply key.elim
  · intro same
    change sa.authKey = _ ∨ _
    rw [same]
    exact effect.authKey
  · intro forgotten
    exact .inr (.inl forgotten)

theorem derive (effect : Effect uses start disconnected rx tx session)
    (derives : uses.derives = true) {sa : SecurityAssociation} {item : PanaDerivedKey}
    (sameState : item.state = session.state) :
    Effect uses start disconnected rx tx
      { session with sa, derived := session.derived ++ [item] } := by
  have ⟨more, appended, others⟩ := effect.derived
  refine { effect with authKey := .inr (.inr derives), derived := ⟨more ++ [item], ?_, ?_⟩ }
  · change session.derived ++ _ = _
    rw [appended, List.append_assoc]
  · intro other member
    apply (List.mem_append.mp member).elim (others other)
    intro isLast
    cases List.mem_singleton.mp isLast
    exact ⟨derives, sameState.trans effect.state⟩

theorem takeMessage {msg : PanaMessage} {rest : List PanaMessage}
    (effect : Effect uses start disconnected (msg :: rest) tx session)
    (isFirst : start.rxMsgQueue = msg :: rest) (derives : uses.derives = false) :
    Effect uses start disconnected rest tx
      { session with
        rxMsgQueue := rest
        acted := session.acted ++ [(msg, session.sa.authKey)] } := by
  have ⟨more, appended, others⟩ := effect.acted
  refine { effect with rxMsgQueue := rfl, acted := ⟨more ++ [(msg, session.sa.authKey)], ?_, ?_⟩ }
  · change session.acted ++ _ = _
    rw [appended, List.append_assoc]
  · intro other member
    apply (List.mem_append.mp member).elim (others other)
    intro isLast
    cases List.mem_singleton.mp isLast
    refine ⟨isFirst ▸ List.mem_cons_self, ?_⟩
    apply effect.authKey.imp_right
    intro later
    exact later.resolve_right (by simp [derives])

theorem takePacket {packet : PanaOctetstring} {rest : List PanaOctetstring}
    (effect : Effect uses start disconnected rx (packet :: rest) session) :
    Effect uses start disconnected rx rest { session with txEapMessageQueue := rest } :=
  { effect with txEapMessageQueue := rfl }

theorem reset (effect : Effect uses start disconnected rx tx session) (settings : PanaSettings)
    (callbacks : PanaCallbacks) :
    Effect uses start true [] [] (session.reset settings callbacks) :=
  { effect with
    rxMsgQueue := rfl
    txEapMessageQueue := rfl
    lastRxSeqNum := rfl
    passed := rfl
    authKey := .inr (.inl rfl) }

end Effect

section Operations

variable {uses : Uses} {start : PanaSession} {disconnected : Bool} {rx : List PanaMessage}
  {tx : List PanaOctetstring} {stops : PanaStop → PanaSession → Prop}
  {settings : PanaSettings} {role : PanaRole} {callbacks : PanaCallbacks} {msg : PanaMessage}

@[simp] theorem withAuth_seq (session : PanaSession) :
    (session.withAuth settings msg).seq = msg.seq := by
  unfold PanaSession.withAuth addAuthAvp
  split <;> rfl

@[simp] theorem txPrepareMessage_seq (session : PanaSession) :
    (txPrepareMessage settings role session msg).seq = msg.seq := by
  unfold txPrepareMessage
  cases role with
  | pac => dsimp only; split <;> rfl
  | paa => rfl

theorem modify_effect {change : PanaSession → PanaSession}
    (keeps : ∀ session, Effect uses start disconnected rx tx session →
      Effect uses start disconnected rx tx (change session)) :
    Ensures (Effect uses start disconnected rx tx) (modify change)
      (fun _ => Effect uses start disconnected rx tx) stops :=
  .of_modify keeps

theorem notify_effect (notification : PanaNotification) :
    Ensures (Effect uses start disconnected rx tx) (notify notification)
      (fun _ => Effect uses start disconnected rx tx) stops := by
  apply Ensures.of_modify
  intro session effect
  exact { effect with }

theorem updateSa_effect {change : SecurityAssociation → SecurityAssociation}
    (key : ∀ sa, (change sa).authKey = sa.authKey ∨ (change sa).authKey.isSet = false) :
    Ensures (Effect uses start disconnected rx tx) (updateSa change)
      (fun _ => Effect uses start disconnected rx tx) stops := by
  apply Ensures.of_modify
  intro session effect
  exact effect.secured (key session.sa)

theorem nextTxSeqNum_effect :
    Ensures (Effect uses start disconnected rx tx) nextTxSeqNum
      (fun _ => Effect uses start disconnected rx tx) stops := by
  apply Ensures.of_modifyGet
  intro session effect
  exact { effect with }

theorem sendReqMsg_effect :
    Ensures (Effect uses start disconnected rx tx) (sendReqMsg settings role msg)
      (fun _ => Effect uses start disconnected rx tx) stops := by
  apply Ensures.of_modify
  intro session effect
  exact effect.send (.inl rfl)

theorem sendAnsMsg_effect (answers : uses.answers = true)
    (numbered : msg.seq = start.lastRxSeqNum) :
    Ensures (Effect uses start disconnected rx tx) (sendAnsMsg settings role msg)
      (fun _ => Effect uses start disconnected rx tx) stops := by
  apply Ensures.of_modify
  intro session effect
  apply effect.send
  exact .inr ⟨answers, effect.asked, by simpa using numbered⟩

theorem deriveAuthKey_effect (derives : uses.derives = true) (newKey : PanaOctetstring) :
    Ensures (Effect uses start disconnected rx tx) (deriveAuthKey settings newKey)
      (fun _ => Effect uses start disconnected rx tx) stops := by
  apply Ensures.of_modify
  intro session effect
  exact effect.derive derives rfl

theorem disconnect_effect (cause : UInt32) :
    Ensures (Effect uses start disconnected rx tx) (disconnect settings callbacks cause)
      (fun _ => Effect uses start true [] []) stops := by
  apply (notify_effect _).bind
  intro _
  apply Ensures.of_modify
  intro session effect
  exact effect.reset settings callbacks

/-- The first message is taken, before any key is derived. -/
theorem dequeueRxMsg_effect (takes : uses.takesMessage = true) (derives : uses.derives = false) :
    Ensures (Effect uses start false start.rxMsgQueue tx) dequeueRxMsg
      (fun msg session => start.rxMsgQueue.head? = some msg ∧
        Effect uses start false start.rxMsgQueue.tail tx session)
      (uses.Stops start) := by
  apply Ensures.get_bind
  intro read effect
  have queue := effect.rxMsgQueue
  cases isQueue : start.rxMsgQueue with
  | nil =>
    rw [isQueue] at queue
    rw [queue]
    apply Ensures.of_throw
    intro session stopped
    exact ⟨⟨_, _, stopped⟩, fun _ => .inl ⟨takes, isQueue⟩⟩
  | cons msg rest =>
    rw [isQueue] at queue effect
    rw [queue]
    have taken := effect.takeMessage isQueue derives
    exact (Ensures.of_set taken).bind fun _ => .of_pure fun _ taken => ⟨rfl, taken⟩

theorem dequeueTxEap_effect (takes : uses.takesPacket = true) :
    Ensures (Effect uses start false rx start.txEapMessageQueue) dequeueTxEap
      (fun _ => Effect uses start false rx start.txEapMessageQueue.tail) (uses.Stops start) := by
  apply Ensures.get_bind
  intro read effect
  have queue := effect.txEapMessageQueue
  cases isQueue : start.txEapMessageQueue with
  | nil =>
    rw [isQueue] at queue
    rw [queue]
    apply Ensures.of_throw
    intro session stopped
    exact ⟨⟨_, _, stopped⟩, fun _ => .inr ⟨takes, isQueue⟩⟩
  | cons packet rest =>
    rw [isQueue] at queue effect
    rw [queue]
    exact (Ensures.of_set effect.takePacket).bind fun _ => .of_pure fun _ taken => taken

/-- What is sent with a message: the first packet, or nothing. -/
theorem eapPayloadAvp_effect (withPacket : Bool) (takes : withPacket = uses.takesPacket) :
    Ensures (Effect uses start false rx start.txEapMessageQueue) (eapPayloadAvp withPacket)
      (fun _ => Effect uses start false rx
        (if uses.takesPacket then start.txEapMessageQueue.tail else start.txEapMessageQueue))
      (uses.Stops start) := by
  rw [← takes]
  cases withPacket with
  | true =>
    apply (dequeueTxEap_effect takes.symm).bind
    intro _
    exact .of_pure fun _ => id
  | false => exact .of_pure fun _ => id

theorem updateAaaKeys_effect (success : Bool)
    (derives : success = true → uses.derives = callbacks.newKey.isSome) :
    Ensures (Effect uses start disconnected rx tx) (updateAaaKeys settings callbacks success)
      (fun _ => Effect uses start disconnected rx tx) stops := by
  unfold updateAaaKeys
  split
  · rename_i newKey available
    apply deriveAuthKey_effect
    rw [derives rfl, available]
    rfl
  · exact .of_pure fun _ => id

end Operations

section Actions

variable {uses : Uses} {start : PanaSession} {settings : PanaSettings} {role : PanaRole}
  {callbacks : PanaCallbacks}

variable {tx : List PanaOctetstring}

/-- An action that begins with a message of the queue. -/
theorem performs_of_taking {Value : Type} {next : PanaMessage → PanaM Value}
    {returns : Value → PanaSession → Prop} (takes : uses.takesMessage = true)
    (derives : uses.derives = false)
    (later : ∀ msg, start.rxMsgQueue.head? = some msg →
      Ensures (Effect uses start false start.rxMsgQueue.tail tx) (next msg) returns
        (uses.Stops start)) :
    Ensures (Effect uses start false start.rxMsgQueue tx) (dequeueRxMsg >>= next) returns
      (uses.Stops start) := by
  apply (dequeueRxMsg_effect takes derives).bind
  intro msg
  exact .of_fact (later msg)

theorem txPNAPing_effect {rx : List PanaMessage} {stops : PanaStop → PanaSession → Prop}
    (answers : uses.answers = true) :
    Ensures (Effect uses start false rx tx) (txPNAPing settings role)
      (fun _ => Effect uses start false rx tx) stops := by
  apply Ensures.get_bind
  intro read effect
  apply sendAnsMsg_effect answers
  simpa using effect.lastRxSeqNum

theorem txPTA_effect {rx : List PanaMessage} {stops : PanaStop → PanaSession → Prop}
    (answers : uses.answers = true) :
    Ensures (Effect uses start false rx tx) (txPTA settings role)
      (fun _ => Effect uses start false rx tx) stops := by
  apply Ensures.get_bind
  intro read effect
  apply sendAnsMsg_effect answers
  simpa using effect.lastRxSeqNum

theorem rxPTR_performs :
    Performs { takesMessage := true, answers := true, disconnects := true } start
      (rxPTR settings role callbacks) := by
  apply performs_of_taking rfl rfl
  intro msg _
  apply (txPTA_effect rfl).bind
  intro _
  exact disconnect_effect _

theorem rxPTA_performs :
    Performs { takesMessage := true, disconnects := true } start (rxPTA settings callbacks) := by
  apply performs_of_taking rfl rfl
  intro msg _
  exact disconnect_effect _

theorem disconnect_performs (cause : UInt32) :
    Performs { disconnects := true } start (disconnect settings callbacks cause) :=
  disconnect_effect cause

theorem rxPNRPing_performs :
    Performs { takesMessage := true, answers := true } start (rxPNRPing settings role) := by
  apply performs_of_taking rfl rfl
  intro msg _
  exact txPNAPing_effect rfl

theorem rxPNAPing_performs : Performs { takesMessage := true } start rxPNAPing := by
  apply performs_of_taking rfl rfl
  intro msg _
  exact .of_pure fun _ => id

theorem txPTR_performs (cause : UInt32) : Performs {} start (txPTR settings role cause) := by
  apply nextTxSeqNum_effect.bind
  intro _
  apply Ensures.get_bind
  intro _ _
  exact sendReqMsg_effect

theorem txPNRPing_performs : Performs {} start (txPNRPing settings role) := by
  apply nextTxSeqNum_effect.bind
  intro _
  apply Ensures.get_bind
  intro _ _
  exact sendReqMsg_effect

theorem txLastReqMsg_effect :
    Ensures (Effect uses start false start.rxMsgQueue start.txEapMessageQueue)
      (txLastReqMsg settings role callbacks)
      (fun _ => Effect uses start false start.rxMsgQueue start.txEapMessageQueue)
      (uses.Stops start) := by
  unfold txLastReqMsg
  split
  · apply Ensures.get_bind
    intro read effect
    split
    · apply Ensures.of_throw
      intro _ stopped
      exact ⟨⟨_, _, stopped⟩, by simp⟩
    · apply sendReqMsg_effect.bind
      intro _
      exact .of_pure fun _ => id
  · exact .of_pure fun _ => id

theorem retransmit_performs : Performs {} start (retransmit settings role callbacks) := by
  apply txLastReqMsg_effect.bind
  intro sent
  cases sent with
  | true => exact .of_pure fun _ => id
  | false => exact .of_modify fun _ effect => effect.post _

end Actions

end OpenDiameter.Pana
