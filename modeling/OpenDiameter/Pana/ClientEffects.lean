import OpenDiameter.Pana.ActionEffects

/-!
What each action of the PaC uses of a session.
-/

namespace OpenDiameter.Pana

open OpenDiameter.Foundation

/-- The first message of the queue has an EAP payload. -/
def PanaSession.firstHasPayload (session : PanaSession) : Bool :=
  session.rxMsgQueue.head?.any fun msg => msg.eapPayload.isSome

/-- What an action of the PaC uses of the session that it starts with. -/
def PacAction.uses (settings : PanaSettings) (callbacks : PanaCallbacks) (start : PanaSession) :
    PacAction → Uses
  | .offlineExitActionAuthUser => {}
  | .offlineExitActionRxPAR =>
    { takesMessage := true
      answers := !(settings.eapPiggyback && start.firstHasPayload) }
  | .waitEapMsgInExitActionTxPAN => { takesPacket := true, answers := true }
  | .waitPaaExitActionRxPAR => { takesMessage := true, answers := !settings.eapPiggyback }
  | .waitPaaExitActionRxPAN => { takesMessage := true }
  | .waitPaaExitActionRxPARComplete => { takesMessage := true }
  | .waitEapMsgExitActionTxPAN => { takesPacket := true, answers := true }
  | .waitEapMsgExitActionTxPAR => { takesPacket := true }
  | .waitEapMsgExitActionTxPANTout => { answers := true }
  | .waitEapResultExitActionEapOpen =>
    { answers := true, derives := callbacks.newKey.isSome }
  | .waitEapFailExitActionClose => { answers := true, disconnects := true }
  | .waitEapSuccessExitActionClose =>
    { answers := true, derives := callbacks.newKey.isSome, disconnects := true }
  | .openExitActionRxPNRPing => { takesMessage := true, answers := true }
  | .openExitActionTxPNRPing => {}
  | .openExitActionTxPNRAuth => {}
  | .openExitActionRxPAR => { takesMessage := true, answers := !settings.eapPiggyback }
  | .openExitActionRxPTR => { takesMessage := true, answers := true, disconnects := true }
  | .openExitActionTxPTR => {}
  | .waitPNAExitActionRxPNAAuth => { takesMessage := true }
  | .waitPNAExitActionRxPNAPing => { takesMessage := true }
  | .exitActionTimeout => { disconnects := true }
  | .exitActionRetransmission => {}
  | .sessTermExitActionRxPTA => { takesMessage := true, disconnects := true }

namespace Client

section Actions

variable {uses : Uses} {start : PanaSession} {settings : PanaSettings}
  {callbacks : PanaCallbacks} {disconnected : Bool} {rx : List PanaMessage}
  {tx : List PanaOctetstring} {stops : PanaStop → PanaSession → Prop}

theorem notifyEapRestart_effect :
    Ensures (Effect uses start disconnected rx tx) (notifyEapRestart callbacks)
      (fun _ => Effect uses start disconnected rx tx) stops := by
  refine Ensures.bind (updateSa_effect fun _ => .inl rfl) ?_
  intro _
  apply (notify_effect _).bind
  intro _
  exact updateSa_effect fun _ => .inr rfl

theorem notifyAuthorization_effect :
    Ensures (Effect uses start disconnected rx tx) notifyAuthorization
      (fun _ => Effect uses start disconnected rx tx) stops := by
  apply Ensures.get_bind
  intro _ _
  apply (notify_effect _).bind
  intro _
  exact .of_modify fun _ effect => { effect with }

theorem txPCI_performs : Performs {} start (txPCI settings) := by
  refine Ensures.bind (modify_effect fun _ effect => { effect with }) ?_
  intro _
  exact sendReqMsg_effect

theorem txPANStart_effect (eapOptimization : Bool) (answers : uses.answers = true)
    (takes : eapOptimization = uses.takesPacket) :
    Ensures (Effect uses start false rx start.txEapMessageQueue)
      (txPANStart settings eapOptimization)
      (fun _ => Effect uses start false rx
        (if uses.takesPacket then start.txEapMessageQueue.tail else start.txEapMessageQueue))
      (uses.Stops start) := by
  apply Ensures.get_bind
  intro read effect
  apply (eapPayloadAvp_effect eapOptimization takes).bind
  intro payload
  apply (sendAnsMsg_effect answers effect.lastRxSeqNum).bind
  intro _
  exact updateSa_effect fun _ => .inl rfl

theorem txPANStart_performs :
    Performs { takesPacket := true, answers := true } start (txPANStart settings true) :=
  txPANStart_effect true rfl rfl

theorem startEap_effect (msg : PanaMessage) (takes : uses.takesPacket = false)
    (answers : uses.answers = !(settings.eapPiggyback && msg.eapPayload.isSome)) :
    Ensures (Effect uses start false rx start.txEapMessageQueue) (startEap settings msg)
      (fun _ => Effect uses start false rx
        (if uses.takesPacket then start.txEapMessageQueue.tail else start.txEapMessageQueue))
      (uses.Stops start) := by
  unfold startEap
  split
  · rename_i payload found
    apply (notify_effect _).bind
    intro _
    split
    · rw [takes]
      exact .of_pure fun _ => id
    · rename_i later
      apply txPANStart_effect false _ takes.symm
      simpa [found] using answers.trans (by simp [later])
  · rename_i missing
    apply txPANStart_effect false _ takes.symm
    simpa [missing] using answers

theorem rxPARStart_performs :
    Performs (PacAction.offlineExitActionRxPAR.uses settings callbacks start) start
      (rxPARStart settings callbacks) := by
  apply performs_of_taking rfl rfl
  intro msg isFirst
  apply notifyEapRestart_effect.bind
  intro _
  apply (startEap_effect msg rfl _).bind
  · intro _
    exact updateSa_effect fun _ => .inl rfl
  · simp [PacAction.uses, PanaSession.firstHasPayload, isFirst]

theorem txPAN_effect (eapPiggyBack : Bool) (answers : uses.answers = true)
    (takes : eapPiggyBack = uses.takesPacket) :
    Ensures (Effect uses start false rx start.txEapMessageQueue)
      (txPAN settings callbacks eapPiggyBack)
      (fun _ => Effect uses start false rx
        (if uses.takesPacket then start.txEapMessageQueue.tail else start.txEapMessageQueue))
      (uses.Stops start) := by
  apply Ensures.get_bind
  intro read effect
  refine Ensures.bind (updateSa_effect fun sa => ?_) ?_
  · exact .inl (by split <;> rfl)
  intro _
  apply (eapPayloadAvp_effect eapPiggyBack takes).bind
  intro payload
  apply sendAnsMsg_effect answers
  simpa using effect.lastRxSeqNum

theorem updatePaaNonce_effect (msg : PanaMessage) :
    Ensures (Effect uses start disconnected rx tx) (updatePaaNonce msg)
      (fun _ => Effect uses start disconnected rx tx) stops := by
  apply updateSa_effect
  intro sa
  split
  · exact .inl (by split <;> rfl)
  · exact .inl rfl

theorem answerAtOnce_effect (takes : uses.takesPacket = false)
    (answers : uses.answers = !settings.eapPiggyback) :
    Ensures (Effect uses start false rx start.txEapMessageQueue)
      (answerAtOnce settings callbacks)
      (fun _ => Effect uses start false rx start.txEapMessageQueue) (uses.Stops start) := by
  unfold answerAtOnce
  split
  · exact .of_pure fun _ => id
  · rename_i later
    have answered : Ensures (Effect uses start false rx start.txEapMessageQueue)
        (txPAN settings callbacks false) (fun _ => Effect uses start false rx
          (if uses.takesPacket then start.txEapMessageQueue.tail else start.txEapMessageQueue))
        (uses.Stops start) :=
      txPAN_effect false (answers.trans (by simp [later])) takes.symm
    simpa [takes] using answered

/-- With the nonces reset or not, the rest of the action is one. -/
theorem rxPAR_effect :
    Ensures
      (Effect { takesMessage := true, answers := !settings.eapPiggyback } start false
        start.rxMsgQueue start.txEapMessageQueue)
      (rxPAR settings callbacks)
      (fun _ => Uses.Done { takesMessage := true, answers := !settings.eapPiggyback } start)
      (Uses.Stops { takesMessage := true, answers := !settings.eapPiggyback } start) := by
  apply performs_of_taking rfl rfl
  intro msg _
  apply (updatePaaNonce_effect msg).bind
  intro _
  apply (answerAtOnce_effect rfl rfl).bind
  intro _
  split
  · exact notify_effect _
  · exact .of_throw fun _ => id

theorem rxPAN_performs : Performs { takesMessage := true } start rxPAN := by
  apply performs_of_taking rfl rfl
  intro msg _
  exact .of_pure fun _ => id

theorem txPAR_performs : Performs { takesPacket := true } start (txPAR settings) := by
  apply nextTxSeqNum_effect.bind
  intro _
  apply (dequeueTxEap_effect rfl).bind
  intro _
  apply Ensures.get_bind
  intro _ _
  exact sendReqMsg_effect

theorem rxPARComplete_performs : Performs { takesMessage := true } start rxPARComplete := by
  apply performs_of_taking rfl rfl
  intro msg _
  split
  · exact .of_throw fun _ => id
  · rename_i rcode _
    refine Ensures.bind (modify_effect fun _ effect => { effect with }) ?_
    intro _
    split
    · refine Ensures.bind (modify_effect fun _ effect => { effect with authKey := effect.authKey }) ?_
      intro _
      exact notify_effect _
    · split
      · exact notify_effect _
      · exact .of_throw fun _ => id

theorem panCompleteAvps_seq (sa : SecurityAssociation) (msg : PanaMessage) :
    (panCompleteAvps settings sa msg).seq = msg.seq := by
  unfold panCompleteAvps
  split
  · split <;> rfl
  · rfl

theorem txPANComplete_effect (authSuccess : Bool) (answers : uses.answers = true)
    (derives : authSuccess = true → uses.derives = callbacks.newKey.isSome) :
    Ensures (Effect uses start false rx tx) (txPANComplete settings callbacks authSuccess)
      (fun _ => Effect uses start false rx tx) stops := by
  apply (updateAaaKeys_effect authSuccess derives).bind
  intro _
  apply Ensures.get_bind
  intro read effect
  apply sendAnsMsg_effect answers
  exact (panCompleteAvps_seq _ _).trans effect.lastRxSeqNum

theorem txPNRAuth_performs : Performs {} start (txPNRAuth settings) := by
  apply nextTxSeqNum_effect.bind
  intro _
  apply Ensures.get_bind
  intro _ _
  exact sendReqMsg_effect

theorem rxPNAAuth_performs :
    Performs { takesMessage := true } start (rxPNAAuth callbacks) := by
  apply performs_of_taking rfl rfl
  intro msg _
  exact notifyEapRestart_effect

end Actions

end Client

/-- Every action of the PaC. -/
theorem PacAction.performs (settings : PanaSettings) (callbacks : PanaCallbacks)
    (start : PanaSession) (action : PacAction) :
    Performs (action.uses settings callbacks start) start (action.perform settings callbacks) := by
  cases action with
  | offlineExitActionAuthUser => exact Client.txPCI_performs
  | offlineExitActionRxPAR => exact Client.rxPARStart_performs
  | waitEapMsgInExitActionTxPAN => exact Client.txPANStart_performs
  | waitPaaExitActionRxPAR => exact Client.rxPAR_effect
  | waitPaaExitActionRxPAN => exact Client.rxPAN_performs
  | waitPaaExitActionRxPARComplete => exact Client.rxPARComplete_performs
  | waitEapMsgExitActionTxPAN => exact Client.txPAN_effect true rfl rfl
  | waitEapMsgExitActionTxPAR => exact Client.txPAR_performs
  | waitEapMsgExitActionTxPANTout => exact Client.txPAN_effect false rfl rfl
  | waitEapResultExitActionEapOpen =>
    exact (Client.txPANComplete_effect true rfl fun _ => rfl).bind fun _ =>
      Client.notifyAuthorization_effect
  | waitEapFailExitActionClose =>
    exact (Client.txPANComplete_effect false rfl nofun).bind fun _ => disconnect_effect _
  | waitEapSuccessExitActionClose =>
    exact (Client.txPANComplete_effect true rfl fun _ => rfl).bind fun _ =>
      disconnect_effect _
  | openExitActionRxPNRPing => exact rxPNRPing_performs
  | openExitActionTxPNRPing => exact txPNRPing_performs
  | openExitActionTxPNRAuth => exact Client.txPNRAuth_performs
  | openExitActionRxPAR =>
    exact Client.notifyEapRestart_effect.bind fun _ => Client.rxPAR_effect
  | openExitActionRxPTR => exact rxPTR_performs
  | openExitActionTxPTR => exact txPTR_performs _
  | waitPNAExitActionRxPNAAuth => exact Client.rxPNAAuth_performs
  | waitPNAExitActionRxPNAPing => exact rxPNAPing_performs
  | exitActionTimeout => exact disconnect_performs _
  | exitActionRetransmission => exact retransmit_performs
  | sessTermExitActionRxPTA => exact rxPTA_performs

end OpenDiameter.Pana
