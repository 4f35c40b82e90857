import OpenDiameter.Pana.ActionEffects

/-!
What each action of the PAA uses of a session.
-/

namespace OpenDiameter.Pana

open OpenDiameter.Foundation

def PaaAction.uses (settings : PanaSettings) (callbacks : PanaCallbacks) : PaaAction → Uses
  | .exitActionPaaEapRestart => {}
  | .exitActionTxPARStart => { takesPacket := settings.optimizedHandshake }
  | .exitActionRxPANStart => { takesMessage := true }
  | .exitActionTxPAR => { takesPacket := true }
  | .exitActionTxPARCompleteEapFail => { takesPacket := true }
  | .exitActionTxPARCompleteEapSuccess =>
    { takesPacket := true, derives := callbacks.newKey.isSome }
  | .exitActionTxPARCompleteEapSuccessFail =>
    { takesPacket := true, derives := callbacks.newKey.isSome }
  | .exitActionRxPANCompleteSuccess => { takesMessage := true }
  | .exitActionRxPANCompleteFail => { takesMessage := true, disconnects := true }
  | .openExitActionRxPNRAuth => { takesMessage := true, answers := true }
  | .openExitActionReAuth => {}
  | .openExitActionTxPNRPing => {}
  | .openExitActionRxPNRPing => { takesMessage := true, answers := true }
  | .waitPaaExitActionRxPNAPing => { takesMessage := true }
  | .waitPANExitActionRxPAR => { takesMessage := true, answers := true }
  | .waitPANExitActionRxPAN => { takesMessage := true }
  | .openExitActionTxPTR => {}
  | .openExitActionRxPTR => { takesMessage := true, answers := true, disconnects := true }
  | .exitActionEapTimeout => { disconnects := true }
  | .exitActionTimeout => { disconnects := true }
  | .exitActionRetransmission => {}
  | .sessExitActionRxPTA => { disconnects := true }
  | .closed => {}

namespace Paa

section Actions

variable {uses : Uses} {start : PanaSession} {settings : PanaSettings}
  {callbacks : PanaCallbacks} {disconnected : Bool} {rx : List PanaMessage}
  {tx : List PanaOctetstring} {stops : PanaStop → PanaSession → Prop}

theorem notifyAuthorization_effect :
    Ensures (Effect uses start disconnected rx tx) notifyAuthorization
      (fun _ => Effect uses start disconnected rx tx) stops := by
  apply Ensures.get_bind
  intro _ _
  exact notify_effect _

theorem notifyEapRestart_effect :
    Ensures (Effect uses start disconnected rx tx) notifyEapRestart
      (fun _ => Effect uses start disconnected rx tx) stops :=
  notify_effect _

theorem notifyEapReAuth_effect :
    Ensures (Effect uses start disconnected rx tx) notifyEapReAuth
      (fun _ => Effect uses start disconnected rx tx) stops := by
  refine Ensures.bind (updateSa_effect fun _ => .inl rfl) ?_
  intro _
  exact notify_effect _

/-- An optimized handshake stops before it takes a packet that is not there. -/
theorem startPayload_effect (takes : settings.optimizedHandshake = uses.takesPacket)
    (remains : uses.disconnects = false) (noMessage : uses.takesMessage = false) :
    Ensures (Effect uses start false start.rxMsgQueue start.txEapMessageQueue)
      (startPayload settings)
      (fun _ => Effect uses start false start.rxMsgQueue
        (if uses.takesPacket then start.txEapMessageQueue.tail else start.txEapMessageQueue))
      (uses.Stops start) := by
  apply Ensures.get_bind
  intro read effect
  split
  · rename_i empty
    have isEmpty := effect.txEapMessageQueue.symm.trans empty.2
    apply Ensures.of_throw
    intro session stopped
    change Uses.Done uses start session
    unfold Uses.Done Uses.rxAfter Uses.txAfter
    simpa [remains, noMessage, isEmpty] using stopped
  · exact eapPayloadAvp_effect _ takes

theorem txPARStart_performs :
    Performs { takesPacket := settings.optimizedHandshake } start (txPARStart settings) := by
  apply nextTxSeqNum_effect.bind
  intro _
  apply Ensures.get_bind
  intro _ _
  apply (startPayload_effect rfl rfl rfl).bind
  intro _
  apply sendReqMsg_effect.bind
  intro _
  exact updateSa_effect fun _ => .inl rfl

theorem checkAlgorithms_effect {msg : PanaMessage} (remains : uses.disconnects = false)
    (takes : uses.takesMessage = true) (noPacket : uses.takesPacket = false) :
    Ensures (Effect uses start false start.rxMsgQueue.tail start.txEapMessageQueue)
      (checkAlgorithms msg)
      (fun _ => Effect uses start false start.rxMsgQueue.tail start.txEapMessageQueue)
      (uses.Stops start) := by
  have thrown {code : PanaExceptionCode} {description : String} :
      Ensures (Effect uses start false start.rxMsgQueue.tail start.txEapMessageQueue)
        (throwPana code description : PanaM Unit)
        (fun _ => Effect uses start false start.rxMsgQueue.tail start.txEapMessageQueue)
        (uses.Stops start) := by
    apply Ensures.of_throw
    intro session stopped
    change Uses.Done uses start session
    unfold Uses.Done Uses.rxAfter Uses.txAfter
    simpa [remains, takes, noPacket] using stopped
  unfold checkAlgorithms
  split
  · exact thrown
  · split
    · exact thrown
    · split
      · exact thrown
      · split
        · exact thrown
        · exact .of_pure fun _ => id

theorem startEap_effect (msg : PanaMessage) :
    Ensures (Effect uses start disconnected rx tx) (startEap settings msg)
      (fun _ => Effect uses start disconnected rx tx) stops := by
  unfold startEap
  split
  · exact notify_effect _
  · split
    · exact .of_pure fun _ => id
    · exact notifyEapRestart_effect

theorem rxPANStart_performs :
    Performs { takesMessage := true } start (rxPANStart settings) := by
  apply performs_of_taking rfl rfl
  intro msg _
  apply (checkAlgorithms_effect rfl rfl rfl).bind
  intro _
  apply (startEap_effect msg).bind
  intro _
  exact updateSa_effect fun _ => .inl rfl

theorem txPAR_performs : Performs { takesPacket := true } start (txPAR settings callbacks) := by
  apply nextTxSeqNum_effect.bind
  intro _
  apply Ensures.get_bind
  intro read effect
  split
  · rename_i empty
    have isEmpty := effect.txEapMessageQueue.symm.trans empty
    apply Ensures.of_throw
    intro session stopped
    change Effect _ start false start.rxMsgQueue start.txEapMessageQueue.tail session
    simpa [isEmpty] using stopped
  · apply (dequeueTxEap_effect rfl).bind
    intro packet
    refine Ensures.bind (updateSa_effect fun sa => ?_) ?_
    · exact .inl (by split <;> rfl)
    intro _
    exact sendReqMsg_effect

theorem txPARComplete_performs (rcode : UInt32) (eapSuccess : Bool)
    (takes : uses.takesPacket = true) (noMessage : uses.takesMessage = false)
    (remains : uses.disconnects = false)
    (derives : eapSuccess = true → uses.derives = callbacks.newKey.isSome) :
    Performs uses start (txPARComplete settings callbacks rcode eapSuccess) := by
  have done : uses.Done start =
      Effect uses start false start.rxMsgQueue start.txEapMessageQueue.tail := by
    unfold Uses.Done Uses.rxAfter Uses.txAfter
    simp [takes, noMessage, remains]
  unfold Performs
  rw [done]
  apply nextTxSeqNum_effect.bind
  intro _
  apply Ensures.get_bind
  intro _ _
  apply (dequeueTxEap_effect takes).bind
  intro _
  apply (updateAaaKeys_effect eapSuccess derives).bind
  intro _
  apply Ensures.get_bind
  intro _ _
  exact sendReqMsg_effect

theorem rxPANComplete_performs :
    Performs { takesMessage := true } start (rxPANComplete settings callbacks true) := by
  apply performs_of_taking rfl rfl
  intro _ _
  exact notifyAuthorization_effect

theorem rxPANComplete_fails :
    Performs { takesMessage := true, disconnects := true } start
      (rxPANComplete settings callbacks false) := by
  apply performs_of_taking rfl rfl
  intro _ _
  exact disconnect_effect _

theorem txPAN_effect (answers : uses.answers = true) :
    Ensures (Effect uses start false rx tx) (txPAN settings)
      (fun _ => Effect uses start false rx tx) stops := by
  apply Ensures.get_bind
  intro read effect
  apply sendAnsMsg_effect answers
  simpa using effect.lastRxSeqNum

theorem notifyEapResponse_effect (msg : PanaMessage) :
    Ensures (Effect uses start disconnected rx tx) (notifyEapResponse msg)
      (fun _ => Effect uses start disconnected rx tx) stops := by
  unfold notifyEapResponse
  split
  · exact notify_effect _
  · exact .of_pure fun _ => id

theorem rxPAR_performs :
    Performs { takesMessage := true, answers := true } start (rxPAR settings) := by
  apply performs_of_taking rfl rfl
  intro msg _
  apply (notifyEapResponse_effect msg).bind
  intro _
  exact txPAN_effect rfl

theorem updatePacNonce_effect (msg : PanaMessage) :
    Ensures (Effect uses start disconnected rx tx) (updatePacNonce msg)
      (fun _ => Effect uses start disconnected rx tx) stops := by
  apply updateSa_effect
  intro sa
  split
  · exact .inl (by split <;> rfl)
  · exact .inl rfl

theorem rxPAN_performs : Performs { takesMessage := true } start rxPAN := by
  apply performs_of_taking rfl rfl
  intro msg _
  apply (updatePacNonce_effect msg).bind
  intro _
  exact notifyEapResponse_effect msg

theorem txPNAAuth_effect (answers : uses.answers = true) :
    Ensures (Effect uses start false rx tx) (txPNAAuth settings)
      (fun _ => Effect uses start false rx tx) stops := by
  apply Ensures.get_bind
  intro read effect
  apply sendAnsMsg_effect answers
  simpa using effect.lastRxSeqNum

theorem rxPNRAuth_performs :
    Performs { takesMessage := true, answers := true } start (rxPNRAuth settings) := by
  apply performs_of_taking rfl rfl
  intro _ _
  refine Ensures.bind (updateSa_effect fun _ => .inl rfl) ?_
  intro _
  apply notifyEapReAuth_effect.bind
  intro _
  exact txPNAAuth_effect rfl

end Actions

end Paa

/-- Every action of the PAA. -/
theorem PaaAction.performs (settings : PanaSettings) (callbacks : PanaCallbacks)
    (start : PanaSession) (action : PaaAction) :
    Performs (action.uses settings callbacks) start (action.perform settings callbacks) := by
  cases action with
  | exitActionPaaEapRestart => exact Paa.notifyEapRestart_effect
  | exitActionTxPARStart => exact Paa.txPARStart_performs
  | exitActionRxPANStart => exact Paa.rxPANStart_performs
  | exitActionTxPAR => exact Paa.txPAR_performs
  | exitActionTxPARCompleteEapFail =>
    exact Paa.txPARComplete_performs _ false rfl rfl rfl nofun
  | exitActionTxPARCompleteEapSuccess =>
    exact Paa.txPARComplete_performs _ true rfl rfl rfl fun _ => rfl
  | exitActionTxPARCompleteEapSuccessFail =>
    exact Paa.txPARComplete_performs _ true rfl rfl rfl fun _ => rfl
  | exitActionRxPANCompleteSuccess => exact Paa.rxPANComplete_performs
  | exitActionRxPANCompleteFail => exact Paa.rxPANComplete_fails
  | openExitActionRxPNRAuth => exact Paa.rxPNRAuth_performs
  | openExitActionReAuth => exact Paa.notifyEapReAuth_effect
  | openExitActionTxPNRPing => exact txPNRPing_performs
  | openExitActionRxPNRPing => exact rxPNRPing_performs
  | waitPaaExitActionRxPNAPing => exact rxPNAPing_performs
  | waitPANExitActionRxPAR => exact Paa.rxPAR_performs
  | waitPANExitActionRxPAN => exact Paa.rxPAN_performs
  | openExitActionTxPTR => exact txPTR_performs _
  | openExitActionRxPTR => exact rxPTR_performs
  | exitActionEapTimeout => exact disconnect_performs _
  | exitActionTimeout => exact disconnect_performs _
  | exitActionRetransmission => exact retransmit_performs
  | sessExitActionRxPTA => exact disconnect_performs _
  | closed => exact .of_pure fun _ => id

end OpenDiameter.Pana
