import OpenDiameter.Eap.ServedEvents

/-!
What the actions of a peer raise and queue, and what they leave as it is.
-/

namespace OpenDiameter.Eap

open OpenDiameter.Framework

variable {Method : Type} {methods : PeerMethods Method} {identity : Option EapOctets}
  {peer between after : EapPeer Method}

/-- The events that an action may pass to the machine itself. -/
def PeerAction.raises : PeerAction → List PeerEvent
  | .initializing | .retransmit | .discard | .buildNotification => [.uct]
  | .checkTimeoutCondition => [.sgSuccess, .sgFailure]
  | .doPolicyCheck => [.sgEnterMethod, .sgNoEnterMethod]
  | .parseNotification => [.sgNotificationOutputFinished, .otherwise]
  | .parseIdentity => [.otherwise]
  | .buildIdentity => [.uct, .otherwise]
  | .checkRxQueue => [.rxMsg]
  | .receiveMsg =>
    [.sgSuccess, .sgFailure, .sgRetransmit, .sgContMethod, .sgNewMethod, .rxNotification,
      .rxIdentity, .otherwise]
  | _ => []

/-- What an action may queue. -/
def PeerAction.queues : PeerAction → List (EapJob PeerEvent)
  | .retransmit | .buildResp | .buildNak => [.switch .uct]
  | .doIntegrityCheck => [.method .sgIntegrityCheck]
  | .parseIdentity | .checkIdentity => [.switch .sgUserInputFinished]
  | .tunnelEstablished => [.innerMethod .sgIntegrityCheck]
  | .waitTunnelProcess => [.method .sgTunnelProcess]
  | _ => []

/-- A function of a peer raises and queues no more than what is listed, and leaves the rest of
what controls the peer as it is. -/
structure PeerEffects (raises : List PeerEvent) (queues : List (EapJob PeerEvent))
    (peer after : EapPeer Method) : Prop where
  running : after.running = peer.running
  state : after.state = peer.state
  rxQueue : after.rxQueue = peer.rxQueue
  raised : ∀ event, after.raised = some event → peer.raised = some event ∨ event ∈ raises
  jobs : ∃ added, added.Sublist queues ∧ after.jobs = peer.jobs ++ added
  blocked : after.fault = some .blocked → peer.fault = some .blocked
  faultless : after.fault = none → peer.fault = none

namespace PeerEffects

variable {raises : List PeerEvent} {queues : List (EapJob PeerEvent)}

theorem of_same (running : after.running = peer.running) (state : after.state = peer.state)
    (rxQueue : after.rxQueue = peer.rxQueue) (raised : after.raised = peer.raised)
    (jobs : after.jobs = peer.jobs) (fault : after.fault = peer.fault) :
    PeerEffects raises queues peer after where
  running := running
  state := state
  rxQueue := rxQueue
  raised := fun _ isRaised => .inl (raised ▸ isRaised)
  jobs := ⟨[], List.nil_sublist _, by simp [jobs]⟩
  blocked := fun blocked => fault ▸ blocked
  faultless := fun faultless => fault ▸ faultless

theorem refl (peer : EapPeer Method) : PeerEffects raises queues peer peer :=
  of_same rfl rfl rfl rfl rfl rfl

/-- Nothing that is looked at changed before. -/
theorem preceded (second : PeerEffects raises queues between after)
    (running : between.running = peer.running) (state : between.state = peer.state)
    (rxQueue : between.rxQueue = peer.rxQueue) (raised : between.raised = peer.raised)
    (jobs : between.jobs = peer.jobs) (fault : between.fault = peer.fault) :
    PeerEffects raises queues peer after where
  running := second.running.trans running
  state := second.state.trans state
  rxQueue := second.rxQueue.trans rxQueue
  raised := fun event isRaised => raised ▸ second.raised event isRaised
  jobs := jobs ▸ second.jobs
  blocked := fun blocked => fault ▸ second.blocked blocked
  faultless := fun faultless => fault ▸ second.faultless faultless

theorem stop {fault : EapFault} (other : fault ≠ .blocked) :
    PeerEffects raises queues peer (peer.stop fault) where
  running := rfl
  state := rfl
  rxQueue := rfl
  raised := fun _ => .inl
  jobs := ⟨[], List.nil_sublist _, by simp [EapPeer.stop]⟩
  blocked := fun blocked => absurd (Option.some.inj blocked) other
  faultless := nofun

/-- An event is raised last. -/
theorem raising (event : PeerEvent) (isRaised : after.raised = some event)
    (listed : event ∈ raises)
    (rest : PeerEffects raises queues { peer with raised := none } { after with raised := none }) :
    PeerEffects raises queues peer after where
  running := rest.running
  state := rest.state
  rxQueue := rest.rxQueue
  raised := by
    intro other isOther
    cases isRaised.symm.trans isOther
    exact .inr listed
  jobs := rest.jobs
  blocked := rest.blocked
  faultless := rest.faultless

theorem raise {event : PeerEvent} (listed : event ∈ raises) :
    PeerEffects raises queues peer (peer.raise event) :=
  raising event rfl listed (refl _)

/-- Something is queued. -/
theorem queue {job : EapJob PeerEvent} (running : after.running = peer.running)
    (state : after.state = peer.state) (rxQueue : after.rxQueue = peer.rxQueue)
    (raised : after.raised = peer.raised) (jobs : after.jobs = peer.jobs ++ [job])
    (fault : after.fault = peer.fault) : PeerEffects raises [job] peer after where
  running := running
  state := state
  rxQueue := rxQueue
  raised := fun _ isRaised => .inl (raised ▸ isRaised)
  jobs := ⟨[job], List.Sublist.refl _, jobs⟩
  blocked := fun blocked => fault ▸ blocked
  faultless := fun faultless => fault ▸ faultless

theorem mono {more : List PeerEvent} (effects : PeerEffects raises queues peer after)
    (listed : ∀ event ∈ raises, event ∈ more) : PeerEffects more queues peer after :=
  { effects with
    raised := fun event isRaised => (effects.raised event isRaised).imp_right (listed event) }

theorem sendResp (cached : Bool) :
    PeerEffects raises [.switch .uct] peer (peer.sendResp cached) := by
  rw [EapPeer.sendResp]
  split
  · exact stop nofun
  · exact queue rfl rfl rfl rfl rfl rfl

end PeerEffects

section Actions

theorem effects_buildResp : PeerEffects [] [.switch .uct] peer (peer.buildResp methods) := by
  rw [EapPeer.buildResp]
  split
  · exact .stop nofun
  · dsimp only
    split
    · exact .preceded (.sendResp false) rfl rfl rfl rfl rfl rfl
    · split
      · exact .stop nofun
      · split
        · exact .preceded (.sendResp false) rfl rfl rfl rfl rfl rfl
        · exact .preceded (.sendResp false) rfl rfl rfl rfl rfl rfl

theorem effects_deleteMethod : PeerEffects [] [] peer peer.deleteMethod := by
  rw [EapPeer.deleteMethod]
  split
  · exact .refl _
  · refine ⟨rfl, rfl, rfl, fun _ => .inl, ⟨[], by simp⟩, ?_, ?_⟩
    · dsimp only
      split
      · nofun
      · exact id
    · dsimp only
      split
      · nofun
      · exact id

theorem effects_createMethod (type innerType : EapType) :
    PeerEffects [] [] peer (peer.createMethod methods type innerType) := by
  rw [EapPeer.createMethod]
  split
  · exact .stop nofun
  · split
    · exact .of_same rfl rfl rfl rfl rfl rfl
    · split
      · exact .stop nofun
      · exact .of_same rfl rfl rfl rfl rfl rfl

theorem effects_parseRequest (msg : EapOctets) :
    PeerEffects PeerAction.receiveMsg.raises [] peer (peer.parseRequest msg) := by
  rw [EapPeer.parseRequest]
  dsimp only
  split
  · split
    · exact .raising .otherwise rfl (by decide) (.of_same rfl rfl rfl rfl rfl rfl)
    · exact .raising .rxNotification rfl (by decide) (.of_same rfl rfl rfl rfl rfl rfl)
  · split
    · exact .raising .rxIdentity rfl (by decide) (.of_same rfl rfl rfl rfl rfl rfl)
    · split
      · exact .raising .sgNewMethod rfl (by decide) (.of_same rfl rfl rfl rfl rfl rfl)
      · split
        · exact .raising .sgContMethod rfl (by decide) (.of_same rfl rfl rfl rfl rfl rfl)
        · exact .raising .otherwise rfl (by decide) (.of_same rfl rfl rfl rfl rfl rfl)

theorem effects_checkSuccessCondition :
    PeerEffects PeerAction.receiveMsg.raises [] peer peer.checkSuccessCondition := by
  rw [EapPeer.checkSuccessCondition]
  split
  · exact .raise (by decide)
  · split
    · exact .raise (by decide)
    · exact .raise (by decide)

theorem effects_checkFailureCondition :
    PeerEffects PeerAction.receiveMsg.raises [] peer peer.checkFailureCondition := by
  rw [EapPeer.checkFailureCondition]
  split
  · exact .raise (by decide)
  · exact .raise (by decide)

theorem effects_examine (msg : EapOctets) :
    PeerEffects PeerAction.receiveMsg.raises [] peer (peer.examine msg) := by
  rw [EapPeer.examine]
  split
  · split
    · split
      · exact .raise (by decide)
      · exact .raise (by decide)
    · exact .preceded (effects_parseRequest msg) rfl rfl rfl rfl rfl rfl
  · split
    · exact effects_checkSuccessCondition
    · split
      · exact effects_checkFailureCondition
      · exact .raise (by decide)

theorem effects_inputIdentity :
    PeerEffects [] [.switch .sgUserInputFinished] peer (peer.inputIdentity identity) := by
  cases identity with
  | none => exact .refl _
  | some text => exact .queue rfl rfl rfl rfl rfl rfl

theorem effects_doPolicyCheck :
    PeerEffects PeerAction.doPolicyCheck.raises [] peer (peer.doPolicyCheck methods) := by
  rw [EapPeer.doPolicyCheck]
  dsimp only
  generalize (if peer.reqMethod = .identity then decide (peer.currentMethod = .none)
    else peer.policy.allow peer.reqMethod) = allowMethod
  cases allowMethod with
  | false => exact .raise (by decide)
  | true =>
    let begun : EapPeer Method := ({ peer with currentMethod := peer.reqMethod }).deleteMethod
    have deleted : PeerEffects [] [] peer begun :=
      .preceded effects_deleteMethod rfl rfl rfl rfl rfl rfl
    let created := begun.createMethod methods peer.reqMethod peer.policy.innerEapMethodType
    have creates : PeerEffects [] [] begun created := effects_createMethod _ _
    refine .raising .sgEnterMethod rfl (by decide) ⟨?_, ?_, ?_, nofun, ?_, ?_, ?_⟩
    · exact creates.running.trans deleted.running
    · exact creates.state.trans deleted.state
    · exact creates.rxQueue.trans deleted.rxQueue
    · obtain ⟨early, noEarly, isEarly⟩ := deleted.jobs
      obtain ⟨late, noLate, isLate⟩ := creates.jobs
      rw [List.sublist_nil.mp noEarly, List.append_nil] at isEarly
      rw [List.sublist_nil.mp noLate, List.append_nil] at isLate
      exact ⟨[], List.nil_sublist _, by simpa using isLate.trans isEarly⟩
    · exact deleted.blocked ∘ creates.blocked
    · exact deleted.faultless ∘ creates.faultless

variable {action : PeerAction}

/-- What an action raises and queues is listed, where it does not take a message. -/
theorem perform_effects (other : action ≠ .receiveMsg) :
    PeerEffects action.raises action.queues peer (peer.perform methods identity action) := by
  cases action with
  | receiveMsg => exact absurd rfl other
  | initializing | discard | buildNotification =>
    exact .raising .uct rfl (by decide) (.of_same rfl rfl rfl rfl rfl rfl)
  | retransmit =>
    have sent : PeerEffects [.uct] [.switch .uct] peer (peer.sendResp true) := .sendResp true
    exact .raising .uct rfl (by decide)
      ⟨sent.running, sent.state, sent.rxQueue, nofun, sent.jobs, sent.blocked,
        sent.faultless⟩
  | checkTimeoutCondition =>
    rw [EapPeer.perform, EapPeer.checkTimeoutCondition]
    split
    · exact .raise (by decide)
    · exact .raise (by decide)
  | sendSuccess | sendFailure => exact .of_same rfl rfl rfl rfl rfl rfl
  | buildResp => exact effects_buildResp
  | doIntegrityCheck =>
    rw [EapPeer.perform, EapPeer.doIntegrityCheck]
    split
    · exact .stop nofun
    · exact .queue rfl rfl rfl rfl rfl rfl
  | doPolicyCheck => exact effects_doPolicyCheck
  | buildNak =>
    rw [EapPeer.perform, EapPeer.buildNak]
    exact .preceded (.sendResp false) rfl rfl rfl rfl rfl rfl
  | parseNotification =>
    rw [EapPeer.perform, EapPeer.parseNotification]
    split
    · exact .stop nofun
    · split
      · exact .raising .sgNotificationOutputFinished rfl (by decide) (.of_same rfl rfl rfl rfl rfl rfl)
      · exact .raise (by decide)
  | parseIdentity =>
    rw [EapPeer.perform, EapPeer.parseIdentity]
    split
    · exact .stop nofun
    · split
      · exact .mono (.preceded effects_inputIdentity rfl rfl rfl rfl rfl rfl) nofun
      · exact .raise (by decide)
  | buildIdentity =>
    rw [EapPeer.perform, EapPeer.buildIdentity]
    split
    · exact .raising .uct rfl (by decide) (.of_same rfl rfl rfl rfl rfl rfl)
    · exact .raise (by decide)
  | startTimer => exact .refl _
  | checkRxQueue =>
    rw [EapPeer.perform, EapPeer.checkRxQueue]
    split
    · exact .raise (by decide)
    · exact .refl _
  | checkIdentity => exact effects_inputIdentity
  | tunnelEstablished =>
    rw [EapPeer.perform, EapPeer.tunnelEstablished]
    split
    · exact .stop nofun
    · exact .queue rfl rfl rfl rfl rfl rfl
  | waitTunnelProcess =>
    rw [EapPeer.perform, EapPeer.waitTunnelProcess]
    split
    · exact .queue rfl rfl rfl rfl rfl rfl
    · exact .stop nofun

/-- What the examination of a message changes. -/
theorem examine_eq (msg : EapOctets) :
    ∃ event currentIdentifier receivedFirstRequest reqMethod currentMethod,
      peer.examine msg =
        { peer with
          raised := some event
          currentIdentifier
          receivedFirstRequest
          reqMethod
          currentMethod } := by
  rw [EapPeer.examine]
  split
  · split
    · split
      · exact ⟨_, _, _, _, _, rfl⟩
      · exact ⟨_, _, _, _, _, rfl⟩
    · rw [EapPeer.parseRequest]
      dsimp only
      split
      · split
        · exact ⟨_, _, _, _, _, rfl⟩
        · exact ⟨_, _, _, _, _, rfl⟩
      · split
        · exact ⟨_, _, _, _, _, rfl⟩
        · split
          · exact ⟨_, _, _, _, _, rfl⟩
          · split
            · exact ⟨_, _, _, _, _, rfl⟩
            · exact ⟨_, _, _, _, _, rfl⟩
  · split
    · rw [EapPeer.checkSuccessCondition]
      split
      · exact ⟨_, _, _, _, _, rfl⟩
      · split
        · exact ⟨_, _, _, _, _, rfl⟩
        · exact ⟨_, _, _, _, _, rfl⟩
    · split
      · rw [EapPeer.checkFailureCondition]
        split
        · exact ⟨_, _, _, _, _, rfl⟩
        · exact ⟨_, _, _, _, _, rfl⟩
      · exact ⟨_, _, _, _, _, rfl⟩

theorem deleteMethod_eq (peer : EapPeer Method) : ∃ method currentMethod fault,
    peer.deleteMethod = { peer with method, currentMethod, fault } := by
  rw [EapPeer.deleteMethod]
  split
  · exact ⟨_, _, _, rfl⟩
  · exact ⟨_, _, _, rfl⟩

theorem createMethod_eq (peer : EapPeer Method) (type innerType : EapType) :
    ∃ method innerMethod fault,
      peer.createMethod methods type innerType = { peer with method, innerMethod, fault } := by
  rw [EapPeer.createMethod]
  split
  · exact ⟨_, _, _, rfl⟩
  · split
    · exact ⟨_, _, _, rfl⟩
    · split
      · exact ⟨_, _, _, rfl⟩
      · exact ⟨_, _, _, rfl⟩

/-- What a policy check changes. -/
theorem doPolicyCheck_eq : ∃ raised currentMethod method innerMethod methodState fault,
    peer.doPolicyCheck methods =
      { peer with raised, currentMethod, method, innerMethod, methodState, fault } := by
  rw [EapPeer.doPolicyCheck]
  dsimp only
  generalize (if peer.reqMethod = .identity then decide (peer.currentMethod = .none)
    else peer.policy.allow peer.reqMethod) = allowMethod
  cases allowMethod with
  | false => exact ⟨_, _, _, _, _, _, rfl⟩
  | true =>
    obtain ⟨_, _, _, isDeleted⟩ := deleteMethod_eq { peer with currentMethod := peer.reqMethod }
    rw [isDeleted]
    obtain ⟨_, _, _, isCreated⟩ :=
      @createMethod_eq _ methods _ peer.reqMethod peer.policy.innerEapMethodType
    rw [if_pos rfl, isCreated]
    exact ⟨_, _, _, _, _, _, rfl⟩

/-- The events that a method has for the switch. -/
def PeerEvent.isSignal : PeerEvent → Bool
  | .sgValidReq | .sgInvalidReq | .sgTunnelEstablished => true
  | _ => false

/-- What a method says is one event, raised or queued. -/
inductive Replied (before : EapPeer Method) (after : EapPeer Method) : Prop where
  | silent (raised : after.raised = before.raised) (jobs : after.jobs = before.jobs)
  | raised (event : PeerEvent) (signal : event.isSignal = true)
      (raised : after.raised = some event) (jobs : after.jobs = before.jobs)
  | queued (event : PeerEvent) (signal : event.isSignal = true)
      (raised : after.raised = before.raised) (jobs : after.jobs = before.jobs ++ [.switch event])

theorem reply_replied (reply : PeerReply) : Replied peer (peer.reply reply) := by
  rw [EapPeer.reply]
  dsimp only
  split
  · exact .silent rfl rfl
  · rename_i queued _
    cases queued with
    | false => exact .raised .sgValidReq rfl rfl rfl
    | true => exact .queued .sgValidReq rfl rfl rfl
  · rename_i queued _
    cases queued with
    | false => exact .raised .sgInvalidReq rfl rfl rfl
    | true => exact .queued .sgInvalidReq rfl rfl rfl
  · rename_i queued _
    cases queued with
    | false => exact .raised .sgTunnelEstablished rfl rfl rfl
    | true => exact .queued .sgTunnelEstablished rfl rfl rfl

theorem reply_fault (reply : PeerReply) : (peer.reply reply).fault = peer.fault := by
  rw [EapPeer.reply]
  dsimp only
  split
  · rfl
  · split
    · rfl
    · rfl
  · split
    · rfl
    · rfl
  · split
    · rfl
    · rfl

/-- A fault stays. -/
theorem faultless_of_perform (faultless : (peer.perform methods identity action).fault = none) :
    peer.fault = none := by
  apply Decidable.byCases (p := action = .receiveMsg)
  · rintro rfl
    rw [EapPeer.perform, EapPeer.receiveMsg] at faultless
    split at faultless
    · cases faultless
    · have before := (effects_examine _).faultless faultless
      exact before
  · intro other
    exact (perform_effects other).faultless faultless

theorem faultless_of_serve (faultless : (peer.serve methods identity).fault = none) :
    peer.fault = none := by
  have served := EapPeer.serve_served methods identity peer
  generalize peer.serve methods identity = after at served faultless
  have begins {begun : EapPeer Method} {event : PeerEvent} (takes : peer.Takes event begun) :
      begun.fault = peer.fault := by
    cases takes with
    | raised isRaised => rfl
    | queued notRaised isFirst => rfl
  cases served with
  | nothing notRaised noJobs => exact faultless
  | ignored takes ignores => exact begins takes ▸ faultless
  | moved takes running found noAction => exact begins takes ▸ faultless
  | @performed event begun entry action takes running found isAction =>
    have before := faultless_of_perform faultless
    exact (begins takes).symm.trans before
  | method notRaised isFirst =>
    rw [EapPeer.serveMethod] at faultless
    split at faultless
    · cases faultless
    · rw [reply_fault] at faultless
      exact faultless
  | innerMethod notRaised isFirst =>
    rw [EapPeer.serveInnerMethod] at faultless
    split at faultless
    · cases faultless
    · rw [reply_fault] at faultless
      exact faultless

/-- The current method is changed where a Request is examined or a method is entered. -/
theorem perform_currentMethod (notPolicy : action ≠ .doPolicyCheck)
    (notReceive : action ≠ .receiveMsg) :
    (peer.perform methods identity action).currentMethod = peer.currentMethod := by
  have sent (cached : Bool) (peer : EapPeer Method) :
      (peer.sendResp cached).currentMethod = peer.currentMethod := by
    rw [EapPeer.sendResp]
    split
    · rfl
    · rfl
  cases action with
  | doPolicyCheck => exact absurd rfl notPolicy
  | receiveMsg => exact absurd rfl notReceive
  | retransmit => exact sent true peer
  | buildNak =>
    rw [EapPeer.perform, EapPeer.buildNak]
    exact sent false _
  | buildResp =>
    rw [EapPeer.perform, EapPeer.buildResp]
    split
    · rfl
    · dsimp only
      split
      · exact sent false _
      · split
        · rfl
        · split
          · exact sent false _
          · exact sent false _
  | checkTimeoutCondition =>
    rw [EapPeer.perform, EapPeer.checkTimeoutCondition]
    split
    · rfl
    · rfl
  | doIntegrityCheck =>
    rw [EapPeer.perform, EapPeer.doIntegrityCheck]
    split
    · rfl
    · rfl
  | parseNotification =>
    rw [EapPeer.perform, EapPeer.parseNotification]
    split
    · rfl
    · split
      · rfl
      · rfl
  | parseIdentity =>
    rw [EapPeer.perform, EapPeer.parseIdentity]
    split
    · rfl
    · split
      · cases identity with
        | none => rfl
        | some text => rfl
      · rfl
  | buildIdentity =>
    rw [EapPeer.perform, EapPeer.buildIdentity]
    split
    · rfl
    · rfl
  | checkRxQueue =>
    rw [EapPeer.perform, EapPeer.checkRxQueue]
    split
    · rfl
    · rfl
  | checkIdentity =>
    cases identity with
    | none => rfl
    | some text => rfl
  | tunnelEstablished =>
    rw [EapPeer.perform, EapPeer.tunnelEstablished]
    split
    · rfl
    · rfl
  | waitTunnelProcess =>
    rw [EapPeer.perform, EapPeer.waitTunnelProcess]
    split
    · rfl
    · rfl
  | initializing | sendSuccess | sendFailure | discard | buildNotification | startTimer => rfl

end Actions

/-! A peer that has a current method enters no other. -/

section Engaged

/-- The events on the way into a method, or to a Nak. -/
def PeerEvent.isEntry : PeerEvent → Bool
  | .sgNewMethod | .sgEnterMethod | .sgNoEnterMethod => true
  | _ => false

def isEntryJob : EapJob PeerEvent → Bool
  | .switch event => event.isEntry
  | _ => false

structure Engaged (peer : EapPeer Method) : Prop where
  hasMethod : peer.currentMethod ≠ .none
  raised : ∀ event, peer.raised = some event → event.isEntry = false
  jobs : ∀ job ∈ peer.jobs, isEntryJob job = false

theorem Engaged.of_same (engaged : Engaged peer) (currentMethod : after.currentMethod = peer.currentMethod)
    (raised : after.raised = peer.raised) (jobs : after.jobs = peer.jobs) : Engaged after where
  hasMethod := currentMethod ▸ engaged.hasMethod
  raised := fun event isRaised => engaged.raised event (raised ▸ isRaised)
  jobs := jobs ▸ engaged.jobs

/-- No Request is for a new method. -/
theorem Engaged.examine (engaged : Engaged peer) (msg : EapOctets) :
    Engaged (peer.examine msg) := by
  have raises {event : PeerEvent} (other : event.isEntry = false) : Engaged (peer.raise event) := by
    refine ⟨engaged.hasMethod, ?_, engaged.jobs⟩
    intro isEvent isRaised
    cases isRaised
    exact other
  rw [EapPeer.examine]
  split
  · split
    · split
      · exact raises rfl
      · exact raises rfl
    · rw [EapPeer.parseRequest]
      dsimp only
      split
      · split
        · exact ⟨engaged.hasMethod, fun _ isRaised => Option.some.inj isRaised ▸ rfl, engaged.jobs⟩
        · rename_i isNotification _
          refine ⟨?_, fun _ isRaised => Option.some.inj isRaised ▸ rfl, engaged.jobs⟩
          dsimp only
          rw [isNotification]
          decide
      · split
        · rename_i noMethod
          exact absurd noMethod.1 engaged.hasMethod
        · split
          · rename_i noMethod
            exact absurd noMethod engaged.hasMethod
          · split
            · exact ⟨engaged.hasMethod, fun _ isRaised => Option.some.inj isRaised ▸ rfl, engaged.jobs⟩
            · exact ⟨engaged.hasMethod, fun _ isRaised => Option.some.inj isRaised ▸ rfl, engaged.jobs⟩
  · split
    · rw [EapPeer.checkSuccessCondition]
      split
      · exact raises rfl
      · split
        · exact raises rfl
        · exact raises rfl
    · split
      · rw [EapPeer.checkFailureCondition]
        split
        · exact raises rfl
        · exact raises rfl
      · exact raises rfl

variable {event : PeerEvent}

/-- A policy check is made for a new method, and a Nak where it is not entered. -/
theorem entry_of_find {state : PeerState} {entry : StateTableEntry PeerState PeerEvent PeerAction}
    (found : peerStateTable.find state event = some entry) :
    entry.action = some .doPolicyCheck ∨ entry.action = some .buildNak → event.isEntry = true := by
  have sound := StateTable.find_sound found
  have listed : ∀ entry ∈ peerStateTable,
      entry.action = some .doPolicyCheck ∨ entry.action = some .buildNak →
        ∃ expected ∈ entry.event, expected.isEntry = true := by
    decide
  intro isAction
  obtain ⟨expected, isExpected, isEntry⟩ := listed entry sound.1 isAction
  exact sound.2.2 expected isExpected ▸ isEntry

theorem Engaged.perform (engaged : Engaged peer) {action : PeerAction}
    (notPolicy : action ≠ .doPolicyCheck) : Engaged (peer.perform methods identity action) := by
  apply Decidable.byCases (p := action = .receiveMsg)
  · intro isReceive
    rw [isReceive, EapPeer.perform, EapPeer.receiveMsg]
    split
    · exact engaged.of_same rfl rfl rfl
    · apply Engaged.examine
      exact engaged.of_same rfl rfl rfl
  · intro notReceive
    have effects := @perform_effects _ methods identity peer _ notReceive
    have quiet : ∀ event ∈ action.raises, event.isEntry = false := by
      cases action with
      | doPolicyCheck => exact absurd rfl notPolicy
      | receiveMsg => exact absurd rfl notReceive
      | _ => decide
    have queued : ∀ job ∈ action.queues, isEntryJob job = false := by
      cases action with
      | _ => decide
    refine ⟨?_, ?_, ?_⟩
    · rw [perform_currentMethod notPolicy notReceive]
      exact engaged.hasMethod
    · intro event isRaised
      exact (effects.raised event isRaised).elim (engaged.raised event) (quiet event)
    · intro job member
      obtain ⟨added, listed, isJobs⟩ := effects.jobs
      rw [isJobs, List.mem_append] at member
      exact member.elim (engaged.jobs job) fun member => queued job (listed.subset member)

theorem Engaged.reply (engaged : Engaged peer) (reply : PeerReply) :
    Engaged (peer.reply reply) := by
  have signals : ∀ event : PeerEvent, event.isSignal = true → event.isEntry = false := by
    intro event
    cases event <;> decide
  have same : (peer.reply reply).currentMethod = peer.currentMethod := by
    rw [EapPeer.reply]
    dsimp only
    split
    · rfl
    · split
      · rfl
      · rfl
    · split
      · rfl
      · rfl
    · split
      · rfl
      · rfl
  have replied : Replied peer (peer.reply reply) := reply_replied reply
  refine ⟨same ▸ engaged.hasMethod, ?_, ?_⟩
  · intro event isRaised
    cases replied with
    | silent raised jobs => exact engaged.raised event (raised ▸ isRaised)
    | raised other signal raised jobs =>
      cases raised.symm.trans isRaised
      exact signals _ signal
    | queued other signal raised jobs => exact engaged.raised event (raised ▸ isRaised)
  · intro job member
    cases replied with
    | silent raised jobs => exact engaged.jobs job (jobs ▸ member)
    | raised other signal raised jobs => exact engaged.jobs job (jobs ▸ member)
    | queued other signal raised jobs =>
      rw [jobs, List.mem_append, List.mem_singleton] at member
      apply member.elim (engaged.jobs job)
      intro isLast
      cases isLast
      exact signals _ signal

theorem Engaged.dropJob {job : EapJob PeerEvent} {rest : List (EapJob PeerEvent)}
    (engaged : Engaged peer) (isFirst : peer.jobs = job :: rest) :
    Engaged { peer with jobs := rest } := by
  refine ⟨engaged.hasMethod, engaged.raised, ?_⟩
  intro job member
  exact engaged.jobs job (isFirst ▸ List.mem_cons_of_mem _ member)

theorem Engaged.takes {begun : EapPeer Method} (engaged : Engaged peer)
    (takes : peer.Takes event begun) : Engaged begun ∧ event.isEntry = false := by
  cases takes with
  | raised isRaised => exact ⟨⟨engaged.hasMethod, nofun, engaged.jobs⟩, engaged.raised _ isRaised⟩
  | queued notRaised isFirst =>
    refine ⟨engaged.dropJob isFirst, ?_⟩
    exact engaged.jobs (.switch _) (isFirst ▸ List.mem_cons_self)

theorem Engaged.serve (engaged : Engaged peer) : Engaged (peer.serve methods identity) := by
  have served := EapPeer.serve_served methods identity peer
  generalize peer.serve methods identity = after at served ⊢
  cases served with
  | nothing notRaised noJobs => exact engaged
  | ignored takes ignores => exact (engaged.takes takes).1
  | moved takes running found noAction =>
    have begun := (engaged.takes takes).1
    exact begun.of_same rfl rfl rfl
  | performed takes running found isAction =>
    obtain ⟨begun, notEntry⟩ := engaged.takes takes
    apply Engaged.perform
    · exact begun.of_same rfl rfl rfl
    · rintro rfl
      rw [entry_of_find found (.inl isAction)] at notEntry
      cases notEntry
  | method notRaised isFirst =>
    rw [EapPeer.serveMethod]
    split
    · exact (engaged.dropJob isFirst).of_same rfl rfl rfl
    · apply Engaged.reply
      exact (engaged.dropJob isFirst).of_same rfl rfl rfl
  | innerMethod notRaised isFirst =>
    rw [EapPeer.serveInnerMethod]
    split
    · exact (engaged.dropJob isFirst).of_same rfl rfl rfl
    · apply Engaged.reply
      exact (engaged.dropJob isFirst).of_same rfl rfl rfl

theorem Engaged.notify (engaged : Engaged peer) (other : event.isEntry = false) :
    Engaged (peer.notify event) := by
  refine ⟨engaged.hasMethod, engaged.raised, ?_⟩
  intro job member
  rw [EapPeer.notify, List.mem_append, List.mem_singleton] at member
  apply member.elim (engaged.jobs job)
  intro isLast
  cases isLast
  exact other

theorem Engaged.receive (engaged : Engaged peer) (msg : EapOctets) :
    Engaged (peer.receive msg) := by
  apply Engaged.notify _ rfl
  exact engaged.of_same rfl rfl rfl

end Engaged

end OpenDiameter.Eap
