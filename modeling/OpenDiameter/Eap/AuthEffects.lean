import OpenDiameter.Eap.ServedEvents

/-!
What the actions of an authenticator leave as it is.
-/

namespace OpenDiameter.Eap

open OpenDiameter.Framework

variable {Method : Type} {methods : AuthMethods Method} {auth between after : EapAuth Method}

/-- The events of the application, which may come with a message. -/
def AuthEvent.isReception : AuthEvent → Bool
  | .rxMsg | .sgAaaContinue | .sgAaaSuccess | .sgAaaFailure => true
  | _ => false

/-- A job that is no event of the application, and that says nothing about the policy. -/
def ownJob : EapJob AuthEvent → Bool
  | .switch .sgPolicySat => false
  | .switch event => !event.isReception
  | _ => true

/-- What a path over the policy is made of. -/
structure PolicyPath where
  kind : AuthKind
  running : Bool
  policy : EapPolicy
  followed : List PolicySwitch

def EapAuth.path (auth : EapAuth Method) : PolicyPath :=
  ⟨auth.kind, auth.running, auth.policy, auth.followed⟩

/-- What a function of an authenticator leaves as it is that receives no message and does not end
the session. -/
structure Quiet (auth after : EapAuth Method) : Prop where
  path : after.path = auth.path
  rxQueue : after.rxQueue = auth.rxQueue
  aaaRxQueue : after.aaaRxQueue = auth.aaaRxQueue
  jobs : ∃ added, after.jobs = auth.jobs ++ added ∧ ∀ job ∈ added, ownJob job = true
  calls : ∃ added, after.calls = auth.calls ++ added ∧ ∀ msg, .success msg ∉ added
  blocked : after.fault = some .blocked → auth.fault = some .blocked
  raised : after.raised = auth.raised

namespace Quiet

theorem rfl' : Quiet auth auth :=
  ⟨rfl, rfl, rfl, ⟨[], by simp⟩, ⟨[], by simp⟩, id, rfl⟩

theorem trans (first : Quiet auth between) (second : Quiet between after) : Quiet auth after where
  path := second.path.trans first.path
  rxQueue := second.rxQueue.trans first.rxQueue
  aaaRxQueue := second.aaaRxQueue.trans first.aaaRxQueue
  jobs := by
    obtain ⟨early, isEarly, ownEarly⟩ := first.jobs
    obtain ⟨late, isLate, ownLate⟩ := second.jobs
    refine ⟨early ++ late, by rw [isLate, isEarly, List.append_assoc], ?_⟩
    intro job member
    exact (List.mem_append.mp member).elim (ownEarly job) (ownLate job)
  calls := by
    obtain ⟨early, isEarly, noneEarly⟩ := first.calls
    obtain ⟨late, isLate, noneLate⟩ := second.calls
    refine ⟨early ++ late, by rw [isLate, isEarly, List.append_assoc], ?_⟩
    intro msg member
    exact (List.mem_append.mp member).elim (noneEarly msg) (noneLate msg)
  blocked := first.blocked ∘ second.blocked
  raised := second.raised.trans first.raised

/-- Fields change that are not looked at. -/
theorem of_same (path : after.path = auth.path) (rxQueue : after.rxQueue = auth.rxQueue)
    (aaaRxQueue : after.aaaRxQueue = auth.aaaRxQueue) (jobs : after.jobs = auth.jobs)
    (calls : after.calls = auth.calls) (fault : after.fault = auth.fault)
    (raised : after.raised = auth.raised) : Quiet auth after where
  path := path
  rxQueue := rxQueue
  aaaRxQueue := aaaRxQueue
  jobs := ⟨[], by simp [jobs]⟩
  calls := ⟨[], by simp [calls]⟩
  blocked := fun blocked => fault ▸ blocked
  raised := raised

/-- Fields that are not looked at changed before. -/
theorem preceded (second : Quiet between after) (path : between.path = auth.path)
    (rxQueue : between.rxQueue = auth.rxQueue) (aaaRxQueue : between.aaaRxQueue = auth.aaaRxQueue)
    (jobs : between.jobs = auth.jobs) (calls : between.calls = auth.calls)
    (fault : between.fault = auth.fault) (raised : between.raised = auth.raised) :
    Quiet auth after :=
  (of_same path rxQueue aaaRxQueue jobs calls fault raised).trans second

theorem stop {fault : EapFault} (other : fault ≠ .blocked) : Quiet auth (auth.stop fault) :=
  ⟨rfl, rfl, rfl, ⟨[], by simp [EapAuth.stop]⟩, ⟨[], by simp [EapAuth.stop]⟩,
    fun blocked => absurd (Option.some.inj blocked) other, rfl⟩

theorem queue {job : EapJob AuthEvent} (own : ownJob job = true) :
    Quiet auth { auth with jobs := auth.jobs ++ [job] } :=
  ⟨rfl, rfl, rfl, ⟨[job], rfl, by simpa using own⟩, ⟨[], by simp⟩, id, rfl⟩

theorem notify {event : AuthEvent} (own : ownJob (.switch event) = true) :
    Quiet auth (auth.notify event) :=
  queue own

theorem call {call : AuthCall} (called : after.calls = auth.calls ++ [call])
    (noSuccess : ∀ msg, call ≠ .success msg) (path : after.path = auth.path)
    (rxQueue : after.rxQueue = auth.rxQueue) (aaaRxQueue : after.aaaRxQueue = auth.aaaRxQueue)
    (jobs : after.jobs = auth.jobs) (fault : after.fault = auth.fault)
    (raised : after.raised = auth.raised) : Quiet auth after where
  path := path
  rxQueue := rxQueue
  aaaRxQueue := aaaRxQueue
  jobs := ⟨[], by simp [jobs]⟩
  calls := by
    refine ⟨[call], called, ?_⟩
    intro msg member
    exact noSuccess msg (List.mem_singleton.mp member).symm
  blocked := fun blocked => fault ▸ blocked
  raised := raised

theorem notifyMethod (event : EapMethodEvent) : Quiet auth (auth.notifyMethod event) := by
  rw [EapAuth.notifyMethod]
  split
  · exact stop nofun
  · exact queue rfl

theorem notifyInnerMethod (event : EapMethodEvent) : Quiet auth (auth.notifyInnerMethod event) := by
  rw [EapAuth.notifyInnerMethod]
  split
  · exact stop nofun
  · exact queue rfl

theorem sendTxMessage : Quiet auth auth.sendTxMessage := by
  rw [EapAuth.sendTxMessage]
  split
  · exact stop nofun
  · exact call rfl nofun rfl rfl rfl rfl rfl rfl

theorem deleteMethod : Quiet auth auth.deleteMethod := by
  rw [EapAuth.deleteMethod]
  split
  · exact rfl'
  · refine ⟨rfl, rfl, rfl, ⟨[], by simp⟩, ⟨[], by simp⟩, ?_, rfl⟩
    dsimp only
    split
    · nofun
    · exact id

theorem composeRequest : Quiet auth (auth.composeRequest methods) := by
  rw [EapAuth.composeRequest]
  split
  · exact of_same rfl rfl rfl rfl rfl rfl rfl
  · exact stop nofun

theorem createMethod (type innerType : EapType) :
    Quiet auth (auth.createMethod methods type innerType) := by
  rw [EapAuth.createMethod]
  split
  · exact stop nofun
  · split
    · exact of_same rfl rfl rfl rfl rfl rfl rfl
    · split
      · exact stop nofun
      · exact of_same rfl rfl rfl rfl rfl rfl rfl

theorem proposeMethod : Quiet auth (auth.proposeMethod methods) := by
  rw [EapAuth.proposeMethod]
  split
  · exact stop nofun
  · rename_i type _
    let begun := { auth.deleteMethod with currentMethod := type }
    have deleted : Quiet auth begun := deleteMethod.trans (of_same rfl rfl rfl rfl rfl rfl rfl)
    have created : Quiet begun (begun.createMethod methods type auth.policy.innerEapMethodType) :=
      createMethod type auth.policy.innerEapMethodType
    apply trans _ (notifyMethod _)
    exact (deleted.trans created).trans (of_same rfl rfl rfl rfl rfl rfl rfl)

theorem sendRequest : Quiet auth auth.sendRequest := by
  apply trans _ sendTxMessage
  exact preceded (notify rfl) rfl rfl rfl rfl rfl rfl rfl

end Quiet

/-- What an action does that receives no message and does not end the session: the event that it
raises is one of the machine's own, and says that the policy is satisfied only where it is. -/
structure Passive (auth after : EapAuth Method) : Prop where
  quiet : Quiet { auth with raised := none } { after with raised := none }
  raised : ∀ event, after.raised = some event →
    event.isReception = false ∧ (event = .sgPolicySat → auth.decision = .success)

namespace Passive

theorem of_quiet (notRaised : auth.raised = none) (quiet : Quiet auth after) :
    Passive auth after where
  quiet := ⟨quiet.path, quiet.rxQueue, quiet.aaaRxQueue, quiet.jobs, quiet.calls, quiet.blocked, rfl⟩
  raised := by
    intro event isRaised
    rw [quiet.raised, notRaised] at isRaised
    cases isRaised

/-- The event is raised last. -/
theorem raise (quiet : Quiet auth between) {event : AuthEvent} (own : event.isReception = false)
    (satisfied : event = .sgPolicySat → auth.decision = .success) :
    Passive auth (between.raise event) where
  quiet := ⟨quiet.path, quiet.rxQueue, quiet.aaaRxQueue, quiet.jobs, quiet.calls, quiet.blocked, rfl⟩
  raised := by
    intro other isRaised
    cases isRaised
    exact ⟨own, satisfied⟩

/-- An event that says nothing about the policy. -/
theorem raising {event : AuthEvent} (raised : after.raised = some event)
    (quiet : Quiet { auth with raised := none } { after with raised := none })
    (own : event.isReception = false) (other : event ≠ .sgPolicySat) : Passive auth after where
  quiet := quiet
  raised := by
    intro isEvent isRaised
    rw [raised] at isRaised
    cases isRaised
    exact ⟨own, fun same => absurd same other⟩

end Passive

/-- The actions that take a message from the queue of received messages. -/
def AuthAction.takesRx : AuthAction → Bool
  | .receiveMsg | .receiveMsg2 | .discard2 => true
  | _ => false

/-- The actions that take a message from the queue of AAA messages. -/
def AuthAction.takesAaa : AuthAction → Bool
  | .aaaContinue | .aaaSuccess | .aaaFailure | .discard3 => true
  | _ => false

/-- The actions that end the session or move over the policy. -/
def AuthAction.concludes : AuthAction → Bool
  | .sendSuccess | .completePassThroughWithSuccess | .resetMethod => true
  | _ => false

section Actions

variable (notRaised : auth.raised = none)
include notRaised

theorem passive_doPolicyCheck : Passive auth auth.doPolicyCheck := by
  rw [EapAuth.doPolicyCheck]
  split
  · rename_i satisfied
    exact .raise .rfl' rfl fun _ => satisfied
  · exact .raising rfl .rfl' rfl nofun
  · exact .raising rfl .rfl' rfl nofun
  · exact .raising rfl .rfl' rfl nofun

theorem passive_backendInitializing : Passive auth auth.backendInitializing := by
  rw [EapAuth.backendInitializing]
  split
  · exact .raising rfl (.of_same rfl rfl rfl rfl rfl rfl rfl) rfl nofun
  · split
    · exact .raising rfl (.of_same rfl rfl rfl rfl rfl rfl rfl) rfl nofun
    · dsimp only
      split
      · apply Passive.of_quiet notRaised
        exact .preceded (.stop nofun) rfl rfl rfl rfl rfl rfl rfl
      · split
        · exact .raising rfl (.of_same rfl rfl rfl rfl rfl rfl rfl) rfl nofun
        · split
          · exact .raising rfl (.of_same rfl rfl rfl rfl rfl rfl rfl) rfl nofun
          · exact .raising rfl (.of_same rfl rfl rfl rfl rfl rfl rfl) rfl nofun

theorem passive_methodResponse : Passive auth (auth.methodResponse methods) := by
  rw [EapAuth.methodResponse]
  split
  · exact .of_quiet notRaised (.stop nofun)
  · split
    · exact .raising rfl (.of_same rfl rfl rfl rfl rfl rfl rfl) rfl nofun
    · exact .raising rfl (.of_same rfl rfl rfl rfl rfl rfl rfl) rfl nofun

theorem passive_pickUpMethod : Passive auth (auth.pickUpMethod methods) := by
  rw [EapAuth.pickUpMethod]
  split
  · exact .of_quiet notRaised (.stop nofun)
  · split
    · apply Passive.raise _ rfl
      · nofun
      · exact .preceded (.createMethod _ _) rfl rfl rfl rfl rfl rfl rfl
    · exact .raising rfl .rfl' rfl nofun

theorem passive_proposeMethod : Passive auth (auth.proposeMethod methods) :=
  .of_quiet notRaised .proposeMethod

theorem passive_retransmit : Passive auth auth.retransmit := by
  rw [EapAuth.retransmit]
  split
  · apply Passive.of_quiet notRaised
    apply Quiet.trans _ .sendTxMessage
    exact .preceded (.notify rfl) rfl rfl rfl rfl rfl rfl rfl
  · exact .raising rfl .rfl' rfl nofun

theorem passive_pickUpInitCheck : Passive auth auth.pickUpInitCheck := by
  rw [EapAuth.pickUpInitCheck]
  split
  · exact .raising rfl .rfl' rfl nofun
  · exact .raising rfl .rfl' rfl nofun

theorem passive_examine (msg : EapOctets) : Passive auth (auth.examine msg) := by
  rw [EapAuth.examine]
  split
  · apply Passive.of_quiet notRaised
    exact .preceded (.notify rfl) rfl rfl rfl rfl rfl rfl rfl
  · split
    · split
      · exact .raising rfl .rfl' rfl nofun
      · exact .raising rfl (.of_same rfl rfl rfl rfl rfl rfl rfl) rfl nofun
    · split
      · exact .raising rfl (.of_same rfl rfl rfl rfl rfl rfl rfl) rfl nofun
      · exact .raising rfl .rfl' rfl nofun

variable {action : AuthAction}

/-- Most actions receive nothing. -/
theorem passive_perform (noRx : action.takesRx = false) (noAaa : action.takesAaa = false)
    (goesOn : action.concludes = false) :
    Passive auth (auth.perform methods action) := by
  cases action with
  | receiveMsg | receiveMsg2 | discard2 => cases noRx
  | aaaContinue | aaaSuccess | aaaFailure | discard3 => cases noAaa
  | sendSuccess | completePassThroughWithSuccess | resetMethod => cases goesOn
  | disable | aaaRequest | prepareRequest => exact .raising rfl .rfl' rfl nofun
  | initializing | discard => exact .raising rfl (.of_same rfl rfl rfl rfl rfl rfl rfl) rfl nofun
  | backendInitializing => exact passive_backendInitializing notRaised
  | pickUpMethod => exact passive_pickUpMethod notRaised
  | proposeMethod => exact passive_proposeMethod notRaised
  | buildRequest =>
    apply Passive.raise .composeRequest rfl
    nofun
  | methodResponse => exact passive_methodResponse notRaised
  | sendFailure | completePassThroughWithFailure =>
    apply Passive.of_quiet notRaised
    exact .call rfl nofun rfl rfl rfl rfl rfl rfl
  | sendRequest => exact .of_quiet notRaised .sendRequest
  | doIntegrityCheck => exact .of_quiet notRaised (.notifyMethod _)
  | doPolicyCheck => exact passive_doPolicyCheck notRaised
  | retransmit => exact passive_retransmit notRaised
  | tunnelEstablished | notifyInnerEap => exact .of_quiet notRaised (.notifyInnerMethod _)
  | waitTunnelProcess =>
    exact .of_quiet notRaised (Quiet.composeRequest.trans (.notifyMethod _))
  | pickUpInitCheck => exact passive_pickUpInitCheck notRaised
  | doIntegrityCheck2 => exact .of_quiet notRaised (.call rfl nofun rfl rfl rfl rfl rfl rfl)

/-- An action on the received messages takes the first of them, or waits for ever. -/
theorem takesRx_perform (takes : action.takesRx = true) :
    (auth.rxQueue = [] ∧ (auth.perform methods action).fault = some .blocked) ∨
      ∃ msg rest, auth.rxQueue = msg :: rest ∧
        Passive { auth with rxQueue := rest } (auth.perform methods action) := by
  cases action with
  | receiveMsg =>
    rw [EapAuth.perform, EapAuth.receiveMsg]
    split
    · rename_i empty
      exact .inl ⟨empty, rfl⟩
    · rename_i msg rest isQueue
      have begun : ({ auth with rxQueue := rest, rxMessage := some msg } :
          EapAuth Method).raised = none := notRaised
      have examined := passive_examine begun msg
      refine .inr ⟨msg, rest, isQueue, ?_, examined.raised⟩
      exact .preceded examined.quiet rfl rfl rfl rfl rfl rfl rfl
  | receiveMsg2 =>
    rw [EapAuth.perform, EapAuth.receiveMsg2]
    split
    · rename_i empty
      exact .inl ⟨empty, rfl⟩
    · rename_i msg rest isQueue
      refine .inr ⟨msg, rest, isQueue, ?_⟩
      dsimp only
      split
      · have begun : ({ auth with rxQueue := rest } : EapAuth Method).raised = none := notRaised
        apply Passive.of_quiet begun
        exact .preceded (.notify rfl) rfl rfl rfl rfl rfl rfl rfl
      · exact .raising rfl (.of_same rfl rfl rfl rfl rfl rfl rfl) rfl nofun
  | discard2 =>
    rw [EapAuth.perform, EapAuth.discard2]
    dsimp only
    split
    · rename_i empty
      exact .inl ⟨empty, rfl⟩
    · rename_i msg rest isQueue
      refine .inr ⟨msg, rest, isQueue, ?_⟩
      split
      · exact .raising rfl (.of_same rfl rfl rfl rfl rfl rfl rfl) rfl nofun
      · have begun : ({ auth with rxQueue := rest } : EapAuth Method).raised = none := notRaised
        exact .of_quiet begun (.of_same rfl rfl rfl rfl rfl rfl notRaised.symm)
  | _ => cases takes

theorem receiveAaa_cases (code : UInt8) (event : AuthEvent)
    (empty : EapAuth Method → EapAuth Method) (own : event.isReception = false)
    (other : event ≠ .sgPolicySat)
    (empties : Passive auth (empty { auth with txMessage := none })) :
    (auth.aaaRxQueue = [] ∧ Passive auth (auth.receiveAaa code event empty)) ∨
      ∃ msg rest, auth.aaaRxQueue = msg :: rest ∧
        Passive { auth with aaaRxQueue := rest } (auth.receiveAaa code event empty) := by
  rw [EapAuth.receiveAaa]
  split
  · rename_i isEmpty
    exact .inl ⟨isEmpty, empties⟩
  · rename_i msg rest isQueue
    refine .inr ⟨msg, rest, isQueue, ?_⟩
    dsimp only
    split
    · exact .raising rfl .rfl' rfl nofun
    · exact .raising rfl (.of_same rfl rfl rfl rfl rfl rfl rfl) own other

/-- An action on the AAA messages takes the first of them where there is one; where there is none
only `AcDiscard3` waits for ever. -/
theorem takesAaa_perform (takes : action.takesAaa = true) :
    (auth.aaaRxQueue = [] ∧
        ((auth.perform methods action).fault = some .blocked ∧ action = .discard3 ∨
          Passive auth (auth.perform methods action))) ∨
      ∃ msg rest, auth.aaaRxQueue = msg :: rest ∧
        Passive { auth with aaaRxQueue := rest } (auth.perform methods action) := by
  cases action with
  | aaaContinue =>
    have cleared : Passive auth (EapAuth.stop .aborted { auth with txMessage := none }) :=
      .of_quiet notRaised (.preceded (.stop nofun) rfl rfl rfl rfl rfl rfl rfl)
    apply (receiveAaa_cases notRaised codeRequest .rxAaaEapReq (.stop .aborted) rfl nofun cleared).imp_left
    exact fun empty => ⟨empty.1, .inr empty.2⟩
  | aaaSuccess =>
    have cleared : Passive auth (EapAuth.raise .aaaSuccess { auth with txMessage := none }) :=
      .raising rfl (.of_same rfl rfl rfl rfl rfl rfl rfl) rfl nofun
    apply (receiveAaa_cases notRaised codeSuccess .aaaSuccess (.raise .aaaSuccess) rfl nofun cleared).imp_left
    exact fun empty => ⟨empty.1, .inr empty.2⟩
  | aaaFailure =>
    have cleared : Passive auth (EapAuth.raise .aaaFailure { auth with txMessage := none }) :=
      .raising rfl (.of_same rfl rfl rfl rfl rfl rfl rfl) rfl nofun
    apply (receiveAaa_cases notRaised codeFailure .aaaFailure (.raise .aaaFailure) rfl nofun cleared).imp_left
    exact fun empty => ⟨empty.1, .inr empty.2⟩
  | discard3 =>
    rw [EapAuth.perform, EapAuth.discard3]
    split
    · rename_i empty
      exact .inl ⟨empty, .inl ⟨rfl, rfl⟩⟩
    · rename_i msg rest isQueue
      have begun : ({ auth with aaaRxQueue := rest } : EapAuth Method).raised = none := notRaised
      exact .inr ⟨msg, rest, isQueue, .of_quiet begun .rfl'⟩
  | _ => cases takes

end Actions

end OpenDiameter.Eap
