import OpenDiameter.Eap.Md5
import OpenDiameter.Eap.PeerEffects
import OpenDiameter.Eap.PeerHandling

/-!
The conversations in which an authenticator runs methods one after the other, each allowed by the
policy of the peer where it has come to, and which of them a peer follows.
-/

namespace OpenDiameter.Eap

variable {Method : Type}

/-- A Request of a conversation. -/
inductive Exchange where
  | notification (msg : EapOctets)
  | identity (msg : EapOctets)
  /-- The first Request of a method. -/
  | first (msg : EapOctets)
  | next (msg : EapOctets)
  deriving DecidableEq, Repr

namespace Exchange

def request : Exchange → EapOctets
  | .notification msg => msg
  | .identity msg => msg
  | .first msg => msg
  | .next msg => msg

def isNotification : Exchange → Bool
  | .notification _ => true
  | _ => false

def isFirst : Exchange → Bool
  | .first _ => true
  | _ => false

end Exchange

/-- How far a conversation has come: the policy element that the last method was allowed by, the
method itself, and the identifier of the last Request. -/
structure Course (Method : Type) where
  position : EapPolicyElement
  type : EapType := .none
  method : Option (MethodCourse Method) := none
  lastRequest : Option UInt8 := none

namespace Course

/-- The policy element once the method, if there is one, has ended successfully. -/
def reached (elements : PolicyElements) (course : Course Method) : EapPolicyElement :=
  match course.method with
  | none => course.position
  | some _ => EapPolicy.nextElement elements .policyOnSuccess course.position

def decision (initial : PeerDecision) (course : Course Method) : PeerDecision :=
  course.method.elim initial MethodCourse.decision

/-- The method that runs is content. -/
def Finished (course : Course Method) : Prop :=
  ∀ method ∈ course.method, method.decision ≠ .fail

/-- The message is a Request that the last one was not. -/
structure Requests (course : Course Method) (msg : EapOctets) : Prop where
  code : (parseHeader msg).code = codeRequest
  identifier : course.lastRequest ≠ some (parseHeader msg).identifier

end Course

/-- The settings of a conversation: the methods and the policy of the peer, what its decision is
at first, and the identity that its application gives. -/
structure ConversationSettings (Method : Type) where
  methods : PeerMethods Method
  policy : EapPolicy
  decision : PeerDecision
  identity : EapOctets

/-- The exchanges that an authenticator may have next, the methods of the peer having an answer. -/
inductive Exchange.Genuine (settings : ConversationSettings Method) (course : Course Method) :
    Exchange → Course Method → Prop where
  | notification {msg : EapOctets} (requests : course.Requests msg)
      (isNotification : parseType msg = .notification)
      (text : settings.methods.utf8 (typeData msg) false = true) :
      Genuine settings course (.notification msg)
        { course with lastRequest := some (parseHeader msg).identifier }
  | identity {msg : EapOctets} (requests : course.Requests msg)
      (isIdentity : parseType msg = .identity) (noMethod : course.method = none)
      (request : settings.methods.utf8 (typeData msg) false = true)
      (response : settings.methods.utf8 settings.identity true = true) :
      Genuine settings course (.identity msg)
        { course with lastRequest := some (parseHeader msg).identifier }
  | first {msg response : EapOctets} {method : Method} {inner : Option Method}
      {after : MethodCourse Method} (requests : course.Requests msg)
      (isMethod : 4 ≤ (parseType msg).type) (finished : course.Finished)
      (allowed : EapPolicy.allow
        { settings.policy with
          currentPolicyElement := course.reached settings.policy.elements } (parseType msg) = true)
      (creates : Creates settings.methods (parseType msg) settings.policy.innerEapMethodType
        (course.method.bind MethodCourse.inner) method inner)
      (answers : MethodAnswers settings.methods msg
        ⟨method, inner, course.decision settings.decision, .init⟩ response after) :
      Genuine settings course (.first msg)
        { position := course.reached settings.policy.elements
          type := parseType msg
          method := some after
          lastRequest := some (parseHeader msg).identifier }
  | next {msg response : EapOctets} {before after : MethodCourse Method}
      (requests : course.Requests msg) (runs : course.method = some before)
      (sameType : parseType msg = course.type) (notDone : before.methodState ≠ .done)
      (answers : MethodAnswers settings.methods msg before response after) :
      Genuine settings course (.next msg)
        { course with
          method := some after
          lastRequest := some (parseHeader msg).identifier }

/-- One exchange after the other. -/
inductive Conversation (settings : ConversationSettings Method) :
    Course Method → List Exchange → Course Method → Prop where
  | ended {course : Course Method} : Conversation settings course [] course
  | step {course next last : Course Method} {exchange : Exchange} {rest : List Exchange}
      (genuine : exchange.Genuine settings course next) (goesOn : Conversation settings next rest last) :
      Conversation settings course (exchange :: rest) last

/-- A conversation from the initial policy element. -/
def WholeConversation (settings : ConversationSettings Method) (exchanges : List Exchange)
    (last : Course Method) : Prop :=
  Conversation settings { position := settings.policy.initialPolicyElement } exchanges last

section Following

variable (settings : ConversationSettings Method)

/-- The peer sends a Response to the Request, and then waits for the next one. -/
def Answers (peer : EapPeer Method) (msg : EapOctets) (after : EapPeer Method) : Prop :=
  Settled after ∧ ∃ services added response,
    peer.handle settings.methods (some settings.identity) services msg = after ∧
      after.calls = peer.calls ++ (added ++ [.send response (some msg) false])

/-- The peer enters a new method with the Request. -/
def Enters (peer : EapPeer Method) (msg : EapOctets) : Prop :=
  ∃ services, (peer.handle settings.methods (some settings.identity) services msg).raised =
    some .sgEnterMethod

/-- The peer accepts a Success. -/
def Accepts (peer : EapPeer Method) (msg : EapOctets) : Prop :=
  ∃ services, (peer.handle settings.methods (some settings.identity) services msg).calls =
    peer.calls ++ [.success]

/-- The peer answers the Requests one after the other, and enters each method. -/
def Pursues : List Exchange → EapPeer Method → EapPeer Method → Prop
  | [], peer, last => last = peer
  | exchange :: rest, peer, last =>
    ∃ after, Answers settings peer exchange.request after ∧
      (exchange.isFirst = true → Enters settings peer exchange.request) ∧
        Pursues rest after last

/-- The peer follows the conversation, and accepts a Success where its policy says so. -/
def Converses (exchanges : List Exchange) (course : Course Method) (peer : EapPeer Method) :
    Prop :=
  ∃ last, Pursues settings exchanges peer last ∧
    (course.Finished → course.reached settings.policy.elements = .success →
      ∀ msg, (parseHeader msg).code = codeSuccess → Accepts settings last msg)

/-- A peer that is new, and has served the event of its start. -/
def startedPeer (lastIdentifier : UInt8) : EapPeer Method :=
  (EapPeer.serve settings.methods (some settings.identity))^[2]
    (newPeer settings.policy settings.decision lastIdentifier).start

end Following

/-- There is no method after a method, and nothing but Notifications after a Notification. -/
def keepsMethod : (entered : Bool) → List Exchange → Bool
  | _, [] => true
  | _, .notification _ :: rest => rest.all Exchange.isNotification
  | entered, .identity _ :: rest => keepsMethod entered rest
  | entered, .first _ :: rest => !entered && keepsMethod true rest
  | entered, .next _ :: rest => keepsMethod entered rest

section Steps

variable {settings : ConversationSettings Method} {course next last : Course Method}
  {peer after other : EapPeer Method} {msg : EapOctets}

theorem Answers.unique (answers : Answers settings peer msg after)
    (others : Answers settings peer msg other) : other = after := by
  obtain ⟨settled, services, _, _, rfl, _⟩ := answers
  obtain ⟨settledOther, others, _, _, rfl, _⟩ := others
  exact settledOther.handle_unique settled

/-- A Request that is only discarded is not answered. -/
theorem not_answers {services : Nat} (quiet : EapPeer Method)
    (handles : peer.handle settings.methods (some settings.identity) services msg = quiet)
    (settled : Settled quiet) (calls : quiet.calls = peer.calls) :
    ¬Answers settings peer msg after := by
  rintro ⟨settledAfter, others, added, response, isAfter, sends⟩
  have same : quiet = after := by
    rw [← handles, ← isAfter]
    apply Settled.handle_unique
    · rw [handles]
      exact settled
    · rw [isAfter]
      exact settledAfter
  rw [← same, calls, List.self_eq_append_right] at sends
  exact List.append_ne_nil_of_right_ne_nil _ (List.cons_ne_nil _ _) sends

theorem Engaged.not_enters (engaged : Engaged peer) : ¬Enters settings peer msg := by
  rintro ⟨services, isRaised⟩
  have still : Engaged (peer.handle settings.methods (some settings.identity) services msg) := by
    apply Function.Iterate.rec Engaged
    · exact engaged.receive msg
    · intro peer engaged
      exact engaged.serve
  cases still.raised _ isRaised

/-- What the peer knows about the conversation, whether or not it has met a Notification. -/
structure Knows (settings : ConversationSettings Method) (course : Course Method)
    (peer : EapPeer Method) : Prop where
  settled : Settled peer
  notificationAllowed : peer.notificationAllowed = true
  decision : peer.decision = course.decision settings.decision
  noMethod : course.method = none → peer.methodState = .none
  hasMethod : peer.methodState = .none ∨ peer.methodState = .init ∨ peer.method.isSome = true
  lastRequest : peer.receivedFirstRequest = true → course.lastRequest = some peer.lastIdentifier
  isMethod : ∀ method ∈ course.method, 4 ≤ course.type.type

theorem Knows.newRequest (knows : Knows settings course peer) (requests : course.Requests msg) :
    NewRequest peer msg := by
  refine ⟨requests.code, ?_⟩
  rintro ⟨received, same⟩
  exact requests.identifier (same ▸ knows.lastRequest received)

theorem Knows.engaged (knows : Knows settings course peer)
    (hasMethod : peer.currentMethod ≠ .none) : Engaged peer := by
  refine ⟨hasMethod, ?_, ?_⟩
  · rw [knows.settled.notRaised]
    nofun
  · rw [knows.settled.noJobs]
    nofun

/-- A Notification is answered, whatever came before. -/
theorem Knows.notified (knows : Knows settings course peer) (requests : course.Requests msg)
    (isNotification : parseType msg = .notification)
    (text : settings.methods.utf8 (typeData msg) false = true) :
    ∃ after, Answers settings peer msg after ∧
      Knows settings { course with lastRequest := some (parseHeader msg).identifier } after ∧
        after.currentMethod = .notification := by
  have settled := knows.settled
  have handled := @handle_notification _ _ (some settings.identity) _ _ settled
    (knows.newRequest requests) isNotification knows.notificationAllowed text knows.hasMethod
  obtain ⟨keyData, handles⟩ := handled
  refine ⟨_, ⟨?_, 5, _, _, handles, List.append_assoc _ _ _⟩, ?_, rfl⟩
  · exact settled.of_same rfl rfl rfl rfl rfl rfl
  · exact ⟨settled.of_same rfl rfl rfl rfl rfl rfl, knows.notificationAllowed, knows.decision,
      knows.noMethod, knows.hasMethod, fun _ => rfl, knows.isMethod⟩

/-- What the peer knows about the conversation before a Notification. -/
structure Tracks (settings : ConversationSettings Method) (course : Course Method)
    (peer : EapPeer Method) : Prop where
  knows : Knows settings course peer
  elements : peer.policy.elements = settings.policy.elements
  position : peer.policy.currentPolicyElement = settings.policy.initialPolicyElement
  innerType : peer.policy.innerEapMethodType = settings.policy.innerEapMethodType
  type : peer.currentMethod = course.type
  method : peer.method = course.method.map MethodCourse.method
  inner : peer.innerMethod = course.method.bind MethodCourse.inner
  methodState : ∀ method ∈ course.method, peer.methodState = method.methodState
  begins : course.method = none →
    course.type = .none ∧ course.position = settings.policy.initialPolicyElement

variable {type : EapType}

theorem method_ne_notification (isMethod : 4 ≤ type.type) :
    type ≠ .notification := by
  rintro rfl
  exact absurd isMethod (by decide)

theorem method_ne_identity (isMethod : 4 ≤ type.type) : type ≠ .identity := by
  rintro rfl
  exact absurd isMethod (by decide)

theorem method_ne_none (isMethod : 4 ≤ type.type) : type ≠ .none := by
  rintro rfl
  exact absurd isMethod (by decide)

/-- Before there is a method an Identity is answered. -/
theorem Tracks.identified (tracks : Tracks settings course peer) (requests : course.Requests msg)
    (isIdentity : parseType msg = .identity) (noMethod : course.method = none)
    (request : settings.methods.utf8 (typeData msg) false = true)
    (response : settings.methods.utf8 settings.identity true = true) :
    ∃ after, Answers settings peer msg after ∧
      Tracks settings { course with lastRequest := some (parseHeader msg).identifier } after := by
  have knows := tracks.knows
  have settled := knows.settled
  have noCurrent : peer.currentMethod = .none := tracks.type.trans (tracks.begins noMethod).1
  obtain ⟨keyData, handles⟩ := handle_identity settled (knows.newRequest requests) isIdentity
    noCurrent request response knows.hasMethod
  refine ⟨_, ⟨?_, 5, [], _, handles, rfl⟩, ?_⟩
  · exact settled.of_same rfl rfl rfl rfl rfl rfl
  · refine ⟨?_, tracks.elements, tracks.position, tracks.innerType, tracks.type, tracks.method,
      tracks.inner, tracks.methodState, tracks.begins⟩
    exact ⟨settled.of_same rfl rfl rfl rfl rfl rfl, knows.notificationAllowed, knows.decision,
      knows.noMethod, knows.hasMethod, fun _ => rfl, knows.isMethod⟩

variable {response : EapOctets}

/-- The peer and the course once a method has answered. -/
theorem Tracks.answered {begun : EapPeer Method} {before method : MethodCourse Method}
    {position : EapPolicyElement} {services : Nat} (tracks : Tracks settings course peer)
    (handles : peer.handle settings.methods (some settings.identity) services msg =
      begun.withCourse before) (passedOn : PassedOn (begun.withCourse before) msg)
    (policy : begun.policy = peer.policy) (calls : begun.calls = peer.calls)
    (allowed : begun.notificationAllowed = peer.notificationAllowed)
    (fault : begun.fault = peer.fault) (isMethod : 4 ≤ begun.currentMethod.type)
    (answers : MethodAnswers settings.methods msg before response method) :
    ∃ after, Answers settings peer msg after ∧
      Tracks settings
        { position
          type := begun.currentMethod
          method := some method
          lastRequest := some (parseHeader msg).identifier } after := by
  have answered := @passedOn.answers _ _ (some settings.identity) _ _ _ _ _ answers
  obtain ⟨more, keyData, sends⟩ := answered
  have settled := tracks.knows.settled
  let sent := writeHeader ⟨codeResponse, (parseHeader msg).identifier⟩ ([0, 0, 0, 0] ++ response)
  let after := ({ begun.withCourse method with state := .idle, jobs := [], keyData } :
    EapPeer Method).answered sent msg
  have isSettled : Settled after :=
    ⟨passedOn.running, rfl, passedOn.notRaised, rfl, passedOn.noMessages, fault.trans settled.faultless⟩
  refine ⟨after, ⟨isSettled, more + services, [], sent, ?_, ?_⟩, ?_⟩
  · rw [EapPeer.handle_add, handles, sends]
  · rw [← calls]
    rfl
  · refine ⟨?_, ?_, ?_, ?_, rfl, rfl, rfl, ?_, nofun⟩
    · exact ⟨isSettled, allowed.trans tracks.knows.notificationAllowed, rfl, nofun, .inr (.inr rfl),
        fun _ => rfl, fun _ _ => isMethod⟩
    · exact policy ▸ tracks.elements
    · exact policy ▸ tracks.position
    · exact policy ▸ tracks.innerType
    · intro other isMethod
      cases isMethod
      rfl

/-- The first method is entered where the policy allows it. -/
theorem Tracks.enters {method : Method} {inner : Option Method} {ended : MethodCourse Method}
    (tracks : Tracks settings course peer) (requests : course.Requests msg)
    (isMethod : 4 ≤ (parseType msg).type) (noMethod : course.method = none)
    (allowed : EapPolicy.allow
      { settings.policy with
        currentPolicyElement := course.reached settings.policy.elements } (parseType msg) = true)
    (creates : Creates settings.methods (parseType msg) settings.policy.innerEapMethodType
      (course.method.bind MethodCourse.inner) method inner)
    (answers : MethodAnswers settings.methods msg
      ⟨method, inner, course.decision settings.decision, .init⟩ response ended) :
    (∃ after, Answers settings peer msg after ∧
      Tracks settings
        { position := course.reached settings.policy.elements
          type := parseType msg
          method := some ended
          lastRequest := some (parseHeader msg).identifier } after) ∧
      Enters settings peer msg := by
  have knows := tracks.knows
  have settled := knows.settled
  have noCurrent : peer.currentMethod = .none := tracks.type.trans (tracks.begins noMethod).1
  have notRunning : peer.method = none := by
    rw [tracks.method, noMethod]
    rfl
  have position : course.reached settings.policy.elements = peer.policy.currentPolicyElement := by
    rw [Course.reached, noMethod, tracks.position]
    exact (tracks.begins noMethod).2
  have isAllowed : peer.policy.allow (parseType msg) = true := by
    rw [position] at allowed
    rw [← allowed, EapPolicy.allow, EapPolicy.allow, tracks.elements]
  rw [← tracks.inner, ← tracks.innerType] at creates
  rw [← knows.decision] at answers
  have entered := @handle_enters _ _ (some settings.identity) _ _ _ _ settled
    (knows.newRequest requests) noCurrent notRunning (method_ne_notification isMethod)
    (method_ne_identity isMethod) isAllowed creates
  refine ⟨?_, 2, entered.1⟩
  apply tracks.answered entered.2 _ rfl rfl rfl rfl isMethod answers
  exact ⟨settled.running, rfl, settled.notRaised, rfl, settled.noMessages, rfl, rfl⟩

/-- A later Request of a method is answered. -/
theorem Tracks.continues {before ended : MethodCourse Method} (tracks : Tracks settings course peer)
    (requests : course.Requests msg) (runs : course.method = some before)
    (sameType : parseType msg = course.type) (notDone : before.methodState ≠ .done)
    (answers : MethodAnswers settings.methods msg before response ended) :
    ∃ after, Answers settings peer msg after ∧
      Tracks settings
        { course with
          method := some ended
          lastRequest := some (parseHeader msg).identifier } after := by
  have knows := tracks.knows
  have isMethod : 4 ≤ course.type.type := tracks.knows.isMethod before runs
  have isPeer : peer.withCourse before = peer := by
    have method : peer.method = some before.method := by rw [tracks.method, runs, Option.map_some]
    have inner : peer.innerMethod = before.inner := by rw [tracks.inner, runs, Option.bind_some]
    have decision : peer.decision = before.decision := by
      rw [knows.decision, Course.decision, runs, Option.elim_some]
    rw [EapPeer.withCourse, ← method, ← inner, ← decision, ← tracks.methodState before runs]
  have settled : Settled (peer.withCourse before) := isPeer.symm ▸ knows.settled
  have request : NewRequest (peer.withCourse before) msg :=
    isPeer.symm ▸ knows.newRequest requests
  have isType : parseType msg = peer.currentMethod := sameType.trans tracks.type.symm
  have handles := @handle_continues _ settings.methods (some settings.identity) _ _ _ settled
    request (isType ▸ sameType ▸ method_ne_none isMethod) isType
    (sameType ▸ method_ne_notification isMethod) notDone
  rw [isPeer] at handles
  let begun : EapPeer Method :=
    { peer.examined msg with
      state := .method
      jobs := [.method .sgIntegrityCheck] }
  have type : begun.currentMethod = course.type := tracks.type
  have waiting := knows.settled
  have passedOn : PassedOn (begun.withCourse before) msg :=
    ⟨waiting.running, rfl, waiting.notRaised, rfl, waiting.noMessages, rfl, rfl⟩
  rw [← type]
  exact tracks.answered handles passedOn rfl rfl rfl rfl (type ▸ isMethod) answers

/-- No method is entered while there is one. -/
theorem Tracks.noMethod_of_enters (tracks : Tracks settings course peer)
    (enters : Enters settings peer msg) : course.method = none := by
  rw [Option.eq_none_iff_forall_not_mem]
  intro method runs
  have hasMethod : peer.currentMethod ≠ .none := by
    rw [tracks.type]
    exact method_ne_none (tracks.knows.isMethod method runs)
  exact (tracks.knows.engaged hasMethod).not_enters enters

/-- What is no Notification is discarded after a Notification. -/
theorem Knows.not_answers (knows : Knows settings course peer)
    (notified : peer.currentMethod = .notification) (requests : course.Requests msg)
    (other : parseType msg ≠ .notification) : ¬Answers settings peer msg after := by
  have hasMethod : peer.currentMethod ≠ .none := by
    rw [notified]
    decide
  have settled := knows.settled
  have handles := @handle_discarded _ settings.methods (some settings.identity) _ _ settled
    (knows.newRequest requests) hasMethod other (notified ▸ other)
  exact Eap.not_answers _ handles (settled.of_same rfl rfl rfl rfl rfl rfl) rfl

theorem Exchange.Genuine.notification_iff {exchange : Exchange}
    (genuine : exchange.Genuine settings course next)
    (isMethod : ∀ method ∈ course.method, 4 ≤ course.type.type) :
    course.Requests exchange.request ∧
      (exchange.isNotification = false → parseType exchange.request ≠ .notification) := by
  cases genuine with
  | notification requests isNotification text => exact ⟨requests, nofun⟩
  | identity requests isIdentity noMethod request response =>
    refine ⟨requests, fun _ => ?_⟩
    rw [Exchange.request, isIdentity]
    decide
  | first requests isMethod finished allowed creates answers =>
    exact ⟨requests, fun _ => method_ne_notification isMethod⟩
  | next requests runs sameType notDone answers =>
    refine ⟨requests, fun _ => ?_⟩
    rw [Exchange.request, sameType]
    exact method_ne_notification (isMethod _ runs)

end Steps

section Runs

variable {settings : ConversationSettings Method} {course last : Course Method}
  {peer final : EapPeer Method} {exchanges : List Exchange}

/-- After a Notification the peer follows where there is nothing but Notifications. -/
theorem pursues_notified (conversation : Conversation settings course exchanges last)
    (knows : Knows settings course peer) (notified : peer.currentMethod = .notification)
    (notifies : exchanges.all Exchange.isNotification = true) :
    ∃ final, Pursues settings exchanges peer final ∧ Knows settings last final := by
  induction conversation generalizing peer with
  | ended => exact ⟨peer, rfl, knows⟩
  | step genuine goesOn induction =>
    rw [List.all_cons, Bool.and_eq_true] at notifies
    cases genuine with
    | notification requests isNotification text =>
      obtain ⟨after, answers, knowsAfter, current⟩ := knows.notified requests isNotification text
      obtain ⟨final, pursues, knowsLast⟩ := induction knowsAfter current notifies.2
      exact ⟨final, ⟨after, answers, nofun, pursues⟩, knowsLast⟩
    | identity requests isIdentity noMethod request response => cases notifies.1
    | first requests isMethod finished allowed creates answers => cases notifies.1
    | next requests runs sameType notDone answers => cases notifies.1

theorem all_of_pursues (conversation : Conversation settings course exchanges last)
    (knows : Knows settings course peer) (notified : peer.currentMethod = .notification)
    (pursues : Pursues settings exchanges peer final) :
    exchanges.all Exchange.isNotification = true := by
  induction conversation generalizing peer with
  | ended => rfl
  | @step _ _ _ exchange _ genuine goesOn induction =>
    obtain ⟨after, answers, _, pursues⟩ := pursues
    have other := genuine.notification_iff knows.isMethod
    have notifies : exchange.isNotification = true := by
      apply Bool.of_not_eq_false
      intro notNotification
      exact knows.not_answers notified other.1 (other.2 notNotification) answers
    cases genuine with
    | notification requests isNotification text =>
      obtain ⟨known, answersKnown, knowsAfter, current⟩ :=
        knows.notified requests isNotification text
      rw [answersKnown.unique answers] at pursues
      exact induction knowsAfter current pursues
    | identity requests isIdentity noMethod request response => cases notifies
    | first requests isMethod finished allowed creates answers => cases notifies
    | next requests runs sameType notDone answers => cases notifies

/-- The peer follows where the current method stays what it is. -/
theorem pursues_of_keepsMethod (conversation : Conversation settings course exchanges last)
    (tracks : Tracks settings course peer)
    (keeps : keepsMethod course.method.isSome exchanges = true) :
    ∃ final, Pursues settings exchanges peer final ∧ Knows settings last final := by
  induction conversation generalizing peer with
  | ended => exact ⟨peer, rfl, tracks.knows⟩
  | step genuine goesOn induction =>
    cases genuine with
    | notification requests isNotification text =>
      obtain ⟨after, answers, knows, current⟩ :=
        tracks.knows.notified requests isNotification text
      obtain ⟨final, pursues, knowsLast⟩ := pursues_notified goesOn knows current keeps
      exact ⟨final, ⟨after, answers, nofun, pursues⟩, knowsLast⟩
    | identity requests isIdentity noMethod request response =>
      obtain ⟨after, answers, tracksAfter⟩ :=
        tracks.identified requests isIdentity noMethod request response
      obtain ⟨final, pursues, knowsLast⟩ := induction tracksAfter keeps
      exact ⟨final, ⟨after, answers, nofun, pursues⟩, knowsLast⟩
    | first requests isMethod finished allowed creates answers =>
      rw [keepsMethod, Bool.and_eq_true, Bool.not_eq_true', Option.isSome_eq_false_iff,
        Option.isNone_iff_eq_none] at keeps
      obtain ⟨⟨after, answers, tracksAfter⟩, enters⟩ :=
        tracks.enters requests isMethod keeps.1 allowed creates answers
      obtain ⟨final, pursues, knowsLast⟩ := induction tracksAfter keeps.2
      exact ⟨final, ⟨after, answers, fun _ => enters, pursues⟩, knowsLast⟩
    | next requests runs sameType notDone answers =>
      obtain ⟨after, answers, tracksAfter⟩ :=
        tracks.continues requests runs sameType notDone answers
      rw [keepsMethod, runs] at keeps
      obtain ⟨final, pursues, knowsLast⟩ := induction tracksAfter keeps
      exact ⟨final, ⟨after, answers, nofun, pursues⟩, knowsLast⟩

theorem keepsMethod_of_pursues (conversation : Conversation settings course exchanges last)
    (tracks : Tracks settings course peer) (pursues : Pursues settings exchanges peer final) :
    keepsMethod course.method.isSome exchanges = true := by
  induction conversation generalizing peer with
  | ended => rfl
  | step genuine goesOn induction =>
    obtain ⟨after, answers, enters, pursues⟩ := pursues
    cases genuine with
    | notification requests isNotification text =>
      obtain ⟨known, answersKnown, knows, current⟩ :=
        tracks.knows.notified requests isNotification text
      rw [answersKnown.unique answers] at pursues
      exact all_of_pursues goesOn knows current pursues
    | identity requests isIdentity noMethod request response =>
      obtain ⟨known, answersKnown, tracksAfter⟩ :=
        tracks.identified requests isIdentity noMethod request response
      rw [answersKnown.unique answers] at pursues
      exact induction tracksAfter pursues
    | first requests isMethod finished allowed creates methodAnswers =>
      have noMethod := tracks.noMethod_of_enters (enters rfl)
      obtain ⟨⟨known, answersKnown, tracksAfter⟩, _⟩ :=
        tracks.enters requests isMethod noMethod allowed creates methodAnswers
      rw [answersKnown.unique answers] at pursues
      rw [keepsMethod, noMethod, Bool.and_eq_true]
      exact ⟨rfl, induction tracksAfter pursues⟩
    | next requests runs sameType notDone methodAnswers =>
      obtain ⟨known, answersKnown, tracksAfter⟩ :=
        tracks.continues requests runs sameType notDone methodAnswers
      rw [answersKnown.unique answers] at pursues
      rw [keepsMethod, runs]
      exact induction tracksAfter pursues

theorem Pursues.unique {other : EapPeer Method} (pursues : Pursues settings exchanges peer final)
    (others : Pursues settings exchanges peer other) : final = other := by
  induction exchanges generalizing peer with
  | nil => exact pursues.trans others.symm
  | cons exchange rest induction =>
    obtain ⟨after, answers, _, pursues⟩ := pursues
    obtain ⟨afterOther, answersOther, _, others⟩ := others
    rw [answers.unique answersOther] at others
    exact induction pursues others

/-- As long as no method is entered, the conversation stays at the element where it began. -/
theorem Conversation.noMethod_iff (conversation : Conversation settings course exchanges last) :
    (last.method = none ↔ course.method = none ∧ exchanges.any Exchange.isFirst = false) ∧
      (last.method = none → last.position = course.position) := by
  induction conversation with
  | ended => exact ⟨⟨fun none => ⟨none, rfl⟩, And.left⟩, fun _ => rfl⟩
  | step genuine goesOn induction =>
    cases genuine with
    | notification requests isNotification text => exact induction
    | identity requests isIdentity noMethod request response => exact induction
    | first requests isMethod finished allowed creates answers =>
      have entered : _ = none ↔ _ := induction.1
      refine ⟨⟨?_, nofun⟩, ?_⟩
      · intro noMethod
        exact nomatch (entered.mp noMethod).1
      · intro noMethod
        exact nomatch (entered.mp noMethod).1
    | next requests runs sameType notDone answers =>
      have entered : _ = none ↔ _ := induction.1
      refine ⟨⟨?_, ?_⟩, induction.2⟩
      · intro noMethod
        exact nomatch (entered.mp noMethod).1
      · intro noMethod
        exact nomatch runs.symm.trans noMethod.1

/-- A peer that knows a conversation accepts a Success where its decision is not to fail. -/
theorem Knows.accepts_iff (knows : Knows settings course peer) {msg : EapOctets}
    (isSuccess : (parseHeader msg).code = codeSuccess)
    (decided : course.method = none ∨ course.Finished) :
    Accepts settings peer msg ↔ peer.decision ≠ .fail := by
  constructor
  · rintro ⟨services, accepts⟩ fails
    have noMethod : course.method = none := by
      apply decided.elim id
      intro finished
      rw [Option.eq_none_iff_forall_not_mem]
      intro method runs
      apply finished method runs
      have same := knows.decision
      rw [Course.decision, Option.mem_def.mp runs, Option.elim_some] at same
      exact same ▸ fails
    have ended : peer.methodState ≠ .cont := by
      rw [knows.noMethod noMethod]
      nofun
    exact handle_success_fails knows.settled isSuccess fails ended services accepts
  · intro decided
    exact ⟨2, handle_success knows.settled isSuccess decided⟩

end Runs

/-- The peer as it waits for the first Request. -/
theorem tracks_startedPeer (settings : ConversationSettings Method) (lastIdentifier : UInt8) :
    Tracks settings { position := settings.policy.initialPolicyElement }
      (startedPeer settings lastIdentifier) := by
  have settled : Settled (startedPeer settings lastIdentifier) := ⟨rfl, rfl, rfl, rfl, rfl, rfl⟩
  refine ⟨⟨settled, rfl, rfl, fun _ => rfl, .inl rfl, nofun, nofun⟩, rfl, rfl, rfl, rfl, rfl, rfl,
    nofun, fun _ => ⟨rfl, rfl⟩⟩

/-- A peer follows the conversations in which there is no method after a method and nothing but
Notifications after a Notification; without a method its first decision is not to be a failure. -/
theorem converses_iff {settings : ConversationSettings Method} {exchanges : List Exchange}
    {last : Course Method} (conversation : WholeConversation settings exchanges last)
    (lastIdentifier : UInt8) :
    Converses settings exchanges last (startedPeer settings lastIdentifier) ↔
      keepsMethod false exchanges = true ∧
        (exchanges.any Exchange.isFirst = false →
          settings.policy.initialPolicyElement = .success → settings.decision ≠ .fail) := by
  have tracks := tracks_startedPeer settings lastIdentifier
  have noMethod := conversation.noMethod_iff
  constructor
  · rintro ⟨final, pursues, accepts⟩
    have keeps := keepsMethod_of_pursues conversation tracks pursues
    refine ⟨keeps, ?_⟩
    intro noFirst isSuccess
    obtain ⟨known, pursuesKnown, knows⟩ := pursues_of_keepsMethod conversation tracks keeps
    have same : known = final := pursuesKnown.unique pursues
    have isNone : last.method = none := noMethod.1.mpr ⟨rfl, noFirst⟩
    have finished : last.Finished := by
      rw [Course.Finished, isNone]
      nofun
    have reached : last.reached settings.policy.elements = .success := by
      rw [Course.reached, isNone]
      exact (noMethod.2 isNone).trans isSuccess
    have accepted := accepts finished reached [codeSuccess] rfl
    rw [← same, knows.accepts_iff rfl (.inl isNone), knows.decision, Course.decision, isNone] at accepted
    exact accepted
  · rintro ⟨keeps, decided⟩
    obtain ⟨final, pursues, knows⟩ := pursues_of_keepsMethod conversation tracks keeps
    refine ⟨final, pursues, ?_⟩
    intro finished reached msg isSuccess
    rw [knows.accepts_iff isSuccess (.inr finished), knows.decision, Course.decision]
    cases runs : last.method with
    | some method => exact finished method runs
    | none =>
      rw [Course.reached, runs, noMethod.2 runs] at reached
      exact decided (noMethod.1.mp runs).2 reached

section Samples

/-- A peer whose policy is MD5-Challenge twice. -/
def md5Twice : ConversationSettings Md5PeerState where
  methods := md5PeerMethods sampleMd5
  policy :=
    { elements := fun element =>
        if element = 0 then { methodType := .md5Challenge, nextOnSuccess := .continued 1 }
        else { methodType := .md5Challenge }
      initialPolicyElement := .continued 0
      currentPolicyElement := .null }
  decision := .fail
  identity := []

def md5Request (identifier : UInt8) : EapOctets :=
  [codeRequest, identifier, 0, 22, 4, 16] ++ List.replicate 16 5

def emptyNotification (identifier : UInt8) : EapOctets := [codeRequest, identifier, 0, 5, 2]

/-- Where a conversation of one method gets. -/
def afterMd5 (identifier : UInt8) (position : EapPolicyElement) : Course Md5PeerState where
  position
  type := .md5Challenge
  method := some ⟨.success, none, .uncondSucc, .init⟩
  lastRequest := some identifier

/-- MD5-Challenge answers its first Request. -/
theorem md5_answers (identifier : UInt8) (decision : PeerDecision) :
    ∃ response, MethodAnswers md5Twice.methods (md5Request identifier)
      ⟨.initializing, none, decision, .init⟩ response ⟨.success, none, .uncondSucc, .init⟩ := by
  have raw : typeData (md5Request identifier) = 16 :: List.replicate 16 5 := rfl
  have read : readMd5Value (md5Request identifier) = some (List.replicate 16 5) := by
    rw [readMd5Value, raw]
    decide +kernel
  have serves : md5Twice.methods.serve .sgIntegrityCheck (some (md5Request identifier)) identifier
      .initializing =
      (.success,
        { decision := some .uncondSucc
          outcome := .valid
            ((writeMd5 (md5Response sampleMd5 identifier (List.replicate 16 5)) []).drop 4)
            false }) := by
    simp only [md5Twice, md5PeerMethods, serveMd5Peer, Option.bind_some, read]
    rfl
  have answers := @MethodAnswers.direct _ md5Twice.methods (md5Request identifier)
    ⟨.initializing, none, decision, .init⟩ _ _ false serves rfl
  exact ⟨_, answers⟩

theorem md5_genuine {course : Course Md5PeerState} {identifier : UInt8}
    {position : EapPolicyElement} (requests : course.Requests (md5Request identifier))
    (finished : course.Finished) (reached : course.reached md5Twice.policy.elements = position)
    (isMd5 : position = .continued 0 ∨ position = .continued 1)
    (noInner : course.method.bind MethodCourse.inner = none) :
    Exchange.Genuine md5Twice course (.first (md5Request identifier))
      (afterMd5 identifier position) := by
  obtain ⟨response, answers⟩ := md5_answers identifier (course.decision md5Twice.decision)
  have allowed : EapPolicy.allow
      { md5Twice.policy with currentPolicyElement := course.reached md5Twice.policy.elements }
      (parseType (md5Request identifier)) = true := by
    rw [reached]
    apply isMd5.elim
    · rintro rfl
      rfl
    · rintro rfl
      rfl
  have creates : Creates md5Twice.methods (parseType (md5Request identifier))
      md5Twice.policy.innerEapMethodType (course.method.bind MethodCourse.inner) .initializing
      none := by
    rw [noInner]
    exact .alone rfl rfl
  have isMethod : 4 ≤ EapType.md5Challenge.type := by decide
  have genuine := Exchange.Genuine.first requests isMethod finished allowed creates answers
  rw [reached] at genuine
  exact genuine

theorem md5_conversation : WholeConversation md5Twice [.first (md5Request 1)]
    (afterMd5 1 (.continued 0)) := by
  apply Conversation.step _ .ended
  exact md5_genuine ⟨rfl, nofun⟩ nofun rfl (.inl rfl) rfl

/-- One method is followed. -/
theorem converses_md5 : Converses md5Twice [.first (md5Request 1)] (afterMd5 1 (.continued 0))
    (startedPeer md5Twice 0) :=
  (converses_iff md5_conversation 0).mpr ⟨rfl, nofun⟩

/-- Neither a method after a method nor one after a Notification is followed. -/
theorem second_method_is_not_entered :
    (∃ last, WholeConversation md5Twice [.first (md5Request 1), .first (md5Request 2)] last ∧
        ¬Converses md5Twice [.first (md5Request 1), .first (md5Request 2)] last
          (startedPeer md5Twice 0)) ∧
      ∃ last, WholeConversation md5Twice
          [.notification (emptyNotification 1), .first (md5Request 2)] last ∧
        ¬Converses md5Twice [.notification (emptyNotification 1), .first (md5Request 2)] last
          (startedPeer md5Twice 0) := by
  have second : Conversation md5Twice (afterMd5 1 (.continued 0)) [.first (md5Request 2)]
      (afterMd5 2 (.continued 1)) := by
    apply Conversation.step _ .ended
    exact md5_genuine ⟨rfl, by decide⟩ (fun _ isMethod => Option.some.inj isMethod ▸ nofun) rfl
      (.inr rfl) rfl
  have twice : WholeConversation md5Twice [.first (md5Request 1), .first (md5Request 2)]
      (afterMd5 2 (.continued 1)) :=
    .step (md5_genuine ⟨rfl, nofun⟩ nofun rfl (.inl rfl) rfl) second
  have notified : Exchange.Genuine md5Twice { position := .continued 0 }
      (.notification (emptyNotification 1)) { position := .continued 0, lastRequest := some 1 } :=
    .notification ⟨rfl, nofun⟩ rfl rfl
  have interposed : WholeConversation md5Twice
      [.notification (emptyNotification 1), .first (md5Request 2)] (afterMd5 2 (.continued 0)) := by
    apply Conversation.step notified
    apply Conversation.step _ .ended
    apply md5_genuine ⟨rfl, by decide⟩ _ rfl (.inl rfl) rfl
    rw [Course.Finished]
    nofun
  refine ⟨⟨_, twice, ?_⟩, _, interposed, ?_⟩
  · rintro ⟨final, pursues, _⟩
    cases keepsMethod_of_pursues twice (tracks_startedPeer md5Twice 0) pursues
  · rintro ⟨final, pursues, _⟩
    cases keepsMethod_of_pursues interposed (tracks_startedPeer md5Twice 0) pursues

end Samples

end OpenDiameter.Eap
