import OpenDiameter.Eap.MethodSequences

/-!
The negotiation of a method: a standalone authenticator and a peer, and the messages between them,
none of which is lost.
-/

namespace OpenDiameter.Eap

open OpenDiameter.Foundation OpenDiameter.Framework

variable {AuthMethod PeerMethod : Type}

/-- The message that a callback sends. -/
def AuthCall.message : AuthCall → Option EapOctets
  | .send request => some request
  | .success msg => msg
  | .failure msg => msg
  | .forwardResponse _ => none

def PeerCall.message : PeerCall → Option EapOctets
  | .send response _ _ => some response
  | _ => none

/-- The methods and the policies of the two, and what the peer has for what is not initialized. -/
structure NegotiationSettings (AuthMethod PeerMethod : Type) where
  authMethods : AuthMethods AuthMethod
  authPolicy : EapPolicy
  methodState : AuthMethodState
  peerMethods : PeerMethods PeerMethod
  peerPolicy : EapPolicy
  decision : PeerDecision
  lastIdentifier : UInt8

/-- The two, the messages in flight, and the types that the peer has refused. -/
structure Negotiation (AuthMethod PeerMethod : Type) where
  auth : EapAuth AuthMethod
  peer : EapPeer PeerMethod
  requests : List EapOctets
  responses : List EapOctets
  refused : EapTypeList

inductive NegotiationInput where
  | serveAuth
  | servePeer (identity : Option EapOctets)
  | deliverRequest
  | deliverResponse
  deriving DecidableEq, Repr

namespace Negotiation

/-- The authenticator has an event, and what it sends is on its way. -/
def serveAuth (methods : AuthMethods AuthMethod) (c : Negotiation AuthMethod PeerMethod) :
    Negotiation AuthMethod PeerMethod :=
  let served := c.auth.serve methods
  { c with
    auth := served
    requests := c.requests ++ (served.calls.drop c.auth.calls.length).filterMap AuthCall.message
    refused := if c.auth.raised = some .rxNak then c.refused ++ [c.auth.currentMethod]
      else c.refused }

def servePeer (methods : PeerMethods PeerMethod) (identity : Option EapOctets)
    (c : Negotiation AuthMethod PeerMethod) : Negotiation AuthMethod PeerMethod :=
  let served := c.peer.serve methods identity
  { c with
    peer := served
    responses := c.responses ++ (served.calls.drop c.peer.calls.length).filterMap PeerCall.message }

end Negotiation

inductive NegotiationStep (settings : NegotiationSettings AuthMethod PeerMethod)
    (c : Negotiation AuthMethod PeerMethod) :
    NegotiationInput → Negotiation AuthMethod PeerMethod → Prop where
  | serveAuth (faultless : c.auth.fault = none) :
      NegotiationStep settings c .serveAuth (c.serveAuth settings.authMethods)
  | servePeer (identity : Option EapOctets) (faultless : c.peer.fault = none) :
      NegotiationStep settings c (.servePeer identity) (c.servePeer settings.peerMethods identity)
  | deliverRequest {msg : EapOctets} {rest : List EapOctets} (faultless : c.peer.fault = none)
      (isFirst : c.requests = msg :: rest) :
      NegotiationStep settings c .deliverRequest
        { c with peer := c.peer.receive msg, requests := rest }
  | deliverResponse {msg : EapOctets} {rest : List EapOctets} (faultless : c.auth.fault = none)
      (isFirst : c.responses = msg :: rest) :
      NegotiationStep settings c .deliverResponse
        { c with auth := c.auth.receive msg, responses := rest }

/-- Both are new, are started, and have served all events that followed. -/
structure StartsNegotiation (settings : NegotiationSettings AuthMethod PeerMethod)
    (c : Negotiation AuthMethod PeerMethod) : Prop where
  auth : ∃ services, c.auth = (EapAuth.serve settings.authMethods)^[services]
    (newAuth .standAlone settings.authPolicy settings.methodState).start
  authWaits : c.auth.raised = none ∧ c.auth.jobs = []
  peer : ∃ identity services, c.peer = (EapPeer.serve settings.peerMethods identity)^[services]
    (newPeer settings.peerPolicy settings.decision settings.lastIdentifier).start
  peerWaits : c.peer.raised = none ∧ c.peer.jobs = []
  requests : c.requests = c.auth.calls.filterMap AuthCall.message
  responses : c.responses = []
  refused : c.refused = []

abbrev NegotiationReached (settings : NegotiationSettings AuthMethod PeerMethod) :
    Negotiation AuthMethod PeerMethod → Prop :=
  Reached (StartsNegotiation settings) (NegotiationStep settings) fun _ _ => True

/-- The elements that are reached from one, in the order in which they are met: an element, then
what its success branch leads to, then what its failure branch does. -/
inductive Visits (elements : PolicyElements) : List Nat → EapPolicyElement → List Nat → Prop where
  | final {seen : List Nat} {element : EapPolicyElement} (isFinal : element.isContinued = false) :
      Visits elements seen element seen
  | again {seen : List Nat} {element : Nat} (isSeen : element ∈ seen) :
      Visits elements seen (.continued element) seen
  | visit {seen between after : List Nat} {element : Nat} (notSeen : element ∉ seen)
      (onSuccess : Visits elements (seen ++ [element]) (elements element).nextOnSuccess between)
      (onFailure : Visits elements between (elements element).nextOnFailure after) :
      Visits elements seen (.continued element) after

/-- The types of the elements that are reached from the current one, each once. -/
def EapPolicy.Lists (policy : EapPolicy) (types : EapTypeList) : Prop :=
  ∃ visited, Visits policy.elements [] policy.currentPolicyElement visited ∧
    types = (visited.map fun element => (policy.elements element).methodType).eraseDups

/-- A legacy type of a method. -/
def EapType.IsLegacy (type : EapType) : Prop :=
  4 ≤ type.type ∧ type.type < 254 ∧ type.vendorId = 0 ∧ type.vendorType = 0

/-- The failure branches from an element form a chain of legacy methods. -/
inductive LegacyChain (elements : PolicyElements) : EapPolicyElement → EapTypeList → Prop where
  | ends {element : EapPolicyElement} (isFinal : element.isContinued = false) :
      LegacyChain elements element []
  | link {element : Nat} {types : EapTypeList} (legacy : (elements element).methodType.IsLegacy)
      (rest : LegacyChain elements (elements element).nextOnFailure types) :
      LegacyChain elements (.continued element) ((elements element).methodType :: types)

/-- The message is the Nak for the types. -/
def IsNakOf (msg : EapOctets) (types : EapTypeList) : Prop :=
  ∃ dict identifier, msg =
    writeHeader ⟨codeResponse, identifier⟩ (EapNakParser.parseAppToRaw dict types)

/-- The Nak that the authenticator is about to serve lists the types that the peer's policy leads
to, is read back, and leads to the first of them in what remains of the chain, if there is one. -/
def Negotiates (settings : NegotiationSettings AuthMethod PeerMethod)
    (c : Negotiation AuthMethod PeerMethod) : Prop :=
  c.auth.raised = some .rxNak → ∃ nak types remaining, c.auth.rxMessage = some nak ∧
    c.peer.policy.Lists types ∧ IsNakOf nak types ∧ EapAuth.readNak nak = types ∧
    LegacyChain c.auth.policy.elements
      (c.auth.policy.update .policyOnFailure).currentPolicyElement remaining ∧
    (c.auth.serve settings.authMethods).policy.currentMethod = remaining.find? types.search ∧
    ∀ type ∈ remaining.find? types.search, type ∉ c.refused ++ [c.auth.currentMethod]

/-- What is documented of the methods: those of the authenticator are there and prepare a first
Request of their type, and none of the peer responds with a Nak. -/
structure SupportsTypes (settings : NegotiationSettings AuthMethod PeerMethod)
    (types : EapTypeList) : Prop where
  prepares : ∀ type ∈ types, ∃ method served msg, settings.authMethods.create type = some method ∧
    settings.authMethods.serve .sgIntegrityCheck none 0 method =
      (served, { txMessage := some (some msg), signal := some .validResp }) ∧ parseType msg = type
  inner : settings.authPolicy.innerEapMethodType ≠ .none →
    ∃ inner, settings.authMethods.create settings.authPolicy.innerEapMethodType = some inner
  noNak : ∀ event request identifier method response queued,
    (settings.peerMethods.serve event request identifier method).2.outcome =
      .valid response queued → parseType ([0, 0, 0, 0] ++ response) ≠ .nak

/-! The entries of the standalone authenticator until it has sent its first Request. -/

section Entries

theorem find_sgRestart : (authStateTable .standAlone).find .begin_ .sgRestart =
    some ⟨.begin_, some .sgRestart, .disabled, some .disable⟩ := rfl

theorem find_sgPortEnabled : (authStateTable .standAlone).find .disabled .sgPortEnabled =
    some ⟨.disabled, some .sgPortEnabled, .initializing, some .initializing⟩ := rfl

theorem find_auth_initializing : (authStateTable .standAlone).find .initializing .uct =
    some ⟨.initializing, some .uct, .selectAction, some .doPolicyCheck⟩ := rfl

theorem find_selectAction : (authStateTable .standAlone).find .selectAction .otherwise =
    some ⟨.selectAction, some .otherwise, .proposeMethod, some .proposeMethod⟩ := rfl

theorem find_sgPolicySat : (authStateTable .standAlone).find .selectAction .sgPolicySat =
    some ⟨.selectAction, some .sgPolicySat, .success, some .sendSuccess⟩ := rfl

theorem find_sgPolicyNotSatEndSess :
    (authStateTable .standAlone).find .selectAction .sgPolicyNotSatEndSess =
      some ⟨.selectAction, some .sgPolicyNotSatEndSess, .failure, some .sendFailure⟩ := rfl

theorem find_proposeMethod : (authStateTable .standAlone).find .proposeMethod .sgValidResp =
    some ⟨.proposeMethod, some .sgValidResp, .methodRequest, some .buildRequest⟩ := rfl

theorem find_methodRequest : (authStateTable .standAlone).find .methodRequest .uct =
    some ⟨.methodRequest, some .uct, .sendRequest, some .sendRequest⟩ := rfl

theorem find_sendRequest : (authStateTable .standAlone).find .sendRequest .uct =
    some ⟨.sendRequest, some .uct, .idle, none⟩ := rfl

theorem find_auth_rxMsg : (authStateTable .standAlone).find .idle .rxMsg =
    some ⟨.idle, some .rxMsg, .received, some .receiveMsg⟩ := rfl

end Entries

section Start

variable {settings : NegotiationSettings AuthMethod PeerMethod}

/-- The authenticator as it waits for the Response to its first Request. -/
structure Proposed (settings : NegotiationSettings AuthMethod PeerMethod) (type : EapType)
    (request : EapOctets) (auth : EapAuth AuthMethod) : Prop where
  kind : auth.kind = .standAlone
  running : auth.running = true
  idle : auth.state = .idle
  notRaised : auth.raised = none
  noJobs : auth.jobs = []
  noMessages : auth.rxQueue = []
  faultless : auth.fault = none
  policy : auth.policy =
    { settings.authPolicy with currentPolicyElement := settings.authPolicy.initialPolicyElement }
  currentMethod : auth.currentMethod = type
  methodState : auth.methodState = .proposed
  calls : auth.calls = [.send request]
  isRequest : parseHeader request = ⟨codeRequest, auth.currentIdentifier⟩
  isType : parseType request = type

theorem parseType_writeHeader (header : EapHeader) (msg : EapOctets) :
    parseType (writeHeader header msg) = parseType msg := by
  have later (index : Nat) : (writeHeader header msg).getD (index + 4) 0 = msg.getD (index + 4) 0 := by
    simp [writeHeader, List.getD_eq_getElem?_getD, Nat.add_comm]
  rw [parseType, parseType, later 0, later 4]

/-- The authenticator before it checks its policy for the first time. -/
def selecting (settings : NegotiationSettings AuthMethod PeerMethod) : EapAuth AuthMethod :=
  { newAuth .standAlone
      { settings.authPolicy with currentPolicyElement := settings.authPolicy.initialPolicyElement }
      settings.methodState with
    running := true
    state := .selectAction }

theorem starts_policyCheck (settings : NegotiationSettings AuthMethod PeerMethod) :
    (EapAuth.serve settings.authMethods)^[3]
        (newAuth .standAlone settings.authPolicy settings.methodState).start =
      (selecting settings).doPolicyCheck := by
  simp [Function.iterate_succ, newAuth, EapAuth.start, EapAuth.deleteMethod, EapAuth.notify,
    EapAuth.serve, EapAuth.event, find_sgRestart, EapAuth.perform, EapAuth.disable,
    EapAuth.raise, find_sgPortEnabled, EapAuth.initializing, find_auth_initializing, selecting]

/-- The authenticator whose first method has prepared a Request. -/
def prepared (settings : NegotiationSettings AuthMethod PeerMethod) (type : EapType)
    (method : AuthMethod) (inner : Option AuthMethod) (msg : EapOctets) : EapAuth AuthMethod :=
  { selecting settings with
    state := .proposeMethod
    currentMethod := type
    methodState := .proposed
    method := some method
    innerMethod := inner
    txMessage := some msg
    jobs := [.switch .sgValidResp] }

theorem prepares_first {element : Nat} {method served : AuthMethod} {msg : EapOctets}
    {types : EapTypeList}
    (isInitial : settings.authPolicy.initialPolicyElement = .continued element)
    (legacy : (settings.authPolicy.elements element).methodType.IsLegacy)
    (supports : SupportsTypes settings types)
    (creates : settings.authMethods.create (settings.authPolicy.elements element).methodType =
      some method)
    (serves : settings.authMethods.serve .sgIntegrityCheck none 0 method =
      (served, { txMessage := some (some msg), signal := some .validResp })) :
    ∃ inner, (EapAuth.serve settings.authMethods)^[2] (selecting settings).doPolicyCheck =
      prepared settings (settings.authPolicy.elements element).methodType served inner msg := by
  have notIdentity : (settings.authPolicy.elements element).methodType ≠ .identity :=
    method_ne_identity legacy.1
  apply Decidable.byCases (p := settings.authPolicy.innerEapMethodType = .none)
  · intro noInner
    refine ⟨none, ?_⟩
    simp [Function.iterate_succ, selecting, newAuth, EapAuth.doPolicyCheck, EapAuth.decision,
      EapPolicy.isSatisfied, EapPolicy.currentMethod, isInitial, EapAuth.raise, EapAuth.serve,
      EapAuth.event, find_selectAction, EapAuth.perform, EapAuth.proposeMethod,
      EapAuth.deleteMethod, EapAuth.createMethod, creates, noInner, EapAuth.notifyMethod,
      EapAuth.serveMethod, serves, EapAuth.reply, AuthSignal.event, notIdentity, prepared]
  · intro hasInner
    obtain ⟨inner, createsInner⟩ := supports.inner hasInner
    refine ⟨some inner, ?_⟩
    simp [Function.iterate_succ, selecting, newAuth, EapAuth.doPolicyCheck, EapAuth.decision,
      EapPolicy.isSatisfied, EapPolicy.currentMethod, isInitial, EapAuth.raise, EapAuth.serve,
      EapAuth.event, find_selectAction, EapAuth.perform, EapAuth.proposeMethod,
      EapAuth.deleteMethod, EapAuth.createMethod, creates, hasInner, createsInner,
      EapAuth.notifyMethod, EapAuth.serveMethod, serves, EapAuth.reply, AuthSignal.event,
      notIdentity, prepared]

/-- The authenticator that has sent its first Request. -/
def proposing (settings : NegotiationSettings AuthMethod PeerMethod) (type : EapType)
    (method : AuthMethod) (inner : Option AuthMethod) (identifier : UInt8) (request : EapOctets) :
    EapAuth AuthMethod :=
  { selecting settings with
    state := .idle
    currentMethod := type
    currentIdentifier := identifier
    methodState := .proposed
    method := some method
    innerMethod := inner
    txMessage := some request
    retransmissionCount := 1
    calls := [.send request] }

theorem sends_first (settings : NegotiationSettings AuthMethod PeerMethod) (type : EapType)
    (method : AuthMethod) (inner : Option AuthMethod) (msg : EapOctets) :
    (EapAuth.serve settings.authMethods)^[3] (prepared settings type method inner msg) =
      proposing settings type method inner (settings.authMethods.getNextIdentifier method 0)
        (writeHeader ⟨codeRequest, settings.authMethods.getNextIdentifier method 0⟩ msg) := by
  simp [Function.iterate_succ, prepared, selecting, newAuth, EapAuth.serve, EapAuth.event,
    find_proposeMethod, EapAuth.perform, EapAuth.buildRequest, EapAuth.composeRequest,
    EapAuth.raise, find_methodRequest, EapAuth.sendRequest, EapAuth.notify, EapAuth.sendTxMessage,
    find_sendRequest, proposing]

/-- A started authenticator proposes the first method of its policy. -/
theorem proposes_first {type : EapType} {types : EapTypeList}
    (chain : LegacyChain settings.authPolicy.elements settings.authPolicy.initialPolicyElement
      (type :: types)) (supports : SupportsTypes settings (type :: types)) :
    ∃ request, Proposed settings type request
      ((EapAuth.serve settings.authMethods)^[8]
        (newAuth .standAlone settings.authPolicy settings.methodState).start) := by
  obtain ⟨method, served, msg, creates, serves, isType⟩ := supports.prepares type List.mem_cons_self
  generalize isInitial : settings.authPolicy.initialPolicyElement = initial at chain
  cases chain with
  | link legacy rest =>
    obtain ⟨inner, prepares⟩ := prepares_first isInitial legacy supports creates serves
    refine ⟨writeHeader ⟨codeRequest, settings.authMethods.getNextIdentifier served 0⟩ msg, ?_⟩
    rw [Function.iterate_add_apply _ 5 3, starts_policyCheck, Function.iterate_add_apply _ 3 2,
      prepares, sends_first]
    exact ⟨rfl, rfl, rfl, rfl, rfl, rfl, rfl, rfl, rfl, rfl, rfl, rfl,
      (parseType_writeHeader _ msg).trans isType⟩

/-- An authenticator without a method to propose is done at once. -/
theorem ends_at_once
    (isFinal : settings.authPolicy.initialPolicyElement.isContinued = false) :
    ∃ auth : EapAuth AuthMethod, (EapAuth.serve settings.authMethods)^[4]
        (newAuth .standAlone settings.authPolicy settings.methodState).start = auth ∧
      auth.kind = .standAlone ∧ (auth.state = .success ∨ auth.state = .failure) ∧
      auth.raised = none ∧ auth.jobs = [] := by
  refine ⟨_, rfl, ?_⟩
  rw [Function.iterate_add_apply _ 1 3, starts_policyCheck]
  cases isInitial : settings.authPolicy.initialPolicyElement with
  | continued element => rw [isInitial] at isFinal; cases isFinal
  | success =>
    simp [selecting, newAuth, EapAuth.doPolicyCheck, EapAuth.decision, EapPolicy.isSatisfied,
      isInitial, EapAuth.raise, EapAuth.serve, EapAuth.event, find_sgPolicySat, EapAuth.perform,
      EapAuth.sendSuccess]
  | failure =>
    simp [selecting, newAuth, EapAuth.doPolicyCheck, EapAuth.decision, EapPolicy.isSatisfied,
      EapPolicy.currentMethod, isInitial, EapAuth.raise, EapAuth.serve, EapAuth.event,
      find_sgPolicyNotSatEndSess, EapAuth.perform, EapAuth.sendFailure]
  | null =>
    simp [selecting, newAuth, EapAuth.doPolicyCheck, EapAuth.decision, EapPolicy.isSatisfied,
      EapPolicy.currentMethod, isInitial, EapAuth.raise, EapAuth.serve, EapAuth.event,
      find_sgPolicyNotSatEndSess, EapAuth.perform, EapAuth.sendFailure]

end Start

/-! A type that the peer refuses. -/

section Refusal

variable {settings : NegotiationSettings AuthMethod PeerMethod}
  {c : Negotiation AuthMethod PeerMethod}

/-- The peer as it waits for the first Request. -/
def waitingPeer (settings : NegotiationSettings AuthMethod PeerMethod) : EapPeer PeerMethod :=
  { newPeer
      { settings.peerPolicy with currentPolicyElement := settings.peerPolicy.initialPolicyElement }
      settings.decision settings.lastIdentifier with
    running := true
    state := .idle
    notificationAllowed := true }

theorem waitingPeer_settled : Settled (waitingPeer settings) := ⟨rfl, rfl, rfl, rfl, rfl, rfl⟩

theorem serve_newPeer (identity : Option EapOctets) :
    (EapPeer.serve settings.peerMethods identity)^[2]
        (newPeer settings.peerPolicy settings.decision settings.lastIdentifier).start =
      waitingPeer settings := rfl

/-- The peer goes on by itself as long as it has no fault. -/
theorem reached_servePeer (reached : NegotiationReached settings c) (identity : Option EapOctets)
    (services : Nat)
    (faultless : ((Negotiation.servePeer settings.peerMethods identity)^[services] c).peer.fault =
      none) :
    NegotiationReached settings
      ((Negotiation.servePeer settings.peerMethods identity)^[services] c) := by
  induction services with
  | zero => exact reached
  | succ services induction =>
    rw [Function.iterate_succ_apply'] at faultless ⊢
    have before := faultless_of_serve faultless
    exact (induction before).after (.servePeer identity) (.servePeer identity before) trivial

/-- The peer sends a Nak for a type that it refuses. -/
theorem servePeer_refuses {msg : EapOctets} (identity : Option EapOctets)
    (settled : Settled c.peer) (request : NewRequest c.peer msg)
    (noMethod : c.peer.currentMethod = .none) (notNotification : parseType msg ≠ .notification)
    (notIdentity : parseType msg ≠ .identity)
    (refused : c.peer.policy.allow (parseType msg) = false) :
    (Negotiation.servePeer settings.peerMethods identity)^[4]
        { c with peer := c.peer.receive msg } =
      { c with
        peer := c.peer.handle settings.peerMethods identity 4 msg
        responses := c.responses ++ [nakMessage c.peer (parseHeader msg).identifier] } := by
  rw [handle_refused settled request noMethod notNotification notIdentity refused]
  obtain ⟨running, idle, notRaised, noJobs, noMessages, faultless⟩ := settled
  obtain ⟨code, identifier⟩ := request
  simp [Function.iterate_succ, Negotiation.servePeer, EapPeer.receive, EapPeer.serve,
    EapPeer.notify, EapPeer.event, EapPeer.perform, EapPeer.raise, running, idle, notRaised,
    noJobs, noMessages, find_rxMsg, EapPeer.receiveMsg, EapPeer.examine, code, identifier,
    EapPeer.parseRequest, noMethod, notNotification, notIdentity, find_sgNewMethod,
    EapPeer.doPolicyCheck, refused, find_sgNoEnterMethod, EapPeer.buildNak,
    EapPeer.composeResponse, EapPeer.sendResp, nakMessage, find_sendResponse, EapPeer.checkRxQueue,
    EapPeer.examined, PeerCall.message]

theorem parseType_nakMessage (peer : EapPeer PeerMethod) (identifier : UInt8) :
    parseType (nakMessage peer identifier) = .nak := by
  rw [nakMessage, parseType_writeHeader]
  rfl

variable {auth : EapAuth AuthMethod}

theorem decision_ne_passthrough (isKind : auth.kind = .standAlone) :
    auth.decision ≠ .passthrough := by
  rw [EapAuth.decision, isKind]
  simp only [reduceCtorEq, if_false]
  split
  · nofun
  · split
    · nofun
    · nofun

variable {type : EapType}

/-- The authenticator takes the Nak for its first Request. -/
theorem Proposed.hears {request nak : EapOctets} (proposed : Proposed settings type request auth)
    (isNak : parseType nak = .nak)
    (isHeader : parseHeader nak = ⟨codeResponse, (parseHeader request).identifier⟩) :
    ((auth.receive nak).serve settings.authMethods).raised = some .rxNak ∧
      ((auth.receive nak).serve settings.authMethods).rxMessage = some nak := by
  have identifier : (parseHeader nak).identifier = auth.currentIdentifier := by
    rw [isHeader, proposed.isRequest]
  have code : (parseHeader nak).code = codeResponse := by rw [isHeader]
  let received : EapAuth AuthMethod :=
    { auth with state := .received, rxQueue := [], rxMessage := some nak, jobs := [] }
  have receives : (auth.receive nak).serve settings.authMethods = received.examine nak := by
    simp [EapAuth.receive, EapAuth.notify, EapAuth.serve, EapAuth.event, proposed.notRaised,
      proposed.noJobs, proposed.noMessages, proposed.running, proposed.kind, proposed.idle,
      find_auth_rxMsg, EapAuth.perform, EapAuth.receiveMsg, received]
  have goesOn : received.decision ≠ .passthrough := decision_ne_passthrough proposed.kind
  have isProposed : received.methodState = .proposed := proposed.methodState
  rw [receives, EapAuth.examine, if_neg, if_pos ⟨isNak, goesOn⟩, if_pos isProposed]
  · exact ⟨rfl, rfl⟩
  · rintro (other | other)
    · exact other code
    · exact other identifier

/-- Where nothing is reached from an element, it is none that has a method. -/
theorem Visits.keeps {elements : PolicyElements} {seen after : List Nat}
    {element : EapPolicyElement} (visits : Visits elements seen element after) : seen <+: after := by
  induction visits with
  | final isFinal => exact List.prefix_refl _
  | again isSeen => exact List.prefix_refl _
  | visit notSeen onSuccess onFailure successes failures =>
    exact (List.prefix_append _ _).trans (successes.trans failures)

theorem isContinued_of_lists_nil {policy : EapPolicy} (lists : policy.Lists []) :
    policy.currentPolicyElement.isContinued = false := by
  obtain ⟨visited, visits, isNil⟩ := lists
  cases visited with
  | cons element rest =>
    rw [List.map_cons, List.eraseDups_cons] at isNil
    cases isNil
  | nil =>
    generalize policy.currentPolicyElement = current at visits ⊢
    cases visits with
    | final isFinal => exact isFinal
    | again isSeen => cases isSeen
    | visit notSeen onSuccess onFailure =>
      have longer := (onSuccess.keeps.trans onFailure.keeps).length_le
      simp at longer

/-- A Nak of a peer is never one for no types. -/
theorem not_isNakOf_nil {peer : EapPeer PeerMethod} {identifier : UInt8}
    (isFinal : peer.policy.currentPolicyElement.isContinued = false) :
    ¬IsNakOf (nakMessage peer identifier) [] := by
  have listed (isVSE : Bool) : peer.policy.makeTypeList [] isVSE = [.none] := by
    rw [EapPolicy.makeTypeList]
    cases isElement : peer.policy.currentPolicyElement with
    | continued element => rw [isElement] at isFinal; cases isFinal
    | null => rfl
    | success => rfl
    | failure => rfl
  rintro ⟨dict, other, same⟩
  have lengths := congrArg List.length same
  rw [nakMessage, listed] at lengths
  cases dict with
  | legacyNak => cases lengths
  | extendedNak => cases lengths

/-- The two as they wait, the first Request being on its way. -/
def opening (settings : NegotiationSettings AuthMethod PeerMethod) (auth : EapAuth AuthMethod)
    (request : EapOctets) : Negotiation AuthMethod PeerMethod :=
  { auth, peer := waitingPeer settings, requests := [request], responses := [], refused := [] }

/-- A peer that refuses the type of the first Request is not negotiated with. -/
theorem not_negotiates {request : EapOctets} (proposed : Proposed settings type request auth)
    (isMethod : 4 ≤ type.type) (starts : StartsNegotiation settings (opening settings auth request))
    (refused : (waitingPeer settings).policy.allow type = false) :
    ∃ c, NegotiationReached settings c ∧ ¬Negotiates settings c := by
  let heard : Negotiation AuthMethod PeerMethod := { opening settings auth request with requests := [] }
  have delivered : NegotiationReached settings
      { heard with peer := heard.peer.receive request } :=
    (Reached.start starts).after NegotiationInput.deliverRequest (.deliverRequest rfl rfl) trivial
  have newRequest : NewRequest (waitingPeer settings) request := by
    refine ⟨?_, nofun⟩
    rw [proposed.isRequest]
  have isType : parseType request = type := proposed.isType
  let nak := nakMessage (waitingPeer settings) (parseHeader request).identifier
  have refuses := @servePeer_refuses _ _ settings heard request none waitingPeer_settled newRequest
    rfl (isType ▸ method_ne_notification isMethod) (isType ▸ method_ne_identity isMethod)
    (isType ▸ refused)
  have handles := @handle_refused _ settings.peerMethods none _ request waitingPeer_settled
    newRequest rfl (isType ▸ method_ne_notification isMethod)
    (isType ▸ method_ne_identity isMethod) (isType ▸ refused)
  let refusing : Negotiation AuthMethod PeerMethod :=
    { heard with
      peer := (waitingPeer settings).handle settings.peerMethods none 4 request
      responses := [nak] }
  have sent : NegotiationReached settings refusing := by
    have served := @reached_servePeer _ _ settings _ delivered none 4
    rw [refuses] at served
    apply served
    exact (congrArg EapPeer.fault handles).trans rfl
  have answered : NegotiationReached settings
      { refusing with auth := auth.receive nak, responses := [] } :=
    sent.after NegotiationInput.deliverResponse (.deliverResponse proposed.faultless rfl) trivial
  have served := answered.after NegotiationInput.serveAuth (.serveAuth proposed.faultless) trivial
  have hears := proposed.hears (parseType_nakMessage (waitingPeer settings) _) rfl
  refine ⟨_, served, ?_⟩
  intro negotiates
  obtain ⟨isNak, types, remaining, isRx, lists, encodes, reads, _⟩ := negotiates hears.1
  cases hears.2.symm.trans isRx
  have noTypes : types = [] := by
    rw [← reads, EapAuth.readNak, EapNakParser.parseRawToApp_nil]
  have policy : refusing.peer.policy = (waitingPeer settings).policy :=
    (congrArg EapPeer.policy handles).trans rfl
  have isFinal := isContinued_of_lists_nil (policy ▸ noTypes ▸ lists)
  exact not_isNakOf_nil isFinal (noTypes ▸ encodes)

/-- The start from which the first method is proposed. -/
theorem starts_opening {request : EapOctets} (proposed : Proposed settings type request auth)
    (isAuth : ∃ services, auth = (EapAuth.serve settings.authMethods)^[services]
      (newAuth .standAlone settings.authPolicy settings.methodState).start) :
    StartsNegotiation settings (opening settings auth request) where
  auth := isAuth
  authWaits := ⟨proposed.notRaised, proposed.noJobs⟩
  peer := ⟨none, 2, rfl⟩
  peerWaits := ⟨rfl, rfl⟩
  requests := by
    rw [opening, proposed.calls]
    rfl
  responses := rfl
  refused := rfl

end Refusal

end OpenDiameter.Eap
