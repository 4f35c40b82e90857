import OpenDiameter.Eap.ArchieMessages
import OpenDiameter.Eap.MethodMachine

/-!
`eap_archie_fsm.cxx`: EAP-Archie of a peer and of an authenticator. What the application and the
random number generator give is the input of an event.
-/

namespace OpenDiameter.Eap

open OpenDiameter.Foundation OpenDiameter.Framework

structure ArchieInput where
  rxMessage : EapOctets := []
  /-- `InputSharedSecret` -/
  sharedSecret : EapOctets
  /-- `InputIdentity` -/
  identity : EapOctets
  /-- What `RAND_bytes` gives, nothing where it fails. -/
  random : Option EapOctets

/-- The data that `EapPeerArchieStateMachine` and `EapAuthArchieStateMachine` have alike. -/
structure ArchieNode where
  sharedSecret : EapOctets := []
  keyDerivationKey : EapOctets := []
  masterKey : EapOctets := []
  sessionID : EapOctets := []
  peerID : EapOctets := []
  authID : EapOctets := []
  nonceP : EapOctets := []
  nonceA : EapOctets := []
  binding : ArchieBinding := {}
  history : EapOctets := []
  keyData : EapOctets := []
  isDone : Bool := false
  deriving DecidableEq

/-- The text that the master key is derived from. -/
def archieSessionKey : EapOctets :=
  "Archie session key".toList.map fun character => UInt8.ofNat character.toNat

inductive ArchieEvent where
  | sgIntegrityCheck
  | sgTunnelProcess
  | sgValid
  | sgInvalid
  deriving DecidableEq, Repr

namespace ArchieNode

/-- The Key Confirmation Key, which an action takes from the shared secret. -/
def kck (node : ArchieNode) : EapOctets := firstOctets node.sharedSecret 16

/-- `KDK` -/
def kdk (node : ArchieNode) : ArchieNode :=
  if node.keyDerivationKey.length ≠ 32 then
    { node with keyDerivationKey := (node.sharedSecret.drop 32).take 32 }
  else node

section Keys

variable (aesEncrypt : AesEncrypt)

def mac (node : ArchieNode) (octets : EapOctets) : EapOctets :=
  aesCbcMac96 aesEncrypt octets node.kck

/-- `MK`, where the method is done or not. -/
def deriveMasterKey (done : Bool) (node : ArchieNode) : ArchieNode :=
  if node.masterKey.length ≠ 32 ∧ done = true then
    let keyed := node.kdk
    { keyed with
      masterKey := archiePrf aesEncrypt (node.nonceA ++ node.nonceP ++ archieSessionKey)
        keyed.keyDerivationKey 32 }
  else node

/-- `KeyData() = MK()` -/
def deriveKey (done : Bool) (node : ArchieNode) : ArchieNode :=
  let keyed := node.deriveMasterKey aesEncrypt done
  { keyed with keyData := keyed.masterKey }

end Keys

/-- What both machines clear at a start. -/
def restart (node : ArchieNode) : ArchieNode :=
  { node with keyData := [], masterKey := [], history := [], keyDerivationKey := [] }

end ArchieNode

inductive ArchiePeerState where
  /-- `StInitialize` -/
  | initializing
  | processRequest
  | responseSent
  | processConfirm
  | success
  deriving DecidableEq, Repr

inductive ArchiePeerAction where
  | doIntegrityCheckForRequestMsg
  | doIntegrityCheckForConfirmMsg
  | buildResponse
  | notifySuccess
  | notifyInvalid
  deriving DecidableEq, Repr

/-- `EapPeerArchieStateTable_S` -/
def archiePeerTable : StateTable ArchiePeerState ArchieEvent ArchiePeerAction :=
  [⟨.initializing, some .sgIntegrityCheck, .processRequest, some .doIntegrityCheckForRequestMsg⟩,
    ⟨.initializing, none, .initializing, none⟩,
    ⟨.processRequest, some .sgInvalid, .initializing, some .notifyInvalid⟩,
    ⟨.processRequest, some .sgValid, .responseSent, some .buildResponse⟩,
    ⟨.responseSent, some .sgIntegrityCheck, .processConfirm, some .doIntegrityCheckForConfirmMsg⟩,
    ⟨.responseSent, none, .responseSent, none⟩,
    ⟨.processConfirm, some .sgInvalid, .responseSent, some .notifyInvalid⟩,
    ⟨.processConfirm, some .sgValid, .success, some .notifySuccess⟩,
    ⟨.success, none, .success, none⟩]

inductive ArchieAuthState where
  /-- `StInitialize` -/
  | initializing
  | requestSent
  | processResponse
  | confirmSent
  | processFinish
  | success
  deriving DecidableEq, Repr

inductive ArchieAuthAction where
  | doIntegrityCheckForResponseMsg
  | doIntegrityCheckForFinishMsg
  | buildRequest
  | buildConfirm
  | notifySuccess
  | notifyFailure
  deriving DecidableEq, Repr

/-- `EapAuthArchieStateTable_S`. The entries that are meant for any event, such as
`AddStateTableEntry(StRequestSent, StRequestSent, 0)`, are for the event that has the number of the
state, and lead to the first state; of these numbers two are events. -/
def archieAuthTable : StateTable ArchieAuthState ArchieEvent ArchieAuthAction :=
  [⟨.initializing, some .sgIntegrityCheck, .requestSent, some .buildRequest⟩,
    ⟨.initializing, some .sgValid, .initializing, none⟩,
    ⟨.requestSent, some .sgIntegrityCheck, .processResponse, some .doIntegrityCheckForResponseMsg⟩,
    ⟨.requestSent, some .sgInvalid, .initializing, none⟩,
    ⟨.processResponse, some .sgInvalid, .initializing, some .notifyFailure⟩,
    ⟨.processResponse, some .sgValid, .confirmSent, some .buildConfirm⟩,
    ⟨.confirmSent, some .sgIntegrityCheck, .processFinish, some .doIntegrityCheckForFinishMsg⟩,
    ⟨.processFinish, some .sgInvalid, .confirmSent, some .notifyFailure⟩,
    ⟨.processFinish, some .sgValid, .success, some .notifySuccess⟩]

section Methods

variable (aesEncrypt : AesEncrypt)

namespace ArchiePeer

abbrev Effect := MethodEffect ArchieNode ArchieEvent PeerReport

/-- `EapPeerArchieStateMachine::Start` -/
def start (node : ArchieNode) : ArchieNode := { node.restart with isDone := false }

def doIntegrityCheckForRequestMsg (input : ArchieInput) (node : ArchieNode) : Effect :=
  match EapRequestArchieRequest.parseRawToApp input.rxMessage with
  | none => { data := node, raised := some .sgInvalid }
  | some request =>
    let keyed := { node with sharedSecret := input.sharedSecret }
    if keyed.sharedSecret.length ≠ 64 then { data := keyed, raised := some .sgInvalid }
    else
      { data :=
          { keyed with
            authID := request.authID
            sessionID := request.sessionID
            -- The session id is left out.
            history := node.history ++ octetsAt input.rxMessage 4 260 }
        raised := some .sgValid }

/-- `AcBuildResponse`: where there are no random numbers, nothing is raised at all. -/
def buildResponse (input : ArchieInput) (node : ArchieNode) : Effect :=
  let named := { node with peerID := input.identity }
  match input.random with
  | none => { data := named }
  | some random =>
    let fresh := { named with nonceP := firstOctets random 40 }
    let response : EapResponseArchieResponse :=
      { sessionID := fresh.sessionID
        peerID := fresh.peerID
        nonceP := fresh.nonceP
        binding := fresh.binding }
    match response.parseAppToRaw with
    | none => { data := fresh, raised := some .sgInvalid }
    | some msg =>
      let heard := { fresh with history := node.history ++ octetsAt msg 4 848 }
      match { response with mac1 := heard.mac aesEncrypt heard.history }.parseAppToRaw with
      | none => { data := heard, raised := some .sgInvalid }
      | some msg =>
        { data := heard, reports := [.txMessage msg, .methodState .cont, .validReq] }

def doIntegrityCheckForConfirmMsg (input : ArchieInput) (node : ArchieNode) : Effect :=
  match EapRequestArchieConfirm.parseRawToApp input.rxMessage with
  | none => { data := node, raised := some .sgInvalid }
  | some confirm =>
    if confirm.sessionID ≠ node.sessionID then { data := node, raised := some .sgInvalid }
    else
      let history := node.history ++ octetsAt input.rxMessage 4 592
      if node.mac aesEncrypt history ≠ confirm.mac2 then
        { data := node, raised := some .sgInvalid }
      else
        { data :=
            { node with nonceA := confirm.nonceA, binding := confirm.binding, history := history }
          raised := some .sgValid }

def notifySuccess (node : ArchieNode) : Effect :=
  let finish : EapResponseArchieFinish :=
    { sessionID := node.sessionID, mac3 := List.replicate 12 32 }
  let mac3 := node.mac aesEncrypt (octetsAt finish.parseAppToRaw 4 36)
  { data := node.deriveKey aesEncrypt true
    reports :=
      [.txMessage { finish with mac3 := mac3 }.parseAppToRaw, .decision .uncondSucc,
        .methodState .done, .validReq] }

def perform (action : ArchiePeerAction) (input : ArchieInput) (node : ArchieNode) : Effect :=
  match action with
  | .doIntegrityCheckForRequestMsg => doIntegrityCheckForRequestMsg input node
  | .doIntegrityCheckForConfirmMsg => doIntegrityCheckForConfirmMsg aesEncrypt input node
  | .buildResponse => buildResponse aesEncrypt input node
  | .notifySuccess => notifySuccess aesEncrypt node
  | .notifyInvalid => { data := node, reports := [.invalidReq] }

end ArchiePeer

namespace ArchieAuth

abbrev Effect := MethodEffect ArchieNode ArchieEvent AuthReport

/-- `EapAuthArchieStateMachine::Start` -/
def start (node : ArchieNode) : ArchieNode := node.restart

/-- `AcBuildRequest`: where there are no random numbers, nothing is raised at all. -/
def buildRequest (input : ArchieInput) (node : ArchieNode) : Effect :=
  match input.random with
  | none => { data := node }
  | some random =>
    let fresh :=
      { node with sessionID := firstOctets random 32, authID := input.identity }
    let request : EapRequestArchieRequest :=
      { authID := fresh.authID, sessionID := fresh.sessionID }
    match request.parseAppToRaw with
    | none => { data := fresh, raised := some .sgInvalid }
    | some msg =>
      { data := { fresh with history := node.history ++ octetsAt msg 4 260 }
        reports := [.txMessage msg, .validResp] }

/-- `AcDoIntegrityCheckForResponseMsg`: the session id is taken from the Response. -/
def doIntegrityCheckForResponseMsg (input : ArchieInput) (node : ArchieNode) : Effect :=
  match EapResponseArchieResponse.parseRawToApp input.rxMessage with
  | none => { data := node, raised := some .sgInvalid }
  | some response =>
    let keyed := { node with sharedSecret := input.sharedSecret }
    if keyed.sharedSecret.length ≠ 64 then { data := keyed, raised := some .sgInvalid }
    else
      let history := node.history ++ octetsAt input.rxMessage 4 848
      if keyed.mac aesEncrypt history ≠ response.mac1 then
        { data := keyed, raised := some .sgInvalid }
      else
        { data :=
            { keyed with
              sessionID := response.sessionID
              peerID := response.peerID
              nonceP := response.nonceP
              binding := response.binding
              history := history }
          raised := some .sgValid }

def buildConfirm (input : ArchieInput) (node : ArchieNode) : Effect :=
  match input.random with
  | none => { data := node }
  | some random =>
    let fresh := { node with nonceA := firstOctets random 40 }
    let confirm : EapRequestArchieConfirm :=
      { sessionID := fresh.sessionID, nonceA := fresh.nonceA, binding := fresh.binding }
    let heard :=
      { fresh with history := node.history ++ octetsAt confirm.parseAppToRaw 4 592 }
    let mac2 := heard.mac aesEncrypt heard.history
    { data := heard
      reports := [.txMessage { confirm with mac2 := mac2 }.parseAppToRaw, .validResp] }

def doIntegrityCheckForFinishMsg (input : ArchieInput) (node : ArchieNode) : Effect :=
  match EapResponseArchieFinish.parseRawToApp input.rxMessage with
  | none => { data := node, raised := some .sgInvalid }
  | some finish =>
    if finish.sessionID ≠ node.sessionID then { data := node, raised := some .sgInvalid }
    else if node.mac aesEncrypt (octetsAt input.rxMessage 4 36) ≠ finish.mac3 then
      { data := node, raised := some .sgInvalid }
    else { data := node, raised := some .sgValid }

def notifySuccess (node : ArchieNode) : Effect :=
  { data := { node with isDone := true }.deriveKey aesEncrypt true
    reports := [.policyUpdate .policyOnSuccess, .validResp] }

def notifyFailure (node : ArchieNode) : Effect :=
  { data := { node with isDone := true }
    reports := [.policyUpdate .policyOnFailure, .validResp] }

def perform (action : ArchieAuthAction) (input : ArchieInput) (node : ArchieNode) : Effect :=
  match action with
  | .doIntegrityCheckForResponseMsg => doIntegrityCheckForResponseMsg aesEncrypt input node
  | .doIntegrityCheckForFinishMsg => doIntegrityCheckForFinishMsg aesEncrypt input node
  | .buildRequest => buildRequest input node
  | .buildConfirm => buildConfirm aesEncrypt input node
  | .notifySuccess => notifySuccess aesEncrypt node
  | .notifyFailure => notifyFailure node

end ArchieAuth

/-- `EapPeerArchieStateMachine` -/
def archiePeer : MethodMachine ArchiePeerState ArchieEvent ArchiePeerAction ArchieNode ArchieInput
    PeerReport where
  table := archiePeerTable
  initialState := .initializing
  perform := ArchiePeer.perform aesEncrypt

/-- `EapAuthArchieStateMachine` -/
def archieAuth : MethodMachine ArchieAuthState ArchieEvent ArchieAuthAction ArchieNode ArchieInput
    AuthReport where
  table := archieAuthTable
  initialState := .initializing
  perform := ArchieAuth.perform aesEncrypt

/-- The event and those that it raises: at most three are open at a time. -/
def serveArchiePeer (input : ArchieInput) (event : ArchieEvent) (state : ArchiePeerState)
    (node : ArchieNode) : MethodRun ArchiePeerState ArchieEvent ArchieNode PeerReport :=
  (archiePeer aesEncrypt).event input 3 event state node

def serveArchieAuth (input : ArchieInput) (event : ArchieEvent) (state : ArchieAuthState)
    (node : ArchieNode) : MethodRun ArchieAuthState ArchieEvent ArchieNode AuthReport :=
  (archieAuth aesEncrypt).event input 3 event state node

/-- The key of a machine that has derived none since its start. -/
theorem ArchieNode.deriveKey_eq {node : ArchieNode} (fresh : node.masterKey = [])
    (keyless : node.keyDerivationKey = []) :
    node.deriveKey aesEncrypt true =
      let key := archiePrf aesEncrypt (node.nonceA ++ node.nonceP ++ archieSessionKey)
        ((node.sharedSecret.drop 32).take 32) 32
      { node with
        keyDerivationKey := (node.sharedSecret.drop 32).take 32
        masterKey := key
        keyData := key } := by
  simp [ArchieNode.deriveKey, ArchieNode.deriveMasterKey, ArchieNode.kdk, fresh, keyless]

/-! What the actions that build a message do where they can. -/

@[simp] theorem ArchieNode.length_mac (node : ArchieNode) (octets : EapOctets) :
    (node.mac aesEncrypt octets).length = 12 :=
  length_aesCbcMac96 _ _ _

/-- The Response that a peer builds, without its MAC. -/
def ArchiePeer.responseFields (random : EapOctets) (input : ArchieInput) (node : ArchieNode) :
    EapResponseArchieResponse where
  sessionID := node.sessionID
  peerID := input.identity
  nonceP := firstOctets random 40
  binding := node.binding

theorem ArchiePeer.buildResponse_eq {input : ArchieInput} {node : ArchieNode} {random : EapOctets}
    (isRandom : input.random = some random) (named : input.identity.length ≠ 0) :
    ArchiePeer.buildResponse aesEncrypt input node =
      let fields := ArchiePeer.responseFields random input node
      let history := node.history ++ octetsAt fields.covered 4 848
      { data :=
          { node with
            peerID := input.identity
            nonceP := firstOctets random 40
            history := history }
        reports :=
          [.txMessage (fields.covered ++ node.mac aesEncrypt history), .methodState .cont,
            .validReq] } := by
  have built (mac1 : EapOctets) :
      ({ sessionID := node.sessionID
         peerID := input.identity
         nonceP := firstOctets random 40
         binding := node.binding
         mac1 := mac1 } : EapResponseArchieResponse).parseAppToRaw =
        some ((ArchiePeer.responseFields random input node).covered ++ firstOctets mac1 12) :=
    EapResponseArchieResponse.parseAppToRaw_eq named
  have kept (mac1 : EapOctets) :
      octetsAt ((ArchiePeer.responseFields random input node).covered ++ mac1) 4 848 =
        octetsAt (ArchiePeer.responseFields random input node).covered 4 848 :=
    octetsAt_append_left _ (by simp)
  simp only [ArchiePeer.buildResponse, isRandom, built, kept]
  rw [firstOctets_of_length (ArchieNode.length_mac _ _ _)]
  rfl

/-- The Confirm that an authenticator builds, without its MAC. -/
def ArchieAuth.confirmFields (random : EapOctets) (node : ArchieNode) : EapRequestArchieConfirm where
  sessionID := node.sessionID
  nonceA := firstOctets random 40
  binding := node.binding

theorem ArchieAuth.buildConfirm_eq {input : ArchieInput} {node : ArchieNode} {random : EapOctets}
    (isRandom : input.random = some random) :
    ArchieAuth.buildConfirm aesEncrypt input node =
      let fields := ArchieAuth.confirmFields random node
      let history := node.history ++ octetsAt fields.covered 4 592
      { data := { node with nonceA := firstOctets random 40, history := history }
        reports :=
          [.txMessage (fields.covered ++ node.mac aesEncrypt history), .validResp] } := by
  have built (mac2 : EapOctets) :
      ({ sessionID := node.sessionID
         nonceA := firstOctets random 40
         binding := node.binding
         mac2 := mac2 } : EapRequestArchieConfirm).parseAppToRaw =
        (ArchieAuth.confirmFields random node).covered ++ firstOctets mac2 12 := rfl
  have kept (mac2 : EapOctets) :
      octetsAt ((ArchieAuth.confirmFields random node).covered ++ mac2) 4 592 =
        octetsAt (ArchieAuth.confirmFields random node).covered 4 592 :=
    octetsAt_append_left _ (by simp)
  simp only [ArchieAuth.buildConfirm, isRandom, built, kept]
  rw [firstOctets_of_length (ArchieNode.length_mac _ _ _)]
  rfl

/-- The Finish that a peer builds, without its MAC. -/
def ArchiePeer.finishFields (node : ArchieNode) : EapResponseArchieFinish where
  sessionID := node.sessionID

theorem ArchiePeer.notifySuccess_eq (node : ArchieNode) :
    ArchiePeer.notifySuccess aesEncrypt node =
      let fields := ArchiePeer.finishFields node
      { data := node.deriveKey aesEncrypt true
        reports :=
          [.txMessage (fields.covered ++ node.mac aesEncrypt (octetsAt fields.covered 4 36)),
            .decision .uncondSucc, .methodState .done, .validReq] } := by
  have built (mac3 : EapOctets) :
      ({ sessionID := node.sessionID, mac3 := mac3 } : EapResponseArchieFinish).parseAppToRaw =
        (ArchiePeer.finishFields node).covered ++ firstOctets mac3 12 := rfl
  have kept (mac3 : EapOctets) :
      octetsAt ((ArchiePeer.finishFields node).covered ++ mac3) 4 36 =
        octetsAt (ArchiePeer.finishFields node).covered 4 36 :=
    octetsAt_append_left _ (by simp)
  simp only [ArchiePeer.notifySuccess, built, kept]
  rw [firstOctets_of_length (ArchieNode.length_mac _ _ _)]

end Methods

end OpenDiameter.Eap
