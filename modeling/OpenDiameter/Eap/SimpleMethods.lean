import OpenDiameter.Eap.Md5
import OpenDiameter.Eap.MethodMachine

/-!
`eap_identity.cxx` and `eap_md5.cxx`: Identity and MD5-Challenge, event by event. There is no
Identity method of a peer, whose switch answers itself.
-/

namespace OpenDiameter.Eap

open OpenDiameter.Foundation OpenDiameter.Framework

/-! Identity -/

structure IdentityInput where
  rxMessage : EapOctets := []
  /-- `IsEapBackend` -/
  isEapBackend : Bool
  /-- `NeedInitialRequestToSend` -/
  needInitialRequestToSend : Bool
  /-- `UTF8Checker`, without the check for a null character. -/
  utf8 : EapOctets → Bool
  processIdentity : EapOctets → Bool

structure IdentityNode where
  nTrial : UInt32 := 0
  isDone : Bool := false
  deriving DecidableEq

inductive IdentityEvent where
  | sgIntegrityCheck
  | sgTunnelProcess
  | sgSuccess
  | sgFailureMoreTrial
  | sgFailureNoMoreTrial
  | sgPickUpInit
  | sgNoPickUpInit
  deriving DecidableEq, Repr

inductive IdentityState where
  /-- `StInitialize` -/
  | initializing
  | checkPickUpInit
  | waitResponse
  | processResponse
  | success
  | failure
  deriving DecidableEq, Repr

inductive IdentityAction where
  | checkPickUpInit
  | doIntegrityCheck
  | notifySuccess
  | notifyFailure
  | prepareRequest
  deriving DecidableEq, Repr

/-- `EapAuthIdentityStateTable_S` -/
def identityTable : StateTable IdentityState IdentityEvent IdentityAction :=
  [⟨.initializing, some .sgIntegrityCheck, .checkPickUpInit, some .checkPickUpInit⟩,
    ⟨.checkPickUpInit, some .sgPickUpInit, .processResponse, some .doIntegrityCheck⟩,
    ⟨.checkPickUpInit, some .sgNoPickUpInit, .waitResponse, some .prepareRequest⟩,
    ⟨.waitResponse, some .sgIntegrityCheck, .processResponse, some .doIntegrityCheck⟩,
    ⟨.processResponse, some .sgSuccess, .success, some .notifySuccess⟩,
    ⟨.processResponse, some .sgFailureMoreTrial, .waitResponse, some .prepareRequest⟩,
    ⟨.processResponse, some .sgFailureNoMoreTrial, .failure, some .notifyFailure⟩,
    ⟨.success, none, .success, none⟩,
    ⟨.failure, none, .failure, none⟩]

namespace IdentityAuth

abbrev Effect := MethodEffect IdentityNode IdentityEvent AuthReport

/-- `maxTrial` -/
def maxTrial : UInt32 := 3

/-- `EapAuthIdentityStateMachine::Start`, which keeps the number of trials. -/
def start (node : IdentityNode) : IdentityNode := node

/-- A trial that failed. -/
def countTrial (reports : List AuthReport) (node : IdentityNode) : Effect :=
  { data := { node with nTrial := node.nTrial + 1 }
    reports := reports
    raised :=
      if node.nTrial < maxTrial then some .sgFailureMoreTrial else some .sgFailureNoMoreTrial }

def doIntegrityCheck (input : IdentityInput) (node : IdentityNode) : Effect :=
  let identity := input.rxMessage.drop 5
  if input.utf8 identity = false then countTrial [] node
  else if input.processIdentity identity then
    { data := node, reports := [.peerIdentity identity], raised := some .sgSuccess }
  else countTrial [.peerIdentity identity] node

def perform (action : IdentityAction) (input : IdentityInput) (node : IdentityNode) : Effect :=
  match action with
  | .checkPickUpInit =>
    { data := node
      raised :=
        if input.isEapBackend ∧ ¬input.needInitialRequestToSend then some .sgPickUpInit
        else some .sgNoPickUpInit }
  | .doIntegrityCheck => doIntegrityCheck input node
  | .notifySuccess =>
    { data := { node with isDone := true }
      reports := [.policyUpdate .policyOnSuccess, .validResp] }
  | .notifyFailure =>
    { data := { node with isDone := true }
      reports := [.policyUpdate .policyOnFailure, .invalidResp] }
  | .prepareRequest => { data := node, reports := [.txMessage (writeType .identity), .validResp] }

end IdentityAuth

/-- `EapAuthIdentityStateMachine` -/
def identityAuth : MethodMachine IdentityState IdentityEvent IdentityAction IdentityNode
    IdentityInput AuthReport where
  table := identityTable
  initialState := .initializing
  perform := IdentityAuth.perform

/-! MD5-Challenge -/

structure Md5Input where
  rxMessage : EapOctets := []
  /-- `CurrentIdentifier` -/
  identifier : UInt8
  /-- What `InputPassphrase` leaves. -/
  passphrase : EapOctets
  /-- What `RAND_bytes` gives, nothing where it fails. -/
  random : Option EapOctets

structure Md5Node where
  value : EapOctets := []
  myName : EapOctets := []
  peerName : EapOctets := []
  isDone : Bool := false
  deriving DecidableEq

inductive Md5Event where
  | sgIntegrityCheck
  | sgTunnelProcess
  /-- `EvSgAccept` of a peer, `EvSgSuccess` of an authenticator. -/
  | sgAccept
  /-- `EvSgReject` of a peer, `EvSgFailure` of an authenticator. -/
  | sgReject
  deriving DecidableEq, Repr

inductive Md5Action where
  | doIntegrityCheck
  | notifySuccess
  /-- `AcNotifyInvalid` of a peer, `AcNotifyFailure` of an authenticator. -/
  | notifyInvalid
  /-- Of an authenticator. -/
  | prepareRequest
  deriving DecidableEq, Repr

inductive Md5State where
  /-- `StInitialize` -/
  | initializing
  /-- Of an authenticator. -/
  | waitResponse
  /-- `StProcessRequest` of a peer, `StProcessResponse` of an authenticator. -/
  | process
  | success
  /-- Of an authenticator. -/
  | failure
  deriving DecidableEq, Repr

/-- `EapPeerMD5ChallengeStateTable_S` -/
def md5PeerTable : StateTable Md5State Md5Event Md5Action :=
  [⟨.initializing, some .sgIntegrityCheck, .process, some .doIntegrityCheck⟩,
    ⟨.process, some .sgReject, .initializing, some .notifyInvalid⟩,
    ⟨.process, some .sgAccept, .success, some .notifySuccess⟩,
    ⟨.success, none, .success, none⟩]

/-- `EapAuthMD5ChallengeStateTable_S` -/
def md5AuthTable : StateTable Md5State Md5Event Md5Action :=
  [⟨.initializing, some .sgIntegrityCheck, .waitResponse, some .prepareRequest⟩,
    ⟨.waitResponse, some .sgIntegrityCheck, .process, some .doIntegrityCheck⟩,
    ⟨.process, some .sgAccept, .success, some .notifySuccess⟩,
    ⟨.process, some .sgReject, .failure, some .notifyInvalid⟩,
    ⟨.success, none, .success, none⟩,
    ⟨.failure, none, .failure, none⟩]

section Md5

variable (md5 : EapOctets → EapOctets)

/-- The digest of what is concatenated, of `MD5_DIGEST_LENGTH` octets. -/
def md5Digest (input : Md5Input) (challenge : EapOctets) : EapOctets :=
  firstOctets (md5 ([input.identifier] ++ input.passphrase ++ challenge)) 16

namespace Md5Peer

abbrev Effect := MethodEffect Md5Node Md5Event PeerReport

def start (node : Md5Node) : Md5Node := { node with isDone := false }

def doIntegrityCheck (input : Md5Input) (node : Md5Node) : Effect :=
  match EapMD5Challenge.parseRawToApp (input.rxMessage.drop 5) with
  | none => { data := node, raised := some .sgReject }
  | some challenge =>
    if input.passphrase.isEmpty then { data := node, raised := some .sgReject }
    else
      { data :=
          { node with peerName := challenge.name, value := md5Digest md5 input challenge.value }
        raised := some .sgAccept }

/-- The response is never empty, for which `parseAppToRaw` would throw. -/
def notifySuccess (node : Md5Node) : Effect :=
  { data := { node with isDone := true }
    reports := [.txMessage (writeMd5 node.value node.myName), .decision .uncondSucc, .validReq] }

def perform (action : Md5Action) (input : Md5Input) (node : Md5Node) : Effect :=
  match action with
  | .doIntegrityCheck => doIntegrityCheck md5 input node
  | .notifySuccess => notifySuccess node
  | .notifyInvalid => { data := { node with isDone := true }, reports := [.invalidReq] }
  | .prepareRequest => { data := node }

end Md5Peer

namespace Md5Auth

abbrev Effect := MethodEffect Md5Node Md5Event AuthReport

def start (node : Md5Node) : Md5Node := node

def doIntegrityCheck (input : Md5Input) (node : Md5Node) : Effect :=
  match EapMD5Challenge.parseRawToApp (input.rxMessage.drop 5) with
  | none => { data := node, raised := some .sgReject }
  | some response =>
    let named := { node with peerName := response.name }
    if input.passphrase.isEmpty then { data := named, raised := some .sgReject }
    else if md5Digest md5 input node.value = response.value then
      { data := named, raised := some .sgAccept }
    else { data := named, raised := some .sgReject }

/-- `AcPrepareRequest`: where there are no random numbers, nothing is raised at all. -/
def prepareRequest (input : Md5Input) (node : Md5Node) : Effect :=
  match input.random with
  | none => { data := node }
  | some random =>
    let challenge := firstOctets random 16
    { data := { node with value := challenge }
      reports := [.txMessage (writeMd5 challenge node.myName), .validResp] }

def perform (action : Md5Action) (input : Md5Input) (node : Md5Node) : Effect :=
  match action with
  | .doIntegrityCheck => doIntegrityCheck md5 input node
  | .notifySuccess =>
    { data := { node with isDone := true }
      reports := [.policyUpdate .policyOnSuccess, .validResp] }
  | .notifyInvalid =>
    { data := { node with isDone := true }
      reports := [.policyUpdate .policyOnFailure, .validResp] }
  | .prepareRequest => prepareRequest input node

end Md5Auth

/-- `EapPeerMD5ChallengeStateMachine` -/
def md5ChallengePeer : MethodMachine Md5State Md5Event Md5Action Md5Node Md5Input PeerReport where
  table := md5PeerTable
  initialState := .initializing
  perform := Md5Peer.perform md5

/-- `EapAuthMD5ChallengeStateMachine` -/
def md5ChallengeAuth : MethodMachine Md5State Md5Event Md5Action Md5Node Md5Input AuthReport where
  table := md5AuthTable
  initialState := .initializing
  perform := Md5Auth.perform md5

end Md5

end OpenDiameter.Eap
