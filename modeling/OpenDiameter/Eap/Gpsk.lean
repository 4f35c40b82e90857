import OpenDiameter.Eap.Aes
import OpenDiameter.Eap.GpskMessages
import OpenDiameter.Eap.MethodMachine

/-!
`eap_gpsk_fsm.hxx` and `eap_gpsk_fsm.cxx`: EAP-GPSK of a peer and of an authenticator. What the
application and the random number generator give is the input of an event.
-/

namespace OpenDiameter.Eap

open OpenDiameter.Foundation OpenDiameter.Framework

structure GpskInput where
  rxMessage : EapOctets := []
  /-- `InputSharedSecret` -/
  sharedSecret : EapOctets
  /-- `InputIdentity` -/
  identity : EapOctets
  /-- What `RAND_bytes` gives, nothing where it fails. -/
  random : Option EapOctets
  validatePeerIdentity : EapOctets → Bool := fun _ => true
  isPeerAuthorized : EapOctets → Bool := fun _ => true

namespace GpskInput

/-- The type data, which the read pointer is at. -/
def raw (input : GpskInput) : EapOctets := input.rxMessage.drop 5

end GpskInput

/-- `EapGpskNodeAttributes`, and the data that the two machines add. -/
structure GpskNode where
  sharedSecret : EapOctets := []
  masterKey : EapOctets := []
  peerID : EapOctets := []
  serverID : EapOctets := []
  peerRAND : EapOctets := []
  serverRAND : EapOctets := []
  cipherSuiteList : EapGpskCipherSuiteList := [{}]
  cipherSuite : EapGpskCipherSuite := {}
  payload : EapOctets := []
  failureCode : UInt32 := 0
  keyData : EapOctets := []
  isDone : Bool := false
  deriving DecidableEq

namespace GpskNode

/-- `Start`, of both machines -/
def start (node : GpskNode) : GpskNode :=
  { node with
    isDone := false
    sharedSecret := []
    masterKey := []
    peerID := []
    serverID := []
    peerRAND := []
    serverRAND := [] }

section Keys

variable (aesEncrypt : AesEncrypt)

/-- The MAC of a message, which is made of what is behind the op-code. -/
def mac (node : GpskNode) (msg : EapOctets) : EapOctets :=
  aesCmac aesEncrypt node.sharedSecret (msg.drop 6)

/-- What `MK` derives from the key size of the suite. -/
def derivedKey (node : GpskNode) (keySize : Nat) : EapOctets :=
  gkdf aesEncrypt (firstOctets node.sharedSecret keySize)
    (writeShort keySize ++ node.sharedSecret ++ node.cipherSuite.octets ++ node.peerRAND ++
      node.peerID ++ node.serverRAND ++ node.serverID)
    16

/-- `KeyData() = MK()`: a key that is there is kept. No machine comes here with a suite that has
no key size. -/
def deriveKey (node : GpskNode) : GpskNode :=
  if node.masterKey.length ≠ 0 then { node with keyData := node.masterKey }
  else
    match node.cipherSuite.keySize with
    | none => node
    | some keySize =>
      { node with
        masterKey := node.derivedKey aesEncrypt keySize
        keyData := node.derivedKey aesEncrypt keySize }

end Keys

end GpskNode

inductive GpskEvent where
  | sgIntegrityCheck
  | sgTunnelProcess
  | sgValid
  | sgFail
  /-- Of the authenticator alone. -/
  | sgProtectedFail
  | sgInvalid
  deriving DecidableEq, Repr

inductive GpskPeerState where
  /-- `StInitialize` -/
  | initializing
  | processGpsk1
  | gpsk2Sent
  | processGpsk3
  | success
  deriving DecidableEq, Repr

inductive GpskPeerAction where
  | doIntegrityCheckForGpsk1Msg
  | buildGpsk2
  | doIntegrityCheckForGpsk3Msg
  | buildGpsk4
  | notifyFailure
  | notifyInvalid
  deriving DecidableEq, Repr

/-- `EapPeerGpskStateTable_S` -/
def gpskPeerTable : StateTable GpskPeerState GpskEvent GpskPeerAction :=
  [⟨.initializing, some .sgIntegrityCheck, .processGpsk1, some .doIntegrityCheckForGpsk1Msg⟩,
    ⟨.initializing, none, .initializing, none⟩,
    ⟨.processGpsk1, some .sgInvalid, .initializing, some .notifyInvalid⟩,
    ⟨.processGpsk1, some .sgValid, .gpsk2Sent, some .buildGpsk2⟩,
    ⟨.gpsk2Sent, some .sgIntegrityCheck, .processGpsk3, some .doIntegrityCheckForGpsk3Msg⟩,
    ⟨.gpsk2Sent, none, .gpsk2Sent, none⟩,
    ⟨.processGpsk3, some .sgInvalid, .gpsk2Sent, some .notifyInvalid⟩,
    ⟨.processGpsk3, some .sgFail, .initializing, some .notifyFailure⟩,
    ⟨.processGpsk3, some .sgValid, .success, some .buildGpsk4⟩,
    ⟨.success, none, .success, none⟩]

inductive GpskAuthState where
  /-- `StInitialize` -/
  | initializing
  | gpsk1Sent
  | processGpsk2
  | gpskFailSent
  | gpsk3Sent
  | processGpsk4
  | success
  deriving DecidableEq, Repr

inductive GpskAuthAction where
  | doIntegrityCheckForGpskFailMsg
  | buildGpskFailMsg
  | buildGpskProtectedFailMsg
  | buildGpsk1
  | doIntegrityCheckForGpsk2Msg
  | buildGpsk3
  | doIntegrityCheckForGpsk4Msg
  | notifySuccess
  | notifyFailure
  | notifyInvalid
  deriving DecidableEq, Repr

/-- `EapAuthGpskStateTable_S`. The entries that are meant for any event, such as
`AddStateTableEntry(StGpsk1Sent, StGpsk1Sent, 0)`, are for the event that has the number of the
state, and lead to the first state; of these numbers two are events. -/
def gpskAuthTable : StateTable GpskAuthState GpskEvent GpskAuthAction :=
  [⟨.initializing, some .sgIntegrityCheck, .gpsk1Sent, some .buildGpsk1⟩,
    ⟨.initializing, some .sgValid, .initializing, none⟩,
    ⟨.gpsk1Sent, some .sgIntegrityCheck, .processGpsk2, some .doIntegrityCheckForGpsk2Msg⟩,
    ⟨.gpsk1Sent, some .sgFail, .initializing, none⟩,
    ⟨.processGpsk2, some .sgInvalid, .gpsk1Sent, some .notifyInvalid⟩,
    ⟨.processGpsk2, some .sgFail, .gpskFailSent, some .buildGpskFailMsg⟩,
    ⟨.processGpsk2, some .sgProtectedFail, .gpskFailSent, some .buildGpskProtectedFailMsg⟩,
    ⟨.processGpsk2, some .sgValid, .gpsk3Sent, some .buildGpsk3⟩,
    ⟨.gpskFailSent, some .sgIntegrityCheck, .initializing, some .doIntegrityCheckForGpskFailMsg⟩,
    ⟨.gpskFailSent, some .sgValid, .initializing, some .notifyFailure⟩,
    ⟨.gpskFailSent, some .sgInvalid, .initializing, some .notifyFailure⟩,
    ⟨.gpsk3Sent, some .sgIntegrityCheck, .processGpsk4, some .doIntegrityCheckForGpsk4Msg⟩,
    ⟨.processGpsk4, some .sgInvalid, .gpsk3Sent, some .notifyInvalid⟩,
    ⟨.processGpsk4, some .sgValid, .success, some .notifySuccess⟩]

section Methods

variable (aesEncrypt : AesEncrypt)

namespace GpskPeer

abbrev Effect := MethodEffect GpskNode GpskEvent PeerReport

/-- `ReplayGpskFail`: the switch has the verdict before the method is told of the failure. -/
def replayGpskFail (fail : EapGpskFail) (node : GpskNode) : Effect :=
  match fail.parseAppToRaw with
  | none => { data := node, raised := some .sgInvalid }
  | some reply =>
    { data := node, reports := [.txMessage reply, .validReq], raised := some .sgFail }

/-- `ReplayGpskProtectedFail` -/
def replayGpskProtectedFail (fail : EapGpskProtectedFail) (node : GpskNode) : Effect :=
  match { fail with mac := [] }.parseAppToRaw with
  | none => { data := node, raised := some .sgInvalid }
  | some reply =>
    let mac2 := node.mac aesEncrypt reply
    if fail.mac ≠ mac2 then { data := node, raised := some .sgInvalid }
    else
      match { fail with mac := mac2 }.parseAppToRaw with
      | none => { data := node, raised := some .sgInvalid }
      | some reply =>
        { data := node, reports := [.txMessage reply, .validReq], raised := some .sgFail }

def doIntegrityCheckForGpsk1Msg (input : GpskInput) (node : GpskNode) : Effect :=
  match EapGpsk1.parseRawToApp input.raw with
  | none => { data := node, raised := some .sgInvalid }
  | some gpsk =>
    { data :=
        { node with
          serverID := gpsk.idServer
          serverRAND := gpsk.randServer
          cipherSuiteList := gpsk.csuiteList }
      raised := some .sgValid }

def buildGpsk2 (input : GpskInput) (node : GpskNode) : Effect :=
  let named := { node with peerID := input.identity }
  match input.random with
  | none => { data := named, raised := some .sgInvalid }
  | some random =>
    let fresh := { named with peerRAND := firstOctets random 32 }
    let gpsk : EapGpsk2 :=
      { idPeer := fresh.peerID
        idServer := fresh.serverID
        randPeer := fresh.peerRAND
        randServer := fresh.serverRAND
        csuiteList := fresh.cipherSuiteList
        csuiteSelected := fresh.cipherSuite }
    match gpsk.parseAppToRaw with
    | none => { data := fresh, raised := some .sgInvalid }
    | some msg =>
      let keyed := { fresh with sharedSecret := input.sharedSecret }
      match { gpsk with mac := keyed.mac aesEncrypt msg }.parseAppToRaw with
      | none => { data := keyed, raised := some .sgInvalid }
      | some msg =>
        { data := keyed, reports := [.txMessage msg, .methodState .cont, .validReq] }

/-- The message may be a failure, which is looked for where the read pointer is left. -/
def doIntegrityCheckForGpsk3Msg (input : GpskInput) (node : GpskNode) : Effect :=
  match EapGpsk3.parseRawToApp input.raw with
  | .error rest =>
    match EapGpskFail.parseRawToApp rest with
    | some fail => replayGpskFail fail node
    | none =>
      match EapGpskProtectedFail.parseRawToApp rest with
      | some fail => replayGpskProtectedFail aesEncrypt fail node
      | none => { data := node, raised := some .sgInvalid }
  | .ok gpsk =>
    if gpsk.randPeer ≠ node.peerRAND then { data := node, raised := some .sgInvalid }
    else if gpsk.randServer ≠ node.serverRAND then { data := node, raised := some .sgInvalid }
    else if node.cipherSuite ≠ gpsk.csuiteSelected then
      { data := node, raised := some .sgInvalid }
    else
      let kept := { node with payload := gpsk.pdPayload }
      match { gpsk with mac := [] }.parseAppToRaw with
      | none => { data := kept, raised := some .sgInvalid }
      | some msg =>
        if gpsk.mac ≠ kept.mac aesEncrypt msg then { data := kept, raised := some .sgInvalid }
        else { data := kept, raised := some .sgValid }

def buildGpsk4 (node : GpskNode) : Effect :=
  match ({} : EapGpsk4).parseAppToRaw with
  | none => { data := node, raised := some .sgInvalid }
  | some msg =>
    match ({ mac := node.mac aesEncrypt msg } : EapGpsk4).parseAppToRaw with
    | none => { data := node, raised := some .sgInvalid }
    | some msg =>
      { data := node.deriveKey aesEncrypt
        reports :=
          [.txMessage msg, .decision .uncondSucc, .methodState .done, .validReq] }

def perform (action : GpskPeerAction) (input : GpskInput) (node : GpskNode) : Effect :=
  match action with
  | .doIntegrityCheckForGpsk1Msg => doIntegrityCheckForGpsk1Msg input node
  | .buildGpsk2 => buildGpsk2 aesEncrypt input node
  | .doIntegrityCheckForGpsk3Msg => doIntegrityCheckForGpsk3Msg aesEncrypt input node
  | .buildGpsk4 => buildGpsk4 aesEncrypt node
  | .notifyFailure => { data := node, reports := [.methodState .done, .decision .fail] }
  | .notifyInvalid => { data := node, reports := [.invalidReq] }

end GpskPeer

namespace GpskAuth

abbrev Effect := MethodEffect GpskNode GpskEvent AuthReport

/-- `EAP_GPSK_FAILURE_AUTHENTICATION_FAILURE` -/
def authenticationFailure : UInt32 := 2

/-- `EAP_GPSK_FAILURE_AUTHORIZATION_FAILURE` -/
def authorizationFailure : UInt32 := 3

/-- The MAC of a GPSK-Protected-Fail is not looked at. -/
def doIntegrityCheckForGpskFailMsg (input : GpskInput) (node : GpskNode) : Effect :=
  if (EapGpskFail.parseRawToApp input.raw).isNone ∧
      (EapGpskProtectedFail.parseRawToApp input.raw).isNone then
    { data := node, raised := some .sgInvalid }
  else
    { data := { node with isDone := true }
      reports := [.policyUpdate .policyOnFailure, .validResp, .methodEnd] }

def buildGpskFailMsg (node : GpskNode) : Effect :=
  match ({ failureCode := node.failureCode } : EapGpskFail).parseAppToRaw with
  | none => { data := node, raised := some .sgInvalid }
  | some msg => { data := node, reports := [.txMessage msg, .validResp] }

def buildGpskProtectedFailMsg (node : GpskNode) : Effect :=
  let fail : EapGpskProtectedFail := { failureCode := node.failureCode }
  match fail.parseAppToRaw with
  | none => { data := node, raised := some .sgInvalid }
  | some msg =>
    match { fail with mac := node.mac aesEncrypt msg }.parseAppToRaw with
    | none => { data := node, raised := some .sgInvalid }
    | some msg => { data := node, reports := [.txMessage msg, .validResp] }

/-- `AcBuildGpsk1`: where there are no random numbers, nothing is raised at all. -/
def buildGpsk1 (input : GpskInput) (node : GpskNode) : Effect :=
  match input.random with
  | none => { data := node }
  | some random =>
    let fresh :=
      { node with
        serverRAND := firstOctets random 32
        sharedSecret := input.sharedSecret
        serverID := input.identity }
    let gpsk : EapGpsk1 :=
      { idServer := fresh.serverID
        randServer := fresh.serverRAND
        csuiteList := fresh.cipherSuiteList }
    match gpsk.parseAppToRaw with
    | none => { data := fresh, raised := some .sgInvalid }
    | some msg => { data := fresh, reports := [.txMessage msg, .validResp] }

def doIntegrityCheckForGpsk2Msg (input : GpskInput) (node : GpskNode) : Effect :=
  match EapGpsk2.parseRawToApp input.raw with
  | none => { data := node, raised := some .sgInvalid }
  | some gpsk =>
    if gpsk.randServer ≠ node.serverRAND then { data := node, raised := some .sgInvalid }
    else if gpsk.csuiteList ≠ node.cipherSuiteList then
      { data := node, raised := some .sgInvalid }
    else if gpsk.csuiteSelected ∉ node.cipherSuiteList then
      { data := node, raised := some .sgInvalid }
    else if input.validatePeerIdentity gpsk.idPeer = false then
      { data := { node with failureCode := authenticationFailure }, raised := some .sgFail }
    else
      let saved :=
        { node with
          peerID := gpsk.idPeer
          peerRAND := gpsk.randPeer
          cipherSuite := gpsk.csuiteSelected
          payload := gpsk.pdPayload }
      match { gpsk with mac := [] }.parseAppToRaw with
      | none => { data := saved, raised := some .sgInvalid }
      | some msg =>
        if gpsk.mac ≠ saved.mac aesEncrypt msg then { data := saved, raised := some .sgFail }
        else if input.isPeerAuthorized gpsk.idPeer = false then
          { data := { saved with failureCode := authorizationFailure }
            raised := some .sgProtectedFail }
        else { data := saved, raised := some .sgValid }

def buildGpsk3 (node : GpskNode) : Effect :=
  let gpsk : EapGpsk3 :=
    { idServer := node.serverID
      randPeer := node.peerRAND
      randServer := node.serverRAND
      csuiteSelected := node.cipherSuite }
  match gpsk.parseAppToRaw with
  | none => { data := node, raised := some .sgInvalid }
  | some msg =>
    match { gpsk with mac := node.mac aesEncrypt msg }.parseAppToRaw with
    | none => { data := node, raised := some .sgInvalid }
    | some msg => { data := node, reports := [.txMessage msg, .validResp] }

def doIntegrityCheckForGpsk4Msg (input : GpskInput) (node : GpskNode) : Effect :=
  match EapGpsk4.parseRawToApp input.raw with
  | none => { data := node, raised := some .sgInvalid }
  | some gpsk =>
    match { gpsk with mac := [] }.parseAppToRaw with
    | none => { data := node, raised := some .sgInvalid }
    | some msg =>
      if gpsk.mac ≠ node.mac aesEncrypt msg then { data := node, raised := some .sgInvalid }
      else { data := node, raised := some .sgValid }

def notifySuccess (node : GpskNode) : Effect :=
  { data := { node with isDone := true }.deriveKey aesEncrypt
    reports := [.policyUpdate .policyOnSuccess, .validResp] }

def notifyFailure (node : GpskNode) : Effect :=
  { data := { node with isDone := true }
    reports := [.policyUpdate .policyOnFailure, .validResp] }

def perform (action : GpskAuthAction) (input : GpskInput) (node : GpskNode) : Effect :=
  match action with
  | .doIntegrityCheckForGpskFailMsg => doIntegrityCheckForGpskFailMsg input node
  | .buildGpskFailMsg => buildGpskFailMsg node
  | .buildGpskProtectedFailMsg => buildGpskProtectedFailMsg aesEncrypt node
  | .buildGpsk1 => buildGpsk1 input node
  | .doIntegrityCheckForGpsk2Msg => doIntegrityCheckForGpsk2Msg aesEncrypt input node
  | .buildGpsk3 => buildGpsk3 aesEncrypt node
  | .doIntegrityCheckForGpsk4Msg => doIntegrityCheckForGpsk4Msg aesEncrypt input node
  | .notifySuccess => notifySuccess aesEncrypt node
  | .notifyFailure => notifyFailure node
  | .notifyInvalid => { data := node, reports := [.invalidResp] }

end GpskAuth

/-- `EapPeerGpskStateMachine` -/
def gpskPeer : MethodMachine GpskPeerState GpskEvent GpskPeerAction GpskNode GpskInput
    PeerReport where
  table := gpskPeerTable
  initialState := .initializing
  perform := GpskPeer.perform aesEncrypt

/-- `EapAuthGpskStateMachine` -/
def gpskAuth : MethodMachine GpskAuthState GpskEvent GpskAuthAction GpskNode GpskInput
    AuthReport where
  table := gpskAuthTable
  initialState := .initializing
  perform := GpskAuth.perform aesEncrypt

/-- The event and those that it raises: at most three are open at a time. -/
def serveGpskPeer (input : GpskInput) (event : GpskEvent) (state : GpskPeerState)
    (node : GpskNode) : MethodRun GpskPeerState GpskEvent GpskNode PeerReport :=
  (gpskPeer aesEncrypt).event input 3 event state node

def serveGpskAuth (input : GpskInput) (event : GpskEvent) (state : GpskAuthState)
    (node : GpskNode) : MethodRun GpskAuthState GpskEvent GpskNode AuthReport :=
  (gpskAuth aesEncrypt).event input 3 event state node

end Methods

end OpenDiameter.Eap
