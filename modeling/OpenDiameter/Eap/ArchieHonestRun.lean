import OpenDiameter.Eap.Archie

/-!
A conversation of EAP-Archie whose four messages arrive as they were sent, but for the header,
which the switches write.
-/

namespace OpenDiameter.Eap

open OpenDiameter.Foundation OpenDiameter.Framework

/-- What the applications and the random number generators of both sides give. -/
structure ArchieSetting where
  sharedSecret : EapOctets
  secretLength : sharedSecret.length = 64
  authID : EapOctets
  authIDFits : FitsBlock authID
  peerID : EapOctets
  peerIDFits : FitsBlock peerID
  randomSessionID : EapOctets
  randomP : EapOctets
  randomA : EapOctets
  /-- The peer before the start, with its binding. -/
  peer : ArchieNode
  bindingFits : peer.binding.Fits
  auth : ArchieNode
  requestHeader : EapHeader
  responseHeader : EapHeader
  confirmHeader : EapHeader
  finishHeader : EapHeader

namespace ArchieSetting

variable (aesEncrypt : AesEncrypt) (setting : ArchieSetting)

/-- What the authenticator is given with a message. -/
def authInput (rxMessage : EapOctets) (random : Option EapOctets) : ArchieInput where
  rxMessage := rxMessage
  sharedSecret := setting.sharedSecret
  identity := setting.authID
  random := random

def peerInput (rxMessage : EapOctets) (random : Option EapOctets) : ArchieInput where
  rxMessage := rxMessage
  sharedSecret := setting.sharedSecret
  identity := setting.peerID
  random := random

/-- The authenticator starts. -/
def requested : MethodRun ArchieAuthState ArchieEvent ArchieNode AuthReport :=
  serveArchieAuth aesEncrypt (setting.authInput [] (some setting.randomSessionID))
    .sgIntegrityCheck .initializing (ArchieAuth.start setting.auth)

def requestMsg : EapOctets :=
  writeHeader setting.requestHeader (AuthReport.transmitted (setting.requested aesEncrypt).reports)

/-- The peer has the Request. -/
def answered : MethodRun ArchiePeerState ArchieEvent ArchieNode PeerReport :=
  serveArchiePeer aesEncrypt
    (setting.peerInput (setting.requestMsg aesEncrypt) (some setting.randomP))
    .sgIntegrityCheck .initializing (ArchiePeer.start setting.peer)

def responseMsg : EapOctets :=
  writeHeader setting.responseHeader
    (PeerReport.transmitted (setting.answered aesEncrypt).reports)

/-- The authenticator has the Response. -/
def confirmed : MethodRun ArchieAuthState ArchieEvent ArchieNode AuthReport :=
  serveArchieAuth aesEncrypt
    (setting.authInput (setting.responseMsg aesEncrypt) (some setting.randomA))
    .sgIntegrityCheck (setting.requested aesEncrypt).state (setting.requested aesEncrypt).data

def confirmMsg : EapOctets :=
  writeHeader setting.confirmHeader (AuthReport.transmitted (setting.confirmed aesEncrypt).reports)

/-- The peer has the Confirm. -/
def finished : MethodRun ArchiePeerState ArchieEvent ArchieNode PeerReport :=
  serveArchiePeer aesEncrypt (setting.peerInput (setting.confirmMsg aesEncrypt) none)
    .sgIntegrityCheck (setting.answered aesEncrypt).state (setting.answered aesEncrypt).data

def finishMsg : EapOctets :=
  writeHeader setting.finishHeader (PeerReport.transmitted (setting.finished aesEncrypt).reports)

/-- The authenticator has the Finish. -/
def accepted : MethodRun ArchieAuthState ArchieEvent ArchieNode AuthReport :=
  serveArchieAuth aesEncrypt (setting.authInput (setting.finishMsg aesEncrypt) none)
    .sgIntegrityCheck (setting.confirmed aesEncrypt).state (setting.confirmed aesEncrypt).data

/-! The fields that the messages are built from. -/

def sessionID : EapOctets := firstOctets setting.randomSessionID 32

def nonceP : EapOctets := firstOctets setting.randomP 40

def nonceA : EapOctets := firstOctets setting.randomA 40

def request : EapRequestArchieRequest where
  authID := setting.authID
  sessionID := setting.sessionID

/-- What a MAC of this conversation is made with. -/
def mac (octets : EapOctets) : EapOctets :=
  aesCbcMac96 aesEncrypt octets (firstOctets setting.sharedSecret 16)

/-- The octets of the Request that are kept, which the session id is not among. -/
def requestHistory : EapOctets :=
  archieHead 1 (lengthOctet setting.authID) ++
    copyWithPadding setting.authID (lengthOctet setting.authID) 256

/-- The Response without its MAC. -/
def responseFields : EapResponseArchieResponse where
  sessionID := setting.sessionID
  peerID := setting.peerID
  nonceP := setting.nonceP
  binding := setting.peer.binding

def responseHistory : EapOctets :=
  octetsAt setting.requestHistory 4 260 ++ octetsAt setting.responseFields.covered 4 848

def response : EapResponseArchieResponse :=
  { setting.responseFields with mac1 := setting.mac aesEncrypt setting.responseHistory }

def confirmFields : EapRequestArchieConfirm where
  sessionID := setting.sessionID
  nonceA := setting.nonceA
  binding := setting.peer.binding

def confirmHistory : EapOctets :=
  setting.responseHistory ++ octetsAt setting.confirmFields.covered 4 592

def confirm : EapRequestArchieConfirm :=
  { setting.confirmFields with mac2 := setting.mac aesEncrypt setting.confirmHistory }

def finishFields : EapResponseArchieFinish where
  sessionID := setting.sessionID

def finish : EapResponseArchieFinish :=
  { setting.finishFields with
    mac3 := setting.mac aesEncrypt (octetsAt setting.finishFields.covered 4 36) }

def masterKey : EapOctets :=
  archiePrf aesEncrypt (setting.nonceA ++ setting.nonceP ++ archieSessionKey)
    ((setting.sharedSecret.drop 32).take 32) 32

@[simp] theorem length_sessionID : setting.sessionID.length = 32 := length_firstOctets _ _

@[simp] theorem length_nonceP : setting.nonceP.length = 40 := length_firstOctets _ _

@[simp] theorem length_nonceA : setting.nonceA.length = 40 := length_firstOctets _ _

@[simp] theorem length_requestHistory : setting.requestHistory.length = 264 := by
  simp [requestHistory]

theorem covered_withMac1 (mac1 : EapOctets) :
    ({ setting.responseFields with mac1 := mac1 } : EapResponseArchieResponse).covered =
      setting.responseFields.covered := rfl

theorem request_parseAppToRaw :
    setting.request.parseAppToRaw = some (setting.requestHistory ++ setting.sessionID) := by
  have named : setting.authID.length ≠ 0 := Nat.ne_of_gt setting.authIDFits.nonempty
  rw [EapRequestArchieRequest.parseAppToRaw, request, if_neg named,
    firstOctets_of_length setting.length_sessionID, requestHistory]

theorem response_parseAppToRaw (mac1 : EapOctets) (isMac : mac1.length = 12) :
    ({ setting.responseFields with mac1 := mac1 } : EapResponseArchieResponse).parseAppToRaw =
      some (setting.responseFields.covered ++ mac1) := by
  have named : setting.peerID.length ≠ 0 := Nat.ne_of_gt setting.peerIDFits.nonempty
  rw [EapResponseArchieResponse.parseAppToRaw_eq named, firstOctets_of_length isMac,
    covered_withMac1]

/-! The data of both sides after each check and each message. -/

def requestedNode : ArchieNode :=
  { ArchieAuth.start setting.auth with
    sessionID := setting.sessionID
    authID := setting.authID
    history := octetsAt setting.requestHistory 4 260 }

def askedNode : ArchieNode :=
  { ArchiePeer.start setting.peer with
    sharedSecret := setting.sharedSecret
    sessionID := setting.sessionID
    authID := setting.authID
    history := octetsAt setting.requestHistory 4 260 }

def answeredNode : ArchieNode :=
  { setting.askedNode with
    peerID := setting.peerID
    nonceP := setting.nonceP
    history := setting.responseHistory }

def heardNode : ArchieNode :=
  { setting.requestedNode with
    sharedSecret := setting.sharedSecret
    sessionID := setting.sessionID
    peerID := setting.peerID
    nonceP := setting.nonceP
    binding := setting.peer.binding
    history := setting.responseHistory }

def confirmedNode : ArchieNode :=
  { setting.heardNode with nonceA := setting.nonceA, history := setting.confirmHistory }

def agreedNode : ArchieNode :=
  { setting.answeredNode with
    nonceA := setting.nonceA
    binding := setting.peer.binding
    history := setting.confirmHistory }

theorem requested_eq :
    setting.requested aesEncrypt =
      { state := .requestSent
        data := setting.requestedNode
        reports := [.txMessage (setting.requestHistory ++ setting.sessionID), .validResp] } := by
  have built : ({ authID := setting.authID, sessionID := firstOctets setting.randomSessionID 32 } :
      EapRequestArchieRequest).parseAppToRaw =
        some (setting.requestHistory ++ setting.sessionID) := setting.request_parseAppToRaw
  have kept : octetsAt (setting.requestHistory ++ setting.sessionID) 4 260 =
      octetsAt setting.requestHistory 4 260 := octetsAt_append_left _ (by simp)
  have found : (archieAuth aesEncrypt).table.find .initializing .sgIntegrityCheck =
      some ⟨.initializing, some .sgIntegrityCheck, .requestSent, some .buildRequest⟩ := rfl
  have does : (archieAuth aesEncrypt).act (some .buildRequest)
      (setting.authInput [] (some setting.randomSessionID)) (ArchieAuth.start setting.auth) =
      { data := setting.requestedNode
        reports := [.txMessage (setting.requestHistory ++ setting.sessionID), .validResp] } := by
    simp only [MethodMachine.act, archieAuth, ArchieAuth.perform, ArchieAuth.buildRequest,
      authInput, built, kept]
    rfl
  exact MethodMachine.event_ends found does rfl

theorem requestMsg_eq :
    setting.requestMsg aesEncrypt =
      writeHeader setting.requestHeader (setting.requestHistory ++ setting.sessionID) := by
  rw [requestMsg, requested_eq]
  rfl

theorem parse_requestMsg :
    EapRequestArchieRequest.parseRawToApp (setting.requestMsg aesEncrypt) =
      some setting.request := by
  rw [requestMsg_eq, EapRequestArchieRequest.parse_writeHeader]
  have roundTrip := @EapRequestArchieRequest.parse_write setting.request
    setting.authIDFits setting.length_sessionID
  rwa [request_parseAppToRaw, Option.bind_some] at roundTrip

/-- The peer keeps the octets of the Request that the authenticator keeps. -/
theorem octetsAt_requestMsg :
    octetsAt (setting.requestMsg aesEncrypt) 4 260 = octetsAt setting.requestHistory 4 260 := by
  rw [requestMsg_eq, octetsAt_writeHeader _ _ (by decide)]
  exact octetsAt_append_left _ (by simp)

theorem answered_eq :
    setting.answered aesEncrypt =
      { state := .responseSent
        data := setting.answeredNode
        reports :=
          [.txMessage (setting.responseFields.covered ++ (setting.response aesEncrypt).mac1),
            .methodState .cont, .validReq] } := by
  have found : (archiePeer aesEncrypt).table.find .initializing .sgIntegrityCheck =
      some ⟨.initializing, some .sgIntegrityCheck, .processRequest,
        some .doIntegrityCheckForRequestMsg⟩ := rfl
  let input := setting.peerInput (setting.requestMsg aesEncrypt) (some setting.randomP)
  have does : (archiePeer aesEncrypt).act (some .doIntegrityCheckForRequestMsg) input
      (ArchiePeer.start setting.peer) =
      { data := setting.askedNode, raised := some .sgValid } := by
    have secret : ¬setting.sharedSecret.length ≠ 64 := fun other => other setting.secretLength
    simp only [input, MethodMachine.act, archiePeer, ArchiePeer.perform, peerInput,
      ArchiePeer.doIntegrityCheckForRequestMsg, parse_requestMsg, if_neg secret,
      octetsAt_requestMsg]
    rfl
  have foundNext : (archiePeer aesEncrypt).table.find .processRequest .sgValid =
      some ⟨.processRequest, some .sgValid, .responseSent, some .buildResponse⟩ := rfl
  have named : input.identity.length ≠ 0 := Nat.ne_of_gt setting.peerIDFits.nonempty
  have doesNext := @ArchiePeer.buildResponse_eq aesEncrypt input setting.askedNode setting.randomP
    rfl named
  exact MethodMachine.event_checked found does foundNext doesNext

theorem responseMsg_eq :
    setting.responseMsg aesEncrypt =
      writeHeader setting.responseHeader
        (setting.responseFields.covered ++ (setting.response aesEncrypt).mac1) := by
  rw [responseMsg, answered_eq]
  rfl

theorem length_mac (octets : EapOctets) : (setting.mac aesEncrypt octets).length = 12 :=
  length_aesCbcMac96 _ _ _

theorem parse_responseMsg :
    EapResponseArchieResponse.parseRawToApp (setting.responseMsg aesEncrypt) =
      some (setting.response aesEncrypt) := by
  rw [responseMsg_eq, EapResponseArchieResponse.parse_writeHeader]
  exact @EapResponseArchieResponse.parse_write (setting.response aesEncrypt)
    setting.peerIDFits setting.bindingFits setting.length_sessionID setting.length_nonceP
    (setting.length_mac _ _)

theorem octetsAt_responseMsg :
    octetsAt (setting.responseMsg aesEncrypt) 4 848 =
      octetsAt setting.responseFields.covered 4 848 := by
  rw [responseMsg_eq, octetsAt_writeHeader _ _ (by decide)]
  exact octetsAt_append_left _ (by simp)

theorem confirmed_eq :
    setting.confirmed aesEncrypt =
      { state := .confirmSent
        data := setting.confirmedNode
        reports :=
          [.txMessage (setting.confirmFields.covered ++ (setting.confirm aesEncrypt).mac2),
            .validResp] } := by
  have found : (archieAuth aesEncrypt).table.find .requestSent .sgIntegrityCheck =
      some ⟨.requestSent, some .sgIntegrityCheck, .processResponse,
        some .doIntegrityCheckForResponseMsg⟩ := rfl
  let input := setting.authInput (setting.responseMsg aesEncrypt) (some setting.randomA)
  have does : (archieAuth aesEncrypt).act (some .doIntegrityCheckForResponseMsg) input
      setting.requestedNode = { data := setting.heardNode, raised := some .sgValid } := by
    have secret : ¬setting.sharedSecret.length ≠ 64 := fun other => other setting.secretLength
    have checks : ¬(setting.mac aesEncrypt setting.responseHistory ≠
        (setting.response aesEncrypt).mac1) := fun other => other rfl
    simp only [input, MethodMachine.act, archieAuth, ArchieAuth.perform, authInput,
      ArchieAuth.doIntegrityCheckForResponseMsg, parse_responseMsg, octetsAt_responseMsg,
      if_neg secret]
    exact if_neg checks
  have foundNext : (archieAuth aesEncrypt).table.find .processResponse .sgValid =
      some ⟨.processResponse, some .sgValid, .confirmSent, some .buildConfirm⟩ := rfl
  have doesNext := @ArchieAuth.buildConfirm_eq aesEncrypt input setting.heardNode setting.randomA
    rfl
  rw [confirmed, requested_eq]
  exact MethodMachine.event_checked found does foundNext doesNext

theorem confirmMsg_eq :
    setting.confirmMsg aesEncrypt =
      writeHeader setting.confirmHeader
        (setting.confirmFields.covered ++ (setting.confirm aesEncrypt).mac2) := by
  rw [confirmMsg, confirmed_eq]
  rfl

theorem parse_confirmMsg :
    EapRequestArchieConfirm.parseRawToApp (setting.confirmMsg aesEncrypt) =
      some (setting.confirm aesEncrypt) := by
  rw [confirmMsg_eq, EapRequestArchieConfirm.parse_writeHeader]
  exact @EapRequestArchieConfirm.parse_write (setting.confirm aesEncrypt)
    setting.bindingFits setting.length_sessionID setting.length_nonceA (setting.length_mac _ _)

theorem octetsAt_confirmMsg :
    octetsAt (setting.confirmMsg aesEncrypt) 4 592 =
      octetsAt setting.confirmFields.covered 4 592 := by
  rw [confirmMsg_eq, octetsAt_writeHeader _ _ (by decide)]
  exact octetsAt_append_left _ (by simp)

theorem finished_eq :
    setting.finished aesEncrypt =
      { state := .success
        data := setting.agreedNode.deriveKey aesEncrypt true
        reports :=
          [.txMessage (setting.finishFields.covered ++ (setting.finish aesEncrypt).mac3),
            .decision .uncondSucc, .methodState .done, .validReq] } := by
  have found : (archiePeer aesEncrypt).table.find .responseSent .sgIntegrityCheck =
      some ⟨.responseSent, some .sgIntegrityCheck, .processConfirm,
        some .doIntegrityCheckForConfirmMsg⟩ := rfl
  let input := setting.peerInput (setting.confirmMsg aesEncrypt) none
  have does : (archiePeer aesEncrypt).act (some .doIntegrityCheckForConfirmMsg) input
      setting.answeredNode = { data := setting.agreedNode, raised := some .sgValid } := by
    have sameSession : ¬((setting.confirm aesEncrypt).sessionID ≠ setting.answeredNode.sessionID) :=
      fun other => other rfl
    have checks : ¬(setting.mac aesEncrypt setting.confirmHistory ≠
        (setting.confirm aesEncrypt).mac2) := fun other => other rfl
    simp only [input, MethodMachine.act, archiePeer, ArchiePeer.perform, peerInput,
      ArchiePeer.doIntegrityCheckForConfirmMsg, parse_confirmMsg, octetsAt_confirmMsg,
      if_neg sameSession]
    exact if_neg checks
  have foundNext : (archiePeer aesEncrypt).table.find .processConfirm .sgValid =
      some ⟨.processConfirm, some .sgValid, .success, some .notifySuccess⟩ := rfl
  rw [finished, answered_eq]
  exact MethodMachine.event_checked found does foundNext
    (ArchiePeer.notifySuccess_eq aesEncrypt setting.agreedNode)

theorem finishMsg_eq :
    setting.finishMsg aesEncrypt =
      writeHeader setting.finishHeader
        (setting.finishFields.covered ++ (setting.finish aesEncrypt).mac3) := by
  rw [finishMsg, finished_eq]
  rfl

theorem parse_finishMsg :
    EapResponseArchieFinish.parseRawToApp (setting.finishMsg aesEncrypt) =
      some (setting.finish aesEncrypt) := by
  rw [finishMsg_eq, EapResponseArchieFinish.parse_writeHeader]
  exact @EapResponseArchieFinish.parse_write (setting.finish aesEncrypt)
    setting.length_sessionID (setting.length_mac _ _)

theorem octetsAt_finishMsg :
    octetsAt (setting.finishMsg aesEncrypt) 4 36 = octetsAt setting.finishFields.covered 4 36 := by
  rw [finishMsg_eq, octetsAt_writeHeader _ _ (by decide)]
  exact octetsAt_append_left _ (by simp)

theorem accepted_eq :
    setting.accepted aesEncrypt =
      { state := .success
        data := { setting.confirmedNode with isDone := true }.deriveKey aesEncrypt true
        reports := [.policyUpdate .policyOnSuccess, .validResp] } := by
  have found : (archieAuth aesEncrypt).table.find .confirmSent .sgIntegrityCheck =
      some ⟨.confirmSent, some .sgIntegrityCheck, .processFinish,
        some .doIntegrityCheckForFinishMsg⟩ := rfl
  let input := setting.authInput (setting.finishMsg aesEncrypt) none
  have does : (archieAuth aesEncrypt).act (some .doIntegrityCheckForFinishMsg) input
      setting.confirmedNode = { data := setting.confirmedNode, raised := some .sgValid } := by
    have sameSession : ¬((setting.finish aesEncrypt).sessionID ≠ setting.confirmedNode.sessionID) :=
      fun other => other rfl
    have checks : ¬(setting.mac aesEncrypt (octetsAt setting.finishFields.covered 4 36) ≠
        (setting.finish aesEncrypt).mac3) := fun other => other rfl
    simp only [input, MethodMachine.act, archieAuth, ArchieAuth.perform, authInput,
      ArchieAuth.doIntegrityCheckForFinishMsg, parse_finishMsg, octetsAt_finishMsg,
      if_neg sameSession]
    exact if_neg checks
  have foundNext : (archieAuth aesEncrypt).table.find .processFinish .sgValid =
      some ⟨.processFinish, some .sgValid, .success, some .notifySuccess⟩ := rfl
  rw [accepted, confirmed_eq]
  exact MethodMachine.event_checked found does foundNext rfl

/-- Both sides derive the key from the nonces and the last half of the secret. -/
theorem finished_masterKey :
    (setting.finished aesEncrypt).data.masterKey = setting.masterKey aesEncrypt ∧
      (setting.finished aesEncrypt).data.keyData = setting.masterKey aesEncrypt := by
  rw [finished_eq, ArchieNode.deriveKey_eq aesEncrypt rfl rfl]
  exact ⟨rfl, rfl⟩

theorem accepted_masterKey :
    (setting.accepted aesEncrypt).data.masterKey = setting.masterKey aesEncrypt ∧
      (setting.accepted aesEncrypt).data.keyData = setting.masterKey aesEncrypt := by
  rw [accepted_eq, ArchieNode.deriveKey_eq aesEncrypt rfl rfl]
  exact ⟨rfl, rfl⟩

/-- The messages that are set are built from these fields. -/
theorem messages_built :
    setting.request.parseAppToRaw =
        some (AuthReport.transmitted (setting.requested aesEncrypt).reports) ∧
      (setting.response aesEncrypt).parseAppToRaw =
        some (PeerReport.transmitted (setting.answered aesEncrypt).reports) ∧
      (setting.confirm aesEncrypt).parseAppToRaw =
        AuthReport.transmitted (setting.confirmed aesEncrypt).reports ∧
      (setting.finish aesEncrypt).parseAppToRaw =
        PeerReport.transmitted (setting.finished aesEncrypt).reports := by
  rw [requested_eq, answered_eq, confirmed_eq, finished_eq]
  refine ⟨setting.request_parseAppToRaw, ?_, ?_, ?_⟩
  · exact setting.response_parseAppToRaw _ (setting.length_mac _ _)
  · rw [EapRequestArchieConfirm.parseAppToRaw_eq,
      firstOctets_of_length (show (setting.confirm aesEncrypt).mac2.length = 12 from
        setting.length_mac _ _)]
    rfl
  · rw [EapResponseArchieFinish.parseAppToRaw_eq,
      firstOctets_of_length (show (setting.finish aesEncrypt).mac3.length = 12 from
        setting.length_mac _ _)]
    rfl

/-- Each message is read as it was built, each side accepts, and both have one key. -/
theorem archie_agrees :
    (setting.request.parseAppToRaw =
          some (AuthReport.transmitted (setting.requested aesEncrypt).reports) ∧
        (setting.response aesEncrypt).parseAppToRaw =
          some (PeerReport.transmitted (setting.answered aesEncrypt).reports) ∧
        (setting.confirm aesEncrypt).parseAppToRaw =
          AuthReport.transmitted (setting.confirmed aesEncrypt).reports ∧
        (setting.finish aesEncrypt).parseAppToRaw =
          PeerReport.transmitted (setting.finished aesEncrypt).reports) ∧
      (EapRequestArchieRequest.parseRawToApp (setting.requestMsg aesEncrypt) =
          some setting.request ∧
        EapResponseArchieResponse.parseRawToApp (setting.responseMsg aesEncrypt) =
          some (setting.response aesEncrypt) ∧
        EapRequestArchieConfirm.parseRawToApp (setting.confirmMsg aesEncrypt) =
          some (setting.confirm aesEncrypt) ∧
        EapResponseArchieFinish.parseRawToApp (setting.finishMsg aesEncrypt) =
          some (setting.finish aesEncrypt)) ∧
      (setting.finished aesEncrypt).state = .success ∧
      (setting.accepted aesEncrypt).state = .success ∧
      (setting.finished aesEncrypt).data.masterKey =
        (setting.accepted aesEncrypt).data.masterKey ∧
      (setting.finished aesEncrypt).data.keyData = (setting.accepted aesEncrypt).data.keyData ∧
      (setting.finished aesEncrypt).data.masterKey.length = 32 ∧
      (setting.accepted aesEncrypt).data.masterKey.length = 32 := by
  have peerKey := setting.finished_masterKey aesEncrypt
  have authKey := setting.accepted_masterKey aesEncrypt
  have long : (setting.masterKey aesEncrypt).length = 32 := length_archiePrf _ _ _ _
  refine ⟨setting.messages_built aesEncrypt, ⟨setting.parse_requestMsg aesEncrypt,
    setting.parse_responseMsg aesEncrypt, setting.parse_confirmMsg aesEncrypt,
    setting.parse_finishMsg aesEncrypt⟩, ?_, ?_, ?_, ?_, ?_, ?_⟩
  · rw [finished_eq]
  · rw [accepted_eq]
  · rw [peerKey.1, authKey.1]
  · rw [peerKey.2, authKey.2]
  · rw [peerKey.1, long]
  · rw [authKey.1, long]

end ArchieSetting

end OpenDiameter.Eap
