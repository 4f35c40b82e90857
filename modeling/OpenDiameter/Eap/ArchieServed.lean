import OpenDiameter.Eap.Archie

/-!
What EAP-Archie does with an integrity check, in each state in which it waits for one.
-/

namespace OpenDiameter.Eap

open OpenDiameter.Foundation OpenDiameter.Framework

namespace ArchiePeer

abbrev Run := MethodRun ArchiePeerState ArchieEvent ArchieNode PeerReport

/-- The peer that has accepted a Request. -/
def asked (input : ArchieInput) (request : EapRequestArchieRequest) (node : ArchieNode) :
    ArchieNode :=
  { node with
    sharedSecret := input.sharedSecret
    authID := request.authID
    sessionID := request.sessionID
    history := node.history ++ octetsAt input.rxMessage 4 260 }

/-- The Confirm belongs to the session and has the MAC of what the peer has heard. -/
def Accepts (aesEncrypt : AesEncrypt) (input : ArchieInput) (node : ArchieNode)
    (confirm : EapRequestArchieConfirm) : Prop :=
  EapRequestArchieConfirm.parseRawToApp input.rxMessage = some confirm ∧
    confirm.sessionID = node.sessionID ∧
    node.mac aesEncrypt (node.history ++ octetsAt input.rxMessage 4 592) = confirm.mac2

/-- The peer that has accepted a Confirm. -/
def confirmed (input : ArchieInput) (confirm : EapRequestArchieConfirm) (node : ArchieNode) :
    ArchieNode :=
  { node with
    nonceA := confirm.nonceA
    binding := confirm.binding
    history := node.history ++ octetsAt input.rxMessage 4 592 }

inductive Served (aesEncrypt : AesEncrypt) (input : ArchieInput) (node : ArchieNode) :
    ArchiePeerState → Run → Prop where
  | unread (unread : EapRequestArchieRequest.parseRawToApp input.rxMessage = none) :
      Served aesEncrypt input node .initializing
        { state := .initializing, data := node, reports := [.invalidReq] }
  | unkeyed {request : EapRequestArchieRequest}
      (read : EapRequestArchieRequest.parseRawToApp input.rxMessage = some request)
      (short : input.sharedSecret.length ≠ 64) :
      Served aesEncrypt input node .initializing
        { state := .initializing
          data := { node with sharedSecret := input.sharedSecret }
          reports := [.invalidReq] }
  | noRandom {request : EapRequestArchieRequest}
      (read : EapRequestArchieRequest.parseRawToApp input.rxMessage = some request)
      (keyed : input.sharedSecret.length = 64) (failed : input.random = none) :
      Served aesEncrypt input node .initializing
        { state := .responseSent
          data := { asked input request node with peerID := input.identity } }
  | unnamed {request : EapRequestArchieRequest} {random : EapOctets}
      (read : EapRequestArchieRequest.parseRawToApp input.rxMessage = some request)
      (keyed : input.sharedSecret.length = 64) (isRandom : input.random = some random)
      (noName : input.identity.length = 0) :
      Served aesEncrypt input node .initializing
        { state := .responseSent
          data :=
            { asked input request node with
              peerID := input.identity
              nonceP := firstOctets random 40 } }
  | responded {request : EapRequestArchieRequest} {random : EapOctets}
      (read : EapRequestArchieRequest.parseRawToApp input.rxMessage = some request)
      (keyed : input.sharedSecret.length = 64) (isRandom : input.random = some random)
      (named : input.identity.length ≠ 0) {fields : EapResponseArchieResponse}
      (areFields : fields = responseFields random input (asked input request node))
      {history : EapOctets}
      (isHistory : history =
        node.history ++ octetsAt input.rxMessage 4 260 ++ octetsAt fields.covered 4 848) :
      Served aesEncrypt input node .initializing
        { state := .responseSent
          data :=
            { asked input request node with
              peerID := input.identity
              nonceP := firstOctets random 40
              history := history }
          reports :=
            [.txMessage (fields.covered ++ (asked input request node).mac aesEncrypt history),
              .methodState .cont, .validReq] }
  | refused (refuses : ∀ confirm, ¬Accepts aesEncrypt input node confirm) :
      Served aesEncrypt input node .responseSent
        { state := .responseSent, data := node, reports := [.invalidReq] }
  | finished {confirm : EapRequestArchieConfirm} (accepts : Accepts aesEncrypt input node confirm)
      {fields : EapResponseArchieFinish}
      (areFields : fields = finishFields (confirmed input confirm node)) :
      Served aesEncrypt input node .responseSent
        { state := .success
          data := (confirmed input confirm node).deriveKey aesEncrypt true
          reports :=
            [.txMessage
                (fields.covered ++ (confirmed input confirm node).mac aesEncrypt
                  (octetsAt fields.covered 4 36)),
              .decision .uncondSucc, .methodState .done, .validReq] }
  | ended : Served aesEncrypt input node .success { state := .success, data := node }

/-- The states between two events. -/
def Waits (state : ArchiePeerState) : Prop :=
  state = .initializing ∨ state = .responseSent ∨ state = .success

section Serve

variable (aesEncrypt : AesEncrypt) (input : ArchieInput) (node : ArchieNode)

theorem served_initializing :
    Served aesEncrypt input node .initializing
      (serveArchiePeer aesEncrypt input .sgIntegrityCheck .initializing node) := by
  have found : (archiePeer aesEncrypt).table.find .initializing .sgIntegrityCheck =
      some ⟨.initializing, some .sgIntegrityCheck, .processRequest,
        some .doIntegrityCheckForRequestMsg⟩ := rfl
  have foundInvalid : (archiePeer aesEncrypt).table.find .processRequest .sgInvalid =
      some ⟨.processRequest, some .sgInvalid, .initializing, some .notifyInvalid⟩ := rfl
  have foundValid : (archiePeer aesEncrypt).table.find .processRequest .sgValid =
      some ⟨.processRequest, some .sgValid, .responseSent, some .buildResponse⟩ := rfl
  cases read : EapRequestArchieRequest.parseRawToApp input.rxMessage with
  | none =>
    have does : (archiePeer aesEncrypt).act (some .doIntegrityCheckForRequestMsg) input node =
        { data := node, raised := some .sgInvalid } := by
      simp only [MethodMachine.act, archiePeer, perform, doIntegrityCheckForRequestMsg, read]
    have run : serveArchiePeer aesEncrypt input .sgIntegrityCheck .initializing node = _ :=
      MethodMachine.event_checked found does foundInvalid rfl
    exact run ▸ .unread read
  | some request =>
    by_cases keyed : input.sharedSecret.length = 64
    · have secret : ¬input.sharedSecret.length ≠ 64 := fun other => other keyed
      have does : (archiePeer aesEncrypt).act (some .doIntegrityCheckForRequestMsg) input node =
          { data := asked input request node, raised := some .sgValid } := by
        simp only [MethodMachine.act, archiePeer, perform, doIntegrityCheckForRequestMsg, read,
          if_neg secret]
        rfl
      cases isRandom : input.random with
      | none =>
        have builds : buildResponse aesEncrypt input (asked input request node) =
            { data := { asked input request node with peerID := input.identity } } := by
          simp only [buildResponse, isRandom]
        have run : serveArchiePeer aesEncrypt input .sgIntegrityCheck .initializing node = _ :=
          MethodMachine.event_checked found does foundValid builds
        exact run ▸ .noRandom read keyed isRandom
      | some random =>
        by_cases named : input.identity.length = 0
        · have builds : (archiePeer aesEncrypt).act (some .buildResponse) input
              (asked input request node) =
              { data :=
                  { asked input request node with
                    peerID := input.identity
                    nonceP := firstOctets random 40 }
                raised := some .sgInvalid } := by
            simp only [MethodMachine.act, archiePeer, perform, buildResponse, isRandom,
              EapResponseArchieResponse.parseAppToRaw, if_pos named]
          have foundLate : (archiePeer aesEncrypt).table.find .responseSent .sgInvalid =
              some ⟨.responseSent, none, .responseSent, none⟩ := rfl
          have run : serveArchiePeer aesEncrypt input .sgIntegrityCheck .initializing node =
              _ := MethodMachine.event_checked_raises found does foundValid builds foundLate rfl
          exact run ▸ .unnamed read keyed isRandom named
        · have builds := @buildResponse_eq aesEncrypt input (asked input request node) random
            isRandom named
          have run : serveArchiePeer aesEncrypt input .sgIntegrityCheck .initializing node =
              _ := MethodMachine.event_checked found does foundValid builds
          exact run ▸ .responded read keyed isRandom named rfl rfl
    · have does : (archiePeer aesEncrypt).act (some .doIntegrityCheckForRequestMsg) input node =
          { data := { node with sharedSecret := input.sharedSecret }
            raised := some .sgInvalid } := by
        simp only [MethodMachine.act, archiePeer, perform, doIntegrityCheckForRequestMsg, read,
          if_pos (show ({ node with sharedSecret := input.sharedSecret } :
            ArchieNode).sharedSecret.length ≠ 64 from keyed)]
      have run : serveArchiePeer aesEncrypt input .sgIntegrityCheck .initializing node = _ :=
        MethodMachine.event_checked found does foundInvalid rfl
      exact run ▸ .unkeyed read keyed

theorem served_responseSent :
    Served aesEncrypt input node .responseSent
      (serveArchiePeer aesEncrypt input .sgIntegrityCheck .responseSent node) := by
  have found : (archiePeer aesEncrypt).table.find .responseSent .sgIntegrityCheck =
      some ⟨.responseSent, some .sgIntegrityCheck, .processConfirm,
        some .doIntegrityCheckForConfirmMsg⟩ := rfl
  have foundInvalid : (archiePeer aesEncrypt).table.find .processConfirm .sgInvalid =
      some ⟨.processConfirm, some .sgInvalid, .responseSent, some .notifyInvalid⟩ := rfl
  have foundValid : (archiePeer aesEncrypt).table.find .processConfirm .sgValid =
      some ⟨.processConfirm, some .sgValid, .success, some .notifySuccess⟩ := rfl
  have refuse (does : (archiePeer aesEncrypt).act (some .doIntegrityCheckForConfirmMsg) input node =
      { data := node, raised := some .sgInvalid })
      (refuses : ∀ confirm, ¬Accepts aesEncrypt input node confirm) :
      Served aesEncrypt input node .responseSent
        (serveArchiePeer aesEncrypt input .sgIntegrityCheck .responseSent node) := by
    have run : serveArchiePeer aesEncrypt input .sgIntegrityCheck .responseSent node = _ :=
      MethodMachine.event_checked found does foundInvalid rfl
    exact run ▸ .refused refuses
  cases read : EapRequestArchieConfirm.parseRawToApp input.rxMessage with
  | none =>
    apply refuse
    · simp only [MethodMachine.act, archiePeer, perform, doIntegrityCheckForConfirmMsg, read]
    · intro confirm accepts
      cases read.symm.trans accepts.1
  | some confirm =>
    have same {other : EapRequestArchieConfirm} (accepts : Accepts aesEncrypt input node other) :
        other = confirm := Option.some.inj (accepts.1.symm.trans read)
    by_cases sameSession : confirm.sessionID = node.sessionID
    · by_cases checks :
          node.mac aesEncrypt (node.history ++ octetsAt input.rxMessage 4 592) = confirm.mac2
      · have does : (archiePeer aesEncrypt).act (some .doIntegrityCheckForConfirmMsg) input node =
            { data := ArchiePeer.confirmed input confirm node, raised := some .sgValid } := by
          simp only [MethodMachine.act, archiePeer, perform, doIntegrityCheckForConfirmMsg, read,
            if_neg (fun other : confirm.sessionID ≠ node.sessionID => other sameSession)]
          exact if_neg fun other => other checks
        have run : serveArchiePeer aesEncrypt input .sgIntegrityCheck .responseSent node = _ :=
          MethodMachine.event_checked found does foundValid
            (notifySuccess_eq aesEncrypt (ArchiePeer.confirmed input confirm node))
        exact run ▸ .finished ⟨read, sameSession, checks⟩ rfl
      · apply refuse
        · simp only [MethodMachine.act, archiePeer, perform, doIntegrityCheckForConfirmMsg, read,
            if_neg (fun other : confirm.sessionID ≠ node.sessionID => other sameSession)]
          exact if_pos checks
        · intro other accepts
          exact checks (same accepts ▸ accepts.2.2)
    · apply refuse
      · simp only [MethodMachine.act, archiePeer, perform, doIntegrityCheckForConfirmMsg, read,
          if_pos sameSession]
      · intro other accepts
        exact sameSession (same accepts ▸ accepts.2.1)

theorem serve_served {state : ArchiePeerState} (waits : Waits state) :
    Served aesEncrypt input node state
      (serveArchiePeer aesEncrypt input .sgIntegrityCheck state node) := by
  obtain rfl | rfl | rfl := waits
  · exact served_initializing aesEncrypt input node
  · exact served_responseSent aesEncrypt input node
  · exact .ended

end Serve

end ArchiePeer

namespace ArchieAuth

abbrev Run := MethodRun ArchieAuthState ArchieEvent ArchieNode AuthReport

/-- The authenticator with the session id of a new Request. -/
def fresh (input : ArchieInput) (random : EapOctets) (node : ArchieNode) : ArchieNode :=
  { node with sessionID := firstOctets random 32, authID := input.identity }

/-- The Response has the MAC of what the authenticator has heard. -/
def Accepts (aesEncrypt : AesEncrypt) (input : ArchieInput) (node : ArchieNode)
    (response : EapResponseArchieResponse) : Prop :=
  EapResponseArchieResponse.parseRawToApp input.rxMessage = some response ∧
    input.sharedSecret.length = 64 ∧
    ({ node with sharedSecret := input.sharedSecret } : ArchieNode).mac aesEncrypt
      (node.history ++ octetsAt input.rxMessage 4 848) = response.mac1

/-- The authenticator that has accepted a Response. -/
def heard (input : ArchieInput) (response : EapResponseArchieResponse) (node : ArchieNode) :
    ArchieNode :=
  { node with
    sharedSecret := input.sharedSecret
    sessionID := response.sessionID
    peerID := response.peerID
    nonceP := response.nonceP
    binding := response.binding
    history := node.history ++ octetsAt input.rxMessage 4 848 }

/-- The Finish belongs to the session and has the MAC of its own octets. -/
def AcceptsFinish (aesEncrypt : AesEncrypt) (input : ArchieInput) (node : ArchieNode) : Prop :=
  ∃ finish, EapResponseArchieFinish.parseRawToApp input.rxMessage = some finish ∧
    finish.sessionID = node.sessionID ∧
    node.mac aesEncrypt (octetsAt input.rxMessage 4 36) = finish.mac3

inductive Served (aesEncrypt : AesEncrypt) (input : ArchieInput) (node : ArchieNode) :
    ArchieAuthState → Run → Prop where
  | noRandom (failed : input.random = none) :
      Served aesEncrypt input node .initializing { state := .requestSent, data := node }
  | unnamed {random : EapOctets} (isRandom : input.random = some random)
      (noName : input.identity.length = 0) :
      Served aesEncrypt input node .initializing
        { state := .initializing, data := fresh input random node }
  | requested {random : EapOctets} (isRandom : input.random = some random)
      (named : input.identity.length ≠ 0) {msg : EapOctets}
      (built : ({ authID := input.identity, sessionID := firstOctets random 32 } :
        EapRequestArchieRequest).parseAppToRaw = some msg) :
      Served aesEncrypt input node .initializing
        { state := .requestSent
          data := { fresh input random node with history := node.history ++ octetsAt msg 4 260 }
          reports := [.txMessage msg, .validResp] }
  | refused {secret : EapOctets} (refuses : ∀ response, ¬Accepts aesEncrypt input node response) :
      Served aesEncrypt input node .requestSent
        { state := .initializing
          data := { node with sharedSecret := secret, isDone := true }
          reports := [.policyUpdate .policyOnFailure, .validResp] }
  | unconfirmed {response : EapResponseArchieResponse}
      (accepts : Accepts aesEncrypt input node response) (failed : input.random = none) :
      Served aesEncrypt input node .requestSent
        { state := .confirmSent, data := heard input response node }
  | confirmed {response : EapResponseArchieResponse} {random : EapOctets}
      (accepts : Accepts aesEncrypt input node response) (isRandom : input.random = some random)
      {fields : EapRequestArchieConfirm}
      (areFields : fields = confirmFields random (heard input response node))
      {history : EapOctets}
      (isHistory : history = node.history ++ octetsAt input.rxMessage 4 848 ++
        octetsAt fields.covered 4 592) :
      Served aesEncrypt input node .requestSent
        { state := .confirmSent
          data :=
            { heard input response node with
              nonceA := firstOctets random 40
              history := history }
          reports :=
            [.txMessage (fields.covered ++ (heard input response node).mac aesEncrypt history),
              .validResp] }
  | finishRefused (refuses : ¬AcceptsFinish aesEncrypt input node) :
      Served aesEncrypt input node .confirmSent
        { state := .confirmSent
          data := { node with isDone := true }
          reports := [.policyUpdate .policyOnFailure, .validResp] }
  | finished (accepts : AcceptsFinish aesEncrypt input node) :
      Served aesEncrypt input node .confirmSent
        { state := .success
          data := { node with isDone := true }.deriveKey aesEncrypt true
          reports := [.policyUpdate .policyOnSuccess, .validResp] }
  | ended : Served aesEncrypt input node .success { state := .success, data := node }

/-- The states between two events. -/
def Waits (state : ArchieAuthState) : Prop :=
  state = .initializing ∨ state = .requestSent ∨ state = .confirmSent ∨ state = .success

section Serve

variable (aesEncrypt : AesEncrypt) (input : ArchieInput) (node : ArchieNode)

theorem served_initializing :
    Served aesEncrypt input node .initializing
      (serveArchieAuth aesEncrypt input .sgIntegrityCheck .initializing node) := by
  have found : (archieAuth aesEncrypt).table.find .initializing .sgIntegrityCheck =
      some ⟨.initializing, some .sgIntegrityCheck, .requestSent, some .buildRequest⟩ := rfl
  have foundInvalid : (archieAuth aesEncrypt).table.find .requestSent .sgInvalid =
      some ⟨.requestSent, some .sgInvalid, .initializing, none⟩ := rfl
  cases isRandom : input.random with
  | none =>
    have does : (archieAuth aesEncrypt).act (some .buildRequest) input node =
        { data := node } := by
      simp only [MethodMachine.act, archieAuth, perform, buildRequest, isRandom]
    have run : serveArchieAuth aesEncrypt input .sgIntegrityCheck .initializing node = _ :=
      MethodMachine.event_ends found does rfl
    exact run ▸ .noRandom isRandom
  | some random =>
    by_cases named : input.identity.length = 0
    · have does : (archieAuth aesEncrypt).act (some .buildRequest) input node =
          { data := fresh input random node, raised := some .sgInvalid } := by
        simp only [MethodMachine.act, archieAuth, perform, buildRequest, isRandom,
          EapRequestArchieRequest.parseAppToRaw, if_pos named]
        rfl
      have run : serveArchieAuth aesEncrypt input .sgIntegrityCheck .initializing node = _ :=
        MethodMachine.event_checked found does foundInvalid rfl
      exact run ▸ .unnamed isRandom named
    · have some_msg : ∃ msg, ({ authID := input.identity, sessionID := firstOctets random 32 } :
          EapRequestArchieRequest).parseAppToRaw = some msg := ⟨_, if_neg named⟩
      obtain ⟨msg, built⟩ := some_msg
      have does : (archieAuth aesEncrypt).act (some .buildRequest) input node =
          { data :=
              { fresh input random node with history := node.history ++ octetsAt msg 4 260 }
            reports := [.txMessage msg, .validResp] } := by
        simp only [MethodMachine.act, archieAuth, perform, buildRequest, isRandom, built]
        rfl
      have run : serveArchieAuth aesEncrypt input .sgIntegrityCheck .initializing node = _ :=
        MethodMachine.event_ends found does rfl
      exact run ▸ .requested isRandom named built

theorem served_requestSent :
    Served aesEncrypt input node .requestSent
      (serveArchieAuth aesEncrypt input .sgIntegrityCheck .requestSent node) := by
  have found : (archieAuth aesEncrypt).table.find .requestSent .sgIntegrityCheck =
      some ⟨.requestSent, some .sgIntegrityCheck, .processResponse,
        some .doIntegrityCheckForResponseMsg⟩ := rfl
  have foundInvalid : (archieAuth aesEncrypt).table.find .processResponse .sgInvalid =
      some ⟨.processResponse, some .sgInvalid, .initializing, some .notifyFailure⟩ := rfl
  have foundValid : (archieAuth aesEncrypt).table.find .processResponse .sgValid =
      some ⟨.processResponse, some .sgValid, .confirmSent, some .buildConfirm⟩ := rfl
  have refuse (secret : EapOctets)
      (does : (archieAuth aesEncrypt).act (some .doIntegrityCheckForResponseMsg) input node =
        { data := { node with sharedSecret := secret }, raised := some .sgInvalid })
      (refuses : ∀ response, ¬Accepts aesEncrypt input node response) :
      Served aesEncrypt input node .requestSent
        (serveArchieAuth aesEncrypt input .sgIntegrityCheck .requestSent node) := by
    have run : serveArchieAuth aesEncrypt input .sgIntegrityCheck .requestSent node = _ :=
      MethodMachine.event_checked found does foundInvalid rfl
    exact run ▸ .refused refuses
  cases read : EapResponseArchieResponse.parseRawToApp input.rxMessage with
  | none =>
    apply refuse node.sharedSecret
    · simp only [MethodMachine.act, archieAuth, perform, doIntegrityCheckForResponseMsg, read]
    · intro response accepts
      cases read.symm.trans accepts.1
  | some response =>
    have same {other : EapResponseArchieResponse}
        (accepts : Accepts aesEncrypt input node other) : other = response :=
      Option.some.inj (accepts.1.symm.trans read)
    by_cases keyed : input.sharedSecret.length = 64
    · have secret : ¬input.sharedSecret.length ≠ 64 := fun other => other keyed
      by_cases checks : ({ node with sharedSecret := input.sharedSecret } : ArchieNode).mac
          aesEncrypt (node.history ++ octetsAt input.rxMessage 4 848) = response.mac1
      · have does : (archieAuth aesEncrypt).act (some .doIntegrityCheckForResponseMsg) input
            node = { data := heard input response node, raised := some .sgValid } := by
          simp only [MethodMachine.act, archieAuth, perform, doIntegrityCheckForResponseMsg, read,
            if_neg secret]
          exact if_neg fun other => other checks
        have accepts : Accepts aesEncrypt input node response := ⟨read, keyed, checks⟩
        cases isRandom : input.random with
        | none =>
          have builds : (archieAuth aesEncrypt).act (some .buildConfirm) input
              (heard input response node) = { data := heard input response node } := by
            simp only [MethodMachine.act, archieAuth, perform, buildConfirm, isRandom]
          have run : serveArchieAuth aesEncrypt input .sgIntegrityCheck .requestSent node =
              _ := MethodMachine.event_checked found does foundValid builds
          exact run ▸ .unconfirmed accepts isRandom
        | some random =>
          have builds := @buildConfirm_eq aesEncrypt input (heard input response node) random
            isRandom
          have run : serveArchieAuth aesEncrypt input .sgIntegrityCheck .requestSent node =
              _ := MethodMachine.event_checked found does foundValid builds
          exact run ▸ .confirmed accepts isRandom rfl rfl
      · apply refuse input.sharedSecret
        · simp only [MethodMachine.act, archieAuth, perform, doIntegrityCheckForResponseMsg, read,
            if_neg secret]
          exact if_pos checks
        · intro other accepts
          exact checks (same accepts ▸ accepts.2.2)
    · apply refuse input.sharedSecret
      · simp only [MethodMachine.act, archieAuth, perform, doIntegrityCheckForResponseMsg, read,
          if_pos (show ({ node with sharedSecret := input.sharedSecret } :
            ArchieNode).sharedSecret.length ≠ 64 from keyed)]
      · intro other accepts
        exact keyed accepts.2.1

theorem served_confirmSent :
    Served aesEncrypt input node .confirmSent
      (serveArchieAuth aesEncrypt input .sgIntegrityCheck .confirmSent node) := by
  have found : (archieAuth aesEncrypt).table.find .confirmSent .sgIntegrityCheck =
      some ⟨.confirmSent, some .sgIntegrityCheck, .processFinish,
        some .doIntegrityCheckForFinishMsg⟩ := rfl
  have foundInvalid : (archieAuth aesEncrypt).table.find .processFinish .sgInvalid =
      some ⟨.processFinish, some .sgInvalid, .confirmSent, some .notifyFailure⟩ := rfl
  have foundValid : (archieAuth aesEncrypt).table.find .processFinish .sgValid =
      some ⟨.processFinish, some .sgValid, .success, some .notifySuccess⟩ := rfl
  have refuse (does : (archieAuth aesEncrypt).act (some .doIntegrityCheckForFinishMsg) input node =
      { data := node, raised := some .sgInvalid }) (refuses : ¬AcceptsFinish aesEncrypt input node) :
      Served aesEncrypt input node .confirmSent
        (serveArchieAuth aesEncrypt input .sgIntegrityCheck .confirmSent node) := by
    have run : serveArchieAuth aesEncrypt input .sgIntegrityCheck .confirmSent node = _ :=
      MethodMachine.event_checked found does foundInvalid rfl
    exact run ▸ .finishRefused refuses
  cases read : EapResponseArchieFinish.parseRawToApp input.rxMessage with
  | none =>
    apply refuse
    · simp only [MethodMachine.act, archieAuth, perform, doIntegrityCheckForFinishMsg, read]
    · intro ⟨finish, other, _⟩
      cases read.symm.trans other
  | some finish =>
    have same {other : EapResponseArchieFinish}
        (isRead : EapResponseArchieFinish.parseRawToApp input.rxMessage = some other) :
        other = finish := Option.some.inj (isRead.symm.trans read)
    by_cases sameSession : finish.sessionID = node.sessionID
    · by_cases checks : node.mac aesEncrypt (octetsAt input.rxMessage 4 36) = finish.mac3
      · have does : (archieAuth aesEncrypt).act (some .doIntegrityCheckForFinishMsg) input node =
            { data := node, raised := some .sgValid } := by
          simp only [MethodMachine.act, archieAuth, perform, doIntegrityCheckForFinishMsg, read,
            if_neg (fun other : finish.sessionID ≠ node.sessionID => other sameSession)]
          exact if_neg fun other => other checks
        have run : serveArchieAuth aesEncrypt input .sgIntegrityCheck .confirmSent node = _ :=
          MethodMachine.event_checked found does foundValid rfl
        exact run ▸ .finished ⟨finish, read, sameSession, checks⟩
      · apply refuse
        · simp only [MethodMachine.act, archieAuth, perform, doIntegrityCheckForFinishMsg, read,
            if_neg (fun other : finish.sessionID ≠ node.sessionID => other sameSession)]
          exact if_pos checks
        · intro ⟨other, isRead, _, checked⟩
          exact checks (same isRead ▸ checked)
    · apply refuse
      · simp only [MethodMachine.act, archieAuth, perform, doIntegrityCheckForFinishMsg, read,
          if_pos sameSession]
      · intro ⟨other, isRead, sameID, _⟩
        exact sameSession (same isRead ▸ sameID)

theorem serve_served {state : ArchieAuthState} (waits : Waits state) :
    Served aesEncrypt input node state
      (serveArchieAuth aesEncrypt input .sgIntegrityCheck state node) := by
  obtain rfl | rfl | rfl | rfl := waits
  · exact served_initializing aesEncrypt input node
  · exact served_requestSent aesEncrypt input node
  · exact served_confirmSent aesEncrypt input node
  · exact .ended

end Serve

end ArchieAuth

end OpenDiameter.Eap
