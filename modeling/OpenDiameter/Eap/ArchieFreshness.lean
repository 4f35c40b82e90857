import OpenDiameter.Eap.ArchieServed
import OpenDiameter.Foundation.Transitions

/-!
Conversations of EAP-Archie under an attacker, who hears every message and delivers any message to
any machine. All machines hold one shared secret. A MAC with it the attacker has only where an honest
machine has made it.
-/

namespace OpenDiameter.Eap

open OpenDiameter.Foundation OpenDiameter.Framework

/-- What the machines do, by their numbers. A Response and a Finish stand for the octets that their
MACs cover. -/
inductive ArchieHappening where
  /-- An authenticator makes the session id of a Request. -/
  | generated (auth : Nat) (sessionID : EapOctets)
  /-- An authenticator accepts a Response. -/
  | heard (auth : Nat) (response : EapOctets)
  /-- An authenticator accepts a Finish. -/
  | accepted (auth : Nat) (finish : EapOctets)
  /-- A peer accepts a Request with the session id. -/
  | received (peer : Nat) (sessionID : EapOctets)
  /-- A peer sends a Response. -/
  | responded (peer : Nat) (response : EapOctets)
  /-- A peer sends a Finish. -/
  | finished (peer : Nat) (finish : EapOctets)
  deriving DecidableEq

/-- The machines, the inputs of the MACs that they have sent, what has happened and the random
numbers that were given. -/
structure ArchieWorld where
  peers : Nat → ArchiePeerState × ArchieNode
  auths : Nat → ArchieAuthState × ArchieNode
  maced : List EapOctets
  log : List ArchieHappening
  randoms : List EapOctets

/-- A machine has a message, with what its application and the generator give. -/
inductive ArchieDelivery where
  | toPeer (index : Nat) (input : ArchieInput)
  | toAuth (index : Nat) (input : ArchieInput)

def ArchieDelivery.input : ArchieDelivery → ArchieInput
  | .toPeer _ input => input
  | .toAuth _ input => input

/-- The session id in the octets of a Response or a Finish that its MAC covers. -/
def sessionOf (covered : EapOctets) : EapOctets := octetsAt covered 4 32

namespace ArchiePeer

/-- The inputs of the MACs that are sent: what the peer has heard for a Response, the octets of the
message for a Finish. -/
def maced (run : Run) : List EapOctets :=
  match PeerReport.sent run.reports, run.state with
  | some _, .responseSent => [run.data.history]
  | some msg, .success => [octetsAt msg 4 36]
  | _, _ => []

def happenings (index : Nat) (before : ArchiePeerState) (run : Run) : List ArchieHappening :=
  (if before = .initializing ∧ run.state = .responseSent then
      [.received index run.data.sessionID]
    else []) ++
    match PeerReport.sent run.reports, run.state with
    | some msg, .responseSent => [.responded index (octetsAt msg 4 848)]
    | some msg, .success => [.finished index (octetsAt msg 4 36)]
    | _, _ => []

end ArchiePeer

namespace ArchieAuth

def maced (run : Run) : List EapOctets :=
  match AuthReport.sent run.reports, run.state with
  | some _, .confirmSent => [run.data.history]
  | _, _ => []

def happenings (index : Nat) (before : ArchieAuthState) (input : ArchieInput) (run : Run) :
    List ArchieHappening :=
  match before, run.state with
  | .initializing, _ =>
    if input.random.isSome then [.generated index run.data.sessionID] else []
  | .requestSent, .confirmSent => [.heard index (octetsAt input.rxMessage 4 848)]
  | .confirmSent, .success => [.accepted index (octetsAt input.rxMessage 4 36)]
  | _, _ => []

end ArchieAuth

namespace ArchieWorld

section Steps

variable (aesEncrypt : AesEncrypt)

def peerRun (world : ArchieWorld) (index : Nat) (input : ArchieInput) : ArchiePeer.Run :=
  serveArchiePeer aesEncrypt input .sgIntegrityCheck (world.peers index).1 (world.peers index).2

def authRun (world : ArchieWorld) (index : Nat) (input : ArchieInput) : ArchieAuth.Run :=
  serveArchieAuth aesEncrypt input .sgIntegrityCheck (world.auths index).1 (world.auths index).2

def deliver (delivery : ArchieDelivery) (world : ArchieWorld) : ArchieWorld :=
  match delivery with
  | .toPeer index input =>
    let run := world.peerRun aesEncrypt index input
    { world with
      peers := Function.update world.peers index (run.state, run.data)
      maced := world.maced ++ ArchiePeer.maced run
      log := world.log ++ ArchiePeer.happenings index (world.peers index).1 run
      randoms := world.randoms ++ input.random.toList }
  | .toAuth index input =>
    let run := world.authRun aesEncrypt index input
    { world with
      auths := Function.update world.auths index (run.state, run.data)
      maced := world.maced ++ ArchieAuth.maced run
      log := world.log ++ ArchieAuth.happenings index (world.auths index).1 input run
      randoms := world.randoms ++ input.random.toList }

variable (sharedSecret : EapOctets)

/-- What a MAC is made with. -/
def macOf (octets : EapOctets) : EapOctets :=
  aesCbcMac96 aesEncrypt octets (firstOctets sharedSecret 16)

/-- The MAC that the machine looks for in the message is wrong, or a machine has sent it. -/
def Unforged (world : ArchieWorld) : ArchieDelivery → Prop
  | .toPeer index input =>
    (world.peers index).1 = .responseSent →
      let covered := (world.peers index).2.history ++ octetsAt input.rxMessage 4 592
      macOf aesEncrypt sharedSecret covered = octetsAt input.rxMessage 596 12 →
        covered ∈ world.maced
  | .toAuth index input =>
    ((world.auths index).1 = .requestSent →
      let covered := (world.auths index).2.history ++ octetsAt input.rxMessage 4 848
      macOf aesEncrypt sharedSecret covered = octetsAt input.rxMessage 852 12 →
        covered ∈ world.maced) ∧
    ((world.auths index).1 = .confirmSent →
      let covered := octetsAt input.rxMessage 4 36
      macOf aesEncrypt sharedSecret covered = octetsAt input.rxMessage 40 12 →
        covered ∈ world.maced)

/-- No session id and no nonce is made twice. -/
def Fresh (world : ArchieWorld) (delivery : ArchieDelivery) : Prop :=
  ∀ random ∈ delivery.input.random, ∀ earlier ∈ world.randoms,
    firstOctets random 32 ≠ firstOctets earlier 32 ∧
      firstOctets random 40 ≠ firstOctets earlier 40

structure Attacked (world : ArchieWorld) (delivery : ArchieDelivery) (next : ArchieWorld) :
    Prop where
  keyed : delivery.input.sharedSecret = sharedSecret
  fresh : world.Fresh delivery
  unforged : world.Unforged aesEncrypt sharedSecret delivery
  delivers : next = world.deliver aesEncrypt delivery

/-- All machines have just been started. -/
structure Started (world : ArchieWorld) : Prop where
  peers : ∀ index, (world.peers index).1 = .initializing ∧
    ArchiePeer.start (world.peers index).2 = (world.peers index).2
  auths : ∀ index, (world.auths index).1 = .initializing ∧
    ArchieAuth.start (world.auths index).2 = (world.auths index).2
  maced : world.maced = []
  log : world.log = []
  randoms : world.randoms = []

/-- An authenticator that waits for a Response has one with the session id of its Request. -/
def OwnSession (world : ArchieWorld) : ArchieDelivery → Prop
  | .toPeer _ _ => True
  | .toAuth index input =>
    (world.auths index).1 = .requestSent →
      octetsAt input.rxMessage 8 32 = (world.auths index).2.sessionID

/-- A peer has received the session id that the authenticator has made, and has sent the Response
and the Finish that the authenticator has accepted. -/
def TookPart (log : List ArchieHappening) (auth : Nat) : Prop :=
  ∃ sessionID peer response finish,
    .generated auth sessionID ∈ log ∧ .received peer sessionID ∈ log ∧
      .responded peer response ∈ log ∧ .heard auth response ∈ log ∧
      .finished peer finish ∈ log ∧ .accepted auth finish ∈ log ∧
      sessionOf response = sessionID ∧ sessionOf finish = sessionID

end Steps

/-- Where a MAC that was sent comes from. -/
inductive MacTraced (log : List ArchieHappening) : EapOctets → Prop where
  | response {peer : Nat} {request response : EapOctets} (requestLength : request.length = 260)
      (responseLength : response.length = 848) (responded : .responded peer response ∈ log)
      (received : .received peer (sessionOf response) ∈ log) :
      MacTraced log (request ++ response)
  | confirm {auth : Nat} {request response confirm : EapOctets}
      (requestLength : request.length = 260) (responseLength : response.length = 848)
      (confirmLength : confirm.length = 592) (heard : .heard auth response ∈ log)
      (generated : .generated auth (sessionOf response) ∈ log) :
      MacTraced log (request ++ response ++ confirm)
  | finish {peer auth : Nat} {response finish : EapOctets} (finishLength : finish.length = 36)
      (finished : .finished peer finish ∈ log) (responded : .responded peer response ∈ log)
      (received : .received peer (sessionOf finish) ∈ log)
      (sameSession : sessionOf response = sessionOf finish) (heard : .heard auth response ∈ log)
      (generated : .generated auth (sessionOf finish) ∈ log) :
      MacTraced log finish

theorem MacTraced.mono {log longer : List ArchieHappening} {covered : EapOctets}
    (traced : MacTraced log covered) (grows : ∀ happening ∈ log, happening ∈ longer) :
    MacTraced longer covered := by
  cases traced with
  | response requestLength responseLength responded received =>
    exact .response requestLength responseLength (grows _ responded) (grows _ received)
  | confirm requestLength responseLength confirmLength heard generated =>
    exact .confirm requestLength responseLength confirmLength (grows _ heard) (grows _ generated)
  | finish finishLength finished responded received sameSession heard generated =>
    exact .finish finishLength (grows _ finished) (grows _ responded) (grows _ received)
      sameSession (grows _ heard) (grows _ generated)

variable {log : List ArchieHappening}

/-- The lengths tell the three messages apart. -/
theorem MacTraced.of_response {history response : EapOctets} {rounds : Nat}
    (traced : MacTraced log (history ++ response)) (historyLength : history.length = 260 * rounds)
    (responseLength : response.length = 848) :
    history.length = 260 := by
  generalize whole : history ++ response = covered at traced
  have long := congrArg List.length whole
  rw [List.length_append, historyLength, responseLength] at long
  cases traced with
  | response requestLength heardLength =>
    rw [List.length_append, requestLength, heardLength] at long
    omega
  | confirm requestLength heardLength confirmLength =>
    rw [List.length_append, List.length_append, requestLength, heardLength, confirmLength] at long
    omega
  | finish finishLength =>
    rw [finishLength] at long
    omega

theorem MacTraced.of_confirm {history confirm : EapOctets}
    (traced : MacTraced log (history ++ confirm)) (confirmLength : confirm.length = 592)
    (heardSome : history.length = 260 ∨ history.length = 1108) :
    ∃ request response auth, history = request ++ response ∧ response.length = 848 ∧
      .heard auth response ∈ log ∧ .generated auth (sessionOf response) ∈ log := by
  generalize whole : history ++ confirm = covered at traced
  have long := congrArg List.length whole
  rw [List.length_append, confirmLength] at long
  cases traced with
  | response requestLength heardLength =>
    rw [List.length_append, requestLength, heardLength] at long
    omega
  | @confirm auth request response other requestLength heardLength otherLength heard generated =>
    have same := List.append_inj_left' whole (confirmLength.trans otherLength.symm)
    exact ⟨request, response, auth, same, heardLength, heard, generated⟩
  | finish finishLength =>
    rw [finishLength] at long
    omega

theorem MacTraced.of_finish {finish : EapOctets} (traced : MacTraced log finish)
    (finishLength : finish.length = 36) :
    ∃ peer auth response, .finished peer finish ∈ log ∧ .responded peer response ∈ log ∧
      .received peer (sessionOf finish) ∈ log ∧ sessionOf response = sessionOf finish ∧
      .heard auth response ∈ log ∧ .generated auth (sessionOf finish) ∈ log := by
  cases traced with
  | response requestLength heardLength =>
    rw [List.length_append, requestLength, heardLength] at finishLength
    omega
  | confirm requestLength heardLength confirmLength =>
    rw [List.length_append, List.length_append, requestLength, heardLength, confirmLength]
      at finishLength
    omega
  | @finish peer auth response _ _ finished responded received sameSession heard generated =>
    exact ⟨peer, auth, response, finished, responded, received, sameSession, heard, generated⟩

/-- What a peer has heard, by its state. -/
def PeerTraced (sharedSecret : EapOctets) (log : List ArchieHappening) (index : Nat) :
    ArchiePeerState → ArchieNode → Prop
  | .initializing, node => node.history = []
  | .responseSent, node =>
    node.sharedSecret = sharedSecret ∧
      (node.history.length = 260 ∨
        ∃ request response, node.history = request ++ response ∧ request.length = 260 ∧
          response.length = 848 ∧ .responded index response ∈ log ∧
          .received index node.sessionID ∈ log ∧ sessionOf response = node.sessionID)
  | .success, _ => True
  | _, _ => False

/-- What an authenticator has heard, by its state; it has sent some Requests. -/
def AuthTraced (sharedSecret : EapOctets) (log : List ArchieHappening) (index : Nat) :
    ArchieAuthState → ArchieNode → Prop
  | .initializing, node | .requestSent, node =>
    ∃ rounds, node.history.length = 260 * rounds ∧
      (0 < rounds → .generated index node.sessionID ∈ log)
  | .confirmSent, node =>
    node.sharedSecret = sharedSecret ∧ .generated index node.sessionID ∈ log
  | .success, _ => TookPart log index
  | _, _ => False

/-- No two authenticators make one session id. -/
def OneEach (log : List ArchieHappening) : Prop :=
  ∀ first second sessionID, .generated first sessionID ∈ log →
    .generated second sessionID ∈ log → first = second

section PeerStep

variable {aesEncrypt : AesEncrypt} {sharedSecret : EapOctets} {log : List ArchieHappening}
  {index : Nat} {input : ArchieInput} {state : ArchiePeerState} {node : ArchieNode}
  {run : ArchiePeer.Run}

theorem PeerTraced.mono {longer : List ArchieHappening}
    (traced : PeerTraced sharedSecret log index state node)
    (grows : ∀ happening ∈ log, happening ∈ longer) :
    PeerTraced sharedSecret longer index state node := by
  cases state with
  | initializing => exact traced
  | responseSent =>
    refine ⟨traced.1, traced.2.imp_right ?_⟩
    intro ⟨request, response, whole, requestLength, responseLength, responded, received, same⟩
    exact ⟨request, response, whole, requestLength, responseLength, grows _ responded,
      grows _ received, same⟩
  | success => trivial
  | processRequest => exact traced
  | processConfirm => exact traced

theorem askedLength (request : EapRequestArchieRequest)
    (empty : PeerTraced sharedSecret log index .initializing node) :
    (ArchiePeer.asked input request node).history.length = 260 := by
  have isEmpty : node.history = [] := empty
  simp [ArchiePeer.asked, isEmpty]

/-- What a peer does keeps the traces. -/
theorem PeerTraced.served (traced : PeerTraced sharedSecret log index state node)
    (keyed : input.sharedSecret = sharedSecret)
    (unforged : state = .responseSent →
      macOf aesEncrypt sharedSecret (node.history ++ octetsAt input.rxMessage 4 592) =
        octetsAt input.rxMessage 596 12 →
          MacTraced log (node.history ++ octetsAt input.rxMessage 4 592))
    (served : ArchiePeer.Served aesEncrypt input node state run) :
    PeerTraced sharedSecret (log ++ ArchiePeer.happenings index state run) index run.state
        run.data ∧
      ∀ covered ∈ ArchiePeer.maced run,
        MacTraced (log ++ ArchiePeer.happenings index state run) covered := by
  cases served with
  | unread unread => exact ⟨traced, nofun⟩
  | unkeyed read short => exact ⟨traced, nofun⟩
  | @noRandom request read _ failed => exact ⟨⟨keyed, .inl (askedLength request traced)⟩, nofun⟩
  | @unnamed request random read _ isRandom noName =>
    exact ⟨⟨keyed, .inl (askedLength request traced)⟩, nofun⟩
  | @responded request random read _ isRandom named fields areFields history isHistory =>
    have empty : node.history = [] := traced
    have session : fields.sessionID = octetsAt input.rxMessage 264 32 := by
      rw [areFields, EapRequestArchieRequest.eq_of_parse read]
      rfl
    have sameSession : sessionOf (octetsAt fields.covered 4 848) = fields.sessionID := by
      rw [sessionOf, octetsAt_octetsAt _ _ (by decide),
        EapResponseArchieResponse.session_covered, session,
        firstOctets_of_length (length_octetsAt _ _ _)]
    have requestSession : request.sessionID = fields.sessionID := by rw [areFields]; rfl
    have covers (mac1 : EapOctets) :
        octetsAt (fields.covered ++ mac1) 4 848 = octetsAt fields.covered 4 848 :=
      octetsAt_append_left _ (by simp)
    let longer := log ++ [.received index request.sessionID] ++
      [.responded index (octetsAt fields.covered 4 848)]
    have received : .received index fields.sessionID ∈ longer := by
      simp [longer, requestSession]
    have responded : .responded index (octetsAt fields.covered 4 848) ∈ longer := by
      simp [longer]
    have isLog (mac1 : EapOctets) :
        log ++ ([.received index request.sessionID] ++
          [.responded index (octetsAt (fields.covered ++ mac1) 4 848)]) = longer := by
      rw [covers, ← List.append_assoc]
    rw [empty, List.nil_append] at isHistory
    have heard := MacTraced.response (length_octetsAt input.rxMessage 4 260)
      (length_octetsAt fields.covered 4 848) responded (sameSession.symm ▸ received)
    refine ⟨⟨keyed, .inr ⟨_, _, isHistory, length_octetsAt _ _ _, length_octetsAt _ _ _, ?_, ?_,
      sameSession.trans requestSession.symm⟩⟩, ?_⟩
    · exact (isLog _).symm ▸ responded
    · have sameReceived : .received index request.sessionID ∈ longer :=
        requestSession.symm ▸ received
      exact (isLog _).symm ▸ sameReceived
    · intro covered member
      cases List.mem_singleton.1 member
      exact (isLog _).symm ▸ isHistory ▸ heard
  | refused refuses => exact ⟨traced.mono fun _ => List.mem_append_left _, nofun⟩
  | @finished confirm accepts fields areFields =>
    have isConfirm := EapRequestArchieConfirm.eq_of_parse accepts.1
    have macSame : macOf aesEncrypt sharedSecret
        (node.history ++ octetsAt input.rxMessage 4 592) = octetsAt input.rxMessage 596 12 := by
      have isMac : confirm.mac2 = octetsAt input.rxMessage 596 12 := by rw [isConfirm]
      rw [← isMac, ← accepts.2.2, macOf, ArchieNode.mac, ArchieNode.kck, traced.1]
    have heardSome : node.history.length = 260 ∨ node.history.length = 1108 := by
      apply traced.2.imp_right
      intro ⟨request, response, whole, requestLength, responseLength, _⟩
      rw [whole, List.length_append, requestLength, responseLength]
    obtain ⟨request, response, auth, whole, responseLength, heard, generated⟩ :=
      (unforged rfl macSame).of_confirm (length_octetsAt _ _ _) heardSome
    apply traced.2.elim
    · intro short
      rw [whole, List.length_append, responseLength] at short
      omega
    · intro ⟨otherRequest, own, otherWhole, _, ownLength, responded, received, sameSession⟩
      have isOwn : own = response :=
        List.append_inj_right' (otherWhole.symm.trans whole)
          (ownLength.trans responseLength.symm)
      cases isOwn
      let finish := octetsAt fields.covered 4 36
      have covers (mac3 : EapOctets) : octetsAt (fields.covered ++ mac3) 4 36 = finish :=
        octetsAt_append_left _ (by simp)
      have sessionLength : node.sessionID.length = 32 := by
        rw [← sameSession, sessionOf, length_octetsAt]
      have finishSession : sessionOf finish = node.sessionID := by
        rw [sessionOf, octetsAt_octetsAt _ _ (by decide),
          EapResponseArchieFinish.session_covered, areFields]
        exact firstOctets_of_length sessionLength
      have grows : ∀ happening ∈ log, happening ∈ log ++ [.finished index finish] :=
        fun _ => List.mem_append_left _
      have sent : MacTraced (log ++ [.finished index finish]) finish :=
        .finish (length_octetsAt _ _ _) (by simp) (grows _ responded)
          (grows _ (finishSession.symm ▸ received)) (sameSession.trans finishSession.symm)
          (grows _ heard) (grows _ (sameSession.trans finishSession.symm ▸ generated))
      refine ⟨trivial, ?_⟩
      intro covered member
      cases List.mem_singleton.1 member
      rw [covers]
      have isLog (mac3 : EapOctets) :
          log ++ ([] ++ [.finished index (octetsAt (fields.covered ++ mac3) 4 36)]) =
            log ++ [.finished index finish] := by rw [covers, List.nil_append]
      exact (isLog _).symm ▸ sent
  | ended => exact ⟨trivial, nofun⟩

end PeerStep

section AuthStep

variable {aesEncrypt : AesEncrypt} {sharedSecret : EapOctets} {log : List ArchieHappening}
  {index : Nat} {input : ArchieInput} {state : ArchieAuthState} {node : ArchieNode}
  {run : ArchieAuth.Run}

theorem AuthTraced.mono {longer : List ArchieHappening}
    (traced : AuthTraced sharedSecret log index state node)
    (grows : ∀ happening ∈ log, happening ∈ longer) :
    AuthTraced sharedSecret longer index state node := by
  have asking (asked : ∃ rounds, node.history.length = 260 * rounds ∧
      (0 < rounds → .generated index node.sessionID ∈ log)) :
      ∃ rounds, node.history.length = 260 * rounds ∧
        (0 < rounds → .generated index node.sessionID ∈ longer) := by
    obtain ⟨rounds, long, generated⟩ := asked
    exact ⟨rounds, long, fun some => grows _ (generated some)⟩
  cases state with
  | initializing => exact asking traced
  | requestSent => exact asking traced
  | confirmSent => exact ⟨traced.1, grows _ traced.2⟩
  | success =>
    obtain ⟨sessionID, peer, response, finish, generated, received, responded, heard, finished,
      accepted, same⟩ := traced
    exact ⟨sessionID, peer, response, finish, grows _ generated, grows _ received,
      grows _ responded, grows _ heard, grows _ finished, grows _ accepted, same⟩
  | processResponse => exact traced
  | processFinish => exact traced

/-- A Response that is accepted answers the first Request, and carries its session id. -/
theorem AuthTraced.heard (traced : AuthTraced sharedSecret log index .requestSent node)
    (keyed : input.sharedSecret = sharedSecret)
    (unforged : macOf aesEncrypt sharedSecret (node.history ++ octetsAt input.rxMessage 4 848) =
        octetsAt input.rxMessage 852 12 →
          MacTraced log (node.history ++ octetsAt input.rxMessage 4 848))
    (ownSession : octetsAt input.rxMessage 8 32 = node.sessionID)
    {response : EapResponseArchieResponse}
    (accepts : ArchieAuth.Accepts aesEncrypt input node response) :
    response.sessionID = node.sessionID ∧ node.history.length = 260 ∧
      .generated index node.sessionID ∈ log := by
  have isResponse := EapResponseArchieResponse.eq_of_parse accepts.1
  have isMac : response.mac1 = octetsAt input.rxMessage 852 12 := by rw [isResponse]
  have macSame : macOf aesEncrypt sharedSecret
      (node.history ++ octetsAt input.rxMessage 4 848) = octetsAt input.rxMessage 852 12 := by
    rw [← isMac, ← accepts.2.2, macOf, ArchieNode.mac, ArchieNode.kck, keyed]
  obtain ⟨rounds, long, generated⟩ := traced
  have first := (unforged macSame).of_response long (length_octetsAt _ _ _)
  have session : response.sessionID = octetsAt input.rxMessage 8 32 := by rw [isResponse]
  exact ⟨session.trans ownSession, first, generated (by omega)⟩

/-- What an authenticator does keeps the traces. -/
theorem AuthTraced.served (traced : AuthTraced sharedSecret log index state node)
    (keyed : input.sharedSecret = sharedSecret) (unique : OneEach log)
    (unforgedResponse : state = .requestSent →
      macOf aesEncrypt sharedSecret (node.history ++ octetsAt input.rxMessage 4 848) =
        octetsAt input.rxMessage 852 12 →
          MacTraced log (node.history ++ octetsAt input.rxMessage 4 848))
    (unforgedFinish : state = .confirmSent →
      macOf aesEncrypt sharedSecret (octetsAt input.rxMessage 4 36) =
        octetsAt input.rxMessage 40 12 → MacTraced log (octetsAt input.rxMessage 4 36))
    (ownSession : state = .requestSent → octetsAt input.rxMessage 8 32 = node.sessionID)
    (served : ArchieAuth.Served aesEncrypt input node state run) :
    AuthTraced sharedSecret (log ++ ArchieAuth.happenings index state input run) index run.state
        run.data ∧
      ∀ covered ∈ ArchieAuth.maced run,
        MacTraced (log ++ ArchieAuth.happenings index state input run) covered := by
  have grows : ∀ happening ∈ log,
      happening ∈ log ++ ArchieAuth.happenings index state input run :=
    fun _ => List.mem_append_left _
  cases served with
  | noRandom failed =>
    refine ⟨?_, nofun⟩
    obtain ⟨rounds, long, generated⟩ := traced
    exact ⟨rounds, long, fun some => grows _ (generated some)⟩
  | @unnamed random isRandom noName =>
    refine ⟨?_, nofun⟩
    obtain ⟨rounds, long, _⟩ := traced
    refine ⟨rounds, long, fun _ => ?_⟩
    simp [ArchieAuth.happenings, isRandom]
  | @requested random isRandom named msg built =>
    refine ⟨?_, nofun⟩
    obtain ⟨rounds, long, _⟩ := traced
    refine ⟨rounds + 1, ?_, fun _ => ?_⟩
    · rw [List.length_append, long, length_octetsAt]
      omega
    · simp [ArchieAuth.happenings, isRandom]
  | refused refuses =>
    refine ⟨?_, nofun⟩
    obtain ⟨rounds, long, generated⟩ := traced
    exact ⟨rounds, long, fun some => grows _ (generated some)⟩
  | @unconfirmed response accepts failed =>
    have own := traced.heard keyed (unforgedResponse rfl) (ownSession rfl) accepts
    have made : .generated index response.sessionID ∈ log := own.1.symm ▸ own.2.2
    exact ⟨⟨keyed, grows _ made⟩, nofun⟩
  | @confirmed response random accepts isRandom fields areFields history isHistory =>
    have own := traced.heard keyed (unforgedResponse rfl) (ownSession rfl) accepts
    have made : .generated index response.sessionID ∈ log := own.1.symm ▸ own.2.2
    refine ⟨⟨keyed, grows _ made⟩, ?_⟩
    intro covered member
    cases List.mem_singleton.1 member
    have session : sessionOf (octetsAt input.rxMessage 4 848) = node.sessionID := by
      rw [sessionOf, octetsAt_octetsAt _ _ (by decide), ownSession rfl]
    rw [isHistory]
    refine .confirm own.2.1 (length_octetsAt _ _ _) (length_octetsAt _ _ _) ?_
      (session.symm ▸ grows _ own.2.2)
    exact List.mem_append_right _ List.mem_cons_self
  | finishRefused refuses => exact ⟨⟨traced.1, grows _ traced.2⟩, nofun⟩
  | finished accepts =>
    refine ⟨?_, nofun⟩
    obtain ⟨finish, read, sameSession, checked⟩ := accepts
    have isFinish := EapResponseArchieFinish.eq_of_parse read
    have isMac : finish.mac3 = octetsAt input.rxMessage 40 12 := by rw [isFinish]
    have macSame : macOf aesEncrypt sharedSecret (octetsAt input.rxMessage 4 36) =
        octetsAt input.rxMessage 40 12 := by
      rw [← isMac, ← checked, macOf, ArchieNode.mac, ArchieNode.kck, traced.1]
    obtain ⟨peer, auth, response, finished, responded, received, sameResponse, heard, generated⟩ :=
      (unforgedFinish rfl macSame).of_finish (length_octetsAt _ _ _)
    have session : sessionOf (octetsAt input.rxMessage 4 36) = node.sessionID := by
      rw [sessionOf, octetsAt_octetsAt _ _ (by decide), ← sameSession, isFinish]
    have isOwn : auth = index := unique _ _ _ (session ▸ generated) traced.2
    cases isOwn
    refine ⟨node.sessionID, peer, response, octetsAt input.rxMessage 4 36, grows _ traced.2,
      grows _ (session ▸ received), grows _ responded, grows _ heard, grows _ finished, ?_,
      sameResponse.trans session, session⟩
    simp [ArchieAuth.happenings]
  | ended => exact ⟨traced.mono grows, nofun⟩

end AuthStep

structure Traced (sharedSecret : EapOctets) (world : ArchieWorld) : Prop where
  peers : ∀ index, PeerTraced sharedSecret world.log index (world.peers index).1
    (world.peers index).2
  auths : ∀ index, AuthTraced sharedSecret world.log index (world.auths index).1
    (world.auths index).2
  maced : ∀ covered ∈ world.maced, MacTraced world.log covered
  randoms : ∀ index sessionID, .generated index sessionID ∈ world.log →
    ∃ random ∈ world.randoms, firstOctets random 32 = sessionID
  unique : OneEach world.log

theorem not_generated_peer {index made : Nat} {before : ArchiePeerState} {run : ArchiePeer.Run}
    {sessionID : EapOctets} :
    .generated made sessionID ∉ ArchiePeer.happenings index before run := by
  rw [ArchiePeer.happenings, List.mem_append]
  rintro (member | member)
  · split at member
    · cases List.mem_singleton.1 member
    · cases member
  · split at member
    · cases List.mem_singleton.1 member
    · cases List.mem_singleton.1 member
    · cases member

/-- A session id that is made is the one of the random numbers that were given. -/
theorem generated_auth {aesEncrypt : AesEncrypt} {index made : Nat} {state : ArchieAuthState}
    {input : ArchieInput} {node : ArchieNode} {run : ArchieAuth.Run} {sessionID : EapOctets}
    (served : ArchieAuth.Served aesEncrypt input node state run)
    (member : .generated made sessionID ∈ ArchieAuth.happenings index state input run) :
    made = index ∧ ∃ random ∈ input.random, firstOctets random 32 = sessionID := by
  cases served with
  | noRandom failed => simp [ArchieAuth.happenings, failed] at member
  | @unnamed random isRandom noName =>
    simp only [ArchieAuth.happenings, isRandom, Option.isSome_some, if_true,
      List.mem_singleton] at member
    cases member
    exact ⟨rfl, random, isRandom, rfl⟩
  | @requested random isRandom named msg built =>
    simp only [ArchieAuth.happenings, isRandom, Option.isSome_some, if_true,
      List.mem_singleton] at member
    cases member
    exact ⟨rfl, random, isRandom, rfl⟩
  | refused refuses => cases member
  | unconfirmed accepts failed => cases List.mem_singleton.1 member
  | confirmed accepts isRandom areFields isHistory => cases List.mem_singleton.1 member
  | finishRefused refuses => cases member
  | finished accepts => cases List.mem_singleton.1 member
  | ended => cases member

section Runs

variable {aesEncrypt : AesEncrypt} {sharedSecret : EapOctets} {world next : ArchieWorld}
  {delivery : ArchieDelivery}

theorem Started.traced (started : world.Started) : Traced sharedSecret world where
  peers index := by
    obtain ⟨isFirst, isStart⟩ := started.peers index
    rw [isFirst, ← isStart]
    rfl
  auths index := by
    obtain ⟨isFirst, isStart⟩ := started.auths index
    rw [isFirst, ← isStart]
    exact ⟨0, rfl, nofun⟩
  maced covered member := by
    rw [started.maced] at member
    cases member
  randoms index sessionID member := by
    rw [started.log] at member
    cases member
  unique first second sessionID member := by
    rw [started.log] at member
    cases member

variable {index : Nat}

theorem PeerTraced.waits {log : List ArchieHappening} {state : ArchiePeerState} {node : ArchieNode}
    (traced : PeerTraced sharedSecret log index state node) :
    ArchiePeer.Waits state := by
  cases state with
  | initializing => exact .inl rfl
  | responseSent => exact .inr (.inl rfl)
  | success => exact .inr (.inr rfl)
  | processRequest => exact traced.elim
  | processConfirm => exact traced.elim

theorem AuthTraced.waits {log : List ArchieHappening} {state : ArchieAuthState} {node : ArchieNode}
    (traced : AuthTraced sharedSecret log index state node) :
    ArchieAuth.Waits state := by
  cases state with
  | initializing => exact .inl rfl
  | requestSent => exact .inr (.inl rfl)
  | confirmSent => exact .inr (.inr (.inl rfl))
  | success => exact .inr (.inr (.inr rfl))
  | processResponse => exact traced.elim
  | processFinish => exact traced.elim

/-- A delivery to a peer. -/
theorem Traced.toPeer (traced : Traced sharedSecret world) {input : ArchieInput}
    (keyed : input.sharedSecret = sharedSecret)
    (unforged : world.Unforged aesEncrypt sharedSecret (.toPeer index input)) :
    Traced sharedSecret (world.deliver aesEncrypt (.toPeer index input)) := by
  have served := ArchiePeer.serve_served aesEncrypt input (world.peers index).2
    (traced.peers index).waits
  have kept := (traced.peers index).served keyed
    (fun waiting macSame => traced.maced _ (unforged waiting macSame)) served
  have grows : ∀ happening ∈ world.log,
      happening ∈ (world.deliver aesEncrypt (.toPeer index input)).log :=
    fun _ => List.mem_append_left _
  have older {made : Nat} {sessionID : EapOctets}
      (member : .generated made sessionID ∈ (world.deliver aesEncrypt (.toPeer index input)).log) :
      .generated made sessionID ∈ world.log :=
    (List.mem_append.1 member).resolve_right not_generated_peer
  constructor
  · intro other
    by_cases same : other = index
    · cases same
      simpa only [deliver, peerRun, Function.update_self] using kept.1
    · simpa only [deliver, Function.update_of_ne same] using (traced.peers other).mono grows
  · intro other
    exact (traced.auths other).mono grows
  · intro covered member
    apply (List.mem_append.1 member).elim
    · intro old
      exact (traced.maced covered old).mono grows
    · exact kept.2 covered
  · intro made sessionID member
    obtain ⟨random, given, same⟩ := traced.randoms made sessionID (older member)
    exact ⟨random, List.mem_append_left _ given, same⟩
  · intro first second sessionID member other
    exact traced.unique first second sessionID (older member) (older other)

/-- A delivery to an authenticator. -/
theorem Traced.toAuth (traced : Traced sharedSecret world) {input : ArchieInput}
    (keyed : input.sharedSecret = sharedSecret) (fresh : world.Fresh (.toAuth index input))
    (unforged : world.Unforged aesEncrypt sharedSecret (.toAuth index input))
    (ownSession : world.OwnSession (.toAuth index input)) :
    Traced sharedSecret (world.deliver aesEncrypt (.toAuth index input)) := by
  have served := ArchieAuth.serve_served aesEncrypt input (world.auths index).2
    (traced.auths index).waits
  have kept := (traced.auths index).served keyed traced.unique
    (fun waiting macSame => traced.maced _ (unforged.1 waiting macSame))
    (fun waiting macSame => traced.maced _ (unforged.2 waiting macSame)) ownSession served
  have grows : ∀ happening ∈ world.log,
      happening ∈ (world.deliver aesEncrypt (.toAuth index input)).log :=
    fun _ => List.mem_append_left _
  -- A session id that is made now was not made before.
  have isNew {old : Nat} {sessionID : EapOctets} (before : .generated old sessionID ∈ world.log)
      (now : ∃ random ∈ input.random, firstOctets random 32 = sessionID) : False := by
    obtain ⟨random, given, same⟩ := now
    obtain ⟨earlier, wasGiven, wasSame⟩ := traced.randoms old sessionID before
    exact (fresh random given earlier wasGiven).1 (same.trans wasSame.symm)
  constructor
  · intro other
    exact (traced.peers other).mono grows
  · intro other
    by_cases same : other = index
    · cases same
      simpa only [deliver, authRun, Function.update_self] using kept.1
    · simpa only [deliver, Function.update_of_ne same] using (traced.auths other).mono grows
  · intro covered member
    apply (List.mem_append.1 member).elim
    · intro old
      exact (traced.maced covered old).mono grows
    · exact kept.2 covered
  · intro made sessionID member
    apply (List.mem_append.1 member).elim
    · intro old
      obtain ⟨random, given, same⟩ := traced.randoms made sessionID old
      exact ⟨random, List.mem_append_left _ given, same⟩
    · intro now
      obtain ⟨_, random, given, same⟩ := generated_auth served now
      exact ⟨random, List.mem_append_right _ (Option.mem_toList.2 given), same⟩
  · intro first second sessionID member other
    cases List.mem_append.1 member with
    | inl old =>
      cases List.mem_append.1 other with
      | inl otherOld => exact traced.unique first second sessionID old otherOld
      | inr now => exact (isNew old (generated_auth served now).2).elim
    | inr now =>
      cases List.mem_append.1 other with
      | inl otherOld => exact (isNew otherOld (generated_auth served now).2).elim
      | inr otherNow =>
        exact (generated_auth served now).1.trans (generated_auth served otherNow).1.symm

theorem Traced.attacked (traced : Traced sharedSecret world)
    (attacked : world.Attacked aesEncrypt sharedSecret delivery next)
    (ownSession : world.OwnSession delivery) : Traced sharedSecret next := by
  rw [attacked.delivers]
  cases delivery with
  | toPeer index input => exact traced.toPeer attacked.keyed attacked.unforged
  | toAuth index input =>
    exact traced.toAuth attacked.keyed attacked.fresh attacked.unforged ownSession

theorem traced_of_reached
    (reached : Reached Started (Attacked aesEncrypt sharedSecret) OwnSession world) :
    Traced sharedSecret world :=
  reached.invariant (Traced sharedSecret) (fun _ => Started.traced)
    fun _ _ _ traced attacked ownSession => traced.attacked attacked ownSession

/-- Where every authenticator is given Responses to its own Request only, one that succeeds has had
a peer in its run. -/
theorem fresh_of_own_session
    (reached : Reached Started (Attacked aesEncrypt sharedSecret) OwnSession world) {auth : Nat}
    (succeeds : (world.auths auth).1 = .success) : TookPart world.log auth := by
  have traced := (traced_of_reached reached).auths auth
  rw [succeeds] at traced
  exact traced

end Runs

end ArchieWorld

end OpenDiameter.Eap
