import OpenDiameter.Eap.Gpsk

/-!
A conversation of EAP-GPSK whose four messages arrive as they were sent, but for the header, which
the switches write.
-/

namespace OpenDiameter.Eap

open OpenDiameter.Foundation OpenDiameter.Framework

/-- What the applications and the random number generators of both sides give. -/
structure GpskSetting where
  sharedSecret : EapOctets
  serverID : EapOctets
  serverNamed : serverID.length ≠ 0
  peerID : EapOctets
  peerNamed : peerID.length ≠ 0
  validatePeerIdentity : EapOctets → Bool
  peerValid : validatePeerIdentity peerID = true
  isPeerAuthorized : EapOctets → Bool
  peerAuthorized : isPeerAuthorized peerID = true
  randomServer : EapOctets
  randomPeer : EapOctets
  /-- The peer before the start, with its suite. -/
  peer : GpskNode
  secretLength : ∀ keySize ∈ peer.cipherSuite.keySize, keySize ≤ sharedSecret.length
  /-- The authenticator before the start, with its list of suites. -/
  auth : GpskNode
  listed : peer.cipherSuite ∈ auth.cipherSuiteList
  /-- The longest message has a MAC of sixteen octets behind its fields. -/
  fits : peerID.length + serverID.length + 6 * auth.cipherSuiteList.length + 100 ≤ gpskMaxPktSize
  gpsk1Header : EapHeader
  gpsk2Header : EapHeader
  gpsk3Header : EapHeader
  gpsk4Header : EapHeader

namespace GpskSetting

variable (aesEncrypt : AesEncrypt) (setting : GpskSetting)

/-- What the authenticator is given with a message. -/
def authInput (rxMessage : EapOctets) (random : Option EapOctets) : GpskInput where
  rxMessage := rxMessage
  sharedSecret := setting.sharedSecret
  identity := setting.serverID
  random := random
  validatePeerIdentity := setting.validatePeerIdentity
  isPeerAuthorized := setting.isPeerAuthorized

def peerInput (rxMessage : EapOctets) (random : Option EapOctets) : GpskInput where
  rxMessage := rxMessage
  sharedSecret := setting.sharedSecret
  identity := setting.peerID
  random := random

/-- The authenticator starts. -/
def requested : MethodRun GpskAuthState GpskEvent GpskNode AuthReport :=
  serveGpskAuth aesEncrypt (setting.authInput [] (some setting.randomServer))
    .sgIntegrityCheck .initializing setting.auth.start

def gpsk1Msg : EapOctets :=
  writeHeader setting.gpsk1Header (AuthReport.transmitted (setting.requested aesEncrypt).reports)

/-- The peer has the first message. -/
def answered : MethodRun GpskPeerState GpskEvent GpskNode PeerReport :=
  serveGpskPeer aesEncrypt
    (setting.peerInput (setting.gpsk1Msg aesEncrypt) (some setting.randomPeer))
    .sgIntegrityCheck .initializing setting.peer.start

def gpsk2Msg : EapOctets :=
  writeHeader setting.gpsk2Header (PeerReport.transmitted (setting.answered aesEncrypt).reports)

/-- The authenticator has the second. -/
def confirmed : MethodRun GpskAuthState GpskEvent GpskNode AuthReport :=
  serveGpskAuth aesEncrypt (setting.authInput (setting.gpsk2Msg aesEncrypt) none)
    .sgIntegrityCheck (setting.requested aesEncrypt).state (setting.requested aesEncrypt).data

def gpsk3Msg : EapOctets :=
  writeHeader setting.gpsk3Header (AuthReport.transmitted (setting.confirmed aesEncrypt).reports)

/-- The peer has the third. -/
def finished : MethodRun GpskPeerState GpskEvent GpskNode PeerReport :=
  serveGpskPeer aesEncrypt (setting.peerInput (setting.gpsk3Msg aesEncrypt) none)
    .sgIntegrityCheck (setting.answered aesEncrypt).state (setting.answered aesEncrypt).data

def gpsk4Msg : EapOctets :=
  writeHeader setting.gpsk4Header (PeerReport.transmitted (setting.finished aesEncrypt).reports)

/-- The authenticator has the fourth. -/
def accepted : MethodRun GpskAuthState GpskEvent GpskNode AuthReport :=
  serveGpskAuth aesEncrypt (setting.authInput (setting.gpsk4Msg aesEncrypt) none)
    .sgIntegrityCheck (setting.confirmed aesEncrypt).state (setting.confirmed aesEncrypt).data

/-! The fields that the messages are built from. -/

def serverRAND : EapOctets := firstOctets setting.randomServer 32

def peerRAND : EapOctets := firstOctets setting.randomPeer 32

/-- What a MAC of this conversation is made with. -/
def mac (octets : EapOctets) : EapOctets := aesCmac aesEncrypt setting.sharedSecret octets

def gpsk1 : EapGpsk1 where
  idServer := setting.serverID
  randServer := setting.serverRAND
  csuiteList := setting.auth.cipherSuiteList

/-- The second message without its MAC. -/
def gpsk2Fields : EapGpsk2 where
  idPeer := setting.peerID
  idServer := setting.serverID
  randPeer := setting.peerRAND
  randServer := setting.serverRAND
  csuiteList := setting.auth.cipherSuiteList
  csuiteSelected := setting.peer.cipherSuite

def gpsk2 : EapGpsk2 :=
  { setting.gpsk2Fields with mac := setting.mac aesEncrypt setting.gpsk2Fields.octets }

def gpsk3Fields : EapGpsk3 where
  randPeer := setting.peerRAND
  randServer := setting.serverRAND
  idServer := setting.serverID
  csuiteSelected := setting.peer.cipherSuite

def gpsk3 : EapGpsk3 :=
  { setting.gpsk3Fields with mac := setting.mac aesEncrypt setting.gpsk3Fields.octets }

def gpsk4 : EapGpsk4 where
  mac := setting.mac aesEncrypt (writeShort 0)

/-- Each message is read as it was built, each side accepts, and both have one key. -/
structure Agrees : Prop where
  readGpsk1 : EapGpsk1.parseRawToApp ((setting.gpsk1Msg aesEncrypt).drop 5) = some setting.gpsk1
  readGpsk2 : EapGpsk2.parseRawToApp ((setting.gpsk2Msg aesEncrypt).drop 5) =
    some (setting.gpsk2 aesEncrypt)
  readGpsk3 : EapGpsk3.parseRawToApp ((setting.gpsk3Msg aesEncrypt).drop 5) =
    .ok (setting.gpsk3 aesEncrypt)
  readGpsk4 : EapGpsk4.parseRawToApp ((setting.gpsk4Msg aesEncrypt).drop 5) =
    some (setting.gpsk4 aesEncrypt)
  /-- The MAC of the second message is accepted. -/
  confirmed : (setting.confirmed aesEncrypt).state = .gpsk3Sent
  peerSuccess : (setting.finished aesEncrypt).state = .success ∧
    .decision .uncondSucc ∈ (setting.finished aesEncrypt).reports
  authSuccess : (setting.accepted aesEncrypt).state = .success ∧
    .policyUpdate .policyOnSuccess ∈ (setting.accepted aesEncrypt).reports
  sameKey : (setting.finished aesEncrypt).data.masterKey =
    (setting.accepted aesEncrypt).data.masterKey
  keyData : (setting.finished aesEncrypt).data.keyData =
    (setting.accepted aesEncrypt).data.keyData
  keyLength : (setting.finished aesEncrypt).data.masterKey.length = 16

/-- There is one suite, which is one of AES. -/
structure Uniform : Prop where
  same : ∀ suite ∈ setting.auth.cipherSuiteList, suite = setting.peer.cipherSuite
  aes : setting.peer.cipherSuite.cipherSuite = 1

@[simp] theorem length_serverRAND : setting.serverRAND.length = 32 := length_firstOctets _ _

@[simp] theorem length_peerRAND : setting.peerRAND.length = 32 := length_firstOctets _ _

@[simp] theorem length_mac (octets : EapOctets) : (setting.mac aesEncrypt octets).length = 16 :=
  length_aesCmac _ _ _

theorem listed_length : setting.auth.cipherSuiteList.length ≠ 0 :=
  Nat.ne_of_gt (List.length_pos_of_mem setting.listed)

theorem gpsk1_fits : setting.gpsk1.Fits := by
  have room := setting.fits
  exact ⟨setting.serverNamed, setting.listed_length, setting.length_serverRAND, by
    simp only [gpsk1]
    omega⟩

theorem gpsk2_fits : setting.gpsk2Fields.Fits := by
  have room := setting.fits
  exact ⟨setting.peerNamed, setting.serverNamed, setting.listed_length, setting.length_peerRAND,
    setting.length_serverRAND, by
    simp only [gpsk2Fields]
    omega⟩

theorem gpsk3_fits : setting.gpsk3Fields.Fits := by
  have room := setting.fits
  exact ⟨setting.serverNamed, setting.length_peerRAND, setting.length_serverRAND, by
    simp only [gpsk3Fields]
    omega⟩

/-! The data of both sides after each check and each message. -/

def requestedNode : GpskNode :=
  { setting.auth.start with
    serverRAND := setting.serverRAND
    sharedSecret := setting.sharedSecret
    serverID := setting.serverID }

def askedNode : GpskNode :=
  { setting.peer.start with
    serverID := setting.serverID
    serverRAND := setting.serverRAND
    cipherSuiteList := setting.auth.cipherSuiteList }

def answeredNode : GpskNode :=
  { setting.askedNode with
    peerID := setting.peerID
    peerRAND := setting.peerRAND
    sharedSecret := setting.sharedSecret }

def savedNode : GpskNode :=
  { setting.requestedNode with
    peerID := setting.peerID
    peerRAND := setting.peerRAND
    cipherSuite := setting.peer.cipherSuite
    payload := [] }

def keptNode : GpskNode := { setting.answeredNode with payload := [] }

theorem requested_eq :
    setting.requested aesEncrypt =
      { state := .gpsk1Sent
        data := setting.requestedNode
        reports := [.txMessage (gpskHead 1 ++ setting.gpsk1.octets), .validResp] } := by
  have found : (gpskAuth aesEncrypt).table.find .initializing .sgIntegrityCheck =
      some ⟨.initializing, some .sgIntegrityCheck, .gpsk1Sent, some .buildGpsk1⟩ := rfl
  have built : EapGpsk1.parseAppToRaw
      { idServer := setting.serverID
        randServer := firstOctets setting.randomServer 32
        csuiteList := setting.auth.start.cipherSuiteList } =
      some (gpskHead 1 ++ setting.gpsk1.octets) := EapGpsk1.write_eq setting.gpsk1_fits
  have does : (gpskAuth aesEncrypt).act (some .buildGpsk1)
      (setting.authInput [] (some setting.randomServer)) setting.auth.start =
      { data := setting.requestedNode
        reports := [.txMessage (gpskHead 1 ++ setting.gpsk1.octets), .validResp] } := by
    simp only [MethodMachine.act, gpskAuth, GpskAuth.perform, GpskAuth.buildGpsk1, authInput, built]
    rfl
  exact MethodMachine.event_ends found does rfl

theorem gpsk4_written :
    (setting.gpsk4 aesEncrypt).parseAppToRaw =
      some (gpskHead 4 ++ (writeShort 0 ++ (setting.gpsk4 aesEncrypt).mac)) := by
  apply EapGpsk4.write_mac_eq
  · rw [length_mac]
    decide
  · rw [length_mac]
    decide

theorem raw_gpsk1Msg :
    (setting.gpsk1Msg aesEncrypt).drop 5 = 1 :: setting.gpsk1.octets := by
  rw [gpsk1Msg, requested_eq]
  exact raw_writeHeader _ _ _

/-- The peer reads the first suite in the place of all of them. -/
theorem parse_gpsk1Msg {suite : EapGpskCipherSuite}
    (first : setting.auth.cipherSuiteList.head? = some suite) :
    EapGpsk1.parseRawToApp ((setting.gpsk1Msg aesEncrypt).drop 5) =
      some
        { setting.gpsk1 with
          csuiteList := List.replicate setting.auth.cipherSuiteList.length suite } := by
  rw [raw_gpsk1Msg]
  exact EapGpsk1.parse_octets setting.gpsk1_fits first

/-! One suite of AES. -/

section Uniform

variable {setting : GpskSetting} (uniform : setting.Uniform)

include uniform

theorem suites_eq :
    List.replicate setting.auth.cipherSuiteList.length setting.peer.cipherSuite =
      setting.auth.cipherSuiteList :=
  (List.eq_replicate_of_mem uniform.same).symm

theorem head_suites :
    setting.auth.cipherSuiteList.head? = some setting.peer.cipherSuite := by
  have some := setting.listed_length
  rw [← suites_eq uniform, List.head?_replicate, if_neg some]

theorem keySize_eq : setting.peer.cipherSuite.keySize = some 16 :=
  EapGpskCipherSuite.keySize_eq_sixteen.2 uniform.aes

theorem read_gpsk1Msg :
    EapGpsk1.parseRawToApp ((setting.gpsk1Msg aesEncrypt).drop 5) = some setting.gpsk1 := by
  rw [setting.parse_gpsk1Msg aesEncrypt (head_suites uniform), suites_eq uniform]
  rfl

theorem gpsk2_written :
    (setting.gpsk2 aesEncrypt).parseAppToRaw =
      some (gpskHead 2 ++ (setting.gpsk2Fields.octets ++ (setting.gpsk2 aesEncrypt).mac)) := by
  have long : (setting.gpsk2 aesEncrypt).mac.length = 16 := setting.length_mac aesEncrypt _
  have room := setting.fits
  have fits : (setting.gpsk2 aesEncrypt).Fits := { setting.gpsk2_fits with }
  apply EapGpsk2.write_mac_eq fits
  · rw [long]
    decide
  · rw [long]
    exact keySize_eq uniform
  · rw [EapGpsk2.length_octets fits, long]
    simp only [gpsk2, gpsk2Fields]
    omega

theorem answered_eq :
    setting.answered aesEncrypt =
      { state := .gpsk2Sent
        data := setting.answeredNode
        reports :=
          [.txMessage
              (gpskHead 2 ++ (setting.gpsk2Fields.octets ++ (setting.gpsk2 aesEncrypt).mac)),
            .methodState .cont, .validReq] } := by
  let input := setting.peerInput (setting.gpsk1Msg aesEncrypt) (some setting.randomPeer)
  have found : (gpskPeer aesEncrypt).table.find .initializing .sgIntegrityCheck =
      some ⟨.initializing, some .sgIntegrityCheck, .processGpsk1,
        some .doIntegrityCheckForGpsk1Msg⟩ := rfl
  have does : (gpskPeer aesEncrypt).act (some .doIntegrityCheckForGpsk1Msg) input
      setting.peer.start = { data := setting.askedNode, raised := some .sgValid } := by
    simp only [input, MethodMachine.act, gpskPeer, GpskPeer.perform, peerInput, GpskInput.raw,
      GpskPeer.doIntegrityCheckForGpsk1Msg, read_gpsk1Msg aesEncrypt uniform]
    rfl
  have foundNext : (gpskPeer aesEncrypt).table.find .processGpsk1 .sgValid =
      some ⟨.processGpsk1, some .sgValid, .gpsk2Sent, some .buildGpsk2⟩ := rfl
  have built : EapGpsk2.parseAppToRaw
      { idPeer := setting.peerID
        idServer := setting.askedNode.serverID
        randPeer := firstOctets setting.randomPeer 32
        randServer := setting.askedNode.serverRAND
        csuiteList := setting.askedNode.cipherSuiteList
        csuiteSelected := setting.askedNode.cipherSuite } =
      some (gpskHead 2 ++ setting.gpsk2Fields.octets) :=
    EapGpsk2.write_eq setting.gpsk2_fits rfl
  have signed : EapGpsk2.parseAppToRaw
      { idPeer := setting.peerID
        idServer := setting.askedNode.serverID
        randPeer := firstOctets setting.randomPeer 32
        randServer := setting.askedNode.serverRAND
        csuiteList := setting.askedNode.cipherSuiteList
        csuiteSelected := setting.askedNode.cipherSuite
        mac := setting.answeredNode.mac aesEncrypt (gpskHead 2 ++ setting.gpsk2Fields.octets) } =
      some (gpskHead 2 ++ (setting.gpsk2Fields.octets ++ (setting.gpsk2 aesEncrypt).mac)) :=
    gpsk2_written aesEncrypt uniform
  have doesNext : (gpskPeer aesEncrypt).act (some .buildGpsk2) input setting.askedNode =
      { data := setting.answeredNode
        reports :=
          [.txMessage
              (gpskHead 2 ++ (setting.gpsk2Fields.octets ++ (setting.gpsk2 aesEncrypt).mac)),
            .methodState .cont, .validReq] } := by
    simp only [input, MethodMachine.act, gpskPeer, GpskPeer.perform, peerInput,
      GpskPeer.buildGpsk2, built]
    rw [show ({ setting.askedNode with
      peerID := setting.peerID
      peerRAND := firstOctets setting.randomPeer 32
      sharedSecret := setting.sharedSecret } : GpskNode) = setting.answeredNode from rfl, signed]
  exact MethodMachine.event_checked found does foundNext doesNext

theorem read_gpsk2Msg :
    EapGpsk2.parseRawToApp ((setting.gpsk2Msg aesEncrypt).drop 5) =
      some (setting.gpsk2 aesEncrypt) := by
  have fits : (setting.gpsk2 aesEncrypt).Fits := { setting.gpsk2_fits with }
  have long : (setting.gpsk2 aesEncrypt).mac.length = 16 := setting.length_mac aesEncrypt _
  have isSize : (setting.gpsk2 aesEncrypt).csuiteSelected.keySize =
      some (setting.gpsk2 aesEncrypt).mac.length := by
    rw [long]
    exact keySize_eq uniform
  have same : List.replicate (setting.gpsk2 aesEncrypt).csuiteList.length
      setting.peer.cipherSuite = (setting.gpsk2 aesEncrypt).csuiteList := suites_eq uniform
  have raw : (setting.gpsk2Msg aesEncrypt).drop 5 =
      2 :: ((setting.gpsk2 aesEncrypt).octets ++ (setting.gpsk2 aesEncrypt).mac) := by
    rw [gpsk2Msg, answered_eq aesEncrypt uniform]
    exact raw_writeHeader _ _ _
  rw [raw, EapGpsk2.parse_octets fits (head_suites uniform) isSize, same]
  rfl

theorem gpsk3_written :
    (setting.gpsk3 aesEncrypt).parseAppToRaw =
      some (gpskHead 3 ++ (setting.gpsk3Fields.octets ++ (setting.gpsk3 aesEncrypt).mac)) := by
  have long : (setting.gpsk3 aesEncrypt).mac.length = 16 := setting.length_mac aesEncrypt _
  have room := setting.fits
  have fits : (setting.gpsk3 aesEncrypt).Fits := { setting.gpsk3_fits with }
  apply EapGpsk3.write_mac_eq fits
  · rw [long]
    decide
  · rw [long]
    exact keySize_eq uniform
  · rw [EapGpsk3.length_octets fits, long]
    simp only [gpsk3, gpsk3Fields]
    omega

theorem confirmed_eq :
    setting.confirmed aesEncrypt =
      { state := .gpsk3Sent
        data := setting.savedNode
        reports :=
          [.txMessage
              (gpskHead 3 ++ (setting.gpsk3Fields.octets ++ (setting.gpsk3 aesEncrypt).mac)),
            .validResp] } := by
  let input := setting.authInput (setting.gpsk2Msg aesEncrypt) none
  have found : (gpskAuth aesEncrypt).table.find .gpsk1Sent .sgIntegrityCheck =
      some ⟨.gpsk1Sent, some .sgIntegrityCheck, .processGpsk2,
        some .doIntegrityCheckForGpsk2Msg⟩ := rfl
  have does : (gpskAuth aesEncrypt).act (some .doIntegrityCheckForGpsk2Msg) input
      setting.requestedNode = { data := setting.savedNode, raised := some .sgValid } := by
    have sameRAND : ¬(setting.gpsk2 aesEncrypt).randServer ≠ setting.requestedNode.serverRAND :=
      fun other => other rfl
    have sameList : ¬(setting.gpsk2 aesEncrypt).csuiteList ≠
        setting.requestedNode.cipherSuiteList := fun other => other rfl
    have selected : ¬(setting.gpsk2 aesEncrypt).csuiteSelected ∉
        setting.requestedNode.cipherSuiteList := fun other => other setting.listed
    have valid : ¬setting.validatePeerIdentity (setting.gpsk2 aesEncrypt).idPeer = false := by
      rw [show (setting.gpsk2 aesEncrypt).idPeer = setting.peerID from rfl, setting.peerValid]
      decide
    have authorized : ¬setting.isPeerAuthorized (setting.gpsk2 aesEncrypt).idPeer = false := by
      rw [show (setting.gpsk2 aesEncrypt).idPeer = setting.peerID from rfl,
        setting.peerAuthorized]
      decide
    have built : ({ setting.gpsk2 aesEncrypt with mac := [] } : EapGpsk2).parseAppToRaw =
        some (gpskHead 2 ++ setting.gpsk2Fields.octets) :=
      EapGpsk2.write_eq setting.gpsk2_fits rfl
    have checks : ¬(setting.gpsk2 aesEncrypt).mac ≠
        setting.savedNode.mac aesEncrypt (gpskHead 2 ++ setting.gpsk2Fields.octets) :=
      fun other => other rfl
    simp only [input, MethodMachine.act, gpskAuth, GpskAuth.perform, authInput, GpskInput.raw,
      GpskAuth.doIntegrityCheckForGpsk2Msg, read_gpsk2Msg aesEncrypt uniform, if_neg sameRAND,
      if_neg sameList, if_neg selected, if_neg valid, built, if_neg authorized]
    exact if_neg checks
  have foundNext : (gpskAuth aesEncrypt).table.find .processGpsk2 .sgValid =
      some ⟨.processGpsk2, some .sgValid, .gpsk3Sent, some .buildGpsk3⟩ := rfl
  have doesNext : (gpskAuth aesEncrypt).act (some .buildGpsk3) input setting.savedNode =
      { data := setting.savedNode
        reports :=
          [.txMessage
              (gpskHead 3 ++ (setting.gpsk3Fields.octets ++ (setting.gpsk3 aesEncrypt).mac)),
            .validResp] } := by
    have built : EapGpsk3.parseAppToRaw
        { idServer := setting.savedNode.serverID
          randPeer := setting.savedNode.peerRAND
          randServer := setting.savedNode.serverRAND
          csuiteSelected := setting.savedNode.cipherSuite } =
        some (gpskHead 3 ++ setting.gpsk3Fields.octets) :=
      EapGpsk3.write_eq setting.gpsk3_fits rfl
    have signed : EapGpsk3.parseAppToRaw
        { idServer := setting.savedNode.serverID
          randPeer := setting.savedNode.peerRAND
          randServer := setting.savedNode.serverRAND
          csuiteSelected := setting.savedNode.cipherSuite
          mac := setting.savedNode.mac aesEncrypt (gpskHead 3 ++ setting.gpsk3Fields.octets) } =
        some (gpskHead 3 ++ (setting.gpsk3Fields.octets ++ (setting.gpsk3 aesEncrypt).mac)) :=
      gpsk3_written aesEncrypt uniform
    simp only [MethodMachine.act, gpskAuth, GpskAuth.perform, GpskAuth.buildGpsk3, built, signed]
  rw [confirmed, requested_eq]
  exact MethodMachine.event_checked found does foundNext doesNext

theorem read_gpsk3Msg :
    EapGpsk3.parseRawToApp ((setting.gpsk3Msg aesEncrypt).drop 5) =
      .ok (setting.gpsk3 aesEncrypt) := by
  have fits : (setting.gpsk3 aesEncrypt).Fits := { setting.gpsk3_fits with }
  have long : (setting.gpsk3 aesEncrypt).mac.length = 16 := setting.length_mac aesEncrypt _
  have isSize : (setting.gpsk3 aesEncrypt).csuiteSelected.keySize =
      some (setting.gpsk3 aesEncrypt).mac.length := by
    rw [long]
    exact keySize_eq uniform
  have raw : (setting.gpsk3Msg aesEncrypt).drop 5 =
      3 :: ((setting.gpsk3 aesEncrypt).octets ++ (setting.gpsk3 aesEncrypt).mac) := by
    rw [gpsk3Msg, confirmed_eq aesEncrypt uniform]
    exact raw_writeHeader _ _ _
  rw [raw, EapGpsk3.parse_octets fits isSize]
  rfl

theorem finished_eq :
    setting.finished aesEncrypt =
      { state := .success
        data := setting.keptNode.deriveKey aesEncrypt
        reports :=
          [.txMessage (gpskHead 4 ++ (writeShort 0 ++ (setting.gpsk4 aesEncrypt).mac)),
            .decision .uncondSucc, .methodState .done, .validReq] } := by
  let input := setting.peerInput (setting.gpsk3Msg aesEncrypt) none
  have found : (gpskPeer aesEncrypt).table.find .gpsk2Sent .sgIntegrityCheck =
      some ⟨.gpsk2Sent, some .sgIntegrityCheck, .processGpsk3,
        some .doIntegrityCheckForGpsk3Msg⟩ := rfl
  have does : (gpskPeer aesEncrypt).act (some .doIntegrityCheckForGpsk3Msg) input
      setting.answeredNode = { data := setting.keptNode, raised := some .sgValid } := by
    have samePeer : ¬(setting.gpsk3 aesEncrypt).randPeer ≠ setting.answeredNode.peerRAND :=
      fun other => other rfl
    have sameServer : ¬(setting.gpsk3 aesEncrypt).randServer ≠ setting.answeredNode.serverRAND :=
      fun other => other rfl
    have sameSuite : ¬setting.answeredNode.cipherSuite ≠
        (setting.gpsk3 aesEncrypt).csuiteSelected := fun other => other rfl
    have built : ({ setting.gpsk3 aesEncrypt with mac := [] } : EapGpsk3).parseAppToRaw =
        some (gpskHead 3 ++ setting.gpsk3Fields.octets) :=
      EapGpsk3.write_eq setting.gpsk3_fits rfl
    have checks : ¬(setting.gpsk3 aesEncrypt).mac ≠
        setting.keptNode.mac aesEncrypt (gpskHead 3 ++ setting.gpsk3Fields.octets) :=
      fun other => other rfl
    simp only [input, MethodMachine.act, gpskPeer, GpskPeer.perform, peerInput, GpskInput.raw,
      GpskPeer.doIntegrityCheckForGpsk3Msg, read_gpsk3Msg aesEncrypt uniform, if_neg samePeer,
      if_neg sameServer, if_neg sameSuite, built]
    exact if_neg checks
  have foundNext : (gpskPeer aesEncrypt).table.find .processGpsk3 .sgValid =
      some ⟨.processGpsk3, some .sgValid, .success, some .buildGpsk4⟩ := rfl
  have doesNext : (gpskPeer aesEncrypt).act (some .buildGpsk4) input setting.keptNode =
      { data := setting.keptNode.deriveKey aesEncrypt
        reports :=
          [.txMessage (gpskHead 4 ++ (writeShort 0 ++ (setting.gpsk4 aesEncrypt).mac)),
            .decision .uncondSucc, .methodState .done, .validReq] } := by
    have signed : EapGpsk4.parseAppToRaw
        { mac := setting.keptNode.mac aesEncrypt (gpskHead 4 ++ writeShort 0) } =
        some (gpskHead 4 ++ (writeShort 0 ++ (setting.gpsk4 aesEncrypt).mac)) :=
      gpsk4_written aesEncrypt setting
    simp only [MethodMachine.act, gpskPeer, GpskPeer.perform, GpskPeer.buildGpsk4,
      EapGpsk4.write_eq, signed]
  rw [finished, answered_eq aesEncrypt uniform]
  exact MethodMachine.event_checked found does foundNext doesNext

theorem read_gpsk4Msg :
    EapGpsk4.parseRawToApp ((setting.gpsk4Msg aesEncrypt).drop 5) =
      some (setting.gpsk4 aesEncrypt) := by
  have raw : (setting.gpsk4Msg aesEncrypt).drop 5 =
      4 :: (writeShort 0 ++ (setting.gpsk4 aesEncrypt).mac) := by
    rw [gpsk4Msg, finished_eq aesEncrypt uniform]
    exact raw_writeHeader _ _ _
  rw [raw]
  exact @EapGpsk4.parse_octets [] (by decide) _

theorem accepted_eq :
    setting.accepted aesEncrypt =
      { state := .success
        data := { setting.savedNode with isDone := true }.deriveKey aesEncrypt
        reports := [.policyUpdate .policyOnSuccess, .validResp] } := by
  let input := setting.authInput (setting.gpsk4Msg aesEncrypt) none
  have found : (gpskAuth aesEncrypt).table.find .gpsk3Sent .sgIntegrityCheck =
      some ⟨.gpsk3Sent, some .sgIntegrityCheck, .processGpsk4,
        some .doIntegrityCheckForGpsk4Msg⟩ := rfl
  have does : (gpskAuth aesEncrypt).act (some .doIntegrityCheckForGpsk4Msg) input
      setting.savedNode = { data := setting.savedNode, raised := some .sgValid } := by
    have built : ({ setting.gpsk4 aesEncrypt with mac := [] } : EapGpsk4).parseAppToRaw =
        some (gpskHead 4 ++ writeShort 0) := EapGpsk4.write_eq
    have checks : ¬(setting.gpsk4 aesEncrypt).mac ≠
        setting.savedNode.mac aesEncrypt (gpskHead 4 ++ writeShort 0) := fun other => other rfl
    simp only [input, MethodMachine.act, gpskAuth, GpskAuth.perform, authInput, GpskInput.raw,
      GpskAuth.doIntegrityCheckForGpsk4Msg, read_gpsk4Msg aesEncrypt uniform, built]
    exact if_neg checks
  have foundNext : (gpskAuth aesEncrypt).table.find .processGpsk4 .sgValid =
      some ⟨.processGpsk4, some .sgValid, .success, some .notifySuccess⟩ := rfl
  rw [accepted, confirmed_eq aesEncrypt uniform]
  exact MethodMachine.event_checked found does foundNext rfl

/-- Both sides derive the key from the same values. -/
theorem keptNode_deriveKey :
    setting.keptNode.deriveKey aesEncrypt =
      { setting.keptNode with
        masterKey := setting.keptNode.derivedKey aesEncrypt 16
        keyData := setting.keptNode.derivedKey aesEncrypt 16 } := by
  have none : ¬setting.keptNode.masterKey.length ≠ 0 := fun some => some rfl
  have size : setting.keptNode.cipherSuite.keySize = some 16 := keySize_eq uniform
  rw [GpskNode.deriveKey, if_neg none, size]

theorem savedNode_deriveKey :
    { setting.savedNode with isDone := true }.deriveKey aesEncrypt =
      { setting.savedNode with
        isDone := true
        masterKey := setting.keptNode.derivedKey aesEncrypt 16
        keyData := setting.keptNode.derivedKey aesEncrypt 16 } := by
  have none : ¬({ setting.savedNode with isDone := true } : GpskNode).masterKey.length ≠ 0 :=
    fun some => some rfl
  have size : ({ setting.savedNode with isDone := true } : GpskNode).cipherSuite.keySize =
      some 16 := keySize_eq uniform
  rw [GpskNode.deriveKey, if_neg none, size]
  rfl

theorem agrees_of_uniform : setting.Agrees aesEncrypt where
  readGpsk1 := read_gpsk1Msg aesEncrypt uniform
  readGpsk2 := read_gpsk2Msg aesEncrypt uniform
  readGpsk3 := read_gpsk3Msg aesEncrypt uniform
  readGpsk4 := read_gpsk4Msg aesEncrypt uniform
  confirmed := by rw [confirmed_eq aesEncrypt uniform]
  peerSuccess := by
    rw [finished_eq aesEncrypt uniform]
    exact ⟨rfl, by simp⟩
  authSuccess := by
    rw [accepted_eq aesEncrypt uniform]
    exact ⟨rfl, by simp⟩
  sameKey := by
    rw [finished_eq aesEncrypt uniform, accepted_eq aesEncrypt uniform,
      keptNode_deriveKey aesEncrypt uniform, savedNode_deriveKey aesEncrypt uniform]
  keyData := by
    rw [finished_eq aesEncrypt uniform, accepted_eq aesEncrypt uniform,
      keptNode_deriveKey aesEncrypt uniform, savedNode_deriveKey aesEncrypt uniform]
  keyLength := by
    rw [finished_eq aesEncrypt uniform, keptNode_deriveKey aesEncrypt uniform]
    exact length_firstOctets _ _

end Uniform

/-- A list with two suites is not read as it was built. -/
theorem same_of_read
    (read : EapGpsk1.parseRawToApp ((setting.gpsk1Msg aesEncrypt).drop 5) = some setting.gpsk1) :
    ∀ suite ∈ setting.auth.cipherSuiteList, suite = setting.peer.cipherSuite := by
  obtain ⟨head, rest, isCons⟩ := List.exists_cons_of_length_pos
    (Nat.pos_of_ne_zero setting.listed_length)
  have first : setting.auth.cipherSuiteList.head? = some head := by rw [isCons, List.head?_cons]
  rw [setting.parse_gpsk1Msg aesEncrypt first] at read
  have same : List.replicate setting.auth.cipherSuiteList.length head =
      setting.auth.cipherSuiteList := congrArg EapGpsk1.csuiteList (Option.some.inj read)
  have all (suite : EapGpskCipherSuite) (listed : suite ∈ setting.auth.cipherSuiteList) :
      suite = head := by
    rw [← same] at listed
    exact List.eq_of_mem_replicate listed
  intro suite listed
  rw [all suite listed, all _ setting.listed]

/-- A MAC of sixteen octets is not read for another size of the key. -/
theorem aes_of_read
    (read : EapGpsk2.parseRawToApp ((setting.gpsk2Msg aesEncrypt).drop 5) =
      some (setting.gpsk2 aesEncrypt)) :
    setting.peer.cipherSuite.cipherSuite = 1 := by
  have size := EapGpsk2.parse_keySize read
  have long : (setting.gpsk2 aesEncrypt).mac.length = 16 := setting.length_mac aesEncrypt _
  rw [long] at size
  exact EapGpskCipherSuite.keySize_eq_sixteen.1 size

theorem agrees_iff : setting.Agrees aesEncrypt ↔ setting.Uniform := by
  constructor
  · intro agrees
    exact ⟨setting.same_of_read aesEncrypt agrees.readGpsk1,
      setting.aes_of_read aesEncrypt agrees.readGpsk2⟩
  · intro uniform
    exact agrees_of_uniform aesEncrypt uniform

end GpskSetting

/-- A server that offers a suite of HMAC beside that of AES, which the peer takes. -/
def sampleGpsk : GpskSetting where
  sharedSecret := List.replicate 16 7
  serverID := [115]
  serverNamed := by decide
  peerID := [112]
  peerNamed := by decide
  validatePeerIdentity _ := true
  peerValid := rfl
  isPeerAuthorized _ := true
  peerAuthorized := rfl
  randomServer := List.replicate 32 1
  randomPeer := List.replicate 32 2
  peer := {}
  secretLength := by decide
  auth := { cipherSuiteList := [{}, { cipherSuite := 2 }] }
  listed := List.mem_cons_self
  fits := by decide
  gpsk1Header := ⟨codeRequest, 1⟩
  gpsk2Header := ⟨codeResponse, 1⟩
  gpsk3Header := ⟨codeRequest, 2⟩
  gpsk4Header := ⟨codeResponse, 2⟩

/-- The peer repeats a list of which all suites are the first one, and its answer is refused. -/
theorem sampleGpsk_refused :
    ¬sampleGpsk.Agrees (fun _ block => block) ∧
      (sampleGpsk.confirmed fun _ block => block).state = .gpsk1Sent ∧
      (sampleGpsk.confirmed fun _ block => block).reports = [.invalidResp] := by
  have refused : (sampleGpsk.confirmed fun _ block => block).state = .gpsk1Sent := by
    decide +kernel
  refine ⟨fun agrees => ?_, refused, by decide +kernel⟩
  cases refused.symm.trans agrees.confirmed

end OpenDiameter.Eap
