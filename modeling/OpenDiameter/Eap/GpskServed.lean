import OpenDiameter.Eap.Gpsk

/-!
What EAP-GPSK does with an integrity check, in each state in which it waits for one: how many
verdicts the switch is given.
-/

namespace OpenDiameter.Eap

open OpenDiameter.Foundation OpenDiameter.Framework

/-! When a message can be written. -/

/-- The block has room for what is written behind the op-code. -/
def GpskRoom (writes : List BlockWrite) : Prop :=
  BlockWrite.lengthAfter gpskMaxPktSize 6 writes ≤ gpskMaxPktSize

/-- The suite has a key size, and the block has room for a MAC of it too. -/
def GpskSignedRoom (writes : List BlockWrite) (keySize : Option Nat) : Prop :=
  ∃ size, keySize = some size ∧ GpskRoom (writes ++ [.copy [] size])

def EapGpsk1.Encodable (gpsk : EapGpsk1) : Prop :=
  gpsk.idServer.length ≠ 0 ∧ gpsk.csuiteList.length ≠ 0 ∧ GpskRoom gpsk.writes

def EapGpsk2.Encodable (gpsk : EapGpsk2) : Prop :=
  gpsk.idPeer.length ≠ 0 ∧ gpsk.idServer.length ≠ 0 ∧ gpsk.csuiteList.length ≠ 0 ∧
    GpskSignedRoom gpsk.writes gpsk.csuiteSelected.keySize

def EapGpsk3.Encodable (gpsk : EapGpsk3) : Prop :=
  gpsk.idServer.length % 65536 ≠ 0 ∧ GpskSignedRoom gpsk.writes gpsk.csuiteSelected.keySize

theorem writeGpsk_isSome (opCode : UInt8) (writes : List BlockWrite) :
    (writeGpsk opCode writes).isSome ↔ GpskRoom writes := by
  rw [writeGpsk, BlockWrite.length_writeAll, GpskRoom, show (gpskHead opCode).length = 6 from rfl]
  split
  · rename_i tooLong
    exact iff_of_false Bool.false_ne_true (Nat.not_le_of_lt tooLong)
  · rename_i inside
    exact iff_of_true rfl (Nat.le_of_not_lt inside)

/-- A message is written without its MAC first. The MAC that is written then is not empty. -/
inductive WrittenTwice (encodable : Prop) (write : EapOctets → Option EapOctets) : Prop where
  | written (can : encodable) {first : EapOctets} (isFirst : write [] = some first)
      (signed : ∀ mac, mac.length ≠ 0 → (write mac).isSome)
  | refused (cannot : ¬encodable) (isFirst : write [] = none)
  | signedRefused (cannot : ¬encodable) {first : EapOctets} (isFirst : write [] = some first)
      (signed : ∀ mac, mac.length ≠ 0 → write mac = none)

theorem writtenTwice_room (opCode : UInt8) (writes : List BlockWrite) (keySize : Option Nat) :
    WrittenTwice (GpskSignedRoom writes keySize) fun mac =>
      (writeMac mac keySize).bind fun mac => writeGpsk opCode (writes ++ mac) := by
  have plain : ((writeMac [] keySize).bind fun mac => writeGpsk opCode (writes ++ mac)) =
      writeGpsk opCode writes := by
    rw [writeMac, if_pos List.length_nil, Option.bind_some, List.append_nil]
  have behind {mac : EapOctets} (some : mac.length ≠ 0) :
      ((writeMac mac keySize).bind fun mac => writeGpsk opCode (writes ++ mac)) =
        keySize.bind fun size => writeGpsk opCode (writes ++ [.copy mac size]) := by
    rw [writeMac, if_neg some]
    cases keySize with
    | none => rfl
    | some size => rfl
  have sameRoom (mac : EapOctets) (size : Nat) :
      GpskRoom (writes ++ [.copy mac size]) ↔ GpskRoom (writes ++ [.copy [] size]) := by
    rw [GpskRoom, GpskRoom, BlockWrite.lengthAfter_append, BlockWrite.lengthAfter_append]
    rfl
  cases first : writeGpsk opCode writes with
  | none =>
    apply WrittenTwice.refused
    · rintro ⟨size, _, room⟩
      have whole : GpskRoom writes := by
        rw [GpskRoom, BlockWrite.lengthAfter_append] at room
        exact Nat.le_trans (BlockWrite.le_lengthAfter _ _ _) room
      have isSome := (writeGpsk_isSome opCode writes).2 whole
      rw [first] at isSome
      cases isSome
    · exact plain.trans first
  | some msg =>
    by_cases room : GpskSignedRoom writes keySize
    · apply WrittenTwice.written room (plain.trans first)
      intro mac some
      obtain ⟨size, rfl, fits⟩ := room
      rw [behind some]
      exact (writeGpsk_isSome opCode _).2 ((sameRoom mac size).2 fits)
    · apply WrittenTwice.signedRefused room (plain.trans first)
      intro mac some
      rw [behind some]
      cases keySize with
      | none => rfl
      | some size =>
        rw [Option.bind_some, ← Option.not_isSome_iff_eq_none, writeGpsk_isSome, sameRoom]
        exact fun fits => room ⟨size, rfl, fits⟩

/-- More that must hold of the message. -/
theorem WrittenTwice.and {encodable : Prop} {write : EapOctets → Option EapOctets}
    (twice : WrittenTwice encodable write) (field : Prop) [Decidable field] :
    WrittenTwice (field ∧ encodable) fun mac => if ¬field then none else write mac := by
  by_cases holds : field
  · have kept (mac : EapOctets) : (if ¬field then none else write mac) = write mac :=
      if_neg (not_not.2 holds)
    simp only [kept, holds, true_and]
    exact twice
  · exact .refused (fun both => holds both.1) (if_pos holds)

theorem EapGpsk2.writtenTwice (gpsk : EapGpsk2) :
    WrittenTwice gpsk.Encodable fun mac => { gpsk with mac := mac }.parseAppToRaw := by
  have twice := (((writtenTwice_room 2 gpsk.writes gpsk.csuiteSelected.keySize).and
    (gpsk.csuiteList.length ≠ 0)).and (gpsk.idServer.length ≠ 0)).and (gpsk.idPeer.length ≠ 0)
  simp only [not_not] at twice
  exact twice

theorem EapGpsk3.writtenTwice (gpsk : EapGpsk3) :
    WrittenTwice gpsk.Encodable fun mac => { gpsk with mac := mac }.parseAppToRaw := by
  have twice := (writtenTwice_room 3 gpsk.writes gpsk.csuiteSelected.keySize).and
    (gpsk.idServer.length % 65536 ≠ 0)
  simp only [not_not] at twice
  exact twice

theorem EapGpsk1.write_isSome (gpsk : EapGpsk1) :
    gpsk.parseAppToRaw.isSome ↔ gpsk.Encodable := by
  rw [parseAppToRaw]
  split
  · rename_i server
    exact iff_of_false Bool.false_ne_true fun can => can.1 server
  · rename_i server
    split
    · rename_i listed
      exact iff_of_false Bool.false_ne_true fun can => can.2.1 listed
    · rename_i listed
      rw [writeGpsk_isSome]
      exact ⟨fun room => ⟨server, listed, room⟩, fun can => can.2.2⟩

section Methods

variable (aesEncrypt : AesEncrypt) (input : GpskInput) (node : GpskNode)

@[simp] theorem GpskNode.length_mac (msg : EapOctets) : (node.mac aesEncrypt msg).length = 16 :=
  length_aesCmac _ _ _

theorem GpskNode.mac_ne (msg : EapOctets) : (node.mac aesEncrypt msg).length ≠ 0 := by
  rw [GpskNode.length_mac]
  decide

namespace GpskPeer

abbrev Run := MethodRun GpskPeerState GpskEvent GpskNode PeerReport

/-- The peer that has accepted a first message. -/
def asked (gpsk : EapGpsk1) : GpskNode :=
  { node with
    serverID := gpsk.idServer
    serverRAND := gpsk.randServer
    cipherSuiteList := gpsk.csuiteList }

/-- The second message that the peer answers with. -/
def gpsk2Fields (random : EapOctets) : EapGpsk2 where
  idPeer := input.identity
  idServer := node.serverID
  randPeer := firstOctets random 32
  randServer := node.serverRAND
  csuiteList := node.cipherSuiteList
  csuiteSelected := node.cipherSuite

/-- The random numbers are there and the reply can be written. -/
def Replies : Prop := ∃ random, input.random = some random ∧ (gpsk2Fields input node random).Encodable

/-- The reply is sent, or the method is told of a failure after it has changed its state. -/
theorem buildGpsk2_cases :
    (Replies input node ∧ ∃ data msg, buildGpsk2 aesEncrypt input node =
        { data := data, reports := [.txMessage msg, .methodState .cont, .validReq] }) ∨
      (¬Replies input node ∧ ∃ data, buildGpsk2 aesEncrypt input node =
        { data := data, raised := some .sgInvalid }) := by
  cases isRandom : input.random with
  | none =>
    refine .inr ⟨?_, { node with peerID := input.identity }, ?_⟩
    · rintro ⟨random, other, _⟩
      cases isRandom.symm.trans other
    · simp only [buildGpsk2, isRandom]
  | some random =>
    have same {other : EapOctets} (isOther : input.random = some other) : other = random :=
      Option.some.inj (isOther.symm.trans isRandom)
    let fresh : GpskNode :=
      { node with peerID := input.identity, peerRAND := firstOctets random 32 }
    let keyed : GpskNode := { fresh with sharedSecret := input.sharedSecret }
    have twice := (gpsk2Fields input node random).writtenTwice
    cases twice with
    | written can isFirst signed =>
      rename_i first
      obtain ⟨msg, isMsg⟩ := Option.isSome_iff_exists.1
        (signed (keyed.mac aesEncrypt first) (keyed.mac_ne aesEncrypt first))
      refine .inl ⟨⟨random, isRandom, can⟩, keyed, msg, ?_⟩
      simp only [gpsk2Fields] at isFirst isMsg
      simp only [keyed, fresh] at isMsg
      simp only [buildGpsk2, isRandom, isFirst, isMsg]
      rfl
    | refused cannot isFirst =>
      refine .inr ⟨?_, fresh, ?_⟩
      · rintro ⟨other, isOther, can⟩
        exact cannot (same isOther ▸ can)
      · simp only [gpsk2Fields] at isFirst
        simp only [buildGpsk2, isRandom, isFirst]
        rfl
    | signedRefused cannot isFirst signed =>
      rename_i first
      have none := signed (keyed.mac aesEncrypt first) (keyed.mac_ne aesEncrypt first)
      refine .inr ⟨?_, keyed, ?_⟩
      · rintro ⟨other, isOther, can⟩
        exact cannot (same isOther ▸ can)
      · simp only [gpsk2Fields] at isFirst none
        simp only [keyed, fresh] at none
        simp only [buildGpsk2, isRandom, isFirst, none]
        rfl

/-- The fourth message can always be written. -/
theorem buildGpsk4_eq :
    ∃ msg, buildGpsk4 aesEncrypt node =
      { data := node.deriveKey aesEncrypt
        reports := [.txMessage msg, .decision .uncondSucc, .methodState .done, .validReq] } := by
  have signed := @EapGpsk4.write_mac_eq (node.mac aesEncrypt (gpskHead 4 ++ writeShort 0))
    (node.mac_ne aesEncrypt _) (by rw [GpskNode.length_mac]; decide)
  refine ⟨gpskHead 4 ++ (writeShort 0 ++ node.mac aesEncrypt (gpskHead 4 ++ writeShort 0)), ?_⟩
  simp only [buildGpsk4, EapGpsk4.write_eq, signed]

/-- A third message or a failure in its place: it is refused, it is accepted, or it is replayed with
the verdict. -/
inductive Checked : Effect → Prop where
  | invalid (data : GpskNode) : Checked { data := data, raised := some .sgInvalid }
  | valid (data : GpskNode) : Checked { data := data, raised := some .sgValid }
  | replayed (data : GpskNode) (reply : EapOctets) :
      Checked { data := data, reports := [.txMessage reply, .validReq], raised := some .sgFail }

theorem replayGpskFail_checked (fail : EapGpskFail) : Checked (replayGpskFail fail node) := by
  rw [replayGpskFail]
  split
  · exact .invalid node
  · exact .replayed node _

theorem replayGpskProtectedFail_checked (fail : EapGpskProtectedFail) :
    Checked (replayGpskProtectedFail aesEncrypt fail node) := by
  rw [replayGpskProtectedFail]
  split
  · exact .invalid node
  · dsimp only
    split
    · exact .invalid node
    · split
      · exact .invalid node
      · exact .replayed node _

theorem checkGpsk3_checked : Checked (doIntegrityCheckForGpsk3Msg aesEncrypt input node) := by
  rw [doIntegrityCheckForGpsk3Msg]
  split
  · split
    · exact replayGpskFail_checked node _
    · split
      · exact replayGpskProtectedFail_checked aesEncrypt node _
      · exact .invalid node
  · split
    · exact .invalid node
    split
    · exact .invalid node
    split
    · exact .invalid node
    dsimp only
    split
    · exact .invalid _
    · split
      · exact .invalid _
      · exact .valid _

/-- The states between two events. -/
def Waits (state : GpskPeerState) : Prop :=
  state = .initializing ∨ state = .gpsk2Sent ∨ state = .success

/-- The condition under which the switch has its verdict: in the first state, a message that is
accepted can be answered. -/
def Answers : GpskPeerState → Prop
  | .initializing => ∀ gpsk, EapGpsk1.parseRawToApp input.raw = some gpsk →
      Replies input (asked node gpsk)
  | .gpsk2Sent => True
  | _ => False

theorem serve_initializing :
    Waits (serveGpskPeer aesEncrypt input .sgIntegrityCheck .initializing node).state ∧
      (PeerReport.verdicts
          (serveGpskPeer aesEncrypt input .sgIntegrityCheck .initializing node).reports = 1 ↔
        Answers input node .initializing) := by
  have found : (gpskPeer aesEncrypt).table.find .initializing .sgIntegrityCheck =
      some ⟨.initializing, some .sgIntegrityCheck, .processGpsk1,
        some .doIntegrityCheckForGpsk1Msg⟩ := rfl
  have foundInvalid : (gpskPeer aesEncrypt).table.find .processGpsk1 .sgInvalid =
      some ⟨.processGpsk1, some .sgInvalid, .initializing, some .notifyInvalid⟩ := rfl
  have foundValid : (gpskPeer aesEncrypt).table.find .processGpsk1 .sgValid =
      some ⟨.processGpsk1, some .sgValid, .gpsk2Sent, some .buildGpsk2⟩ := rfl
  have foundLate : (gpskPeer aesEncrypt).table.find .gpsk2Sent .sgInvalid =
      some ⟨.gpsk2Sent, none, .gpsk2Sent, none⟩ := rfl
  cases read : EapGpsk1.parseRawToApp input.raw with
  | none =>
    have does : (gpskPeer aesEncrypt).act (some .doIntegrityCheckForGpsk1Msg) input node =
        { data := node, raised := some .sgInvalid } := by
      simp only [MethodMachine.act, gpskPeer, perform, doIntegrityCheckForGpsk1Msg, read]
    have run : serveGpskPeer aesEncrypt input .sgIntegrityCheck .initializing node = _ :=
      MethodMachine.event_checked found does foundInvalid rfl
    rw [run]
    refine ⟨.inl rfl, iff_of_true rfl ?_⟩
    intro gpsk isGpsk
    cases read.symm.trans isGpsk
  | some gpsk =>
    have does : (gpskPeer aesEncrypt).act (some .doIntegrityCheckForGpsk1Msg) input node =
        { data := asked node gpsk, raised := some .sgValid } := by
      simp only [MethodMachine.act, gpskPeer, perform, doIntegrityCheckForGpsk1Msg, read]
      rfl
    have isAnswers : Answers input node .initializing ↔ Replies input (asked node gpsk) := by
      constructor
      · intro answers
        exact answers gpsk read
      · intro replies other isOther
        cases read.symm.trans isOther
        exact replies
    rw [isAnswers]
    apply (buildGpsk2_cases aesEncrypt input (asked node gpsk)).elim
    · rintro ⟨replies, data, msg, builds⟩
      have run : serveGpskPeer aesEncrypt input .sgIntegrityCheck .initializing node = _ :=
        MethodMachine.event_checked found does foundValid builds
      rw [run]
      exact ⟨.inr (.inl rfl), iff_of_true rfl replies⟩
    · rintro ⟨silent, data, builds⟩
      have run : serveGpskPeer aesEncrypt input .sgIntegrityCheck .initializing node = _ :=
        MethodMachine.event_checked_raises found does foundValid builds foundLate rfl
      rw [run]
      exact ⟨.inr (.inl rfl), iff_of_false Nat.zero_ne_one silent⟩

theorem serve_gpsk2Sent :
    Waits (serveGpskPeer aesEncrypt input .sgIntegrityCheck .gpsk2Sent node).state ∧
      PeerReport.verdicts
          (serveGpskPeer aesEncrypt input .sgIntegrityCheck .gpsk2Sent node).reports = 1 := by
  have found : (gpskPeer aesEncrypt).table.find .gpsk2Sent .sgIntegrityCheck =
      some ⟨.gpsk2Sent, some .sgIntegrityCheck, .processGpsk3,
        some .doIntegrityCheckForGpsk3Msg⟩ := rfl
  have foundInvalid : (gpskPeer aesEncrypt).table.find .processGpsk3 .sgInvalid =
      some ⟨.processGpsk3, some .sgInvalid, .gpsk2Sent, some .notifyInvalid⟩ := rfl
  have foundFail : (gpskPeer aesEncrypt).table.find .processGpsk3 .sgFail =
      some ⟨.processGpsk3, some .sgFail, .initializing, some .notifyFailure⟩ := rfl
  have foundValid : (gpskPeer aesEncrypt).table.find .processGpsk3 .sgValid =
      some ⟨.processGpsk3, some .sgValid, .success, some .buildGpsk4⟩ := rfl
  have checked := checkGpsk3_checked aesEncrypt input node
  generalize isEffect : doIntegrityCheckForGpsk3Msg aesEncrypt input node = effect at checked
  have does : (gpskPeer aesEncrypt).act (some .doIntegrityCheckForGpsk3Msg) input node = effect :=
    isEffect
  cases checked with
  | invalid data =>
    have run : serveGpskPeer aesEncrypt input .sgIntegrityCheck .gpsk2Sent node = _ :=
      MethodMachine.event_checked found does foundInvalid rfl
    rw [run]
    exact ⟨.inr (.inl rfl), rfl⟩
  | valid data =>
    obtain ⟨msg, builds⟩ := buildGpsk4_eq aesEncrypt data
    have run : serveGpskPeer aesEncrypt input .sgIntegrityCheck .gpsk2Sent node = _ :=
      MethodMachine.event_checked found does foundValid builds
    rw [run]
    exact ⟨.inr (.inr rfl), rfl⟩
  | replayed data reply =>
    have notified : (gpskPeer aesEncrypt).event input 2 .sgFail .processGpsk3 data =
        { state := .initializing
          data := data
          reports := [.methodState .done, .decision .fail] } :=
      MethodMachine.event_ends foundFail rfl rfl
    have run : serveGpskPeer aesEncrypt input .sgIntegrityCheck .gpsk2Sent node = _ :=
      MethodMachine.event_raises found does rfl
    rw [run]
    dsimp only
    rw [notified]
    exact ⟨.inl rfl, rfl⟩

theorem serve_answers {state : GpskPeerState} (waits : Waits state) :
    Waits (serveGpskPeer aesEncrypt input .sgIntegrityCheck state node).state ∧
      (PeerReport.verdicts
          (serveGpskPeer aesEncrypt input .sgIntegrityCheck state node).reports = 1 ↔
        Answers input node state) := by
  obtain rfl | rfl | rfl := waits
  · exact serve_initializing aesEncrypt input node
  · have one := serve_gpsk2Sent aesEncrypt input node
    exact ⟨one.1, iff_of_true one.2 trivial⟩
  · exact ⟨.inr (.inr rfl), iff_of_false Nat.zero_ne_one id⟩

end GpskPeer

namespace GpskAuth

abbrev Run := MethodRun GpskAuthState GpskEvent GpskNode AuthReport

/-- The first message that the authenticator begins with. -/
def gpsk1Fields (random : EapOctets) : EapGpsk1 where
  idServer := input.identity
  randServer := firstOctets random 32
  csuiteList := node.cipherSuiteList

def Asks : Prop := ∃ random, input.random = some random ∧ (gpsk1Fields input node random).Encodable

/-- A second message that is accepted, of a peer that is. -/
structure AcceptsGpsk2 (gpsk : EapGpsk2) : Prop where
  read : EapGpsk2.parseRawToApp input.raw = some gpsk
  sameRAND : gpsk.randServer = node.serverRAND
  sameList : gpsk.csuiteList = node.cipherSuiteList
  selected : gpsk.csuiteSelected ∈ node.cipherSuiteList
  valid : input.validatePeerIdentity gpsk.idPeer = true
  checks : ∃ msg, { gpsk with mac := [] }.parseAppToRaw = some msg ∧
    gpsk.mac = node.mac aesEncrypt msg
  authorized : input.isPeerAuthorized gpsk.idPeer = true

/-- The third message that the authenticator goes on with. -/
def gpsk3Fields (gpsk : EapGpsk2) : EapGpsk3 where
  idServer := node.serverID
  randPeer := gpsk.randPeer
  randServer := node.serverRAND
  csuiteSelected := gpsk.csuiteSelected

/-- The authenticator that has accepted a second message. -/
def saved (gpsk : EapGpsk2) : GpskNode :=
  { node with
    peerID := gpsk.idPeer
    peerRAND := gpsk.randPeer
    cipherSuite := gpsk.csuiteSelected
    payload := gpsk.pdPayload }

/-- A second message leads to one of four events. -/
inductive CheckedGpsk2 : Effect → Prop where
  | invalid (data : GpskNode) (refuses : ∀ gpsk, ¬AcceptsGpsk2 aesEncrypt input node gpsk) :
      CheckedGpsk2 { data := data, raised := some .sgInvalid }
  | failed (data : GpskNode) (refuses : ∀ gpsk, ¬AcceptsGpsk2 aesEncrypt input node gpsk) :
      CheckedGpsk2 { data := data, raised := some .sgFail }
  | protectedFailed (data : GpskNode)
      (refuses : ∀ gpsk, ¬AcceptsGpsk2 aesEncrypt input node gpsk) :
      CheckedGpsk2 { data := data, raised := some .sgProtectedFail }
  | valid {gpsk : EapGpsk2} (accepts : AcceptsGpsk2 aesEncrypt input node gpsk) :
      CheckedGpsk2 { data := saved node gpsk, raised := some .sgValid }

theorem checkGpsk2_checked :
    CheckedGpsk2 aesEncrypt input node (doIntegrityCheckForGpsk2Msg aesEncrypt input node) := by
  cases read : EapGpsk2.parseRawToApp input.raw with
  | none =>
    simp only [doIntegrityCheckForGpsk2Msg, read]
    refine .invalid node fun gpsk accepts => ?_
    cases read.symm.trans accepts.read
  | some gpsk =>
    have same {other : EapGpsk2} (accepts : AcceptsGpsk2 aesEncrypt input node other) :
        other = gpsk := Option.some.inj (accepts.read.symm.trans read)
    simp only [doIntegrityCheckForGpsk2Msg, read]
    split
    · rename_i otherRAND
      exact .invalid node fun other accepts => otherRAND (same accepts ▸ accepts.sameRAND)
    rename_i sameRAND
    split
    · rename_i otherList
      exact .invalid node fun other accepts => otherList (same accepts ▸ accepts.sameList)
    rename_i sameList
    split
    · rename_i notSelected
      exact .invalid node fun other accepts => notSelected (same accepts ▸ accepts.selected)
    rename_i selected
    split
    · rename_i notValid
      refine .failed _ fun other accepts => ?_
      have valid := accepts.valid
      rw [same accepts, notValid] at valid
      cases valid
    rename_i valid
    cases written : ({ gpsk with mac := [] } : EapGpsk2).parseAppToRaw with
    | none =>
      refine .invalid _ fun other accepts => ?_
      obtain ⟨msg, isMsg, _⟩ := accepts.checks
      rw [same accepts, written] at isMsg
      cases isMsg
    | some msg =>
      dsimp only
      split
      · rename_i otherMac
        refine .failed _ fun other accepts => ?_
        obtain ⟨otherMsg, isMsg, checks⟩ := accepts.checks
        rw [same accepts] at isMsg checks
        cases written.symm.trans isMsg
        exact otherMac checks
      rename_i checks
      split
      · rename_i notAuthorized
        refine .protectedFailed _ fun other accepts => ?_
        have authorized := accepts.authorized
        rw [same accepts, notAuthorized] at authorized
        cases authorized
      rename_i authorized
      exact .valid
        { read := read
          sameRAND := not_not.1 sameRAND
          sameList := not_not.1 sameList
          selected := not_not.1 selected
          valid := eq_true_of_ne_false valid
          checks := ⟨msg, written, not_not.1 checks⟩
          authorized := eq_true_of_ne_false authorized }

/-- The third message is sent, or the method is told of a failure in a state without an entry. -/
theorem buildGpsk3_cases (gpsk : EapGpsk2) :
    ((gpsk3Fields node gpsk).Encodable ∧ ∃ msg, buildGpsk3 aesEncrypt (saved node gpsk) =
        { data := saved node gpsk, reports := [.txMessage msg, .validResp] }) ∨
      (¬(gpsk3Fields node gpsk).Encodable ∧ buildGpsk3 aesEncrypt (saved node gpsk) =
        { data := saved node gpsk, raised := some .sgInvalid }) := by
  have twice := (gpsk3Fields node gpsk).writtenTwice
  cases twice with
  | written can isFirst signed =>
    rename_i first
    obtain ⟨msg, isMsg⟩ := Option.isSome_iff_exists.1
      (signed ((saved node gpsk).mac aesEncrypt first) (GpskNode.mac_ne aesEncrypt _ _))
    refine .inl ⟨can, msg, ?_⟩
    simp only [gpsk3Fields, saved] at isFirst isMsg
    simp only [buildGpsk3, saved, isFirst, isMsg]
  | refused cannot isFirst =>
    refine .inr ⟨cannot, ?_⟩
    simp only [gpsk3Fields] at isFirst
    simp only [buildGpsk3, saved, isFirst]
  | signedRefused cannot isFirst signed =>
    rename_i first
    have none := signed ((saved node gpsk).mac aesEncrypt first)
      (GpskNode.mac_ne aesEncrypt _ _)
    refine .inr ⟨cannot, ?_⟩
    simp only [gpsk3Fields, saved] at isFirst none
    simp only [buildGpsk3, saved, isFirst, none]

/-- A failure can always be written. -/
theorem buildGpskFailMsg_eq :
    ∃ msg, buildGpskFailMsg node = { data := node, reports := [.txMessage msg, .validResp] } :=
  ⟨_, rfl⟩

theorem buildGpskProtectedFailMsg_eq :
    ∃ msg, buildGpskProtectedFailMsg aesEncrypt node =
      { data := node, reports := [.txMessage msg, .validResp] } := by
  let first := gpskHead 6 ++ htonl node.failureCode.toNat
  have plain : ({ failureCode := node.failureCode } : EapGpskProtectedFail).parseAppToRaw =
      some first := rfl
  have signed : ({ failureCode := node.failureCode, mac := node.mac aesEncrypt first } :
      EapGpskProtectedFail).parseAppToRaw =
      some (gpskHead 6 ++ (htonl node.failureCode.toNat ++ node.mac aesEncrypt first)) := by
    rw [EapGpskProtectedFail.parseAppToRaw, writeMac_eq (GpskNode.mac_ne aesEncrypt _ _) rfl,
      Option.bind_some]
    apply writeGpsk_mac rfl
    rw [GpskNode.length_mac]
    exact show 26 ≤ 1024 by decide
  refine ⟨gpskHead 6 ++ (htonl node.failureCode.toNat ++ node.mac aesEncrypt first), ?_⟩
  simp only [buildGpskProtectedFailMsg, plain, signed]

/-- The states between two events. -/
def Waits (state : GpskAuthState) : Prop :=
  state = .initializing ∨ state = .gpsk1Sent ∨ state = .gpskFailSent ∨ state = .gpsk3Sent ∨
    state = .success

/-- The condition under which the switch has its verdict: the next message can be sent, and what
comes after a failure is one. -/
def Answers : GpskAuthState → Prop
  | .initializing => Asks input node
  | .gpsk1Sent => ∀ gpsk, AcceptsGpsk2 aesEncrypt input node gpsk →
      (gpsk3Fields node gpsk).Encodable
  | .gpskFailSent => (EapGpskFail.parseRawToApp input.raw).isSome ∨
      (EapGpskProtectedFail.parseRawToApp input.raw).isSome
  | .gpsk3Sent => True
  | _ => False

theorem serve_initializing :
    Waits (serveGpskAuth aesEncrypt input .sgIntegrityCheck .initializing node).state ∧
      (AuthReport.verdicts
          (serveGpskAuth aesEncrypt input .sgIntegrityCheck .initializing node).reports = 1 ↔
        Asks input node) := by
  have found : (gpskAuth aesEncrypt).table.find .initializing .sgIntegrityCheck =
      some ⟨.initializing, some .sgIntegrityCheck, .gpsk1Sent, some .buildGpsk1⟩ := rfl
  have missing : (gpskAuth aesEncrypt).table.find .gpsk1Sent .sgInvalid = none := rfl
  cases isRandom : input.random with
  | none =>
    have does : (gpskAuth aesEncrypt).act (some .buildGpsk1) input node = { data := node } := by
      simp only [MethodMachine.act, gpskAuth, perform, buildGpsk1, isRandom]
    have run : serveGpskAuth aesEncrypt input .sgIntegrityCheck .initializing node = _ :=
      MethodMachine.event_ends found does rfl
    rw [run]
    refine ⟨.inr (.inl rfl), iff_of_false Nat.zero_ne_one ?_⟩
    rintro ⟨random, other, _⟩
    cases isRandom.symm.trans other
  | some random =>
    let fresh : GpskNode :=
      { node with
        serverRAND := firstOctets random 32
        sharedSecret := input.sharedSecret
        serverID := input.identity }
    have isAsks : Asks input node ↔ (gpsk1Fields input node random).Encodable := by
      constructor
      · rintro ⟨other, isOther, can⟩
        cases isRandom.symm.trans isOther
        exact can
      · intro can
        exact ⟨random, isRandom, can⟩
    rw [isAsks, ← EapGpsk1.write_isSome]
    cases written : (gpsk1Fields input node random).parseAppToRaw with
    | none =>
      have does : (gpskAuth aesEncrypt).act (some .buildGpsk1) input node =
          { data := fresh, raised := some .sgInvalid } := by
        simp only [gpsk1Fields] at written
        simp only [MethodMachine.act, gpskAuth, perform, buildGpsk1, isRandom, written]
        rfl
      have run : serveGpskAuth aesEncrypt input .sgIntegrityCheck .initializing node = _ :=
        MethodMachine.event_raises_dropped found does missing
      rw [run]
      exact ⟨.inr (.inl rfl), iff_of_false Nat.zero_ne_one Bool.false_ne_true⟩
    | some msg =>
      have does : (gpskAuth aesEncrypt).act (some .buildGpsk1) input node =
          { data := fresh, reports := [.txMessage msg, .validResp] } := by
        simp only [gpsk1Fields] at written
        simp only [MethodMachine.act, gpskAuth, perform, buildGpsk1, isRandom, written]
        rfl
      have run : serveGpskAuth aesEncrypt input .sgIntegrityCheck .initializing node = _ :=
        MethodMachine.event_ends found does rfl
      rw [run]
      exact ⟨.inr (.inl rfl), iff_of_true rfl rfl⟩

theorem serve_gpsk1Sent :
    Waits (serveGpskAuth aesEncrypt input .sgIntegrityCheck .gpsk1Sent node).state ∧
      (AuthReport.verdicts
          (serveGpskAuth aesEncrypt input .sgIntegrityCheck .gpsk1Sent node).reports = 1 ↔
        Answers aesEncrypt input node .gpsk1Sent) := by
  have found : (gpskAuth aesEncrypt).table.find .gpsk1Sent .sgIntegrityCheck =
      some ⟨.gpsk1Sent, some .sgIntegrityCheck, .processGpsk2,
        some .doIntegrityCheckForGpsk2Msg⟩ := rfl
  have foundInvalid : (gpskAuth aesEncrypt).table.find .processGpsk2 .sgInvalid =
      some ⟨.processGpsk2, some .sgInvalid, .gpsk1Sent, some .notifyInvalid⟩ := rfl
  have foundFail : (gpskAuth aesEncrypt).table.find .processGpsk2 .sgFail =
      some ⟨.processGpsk2, some .sgFail, .gpskFailSent, some .buildGpskFailMsg⟩ := rfl
  have foundProtected : (gpskAuth aesEncrypt).table.find .processGpsk2 .sgProtectedFail =
      some ⟨.processGpsk2, some .sgProtectedFail, .gpskFailSent,
        some .buildGpskProtectedFailMsg⟩ := rfl
  have foundValid : (gpskAuth aesEncrypt).table.find .processGpsk2 .sgValid =
      some ⟨.processGpsk2, some .sgValid, .gpsk3Sent, some .buildGpsk3⟩ := rfl
  have missing : (gpskAuth aesEncrypt).table.find .gpsk3Sent .sgInvalid = none := rfl
  have vacuous (refuses : ∀ gpsk, ¬AcceptsGpsk2 aesEncrypt input node gpsk) :
      Answers aesEncrypt input node .gpsk1Sent := fun gpsk accepts => absurd accepts (refuses gpsk)
  have checked := checkGpsk2_checked aesEncrypt input node
  generalize isEffect : doIntegrityCheckForGpsk2Msg aesEncrypt input node = effect at checked
  have does : (gpskAuth aesEncrypt).act (some .doIntegrityCheckForGpsk2Msg) input node = effect :=
    isEffect
  cases checked with
  | invalid data refuses =>
    have run : serveGpskAuth aesEncrypt input .sgIntegrityCheck .gpsk1Sent node = _ :=
      MethodMachine.event_checked found does foundInvalid rfl
    rw [run]
    exact ⟨.inr (.inl rfl), iff_of_true rfl (vacuous refuses)⟩
  | failed data refuses =>
    obtain ⟨msg, builds⟩ := buildGpskFailMsg_eq data
    have run : serveGpskAuth aesEncrypt input .sgIntegrityCheck .gpsk1Sent node = _ :=
      MethodMachine.event_checked found does foundFail builds
    rw [run]
    exact ⟨.inr (.inr (.inl rfl)), iff_of_true rfl (vacuous refuses)⟩
  | protectedFailed data refuses =>
    obtain ⟨msg, builds⟩ := buildGpskProtectedFailMsg_eq aesEncrypt data
    have run : serveGpskAuth aesEncrypt input .sgIntegrityCheck .gpsk1Sent node = _ :=
      MethodMachine.event_checked found does foundProtected builds
    rw [run]
    exact ⟨.inr (.inr (.inl rfl)), iff_of_true rfl (vacuous refuses)⟩
  | valid accepts =>
    rename_i gpsk
    have isAnswers : Answers aesEncrypt input node .gpsk1Sent ↔
        (gpsk3Fields node gpsk).Encodable := by
      constructor
      · intro answers
        exact answers gpsk accepts
      · intro can other otherAccepts
        cases accepts.read.symm.trans otherAccepts.read
        exact can
    rw [isAnswers]
    apply (buildGpsk3_cases aesEncrypt node gpsk).elim
    · rintro ⟨can, msg, builds⟩
      have run : serveGpskAuth aesEncrypt input .sgIntegrityCheck .gpsk1Sent node = _ :=
        MethodMachine.event_checked found does foundValid builds
      rw [run]
      exact ⟨.inr (.inr (.inr (.inl rfl))), iff_of_true rfl can⟩
    · rintro ⟨cannot, builds⟩
      have run : serveGpskAuth aesEncrypt input .sgIntegrityCheck .gpsk1Sent node = _ :=
        MethodMachine.event_checked_dropped found does foundValid builds missing
      rw [run]
      exact ⟨.inr (.inr (.inr (.inl rfl))), iff_of_false Nat.zero_ne_one cannot⟩

/-- What is no failure is dropped in the first state. -/
theorem serve_gpskFailSent :
    Waits (serveGpskAuth aesEncrypt input .sgIntegrityCheck .gpskFailSent node).state ∧
      (AuthReport.verdicts
          (serveGpskAuth aesEncrypt input .sgIntegrityCheck .gpskFailSent node).reports = 1 ↔
        Answers aesEncrypt input node .gpskFailSent) := by
  have found : (gpskAuth aesEncrypt).table.find .gpskFailSent .sgIntegrityCheck =
      some ⟨.gpskFailSent, some .sgIntegrityCheck, .initializing,
        some .doIntegrityCheckForGpskFailMsg⟩ := rfl
  have missing : (gpskAuth aesEncrypt).table.find .initializing .sgInvalid = none := rfl
  by_cases unread : (EapGpskFail.parseRawToApp input.raw).isNone ∧
      (EapGpskProtectedFail.parseRawToApp input.raw).isNone
  · have does : (gpskAuth aesEncrypt).act (some .doIntegrityCheckForGpskFailMsg) input node =
        { data := node, raised := some .sgInvalid } := if_pos unread
    have run : serveGpskAuth aesEncrypt input .sgIntegrityCheck .gpskFailSent node = _ :=
      MethodMachine.event_raises_dropped found does missing
    have silent : ¬Answers aesEncrypt input node .gpskFailSent := by
      intro answers
      apply answers.elim
      · intro isSome
        rw [Option.isNone_iff_eq_none.1 unread.1] at isSome
        cases isSome
      · intro isSome
        rw [Option.isNone_iff_eq_none.1 unread.2] at isSome
        cases isSome
    rw [run]
    exact ⟨.inl rfl, iff_of_false Nat.zero_ne_one silent⟩
  · have does : (gpskAuth aesEncrypt).act (some .doIntegrityCheckForGpskFailMsg) input node =
        { data := { node with isDone := true }
          reports := [.policyUpdate .policyOnFailure, .validResp, .methodEnd] } := if_neg unread
    have run : serveGpskAuth aesEncrypt input .sgIntegrityCheck .gpskFailSent node = _ :=
      MethodMachine.event_ends found does rfl
    have answers : Answers aesEncrypt input node .gpskFailSent := by
      simp only [Option.isNone_iff_eq_none, not_and_or, ← Option.isSome_iff_ne_none] at unread
      exact unread
    rw [run]
    exact ⟨.inl rfl, iff_of_true rfl answers⟩

/-- A fourth message is refused or accepted. -/
theorem checkGpsk4_cases :
    doIntegrityCheckForGpsk4Msg aesEncrypt input node =
        { data := node, raised := some .sgInvalid } ∨
      doIntegrityCheckForGpsk4Msg aesEncrypt input node =
        { data := node, raised := some .sgValid } := by
  rw [doIntegrityCheckForGpsk4Msg]
  split
  · exact .inl rfl
  · split
    · exact .inl rfl
    · split
      · exact .inl rfl
      · exact .inr rfl

theorem serve_gpsk3Sent :
    Waits (serveGpskAuth aesEncrypt input .sgIntegrityCheck .gpsk3Sent node).state ∧
      AuthReport.verdicts
          (serveGpskAuth aesEncrypt input .sgIntegrityCheck .gpsk3Sent node).reports = 1 := by
  have found : (gpskAuth aesEncrypt).table.find .gpsk3Sent .sgIntegrityCheck =
      some ⟨.gpsk3Sent, some .sgIntegrityCheck, .processGpsk4,
        some .doIntegrityCheckForGpsk4Msg⟩ := rfl
  have foundInvalid : (gpskAuth aesEncrypt).table.find .processGpsk4 .sgInvalid =
      some ⟨.processGpsk4, some .sgInvalid, .gpsk3Sent, some .notifyInvalid⟩ := rfl
  have foundValid : (gpskAuth aesEncrypt).table.find .processGpsk4 .sgValid =
      some ⟨.processGpsk4, some .sgValid, .success, some .notifySuccess⟩ := rfl
  apply (checkGpsk4_cases aesEncrypt input node).elim
  · intro does
    have run : serveGpskAuth aesEncrypt input .sgIntegrityCheck .gpsk3Sent node = _ :=
      MethodMachine.event_checked found does foundInvalid rfl
    rw [run]
    exact ⟨.inr (.inr (.inr (.inl rfl))), rfl⟩
  · intro does
    have run : serveGpskAuth aesEncrypt input .sgIntegrityCheck .gpsk3Sent node = _ :=
      MethodMachine.event_checked found does foundValid rfl
    rw [run]
    exact ⟨.inr (.inr (.inr (.inr rfl))), rfl⟩

theorem serve_answers {state : GpskAuthState} (waits : Waits state) :
    Waits (serveGpskAuth aesEncrypt input .sgIntegrityCheck state node).state ∧
      (AuthReport.verdicts
          (serveGpskAuth aesEncrypt input .sgIntegrityCheck state node).reports = 1 ↔
        Answers aesEncrypt input node state) := by
  obtain rfl | rfl | rfl | rfl | rfl := waits
  · exact serve_initializing aesEncrypt input node
  · exact serve_gpsk1Sent aesEncrypt input node
  · exact serve_gpskFailSent aesEncrypt input node
  · have one := serve_gpsk3Sent aesEncrypt input node
    exact ⟨one.1, iff_of_true one.2 trivial⟩
  · exact ⟨.inr (.inr (.inr (.inr rfl))), iff_of_false Nat.zero_ne_one id⟩

end GpskAuth

end Methods

end OpenDiameter.Eap
