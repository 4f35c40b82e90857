import OpenDiameter.Eap.Gpsk

/-!
Which octets of a message of EAP-GPSK its MAC is made of, and which octets the machines check it
against: what they read is written again, and the MAC of that is compared.
-/

namespace OpenDiameter.Eap

open OpenDiameter.Foundation OpenDiameter.Framework

/-! The layout of a message behind its type. -/

/-- The list of suites of a second message, and what follows. -/
def gpsk2List (raw : EapOctets) : EapOctets :=
  (afterCounted (afterCounted (raw.drop 1))).drop 64

/-- The payload, behind the suite. -/
def gpsk2Payload (raw : EapOctets) : EapOctets := (afterCounted (gpsk2List raw)).drop 6

def gpsk3Server (raw : EapOctets) : EapOctets := (raw.drop 1).drop 64

def gpsk3Payload (raw : EapOctets) : EapOctets := (afterCounted (gpsk3Server raw)).drop 6

/-- How many octets there are between the op-code and the MAC. -/
def gpskCoveredLength (raw : EapOctets) : Nat :=
  if raw.getD 0 0 = 2 then
    (2 + readShort (raw.drop 1)) + ((2 + readShort (afterCounted (raw.drop 1))) +
      (64 + ((2 + readShort (gpsk2List raw)) + (6 + (2 + readShort (gpsk2Payload raw))))))
  else if raw.getD 0 0 = 3 then
    64 + ((2 + readShort (gpsk3Server raw)) + (6 + (2 + readShort (gpsk3Payload raw))))
  else if raw.getD 0 0 = 4 then 2 + readShort (raw.drop 1)
  else 4

/-- The octets after the op-code and before the MAC. -/
def gpskCovered (raw : EapOctets) : EapOctets := octetsAt raw 1 (gpskCoveredLength raw)

/-- The MAC, nothing where the suite has no key size. -/
def gpskMac (raw : EapOctets) : Option EapOctets :=
  if raw.getD 0 0 = 2 then
    (EapGpskCipherSuite.read (octetsAt (afterCounted (gpsk2List raw)) 0 6)).keySize.map
      (octetsAt (afterCounted (gpsk2Payload raw)) 0)
  else if raw.getD 0 0 = 3 then
    (EapGpskCipherSuite.read (octetsAt (afterCounted (gpsk3Server raw)) 0 6)).keySize.map
      (octetsAt (afterCounted (gpsk3Payload raw)) 0)
  else if raw.getD 0 0 = 4 then some (afterCounted (raw.drop 1))
  else some (raw.drop 5)

/-- The message as a machine writes it again to check its MAC. -/
def gpskRewritten (raw : EapOctets) : Option EapOctets :=
  if raw.getD 0 0 = 2 then
    (EapGpsk2.parseRawToApp raw).bind fun gpsk => { gpsk with mac := [] }.parseAppToRaw
  else if raw.getD 0 0 = 3 then
    (EapGpsk3.parseRawToApp raw).toOption.bind fun gpsk => { gpsk with mac := [] }.parseAppToRaw
  else if raw.getD 0 0 = 4 then
    (EapGpsk4.parseRawToApp raw).bind fun gpsk => { gpsk with mac := [] }.parseAppToRaw
  else
    (EapGpskProtectedFail.parseRawToApp raw).bind fun gpsk =>
      { gpsk with mac := [] }.parseAppToRaw

/-- The list is its first suite, repeated. -/
def RepeatsFirst (strlist : EapOctets) : Prop :=
  strlist = (List.replicate (strlist.length / 6) (octetsAt strlist 0 6)).flatten

/-- What is read of the message is all of it: there is no payload, the suites of a list are one, the
suite has a key size, and the block has room for the message. -/
def GpskFaithful (raw : EapOctets) : Prop :=
  if raw.getD 0 0 = 2 then
    readShort (gpsk2Payload raw) = 0 ∧ RepeatsFirst (readCounted (gpsk2List raw)) ∧
      6 + gpskCoveredLength raw ≤ gpskMaxPktSize
  else if raw.getD 0 0 = 3 then
    (EapGpskCipherSuite.read (octetsAt (afterCounted (gpsk3Server raw)) 0 6)).keySize.isSome ∧
      readShort (gpsk3Payload raw) = 0 ∧ 6 + gpskCoveredLength raw ≤ gpskMaxPktSize
  else if raw.getD 0 0 = 4 then readShort (raw.drop 1) = 0
  else True

/-! A field after the other. -/

theorem octetsAt_split (octets : EapOctets) (first count : Nat) :
    octetsAt octets 0 (first + count) =
      octetsAt octets 0 first ++ octetsAt (octets.drop first) 0 count := by
  rw [octetsAt_add, Nat.zero_add]
  rfl

theorem octetsAt_counted (octets : EapOctets) (count : Nat) :
    octetsAt octets 0 ((2 + readShort octets) + count) =
      counted (readCounted octets) ++ octetsAt (afterCounted octets) 0 count := by
  rw [octetsAt_split, counted_readCounted]
  rfl

@[simp] theorem length_gpskCovered (raw : EapOctets) :
    (gpskCovered raw).length = gpskCoveredLength raw := length_octetsAt _ _ _

/-- What is not longer than a block, but is a part of one, leaves room for the head. -/
theorem covered_fits {raw msg : EapOctets} (inside : msg.length ≤ gpskMaxPktSize)
    (same : msg.drop 6 = gpskCovered raw) : 6 + gpskCoveredLength raw ≤ gpskMaxPktSize := by
  have lengths := congrArg List.length same
  rw [List.length_drop, length_gpskCovered] at lengths
  rw [gpskMaxPktSize] at inside ⊢
  omega

/-- The suites of a list that is read, as they are written again. -/
theorem writeCipherSuiteList_read (strlist : EapOctets) (length : Nat) :
    writeCipherSuiteList (readCipherSuiteList strlist length) =
      (List.replicate (length / 6) (octetsAt strlist 0 6)).flatten := by
  rw [readCipherSuiteList_eq, writeCipherSuiteList, List.flatMap_def, List.map_replicate,
    EapGpskCipherSuite.octets_read]

theorem octets_read_octetsAt (octets : EapOctets) :
    (EapGpskCipherSuite.read (octetsAt octets 0 6)).octets = octetsAt octets 0 6 := by
  rw [EapGpskCipherSuite.octets_read, octetsAt_zero _ (length_octetsAt _ _ _)]

theorem octetsAt_rands (octets : EapOctets) :
    octetsAt octets 0 64 = octetsAt octets 0 32 ++ octetsAt octets 32 32 :=
  octetsAt_add octets 0 32 32

theorem counted_inj {first second : EapOctets} (same : counted first = counted second) :
    first = second :=
  List.append_inj_right same rfl

namespace EapGpsk2

variable {raw : EapOctets} {gpsk : EapGpsk2}

theorem opCode_of_parse (read : parseRawToApp raw = some gpsk) : raw.getD 0 0 = 2 := by
  rw [parseRawToApp] at read
  split at read
  · cases read
  · rename_i isTwo
    exact not_not.1 isTwo

/-- The fields, as they stand in what is read. -/
theorem eq_of_parse (read : parseRawToApp raw = some gpsk) :
    ∃ keySize,
      (EapGpskCipherSuite.read (octetsAt (afterCounted (gpsk2List raw)) 0 6)).keySize =
        some keySize ∧
      gpsk =
        { idPeer := readCounted (raw.drop 1)
          idServer := readCounted (afterCounted (raw.drop 1))
          randPeer := octetsAt (afterCounted (afterCounted (raw.drop 1))) 0 32
          randServer := octetsAt (afterCounted (afterCounted (raw.drop 1))) 32 32
          csuiteList :=
            readCipherSuiteList (readCounted (gpsk2List raw)) (readShort (gpsk2List raw))
          csuiteSelected := .read (octetsAt (afterCounted (gpsk2List raw)) 0 6)
          pdPayload := readCounted (gpsk2Payload raw)
          mac := octetsAt (afterCounted (gpsk2Payload raw)) 0 keySize } := by
  have isTwo : ¬raw.getD 0 0 ≠ 2 := fun other => other (opCode_of_parse read)
  rw [parseRawToApp, if_neg isTwo] at read
  obtain ⟨keySize, isSize, isGpsk⟩ := Option.map_eq_some_iff.1 read
  exact ⟨keySize, isSize, isGpsk.symm⟩

theorem gpskMac_eq (read : parseRawToApp raw = some gpsk) : gpskMac raw = some gpsk.mac := by
  obtain ⟨keySize, isSize, isGpsk⟩ := eq_of_parse read
  rw [gpskMac, if_pos (opCode_of_parse read), isSize, isGpsk, Option.map_some]

theorem gpskCovered_eq (read : parseRawToApp raw = some gpsk) :
    gpskCovered raw =
      counted gpsk.idPeer ++ (counted gpsk.idServer ++ (gpsk.randPeer ++ (gpsk.randServer ++
        (counted (readCounted (gpsk2List raw)) ++
          (gpsk.csuiteSelected.octets ++ counted gpsk.pdPayload))))) := by
  obtain ⟨keySize, isSize, isGpsk⟩ := eq_of_parse read
  have behind (count : Nat) : octetsAt raw 1 count = octetsAt (raw.drop 1) 0 count := rfl
  rw [gpskCovered, gpskCoveredLength, if_pos (opCode_of_parse read), behind, octetsAt_counted,
    octetsAt_counted, octetsAt_split, ← gpsk2List, octetsAt_counted, octetsAt_split, ← gpsk2Payload,
    ← counted_readCounted, octetsAt_rands, isGpsk, octets_read_octetsAt, List.append_assoc]

/-- What the machine has written again is what it was sent. -/
theorem rewritten_iff (read : parseRawToApp raw = some gpsk) {msg : EapOctets}
    (written : { gpsk with mac := [] }.parseAppToRaw = some msg) :
    msg.drop 6 = gpskCovered raw ↔ GpskFaithful raw := by
  obtain ⟨keySize, isSize, isGpsk⟩ := eq_of_parse read
  have isTwo := opCode_of_parse read
  have covered := gpskCovered_eq read
  have peerLength : gpsk.idPeer.length = readShort (raw.drop 1) := by
    rw [isGpsk, length_readCounted]
  have serverLength : gpsk.idServer.length = readShort (afterCounted (raw.drop 1)) := by
    rw [isGpsk, length_readCounted]
  have listLength : gpsk.csuiteList.length = readShort (gpsk2List raw) / 6 := by
    rw [isGpsk, readCipherSuiteList_eq, List.length_replicate]
  have payloadLength : gpsk.pdPayload.length = readShort (gpsk2Payload raw) := by
    rw [isGpsk, length_readCounted]
  have lists : writeCipherSuiteList gpsk.csuiteList =
      (List.replicate (readShort (gpsk2List raw) / 6)
        (octetsAt (readCounted (gpsk2List raw)) 0 6)).flatten := by
    rw [isGpsk, writeCipherSuiteList_read]
  have coveredLength : gpskCoveredLength raw =
      gpsk.idPeer.length + gpsk.idServer.length + readShort (gpsk2List raw) +
        gpsk.pdPayload.length + 78 := by
    rw [gpskCoveredLength, if_pos isTwo, peerLength, serverLength, payloadLength]
    omega
  obtain ⟨peer, server, listed, inside⟩ := of_write written
  -- Where the message leaves room, all of it is written.
  have whole (room : 6 + gpskCoveredLength raw ≤ gpskMaxPktSize) :
      msg.drop 6 = gpsk.octets ∧ gpsk.octets.length =
        gpsk.idPeer.length + gpsk.idServer.length + 6 * gpsk.csuiteList.length + 78 := by
    let plain : EapGpsk2 := { gpsk with mac := [] }
    have fits : plain.Fits :=
      { peer, server, listed
        randPeer := by rw [show plain.randPeer = gpsk.randPeer from rfl, isGpsk, length_octetsAt]
        randServer := by
          rw [show plain.randServer = gpsk.randServer from rfl, isGpsk, length_octetsAt]
        room := by
          rw [gpskMaxPktSize] at room ⊢
          simp only [plain]
          omega }
    have long := length_octets fits
    have all : some msg = some (gpskHead 2 ++ gpsk.octets) :=
      written.symm.trans (write_eq fits rfl)
    rw [Option.some.inj all]
    exact ⟨rfl, long⟩
  constructor
  · intro same
    have room := covered_fits inside same
    have again := whole room
    rw [same] at again
    have lengths := congrArg List.length again.1
    rw [again.2, length_gpskCovered, coveredLength] at lengths
    have empty : gpsk.pdPayload.length = 0 := by omega
    have full : 6 * gpsk.csuiteList.length = readShort (gpsk2List raw) := by omega
    have tails := covered.symm.trans again.1
    rw [List.length_eq_zero_iff.1 empty] at tails
    simp only [octets, List.append_cancel_left_eq] at tails
    have sameList : readCounted (gpsk2List raw) = writeCipherSuiteList gpsk.csuiteList :=
      counted_inj (List.append_cancel_right tails)
    rw [GpskFaithful, if_pos isTwo]
    refine ⟨payloadLength ▸ empty, ?_, room⟩
    rw [RepeatsFirst, length_readCounted, ← lists]
    exact sameList
  · intro faithful
    rw [GpskFaithful, if_pos isTwo] at faithful
    obtain ⟨empty, repeats, room⟩ := faithful
    rw [RepeatsFirst, length_readCounted, ← lists] at repeats
    have none : gpsk.pdPayload = [] := List.length_eq_zero_iff.1 (payloadLength.trans empty)
    rw [(whole room).1, covered, repeats, none]
    rfl

end EapGpsk2

namespace EapGpsk3

variable {raw : EapOctets} {gpsk : EapGpsk3}

theorem opCode_of_parse (read : parseRawToApp raw = .ok gpsk) : raw.getD 0 0 = 3 := by
  rw [parseRawToApp] at read
  split at read
  · cases read
  · rename_i isThree
    exact not_not.1 isThree

theorem eq_of_parse (read : parseRawToApp raw = .ok gpsk) :
    ∃ keySize,
      (EapGpskCipherSuite.read (octetsAt (afterCounted (gpsk3Server raw)) 0 6)).keySize =
        some keySize ∧
      gpsk =
        { randPeer := octetsAt (raw.drop 1) 0 32
          randServer := octetsAt (raw.drop 1) 32 32
          idServer := readCounted (gpsk3Server raw)
          csuiteSelected := .read (octetsAt (afterCounted (gpsk3Server raw)) 0 6)
          pdPayload := readCounted (gpsk3Payload raw)
          mac := octetsAt (afterCounted (gpsk3Payload raw)) 0 keySize } := by
  have isThree : ¬raw.getD 0 0 ≠ 3 := fun other => other (opCode_of_parse read)
  rw [parseRawToApp, if_neg isThree] at read
  dsimp only at read
  split at read
  · cases read
  · rename_i keySize isSize
    exact ⟨keySize, isSize, (Except.ok.inj read).symm⟩

theorem gpskMac_eq (read : parseRawToApp raw = .ok gpsk) : gpskMac raw = some gpsk.mac := by
  obtain ⟨keySize, isSize, isGpsk⟩ := eq_of_parse read
  have isThree := opCode_of_parse read
  have notTwo : ¬raw.getD 0 0 = 2 := by
    rw [isThree]
    decide
  rw [gpskMac, if_neg notTwo, if_pos isThree, isSize, isGpsk, Option.map_some]

theorem gpskCovered_eq (read : parseRawToApp raw = .ok gpsk) :
    gpskCovered raw =
      gpsk.randPeer ++ (gpsk.randServer ++ (counted gpsk.idServer ++
        (gpsk.csuiteSelected.octets ++ counted gpsk.pdPayload))) := by
  obtain ⟨keySize, isSize, isGpsk⟩ := eq_of_parse read
  have isThree := opCode_of_parse read
  have notTwo : ¬raw.getD 0 0 = 2 := by
    rw [isThree]
    decide
  have behind (count : Nat) : octetsAt raw 1 count = octetsAt (raw.drop 1) 0 count := rfl
  rw [gpskCovered, gpskCoveredLength, if_neg notTwo, if_pos isThree, behind, octetsAt_split,
    ← gpsk3Server, octetsAt_counted, octetsAt_split, ← gpsk3Payload, ← counted_readCounted,
    octetsAt_rands, isGpsk, octets_read_octetsAt, List.append_assoc]

theorem rewritten_iff (read : parseRawToApp raw = .ok gpsk) {msg : EapOctets}
    (written : { gpsk with mac := [] }.parseAppToRaw = some msg) :
    msg.drop 6 = gpskCovered raw ↔ GpskFaithful raw := by
  obtain ⟨keySize, isSize, isGpsk⟩ := eq_of_parse read
  have isThree := opCode_of_parse read
  have notTwo : ¬raw.getD 0 0 = 2 := by
    rw [isThree]
    decide
  have covered := gpskCovered_eq read
  have serverLength : gpsk.idServer.length = readShort (gpsk3Server raw) := by
    rw [isGpsk, length_readCounted]
  have payloadLength : gpsk.pdPayload.length = readShort (gpsk3Payload raw) := by
    rw [isGpsk, length_readCounted]
  have coveredLength : gpskCoveredLength raw =
      gpsk.idServer.length + gpsk.pdPayload.length + 74 := by
    rw [gpskCoveredLength, if_neg notTwo, if_pos isThree, serverLength, payloadLength]
    omega
  obtain ⟨server, inside⟩ := of_write written
  have whole (room : 6 + gpskCoveredLength raw ≤ gpskMaxPktSize) :
      msg.drop 6 = gpsk.octets ∧ gpsk.octets.length = gpsk.idServer.length + 74 := by
    let plain : EapGpsk3 := { gpsk with mac := [] }
    have fits : plain.Fits :=
      { server := by
          intro empty
          rw [show gpsk.idServer.length = 0 from empty] at server
          exact server rfl
        randPeer := by rw [show plain.randPeer = gpsk.randPeer from rfl, isGpsk, length_octetsAt]
        randServer := by
          rw [show plain.randServer = gpsk.randServer from rfl, isGpsk, length_octetsAt]
        room := by
          rw [gpskMaxPktSize] at room ⊢
          simp only [plain]
          omega }
    have long := length_octets fits
    have all : some msg = some (gpskHead 3 ++ gpsk.octets) :=
      written.symm.trans (write_eq fits rfl)
    rw [Option.some.inj all]
    exact ⟨rfl, long⟩
  constructor
  · intro same
    have room := covered_fits inside same
    have again := whole room
    rw [same] at again
    have lengths := congrArg List.length again.1
    rw [again.2, length_gpskCovered, coveredLength] at lengths
    have empty : gpsk.pdPayload.length = 0 := by omega
    rw [GpskFaithful, if_neg notTwo, if_pos isThree, isSize]
    exact ⟨rfl, payloadLength ▸ empty, room⟩
  · intro faithful
    rw [GpskFaithful, if_neg notTwo, if_pos isThree] at faithful
    obtain ⟨_, empty, room⟩ := faithful
    have none : gpsk.pdPayload = [] := List.length_eq_zero_iff.1 (payloadLength.trans empty)
    rw [(whole room).1, covered, none]
    rfl

end EapGpsk3

namespace EapGpsk4

variable {raw : EapOctets} {gpsk : EapGpsk4}

theorem opCode_of_parse (read : parseRawToApp raw = some gpsk) :
    raw.getD 0 0 = 4 ∧ gpsk.pdPayload = readCounted (raw.drop 1) ∧
      gpsk.mac = afterCounted (raw.drop 1) := by
  rw [parseRawToApp] at read
  split at read
  · cases read
  · rename_i isFour
    split at read
    · cases read
    · cases read
      exact ⟨not_not.1 isFour, rfl, rfl⟩

theorem gpskMac_eq (read : parseRawToApp raw = some gpsk) : gpskMac raw = some gpsk.mac := by
  obtain ⟨isFour, _, isMac⟩ := opCode_of_parse read
  rw [gpskMac, isFour, isMac]
  rfl

theorem rewritten_iff (read : parseRawToApp raw = some gpsk) {msg : EapOctets}
    (written : { gpsk with mac := [] }.parseAppToRaw = some msg) :
    msg.drop 6 = gpskCovered raw ↔ GpskFaithful raw := by
  obtain ⟨isFour, isPayload, _⟩ := opCode_of_parse read
  have isMsg : gpskHead 4 ++ writeShort 0 = msg := Option.some.inj (write_eq.symm.trans written)
  have isFaithful : GpskFaithful raw ↔ readShort (raw.drop 1) = 0 := by
    rw [GpskFaithful, isFour]
    rfl
  have isCovered : gpskCovered raw = counted (readCounted (raw.drop 1)) := by
    have length : gpskCoveredLength raw = 2 + readShort (raw.drop 1) := by
      rw [gpskCoveredLength, isFour]
      rfl
    rw [gpskCovered, length, counted_readCounted]
    rfl
  have isCut : msg.drop 6 = counted [] := by
    rw [← isMsg]
    rfl
  rw [isFaithful, isCut, isCovered]
  constructor
  · intro same
    rw [← length_readCounted, ← counted_inj same, List.length_nil]
  · intro empty
    rw [List.length_eq_zero_iff.1 ((length_readCounted _).trans empty)]

end EapGpsk4

namespace EapGpskProtectedFail

variable {raw : EapOctets} {gpsk : EapGpskProtectedFail}

theorem opCode_of_parse (read : parseRawToApp raw = some gpsk) :
    raw.getD 0 0 = 6 ∧ gpsk.failureCode = UInt32.ofNat (ntohl (raw.drop 1)) ∧
      gpsk.mac = raw.drop 5 := by
  rw [parseRawToApp] at read
  split at read
  · cases read
  · rename_i isSix
    split at read
    · cases read
    · cases read
      exact ⟨not_not.1 isSix, rfl, rfl⟩

theorem gpskMac_eq (read : parseRawToApp raw = some gpsk) : gpskMac raw = some gpsk.mac := by
  obtain ⟨isSix, _, isMac⟩ := opCode_of_parse read
  rw [gpskMac, isSix, isMac]
  rfl

/-- The failure code is all that there is. -/
theorem rewritten_eq (read : parseRawToApp raw = some gpsk) {msg : EapOctets}
    (written : { gpsk with mac := [] }.parseAppToRaw = some msg) :
    msg.drop 6 = gpskCovered raw := by
  obtain ⟨isSix, isCode, _⟩ := opCode_of_parse read
  have isMsg : gpskHead 6 ++ htonl gpsk.failureCode.toNat = msg := Option.some.inj written
  have isCovered : gpskCovered raw = octetsAt (raw.drop 1) 0 4 := by
    rw [gpskCovered, gpskCoveredLength, isSix]
    rfl
  have short := ntohl_lt (raw.drop 1)
  rw [isCovered, ← isMsg, isCode, UInt32.toNat_ofNat_of_lt' short, ← htonl_ntohl]
  rfl

end EapGpskProtectedFail

/-- A suite without a key size, of which no MAC is read. -/
theorem EapGpsk3.error_of_parse {raw rest : EapOctets} (failed : parseRawToApp raw = .error rest) :
    raw.getD 0 0 ≠ 3 ∧ rest = raw ∨ raw.getD 0 0 = 3 ∧
      (EapGpskCipherSuite.read (octetsAt (afterCounted (gpsk3Server raw)) 0 6)).keySize = none := by
  rw [parseRawToApp] at failed
  split at failed
  · rename_i other
    exact .inl ⟨other, (Except.error.inj failed).symm⟩
  · rename_i isThree
    dsimp only at failed
    split at failed
    · rename_i unsupported
      exact .inr ⟨not_not.1 isThree, unsupported⟩
    · cases failed

/-- The checks that messages with a MAC are given to: the first, the third and the last are those of
the authenticator. -/
inductive GpskCheck where
  | gpsk2Msg
  | gpsk3Msg
  | gpsk4Msg
  | gpskFailMsg
  deriving DecidableEq, Repr

section Checks

variable (aesEncrypt : AesEncrypt)

/-- The check leads to no event that refuses the message. -/
def GpskCheck.Accepts (input : GpskInput) (node : GpskNode) : GpskCheck → Prop
  | .gpsk2Msg =>
    (GpskAuth.doIntegrityCheckForGpsk2Msg aesEncrypt input node).raised = some .sgValid ∨
      (GpskAuth.doIntegrityCheckForGpsk2Msg aesEncrypt input node).raised = some .sgProtectedFail
  | .gpsk3Msg =>
    (GpskPeer.doIntegrityCheckForGpsk3Msg aesEncrypt input node).raised = some .sgValid ∨
      (GpskPeer.doIntegrityCheckForGpsk3Msg aesEncrypt input node).raised = some .sgFail
  | .gpsk4Msg =>
    (GpskAuth.doIntegrityCheckForGpsk4Msg aesEncrypt input node).raised = some .sgValid
  | .gpskFailMsg => (GpskAuth.doIntegrityCheckForGpskFailMsg input node).raised = none

/-- The MAC of the message is that of the octets between its op-code and it. -/
def GpskAuthentic (secret raw : EapOctets) : Prop :=
  gpskMac raw = some (aesCmac aesEncrypt secret (gpskCovered raw))

variable {aesEncrypt} {input : GpskInput} {node : GpskNode}

theorem accepts_gpsk2 (accepts : GpskCheck.Accepts aesEncrypt input node .gpsk2Msg) :
    ∃ gpsk msg, EapGpsk2.parseRawToApp input.raw = some gpsk ∧
      { gpsk with mac := [] }.parseAppToRaw = some msg ∧
      gpsk.mac = aesCmac aesEncrypt node.sharedSecret (msg.drop 6) := by
  rw [GpskCheck.Accepts, GpskAuth.doIntegrityCheckForGpsk2Msg] at accepts
  cases read : EapGpsk2.parseRawToApp input.raw with
  | none => simp [read] at accepts
  | some gpsk =>
    rw [read] at accepts
    dsimp only at accepts
    split at accepts
    · simp at accepts
    split at accepts
    · simp at accepts
    split at accepts
    · simp at accepts
    split at accepts
    · simp at accepts
    cases written : ({ gpsk with mac := [] } : EapGpsk2).parseAppToRaw with
    | none => simp [written] at accepts
    | some msg =>
      rw [written] at accepts
      dsimp only at accepts
      split at accepts
      · simp at accepts
      · rename_i checks
        exact ⟨gpsk, msg, rfl, written, not_not.1 checks⟩

theorem accepts_gpsk4 (accepts : GpskCheck.Accepts aesEncrypt input node .gpsk4Msg) :
    ∃ gpsk msg, EapGpsk4.parseRawToApp input.raw = some gpsk ∧
      { gpsk with mac := [] }.parseAppToRaw = some msg ∧
      gpsk.mac = aesCmac aesEncrypt node.sharedSecret (msg.drop 6) := by
  rw [GpskCheck.Accepts, GpskAuth.doIntegrityCheckForGpsk4Msg] at accepts
  cases read : EapGpsk4.parseRawToApp input.raw with
  | none => simp [read] at accepts
  | some gpsk =>
    rw [read] at accepts
    dsimp only at accepts
    cases written : ({ gpsk with mac := [] } : EapGpsk4).parseAppToRaw with
    | none => simp [written] at accepts
    | some msg =>
      rw [written] at accepts
      dsimp only at accepts
      split at accepts
      · simp at accepts
      · rename_i checks
        exact ⟨gpsk, msg, rfl, written, not_not.1 checks⟩

/-- A GPSK-Protected-Fail that the peer replays has the MAC of its code. -/
theorem replays_protectedFail {fail : EapGpskProtectedFail}
    (accepts :
      (GpskPeer.replayGpskProtectedFail aesEncrypt fail node).raised = some .sgValid ∨
        (GpskPeer.replayGpskProtectedFail aesEncrypt fail node).raised = some .sgFail) :
    ∃ msg, { fail with mac := [] }.parseAppToRaw = some msg ∧
      fail.mac = aesCmac aesEncrypt node.sharedSecret (msg.drop 6) := by
  rw [GpskPeer.replayGpskProtectedFail] at accepts
  cases written : ({ fail with mac := [] } : EapGpskProtectedFail).parseAppToRaw with
  | none => simp [written] at accepts
  | some msg =>
    rw [written] at accepts
    dsimp only at accepts
    split at accepts
    · simp at accepts
    · rename_i checks
      exact ⟨msg, rfl, not_not.1 checks⟩

/-- The peer accepts a third message with a MAC, a failure, or what stands behind a message whose
suite it does not know. -/
theorem accepts_gpsk3 (accepts : GpskCheck.Accepts aesEncrypt input node .gpsk3Msg) :
    (∃ gpsk msg, EapGpsk3.parseRawToApp input.raw = .ok gpsk ∧
      { gpsk with mac := [] }.parseAppToRaw = some msg ∧
      gpsk.mac = aesCmac aesEncrypt node.sharedSecret (msg.drop 6)) ∨
    (∃ gpsk msg, EapGpskProtectedFail.parseRawToApp input.raw = some gpsk ∧
      { gpsk with mac := [] }.parseAppToRaw = some msg ∧
      gpsk.mac = aesCmac aesEncrypt node.sharedSecret (msg.drop 6)) ∨
    input.raw.getD 0 0 = 5 ∨
    (input.raw.getD 0 0 = 3 ∧
      (EapGpskCipherSuite.read
        (octetsAt (afterCounted (gpsk3Server input.raw)) 0 6)).keySize = none) := by
  rw [GpskCheck.Accepts, GpskPeer.doIntegrityCheckForGpsk3Msg] at accepts
  cases read : EapGpsk3.parseRawToApp input.raw with
  | ok gpsk =>
    rw [read] at accepts
    dsimp only at accepts
    split at accepts
    · simp at accepts
    split at accepts
    · simp at accepts
    split at accepts
    · simp at accepts
    cases written : ({ gpsk with mac := [] } : EapGpsk3).parseAppToRaw with
    | none => simp [written] at accepts
    | some msg =>
      rw [written] at accepts
      dsimp only at accepts
      split at accepts
      · simp at accepts
      · rename_i checks
        exact .inl ⟨gpsk, msg, rfl, written, not_not.1 checks⟩
  | error rest =>
    apply (EapGpsk3.error_of_parse read).elim
    · rintro ⟨_, rfl⟩
      rw [read] at accepts
      dsimp only at accepts
      cases isFail : EapGpskFail.parseRawToApp input.raw with
      | some fail =>
        rw [EapGpskFail.parseRawToApp] at isFail
        split at isFail
        · cases isFail
        · rename_i isFive
          exact .inr (.inr (.inl (not_not.1 isFive)))
      | none =>
        rw [isFail] at accepts
        dsimp only at accepts
        cases isProtected : EapGpskProtectedFail.parseRawToApp input.raw with
        | none => simp [isProtected] at accepts
        | some fail =>
          rw [isProtected] at accepts
          obtain ⟨msg, written, checks⟩ := replays_protectedFail accepts
          exact .inr (.inl ⟨fail, msg, rfl, written, checks⟩)
    · intro unsupported
      exact .inr (.inr (.inr unsupported))

/-- The authenticator accepts any message that is read as a failure. -/
theorem accepts_gpskFail (accepts : GpskCheck.Accepts aesEncrypt input node .gpskFailMsg)
    (hasMac : input.raw.getD 0 0 ∈ [2, 3, 4, 6]) :
    ∃ gpsk, EapGpskProtectedFail.parseRawToApp input.raw = some gpsk := by
  have notFive : input.raw.getD 0 0 ≠ 5 := by
    intro isFive
    rw [isFive] at hasMac
    exact absurd hasMac (by decide)
  rw [GpskCheck.Accepts, GpskAuth.doIntegrityCheckForGpskFailMsg, EapGpskFail.parseRawToApp,
    if_pos notFive] at accepts
  cases read : EapGpskProtectedFail.parseRawToApp input.raw with
  | none => simp [read] at accepts
  | some gpsk => exact ⟨gpsk, rfl⟩

/-- The octets that were checked against the MAC are those of the message. -/
theorem authentic_iff_same {secret raw mac msg : EapOctets} (isMac : gpskMac raw = some mac)
    (checks : mac = aesCmac aesEncrypt secret (msg.drop 6))
    (injective : aesCmac aesEncrypt secret (msg.drop 6) =
      aesCmac aesEncrypt secret (gpskCovered raw) → msg.drop 6 = gpskCovered raw) :
    GpskAuthentic aesEncrypt secret raw ↔ msg.drop 6 = gpskCovered raw := by
  rw [GpskAuthentic, isMac, checks, Option.some.injEq]
  constructor
  · exact injective
  · intro same
    rw [same]

/-- The condition under which an accepted message has the MAC of its own octets. The authenticator
does not look at the MAC of a failure. -/
def GpskCheck.Holds (aesEncrypt : AesEncrypt) (secret raw : EapOctets) (check : GpskCheck) :
    Prop :=
  if check = .gpskFailMsg then raw.drop 5 = aesCmac aesEncrypt secret (octetsAt raw 1 4)
  else GpskFaithful raw

theorem gpsk_authentic_iff {check : GpskCheck} (accepts : check.Accepts aesEncrypt input node)
    (hasMac : input.raw.getD 0 0 ∈ [2, 3, 4, 6])
    (injective : ∀ msg ∈ gpskRewritten input.raw,
      aesCmac aesEncrypt node.sharedSecret (msg.drop 6) =
        aesCmac aesEncrypt node.sharedSecret (gpskCovered input.raw) →
      msg.drop 6 = gpskCovered input.raw) :
    GpskAuthentic aesEncrypt node.sharedSecret input.raw ↔
      check.Holds aesEncrypt node.sharedSecret input.raw := by
  cases check with
  | gpsk2Msg =>
    obtain ⟨gpsk, msg, read, written, checks⟩ := accepts_gpsk2 accepts
    have rewritten : gpskRewritten input.raw = some msg := by
      rw [gpskRewritten, if_pos (EapGpsk2.opCode_of_parse read), read]
      exact written
    rw [authentic_iff_same (EapGpsk2.gpskMac_eq read) checks (injective msg rewritten)]
    exact EapGpsk2.rewritten_iff read written
  | gpsk3Msg =>
    obtain ⟨gpsk, msg, read, written, checks⟩ | ⟨gpsk, msg, read, written, checks⟩ | isFive |
      ⟨isThree, unsupported⟩ := accepts_gpsk3 accepts
    · have rewritten : gpskRewritten input.raw = some msg := by
        rw [gpskRewritten, EapGpsk3.opCode_of_parse read, read]
        exact written
      rw [authentic_iff_same (EapGpsk3.gpskMac_eq read) checks (injective msg rewritten)]
      exact EapGpsk3.rewritten_iff read written
    · obtain ⟨isSix, _⟩ := EapGpskProtectedFail.opCode_of_parse read
      have same := EapGpskProtectedFail.rewritten_eq read written
      have isFaithful : GpskFaithful input.raw := by
        rw [GpskFaithful, isSix]
        trivial
      rw [authentic_iff_same (EapGpskProtectedFail.gpskMac_eq read) checks fun _ => same]
      exact iff_of_true same isFaithful
    · rw [isFive] at hasMac
      exact absurd hasMac (by decide)
    · apply iff_of_false
      · intro authentic
        rw [GpskAuthentic, gpskMac, isThree, unsupported] at authentic
        cases authentic
      · intro faithful
        have isFaithful : GpskFaithful input.raw := faithful
        rw [GpskFaithful, isThree, unsupported] at isFaithful
        exact Bool.false_ne_true isFaithful.1
  | gpsk4Msg =>
    obtain ⟨gpsk, msg, read, written, checks⟩ := accepts_gpsk4 accepts
    have rewritten : gpskRewritten input.raw = some msg := by
      rw [gpskRewritten, (EapGpsk4.opCode_of_parse read).1, read]
      exact written
    rw [authentic_iff_same (EapGpsk4.gpskMac_eq read) checks (injective msg rewritten)]
    exact EapGpsk4.rewritten_iff read written
  | gpskFailMsg =>
    obtain ⟨gpsk, read⟩ := accepts_gpskFail accepts hasMac
    obtain ⟨isSix, _⟩ := EapGpskProtectedFail.opCode_of_parse read
    have isCovered : gpskCovered input.raw = octetsAt input.raw 1 4 := by
      rw [gpskCovered, gpskCoveredLength, isSix]
      rfl
    have isMac : gpskMac input.raw = some (input.raw.drop 5) := by
      rw [gpskMac, isSix]
      rfl
    rw [GpskAuthentic, isMac, isCovered, Option.some.injEq]
    rfl

end Checks

/-- An authenticator that waits for the fourth message, with a secret of sixteen octets. -/
def waitingGpsk4 : GpskNode where
  sharedSecret := List.replicate 16 7

/-- The fourth message with the MAC of one without a payload. -/
def gpsk4Input (aesEncrypt : AesEncrypt) (payload : EapOctets) : GpskInput where
  rxMessage := writeHeader ⟨codeResponse, 1⟩
    (gpskHead 4 ++ (counted payload ++ aesCmac aesEncrypt waitingGpsk4.sharedSecret (writeShort 0)))
  sharedSecret := []
  identity := []
  random := none

theorem gpsk_authentic_gpsk4 :
    GpskAuthentic (fun _ block => block) waitingGpsk4.sharedSecret
        (gpsk4Input (fun _ block => block) []).raw ↔
      GpskCheck.Holds (fun _ block => block) waitingGpsk4.sharedSecret
        (gpsk4Input (fun _ block => block) []).raw .gpsk4Msg := by
  apply @gpsk_authentic_iff (fun _ block => block) _ waitingGpsk4 .gpsk4Msg
  · rw [GpskCheck.Accepts]
    decide +kernel
  · decide +kernel
  · intro msg rewritten _
    have isMsg : gpskRewritten (gpsk4Input (fun _ block => block) []).raw =
        some (gpskHead 4 ++ writeShort 0) := by decide +kernel
    cases isMsg.symm.trans rewritten
    decide +kernel

/-- A payload that is put into the message is not noticed. -/
theorem accepts_gpsk4Input (aesEncrypt : AesEncrypt) {payload : EapOctets}
    (short : payload.length < 65536) :
    GpskCheck.Accepts aesEncrypt (gpsk4Input aesEncrypt payload) waitingGpsk4 .gpsk4Msg := by
  have raw : (gpsk4Input aesEncrypt payload).raw =
      4 :: (counted payload ++
        aesCmac aesEncrypt waitingGpsk4.sharedSecret (writeShort 0)) := raw_writeHeader _ _ _
  have written : ({ pdPayload := payload } : EapGpsk4).parseAppToRaw =
      some (gpskHead 4 ++ writeShort 0) := rfl
  have checks : ¬aesCmac aesEncrypt waitingGpsk4.sharedSecret (writeShort 0) ≠
      waitingGpsk4.mac aesEncrypt (gpskHead 4 ++ writeShort 0) := fun other => other rfl
  rw [GpskCheck.Accepts, GpskAuth.doIntegrityCheckForGpsk4Msg, raw, EapGpsk4.parse_octets short]
  simp only [written, if_neg checks]

theorem gpsk4_payload_accepted :
    (∀ aesEncrypt, GpskCheck.Accepts aesEncrypt (gpsk4Input aesEncrypt [99]) waitingGpsk4
        .gpsk4Msg) ∧
      ¬GpskAuthentic (fun _ block => block) waitingGpsk4.sharedSecret
        (gpsk4Input (fun _ block => block) [99]).raw := by
  constructor
  · intro aesEncrypt
    exact accepts_gpsk4Input aesEncrypt (by decide)
  · rw [GpskAuthentic]
    decide +kernel

end OpenDiameter.Eap
