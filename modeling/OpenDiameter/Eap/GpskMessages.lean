import OpenDiameter.Foundation.BlockWrites
import OpenDiameter.Eap.Types

/-!
`eap_gpsk.hxx` and `eap_gpsk_parser.hxx`: the cipher suites and the messages of EAP-GPSK, and how
they are read and written.
-/

namespace OpenDiameter.Eap

open OpenDiameter.Foundation

/-- `GPSK_METHOD_TYPE` -/
def gpskType : EapType := ⟨200, 0, 0⟩

/-- `GPSK_MAX_PKT_SIZE` -/
def gpskMaxPktSize : Nat := 1024

structure EapGpskCipherSuite where
  vendor : UInt32 := 0
  /-- `CIPHER_SUITE_AES` is 1, `CIPHER_SUITE_HMAC` is 2. -/
  cipherSuite : UInt16 := 1
  deriving DecidableEq, Repr

namespace EapGpskCipherSuite

/-- Nothing where it throws. -/
def keySize (suite : EapGpskCipherSuite) : Option Nat :=
  if suite.cipherSuite = 1 then some 16
  else if suite.cipherSuite = 2 then some 32
  else none

/-- `toString` -/
def octets (suite : EapGpskCipherSuite) : EapOctets :=
  htonl suite.vendor.toNat ++ writeShort suite.cipherSuite.toNat

/-- `fromString` -/
def read (octets : EapOctets) : EapGpskCipherSuite where
  vendor := UInt32.ofNat (ntohl octets)
  cipherSuite := UInt16.ofNat (readShort (octets.drop 4))

end EapGpskCipherSuite

abbrev EapGpskCipherSuiteList := List EapGpskCipherSuite

/-- `readCipherSuiteList`: the pointer goes back to the first suite in each turn of the loop. -/
def readCipherSuiteList (strlist : EapOctets) (length : Nat) : EapGpskCipherSuiteList :=
  (List.range (length / 6)).map fun _ => .read strlist

def writeCipherSuiteList (list : EapGpskCipherSuiteList) : EapOctets :=
  list.flatMap (·.octets)

structure EapGpsk1 where
  idServer : EapOctets
  randServer : EapOctets
  csuiteList : EapGpskCipherSuiteList
  deriving DecidableEq

structure EapGpsk2 where
  idPeer : EapOctets
  idServer : EapOctets
  randPeer : EapOctets
  randServer : EapOctets
  csuiteList : EapGpskCipherSuiteList
  csuiteSelected : EapGpskCipherSuite
  pdPayload : EapOctets := []
  mac : EapOctets := []
  deriving DecidableEq

structure EapGpsk3 where
  randPeer : EapOctets
  randServer : EapOctets
  idServer : EapOctets
  csuiteSelected : EapGpskCipherSuite
  pdPayload : EapOctets := []
  mac : EapOctets := []
  deriving DecidableEq

structure EapGpsk4 where
  pdPayload : EapOctets := []
  mac : EapOctets := []
  deriving DecidableEq

structure EapGpskFail where
  failureCode : UInt32
  deriving DecidableEq

structure EapGpskProtectedFail where
  failureCode : UInt32
  mac : EapOctets := []
  deriving DecidableEq

/-! The type of a message says no more than its op-code. Each `parseRawToApp` is given what is
behind the type, and each `parseAppToRaw` leaves the room for the header. -/

/-- The room for the header, the type and the op-code. -/
def gpskHead (opCode : UInt8) : EapOctets := writeType gpskType ++ [opCode]

/-- What has been written, nothing where it went over the end of the block. -/
def writeGpsk (opCode : UInt8) (writes : List BlockWrite) : Option EapOctets :=
  let block := BlockWrite.writeAll gpskMaxPktSize (gpskHead opCode) writes
  if gpskMaxPktSize < block.length then none else some block

/-- How the MAC is written, if there is one. -/
def writeMac (mac : EapOctets) (keySize : Option Nat) : Option (List BlockWrite) :=
  if mac.length = 0 then some []
  else keySize.map fun keySize => [.copy mac keySize]

namespace EapGpsk1

def parseRawToApp (raw : EapOctets) : Option EapGpsk1 :=
  if raw.getD 0 0 ≠ 1 then none
  else
    let rand := afterCounted (raw.drop 1)
    let list := rand.drop 32
    if readShort list % 6 ≠ 0 then none
    else some
      { idServer := readCounted (raw.drop 1)
        randServer := octetsAt rand 0 32
        csuiteList := readCipherSuiteList (readCounted list) (readShort list) }

/-- What is written, where neither the server nor the list is empty. -/
def writes (gpsk : EapGpsk1) : List BlockWrite :=
  BlockWrite.counted gpsk.idServer ++ [.copy gpsk.randServer 32] ++
    BlockWrite.counted (writeCipherSuiteList gpsk.csuiteList)

def parseAppToRaw (gpsk : EapGpsk1) : Option EapOctets :=
  if gpsk.idServer.length = 0 then none
  else if gpsk.csuiteList.length = 0 then none
  else writeGpsk 1 gpsk.writes

end EapGpsk1

namespace EapGpsk2

def parseRawToApp (raw : EapOctets) : Option EapGpsk2 :=
  if raw.getD 0 0 ≠ 2 then none
  else
    let server := afterCounted (raw.drop 1)
    let rand := afterCounted server
    let list := rand.drop 64
    let selected := afterCounted list
    let payload := selected.drop 6
    let csuiteSelected := EapGpskCipherSuite.read (octetsAt selected 0 6)
    csuiteSelected.keySize.map fun keySize =>
      { idPeer := readCounted (raw.drop 1)
        idServer := readCounted server
        randPeer := octetsAt rand 0 32
        randServer := octetsAt rand 32 32
        csuiteList := readCipherSuiteList (readCounted list) (readShort list)
        csuiteSelected := csuiteSelected
        pdPayload := readCounted payload
        mac := octetsAt (afterCounted payload) 0 keySize }

/-- What is written before the MAC. No payload is written. -/
def writes (gpsk : EapGpsk2) : List BlockWrite :=
  BlockWrite.counted gpsk.idPeer ++ BlockWrite.counted gpsk.idServer ++
    [.copy gpsk.randPeer 32, .copy gpsk.randServer 32] ++
    BlockWrite.counted (writeCipherSuiteList gpsk.csuiteList) ++
    [.copy gpsk.csuiteSelected.octets 6, .put (writeShort 0)]

def parseAppToRaw (gpsk : EapGpsk2) : Option EapOctets :=
  if gpsk.idPeer.length = 0 then none
  else if gpsk.idServer.length = 0 then none
  else if gpsk.csuiteList.length = 0 then none
  else (writeMac gpsk.mac gpsk.csuiteSelected.keySize).bind fun mac =>
    writeGpsk 2 (gpsk.writes ++ mac)

end EapGpsk2

namespace EapGpsk3

/-- Where it throws, it leaves the read pointer behind the fields that it has read. -/
def parseRawToApp (raw : EapOctets) : Except EapOctets EapGpsk3 :=
  if raw.getD 0 0 ≠ 3 then .error raw
  else
    let rand := raw.drop 1
    let server := rand.drop 64
    let selected := afterCounted server
    let payload := selected.drop 6
    let csuiteSelected := EapGpskCipherSuite.read (octetsAt selected 0 6)
    match csuiteSelected.keySize with
    | none => .error (afterCounted payload)
    | some keySize => .ok
        { randPeer := octetsAt rand 0 32
          randServer := octetsAt rand 32 32
          idServer := readCounted server
          csuiteSelected := csuiteSelected
          pdPayload := readCounted payload
          mac := octetsAt (afterCounted payload) 0 keySize }

def writes (gpsk : EapGpsk3) : List BlockWrite :=
  [.copy gpsk.randPeer 32, .copy gpsk.randServer 32] ++ BlockWrite.counted gpsk.idServer ++
    [.copy gpsk.csuiteSelected.octets 6, .put (writeShort 0)]

def parseAppToRaw (gpsk : EapGpsk3) : Option EapOctets :=
  if gpsk.idServer.length % 65536 = 0 then none
  else (writeMac gpsk.mac gpsk.csuiteSelected.keySize).bind fun mac =>
    writeGpsk 3 (gpsk.writes ++ mac)

end EapGpsk3

namespace EapGpsk4

/-- The MAC is all that is left. Where the payload would be longer, a string of a negative length
is asked for, which throws. -/
def parseRawToApp (raw : EapOctets) : Option EapGpsk4 :=
  let payload := raw.drop 1
  if raw.getD 0 0 ≠ 4 then none
  else if payload.length < 2 + readShort payload then none
  else some { pdPayload := readCounted payload, mac := afterCounted payload }

def parseAppToRaw (gpsk : EapGpsk4) : Option EapOctets :=
  (writeMac gpsk.mac (some gpsk.mac.length)).bind fun mac =>
    writeGpsk 4 ([.put (writeShort 0)] ++ mac)

end EapGpsk4

namespace EapGpskFail

def parseRawToApp (raw : EapOctets) : Option EapGpskFail :=
  if raw.getD 0 0 ≠ 5 then none
  else some { failureCode := UInt32.ofNat (ntohl (raw.drop 1)) }

def parseAppToRaw (gpsk : EapGpskFail) : Option EapOctets :=
  writeGpsk 5 [.put (htonl gpsk.failureCode.toNat)]

end EapGpskFail

namespace EapGpskProtectedFail

def parseRawToApp (raw : EapOctets) : Option EapGpskProtectedFail :=
  if raw.getD 0 0 ≠ 6 then none
  else if raw.length < 5 then none
  else some { failureCode := UInt32.ofNat (ntohl (raw.drop 1)), mac := raw.drop 5 }

def parseAppToRaw (gpsk : EapGpskProtectedFail) : Option EapOctets :=
  (writeMac gpsk.mac (some gpsk.mac.length)).bind fun mac =>
    writeGpsk 6 ([.put (htonl gpsk.failureCode.toNat)] ++ mac)

end EapGpskProtectedFail

/-- The header is no part of what is read. -/
theorem raw_writeHeader (header : EapHeader) (opCode : UInt8) (rest : EapOctets) :
    (writeHeader header (gpskHead opCode ++ rest)).drop 5 = opCode :: rest :=
  drop_writeHeader header _ (by decide)

/-! A suite is read as it was written, and written as it was read. -/

namespace EapGpskCipherSuite

@[simp] theorem length_octets (suite : EapGpskCipherSuite) : suite.octets.length = 6 := rfl

theorem read_octets (suite : EapGpskCipherSuite) (rest : EapOctets) :
    read (suite.octets ++ rest) = suite := by
  have isVendor : UInt32.ofNat (ntohl (suite.octets ++ rest)) = suite.vendor := by
    have short := suite.vendor.toNat_lt
    rw [octets, List.append_assoc, ntohl_htonl_append, Nat.mod_eq_of_lt short, UInt32.ofNat_toNat]
  have isSuite : UInt16.ofNat (readShort ((suite.octets ++ rest).drop 4)) = suite.cipherSuite := by
    have short := suite.cipherSuite.toNat_lt
    have behind : (suite.octets ++ rest).drop 4 = writeShort suite.cipherSuite.toNat ++ rest := rfl
    rw [behind, readShort_append _ _ (length_writeShort _), readShort_writeShort,
      Nat.mod_eq_of_lt short, UInt16.ofNat_toNat]
  rw [read, isVendor, isSuite]

theorem keySize_eq_sixteen {suite : EapGpskCipherSuite} :
    suite.keySize = some 16 ↔ suite.cipherSuite = 1 := by
  rw [keySize]
  split
  · rename_i aes
    exact iff_of_true rfl aes
  · rename_i other
    apply iff_of_false _ other
    split
    · exact fun isSize => absurd (Option.some.inj isSize) (by decide)
    · exact nofun

theorem octets_read (octets : EapOctets) : (read octets).octets = octetsAt octets 0 6 := by
  have vendor : htonl (read octets).vendor.toNat = octetsAt octets 0 4 := by
    have short := ntohl_lt octets
    rw [read, UInt32.toNat_ofNat_of_lt' short, htonl_ntohl]
  have suite : writeShort (read octets).cipherSuite.toNat = octetsAt octets 4 2 := by
    have short := readShort_lt (octets.drop 4)
    rw [read, UInt16.toNat_ofNat_of_lt' short, writeShort_readShort, octetsAt, octetsAt,
      List.drop_drop]
  rw [EapGpskCipherSuite.octets, vendor, suite, ← octetsAt_add octets 0 4 2]

end EapGpskCipherSuite

/-! Of a list that is read all suites are the first one. -/

@[simp] theorem length_writeCipherSuiteList (list : EapGpskCipherSuiteList) :
    (writeCipherSuiteList list).length = 6 * list.length := by
  induction list with
  | nil => rfl
  | cons suite rest induction =>
    rw [writeCipherSuiteList, List.flatMap_cons, List.length_append,
      EapGpskCipherSuite.length_octets, ← writeCipherSuiteList, induction, List.length_cons]
    omega

theorem readCipherSuiteList_eq (strlist : EapOctets) (length : Nat) :
    readCipherSuiteList strlist length = List.replicate (length / 6) (.read strlist) := by
  rw [readCipherSuiteList, List.map_const', List.length_range]

theorem readCipherSuiteList_write {list : EapGpskCipherSuiteList} {suite : EapGpskCipherSuite}
    (first : list.head? = some suite) :
    readCipherSuiteList (writeCipherSuiteList list) (6 * list.length) =
      List.replicate list.length suite := by
  rw [readCipherSuiteList_eq, Nat.mul_div_cancel_left _ (by decide)]
  cases list with
  | nil => cases first
  | cons head rest =>
    cases first
    rw [writeCipherSuiteList, List.flatMap_cons, EapGpskCipherSuite.read_octets]

/-! What is written where there is room, and what of it is read. -/

variable {opCode : UInt8} {writes : List BlockWrite}

theorem writeGpsk_eq (room : 6 + (writes.flatMap BlockWrite.octets).length ≤ gpskMaxPktSize) :
    writeGpsk opCode writes = some (gpskHead opCode ++ writes.flatMap BlockWrite.octets) := by
  have fits : (gpskHead opCode).length + (writes.flatMap BlockWrite.octets).length ≤
    gpskMaxPktSize := room
  rw [writeGpsk, BlockWrite.writeAll_eq fits]
  apply if_neg
  rw [List.length_append]
  omega

theorem writeGpsk_length {msg : EapOctets} (written : writeGpsk opCode writes = some msg) :
    msg.length ≤ gpskMaxPktSize := by
  rw [writeGpsk] at written
  split at written
  · cases written
  · rename_i inside
    cases written
    exact Nat.le_of_not_lt inside

/-- What is written behind the op-code, and the MAC behind it. -/
theorem writeGpsk_mac {covered mac : EapOctets}
    (isCovered : writes.flatMap BlockWrite.octets = covered)
    (room : 6 + covered.length + mac.length ≤ gpskMaxPktSize) :
    writeGpsk opCode (writes ++ [.copy mac mac.length]) =
      some (gpskHead opCode ++ (covered ++ mac)) := by
  have all : (writes ++ [BlockWrite.copy mac mac.length]).flatMap BlockWrite.octets =
      covered ++ mac := by
    rw [List.flatMap_append, isCovered, List.flatMap_singleton, BlockWrite.octets,
      firstOctets_of_length rfl]
  rw [writeGpsk_eq, all]
  rw [all, List.length_append]
  omega

theorem writeMac_eq {mac : EapOctets} {keySize : Option Nat} (some : mac.length ≠ 0)
    (isSize : keySize = .some mac.length) :
    writeMac mac keySize = .some [.copy mac mac.length] := by
  rw [writeMac, if_neg some, isSize, Option.map_some]

namespace EapGpsk1

/-- What is behind the op-code. -/
def octets (gpsk : EapGpsk1) : EapOctets :=
  counted gpsk.idServer ++ (gpsk.randServer ++ counted (writeCipherSuiteList gpsk.csuiteList))

/-- The fields can be told apart again. -/
structure Fits (gpsk : EapGpsk1) : Prop where
  server : gpsk.idServer.length ≠ 0
  listed : gpsk.csuiteList.length ≠ 0
  rand : gpsk.randServer.length = 32
  room : gpsk.idServer.length + 6 * gpsk.csuiteList.length + 42 ≤ gpskMaxPktSize

variable {gpsk : EapGpsk1}

theorem octets_writes (fits : gpsk.Fits) :
    gpsk.writes.flatMap BlockWrite.octets = gpsk.octets := by
  have room := fits.room
  rw [gpskMaxPktSize] at room
  have list : (writeCipherSuiteList gpsk.csuiteList).length < 65536 := by
    rw [length_writeCipherSuiteList]
    omega
  rw [writes, List.flatMap_append, List.flatMap_append, BlockWrite.octets_counted (by omega),
    BlockWrite.octets_counted list, octets]
  simp only [List.flatMap_cons, List.flatMap_nil, BlockWrite.octets, firstOctets_of_length fits.rand,
    List.append_nil, List.append_assoc]

theorem write_eq (fits : gpsk.Fits) :
    gpsk.parseAppToRaw = some (gpskHead 1 ++ gpsk.octets) := by
  have room := fits.room
  rw [parseAppToRaw, if_neg fits.server, if_neg fits.listed, writeGpsk_eq, octets_writes fits]
  rw [octets_writes fits, octets]
  simp only [List.length_append, length_counted, length_writeCipherSuiteList, fits.rand]
  omega

/-- What is read of it, but that all suites become the first one. -/
theorem parse_octets (fits : gpsk.Fits) {suite : EapGpskCipherSuite}
    (first : gpsk.csuiteList.head? = some suite) :
    parseRawToApp (1 :: gpsk.octets) =
      some { gpsk with csuiteList := List.replicate gpsk.csuiteList.length suite } := by
  have room := fits.room
  rw [gpskMaxPktSize] at room
  have list : (writeCipherSuiteList gpsk.csuiteList).length < 65536 := by
    rw [length_writeCipherSuiteList]
    omega
  have opCode : ¬((1 :: gpsk.octets).getD 0 0 ≠ 1) := fun other => other rfl
  have behind : (1 :: gpsk.octets).drop 1 = gpsk.octets := rfl
  have server : readCounted gpsk.octets = gpsk.idServer := readCounted_counted _ (by omega)
  have afterServer : afterCounted gpsk.octets =
      gpsk.randServer ++ counted (writeCipherSuiteList gpsk.csuiteList) :=
    afterCounted_counted _ (by omega)
  have rand := octetsAt_zero_append gpsk.randServer
    (counted (writeCipherSuiteList gpsk.csuiteList)) fits.rand
  have afterRand : (gpsk.randServer ++ counted (writeCipherSuiteList gpsk.csuiteList)).drop 32 =
      counted (writeCipherSuiteList gpsk.csuiteList) ++ [] := by
    rw [List.drop_left' fits.rand, List.append_nil]
  have divides : ¬(6 * gpsk.csuiteList.length % 6 ≠ 0) := by omega
  simp only [parseRawToApp, if_neg opCode, behind, server, afterServer, rand, afterRand,
    readShort_counted _ list, readCounted_counted _ list, length_writeCipherSuiteList,
    if_neg divides, readCipherSuiteList_write first]

end EapGpsk1

namespace EapGpsk2

/-- What is between the op-code and the MAC. -/
def octets (gpsk : EapGpsk2) : EapOctets :=
  counted gpsk.idPeer ++ (counted gpsk.idServer ++ (gpsk.randPeer ++ (gpsk.randServer ++
    (counted (writeCipherSuiteList gpsk.csuiteList) ++
      (gpsk.csuiteSelected.octets ++ writeShort 0)))))

structure Fits (gpsk : EapGpsk2) : Prop where
  peer : gpsk.idPeer.length ≠ 0
  server : gpsk.idServer.length ≠ 0
  listed : gpsk.csuiteList.length ≠ 0
  randPeer : gpsk.randPeer.length = 32
  randServer : gpsk.randServer.length = 32
  room : gpsk.idPeer.length + gpsk.idServer.length + 6 * gpsk.csuiteList.length + 84 ≤
    gpskMaxPktSize

variable {gpsk : EapGpsk2}

theorem length_octets (fits : gpsk.Fits) :
    gpsk.octets.length =
      gpsk.idPeer.length + gpsk.idServer.length + 6 * gpsk.csuiteList.length + 78 := by
  simp only [octets, List.length_append, length_counted, length_writeCipherSuiteList,
    fits.randPeer, fits.randServer, EapGpskCipherSuite.length_octets, length_writeShort]
  omega

theorem octets_writes (fits : gpsk.Fits) :
    gpsk.writes.flatMap BlockWrite.octets = gpsk.octets := by
  have room := fits.room
  rw [gpskMaxPktSize] at room
  have list : (writeCipherSuiteList gpsk.csuiteList).length < 65536 := by
    rw [length_writeCipherSuiteList]
    omega
  simp only [writes, List.flatMap_append, BlockWrite.octets_counted list,
    BlockWrite.octets_counted (by omega : gpsk.idPeer.length < 65536),
    BlockWrite.octets_counted (by omega : gpsk.idServer.length < 65536), List.flatMap_cons,
    List.flatMap_nil, BlockWrite.octets, firstOctets_of_length fits.randPeer,
    firstOctets_of_length fits.randServer,
    firstOctets_of_length gpsk.csuiteSelected.length_octets, List.append_nil, List.append_assoc,
    octets]

theorem write_eq (fits : gpsk.Fits) (unsigned : gpsk.mac = []) :
    gpsk.parseAppToRaw = some (gpskHead 2 ++ gpsk.octets) := by
  have room := fits.room
  rw [parseAppToRaw, if_neg fits.peer, if_neg fits.server, if_neg fits.listed, unsigned, writeMac,
    if_pos List.length_nil, Option.bind_some, List.append_nil, writeGpsk_eq, octets_writes fits]
  rw [octets_writes fits, length_octets fits]
  omega

theorem write_mac_eq (fits : gpsk.Fits) (signed : gpsk.mac.length ≠ 0)
    (isSize : gpsk.csuiteSelected.keySize = some gpsk.mac.length)
    (room : 6 + gpsk.octets.length + gpsk.mac.length ≤ gpskMaxPktSize) :
    gpsk.parseAppToRaw = some (gpskHead 2 ++ (gpsk.octets ++ gpsk.mac)) := by
  rw [parseAppToRaw, if_neg fits.peer, if_neg fits.server, if_neg fits.listed,
    writeMac_eq signed isSize, Option.bind_some, writeGpsk_mac (octets_writes fits) room]

/-- Where it throws nothing, the fields are there and the block has had room. -/
theorem of_write {msg : EapOctets} (written : gpsk.parseAppToRaw = some msg) :
    gpsk.idPeer.length ≠ 0 ∧ gpsk.idServer.length ≠ 0 ∧ gpsk.csuiteList.length ≠ 0 ∧
      msg.length ≤ gpskMaxPktSize := by
  rw [parseAppToRaw] at written
  split at written
  · cases written
  · rename_i peer
    split at written
    · cases written
    · rename_i server
      split at written
      · cases written
      · rename_i listed
        obtain ⟨mac, _, isMsg⟩ := Option.bind_eq_some_iff.1 written
        exact ⟨peer, server, listed, writeGpsk_length isMsg⟩

/-- The MAC that is read has the size of the key. -/
theorem parse_keySize {raw : EapOctets} (read : parseRawToApp raw = some gpsk) :
    gpsk.csuiteSelected.keySize = some gpsk.mac.length := by
  rw [parseRawToApp] at read
  split at read
  · cases read
  · obtain ⟨size, isSize, isGpsk⟩ := Option.map_eq_some_iff.1 read
    rw [← isGpsk, length_octetsAt]
    exact isSize

theorem parse_octets (fits : gpsk.Fits) {suite : EapGpskCipherSuite}
    (first : gpsk.csuiteList.head? = some suite)
    (isSize : gpsk.csuiteSelected.keySize = some gpsk.mac.length) :
    parseRawToApp (2 :: (gpsk.octets ++ gpsk.mac)) =
      some
        { gpsk with
          csuiteList := List.replicate gpsk.csuiteList.length suite
          pdPayload := [] } := by
  have room := fits.room
  rw [gpskMaxPktSize] at room
  have list : (writeCipherSuiteList gpsk.csuiteList).length < 65536 := by
    rw [length_writeCipherSuiteList]
    omega
  let payload := counted [] ++ gpsk.mac
  let selected := gpsk.csuiteSelected.octets ++ payload
  let offered := counted (writeCipherSuiteList gpsk.csuiteList) ++ selected
  let rand := gpsk.randPeer ++ (gpsk.randServer ++ offered)
  let server := counted gpsk.idServer ++ rand
  have whole : gpsk.octets ++ gpsk.mac = counted gpsk.idPeer ++ server := by
    have empty : writeShort 0 ++ gpsk.mac = payload := rfl
    simp only [octets, List.append_assoc, server, rand, offered, selected, empty]
  have opCode : ¬((2 :: (gpsk.octets ++ gpsk.mac)).getD 0 0 ≠ 2) := fun other => other rfl
  have behind : (2 :: (gpsk.octets ++ gpsk.mac)).drop 1 = counted gpsk.idPeer ++ server := whole
  have isPeer : readCounted (counted gpsk.idPeer ++ server) = gpsk.idPeer :=
    readCounted_counted _ (by omega)
  have afterPeer : afterCounted (counted gpsk.idPeer ++ server) = server :=
    afterCounted_counted _ (by omega)
  have isServer : readCounted server = gpsk.idServer := readCounted_counted _ (by omega)
  have afterServer : afterCounted server = rand := afterCounted_counted _ (by omega)
  have isRandPeer : octetsAt rand 0 32 = gpsk.randPeer :=
    octetsAt_zero_append _ _ fits.randPeer
  have isRandServer : octetsAt rand 32 32 = gpsk.randServer :=
    octetsAt_middle _ _ _ fits.randPeer fits.randServer
  have afterRand : rand.drop 64 = offered := by
    have both : (gpsk.randPeer ++ gpsk.randServer).length = 64 := by
      rw [List.length_append, fits.randPeer, fits.randServer]
    rw [show rand = (gpsk.randPeer ++ gpsk.randServer) ++ offered from
      (List.append_assoc _ _ _).symm]
    exact List.drop_left' both
  have isList : readCounted offered = writeCipherSuiteList gpsk.csuiteList :=
    readCounted_counted _ list
  have listLength : readShort offered = 6 * gpsk.csuiteList.length :=
    (readShort_counted _ list).trans (length_writeCipherSuiteList _)
  have afterList : afterCounted offered = selected := afterCounted_counted _ list
  have isSelected : EapGpskCipherSuite.read (octetsAt selected 0 6) = gpsk.csuiteSelected := by
    rw [octetsAt_zero_append _ _ gpsk.csuiteSelected.length_octets,
      ← List.append_nil gpsk.csuiteSelected.octets, EapGpskCipherSuite.read_octets]
  have afterSelected : selected.drop 6 = payload :=
    List.drop_left' gpsk.csuiteSelected.length_octets
  have isPayload : readCounted payload = [] := readCounted_counted _ (by decide)
  have afterPayload : afterCounted payload = gpsk.mac := afterCounted_counted _ (by decide)
  simp only [parseRawToApp, if_neg opCode, behind, isPeer, afterPeer, isServer, afterServer,
    isRandPeer, isRandServer, afterRand, isList, listLength, afterList, isSelected, afterSelected,
    isPayload, afterPayload, isSize, Option.map_some, octetsAt_zero _ rfl,
    readCipherSuiteList_write first]

end EapGpsk2

namespace EapGpsk3

def octets (gpsk : EapGpsk3) : EapOctets :=
  gpsk.randPeer ++ (gpsk.randServer ++ (counted gpsk.idServer ++
    (gpsk.csuiteSelected.octets ++ writeShort 0)))

structure Fits (gpsk : EapGpsk3) : Prop where
  server : gpsk.idServer.length ≠ 0
  randPeer : gpsk.randPeer.length = 32
  randServer : gpsk.randServer.length = 32
  room : gpsk.idServer.length + 80 ≤ gpskMaxPktSize

variable {gpsk : EapGpsk3}

theorem length_octets (fits : gpsk.Fits) :
    gpsk.octets.length = gpsk.idServer.length + 74 := by
  simp only [octets, List.length_append, length_counted, fits.randPeer, fits.randServer,
    EapGpskCipherSuite.length_octets, length_writeShort]
  omega

theorem Fits.named (fits : gpsk.Fits) :
    ¬gpsk.idServer.length % 65536 = 0 := by
  have some := fits.server
  have room := fits.room
  rw [gpskMaxPktSize] at room
  omega

theorem octets_writes (fits : gpsk.Fits) :
    gpsk.writes.flatMap BlockWrite.octets = gpsk.octets := by
  have room := fits.room
  rw [gpskMaxPktSize] at room
  simp only [writes, List.flatMap_append,
    BlockWrite.octets_counted (by omega : gpsk.idServer.length < 65536), List.flatMap_cons,
    List.flatMap_nil, BlockWrite.octets, firstOctets_of_length fits.randPeer,
    firstOctets_of_length fits.randServer,
    firstOctets_of_length gpsk.csuiteSelected.length_octets, List.append_nil, List.append_assoc,
    octets]

theorem write_eq (fits : gpsk.Fits) (unsigned : gpsk.mac = []) :
    gpsk.parseAppToRaw = some (gpskHead 3 ++ gpsk.octets) := by
  have room := fits.room
  rw [parseAppToRaw, if_neg fits.named, unsigned, writeMac, if_pos List.length_nil,
    Option.bind_some, List.append_nil, writeGpsk_eq, octets_writes fits]
  rw [octets_writes fits, length_octets fits]
  omega

theorem write_mac_eq (fits : gpsk.Fits) (signed : gpsk.mac.length ≠ 0)
    (isSize : gpsk.csuiteSelected.keySize = some gpsk.mac.length)
    (room : 6 + gpsk.octets.length + gpsk.mac.length ≤ gpskMaxPktSize) :
    gpsk.parseAppToRaw = some (gpskHead 3 ++ (gpsk.octets ++ gpsk.mac)) := by
  rw [parseAppToRaw, if_neg fits.named, writeMac_eq signed isSize, Option.bind_some,
    writeGpsk_mac (octets_writes fits) room]

theorem of_write {msg : EapOctets} (written : gpsk.parseAppToRaw = some msg) :
    gpsk.idServer.length % 65536 ≠ 0 ∧ msg.length ≤ gpskMaxPktSize := by
  rw [parseAppToRaw] at written
  split at written
  · cases written
  · rename_i server
    obtain ⟨mac, _, isMsg⟩ := Option.bind_eq_some_iff.1 written
    exact ⟨server, writeGpsk_length isMsg⟩

theorem parse_octets (fits : gpsk.Fits)
    (isSize : gpsk.csuiteSelected.keySize = some gpsk.mac.length) :
    parseRawToApp (3 :: (gpsk.octets ++ gpsk.mac)) = .ok { gpsk with pdPayload := [] } := by
  have room := fits.room
  rw [gpskMaxPktSize] at room
  let payload := counted [] ++ gpsk.mac
  let selected := gpsk.csuiteSelected.octets ++ payload
  let server := counted gpsk.idServer ++ selected
  let rand := gpsk.randPeer ++ (gpsk.randServer ++ server)
  have whole : gpsk.octets ++ gpsk.mac = rand := by
    have empty : writeShort 0 ++ gpsk.mac = payload := rfl
    simp only [octets, List.append_assoc, server, rand, selected, empty]
  have opCode : ¬((3 :: (gpsk.octets ++ gpsk.mac)).getD 0 0 ≠ 3) := fun other => other rfl
  have behind : (3 :: (gpsk.octets ++ gpsk.mac)).drop 1 = rand := whole
  have isRandPeer : octetsAt rand 0 32 = gpsk.randPeer :=
    octetsAt_zero_append _ _ fits.randPeer
  have isRandServer : octetsAt rand 32 32 = gpsk.randServer :=
    octetsAt_middle _ _ _ fits.randPeer fits.randServer
  have afterRand : rand.drop 64 = server := by
    have both : (gpsk.randPeer ++ gpsk.randServer).length = 64 := by
      rw [List.length_append, fits.randPeer, fits.randServer]
    rw [show rand = (gpsk.randPeer ++ gpsk.randServer) ++ server from
      (List.append_assoc _ _ _).symm]
    exact List.drop_left' both
  have isServer : readCounted server = gpsk.idServer := readCounted_counted _ (by omega)
  have afterServer : afterCounted server = selected := afterCounted_counted _ (by omega)
  have isSelected : EapGpskCipherSuite.read (octetsAt selected 0 6) = gpsk.csuiteSelected := by
    rw [octetsAt_zero_append _ _ gpsk.csuiteSelected.length_octets,
      ← List.append_nil gpsk.csuiteSelected.octets, EapGpskCipherSuite.read_octets]
  have afterSelected : selected.drop 6 = payload :=
    List.drop_left' gpsk.csuiteSelected.length_octets
  have isPayload : readCounted payload = [] := readCounted_counted _ (by decide)
  have afterPayload : afterCounted payload = gpsk.mac := afterCounted_counted _ (by decide)
  simp only [parseRawToApp, if_neg opCode, behind, isRandPeer, isRandServer, afterRand, isServer,
    afterServer, isSelected, afterSelected, isPayload, afterPayload, isSize, octetsAt_zero _ rfl]

end EapGpsk3

namespace EapGpsk4

theorem write_eq : ({} : EapGpsk4).parseAppToRaw = some (gpskHead 4 ++ writeShort 0) := rfl

theorem write_mac_eq {mac : EapOctets} (signed : mac.length ≠ 0)
    (room : 8 + mac.length ≤ gpskMaxPktSize) :
    ({ mac := mac } : EapGpsk4).parseAppToRaw = some (gpskHead 4 ++ (writeShort 0 ++ mac)) := by
  rw [parseAppToRaw, writeMac_eq signed rfl, Option.bind_some]
  exact writeGpsk_mac rfl room

theorem parse_octets {payload : EapOctets} (short : payload.length < 65536) (mac : EapOctets) :
    parseRawToApp (4 :: (counted payload ++ mac)) = some { pdPayload := payload, mac := mac } := by
  have opCode : ¬((4 :: (counted payload ++ mac)).getD 0 0 ≠ 4) := fun other => other rfl
  have behind : (4 :: (counted payload ++ mac)).drop 1 = counted payload ++ mac := rfl
  have enough : ¬(counted payload ++ mac).length < 2 + payload.length := by
    rw [List.length_append, length_counted]
    omega
  simp only [parseRawToApp, if_neg opCode, behind, readShort_counted _ short, if_neg enough,
    readCounted_counted _ short, afterCounted_counted _ short]

end EapGpsk4

end OpenDiameter.Eap
