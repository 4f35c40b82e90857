import OpenDiameter.Eap.ArchieMessages
import OpenDiameter.Eap.GpskMessages
import OpenDiameter.Eap.Md5
import OpenDiameter.Foundation.BlockReads
import OpenDiameter.Parser.Utf8

/-!
`eap_parser.hxx`, `eap_gpsk_parser.hxx` and `eap_archie_parser.hxx`: how each parser moves the
pointers of the message block, and where it stays in what was received.
-/

namespace OpenDiameter.Eap

open OpenDiameter.Foundation
open BlockReading

def EapHeaderParser.parseRawToApp : BlockReading EapHeader := do
  setRead 0
  let code ← octet
  let identifier ← octet
  let length ← short
  setWrite length
  return ⟨code, identifier⟩

/-- `EapResponseParser` is the same. -/
def EapRequestParser.parseRawToApp : BlockReading EapType := do
  setRead 4
  let type ← peek
  if type = 254 then
    skip 4
    let vendorType ← peek
    return .vendor (ntohs 1) (ntohs (signExtend vendorType))
  else
    skip 1
    return ⟨type, 0, 0⟩

namespace EapNakParser

/-- The loop for a legacy Nak, which goes through the list that it appends to. -/
def loopLegacy : (rounds : Nat) → (index : Nat) → EapTypeList → BlockReading EapTypeList
  | 0, _, types => pure types
  | rounds + 1, index, types => do
    if index < types.length then
      let type ← octet
      loopLegacy rounds (index + 1) (types ++ [⟨type, 0, 0⟩])
    else
      return types

/-- The loop for an extended Nak, which goes on as long as the end of the block is null. -/
def loopExtended (bufferEnd : Nat) : (rounds : Nat) → EapTypeList → BlockReading EapTypeList
  | 0, types => pure types
  | rounds + 1, types => do
    if bufferEnd = 0 then
      let type ← peek
      if type = 254 then
        skip 4
        let vendorType := ntohs (signExtend (← peek))
        loopExtended bufferEnd rounds
          (if vendorType ≠ 3 then types ++ [.vendor (ntohs 1) vendorType] else types)
      else
        skip 1
        loopExtended bufferEnd rounds (types ++ [⟨type, 0, 0⟩])
    else
      return types

/-- `EapNakParser::parseRawToApp`, of a Nak that is fresh. -/
def readRaw (dict : EapNakDict) (bufferEnd rounds : Nat) : BlockReading EapTypeList :=
  match dict with
  | .legacyNak => loopLegacy rounds 0 []
  | .extendedNak => loopExtended bufferEnd rounds []

end EapNakParser

/-- `UTF8Checker`, without the null check, on the octets from a place on. -/
def checkUtf8 (place : Nat) : (count : Nat) → (length : Nat) → BlockReading Bool
  | 0, 0 => pure true
  | _ + 1, 0 => pure false
  | 0, length + 1 => do
    let b ← octetFrom place
    if b ≠ 0 ∧ b >>> 7 = 0 then
      checkUtf8 (place + 1) 0 length
    else if b >>> 1 = 0x76 then
      return false
    else if b <<< 1 = 0 then
      return false
    else
      checkUtf8 (place + 1) 5 length
  | count + 1, length + 1 => do
    let b ← octetFrom place
    if b.toInt8.toInt / 64 = 2 then checkUtf8 (place + 1) count length else return false

/-- `EapRequestNotificationParser` is the same. -/
def EapRequestIdentityParser.parseRawToApp : BlockReading EapOctets := do
  let idStringSize ← left
  let now ← pointers
  let valid ← checkUtf8 now.rd 0 idStringSize
  if valid = false then
    stop .thrown
  let str ← octetsFrom now.rd idStringSize
  readToEnd
  return str

/-- The length of the name is a signed number of 16 bits. -/
def EapRequestMD5ChallengeParser.parseRawToApp : BlockReading EapMD5Challenge := do
  let contentSize ← left
  let valueSize ← octet
  let value ← take valueSize.toNat
  if valueSize = 0 then
    stop .thrown
  let rest ← difference contentSize (valueSize.toNat + 1)
  let nameLength := rest % 65536
  if 32768 ≤ nameLength then
    stop .negative
  let name ← take nameLength
  return { value := value, name := name }

/-- The number that a parser expects at its read pointer. -/
def expect (code : UInt8) : BlockReading Unit := do
  let opCode ← peek
  if opCode ≠ code then
    stop .thrown

def EapGpskMsgParser.parseRawToApp : BlockReading UInt8 := octet

def EapGpsk1Parser.parseRawToApp : BlockReading EapGpsk1 := do
  expect 1
  skip 1
  let idServer ← counted
  let randServer ← take 32
  let csuiteLength ← short
  if csuiteLength % 6 ≠ 0 then
    stop .thrown
  let cipherList ← take csuiteLength
  skip (csuiteLength * 6)
  return {
    idServer := idServer
    randServer := randServer
    csuiteList := readCipherSuiteList cipherList csuiteLength }

/-- `KeySize` throws where the suite is unknown. -/
def EapGpskCipherSuite.readKeySize (suite : EapGpskCipherSuite) : BlockReading Nat :=
  match suite.keySize with
  | none => stop .thrown
  | some keySize => pure keySize

def EapGpsk2Parser.parseRawToApp : BlockReading EapGpsk2 := do
  expect 2
  skip 1
  let idPeer ← counted
  let idServer ← counted
  let randPeer ← take 32
  let randServer ← take 32
  let cipherList ← counted
  let csuiteSelected := EapGpskCipherSuite.read (← take 6)
  let pdPayload ← counted
  let mac ← take (← csuiteSelected.readKeySize)
  return {
    idPeer := idPeer
    idServer := idServer
    randPeer := randPeer
    randServer := randServer
    csuiteList := readCipherSuiteList cipherList cipherList.length
    csuiteSelected := csuiteSelected
    pdPayload := pdPayload
    mac := mac }

def EapGpsk3Parser.parseRawToApp : BlockReading EapGpsk3 := do
  expect 3
  skip 1
  let randPeer ← take 32
  let randServer ← take 32
  let idServer ← counted
  let csuiteSelected := EapGpskCipherSuite.read (← take 6)
  let pdPayload ← counted
  let mac ← take (← csuiteSelected.readKeySize)
  return {
    randPeer := randPeer
    randServer := randServer
    idServer := idServer
    csuiteSelected := csuiteSelected
    pdPayload := pdPayload
    mac := mac }

def EapGpsk4Parser.parseRawToApp : BlockReading EapGpsk4 := do
  expect 4
  skip 1
  let pdPayload ← counted
  let mac ← take (← left)
  return { pdPayload := pdPayload, mac := mac }

def EapGpskFailParser.parseRawToApp : BlockReading EapGpskFail := do
  expect 5
  skip 1
  let failureCode ← take 4
  return { failureCode := UInt32.ofNat (ntohl failureCode) }

def EapGpskProtectedFailParser.parseRawToApp : BlockReading EapGpskProtectedFail := do
  expect 6
  skip 1
  let failureCode ← take 4
  let mac ← take (← left)
  return { failureCode := UInt32.ofNat (ntohl failureCode), mac := mac }

def EapRequestArchieParser.parseRawToApp : BlockReading UInt8 := octet

/-- A string in a field of 256 octets, of which as many are read as its length octet says. -/
def paddedField (length : UInt8) : BlockReading EapOctets := do
  let now ← pointers
  let octets ← octetsFrom now.rd (paddedLength length)
  skip 256
  return octets

def ArchieBinding.parseRawToApp : BlockReading ArchieBinding := do
  let bType ← short
  let sLength ← octet
  let pLength ← octet
  let addrS ← paddedField sLength
  let addrP ← paddedField pLength
  return { bType := UInt16.ofNat bType, addrS := addrS, addrP := addrP }

def EapRequestArchieRequestParser.parseRawToApp : BlockReading EapRequestArchieRequest := do
  expect 1
  skip 2
  let naiLength ← octet
  let authID ← paddedField naiLength
  let sessionID ← take 32
  return { authID := authID, sessionID := sessionID }

def EapResponseArchieResponseParser.parseRawToApp : BlockReading EapResponseArchieResponse := do
  expect 2
  skip 2
  let naiLength ← octet
  let sessionID ← take 32
  let peerID ← paddedField naiLength
  let nonceP ← take 40
  let binding ← ArchieBinding.parseRawToApp
  let mac1 ← take 12
  return {
    sessionID := sessionID
    peerID := peerID
    nonceP := nonceP
    binding := binding
    mac1 := mac1 }

def EapRequestArchieConfirmParser.parseRawToApp : BlockReading EapRequestArchieConfirm := do
  expect 3
  skip 3
  let sessionID ← take 32
  let nonceA ← take 40
  let binding ← ArchieBinding.parseRawToApp
  let mac2 ← take 12
  return { sessionID := sessionID, nonceA := nonceA, binding := binding, mac2 := mac2 }

def EapResponseArchieFinishParser.parseRawToApp : BlockReading EapResponseArchieFinish := do
  expect 4
  skip 3
  let sessionID ← take 32
  let mac3 ← take 12
  return { sessionID := sessionID, mac3 := mac3 }

/-! Where each parser stays in what was received. -/

section Bounds

variable {block : ReceivedBlock} {now : BlockPointers} {caught : BlockPointers → Prop}

@[simp] theorem stays_expect {code : UInt8} {later : Unit → BlockPointers → Prop} :
    (expect code).Stays block now later caught ↔
      now.rd < block.octets.length ∧
        if block.octets.getD now.rd 0 = code then later () now else caught now := by
  simp only [expect, stays_bind, stays_peek, stays_ite, stays_stop, stays_pure, ite_not,
    true_and]

theorem paddedLength_le (length : UInt8) : paddedLength length ≤ 256 := by
  have bound := length.toNat_lt
  unfold paddedLength
  split <;> omega

@[simp] theorem stays_paddedField {length : UInt8} {later : EapOctets → BlockPointers → Prop} :
    (paddedField length).Stays block now later caught ↔
      (paddedLength length = 0 ∨ now.rd + paddedLength length ≤ block.octets.length) ∧
        later (octetsAt block.octets now.rd (paddedLength length))
          { now with rd := now.rd + 256 } := by
  simp only [paddedField, stays_bind, stays_pointers, stays_octetsFrom, stays_skip, stays_pure]

/-- How many octets of a text `UTF8Checker` looks at. The first one that is no ASCII character ends
the text, as does the one that comes after it. -/
def textLooks : (text : EapOctets) → (length : Nat) → Nat
  | _, 0 => 0
  | [], _ + 1 => 1
  | b :: text, length + 1 =>
    if b ≠ 0 ∧ b.toNat < 128 then 1 + textLooks text length
    else if b >>> 1 = 0x76 ∨ b <<< 1 = 0 ∨ length = 0 then 1
    else 2

theorem stays_checkUtf8_more {place count length : Nat} {later : Bool → BlockPointers → Prop} :
    (checkUtf8 place (count + 1) length).Stays block now later caught ↔
      (length = 0 ∨ place < block.octets.length) ∧ later false now := by
  cases length with
  | zero => simp only [checkUtf8, stays_pure, true_or, true_and]
  | succ length =>
    have signed (octet : UInt8) : octet.toInt8.toInt / 64 ≠ 2 := by
      have bound := Int8.toInt_lt octet.toInt8
      omega
    simp only [checkUtf8, stays_bind, stays_octetFrom, if_neg (signed _), stays_pure,
      Nat.succ_ne_zero, false_or]

theorem octetsAt_succ (octets : EapOctets) (place count : Nat) :
    octetsAt octets place (count + 1) =
      octets.getD place 0 :: octetsAt octets (place + 1) count := by
  rw [octetsAt, octetsAt, List.takeD_succ, List.tail_drop, List.head?_drop,
    ← List.getD_eq_getElem?_getD]

/-- One octet that is no ASCII character makes the text an invalid one. -/
theorem check_cons_of_not_ascii {b : UInt8} (other : ¬(b ≠ 0 ∧ b.toNat < 128))
    (text : EapOctets) : Parser.UTF8Checker.check 0 (b :: text) = false := by
  rw [Parser.UTF8Checker.check_eq_accepts, Bool.eq_false_iff, Ne,
    Parser.UTF8Checker.accepts_iff_ascii]
  exact fun ascii => other (ascii b List.mem_cons_self)

theorem stays_checkUtf8 {place length : Nat} {later : Bool → BlockPointers → Prop} :
    (checkUtf8 place 0 length).Stays block now later caught ↔
      textLooks (block.octets.drop place) length ≤ (block.octets.drop place).length ∧
        later (Parser.UTF8Checker.check 0 (octetsAt block.octets place length)) now := by
  induction length generalizing place with
  | zero =>
    simp only [checkUtf8, stays_pure, textLooks, Nat.zero_le, true_and]
    rfl
  | succ length induction =>
    simp only [checkUtf8, stays_bind, stays_octetFrom]
    by_cases received : place < block.octets.length
    · have first : block.octets.drop place =
          block.octets.getD place 0 :: block.octets.drop (place + 1) := by
        rw [List.drop_eq_getElem_cons received, List.getD_eq_getElem?_getD,
          List.getElem?_eq_getElem received, Option.getD_some]
      rw [first, octetsAt_succ]
      generalize block.octets.getD place 0 = b
      simp only [received, true_and]
      by_cases ascii : b ≠ 0 ∧ b.toNat < 128
      · have low : b ≠ 0 ∧ b >>> 7 = 0 :=
          ⟨ascii.1, (Parser.UTF8Checker.shifted_eq_zero_iff b).2 ascii.2⟩
        rw [if_pos low, induction, textLooks, if_pos ascii, Parser.UTF8Checker.check, if_pos low,
          List.length_cons]
        apply and_congr_left
        intro _
        omega
      · have notLow : ¬(b ≠ 0 ∧ b >>> 7 = 0) := by
          rw [Parser.UTF8Checker.shifted_eq_zero_iff]
          exact ascii
        rw [if_neg notLow, check_cons_of_not_ascii ascii, textLooks, if_neg ascii]
        by_cases outOfRange : b >>> 1 = 0x76
        · simp only [outOfRange, if_true, true_or, stays_pure, List.length_cons]
          simp
        · by_cases single : b <<< 1 = 0
          · simp only [outOfRange, single, if_true, if_false, true_or, or_true, stays_pure,
              List.length_cons]
            simp
          · simp only [outOfRange, single, if_false, false_or, stays_checkUtf8_more]
            apply and_congr_left
            intro _
            rw [List.length_cons, List.length_drop]
            split <;> omega
    · have none : block.octets.drop place = [] :=
        List.drop_eq_nil_of_le (Nat.le_of_not_lt received)
      simp only [received, false_and, none, textLooks, List.length_nil]
      exact iff_of_false id fun both => Nat.not_succ_le_zero _ both.1

variable {octets : EapOctets}

/-- A text that is valid was received as a whole, as the octets behind the end are zeros. -/
theorem received_of_check {place length : Nat}
    (valid : Parser.UTF8Checker.check 0 (octetsAt octets place length) = true) :
    length = 0 ∨ place + length ≤ octets.length := by
  rw [Parser.UTF8Checker.check_eq_accepts, Parser.UTF8Checker.accepts_iff_ascii] at valid
  induction length generalizing place with
  | zero => exact .inl rfl
  | succ length induction =>
    rw [octetsAt_succ, List.forall_mem_cons] at valid
    have rest := induction valid.2
    have received : place < octets.length := by
      by_contra behind
      apply valid.1.1
      rw [List.getD_eq_getElem?_getD, List.getElem?_eq_none (Nat.le_of_not_lt behind),
        Option.getD_none]
    omega

/-- The text of an Identity or a Notification has as many octets as the length says. -/
theorem inside_identity :
    EapRequestIdentityParser.parseRawToApp.Inside block now ↔
      now.rd ≤ now.wr ∧
        textLooks (block.octets.drop now.rd) (now.wr - now.rd) ≤
          (block.octets.drop now.rd).length := by
  simp only [Inside, EapRequestIdentityParser.parseRawToApp, stays_bind, stays_left,
    stays_pointers, stays_checkUtf8, stays_ite, stays_stop, stays_pure, stays_octetsFrom,
    stays_readToEnd, and_true]
  apply and_congr_right
  intro _
  apply and_iff_left_of_imp
  intro _
  split
  · trivial
  · rename_i valid
    exact received_of_check (Bool.not_eq_false _ ▸ valid)

theorem inside_md5Challenge (short : now.wr < 65536) :
    EapRequestMD5ChallengeParser.parseRawToApp.Inside block now ↔
      now.rd ≤ now.wr ∧
        now.rd + 1 + (block.octets.getD now.rd 0).toNat ≤ block.octets.length ∧
        (block.octets.getD now.rd 0 ≠ 0 →
          now.rd + 1 + (block.octets.getD now.rd 0).toNat ≤ now.wr ∧
            now.wr ≤ block.octets.length ∧
            now.wr < now.rd + 1 + (block.octets.getD now.rd 0).toNat + 32768) := by
  generalize isSize : block.octets.getD now.rd 0 = size
  simp only [Inside, EapRequestMD5ChallengeParser.parseRawToApp, stays_bind, stays_left,
    stays_octet, stays_take, stays_ite, stays_stop, stays_pure, stays_difference, and_true,
    isSize, reduceCtorEq]
  by_cases empty : size = 0
  · have none : size.toNat = 0 := by rw [empty]; rfl
    simp only [empty, if_true, ne_eq, not_true_eq_false, false_implies, and_true]
    omega
  · have whole : (now.wr - now.rd - (size.toNat + 1)) % 65536 =
        now.wr - now.rd - (size.toNat + 1) := Nat.mod_eq_of_lt (by omega)
    simp only [empty, if_false, ne_eq, not_false_eq_true, true_implies, whole]
    split
    · simp only [and_false, false_iff]
      omega
    · omega

theorem inside_gpskMsg :
    EapGpskMsgParser.parseRawToApp.Inside block now ↔ now.rd < block.octets.length := by
  simp only [Inside, EapGpskMsgParser.parseRawToApp, stays_octet, and_true]

/-- The number at a place is the expected one only where what comes after it holds. -/
def Coded (code : UInt8) (octets : EapOctets) (place : Nat) (rest : Prop) : Prop :=
  place < octets.length ∧ (octets.getD place 0 = code → rest)

theorem coded_iff_ite {code : UInt8} {place : Nat} {rest : Prop} :
    Coded code octets place rest ↔
      place < octets.length ∧ if octets.getD place 0 = code then rest else True := by
  rw [Coded]
  apply and_congr_right
  intro _
  split
  · rename_i isCode
    simp only [isCode, true_implies]
  · rename_i isOther
    simp only [isOther, false_implies]

theorem inside_coded {Value : Type} {code : UInt8} {rest : BlockReading Value} :
    (expect code >>= fun _ => rest).Inside block now ↔
      Coded code block.octets now.rd (rest.Inside block now) := by
  simp only [Inside, coded_iff_ite, stays_bind, stays_expect]

theorem coded_congr {code : UInt8} {place : Nat} {rest other : Prop} (same : rest ↔ other) :
    Coded code octets place rest ↔ Coded code octets place other := by
  rw [Coded, Coded, same]

/-- The place of the list of the suites. -/
def gpsk1List (octets : EapOctets) (place : Nat) : Nat := countedEnd octets (place + 1) + 32

theorem inside_gpsk1 :
    EapGpsk1Parser.parseRawToApp.Inside block now ↔
      Coded 1 block.octets now.rd
        (gpsk1List block.octets now.rd + 2 ≤ block.octets.length ∧
          (readShort (block.octets.drop (gpsk1List block.octets now.rd)) % 6 = 0 →
            countedEnd block.octets (gpsk1List block.octets now.rd) ≤ block.octets.length)) := by
  rw [EapGpsk1Parser.parseRawToApp, inside_coded]
  simp only [Inside, gpsk1List, stays_bind, stays_skip, stays_counted, stays_take, stays_short,
    stays_ite, stays_stop, stays_pure, and_true]
  generalize countedEnd block.octets (now.rd + 1) = rand
  unfold countedEnd
  apply coded_congr
  split
  · rename_i ragged
    simp only [ragged, false_implies, and_true]
    omega
  · omega

theorem stays_readKeySize {suite : EapGpskCipherSuite} {later : Nat → BlockPointers → Prop} :
    suite.readKeySize.Stays block now later caught ↔
      match suite.keySize with
      | none => caught now
      | some keySize => later keySize now := by
  unfold EapGpskCipherSuite.readKeySize
  cases suite.keySize with
  | none => simp only [stays_stop, true_and]
  | some keySize => rfl

/-- The place of the MAC behind the selected suite and the payload. -/
def macPlace (octets : EapOctets) (place : Nat) : Nat := countedEnd octets (place + 6)

/-- The length of the MAC that the suite at a place has. -/
def macLength (octets : EapOctets) (place : Nat) : Option Nat :=
  (EapGpskCipherSuite.read (octetsAt octets place 6)).keySize

/-- The place of the selected suite in a GPSK2. -/
def gpsk2Suite (octets : EapOctets) (place : Nat) : Nat :=
  countedEnd octets (countedEnd octets (countedEnd octets (place + 1)) + 32 + 32)

theorem inside_gpsk2 :
    EapGpsk2Parser.parseRawToApp.Inside block now ↔
      Coded 2 block.octets now.rd
        (macPlace block.octets (gpsk2Suite block.octets now.rd) +
          (macLength block.octets (gpsk2Suite block.octets now.rd)).getD 0 ≤
            block.octets.length) := by
  rw [EapGpsk2Parser.parseRawToApp, inside_coded]
  simp only [Inside, gpsk2Suite, macPlace, macLength, stays_bind, stays_skip, stays_counted,
    stays_take, stays_readKeySize, stays_pure, and_true]
  have server := add_two_le_countedEnd block.octets (countedEnd block.octets (now.rd + 1))
  generalize countedEnd block.octets (countedEnd block.octets (now.rd + 1)) = rand at *
  have list := add_two_le_countedEnd block.octets (rand + 32 + 32)
  generalize countedEnd block.octets (rand + 32 + 32) = suite at *
  have payload := add_two_le_countedEnd block.octets (suite + 6)
  generalize countedEnd block.octets (suite + 6) = mac at *
  apply coded_congr
  cases (EapGpskCipherSuite.read (octetsAt block.octets suite 6)).keySize with
  | none =>
    simp only [and_true, Option.getD_none]
    omega
  | some keySize =>
    simp only [Option.getD_some]
    omega

/-- The place of the selected suite in a GPSK3. -/
def gpsk3Suite (octets : EapOctets) (place : Nat) : Nat :=
  countedEnd octets (place + 1 + 32 + 32)

/-- Where the suite is unknown, a GPSK3 is left behind its payload. -/
theorem stays_gpsk3 :
    EapGpsk3Parser.parseRawToApp.Stays block now (fun _ _ => True) caught ↔
      now.rd < block.octets.length ∧
        if block.octets.getD now.rd 0 = 3 then
          macPlace block.octets (gpsk3Suite block.octets now.rd) ≤ block.octets.length ∧
            match macLength block.octets (gpsk3Suite block.octets now.rd) with
            | none =>
              caught { now with rd := macPlace block.octets (gpsk3Suite block.octets now.rd) }
            | some keySize =>
              macPlace block.octets (gpsk3Suite block.octets now.rd) + keySize ≤
                block.octets.length
        else caught now := by
  simp only [EapGpsk3Parser.parseRawToApp, gpsk3Suite, macPlace, macLength, stays_bind,
    stays_expect, stays_skip, stays_counted, stays_take, stays_readKeySize, stays_pure, and_true]
  have server := add_two_le_countedEnd block.octets (now.rd + 1 + 32 + 32)
  generalize countedEnd block.octets (now.rd + 1 + 32 + 32) = suite at *
  have payload := add_two_le_countedEnd block.octets (suite + 6)
  generalize countedEnd block.octets (suite + 6) = mac at *
  apply and_congr_right
  intro _
  split
  · cases (EapGpskCipherSuite.read (octetsAt block.octets suite 6)).keySize with
    | none =>
      simp only
      constructor
      · rintro ⟨-, -, -, -, payload, thrown⟩
        exact ⟨payload, thrown⟩
      · rintro ⟨payload, thrown⟩
        exact ⟨by omega, by omega, by omega, by omega, payload, thrown⟩
    | some keySize =>
      simp only
      omega
  · rfl

theorem inside_gpsk3 :
    EapGpsk3Parser.parseRawToApp.Inside block now ↔
      Coded 3 block.octets now.rd
        (macPlace block.octets (gpsk3Suite block.octets now.rd) +
          (macLength block.octets (gpsk3Suite block.octets now.rd)).getD 0 ≤
            block.octets.length) := by
  rw [Inside, stays_gpsk3, coded_iff_ite]
  cases macLength block.octets (gpsk3Suite block.octets now.rd) with
  | none => simp only [and_true, Option.getD_none, Nat.add_zero]
  | some keySize =>
    simp only [Option.getD_some]
    apply and_congr_right
    intro _
    split
    · omega
    · rfl

theorem inside_gpsk4 :
    EapGpsk4Parser.parseRawToApp.Inside block now ↔
      Coded 4 block.octets now.rd
        (countedEnd block.octets (now.rd + 1) ≤ now.wr ∧ now.wr ≤ block.octets.length) := by
  rw [EapGpsk4Parser.parseRawToApp, inside_coded]
  simp only [Inside, stays_bind, stays_skip, stays_counted, stays_take, stays_left, stays_pure,
    and_true]
  apply coded_congr
  omega

theorem stays_gpskFail :
    EapGpskFailParser.parseRawToApp.Stays block now (fun _ _ => True) caught ↔
      now.rd < block.octets.length ∧
        if block.octets.getD now.rd 0 = 5 then now.rd + 5 ≤ block.octets.length
        else caught now := by
  simp only [EapGpskFailParser.parseRawToApp, stays_bind, stays_expect, stays_skip, stays_take,
    stays_pure, and_true]
  apply and_congr_right
  intro _
  split
  · omega
  · rfl

theorem inside_gpskFail :
    EapGpskFailParser.parseRawToApp.Inside block now ↔
      Coded 5 block.octets now.rd (now.rd + 5 ≤ block.octets.length) := by
  rw [Inside, stays_gpskFail, coded_iff_ite]

theorem inside_gpskProtectedFail :
    EapGpskProtectedFailParser.parseRawToApp.Inside block now ↔
      Coded 6 block.octets now.rd (now.rd + 5 ≤ now.wr ∧ now.wr ≤ block.octets.length) := by
  rw [EapGpskProtectedFailParser.parseRawToApp, inside_coded]
  simp only [Inside, stays_bind, stays_skip, stays_take, stays_left, stays_pure, and_true]
  apply coded_congr
  omega

theorem inside_archieRequest :
    EapRequestArchieRequestParser.parseRawToApp.Inside block now ↔
      Coded 1 block.octets now.rd (now.rd + 291 ≤ block.octets.length) := by
  rw [EapRequestArchieRequestParser.parseRawToApp, inside_coded]
  apply coded_congr
  simp only [Inside, stays_bind, stays_skip, stays_octet, stays_take, stays_paddedField, stays_pure,
    and_true]
  have nai := paddedLength_le (block.octets.getD (now.rd + 2) 0)
  omega

theorem inside_archieResponse :
    EapResponseArchieResponseParser.parseRawToApp.Inside block now ↔
      Coded 2 block.octets now.rd (now.rd + 859 ≤ block.octets.length) := by
  rw [EapResponseArchieResponseParser.parseRawToApp, inside_coded]
  apply coded_congr
  simp only [Inside, ArchieBinding.parseRawToApp, stays_bind, stays_skip, stays_octet, stays_short,
    stays_take, stays_paddedField, stays_pure, and_true]
  have nai := paddedLength_le (block.octets.getD (now.rd + 2) 0)
  have sLength := paddedLength_le (block.octets.getD (now.rd + 2 + 1 + 32 + 256 + 40 + 2) 0)
  have pLength := paddedLength_le (block.octets.getD (now.rd + 2 + 1 + 32 + 256 + 40 + 2 + 1) 0)
  omega

theorem inside_archieConfirm :
    EapRequestArchieConfirmParser.parseRawToApp.Inside block now ↔
      Coded 3 block.octets now.rd (now.rd + 603 ≤ block.octets.length) := by
  rw [EapRequestArchieConfirmParser.parseRawToApp, inside_coded]
  apply coded_congr
  simp only [Inside, ArchieBinding.parseRawToApp, stays_bind, stays_skip, stays_octet, stays_short,
    stays_take, stays_paddedField, stays_pure, and_true]
  have sLength := paddedLength_le (block.octets.getD (now.rd + 3 + 32 + 40 + 2) 0)
  have pLength := paddedLength_le (block.octets.getD (now.rd + 3 + 32 + 40 + 2 + 1) 0)
  omega

theorem inside_archieFinish :
    EapResponseArchieFinishParser.parseRawToApp.Inside block now ↔
      Coded 4 block.octets now.rd (now.rd + 47 ≤ block.octets.length) := by
  rw [EapResponseArchieFinishParser.parseRawToApp, inside_coded]
  apply coded_congr
  simp only [Inside, stays_bind, stays_skip, stays_take, stays_pure, and_true]
  omega

/-- The loop ends at once, as the list is empty and the end of a block is no null pointer. -/
theorem inside_nak (dict : EapNakDict) {bufferEnd : Nat} (notNull : bufferEnd ≠ 0)
    (rounds : Nat) : (EapNakParser.readRaw dict bufferEnd rounds).Inside block now := by
  cases dict with
  | legacyNak =>
    cases rounds with
    | zero => exact trivial
    | succ rounds => exact trivial
  | extendedNak =>
    cases rounds with
    | zero => exact trivial
    | succ rounds =>
      simp only [Inside, EapNakParser.readRaw, EapNakParser.loopExtended, if_neg notNull,
        stays_pure]

end Bounds

/-! What a parser reads, where it stays in what was received, is what the octets of the message
are parsed as. -/

section Values

variable {block : ReceivedBlock} {now : BlockPointers}

theorem octetsAt_drop (octets : EapOctets) (place offset count : Nat) :
    octetsAt (octets.drop place) offset count = octetsAt octets (place + offset) count := by
  rw [octetsAt, octetsAt, List.drop_drop]

theorem getD_drop (octets : EapOctets) (place offset : Nat) :
    (octets.drop place).getD offset 0 = octets.getD (place + offset) 0 := by
  rw [List.getD_eq_getElem?_getD, List.getElem?_drop, List.getD_eq_getElem?_getD]

theorem afterCounted_drop (octets : EapOctets) (place : Nat) :
    afterCounted (octets.drop place) = octets.drop (countedEnd octets place) := by
  rw [afterCounted, List.drop_drop, countedEnd, ← Nat.add_assoc]

theorem ntohl_octetsAt (octets : EapOctets) (place : Nat) :
    ntohl (octetsAt octets place 4) = ntohl (octets.drop place) := by
  simp only [octetsAt_succ, ntohl, getD_drop, List.getD_cons_zero, List.getD_cons_succ,
    Nat.add_assoc, Nat.add_zero, Nat.reduceAdd]

/-- The octets up to the end. -/
theorem octetsAt_to_end (octets : EapOctets) (place : Nat) :
    octetsAt octets place (octets.length - place) = octets.drop place := by
  rw [octetsAt, ← List.length_drop, List.takeD_eq_take _ (Nat.le_refl _), List.take_length]

/-- The reading returns what is parsed, and throws where nothing is. -/
def Reads {Value : Type} (reading : BlockReading Value) (block : ReceivedBlock)
    (now : BlockPointers) (parsed : Option Value) : Prop :=
  reading.Stays block now (fun value _ => parsed = some value) fun _ => parsed = none

theorem reads_md5Challenge (inside : EapRequestMD5ChallengeParser.parseRawToApp.Inside block now)
    (whole : now.wr = block.octets.length) :
    Reads EapRequestMD5ChallengeParser.parseRawToApp block now
      (EapMD5Challenge.parseRawToApp (block.octets.drop now.rd)) := by
  unfold Inside at inside
  unfold Reads
  simp only [EapRequestMD5ChallengeParser.parseRawToApp, stays_bind, stays_left, stays_octet,
    stays_take, stays_ite, stays_stop, stays_pure, stays_difference, and_true, whole] at inside ⊢
  simp only [EapMD5Challenge.parseRawToApp, getD_drop, octetsAt_drop, List.length_drop,
    Nat.add_zero]
  have isEmpty : block.octets.getD now.rd 0 = 0 ↔ (block.octets.getD now.rd 0).toNat = 0 := by
    rw [← UInt8.toNat_inj]
    rfl
  simp only [isEmpty] at inside ⊢
  have rest (fits : (block.octets.getD now.rd 0).toNat + 1 ≤ block.octets.length - now.rd) :
      (block.octets.length - now.rd + 65536 - ((block.octets.getD now.rd 0).toNat + 1)) % 65536 =
        (block.octets.length - now.rd - ((block.octets.getD now.rd 0).toNat + 1)) % 65536 := by
    rw [Nat.sub_add_comm fits, Nat.add_mod_right]
  obtain ⟨began, lengthRead, valueRead, nameRead⟩ := inside
  refine ⟨began, lengthRead, valueRead, ?_⟩
  by_cases empty : (block.octets.getD now.rd 0).toNat = 0
  · simp only [if_pos empty, and_self]
  · simp only [if_neg empty] at nameRead ⊢
    obtain ⟨fits, nameRead⟩ := nameRead
    rw [rest fits]
    refine ⟨fits, ?_⟩
    by_cases negative : 32768 ≤
        (block.octets.length - now.rd - ((block.octets.getD now.rd 0).toNat + 1)) % 65536
    · simp only [if_pos negative, and_true] at nameRead ⊢
      exact nameRead
    · simp only [if_neg negative] at nameRead ⊢
      exact ⟨nameRead, by rw [Nat.add_assoc]⟩

theorem reads_gpsk1 (inside : EapGpsk1Parser.parseRawToApp.Inside block now) :
    Reads EapGpsk1Parser.parseRawToApp block now
      (EapGpsk1.parseRawToApp (block.octets.drop now.rd)) := by
  unfold Inside at inside
  unfold Reads
  simp only [EapGpsk1Parser.parseRawToApp, stays_bind, stays_expect, stays_skip, stays_counted,
    stays_take, stays_short, stays_ite, stays_stop, stays_pure, and_true] at inside ⊢
  simp only [EapGpsk1.parseRawToApp, octetsAt_drop, getD_drop, afterCounted_drop, List.drop_drop,
    readCounted, Nat.add_zero]
  grind

theorem reads_gpsk2 (inside : EapGpsk2Parser.parseRawToApp.Inside block now) :
    Reads EapGpsk2Parser.parseRawToApp block now
      (EapGpsk2.parseRawToApp (block.octets.drop now.rd)) := by
  unfold Inside at inside
  unfold Reads
  simp only [EapGpsk2Parser.parseRawToApp, stays_bind, stays_expect, stays_skip, stays_counted,
    stays_take, stays_readKeySize, stays_pure, and_true] at inside ⊢
  simp only [EapGpsk2.parseRawToApp, octetsAt_drop, getD_drop, afterCounted_drop, List.drop_drop,
    Nat.add_zero]
  grind [length_readCounted]

/-- Where it throws, the octets at the read pointer are those that the parser leaves. -/
theorem reads_gpsk3 (inside : EapGpsk3Parser.parseRawToApp.Inside block now) :
    EapGpsk3Parser.parseRawToApp.Stays block now
      (fun gpsk _ => EapGpsk3.parseRawToApp (block.octets.drop now.rd) = .ok gpsk)
      fun after => EapGpsk3.parseRawToApp (block.octets.drop now.rd) =
        .error (block.octets.drop after.rd) := by
  unfold Inside at inside
  simp only [EapGpsk3Parser.parseRawToApp, stays_bind, stays_expect, stays_skip, stays_counted,
    stays_take, stays_readKeySize, stays_pure, and_true] at inside ⊢
  simp only [EapGpsk3.parseRawToApp, octetsAt_drop, getD_drop, afterCounted_drop, List.drop_drop,
    Nat.add_zero]
  grind

theorem reads_gpsk4 (inside : EapGpsk4Parser.parseRawToApp.Inside block now)
    (whole : now.wr = block.octets.length) :
    Reads EapGpsk4Parser.parseRawToApp block now
      (EapGpsk4.parseRawToApp (block.octets.drop now.rd)) := by
  unfold Inside at inside
  unfold Reads
  simp only [EapGpsk4Parser.parseRawToApp, stays_bind, stays_expect, stays_skip, stays_counted,
    stays_take, stays_left, stays_pure, and_true, whole, octetsAt_to_end] at inside ⊢
  simp only [EapGpsk4.parseRawToApp, getD_drop, afterCounted_drop, List.drop_drop,
    List.length_drop, Nat.add_zero]
  grind [countedEnd]

theorem reads_gpskFail (inside : EapGpskFailParser.parseRawToApp.Inside block now) :
    Reads EapGpskFailParser.parseRawToApp block now
      (EapGpskFail.parseRawToApp (block.octets.drop now.rd)) := by
  unfold Inside at inside
  unfold Reads
  simp only [EapGpskFailParser.parseRawToApp, stays_bind, stays_expect, stays_skip, stays_take,
    stays_pure, and_true, ntohl_octetsAt] at inside ⊢
  simp only [EapGpskFail.parseRawToApp, getD_drop, List.drop_drop, Nat.add_zero]
  grind

theorem reads_gpskProtectedFail
    (inside : EapGpskProtectedFailParser.parseRawToApp.Inside block now)
    (whole : now.wr = block.octets.length) :
    Reads EapGpskProtectedFailParser.parseRawToApp block now
      (EapGpskProtectedFail.parseRawToApp (block.octets.drop now.rd)) := by
  unfold Inside at inside
  unfold Reads
  simp only [EapGpskProtectedFailParser.parseRawToApp, stays_bind, stays_expect, stays_skip,
    stays_take, stays_left, stays_pure, and_true, whole, ntohl_octetsAt, octetsAt_to_end]
    at inside ⊢
  simp only [EapGpskProtectedFail.parseRawToApp, getD_drop, List.drop_drop, List.length_drop,
    Nat.add_zero]
  grind

theorem reads_archieRequest (isPlace : now.rd = 5)
    (inside : EapRequestArchieRequestParser.parseRawToApp.Inside block now) :
    Reads EapRequestArchieRequestParser.parseRawToApp block now
      (EapRequestArchieRequest.parseRawToApp block.octets) := by
  unfold Inside at inside
  unfold Reads
  simp only [EapRequestArchieRequestParser.parseRawToApp, stays_bind, stays_expect, stays_skip,
    stays_octet, stays_take, stays_paddedField, stays_pure, and_true] at inside ⊢
  simp only [EapRequestArchieRequest.parseRawToApp]
  grind

theorem reads_archieResponse (isPlace : now.rd = 5)
    (inside : EapResponseArchieResponseParser.parseRawToApp.Inside block now) :
    Reads EapResponseArchieResponseParser.parseRawToApp block now
      (EapResponseArchieResponse.parseRawToApp block.octets) := by
  unfold Inside at inside
  unfold Reads
  simp only [EapResponseArchieResponseParser.parseRawToApp, ArchieBinding.parseRawToApp,
    stays_bind, stays_expect, stays_skip, stays_octet, stays_short, stays_take, stays_paddedField,
    stays_pure, and_true] at inside ⊢
  simp only [EapResponseArchieResponse.parseRawToApp, ArchieBinding.read, readShort_octetsAt]
  grind

theorem reads_archieConfirm (isPlace : now.rd = 5)
    (inside : EapRequestArchieConfirmParser.parseRawToApp.Inside block now) :
    Reads EapRequestArchieConfirmParser.parseRawToApp block now
      (EapRequestArchieConfirm.parseRawToApp block.octets) := by
  unfold Inside at inside
  unfold Reads
  simp only [EapRequestArchieConfirmParser.parseRawToApp, ArchieBinding.parseRawToApp,
    stays_bind, stays_expect, stays_skip, stays_octet, stays_short, stays_take, stays_paddedField,
    stays_pure, and_true] at inside ⊢
  simp only [EapRequestArchieConfirm.parseRawToApp, ArchieBinding.read, readShort_octetsAt]
  grind

theorem reads_archieFinish (isPlace : now.rd = 5)
    (inside : EapResponseArchieFinishParser.parseRawToApp.Inside block now) :
    Reads EapResponseArchieFinishParser.parseRawToApp block now
      (EapResponseArchieFinish.parseRawToApp block.octets) := by
  unfold Inside at inside
  unfold Reads
  simp only [EapResponseArchieFinishParser.parseRawToApp, stays_bind, stays_expect, stays_skip,
    stays_take, stays_pure, and_true] at inside ⊢
  simp only [EapResponseArchieFinish.parseRawToApp]
  grind

/-- Where the reading stays inside of what was received, it reads what is parsed. -/
def Refines {Value : Type} (reading : BlockReading Value) (block : ReceivedBlock)
    (now : BlockPointers) (parsed : Option Value) : Prop :=
  reading.Inside block now → Reads reading block now parsed

/-- The parsers of the methods refine those of the octets. -/
theorem parsers_refine (isPlace : now.rd = 5) (whole : now.wr = block.octets.length) :
    Refines EapRequestMD5ChallengeParser.parseRawToApp block now
        (EapMD5Challenge.parseRawToApp (block.octets.drop now.rd)) ∧
      Refines EapGpsk1Parser.parseRawToApp block now
        (EapGpsk1.parseRawToApp (block.octets.drop now.rd)) ∧
      Refines EapGpsk2Parser.parseRawToApp block now
        (EapGpsk2.parseRawToApp (block.octets.drop now.rd)) ∧
      Refines EapGpsk4Parser.parseRawToApp block now
        (EapGpsk4.parseRawToApp (block.octets.drop now.rd)) ∧
      Refines EapGpskFailParser.parseRawToApp block now
        (EapGpskFail.parseRawToApp (block.octets.drop now.rd)) ∧
      Refines EapGpskProtectedFailParser.parseRawToApp block now
        (EapGpskProtectedFail.parseRawToApp (block.octets.drop now.rd)) ∧
      Refines EapRequestArchieRequestParser.parseRawToApp block now
        (EapRequestArchieRequest.parseRawToApp block.octets) ∧
      Refines EapResponseArchieResponseParser.parseRawToApp block now
        (EapResponseArchieResponse.parseRawToApp block.octets) ∧
      Refines EapRequestArchieConfirmParser.parseRawToApp block now
        (EapRequestArchieConfirm.parseRawToApp block.octets) ∧
      Refines EapResponseArchieFinishParser.parseRawToApp block now
        (EapResponseArchieFinish.parseRawToApp block.octets) :=
  ⟨(reads_md5Challenge · whole), reads_gpsk1, reads_gpsk2, (reads_gpsk4 · whole),
    reads_gpskFail, (reads_gpskProtectedFail · whole), reads_archieRequest isPlace,
    reads_archieResponse isPlace, reads_archieConfirm isPlace, reads_archieFinish isPlace⟩

theorem parsers_refine_fail :
    Refines EapGpskFailParser.parseRawToApp
      ⟨[1, 7, 0, 10, 51, 5, 0, 0, 0, 1], 10, Nat.le_refl 10⟩ ⟨5, 10⟩
      (EapGpskFail.parseRawToApp [5, 0, 0, 0, 1]) :=
  (parsers_refine rfl rfl).2.2.2.2.1

end Values

/-- The parsers of what a switch machine is given. Where the peer awaits a GPSK3, it tries a failure
and a protected one after it, each where the one before it has thrown. -/
inductive EapParser where
  | header
  | request
  | nak (dict : EapNakDict) (bufferEnd rounds : Nat) (notNull : bufferEnd ≠ 0)
  | identity
  | notification
  | md5Challenge
  | gpskMsg
  | gpsk1
  | gpsk2
  | gpsk3
  | gpsk4
  | gpskFail
  | gpskProtectedFail
  | gpskFailOrProtected
  | gpsk3OrFail
  | archie
  | archieRequest
  | archieResponse
  | archieConfirm
  | archieFinish

namespace EapParser

/-- The type whose data it parses. -/
def type : EapParser → Option EapType
  | header | request => none
  | nak .. => some .nak
  | identity => some .identity
  | notification => some .notification
  | md5Challenge => some .md5Challenge
  | gpskMsg | gpsk1 | gpsk2 | gpsk3 | gpsk4 | gpskFail | gpskProtectedFail | gpskFailOrProtected
  | gpsk3OrFail => some gpskType
  | archie | archieRequest | archieResponse | archieConfirm | archieFinish => some archieType

/-- Parsing what is behind the type. -/
def parseData : EapParser → BlockReading Unit
  | header | request => pure ()
  | nak dict bufferEnd rounds _ => (EapNakParser.readRaw dict bufferEnd rounds).void
  | identity | notification => EapRequestIdentityParser.parseRawToApp.void
  | md5Challenge => EapRequestMD5ChallengeParser.parseRawToApp.void
  | gpskMsg => EapGpskMsgParser.parseRawToApp.void
  | gpsk1 => EapGpsk1Parser.parseRawToApp.void
  | gpsk2 => EapGpsk2Parser.parseRawToApp.void
  | gpsk3 => EapGpsk3Parser.parseRawToApp.void
  | gpsk4 => EapGpsk4Parser.parseRawToApp.void
  | gpskFail => EapGpskFailParser.parseRawToApp.void
  | gpskProtectedFail => EapGpskProtectedFailParser.parseRawToApp.void
  | gpskFailOrProtected =>
    EapGpskFailParser.parseRawToApp.void.orElse EapGpskProtectedFailParser.parseRawToApp.void
  | gpsk3OrFail =>
    EapGpsk3Parser.parseRawToApp.void.orElse
      (EapGpskFailParser.parseRawToApp.void.orElse EapGpskProtectedFailParser.parseRawToApp.void)
  | archie => EapRequestArchieParser.parseRawToApp.void
  | archieRequest => EapRequestArchieRequestParser.parseRawToApp.void
  | archieResponse => EapResponseArchieResponseParser.parseRawToApp.void
  | archieConfirm => EapRequestArchieConfirmParser.parseRawToApp.void
  | archieFinish => EapResponseArchieFinishParser.parseRawToApp.void

/-- The header of a message is parsed, then its type, and then the data of this type. -/
def parseRawToApp (parser : EapParser) : BlockReading Unit := do
  let _ ← EapHeaderParser.parseRawToApp
  match parser with
  | header => return
  | _ =>
    let type ← EapRequestParser.parseRawToApp
    if some type = parser.type then
      parser.parseData

/-- A failure, or a protected one, at a place. -/
def FailFits (octets : EapOctets) (length place : Nat) : Prop :=
  place < octets.length ∧
    if octets.getD place 0 = 5 then place + 5 ≤ octets.length
    else Coded 6 octets place (place + 5 ≤ length ∧ length ≤ octets.length)

/-- The data behind the type, where the message ends according to its header. -/
def DataFits (octets : EapOctets) (length : Nat) : EapParser → Prop
  | header | request | nak .. => True
  | identity | notification =>
    5 ≤ length ∧ textLooks (octets.drop 5) (length - 5) ≤ (octets.drop 5).length
  | md5Challenge =>
    5 ≤ length ∧ 6 + (octets.getD 5 0).toNat ≤ octets.length ∧
      (octets.getD 5 0 ≠ 0 →
        6 + (octets.getD 5 0).toNat ≤ length ∧ length ≤ octets.length ∧
          length < 6 + (octets.getD 5 0).toNat + 32768)
  | gpskMsg | archie => 5 < octets.length
  | gpsk1 =>
    Coded 1 octets 5
      (gpsk1List octets 5 + 2 ≤ octets.length ∧
        (readShort (octets.drop (gpsk1List octets 5)) % 6 = 0 →
          countedEnd octets (gpsk1List octets 5) ≤ octets.length))
  | gpsk2 =>
    Coded 2 octets 5
      (macPlace octets (gpsk2Suite octets 5) + (macLength octets (gpsk2Suite octets 5)).getD 0 ≤
        octets.length)
  | gpsk3 =>
    Coded 3 octets 5
      (macPlace octets (gpsk3Suite octets 5) + (macLength octets (gpsk3Suite octets 5)).getD 0 ≤
        octets.length)
  | gpsk4 => Coded 4 octets 5 (countedEnd octets 6 ≤ length ∧ length ≤ octets.length)
  | gpskFail => Coded 5 octets 5 (10 ≤ octets.length)
  | gpskProtectedFail => Coded 6 octets 5 (10 ≤ length ∧ length ≤ octets.length)
  | gpskFailOrProtected => FailFits octets length 5
  | gpsk3OrFail =>
    5 < octets.length ∧
      if octets.getD 5 0 = 3 then
        macPlace octets (gpsk3Suite octets 5) ≤ octets.length ∧
          match macLength octets (gpsk3Suite octets 5) with
          | none => FailFits octets length (macPlace octets (gpsk3Suite octets 5))
          | some keySize => macPlace octets (gpsk3Suite octets 5) + keySize ≤ octets.length
      else FailFits octets length 5
  | archieRequest => Coded 1 octets 5 (296 ≤ octets.length)
  | archieResponse => Coded 2 octets 5 (864 ≤ octets.length)
  | archieConfirm => Coded 3 octets 5 (608 ≤ octets.length)
  | archieFinish => Coded 4 octets 5 (52 ≤ octets.length)

/-- The length that a header names. -/
def lengthField (octets : EapOctets) : Nat := readShort (octets.drop 2)

/-- The message has a header, its length is none of a longer block, and it has the type and the
data that the octets in it name. -/
def Fits (block : ReceivedBlock) (parser : EapParser) : Prop :=
  4 ≤ block.octets.length ∧ lengthField block.octets ≤ block.size ∧
    match parser with
    | header => True
    | _ =>
      (if block.octets.getD 4 0 = 254 then 9 else 5) ≤ block.octets.length ∧
        (some (parseType block.octets) = parser.type →
          parser.DataFits block.octets (lengthField block.octets))

section

variable {block : ReceivedBlock} {now : BlockPointers} {caught : BlockPointers → Prop}

theorem stays_header {later : EapHeader → BlockPointers → Prop} :
    EapHeaderParser.parseRawToApp.Stays block now later caught ↔
      4 ≤ block.octets.length ∧ lengthField block.octets ≤ block.size ∧
        later (parseHeader block.octets) ⟨4, lengthField block.octets⟩ := by
  simp only [EapHeaderParser.parseRawToApp, stays_bind, stays_setRead, stays_octet, stays_short,
    stays_setWrite, stays_pure, ← and_assoc]
  apply and_congr_left
  intro _
  apply and_congr_left
  intro _
  omega

theorem stays_request {later : EapType → BlockPointers → Prop} :
    EapRequestParser.parseRawToApp.Stays block now later caught ↔
      (if block.octets.getD 4 0 = 254 then 9 else 5) ≤ block.octets.length ∧
        later (parseType block.octets)
          { now with rd := if block.octets.getD 4 0 = 254 then 8 else 5 } := by
  simp only [EapRequestParser.parseRawToApp, stays_bind, stays_setRead, stays_peek, stays_ite,
    stays_skip, stays_pure, parseType]
  split
  · rw [← and_assoc]
    apply and_congr_left
    intro _
    omega
  · rfl

theorem stays_fail {length : Nat} (place : Nat) :
    (EapGpskFailParser.parseRawToApp.void.orElse
        EapGpskProtectedFailParser.parseRawToApp.void).Stays block ⟨place, length⟩
        (fun _ _ => True) (fun _ => True) ↔
      FailFits block.octets length place := by
  simp only [stays_orElse, stays_void, stays_gpskFail, FailFits]
  rw [← @inside_gpskProtectedFail block ⟨place, length⟩]
  rfl

/-- Each parser stays in what was received where the data that the message names were. -/
theorem parseData_inside_iff (parser : EapParser) {length : Nat} (short : length < 65536) :
    parser.parseData.Inside block ⟨5, length⟩ ↔ parser.DataFits block.octets length := by
  cases parser with
  | header => exact Iff.rfl
  | request => exact Iff.rfl
  | nak dict bufferEnd rounds notNull =>
    exact iff_of_true (stays_void.2 (inside_nak dict notNull rounds)) trivial
  | identity => exact stays_void.trans inside_identity
  | notification => exact stays_void.trans inside_identity
  | md5Challenge => exact stays_void.trans (inside_md5Challenge short)
  | gpskMsg => exact stays_void.trans inside_gpskMsg
  | gpsk1 => exact stays_void.trans inside_gpsk1
  | gpsk2 => exact stays_void.trans inside_gpsk2
  | gpsk3 => exact stays_void.trans inside_gpsk3
  | gpsk4 => exact stays_void.trans inside_gpsk4
  | gpskFail => exact stays_void.trans inside_gpskFail
  | gpskProtectedFail => exact stays_void.trans inside_gpskProtectedFail
  | gpskFailOrProtected => exact stays_fail 5
  | gpsk3OrFail =>
    rw [Inside, parseData, stays_orElse, stays_void, stays_gpsk3]
    simp only [stays_fail, DataFits]
  | archie => exact stays_void.trans inside_gpskMsg
  | archieRequest => exact stays_void.trans inside_archieRequest
  | archieResponse => exact stays_void.trans inside_archieResponse
  | archieConfirm => exact stays_void.trans inside_archieConfirm
  | archieFinish => exact stays_void.trans inside_archieFinish

/-- The methods are legacy types. -/
theorem type_ne_vendor {parser : EapParser} {type : EapType} (isType : parser.type = some type) :
    type.type ≠ 254 := by
  cases parser <;> cases isType <;> decide

/-- A message is parsed inside of what was received, and its end is set inside of the block, where
it fits. -/
theorem inside_iff_fits (parser : EapParser) (block : ReceivedBlock) (now : BlockPointers) :
    parser.parseRawToApp.Inside block now ↔ parser.Fits block := by
  have data : EapRequestParser.parseRawToApp.Stays block
      { rd := 4, wr := lengthField block.octets }
      (fun type after =>
        (if some type = parser.type then parser.parseData else pure ()).Inside block after)
      (fun _ => True) ↔
        (if block.octets.getD 4 0 = 254 then 9 else 5) ≤ block.octets.length ∧
          (some (parseType block.octets) = parser.type →
            parser.DataFits block.octets (lengthField block.octets)) := by
    rw [stays_request]
    apply and_congr_right
    intro _
    by_cases isType : some (parseType block.octets) = parser.type
    · have legacy : block.octets.getD 4 0 ≠ 254 := by
        intro vendor
        apply type_ne_vendor isType.symm
        rw [parseType, if_pos vendor]
        rfl
      simp only [isType, if_true, true_implies, if_neg legacy]
      exact parseData_inside_iff parser (readShort_lt _)
    · simp only [isType, if_false, false_implies]
      rfl
  unfold Fits parseRawToApp Inside
  rw [stays_bind, stays_header]
  apply and_congr_right
  intro _
  apply and_congr_right
  intro _
  cases parser with
  | header => rfl
  | _ => exact stays_bind.trans data

end

/-- A length that is longer than the block, one that ends before the data, and a message that ends
before its op-code. -/
theorem shortMessages_outside :
    ¬header.parseRawToApp.Inside ⟨[1, 7, 0, 9, 1], 5, Nat.le_refl 5⟩ ⟨0, 5⟩ ∧
    ¬identity.parseRawToApp.Inside ⟨[1, 7, 0, 4, 1], 5, Nat.le_refl 5⟩ ⟨0, 5⟩ ∧
    ¬gpsk1.parseRawToApp.Inside ⟨[1, 7, 0, 5, 200], 5, Nat.le_refl 5⟩ ⟨0, 5⟩ := by
  refine ⟨?_, ?_, ?_⟩
  · rw [Inside, parseRawToApp, stays_bind, stays_header]
    rintro ⟨-, inBlock, -⟩
    exact absurd inBlock (by decide)
  · intro inside
    have data := (stays_request.1 (stays_bind.1 (stays_header.1 (stays_bind.1 inside)).2.2)).2
    exact absurd ((parseData_inside_iff identity (by decide)).1 data).1 (by decide)
  · intro inside
    have data := (stays_request.1 (stays_bind.1 (stays_header.1 (stays_bind.1 inside)).2.2)).2
    exact absurd ((parseData_inside_iff gpsk1 (by decide)).1 data).1 (by decide)

end EapParser

end OpenDiameter.Eap
