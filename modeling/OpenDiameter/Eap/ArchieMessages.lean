import OpenDiameter.Eap.Aes

/-!
`eap_archie.hxx`, `eap_archie_parser.hxx` and `eap_archie_crypto.hxx`: the messages of EAP-Archie,
how they are read and written, and its functions of keys.
-/

namespace OpenDiameter.Eap

open OpenDiameter.Foundation

/-- `ARCHIE_METHOD_TYPE` -/
def archieType : EapType := ⟨100, 0, 0⟩

section Keys

variable (aesEncrypt : AesEncrypt)

/-- `EapCryptoAES_CBC_MAC` with the whole of the last block. -/
def aesCbcMac (octets sharedSecret : EapOctets) : AesBlock :=
  (List.range ((octets.length - 1) / 16 + 1)).foldl
    (fun vector index =>
      aesEncrypt (aesBlock sharedSecret) (xorBlock vector (octets.drop (16 * index))))
    (Vector.replicate 16 0)

/-- `EapCryptoAES_CBC_MAC` of `MAC_Length96` -/
def aesCbcMac96 (octets sharedSecret : EapOctets) : EapOctets :=
  (aesCbcMac aesEncrypt octets sharedSecret).toList.take 12

@[simp] theorem length_aesCbcMac96 (octets sharedSecret : EapOctets) :
    (aesCbcMac96 aesEncrypt octets sharedSecret).length = 12 := by
  simp [aesCbcMac96]

/-- `EapCryptoArchiePRF` -/
def archiePrf (octets sharedSecret : EapOctets) (length : Nat) : EapOctets :=
  firstOctets
    ((List.range ((length + 15) / 16)).flatMap fun index =>
      (aesCbcMac aesEncrypt (htonl (index + 1) ++ octets ++ htonl length) sharedSecret).toList)
    length

@[simp] theorem length_archiePrf (octets sharedSecret : EapOctets) (length : Nat) :
    (archiePrf aesEncrypt octets sharedSecret length).length = length :=
  length_firstOctets _ _

end Keys

/-- `copyWithPadding`: the length zero stands for a full block. -/
def copyWithPadding (octets : EapOctets) (dataLength : UInt8) (blockSize : Nat) : EapOctets :=
  if dataLength = 0 then firstOctets octets blockSize
  else firstOctets octets dataLength.toNat ++ List.replicate (blockSize - dataLength.toNat) 0

/-- The octet that a length is written as. -/
def lengthOctet (octets : EapOctets) : UInt8 := UInt8.ofNat octets.length

/-- How many octets are read where the length octet is this one. -/
def paddedLength (dataLength : UInt8) : Nat := if dataLength = 0 then 256 else dataLength.toNat

/-- `ArchieBinding`, but for the two lengths that nothing reads. -/
structure ArchieBinding where
  bType : UInt16 := 0
  addrS : EapOctets := List.replicate 256 0
  addrP : EapOctets := List.replicate 256 0
  deriving DecidableEq

namespace ArchieBinding

/-- The binding as it stands in a message. -/
def write (binding : ArchieBinding) : EapOctets :=
  writeShort binding.bType.toNat ++ [lengthOctet binding.addrS, lengthOctet binding.addrP] ++
    copyWithPadding binding.addrS (lengthOctet binding.addrS) 256 ++
    copyWithPadding binding.addrP (lengthOctet binding.addrP) 256

/-- The binding that is read from an offset of a message on. -/
def read (msg : EapOctets) (offset : Nat) : ArchieBinding where
  bType := UInt16.ofNat (readShort (octetsAt msg offset 2))
  addrS := octetsAt msg (offset + 4) (paddedLength (msg.getD (offset + 2) 0))
  addrP := octetsAt msg (offset + 260) (paddedLength (msg.getD (offset + 3) 0))

end ArchieBinding

structure EapRequestArchieRequest where
  authID : EapOctets
  sessionID : EapOctets
  deriving DecidableEq

structure EapResponseArchieResponse where
  sessionID : EapOctets
  peerID : EapOctets
  nonceP : EapOctets
  binding : ArchieBinding
  mac1 : EapOctets := []
  deriving DecidableEq

structure EapRequestArchieConfirm where
  sessionID : EapOctets
  nonceA : EapOctets
  binding : ArchieBinding
  mac2 : EapOctets := []
  deriving DecidableEq

structure EapResponseArchieFinish where
  sessionID : EapOctets
  mac3 : EapOctets := []
  deriving DecidableEq

/-- The room for the header, the type, the message id, and the two octets after it, of which the
first is always zero. -/
def archieHead (msgID naiLength : UInt8) : EapOctets :=
  writeType archieType ++ [msgID, 0, naiLength]

/-! The message id, which each parser checks, is at the offset 5. Nothing is read where it is
another one. -/

namespace EapRequestArchieRequest

/-- `EapRequestArchieRequestParser::parseAppToRaw`, which throws where the AuthID is empty. -/
def parseAppToRaw (request : EapRequestArchieRequest) : Option EapOctets :=
  if request.authID.length = 0 then none
  else some (archieHead 1 (lengthOctet request.authID) ++
    copyWithPadding request.authID (lengthOctet request.authID) 256 ++
    firstOctets request.sessionID 32)

/-- `EapRequestArchieRequestParser::parseRawToApp` -/
def parseRawToApp (msg : EapOctets) : Option EapRequestArchieRequest :=
  if msg.getD 5 0 ≠ 1 then none
  else some
    { authID := octetsAt msg 8 (paddedLength (msg.getD 7 0))
      sessionID := octetsAt msg 264 32 }

end EapRequestArchieRequest

namespace EapResponseArchieResponse

/-- `EapResponseArchieResponseParser::parseAppToRaw`, which throws where the PeerID is empty. -/
def parseAppToRaw (response : EapResponseArchieResponse) : Option EapOctets :=
  if response.peerID.length = 0 then none
  else some (archieHead 2 (lengthOctet response.peerID) ++
    firstOctets response.sessionID 32 ++
    copyWithPadding response.peerID (lengthOctet response.peerID) 256 ++
    firstOctets response.nonceP 40 ++ response.binding.write ++ firstOctets response.mac1 12)

/-- `EapResponseArchieResponseParser::parseRawToApp` -/
def parseRawToApp (msg : EapOctets) : Option EapResponseArchieResponse :=
  if msg.getD 5 0 ≠ 2 then none
  else some
    { sessionID := octetsAt msg 8 32
      peerID := octetsAt msg 40 (paddedLength (msg.getD 7 0))
      nonceP := octetsAt msg 296 40
      binding := .read msg 336
      mac1 := octetsAt msg 852 12 }

end EapResponseArchieResponse

namespace EapRequestArchieConfirm

/-- `EapRequestArchieConfirmParser::parseAppToRaw` -/
def parseAppToRaw (confirm : EapRequestArchieConfirm) : EapOctets :=
  archieHead 3 0 ++ firstOctets confirm.sessionID 32 ++
    firstOctets confirm.nonceA 40 ++ confirm.binding.write ++ firstOctets confirm.mac2 12

/-- `EapRequestArchieConfirmParser::parseRawToApp` -/
def parseRawToApp (msg : EapOctets) : Option EapRequestArchieConfirm :=
  if msg.getD 5 0 ≠ 3 then none
  else some
    { sessionID := octetsAt msg 8 32
      nonceA := octetsAt msg 40 40
      binding := .read msg 80
      mac2 := octetsAt msg 596 12 }

end EapRequestArchieConfirm

namespace EapResponseArchieFinish

/-- `EapResponseArchieFinishParser::parseAppToRaw` -/
def parseAppToRaw (finish : EapResponseArchieFinish) : EapOctets :=
  archieHead 4 0 ++ firstOctets finish.sessionID 32 ++ firstOctets finish.mac3 12

/-- `EapResponseArchieFinishParser::parseRawToApp` -/
def parseRawToApp (msg : EapOctets) : Option EapResponseArchieFinish :=
  if msg.getD 5 0 ≠ 4 then none
  else some { sessionID := octetsAt msg 8 32, mac3 := octetsAt msg 40 12 }

end EapResponseArchieFinish

/-! The header is no part of what is read. -/

theorem ArchieBinding.read_writeHeader (header : EapHeader) (msg : EapOctets) {offset : Nat}
    (after : 4 ≤ offset) :
    ArchieBinding.read (writeHeader header msg) offset = ArchieBinding.read msg offset := by
  simp only [ArchieBinding.read, octetsAt_writeHeader _ _ after,
    octetsAt_writeHeader header msg (Nat.le_add_right_of_le after),
    getD_writeHeader header msg (Nat.le_add_right_of_le after)]

/-! What is read is at fixed places. -/

variable {msg : EapOctets}

theorem EapRequestArchieRequest.eq_of_parse {request : EapRequestArchieRequest}
    (read : parseRawToApp msg = some request) :
    request =
      { authID := octetsAt msg 8 (paddedLength (msg.getD 7 0))
        sessionID := octetsAt msg 264 32 } := by
  rw [parseRawToApp] at read
  split at read
  · cases read
  · exact (Option.some.inj read).symm

theorem EapResponseArchieResponse.eq_of_parse {response : EapResponseArchieResponse}
    (read : parseRawToApp msg = some response) :
    response =
      { sessionID := octetsAt msg 8 32
        peerID := octetsAt msg 40 (paddedLength (msg.getD 7 0))
        nonceP := octetsAt msg 296 40
        binding := .read msg 336
        mac1 := octetsAt msg 852 12 } := by
  rw [parseRawToApp] at read
  split at read
  · cases read
  · exact (Option.some.inj read).symm

theorem EapRequestArchieConfirm.eq_of_parse {confirm : EapRequestArchieConfirm}
    (read : parseRawToApp msg = some confirm) :
    confirm =
      { sessionID := octetsAt msg 8 32
        nonceA := octetsAt msg 40 40
        binding := .read msg 80
        mac2 := octetsAt msg 596 12 } := by
  rw [parseRawToApp] at read
  split at read
  · cases read
  · exact (Option.some.inj read).symm

theorem EapResponseArchieFinish.eq_of_parse {finish : EapResponseArchieFinish}
    (read : parseRawToApp msg = some finish) :
    finish = { sessionID := octetsAt msg 8 32, mac3 := octetsAt msg 40 12 } := by
  rw [parseRawToApp] at read
  split at read
  · cases read
  · exact (Option.some.inj read).symm

theorem EapRequestArchieRequest.parse_writeHeader (header : EapHeader) (msg : EapOctets) :
    parseRawToApp (writeHeader header msg) = parseRawToApp msg := by
  simp only [parseRawToApp, octetsAt_writeHeader, getD_writeHeader, Nat.reduceLeDiff]

theorem EapResponseArchieResponse.parse_writeHeader (header : EapHeader) (msg : EapOctets) :
    parseRawToApp (writeHeader header msg) = parseRawToApp msg := by
  simp only [parseRawToApp, octetsAt_writeHeader, getD_writeHeader,
    ArchieBinding.read_writeHeader, Nat.reduceLeDiff]

theorem EapRequestArchieConfirm.parse_writeHeader (header : EapHeader) (msg : EapOctets) :
    parseRawToApp (writeHeader header msg) = parseRawToApp msg := by
  simp only [parseRawToApp, octetsAt_writeHeader, getD_writeHeader,
    ArchieBinding.read_writeHeader, Nat.reduceLeDiff]

theorem EapResponseArchieFinish.parse_writeHeader (header : EapHeader) (msg : EapOctets) :
    parseRawToApp (writeHeader header msg) = parseRawToApp msg := by
  simp only [parseRawToApp, octetsAt_writeHeader, getD_writeHeader, Nat.reduceLeDiff]

/-! A field of 1 to 256 octets is written in full, and read back. -/

variable {octets : EapOctets}

theorem lengthOctet_eq_zero (some : 1 ≤ octets.length) (fits : octets.length ≤ 256) :
    lengthOctet octets = 0 ↔ octets.length = 256 := by
  rw [lengthOctet, ← UInt8.toNat_inj, UInt8.toNat_ofNat', UInt8.toNat_zero]
  omega

theorem lengthOctet_toNat (short : octets.length < 256) :
    (lengthOctet octets).toNat = octets.length := by
  rw [lengthOctet, UInt8.toNat_ofNat']
  omega

theorem paddedLength_lengthOctet (some : 1 ≤ octets.length) (fits : octets.length ≤ 256) :
    paddedLength (lengthOctet octets) = octets.length := by
  rw [paddedLength]
  split
  · rename_i isZero
    exact ((lengthOctet_eq_zero some fits).1 isZero).symm
  · rename_i notZero
    have short : octets.length ≠ 256 := fun full => notZero ((lengthOctet_eq_zero some fits).2 full)
    exact lengthOctet_toNat (by omega)

theorem copyWithPadding_eq (some : 1 ≤ octets.length) (fits : octets.length ≤ 256) :
    copyWithPadding octets (lengthOctet octets) 256 =
      octets ++ List.replicate (256 - octets.length) 0 := by
  rw [copyWithPadding]
  split
  · rename_i isZero
    have full := (lengthOctet_eq_zero some fits).1 isZero
    rw [full, Nat.sub_self, List.replicate_zero, List.append_nil, firstOctets_of_length full]
  · rename_i notZero
    have short : octets.length ≠ 256 := fun full => notZero ((lengthOctet_eq_zero some fits).2 full)
    rw [lengthOctet_toNat (by omega), firstOctets_of_length rfl]

@[simp] theorem length_copyWithPadding (octets : EapOctets) (dataLength : UInt8) :
    (copyWithPadding octets dataLength 256).length = 256 := by
  have short := dataLength.toNat_lt
  rw [copyWithPadding]
  split
  · exact length_firstOctets _ _
  · rw [List.length_append, length_firstOctets, List.length_replicate]
    omega

/-- A field that its length octet can stand for. -/
structure FitsBlock (octets : EapOctets) : Prop where
  nonempty : 1 ≤ octets.length
  fits : octets.length ≤ 256

structure ArchieBinding.Fits (binding : ArchieBinding) : Prop where
  addrS : FitsBlock binding.addrS
  addrP : FitsBlock binding.addrP

/-- The octets of a padded field, whatever comes after it. -/
theorem octetsAt_padded (field : FitsBlock octets) (rest : EapOctets) :
    octetsAt (copyWithPadding octets (lengthOctet octets) 256 ++ rest) 0
      (paddedLength (lengthOctet octets)) = octets := by
  rw [copyWithPadding_eq field.nonempty field.fits,
    paddedLength_lengthOctet field.nonempty field.fits, List.append_assoc,
    octetsAt_zero_append _ _ rfl]

@[simp] theorem length_archieHead (msgID naiLength : UInt8) :
    (archieHead msgID naiLength).length = 8 := rfl

@[simp] theorem getD_archieHead_msgID (msgID naiLength : UInt8) (rest : EapOctets) :
    (archieHead msgID naiLength ++ rest).getD 5 0 = msgID := rfl

@[simp] theorem getD_archieHead_naiLength (msgID naiLength : UInt8) (rest : EapOctets) :
    (archieHead msgID naiLength ++ rest).getD 7 0 = naiLength := rfl

@[simp] theorem ArchieBinding.length_write (binding : ArchieBinding) :
    binding.write.length = 516 := by
  simp [ArchieBinding.write]

theorem ArchieBinding.read_write {binding : ArchieBinding} (fits : binding.Fits)
    (before rest : EapOctets) {offset : Nat} (isOffset : before.length = offset) :
    ArchieBinding.read (before ++ (binding.write ++ rest)) offset = binding := by
  have getD (index : Nat) :
      (before ++ (binding.write ++ rest)).getD (offset + index) 0 =
        (binding.write ++ rest).getD index 0 := by
    rw [List.getD_eq_getElem?_getD, List.getElem?_append_right (by omega),
      List.getD_eq_getElem?_getD, ← isOffset, Nat.add_sub_cancel_left]
  have typeField : octetsAt (before ++ (binding.write ++ rest)) offset 2 =
      writeShort binding.bType.toNat := by
    simp only [write, List.append_assoc]
    exact octetsAt_middle before _ _ isOffset (length_writeShort _)
  have addrS : octetsAt (before ++ (binding.write ++ rest)) (offset + 4)
      (paddedLength (lengthOctet binding.addrS)) = binding.addrS := by
    rw [octetsAt_append before _ isOffset]
    simp only [write, List.append_assoc]
    rw [octetsAt_append_of_le _ (by simp), octetsAt_append_of_le _ (by simp)]
    exact octetsAt_padded fits.addrS _
  have addrP : octetsAt (before ++ (binding.write ++ rest)) (offset + 260)
      (paddedLength (lengthOctet binding.addrP)) = binding.addrP := by
    rw [octetsAt_append before _ isOffset]
    simp only [write, List.append_assoc]
    rw [octetsAt_append_of_le _ (by simp), octetsAt_append_of_le _ (by simp),
      octetsAt_append_of_le _ (by simp)]
    simpa using octetsAt_padded fits.addrP _
  have lengthS : (binding.write ++ rest).getD 2 0 = lengthOctet binding.addrS := rfl
  have lengthP : (binding.write ++ rest).getD 3 0 = lengthOctet binding.addrP := rfl
  rw [read, getD, getD, lengthS, lengthP, typeField, addrS, addrP, readShort_writeShort,
    Nat.mod_eq_of_lt binding.bType.toNat_lt, UInt16.ofNat_toNat]

namespace EapRequestArchieRequest

theorem parse_write {request : EapRequestArchieRequest} (authID : FitsBlock request.authID)
    (sessionID : request.sessionID.length = 32) :
    request.parseAppToRaw.bind parseRawToApp = some request := by
  have named : request.authID.length ≠ 0 := Nat.ne_of_gt authID.nonempty
  have idField : octetsAt (archieHead 1 (lengthOctet request.authID) ++
      (copyWithPadding request.authID (lengthOctet request.authID) 256 ++ request.sessionID)) 8
        (paddedLength (lengthOctet request.authID)) = request.authID := by
    rw [octetsAt_append_of_le _ (by simp)]
    exact octetsAt_padded authID _
  have sessionField : octetsAt (archieHead 1 (lengthOctet request.authID) ++
      (copyWithPadding request.authID (lengthOctet request.authID) 256 ++ request.sessionID)) 264
        32 = request.sessionID := by
    rw [octetsAt_append_of_le _ (by simp), octetsAt_append_of_le _ (by simp)]
    simpa using octetsAt_zero _ sessionID
  rw [parseAppToRaw, if_neg named, firstOctets_of_length sessionID, List.append_assoc,
    Option.bind_some, parseRawToApp, if_neg (fun other => other (getD_archieHead_msgID _ _ _)),
    getD_archieHead_naiLength, idField, sessionField]

end EapRequestArchieRequest

/-! Of the other messages the last twelve octets are the MAC, and it covers those before it, from
the type on. -/

namespace EapResponseArchieResponse

def covered (response : EapResponseArchieResponse) : EapOctets :=
  archieHead 2 (lengthOctet response.peerID) ++ firstOctets response.sessionID 32 ++
    copyWithPadding response.peerID (lengthOctet response.peerID) 256 ++
    firstOctets response.nonceP 40 ++ response.binding.write

@[simp] theorem length_covered (response : EapResponseArchieResponse) :
    response.covered.length = 852 := by
  simp [covered]

theorem session_covered (response : EapResponseArchieResponse) :
    octetsAt response.covered 8 32 = firstOctets response.sessionID 32 := by
  simp only [covered, List.append_assoc]
  exact octetsAt_middle _ _ _ (length_archieHead _ _) (length_firstOctets _ _)

theorem parseAppToRaw_eq {response : EapResponseArchieResponse}
    (named : response.peerID.length ≠ 0) :
    response.parseAppToRaw = some (response.covered ++ firstOctets response.mac1 12) := by
  rw [parseAppToRaw, if_neg named, covered]

theorem parse_write {response : EapResponseArchieResponse} (peerID : FitsBlock response.peerID)
    (binding : response.binding.Fits) (sessionID : response.sessionID.length = 32)
    (nonceP : response.nonceP.length = 40) (mac1 : response.mac1.length = 12) :
    parseRawToApp (response.covered ++ response.mac1) = some response := by
  have sessionField : octetsAt (response.covered ++ response.mac1) 8 32 = response.sessionID := by
    simp only [covered, firstOctets_of_length sessionID, firstOctets_of_length nonceP,
      List.append_assoc]
    exact octetsAt_middle _ _ _ (by simp) sessionID
  have idField : octetsAt (response.covered ++ response.mac1) 40
      (paddedLength (lengthOctet response.peerID)) = response.peerID := by
    simp only [covered, firstOctets_of_length sessionID, firstOctets_of_length nonceP,
      List.append_assoc]
    rw [octetsAt_append_of_le _ (by simp), octetsAt_append_of_le _ (by simp [sessionID])]
    simpa [sessionID] using octetsAt_padded peerID _
  have nonceField : octetsAt (response.covered ++ response.mac1) 296 40 = response.nonceP := by
    simp only [covered, firstOctets_of_length sessionID, firstOctets_of_length nonceP,
      List.append_assoc]
    rw [← List.append_assoc, ← List.append_assoc]
    exact octetsAt_middle _ _ _ (by simp [sessionID]) nonceP
  have bindingField :
      ArchieBinding.read (response.covered ++ response.mac1) 336 = response.binding := by
    rw [covered, List.append_assoc]
    exact ArchieBinding.read_write binding _ _ (by simp)
  have macField : octetsAt (response.covered ++ response.mac1) 852 12 = response.mac1 := by
    rw [octetsAt_append_of_le _ (by simp)]
    simpa using octetsAt_zero _ mac1
  have idLength : (response.covered ++ response.mac1).getD 7 0 = lengthOctet response.peerID := by
    simp only [covered, List.append_assoc]
    exact getD_archieHead_naiLength _ _ _
  have msgID : (response.covered ++ response.mac1).getD 5 0 = 2 := by
    simp only [covered, List.append_assoc]
    exact getD_archieHead_msgID _ _ _
  rw [parseRawToApp, if_neg (fun other => other msgID), idLength, sessionField, idField, nonceField,
    bindingField, macField]

end EapResponseArchieResponse

namespace EapRequestArchieConfirm

def covered (confirm : EapRequestArchieConfirm) : EapOctets :=
  archieHead 3 0 ++ firstOctets confirm.sessionID 32 ++ firstOctets confirm.nonceA 40 ++
    confirm.binding.write

@[simp] theorem length_covered (confirm : EapRequestArchieConfirm) :
    confirm.covered.length = 596 := by
  simp [covered]

theorem parseAppToRaw_eq (confirm : EapRequestArchieConfirm) :
    confirm.parseAppToRaw = confirm.covered ++ firstOctets confirm.mac2 12 := rfl

theorem parse_write {confirm : EapRequestArchieConfirm} (binding : confirm.binding.Fits)
    (sessionID : confirm.sessionID.length = 32) (nonceA : confirm.nonceA.length = 40)
    (mac2 : confirm.mac2.length = 12) :
    parseRawToApp (confirm.covered ++ confirm.mac2) = some confirm := by
  have sessionField : octetsAt (confirm.covered ++ confirm.mac2) 8 32 = confirm.sessionID := by
    simp only [covered, firstOctets_of_length sessionID, firstOctets_of_length nonceA,
      List.append_assoc]
    exact octetsAt_middle _ _ _ (by simp) sessionID
  have nonceField : octetsAt (confirm.covered ++ confirm.mac2) 40 40 = confirm.nonceA := by
    simp only [covered, firstOctets_of_length sessionID, firstOctets_of_length nonceA,
      List.append_assoc]
    rw [← List.append_assoc]
    exact octetsAt_middle _ _ _ (by simp [sessionID]) nonceA
  have bindingField :
      ArchieBinding.read (confirm.covered ++ confirm.mac2) 80 = confirm.binding := by
    rw [covered, List.append_assoc]
    exact ArchieBinding.read_write binding _ _ (by simp)
  have macField : octetsAt (confirm.covered ++ confirm.mac2) 596 12 = confirm.mac2 := by
    rw [octetsAt_append_of_le _ (by simp)]
    simpa using octetsAt_zero _ mac2
  have msgID : (confirm.covered ++ confirm.mac2).getD 5 0 = 3 := by
    simp only [covered, List.append_assoc]
    exact getD_archieHead_msgID _ _ _
  rw [parseRawToApp, if_neg (fun other => other msgID), sessionField, nonceField, bindingField,
    macField]

end EapRequestArchieConfirm

namespace EapResponseArchieFinish

def covered (finish : EapResponseArchieFinish) : EapOctets :=
  archieHead 4 0 ++ firstOctets finish.sessionID 32

@[simp] theorem length_covered (finish : EapResponseArchieFinish) :
    finish.covered.length = 40 := by
  simp [covered]

theorem session_covered (finish : EapResponseArchieFinish) :
    octetsAt finish.covered 8 32 = firstOctets finish.sessionID 32 := by
  have only := octetsAt_middle (archieHead 4 0) (firstOctets finish.sessionID 32) []
    (length_archieHead _ _) (length_firstOctets _ _)
  rwa [List.append_nil] at only

theorem parseAppToRaw_eq (finish : EapResponseArchieFinish) :
    finish.parseAppToRaw = finish.covered ++ firstOctets finish.mac3 12 := rfl

theorem parse_write {finish : EapResponseArchieFinish} (sessionID : finish.sessionID.length = 32)
    (mac3 : finish.mac3.length = 12) :
    parseRawToApp (finish.covered ++ finish.mac3) = some finish := by
  have sessionField : octetsAt (finish.covered ++ finish.mac3) 8 32 = finish.sessionID := by
    simp only [covered, firstOctets_of_length sessionID, List.append_assoc]
    exact octetsAt_middle _ _ _ (by simp) sessionID
  have macField : octetsAt (finish.covered ++ finish.mac3) 40 12 = finish.mac3 := by
    rw [octetsAt_append_of_le _ (by simp)]
    simpa using octetsAt_zero _ mac3
  have msgID : (finish.covered ++ finish.mac3).getD 5 0 = 4 := by
    simp only [covered, List.append_assoc]
    exact getD_archieHead_msgID _ _ _
  rw [parseRawToApp, if_neg (fun other => other msgID), sessionField, macField]

end EapResponseArchieFinish

end OpenDiameter.Eap
