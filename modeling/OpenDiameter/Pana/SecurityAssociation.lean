import OpenDiameter.Pana.Message

/-!
The security association of a session: the nonces, the MSK and the key of the AUTH AVPs.
-/

namespace OpenDiameter.Pana

/-- `PANA_ScholarValue`: a value that is forgotten by its flag alone. -/
structure ScholarValue where
  value : PanaOctetstring := []
  isSet : Bool := false
  deriving DecidableEq, Repr

namespace ScholarValue

def set (value : PanaOctetstring) : ScholarValue :=
  { value, isSet := true }

def reset (scholar : ScholarValue) : ScholarValue :=
  { scholar with isSet := false }

@[simp] theorem isSet_set (value : PanaOctetstring) : (set value).isSet = true := rfl

@[simp] theorem value_set (value : PanaOctetstring) : (set value).value = value := rfl

@[simp] theorem isSet_reset (scholar : ScholarValue) : scholar.reset.isSet = false := rfl

end ScholarValue

structure SecurityAssociation where
  authKey : ScholarValue := {}
  pacNonce : ScholarValue := {}
  paaNonce : ScholarValue := {}
  msk : ScholarValue := {}
  mskId : UInt32 := 0
  parStart : PanaOctetstring := []
  panStart : PanaOctetstring := []
  deriving DecidableEq, Repr

/-- The key identifier in network byte order. -/
def keyIdOctets (keyId : UInt32) : PanaOctetstring :=
  [(keyId >>> 24).toUInt8, (keyId >>> 16).toUInt8, (keyId >>> 8).toUInt8, keyId.toUInt8]

namespace SecurityAssociation

variable (settings : PanaSettings)

/-- `PANA_MSK::Reset` hides the one that clears the flag: only the identifier is new. -/
def reset (sa : SecurityAssociation) (globalId : UInt32) : SecurityAssociation :=
  { sa with mskId := globalId, authKey := sa.authKey.reset }

def resetNonces (sa : SecurityAssociation) : SecurityAssociation :=
  { sa with pacNonce := sa.pacNonce.reset, paaNonce := sa.paaNonce.reset }

/-- What `PANA_AuthKey::Generate` keeps of `prf+`: its first block. -/
def generateKey (sa : SecurityAssociation) : PanaOctetstring :=
  settings.hmac sa.msk.value
    (sa.parStart ++ sa.panStart ++ sa.pacNonce.value ++ sa.paaNonce.value ++
      keyIdOctets sa.mskId ++ [1])

def generateAuthKey (sa : SecurityAssociation) : SecurityAssociation :=
  { sa with authKey := .set (generateKey settings sa) }

end SecurityAssociation

section Auth

variable (settings : PanaSettings)

/-- `PANA_MsgByteStream::Get` -/
def msgByteStream (msg : PanaMessage) : PanaOctetstring :=
  settings.byteStream msg.toPanaMsgHeader msg.avpList

/-- The value of an AUTH AVP under a key: the hash of the message with zeros for it. -/
def generateAuthAvpValue (key : PanaOctetstring) (msg : PanaMessage) : PanaOctetstring :=
  settings.hmac key
    (settings.byteStream msg.toPanaMsgHeader
      (setAuth (List.replicate authHmacSize 0) msg.avpList))

def addAuthAvp (key : PanaOctetstring) (msg : PanaMessage) : PanaMessage :=
  let zeroed := msg.add (.auth (List.replicate authHmacSize 0))
  { msg with
    avpList := setAuth (generateAuthAvpValue settings key zeroed) zeroed.avpList }

def validateAuthAvp (key : PanaOctetstring) (msg : PanaMessage) : Bool :=
  match msg.authAvp with
  | none => false
  | some auth => generateAuthAvpValue settings key msg == auth

end Auth

end OpenDiameter.Pana
