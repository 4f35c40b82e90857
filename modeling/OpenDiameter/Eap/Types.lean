import OpenDiameter.Foundation.Bytes
import OpenDiameter.Foundation.Octets

/-!
`eap.hxx` and `eap_parser.hxx`: the codes and types of EAP, and how they are read from and
written to a message.
-/

namespace OpenDiameter.Eap

open OpenDiameter.Foundation

abbrev EapOctets := List UInt8

/-- `EapCode` -/
def codeRequest : UInt8 := 1
def codeResponse : UInt8 := 2
def codeSuccess : UInt8 := 3
def codeFailure : UInt8 := 4

structure EapType where
  type : UInt8
  vendorId : UInt16 := 0
  vendorType : UInt16 := 0
  deriving DecidableEq, Repr

namespace EapType

/-- A vendor specific type. -/
def vendor (vendorId vendorType : UInt16) : EapType := ⟨254, vendorId, vendorType⟩

def isVSE (type : EapType) : Bool :=
  decide (type.type = 254) && decide (type ≠ vendor 0 0)

def none : EapType := ⟨0, 0, 0⟩
def identity : EapType := ⟨1, 0, 0⟩
def notification : EapType := ⟨2, 0, 0⟩
def nak : EapType := ⟨3, 0, 0⟩
def md5Challenge : EapType := ⟨4, 0, 0⟩

end EapType

abbrev EapTypeList := List EapType

namespace EapTypeList

def search (list : EapTypeList) (type : EapType) : Bool := list.contains type

def isVSE (list : EapTypeList) : Bool := list.any EapType.isVSE

end EapTypeList

structure EapHeader where
  code : UInt8
  identifier : UInt8
  deriving DecidableEq, Repr

/-- `EapHeaderParser::parseRawToApp`, but for the length. -/
def parseHeader (msg : EapOctets) : EapHeader :=
  ⟨msg.getD 0 0, msg.getD 1 0⟩

/-- `EapHeaderParser::parseAppToRaw`, the length being that of the message. -/
def writeHeader (header : EapHeader) (msg : EapOctets) : EapOctets :=
  [header.code, header.identifier, UInt8.ofNat (msg.length / 256), UInt8.ofNat msg.length] ++
    msg.drop 4

/-- `ntohs` of a number of two bytes, on a machine that stores the low byte first. -/
def ntohs (value : UInt16) : UInt16 := value <<< 8 ||| value >>> 8

/-- The value of a `char` as an `ACE_UINT16`. -/
def signExtend (octet : UInt8) : UInt16 :=
  if octet < 128 then octet.toUInt16 else 0xff00 ||| octet.toUInt16

/-- `EapRequestParser::parseRawToApp`: `&&` leaves one bit of the vendor id, and of the vendor
type one octet is read. -/
def parseType (msg : EapOctets) : EapType :=
  if msg.getD 4 0 = 254 then .vendor (ntohs 1) (ntohs (signExtend (msg.getD 8 0)))
  else ⟨msg.getD 4 0, 0, 0⟩

/-- The type data: of a vendor specific type it is read from the vendor type on. -/
def typeData (msg : EapOctets) : EapOctets :=
  if msg.getD 4 0 = 254 then msg.drop 8 else msg.drop 5

/-- A number of two bytes in four bytes, the low byte first. -/
def lowFirst (value : UInt16) : EapOctets := [value.toUInt8, (value >>> 8).toUInt8, 0, 0]

/-- `EapRequestParser::parseAppToRaw`: the room for the header, and the type. Of a vendor
specific type each number is followed by two octets that are no part of it. -/
def writeType (type : EapType) : EapOctets :=
  [0, 0, 0, 0] ++
    if type.type ≠ 254 then [type.type]
    else lowFirst (ntohs (if type.vendorId = 0 then 0 else 1)) ++ lowFirst (ntohs type.vendorType)

inductive EapNakDict where
  | legacyNak
  | extendedNak
  deriving DecidableEq, Repr

/-- A type of an extended Nak, of which only the low half of the first word is swapped. -/
def writeNakType (type : EapType) : EapOctets :=
  let extended := if type.type ≠ 254 then .vendor 0 type.type.toUInt16 else type
  lowFirst (ntohs (if extended.vendorId = 0 then 0 else 1)) ++
    lowFirst (ntohs extended.vendorType)

namespace EapNakParser

/-- `EapNakParser::parseAppToRaw` -/
def parseAppToRaw (dict : EapNakDict) (types : EapTypeList) : EapOctets :=
  writeType .nak ++
    match dict with
    | .legacyNak => types.map (·.type)
    | .extendedNak => lowFirst 0 ++ lowFirst (ntohs 3) ++ types.flatMap writeNakType

/-- The loop of `EapNakParser::parseRawToApp` for a legacy Nak: it goes on as long as there are
types in the list that it appends to. -/
def readTypes (octets : EapOctets) : (rounds : Nat) → (index : Nat) → EapTypeList → EapTypeList
  | 0, _, types => types
  | rounds + 1, index, types =>
    if index < types.length then
      readTypes octets rounds (index + 1) (types ++ [⟨octets.getD index 0, 0, 0⟩])
    else types

/-- `EapNakParser::parseRawToApp` without a dictionary, into a list. -/
def parseRawToApp (msg : EapOctets) (types : EapTypeList) (rounds : Nat) : EapTypeList :=
  readTypes (typeData msg) rounds 0 types

/-- The loop ends at once where the list is empty. -/
@[simp] theorem parseRawToApp_nil (msg : EapOctets) (rounds : Nat) :
    parseRawToApp msg [] rounds = [] := by
  cases rounds with
  | zero => rfl
  | succ rounds => rfl

end EapNakParser

@[simp] theorem parseHeader_writeHeader (header : EapHeader) (msg : EapOctets) :
    parseHeader (writeHeader header msg) = header := rfl

/-! The header, which the switch writes, is no part of what is read. -/

theorem octetsAt_writeHeader (header : EapHeader) (msg : EapOctets) {offset : Nat}
    (after : 4 ≤ offset) (count : Nat) :
    octetsAt (writeHeader header msg) offset count = octetsAt msg offset count := by
  have split : 4 + (offset - 4) = offset := by omega
  rw [writeHeader, octetsAt_append_of_le _ (by simpa using after), octetsAt, octetsAt,
    List.drop_drop]
  simp [split]

theorem getD_writeHeader (header : EapHeader) (msg : EapOctets) {index : Nat}
    (after : 4 ≤ index) : (writeHeader header msg).getD index 0 = msg.getD index 0 := by
  have split : 4 + (index - 4) = index := by omega
  rw [writeHeader, List.getD_eq_getElem?_getD, List.getD_eq_getElem?_getD,
    List.getElem?_append_right (by simpa using after), List.getElem?_drop]
  simp [split]

theorem drop_writeHeader (header : EapHeader) (msg : EapOctets) {offset : Nat}
    (after : 4 ≤ offset) : (writeHeader header msg).drop offset = msg.drop offset := by
  have split : 4 + (offset - 4) = offset := by omega
  rw [writeHeader, List.drop_append, List.drop_eq_nil_of_le (by simpa using after),
    List.nil_append, List.drop_drop]
  simp [split]

end OpenDiameter.Eap
