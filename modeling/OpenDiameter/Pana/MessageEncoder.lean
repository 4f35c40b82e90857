import Mathlib.Algebra.Group.Int.Defs
import OpenDiameter.Foundation.Octets
import OpenDiameter.Pana.Message
import OpenDiameter.Parser.AvpValue

/-!
The encoder of PANA messages. The octets go to a buffer from its write pointer on; beside the
pointer stands every write, every subtraction that a parser tests the room with, and every length
field that is written last.
-/

namespace OpenDiameter.Pana

open OpenDiameter.Foundation OpenDiameter.Parser

/-- `PANA_MAX_MESSAGE_SIZE` -/
def maxMessageSize : Nat := 1024

/-! The dictionary -/

/-- `PANA_Dictionary`: the lists of a command or of a grouped AVP. -/
structure PanaDictionary where
  fixed : List QualifiedAvp
  required : List QualifiedAvp
  optional : List QualifiedAvp
  deriving DecidableEq, Repr

structure PanaCommand extends PanaDictionary where
  code : Nat
  request : Bool
  deriving DecidableEq, Repr

structure PanaGroupedAvp extends PanaDictionary where
  code : Nat
  vendorId : Nat
  deriving DecidableEq, Repr

/-- The contents of `PANA_CommandList` and `PANA_GroupedAvpList`. -/
structure PanaDictionaries where
  commandList : List PanaCommand
  groupedAvpList : List PanaGroupedAvp

namespace PanaDictionaries

/-- `PANA_CommandList::search` -/
def searchCommand (dictionaries : PanaDictionaries) (code : Nat) (request : Bool) :
    Option PanaCommand :=
  dictionaries.commandList.find? fun command =>
    command.code == code && command.request == request

/-- `PANA_GroupedAvpList::search` -/
def searchGrouped (dictionaries : PanaDictionaries) (code vendorId : Nat) :
    Option PanaGroupedAvp :=
  dictionaries.groupedAvpList.find? fun group => group.code == code && group.vendorId == vendorId

end PanaDictionaries

/-! The buffer -/

structure BufferWrite where
  offset : Nat
  octets : List UInt8
  deriving DecidableEq, Repr

/-- `PANA_MessageBuffer`, with its pointers as offsets from `base()`. -/
structure PanaBuffer where
  wrPtr : Nat := 0
  /-- From the last on. -/
  writes : List BufferWrite := []
  /-- `size() + base() - wr_ptr()`, without a bound. -/
  spaces : List Int := []
  /-- What is written as a length, and the length. -/
  lengths : List (Nat × Nat) := []
  deriving DecidableEq, Repr

/-- A parser on a buffer, which keeps what was written before the parser throws. -/
abbrev PanaEncode := PanaBuffer → Except Failure Unit × PanaBuffer

namespace PanaEncode

def done : PanaEncode := fun buffer => (.ok (), buffer)

def throws (failure : Failure) : PanaEncode := fun buffer => (.error failure, buffer)

def andThen (first second : PanaEncode) : PanaEncode := fun buffer =>
  match first buffer with
  | (.ok (), buffer) => second buffer
  | (.error failure, buffer) => (.error failure, buffer)

end PanaEncode

namespace PanaBuffer

/-- Octets written at the write pointer, which moves behind them. -/
def put (buffer : PanaBuffer) (octets : List UInt8) : PanaBuffer :=
  { buffer with
    wrPtr := buffer.wrPtr + octets.length
    writes := ⟨buffer.wrPtr, octets⟩ :: buffer.writes }

/-- Octets with a length written at an earlier place, before the write pointer goes on. -/
def rewrite (buffer : PanaBuffer) (place : Nat) (octets : List UInt8) (length : Nat × Nat)
    (position : Nat) : PanaBuffer :=
  { buffer with
    wrPtr := position
    writes := ⟨place, octets⟩ :: buffer.writes
    lengths := length :: buffer.lengths }

/-- The test for room, in `size_t`, and the octets of the value. -/
def copyOut (octets : List UInt8) : PanaEncode := fun buffer =>
  let space : Int := maxMessageSize - buffer.wrPtr
  let tested := { buffer with spaces := space :: buffer.spaces }
  if (space % 2 ^ 64).toNat < octets.length then
    (.error (.normal ResultCode.outOfSpace), tested)
  else
    (.ok (), tested.put octets)

/-- The write pointer is moved to a boundary. -/
def toBoundary : PanaEncode := fun buffer =>
  (.ok (), { buffer with wrPtr := adjustWordBoundary buffer.wrPtr })

end PanaBuffer

/-! The AVPs -/

/-- What `PANA_AvpHeaderParser::parseAppToRaw` writes. -/
def avpHeaderOctets (avp : DictionaryEntry) (length : Nat) : List UInt8 :=
  writeShort avp.avpCode ++ writeShort (if avp.flags.vendorSpecific then 0x8000 else 0) ++
    writeShort length ++ writeShort 0 ++
    (if avp.flags.vendorSpecific then htonl avp.vendorId else [])

/-- The type of the entry is tested before it is used. -/
def expectType (entry : AvpContainerEntry) (types : List AvpDataType) (next : PanaEncode) :
    PanaEncode :=
  match entry.expect types with
  | .ok () => next
  | .error failure => .throws failure

section

variable (dictionaries : PanaDictionaries) (avp : DictionaryEntry) (entry : AvpContainerEntry)

/-- `PANA_AnyParser` and `PANA_OctetstringParser` -/
def writeOctets (type : AvpDataType) : PanaEncode :=
  expectType entry [type] <|
    match entry.data with
    | .octets str => PanaBuffer.copyOut str
    | _ => .throws .crash

/-- `PANA_Integer32Parser` -/
def writeInteger32 : PanaEncode :=
  expectType entry [.integer32, .uinteger32, .enum, .time] <|
    match entry.data with
    | .integer32 value => PanaBuffer.copyOut (htonl value.toNat)
    | _ => .throws .crash

/-- `PANA_Integer64Parser` -/
def writeInteger64 : PanaEncode :=
  expectType entry [.integer64, .uinteger64] <|
    match entry.data with
    | .integer64 value => PanaBuffer.copyOut (hton64 value)
    | _ => .throws .crash

/-- `PANA_Utf8stringParser` -/
def writeUtf8string : PanaEncode :=
  expectType entry [.utf8String] <|
    match entry.data with
    | .octets str =>
      if UTF8Checker.check 0 str then PanaBuffer.copyOut str
      else .throws (.bug ParseError.invalidContainerContents)
    | _ => .throws .crash

/-- `PANA_GroupedParser` -/
def writeGrouped (writeGroup : PanaDictionary → AvpContainerList → PanaEncode) : PanaEncode :=
  expectType entry [.grouped] <|
    match entry.data with
    | .grouped acl =>
      match dictionaries.searchGrouped avp.avpCode avp.vendorId with
      | none => .throws (.normal ResultCode.avpUnsupported)
      | some gavp => writeGroup gavp.toPanaDictionary acl
    | _ => .throws .crash

/-- The value parser that is registered for the type of the AVP. -/
def writeValue (writeGroup : PanaDictionary → AvpContainerList → PanaEncode) : PanaEncode :=
  match avp.avpType with
  | .data => writeOctets entry .data
  | .string => writeOctets entry .string
  | .integer32 | .uinteger32 | .enum | .time => writeInteger32 entry
  | .integer64 | .uinteger64 => writeInteger64 entry
  | .utf8String => writeUtf8string entry
  | .grouped => writeGrouped dictionaries avp entry writeGroup
  | .address | .diamId | .diamUri | .ipFilterRule =>
    .throws (.bug ParseError.missingAvpDictionaryEntry)

/-- The header again, in its place, with a length of 16 bits. Then the write pointer goes to the
boundary behind the value. -/
def closeAvp (saved : Nat) : PanaEncode := fun buffer =>
  let length := (buffer.wrPtr - saved) % 65536
  (.ok (), buffer.rewrite (buffer.wrPtr - length) (avpHeaderOctets avp length)
    (length, buffer.wrPtr - saved) (adjustWordBoundary buffer.wrPtr))

/-- A header of length zero, the value, and the header again. -/
def writeAvp (value : PanaEncode) : PanaEncode := fun buffer =>
  value.andThen (closeAvp avp buffer.wrPtr) (buffer.put (avpHeaderOctets avp 0))

/-- One pass of the loops of `PANA_AvpParser::parseAppToRaw`. -/
def writeEntry (writeGroup : PanaDictionary → AvpContainerList → PanaEncode) : PanaEncode :=
  if avp.avpType = .data then
    (writeValue dictionaries avp entry writeGroup).andThen PanaBuffer.toBoundary
  else
    writeAvp avp (writeValue dictionaries avp entry writeGroup)

end

section

variable (dictionaries : PanaDictionaries)
  (writeGroup : PanaDictionary → AvpContainerList → PanaEncode)

/-- `PANA_AvpParser::parseAppToRaw` -/
def writeEntries (avp : DictionaryEntry) : List AvpContainerEntry → PanaEncode
  | [] => .done
  | entry :: entries =>
    (writeEntry dictionaries avp entry writeGroup).andThen (writeEntries avp entries)

/-- What a payload has of one AVP of the dictionary. -/
def writeQualified (acl : AvpContainerList) (qavp : QualifiedAvp) : PanaEncode :=
  match acl.search qavp.avp.avpName with
  | none =>
    if 0 < qavp.min ∧ 0 < qavp.max then .throws (.bug ParseError.missingContainer) else .done
  | some c =>
    if qavp.max = 0 then .throws (.bug ParseError.prohibitedContainer)
    else if c.entries.length < qavp.min then .throws (.bug ParseError.tooLessAvpEntries)
    else if qavp.max < c.entries.length then .throws (.bug ParseError.tooMuchAvpEntries)
    else writeEntries dictionaries writeGroup qavp.avp c.entries

def writeQualifiedAvps (acl : AvpContainerList) : List QualifiedAvp → PanaEncode
  | [] => .done
  | qavp :: qavps =>
    (writeQualified dictionaries writeGroup acl qavp).andThen (writeQualifiedAvps acl qavps)

end

/-- `PANA_PayloadParser::parseAppToRaw`. The stack has room for `depth` nested groups. -/
def writePayload (dictionaries : PanaDictionaries) :
    (depth : Nat) → PanaDictionary → AvpContainerList → PanaEncode
  | 0, _, _ => .throws .crash
  | depth + 1, dict, acl =>
    writeQualifiedAvps dictionaries (writePayload dictionaries depth) acl
      (dict.fixed ++ dict.required ++ dict.optional)

/-! The message -/

structure PanaWireMessage extends PanaMsgHeader where
  length : UInt16 := 0
  avpList : AvpContainerList

/-- The octet of the flags. -/
def PanaFlags.octet (flags : PanaFlags) : UInt8 :=
  (if flags.request then 0x80 else 0) ||| (if flags.start then 0x40 else 0) |||
    (if flags.complete then 0x20 else 0) ||| (if flags.auth then 0x10 else 0) |||
    (if flags.ping then 0x08 else 0) ||| (if flags.ipreconfig then 0x04 else 0)

def messageHeaderOctets (m : PanaWireMessage) : List UInt8 :=
  writeShort 0 ++ writeShort m.length.toNat ++ [m.flags.octet, 0] ++ writeShort m.type.toNat ++
    htonl m.sessionId.toNat ++ htonl m.seq.toNat

section

variable (dictionaries : PanaDictionaries)

/-- `PANA_HeaderParser::parseAppToRaw`, which begins at the base of the buffer, with the dictionary
of the command. -/
def writeMessageHeader (m : PanaWireMessage) (next : PanaCommand → PanaEncode) : PanaEncode :=
  fun buffer =>
    match dictionaries.searchCommand m.type.toNat m.flags.request with
    | none => (.error (.normal ResultCode.commandUnsupported), buffer)
    | some command =>
      next command ({ buffer with wrPtr := 0 }.put (messageHeaderOctets m))

/-- The header once more, with the length of the message. -/
def writeMessageLength (m : PanaWireMessage) : PanaEncode := fun buffer =>
  let m := { m with length := UInt16.ofNat buffer.wrPtr }
  let buffer := { buffer with lengths := (m.length.toNat, buffer.wrPtr) :: buffer.lengths }
  writeMessageHeader dictionaries m (fun _ => .done) buffer

/-- The encoding of a message in `PANA_Channel::Send`. -/
def encodeMessage (depth : Nat) (m : PanaWireMessage) : PanaEncode :=
  writeMessageHeader dictionaries m fun command =>
    (writePayload dictionaries depth command.toPanaDictionary m.avpList).andThen
      (writeMessageLength dictionaries m)

end

end OpenDiameter.Pana
