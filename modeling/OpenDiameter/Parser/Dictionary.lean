namespace OpenDiameter.Parser

/-! Error codes thrown by the parsers. -/

inductive ParseErrorType where
  | normal
  | bug
  deriving DecidableEq, Repr

/-- `DiameterErrorCode`: the octets of the offending AVP are empty unless the
error was set with a dictionary entry. -/
structure DiameterErrorCode where
  type : ParseErrorType
  code : Nat
  avp : List UInt8 := []
  deriving DecidableEq, Repr

namespace ResultCode

def commandUnsupported : Nat := 3001
def invalidAvpBits : Nat := 3009
def outOfSpace : Nat := 4002
def avpUnsupported : Nat := 5001
def invalidAvpValue : Nat := 5004
def missingAvp : Nat := 5005
def avpOccursTooManyTimes : Nat := 5009
def invalidBitInHeader : Nat := 5013
def invalidMessageLength : Nat := 5015

end ResultCode

namespace ParseError

def missingContainer : Nat := 1
def tooMuchAvpEntries : Nat := 2
def tooLessAvpEntries : Nat := 3
def prohibitedContainer : Nat := 4
def invalidContainerParam : Nat := 5
def invalidContainerContents : Nat := 6
def unsupportedFunctionality : Nat := 7
def invalidParserUsage : Nat := 8
def missingAvpDictionaryEntry : Nat := 9
def missingAvpValueParser : Nat := 10

end ParseError

/-- An error of the Diameter specification. -/
def DiameterErrorCode.setNormal (code : Nat) : DiameterErrorCode :=
  { type := .normal, code := code }

/-- An error of the caller of the parser. -/
def DiameterErrorCode.setBug (code : Nat) : DiameterErrorCode :=
  { type := .bug, code := code }

/-! The dictionary as the XML loader leaves it. -/

inductive AvpDataType where
  | data
  | string
  | address
  | integer32
  | integer64
  | uinteger32
  | uinteger64
  | utf8String
  | enum
  | diamId
  | diamUri
  | grouped
  | time
  | ipFilterRule
  deriving DecidableEq, Repr

structure AvpFlags where
  mandatory : Bool
  vendorSpecific : Bool
  endToEndEncrypt : Bool
  deriving DecidableEq, Repr

structure DictionaryEntry where
  avpName : String
  avpCode : Nat
  avpType : AvpDataType
  vendorId : Nat
  flags : AvpFlags
  deriving DecidableEq, Repr

/-- A dictionary entry with its `(min, max)` qualifier. -/
structure QualifiedAvp where
  avp : DictionaryEntry
  min : Nat
  max : Nat
  deriving DecidableEq, Repr

inductive AvpParseType where
  | fixedHead
  | required
  | optional
  deriving DecidableEq, Repr

/-- The rule of a command or of a grouped AVP: its fixed, required and optional
AVPs. -/
structure DiameterDictionary where
  code : Nat
  appId : Nat
  vendorId : Nat
  avpF : List QualifiedAvp
  avpR : List QualifiedAvp
  avpO : List QualifiedAvp
  deriving DecidableEq, Repr

structure CommandFlags where
  r : Bool
  p : Bool
  e : Bool
  deriving DecidableEq, Repr

structure DiameterCommand extends DiameterDictionary where
  name : String
  flags : CommandFlags
  deriving DecidableEq, Repr

/-- The contents of `DiameterCommandList` and `DiameterGroupedAvpList`. -/
structure Dictionary where
  commandList : List DiameterCommand
  groupedAvpList : List DiameterDictionary

namespace Dictionary

/-- `DiameterCommandList::search` by code, application and request flag. -/
def searchCommand (dictionary : Dictionary) (code appId : Nat) (request : Bool) :
    Option DiameterCommand :=
  dictionary.commandList.find? fun command =>
    command.code == code && command.appId == appId && command.flags.r == request

/-- `DiameterCommandList::search` by name. -/
def searchCommandName (dictionary : Dictionary) (name : String) :
    Option DiameterCommand :=
  dictionary.commandList.find? fun command => command.name == name

/-- `DiameterGroupedAvpList::search`. -/
def searchGrouped (dictionary : Dictionary) (code vendorId : Nat) :
    Option DiameterDictionary :=
  dictionary.groupedAvpList.find? fun group =>
    group.code == code && group.vendorId == vendorId

end Dictionary

end OpenDiameter.Parser
