import OpenDiameter.Parser.AvpHeader

namespace OpenDiameter.Parser

open Foundation

/-!
The parsers of AVP values. `parseRawToApp` reads the value of an AVP from a
block of memory, `parseAppToRaw` writes a container entry at the write pointer
of a message block, which a byte buffer models.
-/

/-- The loop of `UTF8Checker` (no null check), as a scan of the octets with the
number of continuation octets still to come. The expression `b && 0x40` does not
change from one round of its loop to the next, so five is the only count. -/
def UTF8Checker.check : (count : Nat) → List UInt8 → Bool
  | 0, [] => true
  | _ + 1, [] => false
  | 0, b :: data =>
    if b ≠ 0 ∧ b >>> 7 = 0 then
      check 0 data
    else if b >>> 1 = 0x76 then
      false
    else if b <<< 1 = 0 then
      false
    else
      check 5 data
  | count + 1, b :: data =>
    -- The octet is a signed character here.
    if b.toInt8.toInt / 64 = 2 then check count data else false

/-! `DiamidentGrammar`, over octets. The scanner skips white space. -/

namespace DiamidentGrammar

def isSpace (octet : UInt8) : Bool := octet == 32 || (9 ≤ octet && octet ≤ 13)

def isAlpha (octet : UInt8) : Bool :=
  (65 ≤ octet && octet ≤ 90) || (97 ≤ octet && octet ≤ 122)

def isDigit (octet : UInt8) : Bool := 48 ≤ octet && octet ≤ 57

def inName (octet : UInt8) : Bool := isAlpha octet || isDigit octet || octet == 45

/-- `diameterName | diameterDname` -/
def label : List UInt8 → Bool
  | [] => false
  | first :: rest =>
    (isAlpha first && rest.all inName) ||
      (isDigit first && !rest.isEmpty && rest.all inName)

/-- The labels between the dots. -/
def labels : List UInt8 → List (List UInt8)
  | [] => [[]]
  | octet :: rest =>
    if octet = 46 then
      [] :: labels rest
    else
      match labels rest with
      | [] => [[octet]]
      | first :: others => (octet :: first) :: others

/-- A full match of `diameterIdentity`. -/
def full (str : List UInt8) : Bool :=
  (labels (str.filter fun octet => !isSpace octet)).all label

end DiamidentGrammar

/-! From raw to application form. -/

/-- `assign(base, size)`: a copy of more than the memory holds is a fault. -/
def ValueBlock.assign (block : ValueBlock) : Except Failure (List UInt8) :=
  if block.base.length < block.size then .error .crash else .ok (block.base.take block.size)

section Decode

variable (context : ParserContext) (avp : DictionaryEntry) (block : ValueBlock)

/-- `AnyParser` and `OctetstringParser` read the same way. -/
def OctetstringParser.parseRawToApp : Except Failure (List UInt8) := block.assign

def Integer32Parser.parseRawToApp : Except Failure AvpValue :=
  .ok (.integer32 (UInt32.ofNat (ntohl block.base)))

def Integer64Parser.parseRawToApp : Except Failure AvpValue :=
  .ok (.integer64 (UInt64.ofNat
    (ntohl block.base * 4294967296 + ntohl (block.base.drop 4))))

def Utf8stringParser.parseRawToApp : Except Failure (List UInt8) := do
  let str ← OctetstringParser.parseRawToApp block
  if UTF8Checker.check 0 str then
    .ok str
  else
    .error (.throwWith context .normal ResultCode.invalidAvpValue avp)

/-- A textual value: UTF-8, then the grammar of its type. -/
def parseText {Value : Type} (grammar : List UInt8 → Option Value) : Except Failure Value := do
  let str ← Utf8stringParser.parseRawToApp context avp block
  match grammar str with
  | some value => .ok value
  | none => .error (.throwWith context .normal ResultCode.invalidAvpValue avp)

def DiamidentParser.parseRawToApp : Except Failure (List UInt8) :=
  parseText context avp block fun str =>
    if DiamidentGrammar.full str then some str else none

def DiamuriParser.parseRawToApp : Except Failure DiameterUri :=
  parseText context avp block context.uri.parse

def IPFilterRuleParser.parseRawToApp : Except Failure IPFilterRule :=
  parseText context avp block context.ipFilterRule.parse

/-- The address type is the first two octets; `assign(str, 2, _)` throws
`std::out_of_range` when they are not there. -/
def AddressParser.parseRawToApp : Except Failure AvpValue := do
  let str ← OctetstringParser.parseRawToApp block
  if str.length < 2 then
    .error .crash
  else
    .ok (.address (UInt16.ofNat ((str.getD 0 0).toNat * 256 + (str.getD 1 0).toNat))
      (str.drop 2))

def GroupedParser.parseRawToApp
    (parseGroup : DiameterDictionary → ValueBlock → Except Failure AvpContainerList) :
    Except Failure AvpContainerList :=
  match context.dictionary.searchGrouped avp.avpCode avp.vendorId with
  | none => .error (.throwWith context .normal ResultCode.avpUnsupported avp)
  | some gavp => parseGroup gavp block

/-- The parser that the type list has for the type of the AVP. -/
def AvpValueParser.parseData
    (parseGroup : DiameterDictionary → ValueBlock → Except Failure AvpContainerList) :
    Except Failure AvpValue :=
  match avp.avpType with
  | .data | .string => (OctetstringParser.parseRawToApp block).map .octets
  | .integer32 | .uinteger32 | .enum | .time => Integer32Parser.parseRawToApp block
  | .integer64 | .uinteger64 => Integer64Parser.parseRawToApp block
  | .utf8String => (Utf8stringParser.parseRawToApp context avp block).map .octets
  | .diamId => (DiamidentParser.parseRawToApp context avp block).map .octets
  | .address => AddressParser.parseRawToApp block
  | .diamUri => (DiamuriParser.parseRawToApp context avp block).map .uri
  | .ipFilterRule => (IPFilterRuleParser.parseRawToApp context avp block).map .ipFilterRule
  | .grouped => (GroupedParser.parseRawToApp context avp block parseGroup).map .grouped

/-- The value parser at work on a new entry, which has the type of the AVP. -/
def AvpValueParser.parseRawToApp
    (parseGroup : DiameterDictionary → ValueBlock → Except Failure AvpContainerList) :
    Except Failure AvpContainerEntry :=
  (AvpValueParser.parseData context avp block parseGroup).map
    fun data => { dataType := avp.avpType, data := data }

end Decode

/-! From application to raw form. -/

/-- The test of the entry's type. -/
def AvpContainerEntry.expect (entry : AvpContainerEntry) (types : List AvpDataType) :
    Except Failure Unit :=
  if entry.dataType ∈ types then .ok () else .error (.bug ParseError.prohibitedContainer)

/-- The test for room and the copy that follows it. -/
def copyOut (buffer : ByteBuffer) (data : List UInt8) : Except Failure ByteBuffer :=
  if buffer.room < data.length then
    .error (.normal ResultCode.outOfSpace)
  else
    .ok (buffer.fill data)

/-- The 64 bit number, most significant byte first. -/
def hton64 (value : UInt64) : List UInt8 :=
  htonl (value.toNat / 4294967296) ++ htonl value.toNat

section Encode

variable (context : ParserContext) (avp : DictionaryEntry) (entry : AvpContainerEntry)
  (buffer : ByteBuffer)

/-- Reading the entry as a value of another type than it was made for is a fault. -/
def OctetstringParser.parseAppToRaw (types : List AvpDataType) : Except Failure ByteBuffer := do
  entry.expect types
  match entry.data with
  | .octets str => copyOut buffer str
  | _ => .error .crash

def Integer32Parser.parseAppToRaw : Except Failure ByteBuffer := do
  entry.expect [.integer32, .uinteger32, .enum, .time]
  match entry.data with
  | .integer32 value => copyOut buffer (htonl value.toNat)
  | _ => .error .crash

def Integer64Parser.parseAppToRaw : Except Failure ByteBuffer := do
  entry.expect [.integer64, .uinteger64]
  match entry.data with
  | .integer64 value => copyOut buffer (hton64 value)
  | _ => .error .crash

/-- The octets of a UTF-8 string, once the type of the entry has been tested. -/
def Utf8stringParser.write (str : List UInt8) : Except Failure ByteBuffer :=
  if UTF8Checker.check 0 str then
    copyOut buffer str
  else
    .error (.bug ParseError.invalidContainerContents)

def Utf8stringParser.parseAppToRaw : Except Failure ByteBuffer := do
  entry.expect [.utf8String]
  match entry.data with
  | .octets str => Utf8stringParser.write buffer str
  | _ => .error .crash

/-- A textual value: the grammar is tried on the text before it is written. -/
def writeText {Value : Type} (grammar : List UInt8 → Option Value) (str : List UInt8) :
    Except Failure ByteBuffer :=
  match grammar str with
  | some _ => Utf8stringParser.write buffer str
  | none => .error (.throwWith context .normal ResultCode.invalidAvpValue avp)

def DiamidentParser.parseAppToRaw : Except Failure ByteBuffer := do
  entry.expect [.diamId]
  match entry.data with
  | .octets str =>
    writeText context avp buffer
      (fun str => if DiamidentGrammar.full str then some str else none) str
  | _ => .error .crash

/-- The text of a URI is written as it is. -/
def DiamuriParser.parseAppToRaw : Except Failure ByteBuffer := do
  entry.expect [.diamUri]
  match entry.data with
  | .uri value => Utf8stringParser.write buffer (context.uri.text value)
  | _ => .error .crash

def IPFilterRuleParser.parseAppToRaw : Except Failure ByteBuffer := do
  entry.expect [.ipFilterRule]
  match entry.data with
  | .ipFilterRule value =>
    writeText context avp buffer context.ipFilterRule.parse (context.ipFilterRule.text value)
  | _ => .error .crash

def AddressParser.parseAppToRaw : Except Failure ByteBuffer := do
  entry.expect [.address]
  match entry.data with
  | .address type value =>
    copyOut buffer (UInt8.ofNat (type.toNat / 256) :: UInt8.ofNat type.toNat :: value)
  | _ => .error .crash

def GroupedParser.parseAppToRaw
    (writeGroup : DiameterDictionary → AvpContainerList → ByteBuffer →
      Except Failure ByteBuffer) : Except Failure ByteBuffer := do
  entry.expect [.grouped]
  match entry.data with
  | .grouped acl =>
    match context.dictionary.searchGrouped avp.avpCode avp.vendorId with
    | none => .error (.throwWith context .normal ResultCode.avpUnsupported avp)
    | some gavp => writeGroup gavp acl buffer
  | _ => .error .crash

/-- The parser that the type list has for the type of the AVP. -/
def AvpValueParser.parseAppToRaw
    (writeGroup : DiameterDictionary → AvpContainerList → ByteBuffer →
      Except Failure ByteBuffer) : Except Failure ByteBuffer :=
  match avp.avpType with
  | .data => OctetstringParser.parseAppToRaw entry buffer [.data]
  | .string => OctetstringParser.parseAppToRaw entry buffer [.string]
  | .integer32 | .uinteger32 | .enum | .time => Integer32Parser.parseAppToRaw entry buffer
  | .integer64 | .uinteger64 => Integer64Parser.parseAppToRaw entry buffer
  | .utf8String => Utf8stringParser.parseAppToRaw entry buffer
  | .diamId => DiamidentParser.parseAppToRaw context avp entry buffer
  | .address => AddressParser.parseAppToRaw entry buffer
  | .diamUri => DiamuriParser.parseAppToRaw context entry buffer
  | .ipFilterRule => IPFilterRuleParser.parseAppToRaw context avp entry buffer
  | .grouped => GroupedParser.parseAppToRaw context avp entry buffer writeGroup

end Encode

end OpenDiameter.Parser
