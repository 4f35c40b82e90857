import OpenDiameter.Parser.PayloadDecoder

namespace OpenDiameter.Parser

open Foundation

/-- The header with which an AVP of the dictionary is written. -/
def DictionaryEntry.header (avp : DictionaryEntry) (length : Nat) : AvpHeader where
  code := avp.avpCode
  flag :=
    { v := avp.flags.vendorSpecific
      m := avp.flags.mandatory
      p := avp.flags.endToEndEncrypt }
  length := length % 16777216
  vendor := avp.vendorId
  value_p := []

/-- Set the write pointer. An address behind the end of the block is where the
writes that follow leave the block. -/
def setWritePointer (buffer : ByteBuffer) (position : Nat) : Except Failure ByteBuffer :=
  if inside : position ≤ buffer.bytes.length then
    .ok { bytes := buffer.bytes, used := position, used_le := inside }
  else
    .error .crash

/-- `DiameterAvpHeaderParser::parseAppToRaw`. The room is tested for the length
that a header of this AVP has. -/
def AvpHeaderParser.parseAppToRaw (avp : DictionaryEntry) (h : AvpHeader)
    (buffer : ByteBuffer) : Except Failure ByteBuffer :=
  if buffer.room < avpHeaderLen avp then
    .error (.bug ParseError.invalidParserUsage)
  else if buffer.room < h.octets.length then
    .error .crash
  else
    .ok (buffer.fill h.octets)

section Encode

variable (context : ParserContext)

section Values

variable (writeGroup : DiameterDictionary → AvpContainerList → ByteBuffer →
  Except Failure ByteBuffer)

/-- A value of the wildcard AVP: a whole AVP, header included. -/
def AvpParser.writeAny (avp : DictionaryEntry) (entry : AvpContainerEntry)
    (buffer : ByteBuffer) : Except Failure ByteBuffer := do
  let buffer ← AvpValueParser.parseAppToRaw context avp entry buffer writeGroup
  let boundary := adjustWordBoundary buffer.used
  if boundary ≤ buffer.capacity then
    setWritePointer buffer boundary
  else
    .error (.normal ResultCode.outOfSpace)

/-- One AVP: a header of length zero, the value, and the header again with the
length, which is a field of 24 bits. -/
def AvpParser.writeAvp (avp : DictionaryEntry) (entry : AvpContainerEntry)
    (buffer : ByteBuffer) : Except Failure ByteBuffer := do
  let saved := buffer.used
  let buffer ← AvpHeaderParser.parseAppToRaw avp (avp.header 0) buffer
  let buffer ← AvpValueParser.parseAppToRaw context avp entry buffer writeGroup
  let h := avp.header (buffer.used - saved)
  let boundary := adjustWordBoundary buffer.used
  let buffer ← setWritePointer buffer (buffer.used - h.length)
  let buffer ← AvpHeaderParser.parseAppToRaw avp h buffer
  setWritePointer buffer boundary

/-- One pass of the loops of `DiameterAvpParser::parseAppToRaw`. -/
def AvpParser.writeEntry (avp : DictionaryEntry) (entry : AvpContainerEntry)
    (buffer : ByteBuffer) : Except Failure ByteBuffer :=
  if avp.avpType = .data then AvpParser.writeAny context writeGroup avp entry buffer
  else AvpParser.writeAvp context writeGroup avp entry buffer

/-- `DiameterAvpParser::parseAppToRaw` -/
def AvpParser.parseAppToRaw (avp : DictionaryEntry) : List AvpContainerEntry → ByteBuffer →
    Except Failure ByteBuffer
  | [], buffer => .ok buffer
  | entry :: entries, buffer => do
      let buffer ← AvpParser.writeEntry context writeGroup avp entry buffer
      parseAppToRaw avp entries buffer

/-- What `parseAppToRawWithDict` does for one AVP of the rule. -/
def writeMember (acl : AvpContainerList) (member : RuleAvp) (buffer : ByteBuffer) :
    Except Failure ByteBuffer :=
  match acl.search member.avp.avpName with
  | none =>
    if 0 < member.min ∧ 0 < member.max ∧ member.parseType ≠ .optional then
      .error (.bug ParseError.missingContainer)
    else
      .ok buffer
  | some c =>
    if member.max = 0 then
      .error (.bug ParseError.prohibitedContainer)
    else if c.entries.length < member.min then
      .error (.bug ParseError.tooLessAvpEntries)
    else if member.max < c.entries.length then
      .error (.bug ParseError.tooMuchAvpEntries)
    else
      AvpParser.parseAppToRaw context writeGroup member.avp c.entries buffer

/-- `parseAppToRawWithDict`, from one AVP of the rule on. -/
def parseAppToRawWithDict (acl : AvpContainerList) : List RuleAvp → ByteBuffer →
    Except Failure ByteBuffer
  | [], buffer => .ok buffer
  | member :: members, buffer => do
      let buffer ← writeMember context writeGroup acl member buffer
      parseAppToRawWithDict acl members buffer

end Values

/-- `QualifiedAvpListParser::parseAppToRaw` with a rule. The stack has room for
`depth` nested calls. -/
def QualifiedAvpListParser.parseAppToRaw : (depth : Nat) → DiameterDictionary →
    AvpContainerList → ByteBuffer → Except Failure ByteBuffer
  | 0, _, _, _ => .error .crash
  | depth + 1, rule, acl, buffer =>
    parseAppToRawWithDict context (parseAppToRaw depth) acl rule.ruleAvps buffer

end Encode

end OpenDiameter.Parser
