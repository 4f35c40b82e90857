import OpenDiameter.Parser.AvpValue

namespace OpenDiameter.Parser

open Foundation

/-- `checkFlags`: the M and V flags are those of the dictionary, the P flag is
set only where the dictionary allows it. -/
def checkFlags (flag : AvpHeaderFlag) (flags : AvpFlags) : Bool :=
  flag.m == flags.mandatory && flag.v == flags.vendorSpecific &&
    (!flag.p || flags.endToEndEncrypt)

/-- The comparison that `DiameterAvpHeaderParser` makes for AVPs that are not
fixed. The wildcard AVP agrees with every header. -/
def AvpHeader.agrees (h : AvpHeader) (avp : DictionaryEntry) : Bool :=
  avp.avpCode == 0 ||
    (h.flag.v == avp.flags.vendorSpecific && h.vendor == avp.vendorId && h.code == avp.avpCode)

/-- An AVP of a rule with the list it stands in. -/
structure RuleAvp extends QualifiedAvp where
  parseType : AvpParseType
  deriving DecidableEq, Repr

/-- The AVPs of a rule in the order in which the parsers visit them. -/
def DiameterDictionary.ruleAvps (rule : DiameterDictionary) : List RuleAvp :=
  rule.avpF.map (fun qavp => ⟨qavp, .fixedHead⟩) ++
    rule.avpR.map (fun qavp => ⟨qavp, .required⟩) ++
    rule.avpO.map (fun qavp => ⟨qavp, .optional⟩)

section Decode

variable (context : ParserContext)

/-- `DiameterAvpHeaderParser::parseRawToApp`: the header it takes from the list
or the error it throws, and what is left of the list. The header keeps the
address of its first byte; `AvpHeader.value` steps over the header. -/
def AvpHeaderParser.parseRawToApp (member : RuleAvp) (ahl : AvpHeaderList) :
    Except Failure AvpHeader × AvpHeaderList :=
  let avp := member.avp
  let missing := Failure.throwWith context .normal ResultCode.missingAvp avp
  match ahl with
  | [] => (.error missing, ahl)
  | first :: others =>
    if member.parseType = .fixedHead then
      if avp.avpCode = 0 then
        (.error (.bug ParseError.invalidContainerParam), ahl)
      else if first.code = avp.avpCode then
        (.ok first, others)
      else
        (.error missing, ahl)
    else
      match ahl.find? (·.agrees avp) with
      | none => (.error missing, ahl)
      | some h =>
        let ahl := ahl.eraseP (·.agrees avp)
        if 0 < avp.avpCode ∧ checkFlags h.flag avp.flags = false then
          (.error (.throwWith context .normal ResultCode.invalidAvpBits avp), ahl)
        else
          (.ok h, ahl)

section Values

variable (parseGroup : DiameterDictionary → ValueBlock → Except Failure AvpContainerList)

/-- The loop of `DiameterAvpParser::parseRawToApp`; `found` tells whether it has
passed before. Every pass takes a header, so one pass more than there are
headers is enough. -/
def AvpParser.parseRawToApp (member : RuleAvp) : (passes : Nat) → (found : Bool) →
    AvpHeaderList → Except Failure (List AvpContainerEntry) × AvpHeaderList
  | 0, _, ahl => (.error .crash, ahl)
  | passes + 1, found, ahl =>
    match AvpHeaderParser.parseRawToApp context member ahl with
    | (.error st, ahl) =>
      if found && st.isMissingAvp then (.ok [], ahl) else (.error st, ahl)
    | (.ok h, ahl) =>
      match AvpValueParser.parseRawToApp context member.avp (h.value member.avp)
          parseGroup with
      | .error st => (.error st, ahl)
      | .ok entry =>
        match parseRawToApp member passes true ahl with
        | (.error st, ahl) => (.error st, ahl)
        | (.ok entries, ahl) => (.ok (entry :: entries), ahl)

/-- An AVP whose absence is no error. -/
def RuleAvp.skippable (member : RuleAvp) : Bool :=
  member.parseType == .optional || member.min == 0

/-- `parseRawToAppWithDict`, from one AVP of the rule on. The container list
gets one container for each AVP that was found. -/
def parseRawToAppWithDict : List RuleAvp → AvpHeaderList → Except Failure AvpContainerList
  | [], _ => .ok []
  | member :: members, ahl =>
    match AvpParser.parseRawToApp context parseGroup member (ahl.length + 1) false ahl with
    | (.error st, ahl) =>
      if st.isMissingAvp && member.skippable then
        parseRawToAppWithDict members ahl
      else
        .error st
    | (.ok entries, ahl) =>
      if entries.length < member.min then
        .error (.throwWith context .normal ResultCode.missingAvp member.avp)
      else if member.max < entries.length then
        .error (.throwWith context .normal ResultCode.avpOccursTooManyTimes member.avp)
      else
        match parseRawToAppWithDict members ahl with
        | .error st => .error st
        | .ok acl => .ok ({ avpName := member.avp.avpName, entries := entries } :: acl)

end Values

/-- `QualifiedAvpListParser::parseRawToApp` with a rule, for the payload of a
message and for the value of a grouped AVP. The stack has room for `depth`
nested calls. -/
def QualifiedAvpListParser.parseRawToApp : (depth : Nat) → DiameterDictionary →
    ValueBlock → Except Failure AvpContainerList
  | 0, _, _ => .error .crash
  | depth + 1, rule, block =>
    match AvpHeaderList.create block with
    | .error st => .error st
    | .ok ahl => parseRawToAppWithDict context (parseRawToApp depth) rule.ruleAvps ahl

end Decode

end OpenDiameter.Parser
