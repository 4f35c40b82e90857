import OpenDiameter.Foundation.Bytes
import OpenDiameter.Foundation.Outcome
import OpenDiameter.Parser.Container

namespace OpenDiameter.Parser

open Foundation

/-- How a parser ends without returning: with an exception of type
`DiameterErrorCode`, or with a fault that ends the process (an exception of
another type, a stack overflow, an access outside of the memory). -/
inductive Failure where
  | error (st : DiameterErrorCode)
  | crash
  deriving DecidableEq, Repr

namespace Failure

def normal (code : Nat) : Failure := .error (.setNormal code)

def bug (code : Nat) : Failure := .error (.setBug code)

/-- The test that the callers of the AVP parsers make on a caught exception. -/
def isMissingAvp : Failure → Bool
  | error st => st.type == .normal && st.code == ResultCode.missingAvp
  | crash => false

@[simp] theorem isMissingAvp_crash : crash.isMissingAvp = false := rfl

@[simp] theorem isMissingAvp_bug (code : Nat) : (bug code).isMissingAvp = false := rfl

end Failure

/-- A value with a textual form: the grammar that reads it and the text that is
written for it. -/
structure TextFormat (Value : Type) where
  parse : List UInt8 → Option Value
  text : Value → List UInt8

/-- What the parsers find in the process: the dictionary, the number of nested
calls of `getMinSize` the stack has room for, and the two text formats whose
grammars are built from a parser library. -/
structure ParserContext where
  dictionary : Dictionary
  stack : Nat
  uri : TextFormat DiameterUri
  ipFilterRule : TextFormat IPFilterRule

/-- `adjust_word_boundary`, on 32 bit numbers. -/
def adjustWordBoundary (length : Nat) : Nat :=
  ((length + 4294967295) % 4294967296 / 4 + 1) * 4 % 4294967296

theorem adjustWordBoundary_eq {length : Nat} (small : length ≤ 4294967292) :
    adjustWordBoundary length = (length + 3) / 4 * 4 := by
  unfold adjustWordBoundary
  omega

/-- `DIAMETER_AVP_HEADER_LEN`. -/
def avpHeaderLen (avp : DictionaryEntry) : Nat :=
  if avp.avpCode = 0 then 0 else if avp.flags.vendorSpecific then 12 else 8

structure AvpHeaderFlag where
  v : Bool
  m : Bool
  p : Bool
  deriving DecidableEq, Repr

/-- `DiameterAvpHeader`. -/
structure AvpHeader where
  code : Nat
  flag : AvpHeaderFlag
  length : Nat
  vendor : Nat
  value_p : List UInt8
  deriving DecidableEq, Repr

namespace AvpHeader

/-- The header at an address; `value_p` is the address itself. -/
def read (cavp : List UInt8) : AvpHeader :=
  let flag : AvpHeaderFlag :=
    { v := (cavp.getD 4 0).toNat.testBit 7
      m := (cavp.getD 4 0).toNat.testBit 6
      p := (cavp.getD 4 0).toNat.testBit 5 }
  { code := ntohl cavp
    flag := flag
    length := ntohl (cavp.drop 4) % 16777216
    vendor := if flag.v then ntohl (cavp.drop 8) else 0
    value_p := cavp }

/-- The octet of the flags in front of the 24 bit length. -/
def flagOctet (flag : AvpHeaderFlag) : Nat :=
  (if flag.v then 128 else 0) + (if flag.m then 64 else 0) + (if flag.p then 32 else 0)

/-- The octets that the header parser writes for a header. -/
def octets (h : AvpHeader) : List UInt8 :=
  htonl h.code ++ htonl (flagOctet h.flag * 16777216 + h.length % 16777216) ++
    if h.flag.v then htonl h.vendor else []

theorem length_octets (h : AvpHeader) :
    h.octets.length = if h.flag.v then 12 else 8 := by
  unfold octets
  split <;> simp

end AvpHeader

abbrev AvpHeaderList := List AvpHeader

/-- The loop of `DiameterAvpHeaderList::create` from `cavp` on, with `left`
bytes between `cavp` and the end of the block. Every AVP takes at least one
byte, so `passes = left` is enough. -/
def AvpHeaderList.createFrom : (passes : Nat) → (cavp : List UInt8) → (left : Nat) →
    Except Failure AvpHeaderList
  | 0, _, _ => .ok []
  | passes + 1, cavp, left =>
    if left = 0 then
      .ok []
    else
      let h := AvpHeader.read cavp
      if h.length = 0 ∨ left < h.length then
        .error (.normal ResultCode.invalidMessageLength)
      else
        let taken := adjustWordBoundary h.length
        match createFrom passes (cavp.drop taken) (left - taken) with
        | .error failure => .error failure
        | .ok later => .ok (h :: later)

/-- A block of memory: the bytes from its start on, and its size. -/
structure ValueBlock where
  base : List UInt8
  size : Nat
  deriving DecidableEq, Repr

/-- `DiameterAvpHeaderList::create` on a block whose read pointer is at its start. -/
def AvpHeaderList.create (block : ValueBlock) : Except Failure AvpHeaderList :=
  createFrom block.size block.base block.size

/-- The value of an AVP of that dictionary entry, as a block. The size is
computed with 32 bit numbers. -/
def AvpHeader.value (h : AvpHeader) (avp : DictionaryEntry) : ValueBlock where
  base := h.value_p.drop (avpHeaderLen avp)
  size := (h.length + 4294967296 - avpHeaderLen avp) % 4294967296

/-! Errors that carry an AVP. -/

/-- The minimal size that the type list has for the values of a type. -/
def AvpDataType.minSize : AvpDataType → Nat
  | .integer32 | .uinteger32 | .enum | .time => 4
  | .integer64 | .uinteger64 => 8
  | _ => 0

/-- `DiameterQualifiedAvpList::getMinSize`, with `getMinSize` of one AVP given. -/
def qualifiedMinSize (measure : DictionaryEntry → Except Failure Nat)
    (members : List QualifiedAvp) : Except Failure Nat :=
  members.foldlM
    (fun sum member => do
      let size ← measure member.avp
      return (sum + size * member.min) % 4294967296) 0

/-- The part of `getMinSize` for grouped AVPs. The sum over the fixed members is
overwritten by the sum over the required ones. -/
def groupedMinSize (dictionary : Dictionary) (measure : DictionaryEntry → Except Failure Nat)
    (avp : DictionaryEntry) : Except Failure Nat :=
  if avp.avpType = .grouped then
    match dictionary.searchGrouped avp.avpCode avp.vendorId with
    | none => .error (.bug ParseError.missingAvpDictionaryEntry)
    | some gavp => do
        let _ ← qualifiedMinSize measure gavp.avpF
        qualifiedMinSize measure gavp.avpR
  else
    .ok 0

/-- `getMinSize` of an AVP. -/
def getMinSize (dictionary : Dictionary) : (stack : Nat) → DictionaryEntry →
    Except Failure Nat
  | 0, _ => .error .crash
  | stack + 1, avp => do
      let sum ← groupedMinSize dictionary (getMinSize dictionary stack) avp
      return (sum + avp.avpType.minSize + 8 + if avp.vendorId = 0 then 0 else 4) %
        4294967296

/-- The octets of the AVP that `DiameterErrorCode::set` makes for a dictionary entry. The
header is a new one that has its length set, a field of 24 bits, and so has the block. -/
def DiameterErrorCode.failedAvp (avp : DictionaryEntry) (minSize : Nat) :
    Except Failure (List UInt8) :=
  let avpSize := minSize % 16777216
  if avpSize + 4 < avpHeaderLen avp then
    .error (.bug ParseError.invalidParserUsage)
  else
    let h : AvpHeader :=
      { code := 0, flag := ⟨false, false, false⟩, length := avpSize, vendor := 0, value_p := [] }
    if avpSize + 4 < h.octets.length then
      .error .crash
    else
      .ok ((h.octets ++ List.replicate (avpSize + 4 - h.octets.length) 0).take avpSize)

/-- `DiameterErrorCode::set` with a dictionary entry, and the throw of the
error. The error carries a zeroed AVP of the minimal size; building it can fail
itself. -/
def Failure.throwWith (context : ParserContext) (type : ParseErrorType)
    (code : Nat) (avp : DictionaryEntry) : Failure :=
  match getMinSize context.dictionary context.stack avp with
  | .error failure => failure
  | .ok minSize =>
    match DiameterErrorCode.failedAvp avp minSize with
    | .error failure => failure
    | .ok octets => .error { type := type, code := code, avp := octets }

/-- Measuring an AVP never reports a missing AVP. -/
theorem getMinSize_fails (dictionary : Dictionary) (stack : Nat) (avp : DictionaryEntry) :
    FailsOnly (fun failure => failure.isMissingAvp = false)
      (getMinSize dictionary stack avp) := by
  induction stack generalizing avp with
  | zero => exact FailsOnly.error rfl
  | succ stack induction =>
    have members (list : List QualifiedAvp) :
        FailsOnly (fun failure => failure.isMissingAvp = false)
          (qualifiedMinSize (getMinSize dictionary stack) list) := by
      apply FailsOnly.foldlM
      intro sum member
      exact FailsOnly.bind (induction member.avp) fun size _ => FailsOnly.ok _
    apply FailsOnly.bind
    · unfold groupedMinSize
      split
      · split
        · exact FailsOnly.error rfl
        · exact FailsOnly.bind (members _) fun _ _ => members _
      · exact FailsOnly.ok 0
    · intro sum _
      exact FailsOnly.ok _

/-- An error that carries an AVP is a missing AVP only when it was set as one. -/
theorem throwWith_isMissingAvp {context : ParserContext} {code : Nat} {avp : DictionaryEntry}
    (other : code ≠ ResultCode.missingAvp) (type : ParseErrorType) :
    (Failure.throwWith context type code avp).isMissingAvp = false := by
  unfold Failure.throwWith
  cases measured : getMinSize context.dictionary context.stack avp with
  | error failure => exact getMinSize_fails _ _ _ failure measured
  | ok minSize =>
    dsimp only
    cases built : DiameterErrorCode.failedAvp avp minSize with
    | error failure =>
      rw [DiameterErrorCode.failedAvp] at built
      dsimp only at built
      split at built
      · cases built
        rfl
      · split at built
        · cases built
          rfl
        · cases built
    | ok octets => simp [Failure.isMissingAvp, other]

end OpenDiameter.Parser
