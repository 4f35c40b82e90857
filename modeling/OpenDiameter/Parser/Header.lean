import OpenDiameter.Foundation.Bytes
import OpenDiameter.Parser.Container

namespace OpenDiameter.Parser

open Foundation

structure HeaderFlags where
  r : Bool
  p : Bool
  e : Bool
  t : Bool
  deriving DecidableEq, Repr

/-- `DiameterMsgHeader`. The dictionary handle is the command that the header
was parsed as, if any. -/
structure DiameterMsgHeader where
  ver : Nat
  length : Nat
  flags : HeaderFlags
  code : Nat
  appId : Nat
  hh : Nat
  ee : Nat
  dictHandle : Option DiameterCommand
  deriving DecidableEq, Repr

/-- A header whose memory has been cleared. -/
def DiameterMsgHeader.zero : DiameterMsgHeader where
  ver := 0
  length := 0
  flags := ⟨false, false, false, false⟩
  code := 0
  appId := 0
  hh := 0
  ee := 0
  dictHandle := none

structure DiameterMsg where
  hdr : DiameterMsgHeader
  acl : AvpContainerList

def diameterHeaderSize : Nat := 20

inductive DiameterParseOption where
  | strict
  | loose
  deriving DecidableEq, Repr

/-- The fields of the first 20 bytes; no command is looked up yet. -/
def DiameterMsgHeader.read (p : List UInt8) : DiameterMsgHeader where
  ver := (p.getD 0 0).toNat
  length := ntohl p % 16777216
  flags :=
    { r := (p.getD 4 0).toNat.testBit 7
      p := (p.getD 4 0).toNat.testBit 6
      e := (p.getD 4 0).toNat.testBit 5
      t := (p.getD 4 0).toNat.testBit 4 }
  code := ntohl (p.drop 4) % 16777216
  appId := ntohl (p.drop 8)
  hh := ntohl (p.drop 12)
  ee := ntohl (p.drop 16)
  dictHandle := none

/-- `DiameterMsgHeaderParser::parseRawToApp`: the header with the fields that
were written before the parser returned or threw, and what it threw. -/
def parseHeaderRawToApp (dictionary : Dictionary) (opt : DiameterParseOption)
    (p : List UInt8) : DiameterMsgHeader × Option DiameterErrorCode :=
  let h := DiameterMsgHeader.read p
  if opt = .loose then
    (h, none)
  else
    match dictionary.searchCommand h.code h.appId h.flags.r with
    | none => (h, some (.setNormal ResultCode.commandUnsupported))
    | some com =>
      if com.flags.r && h.flags.e then
        (h, some (.setNormal ResultCode.invalidBitInHeader))
      else if !com.flags.p && h.flags.p then
        (h, some (.setNormal ResultCode.invalidBitInHeader))
      else if !com.flags.r && h.flags.e then
        let name :=
          if h.flags.p then "PROXYABLE-ERROR-Answer" else "NON-PROXYABLE-ERROR-Answer"
        match dictionary.searchCommandName name with
        | none => (h, some (.setNormal ResultCode.commandUnsupported))
        | some errorAnswer => ({ h with dictHandle := some errorAnswer }, none)
      else
        ({ h with dictHandle := some com }, none)

/-!
Every error of the header parser is one that the specification defines, and the
header it leaves behind has no dictionary handle.
-/

variable {p : List UInt8}

theorem parseHeaderRawToApp_error {dictionary : Dictionary} {opt : DiameterParseOption}
    {h : DiameterMsgHeader} {st : DiameterErrorCode}
    (parsed : parseHeaderRawToApp dictionary opt p = (h, some st)) :
    h = DiameterMsgHeader.read p ∧ st.type = .normal ∧
      (st.code = ResultCode.commandUnsupported ∨
        st.code = ResultCode.invalidBitInHeader) := by
  unfold parseHeaderRawToApp at parsed
  dsimp only at parsed
  split at parsed
  · simp at parsed
  · split at parsed
    · simp only [Prod.mk.injEq, Option.some.injEq] at parsed
      rcases parsed with ⟨rfl, rfl⟩
      exact ⟨rfl, rfl, .inl rfl⟩
    · split at parsed
      · simp only [Prod.mk.injEq, Option.some.injEq] at parsed
        rcases parsed with ⟨rfl, rfl⟩
        exact ⟨rfl, rfl, .inr rfl⟩
      · split at parsed
        · simp only [Prod.mk.injEq, Option.some.injEq] at parsed
          rcases parsed with ⟨rfl, rfl⟩
          exact ⟨rfl, rfl, .inr rfl⟩
        · split at parsed
          · split at parsed
            · simp only [Prod.mk.injEq, Option.some.injEq] at parsed
              rcases parsed with ⟨rfl, rfl⟩
              exact ⟨rfl, rfl, .inl rfl⟩
            · simp at parsed
          · simp at parsed

/-- A header that parses strictly carries its command. -/
theorem parseHeaderRawToApp_strict {dictionary : Dictionary} {h : DiameterMsgHeader}
    (parsed : parseHeaderRawToApp dictionary .strict p = (h, none)) :
    ∃ com, h = { DiameterMsgHeader.read p with dictHandle := some com } := by
  unfold parseHeaderRawToApp at parsed
  simp only [reduceCtorEq, if_false] at parsed
  split at parsed
  · simp at parsed
  · split at parsed
    · simp at parsed
    · split at parsed
      · simp at parsed
      · split at parsed
        · split at parsed
          · simp at parsed
          · simp only [Prod.mk.injEq, and_true] at parsed
            exact ⟨_, parsed.symm⟩
        · simp only [Prod.mk.injEq, and_true] at parsed
          exact ⟨_, parsed.symm⟩

/-- Whatever the parser does, the plain fields are those of the first 20 bytes. -/
theorem parseHeaderRawToApp_length (dictionary : Dictionary) (opt : DiameterParseOption)
    (p : List UInt8) :
    (parseHeaderRawToApp dictionary opt p).1.length = (DiameterMsgHeader.read p).length := by
  unfold parseHeaderRawToApp
  dsimp only
  split
  · rfl
  · split
    · rfl
    · split
      · rfl
      · split
        · rfl
        · split
          · split <;> rfl
          · rfl

theorem DiameterMsgHeader.read_append (long : diameterHeaderSize ≤ p.length) (rest : List UInt8) :
    DiameterMsgHeader.read (p ++ rest) = DiameterMsgHeader.read p := by
  unfold diameterHeaderSize at long
  have drop : ∀ count, count ≤ 16 → ntohl ((p ++ rest).drop count) = ntohl (p.drop count) := by
    intro count bound
    rw [List.drop_append_of_le_length (by omega)]
    exact ntohl_append (by rw [List.length_drop]; omega) rest
  simp only [DiameterMsgHeader.read]
  rw [ntohl_append (by omega), drop 4 (by omega), drop 8 (by omega), drop 12 (by omega),
    drop 16 (by omega), getD_append_left (by omega), getD_append_left (by omega)]

/-- The parser reads no more than the first 20 bytes. -/
theorem parseHeaderRawToApp_append (dictionary : Dictionary) (opt : DiameterParseOption)
    (long : diameterHeaderSize ≤ p.length) (rest : List UInt8) :
    parseHeaderRawToApp dictionary opt (p ++ rest) =
      parseHeaderRawToApp dictionary opt p := by
  simp only [parseHeaderRawToApp, DiameterMsgHeader.read_append long]

end OpenDiameter.Parser
