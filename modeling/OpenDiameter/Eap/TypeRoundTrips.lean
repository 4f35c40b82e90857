import OpenDiameter.Eap.Types
import OpenDiameter.Foundation.Loop

/-!
Whether the types that `eap_parser.hxx` writes, in a type field and in a Nak, are read back.
-/

namespace OpenDiameter.Eap

open OpenDiameter.Foundation

/-- Where a reader of a Nak is: the octets at its read pointer, its iterator of the list, and the
list. The end of the buffer is an address. -/
structure NakReading where
  octets : EapOctets
  bufferEnd : Nat
  notNull : bufferEnd ≠ 0
  index : Nat := 0
  types : EapTypeList := []

namespace NakReading

/-- A type of one octet is read. -/
def readLegacy (reading : NakReading) : NakReading :=
  { reading with
    octets := reading.octets.drop 1
    index := reading.index + 1
    types := reading.types ++ [⟨reading.octets.getD 0 0, 0, 0⟩] }

/-- A vendor specific type is read, and kept unless it is the one of an extended Nak. -/
def readVendor (reading : NakReading) : NakReading :=
  let vendorType := ntohs (signExtend (reading.octets.getD 4 0))
  { reading with
    octets := reading.octets.drop 4
    types :=
      if vendorType ≠ 3 then reading.types ++ [.vendor (ntohs 1) vendorType] else reading.types }

end NakReading

namespace EapNakParser

/-- A round of `EapNakParser::parseRawToApp`. The loop of a legacy Nak goes through the list that it
appends to, that of an extended one on as long as `end` is a null pointer. -/
def readRound (dict : EapNakDict) : Loop NakReading Empty EapTypeList := fun reading =>
  match dict with
  | .legacyNak =>
    if reading.index < reading.types.length then .again [] reading.readLegacy
    else .leave [] reading.types
  | .extendedNak =>
    if reading.bufferEnd = 0 then
      .again [] (if reading.octets.getD 0 0 = 254 then reading.readVendor else reading.readLegacy)
    else .leave [] reading.types

/-- A Nak that is fresh, as the machines take one for each message. -/
def startReading (msg : EapOctets) (bufferEnd : Nat) (notNull : bufferEnd ≠ 0) : NakReading where
  octets := typeData msg
  bufferEnd := bufferEnd
  notNull := notNull

/-- Neither loop does a round. -/
theorem readRound_start (dict : EapNakDict) (msg : EapOctets) (bufferEnd : Nat)
    (notNull : bufferEnd ≠ 0) :
    readRound dict (startReading msg bufferEnd notNull) = .leave [] [] := by
  cases dict with
  | legacyNak => rfl
  | extendedNak => exact if_neg notNull

/-- What the loop of a legacy Nak leaves is what the machines are told. -/
theorem run_legacyNak (msg : EapOctets) (bufferEnd : Nat) (notNull : bufferEnd ≠ 0)
    (rounds : Nat) :
    Loop.run (readRound .legacyNak) (rounds + 1) (startReading msg bufferEnd notNull) =
      some ([], parseRawToApp msg [] rounds) := by
  rw [parseRawToApp_nil]
  rfl

theorem runs_start_iff (dict : EapNakDict) (msg : EapOctets) (bufferEnd : Nat)
    (notNull : bufferEnd ≠ 0) (types : EapTypeList) :
    Loop.Runs (readRound dict) (startReading msg bufferEnd notNull) [] types ↔ types = [] := by
  have leaves : Loop.Runs (readRound dict) (startReading msg bufferEnd notNull) [] [] :=
    .leave (readRound_start dict msg bufferEnd notNull)
  constructor
  · exact fun runs => (runs.deterministic leaves).2
  · rintro rfl
    exact leaves

end EapNakParser

/-- A type field that is written and read, a Nak that is written and read, or one that is read. -/
inductive TypeExchange where
  | typeField (type : EapType) (data : EapOctets)
  | nak (dict : EapNakDict) (types : EapTypeList) (bufferEnd : Nat) (notNull : bufferEnd ≠ 0)
  | readNak (dict : EapNakDict) (msg : EapOctets) (bufferEnd : Nat) (notNull : bufferEnd ≠ 0)

namespace TypeExchange

/-- What is written is read back, and reading comes to an end. -/
def RoundTrips : TypeExchange → Prop
  | typeField type data => parseType (writeType type ++ data) = type
  | nak dict types bufferEnd notNull =>
    parseType (EapNakParser.parseAppToRaw dict types) = .nak ∧
      Loop.Runs (EapNakParser.readRound dict)
        (EapNakParser.startReading (EapNakParser.parseAppToRaw dict types) bufferEnd notNull) []
        types
  | readNak dict msg bufferEnd notNull =>
    Loop.Terminates (EapNakParser.readRound dict)
      (EapNakParser.startReading msg bufferEnd notNull)

/-- The type is a legacy one, and the Nak names none. -/
def Plain : TypeExchange → Prop
  | typeField type _ => type.type ≠ 254 ∧ type.vendorId = 0 ∧ type.vendorType = 0
  | nak _ types _ _ => types = []
  | readNak _ _ _ _ => True

/-- A vendor specific type begins with an octet of its swapped vendor id, which is zero. -/
theorem parseType_vendor {type : EapType} (vendor : type.type = 254) (data : EapOctets) :
    parseType (writeType type ++ data) = .none := by
  have first (value : UInt16) (rest : EapOctets) (low : value.toUInt8 = 0) :
      parseType ([0, 0, 0, 0] ++ (lowFirst value ++ rest)) = .none := by
    unfold parseType lowFirst
    simp only [List.cons_append, List.nil_append, List.getD_cons_succ, List.getD_cons_zero, low]
    rfl
  rw [writeType, if_neg (not_not_intro vendor), List.append_assoc, List.append_assoc]
  split
  · exact first _ _ (by decide)
  · exact first _ _ (by decide)

theorem parseType_legacy {type : EapType} (legacy : type.type ≠ 254) (data : EapOctets) :
    parseType (writeType type ++ data) = ⟨type.type, 0, 0⟩ := by
  rw [writeType, if_pos legacy]
  exact if_neg legacy

/-- Only legacy types come back, and of a Nak only the empty list. -/
theorem roundTrips_iff_plain (exchange : TypeExchange) : exchange.RoundTrips ↔ exchange.Plain := by
  cases exchange with
  | typeField type data =>
    obtain ⟨type, vendorId, vendorType⟩ := type
    by_cases vendor : type = 254
    · rw [RoundTrips, parseType_vendor vendor]
      constructor
      · intro same
        cases vendor
        exact absurd (congrArg EapType.type same) (by simp [EapType.none])
      · exact fun plain => absurd vendor plain.1
    · rw [RoundTrips, parseType_legacy vendor, Plain, and_iff_right vendor]
      simp [eq_comm]
  | nak dict types bufferEnd notNull =>
    have isNak : parseType (EapNakParser.parseAppToRaw dict types) = .nak :=
      @parseType_legacy .nak (by decide) _
    rw [RoundTrips, and_iff_right isNak]
    exact EapNakParser.runs_start_iff _ _ _ _ _
  | readNak dict msg bufferEnd notNull =>
    exact ⟨fun _ => trivial, fun _ =>
      ⟨[], [], .leave (EapNakParser.readRound_start dict msg bufferEnd notNull)⟩⟩

/-- The type 1 of the vendor 9 is written with a zero in front. -/
theorem vendorType_lost : ¬ (typeField (.vendor 9 1) []).RoundTrips := by
  unfold RoundTrips
  decide

end TypeExchange

end OpenDiameter.Eap
