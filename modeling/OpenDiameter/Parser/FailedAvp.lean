import OpenDiameter.Parser.AvpScan
import OpenDiameter.Parser.MinimumSizes

/-!
The Failed-AVP that an error carries, as the scanner of AVPs reads it.
-/

namespace OpenDiameter.Parser

open Foundation

/-- The octets that `DiameterErrorCode::set` stores for a dictionary entry. -/
def DiameterErrorCode.set (dictionary : Dictionary) (stack : Nat) (avp : DictionaryEntry) :
    Except Failure (List UInt8) := do
  let minSize ← getMinSize dictionary stack avp
  DiameterErrorCode.failedAvp avp minSize

/-- The octets are one AVP with the header of the entry, and its value has that length. -/
def Describes (avp : DictionaryEntry) (payload : Nat) (octets : List UInt8) : Prop :=
  ∃ h, AvpHeaderList.create ⟨octets, octets.length⟩ = .ok [h] ∧
    h.code = avp.avpCode ∧ h.flag = (avp.header 0).flag ∧ h.vendor = avp.vendorId ∧
      h.length = h.headerLength + payload

/-- The header of the entry is the zeroed one. -/
def DictionaryEntry.Unmarked (avp : DictionaryEntry) : Prop :=
  avp.avpCode = 0 ∧ avp.flags = ⟨false, false, false⟩

/-- A zeroed header for a length. -/
def zeroHeader (length : Nat) : AvpHeader :=
  { code := 0, flag := ⟨false, false, false⟩, length := length, vendor := 0, value_p := [] }

theorem octets_zeroHeader {length : Nat} (small : length < 16777216) :
    (zeroHeader length).octets = htonl 0 ++ htonl length := by
  rw [AvpHeader.octets, zeroHeader]
  dsimp only [AvpHeader.flagOctet]
  rw [Nat.mod_eq_of_lt small]
  simp

theorem failedAvp_ok {avp : DictionaryEntry} {minSize : Nat} {octets : List UInt8}
    (built : DiameterErrorCode.failedAvp avp minSize = .ok octets) :
    ∃ later, octets = ((zeroHeader (minSize % 16777216)).octets ++ later).take
      (minSize % 16777216) := by
  rw [DiameterErrorCode.failedAvp] at built
  dsimp only at built
  split at built
  · cases built
  · split at built
    · cases built
    · cases built
      exact ⟨_, rfl⟩

/-- Octets that are zero are read as zero in every part of the block. -/
theorem getD_take_of_zero {octets : List UInt8} {index : Nat} (zero : octets.getD index 0 = 0)
    (count : Nat) : (octets.take count).getD index 0 = 0 := by
  rw [List.getD_eq_getElem?_getD] at zero ⊢
  rw [List.getElem?_take]
  split
  · exact zero
  · rfl

theorem getD_zeroHeader {length index : Nat} (small : length < 16777216) (first : index < 5)
    (later : List UInt8) : ((zeroHeader length).octets ++ later).getD index 0 = 0 := by
  rw [octets_zeroHeader small]
  match index, first with
  | 0, _ | 1, _ | 2, _ | 3, _ => rfl
  | 4, _ =>
    change UInt8.ofNat (length / 16777216) = 0
    rw [Nat.div_eq_of_lt small]
    rfl

/-- What is read of a zeroed header, or of a part of it, has no code and no flags. -/
theorem read_take_zeroHeader {length : Nat} (small : length < 16777216) (later : List UInt8)
    (count : Nat) {h : AvpHeader}
    (isRead : h = AvpHeader.read (((zeroHeader length).octets ++ later).take count)) :
    h.code = 0 ∧ h.flag = ⟨false, false, false⟩ ∧ h.vendor = 0 := by
  have zero (index : Nat) (first : index < 5) :=
    getD_take_of_zero (getD_zeroHeader small first later) count
  have code : h.code = 0 := by
    rw [isRead, AvpHeader.read]
    dsimp only [ntohl]
    rw [zero 0 (by decide), zero 1 (by decide), zero 2 (by decide), zero 3 (by decide)]
    rfl
  have flag : h.flag = ⟨false, false, false⟩ := by
    rw [isRead, AvpHeader.read]
    dsimp only
    rw [zero 4 (by decide)]
    decide
  refine ⟨code, flag, ?_⟩
  have noVendor : h.flag.v = false := by rw [flag]
  rw [isRead, AvpHeader.read] at noVendor ⊢
  dsimp only at noVendor ⊢
  rw [noVendor]
  rfl

/-- An AVP that is listed alone is the one at the start, inside of the octets. -/
theorem create_singleton {octets : List UInt8} {h : AvpHeader}
    (created : AvpHeaderList.create ⟨octets, octets.length⟩ = .ok [h]) :
    h = AvpHeader.read octets ∧ h.length ≤ octets.length := by
  rw [AvpHeaderList.create] at created
  dsimp only at created
  generalize octets.length = passes at created ⊢
  cases passes with
  | zero => cases created
  | succ passes =>
    cases createFrom_succ_ok created with
    | inl done => cases done.2
    | inr more =>
      obtain ⟨later, _, _, le, isList, _⟩ := more
      cases isList
      exact ⟨rfl, le⟩

/-- The header that is built has nothing of the entry. -/
theorem Describes.unmarked {avp : DictionaryEntry} {minSize payload : Nat} {octets : List UInt8}
    (built : DiameterErrorCode.failedAvp avp minSize = .ok octets)
    (describes : Describes avp payload octets) :
    avp.Unmarked ∧ 8 + payload ≤ minSize % 16777216 := by
  obtain ⟨h, created, code, flag, _, length⟩ := describes
  obtain ⟨later, isOctets⟩ := failedAvp_ok built
  obtain ⟨isRead, le⟩ := create_singleton created
  have small : minSize % 16777216 < 16777216 := Nat.mod_lt _ (by decide)
  have cut : octets.length ≤ minSize % 16777216 := by
    rw [isOctets]
    exact List.length_take_le _ _
  rw [isOctets] at isRead
  obtain ⟨noCode, noFlag, _⟩ := read_take_zeroHeader small later _ isRead
  refine ⟨⟨code.symm.trans noCode, ?_⟩, ?_⟩
  · have same := flag.symm.trans noFlag
    rw [DictionaryEntry.header, AvpHeaderFlag.mk.injEq] at same
    obtain ⟨v, m, p⟩ := same
    cases isFlags : avp.flags
    rw [isFlags] at v m p
    dsimp only at v m p
    rw [v, m, p]
  · rw [AvpHeader.headerLength, noFlag] at length
    exact Nat.le_trans (Nat.le_trans (Nat.le_of_eq length.symm) le) cut

/-- Where the entry has nothing to show, the octets are its AVP. -/
theorem describes_zeroHeader {avp : DictionaryEntry} {payload : Nat} (unmarked : avp.Unmarked)
    (noVendor : avp.vendorId = 0) (small : 8 + payload < 16777216) :
    ∃ octets, DiameterErrorCode.failedAvp avp (8 + payload) = .ok octets ∧
      Describes avp payload octets := by
  obtain ⟨noCode, noFlags⟩ := unmarked
  have isLength : (zeroHeader (8 + payload)).octets.length = 8 := by
    rw [octets_zeroHeader small]
    rfl
  refine ⟨htonl 0 ++ (htonl (8 + payload) ++ List.replicate payload 0), ?_, ?_⟩
  · rw [DiameterErrorCode.failedAvp]
    dsimp only
    change (if _ then _ else if _ < (zeroHeader _).octets.length then _ else
      Except.ok (List.take _ ((zeroHeader _).octets ++ List.replicate
        (_ - (zeroHeader _).octets.length) 0))) = _
    rw [Nat.mod_eq_of_lt small, isLength, avpHeaderLen, if_pos noCode,
      if_neg (by omega), if_neg (by omega), octets_zeroHeader small]
    congr 1
    have zeros : 8 + payload + 4 - 8 = payload + 4 := by omega
    rw [zeros, List.replicate_add, ← List.append_assoc, ← List.append_assoc]
    apply List.take_left'
    simp only [List.length_append, length_htonl, List.length_replicate]
  · have total : (htonl 0 ++ (htonl (8 + payload) ++ List.replicate payload (0 : UInt8))).length =
        8 + payload := by
      simp only [List.length_append, length_htonl, List.length_replicate]
      omega
    generalize isOctets : htonl 0 ++ (htonl (8 + payload) ++ List.replicate payload 0) =
      octets at total
    have long : (AvpHeader.read octets).length = 8 + payload := by
      rw [← isOctets]
      change ntohl (htonl (8 + payload) ++ List.replicate payload 0) % 16777216 = _
      rw [ntohl_htonl_append, Nat.mod_eq_of_lt (Nat.lt_trans small (by decide)),
        Nat.mod_eq_of_lt small]
    have whole : octets = ((zeroHeader (8 + payload)).octets ++ List.replicate payload 0).take
        octets.length := by
      rw [octets_zeroHeader small, List.append_assoc, isOctets, List.take_length]
    obtain ⟨readCode, readFlag, readVendor⟩ :=
      read_take_zeroHeader small _ _ (congrArg AvpHeader.read whole)
    refine ⟨AvpHeader.read octets, ?_, readCode.trans noCode.symm, ?_,
      readVendor.trans noVendor.symm, ?_⟩
    · rw [AvpHeaderList.create]
      dsimp only
      rw [total, Nat.add_comm 8 payload, AvpHeaderList.createFrom, if_neg (by omega)]
      dsimp only
      rw [long, if_neg (by omega), adjustWordBoundary_eq (by omega)]
      have done : payload + 8 - (8 + payload + 3) / 4 * 4 = 0 := by omega
      rw [done]
      rfl
    · rw [readFlag, DictionaryEntry.header, noFlags]
    · rw [AvpHeader.headerLength, readFlag, long]
      rfl

/-- The error carries an AVP of its dictionary entry just where the entry has neither a code nor
flags, and its minimum size is measured and fits in 24 bits. -/
theorem set_describes_iff (dictionary : Dictionary) (acyclic : dictionary.Acyclic)
    (loaded : dictionary.Loaded) (avp : DictionaryEntry) (own : avp.Loaded) :
    ∃ stack, ∀ deeper, stack ≤ deeper →
      (DiameterErrorCode.set dictionary deeper avp =
          .error (.bug ParseError.missingAvpDictionaryEntry) ∧
        ¬∃ size, HasMinSize dictionary avp size) ∨
      ∃ payload, HasMinSize dictionary avp (avp.headerLength + payload) ∧
        ((∃ octets, DiameterErrorCode.set dictionary deeper avp = .ok octets ∧
            Describes avp payload octets) ↔
          avp.Unmarked ∧ FixedFree dictionary avp ∧ avp.headerLength + payload < 16777216) := by
  obtain ⟨stack, enough⟩ := getMinSize_cases acyclic loaded own
  refine ⟨stack, fun deeper more => ?_⟩
  cases enough deeper more with
  | inl missing =>
    refine .inl ⟨?_, missing.2⟩
    rw [DiameterErrorCode.set, missing.1]
    rfl
  | inr returns =>
    obtain ⟨size, counted, isReturned, isSize, le, same⟩ := returns
    obtain ⟨payload, isPayload⟩ := isSize.exists_payload
    subst isPayload
    have short (unmarked : avp.Unmarked) : avp.headerLength = 8 := by
      rw [DictionaryEntry.headerLength, unmarked.2]
      rfl
    refine .inr ⟨payload, isSize, ?_⟩
    rw [DiameterErrorCode.set, isReturned, ← same]
    constructor
    · rintro ⟨octets, built, describes⟩
      obtain ⟨unmarked, covered⟩ := describes.unmarked built
      rw [short unmarked] at le ⊢
      refine ⟨unmarked, ?_, ?_⟩ <;> omega
    · rintro ⟨unmarked, exact, small⟩
      have noVendor : avp.vendorId = 0 := by
        apply Decidable.byContradiction
        intro vendor
        have flag := own.2 vendor
        rw [unmarked.2] at flag
        cases flag
      rw [short unmarked] at exact small
      rw [exact, Nat.mod_eq_of_lt (Nat.lt_trans small (by decide))]
      exact describes_zeroHeader unmarked noVendor small

open VendorSpecificApplicationId in
theorem set_describes_iff_vendorSpecificApplicationId :
    ∃ stack, ∀ deeper, stack ≤ deeper →
      (DiameterErrorCode.set context.dictionary deeper avp =
          .error (.bug ParseError.missingAvpDictionaryEntry) ∧
        ¬∃ size, HasMinSize context.dictionary avp size) ∨
      ∃ payload, HasMinSize context.dictionary avp (avp.headerLength + payload) ∧
        ((∃ octets, DiameterErrorCode.set context.dictionary deeper avp = .ok octets ∧
            Describes avp payload octets) ↔
          avp.Unmarked ∧ FixedFree context.dictionary avp ∧
            avp.headerLength + payload < 16777216) :=
  set_describes_iff context.dictionary acyclic loaded avp (by
    unfold DictionaryEntry.Loaded
    decide)

open VendorSpecificApplicationId in
/-- The error for a Vendor-Id carries the AVP with the code 0 and without the M flag. -/
theorem vendorId_undescribed :
    DiameterErrorCode.set context.dictionary context.stack vendorId =
        .ok [0, 0, 0, 0, 0, 0, 0, 12, 0, 0, 0, 0] ∧
      ¬Describes vendorId 4 [0, 0, 0, 0, 0, 0, 0, 12, 0, 0, 0, 0] := by
  have built : DiameterErrorCode.failedAvp vendorId 12 =
      .ok [0, 0, 0, 0, 0, 0, 0, 12, 0, 0, 0, 0] := by decide
  have measured : getMinSize context.dictionary context.stack vendorId = .ok 12 := rfl
  refine ⟨?_, ?_⟩
  · rw [DiameterErrorCode.set, measured]
    exact built
  · intro describes
    have unmarked := (describes.unmarked built).1.1
    cases unmarked

end OpenDiameter.Parser
