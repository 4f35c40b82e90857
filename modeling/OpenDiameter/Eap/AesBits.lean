import OpenDiameter.Eap.Aes

/-!
AES-128 as a function of numbers of 128 bits, and what the functions of blocks of octets do to these
numbers. The first octet of a block has the most significant bits.
-/

namespace OpenDiameter.Eap

abbrev Bits128 := BitVec 128

/-- AES-128 of a block with a key. -/
abbrev Aes128 := (key : Bits128) → Bits128 → Bits128

/-- The first sixteen octets at a pointer, as a number. -/
def octetBits (octets : EapOctets) : Bits128 :=
  (BitVec.ofBoolListLE (List.ofFn fun bit : Fin 128 =>
    (octets.getD (15 - bit.val / 8) 0).toBitVec.getLsbD (bit.val % 8))).cast List.length_ofFn

def bitBlock (bits : Bits128) : AesBlock :=
  Vector.ofFn fun index => .ofBitVec (bits.extractLsb' (8 * (15 - index.val)) 8)

/-- `AES_encrypt` -/
def aesEncrypt (aes : Aes128) : AesEncrypt :=
  fun key block => bitBlock (aes (octetBits key.toList) (octetBits block.toList))

theorem getLsbD_octetBits (octets : EapOctets) {bit : Nat} (inside : bit < 128) :
    (octetBits octets).getLsbD bit =
      (octets.getD (15 - bit / 8) 0).toBitVec.getLsbD (bit % 8) := by
  rw [octetBits, BitVec.getLsbD_cast, BitVec.getLsbD_ofBoolListLE, List.getD_eq_getElem?_getD,
    List.getElem?_ofFn, dif_pos inside]
  rfl

theorem getD_ofFn (octet : Fin 16 → UInt8) {index : Nat} (inside : index < 16) :
    (Vector.ofFn octet).toList.getD index 0 = octet ⟨index, inside⟩ := by
  simp [List.getD_eq_getElem?_getD, inside]

/-- Only the first sixteen octets matter. -/
theorem octetBits_congr {octets others : EapOctets}
    (same : ∀ index < 16, octets.getD index 0 = others.getD index 0) :
    octetBits octets = octetBits others := by
  apply BitVec.eq_of_getLsbD_eq
  intro bit inside
  rw [getLsbD_octetBits octets inside, getLsbD_octetBits others inside,
    same _ (Nat.lt_succ_of_le (Nat.sub_le _ _))]

@[simp] theorem octetBits_bitBlock (bits : Bits128) : octetBits (bitBlock bits).toList = bits := by
  apply BitVec.eq_of_getLsbD_eq
  intro bit inside
  have split : 8 * (bit / 8) + bit % 8 = bit := Nat.div_add_mod bit 8
  have back : 8 * (15 - (15 - bit / 8)) + bit % 8 = bit := by omega
  rw [getLsbD_octetBits _ inside, bitBlock, getD_ofFn _ (by omega)]
  simp [Nat.mod_lt, back]

@[simp] theorem bitBlock_octetBits (block : AesBlock) :
    bitBlock (octetBits block.toList) = block := by
  apply Vector.ext
  intro index inside
  rw [bitBlock, Vector.getElem_ofFn, ← UInt8.toBitVec_inj]
  apply BitVec.eq_of_getLsbD_eq
  intro bit low
  have octet : 15 - (8 * (15 - index) + bit) / 8 = index := by omega
  have rest : (8 * (15 - index) + bit) % 8 = bit := by omega
  rw [UInt8.toBitVec_ofBitVec, BitVec.getLsbD_extractLsb', getLsbD_octetBits _ (by omega), octet,
    rest]
  simp [low, List.getD_eq_getElem?_getD, inside]

theorem bitBlock_injective : Function.Injective bitBlock := by
  intro bits others same
  rw [← octetBits_bitBlock bits, same, octetBits_bitBlock]

@[simp] theorem aesBlock_toList (block : AesBlock) : aesBlock block.toList = block := by
  apply Vector.ext
  intro index inside
  simp [aesBlock, List.getD_eq_getElem?_getD]

@[simp] theorem octetBits_xorBlock (block : AesBlock) (octets : EapOctets) :
    octetBits (xorBlock block octets).toList = octetBits block.toList ^^^ octetBits octets := by
  apply BitVec.eq_of_getLsbD_eq
  intro bit inside
  have index : 15 - bit / 8 < 16 := Nat.lt_succ_of_le (Nat.sub_le _ _)
  rw [BitVec.getLsbD_xor, getLsbD_octetBits _ inside, getLsbD_octetBits _ inside,
    getLsbD_octetBits _ inside, xorBlock, getD_ofFn _ index, UInt8.toBitVec_xor,
    BitVec.getLsbD_xor, List.getD_eq_getElem?_getD (l := block.toList)]
  simp [index]

@[simp] theorem octetBits_zero : octetBits (Vector.replicate 16 0 : AesBlock).toList = 0 := by
  decide +kernel

@[simp] theorem octetBits_aesEncrypt (aes : Aes128) (key block : AesBlock) :
    octetBits (aesEncrypt aes key block).toList =
      aes (octetBits key.toList) (octetBits block.toList) :=
  octetBits_bitBlock _

/-! The functions of keys. -/

theorem octetBits_leftShift (block : AesBlock) :
    octetBits (leftShift block).toList = octetBits block.toList <<< 1 := by
  apply BitVec.eq_of_getLsbD_eq
  intro bit inside
  have index : 15 - bit / 8 < 16 := Nat.lt_succ_of_le (Nat.sub_le _ _)
  have getElem : block[15 - bit / 8] = block.toList.getD (15 - bit / 8) 0 := by
    simp [List.getD_eq_getElem?_getD, index]
  rw [getLsbD_octetBits _ inside, leftShift, getD_ofFn _ index, BitVec.getLsbD_shiftLeft,
    UInt8.toBitVec_or, BitVec.getLsbD_or, UInt8.toBitVec_shiftLeft, UInt8.toBitVec_shiftRight]
  dsimp only
  by_cases low : bit % 8 = 0
  · -- The bit comes from the octet behind.
    have rest : (block[15 - bit / 8 + 1]?.getD 0).toBitVec[7] =
        (!decide (bit = 0) && (octetBits block.toList).getLsbD (bit - 1)) := by
      by_cases zero : bit = 0
      · subst zero
        simp
      · have octet : 15 - bit / 8 + 1 = 15 - (bit - 1) / 8 := by omega
        have last : (bit - 1) % 8 = 7 := by omega
        rw [getLsbD_octetBits _ (by omega), octet, last]
        simp [zero, List.getD_eq_getElem?_getD]
    simpa [low, inside] using rest
  · have octet : (bit - 1) / 8 = bit / 8 := by omega
    have before : (bit - 1) % 8 = bit % 8 - 1 := by omega
    have above : bit ≠ 0 := by
      rintro rfl
      exact low rfl
    have outside : (block[15 - bit / 8 + 1]?.getD 0).toBitVec.getLsbD (7 + bit % 8) = false :=
      BitVec.getLsbD_of_ge _ _ (by omega)
    rw [getLsbD_octetBits _ (by omega), octet, before, ← getElem]
    simp [low, inside, above, outside, Nat.mod_lt]
    rfl

theorem nextSubkey_eq (block : AesBlock) :
    nextSubkey block = if (octetBits block.toList).msb = false then leftShift block
      else xorBlock (leftShift block) constRb := by
  have first : (octetBits block.toList).msb = block[0].toBitVec.getLsbD 7 := by
    rw [BitVec.msb_eq_getLsbD_last, getLsbD_octetBits _ (by decide)]
    simp [List.getD_eq_getElem?_getD]
  have clear : block[0] &&& 0x80 = 0 ↔ (octetBits block.toList).msb = false := by
    rw [first]
    obtain ⟨⟨octet⟩⟩ := block[0]
    revert octet
    decide +kernel
  simp only [nextSubkey, clear]

/-- `const_Rb` of the source, in which the octet is written as two. -/
theorem octetBits_constRb : octetBits constRb = 0x0807#128 := by
  decide +kernel

end OpenDiameter.Eap
