import Mathlib.Logic.Equiv.Basic
import OpenDiameter.Eap.AesBits

/-!
AES-CMAC as `eap_gpsk_crypto.hxx` quotes it from RFC 4493, and for which keys and messages the code
computes it.
-/

namespace OpenDiameter.Eap

/-! The algorithm that is quoted. -/

namespace Rfc4493

/-- `const_Rb` -/
def constRb : Bits128 := 0x87

/-- The subkey that follows a block: its left shift by one bit, where the first bit is set with an
exclusive-or of `const_Rb`. -/
def subkey (block : Bits128) : Bits128 :=
  if block.msb = false then block <<< 1 else block <<< 1 ^^^ constRb

/-- `Generate_Subkey` -/
def generateSubkey (cipher : Bits128 → Bits128) : Bits128 × Bits128 :=
  let first := subkey (cipher 0)
  (first, subkey first)

/-- The blocks of the message, of which the first has the index zero. -/
def block (message : EapOctets) (index : Nat) : EapOctets := (message.drop (16 * index)).take 16

/-- `padding`: a bit that is set, and zeros. -/
def padding (octets : EapOctets) : Bits128 := octetBits (octets ++ [0x80])

/-- `flag`: the last block is a complete one. -/
def Complete (message : EapOctets) : Prop := message.length ≠ 0 ∧ message.length % 16 = 0

instance (message : EapOctets) : Decidable (Complete message) :=
  inferInstanceAs (Decidable (_ ∧ _))

/-- `n` -/
def count (message : EapOctets) : Nat := max 1 ((message.length + 15) / 16)

/-- `X`, after all the blocks but the last one. -/
def chained (cipher : Bits128 → Bits128) (message : EapOctets) : Bits128 :=
  (List.range (count message - 1)).foldl
    (fun vector index => cipher (vector ^^^ octetBits (block message index))) 0

/-- `M_last`, of two subkeys. -/
def lastBlock (subkeys : Bits128 × Bits128) (message : EapOctets) : Bits128 :=
  if Complete message then octetBits (block message (count message - 1)) ^^^ subkeys.1
  else padding (block message (count message - 1)) ^^^ subkeys.2

/-- `AES-CMAC` -/
def aesCmac (cipher : Bits128 → Bits128) (message : EapOctets) : Bits128 :=
  cipher (lastBlock (generateSubkey cipher) message ^^^ chained cipher message)

end Rfc4493

open Rfc4493

/-- `EapCryptoAES_CMAC_128` of a key of 128 bits. The place of the last block of a message of more
than 2^31 octets is too large for an `int`. -/
def aesCmac128 (aes : Aes128) (key : AesBlock) (message : EapOctets) : Option EapOctets :=
  if 2147483648 < message.length then none
  else some (aesCmac (aesEncrypt aes) key.toList message)

/-! What the code computes, in numbers. -/

/-- `nextSubkey` in numbers -/
def shiftedSubkey (block : Bits128) : Bits128 :=
  if block.msb = false then block <<< 1 else block <<< 1 ^^^ 0x0807#128

theorem octetBits_nextSubkey (block : AesBlock) :
    octetBits (nextSubkey block).toList = shiftedSubkey (octetBits block.toList) := by
  rw [nextSubkey_eq, shiftedSubkey]
  split
  · exact octetBits_leftShift block
  · rw [octetBits_xorBlock, octetBits_leftShift, octetBits_constRb]

theorem octetBits_block (message : EapOctets) (index : Nat) :
    octetBits (block message index) = octetBits (message.drop (16 * index)) := by
  apply octetBits_congr
  intro octet inside
  simp only [block, List.getD_eq_getElem?_getD, List.getElem?_take, inside, if_true]

theorem octetBits_append_zeros (octets : EapOctets) (zeros : Nat) :
    octetBits (octets ++ List.replicate zeros 0) = octetBits octets := by
  apply octetBits_congr
  intro index _
  rw [List.getD_eq_getElem?_getD, List.getD_eq_getElem?_getD, List.getElem?_append]
  split
  · rfl
  · rename_i beyond
    rw [List.getElem?_eq_none (Nat.le_of_not_lt beyond), List.getElem?_replicate]
    split <;> rfl

theorem octetBits_chained (aes : Aes128) (key : AesBlock) (message : EapOctets) :
    octetBits ((List.range (count message - 1)).foldl
      (fun vector index => aesEncrypt aes key (xorBlock vector (message.drop (16 * index))))
      (Vector.replicate 16 0)).toList = chained (aes (octetBits key.toList)) message := by
  have step (vector : AesBlock) (index : Nat) :
      aes (octetBits key.toList) (octetBits vector.toList ^^^ octetBits (block message index)) =
        octetBits (aesEncrypt aes key (xorBlock vector (message.drop (16 * index)))).toList := by
    rw [octetBits_aesEncrypt, octetBits_xorBlock, octetBits_block]
  rw [chained, ← octetBits_zero]
  exact (List.foldl_hom (fun vector : AesBlock => octetBits vector.toList) step).symm

/-- The rest behind the blocks that are complete is padded as the last block is. -/
theorem octetBits_padded {message : EapOctets} (incomplete : ¬ Complete message) :
    octetBits (padded (message.drop (16 * (count message - 1))) (message.length % 16)) =
      padding (block message (count message - 1)) := by
  have rest : (message.drop (16 * (count message - 1))).length = message.length % 16 := by
    rw [List.length_drop, count]
    unfold Complete at incomplete
    omega
  have small := Nat.mod_lt message.length (show 0 < 16 by decide)
  rw [padded, ← rest, List.take_length, octetBits_append_zeros, padding, block,
    List.take_of_length_le (by omega)]

/-- The last block, with two subkeys of the code. -/
theorem octetBits_last (first second : AesBlock) (message : EapOctets) :
    octetBits (if message.length ≠ 0 ∧ message.length % 16 = 0 then
        xorBlock first (message.drop (16 * (count message - 1)))
      else xorBlock second
        (padded (message.drop (16 * (count message - 1))) (message.length % 16))).toList =
      lastBlock (octetBits first.toList, octetBits second.toList) message := by
  unfold lastBlock
  split
  · rename_i complete
    rw [if_pos (show Complete message from complete), octetBits_xorBlock, octetBits_block,
      BitVec.xor_comm]
  · rename_i incomplete
    rw [if_neg (show ¬ Complete message from incomplete), octetBits_xorBlock,
      octetBits_padded incomplete, BitVec.xor_comm]

/-- The code chains the blocks as it should, and takes subkeys of its own. -/
theorem aesCmac_eq (aes : Aes128) (key : AesBlock) (message : EapOctets) :
    Eap.aesCmac (aesEncrypt aes) key.toList message =
      let cipher := aes (octetBits key.toList)
      let first := shiftedSubkey (cipher 0)
      (bitBlock (cipher (lastBlock (first, shiftedSubkey first) message ^^^
        chained cipher message))).toList := by
  have isCount : (message.length + 15) / 16 - 1 = count message - 1 := by
    rw [count]
    omega
  have first : octetBits (nextSubkey (aesEncrypt aes key (Vector.replicate 16 0))).toList =
      shiftedSubkey (aes (octetBits key.toList) 0) := by
    rw [octetBits_nextSubkey, octetBits_aesEncrypt, octetBits_zero]
  simp only [Eap.aesCmac, aesBlock_toList, isCount]
  rw [aesEncrypt, octetBits_xorBlock, octetBits_chained, BitVec.xor_comm, octetBits_last, first,
    octetBits_nextSubkey, first]

/-! Where the subkeys are those of the algorithm. -/

theorem shiftedSubkey_eq_iff (block : Bits128) :
    shiftedSubkey block = subkey block ↔ block.msb = false := by
  unfold shiftedSubkey subkey
  split
  · rename_i clear
    exact ⟨fun _ => clear, fun _ => rfl⟩
  · rename_i set
    rw [BitVec.xor_right_inj]
    exact ⟨fun same => absurd same (by decide), fun clear => absurd clear set⟩

/-- A wrong first subkey is never made up for by the second one. -/
theorem shiftedSubkey_twice_iff (block : Bits128) :
    shiftedSubkey (shiftedSubkey block) = subkey (subkey block) ↔
      block.msb = false ∧ (block <<< 1).msb = false := by
  by_cases clear : block.msb = false
  · have right := (shiftedSubkey_eq_iff block).2 clear
    have shifted : subkey block = block <<< 1 := by rw [subkey, if_pos clear]
    rw [right, shiftedSubkey_eq_iff, shifted]
    exact (and_iff_right clear).symm
  · have wrong : shiftedSubkey block = block <<< 1 ^^^ 0x0807#128 := by
      rw [shiftedSubkey, if_neg clear]
    have quoted : subkey block = block <<< 1 ^^^ 0x0087#128 := by
      rw [subkey, if_neg clear]
      rfl
    have ours : (block <<< 1 ^^^ 0x0807#128).msb = (block <<< 1).msb := by
      have low : (0x0807#128).msb = false := by decide +kernel
      rw [BitVec.msb_xor, low, Bool.xor_false]
    have theirs : (block <<< 1 ^^^ 0x0087#128).msb = (block <<< 1).msb := by
      have low : (0x0087#128).msb = false := by decide +kernel
      rw [BitVec.msb_xor, low, Bool.xor_false]
    rw [wrong, quoted, shiftedSubkey, subkey, ours, theirs, BitVec.shiftLeft_xor_distrib,
      BitVec.shiftLeft_xor_distrib, Rfc4493.constRb]
    have different : ¬ (if (block <<< 1).msb = false then
          block <<< 1 <<< 1 ^^^ 0x0807#128 <<< 1
        else block <<< 1 <<< 1 ^^^ 0x0807#128 <<< 1 ^^^ 0x0807#128) =
        if (block <<< 1).msb = false then block <<< 1 <<< 1 ^^^ 0x0087#128 <<< 1
        else block <<< 1 <<< 1 ^^^ 0x0087#128 <<< 1 ^^^ 0x87 := by
      split
      · rw [BitVec.xor_right_inj]
        decide
      · rw [BitVec.xor_assoc, BitVec.xor_assoc, BitVec.xor_right_inj]
        decide
    exact ⟨fun same => absurd same different, fun both => absurd both.1 clear⟩

/-- What the code returns is the `T` of the algorithm. -/
def ComputesCmac (aes : Aes128) (key : AesBlock) (message : EapOctets) : Prop :=
  aesCmac128 aes key message =
    some (bitBlock (Rfc4493.aesCmac (aes (octetBits key.toList)) message)).toList

/-- The code computes AES-CMAC of the keys for which the subkey, or where the last block is padded
both subkeys, come from shifts alone. -/
theorem computesCmac_iff (aes : Aes128) (key : AesBlock) (message : EapOctets)
    (permutes : Function.Injective (aes (octetBits key.toList))) :
    ComputesCmac aes key message ↔ message.length ≤ 2147483648 ∧
      (aes (octetBits key.toList) 0).msb = false ∧
        (Complete message ∨ (aes (octetBits key.toList) 0 <<< 1).msb = false) := by
  unfold ComputesCmac aesCmac128
  split
  · rename_i tooLong
    exact ⟨nofun, fun right => absurd right.1 (Nat.not_le_of_lt tooLong)⟩
  rename_i fits
  rw [Option.some_inj, aesCmac_eq, and_iff_right (Nat.le_of_not_lt fits)]
  generalize isCipher : aes (octetBits key.toList) = cipher at *
  have inputs : (bitBlock (cipher (lastBlock (shiftedSubkey (cipher 0),
        shiftedSubkey (shiftedSubkey (cipher 0))) message ^^^ chained cipher message))).toList =
        (bitBlock (Rfc4493.aesCmac cipher message)).toList ↔
      lastBlock (shiftedSubkey (cipher 0), shiftedSubkey (shiftedSubkey (cipher 0))) message =
        lastBlock (generateSubkey cipher) message := by
    rw [Vector.toList_inj, bitBlock_injective.eq_iff, Rfc4493.aesCmac, permutes.eq_iff,
      BitVec.xor_left_inj]
  rw [inputs, generateSubkey, lastBlock, lastBlock]
  split
  · rename_i complete
    rw [BitVec.xor_right_inj, shiftedSubkey_eq_iff]
    exact (and_iff_left (.inl complete)).symm
  · rename_i incomplete
    rw [BitVec.xor_right_inj, shiftedSubkey_twice_iff, or_iff_right incomplete]

/-- AES-128 with the key of zeros, at the blocks that the MAC of a block of zeros needs. -/
theorem computesCmac_zeros :
    ComputesCmac
      (fun _ => (Equiv.swap 0 0x66e94bd4ef8a2c3b884cfa59ca342b2e).trans
        (Equiv.swap 0xcdd297a9df1458771099f4b39468565c 0x763cbcde81df9131bf897712c088edad))
      (Vector.replicate 16 0) (List.replicate 16 0) :=
  (computesCmac_iff _ _ _ (Equiv.injective _)).2 (by decide +kernel)

/-- The first example of the RFC, the empty message, with what AES-128 gives for its key. -/
theorem emptyMessage_differs :
    ¬ ComputesCmac
      (fun _ block =>
        if block = 0 then 0x7df76b0c1ab899b33e42f047b91b546f
        else if block = 0x77ddac306ae266ccf90bc11ee46d513b then 0xbb1d6929e95937287fa37d129b756746
        else if block = 0x77ddac306ae266ccf90bc11ee46d59bb then 0x14ded5c3c6ff3a9a56eddcc92df988d5
        else block)
      #v[0x2b, 0x7e, 0x15, 0x16, 0x28, 0xae, 0xd2, 0xa6, 0xab, 0xf7, 0x15, 0x88, 0x09, 0xcf, 0x4f,
        0x3c] [] := by
  unfold ComputesCmac
  decide +kernel

end OpenDiameter.Eap
