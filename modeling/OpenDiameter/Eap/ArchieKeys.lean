import Mathlib.Logic.Equiv.Basic
import OpenDiameter.Eap.AesBits
import OpenDiameter.Eap.ArchieMessages

/-!
AES-CBC-MAC and the Archie-PRF as `eap_archie_crypto.hxx` quotes them, and for which strings and
lengths the code computes them.
-/

namespace OpenDiameter.Eap

open OpenDiameter.Foundation

/-! The algorithms that are quoted. -/

namespace ArchieDraft

/-- The unique number below sixteen that fills the last block up. -/
def padLength (length : Nat) : Nat := (16 - length % 16) % 16

def padded (octets : EapOctets) : EapOctets :=
  octets ++ List.replicate (padLength octets.length) 0

/-- A string in substrings of sixteen octets. -/
def partition : (count : Nat) → EapOctets → List EapOctets
  | 0, _ => []
  | count + 1, octets => octets.take 16 :: partition count (octets.drop 16)

/-- The vectors of a chain of blocks. -/
def chain (cipher : Bits128 → Bits128) (vector : Bits128) (blocks : List EapOctets) : Bits128 :=
  blocks.foldl (fun vector block => cipher (octetBits block ^^^ vector)) vector

/-- `AES-CBC-MAC-128` -/
def cbcMac (cipher : Bits128 → Bits128) (octets : EapOctets) : Bits128 :=
  chain cipher 0 (partition ((padded octets).length / 16) (padded octets))

/-- `Archie-PRF` -/
def prf (cipher : Bits128 → Bits128) (octets : EapOctets) (length : Nat) : EapOctets :=
  ((List.range ((length + 15) / 16)).flatMap fun index =>
    (bitBlock (cbcMac cipher (htonl (index + 1) ++ octets ++ htonl length))).toList).take length

end ArchieDraft

/-- `MAC_LengthType` -/
inductive MacLength where
  | length96
  | length128
  deriving DecidableEq, Repr

def MacLength.octets : MacLength → Nat
  | length96 => 12
  | length128 => 16

/-- `EapCryptoAES_CBC_MAC`: the length of the padded string is an `int`. -/
def eapCryptoCbcMac (aes : Aes128) (key : AesBlock) (octets : EapOctets) (lengthType : MacLength) :
    Option EapOctets :=
  if 2147483632 < octets.length then none
  else some ((aesCbcMac (aesEncrypt aes) octets key.toList).toList.take lengthType.octets)

/-- `EapCryptoArchiePRF`: the number of rounds is one of 32 bits, and the output is resized. -/
def eapCryptoArchiePrf (aes : Aes128) (key : AesBlock) (octets : EapOctets) (length : UInt32) :
    Option EapOctets :=
  let rounds := ((length + 15) / 16).toNat
  ((List.range rounds).foldlM (fun output index =>
    (eapCryptoCbcMac aes key (htonl (index + 1) ++ octets ++ htonl length.toNat) .length128).map
      (output ++ ·)) []).map (firstOctets · length.toNat)

/-! What a chain of blocks is. -/

namespace ArchieDraft

theorem partition_eq (count : Nat) (octets : EapOctets) :
    partition count octets =
      (List.range count).map fun index => (octets.drop (16 * index)).take 16 := by
  induction count generalizing octets with
  | zero => rfl
  | succ count induction =>
    rw [partition, induction, List.range_succ_eq_map, List.map_cons, List.map_map]
    congr 1
    apply List.map_congr_left
    intro index _
    rw [List.drop_drop, Function.comp_apply, Nat.mul_succ, Nat.add_comm]

/-- A block of the padded string is read from the string as it stands. -/
theorem octetBits_padded (octets : EapOctets) (index : Nat) :
    octetBits (((padded octets).drop (16 * index)).take 16) =
      octetBits (octets.drop (16 * index)) := by
  apply octetBits_congr
  intro octet inside
  simp only [List.getD_eq_getElem?_getD, List.getElem?_take, inside, if_true, List.getElem?_drop,
    padded, List.getElem?_append]
  split
  · rfl
  · rename_i beyond
    rw [List.getElem?_eq_none (Nat.le_of_not_lt beyond), List.getElem?_replicate]
    split <;> rfl

theorem chain_injective {cipher : Bits128 → Bits128} (permutes : Function.Injective cipher)
    (blocks : List EapOctets) : Function.Injective fun vector => chain cipher vector blocks := by
  induction blocks with
  | nil => exact fun _ _ same => same
  | cons block blocks induction =>
    intro vector other same
    have step := induction same
    exact (BitVec.xor_right_inj _).1 (permutes step)

/-- The first block of a string with a number in front has the number, and the others do not. -/
theorem cbcMac_numbered (cipher : Bits128 → Bits128) (rest : EapOctets) :
    ∃ tail blocks, ∀ number, cbcMac cipher (htonl number ++ rest) =
      chain cipher (cipher (octetBits (htonl number ++ tail))) blocks := by
  let filled := rest ++ List.replicate (padLength (4 + rest.length)) 0
  have isPadded (number : Nat) : padded (htonl number ++ rest) = htonl number ++ filled := by
    rw [padded, List.length_append, length_htonl, List.append_assoc]
  obtain ⟨count, isCount⟩ : ∃ count, (4 + filled.length) / 16 = count + 1 := by
    apply Nat.exists_eq_succ_of_ne_zero
    simp only [filled, padLength, List.length_append, List.length_replicate]
    omega
  refine ⟨filled.take 12, partition count (filled.drop 12), fun number => ?_⟩
  rw [cbcMac, isPadded, List.length_append, length_htonl, isCount, partition]
  have unmixed (bits : Bits128) : bits ^^^ 0 = bits := BitVec.xor_zero
  rw [chain, List.foldl_cons, unmixed]
  rfl

/-- Strings that differ in the number in front of them have different codes. -/
theorem cbcMac_ne {cipher : Bits128 → Bits128} (permutes : Function.Injective cipher)
    (rest : EapOctets) : cbcMac cipher (htonl 1 ++ rest) ≠ cbcMac cipher (htonl 2 ++ rest) := by
  intro same
  obtain ⟨tail, blocks, isChain⟩ := cbcMac_numbered cipher rest
  rw [isChain, isChain] at same
  have numbers : (octetBits (htonl 1 ++ tail)).getLsbD 96 =
      (octetBits (htonl 2 ++ tail)).getLsbD 96 := by
    rw [permutes (chain_injective permutes blocks same)]
  rw [getLsbD_octetBits _ (by decide), getLsbD_octetBits _ (by decide)] at numbers
  exact absurd (show (1 : UInt8).toBitVec.getLsbD 0 = (2 : UInt8).toBitVec.getLsbD 0 from numbers)
    (by decide)

end ArchieDraft

open ArchieDraft

section

variable {aes : Aes128} {key : AesBlock}

variable {octets : EapOctets}

/-- The code chains the blocks of a string that is not empty. -/
theorem aesCbcMac_eq (nonempty : octets ≠ []) :
    aesCbcMac (aesEncrypt aes) octets key.toList =
      bitBlock (cbcMac (aes (octetBits key.toList)) octets) := by
  have positive := List.length_pos_iff.mpr nonempty
  have isCount : (ArchieDraft.padded octets).length / 16 = (octets.length - 1) / 16 + 1 := by
    simp only [ArchieDraft.padded, padLength, List.length_append, List.length_replicate]
    omega
  have step (vector : AesBlock) (index : Nat) :
      aes (octetBits key.toList)
          (octetBits (((ArchieDraft.padded octets).drop (16 * index)).take 16) ^^^
            octetBits vector.toList) =
        octetBits (aesEncrypt aes key (xorBlock vector (octets.drop (16 * index)))).toList := by
    rw [octetBits_aesEncrypt, octetBits_xorBlock, octetBits_padded, BitVec.xor_comm]
  have chained : (List.range ((octets.length - 1) / 16 + 1)).foldl (fun vector index =>
        aes (octetBits key.toList)
          (octetBits (((ArchieDraft.padded octets).drop (16 * index)).take 16) ^^^ vector))
        (octetBits (Vector.replicate 16 0 : AesBlock).toList) =
      octetBits ((List.range ((octets.length - 1) / 16 + 1)).foldl (fun vector index =>
        aesEncrypt aes key (xorBlock vector (octets.drop (16 * index))))
        (Vector.replicate 16 0)).toList :=
    List.foldl_hom (fun vector : AesBlock => octetBits vector.toList) step
  rw [aesCbcMac, aesBlock_toList, cbcMac, isCount, partition_eq, chain, List.foldl_map]
  rw [← octetBits_zero, chained, bitBlock_octetBits]

theorem eapCryptoCbcMac_eq (nonempty : octets ≠ []) (fits : octets.length ≤ 2147483632)
    (lengthType : MacLength) :
    eapCryptoCbcMac aes key octets lengthType =
      some ((bitBlock (cbcMac (aes (octetBits key.toList)) octets)).toList.take
        lengthType.octets) := by
  rw [eapCryptoCbcMac, if_neg (Nat.not_lt_of_le fits), aesCbcMac_eq nonempty]

/-- The rounds end where each of their codes is there. -/
theorem foldlM_rounds (block : Nat → EapOctets) (code : Nat → Option EapOctets) (rounds : Nat)
    (codes : ∀ index < rounds, code index = some (block index)) :
    (List.range rounds).foldlM (fun output index => (code index).map (output ++ ·)) [] =
      some ((List.range rounds).flatMap block) := by
  induction rounds with
  | zero => rfl
  | succ rounds induction =>
    rw [List.range_succ, List.foldlM_append,
      induction fun index below => codes index (Nat.lt_succ_of_lt below), List.flatMap_append]
    simp [codes rounds (Nat.lt_succ_self rounds)]

variable {length : UInt32}

theorem rounds_eq (counted : length.toNat < 4294967281) :
    ((length + 15) / 16).toNat = (length.toNat + 15) / 16 := by
  have small : (length.toNat + (15 : UInt32).toNat) % 2 ^ 32 = length.toNat + 15 :=
    Nat.mod_eq_of_lt (by simpa using Nat.add_lt_of_lt_sub counted)
  rw [UInt32.toNat_div, UInt32.toNat_add, small]
  rfl

theorem eapCryptoArchiePrf_eq (counted : length.toNat < 4294967281)
    (fits : length = 0 ∨ octets.length ≤ 2147483624) :
    eapCryptoArchiePrf aes key octets length =
      some (ArchieDraft.prf (aes (octetBits key.toList)) octets length.toNat) := by
  have codes : ∀ index < (length.toNat + 15) / 16,
      eapCryptoCbcMac aes key (htonl (index + 1) ++ octets ++ htonl length.toNat) .length128 =
        some (bitBlock (cbcMac (aes (octetBits key.toList))
          (htonl (index + 1) ++ octets ++ htonl length.toNat))).toList := by
    intro index below
    have short : octets.length ≤ 2147483624 := by
      apply fits.resolve_left
      rintro rfl
      exact absurd below (by simp)
    rw [eapCryptoCbcMac_eq]
    · simp [MacLength.octets]
    · simp [htonl]
    · simp only [List.length_append, length_htonl]
      omega
  unfold eapCryptoArchiePrf
  simp only [rounds_eq counted]
  rw [foldlM_rounds _ _ _ codes, Option.map_some, ArchieDraft.prf, firstOctets]
  congr 1
  apply List.takeD_eq_take
  rw [List.length_flatMap]
  simp [List.map_const']
  omega

/-- Where the number of rounds overflows, only zeros come out, which is never right. -/
theorem eapCryptoArchiePrf_ne (permutes : Function.Injective (aes (octetBits key.toList)))
    (overflows : 4294967281 ≤ length.toNat) :
    eapCryptoArchiePrf aes key octets length ≠
      some (ArchieDraft.prf (aes (octetBits key.toList)) octets length.toNat) := by
  have isRounds : ((length + 15) / 16).toNat = 0 := by
    have bound := length.toNat_lt
    rw [UInt32.toNat_div, UInt32.toNat_add]
    have small : (length.toNat + (15 : UInt32).toNat) % 2 ^ 32 < 16 := by
      rw [show (15 : UInt32).toNat = 15 from rfl]
      omega
    exact Nat.div_eq_of_lt small
  have zeros : eapCryptoArchiePrf aes key octets length =
      some (List.replicate length.toNat 0) := by
    unfold eapCryptoArchiePrf
    simp only [isRounds]
    exact congrArg some (List.takeD_nil _ _)
  rw [zeros, ArchieDraft.prf]
  intro same
  obtain ⟨rounds, many⟩ : ∃ rounds, (length.toNat + 15) / 16 = rounds + 1 + 1 :=
    ⟨(length.toNat + 15) / 16 - 2, by omega⟩
  rw [many, List.range_succ_eq_map, List.flatMap_cons, List.range_succ_eq_map, List.map_cons,
    List.flatMap_cons, Option.some_inj] at same
  -- The two first codes are both zeros.
  have first := congrArg (List.take 16) same
  have second := congrArg (fun output => (output.drop 16).take 16) same
  simp only [List.take_take, List.drop_take, List.take_replicate, List.drop_replicate] at first second
  have inFirst : min 16 length.toNat = 16 := by omega
  have inSecond : min 16 (length.toNat - 16) = 16 := by omega
  rw [inFirst, List.take_left' (Vector.length_toList)] at first
  rw [inSecond, List.drop_left' (Vector.length_toList), List.take_left' (Vector.length_toList)]
    at second
  have alike := bitBlock_injective (Vector.toList_inj.mp (first.symm.trans second))
  rw [List.append_assoc, List.append_assoc] at alike
  exact cbcMac_ne permutes _ alike

/-- A code of a string that is too long is not there. -/
theorem eapCryptoArchiePrf_none (positive : length ≠ 0) (counted : length.toNat < 4294967281)
    (tooLong : 2147483624 < octets.length) :
    eapCryptoArchiePrf aes key octets length ≠
      some (ArchieDraft.prf (aes (octetBits key.toList)) octets length.toNat) := by
  have notZero : length.toNat ≠ 0 := fun zero => positive (UInt32.toNat_inj.mp zero)
  obtain ⟨rounds, some⟩ : ∃ rounds, (length.toNat + 15) / 16 = rounds + 1 :=
    ⟨(length.toNat + 15) / 16 - 1, by omega⟩
  have none : eapCryptoCbcMac aes key (htonl (0 + 1) ++ octets ++ htonl length.toNat)
      .length128 = Option.none := by
    rw [eapCryptoCbcMac, if_pos]
    simp only [List.length_append, length_htonl]
    omega
  unfold eapCryptoArchiePrf
  simp only [rounds_eq counted, some]
  rw [List.range_succ_eq_map, List.foldlM_cons, none]
  exact nofun

end

/-- A use of the functions of keys. -/
inductive ArchieKeyCall where
  | mac (octets : EapOctets) (lengthType : MacLength)
  | prf (octets : EapOctets) (length : UInt32)

namespace ArchieKeyCall

def octets : ArchieKeyCall → EapOctets
  | mac octets _ => octets
  | prf octets _ => octets

/-- The code gives what the algorithm that is quoted gives. -/
def Computes (aes : Aes128) (key : AesBlock) : ArchieKeyCall → Prop
  | mac octets lengthType =>
    eapCryptoCbcMac aes key octets lengthType =
      some ((bitBlock (cbcMac (aes (octetBits key.toList)) octets)).toList.take lengthType.octets)
  | prf octets length =>
    eapCryptoArchiePrf aes key octets length =
      some (ArchieDraft.prf (aes (octetBits key.toList)) octets length.toNat)

/-- The numbers fit: that of the padded string an `int`, and that of the rounds 32 bits. -/
def Fits : ArchieKeyCall → Prop
  | mac octets _ => octets.length ≤ 2147483632
  | prf octets length =>
    length.toNat < 4294967281 ∧ (length = 0 ∨ octets.length ≤ 2147483624)

/-- The functions of keys are the quoted ones where their numbers fit. -/
theorem computes_iff (aes : Aes128) (key : AesBlock) (call : ArchieKeyCall)
    (permutes : Function.Injective (aes (octetBits key.toList))) (nonempty : call.octets ≠ []) :
    call.Computes aes key ↔ call.Fits := by
  cases call with
  | mac octets lengthType =>
    constructor
    · intro computes
      refine Nat.le_of_not_lt fun tooLong => ?_
      rw [Computes, eapCryptoCbcMac, if_pos tooLong] at computes
      cases computes
    · exact fun fits => eapCryptoCbcMac_eq nonempty fits lengthType
  | prf octets length =>
    constructor
    · intro computes
      have counted : length.toNat < 4294967281 :=
        Nat.lt_of_not_le fun overflows => eapCryptoArchiePrf_ne permutes overflows computes
      refine ⟨counted, or_iff_not_imp_left.2 fun positive => Nat.le_of_not_lt fun tooLong => ?_⟩
      exact eapCryptoArchiePrf_none positive counted tooLong computes
    · exact fun fits => eapCryptoArchiePrf_eq fits.1 fits.2

/-- AES-128 with the key of zeros gives this block for one of zeros. -/
theorem computes_zero :
    (mac [0] .length96).Computes
      (fun _ => Equiv.swap 0 0x66e94bd4ef8a2c3b884cfa59ca342b2e) (Vector.replicate 16 0) :=
  (computes_iff _ _ _ (Equiv.injective _) (by decide)).2 (show 1 ≤ 2147483632 by decide)

/-- Of the largest length the rounds are none. -/
theorem largestLength_zeros :
    ¬ (prf [1] 4294967295).Computes (fun _ block => block) (Vector.replicate 16 0) :=
  eapCryptoArchiePrf_ne (fun _ _ same => same) (by decide)

end ArchieKeyCall

end OpenDiameter.Eap
