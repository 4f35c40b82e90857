import OpenDiameter.Eap.Gpsk

/-!
GKDF as `eap_gpsk_crypto.hxx` quotes it, the keys that `EapGpskNodeAttributes` takes from it, and
where the code gives them.
-/

namespace OpenDiameter.Eap

open OpenDiameter.Foundation

/-- Octets that are copied, and whether all of them are octets of the string that is read. What is
read past its end is taken for zeros. -/
structure CopiedOctets where
  octets : EapOctets
  inside : Bool
  deriving DecidableEq, Repr

section

variable (aesEncrypt : AesEncrypt)

/-- `M_i` -/
def gkdfBlock (secret input : EapOctets) (index : Nat) : EapOctets :=
  aesCmac aesEncrypt secret (writeShort index ++ input)

/-- `GKDF-X (Y, Z)` of the comment, with the key size 16. -/
def quotedGkdf (secret input : EapOctets) (length : Nat) : EapOctets :=
  ((List.range ((length + 15) / 16)).flatMap fun index =>
    gkdfBlock aesEncrypt secret input (index + 1)).take length

/-- `M_i` as the loop of `EapCryptoAES_CMAC_128_GKDF` leaves it. Its numbers have sixteen bits, and
with the largest number of rounds it does not end. -/
def lastGkdfBlock (secret input : EapOctets) (length : Nat) : Option EapOctets :=
  let rounds := (length + 15) / 16 % 65536
  if rounds = 65535 then none
  else some ((List.range rounds).foldl
    (fun _ index => gkdfBlock aesEncrypt secret input (index + 1)) [])

/-- `EapCryptoAES_CMAC_128_GKDF`, with the `assign` of so many octets of `M_i`. -/
def copyGkdf (secret input : EapOctets) (length : Nat) : Option CopiedOctets :=
  (lastGkdfBlock aesEncrypt secret input length).map fun last =>
    ⟨firstOctets last length, decide (length ≤ last.length)⟩

theorem length_foldl_gkdfBlock (secret input : EapOctets) (rounds : Nat) :
    ((List.range rounds).foldl
      (fun _ index => gkdfBlock aesEncrypt secret input (index + 1)) []).length ≤ 16 := by
  cases rounds with
  | zero => exact Nat.zero_le _
  | succ rounds =>
    rw [List.range_succ, List.foldl_append]
    exact Nat.le_of_eq (length_aesCmac _ _ _)

/-- Where the numbers fit, the octets are those of the node's function of keys. -/
theorem octets_copyGkdf (secret input : EapOctets) {length : Nat}
    (few : (length + 15) / 16 < 65535) :
    (copyGkdf aesEncrypt secret input length).map CopiedOctets.octets =
      some (gkdf aesEncrypt secret input length) := by
  rw [copyGkdf, lastGkdfBlock, Nat.mod_eq_of_lt (Nat.lt_succ_of_lt few), if_neg (Nat.ne_of_lt few)]
  rfl

/-! The keys that are derived from a master key. -/

namespace GpskNode

/-- The input string. -/
def inputString (node : GpskNode) : EapOctets :=
  node.peerRAND ++ node.peerID ++ node.serverRAND ++ node.serverID

/-- `GKDF160`: the output, where the master key is there. -/
def gkdf160 (node : GpskNode) : EapOctets :=
  if node.masterKey.length ≠ 0 then gkdf aesEncrypt node.masterKey node.inputString 20 else []

/-- `MSK` of a node that has none yet, as are the keys that follow. -/
def msk (node : GpskNode) : EapOctets := (node.gkdf160 aesEncrypt).take 8

/-- `EMSK` -/
def emsk (node : GpskNode) : EapOctets := ((node.gkdf160 aesEncrypt).drop 8).take 8

/-- `SK` -/
def sk (node : GpskNode) : EapOctets := ((node.gkdf160 aesEncrypt).drop 16).take 2

/-- `PK` -/
def pk (node : GpskNode) : EapOctets := ((node.gkdf160 aesEncrypt).drop 18).take 2

/-- `GKDF-160 (MK, inputString)` of the comments. -/
def quotedGkdf160 (node : GpskNode) : EapOctets :=
  quotedGkdf aesEncrypt node.masterKey node.inputString 160

/-- The keys are the octets 0 to 63, 64 to 127, 128 to 143 and 144 to 159. -/
structure DerivesKeys (node : GpskNode) : Prop where
  msk : node.msk aesEncrypt = (node.quotedGkdf160 aesEncrypt).take 64
  emsk : node.emsk aesEncrypt = ((node.quotedGkdf160 aesEncrypt).drop 64).take 64
  sk : node.sk aesEncrypt = ((node.quotedGkdf160 aesEncrypt).drop 128).take 16
  pk : node.pk aesEncrypt = ((node.quotedGkdf160 aesEncrypt).drop 144).take 16

end GpskNode

/-- A use of the functions of keys. -/
inductive GpskKeyCall where
  | gkdf (secret input : EapOctets) (length : Nat)
  | derivedKeys (node : GpskNode)

namespace GpskKeyCall

/-- The keys are those of the comments, and no octet is read that is not one of a block. -/
def GivesKeys : GpskKeyCall → Prop
  | gkdf secret input length =>
    copyGkdf aesEncrypt secret input length =
      some ⟨quotedGkdf aesEncrypt secret input length, true⟩
  | derivedKeys node => node.DerivesKeys aesEncrypt

end GpskKeyCall

end

section

variable {aesEncrypt : AesEncrypt}

theorem length_quotedGkdf (secret input : EapOctets) (length : Nat) :
    (quotedGkdf aesEncrypt secret input length).length = length := by
  have blocks : ((List.range ((length + 15) / 16)).flatMap fun index =>
      gkdfBlock aesEncrypt secret input (index + 1)).length = (length + 15) / 16 * 16 := by
    rw [List.length_flatMap]
    simp [gkdfBlock, List.map_const']
  rw [quotedGkdf, List.length_take, blocks]
  omega

/-- One block has all the octets, and of more blocks the last one only has its own. -/
theorem copyGkdf_iff (secret input : EapOctets) (length : Nat) :
    copyGkdf aesEncrypt secret input length =
      some ⟨quotedGkdf aesEncrypt secret input length, true⟩ ↔ length ≤ 16 := by
  constructor
  · intro copied
    rw [copyGkdf, lastGkdfBlock] at copied
    split at copied
    · cases copied
    · obtain ⟨-, inside⟩ := CopiedOctets.mk.inj (Option.some_inj.mp copied)
      exact Nat.le_trans (of_decide_eq_true inside) (length_foldl_gkdfBlock _ _ _ _)
  · intro short
    obtain rfl | few : length = 0 ∨ (length + 15) / 16 = 1 := by omega
    · rfl
    · have block : (gkdfBlock aesEncrypt secret input 1).length = 16 := length_aesCmac _ _ _
      have fits : length ≤ (gkdfBlock aesEncrypt secret input 1).length := by rwa [block]
      rw [copyGkdf, lastGkdfBlock, quotedGkdf, few]
      simp [firstOctets, List.takeD_eq_take _ fits, fits]

/-- The keys have eight and two octets, never the sixty-four and sixteen of the comments. -/
theorem GpskNode.not_derivesKeys (node : GpskNode) : ¬ node.DerivesKeys aesEncrypt := by
  intro derives
  have short : (node.msk aesEncrypt).length ≤ 8 := by
    rw [GpskNode.msk, List.length_take]
    exact Nat.min_le_left _ _
  rw [derives.msk, List.length_take, GpskNode.quotedGkdf160, length_quotedGkdf] at short
  exact absurd short (by decide)

/-- The keys are right where at most one block is asked for, and the derived ones never are. -/
theorem givesKeys_iff (call : GpskKeyCall) :
    call.GivesKeys aesEncrypt ↔
      ∃ secret input length, call = .gkdf secret input length ∧ length ≤ 16 := by
  cases call with
  | gkdf secret input length =>
    constructor
    · exact fun gives => ⟨secret, input, length, rfl, (copyGkdf_iff secret input length).1 gives⟩
    · rintro ⟨_, _, _, same, short⟩
      cases same
      exact (copyGkdf_iff secret input length).2 short
  | derivedKeys node =>
    constructor
    · exact fun gives => absurd gives node.not_derivesKeys
    · rintro ⟨_, _, _, same, _⟩
      cases same

end

/-- Seventeen octets, of which the last is read past the second block. -/
theorem seventeenOctets_wrong :
    ¬ (GpskKeyCall.gkdf (List.replicate 16 0) [1] 17).GivesKeys fun _ block => block := by
  unfold GpskKeyCall.GivesKeys
  decide +kernel

end OpenDiameter.Eap
