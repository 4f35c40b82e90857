import OpenDiameter.Eap.Types

/-!
The blocks of AES, and the functions of keys of `eap_gpsk_crypto.hxx`. `AES_encrypt` is a parameter.
-/

namespace OpenDiameter.Eap

open OpenDiameter.Foundation

abbrev AesBlock := Vector UInt8 16

/-- `AES_encrypt` of a block with a key. -/
abbrev AesEncrypt := (key : AesBlock) → AesBlock → AesBlock

/-- The first octets of a string, as a block. -/
def aesBlock (octets : EapOctets) : AesBlock := Vector.ofFn fun index => octets.getD index 0

def xorBlock (block : AesBlock) (octets : EapOctets) : AesBlock :=
  Vector.ofFn fun index => block[index] ^^^ octets.getD index 0

section Keys

variable (aesEncrypt : AesEncrypt)

/-- `leftShift` of one bit. -/
def leftShift (block : AesBlock) : AesBlock :=
  Vector.ofFn fun index =>
    block[index] <<< 1 ||| block.toList.getD (index.val + 1) 0 >>> 7

/-- `const_Rb`, as it stands in the source. -/
def constRb : EapOctets := List.replicate 14 0 ++ [8, 7]

/-- The subkey that follows a block. -/
def nextSubkey (block : AesBlock) : AesBlock :=
  if block[0] &&& 0x80 = 0 then leftShift block else xorBlock (leftShift block) constRb

/-- `padding` of a last block that is not complete. -/
def padded (lastBlock : EapOctets) (length : Nat) : EapOctets :=
  lastBlock.take length ++ [0x80] ++ List.replicate (15 - length) 0

/-- `EapCryptoAES_CMAC_128` -/
def aesCmac (key octets : EapOctets) : EapOctets :=
  let encrypt := aesEncrypt (aesBlock key)
  let firstSubkey := nextSubkey (encrypt (Vector.replicate 16 0))
  let rounds := (octets.length + 15) / 16 - 1
  let rest := octets.drop (16 * rounds)
  let last :=
    if octets.length ≠ 0 ∧ octets.length % 16 = 0 then xorBlock firstSubkey rest
    else xorBlock (nextSubkey firstSubkey) (padded rest (octets.length % 16))
  let vector := (List.range rounds).foldl
    (fun vector index => encrypt (xorBlock vector (octets.drop (16 * index))))
    (Vector.replicate 16 0)
  (encrypt (xorBlock vector last.toList)).toList

@[simp] theorem length_aesCmac (key octets : EapOctets) :
    (aesCmac aesEncrypt key octets).length = 16 :=
  Vector.length_toList

/-- `EapCryptoAES_CMAC_128_GKDF`, which gives the octets of the last round. -/
def gkdf (key input : EapOctets) (length : Nat) : EapOctets :=
  firstOctets
    ((List.range ((length + 15) / 16)).foldl
      (fun _ index => aesCmac aesEncrypt key (writeShort (index + 1) ++ input)) [])
    length

end Keys

end OpenDiameter.Eap
