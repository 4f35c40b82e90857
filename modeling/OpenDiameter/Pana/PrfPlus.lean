import OpenDiameter.Foundation.Bytes
import Mathlib.Data.List.Basic

/-!
The key expansion prf+ of IKEv2: the definition, the loop of `PANA_PrfPlus`, which counts in an
octet and keeps lengths in 16 bits, and the loop that generates the authentication key.
-/

namespace OpenDiameter.Pana

open OpenDiameter.Foundation

/-- A pseudo-random function whose outputs have one length. -/
structure Prf (size : Nat) where
  apply : List UInt8 → List UInt8 → List UInt8
  length : ∀ key message, (apply key message).length = size

variable {size : Nat}

namespace Prf

section

variable (prf : Prf size) (key seed : List UInt8)

/-- `Ti`, where `T0` has no octets. -/
def block : Nat → List UInt8
  | 0 => []
  | i + 1 => prf.apply key (block i ++ seed ++ [UInt8.ofNat (i + 1)])

/-- `T1 | T2 | ... | Tn` -/
def expand : Nat → List UInt8
  | 0 => []
  | n + 1 => expand n ++ prf.block key seed (n + 1)

/-! `PANA_PrfPlus` -/

/-- `PRF` on so many octets of the sequence, a number that is passed in 16 bits. -/
def PRF (sequence : List UInt8) (length : Nat) : List UInt8 :=
  prf.apply key (sequence.take (length % 65536))

/-- The loop of `PRF_plus`, of so many rounds at most, with the counter, the last block and the
octets of the result. Where the counter is zero, the block is written in front of the result. -/
def loop (iter : UInt8) (sequence : List UInt8) :
    (rounds : Nat) → UInt8 → List UInt8 → List UInt8 → Option (List UInt8)
  | 0, _, _, _ => none
  | rounds + 1, currentIter, temp, result =>
    if currentIter ≤ iter then
      if currentIter = 0 then none
      else
        let newSequence := temp ++ sequence ++ [currentIter]
        let temp := prf.PRF key newSequence (sequence.length + size + 1)
        let result := overwrite result ((currentIter.toNat - 1) * size) temp
        loop iter sequence rounds (currentIter + 1) temp result
    else some result

/-- `PRF_plus`, where the length of the seed is passed in 16 bits. -/
def prfPlus (iter : UInt8) (rounds : Nat) : Option (List UInt8) :=
  let sequence := seed.take (seed.length % 65536)
  let temp := prf.PRF key (sequence ++ [1]) (sequence.length + 1)
  prf.loop key iter sequence rounds 2 temp (overwrite [] 0 temp)

/-! `PANA_AuthKey` -/

/-- One round of the loop in `Generate`, for one token count. -/
def generateToken (sbuf : List UInt8) (tokenCount : Nat) : List UInt8 :=
  let before :=
    if tokenCount > 1 then slice sbuf (size * (tokenCount - 2)) size else []
  overwrite sbuf (size * (tokenCount - 1))
    (prf.apply key (before ++ seed ++ [UInt8.ofNat tokenCount]))

/-- `PANA_AUTH_HMACSIZE_FACTOR` -/
def hmacSizeFactor : Nat := 4

/-- What `Generate` computes in `sbuf`, with the length of the seed in 32 bits. -/
def generate : List UInt8 :=
  (List.range' 1 hmacSizeFactor).foldl
    (prf.generateToken key (seed.take (seed.length % 4294967296)))
    (List.replicate (size * hmacSizeFactor) 0)

/-- `PRF_plus` ends with the expansion, whose first blocks are those that `Generate` computes. -/
def Expands (iter : UInt8) : Prop :=
  ∃ rounds result, prf.prfPlus key seed iter rounds = some result ∧
    result = prf.expand key seed iter.toNat ∧
    result.take (size * hmacSizeFactor) = (prf.generate key seed).take (size * iter.toNat)

end

/-- The octets that are hashed are counted in 16 bits, the count of the blocks in an octet. -/
def Fits (size : Nat) (seed : List UInt8) (iter : UInt8) : Prop :=
  iter < 255 ∧ seed.length + (if iter > 1 then size else 0) + 1 < 65536

variable {prf : Prf size} {key seed : List UInt8}

theorem length_block (i : Nat) : (prf.block key seed (i + 1)).length = size :=
  prf.length _ _

theorem length_expand (n : Nat) : (prf.expand key seed n).length = size * n := by
  induction n with
  | zero => rfl
  | succ n induction =>
    rw [expand, List.length_append, induction, length_block, Nat.mul_succ]

/-- The first blocks of an expansion are those of a shorter one. -/
theorem take_expand (n m : Nat) :
    (prf.expand key seed (n + m)).take (size * n) = prf.expand key seed n := by
  induction m with
  | zero =>
    apply List.take_of_length_le
    exact Nat.le_of_eq (length_expand ..)
  | succ m induction =>
    rw [← Nat.add_assoc, expand, List.take_append_of_le_length]
    · exact induction
    · rw [length_expand]
      exact Nat.mul_le_mul_left size (Nat.le_add_right n m)

/-- The expansions of two numbers of blocks agree as far as both go. -/
theorem take_expand_comm (n m : Nat) :
    (prf.expand key seed n).take (size * m) = (prf.expand key seed m).take (size * n) := by
  have whole : ∀ n m, (prf.expand key seed n).take (size * (n + m)) = prf.expand key seed n := by
    intro n m
    apply List.take_of_length_le
    rw [length_expand]
    exact Nat.mul_le_mul_left size (Nat.le_add_right n m)
  rcases Nat.le_total n m with less | less
  · obtain ⟨more, rfl⟩ := Nat.exists_eq_add_of_le less
    rw [take_expand, whole]
  · obtain ⟨more, rfl⟩ := Nat.exists_eq_add_of_le less
    rw [take_expand, whole]

theorem overwrite_end (octets new : List UInt8) {offset : Nat} (isEnd : octets.length = offset) :
    overwrite octets offset new = octets ++ new := by
  subst isEnd
  rw [overwrite, List.take_length, List.drop_of_length_le (by omega), List.append_nil]

theorem PRF_whole {sequence : List UInt8} {length : Nat} (same : sequence.length = length)
    (small : length < 65536) : prf.PRF key sequence length = prf.apply key sequence := by
  rw [PRF, Nat.mod_eq_of_lt small, ← same, List.take_length]

theorem overwrite_nil (new : List UInt8) : overwrite [] 0 new = new := by
  rw [overwrite_end [] new List.length_nil, List.nil_append]

variable {iter : UInt8}

/-- From the counter on, with the blocks before it, the rest of the blocks is appended. -/
theorem loop_eq (below : iter < 255) (fits : seed.length + size + 1 < 65536) (more i : Nat)
    (counter : UInt8) (isCounter : counter.toNat = i + 2) (left : i + 2 + more = iter.toNat + 1) :
    prf.loop key iter seed (more + 1) counter (prf.block key seed (i + 1))
      (prf.expand key seed (i + 1)) = some (prf.expand key seed iter.toNat) := by
  have bound : iter.toNat < 255 := below
  induction more generalizing i counter with
  | zero =>
    have above : ¬ counter ≤ iter := by
      intro le
      have leNat : counter.toNat ≤ iter.toNat := le
      omega
    rw [loop, if_neg above]
    congr 2
    omega
  | succ more induction =>
    have within : counter ≤ iter := by
      change counter.toNat ≤ iter.toNat
      omega
    have positive : counter ≠ 0 := by
      intro zero
      rw [zero] at isCounter
      cases isCounter
    have sameLength : (prf.block key seed (i + 1) ++ seed ++ [counter]).length =
        seed.length + size + 1 := by
      rw [List.length_append, List.length_append, length_block, List.length_singleton]
      omega
    have isOctet : counter = UInt8.ofNat (i + 1 + 1) := by
      rw [← isCounter, UInt8.ofNat_toNat]
    have isBlock : prf.PRF key (prf.block key seed (i + 1) ++ seed ++ [counter])
        (seed.length + size + 1) = prf.block key seed (i + 1 + 1) := by
      rw [PRF_whole sameLength fits, isOctet]
      rfl
    have isEnd : (prf.expand key seed (i + 1)).length = (counter.toNat - 1) * size := by
      rw [length_expand, isCounter, Nat.mul_comm]
      rfl
    rw [loop, if_pos within, if_neg positive]
    dsimp only
    rw [isBlock, overwrite_end _ _ isEnd]
    apply induction (i + 1) (counter + 1)
    · rw [UInt8.toNat_add, isCounter]
      change (i + 2 + 1) % 256 = _
      omega
    · omega

theorem prfPlus_eq (isCount : iter ≠ 0) (fits : Fits size seed iter) :
    prf.prfPlus key seed iter iter.toNat = some (prf.expand key seed iter.toNat) := by
  have ⟨below, small⟩ := fits
  have whole : seed.take (seed.length % 65536) = seed := by
    rw [Nat.mod_eq_of_lt (by omega), List.take_length]
  have positive : 0 < iter.toNat := by
    apply Nat.pos_of_ne_zero
    intro zero
    exact isCount (UInt8.toNat_inj.mp zero)
  have sameLength : (seed ++ [1]).length = seed.length + 1 := List.length_append
  have isFirst : prf.PRF key (seed ++ [1]) (seed.length + 1) = prf.block key seed 1 := by
    rw [PRF_whole sameLength (by omega)]
    rfl
  unfold prfPlus
  dsimp only
  rw [whole, isFirst, overwrite_nil]
  by_cases single : iter > 1
  · rw [if_pos single] at small
    obtain ⟨more, isMore⟩ := Nat.exists_eq_add_of_lt positive
    have rounds : iter.toNat = more + 1 := by omega
    rw [rounds, ← rounds]
    have run := @loop_eq size prf key seed iter below small more 0 2 rfl (by omega)
    rw [rounds] at run ⊢
    exact run
  · have one : iter.toNat = 1 := by
      have notMore : ¬ iter.toNat > 1 := single
      omega
    have isOne : iter = 1 := UInt8.toNat_inj.mp one
    rw [isOne]
    rfl

/-! The other loop -/

/-- A token for the blocks so far is the next block, in the place behind them. -/
theorem generateToken_eq (n : Nat) (rest : List UInt8) :
    prf.generateToken key seed (prf.expand key seed n ++ rest) (1 + n) =
      prf.expand key seed (n + 1) ++ rest.drop size := by
  have place : size * (1 + n - 1) = (prf.expand key seed n).length := by
    rw [length_expand, Nat.add_sub_cancel_left]
  have before : (if 1 + n > 1 then
      slice (prf.expand key seed n ++ rest) (size * (1 + n - 2)) size else []) =
        prf.block key seed n := by
    cases n with
    | zero => rfl
    | succ n =>
      have place : size * (1 + (n + 1) - 2) = (prf.expand key seed n).length := by
        rw [length_expand]
        congr 1
        omega
      have within : size = (prf.block key seed (n + 1)).length := (length_block n).symm
      rw [if_pos (by omega), slice, place, expand, List.append_assoc, List.drop_left]
      exact List.take_left' within.symm
  have isBlock : prf.apply key (prf.block key seed n ++ seed ++ [UInt8.ofNat (1 + n)]) =
      prf.block key seed (n + 1) := by
    rw [Nat.add_comm]
    rfl
  unfold generateToken
  dsimp only
  rw [before, isBlock, place, overwrite, List.take_left, expand, length_block, List.append_assoc,
    ← List.drop_drop, List.drop_left, List.append_assoc]

theorem generate_eq (small : seed.length < 4294967296) :
    prf.generate key seed = prf.expand key seed hmacSizeFactor := by
  have tokens : ∀ n rest, (List.range' 1 n).foldl (prf.generateToken key seed) rest =
      prf.expand key seed n ++ rest.drop (size * n) := by
    intro n rest
    induction n with
    | zero => rfl
    | succ n induction =>
      rw [List.range'_1_concat, List.foldl_append, induction, List.foldl_cons, List.foldl_nil,
        generateToken_eq, List.drop_drop, Nat.mul_succ]
  unfold generate
  rw [Nat.mod_eq_of_lt small, List.take_length, tokens, List.drop_of_length_le, List.append_nil]
  exact Nat.le_of_eq List.length_replicate

/-! Where they part -/

/-- A counter of 255 blocks is never exceeded. -/
theorem loop_endless (rounds : Nat) (counter : UInt8) (temp result : List UInt8) :
    prf.loop key 255 seed rounds counter temp result = none := by
  induction rounds generalizing counter temp result with
  | zero => rfl
  | succ rounds induction =>
    have within : counter ≤ 255 := by
      change counter.toNat ≤ 255
      have bound := counter.toNat_lt
      omega
    rw [loop, if_pos within]
    split
    · rfl
    · exact induction _ _ _

/-- A function that tells long messages from those whose length fits into 16 bits. -/
def ofLength (size : Nat) : Prf size where
  apply := fun _ message => List.replicate size (if message.length < 65536 then 0 else 1)
  length := fun _ _ => List.length_replicate

theorem ofLength_PRF (sequence : List UInt8) (length : Nat) :
    (ofLength size).PRF key sequence length = List.replicate size 0 := by
  have short : (sequence.take (length % 65536)).length < 65536 := by
    rw [List.length_take]
    omega
  exact congrArg (List.replicate size) (if_pos short)

theorem ofLength_loop (rounds : Nat) (counter : UInt8) (temp result out : List UInt8)
    (zeros : ∀ octet ∈ result, octet = 0)
    (ends : (ofLength size).loop key iter seed rounds counter temp result = some out) :
    ∀ octet ∈ out, octet = 0 := by
  induction rounds generalizing counter temp result with
  | zero => cases ends
  | succ rounds induction =>
    rw [loop] at ends
    split at ends
    · split at ends
      · cases ends
      · dsimp only at ends
        rw [ofLength_PRF] at ends
        refine induction _ _ _ ?_ ends
        intro octet listed
        rw [overwrite, List.mem_append, List.mem_append] at listed
        rcases listed with (before | new) | behind
        · exact zeros octet (List.mem_of_mem_take before)
        · exact List.eq_of_mem_replicate new
        · exact zeros octet (List.mem_of_mem_drop behind)
    · cases ends
      exact zeros

theorem ofLength_prfPlus {rounds : Nat} {out : List UInt8}
    (ends : (ofLength size).prfPlus key seed iter rounds = some out) :
    ∀ octet ∈ out, octet = 0 := by
  apply ofLength_loop _ _ _ _ _ _ ends
  intro octet listed
  rw [overwrite_nil, ofLength_PRF] at listed
  exact List.eq_of_mem_replicate listed

theorem mem_expand {octet : UInt8} {i n : Nat} (listed : octet ∈ prf.block key seed (i + 1))
    (inside : i < n) : octet ∈ prf.expand key seed n := by
  induction n with
  | zero => exact absurd inside (Nat.not_lt_zero i)
  | succ n induction =>
    rw [expand, List.mem_append]
    cases Nat.lt_succ_iff_lt_or_eq.mp inside with
    | inl before => exact .inl (induction before)
    | inr last => exact .inr (last ▸ listed)

/-- A block of a message that is too long for 16 bits. -/
theorem ofLength_block (positive : 0 < size) {i : Nat}
    (long : ¬ ((ofLength size).block key seed i ++ seed ++ [UInt8.ofNat (i + 1)]).length < 65536) :
    1 ∈ (ofLength size).block key seed (i + 1) := by
  have ones : (ofLength size).block key seed (i + 1) = List.replicate size 1 :=
    congrArg (List.replicate size) (if_neg long)
  rw [ones]
  exact List.mem_replicate.mpr ⟨Nat.pos_iff_ne_zero.mp positive, rfl⟩

theorem fits_of_expands (positive : 0 < size) (isCount : iter ≠ 0)
    (expands : ∀ (prf : Prf size) key, prf.Expands key seed iter) : Fits size seed iter := by
  obtain ⟨rounds, result, ends, isExpansion, _⟩ := expands (ofLength size) []
  have zeros := ofLength_prfPlus ends
  rw [isExpansion] at zeros
  have count : 0 < iter.toNat := by
    apply Nat.pos_of_ne_zero
    intro zero
    exact isCount (UInt8.toNat_inj.mp zero)
  have noOne : ∀ i, i < iter.toNat → 1 ∉ (ofLength size).block [] seed (i + 1) := by
    intro i inside listed
    exact absurd (zeros 1 (mem_expand listed inside)) (by decide)
  refine ⟨?_, ?_⟩
  · apply UInt8.lt_of_le_of_ne
    · change iter.toNat ≤ 255
      have bound := iter.toNat_lt
      omega
    · intro most
      rw [most] at ends
      unfold prfPlus at ends
      dsimp only at ends
      rw [loop_endless] at ends
      cases ends
  · by_contra long
    by_cases single : iter > 1
    · rw [if_pos single] at long
      have second : 1 < iter.toNat := single
      apply noOne 1 second
      apply ofLength_block positive
      rw [List.length_append, List.length_append, length_block, List.length_singleton]
      omega
    · rw [if_neg single] at long
      apply noOne 0 count
      apply ofLength_block positive
      rw [List.length_append, List.length_append, List.length_singleton]
      change ¬ 0 + seed.length + 1 < 65536
      omega

/-- `PRF_plus` is the expansion for every function and key exactly where fewer than 255 blocks are
asked for, and the octets hashed for one of them are counted in 16 bits. -/
theorem prfPlus_expands_iff (positive : 0 < size) (iter : UInt8) (isCount : iter ≠ 0)
    (seed : List UInt8) :
    (∀ (prf : Prf size) key, prf.Expands key seed iter) ↔ Fits size seed iter := by
  constructor
  · exact fits_of_expands positive isCount
  · intro fits prf key
    have small := fits.2
    refine ⟨iter.toNat, _, prfPlus_eq isCount fits, rfl, ?_⟩
    rw [generate_eq (by omega), take_expand_comm]

/-- One block of 20 octets from no seed. -/
theorem one_block_expands :
    (∀ (prf : Prf 20) key, prf.Expands key [] 1) ↔ Fits 20 [] 1 :=
  prfPlus_expands_iff (by decide) 1 (by decide) []

/-- With 255 blocks the loop never ends. -/
theorem all_blocks_endless : ¬ (ofLength 20).Expands [] [] 255 := by
  intro ⟨rounds, result, ends, _⟩
  unfold prfPlus at ends
  dsimp only at ends
  rw [loop_endless] at ends
  cases ends

end Prf

end OpenDiameter.Pana
