import OpenDiameter.Peer.PeerMachine

/-!
`Elect` on both sides of a connection: which of two hosts wins, and which one should.
-/

namespace OpenDiameter.Peer

/-- The octet of a host, which is padded with zeros. -/
def octetAt (host : List Int8) (index : Nat) : UInt8 := (host[index]?.map Int8.toUInt8).getD 0

/-- The first octets that differ are compared as unsigned ones. -/
def Larger (host other : List Int8) : Prop :=
  ∃ index, (∀ earlier < index, octetAt host earlier = octetAt other earlier) ∧
    octetAt other index < octetAt host index

/-- Exactly one side wins, and its host is the larger one. -/
structure Elected (host other : List Int8) : Prop where
  one : electHosts host other = .won ↔ electHosts other host ≠ .won
  larger : electHosts host other = .won ↔ Larger host other
  alsoLarger : electHosts other host = .won ↔ Larger other host

/-- The first octet of a rest that is not 8 is between 9 and 127. -/
def Exceeds (rest : List Int8) : Prop :=
  ∃ octet ∈ (rest.dropWhile (· == 8)).head?, 8 < octet

/-- Hosts that `Elect` tells apart as it should. -/
inductive ToldApart : List Int8 → List Int8 → Prop where
  | same (octet : Int8) {host other : List Int8} (later : ToldApart host other) :
      ToldApart (octet :: host) (octet :: other)
  | differ {octet otherOctet : Int8} (host other : List Int8) (differs : octet ≠ otherOctet)
      (alike : octet < 0 ↔ otherOctet < 0) : ToldApart (octet :: host) (otherOctet :: other)
  | shorter {rest : List Int8} (exceeds : Exceeds rest) : ToldApart [] rest
  | longer {rest : List Int8} (exceeds : Exceeds rest) : ToldApart rest []

/-! The comparison of `Elect`, with the padding put in where an octet is missing. -/

def wins : List Int8 → List Int8 → Bool
  | [], [] => false
  | octet :: host, [] => if octet = 8 then wins host [] else octet > 8
  | [], octet :: other => if 8 = octet then wins [] other else 8 > octet
  | octet :: host, otherOctet :: other =>
    if octet = otherOctet then wins host other else octet > otherOctet

section

variable {host other rest : List Int8} {octet otherOctet : Int8}

theorem compareHosts_cons :
    compareHosts (octet :: host) (otherOctet :: other) = .won ↔
      if octet = otherOctet then compareHosts host other = .won else octet > otherOctet := by
  rw [compareHosts]
  split
  · rfl
  · split
    · rename_i above
      exact iff_of_true rfl above
    · rename_i notAbove
      exact iff_of_false (fun same => nomatch same) notAbove

theorem compareHosts_padded (host other : List Int8) :
    compareHosts (host ++ List.replicate (other.length - host.length) 8)
        (other ++ List.replicate (host.length - other.length) 8) = .won ↔
      wins host other = true := by
  induction host, other using wins.induct with
  | case1 =>
    rw [wins]
    exact iff_of_false (fun same => nomatch same) Bool.false_ne_true
  | case2 host induction =>
    rw [wins, if_pos rfl, ← induction]
    rw [List.length_nil, List.length_cons, Nat.zero_sub, Nat.zero_sub, Nat.sub_zero, Nat.sub_zero,
      List.replicate_succ, List.cons_append, List.nil_append, compareHosts_cons, if_pos rfl]
    rfl
  | case3 octet host other =>
    rw [wins, if_neg other, List.length_nil, List.length_cons, Nat.sub_zero, List.replicate_succ,
      List.cons_append, List.nil_append, compareHosts_cons, if_neg other, decide_eq_true_eq]
  | case4 other induction =>
    rw [wins, if_pos rfl, ← induction]
    rw [List.length_nil, List.length_cons, Nat.zero_sub, Nat.zero_sub, Nat.sub_zero, Nat.sub_zero,
      List.replicate_succ, List.nil_append, List.cons_append, compareHosts_cons, if_pos rfl]
    rfl
  | case5 octet other differs =>
    rw [wins, if_neg differs, List.length_nil, List.length_cons, Nat.sub_zero,
      List.replicate_succ, List.nil_append, List.cons_append, compareHosts_cons, if_neg differs,
      decide_eq_true_eq]
  | case6 host octet other induction =>
    rw [wins, if_pos rfl, ← induction, List.length_cons, List.length_cons, Nat.add_sub_add_right,
      Nat.add_sub_add_right, List.cons_append, List.cons_append, compareHosts_cons, if_pos rfl]
  | case7 octet host otherOctet other differs =>
    rw [wins, if_neg differs, List.cons_append, List.cons_append, compareHosts_cons,
      if_neg differs, decide_eq_true_eq]

theorem electHosts_won_iff (distinct : host ≠ other) :
    electHosts host other = .won ↔ wins host other = true := by
  rw [← compareHosts_padded, electHosts]
  split
  · rename_i shorter
    rw [Nat.sub_eq_zero_of_le (Nat.le_of_lt shorter), List.replicate_zero, List.append_nil]
  · split
    · rename_i longer
      rw [Nat.sub_eq_zero_of_le (Nat.le_of_lt longer), List.replicate_zero, List.append_nil]
    · rename_i notShorter notLonger
      rw [Nat.sub_eq_zero_of_le (Nat.not_lt.1 notShorter),
        Nat.sub_eq_zero_of_le (Nat.not_lt.1 notLonger), List.replicate_zero, List.append_nil,
        List.append_nil]

/-! The octets of a host as unsigned ones. -/

theorem toInt_eq (octet : Int8) :
    octet.toInt = if 2 * octet.toUInt8.toNat < 256 then (octet.toUInt8.toNat : Int)
      else (octet.toUInt8.toNat : Int) - 256 :=
  BitVec.toInt_eq_toNat_cond octet.toBitVec

theorem negative_iff : octet < 0 ↔ ¬2 * octet.toUInt8.toNat < 256 := by
  rw [Int8.lt_iff_toInt_lt, toInt_eq, show (0 : Int8).toInt = 0 from rfl]
  have bound := octet.toUInt8.toNat_lt
  split <;> omega

/-- Octets of the same sign are ordered alike. -/
theorem lt_iff (alike : octet < 0 ↔ otherOctet < 0) :
    octet.toUInt8 < otherOctet.toUInt8 ↔ octet < otherOctet := by
  rw [negative_iff, negative_iff] at alike
  rw [Int8.lt_iff_toInt_lt, UInt8.lt_iff_toNat_lt, toInt_eq, toInt_eq]
  split <;> split <;> omega

/-- Of an octet below 128 and another one the first is the smaller one. -/
theorem lt_of_negative (positive : ¬octet < 0) (negative : otherOctet < 0) :
    octet.toUInt8 < otherOctet.toUInt8 ∧ otherOctet < octet := by
  have bound := octet.toUInt8.toNat_lt
  have otherBound := otherOctet.toUInt8.toNat_lt
  rw [negative_iff] at positive negative
  rw [Int8.lt_iff_toInt_lt, UInt8.lt_iff_toNat_lt, toInt_eq, toInt_eq, if_neg negative,
    if_pos (Decidable.not_not.1 positive)]
  omega

theorem toUInt8_ne (differs : octet ≠ otherOctet) : octet.toUInt8 ≠ otherOctet.toUInt8 :=
  fun same => differs (Int8.toInt.inj (by rw [toInt_eq, toInt_eq, same]))

theorem exceeding_pos (exceeding : 8 < octet) : 0 < octet.toUInt8 := by
  have bound := octet.toUInt8.toNat_lt
  rw [Int8.lt_iff_toInt_lt, toInt_eq octet, show (8 : Int8).toInt = 8 from rfl] at exceeding
  rw [UInt8.lt_iff_toNat_lt]
  show 0 < octet.toUInt8.toNat
  split at exceeding <;> omega

/-! The larger host, octet by octet. -/

theorem larger_iff : Larger host other ↔
    octetAt other 0 < octetAt host 0 ∨
      octetAt host 0 = octetAt other 0 ∧ Larger host.tail other.tail := by
  have tail_octet (text : List Int8) (index : Nat) :
      octetAt text.tail index = octetAt text (index + 1) := by
    rw [octetAt, List.getElem?_tail, octetAt]
  constructor
  · rintro ⟨index, same, larger⟩
    cases index with
    | zero => exact .inl larger
    | succ index =>
      apply Or.inr
      constructor
      · exact same 0 (Nat.succ_pos index)
      · refine ⟨index, fun earlier isEarlier => ?_, ?_⟩
        · rw [tail_octet, tail_octet]
          exact same (earlier + 1) (Nat.succ_lt_succ isEarlier)
        · rw [tail_octet, tail_octet]
          exact larger
  · rintro (larger | ⟨first, index, same, larger⟩)
    · exact ⟨0, ⟨fun earlier isEarlier => absurd isEarlier (Nat.not_lt_zero earlier), larger⟩⟩
    · refine ⟨index + 1, fun earlier isEarlier => ?_, ?_⟩
      · cases earlier with
        | zero => exact first
        | succ earlier =>
          rw [← tail_octet, ← tail_octet]
          exact same earlier (Nat.lt_of_succ_lt_succ isEarlier)
      · rw [← tail_octet, ← tail_octet]
        exact larger

theorem octetAt_zero : octetAt (octet :: host) 0 = octet.toUInt8 := rfl

theorem larger_cons : Larger (octet :: host) (octet :: other) ↔ Larger host other := by
  rw [larger_iff, octetAt_zero, octetAt_zero]
  constructor
  · rintro (larger | ⟨first, larger⟩)
    · exact absurd larger (UInt8.lt_irrefl _)
    · exact larger
  · exact fun larger => .inr ⟨rfl, larger⟩

theorem larger_differ (differs : octet ≠ otherOctet) :
    Larger (octet :: host) (otherOctet :: other) ↔ otherOctet.toUInt8 < octet.toUInt8 := by
  rw [larger_iff, octetAt_zero, octetAt_zero]
  constructor
  · rintro (larger | ⟨first, larger⟩)
    · exact larger
    · exact absurd first (toUInt8_ne differs)
  · exact .inl

/-- The padding is never the larger one. -/
theorem not_larger_padding : ¬Larger [] rest := by
  rintro ⟨index, same, larger⟩
  exact absurd larger (UInt8.not_lt.2 UInt8.zero_le)

theorem not_exceeds_nil : ¬Exceeds [] := fun ⟨_, isHead, _⟩ => nomatch isHead

theorem exceeds_cons : Exceeds (octet :: rest) ↔ if octet = 8 then Exceeds rest else 8 < octet := by
  rw [Exceeds, List.dropWhile_cons]
  by_cases padding : octet = 8
  · rw [if_pos padding, if_pos (beq_iff_eq.2 padding), Exceeds]
  · rw [if_neg padding, if_neg (fun same => padding (eq_of_beq same))]
    constructor
    · rintro ⟨first, isHead, exceeding⟩
      exact Option.some.inj isHead ▸ exceeding
    · exact fun exceeding => ⟨octet, rfl, exceeding⟩

theorem larger_of_exceeds (exceeds : Exceeds rest) : Larger rest [] := by
  cases rest with
  | nil => exact absurd exceeds not_exceeds_nil
  | cons octet rest =>
    rw [larger_iff]
    apply Or.inl
    rw [exceeds_cons] at exceeds
    by_cases padding : octet = 8
    · rw [padding]
      exact show (0 : UInt8) < 8 by decide
    · rw [if_neg padding] at exceeds
      exact exceeding_pos exceeds

/-! What is left of the longer host against the padding. -/

theorem wins_padding : wins rest [] = true ↔ Exceeds rest := by
  induction rest with
  | nil =>
    rw [wins]
    exact iff_of_false Bool.false_ne_true not_exceeds_nil
  | cons octet rest induction =>
    rw [wins, exceeds_cons]
    by_cases padding : octet = 8
    · rw [if_pos padding, if_pos padding, induction]
    · rw [if_neg padding, if_neg padding, decide_eq_true_eq]

theorem padding_loses (exceeds : Exceeds rest) : ¬wins [] rest = true := by
  induction rest with
  | nil =>
    rw [wins]
    exact Bool.false_ne_true
  | cons octet rest induction =>
    rw [wins]
    rw [exceeds_cons] at exceeds
    by_cases padding : octet = 8
    · rw [if_pos padding.symm]
      rw [if_pos padding] at exceeds
      exact induction exceeds
    · rw [if_neg (Ne.symm padding), decide_eq_true_eq]
      rw [if_neg padding] at exceeds
      exact Int8.lt_asymm exceeds

/-! Where the election is the right one. -/

/-- `Elected` of the comparison with the padding put in. -/
structure WonAsLarger (host other : List Int8) : Prop where
  one : wins host other = true ↔ ¬wins other host = true
  larger : wins host other = true ↔ Larger host other
  alsoLarger : wins other host = true ↔ Larger other host

theorem elected_iff (distinct : host ≠ other) :
    Elected host other ↔ WonAsLarger host other := by
  constructor
  · rintro ⟨one, larger, alsoLarger⟩
    rw [electHosts_won_iff distinct] at one larger
    rw [ne_eq, electHosts_won_iff distinct.symm] at one
    rw [electHosts_won_iff distinct.symm] at alsoLarger
    exact ⟨one, larger, alsoLarger⟩
  · rintro ⟨one, larger, alsoLarger⟩
    rw [← electHosts_won_iff distinct] at one larger
    rw [← electHosts_won_iff distinct.symm] at one alsoLarger
    exact ⟨one, larger, alsoLarger⟩

theorem WonAsLarger.symm (won : WonAsLarger host other) : WonAsLarger other host where
  one := ⟨fun otherWins hostWins => won.one.1 hostWins otherWins,
    fun loses => Classical.byContradiction fun alsoLoses => loses (won.one.2 alsoLoses)⟩
  larger := won.alsoLarger
  alsoLarger := won.larger

theorem wonAsLarger_cons :
    WonAsLarger (octet :: host) (octet :: other) ↔ WonAsLarger host other := by
  have step (host other : List Int8) :
      wins (octet :: host) (octet :: other) = wins host other := by rw [wins, if_pos rfl]
  constructor
  · rintro ⟨one, larger, alsoLarger⟩
    rw [step, step] at one
    rw [step, larger_cons] at larger alsoLarger
    exact ⟨one, larger, alsoLarger⟩
  · rintro ⟨one, larger, alsoLarger⟩
    rw [← step host, ← step other] at one
    rw [← step, ← larger_cons] at larger alsoLarger
    exact ⟨one, larger, alsoLarger⟩

/-- The first octets that differ decide the election as they should when they have one sign. -/
theorem wonAsLarger_differ (differs : octet ≠ otherOctet) :
    WonAsLarger (octet :: host) (otherOctet :: other) ↔ (octet < 0 ↔ otherOctet < 0) := by
  have wins_iff {octet otherOctet : Int8} (host other : List Int8) (differs : octet ≠ otherOctet) :
      wins (octet :: host) (otherOctet :: other) = true ↔ octet > otherOctet := by
    rw [wins, if_neg differs, decide_eq_true_eq]
  constructor
  · rintro ⟨-, larger, alsoLarger⟩
    rw [wins_iff host other differs, larger_differ differs] at larger
    rw [wins_iff other host differs.symm, larger_differ differs.symm] at alsoLarger
    constructor
    · intro negative
      refine Decidable.byContradiction fun positive => ?_
      have order := lt_of_negative positive negative
      exact Int8.lt_asymm order.2 (larger.2 order.1)
    · intro negative
      refine Decidable.byContradiction fun positive => ?_
      have order := lt_of_negative positive negative
      exact Int8.lt_asymm order.2 (alsoLarger.2 order.1)
  · intro alike
    constructor
    · rw [wins_iff host other differs, wins_iff other host differs.symm]
      constructor
      · exact Int8.lt_asymm
      · intro notBelow
        rcases Int8.lt_or_lt_of_ne differs with below | above
        · exact absurd below notBelow
        · exact above
    · rw [wins_iff host other differs, larger_differ differs, lt_iff alike.symm]
    · rw [wins_iff other host differs.symm, larger_differ differs.symm, lt_iff alike]

theorem wonAsLarger_padding : WonAsLarger rest [] ↔ Exceeds rest := by
  constructor
  · rintro ⟨one, -, alsoLarger⟩
    rw [← wins_padding, one, alsoLarger]
    exact not_larger_padding
  · intro exceeds
    constructor
    · exact iff_of_true (wins_padding.2 exceeds) (padding_loses exceeds)
    · exact iff_of_true (wins_padding.2 exceeds) (larger_of_exceeds exceeds)
    · exact iff_of_false (padding_loses exceeds) not_larger_padding

theorem wonAsLarger_iff (distinct : host ≠ other) :
    WonAsLarger host other ↔ ToldApart host other := by
  induction host generalizing other with
  | nil =>
    constructor
    · exact fun won => .shorter (wonAsLarger_padding.1 won.symm)
    · intro apart
      cases apart with
      | shorter exceeds => exact (wonAsLarger_padding.2 exceeds).symm
      | longer exceeds => exact absurd exceeds not_exceeds_nil
  | cons octet host induction =>
    cases other with
    | nil =>
      rw [wonAsLarger_padding]
      constructor
      · exact .longer
      · intro apart
        cases apart with
        | longer exceeds => exact exceeds
    | cons otherOctet other =>
      by_cases differs : octet = otherOctet
      · subst differs
        rw [wonAsLarger_cons, induction (fun same => distinct (congrArg _ same))]
        constructor
        · exact .same octet
        · intro apart
          cases apart with
          | same _ later => exact later
          | differ _ _ differs => exact absurd rfl differs
      · rw [wonAsLarger_differ differs]
        constructor
        · exact .differ host other differs
        · intro apart
          cases apart with
          | same _ later => exact absurd rfl differs
          | differ _ _ _ alike => exact alike

/-- The sides agree on the winner, the larger host, exactly when the hosts are told apart. -/
theorem elect_elects_iff (distinct : host ≠ other) : Elected host other ↔ ToldApart host other := by
  rw [elected_iff distinct]
  exact wonAsLarger_iff distinct

end

/-- `b` wins against `ab`, and `ab` knows it. -/
theorem elect_elects_names : Elected [98] [97, 98] :=
  (elect_elects_iff (by decide)).2 (.differ [] [98] (by decide) (by decide))

/-- Nobody wins between `a` and `a` with an octet 8, and `a` wins against octets from 128 on. -/
theorem election_of_padding_and_sign :
    ¬Elected [97] [97, 8] ∧ ¬Elected [97] [-61, -95] := by
  constructor
  · intro elected
    exact absurd (elected.one.2 (by decide)) (by decide)
  · intro elected
    have above : Larger [-61, -95] [97] :=
      ⟨0, ⟨fun earlier isEarlier => absurd isEarlier (Nat.not_lt_zero earlier), by decide⟩⟩
    exact absurd (elected.alsoLarger.2 above) (by decide)

section

variable {host other : List Int8}

theorem exceeds_of_plain (present : host ≠ []) (plain : ∀ octet ∈ host, 8 < octet) :
    Exceeds host := by
  cases host with
  | nil => exact absurd rfl present
  | cons octet host =>
    have exceeding := plain octet List.mem_cons_self
    rw [exceeds_cons, if_neg (Int8.ne_of_lt exceeding).symm]
    exact exceeding

/-- Hosts of printable octets are told apart. -/
theorem plain_toldApart (distinct : host ≠ other) (plain : ∀ octet ∈ host, 8 < octet)
    (otherPlain : ∀ octet ∈ other, 8 < octet) : ToldApart host other := by
  induction host generalizing other with
  | nil => exact .shorter (exceeds_of_plain distinct.symm otherPlain)
  | cons octet host induction =>
    cases other with
    | nil => exact .longer (exceeds_of_plain distinct plain)
    | cons otherOctet other =>
      by_cases differs : octet = otherOctet
      · subst differs
        apply ToldApart.same
        apply induction (fun same => distinct (congrArg _ same))
        · exact fun octet isIn => plain octet (List.mem_cons_of_mem _ isIn)
        · exact fun octet isIn => otherPlain octet (List.mem_cons_of_mem _ isIn)
      · have positive {octet : Int8} (exceeding : 8 < octet) : ¬octet < 0 := fun negative =>
          absurd (Int8.lt_trans exceeding negative) (by decide)
        refine .differ host other differs (iff_of_false ?_ ?_)
        · exact positive (plain octet List.mem_cons_self)
        · exact positive (otherPlain otherOctet List.mem_cons_self)

end

end OpenDiameter.Peer
