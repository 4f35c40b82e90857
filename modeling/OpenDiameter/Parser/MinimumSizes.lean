import Mathlib.Algebra.BigOperators.Group.List.Basic
import Mathlib.Algebra.GroupWithZero.Nat
import Mathlib.Tactic.Choose
import OpenDiameter.Parser.EncoderAppends

/-!
The minimum size of an AVP, as its group rules give it, and what `getMinSize` makes of it.
-/

namespace OpenDiameter.Parser

open Foundation

/-- The length of the header that an AVP of the entry has. -/
def DictionaryEntry.headerLength (avp : DictionaryEntry) : Nat :=
  if avp.flags.vendorSpecific then 12 else 8

/-- As the loader makes an entry: it has the V flag if it has a vendor. -/
def DictionaryEntry.Loaded (avp : DictionaryEntry) : Prop :=
  avp.flags.vendorSpecific = true ↔ avp.vendorId ≠ 0

namespace Dictionary

structure Loaded (dictionary : Dictionary) : Prop where
  members : ∀ gavp ∈ dictionary.groupedAvpList, ∀ member ∈ gavp.avpF ++ gavp.avpR ++ gavp.avpO,
    member.avp.Loaded

/-- The rule of a grouped AVP lists another AVP. -/
def Contains (dictionary : Dictionary) (member avp : DictionaryEntry) : Prop :=
  avp.avpType = .grouped ∧ ∃ gavp, dictionary.searchGrouped avp.avpCode avp.vendorId = some gavp ∧
    ∃ qavp ∈ gavp.avpF ++ gavp.avpR ++ gavp.avpO, qavp.avp = member

/-- No AVP is listed inside of itself, at any depth. -/
def Acyclic (dictionary : Dictionary) : Prop := WellFounded dictionary.Contains

end Dictionary

/-- The sum over AVPs of a rule, each counted as often as it has to occur. -/
def minimumPayload (size : DictionaryEntry → Nat) (members : List QualifiedAvp) : Nat :=
  (members.map fun member => member.min * size member.avp).sum

/-- The minimum size of an AVP: its header, and the minimum payload of its type or of its group. -/
inductive HasMinSize (dictionary : Dictionary) : DictionaryEntry → Nat → Prop where
  | plain {avp : DictionaryEntry} (notGrouped : avp.avpType ≠ .grouped) :
      HasMinSize dictionary avp (avp.headerLength + avp.avpType.minSize)
  | grouped {avp : DictionaryEntry} {gavp : DiameterDictionary} (isGrouped : avp.avpType = .grouped)
      (found : dictionary.searchGrouped avp.avpCode avp.vendorId = some gavp)
      (size : DictionaryEntry → Nat)
      (sizes : ∀ member ∈ gavp.avpF ++ gavp.avpR, HasMinSize dictionary member.avp (size member.avp)) :
      HasMinSize dictionary avp
        (avp.headerLength + minimumPayload size (gavp.avpF ++ gavp.avpR))

/-- No fixed AVP counts: neither in the group of the AVP, nor in that of a required AVP inside of
it that counts. -/
inductive FixedFree (dictionary : Dictionary) : DictionaryEntry → Prop where
  | plain {avp : DictionaryEntry} (notGrouped : avp.avpType ≠ .grouped) : FixedFree dictionary avp
  | grouped {avp : DictionaryEntry} {gavp : DiameterDictionary} (isGrouped : avp.avpType = .grouped)
      (found : dictionary.searchGrouped avp.avpCode avp.vendorId = some gavp)
      (fixed : ∀ member ∈ gavp.avpF, member.min = 0)
      (required : ∀ member ∈ gavp.avpR, member.min ≠ 0 → FixedFree dictionary member.avp) :
      FixedFree dictionary avp

section Payload

variable {size other : DictionaryEntry → Nat} {members : List QualifiedAvp}

@[simp] theorem minimumPayload_nil : minimumPayload size [] = 0 := rfl

@[simp] theorem minimumPayload_cons {member : QualifiedAvp} :
    minimumPayload size (member :: members) =
      member.min * size member.avp + minimumPayload size members := List.sum_cons

theorem minimumPayload_append {others : List QualifiedAvp} :
    minimumPayload size (members ++ others) =
      minimumPayload size members + minimumPayload size others := by
  rw [minimumPayload, List.map_append, List.sum_append]
  rfl

theorem minimumPayload_mod
    (same : ∀ member ∈ members, size member.avp = other member.avp % 4294967296) :
    minimumPayload size members % 4294967296 = minimumPayload other members % 4294967296 := by
  induction members with
  | nil => rfl
  | cons member members induction =>
    rw [List.forall_mem_cons] at same
    rw [minimumPayload_cons, minimumPayload_cons, Nat.add_mod, induction same.2, same.1,
      Nat.mul_mod_mod, ← Nat.add_mod]

theorem minimumPayload_le (le : ∀ member ∈ members, size member.avp ≤ other member.avp) :
    minimumPayload size members ≤ minimumPayload other members := by
  induction members with
  | nil => exact Nat.le_refl _
  | cons member members induction =>
    rw [List.forall_mem_cons] at le
    rw [minimumPayload_cons, minimumPayload_cons]
    exact Nat.add_le_add (Nat.mul_le_mul_left _ le.1) (induction le.2)

/-- A sum of smaller sizes is the same where the ones that count are the same. -/
theorem minimumPayload_eq_iff (le : ∀ member ∈ members, size member.avp ≤ other member.avp) :
    minimumPayload size members = minimumPayload other members ↔
      ∀ member ∈ members, member.min ≠ 0 → size member.avp = other member.avp := by
  induction members with
  | nil => exact iff_of_true rfl fun _ listed => nomatch listed
  | cons member members induction =>
    rw [List.forall_mem_cons] at le
    rw [List.forall_mem_cons, minimumPayload_cons, minimumPayload_cons, ← induction le.2]
    have first := Nat.mul_le_mul_left member.min le.1
    have others := minimumPayload_le le.2
    have own : member.min * size member.avp = member.min * other member.avp ↔
        (member.min ≠ 0 → size member.avp = other member.avp) := by
      by_cases none : member.min = 0
      · rw [none, Nat.zero_mul, Nat.zero_mul]
        exact iff_of_true rfl fun some => absurd rfl some
      · constructor
        · exact fun same _ => Nat.eq_of_mul_eq_mul_left (Nat.pos_of_ne_zero none) same
        · exact fun same => congrArg _ (same none)
    rw [← own]
    omega

theorem minimumPayload_eq_zero_iff (positive : ∀ member ∈ members, 0 < size member.avp) :
    minimumPayload size members = 0 ↔ ∀ member ∈ members, member.min = 0 := by
  induction members with
  | nil => exact iff_of_true rfl fun _ listed => nomatch listed
  | cons member members induction =>
    rw [List.forall_mem_cons] at positive
    rw [List.forall_mem_cons, minimumPayload_cons, Nat.add_eq_zero_iff, induction positive.2,
      Nat.mul_eq_zero]
    apply and_congr _ Iff.rfl
    exact or_iff_left (Nat.ne_of_gt positive.1)

end Payload

theorem HasMinSize.exists_payload {dictionary : Dictionary} {avp : DictionaryEntry} {size : Nat}
    (isSize : HasMinSize dictionary avp size) : ∃ payload, size = avp.headerLength + payload := by
  cases isSize with
  | plain => exact ⟨_, rfl⟩
  | grouped => exact ⟨_, rfl⟩

theorem HasMinSize.positive {dictionary : Dictionary} {avp : DictionaryEntry} {size : Nat}
    (isSize : HasMinSize dictionary avp size) : 0 < size := by
  have header : 0 < avp.headerLength := by
    rw [DictionaryEntry.headerLength]
    split <;> decide
  cases isSize with
  | plain => exact Nat.lt_of_lt_of_le header (Nat.le_add_right _ _)
  | grouped => exact Nat.lt_of_lt_of_le header (Nat.le_add_right _ _)

/-! What `getMinSize` returns. -/

section Measure

variable {dictionary : Dictionary}

/-- What a measure returns, where it returns. -/
def measured (measure : DictionaryEntry → Except Failure Nat) (avp : DictionaryEntry) : Nat :=
  match measure avp with
  | .ok size => size
  | .error _ => 0

theorem measured_of_ok {measure : DictionaryEntry → Except Failure Nat} {avp : DictionaryEntry}
    {size : Nat} (isSize : measure avp = .ok size) : measured measure avp = size := by
  rw [measured, isSize]

theorem foldMinSize_ok {measure : DictionaryEntry → Except Failure Nat}
    {members : List QualifiedAvp} {start sum : Nat}
    (returned : members.foldlM
      (fun sum member => do
        let size ← measure member.avp
        return (sum + size * member.min) % 4294967296) start = .ok sum) :
    (∀ member ∈ members, measure member.avp = .ok (measured measure member.avp)) ∧
      sum % 4294967296 = (start + minimumPayload (measured measure) members) % 4294967296 := by
  induction members generalizing start with
  | nil =>
    cases returned
    exact ⟨fun _ listed => (nomatch listed), rfl⟩
  | cons member members induction =>
    rw [List.foldlM_cons] at returned
    obtain ⟨next, isNext, rest⟩ := bind_eq_ok.mp returned
    obtain ⟨size, isSize, isSum⟩ := bind_eq_ok.mp isNext
    cases isSum
    obtain ⟨all, same⟩ := induction rest
    rw [List.forall_mem_cons, minimumPayload_cons, measured_of_ok isSize]
    refine ⟨⟨isSize, all⟩, ?_⟩
    rw [same, Nat.mod_add_mod, Nat.mul_comm, Nat.add_assoc]

/-- The sum over a list counts every AVP of it. -/
theorem qualifiedMinSize_ok {measure : DictionaryEntry → Except Failure Nat}
    {members : List QualifiedAvp} {sum : Nat} (returned : qualifiedMinSize measure members = .ok sum) :
    (∀ member ∈ members, measure member.avp = .ok (measured measure member.avp)) ∧
      sum % 4294967296 = minimumPayload (measured measure) members % 4294967296 := by
  have both := foldMinSize_ok returned
  rwa [Nat.zero_add] at both

/-- The length of the header as `getMinSize` counts it. -/
theorem headerLength_eq {avp : DictionaryEntry} (loaded : avp.Loaded) :
    avp.headerLength = 8 + if avp.vendorId = 0 then 0 else 4 := by
  rw [DictionaryEntry.headerLength]
  by_cases flag : avp.flags.vendorSpecific = true
  · rw [if_pos flag, if_neg (loaded.1 flag)]
  · have none : avp.vendorId = 0 := by
      apply Decidable.byContradiction
      exact fun some => flag (loaded.2 some)
    rw [if_neg flag, if_pos none]

theorem mem_of_searchGrouped {code vendorId : Nat} {gavp : DiameterDictionary}
    (found : dictionary.searchGrouped code vendorId = some gavp) :
    gavp ∈ dictionary.groupedAvpList := List.mem_of_find?_eq_some found

/-- What is measured of an AVP: what its minimum size is, but for the fixed AVPs, and no more than
32 bits of it. -/
theorem getMinSize_ok (loaded : dictionary.Loaded) {stack : Nat} {avp : DictionaryEntry}
    (own : avp.Loaded) {returned : Nat} (isReturned : getMinSize dictionary stack avp = .ok returned) :
    ∃ size counted, HasMinSize dictionary avp size ∧ counted ≤ size ∧
      returned = counted % 4294967296 ∧ (counted = size ↔ FixedFree dictionary avp) := by
  induction stack generalizing avp returned with
  | zero => cases isReturned
  | succ stack induction =>
    obtain ⟨sum, isSum, rest⟩ := bind_eq_ok.mp isReturned
    cases rest
    rw [groupedMinSize] at isSum
    by_cases isGrouped : avp.avpType = .grouped
    · rw [if_pos isGrouped] at isSum
      split at isSum
      · cases isSum
      · rename_i gavp found
        obtain ⟨fixed, isFixed, isRequired⟩ := bind_eq_ok.mp isSum
        have fixedOk := qualifiedMinSize_ok isFixed
        have requiredOk := qualifiedMinSize_ok isRequired
        have listed := loaded.members gavp (mem_of_searchGrouped found)
        have each : ∀ inner, (∃ member ∈ gavp.avpF ++ gavp.avpR, member.avp = inner) →
            ∃ size counted, HasMinSize dictionary inner size ∧ counted ≤ size ∧
            measured (getMinSize dictionary stack) inner = counted % 4294967296 ∧
            (counted = size ↔ FixedFree dictionary inner) := by
          intro inner ⟨member, inside, isInner⟩
          subst isInner
          apply induction (listed member (List.mem_append_left _ inside))
          cases List.mem_append.1 inside with
          | inl inside => exact fixedOk.1 member inside
          | inr inside => exact requiredOk.1 member inside
        choose! size counted isSize le isMeasured same using each
        have inF (member : QualifiedAvp) (inside : member ∈ gavp.avpF) :
            ∃ other ∈ gavp.avpF ++ gavp.avpR, other.avp = member.avp :=
          ⟨member, List.mem_append_left _ inside, rfl⟩
        have inR (member : QualifiedAvp) (inside : member ∈ gavp.avpR) :
            ∃ other ∈ gavp.avpF ++ gavp.avpR, other.avp = member.avp :=
          ⟨member, List.mem_append_right _ inside, rfl⟩
        have requiredLe := minimumPayload_le fun member inside => le member.avp (inR member inside)
        refine ⟨avp.headerLength + minimumPayload size (gavp.avpF ++ gavp.avpR),
          avp.headerLength + minimumPayload counted gavp.avpR,
          .grouped isGrouped found size fun member inside => isSize _ ⟨member, inside, rfl⟩,
          ?_, ?_, ?_⟩
        · rw [minimumPayload_append]
          omega
        · have sums := requiredOk.2.trans
            (minimumPayload_mod fun member inside => isMeasured member.avp (inR member inside))
          rw [headerLength_eq own, isGrouped]
          change (sum + 0 + 8 + _) % 4294967296 = _
          omega
        · have fixedZero := minimumPayload_eq_zero_iff fun member inside =>
            (isSize member.avp (inF member inside)).positive
          have requiredSame := minimumPayload_eq_iff fun member inside =>
            le member.avp (inR member inside)
          have both : avp.headerLength + minimumPayload counted gavp.avpR =
              avp.headerLength + minimumPayload size (gavp.avpF ++ gavp.avpR) ↔
                minimumPayload size gavp.avpF = 0 ∧
                  minimumPayload counted gavp.avpR = minimumPayload size gavp.avpR := by
            rw [minimumPayload_append]
            omega
          rw [both, fixedZero, requiredSame]
          constructor
          · intro ⟨uncounted, sameRequired⟩
            refine .grouped isGrouped found uncounted fun member inside counts => ?_
            exact (same member.avp (inR member inside)).1 (sameRequired member inside counts)
          · intro free
            cases free with
            | plain notGrouped => exact absurd isGrouped notGrouped
            | grouped _ again uncounted required =>
              cases found.symm.trans again
              refine ⟨uncounted, fun member inside counts => ?_⟩
              exact (same member.avp (inR member inside)).2 (required member inside counts)
    · rw [if_neg isGrouped] at isSum
      cases isSum
      refine ⟨_, _, .plain isGrouped, Nat.le_refl _, ?_, iff_of_true rfl (.plain isGrouped)⟩
      rw [headerLength_eq own]
      congr 1
      omega

/-- Where the stack is large enough for each AVP of a list, it is for all of them. -/
theorem exists_stack_succ {enough : Nat → Prop}
    (above : ∃ stack, ∀ deeper, stack ≤ deeper → enough (deeper + 1)) :
    ∃ stack, ∀ deeper, stack ≤ deeper → enough deeper := by
  obtain ⟨stack, isEnough⟩ := above
  refine ⟨stack + 1, fun deeper more => ?_⟩
  obtain ⟨deeper, rfl⟩ := Nat.exists_eq_add_of_le' (Nat.le_trans (Nat.le_add_left 1 stack) more)
  exact isEnough deeper (Nat.le_of_succ_le_succ more)

theorem exists_stack {enough : QualifiedAvp → Nat → Prop} {members : List QualifiedAvp}
    (each : ∀ member ∈ members, ∃ stack, ∀ deeper, stack ≤ deeper → enough member deeper) :
    ∃ stack, ∀ deeper, stack ≤ deeper → ∀ member ∈ members, enough member deeper := by
  induction members with
  | nil => exact ⟨0, fun _ _ _ listed => nomatch listed⟩
  | cons member members induction =>
    rw [List.forall_mem_cons] at each
    obtain ⟨first, isFirst⟩ := each.1
    obtain ⟨others, areOthers⟩ := induction each.2
    refine ⟨max first others, fun deeper more => ?_⟩
    rw [List.forall_mem_cons]
    exact ⟨isFirst deeper (Nat.le_trans (Nat.le_max_left _ _) more),
      areOthers deeper (Nat.le_trans (Nat.le_max_right _ _) more)⟩

theorem qualifiedMinSize_returns {measure : DictionaryEntry → Except Failure Nat}
    {members : List QualifiedAvp} (each : ∀ member ∈ members, ∃ size, measure member.avp = .ok size) :
    ∃ sum, qualifiedMinSize measure members = .ok sum := by
  rw [qualifiedMinSize]
  generalize 0 = start
  induction members generalizing start with
  | nil => exact ⟨start, rfl⟩
  | cons member members induction =>
    rw [List.forall_mem_cons] at each
    obtain ⟨size, isSize⟩ := each.1
    rw [List.foldlM_cons, isSize]
    exact induction each.2 _

theorem qualifiedMinSize_fails {allowed : Failure → Prop}
    {measure : DictionaryEntry → Except Failure Nat} {members : List QualifiedAvp}
    (each : ∀ member ∈ members, FailsOnly allowed (measure member.avp)) :
    FailsOnly allowed (qualifiedMinSize measure members) := by
  rw [qualifiedMinSize]
  generalize 0 = start
  induction members generalizing start with
  | nil => exact FailsOnly.ok start
  | cons member members induction =>
    rw [List.forall_mem_cons] at each
    rw [List.foldlM_cons]
    apply FailsOnly.bind
    · exact FailsOnly.bind each.1 fun _ _ => FailsOnly.ok _
    · exact fun next _ => induction each.2 next

theorem getMinSize_plain {avp : DictionaryEntry} (notGrouped : avp.avpType ≠ .grouped)
    (stack : Nat) : ∃ size, getMinSize dictionary (stack + 1) avp = .ok size := by
  refine ⟨_, bind_eq_ok.mpr ⟨0, ?_, rfl⟩⟩
  rw [groupedMinSize, if_neg notGrouped]

theorem getMinSize_missing {avp : DictionaryEntry} (isGrouped : avp.avpType = .grouped)
    (missing : dictionary.searchGrouped avp.avpCode avp.vendorId = none) (stack : Nat) :
    getMinSize dictionary (stack + 1) avp = .error (.bug ParseError.missingAvpDictionaryEntry) := by
  rw [getMinSize, groupedMinSize, if_pos isGrouped, missing]
  rfl

/-- A group fails as one of its members does. -/
theorem getMinSize_group_fails {allowed : Failure → Prop} {avp : DictionaryEntry}
    {gavp : DiameterDictionary} {stack : Nat} (isGrouped : avp.avpType = .grouped)
    (found : dictionary.searchGrouped avp.avpCode avp.vendorId = some gavp)
    (each : ∀ member ∈ gavp.avpF ++ gavp.avpR,
      FailsOnly allowed (getMinSize dictionary stack member.avp)) :
    FailsOnly allowed (getMinSize dictionary (stack + 1) avp) := by
  apply FailsOnly.bind
  · rw [groupedMinSize, if_pos isGrouped, found]
    apply FailsOnly.bind
    · exact qualifiedMinSize_fails fun member inside =>
        each member (List.mem_append_left _ inside)
    · intro _ _
      exact qualifiedMinSize_fails fun member inside =>
        each member (List.mem_append_right _ inside)
  · exact fun _ _ => FailsOnly.ok _

/-- An AVP that has a minimum size is measured. -/
theorem HasMinSize.measured {avp : DictionaryEntry} {size : Nat}
    (isSize : HasMinSize dictionary avp size) :
    ∃ stack, ∀ deeper, stack ≤ deeper → ∃ returned, getMinSize dictionary deeper avp = .ok returned := by
  induction isSize with
  | plain notGrouped =>
    exact exists_stack_succ ⟨0, fun deeper _ => getMinSize_plain notGrouped deeper⟩
  | grouped isGrouped found size sizes induction =>
    obtain ⟨stack, enough⟩ := exists_stack induction
    apply exists_stack_succ
    refine ⟨stack, fun deeper more => ?_⟩
    have each := enough deeper more
    obtain ⟨fixed, isFixed⟩ := qualifiedMinSize_returns fun member inside =>
      each member (List.mem_append_left _ inside)
    obtain ⟨required, isRequired⟩ := qualifiedMinSize_returns fun member inside =>
      each member (List.mem_append_right _ inside)
    refine ⟨_, bind_eq_ok.mpr ⟨required, ?_, rfl⟩⟩
    rw [groupedMinSize, if_pos isGrouped, found]
    exact bind_eq_ok.mpr ⟨fixed, isFixed, isRequired⟩

/-- The measure returns, or reports that the definition of a group is missing. -/
def Measured (dictionary : Dictionary) (stack : Nat) (avp : DictionaryEntry) : Prop :=
  FailsOnly (fun failure => failure = .bug ParseError.missingAvpDictionaryEntry)
    (getMinSize dictionary stack avp)

/-- Without a cycle the stack does not run out, if it is large enough. -/
theorem Dictionary.Acyclic.measured (acyclic : dictionary.Acyclic) (avp : DictionaryEntry) :
    ∃ stack, ∀ deeper, stack ≤ deeper → Measured dictionary deeper avp := by
  apply acyclic.induction avp
  intro avp induction
  by_cases isGrouped : avp.avpType = .grouped
  · cases found : dictionary.searchGrouped avp.avpCode avp.vendorId with
    | none =>
      apply exists_stack_succ
      refine ⟨0, fun deeper _ => ?_⟩
      rw [Measured, getMinSize_missing isGrouped found]
      exact FailsOnly.error rfl
    | some gavp =>
      have inner : ∀ member ∈ gavp.avpF ++ gavp.avpR, ∃ stack, ∀ deeper, stack ≤ deeper →
          Measured dictionary deeper member.avp := by
        intro member inside
        exact induction member.avp
          ⟨isGrouped, gavp, found, member, List.mem_append_left _ inside, rfl⟩
      obtain ⟨stack, enough⟩ := exists_stack inner
      apply exists_stack_succ
      exact ⟨stack, fun deeper more =>
        getMinSize_group_fails isGrouped found (enough deeper more)⟩
  · apply exists_stack_succ
    refine ⟨0, fun deeper _ => ?_⟩
    obtain ⟨size, isSize⟩ := getMinSize_plain isGrouped deeper
    rw [Measured, isSize]
    exact FailsOnly.ok size

end Measure

/-! How many octets are written for a value. -/

/-- The values of a group are there as often as its rule asks for, and a value of the wildcard AVP
is a whole AVP. -/
inductive ValidValue (dictionary : Dictionary) : DictionaryEntry → AvpContainerEntry → Prop where
  | plain {avp : DictionaryEntry} {entry : AvpContainerEntry} (notGrouped : avp.avpType ≠ .grouped)
      (notData : avp.avpType ≠ .data) : ValidValue dictionary avp entry
  | whole {avp : DictionaryEntry} {octets : List UInt8} (isData : avp.avpType = .data)
      (long : avp.headerLength ≤ octets.length) : ValidValue dictionary avp ⟨.data, .octets octets⟩
  | grouped {avp : DictionaryEntry} {gavp : DiameterDictionary} {acl : AvpContainerList}
      (isGrouped : avp.avpType = .grouped)
      (found : dictionary.searchGrouped avp.avpCode avp.vendorId = some gavp)
      (counts : ∀ member ∈ gavp.avpF ++ gavp.avpR, member.min ≠ 0 →
        ∃ c, acl.search member.avp.avpName = some c ∧ member.min ≤ c.entries.length)
      (values : ∀ member ∈ gavp.avpF ++ gavp.avpR, ∀ c, acl.search member.avp.avpName = some c →
        ∀ entry ∈ c.entries, ValidValue dictionary member.avp entry) :
      ValidValue dictionary avp ⟨.grouped, .grouped acl⟩

section Written

variable {context : ParserContext} {avp : DictionaryEntry} {entry : AvpContainerEntry}
  {buffer after : ByteBuffer} {size : Nat}
  {writeGroup : DiameterDictionary → AvpContainerList → ByteBuffer → Except Failure ByteBuffer}

/-- The values of an AVP take as many octets at least. -/
def NeverShorter (context : ParserContext) (avp : DictionaryEntry) (size : Nat)
    (writeGroup : DiameterDictionary → AvpContainerList → ByteBuffer →
      Except Failure ByteBuffer) : Prop :=
  ∀ entry buffer after, BlockSized buffer → ValidValue context.dictionary avp entry →
    AvpParser.writeEntry context writeGroup avp entry buffer = .ok after →
      size ≤ after.used - buffer.used

theorem length_encoding
    (written : AvpValueParser.parseAppToRaw context avp entry buffer writeGroup = .ok after) :
    avp.avpType.minSize ≤ (entry.data.encoding context).length := by
  rw [AvpValueParser.parseAppToRaw] at written
  cases isType : avp.avpType with
  | integer32 | uinteger32 | enum | time =>
    rw [isType] at written
    have rest := expect_eq_ok written
    cases isData : entry.data with
    | integer32 value => exact Nat.le_refl 4
    | _ =>
      rw [isData] at rest
      cases rest
  | integer64 | uinteger64 =>
    rw [isType] at written
    have rest := expect_eq_ok written
    cases isData : entry.data with
    | integer64 value => exact Nat.le_refl 8
    | _ =>
      rw [isData] at rest
      cases rest
  | _ => exact Nat.zero_le _

theorem used_of_copyOut {data : List UInt8} (written : copyOut buffer data = .ok after) :
    after.used = buffer.used + data.length := by
  obtain ⟨room, rfl⟩ := copyOut_eq_ok written
  exact ByteBuffer.used_fill_of_le room

section

variable (groups : GroupsAppend writeGroup)

include groups

/-- An AVP that is written has its header and its value. -/
theorem writeAvp_used (sized : BlockSized buffer)
    (written : AvpParser.writeAvp context writeGroup avp entry buffer = .ok after) :
    ∃ headed valued, headed.used = buffer.used + avp.headerLength ∧ BlockSized headed ∧
      AvpValueParser.parseAppToRaw context avp entry headed writeGroup = .ok valued ∧
      valued.used ≤ after.used := by
  obtain ⟨headed, header, rest⟩ := bind_eq_ok.mp written
  obtain ⟨valued, value, rest⟩ := bind_eq_ok.mp rest
  obtain ⟨rewound, _, rest⟩ := bind_eq_ok.mp rest
  obtain ⟨complete, _, last⟩ := bind_eq_ok.mp rest
  obtain ⟨fits, isHeaded⟩ := parseAvpHeader_eq_ok header
  subst isHeaded
  have isSized := (fill_appends buffer (avp.header 0).octets).blockSized sized
  have valuedSized := (writeValue_appends groups isSized value).blockSized isSized
  refine ⟨_, valued, ?_, isSized, value, ?_⟩
  · rw [ByteBuffer.used_fill_of_le fits, AvpHeader.length_octets]
    rfl
  · obtain ⟨_, isUsed⟩ := setWritePointer_eq_ok last
    rw [isUsed]
    exact le_adjustWordBoundary valuedSized.used_le

theorem neverShorter_plain (notGrouped : avp.avpType ≠ .grouped) :
    NeverShorter context avp (avp.headerLength + avp.avpType.minSize) writeGroup := by
  intro entry buffer after sized valid written
  rw [AvpParser.writeEntry] at written
  by_cases isData : avp.avpType = .data
  · rw [if_pos isData] at written
    obtain ⟨valued, value, rest⟩ := bind_eq_ok.mp written
    have valuedSized := (writeValue_appends groups sized value).blockSized sized
    have isValued := used_of_copyOut (writeValue_eq_ok notGrouped value)
    have long : avp.headerLength ≤ (entry.data.encoding context).length := by
      cases valid with
      | plain _ notData => exact absurd isData notData
      | whole _ long => exact long
      | grouped isGrouped => exact absurd isGrouped notGrouped
    dsimp only at rest
    split at rest
    · obtain ⟨_, isUsed⟩ := setWritePointer_eq_ok rest
      have forwards := le_adjustWordBoundary valuedSized.used_le
      have none : avp.avpType.minSize = 0 := by
        rw [isData]
        rfl
      rw [isUsed, none]
      omega
    · cases rest
  · rw [if_neg isData] at written
    obtain ⟨headed, valued, isHeaded, _, value, grown⟩ := writeAvp_used groups sized written
    have isValued := used_of_copyOut (writeValue_eq_ok notGrouped value)
    have long := length_encoding value
    omega

theorem entries_written {entries : List AvpContainerEntry}
    (never : NeverShorter context avp size writeGroup) (sized : BlockSized buffer)
    (valid : ∀ entry ∈ entries, ValidValue context.dictionary avp entry)
    (written : AvpParser.parseAppToRaw context writeGroup avp entries buffer = .ok after) :
    entries.length * size ≤ after.used - buffer.used := by
  induction entries generalizing buffer with
  | nil =>
    rw [List.length_nil, Nat.zero_mul]
    exact Nat.zero_le _
  | cons entry entries induction =>
    rw [List.forall_mem_cons] at valid
    obtain ⟨middle, one, rest⟩ := bind_eq_ok.mp written
    have first := writeEntry_appends groups sized one
    have middleSized := first.blockSized sized
    have others := induction middleSized valid.2 rest
    have own := never entry buffer middle sized valid.1 one
    have grown := (writeEntries_appends groups middleSized rest).used_le
    have start := first.used_le
    rw [List.length_cons, Nat.succ_mul]
    omega

theorem members_written {acl : AvpContainerList} {members : List RuleAvp} {bound : RuleAvp → Nat}
    (each : ∀ member ∈ members, ∀ buffer after, BlockSized buffer →
      writeMember context writeGroup acl member buffer = .ok after →
        bound member ≤ after.used - buffer.used) (sized : BlockSized buffer)
    (written : parseAppToRawWithDict context writeGroup acl members buffer = .ok after) :
    (members.map bound).sum ≤ after.used - buffer.used := by
  induction members generalizing buffer with
  | nil => exact Nat.zero_le _
  | cons member members induction =>
    rw [List.forall_mem_cons] at each
    obtain ⟨middle, one, rest⟩ := bind_eq_ok.mp written
    have first := writeMember_appends groups sized one
    have middleSized := first.blockSized sized
    have others := induction each.2 middleSized rest
    have own := each.1 buffer middle sized one
    have grown := (parseAppToRawWithDict_appends groups middleSized rest).used_le
    have start := first.used_le
    rw [List.map_cons, List.sum_cons]
    omega

end

/-- The octets that a member of a rule has to take. -/
def RuleAvp.minimum (size : DictionaryEntry → Nat) (member : RuleAvp) : Nat :=
  if member.parseType = .optional then 0 else member.min * size member.avp

theorem sum_minimum (size : DictionaryEntry → Nat) (gavp : DiameterDictionary) :
    (gavp.ruleAvps.map (RuleAvp.minimum size)).sum =
      minimumPayload size (gavp.avpF ++ gavp.avpR) := by
  have optional : ∀ members : List QualifiedAvp,
      ((members.map fun qavp => (⟨qavp, .optional⟩ : RuleAvp)).map (RuleAvp.minimum size)).sum =
        0 := by
    intro members
    induction members with
    | nil => rfl
    | cons member members induction =>
      rw [List.map_cons, List.map_cons, List.sum_cons, induction]
      rfl
  rw [DiameterDictionary.ruleAvps, List.map_append, List.map_append, List.sum_append,
    List.sum_append, optional, minimumPayload_append, List.map_map, List.map_map]
  rfl

/-- No value is shorter than the minimum size of its AVP. -/
theorem HasMinSize.neverShorter (isSize : HasMinSize context.dictionary avp size) (depth : Nat) :
    NeverShorter context avp size (QualifiedAvpListParser.parseAppToRaw context depth) := by
  induction isSize generalizing depth with
  | plain notGrouped => exact neverShorter_plain (encoder_appends context depth) notGrouped
  | @grouped avp gavp isGrouped found size sizes induction =>
    intro entry buffer after sized valid written
    have notData : avp.avpType ≠ .data := by
      rw [isGrouped]
      decide
    rw [AvpParser.writeEntry, if_neg notData] at written
    obtain ⟨headed, valued, isHeaded, headedSized, value, grown⟩ :=
      writeAvp_used (encoder_appends context depth) sized written
    obtain ⟨acl, other, isEntry, again, inner⟩ := writeGrouped_eq_ok isGrouped value
    subst isEntry
    cases found.symm.trans again
    cases depth with
    | zero => cases inner
    | succ depth =>
      have groups := encoder_appends context depth
      cases valid with
      | plain notGrouped => exact absurd isGrouped notGrouped
      | grouped _ same counts values =>
        cases found.symm.trans same
        have each : ∀ member ∈ gavp.ruleAvps, ∀ buffer after, BlockSized buffer →
            writeMember context (QualifiedAvpListParser.parseAppToRaw context depth) acl
              member buffer = .ok after →
            RuleAvp.minimum size member ≤ after.used - buffer.used := by
          intro member listed buffer after sized written
          rw [RuleAvp.minimum]
          split
          · exact Nat.zero_le _
          · rename_i needed
            have inside : member.toQualifiedAvp ∈ gavp.avpF ++ gavp.avpR := by
              rw [DiameterDictionary.ruleAvps] at listed
              simp only [List.mem_append, List.mem_map] at listed ⊢
              obtain (⟨qavp, isQavp, rfl⟩ | ⟨qavp, isQavp, rfl⟩) | ⟨qavp, _, rfl⟩ := listed
              · exact .inl isQavp
              · exact .inr isQavp
              · exact absurd rfl needed
            by_cases uncounted : member.min = 0
            · rw [uncounted, Nat.zero_mul]
              exact Nat.zero_le _
            · obtain ⟨c, isC, enough⟩ := counts _ inside uncounted
              obtain ⟨absent, _⟩ | ⟨c', isC', _, _, entries⟩ := writeMember_eq_ok written
              · cases isC.symm.trans absent
              · cases isC.symm.trans isC'
                have never := induction member.toQualifiedAvp inside depth
                have all := entries_written groups never sized (values _ inside c isC) entries
                exact Nat.le_trans (Nat.mul_le_mul_right _ enough) all
        have payload := members_written groups each headedSized inner
        rw [sum_minimum] at payload
        have start := (encoder_appends context (depth + 1) gavp acl headed valued headedSized
          inner).used_le
        omega

end Written

/-- With a stack that is large enough an AVP is measured, unless the definition of a group is
missing. -/
theorem getMinSize_cases {dictionary : Dictionary} (acyclic : dictionary.Acyclic)
    (loaded : dictionary.Loaded) {avp : DictionaryEntry} (own : avp.Loaded) :
    ∃ stack, ∀ deeper, stack ≤ deeper →
      (getMinSize dictionary deeper avp = .error (.bug ParseError.missingAvpDictionaryEntry) ∧
        ¬∃ size, HasMinSize dictionary avp size) ∨
      ∃ size counted, getMinSize dictionary deeper avp = .ok (counted % 4294967296) ∧
        HasMinSize dictionary avp size ∧ counted ≤ size ∧
        (counted = size ↔ FixedFree dictionary avp) := by
  by_cases sized : ∃ size, HasMinSize dictionary avp size
  · obtain ⟨size, isSize⟩ := sized
    obtain ⟨stack, enough⟩ := isSize.measured
    refine ⟨stack, fun deeper more => .inr ?_⟩
    obtain ⟨returned, isReturned⟩ := enough deeper more
    obtain ⟨size, counted, isSize, le, isCounted, same⟩ := getMinSize_ok loaded own isReturned
    rw [isCounted] at isReturned
    exact ⟨size, counted, isReturned, isSize, le, same⟩
  · obtain ⟨stack, enough⟩ := acyclic.measured avp
    refine ⟨stack, fun deeper more => .inl ⟨?_, sized⟩⟩
    cases outcome : getMinSize dictionary deeper avp with
    | error failure => rw [enough deeper more failure outcome]
    | ok returned =>
      obtain ⟨size, _, isSize, _⟩ := getMinSize_ok loaded own outcome
      exact absurd ⟨size, isSize⟩ sized

/-- `getMinSize` returns the minimum size of an AVP, and nothing shorter is written, just where no
fixed AVP counts and the size fits in 32 bits. Without the definition of a group it throws. -/
theorem getMinSize_exact (context : ParserContext) (acyclic : context.dictionary.Acyclic)
    (loaded : context.dictionary.Loaded) (avp : DictionaryEntry) (own : avp.Loaded) :
    ∃ stack, ∀ deeper, stack ≤ deeper →
      (getMinSize context.dictionary deeper avp =
          .error (.bug ParseError.missingAvpDictionaryEntry) ∧
        ¬∃ size, HasMinSize context.dictionary avp size) ∨
      ∃ returned size, getMinSize context.dictionary deeper avp = .ok returned ∧
        HasMinSize context.dictionary avp size ∧
        ((returned = size ∧ ∀ depth, NeverShorter context avp returned
            (QualifiedAvpListParser.parseAppToRaw context depth)) ↔
          FixedFree context.dictionary avp ∧ size < 4294967296) := by
  obtain ⟨stack, enough⟩ := getMinSize_cases acyclic loaded own
  refine ⟨stack, fun deeper more => ?_⟩
  cases enough deeper more with
  | inl missing => exact .inl missing
  | inr returns =>
    obtain ⟨size, counted, isReturned, isSize, le, same⟩ := returns
    refine .inr ⟨_, size, isReturned, isSize, ?_⟩
    rw [← same]
    constructor
    · intro ⟨exact, _⟩
      omega
    · intro ⟨isFree, fits⟩
      have exact : counted % 4294967296 = size := by omega
      rw [exact]
      exact ⟨rfl, isSize.neverShorter⟩

/-! The group of the base dictionary that has a fixed AVP. -/

namespace VendorSpecificApplicationId

def vendorId : DictionaryEntry :=
  { avpName := "Vendor-Id", avpCode := 266, avpType := .uinteger32, vendorId := 0
    flags := ⟨true, false, false⟩ }

def authApplicationId : DictionaryEntry :=
  { avpName := "Auth-Application-Id", avpCode := 258, avpType := .uinteger32, vendorId := 0
    flags := ⟨true, false, false⟩ }

def acctApplicationId : DictionaryEntry :=
  { avpName := "Acct-Application-Id", avpCode := 259, avpType := .uinteger32, vendorId := 0
    flags := ⟨true, false, false⟩ }

def avp : DictionaryEntry :=
  { avpName := "Vendor-Specific-Application-Id", avpCode := 260, avpType := .grouped, vendorId := 0
    flags := ⟨true, false, false⟩ }

def group : DiameterDictionary :=
  { code := 260, appId := 0, vendorId := 0, avpF := [⟨vendorId, 1, 65535⟩]
    avpR := [⟨authApplicationId, 0, 1⟩, ⟨acctApplicationId, 0, 1⟩], avpO := [] }

def context : ParserContext :=
  { dictionary := ⟨[], [group]⟩, stack := 2
    uri := ⟨fun _ => none, fun _ => []⟩
    ipFilterRule := ⟨fun _ => none, fun _ => []⟩ }

theorem loaded : context.dictionary.Loaded := by
  constructor
  intro gavp listed member inside
  rw [List.mem_singleton.1 listed] at inside
  revert member inside
  unfold DictionaryEntry.Loaded
  decide

theorem acyclic : context.dictionary.Acyclic := by
  apply Subrelation.wf _ (measure fun avp => if avp.avpType = .grouped then 1 else 0).wf
  intro member avp contained
  obtain ⟨isGrouped, gavp, found, qavp, inside, isMember⟩ := contained
  rw [List.mem_singleton.1 (mem_of_searchGrouped found)] at inside
  have plain : ∀ qavp ∈ group.avpF ++ group.avpR ++ group.avpO, qavp.avp.avpType ≠ .grouped := by
    decide
  change (if member.avpType = .grouped then 1 else 0) < if avp.avpType = .grouped then 1 else 0
  rw [← isMember, if_neg (plain qavp inside), if_pos isGrouped]
  exact Nat.zero_lt_one

end VendorSpecificApplicationId

open VendorSpecificApplicationId in
theorem getMinSize_exact_vendorSpecificApplicationId :
    ∃ stack, ∀ deeper, stack ≤ deeper →
      (getMinSize context.dictionary deeper avp =
          .error (.bug ParseError.missingAvpDictionaryEntry) ∧
        ¬∃ size, HasMinSize context.dictionary avp size) ∨
      ∃ returned size, getMinSize context.dictionary deeper avp = .ok returned ∧
        HasMinSize context.dictionary avp size ∧
        ((returned = size ∧ ∀ depth, NeverShorter context avp returned
            (QualifiedAvpListParser.parseAppToRaw context depth)) ↔
          FixedFree context.dictionary avp ∧ size < 4294967296) :=
  getMinSize_exact context acyclic loaded avp (by unfold DictionaryEntry.Loaded; decide)

open VendorSpecificApplicationId in
/-- The Vendor-Id that the group begins with is not counted. -/
theorem fixed_avp_uncounted :
    (∀ stack, getMinSize context.dictionary (stack + 2) avp = .ok 8) ∧
      HasMinSize context.dictionary avp 20 := by
  constructor
  · intro stack
    rfl
  · have found : context.dictionary.searchGrouped avp.avpCode avp.vendorId = some group := by decide
    have plain : ∀ member ∈ group.avpF ++ group.avpR, member.avp.avpType = .uinteger32 ∧
        member.avp.flags.vendorSpecific = false := by decide
    apply HasMinSize.grouped rfl found fun _ => 12
    intro member inside
    obtain ⟨isType, noVendor⟩ := plain member inside
    have isSize := @HasMinSize.plain context.dictionary member.avp (by rw [isType]; decide)
    rw [DictionaryEntry.headerLength, isType, noVendor] at isSize
    exact isSize

end OpenDiameter.Parser
