import OpenDiameter.Parser.Matching

namespace OpenDiameter.Parser

open Foundation

/-!
A rule shares the AVPs of a list out among its own AVPs, each of which picks
from what the ones before it have left. This is a matter of codes, vendors and
flags; whether the values parse plays no part in it.
-/

def shares : List RuleAvp → AvpHeaderList → List (RuleAvp × AvpHeaderList)
  | [], _ => []
  | member :: members, ahl =>
    (member, member.selection.picks ahl) :: shares members (member.selection.leaves ahl)

/-- The member occurs often enough, or it is absent and may be. -/
def RuleAvp.SatisfiedBy (member : RuleAvp) (count : Nat) : Prop :=
  member.min ≤ count ∨ count = 0 ∧ member.skippable = true

/-- The value of a grouped AVP has all members that its rule asks for, and so has
every grouped AVP inside of it. -/
inductive CompleteGroup (dictionary : Dictionary) : DiameterDictionary → ValueBlock → Prop
  | intro {rule : DiameterDictionary} {block : ValueBlock}
      (present : ∀ ahl, AvpHeaderList.create block = .ok ahl →
        ∀ share ∈ shares rule.ruleAvps ahl, share.1.SatisfiedBy share.2.length)
      (groups : ∀ ahl, AvpHeaderList.create block = .ok ahl →
        ∀ share ∈ shares rule.ruleAvps ahl, share.1.avp.avpType = .grouped →
        ∀ h ∈ share.2, ∀ gavp,
          dictionary.searchGrouped share.1.avp.avpCode share.1.avp.vendorId = some gavp →
          CompleteGroup dictionary gavp (h.value share.1.avp)) :
      CompleteGroup dictionary rule block

/-- Every grouped AVP that an AVP of the rule gets, at any depth, has all members
that its own rule asks for. -/
def GroupsComplete (dictionary : Dictionary) (rule : DiameterDictionary)
    (block : ValueBlock) : Prop :=
  ∀ ahl, AvpHeaderList.create block = .ok ahl →
    ∀ share ∈ shares rule.ruleAvps ahl, share.1.avp.avpType = .grouped →
    ∀ h ∈ share.2, ∀ gavp,
      dictionary.searchGrouped share.1.avp.avpCode share.1.avp.vendorId = some gavp →
      CompleteGroup dictionary gavp (h.value share.1.avp)

/-- The same, but only for the grouped AVPs that stand where an AVP may be absent,
and for those inside of them. -/
inductive SkippableGroupsComplete (dictionary : Dictionary) :
    DiameterDictionary → ValueBlock → Prop
  | intro {rule : DiameterDictionary} {block : ValueBlock}
      (skippable : ∀ ahl, AvpHeaderList.create block = .ok ahl →
        ∀ share ∈ shares rule.ruleAvps ahl, share.1.avp.avpType = .grouped →
        share.1.skippable = true → ∀ h ∈ share.2, ∀ gavp,
          dictionary.searchGrouped share.1.avp.avpCode share.1.avp.vendorId = some gavp →
          CompleteGroup dictionary gavp (h.value share.1.avp))
      (needed : ∀ ahl, AvpHeaderList.create block = .ok ahl →
        ∀ share ∈ shares rule.ruleAvps ahl, share.1.avp.avpType = .grouped →
        share.1.skippable = false → ∀ h ∈ share.2, ∀ gavp,
          dictionary.searchGrouped share.1.avp.avpCode share.1.avp.vendorId = some gavp →
          SkippableGroupsComplete dictionary gavp (h.value share.1.avp)) :
      SkippableGroupsComplete dictionary rule block

theorem CompleteGroup.skippable {dictionary : Dictionary} {rule : DiameterDictionary}
    {block : ValueBlock} (complete : CompleteGroup dictionary rule block) :
    SkippableGroupsComplete dictionary rule block := by
  induction complete with
  | intro _ groups induction =>
    constructor
    · intro ahl created share shared grouped _
      exact groups ahl created share shared grouped
    · intro ahl created share shared grouped _
      exact induction ahl created share shared grouped

theorem GroupsComplete.skippable {dictionary : Dictionary} {rule : DiameterDictionary}
    {block : ValueBlock} (complete : GroupsComplete dictionary rule block) :
    SkippableGroupsComplete dictionary rule block := by
  constructor
  · intro ahl created share shared grouped _
    exact complete ahl created share shared grouped
  · intro ahl created share shared grouped _ h inside gavp found
    exact (complete ahl created share shared grouped h inside gavp found).skippable

/-- A failure that the callers do not take for the absence of an AVP. -/
abbrev NoMissingAvp {Value : Type} (outcome : Except Failure Value) : Prop :=
  FailsOnly (fun failure => failure.isMissingAvp = false) outcome

section Values

variable {context : ParserContext} {avp : DictionaryEntry} {block : ValueBlock}
  {parseGroup : DiameterDictionary → ValueBlock → Except Failure AvpContainerList}

theorem parseOctets_noMissingAvp : NoMissingAvp (OctetstringParser.parseRawToApp block) := by
  unfold OctetstringParser.parseRawToApp ValueBlock.assign
  split
  · exact FailsOnly.error rfl
  · exact FailsOnly.ok _

theorem parseUtf8_noMissingAvp :
    NoMissingAvp (Utf8stringParser.parseRawToApp context avp block) := by
  apply FailsOnly.bind parseOctets_noMissingAvp
  intro str _
  split
  · exact FailsOnly.ok _
  · exact FailsOnly.error (throwWith_isMissingAvp (by decide) .normal)

theorem parseText_noMissingAvp {Value : Type} (grammar : List UInt8 → Option Value) :
    NoMissingAvp (parseText context avp block grammar) := by
  apply FailsOnly.bind parseUtf8_noMissingAvp
  intro str _
  split
  · exact FailsOnly.ok _
  · exact FailsOnly.error (throwWith_isMissingAvp (by decide) .normal)

theorem parseAddress_noMissingAvp : NoMissingAvp (AddressParser.parseRawToApp block) := by
  apply FailsOnly.bind parseOctets_noMissingAvp
  intro str _
  split
  · exact FailsOnly.error rfl
  · exact FailsOnly.ok _

/-- Only the rule of a group reports missing AVPs. -/
theorem parseValue_noMissingAvp
    (group : avp.avpType = .grouped → ∀ gavp,
      context.dictionary.searchGrouped avp.avpCode avp.vendorId = some gavp →
      NoMissingAvp (parseGroup gavp block)) :
    NoMissingAvp (AvpValueParser.parseRawToApp context avp block parseGroup) := by
  apply FailsOnly.map
  unfold AvpValueParser.parseData
  cases type : avp.avpType with
  | data => exact parseOctets_noMissingAvp.map _
  | string => exact parseOctets_noMissingAvp.map _
  | integer32 => exact FailsOnly.ok _
  | uinteger32 => exact FailsOnly.ok _
  | enum => exact FailsOnly.ok _
  | time => exact FailsOnly.ok _
  | integer64 => exact FailsOnly.ok _
  | uinteger64 => exact FailsOnly.ok _
  | utf8String => exact parseUtf8_noMissingAvp.map _
  | diamId => exact (parseText_noMissingAvp _).map _
  | diamUri => exact (parseText_noMissingAvp _).map _
  | ipFilterRule => exact (parseText_noMissingAvp _).map _
  | address => exact parseAddress_noMissingAvp
  | grouped =>
    apply FailsOnly.map
    unfold GroupedParser.parseRawToApp
    split
    · exact FailsOnly.error (throwWith_isMissingAvp (by decide) .normal)
    · rename_i gavp found
      exact group type gavp found

/-- A grouped AVP that parses has a rule, and its value parses by that rule. -/
theorem parseGroup_of_parseValue {entry : AvpContainerEntry} (grouped : avp.avpType = .grouped)
    (parsed : AvpValueParser.parseRawToApp context avp block parseGroup = .ok entry)
    {gavp : DiameterDictionary}
    (found : context.dictionary.searchGrouped avp.avpCode avp.vendorId = some gavp) :
    ∃ acl, parseGroup gavp block = .ok acl := by
  obtain ⟨data, parsed, _⟩ := map_eq_ok.mp parsed
  rw [AvpValueParser.parseData, grouped] at parsed
  obtain ⟨acl, parsed, _⟩ := map_eq_ok.mp parsed
  rw [GroupedParser.parseRawToApp, found] at parsed
  exact ⟨acl, parsed⟩

end Values

/-- A list of headers that cannot be made is no missing AVP. -/
theorem createFrom_noMissingAvp (passes : Nat) (cavp : List UInt8) (left : Nat) :
    NoMissingAvp (AvpHeaderList.createFrom passes cavp left) := by
  induction passes generalizing cavp left with
  | zero => exact FailsOnly.ok _
  | succ passes induction =>
    unfold AvpHeaderList.createFrom
    split
    · exact FailsOnly.ok _
    · dsimp only
      split
      · exact FailsOnly.error rfl
      · cases later : AvpHeaderList.createFrom passes
          (cavp.drop (adjustWordBoundary (AvpHeader.read cavp).length))
          (left - adjustWordBoundary (AvpHeader.read cavp).length) with
        | error st => exact FailsOnly.error (induction _ _ st later)
        | ok ahl => exact FailsOnly.ok _

theorem create_noMissingAvp {block : ValueBlock} : NoMissingAvp (AvpHeaderList.create block) :=
  createFrom_noMissingAvp _ _ _

section Lists

variable {context : ParserContext}
  {parseGroup : DiameterDictionary → ValueBlock → Except Failure AvpContainerList}

/-- When no value reports a missing AVP, only a member that does not occur often
enough makes the parser of a rule report one. -/
theorem parseRawToAppWithDict_noMissingAvp {members : List RuleAvp} {ahl : AvpHeaderList}
    (present : ∀ share ∈ shares members ahl, share.1.SatisfiedBy share.2.length)
    (values : ∀ share ∈ shares members ahl, ∀ h ∈ share.2,
      NoMissingAvp (AvpValueParser.parseRawToApp context share.1.avp (h.value share.1.avp)
        parseGroup)) :
    NoMissingAvp (parseRawToAppWithDict context parseGroup members ahl) := by
  induction members generalizing ahl with
  | nil => exact FailsOnly.ok _
  | cons member members induction =>
    have satisfied := present _ List.mem_cons_self
    have own := values _ List.mem_cons_self
    have rest := induction
      (fun share inside => present share (List.mem_cons_of_mem _ inside))
      (fun share inside => values share (List.mem_cons_of_mem _ inside))
    rw [parseRawToAppWithDict]
    rcases loop : AvpParser.parseRawToApp context parseGroup member (ahl.length + 1) false ahl
      with ⟨outcome, left⟩
    cases outcome with
    | error st =>
      cases missing : st.isMissingAvp with
      | false =>
        simp only [missing, Bool.false_and, Bool.false_eq_true, if_false]
        exact FailsOnly.error missing
      | true =>
        rcases AvpParser.missing_cases context member parseGroup loop missing with
          ⟨_, none, rfl, _⟩ | ⟨h, picked, _, failed⟩
        · have skippable : member.skippable = true := by
            rcases satisfied with few | ⟨_, skippable⟩
            · rw [none] at few
              have zero : member.min = 0 := Nat.le_zero.mp few
              simp [RuleAvp.skippable, zero]
            · exact skippable
          rw [member.selection.leaves_eq_self none] at rest
          simp only [missing, skippable, Bool.and_self, if_true]
          exact rest
        · have notMissing : st.isMissingAvp = false := own h picked st failed
          rw [missing] at notMissing
          cases notMissing
    | ok entries =>
      obtain ⟨all, rfl, _, some⟩ := AvpParser.picks_of_ok context member parseGroup loop
      dsimp only
      split
      · rename_i few
        rw [all.length_eq] at satisfied
        rcases satisfied with enough | ⟨none, _⟩
        · exact absurd few (Nat.not_lt.mpr enough)
        · exact absurd (List.length_eq_zero_iff.mp none) (by simpa using some)
      · split
        · exact FailsOnly.error (throwWith_isMissingAvp (by decide) .normal)
        · cases parsed : parseRawToAppWithDict context parseGroup members
            (member.selection.leaves ahl) with
          | error st => exact FailsOnly.error (rest st parsed)
          | ok acl => exact FailsOnly.ok _

/-- A rule that parses without taking a missing AVP inside of a value for the
absence of the AVP gets what it asks for. -/
theorem shares_of_parsed {members : List RuleAvp} {ahl : AvpHeaderList}
    {acl : AvpContainerList}
    (parsed : parseRawToAppWithDict context parseGroup members ahl = .ok acl)
    (values : ∀ share ∈ shares members ahl, share.1.skippable = true → ∀ h ∈ share.2,
      NoMissingAvp (AvpValueParser.parseRawToApp context share.1.avp (h.value share.1.avp)
        parseGroup)) :
    ∀ share ∈ shares members ahl, share.1.SatisfiedBy share.2.length ∧
      ∀ h ∈ share.2, ∃ entry,
        AvpValueParser.parseRawToApp context share.1.avp (h.value share.1.avp) parseGroup =
          .ok entry := by
  induction members generalizing ahl acl with
  | nil =>
    intro share inside
    cases inside
  | cons member members induction =>
    have own := values _ List.mem_cons_self
    have others := fun share inside => values share (List.mem_cons_of_mem _ inside)
    intro share inside
    rcases parseRawToAppWithDict_cons_ok context member parseGroup parsed with
      ⟨none, _, skippable, rest⟩ | ⟨entries, later, _, all, _, few, _, rest, _⟩ |
      ⟨skippable, h, picked, st, missing, failed, _⟩
    · rw [← member.selection.leaves_eq_self none] at rest
      rcases List.mem_cons.mp inside with rfl | inside
      · dsimp only
        rw [none]
        exact ⟨.inr ⟨rfl, skippable⟩, by simp⟩
      · exact induction rest others share inside
    · rcases List.mem_cons.mp inside with rfl | inside
      · dsimp only
        rw [all.length_eq]
        refine ⟨.inl few, ?_⟩
        intro h picked
        obtain ⟨entry, _, yields⟩ := exists_related all picked
        exact ⟨entry, yields.2⟩
      · exact induction rest others share inside
    · have notMissing : st.isMissingAvp = false := own skippable h picked st failed
      rw [missing] at notMissing
      cases notMissing

end Lists

/-- A complete group is never taken for an absent AVP. -/
theorem CompleteGroup.noMissingAvp {context : ParserContext} {rule : DiameterDictionary}
    {block : ValueBlock} (complete : CompleteGroup context.dictionary rule block) (depth : Nat) :
    NoMissingAvp (QualifiedAvpListParser.parseRawToApp context depth rule block) := by
  induction depth generalizing rule block with
  | zero => exact FailsOnly.error rfl
  | succ depth induction =>
    cases complete with
    | intro present groups =>
      rw [QualifiedAvpListParser.parseRawToApp]
      cases created : AvpHeaderList.create block with
      | error st => exact FailsOnly.error (create_noMissingAvp st created)
      | ok ahl =>
        apply parseRawToAppWithDict_noMissingAvp (present ahl created)
        intro share shared h inside
        apply parseValue_noMissingAvp
        intro grouped gavp found
        exact induction (groups ahl created share shared grouped h inside gavp found)

/-- A group that parses is complete when the groups that may be absent in it are. -/
theorem SkippableGroupsComplete.complete {context : ParserContext} {depth : Nat}
    {rule : DiameterDictionary} {block : ValueBlock} {acl : AvpContainerList}
    (skippable : SkippableGroupsComplete context.dictionary rule block)
    (parsed : QualifiedAvpListParser.parseRawToApp context depth rule block = .ok acl) :
    CompleteGroup context.dictionary rule block := by
  induction depth generalizing rule block acl with
  | zero => cases parsed
  | succ depth induction =>
    rw [QualifiedAvpListParser.parseRawToApp] at parsed
    cases skippable with
    | intro skippable needed =>
      cases created : AvpHeaderList.create block with
      | error st =>
        rw [created] at parsed
        cases parsed
      | ok ahl =>
        rw [created] at parsed
        have satisfied := shares_of_parsed parsed (by
          intro share shared absent h inside
          apply parseValue_noMissingAvp
          intro grouped gavp found
          exact (skippable ahl created share shared grouped absent h inside gavp
            found).noMissingAvp depth)
        constructor
        · intro other same share shared
          cases created.symm.trans same
          exact (satisfied share shared).1
        · intro other same share shared grouped h inside gavp found
          cases created.symm.trans same
          obtain ⟨entry, value⟩ := (satisfied share shared).2 h inside
          obtain ⟨inner, parsed⟩ := parseGroup_of_parseValue grouped value found
          cases absent : share.1.skippable with
          | true =>
            exact skippable ahl created share shared grouped absent h inside gavp found
          | false =>
            exact induction
              (needed ahl created share shared grouped absent h inside gavp found) parsed

/-- In an accepted payload every grouped AVP has what its rule asks for exactly
when those have that stand where an AVP may be absent, or inside of one that
does. -/
theorem accepted_groups_complete_iff {context : ParserContext} {depth : Nat}
    {rule : DiameterDictionary} {block : ValueBlock} {acl : AvpContainerList}
    (accepted : QualifiedAvpListParser.parseRawToApp context depth rule block = .ok acl) :
    GroupsComplete context.dictionary rule block ↔
      SkippableGroupsComplete context.dictionary rule block := by
  constructor
  · intro complete
    exact complete.skippable
  · intro skippable
    cases skippable.complete accepted with
    | intro _ groups => exact groups

/-! An optional grouped AVP whose rule requires a Vendor-Id. -/

namespace ApplicationId

def vendorId : DictionaryEntry :=
  { avpName := "Vendor-Id", avpCode := 266, avpType := .uinteger32, vendorId := 0
    flags := ⟨true, false, false⟩ }

def applicationId : DictionaryEntry :=
  { avpName := "Vendor-Specific-Application-Id", avpCode := 260, avpType := .grouped
    vendorId := 0, flags := ⟨true, false, false⟩ }

def group : DiameterDictionary :=
  { code := 260, appId := 0, vendorId := 0, avpF := [], avpR := [⟨vendorId, 1, 1⟩], avpO := [] }

def rule : DiameterDictionary :=
  { code := 257, appId := 0, vendorId := 0, avpF := [], avpR := []
    avpO := [⟨applicationId, 0, 10⟩] }

def context : ParserContext :=
  { dictionary := ⟨[], [group]⟩, stack := 2
    uri := ⟨fun _ => none, fun _ => []⟩
    ipFilterRule := ⟨fun _ => none, fun _ => []⟩ }

/-- A group with a Vendor-Id. -/
def whole : ValueBlock :=
  ⟨[0, 0, 1, 4, 64, 0, 0, 20, 0, 0, 1, 10, 64, 0, 0, 12, 0, 0, 0, 5], 20⟩

/-- A group without one. -/
def empty : ValueBlock := ⟨[0, 0, 1, 4, 64, 0, 0, 8], 8⟩

end ApplicationId

open ApplicationId in
theorem accepted_groups_complete_iff_whole :
    GroupsComplete context.dictionary rule whole ↔
      SkippableGroupsComplete context.dictionary rule whole := by
  have accepted : QualifiedAvpListParser.parseRawToApp context 2 rule whole =
      .ok [⟨"Vendor-Specific-Application-Id",
        [⟨.grouped, .grouped [⟨"Vendor-Id", [⟨.uinteger32, .integer32 5⟩]⟩]⟩]⟩] := rfl
  exact accepted_groups_complete_iff accepted

open ApplicationId in
/-- The missing Vendor-Id is taken for the absence of the whole group. -/
theorem incomplete_group_accepted :
    QualifiedAvpListParser.parseRawToApp context 2 rule empty = .ok [] ∧
      ¬ GroupsComplete context.dictionary rule empty := by
  constructor
  · rfl
  · intro complete
    have value := complete [AvpHeader.read empty.base] rfl _ List.mem_cons_self rfl
      (AvpHeader.read empty.base) List.mem_cons_self group rfl
    cases value with
    | intro present _ =>
      rcases present [] rfl _ List.mem_cons_self with enough | ⟨_, skippable⟩
      · exact absurd enough (by decide)
      · exact absurd skippable (by decide)

end OpenDiameter.Parser
