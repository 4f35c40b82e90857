import OpenDiameter.Parser.AvpScan
import OpenDiameter.Parser.NestedGroups

/-!
Whether the AVPs in the container of a dictionary entry are AVPs of that entry. The AVPs at the
front go to the fixed entries of a rule by their code alone.
-/

namespace OpenDiameter.Parser

open Foundation

/-- The value of an AVP, behind the header that the AVP itself has. -/
def AvpHeader.ownValue (h : AvpHeader) : ValueBlock where
  base := h.value_p.drop h.headerLength
  size := (h.length + 4294967296 - h.headerLength) % 4294967296

/-- The AVP is one of the entry, and its value is taken from behind its header. -/
structure AvpHeader.Identified (h : AvpHeader) (avp : DictionaryEntry) : Prop where
  code : h.code = avp.avpCode
  vFlag : h.flag.v = avp.flags.vendorSpecific
  vendor : h.vendor = avp.vendorId
  flags : checkFlags h.flag avp.flags = true
  cut : h.value avp = h.ownValue

/-- The vendor and the flags of the entry. -/
def AvpHeader.Fits (h : AvpHeader) (avp : DictionaryEntry) : Prop :=
  h.vendor = avp.vendorId ∧ checkFlags h.flag avp.flags = true

/-- With the code of the entry, which is not the wildcard, vendor and flags make the identity. -/
theorem identified_iff {h : AvpHeader} {avp : DictionaryEntry} (coded : avp.avpCode ≠ 0)
    (code : h.code = avp.avpCode) : h.Identified avp ↔ h.Fits avp := by
  constructor
  · intro identified
    exact ⟨identified.vendor, identified.flags⟩
  · intro ⟨vendor, flags⟩
    have vFlag : h.flag.v = avp.flags.vendorSpecific := by
      rw [checkFlags, Bool.and_eq_true, Bool.and_eq_true] at flags
      exact eq_of_beq flags.1.2
    refine ⟨code, vFlag, vendor, flags, ?_⟩
    rw [AvpHeader.value, AvpHeader.ownValue, avpHeaderLen, if_neg coded, AvpHeader.headerLength,
      vFlag]

section Deliveries

variable (context : ParserContext)
  (parseGroup : DiameterDictionary → ValueBlock → Except Failure AvpContainerList)

/-- The AVPs that the parser of a rule makes the entries of its containers of. -/
def deliveries : List RuleAvp → AvpHeaderList → List (RuleAvp × AvpHeaderList)
  | [], _ => []
  | member :: members, ahl =>
    match AvpParser.parseRawToApp context parseGroup member (ahl.length + 1) false ahl with
    | (.error _, rest) => deliveries members rest
    | (.ok _, rest) => (member, member.selection.picks ahl) :: deliveries members rest

/-- The container of a dictionary entry, with an entry for each AVP. -/
def Fills (delivery : RuleAvp × AvpHeaderList) (c : AvpContainer) : Prop :=
  c.avpName = delivery.1.avp.avpName ∧
    List.Forall₂ (fun h entry => AvpValueParser.parseRawToApp context delivery.1.avp
      (h.value delivery.1.avp) parseGroup = .ok entry) delivery.2 c.entries

/-- The AVPs at the front with the code of a fixed entry, and what follows them. A value that
cannot be read ends the run, and nothing is delivered of it. -/
def frontRun (avp : DictionaryEntry) : AvpHeaderList → Option AvpHeaderList × AvpHeaderList
  | [] => (some [], [])
  | h :: ahl =>
    if h.code = avp.avpCode then
      match AvpValueParser.parseRawToApp context avp (h.value avp) parseGroup with
      | .error _ => (none, ahl)
      | .ok _ => ((frontRun avp ahl).1.map (h :: ·), (frontRun avp ahl).2)
    else
      (some [], h :: ahl)

/-- The runs at the front that the fixed entries of a rule find, one behind the other. -/
def frontRuns : List QualifiedAvp → AvpHeaderList → List (DictionaryEntry × AvpHeaderList)
  | [], _ => []
  | qavp :: qavps, ahl =>
    match frontRun context parseGroup qavp.avp ahl with
    | (none, rest) => frontRuns qavps rest
    | (some run, rest) => (qavp.avp, run) :: frontRuns qavps rest

/-- What the loop of a fixed entry leaves of a list that starts with its run. -/
def FollowsFront (member : RuleAvp) (found : Bool) (ahl : AvpHeaderList) :
    Except Failure (List AvpContainerEntry) → AvpHeaderList → Prop
  | .ok _, rest =>
    frontRun context parseGroup member.avp ahl = (some (member.selection.picks ahl), rest)
  | .error st, rest => st.isMissingAvp = true →
      frontRun context parseGroup member.avp ahl = (none, rest) ∨
        found = false ∧ frontRun context parseGroup member.avp ahl = (some [], rest)

end Deliveries

section Identity

variable {context : ParserContext} {member : RuleAvp}
  {parseGroup : DiameterDictionary → ValueBlock → Except Failure AvpContainerList}

/-- How the parser of a rule that returns gets past its first AVP. -/
theorem parseRawToAppWithDict_step {members : List RuleAvp}
    {ahl : AvpHeaderList} {acl : AvpContainerList}
    (parsed : parseRawToAppWithDict context parseGroup (member :: members) ahl = .ok acl) :
    (∃ st rest, AvpParser.parseRawToApp context parseGroup member (ahl.length + 1) false ahl =
        (.error st, rest) ∧ st.isMissingAvp = true ∧
        parseRawToAppWithDict context parseGroup members rest = .ok acl) ∨
      ∃ entries rest later,
        AvpParser.parseRawToApp context parseGroup member (ahl.length + 1) false ahl =
          (.ok entries, rest) ∧
        parseRawToAppWithDict context parseGroup members rest = .ok later ∧
        acl = { avpName := member.avp.avpName, entries := entries } :: later := by
  rw [parseRawToAppWithDict] at parsed
  cases loop : AvpParser.parseRawToApp context parseGroup member (ahl.length + 1) false ahl with
  | mk outcome rest =>
    rw [loop] at parsed
    cases outcome with
    | error st =>
      dsimp only at parsed
      split at parsed
      · rename_i skipped
        rw [Bool.and_eq_true] at skipped
        exact .inl ⟨st, rest, rfl, skipped.1, parsed⟩
      · cases parsed
    | ok entries =>
      dsimp only at parsed
      split at parsed
      · cases parsed
      · split at parsed
        · cases parsed
        · cases later : parseRawToAppWithDict context parseGroup members rest with
          | error st =>
            rw [later] at parsed
            cases parsed
          | ok acl =>
            rw [later] at parsed
            cases parsed
            exact .inr ⟨entries, rest, acl, rfl, later, rfl⟩

theorem deliveries_of_error {members : List RuleAvp} {ahl rest : AvpHeaderList}
    {st : Failure}
    (loop : AvpParser.parseRawToApp context parseGroup member (ahl.length + 1) false ahl =
      (.error st, rest)) :
    deliveries context parseGroup (member :: members) ahl =
      deliveries context parseGroup members rest := by
  rw [deliveries, loop]

theorem deliveries_of_ok {members : List RuleAvp} {ahl rest : AvpHeaderList}
    {entries : List AvpContainerEntry}
    (loop : AvpParser.parseRawToApp context parseGroup member (ahl.length + 1) false ahl =
      (.ok entries, rest)) :
    deliveries context parseGroup (member :: members) ahl =
      (member, member.selection.picks ahl) :: deliveries context parseGroup members rest := by
  rw [deliveries, loop]

/-- The deliveries are what the containers hold. -/
theorem deliveries_fill {members : List RuleAvp} {ahl : AvpHeaderList} {acl : AvpContainerList}
    (parsed : parseRawToAppWithDict context parseGroup members ahl = .ok acl) :
    List.Forall₂ (Fills context parseGroup) (deliveries context parseGroup members ahl) acl := by
  induction members generalizing ahl acl with
  | nil =>
    cases parsed
    exact .nil
  | cons member members induction =>
    cases parseRawToAppWithDict_step parsed with
    | inl dropped =>
      obtain ⟨st, rest, loop, _, parsed⟩ := dropped
      rw [deliveries_of_error loop]
      exact induction parsed
    | inr filled =>
      obtain ⟨entries, rest, later, loop, parsed, isAcl⟩ := filled
      rw [deliveries_of_ok loop, isAcl]
      obtain ⟨all, _⟩ := AvpParser.picks_of_ok context member parseGroup loop
      apply List.Forall₂.cons _ (induction parsed)
      exact ⟨rfl, all.imp fun _ _ yields => yields.2⟩

/-- What an AVP of the rule that is not fixed gets has its identity. -/
theorem identified_of_searched (searched : member.parseType ≠ .fixedHead)
    (coded : member.avp.avpCode ≠ 0) {h : AvpHeader} (takes : member.selection.takes h = true)
    (allowed : member.flagsAllowed h = true) : h.Identified member.avp := by
  have wild : (member.avp.avpCode == 0) = false := beq_false_of_ne coded
  have free : (member.parseType == AvpParseType.fixedHead) = false := beq_false_of_ne searched
  rw [RuleAvp.selection, if_neg searched] at takes
  dsimp only at takes
  rw [AvpHeader.agrees, wild, Bool.false_or, Bool.and_eq_true, Bool.and_eq_true] at takes
  rw [RuleAvp.flagsAllowed, free, wild, Bool.false_or, Bool.false_or] at allowed
  rw [identified_iff coded (eq_of_beq takes.2)]
  exact ⟨eq_of_beq takes.1.2, allowed⟩

/-- The AVPs of a delivery are AVPs of the entry, wherever the entry has a code. -/
def AllIdentified (delivery : RuleAvp × AvpHeaderList) : Prop :=
  delivery.1.avp.avpCode ≠ 0 → ∀ h ∈ delivery.2, h.Identified delivery.1.avp

theorem allIdentified_of_searched {members : List RuleAvp} {ahl : AvpHeaderList}
    (searched : ∀ member ∈ members, member.parseType ≠ .fixedHead) :
    ∀ delivery ∈ deliveries context parseGroup members ahl, AllIdentified delivery := by
  induction members generalizing ahl with
  | nil => exact fun _ inside => nomatch inside
  | cons member members induction =>
    rw [List.forall_mem_cons] at searched
    cases loop : AvpParser.parseRawToApp context parseGroup member (ahl.length + 1) false ahl with
    | mk outcome rest =>
      cases outcome with
      | error st =>
        rw [deliveries_of_error loop]
        exact induction searched.2
      | ok entries =>
        rw [deliveries_of_ok loop, List.forall_mem_cons]
        refine ⟨fun coded h picked => ?_, induction searched.2⟩
        obtain ⟨all, _⟩ := AvpParser.picks_of_ok context member parseGroup loop
        obtain ⟨entry, _, yields⟩ := exists_related all picked
        exact identified_of_searched searched.1 coded
          (member.selection.takes_of_mem_picks picked) yields.1

section Fixed

variable (fixed : member.parseType = .fixedHead)

include fixed

theorem selection_fixed : member.selection =
    { mode := .front
      takes := fun h => member.avp.avpCode != 0 && h.code == member.avp.avpCode } := by
  rw [RuleAvp.selection, if_pos fixed]

/-- Every AVP at the front that has the code of a fixed entry is picked. -/
theorem picks_fixed_of_code (coded : member.avp.avpCode ≠ 0) {h : AvpHeader}
    {ahl : AvpHeaderList} (code : h.code = member.avp.avpCode) :
    member.selection.picks (h :: ahl) = h :: member.selection.picks ahl := by
  rw [selection_fixed fixed]
  apply List.takeWhile_cons_of_pos
  rw [Bool.and_eq_true]
  exact ⟨bne_iff_ne.2 coded, beq_iff_eq.2 code⟩

theorem picks_fixed_of_other {h : AvpHeader} {ahl : AvpHeaderList}
    (other : h.code ≠ member.avp.avpCode) : member.selection.picks (h :: ahl) = [] := by
  rw [selection_fixed fixed]
  apply List.takeWhile_cons_of_neg
  rw [Bool.and_eq_true, not_and]
  exact fun _ code => other (eq_of_beq code)

theorem after_fixed {h : AvpHeader} {ahl : AvpHeaderList} :
    member.selection.after (h :: ahl) = ahl := by
  rw [selection_fixed fixed]
  rfl

theorem flagsAllowed_fixed (h : AvpHeader) : member.flagsAllowed h = true := by
  rw [RuleAvp.flagsAllowed, fixed]
  rfl

end Fixed

theorem follows_of_picks_nil {passes : Nat} {found : Bool} {ahl rest : AvpHeaderList}
    {outcome : Except Failure (List AvpContainerEntry)}
    (picks : member.selection.picks ahl = [])
    (run : frontRun context parseGroup member.avp ahl = (some [], ahl))
    (loop : AvpParser.parseRawToApp context parseGroup member (passes + 1) found ahl =
      (outcome, rest)) :
    FollowsFront context parseGroup member found ahl outcome rest := by
  rw [AvpParser.pass_of_picks_nil context member parseGroup passes found picks] at loop
  cases found with
  | false =>
    cases loop
    exact fun _ => .inr ⟨rfl, run⟩
  | true =>
    cases missing : (member.exhausted context ahl).isMissingAvp with
    | true =>
      rw [missing] at loop
      cases loop
      change frontRun context parseGroup member.avp ahl = (some (member.selection.picks ahl), ahl)
      rw [picks]
      exact run
    | false =>
      rw [missing] at loop
      cases loop
      intro again
      rw [missing] at again
      cases again

/-- The loop of a fixed entry takes the run at the front. -/
theorem AvpParser.followsFront (fixed : member.parseType = .fixedHead)
    (coded : member.avp.avpCode ≠ 0) {passes : Nat} {found : Bool}
    {ahl rest : AvpHeaderList} {outcome : Except Failure (List AvpContainerEntry)}
    (enough : ahl.length < passes)
    (loop : AvpParser.parseRawToApp context parseGroup member passes found ahl = (outcome, rest)) :
    FollowsFront context parseGroup member found ahl outcome rest := by
  induction ahl generalizing passes found outcome with
  | nil =>
    obtain ⟨passes, rfl⟩ := Nat.exists_eq_add_of_le' enough
    exact follows_of_picks_nil (Selection.picks_nil _) rfl loop
  | cons h ahl induction =>
    obtain ⟨passes, rfl⟩ := Nat.exists_eq_add_of_le' (Nat.le_trans (Nat.le_add_left 1 _) enough)
    by_cases code : h.code = member.avp.avpCode
    · have first := @picks_fixed_of_code member fixed coded h ahl code
      have allowed := flagsAllowed_fixed fixed h
      cases value : AvpValueParser.parseRawToApp context member.avp (h.value member.avp)
          parseGroup with
      | error st =>
        rw [AvpParser.pass_of_value_error context member parseGroup passes found first allowed
          value, after_fixed fixed] at loop
        cases loop
        intro _
        rw [frontRun, if_pos code, value]
        exact .inl rfl
      | ok entry =>
        rw [AvpParser.pass_of_yields context member parseGroup passes found first
          ⟨allowed, value⟩, after_fixed fixed] at loop
        cases later : AvpParser.parseRawToApp context parseGroup member passes true ahl with
        | mk outcome left =>
          rw [later] at loop
          cases loop
          have follows := induction (Nat.lt_of_succ_lt_succ enough) later
          cases outcome with
          | ok entries =>
            change frontRun context parseGroup member.avp ahl = _ at follows
            change frontRun context parseGroup member.avp (h :: ahl) = _
            rw [frontRun, if_pos code, value, follows, first]
            rfl
          | error st =>
            intro missing
            cases follows missing with
            | inl run =>
              rw [frontRun, if_pos code, value, run]
              exact .inl rfl
            | inr again => cases again.1
    · apply follows_of_picks_nil (picks_fixed_of_other fixed code) _ loop
      rw [frontRun, if_neg code]

theorem allIdentified_fixed_iff {qavp : QualifiedAvp} {ahl : AvpHeaderList} :
    AllIdentified (⟨qavp, .fixedHead⟩, (⟨qavp, .fixedHead⟩ : RuleAvp).selection.picks ahl) ↔
      ∀ h ∈ (⟨qavp, .fixedHead⟩ : RuleAvp).selection.picks ahl, h.Fits qavp.avp := by
  have code (h : AvpHeader)
      (picked : h ∈ (⟨qavp, .fixedHead⟩ : RuleAvp).selection.picks ahl) :
      qavp.avp.avpCode ≠ 0 ∧ h.code = qavp.avp.avpCode := by
    have takes := Selection.takes_of_mem_picks _ picked
    rw [selection_fixed rfl, Bool.and_eq_true] at takes
    exact ⟨bne_iff_ne.1 takes.1, eq_of_beq takes.2⟩
  constructor
  · intro identified h picked
    obtain ⟨coded, isCode⟩ := code h picked
    exact (identified_iff coded isCode).1 (identified coded h picked)
  · intro fits coded h picked
    exact (identified_iff coded (code h picked).2).2 (fits h picked)

/-- Of the AVPs that are delivered, the runs of the fixed entries decide. -/
theorem allIdentified_iff {qavps : List QualifiedAvp} {members : List RuleAvp}
    {ahl : AvpHeaderList} {acl : AvpContainerList}
    (searched : ∀ member ∈ members, member.parseType ≠ .fixedHead)
    (parsed : parseRawToAppWithDict context parseGroup
      (qavps.map (fun qavp => ⟨qavp, .fixedHead⟩) ++ members) ahl = .ok acl) :
    (∀ delivery ∈ deliveries context parseGroup
        (qavps.map (fun qavp => ⟨qavp, .fixedHead⟩) ++ members) ahl, AllIdentified delivery) ↔
      ∀ run ∈ frontRuns context parseGroup qavps ahl, ∀ h ∈ run.2, h.Fits run.1 := by
  induction qavps generalizing ahl acl with
  | nil =>
    apply iff_of_true (allIdentified_of_searched searched)
    exact fun _ inside => nomatch inside
  | cons qavp qavps induction =>
    rw [List.map_cons, List.cons_append] at parsed ⊢
    rw [frontRuns]
    cases parseRawToAppWithDict_step parsed with
    | inl dropped =>
      obtain ⟨st, rest, loop, missing, parsed⟩ := dropped
      rw [deliveries_of_error loop, induction parsed]
      by_cases coded : qavp.avp.avpCode = 0
      · -- The wildcard only gets past the end of the list.
        have picks : (⟨qavp, .fixedHead⟩ : RuleAvp).selection.picks ahl = [] := by
          rw [selection_fixed rfl]
          cases ahl with
          | nil => rfl
          | cons h ahl =>
            apply List.takeWhile_cons_of_neg
            rw [Bool.and_eq_true, not_and]
            exact fun wild => absurd coded (bne_iff_ne.1 wild)
        rw [AvpParser.pass_of_picks_nil context _ parseGroup _ _ picks] at loop
        cases loop
        cases ahl with
        | nil =>
          rw [frontRun, List.forall_mem_cons]
          exact (and_iff_right fun _ inside => nomatch inside).symm
        | cons h ahl =>
          rw [RuleAvp.exhausted, if_pos ⟨rfl, coded, List.cons_ne_nil h ahl⟩] at missing
          cases missing
      · have follows := AvpParser.followsFront rfl coded (Nat.lt_succ_self _) loop missing
        cases follows with
        | inl run => rw [run]
        | inr run =>
          rw [run.2, List.forall_mem_cons]
          exact (and_iff_right fun _ inside => nomatch inside).symm
    | inr filled =>
      obtain ⟨entries, rest, later, loop, parsed, _⟩ := filled
      have coded : qavp.avp.avpCode ≠ 0 := by
        obtain ⟨all, _, _, some⟩ := AvpParser.picks_of_ok context _ parseGroup loop
        have filled : entries ≠ [] := by
          cases some with
          | inl again => cases again
          | inr filled => exact filled
        obtain ⟨entry, inside⟩ := List.exists_mem_of_ne_nil entries filled
        obtain ⟨h, picked, _⟩ := exists_related all.flip inside
        have takes := Selection.takes_of_mem_picks _ picked
        rw [selection_fixed rfl, Bool.and_eq_true] at takes
        exact bne_iff_ne.1 takes.1
      have run : frontRun context parseGroup qavp.avp ahl = _ :=
        AvpParser.followsFront rfl coded (Nat.lt_succ_self _) loop
      rw [deliveries_of_ok loop, run, List.forall_mem_cons, List.forall_mem_cons,
        induction parsed, allIdentified_fixed_iff]

end Identity

/-- In an accepted payload the entries of the containers are made of AVPs that have the identity
of their dictionary entry exactly when the AVPs at the front that its fixed entries find by their
code have its vendor and its flags. -/
theorem delivered_identified_iff {context : ParserContext} {depth : Nat}
    {rule : DiameterDictionary} {block : ValueBlock} {acl : AvpContainerList}
    (accepted : QualifiedAvpListParser.parseRawToApp context (depth + 1) rule block = .ok acl) :
    ∃ ahl, AvpHeaderList.create block = .ok ahl ∧
      List.Forall₂ (Fills context (QualifiedAvpListParser.parseRawToApp context depth))
        (deliveries context (QualifiedAvpListParser.parseRawToApp context depth) rule.ruleAvps ahl)
        acl ∧
      ((∀ delivery ∈ deliveries context (QualifiedAvpListParser.parseRawToApp context depth)
          rule.ruleAvps ahl, delivery.1.avp.avpCode ≠ 0 →
          ∀ h ∈ delivery.2, h.Identified delivery.1.avp) ↔
        ∀ run ∈ frontRuns context (QualifiedAvpListParser.parseRawToApp context depth) rule.avpF ahl,
          ∀ h ∈ run.2, h.vendor = run.1.vendorId ∧ checkFlags h.flag run.1.flags = true) := by
  rw [QualifiedAvpListParser.parseRawToApp] at accepted
  cases created : AvpHeaderList.create block with
  | error st =>
    rw [created] at accepted
    cases accepted
  | ok ahl =>
    rw [created] at accepted
    refine ⟨ahl, rfl, deliveries_fill accepted, ?_⟩
    rw [DiameterDictionary.ruleAvps, List.append_assoc] at accepted ⊢
    apply allIdentified_iff _ accepted
    intro member inside
    rw [List.mem_append, List.mem_map, List.mem_map] at inside
    cases inside with
    | inl required =>
      obtain ⟨_, _, isMember⟩ := required
      rw [← isMember]
      intro fixed
      cases fixed
    | inr optional =>
      obtain ⟨_, _, isMember⟩ := optional
      rw [← isMember]
      intro fixed
      cases fixed

/-! A rule with a fixed Session-Id. -/

namespace FixedSessionId

def sessionId : DictionaryEntry :=
  { avpName := "Session-Id", avpCode := 263, avpType := .utf8String, vendorId := 0
    flags := ⟨true, false, false⟩ }

def rule : DiameterDictionary :=
  { code := 258, appId := 0, vendorId := 0, avpF := [⟨sessionId, 1, 1⟩], avpR := [], avpO := [] }

def own : ValueBlock := ⟨[0, 0, 1, 7, 64, 0, 0, 12, 97, 98, 99, 100], 12⟩

/-- The AVP 263 of another vendor. -/
def foreign : ValueBlock := ⟨[0, 0, 1, 7, 192, 0, 0, 16, 1, 2, 3, 4, 97, 98, 99, 100], 16⟩

end FixedSessionId

open FixedSessionId in
theorem delivered_identified_iff_own : ∃ ahl, AvpHeaderList.create own = .ok ahl ∧
    List.Forall₂ (Fills ApplicationId.context
        (QualifiedAvpListParser.parseRawToApp ApplicationId.context 0))
      (deliveries ApplicationId.context
        (QualifiedAvpListParser.parseRawToApp ApplicationId.context 0) rule.ruleAvps ahl)
      [⟨"Session-Id", [⟨.utf8String, .octets [97, 98, 99, 100]⟩]⟩] ∧
    ((∀ delivery ∈ deliveries ApplicationId.context
        (QualifiedAvpListParser.parseRawToApp ApplicationId.context 0) rule.ruleAvps ahl,
        delivery.1.avp.avpCode ≠ 0 → ∀ h ∈ delivery.2, h.Identified delivery.1.avp) ↔
      ∀ run ∈ frontRuns ApplicationId.context
          (QualifiedAvpListParser.parseRawToApp ApplicationId.context 0) rule.avpF ahl,
        ∀ h ∈ run.2, h.vendor = run.1.vendorId ∧ checkFlags h.flag run.1.flags = true) :=
  delivered_identified_iff rfl

open FixedSessionId in
/-- It is taken for the Session-Id, and its vendor for the start of the value. -/
theorem foreign_avp_delivered :
    QualifiedAvpListParser.parseRawToApp ApplicationId.context 1 rule foreign =
        .ok [⟨"Session-Id", [⟨.utf8String, .octets [1, 2, 3, 4, 97, 98, 99, 100]⟩]⟩] ∧
      AvpHeaderList.create foreign = .ok [AvpHeader.read foreign.base] ∧
      deliveries ApplicationId.context
          (QualifiedAvpListParser.parseRawToApp ApplicationId.context 0) rule.ruleAvps
          [AvpHeader.read foreign.base] =
        [(⟨⟨sessionId, 1, 1⟩, .fixedHead⟩, [AvpHeader.read foreign.base])] ∧
      (AvpHeader.read foreign.base).vendor = 16909060 ∧ sessionId.vendorId = 0 ∧
      ¬(AvpHeader.read foreign.base).Identified sessionId := by
  refine ⟨rfl, rfl, rfl, rfl, rfl, ?_⟩
  intro identified
  cases identified.vFlag

end OpenDiameter.Parser
