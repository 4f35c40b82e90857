import Mathlib.Data.List.Forall2
import OpenDiameter.Foundation.Selection
import OpenDiameter.Parser.PayloadDecoder

namespace OpenDiameter.Parser

open Foundation

/-!
Which AVPs of a list an AVP of the rule gets: the fixed ones those at the front
that have its code, the others all that agree with it.
-/

namespace RuleAvp

def selection (member : RuleAvp) : Selection AvpHeader :=
  if member.parseType = .fixedHead then
    { mode := .front
      takes := fun h => member.avp.avpCode != 0 && h.code == member.avp.avpCode }
  else
    { mode := .anywhere, takes := fun h => h.agrees member.avp }

/-- The flags of AVPs that are not fixed are checked. -/
def flagsAllowed (member : RuleAvp) (h : AvpHeader) : Bool :=
  member.parseType == .fixedHead || member.avp.avpCode == 0 ||
    checkFlags h.flag member.avp.flags

/-- The failure when the list has no header for the AVP. -/
def exhausted (context : ParserContext) (member : RuleAvp) (ahl : AvpHeaderList) : Failure :=
  if member.parseType = .fixedHead ∧ member.avp.avpCode = 0 ∧ ahl ≠ [] then
    .bug ParseError.invalidContainerParam
  else
    .throwWith context .normal ResultCode.missingAvp member.avp

end RuleAvp

variable (context : ParserContext) (member : RuleAvp)

/-- Without a header to take, the header parser leaves the list alone. -/
theorem parseHeader_of_picks_nil {ahl : AvpHeaderList}
    (none : member.selection.picks ahl = []) :
    AvpHeaderParser.parseRawToApp context member ahl =
      (.error (member.exhausted context ahl), ahl) := by
  unfold AvpHeaderParser.parseRawToApp RuleAvp.exhausted
  cases ahl with
  | nil => simp
  | cons first others =>
    by_cases fixed : member.parseType = .fixedHead
    · by_cases wildcard : member.avp.avpCode = 0
      · simp [fixed, wildcard]
      · have other : first.code ≠ member.avp.avpCode := by
          intro same
          simp [RuleAvp.selection, Selection.picks, fixed, wildcard, same] at none
        simp [fixed, wildcard, other]
    · have refused : (first :: others).find? (·.agrees member.avp) = Option.none := by
        rw [← List.head?_filter]
        simpa [RuleAvp.selection, Selection.picks, fixed] using none
      simp only [refused, fixed, if_false, false_and]

/-- The first header that is picked is the one that is taken. -/
theorem parseHeader_of_picks_cons {ahl picked : AvpHeaderList} {h : AvpHeader}
    (first : member.selection.picks ahl = h :: picked) :
    AvpHeaderParser.parseRawToApp context member ahl =
      (if member.flagsAllowed h then .ok h
        else .error (.throwWith context .normal ResultCode.invalidAvpBits member.avp),
        member.selection.after ahl) := by
  unfold AvpHeaderParser.parseRawToApp
  cases ahl with
  | nil => simp at first
  | cons head others =>
    by_cases fixed : member.parseType = .fixedHead
    · obtain ⟨before, behind, shape, _, taken, front⟩ := member.selection.picks_eq_cons first
      have mode : member.selection.mode = .front := by simp [RuleAvp.selection, fixed]
      rw [front mode, List.nil_append] at shape
      cases shape
      simp only [RuleAvp.selection, fixed, if_true, Bool.and_eq_true, bne_iff_ne, ne_eq,
        beq_iff_eq] at taken
      simp [fixed, taken.1, taken.2, RuleAvp.flagsAllowed, RuleAvp.selection,
        Selection.after]
    · have found : (head :: others).find? (·.agrees member.avp) = some h := by
        rw [← List.head?_filter]
        have filtered : (head :: others).filter (·.agrees member.avp) = h :: picked := by
          simpa [RuleAvp.selection, Selection.picks, fixed] using first
        rw [filtered]
        rfl
      have rest : member.selection.after (head :: others) =
          (head :: others).eraseP (·.agrees member.avp) := by
        simp [RuleAvp.selection, Selection.after, fixed]
      rw [rest]
      simp only [found, fixed, if_false, RuleAvp.flagsAllowed]
      by_cases wildcard : member.avp.avpCode = 0
      · simp [wildcard]
      · have positive : 0 < member.avp.avpCode := Nat.pos_of_ne_zero wildcard
        by_cases allowed : checkFlags h.flag member.avp.flags = true
        · simp [allowed]
        · simp [positive, wildcard, fixed, allowed]

section Loop

variable (parseGroup : DiameterDictionary → ValueBlock → Except Failure AvpContainerList)

/-- The entry that the value parser makes of a header, when its flags are allowed. -/
def Yields (h : AvpHeader) (entry : AvpContainerEntry) : Prop :=
  member.flagsAllowed h = true ∧
    AvpValueParser.parseRawToApp context member.avp (h.value member.avp) parseGroup = .ok entry

theorem exists_related {Left Right : Type} {related : Left → Right → Prop}
    {lefts : List Left} {rights : List Right} (all : List.Forall₂ related lefts rights)
    {left : Left} (inside : left ∈ lefts) : ∃ right ∈ rights, related left right := by
  induction all with
  | nil => cases inside
  | cons first _ induction =>
    rcases List.mem_cons.mp inside with rfl | inside
    · exact ⟨_, List.mem_cons_self, first⟩
    · obtain ⟨right, member, holds⟩ := induction inside
      exact ⟨right, List.mem_cons_of_mem _ member, holds⟩

/-- One pass on a list with nothing to pick. -/
theorem AvpParser.pass_of_picks_nil (passes : Nat) (found : Bool) {ahl : AvpHeaderList}
    (none : member.selection.picks ahl = []) :
    AvpParser.parseRawToApp context parseGroup member (passes + 1) found ahl =
      (if found && (member.exhausted context ahl).isMissingAvp then .ok []
        else .error (member.exhausted context ahl), ahl) := by
  rw [AvpParser.parseRawToApp, parseHeader_of_picks_nil context member none]
  dsimp only
  split <;> rfl

variable {ahl picked : AvpHeaderList} {h : AvpHeader}

/-- One pass on a list with a header to pick. -/
theorem AvpParser.pass_of_picks_cons (passes : Nat) (found : Bool)
    (first : member.selection.picks ahl = h :: picked) :
    AvpParser.parseRawToApp context parseGroup member (passes + 1) found ahl =
      if member.flagsAllowed h then
        match AvpValueParser.parseRawToApp context member.avp (h.value member.avp)
            parseGroup with
        | .error st => (.error st, member.selection.after ahl)
        | .ok entry =>
          let later := AvpParser.parseRawToApp context parseGroup member passes true
            (member.selection.after ahl)
          (later.1.map (entry :: ·), later.2)
      else
        (.error (.throwWith context .normal ResultCode.invalidAvpBits member.avp),
          member.selection.after ahl) := by
  rw [AvpParser.parseRawToApp, parseHeader_of_picks_cons context member first]
  cases member.flagsAllowed h with
  | false =>
    have notMissing : (Failure.throwWith context .normal ResultCode.invalidAvpBits
        member.avp).isMissingAvp = false := throwWith_isMissingAvp (by decide) .normal
    simp [notMissing]
  | true =>
    simp only [if_true]
    cases AvpValueParser.parseRawToApp context member.avp (h.value member.avp) parseGroup with
    | error st => rfl
    | ok entry =>
      dsimp only
      rcases AvpParser.parseRawToApp context parseGroup member passes true
        (member.selection.after ahl) with ⟨outcome, rest⟩
      cases outcome <;> rfl

/-- Flags that are not allowed are an error that is not a missing AVP. -/
theorem AvpParser.pass_of_flags (passes : Nat) (found : Bool)
    (first : member.selection.picks ahl = h :: picked) (refused : member.flagsAllowed h = false) :
    ∃ st, AvpParser.parseRawToApp context parseGroup member (passes + 1) found ahl =
      (.error st, member.selection.after ahl) ∧ st.isMissingAvp = false := by
  rw [AvpParser.pass_of_picks_cons context member parseGroup passes found first, refused]
  exact ⟨_, rfl, throwWith_isMissingAvp (by decide) .normal⟩

/-- The error of a value ends the loop. -/
theorem AvpParser.pass_of_value_error (passes : Nat) (found : Bool) {st : Failure}
    (first : member.selection.picks ahl = h :: picked) (allowed : member.flagsAllowed h = true)
    (failed : AvpValueParser.parseRawToApp context member.avp (h.value member.avp) parseGroup =
      .error st) :
    AvpParser.parseRawToApp context parseGroup member (passes + 1) found ahl =
      (.error st, member.selection.after ahl) := by
  rw [AvpParser.pass_of_picks_cons context member parseGroup passes found first, allowed, failed]
  rfl

/-- A pass that yields an entry goes on with the rest of the list. -/
theorem AvpParser.pass_of_yields (passes : Nat) (found : Bool) {entry : AvpContainerEntry}
    (first : member.selection.picks ahl = h :: picked)
    (yields : Yields context member parseGroup h entry) :
    AvpParser.parseRawToApp context parseGroup member (passes + 1) found ahl =
      ((AvpParser.parseRawToApp context parseGroup member passes true
          (member.selection.after ahl)).1.map (entry :: ·),
        (AvpParser.parseRawToApp context parseGroup member passes true
          (member.selection.after ahl)).2) := by
  rw [AvpParser.pass_of_picks_cons context member parseGroup passes found first, yields.1, yields.2]
  rfl

/-- Every way in which the first picked header can go. -/
theorem AvpParser.first_cases (h : AvpHeader) :
    member.flagsAllowed h = false ∨
      (∃ st, member.flagsAllowed h = true ∧
        AvpValueParser.parseRawToApp context member.avp (h.value member.avp) parseGroup =
          .error st) ∨
      ∃ entry, Yields context member parseGroup h entry := by
  cases allowed : member.flagsAllowed h with
  | false => exact .inl rfl
  | true =>
    right
    cases parsed : AvpValueParser.parseRawToApp context member.avp (h.value member.avp)
      parseGroup with
    | error st => exact .inl ⟨st, rfl, rfl⟩
    | ok entry => exact .inr ⟨entry, allowed, parsed⟩

/-- The loop that returns has made an entry of every picked header. -/
theorem AvpParser.picks_of_ok {passes : Nat} {found : Bool} {ahl rest : AvpHeaderList}
    {entries : List AvpContainerEntry}
    (parsed : AvpParser.parseRawToApp context parseGroup member passes found ahl =
      (.ok entries, rest)) :
    List.Forall₂ (Yields context member parseGroup) (member.selection.picks ahl) entries ∧
      rest = member.selection.leaves ahl ∧
      (member.exhausted context rest).isMissingAvp = true ∧
      (found = true ∨ entries ≠ []) := by
  induction passes generalizing found ahl rest entries with
  | zero => simp [AvpParser.parseRawToApp] at parsed
  | succ passes induction =>
    cases first : member.selection.picks ahl with
    | nil =>
      rw [AvpParser.pass_of_picks_nil context member parseGroup passes found first] at parsed
      simp only [Prod.mk.injEq] at parsed
      obtain ⟨outcome, rfl⟩ := parsed
      split at outcome
      · rename_i ended
        rw [Bool.and_eq_true] at ended
        cases outcome
        exact ⟨.nil, (member.selection.leaves_eq_self first).symm, ended.2, .inl ended.1⟩
      · cases outcome
    | cons h picked =>
      rcases AvpParser.first_cases context member parseGroup h with
        refused | ⟨st, allowed, failed⟩ | ⟨entry, yields⟩
      · obtain ⟨st, pass, _⟩ :=
          AvpParser.pass_of_flags context member parseGroup passes found first
            refused
        rw [pass] at parsed
        cases parsed
      · rw [AvpParser.pass_of_value_error context member parseGroup passes found first allowed
          failed] at parsed
        cases parsed
      · rw [AvpParser.pass_of_yields context member parseGroup passes found first yields] at parsed
        simp only [Prod.mk.injEq] at parsed
        obtain ⟨later, outcome, rfl⟩ := map_eq_ok.mp parsed.1
        obtain ⟨all, left, ended, _⟩ := induction (Prod.ext outcome parsed.2)
        rw [member.selection.picks_after first] at all
        rw [member.selection.leaves_after first] at left
        exact ⟨.cons yields all, left, ended, .inr (by simp)⟩

/-- A missing AVP that the loop reports is the absence of the AVP itself, or
comes from the value of a header that was picked. -/
theorem AvpParser.missing_cases {passes : Nat} {found : Bool} {ahl rest : AvpHeaderList}
    {st : Failure}
    (parsed : AvpParser.parseRawToApp context parseGroup member passes found ahl =
      (.error st, rest)) (missing : st.isMissingAvp = true) :
    (found = false ∧ member.selection.picks ahl = [] ∧ rest = ahl ∧
        (member.exhausted context ahl).isMissingAvp = true) ∨
      ∃ h ∈ member.selection.picks ahl, rest.Sublist ahl ∧
        AvpValueParser.parseRawToApp context member.avp (h.value member.avp) parseGroup =
          .error st := by
  induction passes generalizing found ahl rest with
  | zero =>
    cases parsed
    cases missing
  | succ passes induction =>
    cases first : member.selection.picks ahl with
    | nil =>
      left
      rw [AvpParser.pass_of_picks_nil context member parseGroup passes found first] at parsed
      simp only [Prod.mk.injEq] at parsed
      obtain ⟨outcome, rfl⟩ := parsed
      cases found with
      | false =>
        cases outcome
        exact ⟨rfl, rfl, rfl, missing⟩
      | true =>
        rw [Bool.true_and] at outcome
        split at outcome
        · cases outcome
        · rename_i other
          cases outcome
          exact absurd missing other
    | cons h picked =>
      right
      have shorter := member.selection.after_sublist ahl
      rcases AvpParser.first_cases context member parseGroup h with
        refused | ⟨other, allowed, failed⟩ | ⟨entry, yields⟩
      · obtain ⟨other, pass, notMissing⟩ :=
          AvpParser.pass_of_flags context member parseGroup passes found first
            refused
        rw [pass] at parsed
        cases parsed
        rw [notMissing] at missing
        cases missing
      · rw [AvpParser.pass_of_value_error context member parseGroup passes found first allowed
          failed] at parsed
        cases parsed
        exact ⟨h, List.mem_cons_self, shorter, failed⟩
      · rw [AvpParser.pass_of_yields context member parseGroup passes found first yields] at parsed
        simp only [Prod.mk.injEq] at parsed
        have outcome := map_eq_error.mp parsed.1
        rcases induction (Prod.ext outcome parsed.2) with
          ⟨again, _⟩ | ⟨other, picked, sublist, failed⟩
        · cases again
        · rw [member.selection.picks_after first] at picked
          exact ⟨other, List.mem_cons_of_mem h picked, sublist.trans shorter, failed⟩

/-- How the parser of a rule gets past its first AVP: the AVP does not occur and
may be absent; or it fills a container; or a missing AVP inside of one of its
values is taken for its own absence. -/
theorem parseRawToAppWithDict_cons_ok {members : List RuleAvp} {ahl : AvpHeaderList}
    {acl : AvpContainerList}
    (parsed : parseRawToAppWithDict context parseGroup (member :: members) ahl = .ok acl) :
    (member.selection.picks ahl = [] ∧ (member.exhausted context ahl).isMissingAvp = true ∧
        member.skippable = true ∧
        parseRawToAppWithDict context parseGroup members ahl = .ok acl) ∨
      (∃ entries later, entries ≠ [] ∧
        List.Forall₂ (Yields context member parseGroup) (member.selection.picks ahl) entries ∧
        (member.exhausted context (member.selection.leaves ahl)).isMissingAvp = true ∧
        member.min ≤ entries.length ∧ entries.length ≤ member.max ∧
        parseRawToAppWithDict context parseGroup members (member.selection.leaves ahl) =
          .ok later ∧
        acl = { avpName := member.avp.avpName, entries := entries } :: later) ∨
      (member.skippable = true ∧
        ∃ h ∈ member.selection.picks ahl, ∃ st, st.isMissingAvp = true ∧
          AvpValueParser.parseRawToApp context member.avp (h.value member.avp) parseGroup =
            .error st ∧
          ∃ rest, rest.Sublist ahl ∧
            parseRawToAppWithDict context parseGroup members rest = .ok acl) := by
  rw [parseRawToAppWithDict] at parsed
  rcases loop : AvpParser.parseRawToApp context parseGroup member (ahl.length + 1) false ahl
    with ⟨outcome, rest⟩
  rw [loop] at parsed
  cases outcome with
  | error st =>
    dsimp only at parsed
    split at parsed
    · rename_i skipped
      rw [Bool.and_eq_true] at skipped
      rcases AvpParser.missing_cases context member parseGroup loop skipped.1 with
        ⟨_, none, rfl, ended⟩ | ⟨h, picked, shorter, failed⟩
      · exact .inl ⟨none, ended, skipped.2, parsed⟩
      · exact .inr (.inr ⟨skipped.2, h, picked, st, skipped.1, failed, rest, shorter, parsed⟩)
    · cases parsed
  | ok entries =>
    obtain ⟨all, rfl, ended, some⟩ := AvpParser.picks_of_ok context member parseGroup loop
    dsimp only at parsed
    split at parsed
    · cases parsed
    · split at parsed
      · cases parsed
      · right
        left
        rename_i notFew notMany
        cases rest : parseRawToAppWithDict context parseGroup members
          (member.selection.leaves ahl) with
        | error st =>
          rw [rest] at parsed
          cases parsed
        | ok later =>
          rw [rest] at parsed
          cases parsed
          exact ⟨entries, later, by simpa using some, all, ended, Nat.le_of_not_lt notFew,
            Nat.le_of_not_lt notMany, rfl, rfl⟩

end Loop

end OpenDiameter.Parser
