import Mathlib.Data.List.Perm.Subperm
import OpenDiameter.Parser.Matching

namespace OpenDiameter.Parser

open Foundation

/-! Where the AVPs of a payload go. -/

/-- The AVP of the rule takes such a header when it comes to it. -/
def RuleAvp.wants (member : RuleAvp) (h : AvpHeader) : Bool :=
  member.avp.avpCode == 0 || member.selection.takes h

/-- The entries of the container are the values of these headers, in order, and
all of them are of one AVP of the rule. -/
def FilledFrom (context : ParserContext)
    (parseGroup : DiameterDictionary → ValueBlock → Except Failure AvpContainerList)
    (members : List RuleAvp) (container : AvpContainer) (headers : AvpHeaderList) : Prop :=
  ∃ member ∈ members, container.avpName = member.avp.avpName ∧
    (∀ h ∈ headers, member.wants h = true) ∧
    List.Forall₂
      (fun h entry => AvpValueParser.parseRawToApp context member.avp (h.value member.avp)
        parseGroup = .ok entry) headers container.entries

section Order

variable {context : ParserContext}
  {parseGroup : DiameterDictionary → ValueBlock → Except Failure AvpContainerList}

theorem FilledFrom.mono {members more : List RuleAvp} {container : AvpContainer}
    {headers : AvpHeaderList} (filled : FilledFrom context parseGroup members container headers)
    (subset : members ⊆ more) : FilledFrom context parseGroup more container headers := by
  obtain ⟨member, inside, rest⟩ := filled
  exact ⟨member, subset inside, rest⟩

/-- Containers are filled from separate parts of the list. -/
theorem containers_filled {members : List RuleAvp} {ahl : AvpHeaderList}
    {acl : AvpContainerList}
    (parsed : parseRawToAppWithDict context parseGroup members ahl = .ok acl) :
    ∃ sources : List AvpHeaderList,
      List.Forall₂ (FilledFrom context parseGroup members) acl sources ∧
        sources.flatten.Subperm ahl ∧ ∀ headers ∈ sources, headers.Sublist ahl := by
  induction members generalizing ahl acl with
  | nil =>
    cases parsed
    exact ⟨[], .nil, List.nil_subperm, by simp⟩
  | cons member members induction =>
    rcases parseRawToAppWithDict_cons_ok context member parseGroup parsed with
      ⟨_, _, _, rest⟩ | ⟨entries, later, _, all, _, _, _, rest, rfl⟩ |
      ⟨_, _, _, _, _, _, left, shorter, rest⟩
    · obtain ⟨sources, filled, separate, ordered⟩ := induction rest
      exact ⟨sources, filled.imp fun _ _ one => one.mono (List.subset_cons_self _ _),
        separate, ordered⟩
    · obtain ⟨sources, filled, separate, ordered⟩ := induction rest
      refine ⟨member.selection.picks ahl :: sources, .cons ?_ ?_, ?_, ?_⟩
      · refine ⟨member, List.mem_cons_self, rfl, ?_, all.imp fun _ _ one => one.2⟩
        intro h picked
        simp [RuleAvp.wants, member.selection.takes_of_mem_picks picked]
      · exact filled.imp fun _ _ one => one.mono (List.subset_cons_self _ _)
      · rw [List.flatten_cons]
        exact ((List.subperm_append_left _).mpr separate).trans
          (member.selection.picks_append_leaves_perm ahl).subperm
      · intro headers inside
        rcases List.mem_cons.mp inside with rfl | inside
        · exact member.selection.picks_sublist ahl
        · exact (ordered headers inside).trans (member.selection.leaves_sublist ahl)
    · obtain ⟨sources, filled, separate, ordered⟩ := induction rest
      refine ⟨sources, filled.imp fun _ _ one => one.mono (List.subset_cons_self _ _),
        separate.trans shorter.subperm, ?_⟩
      intro headers inside
      exact (ordered headers inside).trans shorter

/-- More passes than there are headers to pick change nothing. -/
theorem AvpParser.passes_irrelevant (member : RuleAvp) (left right : Nat) (found : Bool)
    (ahl : AvpHeaderList) (leftEnough : (member.selection.picks ahl).length < left)
    (rightEnough : (member.selection.picks ahl).length < right) :
    AvpParser.parseRawToApp context parseGroup member left found ahl =
      AvpParser.parseRawToApp context parseGroup member right found ahl := by
  induction left generalizing right found ahl with
  | zero => omega
  | succ left induction =>
    obtain ⟨right, rfl⟩ := Nat.exists_eq_succ_of_ne_zero (Nat.ne_zero_of_lt rightEnough)
    cases first : member.selection.picks ahl with
    | nil =>
      rw [AvpParser.pass_of_picks_nil context member parseGroup left found first,
        AvpParser.pass_of_picks_nil context member parseGroup right found first]
    | cons h picked =>
      rw [AvpParser.pass_of_picks_cons context member parseGroup left found first,
        AvpParser.pass_of_picks_cons context member parseGroup right found first]
      have next := member.selection.picks_after first
      rw [first, List.length_cons] at leftEnough rightEnough
      rw [induction right true (member.selection.after ahl) (by rw [next]; omega)
        (by rw [next]; omega)]

/-- Headers behind the list that the AVP does not want stay where they are. -/
theorem AvpParser.append_unwanted (member : RuleAvp) {extra : AvpHeaderList}
    (unwanted : ∀ h ∈ extra, member.wants h = false) (passes : Nat) (found : Bool)
    (ahl : AvpHeaderList) :
    AvpParser.parseRawToApp context parseGroup member passes found (ahl ++ extra) =
      ((AvpParser.parseRawToApp context parseGroup member passes found ahl).1,
        (AvpParser.parseRawToApp context parseGroup member passes found ahl).2 ++ extra) := by
  have refused : ∀ h ∈ extra, member.selection.takes h = false := by
    intro h inside
    exact (Bool.or_eq_false_iff.mp (unwanted h inside)).2
  induction passes generalizing found ahl with
  | zero => rfl
  | succ passes induction =>
    have same := member.selection.picks_append_refused ahl refused
    cases first : member.selection.picks ahl with
    | nil =>
      rw [first] at same
      have ends : member.exhausted context (ahl ++ extra) = member.exhausted context ahl := by
        cases extra with
        | nil => rw [List.append_nil]
        | cons h others =>
          have named := (Bool.or_eq_false_iff.mp (unwanted h List.mem_cons_self)).1
          have code : member.avp.avpCode ≠ 0 := by simpa using named
          simp [RuleAvp.exhausted, code]
      rw [AvpParser.pass_of_picks_nil context member parseGroup passes found first,
        AvpParser.pass_of_picks_nil context member parseGroup passes found same, ends]
    | cons h picked =>
      rw [first] at same
      rw [AvpParser.pass_of_picks_cons context member parseGroup passes found first,
        AvpParser.pass_of_picks_cons context member parseGroup passes found same,
        member.selection.after_append first extra]
      cases member.flagsAllowed h with
      | false => rfl
      | true =>
        cases AvpValueParser.parseRawToApp context member.avp (h.value member.avp)
          parseGroup with
        | error st => rfl
        | ok entry =>
          simp only [if_true]
          rw [induction true (member.selection.after ahl)]

theorem parseRawToAppWithDict_append_unwanted {members : List RuleAvp} {extra : AvpHeaderList}
    (unwanted : ∀ member ∈ members, ∀ h ∈ extra, member.wants h = false)
    (ahl : AvpHeaderList) :
    parseRawToAppWithDict context parseGroup members (ahl ++ extra) =
      parseRawToAppWithDict context parseGroup members ahl := by
  induction members generalizing ahl with
  | nil => rfl
  | cons member members induction =>
    have own := unwanted member List.mem_cons_self
    have later := induction fun other inside => unwanted other (List.mem_cons_of_mem _ inside)
    have refused : ∀ h ∈ extra, member.selection.takes h = false := by
      intro h inside
      exact (Bool.or_eq_false_iff.mp (own h inside)).2
    have enough : (member.selection.picks ahl).length < ahl.length + 1 :=
      Nat.lt_succ_of_le (member.selection.picks_sublist ahl).length_le
    have enoughToo : (member.selection.picks ahl).length < (ahl ++ extra).length + 1 := by
      rw [List.length_append]
      omega
    rw [parseRawToAppWithDict, parseRawToAppWithDict,
      AvpParser.append_unwanted member own,
      AvpParser.passes_irrelevant member _ _ false ahl enoughToo enough]
    rcases AvpParser.parseRawToApp context parseGroup member (ahl.length + 1) false ahl
      with ⟨outcome, rest⟩
    cases outcome <;> simp only [later]

end Order

namespace UnknownAvp

def proxyState : DictionaryEntry :=
  { avpName := "Proxy-State", avpCode := 33, avpType := .string, vendorId := 0
    flags := ⟨true, false, false⟩ }

def rule : DiameterDictionary :=
  { code := 257, appId := 0, vendorId := 0, avpF := [], avpR := []
    avpO := [⟨proxyState, 0, 1⟩] }

def context : ParserContext :=
  { dictionary := ⟨[], []⟩, stack := 1
    uri := ⟨fun _ => none, fun _ => []⟩
    ipFilterRule := ⟨fun _ => none, fun _ => []⟩ }

/-- An AVP of code 999 without a value, with the M flag. -/
def unknown : List UInt8 := [0, 0, 3, 231, 64, 0, 0, 8]

/-- A Proxy-State AVP of four octets. -/
def known : List UInt8 := [0, 0, 0, 33, 64, 0, 0, 12, 1, 2, 3, 4]

end UnknownAvp

end OpenDiameter.Parser
