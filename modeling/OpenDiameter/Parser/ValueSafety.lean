import OpenDiameter.Parser.AvpScan
import OpenDiameter.Parser.NestedGroups

/-!
The calls of the value parsers that the value of an AVP leads to, through its groups, and whether
they stay inside of their payloads.
-/

namespace OpenDiameter.Parser

open Foundation

/-- The lengths that the values of a type can have. -/
def AvpDataType.admits (type : AvpDataType) (length : Nat) : Bool :=
  match type with
  | .integer32 | .uinteger32 | .enum | .time => length == 4
  | .integer64 | .uinteger64 => length == 8
  | .address => decide (2 ≤ length)
  | _ => true

section Handed

variable (context : ParserContext)
  (parseGroup : DiameterDictionary → ValueBlock → Except Failure AvpContainerList)

/-- The AVPs of which the loop for a member of a rule hands the values on. -/
def AvpParser.handed (member : RuleAvp) : (passes : Nat) → AvpHeaderList → AvpHeaderList
  | 0, _ => []
  | passes + 1, ahl =>
    match AvpHeaderParser.parseRawToApp context member ahl with
    | (.error _, _) => []
    | (.ok h, rest) =>
      h :: match AvpValueParser.parseRawToApp context member.avp (h.value member.avp)
          parseGroup with
        | .error _ => []
        | .ok _ => handed member passes rest

/-- The AVPs of which `parseRawToAppWithDict` hands the values on, each with its entry. -/
def handed : List RuleAvp → AvpHeaderList → List (DictionaryEntry × AvpHeader)
  | [], _ => []
  | member :: members, ahl =>
    (AvpParser.handed context parseGroup member (ahl.length + 1) ahl).map (member.avp, ·) ++
      match AvpParser.parseRawToApp context parseGroup member (ahl.length + 1) false ahl with
      | (.error st, rest) =>
        if st.isMissingAvp && member.skippable then handed members rest else []
      | (.ok entries, rest) =>
        if entries.length < member.min ∨ member.max < entries.length then []
        else handed members rest

end Handed

/-- A call of the value parser, with the stack that is left. -/
structure ValueCall where
  depth : Nat
  avp : DictionaryEntry
  block : ValueBlock

namespace ValueCall

variable (context : ParserContext)

def parse (call : ValueCall) : Except Failure AvpContainerEntry :=
  AvpValueParser.parseRawToApp context call.avp call.block
    (QualifiedAvpListParser.parseRawToApp context call.depth)

/-- The rule by which the value is parsed, if it is a group. -/
def group (call : ValueCall) : Option DiameterDictionary :=
  if call.avp.avpType = .grouped then
    context.dictionary.searchGrouped call.avp.avpCode call.avp.vendorId
  else
    none

/-- The AVPs inside of a group of which the values are handed on. -/
def inner (call : ValueCall) : List (DictionaryEntry × AvpHeader) :=
  match call.depth, call.group context, AvpHeaderList.create call.block with
  | depth + 1, some gavp, .ok ahl =>
    handed context (QualifiedAvpListParser.parseRawToApp context depth) gavp.ruleAvps ahl
  | _, _, _ => []

/-- The call reads inside of its payload, returns or throws a `DiameterErrorCode`, and rejects a
payload of another length than its type has. -/
structure Sound (call : ValueCall) : Prop where
  contained : call.avp.avpType ≠ .grouped → ∀ base, call.block.size ≤ base.length →
    base.take call.block.size = call.block.base.take call.block.size →
      ({ call with block := ⟨base, call.block.size⟩ } : ValueCall).parse context =
        call.parse context
  scanned : call.group context ≠ none → ∀ ahl, AvpHeaderList.create call.block = .ok ahl →
    ∀ read ∈ AvpHeaderList.reads call.block, read.stop ≤ call.block.size
  handedOn : ∀ avp ∈ call.inner context, avpHeaderLen avp.1 ≤ avp.2.length
  thrown : call.parse context ≠ .error .crash
  rejected : call.avp.avpType.admits call.block.size = false →
    ∃ st, call.parse context = .error (.error st)

end ValueCall

/-- The calls for the value of an AVP, and for the values of the AVPs inside of it. -/
def valueCalls (context : ParserContext) : Nat → DictionaryEntry → ValueBlock → List ValueCall
  | 0, avp, block => [⟨0, avp, block⟩]
  | depth + 1, avp, block =>
    ⟨depth + 1, avp, block⟩ ::
      ((⟨depth + 1, avp, block⟩ : ValueCall).inner context).flatMap fun avp =>
        valueCalls context depth avp.1 (avp.2.value avp.1)

/-- The header of an AVP does not fit in what is left. -/
def truncatedHeader (h : AvpHeader) (left : Nat) : Bool := decide (left < h.headerLength)

/-- The payload has a length of its type. If it is a group, the stack has room for it, the length
fields lead to a broken length or to whole headers only, and none of the AVPs that are handed on is
shorter than the header that its entry has. -/
structure ValueCall.Fits (context : ParserContext) (call : ValueCall) : Prop where
  admitted : call.avp.avpType.admits call.block.size = true
  group : call.group context ≠ none → call.depth ≠ 0 ∧
    (meets brokenLength call.block.size call.block.base call.block.size = true ∨
      meets truncatedHeader call.block.size call.block.base call.block.size = false)
  covered : ∀ avp ∈ call.inner context, avpHeaderLen avp.1 ≤ avp.2.length

/-- The process can build the errors that the parsers throw. -/
def ParserContext.Reports (context : ParserContext) : Prop :=
  ∀ type code avp, Failure.throwWith context type code avp ≠ .crash

/-- A computation that returns or throws a `DiameterErrorCode`. -/
abbrev Throws {Value : Type} (outcome : Except Failure Value) : Prop :=
  FailsOnly (fun failure => failure ≠ .crash) outcome

theorem throws_iff {Value : Type} {outcome : Except Failure Value} :
    Throws outcome ↔ outcome ≠ .error .crash := by
  constructor
  · intro throws crashed
    exact throws .crash crashed rfl
  · intro other failure failed crashed
    rw [crashed] at failed
    exact other failed

theorem readsFrom_nothing {passes : Nat} {cavp : List UInt8} {offset : Nat} :
    AvpHeaderList.readsFrom passes cavp 0 offset = [] := by
  cases passes with
  | zero => rfl
  | succ passes => rfl

/-- The scan reads inside of the block where no header is cut off by its end. -/
theorem reads_inside_iff {passes : Nat} {cavp : List UInt8} {left offset : Nat}
    {ahl : AvpHeaderList} (created : AvpHeaderList.createFrom passes cavp left = .ok ahl) :
    (∀ read ∈ AvpHeaderList.readsFrom passes cavp left offset, read.stop ≤ offset + left) ↔
      meets truncatedHeader passes cavp left = false := by
  induction passes generalizing cavp left offset ahl with
  | zero => exact iff_of_true (by rintro _ ⟨⟩) rfl
  | succ passes induction =>
    cases createFrom_succ_ok created with
    | inl done =>
      rw [AvpHeaderList.readsFrom, meets, done.1]
      exact iff_of_true (by rintro _ ⟨⟩) rfl
    | inr more =>
      obtain ⟨later, some, notZero, le, _, rest⟩ := more
      have others := @induction _ _
        (offset + adjustWordBoundary (AvpHeader.read cavp).length) _ rest
      have accepted : ¬((AvpHeader.read cavp).length = 0 ∨
          left < (AvpHeader.read cavp).length) := by omega
      have notDone : (left != 0) = true := bne_iff_ne.2 some
      rw [AvpHeaderList.readsFrom, if_neg some]
      dsimp only
      rw [if_neg accepted, meets, notDone, Bool.true_and, Bool.or_eq_false_iff, ← others,
        truncatedHeader, decide_eq_false_iff_not, AvpHeader.headerLength]
      -- Where the padding leads behind the end, nothing else is read.
      have same : (∀ read ∈ AvpHeaderList.readsFrom passes
            (cavp.drop (adjustWordBoundary (AvpHeader.read cavp).length))
            (left - adjustWordBoundary (AvpHeader.read cavp).length)
            (offset + adjustWordBoundary (AvpHeader.read cavp).length),
            read.stop ≤ offset + left) ↔
          ∀ read ∈ AvpHeaderList.readsFrom passes
            (cavp.drop (adjustWordBoundary (AvpHeader.read cavp).length))
            (left - adjustWordBoundary (AvpHeader.read cavp).length)
            (offset + adjustWordBoundary (AvpHeader.read cavp).length),
            read.stop ≤ offset + adjustWordBoundary (AvpHeader.read cavp).length +
              (left - adjustWordBoundary (AvpHeader.read cavp).length) := by
        by_cases behind : left ≤ adjustWordBoundary (AvpHeader.read cavp).length
        · rw [Nat.sub_eq_zero_of_le behind]
          have none := @readsFrom_nothing passes
            (cavp.drop (adjustWordBoundary (AvpHeader.read cavp).length))
            (offset + adjustWordBoundary (AvpHeader.read cavp).length)
          rw [none]
          exact iff_of_true (by rintro _ ⟨⟩) (by rintro _ ⟨⟩)
        · rw [Nat.add_assoc, Nat.add_sub_cancel' (Nat.le_of_not_le behind)]
      rw [List.forall_mem_cons, List.forall_mem_cons, List.forall_mem_append, same,
        ← and_assoc, ← and_assoc]
      apply and_congr_left
      intro _
      cases (AvpHeader.read cavp).flag.v with
      | false =>
        change (offset + 4 ≤ _ ∧ offset + 4 + 4 ≤ _) ∧ (∀ read ∈ [], _) ↔ ¬left < 8
        constructor
        · omega
        · intro room
          exact ⟨by omega, (by rintro _ ⟨⟩)⟩
      | true =>
        change (offset + 4 ≤ _ ∧ offset + 4 + 4 ≤ _) ∧ (∀ read ∈ [_], _) ↔ ¬left < 12
        rw [List.forall_mem_singleton]
        change _ ∧ offset + 8 + 4 ≤ _ ↔ _
        omega

section Plain

variable {context : ParserContext} {avp : DictionaryEntry} {block : ValueBlock}
  {parseGroup : DiameterDictionary → ValueBlock → Except Failure AvpContainerList}

theorem assign_of_le (inMemory : block.size ≤ block.base.length) :
    block.assign = .ok (block.base.take block.size) := by
  rw [ValueBlock.assign, if_neg (Nat.not_lt.2 inMemory)]

/-- A number is read of its own bytes. -/
theorem ntohl_of_take {octets others : List UInt8} {count : Nat} (four : 4 ≤ count)
    (le : count ≤ others.length)
    (same : octets.take count = others.take count) : ntohl octets = ntohl others := by
  rw [← List.take_append_drop count octets, ← List.take_append_drop count others, same]
  have long : 4 ≤ (others.take count).length := by
    rw [List.length_take_of_le le]
    exact four
  rw [ntohl_append long, ntohl_append long]

/-- A value that is no group is made of the bytes of its payload, if they are as many as its type
has. -/
theorem parseData_of_take (plain : avp.avpType ≠ .grouped)
    (admitted : avp.avpType.admits block.size = true) (inMemory : block.size ≤ block.base.length)
    {base : List UInt8} (le : block.size ≤ base.length)
    (same : base.take block.size = block.base.take block.size) :
    AvpValueParser.parseData context avp ⟨base, block.size⟩ parseGroup =
      AvpValueParser.parseData context avp block parseGroup := by
  have assigned : (⟨base, block.size⟩ : ValueBlock).assign = block.assign := by
    rw [assign_of_le inMemory, assign_of_le le, same]
  cases isType : avp.avpType with
  | integer32 | uinteger32 | enum | time =>
    rw [isType] at admitted
    have size : block.size = 4 := eq_of_beq admitted
    rw [size] at same inMemory
    have number := ntohl_of_take (Nat.le_refl 4) inMemory same
    simp only [AvpValueParser.parseData, isType, Integer32Parser.parseRawToApp, number]
  | integer64 | uinteger64 =>
    rw [isType] at admitted
    have size : block.size = 8 := eq_of_beq admitted
    rw [size] at same inMemory
    have high := ntohl_of_take (by decide) inMemory same
    have low : ntohl (base.drop 4) = ntohl (block.base.drop 4) := by
      apply ntohl_of_take (Nat.le_refl 4)
      · rw [List.length_drop]
        omega
      · rw [List.take_drop, List.take_drop, same]
    simp only [AvpValueParser.parseData, isType, Integer64Parser.parseRawToApp, high, low]
  | grouped => exact absurd isType plain
  | data | string =>
    simp only [AvpValueParser.parseData, isType, OctetstringParser.parseRawToApp, assigned]
  | utf8String =>
    simp only [AvpValueParser.parseData, isType, Utf8stringParser.parseRawToApp,
      OctetstringParser.parseRawToApp, assigned]
  | diamId | diamUri | ipFilterRule =>
    simp only [AvpValueParser.parseData, isType, DiamidentParser.parseRawToApp,
      DiamuriParser.parseRawToApp, IPFilterRuleParser.parseRawToApp, parseText,
      Utf8stringParser.parseRawToApp, OctetstringParser.parseRawToApp, assigned]
  | address =>
    simp only [AvpValueParser.parseData, isType, AddressParser.parseRawToApp,
      OctetstringParser.parseRawToApp, assigned]

section Throws

variable (reports : context.Reports)

include reports

theorem utf8_throws (inMemory : block.size ≤ block.base.length) :
    Throws (Utf8stringParser.parseRawToApp context avp block) := by
  rw [Utf8stringParser.parseRawToApp, OctetstringParser.parseRawToApp, assign_of_le inMemory]
  change Throws (if _ then _ else _)
  split
  · exact FailsOnly.ok _
  · exact FailsOnly.error (reports _ _ _)

theorem text_throws {Value : Type} (inMemory : block.size ≤ block.base.length)
    (grammar : List UInt8 → Option Value) : Throws (parseText context avp block grammar) := by
  apply FailsOnly.bind (utf8_throws reports inMemory)
  intro str _
  split
  · exact FailsOnly.ok _
  · exact FailsOnly.error (reports _ _ _)

/-- A value that is no group is returned or refused with a `DiameterErrorCode`. -/
theorem parseData_throws (plain : avp.avpType ≠ .grouped)
    (admitted : avp.avpType.admits block.size = true)
    (inMemory : block.size ≤ block.base.length) :
    Throws (AvpValueParser.parseData context avp block parseGroup) := by
  have octets : Throws (OctetstringParser.parseRawToApp block) := by
    rw [OctetstringParser.parseRawToApp, assign_of_le inMemory]
    exact FailsOnly.ok _
  rw [AvpValueParser.parseData]
  cases isType : avp.avpType with
  | integer32 | uinteger32 | enum | time | integer64 | uinteger64 => exact FailsOnly.ok _
  | grouped => exact absurd isType plain
  | data | string => exact octets.map _
  | utf8String => exact (utf8_throws reports inMemory).map _
  | diamId | diamUri | ipFilterRule => exact (text_throws reports inMemory _).map _
  | address =>
    rw [isType] at admitted
    have long : 2 ≤ block.size := of_decide_eq_true admitted
    have cut : (block.base.take block.size).length = block.size :=
      List.length_take_of_le inMemory
    change Throws (AddressParser.parseRawToApp block)
    rw [AddressParser.parseRawToApp, OctetstringParser.parseRawToApp, assign_of_le inMemory]
    change Throws (if (block.base.take block.size).length < 2 then _ else _)
    rw [cut, if_neg (Nat.not_lt.2 long)]
    exact FailsOnly.ok _

end Throws

/-- The lengths that a type does not have are not refused: a number is read all the same, and an
address is a fault. -/
theorem parseData_unadmitted (unfit : avp.avpType.admits block.size = false) :
    (∃ data, AvpValueParser.parseData context avp block parseGroup = .ok data) ∨
      AvpValueParser.parseData context avp block parseGroup = .error .crash := by
  rw [AvpValueParser.parseData]
  cases isType : avp.avpType with
  | integer32 | uinteger32 | enum | time | integer64 | uinteger64 => exact .inl ⟨_, rfl⟩
  | address =>
    rw [isType] at unfit
    have short : ¬2 ≤ block.size := of_decide_eq_false unfit
    right
    change AddressParser.parseRawToApp block = _
    rw [AddressParser.parseRawToApp, OctetstringParser.parseRawToApp, ValueBlock.assign]
    split
    · rfl
    · have cut : (block.base.take block.size).length < 2 := by
        rw [List.length_take]
        omega
      change (if (block.base.take block.size).length < 2 then _ else _) = _
      rw [if_pos cut]
  | grouped | data | string | utf8String | diamId | diamUri | ipFilterRule =>
    rw [isType] at unfit
    cases unfit

end Plain

section Lists

variable {context : ParserContext} {member : RuleAvp}
  {parseGroup : DiameterDictionary → ValueBlock → Except Failure AvpContainerList}

/-- The header parser takes a header out of the list. -/
theorem parseHeader_ok {ahl rest : AvpHeaderList} {h : AvpHeader}
    (taken : AvpHeaderParser.parseRawToApp context member ahl = (.ok h, rest)) :
    h ∈ ahl ∧ rest.Sublist ahl ∧ rest.length < ahl.length := by
  unfold AvpHeaderParser.parseRawToApp at taken
  cases ahl with
  | nil => cases taken
  | cons first others =>
    dsimp only at taken
    split at taken
    · split at taken
      · cases taken
      · split at taken
        · cases taken
          exact ⟨List.mem_cons_self, List.sublist_cons_self _ _, Nat.lt_succ_self _⟩
        · cases taken
    · split at taken
      · cases taken
      · rename_i found
        split at taken
        · cases taken
        · cases taken
          refine ⟨List.mem_of_find?_eq_some found, List.eraseP_sublist, ?_⟩
          rw [List.length_eraseP_of_mem (List.mem_of_find?_eq_some found)
            (List.find?_some found)]
          exact Nat.sub_lt (Nat.succ_pos _) Nat.one_pos

theorem parseHeader_throws (reports : context.Reports) (ahl : AvpHeaderList) :
    Throws (AvpHeaderParser.parseRawToApp context member ahl).1 := by
  have missing : Throws (.error (Failure.throwWith context .normal ResultCode.missingAvp
      member.avp) : Except Failure AvpHeader) := FailsOnly.error (reports _ _ _)
  unfold AvpHeaderParser.parseRawToApp
  cases ahl with
  | nil => exact missing
  | cons first others =>
    dsimp only
    split
    · split
      · exact FailsOnly.error (fun same => nomatch same)
      · split
        · exact FailsOnly.ok _
        · exact missing
    · split
      · exact missing
      · split
        · exact FailsOnly.error (reports _ _ _)
        · exact FailsOnly.ok _

theorem AvpParser.mem_of_handed {passes : Nat} {ahl : AvpHeaderList} {h : AvpHeader}
    (inside : h ∈ AvpParser.handed context parseGroup member passes ahl) : h ∈ ahl := by
  induction passes generalizing ahl with
  | zero => cases inside
  | succ passes induction =>
    rw [AvpParser.handed] at inside
    cases taken : AvpHeaderParser.parseRawToApp context member ahl with
    | mk outcome rest =>
      rw [taken] at inside
      cases outcome with
      | error st => cases inside
      | ok first =>
        obtain ⟨isFirst, shorter, _⟩ := parseHeader_ok taken
        cases List.mem_cons.1 inside with
        | inl same =>
          rw [same]
          exact isFirst
        | inr later =>
          split at later
          · cases later
          · exact shorter.subset (induction later)

/-- Only AVPs of the list are handed on. -/
theorem mem_of_handed {members : List RuleAvp} {ahl : AvpHeaderList}
    {call : DictionaryEntry × AvpHeader} (inside : call ∈ handed context parseGroup members ahl) :
    call.2 ∈ ahl := by
  induction members generalizing ahl with
  | nil => cases inside
  | cons member members induction =>
    rw [handed, List.mem_append] at inside
    cases inside with
    | inl own =>
      obtain ⟨h, isHanded, isCall⟩ := List.mem_map.1 own
      rw [← isCall]
      exact AvpParser.mem_of_handed isHanded
    | inr later =>
      cases loop : AvpParser.parseRawToApp context parseGroup member (ahl.length + 1) false
          ahl with
      | mk outcome rest =>
        rw [loop] at later
        cases outcome with
        | error st =>
          dsimp only at later
          split at later
          · rename_i skipped
            rw [Bool.and_eq_true] at skipped
            have inRest := induction later
            cases AvpParser.missing_cases context member parseGroup loop skipped.1 with
            | inl absent =>
              rw [← absent.2.2.1]
              exact inRest
            | inr failed =>
              obtain ⟨_, _, shorter, _⟩ := failed
              exact shorter.subset inRest
          · cases later
        | ok entries =>
          dsimp only at later
          split at later
          · cases later
          · obtain ⟨_, isRest, _⟩ := AvpParser.picks_of_ok context member parseGroup loop
            rw [isRest] at later
            exact (member.selection.leaves_sublist ahl).subset (induction later)

theorem AvpParser.throws (reports : context.Reports) {passes : Nat} {found : Bool}
    {ahl : AvpHeaderList} (enough : ahl.length < passes)
    (values : ∀ h ∈ AvpParser.handed context parseGroup member passes ahl,
      Throws (AvpValueParser.parseRawToApp context member.avp (h.value member.avp) parseGroup)) :
    Throws (AvpParser.parseRawToApp context parseGroup member passes found ahl).1 := by
  induction passes generalizing found ahl with
  | zero => exact absurd enough (Nat.not_lt_zero _)
  | succ passes induction =>
    have header := @parseHeader_throws context member reports ahl
    rw [AvpParser.handed] at values
    rw [AvpParser.parseRawToApp]
    cases taken : AvpHeaderParser.parseRawToApp context member ahl with
    | mk outcome rest =>
      rw [taken] at header values
      cases outcome with
      | error st =>
        dsimp only
        split
        · exact FailsOnly.ok _
        · exact FailsOnly.error (header st rfl)
      | ok h =>
        dsimp only at values ⊢
        rw [List.forall_mem_cons] at values
        obtain ⟨own, others⟩ := values
        cases value : AvpValueParser.parseRawToApp context member.avp (h.value member.avp)
            parseGroup with
        | error st => exact FailsOnly.error (own st value)
        | ok entry =>
          rw [value] at others
          have shorter := (parseHeader_ok taken).2.2
          have later := @induction true rest (by omega) others
          dsimp only
          cases loop : AvpParser.parseRawToApp context parseGroup member passes true
              rest with
          | mk outcome left =>
            rw [loop] at later
            cases outcome with
            | error st => exact FailsOnly.error (later st rfl)
            | ok entries => exact FailsOnly.ok _

/-- The parser of a rule throws what the values that it hands on throw, or an error of its own. -/
theorem parseRawToAppWithDict_throws (reports : context.Reports) {members : List RuleAvp}
    {ahl : AvpHeaderList}
    (values : ∀ call ∈ handed context parseGroup members ahl,
      Throws (AvpValueParser.parseRawToApp context call.1 (call.2.value call.1) parseGroup)) :
    Throws (parseRawToAppWithDict context parseGroup members ahl) := by
  induction members generalizing ahl with
  | nil => exact FailsOnly.ok _
  | cons member members induction =>
    rw [handed, List.forall_mem_append] at values
    obtain ⟨own, others⟩ := values
    have loopThrows := @AvpParser.throws context member parseGroup reports (ahl.length + 1) false
      ahl (Nat.lt_succ_self _) fun h inside => own _ (List.mem_map_of_mem inside)
    rw [parseRawToAppWithDict]
    cases loop : AvpParser.parseRawToApp context parseGroup member (ahl.length + 1) false ahl with
    | mk outcome rest =>
      rw [loop] at loopThrows others
      cases outcome with
      | error st =>
        dsimp only at others ⊢
        split
        · rename_i skipped
          rw [if_pos skipped] at others
          exact induction others
        · exact FailsOnly.error (loopThrows st rfl)
      | ok entries =>
        dsimp only at others ⊢
        split
        · exact FailsOnly.error (reports _ _ _)
        · split
          · exact FailsOnly.error (reports _ _ _)
          · rename_i notFew notMany
            rw [if_neg (not_or.2 ⟨notFew, notMany⟩)] at others
            cases parsed : parseRawToAppWithDict context parseGroup members rest with
            | error st => exact FailsOnly.error (induction others st parsed)
            | ok acl => exact FailsOnly.ok _

end Lists

/-- The value of a listed AVP that covers its header lies in the memory. -/
theorem value_inMemory {block : ValueBlock} {ahl : AvpHeaderList} {h : AvpHeader}
    {avp : DictionaryEntry} (inMemory : block.size ≤ block.base.length)
    (created : AvpHeaderList.create block = .ok ahl) (inside : h ∈ ahl)
    (covered : avpHeaderLen avp ≤ h.length) :
    (h.value avp).size ≤ (h.value avp).base.length := by
  obtain ⟨ranges, places, _, within⟩ := ranges_of_created block.base 0 created
  obtain ⟨range, isRange, start, length⟩ := exists_related places inside
  have bounds := (within range isRange).2.2
  rw [ByteRange.stop] at bounds
  rw [AvpHeader.value]
  dsimp only
  rw [start, List.length_drop, List.length_drop]
  omega

namespace ValueCall

variable {context : ParserContext} {call : ValueCall}

theorem type_of_group {gavp : DiameterDictionary} (isGroup : call.group context = some gavp) :
    call.avp.avpType = .grouped ∧
      context.dictionary.searchGrouped call.avp.avpCode call.avp.vendorId = some gavp := by
  rw [group] at isGroup
  split at isGroup
  · rename_i grouped
    exact ⟨grouped, isGroup⟩
  · cases isGroup

theorem parse_of_group {gavp : DiameterDictionary} (isGroup : call.group context = some gavp) :
    call.parse context = (QualifiedAvpListParser.parseRawToApp context call.depth gavp
      call.block).map fun acl => { dataType := .grouped, data := .grouped acl } := by
  obtain ⟨grouped, found⟩ := type_of_group isGroup
  rw [parse, AvpValueParser.parseRawToApp, AvpValueParser.parseData, grouped]
  dsimp only
  rw [GroupedParser.parseRawToApp, found]
  dsimp only
  cases QualifiedAvpListParser.parseRawToApp context call.depth gavp call.block with
  | error st => rfl
  | ok acl => rfl

theorem inner_of_group {depth : Nat} {avp : DictionaryEntry} {block : ValueBlock}
    {gavp : DiameterDictionary} {ahl : AvpHeaderList}
    (isGroup : (⟨depth + 1, avp, block⟩ : ValueCall).group context = some gavp)
    (created : AvpHeaderList.create block = .ok ahl) :
    (⟨depth + 1, avp, block⟩ : ValueCall).inner context =
      handed context (QualifiedAvpListParser.parseRawToApp context depth) gavp.ruleAvps ahl := by
  rw [inner]
  simp only [isGroup, created]

theorem created_of_inner {avp : DictionaryEntry × AvpHeader} (inside : avp ∈ call.inner context) :
    ∃ ahl, AvpHeaderList.create call.block = .ok ahl ∧ avp.2 ∈ ahl := by
  rw [inner] at inside
  split at inside
  · rename_i created
    exact ⟨_, created, mem_of_handed inside⟩
  · cases inside

/-- A sound call fits. -/
theorem Sound.fits (sound : call.Sound context) : call.Fits context := by
  refine ⟨?_, ?_, sound.handedOn⟩
  · cases admitted : call.avp.avpType.admits call.block.size with
    | true => rfl
    | false =>
      obtain ⟨st, refused⟩ := sound.rejected admitted
      rw [parse, AvpValueParser.parseRawToApp] at refused
      cases @parseData_unadmitted context call.avp call.block
          (QualifiedAvpListParser.parseRawToApp context call.depth) admitted with
      | inl returned =>
        obtain ⟨data, isData⟩ := returned
        rw [isData] at refused
        cases refused
      | inr crashed =>
        rw [crashed] at refused
        cases refused
  · intro grouped
    obtain ⟨gavp, isGroup⟩ := Option.ne_none_iff_exists'.1 grouped
    refine ⟨?_, ?_⟩
    · intro none
      apply sound.thrown
      rw [parse_of_group isGroup, none]
      rfl
    · cases created : AvpHeaderList.create call.block with
      | error failure => exact .inl ((createFrom_error_iff _ _ _).1 ⟨failure, created⟩)
      | ok ahl =>
        right
        rw [← @reads_inside_iff call.block.size call.block.base call.block.size 0 ahl created,
          Nat.zero_add]
        exact sound.scanned grouped ahl created

/-- A call is sound if it fits and the calls for the values that it hands on throw no fault. -/
theorem Fits.sound (reports : context.Reports) (fits : call.Fits context)
    (inMemory : call.block.size ≤ call.block.base.length)
    (values : ∀ depth, call.depth = depth + 1 → ∀ avp ∈ call.inner context,
      Throws ((⟨depth, avp.1, avp.2.value avp.1⟩ : ValueCall).parse context)) :
    call.Sound context := by
  refine ⟨?_, ?_, fits.covered, ?_, ?_⟩
  · intro plain base le same
    rw [parse, parse, AvpValueParser.parseRawToApp, AvpValueParser.parseRawToApp]
    exact congrArg _ (parseData_of_take plain fits.admitted inMemory le same)
  · intro grouped ahl created
    cases (fits.group grouped).2 with
    | inl broken =>
      obtain ⟨failure, failed⟩ := (createFrom_error_iff _ _ _).2 broken
      cases created.symm.trans failed
    | inr whole =>
      rw [← @reads_inside_iff call.block.size call.block.base call.block.size 0 ahl created,
        Nat.zero_add] at whole
      exact whole
  · rw [← throws_iff]
    cases isGroup : call.group context with
    | none =>
      apply FailsOnly.map
      by_cases grouped : call.avp.avpType = .grouped
      · rw [ValueCall.group, if_pos grouped] at isGroup
        rw [AvpValueParser.parseData, grouped]
        apply FailsOnly.map
        rw [GroupedParser.parseRawToApp, isGroup]
        exact FailsOnly.error (reports _ _ _)
      · exact parseData_throws reports grouped fits.admitted inMemory
    | some gavp =>
      have grouped : call.group context ≠ none := by
        rw [isGroup]
        exact Option.some_ne_none gavp
      obtain ⟨room, _⟩ := fits.group grouped
      obtain ⟨depth, isDepth⟩ := Nat.exists_eq_succ_of_ne_zero room
      rw [parse_of_group isGroup]
      apply FailsOnly.map
      rw [isDepth, QualifiedAvpListParser.parseRawToApp]
      cases created : AvpHeaderList.create call.block with
      | error failure =>
        apply FailsOnly.error
        rw [createFrom_throws created]
        rintro ⟨⟩
      | ok ahl =>
        apply parseRawToAppWithDict_throws reports
        intro avp inside
        apply values depth isDepth avp
        obtain ⟨_, entry, block⟩ := call
        cases isDepth
        rw [inner_of_group isGroup created]
        exact inside
  · intro unfit
    rw [fits.admitted] at unfit
    cases unfit

end ValueCall

theorem self_mem_valueCalls (context : ParserContext) (depth : Nat) (avp : DictionaryEntry)
    (block : ValueBlock) : ⟨depth, avp, block⟩ ∈ valueCalls context depth avp block := by
  cases depth with
  | zero => exact List.mem_singleton_self _
  | succ depth => exact List.mem_cons_self

/-- All calls are sound if all fit. -/
theorem valueCalls_sound {context : ParserContext} (reports : context.Reports) {depth : Nat}
    {avp : DictionaryEntry} {block : ValueBlock} (inMemory : block.size ≤ block.base.length)
    (fits : ∀ call ∈ valueCalls context depth avp block, call.Fits context) :
    ∀ call ∈ valueCalls context depth avp block, call.Sound context := by
  induction depth generalizing avp block with
  | zero =>
    rw [valueCalls, List.forall_mem_singleton] at fits ⊢
    exact fits.sound reports inMemory fun _ room => nomatch room
  | succ depth induction =>
    rw [valueCalls, List.forall_mem_cons] at fits ⊢
    obtain ⟨own, others⟩ := fits
    have inner : ∀ avp' ∈ (⟨depth + 1, avp, block⟩ : ValueCall).inner context,
        ∀ call ∈ valueCalls context depth avp'.1 (avp'.2.value avp'.1), call.Sound context := by
      intro avp' inside
      obtain ⟨ahl, created, listed⟩ := ValueCall.created_of_inner inside
      apply induction (value_inMemory inMemory created listed (own.covered avp' inside))
      exact fun call called => others call (List.mem_flatMap.2 ⟨avp', inside, called⟩)
    refine ⟨own.sound reports inMemory ?_, ?_⟩
    · intro less isDepth avp' inside
      cases isDepth
      rw [throws_iff]
      exact (inner avp' inside _ (self_mem_valueCalls _ _ _ _)).thrown
    · intro call called
      obtain ⟨avp', inside, called⟩ := List.mem_flatMap.1 called
      exact inner avp' inside call called

/-- The value parsers that the value of an AVP leads to stay inside of their payloads, throw no
other fault and refuse each payload of a wrong length, exactly when no payload has a wrong length
and the groups are whole. -/
theorem valueCalls_sound_iff {context : ParserContext} (reports : context.Reports) (depth : Nat)
    (avp : DictionaryEntry) (payload memory : List UInt8) :
    (∀ call ∈ valueCalls context depth avp ⟨payload ++ memory, payload.length⟩,
        call.Sound context) ↔
      ∀ call ∈ valueCalls context depth avp ⟨payload ++ memory, payload.length⟩,
        call.Fits context := by
  constructor
  · intro sound call called
    exact (sound call called).fits
  · intro fits
    apply valueCalls_sound reports _ fits
    rw [List.length_append]
    exact Nat.le_add_right _ _

namespace ApplicationId

def hostIpAddress : DictionaryEntry :=
  { avpName := "Host-IP-Address", avpCode := 257, avpType := .address, vendorId := 0
    flags := ⟨true, false, false⟩ }

theorem measured (avp : DictionaryEntry) :
    FailsOnly (fun failure => failure ≠ .crash) (getMinSize context.dictionary 2 avp) ∧
      ∀ size, getMinSize context.dictionary 2 avp = .ok size → 8 ≤ size ∧ size < 16777216 := by
  rw [getMinSize, groupedMinSize]
  by_cases grouped : avp.avpType = .grouped
  · rw [if_pos grouped]
    cases found : context.dictionary.searchGrouped avp.avpCode avp.vendorId with
    | none =>
      exact ⟨FailsOnly.error fun same => (nomatch same), fun _ returned => (nomatch returned)⟩
    | some gavp =>
      have isGroup : gavp = group := List.mem_singleton.1 (List.mem_of_find?_eq_some found)
      have sum : qualifiedMinSize (getMinSize context.dictionary 1) group.avpR = .ok 12 := rfl
      have zero : qualifiedMinSize (getMinSize context.dictionary 1) group.avpF = .ok 0 := rfl
      rw [isGroup]
      dsimp only
      rw [zero, sum, grouped]
      refine ⟨FailsOnly.ok _, fun size returned => ?_⟩
      cases returned
      dsimp only [AvpDataType.minSize]
      split <;> decide
  · rw [if_neg grouped]
    refine ⟨FailsOnly.ok _, fun size returned => ?_⟩
    cases returned
    have small : avp.avpType.minSize ≤ 8 := by
      cases avp.avpType <;> decide
    split <;> omega

theorem reports : context.Reports := by
  intro type code avp crashed
  obtain ⟨throws, sizes⟩ := measured avp
  have two : context.stack = 2 := rfl
  rw [Failure.throwWith, two] at crashed
  cases outcome : getMinSize context.dictionary 2 avp with
  | error failure =>
    rw [outcome] at crashed
    exact throws failure outcome crashed
  | ok size =>
    obtain ⟨large, small⟩ := sizes size outcome
    rw [outcome] at crashed
    dsimp only at crashed
    rw [DiameterErrorCode.failedAvp, Nat.mod_eq_of_lt small] at crashed
    dsimp only at crashed
    split at crashed
    · rename_i built
      split at built
      · cases built
        cases crashed
      · split at built
        · rename_i short
          rw [AvpHeader.length_octets] at short
          change size + 4 < 8 at short
          omega
        · cases built
    · cases crashed

end ApplicationId

open ApplicationId in
theorem valueCalls_sound_iff_whole :
    (∀ call ∈ valueCalls context 1 applicationId ⟨whole.base ++ [], whole.base.length⟩,
        call.Sound context) ↔
      ∀ call ∈ valueCalls context 1 applicationId ⟨whole.base ++ [], whole.base.length⟩,
        call.Fits context :=
  valueCalls_sound_iff reports 1 applicationId whole.base []

open ApplicationId in
/-- Three bytes are read as a number together with the byte behind them, and one byte is no
address and no error either. -/
theorem short_values_unsound :
    (⟨0, vendorId, ⟨[1, 2, 3] ++ [4], 3⟩⟩ : ValueCall).parse context =
        .ok ⟨.uinteger32, .integer32 16909060⟩ ∧
      (⟨0, vendorId, ⟨[1, 2, 3] ++ [5], 3⟩⟩ : ValueCall).parse context =
        .ok ⟨.uinteger32, .integer32 16909061⟩ ∧
      ¬(⟨0, vendorId, ⟨[1, 2, 3] ++ [4], 3⟩⟩ : ValueCall).Sound context ∧
      (⟨0, hostIpAddress, ⟨[1] ++ [], 1⟩⟩ : ValueCall).parse context = .error .crash ∧
      ¬(⟨0, hostIpAddress, ⟨[1] ++ [], 1⟩⟩ : ValueCall).Sound context := by
  have number : (⟨0, vendorId, ⟨[1, 2, 3] ++ [4], 3⟩⟩ : ValueCall).parse context =
      .ok ⟨.uinteger32, .integer32 16909060⟩ := rfl
  have fault : (⟨0, hostIpAddress, ⟨[1] ++ [], 1⟩⟩ : ValueCall).parse context =
      .error .crash := rfl
  refine ⟨number, rfl, ?_, fault, fun sound => sound.thrown fault⟩
  intro sound
  obtain ⟨st, refused⟩ := sound.rejected rfl
  rw [number] at refused
  cases refused

end OpenDiameter.Parser
