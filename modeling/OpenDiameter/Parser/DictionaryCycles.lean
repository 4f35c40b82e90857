import OpenDiameter.Foundation.Cycles
import OpenDiameter.Parser.DictionaryLoader

/-!
Whether `getMinSize` comes to an end for the AVPs that the XML loader has read: the loader
does not look for grouped AVPs that lead back to themselves.
-/

namespace OpenDiameter.Parser

open Foundation Relation

/-- From some stack on the stack does not run out. -/
def Terminates (dictionary : Dictionary) (avp : DictionaryEntry) : Prop :=
  ∃ stack, ∀ deeper, stack ≤ deeper → getMinSize dictionary deeper avp ≠ .error .crash

/-- The AVP is one of the members, and all before it have a minimum size. -/
inductive Visits (dictionary : Dictionary) (avp : DictionaryEntry) : List QualifiedAvp → Prop where
  | here {member : QualifiedAvp} {members : List QualifiedAvp} :
      member.avp = avp → Visits dictionary avp (member :: members)
  | later {member : QualifiedAvp} {members : List QualifiedAvp} :
      (∃ size, HasMinSize dictionary member.avp size) → Visits dictionary avp members →
      Visits dictionary avp (member :: members)

/-- A grouped AVP is measured by measuring one of its fixed and required AVPs. One after a group
that is missing somewhere is not looked at any more. -/
def Calls (dictionary : Dictionary) (member avp : DictionaryEntry) : Prop :=
  avp.avpType = .grouped ∧ ∃ gavp, dictionary.searchGrouped avp.avpCode avp.vendorId = some gavp ∧
    Visits dictionary member (gavp.avpF ++ gavp.avpR)

/-- The first member that cannot be measured fails in this way. -/
inductive FailsAt (measure : DictionaryEntry → Except Failure Nat) (failure : Failure) :
    List QualifiedAvp → Prop where
  | here {member : QualifiedAvp} {members : List QualifiedAvp} :
      measure member.avp = .error failure → FailsAt measure failure (member :: members)
  | later {member : QualifiedAvp} {members : List QualifiedAvp} {size : Nat} :
      measure member.avp = .ok size → FailsAt measure failure members →
      FailsAt measure failure (member :: members)

section

variable {measure : DictionaryEntry → Except Failure Nat} {failure : Failure}
  {members others : List QualifiedAvp} {start : Nat}

theorem foldMinSize_eq_error_iff :
    members.foldlM
      (fun sum member => do
        let size ← measure member.avp
        return (sum + size * member.min) % 4294967296) start = .error failure ↔
      FailsAt measure failure members := by
  induction members generalizing start with
  | nil => exact ⟨fun failed => (nomatch failed), fun failed => (nomatch failed)⟩
  | cons member members induction =>
    rw [List.foldlM_cons]
    cases measured : measure member.avp with
    | error other =>
      constructor
      · intro failed
        cases failed
        exact .here measured
      · intro failed
        cases failed with
        | here isError => exact (measured.symm.trans isError)
        | later isSize => cases measured.symm.trans isSize
    | ok size =>
      constructor
      · exact fun failed => .later measured (induction.mp failed)
      · intro failed
        cases failed with
        | here isError => cases measured.symm.trans isError
        | later _ rest => exact induction.mpr rest

theorem qualifiedMinSize_eq_error_iff :
    qualifiedMinSize measure members = .error failure ↔ FailsAt measure failure members :=
  foldMinSize_eq_error_iff

/-- The sums over two lists fail where the sum over both of them does. -/
theorem failsAt_append_iff :
    FailsAt measure failure (members ++ others) ↔
      (qualifiedMinSize measure members >>= fun _ => qualifiedMinSize measure others) =
        .error failure := by
  rw [← qualifiedMinSize_eq_error_iff, qualifiedMinSize, List.foldlM_append]
  change (qualifiedMinSize measure members >>= fun _ => _) = _ ↔ _
  cases qualifiedMinSize measure members with
  | error other => exact Iff.rfl
  | ok sum => exact foldMinSize_eq_error_iff.trans qualifiedMinSize_eq_error_iff.symm

end

section

variable {dictionary : Dictionary} {avp member : DictionaryEntry} {gavp : DiameterDictionary}
  {stack : Nat} {members : List QualifiedAvp} {failure : Failure}

theorem getMinSize_succ_eq_error_iff (isGrouped : avp.avpType = .grouped)
    (found : dictionary.searchGrouped avp.avpCode avp.vendorId = some gavp) :
    getMinSize dictionary (stack + 1) avp = .error failure ↔
      FailsAt (getMinSize dictionary stack) failure (gavp.avpF ++ gavp.avpR) := by
  rw [failsAt_append_iff, getMinSize, groupedMinSize, if_pos isGrouped, found]
  dsimp only
  cases qualifiedMinSize (getMinSize dictionary stack) gavp.avpF >>= fun _ =>
      qualifiedMinSize (getMinSize dictionary stack) gavp.avpR with
  | error other => exact Iff.rfl
  | ok sum => exact ⟨by rintro ⟨⟩, by rintro ⟨⟩⟩

/-- Of an AVP that has a minimum size the measuring can at most run out of stack. -/
theorem HasMinSize.fails {size : Nat} (isSize : HasMinSize dictionary avp size) (stack : Nat) :
    FailsOnly (fun failure => failure = .crash) (getMinSize dictionary stack avp) := by
  induction isSize generalizing stack with
  | plain notGrouped =>
    cases stack with
    | zero => exact .error rfl
    | succ stack =>
      obtain ⟨size, isSize⟩ := getMinSize_plain notGrouped stack
      rw [isSize]
      exact .ok size
  | grouped isGrouped found size sizes induction =>
    cases stack with
    | zero => exact .error rfl
    | succ stack =>
      exact getMinSize_group_fails isGrouped found fun member inside =>
        induction member inside stack

/-- If an AVP is come to and not measured for want of stack, neither is the rule. -/
theorem Visits.failsAt (visits : Visits dictionary avp members)
    (exhausted : getMinSize dictionary stack avp = .error .crash) :
    FailsAt (getMinSize dictionary stack) .crash members := by
  induction visits with
  | here isAvp => exact .here (isAvp ▸ exhausted)
  | @later member members sized _ induction =>
    obtain ⟨size, isSize⟩ := sized
    cases measured : getMinSize dictionary stack member.avp with
    | ok size => exact .later measured induction
    | error failure =>
      have isCrash := isSize.fails stack failure measured
      rw [isCrash] at measured
      exact .here measured

theorem Visits.mem (visits : Visits dictionary avp members) :
    ∃ member ∈ members, member.avp = avp := by
  induction visits with
  | here isAvp => exact ⟨_, List.mem_cons_self, isAvp⟩
  | later _ _ induction =>
    obtain ⟨member, inside, isAvp⟩ := induction
    exact ⟨member, List.mem_cons_of_mem _ inside, isAvp⟩

/-- What fails is come to. -/
theorem FailsAt.visits (loaded : dictionary.Loaded)
    (own : ∀ member ∈ members, member.avp.Loaded)
    (fails : FailsAt (getMinSize dictionary stack) failure members) :
    ∃ member ∈ members, Visits dictionary member.avp members ∧
      getMinSize dictionary stack member.avp = .error failure := by
  induction fails with
  | @here member members isError =>
    exact ⟨member, List.mem_cons_self, .here rfl, isError⟩
  | @later member members size isSize _ induction =>
    rw [List.forall_mem_cons] at own
    obtain ⟨found, listed, visits, isError⟩ := induction own.2
    obtain ⟨size, _, sized, _⟩ := getMinSize_ok loaded own.1 isSize
    exact ⟨found, List.mem_cons_of_mem _ listed, .later ⟨size, sized⟩ visits, isError⟩

end

section

variable {dictionary : Dictionary} {avp : DictionaryEntry}

theorem acc_of_measured {stack : Nat}
    (returned : getMinSize dictionary stack avp ≠ .error .crash) :
    Acc (Calls dictionary) avp := by
  induction stack generalizing avp with
  | zero => exact absurd rfl returned
  | succ stack induction =>
    constructor
    intro member calls
    obtain ⟨isGrouped, gavp, found, visits⟩ := calls
    apply induction
    intro exhausted
    exact returned ((getMinSize_succ_eq_error_iff isGrouped found).mpr
      (visits.failsAt exhausted))

theorem terminates_of_members (loaded : dictionary.Loaded) {gavp : DiameterDictionary}
    (isGrouped : avp.avpType = .grouped)
    (found : dictionary.searchGrouped avp.avpCode avp.vendorId = some gavp)
    (each : ∀ member ∈ gavp.avpF ++ gavp.avpR,
      Visits dictionary member.avp (gavp.avpF ++ gavp.avpR) → Terminates dictionary member.avp) :
    Terminates dictionary avp := by
  -- those that are not come to need no stack
  have visited : ∀ member ∈ gavp.avpF ++ gavp.avpR, ∃ stack, ∀ deeper, stack ≤ deeper →
      Visits dictionary member.avp (gavp.avpF ++ gavp.avpR) →
      getMinSize dictionary deeper member.avp ≠ .error .crash := by
    intro member inside
    by_cases visits : Visits dictionary member.avp (gavp.avpF ++ gavp.avpR)
    · obtain ⟨stack, enough⟩ := each member inside visits
      exact ⟨stack, fun deeper more _ => enough deeper more⟩
    · exact ⟨0, fun _ _ visited => absurd visited visits⟩
  obtain ⟨stack, enough⟩ := exists_stack visited
  apply exists_stack_succ
  refine ⟨stack, fun deeper more exhausted => ?_⟩
  have fails := (getMinSize_succ_eq_error_iff isGrouped found).mp exhausted
  have own : ∀ member ∈ gavp.avpF ++ gavp.avpR, member.avp.Loaded :=
    fun member inside => loaded.members gavp (mem_of_searchGrouped found) member
      (List.mem_append_left _ inside)
  obtain ⟨member, inside, visits, failed⟩ := fails.visits loaded own
  exact enough deeper more member inside visits failed

theorem terminates_of_acc (loaded : dictionary.Loaded) (acc : Acc (Calls dictionary) avp) :
    Terminates dictionary avp := by
  induction acc with
  | intro avp _ induction =>
    by_cases isGrouped : avp.avpType = .grouped
    · cases found : dictionary.searchGrouped avp.avpCode avp.vendorId with
      | none =>
        apply exists_stack_succ
        refine ⟨0, fun deeper _ failed => ?_⟩
        rw [getMinSize_missing isGrouped found] at failed
        exact nomatch failed
      | some gavp =>
        apply terminates_of_members loaded isGrouped found
        exact fun member _ visits => induction member.avp ⟨isGrouped, gavp, found, visits⟩
    · apply exists_stack_succ
      refine ⟨0, fun deeper _ failed => ?_⟩
      obtain ⟨size, isSize⟩ := getMinSize_plain isGrouped deeper
      rw [isSize] at failed
      exact nomatch failed

theorem terminates_iff_acc (loaded : dictionary.Loaded) :
    Terminates dictionary avp ↔ Acc (Calls dictionary) avp := by
  constructor
  · rintro ⟨stack, enough⟩
    exact acc_of_measured (enough stack (Nat.le_refl stack))
  · exact terminates_of_acc loaded

end

namespace DictionaryLists

variable {lists : DictionaryLists}

/-- The rules of the dictionary are about its own AVPs. -/
theorem Sound.mem_avpList (sound : lists.Sound) {group : DiameterDictionary}
    (listed : group ∈ lists.dictionary.groupedAvpList) {member : QualifiedAvp}
    (inside : member ∈ group.avpF ++ group.avpR ++ group.avpO) :
    member.avp ∈ lists.avpList := by
  obtain ⟨gavp, isGavp, rfl⟩ := List.mem_map.mp listed
  have all : member ∈ lists.qualified gavp.rules := by
    rw [qualified, DiameterGroupedAvp.rules, List.map_append, List.map_append]
    exact inside
  obtain ⟨rule, isRule, rfl⟩ := List.mem_map.mp all
  have points := sound.rules gavp isGavp rule isRule
  dsimp only
  rw [List.getD_eq_getElem?_getD, List.getElem?_eq_getElem points]
  exact List.getElem_mem points

theorem Sound.loaded (sound : lists.Sound) : lists.dictionary.Loaded :=
  ⟨fun _ listed _ inside => sound.entries _ (sound.mem_avpList listed inside)⟩

theorem Sound.closed (sound : lists.Sound) : Closed (Calls lists.dictionary) lists.avpList := by
  rintro avp _ member ⟨_, gavp, found, visits⟩
  obtain ⟨qavp, inside, rfl⟩ := visits.mem
  exact sound.mem_avpList (mem_of_searchGrouped found) (List.mem_append_left _ inside)

end DictionaryLists

/-- Of all that the loader has read `getMinSize` comes to an end for every AVP exactly when none
is measured, through groups, by measuring itself. -/
theorem getMinSize_terminates_iff {documents : List (List AaaXml.SaxEvent)}
    {lists : DictionaryLists} (loaded : AaaXml.loadDictionaries documents = some lists) :
    (∀ avp ∈ lists.avpList, Terminates lists.dictionary avp) ↔
      ∀ avp ∈ lists.avpList, ¬ TransGen (Calls lists.dictionary) avp avp := by
  have sound := AaaXml.loadDictionaries_sound loaded
  rw [← acc_iff_acyclic sound.closed]
  exact forall₂_congr fun avp _ => terminates_iff_acc sound.loaded

/-! A group of plain AVPs, and one that requires itself. -/

namespace LoadedGroups

open AaaXml

def element (qName : String) (atts : Atts) (contents : List SaxEvent) : List SaxEvent :=
  .startElement qName atts :: (contents ++ [.endElement qName])

def plain (name code : String) : List SaxEvent :=
  element "avp" [("name", name), ("code", code), ("mandatory", "must")]
    (element "type" [("type-name", "Unsigned32")] [])

def rule (name : String) : List SaxEvent :=
  element "avprule" [("name", name), ("minimum", "1"), ("maximum", "1")] []

def vendorSpecificDocument : List SaxEvent :=
  element "dictionary" [] (element "base" []
    (plain "Vendor-Id" "266" ++ plain "Auth-Application-Id" "258" ++
      element "avp"
        [("name", "Vendor-Specific-Application-Id"), ("code", "260"), ("mandatory", "must")]
        (element "grouped" []
          (element "fixed" [] (rule "Vendor-Id") ++
            element "required" [] (rule "Auth-Application-Id")))))

def vendorSpecific : DictionaryLists :=
  (loadDictionaries [vendorSpecificDocument]).getD .initial

/-- An AVP is in the list before its own rules are read. -/
def nestedDocument : List SaxEvent :=
  element "dictionary" [] (element "base" []
    (element "avp" [("name", "Nested"), ("code", "900")]
      (element "grouped" [] (element "required" [] (rule "Nested")))))

def nestedLists : DictionaryLists :=
  (loadDictionaries [nestedDocument]).getD .initial

def nested : DictionaryEntry where
  avpName := "Nested"
  avpCode := 900
  avpType := .grouped
  vendorId := 0
  flags := ⟨false, false, false⟩

theorem vendorSpecific_loaded :
    loadDictionaries [vendorSpecificDocument] = some vendorSpecific := rfl

theorem vendorSpecific_listed : VendorSpecificApplicationId.avp ∈ vendorSpecific.avpList :=
  List.mem_of_getElem? (show vendorSpecific.avpList[3]? = _ from rfl)

/-- The AVPs of the group are plain. -/
theorem vendorSpecific_plain {member avp : DictionaryEntry}
    (calls : Calls vendorSpecific.dictionary member avp) :
    avp.avpType = .grouped ∧ member.avpType ≠ .grouped := by
  have plain : (vendorSpecific.dictionary.groupedAvpList.all fun gavp =>
      (gavp.avpF ++ gavp.avpR).all fun member => member.avp.avpType != .grouped) = true := rfl
  obtain ⟨isGrouped, gavp, found, visits⟩ := calls
  obtain ⟨qavp, inside, rfl⟩ := visits.mem
  have all := List.all_eq_true.mp plain gavp (mem_of_searchGrouped found)
  exact ⟨isGrouped, bne_iff_ne.mp (List.all_eq_true.mp all qavp inside)⟩

theorem nestedLists_loaded : loadDictionaries [nestedDocument] = some nestedLists := rfl

theorem nested_listed : nested ∈ nestedLists.avpList := List.mem_cons_of_mem _ List.mem_cons_self

theorem nested_calls : Calls nestedLists.dictionary nested nested :=
  ⟨rfl, _, rfl, .here rfl⟩

end LoadedGroups

open LoadedGroups in
theorem getMinSize_terminates_vendorSpecific :
    Terminates vendorSpecific.dictionary VendorSpecificApplicationId.avp := by
  apply (getMinSize_terminates_iff vendorSpecific_loaded).mpr
  · intro avp _ leads
    obtain ⟨_, first, _⟩ := TransGen.head'_iff.mp leads
    obtain ⟨_, _, last⟩ := TransGen.tail'_iff.mp leads
    exact (vendorSpecific_plain first).2 (vendorSpecific_plain last).1
  · exact vendorSpecific_listed

open LoadedGroups in
/-- A dictionary is loaded whose AVP requires itself, and that AVP is measured without end. -/
theorem nested_group_endless :
    AaaXml.loadDictionaries [nestedDocument] = some nestedLists ∧ nested ∈ nestedLists.avpList ∧
      Calls nestedLists.dictionary nested nested ∧
      ¬ Terminates nestedLists.dictionary nested := by
  refine ⟨nestedLists_loaded, nested_listed, nested_calls, ?_⟩
  rintro ⟨stack, enough⟩
  exact not_self_of_acc (acc_of_measured (enough stack (Nat.le_refl stack))) nested_calls
end OpenDiameter.Parser
