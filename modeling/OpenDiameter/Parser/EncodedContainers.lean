import Mathlib.Data.List.Forall2
import OpenDiameter.Parser.EncoderAppends

namespace OpenDiameter.Parser

open Foundation

/-! Which containers of a list the encoder finds, and what it writes for them. -/

/-- The place of the container that `search` returns. -/
def AvpContainerList.searchIndex (acl : AvpContainerList) (name : String) : Option Nat :=
  acl.findIdx? fun container => container.avpName == name

/-- The places of the containers that the AVPs of a rule find, one after the other. -/
def visited (acl : AvpContainerList) (members : List RuleAvp) : List Nat :=
  members.filterMap fun member => acl.searchIndex member.avp.avpName

/-- The bytes that are written for one value. -/
def ValueWritten (context : ParserContext)
    (writeGroup : DiameterDictionary → AvpContainerList → ByteBuffer → Except Failure ByteBuffer)
    (avp : DictionaryEntry) (entry : AvpContainerEntry) (piece : List UInt8) : Prop :=
  ∃ before after, AvpParser.writeEntry context writeGroup avp entry before = .ok after ∧
    after.contents = before.contents ++ piece

/-- The visit of one container: its place, and the pieces written for its values. -/
structure Visit where
  index : Nat
  pieces : List (List UInt8)

def Visit.Writes (context : ParserContext)
    (writeGroup : DiameterDictionary → AvpContainerList → ByteBuffer → Except Failure ByteBuffer)
    (members : List RuleAvp) (acl : AvpContainerList) (visit : Visit) : Prop :=
  ∃ member ∈ members, ∃ container, acl[visit.index]? = some container ∧
    container.avpName = member.avp.avpName ∧
    List.Forall₂ (ValueWritten context writeGroup member.avp) container.entries visit.pieces

variable {acl : AvpContainerList}

theorem searchIndex_of_search {name : String} {container : AvpContainer}
    (found : acl.search name = some container) :
    ∃ index, acl.searchIndex name = some index ∧ acl[index]? = some container := by
  obtain ⟨named, index, inside, rfl, before⟩ := List.find?_eq_some_iff_getElem.mp found
  refine ⟨index, ?_, List.getElem?_eq_getElem inside⟩
  apply List.findIdx?_eq_some_iff_getElem.mpr
  refine ⟨inside, named, ?_⟩
  intro other earlier
  simpa using before other earlier

theorem searchIndex_of_search_none {name : String} (absent : acl.search name = none) :
    acl.searchIndex name = none := by
  apply List.findIdx?_eq_none_iff.mpr
  intro container inside
  simpa using List.find?_eq_none.mp absent container inside

/-- A name finds a place when the container there is the first one of that name. -/
theorem searchIndex_eq_some {name : String} {index : Nat} :
    acl.searchIndex name = some index ↔
      (∃ container, acl[index]? = some container ∧ container.avpName = name) ∧
        ∀ other < index, ∀ container, acl[other]? = some container →
          container.avpName ≠ name := by
  unfold AvpContainerList.searchIndex
  rw [List.findIdx?_eq_some_iff_getElem]
  constructor
  · intro ⟨inside, named, before⟩
    constructor
    · exact ⟨acl[index], List.getElem?_eq_getElem inside, by simpa using named⟩
    · intro other earlier container there
      rw [List.getElem?_eq_getElem (Nat.lt_trans earlier inside)] at there
      cases there
      simpa using before other earlier
  · intro ⟨⟨container, there, named⟩, before⟩
    obtain ⟨inside, rfl⟩ := List.getElem?_eq_some_iff.mp there
    refine ⟨inside, by simpa using named, ?_⟩
    intro other earlier
    simpa using before other earlier _ (List.getElem?_eq_getElem (Nat.lt_trans earlier inside))

section Bytes

variable {context : ParserContext}
  {writeGroup : DiameterDictionary → AvpContainerList → ByteBuffer → Except Failure ByteBuffer}
  {buffer after : ByteBuffer}

/-- The values of a container are written one behind the other. -/
theorem pieces_of_entries (groups : GroupsAppend writeGroup) {avp : DictionaryEntry}
    {entries : List AvpContainerEntry} (sized : BlockSized buffer)
    (written : AvpParser.parseAppToRaw context writeGroup avp entries buffer = .ok after) :
    ∃ pieces, List.Forall₂ (ValueWritten context writeGroup avp) entries pieces ∧
      after.contents = buffer.contents ++ pieces.flatten := by
  induction entries generalizing buffer with
  | nil =>
    cases written
    exact ⟨[], .nil, by simp⟩
  | cons entry entries induction =>
    obtain ⟨middle, one, rest⟩ := bind_eq_ok.mp written
    have first := writeEntry_appends groups sized one
    obtain ⟨pieces, all, contents⟩ := induction (first.blockSized sized) rest
    obtain ⟨piece, extended⟩ := first.keeps
    refine ⟨piece :: pieces, .cons ⟨buffer, middle, one, extended.symm⟩ all, ?_⟩
    rw [contents, ← extended, List.flatten_cons, List.append_assoc]

/-- The encoder visits the containers that the rule finds, and writes nothing else. -/
theorem visits_of_members (groups : GroupsAppend writeGroup) {acl : AvpContainerList}
    {members : List RuleAvp} (sized : BlockSized buffer)
    (written : parseAppToRawWithDict context writeGroup acl members buffer = .ok after) :
    ∃ visits : List Visit, visits.map Visit.index = visited acl members ∧
      (∀ visit ∈ visits, visit.Writes context writeGroup members acl) ∧
      after.contents = buffer.contents ++ (visits.map fun visit => visit.pieces.flatten).flatten
      := by
  induction members generalizing buffer with
  | nil =>
    cases written
    exact ⟨[], rfl, by simp, by simp⟩
  | cons member members induction =>
    obtain ⟨middle, one, rest⟩ := bind_eq_ok.mp written
    have first := writeMember_appends groups sized one
    obtain ⟨visits, places, all, contents⟩ := induction (first.blockSized sized) rest
    have later : ∀ visit ∈ visits, visit.Writes context writeGroup (member :: members) acl := by
      intro visit inside
      obtain ⟨other, among, found⟩ := all visit inside
      exact ⟨other, List.mem_cons_of_mem _ among, found⟩
    rcases writeMember_eq_ok one with ⟨absent, rfl, _⟩ | ⟨container, found, _, _, entries⟩
    · refine ⟨visits, ?_, later, contents⟩
      rw [places]
      simp [visited, searchIndex_of_search_none absent]
    · obtain ⟨index, place, there⟩ := searchIndex_of_search found
      obtain ⟨pieces, own, extended⟩ := pieces_of_entries groups sized entries
      refine ⟨⟨index, pieces⟩ :: visits, ?_, ?_, ?_⟩
      · rw [List.map_cons, places]
        simp [visited, place]
      · intro visit inside
        rcases List.mem_cons.mp inside with rfl | inside
        · have named : container.avpName = member.avp.avpName := by
            simpa using List.find?_some found
          exact ⟨member, List.mem_cons_self, container, there, named, own⟩
        · exact later visit inside
      · rw [contents, extended, List.append_assoc]
        rfl

end Bytes

/-- The bytes written are those of visits, and every container with values is
visited exactly once. -/
def EveryValueOnce (context : ParserContext)
    (writeGroup : DiameterDictionary → AvpContainerList → ByteBuffer → Except Failure ByteBuffer)
    (members : List RuleAvp) (acl : AvpContainerList) (written : List UInt8) : Prop :=
  ∃ visits : List Visit, visits.map Visit.index = visited acl members ∧
    (∀ visit ∈ visits, visit.Writes context writeGroup members acl) ∧
    written = (visits.map fun visit => visit.pieces.flatten).flatten ∧
    ∀ (index : Nat) (container : AvpContainer), acl[index]? = some container →
      container.entries ≠ [] → (visits.map Visit.index).count index = 1

/-- Every container with values is the first of its name, and the rule lists that
name once. -/
def Findable (members : List RuleAvp) (acl : AvpContainerList) : Prop :=
  ∀ (index : Nat) (container : AvpContainer), acl[index]? = some container →
    container.entries ≠ [] →
    (∀ other < index, ∀ earlier : AvpContainer, acl[other]? = some earlier →
      earlier.avpName ≠ container.avpName) ∧
    members.countP (fun member => member.avp.avpName == container.avpName) = 1

/-- The first container of a name is visited once for each time the rule lists it. -/
theorem count_visited_of_first {index : Nat} {container : AvpContainer}
    (there : acl[index]? = some container)
    (first : ∀ other < index, ∀ earlier : AvpContainer, acl[other]? = some earlier →
      earlier.avpName ≠ container.avpName) (members : List RuleAvp) :
    (visited acl members).count index =
      members.countP fun member => member.avp.avpName == container.avpName := by
  unfold visited
  rw [List.count_filterMap]
  apply List.countP_congr
  intro member _
  rw [beq_iff_eq, beq_iff_eq, searchIndex_eq_some]
  constructor
  · intro ⟨⟨other, same, named⟩, _⟩
    cases there.symm.trans same
    exact named.symm
  · intro named
    rw [named]
    exact ⟨⟨container, there, rfl⟩, first⟩

/-- Only the first container of a name is ever visited. -/
theorem count_visited_of_not_first {index other : Nat} {container earlier : AvpContainer}
    (there : acl[index]? = some container) (before : other < index)
    (found : acl[other]? = some earlier) (named : earlier.avpName = container.avpName)
    (members : List RuleAvp) :
    (visited acl members).count index = 0 := by
  apply List.count_eq_zero_of_not_mem
  intro inside
  obtain ⟨member, _, place⟩ := List.mem_filterMap.mp inside
  obtain ⟨⟨same, here, name⟩, first⟩ := searchIndex_eq_some.mp place
  cases there.symm.trans here
  exact first other before earlier found (named.trans name)

/-- The encoder writes every value once exactly when every container with values
is the first of its name and the rule lists that name once. -/
theorem every_value_once_iff {context : ParserContext} {depth : Nat}
    {rule : DiameterDictionary} {acl : AvpContainerList} {buffer after : ByteBuffer}
    (sized : BlockSized buffer)
    (encoded : QualifiedAvpListParser.parseAppToRaw context (depth + 1) rule acl buffer =
      .ok after) :
    EveryValueOnce context (QualifiedAvpListParser.parseAppToRaw context depth) rule.ruleAvps
        acl (after.contents.drop buffer.used) ↔
      Findable rule.ruleAvps acl := by
  constructor
  · intro ⟨visits, places, _, _, once⟩ index container there values
    have count := once index container there values
    rw [places] at count
    have first : ∀ other < index, ∀ earlier : AvpContainer, acl[other]? = some earlier →
        earlier.avpName ≠ container.avpName := by
      intro other before earlier found named
      rw [count_visited_of_not_first there before found named] at count
      cases count
    rw [count_visited_of_first there first] at count
    exact ⟨first, count⟩
  · intro findable
    obtain ⟨visits, places, all, contents⟩ :=
      visits_of_members (encoder_appends context depth) sized encoded
    refine ⟨visits, places, all, ?_, ?_⟩
    · rw [contents, ← buffer.length_contents, List.drop_left]
    · intro index container there values
      obtain ⟨first, once⟩ := findable index container there values
      rw [places, count_visited_of_first there first]
      exact once

/-! A list with two containers of the same name, as a relay makes it that adds its
own Route-Record. -/

namespace RouteRecords

def routeRecord : DictionaryEntry :=
  { avpName := "Route-Record", avpCode := 282, avpType := .diamId, vendorId := 0
    flags := ⟨true, false, false⟩ }

def rule : DiameterDictionary :=
  { code := 274, appId := 0, vendorId := 0, avpF := [], avpR := []
    avpO := [⟨routeRecord, 0, 100⟩] }

def context : ParserContext :=
  { dictionary := ⟨[], []⟩, stack := 1
    uri := ⟨fun _ => none, fun _ => []⟩
    ipFilterRule := ⟨fun _ => none, fun _ => []⟩ }

/-- The received record `nas1`. -/
def received : AvpContainer := ⟨"Route-Record", [⟨.diamId, .octets [110, 97, 115, 49]⟩]⟩

/-- The record `rly2` of the relay itself. -/
def added : AvpContainer := ⟨"Route-Record", [⟨.diamId, .octets [114, 108, 121, 50]⟩]⟩

/-- The AVP of the received record. -/
def encoding : List UInt8 := [0, 0, 1, 26, 64, 0, 0, 12, 110, 97, 115, 49]

end RouteRecords

open RouteRecords in
theorem every_value_once_iff_received :
    EveryValueOnce context (QualifiedAvpListParser.parseAppToRaw context 0) rule.ruleAvps
        [received] encoding ↔ Findable rule.ruleAvps [received] := by
  have sized : BlockSized (ByteBuffer.zeroed 12) := by
    rw [BlockSized, ByteBuffer.capacity_zeroed]
    decide
  have encoded : QualifiedAvpListParser.parseAppToRaw context 1 rule [received]
      (ByteBuffer.zeroed 12) = .ok ⟨encoding, 12, by decide⟩ := rfl
  exact every_value_once_iff sized encoded

open RouteRecords in
/-- Nothing is written for the second container. -/
theorem second_container_lost :
    (∃ after, QualifiedAvpListParser.parseAppToRaw context 1 rule [received, added]
        (ByteBuffer.zeroed 64) = .ok after ∧ after.contents = encoding) ∧
      ¬ EveryValueOnce context (QualifiedAvpListParser.parseAppToRaw context 0) rule.ruleAvps
        [received, added] encoding := by
  constructor
  · exact ⟨_, rfl, rfl⟩
  · intro ⟨visits, places, _, _, once⟩
    have count := once 1 added rfl (by decide)
    rw [places] at count
    exact absurd count (by decide)

end OpenDiameter.Parser
