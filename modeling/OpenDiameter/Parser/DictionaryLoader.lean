import OpenDiameter.Parser.MinimumSizes

/-!
The first pass of the XML loader, which reads the AVPs of a dictionary and the rules of the
grouped ones. What it does is driven by the elements of the document as they start and end.
-/

namespace OpenDiameter.Parser

/-- A rule of a grouped AVP. The place of the AVP in the list stands for the pointer to it. -/
structure AvpRule where
  avp : Nat
  min : Nat
  max : Nat
  deriving DecidableEq, Repr

/-- `DiameterGroupedAVP` -/
structure DiameterGroupedAvp where
  code : Nat
  vendorId : Nat
  avpF : List AvpRule
  avpR : List AvpRule
  avpO : List AvpRule
  deriving DecidableEq, Repr

/-- `DiameterAvpList` and `DiameterGroupedAvpList`. -/
structure DictionaryLists where
  avpList : List DictionaryEntry
  groupedAvpList : List DiameterGroupedAvp

namespace DictionaryLists

/-- The AVP that is there before any dictionary is read. -/
def any : DictionaryEntry where
  avpName := "AVP"
  avpCode := 0
  avpType := .data
  vendorId := 0
  flags := ⟨false, false, false⟩

def initial : DictionaryLists where
  avpList := [any]
  groupedAvpList := []

section

variable (lists : DictionaryLists)

/-- `DiameterAvpList::search` by name. -/
def search (avpName : String) : Option Nat :=
  lists.avpList.findIdx? fun avp => avp.avpName == avpName

/-- The rules with the AVPs that they point to. -/
def qualified (rules : List AvpRule) : List QualifiedAvp :=
  rules.map fun rule => ⟨lists.avpList.getD rule.avp any, rule.min, rule.max⟩

/-- A grouped AVP as the parsers see it. It belongs to no application. -/
def group (gavp : DiameterGroupedAvp) : DiameterDictionary where
  code := gavp.code
  appId := 0
  vendorId := gavp.vendorId
  avpF := lists.qualified gavp.avpF
  avpR := lists.qualified gavp.avpR
  avpO := lists.qualified gavp.avpO

/-- The dictionary of the lists. The commands come with the second pass. -/
def dictionary : Dictionary where
  commandList := []
  groupedAvpList := lists.groupedAvpList.map lists.group

/-- The type of an AVP is set. -/
def setType (avp : Nat) (avpType : AvpDataType) : DictionaryLists :=
  { lists with avpList := lists.avpList.modify avp fun entry => { entry with avpType } }

end

end DictionaryLists

/-! The elements of the first pass. -/

namespace AaaXml

inductive Element where
  | dictionary
  | vendor
  | base
  | application
  | typedefn
  | avp
  | type
  | grouped
  | fixed
  | required
  | optional
  | avprule
  deriving DecidableEq, Repr

def Element.ofName : String → Option Element
  | "dictionary" => some .dictionary
  | "vendor" => some .vendor
  | "base" => some .base
  | "application" => some .application
  | "typedefn" => some .typedefn
  | "avp" => some .avp
  | "type" => some .type
  | "grouped" => some .grouped
  | "fixed" => some .fixed
  | "required" => some .required
  | "optional" => some .optional
  | "avprule" => some .avprule
  | _ => none

/-- `DiameterAvpTypeList::search` by name. -/
def avpTypeOfName : String → Option AvpDataType
  | "Any" => some .data
  | "Integer32" => some .integer32
  | "Integer64" => some .integer64
  | "Unsigned32" => some .uinteger32
  | "Unsigned64" => some .uinteger64
  | "UTF8String" => some .utf8String
  | "Enumerated" => some .enum
  | "Time" => some .time
  | "OctetString" => some .string
  | "DiameterIdentity" => some .diamId
  | "DiameterURI" => some .diamUri
  | "IPFilterRule" => some .ipFilterRule
  | "Grouped" => some .grouped
  | "Address" => some .address
  | _ => none

/-- `ACEXML_Attributes`: the names with their values. -/
abbrev Atts := List (String × String)

/-- The value of the last one of a name, or the empty text. -/
def Atts.last (atts : Atts) (qName : String) : String :=
  ((atts.filter fun att => att.1 == qName).getLast?.map Prod.snd).getD ""

/-- The value of the first one of a name, or the empty text. -/
def Atts.first (atts : Atts) (qName : String) : String :=
  ((atts.find? fun att => att.1 == qName).map Prod.snd).getD ""

def digitsValue (text : List Char) : Nat :=
  (text.takeWhile Char.isDigit).foldl (fun value digit => value * 10 + (digit.toNat - 48)) 0

/-- `atoi`, for numbers that an `int` can hold. -/
def atoi (text : String) : Int :=
  match text.toList.dropWhile Char.isWhitespace with
  | '-' :: digits => -Int.ofNat (digitsValue digits)
  | '+' :: digits => Int.ofNat (digitsValue digits)
  | digits => Int.ofNat (digitsValue digits)

/-- The number in a field of so many bits. -/
def field (bits : Nat) (text : String) : Nat :=
  (atoi text % (2 ^ bits : Nat)).toNat

inductive SaxEvent where
  | startElement (qName : String) (atts : Atts)
  | endElement (qName : String)

/-- What the elements hold while a document is read, and the lists. There is one object of each
element. -/
structure ParsingTables where
  lists : DictionaryLists
  inProcess : Element → Bool
  parent : Element → Option Element
  callStack : List Element
  /-- `IsSkipped` of the positions. -/
  isSkipped : Element → Bool
  /-- `m_avp` -/
  avp : Option Nat
  /-- `m_grpAvp` -/
  grpAvp : Option Nat
  /-- The group whose list of that position `m_qAvpList` is. -/
  qAvpList : Element → Option Nat

def ParsingTables.fresh (lists : DictionaryLists) : ParsingTables where
  lists := lists
  inProcess := fun _ => false
  parent := fun _ => none
  callStack := []
  isSkipped := fun _ => false
  avp := none
  grpAvp := none
  qAvpList := fun _ => none

/-- A member of one of the elements is assigned. -/
def update {α : Type} (members : Element → α) (element : Element) (value : α) : Element → α :=
  fun other => if other = element then value else members other

def Element.isPosition : Element → Bool
  | .fixed | .required | .optional => true
  | _ => false

/-- The rule is added to the list of a position. -/
def addRule (position : Element) (rule : AvpRule) (gavp : DiameterGroupedAvp) :
    DiameterGroupedAvp :=
  match position with
  | .fixed => { gavp with avpF := gavp.avpF ++ [rule] }
  | .required => { gavp with avpR := gavp.avpR ++ [rule] }
  | _ => { gavp with avpO := gavp.avpO ++ [rule] }

/-! The handlers of the elements. Where the process ends or a pointer is followed that is null
or of another class, there are no tables any more. -/

namespace ParsingTables

section

variable (tables : ParsingTables)

/-- `AAAXML_Element::startElement`, and nothing where it returns false. -/
def enter (element : Element) : Option ParsingTables :=
  if tables.inProcess element then none
  else
    some
      { tables with
        inProcess := update tables.inProcess element true
        parent :=
          match tables.callStack with
          | [] => tables.parent
          | front :: _ => update tables.parent element (some front)
        callStack := element :: tables.callStack }

/-- `AAAXML_AvpElement::startElement`. Nothing reads the flag of `may-encript`. -/
def startAvp (atts : Atts) : Option ParsingTables :=
  let vendorId := field 32 (atts.last "vendor-id")
  let mandatory := atts.last "mandatory"
  let protect := atts.last "protected"
  let avp : DictionaryEntry :=
    { avpName := atts.last "name"
      avpCode := field 32 (atts.last "code")
      avpType := .data
      vendorId := vendorId
      flags :=
        { mandatory := mandatory == "may" || mandatory == "must"
          vendorSpecific := vendorId != 0
          endToEndEncrypt := protect == "may" || protect == "must" } }
  if avp.avpCode = 0 then some { tables with avp := none }
  else if (tables.lists.search avp.avpName).isSome then none
  else
    some
      { tables with
        lists := { tables.lists with avpList := tables.lists.avpList ++ [avp] }
        avp := some tables.lists.avpList.length }

/-- The AVP of the `<avp>` around an element. -/
def parentAvp (element : Element) : Option Nat :=
  if tables.parent element = some .avp then tables.avp else none

/-- `AAAXML_TypeElement::startElement` -/
def startType (atts : Atts) : Option ParsingTables :=
  match avpTypeOfName (atts.first "type-name") with
  | none => none
  | some .data => some tables
  | some avpType =>
    (tables.parentAvp .type).map fun avp =>
      { tables with lists := tables.lists.setType avp avpType }

/-- `AAAXML_GroupedElement::startElement` -/
def startGrouped : Option ParsingTables := do
  let avp ← tables.parentAvp .grouped
  let entry ← tables.lists.avpList[avp]?
  if tables.lists.groupedAvpList.any fun gavp =>
      gavp.code == entry.avpCode && gavp.vendorId == entry.vendorId then
    none
  else
    let lists := tables.lists.setType avp .grouped
    some
      { tables with
        lists :=
          { lists with
            groupedAvpList :=
              lists.groupedAvpList ++ [⟨entry.avpCode, entry.vendorId, [], [], []⟩] }
        grpAvp := some lists.groupedAvpList.length }

/-- `AAAXML_PositionElement::startElement`. The rules of a command are skipped. -/
def startPosition (position : Element) : Option ParsingTables :=
  match tables.parent position with
  | none => none
  | some .grouped =>
    tables.grpAvp.map fun gavp =>
      { tables with qAvpList := update tables.qAvpList position (some gavp) }
  | some _ => some { tables with isSkipped := update tables.isSkipped position true }

/-- `AAAXML_AvpRuleElement::startElement`, in a position that is not skipped. -/
def startRule (position : Element) (atts : Atts) : Option ParsingTables := do
  let avp ← tables.lists.search (atts.last "name")
  let gavp ← tables.qAvpList position
  let max := atts.last "maximum"
  let rule : AvpRule :=
    { avp
      min := field 16 (atts.last "minimum")
      max := if max = "none" ∨ max = "" then 65535 else field 16 max }
  some
    { tables with
      lists :=
        { tables.lists with
          groupedAvpList := tables.lists.groupedAvpList.modify gavp (addRule position rule) } }

/-- `AAAXML_AvpRuleElement::startElement` -/
def startAvpRule (atts : Atts) : Option ParsingTables :=
  match tables.parent .avprule with
  | none => none
  | some position =>
    if position.isPosition = false then none
    else if tables.isSkipped position then some tables
    else tables.startRule position atts

def startElement (element : Element) (atts : Atts) : Option ParsingTables :=
  match tables.enter element with
  | none => some tables
  | some tables =>
    match element with
    | .avp => tables.startAvp atts
    | .type => tables.startType atts
    | .grouped => tables.startGrouped
    | .fixed | .required | .optional => tables.startPosition element
    | .avprule => tables.startAvpRule atts
    | .dictionary | .vendor | .base | .application | .typedefn => some tables

/-- What an element resets before it ends. -/
def reset (element : Element) : ParsingTables :=
  match element with
  | .avp => { tables with avp := none }
  | .grouped => { tables with grpAvp := none }
  | .fixed | .required | .optional =>
    { tables with
      isSkipped := update tables.isSkipped element false
      qAvpList := update tables.qAvpList element none }
  | _ => tables

/-- `endElement` of an element: the front of the stack is taken, whatever it is. -/
def endElement (element : Element) : ParsingTables :=
  let tables := tables.reset element
  if tables.inProcess element then
    { tables with
      inProcess := update tables.inProcess element false
      parent := update tables.parent element none
      callStack := tables.callStack.tail }
  else tables

/-- `AAAXML_ParsingTables`: elements without a handler are passed over. -/
def handle : SaxEvent → Option ParsingTables
  | .startElement qName atts =>
    match Element.ofName qName with
    | none => some tables
    | some element => tables.startElement element atts
  | .endElement qName =>
    match Element.ofName qName with
    | none => some tables
    | some element => some (tables.endElement element)

end

end ParsingTables

/-- The first pass of `parseXMLDictionary`, on top of what has been loaded. -/
def parseXMLDictionary (lists : DictionaryLists) (document : List SaxEvent) :
    Option DictionaryLists :=
  (document.foldlM ParsingTables.handle (.fresh lists)).map ParsingTables.lists

/-- The dictionaries are loaded one after the other. -/
def loadDictionaries (documents : List (List SaxEvent)) : Option DictionaryLists :=
  documents.foldlM parseXMLDictionary .initial

end AaaXml

/-! What holds of all that is loaded. -/

/-- All the rules of a grouped AVP. -/
def DiameterGroupedAvp.rules (gavp : DiameterGroupedAvp) : List AvpRule :=
  gavp.avpF ++ gavp.avpR ++ gavp.avpO

namespace DictionaryLists

/-- The entries have the V flag if they have a vendor, and the rules point to entries. -/
structure Sound (lists : DictionaryLists) : Prop where
  entries : ∀ avp ∈ lists.avpList, avp.Loaded
  rules : ∀ gavp ∈ lists.groupedAvpList, ∀ rule ∈ gavp.rules, rule.avp < lists.avpList.length

variable {lists : DictionaryLists}

theorem sound_initial : Sound initial where
  entries := by
    intro avp listed
    rw [List.mem_singleton.mp listed]
    exact ⟨fun flag => (nomatch flag), fun vendor => absurd rfl vendor⟩
  rules _ listed := nomatch listed

theorem Sound.addAvp (sound : lists.Sound) {avp : DictionaryEntry} (loaded : avp.Loaded) :
    Sound { lists with avpList := lists.avpList ++ [avp] } where
  entries := by
    rw [List.forall_mem_append, List.forall_mem_singleton]
    exact ⟨sound.entries, loaded⟩
  rules gavp listed rule isRule := by
    rw [List.length_append]
    exact Nat.lt_add_right 1 (sound.rules gavp listed rule isRule)

theorem Sound.setType (sound : lists.Sound) (avp : Nat) (avpType : AvpDataType) :
    (lists.setType avp avpType).Sound where
  entries := by
    intro entry listed
    obtain ⟨place, isPlace, rfl⟩ := List.mem_iff_getElem.mp listed
    have old := sound.entries _ (List.getElem_mem (by simpa [DictionaryLists.setType] using isPlace))
    simp only [DictionaryLists.setType, List.getElem_modify]
    split
    · exact old
    · exact old
  rules gavp listed rule isRule := by
    simp only [DictionaryLists.setType, List.length_modify]
    exact sound.rules gavp listed rule isRule

theorem Sound.addGroup (sound : lists.Sound) (code vendorId : Nat) :
    Sound { lists with
      groupedAvpList := lists.groupedAvpList ++ [⟨code, vendorId, [], [], []⟩] } where
  entries := sound.entries
  rules := by
    rw [List.forall_mem_append, List.forall_mem_singleton]
    exact ⟨sound.rules, fun _ isRule => nomatch isRule⟩

theorem mem_rules_addRule {position : AaaXml.Element} {rule other : AvpRule}
    {gavp : DiameterGroupedAvp} (isRule : other ∈ (AaaXml.addRule position rule gavp).rules) :
    other = rule ∨ other ∈ gavp.rules := by
  cases position <;>
    simp only [AaaXml.addRule, DiameterGroupedAvp.rules, List.mem_append,
      List.mem_singleton] at isRule ⊢ <;>
    tauto

theorem Sound.addRule (sound : lists.Sound) (gavp : Nat) (position : AaaXml.Element)
    {rule : AvpRule} (points : rule.avp < lists.avpList.length) :
    Sound { lists with
      groupedAvpList := lists.groupedAvpList.modify gavp (AaaXml.addRule position rule) } where
  entries := sound.entries
  rules := by
    intro other listed inner isRule
    obtain ⟨place, isPlace, rfl⟩ := List.mem_iff_getElem.mp listed
    rw [List.length_modify] at isPlace
    have old := sound.rules _ (List.getElem_mem isPlace)
    rw [List.getElem_modify] at isRule
    split at isRule
    · rcases mem_rules_addRule isRule with rfl | isOld
      · exact points
      · exact old inner isOld
    · exact old inner isRule

end DictionaryLists

namespace AaaXml

open DictionaryLists

variable {tables next : ParsingTables} {lists : DictionaryLists}

variable {atts : Atts}

theorem startAvp_sound (sound : tables.lists.Sound) (taken : tables.startAvp atts = some next) :
    next.lists.Sound := by
  unfold ParsingTables.startAvp at taken
  dsimp only at taken
  split at taken
  · cases taken
    exact sound
  · split at taken
    · cases taken
    · cases taken
      apply sound.addAvp
      simp [DictionaryEntry.Loaded]

theorem startType_sound (sound : tables.lists.Sound) (taken : tables.startType atts = some next) :
    next.lists.Sound := by
  unfold ParsingTables.startType at taken
  split at taken
  · cases taken
  · cases taken
    exact sound
  · obtain ⟨avp, _, rfl⟩ := Option.map_eq_some_iff.mp taken
    exact sound.setType avp _

theorem startGrouped_sound (sound : tables.lists.Sound)
    (taken : tables.startGrouped = some next) : next.lists.Sound := by
  unfold ParsingTables.startGrouped at taken
  obtain ⟨avp, _, rest⟩ := Option.bind_eq_some_iff.mp taken
  obtain ⟨entry, _, rest⟩ := Option.bind_eq_some_iff.mp rest
  split at rest
  · cases rest
  · cases rest
    exact (sound.setType avp .grouped).addGroup _ _

theorem startPosition_sound (sound : tables.lists.Sound) {position : Element}
    (taken : tables.startPosition position = some next) : next.lists.Sound := by
  unfold ParsingTables.startPosition at taken
  split at taken
  · cases taken
  · obtain ⟨gavp, _, rfl⟩ := Option.map_eq_some_iff.mp taken
    exact sound
  · cases taken
    exact sound

theorem startAvpRule_sound (sound : tables.lists.Sound)
    (taken : tables.startAvpRule atts = some next) : next.lists.Sound := by
  unfold ParsingTables.startAvpRule at taken
  split at taken
  · cases taken
  · rename_i position _
    split at taken
    · cases taken
    · split at taken
      · cases taken
        exact sound
      · unfold ParsingTables.startRule at taken
        obtain ⟨avp, found, rest⟩ := Option.bind_eq_some_iff.mp taken
        obtain ⟨gavp, _, rest⟩ := Option.bind_eq_some_iff.mp rest
        cases rest
        exact sound.addRule gavp position (List.findIdx?_eq_some_iff_getElem.mp found).1

theorem startElement_sound (sound : tables.lists.Sound) {element : Element}
    (taken : tables.startElement element atts = some next) : next.lists.Sound := by
  unfold ParsingTables.startElement at taken
  cases entered : tables.enter element with
  | none =>
    rw [entered] at taken
    cases taken
    exact sound
  | some inside =>
    rw [entered] at taken
    have same : inside.lists = tables.lists := by
      unfold ParsingTables.enter at entered
      split at entered
      · cases entered
      · cases entered
        rfl
    rw [← same] at sound
    cases element with
    | avp => exact startAvp_sound sound taken
    | type => exact startType_sound sound taken
    | grouped => exact startGrouped_sound sound taken
    | fixed => exact startPosition_sound sound taken
    | required => exact startPosition_sound sound taken
    | optional => exact startPosition_sound sound taken
    | avprule => exact startAvpRule_sound sound taken
    | dictionary | vendor | base | application | typedefn =>
      cases taken
      exact sound

@[simp] theorem reset_lists (tables : ParsingTables) (element : Element) :
    (tables.reset element).lists = tables.lists := by
  cases element <;> rfl

@[simp] theorem endElement_lists (tables : ParsingTables) (element : Element) :
    (tables.endElement element).lists = tables.lists := by
  by_cases inside : (tables.reset element).inProcess element = true
  · simp [ParsingTables.endElement, inside]
  · simp [ParsingTables.endElement, inside]

theorem handle_sound (sound : tables.lists.Sound) {event : SaxEvent}
    (taken : tables.handle event = some next) : next.lists.Sound := by
  cases event with
  | startElement qName atts =>
    rw [ParsingTables.handle] at taken
    cases isElement : Element.ofName qName with
    | none =>
      rw [isElement] at taken
      cases taken
      exact sound
    | some element =>
      rw [isElement] at taken
      exact startElement_sound sound taken
  | endElement qName =>
    rw [ParsingTables.handle] at taken
    cases isElement : Element.ofName qName with
    | none =>
      rw [isElement] at taken
      cases taken
      exact sound
    | some element =>
      rw [isElement] at taken
      cases taken
      rw [endElement_lists]
      exact sound

theorem parseXMLDictionary_sound (sound : lists.Sound) {document : List SaxEvent}
    {loaded : DictionaryLists} (parsed : parseXMLDictionary lists document = some loaded) :
    loaded.Sound := by
  obtain ⟨last, read, rfl⟩ := Option.map_eq_some_iff.mp parsed
  have start : (ParsingTables.fresh lists).lists.Sound := sound
  clear parsed
  generalize ParsingTables.fresh lists = tables at start read
  induction document generalizing tables with
  | nil =>
    cases read
    exact start
  | cons event document induction =>
    rw [List.foldlM_cons] at read
    obtain ⟨next, taken, rest⟩ := Option.bind_eq_some_iff.mp read
    exact induction next (handle_sound start taken) rest

theorem loadDictionaries_sound {documents : List (List SaxEvent)}
    (loaded : loadDictionaries documents = some lists) : lists.Sound := by
  have start := sound_initial
  unfold loadDictionaries at loaded
  generalize DictionaryLists.initial = first at start loaded
  induction documents generalizing first with
  | nil =>
    cases loaded
    exact start
  | cons document documents induction =>
    rw [List.foldlM_cons] at loaded
    obtain ⟨next, parsed, rest⟩ := Option.bind_eq_some_iff.mp loaded
    exact induction next (parseXMLDictionary_sound start parsed) rest

end AaaXml

end OpenDiameter.Parser
