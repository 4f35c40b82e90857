import OpenDiameter.Parser.Attributes
import OpenDiameter.Parser.RecordCodec

/-!
The attributes of one value, of a vector of values and of a vector of groups.
-/

namespace OpenDiameter.Parser

/-- The C++ types that attributes are declared with. -/
inductive ValueType where
  /-- Of an enumeration, too. -/
  | unsigned32
  | unsigned64
  /-- `std::string` -/
  | string
  | ipFilterRule
  deriving DecidableEq, Repr

namespace ValueType

@[reducible] def Value : ValueType → Type
  | .unsigned32 => UInt32
  | .unsigned64 => UInt64
  | .string => List UInt8
  | .ipFilterRule => IPFilterRule

/-- `dataRef` of the type, as it is assigned to. The cell of an entry has room for any number. -/
def write : (type : ValueType) → type.Value → AvpValue
  | .unsigned32, value => .integer32 value
  | .unsigned64, value => .integer64 value
  | .string, value => .octets value
  | .ipFilterRule, value => .ipFilterRule value

/-- `dataRef` of the type, as it is read. -/
def read : (type : ValueType) → AvpValue → Option type.Value
  | .unsigned32, .integer32 value => some value
  | .unsigned64, .integer64 value => some value
  | .string, .octets value => some value
  | .ipFilterRule, .ipFilterRule value => some value
  | _, _ => none

/-- The value of an attribute that was never assigned to. -/
def new : (type : ValueType) → type.Value
  | .unsigned32 => 0
  | .unsigned64 => 0
  | .string => []
  | .ipFilterRule =>
    ⟨0, 0, 0, ⟨false, 0, [], 0, []⟩, ⟨false, 0, [], 0, []⟩, false, [], [], false, false, [], []⟩

@[simp] theorem read_write (type : ValueType) (value : type.Value) :
    type.read (type.write value) = some value := by
  cases type <;> rfl

end ValueType

namespace AttributeCodec

/-- What was written is read into the attribute. -/
def Returns {Content : Type} (codec : AttributeCodec Content) (content : Content)
    (entries : List AvpContainerEntry) (own : Content) : Prop :=
  ∃ read, codec.copyFrom own entries = some read ∧ codec.view read = codec.view content

/-- `DiameterScholarAttribute` -/
def scholar (type : ValueType) : AttributeCodec (ScholarAttribute type.Value) where
  View := type.Value
  view := ScholarAttribute.avp
  clear := ScholarAttribute.clear
  copyTo := fun own dataType =>
    dataType.map fun dataType => [⟨dataType, type.write own.value⟩]
  copyFrom := fun _ entries =>
    match entries with
    | [] => none
    | entry :: _ => (type.read entry.data).map .of

variable {type : ValueType}

theorem scholar_returns {content own : ScholarAttribute type.Value} {dataType : Option AvpDataType}
    {entries : List AvpContainerEntry} (isSet : ((scholar type).view content).isSome)
    (isEntries : (scholar type).copyTo content dataType = some entries) :
    (scholar type).Returns content entries own := by
  obtain ⟨dataType, _, written⟩ := Option.map_eq_some_iff.1 isEntries
  subst written
  refine ⟨.of content.value, ?_, ?_⟩
  · dsimp only [scholar]
    rw [ValueType.read_write]
    rfl
  · exact (ScholarAttribute.avp_eq isSet).symm

/-- `DiameterVectorAttribute`: the values that are left over of a longer vector stay. -/
def vector (type : ValueType) : AttributeCodec (VectorAttribute type.Value) where
  View := List type.Value
  view := VectorAttribute.avps
  clear := fun _ => .unset
  copyTo := fun own dataType =>
    dataType.map fun dataType => own.values.map fun value => ⟨dataType, type.write value⟩
  copyFrom := fun own entries =>
    (entries.mapM fun entry => type.read entry.data).map fun values =>
      ⟨values ++ own.values.drop values.length, true⟩

theorem mapM_read (dataType : AvpDataType) (values : List type.Value) :
    ((values.map fun value => (⟨dataType, type.write value⟩ : AvpContainerEntry)).mapM
      fun entry => type.read entry.data) = some values := by
  induction values with
  | nil => rfl
  | cons value values induction =>
    rw [List.map_cons, List.mapM_cons, induction, ValueType.read_write]
    rfl

/-- A vector comes back unless the one it is read into is longer. -/
theorem vector_returns_iff {content own : VectorAttribute type.Value}
    {dataType : Option AvpDataType} {entries : List AvpContainerEntry}
    (isSet : ((vector type).view content).isSome)
    (isEntries : (vector type).copyTo content dataType = some entries) :
    (vector type).Returns content entries own ↔ own.values.length ≤ content.values.length := by
  obtain ⟨dataType, _, written⟩ := Option.map_eq_some_iff.1 isEntries
  subst written
  have isRead : (vector type).copyFrom own
      (content.values.map fun value => ⟨dataType, type.write value⟩) =
        some ⟨content.values ++ own.values.drop content.values.length, true⟩ := by
    dsimp only [vector]
    rw [mapM_read]
    rfl
  have isView : (vector type).view content = some content.values :=
    VectorAttribute.avps_eq isSet
  rw [Returns, isView]
  constructor
  · intro ⟨read, isSame, same⟩
    cases isRead.symm.trans isSame
    have sameValues : content.values ++ own.values.drop content.values.length = content.values :=
      Option.some.inj same
    exact List.drop_eq_nil_iff.1 (List.append_right_eq_self.1 sameValues)
  · intro short
    refine ⟨_, isRead, ?_⟩
    rw [List.drop_eq_nil_of_le short, List.append_nil]
    rfl

/-! Groups -/

section

variable {Attr : Type} [DecidableEq Attr] {Content : Attr → Type}
  (codec : (attr : Attr) → AttributeCodec (Content attr)) (table : RecordTable Attr)
  (new : (attr : Attr) → Content attr)

/-- `CopyFrom` of each element, which is a new one where the vector ends. -/
def copyElements : List ((attr : Attr) → Content attr) → List AvpContainerEntry →
    Option (List ((attr : Attr) → Content attr))
  | own, [] => some own
  | own, ⟨_, .grouped acl⟩ :: entries => do
      return (← table.read codec acl (own.headD new)) :: (← copyElements own.tail entries)
  | _, _ :: _ => none

/-- `DiameterGroupedVectorAttribute` of a class that has the table. -/
def group : AttributeCodec (VectorAttribute ((attr : Attr) → Content attr)) where
  View := List ((attr : Attr) → Option (codec attr).View)
  view := fun own => own.avps.map fun elements =>
    elements.map fun element attr => (codec attr).view (element attr)
  clear := fun _ => .unset
  copyTo := fun own _ =>
    own.values.mapM fun element =>
      (RecordTable.write codec element table.writer).map fun acl => ⟨.grouped, .grouped acl⟩
  copyFrom := fun own entries =>
    (copyElements codec table new own.values entries).map fun elements => ⟨elements, true⟩

variable {codec} {table} {new}

/-- The entries of the elements, from the first on. -/
theorem writeElements_cons {element : (attr : Attr) → Content attr}
    {elements : List ((attr : Attr) → Content attr)} {acl : AvpContainerList}
    (written : RecordTable.write codec element table.writer = some acl) :
    ((element :: elements).mapM fun element =>
        (RecordTable.write codec element table.writer).map fun acl =>
          (⟨.grouped, .grouped acl⟩ : AvpContainerEntry)) =
      (elements.mapM fun element =>
        (RecordTable.write codec element table.writer).map fun acl =>
          (⟨.grouped, .grouped acl⟩ : AvpContainerEntry)).map (⟨.grouped, .grouped acl⟩ :: ·) := by
  rw [List.mapM_cons, written]
  cases elements.mapM fun element =>
      (RecordTable.write codec element table.writer).map fun acl =>
        (⟨.grouped, .grouped acl⟩ : AvpContainerEntry) with
  | none => rfl
  | some entries => rfl

theorem group_writes_iff {own : VectorAttribute ((attr : Attr) → Content attr)}
    {dataType : Option AvpDataType} :
    ((group codec table new).copyTo own dataType).isSome ↔
      ∀ element ∈ own.values, (RecordTable.write codec element table.writer).isSome := by
  dsimp only [group]
  induction own.values with
  | nil =>
    constructor
    · intro _ element listed
      cases listed
    · exact fun _ => rfl
  | cons element elements induction =>
    rw [List.forall_mem_cons, ← induction]
    cases written : RecordTable.write codec element table.writer with
    | none =>
      rw [List.mapM_cons, written]
      exact ⟨fun isSome => (nomatch isSome), fun isSome => (nomatch isSome.1)⟩
    | some acl =>
      rw [writeElements_cons written, Option.isSome_map]
      exact ⟨fun isSome => ⟨rfl, isSome⟩, fun isSome => isSome.2⟩

/-- Elements that come back from their messages come back as a vector. -/
theorem copyElements_trips (writesAll : ∀ attr, table.Written attr)
    {elements : List ((attr : Attr) → Content attr)}
    (trips : ∀ element ∈ elements,
      RecordTable.RoundTrips codec table (fun _ => True) element new)
    {entries : List AvpContainerEntry}
    (isEntries : (elements.mapM fun element =>
      (RecordTable.write codec element table.writer).map fun acl =>
        (⟨.grouped, .grouped acl⟩ : AvpContainerEntry)) = some entries) :
    ∃ out, copyElements codec table new [] entries = some out ∧
      (out.map fun element attr => (codec attr).view (element attr)) =
        elements.map fun element attr => (codec attr).view (element attr) := by
  induction elements generalizing entries with
  | nil =>
    cases isEntries
    exact ⟨[], rfl, rfl⟩
  | cons element elements induction =>
    rw [List.forall_mem_cons] at trips
    obtain ⟨acl, written, read, isRead, same⟩ := trips.1
    rw [writeElements_cons written] at isEntries
    obtain ⟨rest, isRest, all⟩ := Option.map_eq_some_iff.1 isEntries
    obtain ⟨out, isOut, sameRest⟩ := induction trips.2 isRest
    subst all
    refine ⟨read :: out, ?_, ?_⟩
    · rw [copyElements, List.headD_nil, isRead, List.tail_nil, isOut]
      rfl
    · rw [List.map_cons, List.map_cons, sameRest]
      congr 1
      funext attr
      rw [same attr trivial, if_pos (writesAll attr)]

theorem group_returns (writesAll : ∀ attr, table.Written attr)
    {content own : VectorAttribute ((attr : Attr) → Content attr)}
    (trips : ∀ element ∈ content.values,
      RecordTable.RoundTrips codec table (fun _ => True) element new)
    {dataType : Option AvpDataType} {entries : List AvpContainerEntry}
    (isSet : ((group codec table new).view content).isSome)
    (isEntries : (group codec table new).copyTo content dataType = some entries)
    (isNew : own.values = []) : (group codec table new).Returns content entries own := by
  obtain ⟨out, isOut, same⟩ := copyElements_trips writesAll trips isEntries
  have isAvps : content.avps.isSome := by
    dsimp only [group] at isSet
    rw [Option.isSome_map] at isSet
    exact isSet
  refine ⟨⟨out, true⟩, ?_, ?_⟩
  · dsimp only [group]
    rw [isNew, isOut]
    rfl
  · dsimp only [group]
    rw [VectorAttribute.avps_eq isAvps, Option.map_some, ← same]
    rfl

end

end AttributeCodec

end OpenDiameter.Parser
