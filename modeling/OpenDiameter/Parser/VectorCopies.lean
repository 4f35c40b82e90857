import OpenDiameter.Parser.AttributeCodecs

/-!
The copies of the vector attributes. `CopyFrom` grows the vector where the container has more
entries, and never shrinks it.
-/

namespace OpenDiameter.Parser

/-- How an element of a vector attribute is copied: by the assignments of its type, or by the
functions of a user's parser. -/
structure ElementCopies (Element : Type) where
  /-- An element that `resize` makes. -/
  new : Element
  /-- An entry of the element, where it can be written. -/
  copyTo : Element → Option AvpContainerEntry
  /-- The element after the entry was copied into it, where the entry can be read. -/
  copyFrom : Element → AvpContainerEntry → Option Element

namespace ElementCopies

variable {Element : Type} (copies : ElementCopies Element)

/-- The loop of `CopyFrom` from an index on, with the elements from there on. -/
def copyEach : List Element → List AvpContainerEntry → Option (List Element)
  | own, [] => some own
  | own, entry :: list => do
      return (← copies.copyFrom (own.headD copies.new) entry) :: (← copyEach own.tail list)

/-- `CopyFrom` -/
def vectorFrom (own : VectorAttribute Element) (list : List AvpContainerEntry) :
    Option (VectorAttribute Element) :=
  (copies.copyEach own.values list).map fun values => ⟨values, true⟩

/-- `CopyTo` an empty container. -/
def vectorTo (own : VectorAttribute Element) : Option (List AvpContainerEntry) :=
  own.values.mapM copies.copyTo

/-- The element at an index of the vector, after it was resized. -/
def place (own : VectorAttribute Element) (i : Nat) : Element :=
  own.values.getD i copies.new

/-- After `CopyFrom` the attribute holds the entries, each as it is read into a new element. -/
def HoldsEntries (own : VectorAttribute Element) (list : List AvpContainerEntry) : Prop :=
  ∃ values, list.mapM (copies.copyFrom copies.new) = some values ∧
    copies.vectorFrom own list = some ⟨values, true⟩

/-- `CopyTo` and then `CopyFrom` into `own` gives the attribute itself. -/
def Reproduces (original own : VectorAttribute Element) : Prop :=
  ∃ list, copies.vectorTo original = some list ∧ copies.vectorFrom own list = some original

/-- The old vector is not longer, and what an old element held does not show. -/
def Replaced (own : VectorAttribute Element) (list : List AvpContainerEntry) : Prop :=
  own.values.length ≤ list.length ∧
    ∀ i entry, list[i]? = some entry →
      ∃ value, copies.copyFrom copies.new entry = some value ∧
        copies.copyFrom (copies.place own i) entry = some value

/-- The old vector is not longer, and every element comes back through its entry. -/
def ElementsReturn (original own : VectorAttribute Element) : Prop :=
  original.isSet ∧ own.values.length ≤ original.values.length ∧
    ∀ i element, original.values[i]? = some element →
      ∃ entry, copies.copyTo element = some entry ∧
        copies.copyFrom (copies.place own i) entry = some element

variable {copies}

theorem copyEach_cons_eq_some_iff {own values : List Element} {entry : AvpContainerEntry}
    {value : Element} {list : List AvpContainerEntry} :
    copies.copyEach own (entry :: list) = some (value :: values) ↔
      copies.copyFrom (own.headD copies.new) entry = some value ∧
        copies.copyEach own.tail list = some values := by
  rw [copyEach]
  cases copies.copyFrom (own.headD copies.new) entry with
  | none => simp
  | some read =>
    cases copies.copyEach own.tail list with
    | none => simp
    | some rest => simp

/-- As many values come out as there are entries only from a vector that is not longer. -/
theorem copyEach_eq_some_iff {own values : List Element} {list : List AvpContainerEntry}
    (sameLength : values.length = list.length) :
    copies.copyEach own list = some values ↔
      own.length ≤ list.length ∧
        ∀ i entry, list[i]? = some entry →
          copies.copyFrom (own.getD i copies.new) entry = values[i]? := by
  induction list generalizing own values with
  | nil =>
    have isNil : values = [] := List.length_eq_zero_iff.mp sameLength
    subst isNil
    rw [copyEach, Option.some_inj]
    constructor
    · intro isNil
      subst isNil
      exact ⟨Nat.le_refl _, fun _ _ absent => nomatch absent⟩
    · intro ⟨short, _⟩
      exact List.length_eq_zero_iff.mp (Nat.le_zero.mp short)
  | cons entry list induction =>
    cases values with
    | nil => exact (nomatch sameLength)
    | cons value values =>
      have restLength : values.length = list.length := Nat.succ.inj sameLength
      have tailLength : own.tail.length ≤ list.length ↔
          own.length ≤ (entry :: list).length := by
        rw [List.length_tail, List.length_cons]
        omega
      have head : own.headD copies.new = own.getD 0 copies.new := by
        cases own <;> rfl
      have tail : ∀ i, own.tail.getD i copies.new = own.getD (i + 1) copies.new := by
        intro i
        cases own <;> rfl
      rw [copyEach_cons_eq_some_iff, induction restLength, tailLength, head]
      constructor
      · intro ⟨first, short, rest⟩
        refine ⟨short, fun i other at_i => ?_⟩
        cases i with
        | zero =>
          cases at_i
          exact first
        | succ i =>
          rw [← tail]
          exact rest i other at_i
      · intro ⟨short, each⟩
        refine ⟨each 0 entry rfl, short, fun i other at_i => ?_⟩
        rw [tail]
        exact each (i + 1) other at_i

theorem mapM_eq_some_iff {α β : Type} {f : α → Option β} {xs : List α} {ys : List β} :
    xs.mapM f = some ys ↔
      ys.length = xs.length ∧ ∀ (i : Nat) x, xs[i]? = some x → f x = ys[i]? := by
  induction xs generalizing ys with
  | nil =>
    rw [List.mapM_nil]
    constructor
    · intro isNil
      cases isNil
      exact ⟨rfl, fun _ _ absent => nomatch absent⟩
    · intro ⟨isNil, _⟩
      rw [List.length_eq_zero_iff.mp isNil]
      rfl
  | cons x xs induction =>
    rw [List.mapM_cons]
    constructor
    · intro isSome
      obtain ⟨y, first, isSome⟩ := Option.bind_eq_some_iff.mp isSome
      obtain ⟨rest, isRest, same⟩ := Option.bind_eq_some_iff.mp isSome
      cases same
      have ⟨sameLength, each⟩ := induction.mp isRest
      refine ⟨congrArg Nat.succ sameLength, fun i other at_i => ?_⟩
      cases i with
      | zero =>
        cases at_i
        exact first
      | succ i => exact each i other at_i
    · intro ⟨sameLength, each⟩
      cases ys with
      | nil => exact (nomatch sameLength)
      | cons y ys =>
        have rest : xs.mapM f = some ys :=
          induction.mpr ⟨Nat.succ.inj sameLength, fun i other => each (i + 1) other⟩
        have first : f x = some y := each 0 x rfl
        rw [first, rest]
        rfl

theorem mapM_exists {α β : Type} {f : α → Option β} {xs : List α}
    (each : ∀ (i : Nat) x, xs[i]? = some x → ∃ y, f x = some y) :
    ∃ ys, xs.mapM f = some ys := by
  induction xs with
  | nil => exact ⟨[], rfl⟩
  | cons x xs induction =>
    obtain ⟨y, first⟩ := each 0 x rfl
    obtain ⟨ys, rest⟩ := induction fun i other => each (i + 1) other
    refine ⟨y :: ys, ?_⟩
    rw [List.mapM_cons, first, rest]
    rfl

theorem vectorFrom_eq_some_iff {own after : VectorAttribute Element}
    {list : List AvpContainerEntry} :
    copies.vectorFrom own list = some after ↔
      after.isSet ∧ copies.copyEach own.values list = some after.values := by
  rw [vectorFrom, Option.map_eq_some_iff]
  constructor
  · intro ⟨values, isRead, same⟩
    subst same
    exact ⟨rfl, isRead⟩
  · intro ⟨isSet, isRead⟩
    refine ⟨after.values, isRead, ?_⟩
    rw [← isSet]

theorem holdsEntries_iff (own : VectorAttribute Element) (list : List AvpContainerEntry) :
    copies.HoldsEntries own list ↔ copies.Replaced own list := by
  constructor
  · intro ⟨values, isNew, isRead⟩
    have ⟨sameLength, news⟩ := mapM_eq_some_iff.mp isNew
    have ⟨short, each⟩ :=
      (copyEach_eq_some_iff sameLength).mp (vectorFrom_eq_some_iff.mp isRead).2
    refine ⟨short, fun i entry at_i => ?_⟩
    have inVector : i < values.length := by
      rw [sameLength]
      exact (List.getElem?_eq_some_iff.mp at_i).1
    refine ⟨values[i], ?_, ?_⟩
    · rw [news i entry at_i, List.getElem?_eq_getElem inVector]
    · rw [place, each i entry at_i, List.getElem?_eq_getElem inVector]
  · intro ⟨short, each⟩
    obtain ⟨values, isNew⟩ := mapM_exists fun i entry at_i =>
      (each i entry at_i).imp fun _ => And.left
    have ⟨sameLength, news⟩ := mapM_eq_some_iff.mp isNew
    refine ⟨values, isNew, vectorFrom_eq_some_iff.mpr ⟨rfl, ?_⟩⟩
    apply (copyEach_eq_some_iff sameLength).mpr
    refine ⟨short, fun i entry at_i => ?_⟩
    obtain ⟨value, ofNew, ofOld⟩ := each i entry at_i
    rw [← news i entry at_i, ofNew]
    exact ofOld

theorem reproduces_iff (original own : VectorAttribute Element) :
    copies.Reproduces original own ↔ copies.ElementsReturn original own := by
  constructor
  · intro ⟨list, written, isRead⟩
    have ⟨sameLength, entries⟩ := mapM_eq_some_iff.mp written
    have ⟨isSet, isRead⟩ := vectorFrom_eq_some_iff.mp isRead
    have ⟨short, each⟩ := (copyEach_eq_some_iff sameLength.symm).mp isRead
    refine ⟨isSet, sameLength ▸ short, fun i element at_i => ?_⟩
    have inContainer : i < list.length := by
      rw [sameLength]
      exact (List.getElem?_eq_some_iff.mp at_i).1
    have entry_i : list[i]? = some list[i] := List.getElem?_eq_getElem inContainer
    refine ⟨list[i], (entries i element at_i).trans entry_i, ?_⟩
    exact (each i list[i] entry_i).trans at_i
  · intro ⟨isSet, short, each⟩
    obtain ⟨list, written⟩ := mapM_exists fun i element at_i =>
      (each i element at_i).imp fun _ => And.left
    have ⟨sameLength, entries⟩ := mapM_eq_some_iff.mp written
    refine ⟨list, written, vectorFrom_eq_some_iff.mpr ⟨isSet, ?_⟩⟩
    apply (copyEach_eq_some_iff sameLength.symm).mpr
    refine ⟨sameLength.symm ▸ short, fun i entry at_i => ?_⟩
    have inVector : i < original.values.length := by
      rw [← sameLength]
      exact (List.getElem?_eq_some_iff.mp at_i).1
    have element_i := List.getElem?_eq_getElem inVector
    obtain ⟨other, isEntry, comesBack⟩ := each i _ element_i
    have same : other = entry :=
      Option.some.inj (isEntry.symm.trans ((entries i _ element_i).trans at_i))
    subst same
    exact comesBack.trans element_i.symm

/-- `CopyFrom` replaces the attribute by the entries exactly where the vector was not longer and
its elements are replaced, and what was copied to a container comes back exactly where it is
read into a vector that is not longer and each element comes back. -/
theorem copies_iff (copies : ElementCopies Element) :
    (∀ own list, copies.HoldsEntries own list ↔ copies.Replaced own list) ∧
      ∀ original own, copies.Reproduces original own ↔ copies.ElementsReturn original own :=
  ⟨holdsEntries_iff, reproduces_iff⟩

end ElementCopies

/-! The two classes. -/

/-- `DiameterVectorAttribute`, with the type that its entries are made of. -/
def vectorCopies (type : ValueType) (dataType : AvpDataType) : ElementCopies type.Value where
  new := type.new
  copyTo := fun value => some ⟨dataType, type.write value⟩
  copyFrom := fun _ entry => type.read entry.data

/-- `DiameterGroupedVectorAttribute`, with the functions of a user's parser. -/
def groupCopies {Element : Type} (new : Element)
    (userCopyTo : Element → Option AvpContainerList)
    (userCopyFrom : Element → AvpContainerList → Option Element) : ElementCopies Element where
  new := new
  copyTo := fun element => (userCopyTo element).map fun acl => ⟨.grouped, .grouped acl⟩
  copyFrom := fun element entry =>
    match entry.data with
    | .grouped acl => userCopyFrom element acl
    | _ => none

variable {type : ValueType} {dataType : AvpDataType}

/-- What an element held never shows in the plain class. -/
theorem vectorCopies_replaced_iff {own : VectorAttribute type.Value}
    {list : List AvpContainerEntry} :
    (vectorCopies type dataType).Replaced own list ↔
      own.values.length ≤ list.length ∧ ∀ entry ∈ list, (type.read entry.data).isSome := by
  apply and_congr_right
  intro _
  constructor
  · intro each entry listed
    obtain ⟨i, at_i⟩ := List.mem_iff_getElem?.mp listed
    obtain ⟨value, isRead, _⟩ := each i entry at_i
    exact Option.isSome_iff_exists.mpr ⟨value, isRead⟩
  · intro readable i entry at_i
    obtain ⟨value, isRead⟩ := Option.isSome_iff_exists.mp
      (readable entry (List.mem_iff_getElem?.mpr ⟨i, at_i⟩))
    exact ⟨value, isRead, isRead⟩

/-- One number read into a vector of two leaves the second there, and a vector of one number
does not come back. -/
theorem longer_vector_keeps_its_end :
    ¬ (vectorCopies .unsigned32 .uinteger32).HoldsEntries ⟨[1, 2], true⟩
        [⟨.uinteger32, .integer32 3⟩] ∧
      ¬ (vectorCopies .unsigned32 .uinteger32).Reproduces ⟨[3], true⟩ ⟨[1, 2], true⟩ := by
  constructor
  · intro holds
    exact absurd ((ElementCopies.holdsEntries_iff _ _).mp holds).1 (by decide)
  · intro comesBack
    exact absurd ((ElementCopies.reproduces_iff _ _).mp comesBack).2.1 (by decide)

/-- The loop of the plain class reads the entries and keeps the values behind them. -/
theorem vectorCopies_copyEach (own : List type.Value) (list : List AvpContainerEntry) :
    (vectorCopies type dataType).copyEach own list =
      (list.mapM fun entry => type.read entry.data).map fun values =>
        values ++ own.drop values.length := by
  induction list generalizing own with
  | nil => rfl
  | cons entry list induction =>
    rw [ElementCopies.copyEach, induction, List.mapM_cons]
    dsimp only [vectorCopies]
    cases type.read entry.data with
    | none => rfl
    | some value =>
      cases list.mapM fun entry => type.read entry.data with
      | none => rfl
      | some values =>
        cases own <;> simp

/-- The codec of a record's vector attribute copies so. -/
theorem vector_copyFrom (own : VectorAttribute type.Value) (list : List AvpContainerEntry) :
    (AttributeCodec.vector type).copyFrom own list =
      (vectorCopies type dataType).vectorFrom own list := by
  rw [ElementCopies.vectorFrom, vectorCopies_copyEach, Option.map_map]
  rfl

theorem vector_copyTo (own : VectorAttribute type.Value) :
    (AttributeCodec.vector type).copyTo own (some dataType) =
      (vectorCopies type dataType).vectorTo own := by
  change some (own.values.map _) = own.values.mapM _
  induction own.values with
  | nil => rfl
  | cons value values induction =>
    rw [List.mapM_cons, ← induction]
    rfl

section

variable {Attr : Type} [DecidableEq Attr] {Content : Attr → Type}
  (codec : (attr : Attr) → AttributeCodec (Content attr)) (table : RecordTable Attr)
  (new : (attr : Attr) → Content attr)

/-- The user's parser of a class that has the table. -/
def tableCopies : ElementCopies ((attr : Attr) → Content attr) :=
  groupCopies new (fun element => RecordTable.write codec element table.writer)
    fun element acl => table.read codec acl element

theorem copyElements_eq_copyEach (own : List ((attr : Attr) → Content attr))
    (list : List AvpContainerEntry) :
    AttributeCodec.copyElements codec table new own list =
      (tableCopies codec table new).copyEach own list := by
  induction list generalizing own with
  | nil => rw [AttributeCodec.copyElements, ElementCopies.copyEach]
  | cons entry list induction =>
    rw [ElementCopies.copyEach, ← induction]
    obtain ⟨dataType, data⟩ := entry
    cases data <;> rfl

/-- The codec of a record's vector of groups copies so. -/
theorem group_copyFrom (own : VectorAttribute ((attr : Attr) → Content attr))
    (list : List AvpContainerEntry) :
    (AttributeCodec.group codec table new).copyFrom own list =
      (tableCopies codec table new).vectorFrom own list := by
  rw [ElementCopies.vectorFrom, ← copyElements_eq_copyEach]
  rfl

end

end OpenDiameter.Parser
