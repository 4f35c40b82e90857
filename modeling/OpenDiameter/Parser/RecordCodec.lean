import Mathlib.Data.List.Nodup
import Mathlib.Logic.Function.Basic
import OpenDiameter.Parser.Container

/-!
Records whose attributes are written to the containers of a message and read from them by name:
the function that writes, the one that reads and the one that clears each list the attributes.
-/

namespace OpenDiameter.Parser

/-- How an attribute is cleared, written to the entries of a container, and read from them. -/
structure AttributeCodec (Content : Type) where
  View : Type
  /-- The value, where the attribute is set. -/
  view : Content → Option View
  clear : Content → Content
  /-- `CopyTo` with the type of the entries, or with one that no entries can be made of. -/
  copyTo : Content → Option AvpDataType → Option (List AvpContainerEntry)
  copyFrom : Content → List AvpContainerEntry → Option Content

/-- The statement of a writer for an attribute. -/
structure WriterLine (Attr : Type) where
  avpName : String
  attr : Attr
  dataType : Option AvpDataType
  deriving DecidableEq, Repr

/-- A statement of a reader. -/
inductive ReaderLine (Attr : Type) where
  | copyFrom (avpName : String) (attr : Attr)
  /-- The reader throws unless the container has the value. -/
  | expect (avpName : String) (value : UInt32)
  deriving DecidableEq, Repr

structure RecordTable (Attr : Type) where
  cleared : List Attr
  writer : List (WriterLine Attr)
  reader : List (ReaderLine Attr)

variable {Attr : Type} {Content : Attr → Type}

namespace ReaderLine

def attr? : ReaderLine Attr → Option Attr
  | .copyFrom _ attr => some attr
  | .expect _ _ => none

/-- What is expected of the first entry of a container. -/
def expects (value : UInt32) : List AvpContainerEntry → Bool
  | ⟨_, .integer32 found⟩ :: _ => found = value
  | _ => false

end ReaderLine

namespace RecordTable

variable (codec : (attr : Attr) → AttributeCodec (Content attr))

/-- The container of a line, if the attribute is set; nothing where it throws. -/
def writeLine (line : WriterLine Attr) (data : (attr : Attr) → Content attr) :
    Option AvpContainerList :=
  let own := data line.attr
  if ((codec line.attr).view own).isSome then
    ((codec line.attr).copyTo own line.dataType).map fun entries => [⟨line.avpName, entries⟩]
  else some []

/-- `parseAppToRaw` -/
def write (data : (attr : Attr) → Content attr) :
    List (WriterLine Attr) → Option AvpContainerList
  | [] => some []
  | line :: lines => do return (← writeLine codec line data) ++ (← write data lines)

section

variable {codec} {data : (attr : Attr) → Content attr} {acl : AvpContainerList}

/-! What a writer leaves under each name. -/

/-- A line throws if it meets an attribute that is set and has no entries. -/
def Writes (codec : (attr : Attr) → AttributeCodec (Content attr))
    (data : (attr : Attr) → Content attr) (line : WriterLine Attr) : Prop :=
  ((codec line.attr).view (data line.attr)).isSome →
    ((codec line.attr).copyTo (data line.attr) line.dataType).isSome

variable {line : WriterLine Attr}

theorem writeLine_isSome :
    (writeLine codec line data).isSome ↔ Writes codec data line := by
  rw [writeLine, Writes]
  split
  · rename_i isSet
    rw [Option.isSome_map]
    exact ⟨fun written _ => written, fun writes => writes isSet⟩
  · rename_i notSet
    exact ⟨fun _ isSet => absurd isSet notSet, fun _ => rfl⟩

variable {lines : List (WriterLine Attr)}

theorem write_isSome :
    (write codec data lines).isSome ↔ ∀ line ∈ lines, Writes codec data line := by
  induction lines with
  | nil =>
    constructor
    · intro _ line listed
      cases listed
    · exact fun _ => rfl
  | cons line lines induction =>
    rw [List.forall_mem_cons, ← induction, ← writeLine_isSome, write]
    cases writeLine codec line data with
    | none => exact ⟨fun written => (nomatch written), fun written => (nomatch written.1)⟩
    | some container =>
      cases write codec data lines with
      | none => exact ⟨fun written => (nomatch written), fun written => (nomatch written.2)⟩
      | some rest => exact ⟨fun _ => ⟨rfl, rfl⟩, fun _ => rfl⟩

theorem write_cons (written : write codec data (line :: lines) = some acl) :
    ∃ container rest, writeLine codec line data = some container ∧
      write codec data lines = some rest ∧ acl = container ++ rest := by
  rw [write] at written
  cases isLine : writeLine codec line data with
  | none =>
    rw [isLine] at written
    cases written
  | some container =>
    cases isRest : write codec data lines with
    | none =>
      rw [isLine, isRest] at written
      cases written
    | some rest =>
      rw [isLine, isRest] at written
      cases written
      exact ⟨container, rest, rfl, rfl, rfl⟩

variable {avpName : String}

theorem search_append {containers rest : AvpContainerList} :
    AvpContainerList.search (containers ++ rest) avpName =
      (containers.search avpName).or (rest.search avpName) := List.find?_append

/-- The container of a line is found under its name only. -/
theorem search_writeLine {container : AvpContainerList}
    (written : writeLine codec line data = some container) (avpName : String) :
    container.search avpName =
      if line.avpName = avpName ∧ ((codec line.attr).view (data line.attr)).isSome then
        ((codec line.attr).copyTo (data line.attr) line.dataType).map
          fun entries => ⟨line.avpName, entries⟩
      else none := by
  rw [writeLine] at written
  split at written
  · rename_i isSet
    obtain ⟨entries, isEntries, isContainer⟩ := Option.map_eq_some_iff.1 written
    rw [← isContainer, AvpContainerList.search, List.find?_singleton, isEntries]
    by_cases isName : line.avpName = avpName
    · rw [if_pos (beq_iff_eq.2 isName), if_pos ⟨isName, isSet⟩]
      rfl
    · rw [if_neg fun same => isName (beq_iff_eq.1 same), if_neg fun both => isName both.1]
  · rename_i notSet
    cases written
    rw [if_neg fun both => notSet both.2]
    rfl

theorem search_write_other (written : write codec data lines = some acl)
    (other : ∀ line ∈ lines, line.avpName ≠ avpName) : acl.search avpName = none := by
  induction lines generalizing acl with
  | nil =>
    cases written
    rfl
  | cons line lines induction =>
    obtain ⟨container, rest, isLine, isRest, isAcl⟩ := write_cons written
    rw [List.forall_mem_cons] at other
    rw [isAcl, search_append, search_writeLine isLine, if_neg fun both => other.1 both.1,
      induction isRest other.2]
    rfl

theorem search_write (names : (lines.map (·.avpName)).Nodup)
    (written : write codec data lines = some acl) (listed : line ∈ lines) :
    acl.search line.avpName =
      if ((codec line.attr).view (data line.attr)).isSome then
        ((codec line.attr).copyTo (data line.attr) line.dataType).map
          fun entries => ⟨line.avpName, entries⟩
      else none := by
  induction lines generalizing acl with
  | nil => cases listed
  | cons head lines induction =>
    obtain ⟨container, rest, isLine, isRest, isAcl⟩ := write_cons written
    rw [List.map_cons, List.nodup_cons] at names
    rw [isAcl, search_append, search_writeLine isLine]
    cases listed with
    | head =>
      have other : ∀ other ∈ lines, other.avpName ≠ line.avpName := by
        intro other isOther same
        exact names.1 (same ▸ List.mem_map_of_mem isOther)
      rw [search_write_other isRest other, Option.or_none]
      simp only [true_and]
    | tail _ listed =>
      have other : head.avpName ≠ line.avpName := by
        intro same
        exact names.1 (same ▸ List.mem_map_of_mem listed)
      rw [if_neg fun both => other both.1, Option.none_or]
      exact induction names.2 isRest listed

/-- The container of an attribute that is set. -/
theorem search_set {acl : AvpContainerList}
    (found : acl.search avpName =
      if ((codec line.attr).view (data line.attr)).isSome then
        ((codec line.attr).copyTo (data line.attr) line.dataType).map
          fun entries => ⟨line.avpName, entries⟩
      else none) {container : AvpContainer} (isFound : acl.search avpName = some container) :
    ((codec line.attr).view (data line.attr)).isSome ∧
      (codec line.attr).copyTo (data line.attr) line.dataType = some container.entries := by
  rw [found] at isFound
  split at isFound
  · rename_i isSet
    obtain ⟨entries, isEntries, isContainer⟩ := Option.map_eq_some_iff.1 isFound
    rw [← isContainer]
    exact ⟨isSet, isEntries⟩
  · cases isFound

/-! Reading a line. -/

/-- A line throws if a container has no entries for its attribute, or other ones than expected. -/
def Reads (codec : (attr : Attr) → AttributeCodec (Content attr)) (acl : AvpContainerList)
    (data : (attr : Attr) → Content attr) : ReaderLine Attr → Prop
  | .copyFrom avpName attr => ∀ container, acl.search avpName = some container →
      ((codec attr).copyFrom (data attr) container.entries).isSome
  | .expect avpName value => ∀ container, acl.search avpName = some container →
      ReaderLine.expects value container.entries = true

/-- A line reads as where its attribute is the same. -/
theorem reads_congr {line : ReaderLine Attr} {others : (attr : Attr) → Content attr}
    (same : ∀ attr, line.attr? = some attr → others attr = data attr) :
    Reads codec acl others line ↔ Reads codec acl data line := by
  cases line with
  | copyFrom avpName attr => rw [Reads, Reads, same attr rfl]
  | expect avpName value => exact Iff.rfl

end

variable [DecidableEq Attr]

/-- `Clear` -/
def clear (cleared : List Attr) (data : (attr : Attr) → Content attr) :
    (attr : Attr) → Content attr :=
  fun attr =>
    if attr ∈ cleared then (codec attr).clear (data attr) else data attr

def readLine (acl : AvpContainerList) (line : ReaderLine Attr)
    (data : (attr : Attr) → Content attr) :
    Option ((attr : Attr) → Content attr) :=
  match line with
  | .copyFrom avpName attr =>
    match acl.search avpName with
    | none => some data
    | some container =>
      ((codec attr).copyFrom (data attr) container.entries).map
        (Function.update data attr)
  | .expect avpName value =>
    match acl.search avpName with
    | none => some data
    | some container => if ReaderLine.expects value container.entries then some data else none

def readLines (acl : AvpContainerList) : List (ReaderLine Attr) →
    ((attr : Attr) → Content attr) →
    Option ((attr : Attr) → Content attr)
  | [], data => some data
  | line :: lines, data => do readLines acl lines (← readLine codec acl line data)

/-- `parseRawToApp` -/
def read (table : RecordTable Attr) (acl : AvpContainerList)
    (data : (attr : Attr) → Content attr) :
    Option ((attr : Attr) → Content attr) :=
  readLines codec acl table.reader (clear codec table.cleared data)

variable {codec} {data : (attr : Attr) → Content attr} {acl : AvpContainerList}

/-! What a reader makes of each attribute. -/

variable {line : ReaderLine Attr}

/-- An attribute after a line. -/
theorem readLine_attr {out : (attr : Attr) → Content attr}
    (isRead : readLine codec acl line data = some out) :
    (∀ attr, line.attr? ≠ some attr → out attr = data attr) ∧
      ∀ avpName attr, line = .copyFrom avpName attr →
        (acl.search avpName = none → out attr = data attr) ∧
          ∀ container, acl.search avpName = some container →
            (codec attr).copyFrom (data attr) container.entries = some (out attr) := by
  cases line with
  | copyFrom avpName attr =>
    rw [readLine] at isRead
    cases found : acl.search avpName with
    | none =>
      rw [found] at isRead
      cases isRead
      refine ⟨fun _ _ => rfl, fun otherName other same => ?_⟩
      cases same
      exact ⟨fun _ => rfl, fun _ isFound => nomatch found.symm.trans isFound⟩
    | some container =>
      rw [found] at isRead
      obtain ⟨content, isContent, isOut⟩ := Option.map_eq_some_iff.1 isRead
      rw [← isOut]
      constructor
      · intro other isOther
        exact Function.update_of_ne (fun same => isOther (congrArg some same.symm)) _ _
      · intro otherName other same
        cases same
        refine ⟨fun missing => (nomatch found.symm.trans missing), fun other isFound => ?_⟩
        cases found.symm.trans isFound
        rw [isContent, Function.update_self]
  | expect avpName value =>
    have same : out = data := by
      rw [readLine] at isRead
      split at isRead
      · exact (Option.some.inj isRead).symm
      · split at isRead
        · exact (Option.some.inj isRead).symm
        · cases isRead
    rw [same]
    exact ⟨fun _ _ => rfl, fun _ _ isCopy => nomatch isCopy⟩

theorem readLine_isSome :
    (readLine codec acl line data).isSome ↔ Reads codec acl data line := by
  cases line with
  | copyFrom avpName attr =>
    rw [readLine, Reads]
    cases acl.search avpName with
    | none => exact ⟨fun _ _ isFound => (nomatch isFound), fun _ => rfl⟩
    | some container =>
      dsimp only
      rw [Option.isSome_map]
      constructor
      · intro isRead other isFound
        cases isFound
        exact isRead
      · exact fun reads => reads container rfl
  | expect avpName value =>
    rw [readLine, Reads]
    cases acl.search avpName with
    | none => exact ⟨fun _ _ isFound => (nomatch isFound), fun _ => rfl⟩
    | some container =>
      dsimp only
      split
      · rename_i expected
        refine ⟨fun _ other isFound => ?_, fun _ => rfl⟩
        cases isFound
        exact expected
      · rename_i unexpected
        exact ⟨fun isRead => (nomatch isRead), fun reads => absurd (reads container rfl) unexpected⟩

variable {lines : List (ReaderLine Attr)}

theorem readLines_isSome (attrs : (lines.filterMap (·.attr?)).Nodup) :
    (readLines codec acl lines data).isSome ↔ ∀ line ∈ lines, Reads codec acl data line := by
  induction lines generalizing data with
  | nil =>
    constructor
    · intro _ line listed
      cases listed
    · exact fun _ => rfl
  | cons line lines induction =>
    rw [List.forall_mem_cons, ← readLine_isSome, readLines]
    cases isRead : readLine codec acl line data with
    | none => exact ⟨fun isSome => (nomatch isSome), fun isSome => (nomatch isSome.1)⟩
    | some out =>
      have later : (lines.filterMap (·.attr?)).Nodup := by
        rw [List.filterMap_cons] at attrs
        split at attrs
        · exact attrs
        · exact (List.nodup_cons.1 attrs).2
      have same : ∀ other ∈ lines, Reads codec acl out other ↔ Reads codec acl data other := by
        intro other listed
        apply reads_congr
        intro attr isAttr
        apply (readLine_attr isRead).1 attr
        intro isLine
        rw [List.filterMap_cons_some isLine, List.nodup_cons] at attrs
        exact attrs.1 (List.mem_filterMap.2 ⟨other, listed, isAttr⟩)
      have rest := @induction out later
      rw [Option.isSome_some]
      constructor
      · intro isSome
        exact ⟨rfl, fun other listed => (same other listed).1 (rest.1 isSome other listed)⟩
      · intro reads
        exact rest.2 fun other listed => (same other listed).2 (reads.2 other listed)

theorem readLines_cons {out : (attr : Attr) → Content attr}
    (isRead : readLines codec acl (line :: lines) data = some out) :
    ∃ next, readLine codec acl line data = some next ∧
      readLines codec acl lines next = some out := by
  rw [readLines] at isRead
  cases isLine : readLine codec acl line data with
  | none =>
    rw [isLine] at isRead
    cases isRead
  | some next =>
    rw [isLine] at isRead
    exact ⟨next, rfl, isRead⟩

variable {attr : Attr}

theorem readLines_other {out : (attr : Attr) → Content attr}
    (isRead : readLines codec acl lines data = some out)
    (other : ∀ line ∈ lines, line.attr? ≠ some attr) : out attr = data attr := by
  induction lines generalizing data with
  | nil =>
    cases isRead
    rfl
  | cons line lines induction =>
    obtain ⟨next, isLine, isRest⟩ := readLines_cons isRead
    rw [List.forall_mem_cons] at other
    exact (induction isRest other.2).trans ((readLine_attr isLine).1 attr other.1)

variable {avpName : String}

theorem readLines_attr {out : (attr : Attr) → Content attr}
    (attrs : (lines.filterMap (·.attr?)).Nodup) (isRead : readLines codec acl lines data = some out)
    (listed : .copyFrom avpName attr ∈ lines) :
    (acl.search avpName = none → out attr = data attr) ∧
      ∀ container, acl.search avpName = some container →
        (codec attr).copyFrom (data attr) container.entries = some (out attr) := by
  induction lines generalizing data with
  | nil => cases listed
  | cons line lines induction =>
    obtain ⟨next, isLine, isRest⟩ := readLines_cons isRead
    cases listed with
    | head =>
      have isAttr : (ReaderLine.copyFrom avpName attr).attr? = some attr := rfl
      rw [List.filterMap_cons_some isAttr, List.nodup_cons] at attrs
      have later : out attr = next attr := by
        apply readLines_other isRest
        intro other isOther isAttr
        exact attrs.1 (List.mem_filterMap.2 ⟨other, isOther, isAttr⟩)
      rw [later]
      exact (readLine_attr isLine).2 avpName attr rfl
    | tail _ listed =>
      have same : next attr = data attr := by
        apply (readLine_attr isLine).1 attr
        intro isAttr
        rw [List.filterMap_cons_some isAttr, List.nodup_cons] at attrs
        exact attrs.1 (List.mem_filterMap.2 ⟨_, listed, rfl⟩)
      have rest : (lines.filterMap (·.attr?)).Nodup := by
        rw [List.filterMap_cons] at attrs
        split at attrs
        · exact attrs
        · exact (List.nodup_cons.1 attrs).2
      rw [← same]
      exact induction rest isRest listed

/-! Writing a record and reading the message into another one. -/

/-- A name stands for one attribute. -/
def agrees (line : WriterLine Attr) : ReaderLine Attr → Bool
  | .copyFrom avpName attr => decide (avpName = line.avpName) == decide (attr = line.attr)
  | .expect _ _ => true

/-- The lists agree on the names. -/
structure Coherent (table : RecordTable Attr) : Prop where
  writerNames : (table.writer.map (·.avpName)).Nodup
  writerAttrs : (table.writer.map (·.attr)).Nodup
  readerAttrs : (table.reader.filterMap (·.attr?)).Nodup
  names : ∀ line ∈ table.writer, ∀ reader ∈ table.reader, agrees line reader = true

instance (table : RecordTable Attr) : Decidable table.Coherent :=
  decidable_of_iff
    ((table.writer.map (·.avpName)).Nodup ∧ (table.writer.map (·.attr)).Nodup ∧
      (table.reader.filterMap (·.attr?)).Nodup ∧
      ∀ line ∈ table.writer, ∀ reader ∈ table.reader, agrees line reader = true)
    ⟨fun ⟨writerNames, writerAttrs, readerAttrs, names⟩ =>
        ⟨writerNames, writerAttrs, readerAttrs, names⟩,
      fun coherent =>
        ⟨coherent.writerNames, coherent.writerAttrs, coherent.readerAttrs, coherent.names⟩⟩

theorem names_iff {line : WriterLine Attr} (agree : agrees line (.copyFrom avpName attr) = true) :
    avpName = line.avpName ↔ attr = line.attr := by
  rw [agrees, beq_iff_eq] at agree
  exact decide_eq_decide.1 agree

variable (codec) (table : RecordTable Attr) (compared : Attr → Prop)
  (data previous : (attr : Attr) → Content attr)

def Written (attr : Attr) : Prop := attr ∈ table.writer.map (·.attr)

instance (attr : Attr) : Decidable (table.Written attr) :=
  inferInstanceAs (Decidable (attr ∈ table.writer.map (·.attr)))

def IsRead (attr : Attr) : Prop := attr ∈ table.reader.filterMap (·.attr?)

instance (attr : Attr) : Decidable (table.IsRead attr) :=
  inferInstanceAs (Decidable (attr ∈ table.reader.filterMap (·.attr?)))

theorem isRead_iff :
    table.IsRead attr ↔ ∃ avpName, .copyFrom avpName attr ∈ table.reader := by
  rw [IsRead, List.mem_filterMap]
  constructor
  · intro ⟨line, listed, isAttr⟩
    cases line with
    | copyFrom avpName other =>
      cases isAttr
      exact ⟨avpName, listed⟩
    | expect avpName value => cases isAttr
  · intro ⟨avpName, listed⟩
    exact ⟨_, listed, rfl⟩

/-- The message gives each attribute that is compared the value that was written, or none. -/
def RoundTrips : Prop :=
  ∃ acl, write codec data table.writer = some acl ∧
    ∃ out, table.read codec acl previous = some out ∧
      ∀ attr, compared attr →
        (codec attr).view (out attr) =
          if table.Written attr then (codec attr).view (data attr) else none

/-- What becomes of an attribute. -/
structure Survives (attr : Attr) : Prop where
  /-- It is written and read. -/
  carried : ∀ line ∈ table.writer, line.attr = attr → table.IsRead attr →
    ((codec attr).view (data attr)).isSome →
    ∀ entries, (codec attr).copyTo (data attr) line.dataType = some entries →
      ∃ content, (codec attr).copyFrom (clear codec table.cleared previous attr) entries =
        some content ∧ (compared attr → (codec attr).view content = (codec attr).view (data attr))
  /-- It is left as it was cleared. -/
  kept : (table.Written attr → table.IsRead attr → (codec attr).view (data attr) = none) →
    compared attr →
    (codec attr).view (clear codec table.cleared previous attr) =
      if table.Written attr then (codec attr).view (data attr) else none

/-- The lines that expect a value find it. -/
def Expected : Prop :=
  ∀ avpName value, .expect avpName value ∈ table.reader →
    ∀ line ∈ table.writer, line.avpName = avpName →
      ((codec line.attr).view (data line.attr)).isSome →
      ∀ entries, (codec line.attr).copyTo (data line.attr) line.dataType = some entries →
        ReaderLine.expects value entries = true

variable {codec} {table} {compared} {data previous}

variable {acl : AvpContainerList}

/-- What a reader finds for an attribute that is written. -/
theorem Coherent.search (coherent : table.Coherent)
    (written : write codec data table.writer = some acl) {line : WriterLine Attr}
    (listed : line ∈ table.writer) (isRead : .copyFrom avpName line.attr ∈ table.reader) :
    acl.search avpName =
      if ((codec line.attr).view (data line.attr)).isSome then
        ((codec line.attr).copyTo (data line.attr) line.dataType).map
          fun entries => ⟨line.avpName, entries⟩
      else none := by
  have sameName := (names_iff (coherent.names line listed _ isRead)).2 rfl
  rw [sameName]
  exact search_write coherent.writerNames written listed

/-- Nor does it find anything for one that is not. -/
theorem Coherent.search_unwritten (coherent : table.Coherent)
    (written : write codec data table.writer = some acl)
    (isRead : .copyFrom avpName attr ∈ table.reader) (unwritten : ¬table.Written attr) :
    acl.search avpName = none := by
  apply search_write_other written
  intro line listed sameName
  apply unwritten
  rw [(names_iff (coherent.names line listed _ isRead)).1 sameName.symm]
  exact List.mem_map_of_mem listed

/-- An attribute that nothing is found for is left as it was cleared. -/
theorem Coherent.left (coherent : table.Coherent) {out : (attr : Attr) → Content attr}
    (written : write codec data table.writer = some acl)
    (isRead : table.read codec acl previous = some out)
    (unset : table.Written attr → table.IsRead attr → (codec attr).view (data attr) = none) :
    out attr = clear codec table.cleared previous attr := by
  by_cases isReader : table.IsRead attr
  · obtain ⟨avpName, named⟩ := table.isRead_iff.1 isReader
    apply (readLines_attr coherent.readerAttrs isRead named).1
    by_cases isWritten : table.Written attr
    · obtain ⟨line, listed, isAttr⟩ := List.mem_map.1 isWritten
      subst isAttr
      rw [coherent.search written listed named, unset isWritten isReader]
      rfl
    · exact coherent.search_unwritten written named isWritten
  · apply readLines_other isRead
    intro line listed isAttr
    exact isReader (List.mem_filterMap.2 ⟨line, listed, isAttr⟩)

/-- What the message makes of an attribute. -/
theorem Coherent.survives (coherent : table.Coherent) {out : (attr : Attr) → Content attr}
    (written : write codec data table.writer = some acl)
    (isRead : table.read codec acl previous = some out)
    (same : ∀ attr, compared attr → (codec attr).view (out attr) =
      if table.Written attr then (codec attr).view (data attr) else none) (attr : Attr) :
    Survives codec table compared data previous attr where
  carried := by
    intro line listed isAttr isReader isSet entries isEntries
    subst isAttr
    obtain ⟨avpName, isReader⟩ := table.isRead_iff.1 isReader
    have found := coherent.search written listed isReader
    rw [if_pos isSet, isEntries] at found
    refine ⟨out line.attr, (readLines_attr coherent.readerAttrs isRead isReader).2 _ found, ?_⟩
    intro isCompared
    have isWritten : table.Written line.attr := List.mem_map_of_mem listed
    rw [same line.attr isCompared, if_pos isWritten]
  kept := by
    intro unset isCompared
    rw [← same attr isCompared, coherent.left written isRead unset]

/-- A statement of the reader does not throw where the attributes survive. -/
theorem Coherent.reads (coherent : table.Coherent)
    (written : write codec data table.writer = some acl) (expected : Expected codec table data)
    (survives : ∀ attr, Survives codec table compared data previous attr) (line : ReaderLine Attr)
    (isReader : line ∈ table.reader) :
    Reads codec acl (clear codec table.cleared previous) line := by
  cases line with
  | copyFrom avpName attr =>
    intro container isFound
    by_cases isWritten : table.Written attr
    · obtain ⟨line, listed, isAttr⟩ := List.mem_map.1 isWritten
      subst isAttr
      have entries := search_set (coherent.search written listed isReader) isFound
      obtain ⟨content, isContent, _⟩ := (survives line.attr).carried line listed rfl
        (table.isRead_iff.2 ⟨avpName, isReader⟩) entries.1 container.entries entries.2
      rw [isContent]
      rfl
    · rw [coherent.search_unwritten written isReader isWritten] at isFound
      cases isFound
  | expect avpName value =>
    intro container isFound
    by_cases named : ∃ line ∈ table.writer, line.avpName = avpName
    · obtain ⟨line, listed, isName⟩ := named
      subst isName
      have entries := search_set (search_write coherent.writerNames written listed) isFound
      exact expected line.avpName value isReader line listed rfl entries.1 _ entries.2
    · rw [search_write_other written fun line listed isName => named ⟨line, listed, isName⟩]
        at isFound
      cases isFound

/-- A message keeps a record just where it keeps each attribute, and no statement throws. -/
theorem Coherent.roundTrips_iff (coherent : table.Coherent) :
    RoundTrips codec table compared data previous ↔
      (∀ line ∈ table.writer, Writes codec data line) ∧ Expected codec table data ∧
        ∀ attr, Survives codec table compared data previous attr := by
  constructor
  · intro ⟨acl, written, out, isRead, same⟩
    have reads := (readLines_isSome coherent.readerAttrs).1 (Option.isSome_iff_exists.2 ⟨out, isRead⟩)
    refine ⟨write_isSome.1 (Option.isSome_iff_exists.2 ⟨acl, written⟩), ?_,
      coherent.survives written isRead same⟩
    intro avpName value isReader line listed isName isSet entries isEntries
    subst isName
    have found := search_write coherent.writerNames written listed
    rw [if_pos isSet, isEntries] at found
    exact reads _ isReader _ found
  · intro ⟨writes, expected, survives⟩
    obtain ⟨acl, written⟩ := Option.isSome_iff_exists.1 (write_isSome.2 writes)
    obtain ⟨out, isRead⟩ := Option.isSome_iff_exists.1
      ((readLines_isSome coherent.readerAttrs).2 (coherent.reads written expected survives))
    refine ⟨acl, written, out, isRead, ?_⟩
    intro attr isCompared
    by_cases carried : table.Written attr ∧ table.IsRead attr ∧
        ((codec attr).view (data attr)).isSome
    · obtain ⟨isWritten, isReader, isSet⟩ := carried
      rw [if_pos isWritten]
      obtain ⟨line, listed, isAttr⟩ := List.mem_map.1 isWritten
      subst isAttr
      obtain ⟨entries, isEntries⟩ := Option.isSome_iff_exists.1 (writes line listed isSet)
      obtain ⟨avpName, named⟩ := table.isRead_iff.1 isReader
      have found := coherent.search written listed named
      rw [if_pos isSet, isEntries] at found
      obtain ⟨content, isContent, sameView⟩ := (survives line.attr).carried line listed rfl
        isReader isSet entries isEntries
      have isOut := (readLines_attr coherent.readerAttrs isRead named).2 _ found
      cases isOut.symm.trans isContent
      exact sameView isCompared
    · have unset (isWritten : table.Written attr) (isReader : table.IsRead attr) :
          (codec attr).view (data attr) = none := by
        apply Option.not_isSome_iff_eq_none.1
        exact fun isSet => carried ⟨isWritten, isReader, isSet⟩
      rw [coherent.left written isRead unset]
      exact (survives attr).kept unset isCompared

end RecordTable

end OpenDiameter.Parser
