import OpenDiameter.Pana.MessageEncoder

/-!
What the encoder of PANA messages writes outside its buffer. The layout of a message is the parts
that an encoding of it has, whatever the room. A value that does not fit ends the encoding; a
header that does not fit is written nevertheless.
-/

namespace OpenDiameter.Pana

open OpenDiameter.Foundation OpenDiameter.Parser

/-- The encoder has written inside the buffer only, no room that it tested was negative, and every
length is written as it is. -/
structure PanaBuffer.Stays (buffer : PanaBuffer) : Prop where
  inside : ∀ write ∈ buffer.writes, write.offset + write.octets.length ≤ maxMessageSize
  spaces : ∀ space ∈ buffer.spaces, 0 ≤ space
  lengths : ∀ length ∈ buffer.lengths, length.1 = length.2

/-! The layout -/

inductive LayoutPart where
  /-- So many octets of a header. -/
  | header (octets : Nat)
  | value (octets : Nat)
  /-- The octets up to a boundary. -/
  | boundary
  deriving DecidableEq, Repr

namespace LayoutPart

/-- Where the part ends. -/
def after (position : Nat) : LayoutPart → Nat
  | header octets => position + octets
  | value octets => position + octets
  | boundary => (position + 3) / 4 * 4

def finish (position : Nat) (parts : List LayoutPart) : Nat := parts.foldl after position

/-- The first part that does not fit into a message. -/
def firstMisfit (position : Nat) : List LayoutPart → Option LayoutPart
  | [] => none
  | part :: parts =>
    if maxMessageSize < part.after position then some part
    else firstMisfit (part.after position) parts

end LayoutPart

/-- The parts of an encoding, and how it ends where all of them fit. -/
structure Layout where
  parts : List LayoutPart
  outcome : Except Failure Unit

namespace Layout

def done : Layout := ⟨[], .ok ()⟩

def throws (failure : Failure) : Layout := ⟨[], .error failure⟩

def value (octets : List UInt8) : Layout := ⟨[.value octets.length], .ok ()⟩

def andThen (first second : Layout) : Layout :=
  match first.outcome with
  | .ok () => ⟨first.parts ++ second.parts, second.outcome⟩
  | .error _ => first

def expectType (entry : AvpContainerEntry) (types : List AvpDataType) (next : Layout) : Layout :=
  match entry.expect types with
  | .ok () => next
  | .error failure => .throws failure

section

variable (dictionaries : PanaDictionaries) (avp : DictionaryEntry) (entry : AvpContainerEntry)
  (ofGroup : PanaDictionary → AvpContainerList → Layout)

/-- The octets of a value of one of the types, or why there are none. -/
def ofData (types : List AvpDataType) (octets : AvpValue → Except Failure (List UInt8)) :
    Layout :=
  expectType entry types <|
    match octets entry.data with
    | .ok octets => .value octets
    | .error failure => .throws failure

def octetsOf : AvpValue → Except Failure (List UInt8)
  | .octets str => .ok str
  | _ => .error .crash

def integer32Of : AvpValue → Except Failure (List UInt8)
  | .integer32 value => .ok (htonl value.toNat)
  | _ => .error .crash

def integer64Of : AvpValue → Except Failure (List UInt8)
  | .integer64 value => .ok (hton64 value)
  | _ => .error .crash

def utf8stringOf : AvpValue → Except Failure (List UInt8)
  | .octets str =>
    if UTF8Checker.check 0 str then .ok str
    else .error (.bug ParseError.invalidContainerContents)
  | _ => .error .crash

def ofGrouped : Layout :=
  expectType entry [.grouped] <|
    match entry.data with
    | .grouped acl =>
      match dictionaries.searchGrouped avp.avpCode avp.vendorId with
      | none => .throws (.normal ResultCode.avpUnsupported)
      | some gavp => ofGroup gavp.toPanaDictionary acl
    | _ => .throws .crash

def ofValue : Layout :=
  match avp.avpType with
  | .data => ofData entry [.data] octetsOf
  | .string => ofData entry [.string] octetsOf
  | .integer32 | .uinteger32 | .enum | .time =>
    ofData entry [.integer32, .uinteger32, .enum, .time] integer32Of
  | .integer64 | .uinteger64 => ofData entry [.integer64, .uinteger64] integer64Of
  | .utf8String => ofData entry [.utf8String] utf8stringOf
  | .grouped => ofGrouped dictionaries avp entry ofGroup
  | .address | .diamId | .diamUri | .ipFilterRule =>
    .throws (.bug ParseError.missingAvpDictionaryEntry)

/-- The octets of the header of an AVP. -/
def headerLength : Nat := if avp.flags.vendorSpecific then 12 else 8

def ofEntry : Layout :=
  if avp.avpType = .data then
    (ofValue dictionaries avp entry ofGroup).andThen ⟨[.boundary], .ok ()⟩
  else
    andThen ⟨[.header (headerLength avp)], .ok ()⟩
      ((ofValue dictionaries avp entry ofGroup).andThen ⟨[.boundary], .ok ()⟩)

end

section

variable (dictionaries : PanaDictionaries) (ofGroup : PanaDictionary → AvpContainerList → Layout)

def ofEntries (avp : DictionaryEntry) : List AvpContainerEntry → Layout
  | [] => .done
  | entry :: entries => (ofEntry dictionaries avp entry ofGroup).andThen (ofEntries avp entries)

def ofQualified (acl : AvpContainerList) (qavp : QualifiedAvp) : Layout :=
  match acl.search qavp.avp.avpName with
  | none =>
    if 0 < qavp.min ∧ 0 < qavp.max then .throws (.bug ParseError.missingContainer) else .done
  | some c =>
    if qavp.max = 0 then .throws (.bug ParseError.prohibitedContainer)
    else if c.entries.length < qavp.min then .throws (.bug ParseError.tooLessAvpEntries)
    else if qavp.max < c.entries.length then .throws (.bug ParseError.tooMuchAvpEntries)
    else ofEntries dictionaries ofGroup qavp.avp c.entries

def ofQualifiedAvps (acl : AvpContainerList) : List QualifiedAvp → Layout
  | [] => .done
  | qavp :: qavps =>
    (ofQualified dictionaries ofGroup acl qavp).andThen (ofQualifiedAvps acl qavps)

end

/-- The layout of a payload, with so many nested groups at most. -/
def ofPayload (dictionaries : PanaDictionaries) :
    (depth : Nat) → PanaDictionary → AvpContainerList → Layout
  | 0, _, _ => .throws .crash
  | depth + 1, dict, acl =>
    ofQualifiedAvps dictionaries (ofPayload dictionaries depth) acl
      (dict.fixed ++ dict.required ++ dict.optional)

end Layout

/-- What is first not to fit is not the header of an AVP. -/
def Layout.NoHeaderMisfits (layout : Layout) (position : Nat) : Prop :=
  ∀ octets, LayoutPart.firstMisfit position layout.parts ≠ some (.header octets)

/-- The headers of the AVPs of a message fit as long as what is before them does. -/
def HeadersFit (dictionaries : PanaDictionaries) (depth : Nat) (m : PanaWireMessage) : Prop :=
  ∀ command, dictionaries.searchCommand m.type.toNat m.flags.request = some command →
    (Layout.ofPayload dictionaries depth command.toPanaDictionary m.avpList).NoHeaderMisfits 16

/-! An encoder and its layout -/

/-- What an encoder does to a buffer that it finds in order, by the first part of the layout that
does not fit. -/
structure PanaEncode.Lays (encode : PanaEncode) (layout : Layout) : Prop where
  grows : ∀ buffer, (encode buffer).2.Stays → buffer.Stays
  fits : ∀ buffer, buffer.Stays → buffer.wrPtr ≤ maxMessageSize →
    LayoutPart.firstMisfit buffer.wrPtr layout.parts = none →
      (encode buffer).1 = layout.outcome ∧ (encode buffer).2.Stays ∧
        (encode buffer).2.wrPtr = LayoutPart.finish buffer.wrPtr layout.parts
  header : ∀ buffer octets, buffer.Stays → buffer.wrPtr ≤ maxMessageSize →
    LayoutPart.firstMisfit buffer.wrPtr layout.parts = some (.header octets) →
      ¬ (encode buffer).2.Stays
  value : ∀ buffer octets, buffer.Stays → buffer.wrPtr ≤ maxMessageSize →
    LayoutPart.firstMisfit buffer.wrPtr layout.parts = some (.value octets) →
      (∃ failure, (encode buffer).1 = .error failure) ∧ (encode buffer).2.Stays

namespace LayoutPart

theorem firstMisfit_append (position : Nat) (parts others : List LayoutPart) :
    firstMisfit position (parts ++ others) =
      (firstMisfit position parts).or (firstMisfit (finish position parts) others) := by
  induction parts generalizing position with
  | nil => rfl
  | cons part parts induction =>
    rw [List.cons_append, firstMisfit, firstMisfit, induction]
    split
    · rfl
    · rfl

theorem finish_append (position : Nat) (parts others : List LayoutPart) :
    finish position (parts ++ others) = finish (finish position parts) others :=
  List.foldl_append

variable {position : Nat}

/-- The end of a message is a boundary, so that no octets up to one leave it. -/
theorem boundary_fits (fits : position ≤ maxMessageSize) :
    position ≤ after position .boundary ∧ after position .boundary ≤ maxMessageSize := by
  unfold maxMessageSize at *
  rw [after]
  omega

theorem firstMisfit_ne_boundary (fits : position ≤ maxMessageSize) (parts : List LayoutPart) :
    firstMisfit position parts ≠ some .boundary := by
  induction parts generalizing position with
  | nil => exact nofun
  | cons part parts induction =>
    rw [firstMisfit]
    split
    · rename_i misfits
      intro same
      cases same
      exact absurd (boundary_fits fits).2 (Nat.not_le.mpr misfits)
    · rename_i fitting
      exact induction (Nat.le_of_not_lt fitting)

/-- Parts that fit go on from where they begin to the end of the message at most. -/
theorem finish_fits (fits : position ≤ maxMessageSize) (parts : List LayoutPart)
    (none : firstMisfit position parts = none) :
    position ≤ finish position parts ∧ finish position parts ≤ maxMessageSize := by
  induction parts generalizing position with
  | nil => exact ⟨Nat.le_refl _, fits⟩
  | cons part parts induction =>
    rw [firstMisfit] at none
    split at none
    · cases none
    · rename_i fitting
      have rest := induction (Nat.le_of_not_lt fitting) none
      refine ⟨Nat.le_trans ?_ rest.1, rest.2⟩
      cases part with
      | header octets => exact Nat.le_add_right _ _
      | value octets => exact Nat.le_add_right _ _
      | boundary => exact (boundary_fits fits).1

end LayoutPart

theorem PanaEncode.Lays.done : PanaEncode.done.Lays .done where
  grows := fun _ stays => stays
  fits := fun _ stays _ _ => ⟨rfl, stays, rfl⟩
  header := fun _ _ _ _ misfit => nomatch misfit
  value := fun _ _ _ _ misfit => nomatch misfit

theorem PanaEncode.Lays.throws (failure : Failure) :
    (PanaEncode.throws failure).Lays (.throws failure) where
  grows := fun _ stays => stays
  fits := fun _ stays _ _ => ⟨rfl, stays, rfl⟩
  header := fun _ _ _ _ misfit => nomatch misfit
  value := fun _ _ _ _ misfit => nomatch misfit

variable {first second : PanaEncode} {buffer : PanaBuffer}

theorem PanaEncode.andThen_ok (isOk : (first buffer).1 = .ok ()) :
    first.andThen second buffer = second (first buffer).2 := by
  unfold PanaEncode.andThen
  cases ran : first buffer with
  | mk ended after =>
    rw [ran] at isOk
    cases isOk
    rfl

theorem PanaEncode.andThen_error {failure : Failure} (isError : (first buffer).1 = .error failure) :
    first.andThen second buffer = (.error failure, (first buffer).2) := by
  unfold PanaEncode.andThen
  cases ran : first buffer with
  | mk ended after =>
    rw [ran] at isError
    cases isError
    rfl

variable {position : Nat}

/-- What is first not to fit is one of the first parts, or none of them and one of the others. -/
theorem LayoutPart.firstMisfit_append_cases {parts others : List LayoutPart} {part : LayoutPart}
    (found : firstMisfit position (parts ++ others) = some part) :
    firstMisfit position parts = some part ∨
      firstMisfit position parts = none ∧
        firstMisfit (finish position parts) others = some part := by
  rw [firstMisfit_append] at found
  cases early : firstMisfit position parts with
  | none =>
    rw [early] at found
    exact .inr ⟨rfl, found⟩
  | some _ =>
    rw [early] at found
    exact .inl found

variable {layout : Layout}

/-- An encoder that goes on does not mend what the one before has written. -/
theorem PanaEncode.Lays.andThen_grows (lays : second.Lays layout)
    (stays : (first.andThen second buffer).2.Stays) : (first buffer).2.Stays := by
  cases ended : (first buffer).1 with
  | ok _ =>
    rw [PanaEncode.andThen_ok ended] at stays
    exact lays.grows _ stays
  | error _ =>
    rw [PanaEncode.andThen_error ended] at stays
    exact stays

/-- Where its parts fit, an encoder that ends well hands on a buffer in order. -/
theorem PanaEncode.Lays.andThen_fitting {first : PanaEncode} {parts : List LayoutPart}
    (lays : first.Lays ⟨parts, .ok ()⟩) (second : PanaEncode) (stays : buffer.Stays)
    (inside : buffer.wrPtr ≤ maxMessageSize)
    (none : LayoutPart.firstMisfit buffer.wrPtr parts = none) :
    first.andThen second buffer = second (first buffer).2 ∧ (first buffer).2.Stays ∧
      (first buffer).2.wrPtr = LayoutPart.finish buffer.wrPtr parts ∧
      (first buffer).2.wrPtr ≤ maxMessageSize := by
  have ⟨isOk, kept, position⟩ := lays.fits buffer stays inside none
  refine ⟨PanaEncode.andThen_ok isOk, kept, position, ?_⟩
  rw [position]
  exact (LayoutPart.finish_fits inside parts none).2

/-- After an encoder that throws when its parts fit, no other one comes. -/
theorem PanaEncode.Lays.andThen_of_error {first : PanaEncode} {parts : List LayoutPart}
    {failure : Failure} (lays : first.Lays ⟨parts, .error failure⟩) {second : PanaEncode}
    {other : Layout} (later : second.Lays other) :
    (first.andThen second).Lays ⟨parts, .error failure⟩ where
  grows buffer stays := lays.grows _ (later.andThen_grows stays)
  fits buffer stays inside none := by
    have ⟨isError, kept⟩ := lays.fits buffer stays inside none
    rw [PanaEncode.andThen_error isError]
    exact ⟨rfl, kept⟩
  header buffer octets stays inside misfit after :=
    lays.header buffer octets stays inside misfit (later.andThen_grows after)
  value buffer octets stays inside misfit := by
    obtain ⟨⟨other, isError⟩, kept⟩ := lays.value buffer octets stays inside misfit
    rw [PanaEncode.andThen_error isError]
    exact ⟨⟨other, rfl⟩, kept⟩

/-- One encoder after another has one layout after the other. -/
theorem PanaEncode.Lays.andThen {layout other : Layout} (one : first.Lays layout)
    (two : second.Lays other) :
    (first.andThen second).Lays (layout.andThen other) := by
  obtain ⟨parts, outcome⟩ := layout
  cases outcome with
  | error failure => exact one.andThen_of_error two
  | ok _ =>
    refine ⟨fun buffer stays => one.grows _ (two.andThen_grows stays), ?_, ?_, ?_⟩
    · intro buffer stays inside none
      change LayoutPart.firstMisfit buffer.wrPtr (parts ++ other.parts) = _ at none
      rw [LayoutPart.firstMisfit_append, Option.or_eq_none_iff] at none
      have ⟨isSecond, kept, position, within⟩ :=
        one.andThen_fitting second stays inside none.1
      rw [isSecond]
      have ⟨outcome, keptToo, finish⟩ := two.fits _ kept within (position ▸ none.2)
      refine ⟨outcome, keptToo, ?_⟩
      rw [finish, position]
      exact (LayoutPart.finish_append _ _ _).symm
    · intro buffer octets stays inside found after
      cases LayoutPart.firstMisfit_append_cases found with
      | inl early => exact one.header buffer octets stays inside early (two.andThen_grows after)
      | inr late =>
        have ⟨isSecond, kept, position, within⟩ :=
          one.andThen_fitting second stays inside late.1
        rw [isSecond] at after
        exact two.header _ octets kept within (position ▸ late.2) after
    · intro buffer octets stays inside found
      cases LayoutPart.firstMisfit_append_cases found with
      | inl early =>
        obtain ⟨⟨failure, isError⟩, kept⟩ := one.value buffer octets stays inside early
        rw [PanaEncode.andThen_error isError]
        exact ⟨⟨failure, rfl⟩, kept⟩
      | inr late =>
        have ⟨isSecond, kept, position, within⟩ :=
          one.andThen_fitting second stays inside late.1
        rw [isSecond]
        exact two.value _ octets kept within (position ▸ late.2)

/-! The encoder of a buffer -/

variable {octets : List UInt8}

theorem PanaBuffer.Stays.put (stays : buffer.Stays)
    (inside : buffer.wrPtr + octets.length ≤ maxMessageSize) : (buffer.put octets).Stays where
  inside := List.forall_mem_cons.mpr ⟨inside, stays.inside⟩
  spaces := stays.spaces
  lengths := stays.lengths

theorem PanaBuffer.Stays.of_put (stays : (buffer.put octets).Stays) :
    buffer.Stays ∧ buffer.wrPtr + octets.length ≤ maxMessageSize :=
  have writes := List.forall_mem_cons.mp stays.inside
  ⟨⟨writes.2, stays.spaces, stays.lengths⟩, writes.1⟩

/-- A value is written where the room that it is tested for is left. -/
theorem PanaEncode.Lays.copyOut (octets : List UInt8) :
    PanaEncode.Lays (PanaBuffer.copyOut octets) (.value octets) := by
  have one : ∀ position, LayoutPart.firstMisfit position (Layout.value octets).parts =
      if maxMessageSize < position + octets.length then some (.value octets.length)
      else none := fun _ => rfl
  have tested : ∀ buffer : PanaBuffer, buffer.Stays → buffer.wrPtr ≤ maxMessageSize →
      ({ buffer with spaces := (maxMessageSize - buffer.wrPtr : Int) :: buffer.spaces } :
        PanaBuffer).Stays := by
    intro buffer stays inside
    exact ⟨stays.inside, List.forall_mem_cons.mpr ⟨by omega, stays.spaces⟩, stays.lengths⟩
  have space : ∀ position, position ≤ maxMessageSize →
      (((maxMessageSize : Int) - position) % 2 ^ 64).toNat = maxMessageSize - position := by
    intro position inside
    unfold maxMessageSize at *
    omega
  refine ⟨?_, ?_, ?_, ?_⟩
  · intro buffer stays
    unfold PanaBuffer.copyOut at stays
    dsimp only at stays
    split at stays
    · exact ⟨stays.inside, (List.forall_mem_cons.mp stays.spaces).2, stays.lengths⟩
    · have before := (PanaBuffer.Stays.of_put stays).1
      exact ⟨before.inside, (List.forall_mem_cons.mp before.spaces).2, before.lengths⟩
  · intro buffer stays inside none
    rw [one] at none
    split at none
    · cases none
    · rename_i fitting
      unfold PanaBuffer.copyOut
      dsimp only
      rw [space _ inside, if_neg (by omega)]
      exact ⟨rfl, (tested buffer stays inside).put (Nat.le_of_not_lt fitting), rfl⟩
  · intro buffer octets _ _ misfit
    rw [one] at misfit
    split at misfit <;> cases misfit
  · intro buffer _ stays inside misfit
    rw [one] at misfit
    split at misfit
    · rename_i misfits
      unfold PanaBuffer.copyOut
      dsimp only
      rw [space _ inside, if_pos (by omega)]
      exact ⟨⟨_, rfl⟩, tested buffer stays inside⟩
    · cases misfit

theorem LayoutPart.firstMisfit_boundary (inside : position ≤ maxMessageSize) :
    LayoutPart.firstMisfit position [.boundary] = none := by
  cases found : LayoutPart.firstMisfit position [.boundary] with
  | none => rfl
  | some part =>
    rw [firstMisfit] at found
    split at found
    · rename_i misfits
      exact absurd (boundary_fits inside).2 (Nat.not_le.mpr misfits)
    · cases found

theorem adjustWordBoundary_eq_after (inside : position ≤ maxMessageSize) :
    adjustWordBoundary position = LayoutPart.after position .boundary := by
  unfold maxMessageSize at inside
  exact adjustWordBoundary_eq (by omega)

theorem PanaBuffer.stays_moved_iff (position : Nat) :
    ({ buffer with wrPtr := position } : PanaBuffer).Stays ↔ buffer.Stays :=
  ⟨fun stays => ⟨stays.inside, stays.spaces, stays.lengths⟩,
    fun stays => ⟨stays.inside, stays.spaces, stays.lengths⟩⟩

theorem PanaEncode.Lays.toBoundary :
    PanaEncode.Lays PanaBuffer.toBoundary ⟨[.boundary], .ok ()⟩ := by
  refine ⟨?_, ?_, ?_, ?_⟩
  · intro buffer stays
    rw [PanaBuffer.toBoundary] at stays
    exact (PanaBuffer.stays_moved_iff _).mp stays
  · intro buffer stays inside _
    rw [PanaBuffer.toBoundary, adjustWordBoundary_eq_after inside]
    exact ⟨rfl, (PanaBuffer.stays_moved_iff _).mpr stays, rfl⟩
  · intro buffer octets _ inside misfit
    exact nomatch (LayoutPart.firstMisfit_boundary inside).symm.trans misfit
  · intro buffer octets _ inside misfit
    exact nomatch (LayoutPart.firstMisfit_boundary inside).symm.trans misfit

@[simp] theorem length_avpHeaderOctets (avp : DictionaryEntry) (length : Nat) :
    (avpHeaderOctets avp length).length = Layout.headerLength avp := by
  unfold avpHeaderOctets Layout.headerLength
  cases avp.flags.vendorSpecific <;> rfl

theorem PanaBuffer.stays_rewrite_iff {place position : Nat} {length : Nat × Nat} :
    (buffer.rewrite place octets length position).Stays ↔
      (place + octets.length ≤ maxMessageSize ∧ length.1 = length.2) ∧ buffer.Stays := by
  constructor
  · intro stays
    have writes := List.forall_mem_cons.mp stays.inside
    have lengths := List.forall_mem_cons.mp stays.lengths
    exact ⟨⟨writes.1, lengths.1⟩, writes.2, stays.spaces, lengths.2⟩
  · intro ⟨⟨inside, same⟩, stays⟩
    exact ⟨List.forall_mem_cons.mpr ⟨inside, stays.inside⟩, stays.spaces,
      List.forall_mem_cons.mpr ⟨same, stays.lengths⟩⟩

variable {avp : DictionaryEntry}

theorem PanaBuffer.Stays.of_closeAvp {saved : Nat} (stays : (closeAvp avp saved buffer).2.Stays) :
    buffer.Stays := by
  rw [Pana.closeAvp] at stays
  exact (PanaBuffer.stays_rewrite_iff.mp stays).2

/-- The header of an AVP that has its place is written there again, and the length is right. -/
theorem PanaBuffer.Stays.closeAvp {saved : Nat} (stays : buffer.Stays)
    (place : saved + Layout.headerLength avp ≤ buffer.wrPtr)
    (inside : buffer.wrPtr ≤ maxMessageSize) :
    (Pana.closeAvp avp saved buffer).1 = .ok () ∧ (Pana.closeAvp avp saved buffer).2.Stays ∧
      (Pana.closeAvp avp saved buffer).2.wrPtr = LayoutPart.after buffer.wrPtr .boundary := by
  have length : (buffer.wrPtr - saved) % 65536 = buffer.wrPtr - saved := by
    unfold maxMessageSize at inside
    omega
  rw [Pana.closeAvp, adjustWordBoundary_eq_after inside]
  dsimp only
  rw [length]
  refine ⟨rfl, PanaBuffer.stays_rewrite_iff.mpr ⟨⟨?_, rfl⟩, stays⟩, rfl⟩
  rw [length_avpHeaderOctets]
  omega

/-- The misfits of an AVP are its header, or those of the value behind it. -/
theorem firstMisfit_avp (position header : Nat) (layout : Layout) :
    LayoutPart.firstMisfit position
        (Layout.andThen ⟨[.header header], .ok ()⟩
          (layout.andThen ⟨[.boundary], .ok ()⟩)).parts =
      if maxMessageSize < position + header then some (.header header)
      else LayoutPart.firstMisfit (position + header) layout.parts := by
  change (if maxMessageSize < position + header then _ else _) = _
  split
  · rfl
  · rename_i fitting
    obtain ⟨parts, outcome⟩ := layout
    cases outcome with
    | error _ => rfl
    | ok _ =>
      change LayoutPart.firstMisfit (position + header) (parts ++ [.boundary]) = _
      rw [LayoutPart.firstMisfit_append]
      cases early : LayoutPart.firstMisfit (position + header) parts with
      | some _ => rfl
      | none =>
        have rest := LayoutPart.finish_fits (Nat.le_of_not_lt fitting) parts early
        exact LayoutPart.firstMisfit_boundary rest.2

/-- The header of an AVP is tested by nobody; once the value is there, it is written again in its
place with the length. -/
theorem PanaEncode.Lays.writeAvp {value : PanaEncode} (lays : value.Lays layout) :
    (Pana.writeAvp avp value).Lays
      (Layout.andThen ⟨[.header (Layout.headerLength avp)], .ok ()⟩
        (layout.andThen ⟨[.boundary], .ok ()⟩)) := by
  have ofValue : ∀ buffer, (Pana.writeAvp avp value buffer).2.Stays →
      (value (buffer.put (avpHeaderOctets avp 0))).2.Stays := by
    intro buffer stays
    unfold Pana.writeAvp at stays
    cases ended : (value (buffer.put (avpHeaderOctets avp 0))).1 with
    | ok _ =>
      rw [PanaEncode.andThen_ok ended] at stays
      exact stays.of_closeAvp
    | error _ =>
      rw [PanaEncode.andThen_error ended] at stays
      exact stays
  have begun : ∀ buffer : PanaBuffer, buffer.Stays →
      ¬ maxMessageSize < buffer.wrPtr + Layout.headerLength avp →
      (buffer.put (avpHeaderOctets avp 0)).Stays ∧
        (buffer.put (avpHeaderOctets avp 0)).wrPtr = buffer.wrPtr + Layout.headerLength avp ∧
        (buffer.put (avpHeaderOctets avp 0)).wrPtr ≤ maxMessageSize := by
    intro buffer stays fitting
    have position : (buffer.put (avpHeaderOctets avp 0)).wrPtr =
        buffer.wrPtr + Layout.headerLength avp :=
      congrArg (buffer.wrPtr + ·) (length_avpHeaderOctets avp 0)
    refine ⟨stays.put ?_, position, ?_⟩
    · rw [length_avpHeaderOctets]
      exact Nat.le_of_not_lt fitting
    · rw [position]
      exact Nat.le_of_not_lt fitting
  refine ⟨?_, ?_, ?_, ?_⟩
  · intro buffer stays
    exact (lays.grows _ (ofValue buffer stays)).of_put.1
  · intro buffer stays _ none
    rw [firstMisfit_avp] at none
    split at none
    · cases none
    · rename_i fitting
      have ⟨put, position, within⟩ := begun buffer stays fitting
      have ⟨ended, after, finish⟩ := lays.fits _ put within (position ▸ none)
      rw [position] at finish
      obtain ⟨parts, outcome⟩ := layout
      cases outcome with
      | error failure =>
        unfold Pana.writeAvp
        rw [PanaEncode.andThen_error ended]
        exact ⟨rfl, after, finish⟩
      | ok _ =>
        have place := LayoutPart.finish_fits (Nat.le_of_not_lt fitting) parts none
        have closed := after.closeAvp (finish ▸ place.1) (finish ▸ place.2)
        unfold Pana.writeAvp
        rw [PanaEncode.andThen_ok ended]
        refine ⟨closed.1, closed.2.1, ?_⟩
        rw [closed.2.2, finish]
        exact (LayoutPart.finish_append (buffer.wrPtr + Layout.headerLength avp) parts
          [.boundary]).symm
  · intro buffer octets stays _ misfit written
    rw [firstMisfit_avp] at misfit
    split at misfit
    · rename_i misfits
      have put := (lays.grows _ (ofValue buffer written)).of_put.2
      rw [length_avpHeaderOctets] at put
      exact absurd put (Nat.not_le.mpr misfits)
    · rename_i fitting
      have ⟨put, position, within⟩ := begun buffer stays fitting
      exact lays.header _ octets put within (position ▸ misfit) (ofValue buffer written)
  · intro buffer octets stays _ misfit
    rw [firstMisfit_avp] at misfit
    split at misfit
    · cases misfit
    · rename_i fitting
      have ⟨put, position, within⟩ := begun buffer stays fitting
      obtain ⟨⟨failure, isError⟩, kept⟩ := lays.value _ octets put within (position ▸ misfit)
      unfold Pana.writeAvp
      rw [PanaEncode.andThen_error isError]
      exact ⟨⟨failure, rfl⟩, kept⟩

/-! The encoders of a message have its layout. -/

theorem PanaEncode.Lays.expectType {entry : AvpContainerEntry} {types : List AvpDataType}
    {next : PanaEncode} (lays : next.Lays layout) :
    (Pana.expectType entry types next).Lays (Layout.expectType entry types layout) := by
  unfold Pana.expectType Layout.expectType
  cases entry.expect types with
  | ok _ => exact lays
  | error failure => exact .throws failure

section

variable {dictionaries : PanaDictionaries} {avp : DictionaryEntry} {entry : AvpContainerEntry}
  {writeGroup : PanaDictionary → AvpContainerList → PanaEncode}
  {ofGroup : PanaDictionary → AvpContainerList → Layout}

theorem writeOctets_lays (type : AvpDataType) :
    (writeOctets entry type).Lays (Layout.ofData entry [type] Layout.octetsOf) := by
  apply PanaEncode.Lays.expectType
  cases entry.data with
  | octets str => exact .copyOut str
  | _ => exact .throws .crash

theorem writeInteger32_lays :
    (writeInteger32 entry).Lays
      (Layout.ofData entry [.integer32, .uinteger32, .enum, .time] Layout.integer32Of) := by
  apply PanaEncode.Lays.expectType
  cases entry.data with
  | integer32 value => exact .copyOut (htonl value.toNat)
  | _ => exact .throws .crash

theorem writeInteger64_lays :
    (writeInteger64 entry).Lays
      (Layout.ofData entry [.integer64, .uinteger64] Layout.integer64Of) := by
  apply PanaEncode.Lays.expectType
  cases entry.data with
  | integer64 value => exact .copyOut (hton64 value)
  | _ => exact .throws .crash

theorem writeUtf8string_lays :
    (writeUtf8string entry).Lays (Layout.ofData entry [.utf8String] Layout.utf8stringOf) := by
  apply PanaEncode.Lays.expectType
  cases entry.data with
  | octets str =>
    dsimp only [Layout.utf8stringOf]
    split
    · exact .copyOut str
    · exact .throws (.bug ParseError.invalidContainerContents)
  | _ => exact .throws .crash

variable (groups : ∀ dict acl, (writeGroup dict acl).Lays (ofGroup dict acl))

include groups in
theorem writeGrouped_lays :
    (writeGrouped dictionaries avp entry writeGroup).Lays
      (Layout.ofGrouped dictionaries avp entry ofGroup) := by
  apply PanaEncode.Lays.expectType
  cases entry.data with
  | grouped acl =>
    dsimp only
    cases dictionaries.searchGrouped avp.avpCode avp.vendorId with
    | none => exact .throws (.normal ResultCode.avpUnsupported)
    | some gavp => exact groups gavp.toPanaDictionary acl
  | _ => exact .throws .crash

include groups in
theorem writeValue_lays :
    (writeValue dictionaries avp entry writeGroup).Lays
      (Layout.ofValue dictionaries avp entry ofGroup) := by
  unfold writeValue Layout.ofValue
  cases avp.avpType with
  | data => exact writeOctets_lays .data
  | string => exact writeOctets_lays .string
  | integer32 | uinteger32 | enum | time => exact writeInteger32_lays
  | integer64 | uinteger64 => exact writeInteger64_lays
  | utf8String => exact writeUtf8string_lays
  | grouped => exact writeGrouped_lays groups
  | address | diamId | diamUri | ipFilterRule =>
    exact .throws (.bug ParseError.missingAvpDictionaryEntry)

include groups in
theorem writeEntry_lays :
    (writeEntry dictionaries avp entry writeGroup).Lays
      (Layout.ofEntry dictionaries avp entry ofGroup) := by
  have value := @writeValue_lays dictionaries avp entry _ _ groups
  unfold writeEntry Layout.ofEntry
  split
  · exact value.andThen .toBoundary
  · exact value.writeAvp

include groups in
theorem writeEntries_lays (avp : DictionaryEntry) (entries : List AvpContainerEntry) :
    (writeEntries dictionaries writeGroup avp entries).Lays
      (Layout.ofEntries dictionaries ofGroup avp entries) := by
  induction entries with
  | nil => exact .done
  | cons entry entries induction => exact (writeEntry_lays groups).andThen induction

include groups in
theorem writeQualified_lays (acl : AvpContainerList) (qavp : QualifiedAvp) :
    (writeQualified dictionaries writeGroup acl qavp).Lays
      (Layout.ofQualified dictionaries ofGroup acl qavp) := by
  unfold writeQualified Layout.ofQualified
  cases acl.search qavp.avp.avpName with
  | none =>
    dsimp only
    split
    · exact .throws _
    · exact .done
  | some c =>
    dsimp only
    split
    · exact .throws _
    · split
      · exact .throws _
      · split
        · exact .throws _
        · exact writeEntries_lays groups qavp.avp c.entries

include groups in
theorem writeQualifiedAvps_lays (acl : AvpContainerList) (qavps : List QualifiedAvp) :
    (writeQualifiedAvps dictionaries writeGroup acl qavps).Lays
      (Layout.ofQualifiedAvps dictionaries ofGroup acl qavps) := by
  induction qavps with
  | nil => exact .done
  | cons qavp qavps induction => exact (writeQualified_lays groups acl qavp).andThen induction

end

theorem writePayload_lays (dictionaries : PanaDictionaries) (depth : Nat) (dict : PanaDictionary)
    (acl : AvpContainerList) :
    (writePayload dictionaries depth dict acl).Lays
      (Layout.ofPayload dictionaries depth dict acl) := by
  induction depth generalizing dict acl with
  | zero => exact .throws .crash
  | succ depth induction => exact writeQualifiedAvps_lays induction acl _

/-! The message -/

theorem length_messageHeaderOctets (m : PanaWireMessage) :
    (messageHeaderOctets m).length = 16 := rfl

variable {dictionaries : PanaDictionaries} {m : PanaWireMessage}

theorem writeMessageHeader_stays_iff :
    (writeMessageHeader dictionaries m (fun _ => .done) buffer).2.Stays ↔ buffer.Stays := by
  unfold writeMessageHeader
  cases dictionaries.searchCommand m.type.toNat m.flags.request with
  | none => exact Iff.rfl
  | some command =>
    change (({ buffer with wrPtr := 0 } : PanaBuffer).put (messageHeaderOctets m)).Stays ↔ _
    rw [← @PanaBuffer.stays_moved_iff buffer 0]
    constructor
    · exact fun stays => stays.of_put.1
    · intro stays
      apply stays.put
      rw [length_messageHeaderOctets]
      change 0 + 16 ≤ maxMessageSize
      decide

/-- The end of an encoding, where the header is written with the length. -/
theorem writeMessageLength_stays_iff :
    (writeMessageLength dictionaries m buffer).2.Stays ↔
      buffer.wrPtr < 65536 ∧ buffer.Stays := by
  unfold writeMessageLength
  dsimp only
  rw [writeMessageHeader_stays_iff]
  have length : (UInt16.ofNat buffer.wrPtr).toNat = buffer.wrPtr ↔ buffer.wrPtr < 65536 := by
    rw [UInt16.toNat_ofNat']
    omega
  rw [← length]
  constructor
  · intro stays
    have lengths := List.forall_mem_cons.mp stays.lengths
    exact ⟨lengths.1, stays.inside, stays.spaces, lengths.2⟩
  · intro ⟨same, stays⟩
    exact ⟨stays.inside, stays.spaces, List.forall_mem_cons.mpr ⟨same, stays.lengths⟩⟩

theorem encodePayload_stays_iff (dictionaries : PanaDictionaries) (m : PanaWireMessage)
    {payload : PanaEncode} (lays : payload.Lays layout) (stays : buffer.Stays)
    (inside : buffer.wrPtr ≤ maxMessageSize) :
    (payload.andThen (writeMessageLength dictionaries m) buffer).2.Stays ↔
      layout.NoHeaderMisfits buffer.wrPtr := by
  constructor
  · intro written octets misfit
    apply lays.header buffer octets stays inside misfit
    cases ended : (payload buffer).1 with
    | ok _ =>
      rw [PanaEncode.andThen_ok ended] at written
      exact (writeMessageLength_stays_iff.mp written).2
    | error _ =>
      rw [PanaEncode.andThen_error ended] at written
      exact written
  · intro fit
    cases misfit : LayoutPart.firstMisfit buffer.wrPtr layout.parts with
    | none =>
      have ⟨ended, after, finish⟩ := lays.fits buffer stays inside misfit
      cases outcome : layout.outcome with
      | ok _ =>
        rw [PanaEncode.andThen_ok (ended.trans outcome), writeMessageLength_stays_iff]
        have place := (LayoutPart.finish_fits inside layout.parts misfit).2
        rw [← finish] at place
        exact ⟨Nat.lt_of_le_of_lt place (by decide), after⟩
      | error _ =>
        rw [PanaEncode.andThen_error (ended.trans outcome)]
        exact after
    | some part =>
      cases part with
      | header octets => exact absurd misfit (fit octets)
      | value octets =>
        obtain ⟨⟨failure, isError⟩, kept⟩ := lays.value buffer octets stays inside misfit
        rw [PanaEncode.andThen_error isError]
        exact kept
      | boundary => exact absurd misfit (LayoutPart.firstMisfit_ne_boundary inside layout.parts)

theorem PanaBuffer.stays_empty : ({} : PanaBuffer).Stays := by
  constructor <;> exact nofun

/-- The payload of a message whose command is known begins behind its header. -/
theorem encodeMessage_command {depth : Nat} {command : PanaCommand}
    (found : dictionaries.searchCommand m.type.toNat m.flags.request = some command) :
    (encodeMessage dictionaries depth m {}).2.Stays ↔
      (Layout.ofPayload dictionaries depth command.toPanaDictionary
        m.avpList).NoHeaderMisfits 16 := by
  have inside : 16 ≤ maxMessageSize := by decide
  have begun : (({} : PanaBuffer).put (messageHeaderOctets m)).Stays := by
    apply PanaBuffer.stays_empty.put
    rw [length_messageHeaderOctets]
    exact inside
  have lays := writePayload_lays dictionaries depth command.toPanaDictionary m.avpList
  unfold encodeMessage writeMessageHeader
  rw [found]
  exact encodePayload_stays_iff dictionaries m lays begun inside

/-- The encoder of a message keeps to a buffer of 1024 octets, whether it throws or not, exactly
where the headers of the AVPs fit as long as what is before them does. -/
theorem encodeMessage_stays_iff (dictionaries : PanaDictionaries) (depth : Nat)
    (m : PanaWireMessage) :
    (encodeMessage dictionaries depth m {}).2.Stays ↔ HeadersFit dictionaries depth m := by
  constructor
  · exact fun stays command found => (encodeMessage_command found).mp stays
  · intro fits
    cases found : dictionaries.searchCommand m.type.toNat m.flags.request with
    | none =>
      unfold encodeMessage writeMessageHeader
      rw [found]
      exact PanaBuffer.stays_empty
    | some command => exact (encodeMessage_command found).mpr (fits command found)

/-- A command with two octet strings at most. -/
def stringCommand : PanaCommand :=
  ⟨⟨[], [], [⟨⟨"String", 1, .string, 0, ⟨false, false, false⟩⟩, 0, 2⟩]⟩, 1, true⟩

def stringsOnly : PanaDictionaries where
  commandList := [stringCommand]
  groupedAvpList := []

/-- A string and an empty one after it. -/
def twoStrings (str : List UInt8) : PanaWireMessage where
  flags := { request := true }
  type := 1
  avpList := [⟨"String", [⟨.string, .octets str⟩, ⟨.string, .octets []⟩]⟩]

/-- A string that ends with the buffer leaves no room for another header. -/
theorem twoStrings_misfits {str : List UInt8} (long : str.length = 1000) :
    ¬ (encodeMessage stringsOnly 1 (twoStrings str) {}).2.Stays := by
  intro stays
  have found : stringsOnly.searchCommand (twoStrings str).type.toNat
      (twoStrings str).flags.request = some stringCommand := rfl
  have fits := (encodeMessage_command found).mp stays
  apply fits 8
  simp [stringCommand, Layout.ofPayload, Layout.ofQualifiedAvps, Layout.ofQualified, Layout.ofEntries,
    Layout.ofEntry, Layout.ofValue, Layout.ofData, Layout.expectType, Layout.octetsOf,
    Layout.value, Layout.andThen, Layout.done, Layout.headerLength, AvpContainerEntry.expect,
    AvpContainerList.search, LayoutPart.firstMisfit, LayoutPart.after, twoStrings,
    maxMessageSize, long]

/-- The header of the second AVP is written behind the buffer. -/
theorem second_header_leaves_buffer :
    ¬ (encodeMessage stringsOnly 1 (twoStrings (List.replicate 1000 0)) {}).2.Stays :=
  twoStrings_misfits List.length_replicate

end OpenDiameter.Pana
