import OpenDiameter.DiameterEap.Records

/-!
What a request or an answer of Diameter EAP makes of the record that it is read into.
-/

namespace OpenDiameter.DiameterEap

open OpenDiameter.Parser

abbrev Tunneling.new : Tunneling := fun attr => attr.shape.new

abbrev ProxyInfo.new : ProxyInfo := fun attr => attr.shape.new

theorem tunnelingTable_coherent : tunnelingTable.Coherent := by decide

theorem proxyInfoTable_coherent : proxyInfoTable.Coherent := by decide

theorem derTable_coherent : derTable.Coherent := by decide +kernel

theorem deaTable_coherent : deaTable.Coherent := by decide +kernel

namespace MemberShape

variable {shape : MemberShape}

theorem writes (content : shape.Content) (dataType : AvpDataType) :
    (shape.codec.copyTo content (some dataType)).isSome := by
  cases shape <;> rfl

theorem view_new (shape : MemberShape) : shape.codec.view shape.new = none := by
  cases shape <;> rfl

/-- An attribute of a group is read into one of a new group. -/
theorem returns {content : shape.Content} {dataType : Option AvpDataType}
    {entries : List AvpContainerEntry} (isSet : (shape.codec.view content).isSome)
    (isEntries : shape.codec.copyTo content dataType = some entries) :
    shape.codec.Returns content entries shape.new := by
  cases shape with
  | scholar type => exact AttributeCodec.scholar_returns isSet isEntries
  | vector type => exact (AttributeCodec.vector_returns_iff isSet isEntries).2 (Nat.zero_le _)

end MemberShape

/-- A group comes back where each of its attributes can be written. -/
theorem group_trips {Attr : Type} [DecidableEq Attr] {shape : Attr → MemberShape}
    {table : RecordTable Attr} (coherent : table.Coherent) (unclear : table.cleared = [])
    (noExpect : ∀ line ∈ table.reader, line.attr? ≠ none)
    (readsAll : ∀ attr, table.IsRead attr)
    {element : (attr : Attr) → (shape attr).Content}
    (writes : ∀ line ∈ table.writer,
      RecordTable.Writes (fun attr => (shape attr).codec) element line) :
    RecordTable.RoundTrips (fun attr => (shape attr).codec) table (fun _ => True) element
      fun attr => (shape attr).new := by
  rw [coherent.roundTrips_iff]
  refine ⟨writes, ?_, ?_⟩
  · intro avpName value isExpect
    exact absurd rfl (noExpect _ isExpect)
  · intro attr
    have isNew : RecordTable.clear (fun attr => (shape attr).codec) table.cleared
        (fun attr => (shape attr).new) attr = (shape attr).new := by
      rw [unclear]
      exact if_neg List.not_mem_nil
    constructor
    · intro line listed isAttr _ isSet entries isEntries
      rw [isNew]
      obtain ⟨content, isRead, same⟩ := MemberShape.returns isSet isEntries
      exact ⟨content, isRead, fun _ => same⟩
    · intro unset _
      rw [isNew, MemberShape.view_new]
      split
      · rename_i isWritten
        exact (unset isWritten (readsAll attr)).symm
      · rfl

theorem tunneling_writes (element : Tunneling) (line : WriterLine TunnelingAttribute)
    (listed : line ∈ tunnelingTable.writer) :
    RecordTable.Writes (fun attr => attr.shape.codec) element line := by
  intro _
  have isTyped : ∀ line ∈ tunnelingTable.writer, line.dataType.isSome := by decide
  obtain ⟨dataType, isType⟩ := Option.isSome_iff_exists.1 (isTyped line listed)
  rw [isType]
  exact MemberShape.writes _ _

theorem tunneling_trips (element : Tunneling) :
    RecordTable.RoundTrips (fun attr => attr.shape.codec) tunnelingTable (fun _ => True) element
      Tunneling.new :=
  group_trips tunnelingTable_coherent rfl (by decide)
    (fun attr => by cases attr <;> decide) (tunneling_writes element)

/-- Only the AVP that has no type cannot be written. -/
theorem proxyInfo_writes_iff (element : ProxyInfo) :
    (∀ line ∈ proxyInfoTable.writer,
      RecordTable.Writes (fun attr => attr.shape.codec) element line) ↔
      (element .avp).avps = none := by
  constructor
  · intro writes
    apply Option.not_isSome_iff_eq_none.1
    intro isSet
    have written := writes ⟨"AVP", .avp, none⟩ (by decide) isSet
    cases written
  · intro unset line listed isSet
    have typed : ∀ line ∈ proxyInfoTable.writer, line.dataType.isSome ∨ line.attr = .avp := by
      decide
    obtain ⟨avpName, attr, dataType⟩ := line
    obtain isTyped | isAvp := typed _ listed
    · obtain ⟨dataType, rfl⟩ := Option.isSome_iff_exists.1 isTyped
      exact MemberShape.writes _ _
    · cases isAvp
      have isSet : (element .avp).avps.isSome := isSet
      rw [unset] at isSet
      cases isSet

theorem proxyInfo_trips {element : ProxyInfo} (unset : (element .avp).avps = none) :
    RecordTable.RoundTrips (fun attr => attr.shape.codec) proxyInfoTable (fun _ => True) element
      ProxyInfo.new :=
  group_trips proxyInfoTable_coherent rfl (by decide) (fun attr => by cases attr <;> decide)
    ((proxyInfo_writes_iff element).2 unset)

namespace AttributeShape

variable {shape : AttributeShape}

variable {dataType : Option AvpDataType}

theorem tunneling_codec_writes (content : VectorAttribute Tunneling) :
    ((codec .tunneling).copyTo content dataType).isSome := by
  apply AttributeCodec.group_writes_iff.2
  exact fun element _ => RecordTable.write_isSome.2 (tunneling_writes element)

theorem proxyInfo_codec_writes_iff {content : VectorAttribute ProxyInfo} :
    ((codec .proxyInfo).copyTo content dataType).isSome ↔
      ∀ element ∈ content.values, (element .avp).avps = none := by
  apply AttributeCodec.group_writes_iff.trans
  apply forall₂_congr
  intro element _
  rw [RecordTable.write_isSome, proxyInfo_writes_iff]

@[simp] theorem view_clear (own : shape.Content) :
    shape.codec.view (shape.codec.clear own) = none := by
  cases shape <;> rfl

/-- The groups hold nothing that cannot be written. -/
def Writable : (shape : AttributeShape) → shape.Content → Prop
  | .proxyInfo, own =>
    ∀ elements ∈ own.avps, ∀ element ∈ elements, (element .avp).avps = none
  | _, _ => True

variable {content : shape.Content}

theorem writes_iff {dataType : AvpDataType} (isSet : (shape.codec.view content).isSome) :
    (shape.codec.copyTo content (some dataType)).isSome ↔ shape.Writable content := by
  cases shape with
  | proxyInfo =>
    have isAvps : content.avps.isSome := by
      dsimp only [codec, AttributeCodec.group] at isSet
      rw [Option.isSome_map] at isSet
      exact isSet
    rw [proxyInfo_codec_writes_iff, Writable, VectorAttribute.avps_eq isAvps]
    constructor
    · intro writes elements isElements
      cases isElements
      exact writes
    · exact fun writable => writable _ rfl
  | scholar type => exact iff_of_true rfl trivial
  | vector type => exact iff_of_true rfl trivial
  | tunneling => exact iff_of_true (tunneling_codec_writes content) trivial

theorem writable_of_unset (unset : shape.codec.view content = none) :
    shape.Writable content := by
  cases shape with
  | proxyInfo =>
    intro elements isElements
    dsimp only [codec, AttributeCodec.group] at unset
    rw [Option.map_eq_none_iff] at unset
    cases unset.symm.trans isElements
  | _ => trivial

/-- What can be written comes back to an attribute that was cleared. -/
theorem returns {entries : List AvpContainerEntry} (isSet : (shape.codec.view content).isSome)
    (isEntries : shape.codec.copyTo content dataType = some entries) (own : shape.Content) :
    shape.codec.Returns content entries (shape.codec.clear own) := by
  cases shape with
  | scholar type => exact AttributeCodec.scholar_returns isSet isEntries
  | vector type => exact (AttributeCodec.vector_returns_iff isSet isEntries).2 (Nat.zero_le _)
  | tunneling =>
    apply AttributeCodec.group_returns _ _ isSet isEntries rfl
    · exact fun attr => by cases attr <;> decide
    · exact fun element _ => tunneling_trips element
  | proxyInfo =>
    apply AttributeCodec.group_returns _ _ isSet isEntries rfl
    · exact fun attr => by cases attr <;> decide
    · have unset := proxyInfo_codec_writes_iff.1 (Option.isSome_iff_exists.2 ⟨entries, isEntries⟩)
      exact fun element listed => proxyInfo_trips (unset element listed)

end AttributeShape

section

variable {Attr : Type} {shape : Attr → AttributeShape} {table : RecordTable Attr}
  {data : (attr : Attr) → (shape attr).Content}

/-- Which attributes a writer throws for, where it lists one without a type. -/
theorem writes_iff {avp : Attr} (typed : ∀ line ∈ table.writer, line.dataType.isSome ↔ line.attr ≠ avp)
    (listed : table.Written avp)
    (untyped : ∀ content, (shape avp).codec.copyTo content none = none) :
    (∀ line ∈ table.writer,
      RecordTable.Writes (fun attr => (shape attr).codec) data line) ↔
      (shape avp).codec.view (data avp) = none ∧
        ∀ line ∈ table.writer, line.attr ≠ avp → (shape line.attr).Writable (data line.attr) := by
  constructor
  · intro writes
    constructor
    · obtain ⟨line, isLine, isAvp⟩ := List.mem_map.1 listed
      subst isAvp
      apply Option.not_isSome_iff_eq_none.1
      intro isSet
      have written := writes line isLine isSet
      have noType : line.dataType = none := by
        apply Option.not_isSome_iff_eq_none.1
        exact fun isTyped => (typed line isLine).1 isTyped rfl
      rw [noType] at written
      dsimp only at written
      rw [untyped] at written
      cases written
    · intro line isLine notAvp
      obtain ⟨dataType, isTyped⟩ := Option.isSome_iff_exists.1 ((typed line isLine).2 notAvp)
      cases isView : (shape line.attr).codec.view (data line.attr) with
      | none => exact AttributeShape.writable_of_unset isView
      | some value =>
        have isSet : ((shape line.attr).codec.view (data line.attr)).isSome := by rw [isView]; rfl
        have written := writes line isLine isSet
        rw [isTyped] at written
        exact (AttributeShape.writes_iff isSet).1 written
  · intro ⟨unset, writable⟩ line isLine isSet
    have notAvp : line.attr ≠ avp := by
      intro isAvp
      subst isAvp
      dsimp only at isSet
      rw [unset] at isSet
      cases isSet
    obtain ⟨dataType, isTyped⟩ := Option.isSome_iff_exists.1 ((typed line isLine).2 notAvp)
    rw [isTyped]
    exact (AttributeShape.writes_iff isSet).2 (writable line isLine notAvp)

variable [DecidableEq Attr] {compared : Attr → Prop}
  {previous : (attr : Attr) → (shape attr).Content} {attr : Attr}

/-- An attribute that is cleared survives unless it is written and not read. -/
theorem survives_cleared_iff (isCleared : attr ∈ table.cleared) :
    RecordTable.Survives (fun attr => (shape attr).codec) table compared data previous attr ↔
      (table.Written attr → ¬table.IsRead attr → compared attr →
        (shape attr).codec.view (data attr) = none) := by
  have own : RecordTable.clear (fun attr => (shape attr).codec) table.cleared previous attr =
      (shape attr).codec.clear (previous attr) := if_pos isCleared
  constructor
  · intro survives isWritten notRead isCompared
    have kept := survives.kept (fun _ isRead => absurd isRead notRead) isCompared
    rw [own, AttributeShape.view_clear, if_pos isWritten] at kept
    exact kept.symm
  · intro unset
    constructor
    · intro line listed isAttr _ isSet entries isEntries
      rw [own]
      obtain ⟨content, isRead, same⟩ := AttributeShape.returns isSet isEntries (previous attr)
      exact ⟨content, isRead, fun _ => same⟩
    · intro unread isCompared
      rw [own, AttributeShape.view_clear]
      split
      · rename_i isWritten
        by_cases isRead : table.IsRead attr
        · exact (unread isWritten isRead).symm
        · exact (unset isWritten isRead isCompared).symm
      · rfl

/-- An attribute that is not cleared, and not both written and read, stays as it was. -/
theorem survives_uncleared_iff (notCleared : attr ∉ table.cleared)
    (notCarried : table.Written attr → ¬table.IsRead attr) :
    RecordTable.Survives (fun attr => (shape attr).codec) table compared data previous attr ↔
      (compared attr → (shape attr).codec.view (previous attr) =
        if table.Written attr then (shape attr).codec.view (data attr) else none) := by
  have own : RecordTable.clear (fun attr => (shape attr).codec) table.cleared previous attr =
      previous attr := if_neg notCleared
  constructor
  · intro survives isCompared
    have kept := survives.kept (fun isWritten isRead => absurd isRead (notCarried isWritten))
      isCompared
    rw [own] at kept
    exact kept
  · intro same
    constructor
    · intro line listed isAttr isRead
      exact absurd isRead (notCarried (List.mem_map.2 ⟨line, listed, isAttr⟩))
    · intro _
      rw [own]
      exact same

/-- One that is written and read is read into what it was. -/
theorem survives_carried_iff (notCleared : attr ∉ table.cleared) (isWritten : table.Written attr)
    (isRead : table.IsRead attr) (isCompared : compared attr) :
    RecordTable.Survives (fun attr => (shape attr).codec) table compared data previous attr ↔
      (∀ line ∈ table.writer, line.attr = attr → ((shape attr).codec.view (data attr)).isSome →
        ∀ entries, (shape attr).codec.copyTo (data attr) line.dataType = some entries →
          (shape attr).codec.Returns (data attr) entries (previous attr)) ∧
        ((shape attr).codec.view (data attr) = none →
          (shape attr).codec.view (previous attr) = none) := by
  have own : RecordTable.clear (fun attr => (shape attr).codec) table.cleared previous attr =
      previous attr := if_neg notCleared
  constructor
  · intro survives
    constructor
    · intro line listed isAttr isSet entries isEntries
      have carried := survives.carried line listed isAttr isRead isSet entries isEntries
      rw [own] at carried
      obtain ⟨content, isContent, same⟩ := carried
      exact ⟨content, isContent, same isCompared⟩
    · intro unset
      have kept := survives.kept (fun _ _ => unset) isCompared
      rw [own, if_pos isWritten] at kept
      exact kept.trans unset
  · intro ⟨returns, unset⟩
    constructor
    · intro line listed isAttr _ isSet entries isEntries
      rw [own]
      obtain ⟨content, isContent, same⟩ := returns line listed isAttr isSet entries isEntries
      exact ⟨content, isContent, fun _ => same⟩
    · intro isUnset _
      rw [own, if_pos isWritten, isUnset isWritten isRead]
      exact unset (isUnset isWritten isRead)

end

/-- A request that comes back from its message. -/
structure DerKept (data : DerData) : Prop where
  authApplicationId : ∀ id ∈ (data .authApplicationId).avp, id = eapApplicationId
  framedIpNetmask : (data .framedIpNetmask).avp = none
  avp : (data .avp).avps = none
  proxyInfo : ∀ elements ∈ (data .proxyInfo).avps, ∀ element ∈ elements,
    (element .avp).avps = none

/-- What is compared of a request. -/
def derCompared (attr : DerAttribute) : Prop := attr ≠ .sessionId ∧ attr ≠ .authApplicationId

abbrev DerRoundTrips (data previous : DerData) : Prop :=
  RecordTable.RoundTrips (fun attr => attr.shape.codec) derTable derCompared data previous

theorem der_writes_iff (data : DerData) :
    (∀ line ∈ derTable.writer,
      RecordTable.Writes (fun attr => attr.shape.codec) data line) ↔
      (data .avp).avps = none ∧ ∀ elements ∈ (data .proxyInfo).avps, ∀ element ∈ elements,
        (element .avp).avps = none := by
  apply (@writes_iff _ _ derTable data .avp (by decide) (by decide) fun _ => rfl).trans
  apply and_congr Iff.rfl
  constructor
  · intro writable
    exact writable ⟨"Proxy-Info", .proxyInfo, some .grouped⟩ (by decide) (by decide)
  · intro kept line _ _
    generalize line.attr = attr
    cases attr with
    | proxyInfo => exact kept
    | _ => trivial

theorem der_expected_iff (data : DerData) :
    RecordTable.Expected (fun attr => attr.shape.codec) derTable data ↔
      ∀ id ∈ (data .authApplicationId).avp, id = eapApplicationId := by
  have copied : (AttributeCodec.scholar .unsigned32).copyTo (data .authApplicationId)
      (some .integer32) = some [⟨.integer32, .integer32 (data .authApplicationId).value⟩] := rfl
  constructor
  · intro expected id isId
    have isSet : (data .authApplicationId).avp.isSome := by
      rw [Option.mem_def.1 isId]
      rfl
    have found := expected "Auth-Application-Id" eapApplicationId (by decide)
      ⟨"Auth-Application-Id", .authApplicationId, some .integer32⟩ (by decide) rfl isSet _ copied
    have isValue := Option.some.inj ((ScholarAttribute.avp_eq isSet).symm.trans isId)
    exact isValue.symm.trans (of_decide_eq_true found)
  · intro isEap avpName value isExpect line listed isName isSet entries isEntries
    have expects : ∀ line ∈ derTable.reader, line.attr? ≠ none ∨
        line = .expect "Auth-Application-Id" eapApplicationId := by decide
    have named : ∀ line ∈ derTable.writer, line.avpName = "Auth-Application-Id" →
        line = ⟨"Auth-Application-Id", .authApplicationId, some .integer32⟩ := by decide
    cases (expects _ isExpect).resolve_left fun noAttr => noAttr rfl
    cases named line listed isName
    cases copied.symm.trans isEntries
    have isSet : (data .authApplicationId).avp.isSome := isSet
    exact decide_eq_true (isEap _ (ScholarAttribute.avp_eq isSet))

theorem der_roundTrips_iff (data previous : DerData) :
    DerRoundTrips data previous ↔ DerKept data := by
  have isCleared (attr : DerAttribute) : attr ∈ derTable.cleared := by cases attr <;> decide
  have unread (attr : DerAttribute) (isWritten : derTable.Written attr)
      (notRead : ¬derTable.IsRead attr) : attr = .authApplicationId ∨ attr = .framedIpNetmask := by
    revert isWritten notRead
    cases attr <;> decide
  have survives : (∀ attr, RecordTable.Survives (fun attr => attr.shape.codec) derTable derCompared
      data previous attr) ↔ (data .framedIpNetmask).avp = none := by
    constructor
    · intro survives
      exact (survives_cleared_iff (isCleared _)).1 (survives .framedIpNetmask) (by decide)
        (by decide) ⟨by decide, by decide⟩
    · intro unset attr
      apply (survives_cleared_iff (isCleared attr)).2
      intro isWritten notRead isCompared
      obtain isId | isNetmask := unread attr isWritten notRead
      · exact absurd isId isCompared.2
      · subst isNetmask
        exact unset
  rw [DerRoundTrips, derTable_coherent.roundTrips_iff, der_writes_iff, der_expected_iff, survives]
  constructor
  · intro ⟨⟨avp, proxyInfo⟩, authApplicationId, framedIpNetmask⟩
    exact ⟨authApplicationId, framedIpNetmask, avp, proxyInfo⟩
  · intro kept
    exact ⟨⟨kept.avp, kept.proxyInfo⟩, kept.authApplicationId, kept.framedIpNetmask⟩

/-- The attributes of one value that `Clear` leaves out, and a message may set. -/
def deaUncleared : List DeaAttribute :=
  [.authApplicationId, .resultCode, .acctInterimInterval, .errorMessage, .errorReportingHost,
    .reAuthRequestType, .callbackId]

/-- A vector that is read over another one. -/
structure VectorKept {α : Type} (content own : VectorAttribute α) : Prop where
  short : ∀ values ∈ content.avps, own.values.length ≤ values.length
  unset : content.avps = none → own.avps = none

/-- An answer that comes back from its message. -/
structure DeaKept (data previous : DeaData) : Prop where
  authRequestType : (previous .authRequestType).avp = (data .authRequestType).avp
  replyMessage : (previous .replyMessage).avps = (data .replyMessage).avps
  originHost : (previous .originHost).avp = none
  originRealm : (previous .originRealm).avp = none
  uncleared : ∀ attr ∈ deaUncleared, attr.shape.codec.view (data attr) = none →
    attr.shape.codec.view (previous attr) = none
  configurationToken : VectorKept (data .configurationToken) (previous .configurationToken)
  filterId : VectorKept (data .filterId) (previous .filterId)
  framedIpNetmask : (data .framedIpNetmask).avp = none
  avp : (data .avp).avps = none
  proxyInfo : ∀ elements ∈ (data .proxyInfo).avps, ∀ element ∈ elements,
    (element .avp).avps = none

/-- What is compared of an answer. -/
def deaCompared (attr : DeaAttribute) : Prop := attr ≠ .sessionId

instance (attr : DeaAttribute) : Decidable (deaCompared attr) :=
  inferInstanceAs (Decidable (attr ≠ .sessionId))

abbrev DeaRoundTrips (data previous : DeaData) : Prop :=
  RecordTable.RoundTrips (fun attr => attr.shape.codec) deaTable deaCompared data previous

theorem dea_writes_iff (data : DeaData) :
    (∀ line ∈ deaTable.writer,
      RecordTable.Writes (fun attr => attr.shape.codec) data line) ↔
      (data .avp).avps = none ∧ ∀ elements ∈ (data .proxyInfo).avps, ∀ element ∈ elements,
        (element .avp).avps = none := by
  apply (@writes_iff _ _ deaTable data .avp (by decide) (by decide) fun _ => rfl).trans
  apply and_congr Iff.rfl
  constructor
  · intro writable
    exact writable ⟨"Proxy-Info", .proxyInfo, some .grouped⟩ (by decide) (by decide)
  · intro kept line _ _
    generalize line.attr = attr
    cases attr with
    | proxyInfo => exact kept
    | _ => trivial

/-- The attributes by what becomes of them. -/
theorem dea_attribute_cases (attr : DeaAttribute) :
    (attr ∈ deaTable.cleared ∧ (attr = .framedIpNetmask ∨ deaTable.IsRead attr)) ∨
      attr ∈ deaUncleared ∨ attr ∈ [.configurationToken, .filterId] ∨
      attr ∈ [.sessionId, .authRequestType, .replyMessage, .originHost, .originRealm] := by
  cases attr <;> decide

/-- An attribute of one value that is written, read and not cleared. -/
theorem dea_survives_uncleared_iff {data previous : DeaData} {attr : DeaAttribute}
    (isUncleared : attr ∈ deaUncleared) :
    RecordTable.Survives (fun attr => attr.shape.codec) deaTable deaCompared data previous attr ↔
      (attr.shape.codec.view (data attr) = none → attr.shape.codec.view (previous attr) = none) := by
  have facts : ∀ attr ∈ deaUncleared, attr ∉ deaTable.cleared ∧ deaTable.Written attr ∧
      deaTable.IsRead attr ∧ attr ≠ .sessionId := by decide
  obtain ⟨notCleared, isWritten, isRead, isCompared⟩ := facts attr isUncleared
  rw [survives_carried_iff notCleared isWritten isRead isCompared]
  apply and_iff_right
  intro line _ _ isSet entries isEntries
  have isScholar : ∃ type, attr.shape = .scholar type := by
    revert isUncleared
    cases attr <;> first | exact fun _ => ⟨_, rfl⟩ | exact fun listed => absurd listed (by decide)
  obtain ⟨type, isShape⟩ := isScholar
  revert isSet isEntries
  generalize data attr = content
  generalize previous attr = own
  revert content own
  rw [isShape]
  exact fun content own isSet isEntries => AttributeCodec.scholar_returns isSet isEntries

theorem vectorKept_iff {content own : VectorAttribute ValueType.string.Value} {Attr : Type}
    {lines : List (WriterLine Attr)} {attr : Attr}
    (typed : ∃ line ∈ lines, line.attr = attr ∧ line.dataType.isSome) :
    ((∀ line ∈ lines, line.attr = attr → ((AttributeCodec.vector .string).view content).isSome →
        ∀ entries, (AttributeCodec.vector .string).copyTo content line.dataType = some entries →
          (AttributeCodec.vector .string).Returns content entries own) ∧
      ((AttributeCodec.vector .string).view content = none →
        (AttributeCodec.vector .string).view own = none)) ↔ VectorKept content own := by
  constructor
  · intro ⟨returns, unset⟩
    refine ⟨fun values isValues => ?_, unset⟩
    obtain ⟨line, listed, isAttr, isTyped⟩ := typed
    obtain ⟨dataType, isType⟩ := Option.isSome_iff_exists.1 isTyped
    have isSet : ((AttributeCodec.vector .string).view content).isSome :=
      Option.isSome_iff_exists.2 ⟨values, isValues⟩
    have written : (AttributeCodec.vector .string).copyTo content line.dataType =
        some (content.values.map fun value => ⟨dataType, ValueType.string.write value⟩) := by
      rw [isType]
      rfl
    have short := (AttributeCodec.vector_returns_iff isSet written).1
      (returns line listed isAttr isSet _ written)
    cases (VectorAttribute.avps_eq isSet).symm.trans isValues
    exact short
  · intro kept
    refine ⟨fun line _ _ isSet entries isEntries => ?_, kept.unset⟩
    exact (AttributeCodec.vector_returns_iff isSet isEntries).2
      (kept.short _ (VectorAttribute.avps_eq isSet))

theorem dea_survives_iff (data previous : DeaData) :
    (∀ attr, RecordTable.Survives (fun attr => attr.shape.codec) deaTable deaCompared
      data previous attr) ↔
      (previous .authRequestType).avp = (data .authRequestType).avp ∧
      (previous .replyMessage).avps = (data .replyMessage).avps ∧
      (previous .originHost).avp = none ∧ (previous .originRealm).avp = none ∧
      (∀ attr ∈ deaUncleared, attr.shape.codec.view (data attr) = none →
        attr.shape.codec.view (previous attr) = none) ∧
      VectorKept (data .configurationToken) (previous .configurationToken) ∧
      VectorKept (data .filterId) (previous .filterId) ∧
      (data .framedIpNetmask).avp = none := by
  have uncarried {attr : DeaAttribute} (notCleared : attr ∉ deaTable.cleared)
      (notCarried : deaTable.Written attr → ¬deaTable.IsRead attr) :=
    @survives_uncleared_iff _ DeaAttribute.shape deaTable data _ deaCompared previous attr
      notCleared notCarried
  have configurationToken : RecordTable.Survives (fun attr => attr.shape.codec) deaTable deaCompared
      data previous .configurationToken ↔
        VectorKept (data .configurationToken) (previous .configurationToken) :=
    (survives_carried_iff (by decide) (by decide) (by decide) (by decide)).trans
      (vectorKept_iff ⟨⟨"Configuration-Token", .configurationToken, some .string⟩, by decide⟩)
  have filterId : RecordTable.Survives (fun attr => attr.shape.codec) deaTable deaCompared
      data previous .filterId ↔ VectorKept (data .filterId) (previous .filterId) :=
    (survives_carried_iff (by decide) (by decide) (by decide) (by decide)).trans
      (vectorKept_iff ⟨⟨"Filter-Id", .filterId, some .utf8String⟩, by decide⟩)
  have authRequestType := uncarried (show DeaAttribute.authRequestType ∉ _ by decide) (by decide)
  have replyMessage := uncarried (show DeaAttribute.replyMessage ∉ _ by decide) (by decide)
  have originHost := uncarried (show DeaAttribute.originHost ∉ _ by decide) (by decide)
  have originRealm := uncarried (show DeaAttribute.originRealm ∉ _ by decide) (by decide)
  have netmask := @survives_cleared_iff _ DeaAttribute.shape deaTable data _ deaCompared previous
    .framedIpNetmask (by decide)
  rw [if_pos (by decide)] at authRequestType replyMessage
  rw [if_neg (by decide)] at originHost originRealm
  constructor
  · intro survives
    exact ⟨authRequestType.1 (survives _) (by decide), replyMessage.1 (survives _) (by decide),
      originHost.1 (survives _) (by decide), originRealm.1 (survives _) (by decide),
      fun attr isUncleared => (dea_survives_uncleared_iff isUncleared).1 (survives attr),
      configurationToken.1 (survives _), filterId.1 (survives _),
      netmask.1 (survives _) (by decide) (by decide) (by decide)⟩
  · intro ⟨sameType, sameMessage, noHost, noRealm, uncleared, tokenKept, filterKept, noNetmask⟩ attr
    obtain ⟨isCleared, isNetmask | isRead⟩ | isUncleared | isVector | isOther :=
      dea_attribute_cases attr
    · subst isNetmask
      exact netmask.2 fun _ _ _ => noNetmask
    · exact (survives_cleared_iff isCleared).2 fun _ notRead => absurd isRead notRead
    · exact (dea_survives_uncleared_iff isUncleared).2 (uncleared attr isUncleared)
    · simp only [List.mem_cons, List.not_mem_nil, or_false] at isVector
      obtain isToken | isFilter := isVector
      · subst isToken
        exact configurationToken.2 tokenKept
      · subst isFilter
        exact filterId.2 filterKept
    · simp only [List.mem_cons, List.not_mem_nil, or_false] at isOther
      obtain isSession | isType | isMessage | isHost | isRealm := isOther
      · subst isSession
        exact (uncarried (by decide) (by decide)).2 fun isCompared => absurd rfl isCompared
      · subst isType
        exact authRequestType.2 fun _ => sameType
      · subst isMessage
        exact replyMessage.2 fun _ => sameMessage
      · subst isHost
        exact originHost.2 fun _ => noHost
      · subst isRealm
        exact originRealm.2 fun _ => noRealm

theorem dea_expected (data : DeaData) :
    RecordTable.Expected (fun attr => attr.shape.codec) deaTable data := by
  intro avpName value isExpect
  have copies : ∀ line ∈ deaTable.reader, line.attr? ≠ none := by decide
  exact absurd rfl (copies _ isExpect)

theorem dea_roundTrips_iff (data previous : DeaData) :
    DeaRoundTrips data previous ↔ DeaKept data previous := by
  rw [DeaRoundTrips, deaTable_coherent.roundTrips_iff, dea_writes_iff, dea_survives_iff,
    and_iff_right (dea_expected data)]
  constructor
  · intro ⟨⟨avp, proxyInfo⟩, authRequestType, replyMessage, originHost, originRealm, uncleared,
      configurationToken, filterId, framedIpNetmask⟩
    exact ⟨authRequestType, replyMessage, originHost, originRealm, uncleared, configurationToken,
      filterId, framedIpNetmask, avp, proxyInfo⟩
  · intro kept
    exact ⟨⟨kept.avp, kept.proxyInfo⟩, kept.authRequestType, kept.replyMessage, kept.originHost,
      kept.originRealm, kept.uncleared, kept.configurationToken, kept.filterId,
      kept.framedIpNetmask⟩

theorem records_roundTrip_iff (der derPrevious : DerData) (dea deaPrevious : DeaData) :
    (DerRoundTrips der derPrevious ↔ DerKept der) ∧
      (DeaRoundTrips dea deaPrevious ↔ DeaKept dea deaPrevious) :=
  ⟨der_roundTrips_iff der derPrevious, dea_roundTrips_iff dea deaPrevious⟩

/-- The record of an earlier answer, with the result that it reported. -/
def earlierAnswer : DeaData := Function.update DeaData.new .resultCode (.of 2001)

/-- An answer without a result is read as one that reports the result of the earlier answer. -/
theorem earlierAnswer_result_stays :
    ¬DeaRoundTrips DeaData.new earlierAnswer ∧
      (DeaData.new .resultCode).avp = none ∧
      ∃ acl, RecordTable.write (fun attr => attr.shape.codec) DeaData.new deaTable.writer =
          some acl ∧
        ∃ out, deaTable.read (fun attr => attr.shape.codec) acl earlierAnswer = some out ∧
          (out .resultCode).avp = some 2001 := by
  constructor
  · intro trips
    have kept := ((dea_roundTrips_iff _ _).1 trips).uncleared .resultCode (by decide) rfl
    cases kept
  · exact ⟨rfl, [], rfl, _, rfl, rfl⟩

end OpenDiameter.DiameterEap
