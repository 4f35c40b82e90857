import OpenDiameter.Parser.PayloadEncoder

namespace OpenDiameter.Parser

open Foundation

/-!
The encoder writes behind what is in the block already. A block is at most
4294967292 bytes long: its size is a 32 bit number and a multiple of four.
-/

/-- The used bytes stay in front of what is written. -/
structure Appends (before after : ByteBuffer) : Prop where
  capacity : after.capacity = before.capacity
  keeps : before.contents <+: after.contents

theorem Appends.refl (buffer : ByteBuffer) : Appends buffer buffer :=
  ⟨rfl, List.prefix_refl _⟩

theorem Appends.trans {first second third : ByteBuffer} (before : Appends first second)
    (after : Appends second third) : Appends first third :=
  ⟨after.capacity.trans before.capacity, before.keeps.trans after.keeps⟩

theorem Appends.used_le {before after : ByteBuffer} (appends : Appends before after) :
    before.used ≤ after.used := by
  have length := appends.keeps.length_le
  rwa [ByteBuffer.length_contents, ByteBuffer.length_contents] at length

theorem contents_prefix_bytes (buffer : ByteBuffer) : buffer.contents <+: buffer.bytes :=
  List.take_prefix _ _

theorem prefix_contents {buffer : ByteBuffer} {front : List UInt8}
    (inside : front <+: buffer.bytes) (short : front.length ≤ buffer.used) :
    front <+: buffer.contents :=
  List.prefix_take_iff.mpr ⟨inside, short⟩

/-- A copy behind some bytes leaves them alone. -/
theorem prefix_bytes_fill {buffer : ByteBuffer} {front data : List UInt8}
    (inside : front <+: buffer.bytes) (short : front.length ≤ buffer.used) :
    front <+: (buffer.fill data).bytes := by
  have kept := prefix_contents inside short
  have shape : (buffer.fill data).bytes = buffer.contents ++ (data.take buffer.room ++
      buffer.bytes.drop (buffer.used + (data.take buffer.room).length)) :=
    List.append_assoc _ _ _
  rw [shape]
  exact kept.trans (List.prefix_append _ _)

theorem fill_appends (buffer : ByteBuffer) (data : List UInt8) :
    Appends buffer (buffer.fill data) :=
  ⟨buffer.capacity_fill data, by rw [ByteBuffer.contents_fill]; exact List.prefix_append _ _⟩

theorem setWritePointer_eq_ok {buffer after : ByteBuffer} {position : Nat}
    (moved : setWritePointer buffer position = .ok after) :
    after.bytes = buffer.bytes ∧ after.used = position := by
  unfold setWritePointer at moved
  split at moved
  · cases moved
    exact ⟨rfl, rfl⟩
  · cases moved

theorem parseAvpHeader_eq_ok {avp : DictionaryEntry} {h : AvpHeader} {buffer after : ByteBuffer}
    (written : AvpHeaderParser.parseAppToRaw avp h buffer = .ok after) :
    h.octets.length ≤ buffer.room ∧ after = buffer.fill h.octets := by
  unfold AvpHeaderParser.parseAppToRaw at written
  split at written
  · cases written
  · split at written
    · cases written
    · rename_i fits
      cases written
      exact ⟨Nat.le_of_not_lt fits, rfl⟩

theorem le_adjustWordBoundary {length : Nat} (small : length ≤ 4294967292) :
    length ≤ adjustWordBoundary length := by
  rw [adjustWordBoundary_eq small]
  omega

theorem copyOut_eq_ok {buffer after : ByteBuffer} {data : List UInt8}
    (written : copyOut buffer data = .ok after) :
    data.length ≤ buffer.room ∧ after = buffer.fill data := by
  unfold copyOut at written
  split at written
  · cases written
  · rename_i fits
    cases written
    exact ⟨Nat.le_of_not_lt fits, rfl⟩

/-! What a value parser writes when it returns. -/

section Values

variable {context : ParserContext} {avp : DictionaryEntry} {entry : AvpContainerEntry}
  {buffer after : ByteBuffer}

theorem expect_eq_ok {types : List AvpDataType} {next : Except Failure ByteBuffer}
    (written : (entry.expect types >>= fun _ => next) = .ok after) : next = .ok after := by
  obtain ⟨_, _, rest⟩ := bind_eq_ok.mp written
  exact rest

theorem writeUtf8_eq_ok {str : List UInt8}
    (written : Utf8stringParser.write buffer str = .ok after) :
    UTF8Checker.check 0 str = true ∧ copyOut buffer str = .ok after := by
  unfold Utf8stringParser.write at written
  split at written
  · rename_i valid
    exact ⟨valid, written⟩
  · cases written

theorem writeText_eq_ok {Value : Type} {grammar : List UInt8 → Option Value}
    {str : List UInt8} (written : writeText context avp buffer grammar str = .ok after) :
    (∃ value, grammar str = some value) ∧ UTF8Checker.check 0 str = true ∧
      copyOut buffer str = .ok after := by
  unfold writeText at written
  split at written
  · rename_i value accepted
    exact ⟨⟨value, accepted⟩, writeUtf8_eq_ok written⟩
  · cases written

/-- The octets of a value that is not grouped. -/
def AvpValue.encoding (context : ParserContext) : AvpValue → List UInt8
  | .octets value => value
  | .integer32 value => htonl value.toNat
  | .integer64 value => hton64 value
  | .address type value => UInt8.ofNat (type.toNat / 256) :: UInt8.ofNat type.toNat :: value
  | .uri value => context.uri.text value
  | .ipFilterRule value => context.ipFilterRule.text value
  | .grouped _ => []

variable {writeGroup : DiameterDictionary → AvpContainerList → ByteBuffer →
  Except Failure ByteBuffer}

theorem writeOctets_eq_ok {types : List AvpDataType}
    (written : OctetstringParser.parseAppToRaw entry buffer types = .ok after) :
    copyOut buffer (entry.data.encoding context) = .ok after := by
  have rest := expect_eq_ok written
  cases data : entry.data with
  | octets value =>
    rw [data] at rest
    exact rest
  | _ =>
    rw [data] at rest
    cases rest

theorem writeInteger32_eq_ok
    (written : Integer32Parser.parseAppToRaw entry buffer = .ok after) :
    copyOut buffer (entry.data.encoding context) = .ok after := by
  have rest := expect_eq_ok written
  cases data : entry.data with
  | integer32 value =>
    rw [data] at rest
    exact rest
  | _ =>
    rw [data] at rest
    cases rest

theorem writeInteger64_eq_ok
    (written : Integer64Parser.parseAppToRaw entry buffer = .ok after) :
    copyOut buffer (entry.data.encoding context) = .ok after := by
  have rest := expect_eq_ok written
  cases data : entry.data with
  | integer64 value =>
    rw [data] at rest
    exact rest
  | _ =>
    rw [data] at rest
    cases rest

theorem writeUtf8string_eq_ok
    (written : Utf8stringParser.parseAppToRaw entry buffer = .ok after) :
    copyOut buffer (entry.data.encoding context) = .ok after := by
  have rest := expect_eq_ok written
  cases data : entry.data with
  | octets value =>
    rw [data] at rest
    exact (writeUtf8_eq_ok rest).2
  | _ =>
    rw [data] at rest
    cases rest

theorem writeDiamident_eq_ok
    (written : DiamidentParser.parseAppToRaw context avp entry buffer = .ok after) :
    copyOut buffer (entry.data.encoding context) = .ok after := by
  have rest := expect_eq_ok written
  cases data : entry.data with
  | octets value =>
    rw [data] at rest
    exact (writeText_eq_ok rest).2.2
  | _ =>
    rw [data] at rest
    cases rest

theorem writeDiamuri_eq_ok
    (written : DiamuriParser.parseAppToRaw context entry buffer = .ok after) :
    copyOut buffer (entry.data.encoding context) = .ok after := by
  have rest := expect_eq_ok written
  cases data : entry.data with
  | uri value =>
    rw [data] at rest
    exact (writeUtf8_eq_ok rest).2
  | _ =>
    rw [data] at rest
    cases rest

theorem writeIPFilterRule_eq_ok
    (written : IPFilterRuleParser.parseAppToRaw context avp entry buffer = .ok after) :
    copyOut buffer (entry.data.encoding context) = .ok after := by
  have rest := expect_eq_ok written
  cases data : entry.data with
  | ipFilterRule value =>
    rw [data] at rest
    exact (writeText_eq_ok rest).2.2
  | _ =>
    rw [data] at rest
    cases rest

theorem writeAddress_eq_ok
    (written : AddressParser.parseAppToRaw entry buffer = .ok after) :
    copyOut buffer (entry.data.encoding context) = .ok after := by
  have rest := expect_eq_ok written
  cases data : entry.data with
  | address type value =>
    rw [data] at rest
    exact rest
  | _ =>
    rw [data] at rest
    cases rest

/-- A value that is not grouped is copied as its octets. -/
theorem writeValue_eq_ok (plain : avp.avpType ≠ .grouped)
    (written : AvpValueParser.parseAppToRaw context avp entry buffer writeGroup = .ok after) :
    copyOut buffer (entry.data.encoding context) = .ok after := by
  unfold AvpValueParser.parseAppToRaw at written
  cases type : avp.avpType with
  | data | string =>
    rw [type] at written
    exact writeOctets_eq_ok written
  | integer32 | uinteger32 | enum | time =>
    rw [type] at written
    exact writeInteger32_eq_ok written
  | integer64 | uinteger64 =>
    rw [type] at written
    exact writeInteger64_eq_ok written
  | utf8String =>
    rw [type] at written
    exact writeUtf8string_eq_ok written
  | diamId =>
    rw [type] at written
    exact writeDiamident_eq_ok written
  | diamUri =>
    rw [type] at written
    exact writeDiamuri_eq_ok written
  | ipFilterRule =>
    rw [type] at written
    exact writeIPFilterRule_eq_ok written
  | address =>
    rw [type] at written
    exact writeAddress_eq_ok written
  | grouped => exact absurd type plain

/-- A grouped value is a container list, and is written by the rule of its group. -/
theorem writeGrouped_eq_ok (grouped : avp.avpType = .grouped)
    (written : AvpValueParser.parseAppToRaw context avp entry buffer writeGroup = .ok after) :
    ∃ acl gavp, entry = ⟨.grouped, .grouped acl⟩ ∧
      context.dictionary.searchGrouped avp.avpCode avp.vendorId = some gavp ∧
      writeGroup gavp acl buffer = .ok after := by
  rw [AvpValueParser.parseAppToRaw, grouped] at written
  obtain ⟨_, expected, rest⟩ := bind_eq_ok.mp written
  have type : entry.dataType = .grouped := by
    unfold AvpContainerEntry.expect at expected
    split at expected
    · rename_i inside
      exact List.mem_singleton.mp inside
    · cases expected
  cases entry with
  | mk dataType data =>
    cases type
    cases data with
    | grouped acl =>
      dsimp only at rest
      split at rest
      · cases rest
      · rename_i gavp found
        exact ⟨acl, gavp, rfl, found, rest⟩
    | _ => cases rest

/-- How the writer of a rule gets past one AVP: without a container of its name,
or through the entries of the first one. -/
theorem writeMember_eq_ok {acl : AvpContainerList} {member : RuleAvp}
    (written : writeMember context writeGroup acl member buffer = .ok after) :
    (acl.search member.avp.avpName = none ∧ after = buffer ∧
        (member.min = 0 ∨ member.max = 0 ∨ member.parseType = .optional)) ∨
      ∃ c, acl.search member.avp.avpName = some c ∧ member.min ≤ c.entries.length ∧
        c.entries.length ≤ member.max ∧
        AvpParser.parseAppToRaw context writeGroup member.avp c.entries buffer = .ok after := by
  unfold writeMember at written
  cases found : acl.search member.avp.avpName with
  | none =>
    rw [found] at written
    dsimp only at written
    split at written
    · cases written
    · rename_i absent
      cases written
      refine .inl ⟨rfl, rfl, ?_⟩
      by_cases optional : member.parseType = .optional
      · exact .inr (.inr optional)
      · simp only [ne_eq, optional, not_false_eq_true, and_true] at absent
        omega
  | some c =>
    rw [found] at written
    dsimp only at written
    split at written
    · cases written
    · split at written
      · cases written
      · split at written
        · cases written
        · exact .inr ⟨c, rfl, by omega, by omega, written⟩

end Values

section Groups

variable {context : ParserContext}
  {writeGroup : DiameterDictionary → AvpContainerList → ByteBuffer → Except Failure ByteBuffer}

/-- The limit on the size of a block. -/
def BlockSized (buffer : ByteBuffer) : Prop := buffer.capacity ≤ 4294967292

theorem Appends.blockSized {before after : ByteBuffer} (appends : Appends before after)
    (sized : BlockSized before) : BlockSized after := by
  unfold BlockSized at sized ⊢
  rwa [appends.capacity]

theorem BlockSized.used_le {buffer : ByteBuffer} (sized : BlockSized buffer) :
    buffer.used ≤ 4294967292 :=
  Nat.le_trans buffer.used_le_capacity sized

/-- Everything that the writer of groups returns is an extension of what it was given. -/
def GroupsAppend (writeGroup : DiameterDictionary → AvpContainerList → ByteBuffer →
    Except Failure ByteBuffer) : Prop :=
  ∀ gavp acl buffer after, BlockSized buffer → writeGroup gavp acl buffer = .ok after →
    Appends buffer after

variable (groups : GroupsAppend writeGroup) {avp : DictionaryEntry} {entry : AvpContainerEntry}
  {buffer after : ByteBuffer}

include groups

theorem writeValue_appends (sized : BlockSized buffer)
    (written : AvpValueParser.parseAppToRaw context avp entry buffer writeGroup = .ok after) :
    Appends buffer after := by
  by_cases grouped : avp.avpType = .grouped
  · obtain ⟨acl, gavp, _, _, rest⟩ := writeGrouped_eq_ok grouped written
    exact groups gavp acl buffer after sized rest
  · obtain ⟨_, rfl⟩ := copyOut_eq_ok (writeValue_eq_ok grouped written)
    exact fill_appends buffer _

theorem writeAny_appends (sized : BlockSized buffer)
    (written : AvpParser.writeAny context writeGroup avp entry buffer = .ok after) :
    Appends buffer after := by
  obtain ⟨middle, value, rest⟩ := bind_eq_ok.mp written
  have first := writeValue_appends groups sized value
  dsimp only at rest
  split at rest
  · obtain ⟨bytes, used⟩ := setWritePointer_eq_ok rest
    have forwards := le_adjustWordBoundary (first.blockSized sized).used_le
    constructor
    · rw [ByteBuffer.capacity, bytes]
      exact first.capacity
    · apply prefix_contents
      · rw [bytes]
        exact first.keeps.trans (contents_prefix_bytes middle)
      · rw [used, ByteBuffer.length_contents]
        exact Nat.le_trans first.used_le forwards
  · cases rest

theorem writeAvp_appends (sized : BlockSized buffer)
    (written : AvpParser.writeAvp context writeGroup avp entry buffer = .ok after) :
    Appends buffer after := by
  obtain ⟨headed, header, written⟩ := bind_eq_ok.mp written
  obtain ⟨valued, value, written⟩ := bind_eq_ok.mp written
  obtain ⟨rewound, rewind, written⟩ := bind_eq_ok.mp written
  obtain ⟨complete, again, written⟩ := bind_eq_ok.mp written
  obtain ⟨_, rfl⟩ := parseAvpHeader_eq_ok header
  have first := fill_appends buffer (avp.header 0).octets
  have second := first.trans (writeValue_appends groups (first.blockSized sized) value)
  obtain ⟨rewoundBytes, rewoundUsed⟩ := setWritePointer_eq_ok rewind
  obtain ⟨_, rfl⟩ := parseAvpHeader_eq_ok again
  obtain ⟨afterBytes, afterUsed⟩ := setWritePointer_eq_ok written
  have forwards := le_adjustWordBoundary (second.blockSized sized).used_le
  have grown := second.used_le
  -- The length field holds no more than what was written since the start of the AVP.
  have back : buffer.used ≤ rewound.used := by
    have most : (valued.used - buffer.used) % 16777216 ≤ valued.used - buffer.used :=
      Nat.mod_le _ _
    rw [rewoundUsed]
    change buffer.used ≤ valued.used - (valued.used - buffer.used) % 16777216
    omega
  have kept : buffer.contents <+: rewound.bytes := by
    rw [rewoundBytes]
    exact second.keeps.trans (contents_prefix_bytes valued)
  constructor
  · rw [ByteBuffer.capacity, afterBytes]
    change (rewound.fill _).capacity = _
    rw [ByteBuffer.capacity_fill, ByteBuffer.capacity, rewoundBytes]
    exact second.capacity
  · apply prefix_contents
    · rw [afterBytes]
      exact prefix_bytes_fill kept (by rwa [ByteBuffer.length_contents])
    · rw [afterUsed, ByteBuffer.length_contents]
      exact Nat.le_trans grown forwards

theorem writeEntry_appends (sized : BlockSized buffer)
    (written : AvpParser.writeEntry context writeGroup avp entry buffer = .ok after) :
    Appends buffer after := by
  unfold AvpParser.writeEntry at written
  split at written
  · exact writeAny_appends groups sized written
  · exact writeAvp_appends groups sized written

theorem writeEntries_appends {entries : List AvpContainerEntry} (sized : BlockSized buffer)
    (written : AvpParser.parseAppToRaw context writeGroup avp entries buffer = .ok after) :
    Appends buffer after := by
  induction entries generalizing buffer with
  | nil =>
    cases written
    exact Appends.refl _
  | cons entry entries induction =>
    obtain ⟨middle, one, rest⟩ := bind_eq_ok.mp written
    have first := writeEntry_appends groups sized one
    exact first.trans (induction (first.blockSized sized) rest)

theorem writeMember_appends {acl : AvpContainerList} {member : RuleAvp}
    (sized : BlockSized buffer)
    (written : writeMember context writeGroup acl member buffer = .ok after) :
    Appends buffer after := by
  rcases writeMember_eq_ok written with ⟨_, rfl, _⟩ | ⟨c, _, _, _, entries⟩
  · exact Appends.refl _
  · exact writeEntries_appends groups sized entries

theorem parseAppToRawWithDict_appends {acl : AvpContainerList} {members : List RuleAvp}
    (sized : BlockSized buffer)
    (written : parseAppToRawWithDict context writeGroup acl members buffer = .ok after) :
    Appends buffer after := by
  induction members generalizing buffer with
  | nil =>
    cases written
    exact Appends.refl _
  | cons member members induction =>
    obtain ⟨middle, one, rest⟩ := bind_eq_ok.mp written
    have first := writeMember_appends groups sized one
    exact first.trans (induction (first.blockSized sized) rest)

end Groups

/-- The encoder writes behind the used bytes, at every depth. -/
theorem encoder_appends (context : ParserContext) (depth : Nat) :
    GroupsAppend (QualifiedAvpListParser.parseAppToRaw context depth) := by
  induction depth with
  | zero =>
    intro gavp acl buffer after _ written
    cases written
  | succ depth induction =>
    intro gavp acl buffer after sized written
    exact parseAppToRawWithDict_appends induction sized written

end OpenDiameter.Parser
