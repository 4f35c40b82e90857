import OpenDiameter.Foundation.BlockReads
import OpenDiameter.Foundation.BlockWrites

/-!
`eap_tls_parser.hxx` and `eap_tls_fsm.cxx`: how a packet of EAP-TLS is read, and what the
authenticator and the peer make of a fragment. The handshake behind `tls_handshake_recv` is a
parameter.
-/

namespace OpenDiameter.Eap

open OpenDiameter.Foundation
open BlockReading

/-- `TLS_START` -/
def tlsStart (flags : UInt8) : Bool := (flags &&& 0x20) >>> 5 != 0

/-- `TLS_MORE_FRAGMENTS` -/
def tlsMoreFragments (flags : UInt8) : Bool := (flags &&& 0x40) >>> 6 != 0

/-- `TLS_LENGTH_INCLUDED` -/
def tlsLengthIncluded (flags : UInt8) : Bool := (flags &&& 0x80) >>> 7 != 0

/-- `EapRequestTls`, which a response is too. -/
structure EapRequestTls where
  flags : UInt8
  tlsMessageLength : Nat
  /-- The null pointer where there is none. -/
  data : Option (List UInt8)
  isAck : Bool := false

/-- `ACE_INT16` -/
def int16 (value : Nat) : Int := if value < 32768 then value else value - 65536

/-- The data behind the flags, where so many octets are left of the packet. The number has no sign,
and is a large one where the subtraction leads below zero. -/
def EapRequestTlsParser.copyData (flags : UInt8) (tlsMessageLength : Nat) (lengthData : Int) :
    BlockReading EapRequestTls := do
  if lengthData < 0 then
    stop .negative
  if lengthData = 0 then
    return {
      flags := flags
      tlsMessageLength := tlsMessageLength
      data := none
      isAck := flags == 0 }
  else
    let now ← pointers
    let data ← octetsFrom now.rd lengthData.toNat
    return { flags := flags, tlsMessageLength := tlsMessageLength, data := some data }

def EapRequestTlsParser.parseRawToApp : BlockReading EapRequestTls := do
  let lengthPacket := int16 (readShort (← octetsFrom 2 2))
  let flags ← peek
  if tlsStart flags = false then
    if lengthPacket < 6 then
      stop .thrown
  skip 1
  if tlsLengthIncluded flags = true then
    if lengthPacket < 10 then
      stop .thrown
    let tlsMessageLength ← take 4
    copyData flags (ntohl tlsMessageLength) (lengthPacket - 6 - 4)
  else
    copyData flags 0 (lengthPacket - 6)

/-- The events that the actions raise. -/
inductive TlsEvent where
  | moreFragments
  | noMoreFragments
  | invalid
  | alertReceive
  | alertSend
  deriving DecidableEq

/-- What `tls_handshake_recv` returns. -/
inductive TlsHandshake where
  | ok
  | alertReceive
  | alertSend
  deriving DecidableEq

inductive TlsFault where
  | parser (stop : ReadStop)
  | nullPointer
  deriving DecidableEq

/-- `MAX_RECORD_SIZE` -/
def maxRecordSize : Nat := 16384

/-- The record that the fragments are put together in, and whether the next one is the first. -/
structure TlsReassembly where
  dirtyIn : List UInt8 := []
  firstFragment : Bool := true
  deriving DecidableEq

namespace TlsReassembly

/-- `append_dirty_in` -/
def appendDirtyIn (data : Option (List UInt8)) (reassembly : TlsReassembly) : TlsReassembly :=
  match data with
  | none => reassembly
  | some record =>
    { reassembly with
      dirtyIn := BlockWrite.write maxRecordSize reassembly.dirtyIn (.copy record record.length) }

/-- `set_dirty_in` -/
def setDirtyIn (data : Option (List UInt8)) (reassembly : TlsReassembly) : TlsReassembly :=
  ({ reassembly with dirtyIn := [] } : TlsReassembly).appendDirtyIn data

/-- A packet that says that more fragments follow. -/
def takeFragment (response : EapRequestTls) (reassembly : TlsReassembly) :
    Except TlsFault (TlsReassembly × TlsEvent) :=
  if tlsLengthIncluded response.flags ∧ reassembly.firstFragment then
    if 0 < response.tlsMessageLength then
      .ok ({ reassembly.setDirtyIn response.data with firstFragment := false }, .moreFragments)
    else .ok (reassembly, .invalid)
  else if ¬tlsLengthIncluded response.flags ∧ ¬reassembly.firstFragment then
    match response.data with
    | none => .error .nullPointer
    | some data =>
      if 0 < data.length then .ok (reassembly.appendDirtyIn (some data), .moreFragments)
      else .ok (reassembly, .invalid)
  else .ok (reassembly, .invalid)

/-- A packet that is the last fragment, or the only one. -/
def takeLast (response : EapRequestTls) (reassembly : TlsReassembly) : TlsReassembly :=
  { (if reassembly.firstFragment then reassembly.setDirtyIn response.data
     else reassembly.appendDirtyIn response.data) with firstFragment := true }

end TlsReassembly

/-- What the actions make of a packet that has been parsed. -/
abbrev TlsVerdict := Except TlsFault (TlsReassembly × List TlsEvent)

/-- The packet is parsed inside of a try block. -/
def verifyFragments (block : ReceivedBlock) (now : BlockPointers) (reassembly : TlsReassembly)
    (last : EapRequestTls → TlsVerdict) : TlsVerdict :=
  match EapRequestTlsParser.parseRawToApp block now with
  | .error .thrown _ => .ok (reassembly, [.invalid])
  | .error stop _ => .error (.parser stop)
  | .ok response _ =>
    if tlsMoreFragments response.flags then
      (reassembly.takeFragment response).map fun (after, event) => (after, [event])
    else last response

/-- `AcVerifyPeerMoreFragments` of an authenticator, which sets the write pointer to the end. -/
def EapAuthTls.verifyPeerMoreFragments (block : ReceivedBlock) (now : BlockPointers)
    (reassembly : TlsReassembly) : TlsVerdict :=
  verifyFragments block { now with wr := block.size } reassembly fun response =>
    .ok (reassembly.takeLast response, [.noMoreFragments])

/-- `AcVerifyAuthMoreFragments` of a peer. The handshake leaves the record empty. -/
def EapPeerTls.verifyAuthMoreFragments (handshake : List UInt8 → TlsHandshake)
    (block : ReceivedBlock) (now : BlockPointers) (reassembly : TlsReassembly) : TlsVerdict :=
  verifyFragments block now reassembly fun response =>
    let whole := reassembly.takeLast response
    let after := { whole with dirtyIn := [] }
    match handshake whole.dirtyIn with
    | .alertReceive => .ok (after, [.alertReceive])
    | .alertSend => .ok (after, [.alertSend])
    | .ok => .ok (after, [.noMoreFragments])

/-- The side that takes a packet. -/
inductive TlsSide where
  | auth
  | peer (handshake : List UInt8 → TlsHandshake)

namespace TlsSide

def verify (side : TlsSide) (block : ReceivedBlock) (now : BlockPointers)
    (reassembly : TlsReassembly) : TlsVerdict :=
  match side with
  | auth => EapAuthTls.verifyPeerMoreFragments block now reassembly
  | peer handshake => EapPeerTls.verifyAuthMoreFragments handshake block now reassembly

/-- The parser stays in what was received or throws, and the action raises one event. -/
structure Handles (side : TlsSide) (block : ReceivedBlock) (now : BlockPointers)
    (reassembly : TlsReassembly) : Prop where
  inside : EapRequestTlsParser.parseRawToApp.Inside block now
  raised : ∃ after event, side.verify block now reassembly = .ok (after, [event])

end TlsSide

/-- The length field of a packet. -/
def lengthPacket (octets : List UInt8) : Int := int16 (readShort (octets.drop 2))

/-- The packet is too short for its flags, and is thrown away. -/
def TlsThrown (octets : List UInt8) : Prop :=
  (tlsStart (octets.getD 5 0) = false ∧ lengthPacket octets < 6) ∨
    (tlsLengthIncluded (octets.getD 5 0) = true ∧ lengthPacket octets < 10)

instance (octets : List UInt8) : Decidable (TlsThrown octets) :=
  inferInstanceAs (Decidable (_ ∨ _))

/-- A packet with so many octets of data from a place on. -/
def tlsWithData (octets : List UInt8) (tlsMessageLength place : Nat) (lengthData : Int) :
    EapRequestTls where
  flags := octets.getD 5 0
  tlsMessageLength := tlsMessageLength
  data := if lengthData = 0 then none else some (octetsAt octets place lengthData.toNat)
  isAck := lengthData = 0 && octets.getD 5 0 == 0

/-- The packet as it is read: behind the flags there is the length of the message, if it is
included, and the data up to the end of the packet. -/
def tlsPacket (octets : List UInt8) : EapRequestTls :=
  if tlsLengthIncluded (octets.getD 5 0) then
    tlsWithData octets (ntohl (octetsAt octets 6 4)) 10 (lengthPacket octets - 6 - 4)
  else
    tlsWithData octets 0 6 (lengthPacket octets - 6)

section Packet

variable {block : ReceivedBlock} {later : EapRequestTls → Prop} {caught : Prop}

theorem stays_copyData {now : BlockPointers} {tlsMessageLength : Nat} {lengthData : Int} :
    (EapRequestTlsParser.copyData (block.octets.getD 5 0) tlsMessageLength lengthData).Stays block
        now (fun packet _ => later packet) (fun _ => caught) ↔
      0 ≤ lengthData ∧ (lengthData = 0 ∨ now.rd + lengthData ≤ block.octets.length) ∧
        later (tlsWithData block.octets tlsMessageLength now.rd lengthData) := by
  simp only [EapRequestTlsParser.copyData, stays_bind, stays_ite, stays_stop, stays_pure,
    stays_pointers, stays_octetsFrom, reduceCtorEq, false_and]
  by_cases negative : lengthData < 0
  · simp only [negative, if_true, false_iff]
    omega
  · simp only [negative, if_false]
    by_cases empty : lengthData = 0
    · simp only [empty, if_true, true_or, true_and, Int.le_refl, tlsWithData, decide_true,
        Bool.true_and]
    · simp only [empty, if_false, false_or, tlsWithData, decide_false, Bool.false_and, ← and_assoc]
      apply and_congr_left
      intro _
      omega

theorem stays_tls {wr : Nat} :
    EapRequestTlsParser.parseRawToApp.Stays block ⟨5, wr⟩ (fun packet _ => later packet)
        (fun _ => caught) ↔
      5 < block.octets.length ∧
        if TlsThrown block.octets then caught
        else 6 ≤ lengthPacket block.octets ∧ lengthPacket block.octets ≤ block.octets.length ∧
          later (tlsPacket block.octets) := by
  have isLength : int16 (readShort (block.octets.drop 2)) = lengthPacket block.octets := rfl
  simp only [EapRequestTlsParser.parseRawToApp, stays_bind, stays_octetsFrom, stays_peek,
    stays_ite, stays_stop, stays_skip, stays_take, stays_copyData, true_and, readShort_octetsAt,
    isLength]
  have header : (2 = 0 ∨ 2 + 2 ≤ block.octets.length) ∧ 5 < block.octets.length ↔
      5 < block.octets.length := by omega
  rw [← and_assoc, header]
  apply and_congr_right
  intro hasFlags
  by_cases thrown : TlsThrown block.octets
  · rw [if_pos thrown]
    rcases thrown with ⟨notStart, short⟩ | ⟨included, short⟩
    · rw [if_pos notStart, if_pos short]
    · rw [if_pos included, if_pos short]
      split
      · split <;> rfl
      · rfl
  · have longEnough : tlsStart (block.octets.getD 5 0) = false →
        ¬lengthPacket block.octets < 6 := fun notStart short => thrown (.inl ⟨notStart, short⟩)
    rw [if_neg thrown, tlsPacket]
    by_cases included : tlsLengthIncluded (block.octets.getD 5 0) = true
    · have whole : ¬lengthPacket block.octets < 10 := fun short => thrown (.inr ⟨included, short⟩)
      have data {packet : Prop} :
          ((4 = 0 ∨ 5 + 1 + 4 ≤ block.octets.length) ∧ 0 ≤ lengthPacket block.octets - 6 - 4 ∧
            (lengthPacket block.octets - 6 - 4 = 0 ∨
              ((5 + 1 + 4 : Nat) : Int) + (lengthPacket block.octets - 6 - 4) ≤
                block.octets.length) ∧ packet) ↔
          6 ≤ lengthPacket block.octets ∧ lengthPacket block.octets ≤ block.octets.length ∧
            packet := by
        rw [← and_assoc, ← and_assoc, ← and_assoc]
        exact and_congr_left fun _ => by omega
      simp only [included, if_true, if_neg whole, data]
      split
      · rename_i notStart
        rw [if_neg (longEnough notStart)]
      · rfl
    · have data {packet : Prop} :
          (0 ≤ lengthPacket block.octets - 6 ∧
            (lengthPacket block.octets - 6 = 0 ∨
              ((5 + 1 : Nat) : Int) + (lengthPacket block.octets - 6) ≤ block.octets.length) ∧
            packet) ↔
          6 ≤ lengthPacket block.octets ∧ lengthPacket block.octets ≤ block.octets.length ∧
            packet := by
        rw [← and_assoc, ← and_assoc]
        exact and_congr_left fun _ => by omega
      simp only [Bool.eq_false_iff.2 included, Bool.false_eq_true, if_false, data]
      split
      · rename_i notStart
        rw [if_neg (longEnough notStart)]
      · rfl

end Packet

/-- The packet has its flags. Unless it is thrown away, it was received up to its length, which
leaves none of the octets before the data out, and it is no later fragment without data. -/
def TlsFits (octets : List UInt8) (reassembly : TlsReassembly) : Prop :=
  5 < octets.length ∧
    (TlsThrown octets ∨
      6 ≤ lengthPacket octets ∧ lengthPacket octets ≤ octets.length ∧
        ¬(tlsMoreFragments (octets.getD 5 0) = true ∧
          tlsLengthIncluded (octets.getD 5 0) = false ∧ reassembly.firstFragment = false ∧
          lengthPacket octets = 6))

theorem tlsPacket_flags (octets : List UInt8) : (tlsPacket octets).flags = octets.getD 5 0 := by
  unfold tlsPacket
  split <;> rfl

theorem tlsPacket_data_eq_none {octets : List UInt8}
    (notIncluded : tlsLengthIncluded (octets.getD 5 0) = false) :
    (tlsPacket octets).data = none ↔ lengthPacket octets = 6 := by
  have empty : (tlsPacket octets).data =
      if lengthPacket octets - 6 = 0 then none
      else some (octetsAt octets 6 (lengthPacket octets - 6).toNat) := by
    rw [tlsPacket, notIncluded]
    rfl
  rw [empty]
  split
  · simp only [true_iff]
    omega
  · simp only [reduceCtorEq, false_iff]
    omega

/-- The data that is not there is used for a later fragment. -/
def LacksData (reassembly : TlsReassembly) (response : EapRequestTls) : Prop :=
  tlsLengthIncluded response.flags = false ∧ reassembly.firstFragment = false ∧
    response.data = none

theorem lacksData_tlsPacket {octets : List UInt8} {reassembly : TlsReassembly} :
    LacksData reassembly (tlsPacket octets) ↔
      tlsLengthIncluded (octets.getD 5 0) = false ∧ reassembly.firstFragment = false ∧
        lengthPacket octets = 6 := by
  rw [LacksData, tlsPacket_flags]
  apply and_congr_right
  intro notIncluded
  rw [tlsPacket_data_eq_none notIncluded]

theorem takeFragment_ok_iff (reassembly : TlsReassembly) (response : EapRequestTls) :
    (∃ after event, reassembly.takeFragment response = .ok (after, event)) ↔
      ¬LacksData reassembly response := by
  unfold TlsReassembly.takeFragment LacksData
  cases included : tlsLengthIncluded response.flags with
  | true =>
    refine iff_of_true ?_ fun lacks => Bool.noConfusion lacks.1
    cases reassembly.firstFragment with
    | true =>
      simp only [and_self, if_true]
      split
      · exact ⟨_, _, rfl⟩
      · exact ⟨_, _, rfl⟩
    | false => exact ⟨_, _, rfl⟩
  | false =>
    cases first : reassembly.firstFragment with
    | true => exact iff_of_true ⟨_, _, rfl⟩ fun lacks => Bool.noConfusion lacks.2.1
    | false =>
      cases response.data with
      | none =>
        exact iff_of_false (fun ⟨_, _, returned⟩ => nomatch returned)
          (not_not_intro ⟨rfl, rfl, rfl⟩)
      | some data =>
        refine iff_of_true ?_ fun lacks => nomatch lacks.2.2
        simp only [Bool.false_eq_true, if_false, not_false_eq_true, and_self, if_true]
        split
        · exact ⟨_, _, rfl⟩
        · exact ⟨_, _, rfl⟩

section Verdicts

variable {block : ReceivedBlock} {now : BlockPointers} {reassembly : TlsReassembly}

/-- One event is raised where the packet is read or thrown away, and no later fragment lacks its
data. -/
theorem verifyFragments_raises_iff {last : EapRequestTls → TlsVerdict}
    (returns : ∀ response, ∃ after event, last response = .ok (after, [event])) :
    (∃ after event, verifyFragments block now reassembly last = .ok (after, [event])) ↔
      EapRequestTlsParser.parseRawToApp.Stays block now
        (fun response _ => ¬(tlsMoreFragments response.flags = true ∧
          LacksData reassembly response))
        fun _ => True := by
  unfold verifyFragments Stays
  cases EapRequestTlsParser.parseRawToApp block now with
  | error stop after =>
    cases stop with
    | thrown => exact iff_of_true ⟨_, _, rfl⟩ ⟨rfl, trivial⟩
    | _ =>
      exact iff_of_false (fun ⟨_, _, returned⟩ => nomatch returned) fun stays => nomatch stays.1
  | ok response after =>
    simp only
    by_cases more : tlsMoreFragments response.flags = true
    · simp only [more, if_true, true_and, ← takeFragment_ok_iff]
      cases reassembly.takeFragment response with
      | error fault =>
        exact iff_of_false (fun ⟨_, _, returned⟩ => nomatch returned)
          fun ⟨_, _, returned⟩ => nomatch returned
      | ok outcome => exact iff_of_true ⟨_, _, rfl⟩ ⟨_, _, rfl⟩
    · rw [if_neg more]
      exact iff_of_true (returns response) fun lacks => more lacks.1

namespace TlsSide

theorem raises_iff (side : TlsSide) {wr : Nat} :
    (∃ after event, side.verify block ⟨5, wr⟩ reassembly = .ok (after, [event])) ↔
      TlsFits block.octets reassembly := by
  have parsed (now : BlockPointers) (atFlags : now.rd = 5) :
      EapRequestTlsParser.parseRawToApp.Stays block now
        (fun response _ => ¬(tlsMoreFragments response.flags = true ∧
          LacksData reassembly response)) (fun _ => True) ↔
        TlsFits block.octets reassembly := by
    obtain ⟨rd, wr⟩ := now
    subst atFlags
    rw [stays_tls, TlsFits, tlsPacket_flags, lacksData_tlsPacket]
    apply and_congr_right
    intro _
    split
    · rename_i thrown
      exact iff_of_true trivial (.inl thrown)
    · rename_i notThrown
      exact (or_iff_right notThrown).symm
  cases side with
  | auth =>
    rw [← parsed ⟨5, block.size⟩ rfl]
    exact verifyFragments_raises_iff fun response => ⟨_, _, rfl⟩
  | peer handshake =>
    rw [← parsed ⟨5, wr⟩ rfl]
    apply verifyFragments_raises_iff
    intro response
    cases returned : handshake (reassembly.takeLast response).dirtyIn <;>
      simp only [returned] <;> exact ⟨_, _, rfl⟩

/-- A packet is read inside of what was received, and raises one event, where it fits. -/
theorem handles_iff_fits (side : TlsSide) (block : ReceivedBlock) (wr : Nat)
    (reassembly : TlsReassembly) :
    side.Handles block ⟨5, wr⟩ reassembly ↔ TlsFits block.octets reassembly := by
  constructor
  · intro handles
    exact side.raises_iff.1 handles.raised
  · intro fits
    refine ⟨?_, side.raises_iff.2 fits⟩
    rw [Inside, stays_tls]
    refine ⟨fits.1, ?_⟩
    split
    · trivial
    · rename_i notThrown
      have whole := fits.2.resolve_left notThrown
      exact ⟨whole.1, whole.2.1, trivial⟩

/-- A start whose length is too short for its flags, a packet of which less was received, and a
second fragment without data, which comes after a first one that is taken. -/
theorem emptyFragment_unhandled :
    ¬auth.Handles ⟨[2, 7, 0, 5, 13, 0x20], 6, Nat.le_refl 6⟩ ⟨5, 6⟩ {} ∧
    ¬auth.Handles ⟨[2, 7, 0, 7, 13, 0], 6, Nat.le_refl 6⟩ ⟨5, 6⟩ {} ∧
    auth.verify ⟨[2, 7, 0, 11, 13, 0xC0, 0, 0, 0, 2, 0xAA], 11, Nat.le_refl 11⟩ ⟨5, 11⟩ {} =
      .ok (⟨[0xAA], false⟩, [.moreFragments]) ∧
    auth.verify ⟨[2, 8, 0, 6, 13, 0x40], 6, Nat.le_refl 6⟩ ⟨5, 6⟩ ⟨[0xAA], false⟩ =
      .error .nullPointer ∧
    ¬auth.Handles ⟨[2, 8, 0, 6, 13, 0x40], 6, Nat.le_refl 6⟩ ⟨5, 6⟩ ⟨[0xAA], false⟩ := by
  refine ⟨?_, ?_, ?_, ?_, ?_⟩
  · intro handles
    exact absurd (auth.raises_iff.1 handles.raised) (by unfold TlsFits TlsThrown; decide)
  · intro handles
    exact absurd (auth.raises_iff.1 handles.raised) (by unfold TlsFits TlsThrown; decide)
  · decide +kernel
  · rfl
  · intro handles
    exact absurd (auth.raises_iff.1 handles.raised) (by unfold TlsFits TlsThrown; decide)

end TlsSide

end Verdicts

/-! A message in fragments. -/

namespace TlsReassembly

def payload (response : EapRequestTls) : List UInt8 := response.data.getD []

/-- Packets before the last one. -/
def takeFragments (reassembly : TlsReassembly) (responses : List EapRequestTls) :
    Except TlsFault TlsReassembly :=
  responses.foldlM (fun reassembly response => (reassembly.takeFragment response).map Prod.fst)
    reassembly

section

variable {reassembly : TlsReassembly} {first last : EapRequestTls} {later : List EapRequestTls}

theorem appendDirtyIn_eq {response : EapRequestTls}
    (room : (reassembly.dirtyIn ++ payload response).length ≤ maxRecordSize) :
    reassembly.appendDirtyIn response.data =
      { reassembly with dirtyIn := reassembly.dirtyIn ++ payload response } := by
  unfold payload at *
  cases isData : response.data with
  | none => rw [Option.getD_none, List.append_nil]; rfl
  | some data =>
    rw [isData, Option.getD_some, List.length_append] at room
    have whole : (BlockWrite.copy data data.length).octets = data := firstOctets_of_length rfl
    rw [appendDirtyIn, BlockWrite.write_eq (by rwa [whole]), whole]
    rfl

theorem takeFragments_later (notFirst : reassembly.firstFragment = false)
    (each : ∀ response ∈ later, tlsLengthIncluded response.flags = false ∧ payload response ≠ [])
    (room : (reassembly.dirtyIn ++ later.flatMap payload).length ≤ maxRecordSize) :
    reassembly.takeFragments later =
      .ok { reassembly with dirtyIn := reassembly.dirtyIn ++ later.flatMap payload } := by
  induction later generalizing reassembly with
  | nil => rw [List.flatMap_nil, List.append_nil]; rfl
  | cons response later induction =>
    obtain ⟨⟨notIncluded, nonempty⟩, each⟩ := List.forall_mem_cons.1 each
    rw [List.flatMap_cons, ← List.append_assoc] at room ⊢
    have fits := room
    rw [List.length_append] at fits
    have appended := appendDirtyIn_eq (Nat.le_trans (Nat.le_add_right _ _) fits)
    have taken : reassembly.takeFragment response =
        .ok (reassembly.appendDirtyIn response.data, .moreFragments) := by
      unfold payload at nonempty
      cases isData : response.data with
      | none => exact absurd (by rw [isData]; rfl) nonempty
      | some data =>
        rw [isData] at nonempty
        rw [takeFragment, notIncluded, notFirst, if_neg (by decide), if_pos (by decide), isData]
        exact if_pos (List.length_pos_iff.2 nonempty)
    rw [takeFragments, List.foldlM_cons, taken, appended]
    let next := { reassembly with dirtyIn := reassembly.dirtyIn ++ payload response }
    exact @induction next notFirst each room

/-- The fragments of a message that fits the record are put together to it, whatever the record
held before. -/
theorem fragments_reassembled (isFirst : reassembly.firstFragment = true)
    (included : tlsLengthIncluded first.flags = true) (announced : 0 < first.tlsMessageLength)
    (each : ∀ response ∈ later, tlsLengthIncluded response.flags = false ∧ payload response ≠ [])
    (room : ((first :: later ++ [last]).flatMap payload).length ≤ maxRecordSize) :
    (reassembly.takeFragments (first :: later)).map (takeLast last) =
      .ok ⟨(first :: later ++ [last]).flatMap payload, true⟩ := by
  have parted : (first :: later ++ [last]).flatMap payload =
      (payload first ++ later.flatMap payload) ++ payload last := by
    rw [List.flatMap_append, List.flatMap_cons, List.flatMap_singleton]
  rw [parted] at room ⊢
  have fits := room
  rw [List.length_append] at fits
  have begins := Nat.le_trans (Nat.le_add_right _ _) fits
  have begun : reassembly.takeFragment first = .ok (⟨payload first, false⟩, .moreFragments) := by
    rw [takeFragment, if_pos ⟨included, isFirst⟩, if_pos announced, setDirtyIn,
      appendDirtyIn_eq (Nat.le_trans (List.sublist_append_left _ _).length_le begins)]
    rfl
  have collected := @takeFragments_later ⟨payload first, false⟩ later rfl each begins
  rw [takeFragments, List.foldlM_cons, begun]
  refine (congrArg (Except.map (takeLast last)) collected).trans ?_
  show Except.ok { appendDirtyIn last.data _ with firstFragment := true } = _
  rw [appendDirtyIn_eq room]

theorem fragments_reassembled_three :
    (takeFragments ⟨[9], true⟩ [⟨0xC0, 3, some [1], false⟩, ⟨0x40, 0, some [2], false⟩]).map
        (takeLast ⟨0, 0, some [3], false⟩) = .ok ⟨[1, 2, 3], true⟩ :=
  fragments_reassembled rfl (by decide) (by decide) (by decide) (by decide)

end

end TlsReassembly

end OpenDiameter.Eap
