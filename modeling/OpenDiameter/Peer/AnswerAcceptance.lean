import OpenDiameter.Peer.PeerMachine

/-!
The answers that `MsgIdRxMessage` takes, against the requests that are outstanding. The
hop-by-hop ids of these requests are in one table and their end-to-end ids in another.
-/

namespace OpenDiameter.Peer

/-- A table has one id of each request and no others. -/
structure IdTable (ids : List UInt32) (field : MsgId → UInt32) (requests : List MsgId) : Prop where
  once : ids.Nodup
  complete (id : UInt32) : id ∈ ids ↔ ∃ request ∈ requests, field request = id

/-- The tables of `DiameterMsgId` are those of the outstanding requests. -/
structure Outstanding (peer : Peer Io Avps) (requests : List MsgId) : Prop where
  hopIds : IdTable peer.lastTxHopId MsgId.hh requests
  endIds : IdTable peer.lastTxEndId MsgId.ee requests

/-- An answer is accepted for the request with its ids, which is the one no longer
outstanding. -/
structure AnswerTaken (peer : Peer Io Avps) (requests : List MsgId) (answer : PeerMsg Avps) :
    Prop where
  accepts : (peer.msgIdRxMessage answer).1 = true ↔ answer.id ∈ requests
  settles : (peer.msgIdRxMessage answer).1 = true →
    Outstanding (peer.msgIdRxMessage answer).2 (requests.erase answer.id)
  keeps : (peer.msgIdRxMessage answer).1 = false →
    Outstanding (peer.msgIdRxMessage answer).2 requests

/-- The hop-by-hop id is not outstanding, or the ids are those of one request and of no
other one. -/
def Distinguished (requests : List MsgId) (id : MsgId) : Prop :=
  (∀ request ∈ requests, request.hh ≠ id.hh) ∨
    id ∈ requests ∧ ∀ other ∈ requests.erase id, other.hh ≠ id.hh ∧ other.ee ≠ id.ee

/-- The requests outstanding after requests sent and answers received, each of them
distinguished, and steps that are neither. -/
inductive Exchanged {Io Avps : Type} : Peer Io Avps → List MsgId → Prop where
  | fresh (noHopId : peer.lastTxHopId = []) (noEndId : peer.lastTxEndId = []) :
      Exchanged peer []
  | sent (run : Exchanged peer requests) (id : MsgId) :
      Exchanged (peer.msgIdTxRequest id) (id :: requests)
  | answered (run : Exchanged peer requests) (isAnswer : answer.request = false)
      (distinguished : Distinguished requests answer.id) :
      Exchanged (peer.msgIdRxMessage answer).2 (requests.erase answer.id)
  | other {peer next : Peer Io Avps} (run : Exchanged peer requests)
      (sameHopIds : next.lastTxHopId = peer.lastTxHopId)
      (sameEndIds : next.lastTxEndId = peer.lastTxEndId) : Exchanged next requests

/-! One table. -/

section

variable {ids : List UInt32} {field : MsgId → UInt32} {requests : List MsgId} {id : MsgId}

namespace IdTable

theorem empty : IdTable [] field [] where
  once := List.nodup_nil
  complete _ := iff_of_false List.not_mem_nil (fun ⟨_, isIn, _⟩ => List.not_mem_nil isIn)

theorem add (table : IdTable ids field requests) (id : MsgId) :
    IdTable (Peer.addId ids (field id)) field (id :: requests) := by
  have complete (value : UInt32) :
      (∃ request ∈ id :: requests, field request = value) ↔ field id = value ∨ value ∈ ids := by
    rw [table.complete value]
    constructor
    · rintro ⟨request, isIn, same⟩
      cases isIn with
      | head => exact .inl same
      | tail _ isIn => exact .inr ⟨request, isIn, same⟩
    · rintro (same | ⟨request, isIn, same⟩)
      · exact ⟨id, List.mem_cons_self, same⟩
      · exact ⟨request, List.mem_cons_of_mem id isIn, same⟩
  rw [Peer.addId]
  split
  · rename_i known
    refine ⟨table.once, fun value => ?_⟩
    rw [complete value]
    constructor
    · exact .inr
    · rintro (same | isIn)
      · exact same ▸ known
      · exact isIn
  · rename_i unknown
    refine ⟨List.nodup_cons.2 ⟨unknown, table.once⟩, fun value => ?_⟩
    rw [complete value, List.mem_cons, eq_comm]

theorem erase (table : IdTable ids field requests)
    (alone : ∀ other ∈ requests.erase id, field other ≠ field id) :
    IdTable (ids.erase (field id)) field (requests.erase id) := by
  refine ⟨table.once.erase (field id), fun value => ?_⟩
  rw [table.once.mem_erase_iff, table.complete value]
  constructor
  · rintro ⟨differs, request, isIn, same⟩
    have isOther : request ≠ id := fun isId => differs (by rw [← same, isId])
    exact ⟨request, (List.mem_erase_of_ne isOther).2 isIn, same⟩
  · rintro ⟨request, isIn, same⟩
    exact ⟨same ▸ alone request isIn, request, List.mem_of_mem_erase isIn, same⟩

/-- An id that was removed belongs to none of the requests. -/
theorem alone (table : IdTable ids field requests)
    (erased : IdTable (ids.erase (field id)) field others) :
    ∀ other ∈ others, field other ≠ field id := fun other isIn same =>
  have kept := (erased.complete (field id)).2 ⟨other, isIn, same⟩
  (table.once.mem_erase_iff.1 kept).1 rfl

end IdTable

end

/-! What an answer does to the tables. -/

section

variable {Io Avps : Type} {peer : Peer Io Avps} {requests : List MsgId} {answer : PeerMsg Avps}

theorem msgIdRxMessage_unknown (isAnswer : answer.request = false)
    (unknown : answer.id.hh ∉ peer.lastTxHopId) : peer.msgIdRxMessage answer = (false, peer) := by
  rw [Peer.msgIdRxMessage, if_neg (Bool.eq_false_iff.1 isAnswer), if_neg unknown]

theorem msgIdRxMessage_half (isAnswer : answer.request = false)
    (hopId : answer.id.hh ∈ peer.lastTxHopId) (noEndId : answer.id.ee ∉ peer.lastTxEndId) :
    peer.msgIdRxMessage answer =
      (false, { peer with lastTxHopId := peer.lastTxHopId.erase answer.id.hh }) := by
  rw [Peer.msgIdRxMessage, if_neg (Bool.eq_false_iff.1 isAnswer), if_pos hopId, if_neg noEndId]

theorem msgIdRxMessage_known (isAnswer : answer.request = false)
    (hopId : answer.id.hh ∈ peer.lastTxHopId) (endId : answer.id.ee ∈ peer.lastTxEndId) :
    peer.msgIdRxMessage answer =
      (true, { peer with
        lastTxHopId := peer.lastTxHopId.erase answer.id.hh
        lastTxEndId := peer.lastTxEndId.erase answer.id.ee }) := by
  rw [Peer.msgIdRxMessage, if_neg (Bool.eq_false_iff.1 isAnswer), if_pos hopId, if_pos endId]

theorem Distinguished.taken (distinguished : Distinguished requests answer.id)
    (isAnswer : answer.request = false) (outstanding : Outstanding peer requests) :
    AnswerTaken peer requests answer := by
  rcases distinguished with noHopId | ⟨isIn, alone⟩
  · have unknown : answer.id.hh ∉ peer.lastTxHopId := fun known =>
      have ⟨request, isIn, same⟩ := (outstanding.hopIds.complete answer.id.hh).1 known
      noHopId request isIn same
    have result := msgIdRxMessage_unknown isAnswer unknown
    constructor
    · rw [result]
      exact iff_of_false Bool.false_ne_true (fun isIn => noHopId answer.id isIn rfl)
    · rw [result]
      exact fun accepted => nomatch accepted
    · rw [result]
      exact fun _ => outstanding
  · have hopId := (outstanding.hopIds.complete answer.id.hh).2 ⟨answer.id, isIn, rfl⟩
    have endId := (outstanding.endIds.complete answer.id.ee).2 ⟨answer.id, isIn, rfl⟩
    have result := msgIdRxMessage_known isAnswer hopId endId
    constructor
    · rw [result]
      exact iff_of_true rfl isIn
    · rw [result]
      intro _
      constructor
      · exact outstanding.hopIds.erase fun other isIn => (alone other isIn).1
      · exact outstanding.endIds.erase fun other isIn => (alone other isIn).2
    · rw [result]
      exact fun rejected => nomatch rejected

theorem AnswerTaken.distinguished (taken : AnswerTaken peer requests answer)
    (isAnswer : answer.request = false) (outstanding : Outstanding peer requests) :
    Distinguished requests answer.id := by
  by_cases hopId : answer.id.hh ∈ peer.lastTxHopId
  · by_cases endId : answer.id.ee ∈ peer.lastTxEndId
    · have result := msgIdRxMessage_known isAnswer hopId endId
      have accepted : (peer.msgIdRxMessage answer).1 = true := by rw [result]
      have settled := taken.settles accepted
      rw [result] at settled
      refine .inr ⟨taken.accepts.1 accepted, fun other isIn => ⟨?_, ?_⟩⟩
      · exact outstanding.hopIds.alone settled.hopIds other isIn
      · exact outstanding.endIds.alone settled.endIds other isIn
    · -- the answer is rejected, and yet its hop-by-hop id is gone
      have result := msgIdRxMessage_half isAnswer hopId endId
      have kept := taken.keeps (by rw [result])
      rw [result] at kept
      have ⟨request, isIn, same⟩ := (outstanding.hopIds.complete answer.id.hh).1 hopId
      have gone := @IdTable.alone _ _ _ answer.id requests outstanding.hopIds kept.hopIds
      exact absurd same (gone request isIn)
  · exact .inl fun request isIn same =>
      hopId ((outstanding.hopIds.complete answer.id.hh).2 ⟨request, isIn, same⟩)

theorem Exchanged.outstanding (run : Exchanged peer requests) : Outstanding peer requests := by
  induction run with
  | fresh noHopId noEndId => exact ⟨noHopId ▸ .empty, noEndId ▸ .empty⟩
  | sent run id induction => exact ⟨induction.hopIds.add id, induction.endIds.add id⟩
  | @answered peer requests answer run isAnswer distinguished induction =>
    have taken := distinguished.taken isAnswer induction
    cases outcome : (peer.msgIdRxMessage answer).1 with
    | true => exact taken.settles outcome
    | false =>
      have isNone : answer.id ∉ requests := fun isIn => by
        rw [taken.accepts.2 isIn] at outcome
        exact nomatch outcome
      rw [List.erase_of_not_mem isNone]
      exact taken.keeps outcome
  | other run sameHopIds sameEndIds induction =>
    exact ⟨sameHopIds ▸ induction.hopIds, sameEndIds ▸ induction.endIds⟩

/-- In every state an answer is taken as it should be exactly when it is distinguished. -/
theorem msgIdRxMessage_takes_iff (run : Exchanged peer requests)
    (isAnswer : answer.request = false) :
    AnswerTaken peer requests answer ↔ Distinguished requests answer.id :=
  ⟨fun taken => taken.distinguished isAnswer run.outstanding,
    fun distinguished => distinguished.taken isAnswer run.outstanding⟩

end

/-- An answer of a peer without AVPs. -/
def answerWith (id : MsgId) : PeerMsg Unit where
  code := .watchdog
  request := false
  id := id
  originHost := []
  resultCode := 2001
  avps := none

/-- Of two requests the second one is answered. -/
theorem second_request_answered :
    AnswerTaken (((Peer.initial : Peer Unit Unit).msgIdTxRequest ⟨1, 10⟩).msgIdTxRequest ⟨2, 20⟩)
      [⟨2, 20⟩, ⟨1, 10⟩] (answerWith ⟨2, 20⟩) :=
  (msgIdRxMessage_takes_iff (.sent (.sent (.fresh rfl rfl) ⟨1, 10⟩) ⟨2, 20⟩) rfl).2
    (.inr (by decide))

/-- An answer with the ids of two requests is accepted. One with the hop-by-hop id of a request
and an end-to-end id of none is rejected, and takes the hop-by-hop id out of its table. -/
theorem ids_of_two_requests :
    ¬AnswerTaken (((Peer.initial : Peer Unit Unit).msgIdTxRequest ⟨1, 10⟩).msgIdTxRequest ⟨2, 20⟩)
        [⟨2, 20⟩, ⟨1, 10⟩] (answerWith ⟨1, 20⟩) ∧
      ¬AnswerTaken ((Peer.initial : Peer Unit Unit).msgIdTxRequest ⟨1, 10⟩) [⟨1, 10⟩]
        (answerWith ⟨1, 30⟩) := by
  constructor
  · exact fun taken => absurd (taken.accepts.1 rfl) (by decide)
  · intro taken
    have kept := (taken.keeps rfl).hopIds.complete 1
    exact absurd (kept.2 ⟨⟨1, 10⟩, List.mem_cons_self, rfl⟩) (by decide)

end OpenDiameter.Peer
