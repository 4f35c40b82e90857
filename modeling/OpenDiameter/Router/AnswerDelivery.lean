import OpenDiameter.Router.RouterRuns

/-!
Where the answers go that the router accepts. While the ids that requests wait under are
kept apart, each goes to the source of its request.
-/

namespace OpenDiameter.Router

open OpenDiameter.Foundation OpenDiameter.Parser

variable {Peer : Type}

/-- The request of the object has come from the source of the entry, under the id that the
entry restores. -/
def Belongs (arrivals : List (Arrival Peer)) (object : Nat) (req : PendingReq Peer) : Prop :=
  ⟨object, req.source, req.origHH⟩ ∈ arrivals

/-- An entry holds the message of its request, as it is sent under the id. -/
structure Stored (arrivals : List (Arrival Peer)) (id : HopId) (req : PendingReq Peer)
    (msg : Msg) : Prop where
  hh : msg.hdr.hh = id
  positive : 0 < id
  request : msg.hdr.flags.r = true
  belongs : Belongs arrivals msg.object req

/-- The entries agree with the requests that are handed on under their ids. -/
structure Matched (router : MsgRouter Peer) (arrivals : List (Arrival Peer))
    (copies : List (Copy Peer)) : Prop where
  objects : (arrivals.map Arrival.object).Nodup
  arrived : ∀ copy ∈ copies, ∃ arrival ∈ arrivals, arrival.object = copy.object
  /-- Two nodes may have noted one local request. -/
  sameId : ∀ node other id req noted, router.pendingReq node id = some req →
    router.pendingReq other id = some noted →
    noted.source = req.source ∧ noted.origHH = req.origHH
  stored : ∀ node id req msg, router.pendingReq node id = some req →
    req.reqMessage = some msg → Stored arrivals id req msg
  copied : ∀ copy ∈ copies, ∀ node req, router.pendingReq node copy.hh = some req →
    Belongs arrivals copy.object req
  ownId : ∀ node id req, router.pendingReq node id = some req → req.source = none →
    req.origHH = id

namespace Matched

variable {router next : MsgRouter Peer} {arrivals : List (Arrival Peer)}
  {copies : List (Copy Peer)} {node : DeliveryNode} {id : HopId} {req : PendingReq Peer}

theorem initial : Matched (.initial : MsgRouter Peer) [] [] := by
  constructor <;> simp

/-- An entry is set that agrees with what is there under its id. -/
theorem setEntry (matched : Matched router arrivals copies)
    (entries : ∀ other i, next.pendingReq other i =
      if other = node ∧ i = id then some req else router.pendingReq other i)
    (agrees : ∀ other noted, router.pendingReq other id = some noted →
      noted.source = req.source ∧ noted.origHH = req.origHH)
    (carried : ∀ copy ∈ copies, copy.hh = id → Belongs arrivals copy.object req)
    (isStored : ∀ msg, req.reqMessage = some msg → Stored arrivals id req msg)
    (isOwn : req.source = none → req.origHH = id) :
    Matched next arrivals copies where
  objects := matched.objects
  arrived := matched.arrived
  sameId := by
    intro first second i entry noted found other
    rw [entries] at found other
    by_cases here : first = node ∧ i = id
    · rw [if_pos here] at found
      cases found
      by_cases there : second = node ∧ i = id
      · rw [if_pos there] at other
        cases other
        exact ⟨rfl, rfl⟩
      · rw [if_neg there, here.2] at other
        exact agrees second noted other
    · rw [if_neg here] at found
      by_cases there : second = node ∧ i = id
      · rw [if_pos there] at other
        cases other
        rw [there.2] at found
        rcases agrees first entry found with ⟨sources, ids⟩
        exact ⟨sources.symm, ids.symm⟩
      · rw [if_neg there] at other
        exact matched.sameId first second i entry noted found other
  stored := by
    intro other i entry msg found holds
    rw [entries] at found
    by_cases here : other = node ∧ i = id
    · rw [if_pos here] at found
      cases found
      rw [here.2]
      exact isStored msg holds
    · rw [if_neg here] at found
      exact matched.stored other i entry msg found holds
  copied := by
    intro copy member other entry found
    rw [entries] at found
    by_cases here : other = node ∧ copy.hh = id
    · rw [if_pos here] at found
      cases found
      exact carried copy member here.2
    · rw [if_neg here] at found
      exact matched.copied copy member other entry found
  ownId := by
    intro other i entry found isLocal
    rw [entries] at found
    by_cases here : other = node ∧ i = id
    · rw [if_pos here] at found
      cases found
      rw [here.2]
      exact isOwn isLocal
    · rw [if_neg here] at found
      exact matched.ownId other i entry found isLocal

/-- An entry is changed, but not in what it says of its request. -/
theorem change (matched : Matched router arrivals copies) {old : PendingReq Peer}
    (found : router.pendingReq node id = some old)
    (entries : ∀ other i, next.pendingReq other i =
      if other = node ∧ i = id then some req else router.pendingReq other i)
    (source : req.source = old.source) (origHH : req.origHH = old.origHH)
    (isStored : ∀ msg, req.reqMessage = some msg → Stored arrivals id old msg) :
    Matched next arrivals copies := by
  apply matched.setEntry entries
  · intro other noted isNoted
    rw [source, origHH]
    exact matched.sameId node other id old noted found isNoted
  · intro copy member isId
    rw [Belongs, source, origHH]
    rw [← isId] at found
    exact matched.copied copy member node old found
  · intro msg holds
    have old := isStored msg holds
    refine ⟨old.hh, old.positive, old.request, ?_⟩
    rw [Belongs, source, origHH]
    exact old.belongs
  · intro isLocal
    rw [origHH]
    exact matched.ownId node id old found (source ▸ isLocal)

/-- Entries are taken out. -/
theorem remove (matched : Matched router arrivals copies)
    (entries : ∀ other i entry, next.pendingReq other i = some entry →
      router.pendingReq other i = some entry) :
    Matched next arrivals copies where
  objects := matched.objects
  arrived := matched.arrived
  sameId first second i entry noted found other :=
    matched.sameId first second i entry noted (entries _ _ _ found) (entries _ _ _ other)
  stored other i entry msg found := matched.stored other i entry msg (entries _ _ _ found)
  copied copy member other entry found :=
    matched.copied copy member other entry (entries _ _ _ found)
  ownId other i entry found := matched.ownId other i entry (entries _ _ _ found)

/-- A request is handed on that all entries under its id are about. -/
theorem hand (matched : Matched router arrivals copies) {copy : Copy Peer}
    (arrived : ∃ arrival ∈ arrivals, arrival.object = copy.object)
    (belongs : ∀ other noted, router.pendingReq other copy.hh = some noted →
      Belongs arrivals copy.object noted) :
    Matched router arrivals (copy :: copies) where
  objects := matched.objects
  arrived := by
    intro other member
    rcases List.mem_cons.mp member with rfl | member
    · exact arrived
    · exact matched.arrived other member
  sameId := matched.sameId
  stored := matched.stored
  copied := by
    intro other member
    rcases List.mem_cons.mp member with rfl | member
    · exact belongs
    · exact matched.copied other member
  ownId := matched.ownId

theorem answer (matched : Matched router arrivals copies) {fewer : List (Copy Peer)}
    (rest : ∀ copy ∈ fewer, copy ∈ copies) : Matched router arrivals fewer where
  objects := matched.objects
  arrived copy member := matched.arrived copy (rest copy member)
  sameId := matched.sameId
  stored := matched.stored
  copied copy member := matched.copied copy (rest copy member)
  ownId := matched.ownId

theorem arrive (matched : Matched router arrivals copies) {arrival : Arrival Peer}
    (isNew : ∀ other ∈ arrivals, other.object ≠ arrival.object) :
    Matched router (arrival :: arrivals) copies where
  objects := by
    rw [List.map_cons, List.nodup_cons]
    constructor
    · intro member
      rcases List.mem_map.mp member with ⟨other, isOther, same⟩
      exact isNew other isOther same
    · exact matched.objects
  arrived copy member := by
    rcases matched.arrived copy member with ⟨other, isOther, same⟩
    exact ⟨other, List.mem_cons_of_mem arrival isOther, same⟩
  sameId := matched.sameId
  stored other i entry msg found holds := by
    have old := matched.stored other i entry msg found holds
    exact ⟨old.hh, old.positive, old.request, List.mem_cons_of_mem arrival old.belongs⟩
  copied copy member other entry found :=
    List.mem_cons_of_mem arrival (matched.copied copy member other entry found)
  ownId := matched.ownId

/-- What is handed on with a message that is sent. -/
theorem sent {env : Environment Peer} {dest : Option Peer} {out : Msg}
    {deliveries : List (Delivery Peer)} (matched : Matched router arrivals copies)
    (sends : Sends env (some out) dest deliveries) (request : out.hdr.flags.r = true)
    (arrived : ∃ arrival ∈ arrivals, arrival.object = out.object)
    (belongs : ∀ other noted, router.pendingReq other out.hdr.hh = some noted →
      Belongs arrivals out.object noted) :
    Matched router arrivals (deliveries.filterMap Delivery.copy ++ copies) := by
  rcases handed_of_sends sends request with nothing | ⟨peer, _, _, _, handed⟩
  · rw [nothing]
    exact matched
  · rw [handed]
    exact matched.hand arrived belongs

end Matched

section

variable {config : RouterConfig} {env : Environment Peer} {router : MsgRouter Peer}
  {source dest : Option Peer} {msg : Msg} {served : Served Peer}
  {arrivals : List (Arrival Peer)} {copies : List (Copy Peer)}

variable {node : DeliveryNode}

theorem notedReq_source_origHH
    (agrees : ∀ noted, router.pendingReq node (assignIds env router source msg).h2hIndex =
        some noted →
      noted.source = source ∧ noted.origHH = (notedMsg env router source msg).hdr.hh) :
    (notedReq config env router node source dest msg).source = source ∧
      (notedReq config env router node source dest msg).origHH =
        (notedMsg env router source msg).hdr.hh := by
  have entry : ((router.pendingReq node (assignIds env router source msg).h2hIndex).getD
        (pendingOf config env (notedMsg env router source msg) source dest)).source = source ∧
      ((router.pendingReq node (assignIds env router source msg).h2hIndex).getD
        (pendingOf config env (notedMsg env router source msg) source dest)).origHH =
          (notedMsg env router source msg).hdr.hh := by
    cases found : router.pendingReq node (assignIds env router source msg).h2hIndex with
    | none => exact ⟨rfl, rfl⟩
    | some noted => exact agrees noted found
  unfold notedReq
  dsimp only
  split
  · exact entry
  · exact entry

theorem reqMessage_notedReq {out : Msg}
    (free : ∀ noted, router.pendingReq node (assignIds env router source msg).h2hIndex =
        some noted → 0 < (assignIds env router source msg).h2hIndex)
    (holds : (notedReq config env router node source dest msg).reqMessage = some out) :
    0 < (assignIds env router source msg).h2hIndex ∧
      out = (assignIds env router source msg).outMsg := by
  unfold notedReq at holds
  by_cases positive : 0 < (assignIds env router source msg).h2hIndex
  · simp only [if_pos positive, Option.some.injEq] at holds
    exact ⟨positive, holds.symm⟩
  · simp only [if_neg positive] at holds
    cases found : router.pendingReq node (assignIds env router source msg).h2hIndex with
    | none =>
      rw [found] at holds
      cases holds
    | some noted => exact absurd (free noted found) positive

theorem outMsg_hh : (assignIds env router source msg).outMsg.hdr.hh =
    (assignIds env router source msg).h2hIndex := by
  cases source <;> rfl

theorem outMsg_object : (assignIds env router source msg).outMsg.object = msg.object := by
  cases source <;> rfl

theorem outMsg_request :
    (assignIds env router source msg).outMsg.hdr.flags = msg.hdr.flags := by
  cases source <;> rfl

theorem notedMsg_hh_local :
    (notedMsg env router none msg).hdr.hh = (assignIds env router none msg).h2hIndex := rfl

/-- A request is noted and sent under an id that no other request has. -/
theorem Matched.relays (matched : Matched router arrivals copies)
    (relays : Relays env config router node source dest msg served)
    (request : msg.hdr.flags.r = true)
    (arrived : ⟨msg.object, source, (notedMsg env router source msg).hdr.hh⟩ ∈ arrivals)
    (agrees : ∀ other noted,
      router.pendingReq other (assignIds env router source msg).h2hIndex = some noted →
      noted.source = source ∧ noted.origHH = (notedMsg env router source msg).hdr.hh)
    (positive : ∀ other noted,
      router.pendingReq other (assignIds env router source msg).h2hIndex = some noted →
      0 < (assignIds env router source msg).h2hIndex)
    (carried : ∀ copy ∈ copies, copy.hh = (assignIds env router source msg).h2hIndex →
      ⟨copy.object, source, (notedMsg env router source msg).hdr.hh⟩ ∈ arrivals) :
    Matched served.router arrivals (served.deliveries.filterMap Delivery.copy ++ copies) := by
  have entry : (notedReq config env router node source dest msg).source = source ∧
      (notedReq config env router node source dest msg).origHH =
        (notedMsg env router source msg).hdr.hh :=
    notedReq_source_origHH (agrees node)
  have entries : ∀ other i, served.router.pendingReq other i =
      if other = node ∧ i = (assignIds env router source msg).h2hIndex then
        some (notedReq config env router node source dest msg)
      else router.pendingReq other i := by
    intro other i
    rw [relays.state]
    exact pendingReq_noteRequest node other i
  have noted : Matched served.router arrivals copies := by
    apply matched.setEntry entries
    · intro other noted found
      rw [entry.1, entry.2]
      exact agrees other noted found
    · intro copy member isId
      rw [Belongs, entry.1, entry.2]
      exact carried copy member isId
    · intro out holds
      rcases reqMessage_notedReq (positive node) holds with ⟨isPositive, rfl⟩
      refine ⟨outMsg_hh, isPositive, ?_, ?_⟩
      · rw [outMsg_request]
        exact request
      · rw [Belongs, entry.1, entry.2, outMsg_object]
        exact arrived
    · intro isLocal
      rw [entry.1] at isLocal
      subst isLocal
      exact entry.2
  apply noted.sent relays.sends
  · rw [outMsg_request]
    exact request
  · exact ⟨_, arrived, outMsg_object.symm⟩
  · intro other found isFound
    rw [outMsg_hh, entries] at isFound
    rw [Belongs, outMsg_object]
    by_cases here : other = node ∧
        (assignIds env router source msg).h2hIndex = (assignIds env router source msg).h2hIndex
    · rw [if_pos here] at isFound
      cases isFound
      rw [entry.1, entry.2]
      exact arrived
    · rw [if_neg here] at isFound
      rw [(agrees other found isFound).1, (agrees other found isFound).2]
      exact arrived

end

/-- No request waits under the id, and none that was handed on carries it. -/
structure World.Fresh (world : World Peer) (id : HopId) : Prop where
  pending : ∀ node, world.router.pendingReq node id = none
  copies : ∀ copy ∈ world.copies, copy.hh ≠ id

/-- The id that a request waits under is its own, and the request is not taken for one that
the router has sent before. -/
structure KeptApart (config : RouterConfig) (env : Environment Peer) (world : World Peer)
    (source : Option Peer) (msg : Msg) : Prop where
  consumed : TakenLocally config env msg → source ≠ none → world.Fresh msg.hdr.hh
  unqueued : ∀ node action peer, Reaches config env msg node action peer →
    checks config msg node = true → isQueued world.router node msg = false
  relayed : ∀ node action peer, Passes config env world.router msg node action peer →
    Accepts config env msg action →
    world.Fresh (assignIds env world.router source msg).h2hIndex

/-- The message as it is sent once more. -/
def markedMsg (msg : Msg) : Msg :=
  { msg with hdr := { msg.hdr with flags := { msg.hdr.flags with t := true } } }

/-- A request of a peer is sent once more by the node that has sent it before, which
looks for that. -/
def SentByItsNode (config : RouterConfig) (env : Environment Peer) (node : DeliveryNode)
    (req : PendingReq Peer) (msg : Msg) : Prop :=
  req.source = none ∨
    ¬ TakenLocally config env (markedMsg msg) ∧
      ∀ other action peer, Reaches config env (markedMsg msg) other action peer →
        other = node ∧ checks config (markedMsg msg) other = true

/-- The steps that keep the requests apart. An error answer for a peer is not taken by a
local session. -/
def Apart [DecidableEq Peer] (config : RouterConfig) (env : Environment Peer)
    (world : World Peer) : Event Peer → Prop
  | .request source msg => KeptApart config env world source msg
  | .answer _ msg =>
    ∀ req, world.router.pendingReq .dcRouted msg.hdr.hh = some req → req.source ≠ none →
      msg.hdr.flags.e = true →
      env.ownsSession { msg with hdr := { msg.hdr with hh := req.origHH } } = false
  | .reTxCheck node check h2hId =>
    ∀ req msg, world.router.pendingReq node h2hId = some req →
      req.reqMessage = some msg → check.matches req = true →
      req.reTxCount < config.retxMaxCount → SentByItsNode config env node req msg

/-- The entries of a state agree with what is handed on. -/
def World.Matched (world : World Peer) : Prop :=
  Router.Matched world.router world.arrivals world.copies

section

variable {config : RouterConfig} {env : Environment Peer} {world next : World Peer}
  {source : Option Peer} {msg : Msg} {served : Served Peer}

theorem assignIds_acl (router : MsgRouter Peer) (acl : AvpContainerList) :
    (assignIds env router source { msg with acl }).h2hIndex =
      (assignIds env router source msg).h2hIndex := by
  cases source <;> rfl

theorem notedMsg_acl (router : MsgRouter Peer) (acl : AvpContainerList) :
    (notedMsg env router source { msg with acl }).hdr =
      (notedMsg env router source msg).hdr := by
  cases source <;> rfl

theorem World.Matched.request (matched : world.Matched)
    (enabled : world.Enabled (.request source msg))
    (apart : KeptApart config env world source msg)
    (taken : (world.arrives env source msg).ends
      (requestMsg config env world.router source msg) = some next) :
    next.Matched := by
  have come : Router.Matched world.router (world.arrives env source msg).arrivals
      world.copies :=
    matched.arrive enabled.2
  cases result : requestMsg config env world.router source msg with
  | error abort =>
    rw [result] at taken
    rcases requestMsg_fails abort result with rfl | rfl
    · cases taken
      exact come
    · cases taken
  | ok served =>
    rw [result] at taken
    cases taken
    cases routed_requestMsg result with
    | consumed peer dest isTaken isSource same =>
      subst isSource
      subst same
      have fresh := apart.consumed isTaken (by simp)
      have entries : ∀ other i, (world.router.add .dcLocal msg.hdr.hh
          (pendingOf config env msg (some peer) dest)).pendingReq other i =
            if other = .dcLocal ∧ i = msg.hdr.hh then
              some (pendingOf config env msg (some peer) dest)
            else world.router.pendingReq other i := by
        intro other i
        rw [MsgRouter.pendingReq_add, fresh.pending .dcLocal, Option.getD_none]
      have noted := come.setEntry entries
        (by
          intro other noted found
          rw [fresh.pending other] at found
          cases found)
        (by
          intro copy member isId
          exact absurd isId (fresh.copies copy member))
        (by
          intro out holds
          cases holds)
        (by
          intro isLocal
          cases isLocal)
      apply noted.hand ⟨_, List.mem_cons_self, rfl⟩
      intro other found isFound
      rw [entries] at isFound
      by_cases here : other = .dcLocal ∧ msg.hdr.hh = msg.hdr.hh
      · rw [if_pos here] at isFound
        cases isFound
        exact List.mem_cons_self
      · rw [if_neg here, fresh.pending other] at isFound
        cases isFound
    | quiet same quiet =>
      rw [World.Matched, same, quiet.handed]
      exact come
    | resent node action peer reaches checked resends =>
      have unqueued := apart.unqueued node action peer reaches checked
      rw [resends.queued] at unqueued
      cases unqueued
    | relayed node action peer acl passes accepts relays =>
      have fresh := apart.relayed node action peer passes accepts
      rw [← assignIds_acl world.router acl] at fresh
      apply come.relays relays enabled.1
      · rw [notedMsg_acl]
        exact List.mem_cons_self
      · intro other noted found
        rw [fresh.pending other] at found
        cases found
      · intro other noted found
        rw [fresh.pending other] at found
        cases found
      · intro copy member isId
        exact absurd isId (fresh.copies copy member)

/-- A local request that waits keeps its id. -/
theorem assignIds_waiting {router : MsgRouter Peer} {id : HopId} {acl : AvpContainerList}
    (isId : (markedMsg msg).hdr.hh = id) (positive : 0 < id) :
    (assignIds env router none { markedMsg msg with acl }).h2hIndex = id := by
  have notZero : (markedMsg msg).hdr.hh ≠ 0 := by
    rw [isId]
    intro zero
    rw [zero] at positive
    exact absurd positive (by decide)
  simp only [assignIds, if_neg notZero]
  exact isId

/-- A request that waits is sent once more. -/
theorem World.Matched.reTransmit (matched : world.Matched) {node : DeliveryNode}
    {h2hId : HopId} {req : PendingReq Peer}
    (found : world.router.pendingReq node h2hId = some req)
    (kept : ∀ msg, req.reqMessage = some msg → SentByItsNode config env node req msg)
    (taken : world.ends (Router.reTransmit config env world.router node h2hId req) =
      some next) :
    next.Matched := by
  unfold Router.reTransmit at taken
  cases holds : req.reqMessage with
  | none =>
    rw [holds] at taken
    cases taken
  | some msg =>
    rw [holds] at taken
    dsimp only at taken
    change world.ends (requestMsg config env (world.router.update node h2hId _) req.source
      (markedMsg msg)) = some next at taken
    have stored := matched.stored node h2hId req msg found holds
    have isId : (markedMsg msg).hdr.hh = h2hId := stored.hh
    generalize isRouter : world.router.update node h2hId _ = router at taken
    have entries : ∀ other i, router.pendingReq other i =
        if other = node ∧ i = h2hId then
          some { req with
            reTxCount := req.reTxCount + 1
            reTxExpireTime := env.now + config.retxInterval
            reqMessage := none }
        else world.router.pendingReq other i := by
      intro other i
      rw [← isRouter, MsgRouter.pendingReq_update, found]
      rfl
    have emptied : Router.Matched router world.arrivals world.copies := by
      apply matched.change found entries rfl rfl
      intro out isOut
      cases isOut
    have here := entries node h2hId
    rw [if_pos ⟨rfl, rfl⟩] at here
    cases result : requestMsg config env router req.source (markedMsg msg) with
    | error abort =>
      rw [result] at taken
      rcases requestMsg_fails abort result with rfl | rfl
      · cases taken
        exact emptied
      · cases taken
    | ok served =>
      rw [result] at taken
      cases taken
      cases routed_requestMsg result with
      | consumed peer dest isTaken isSource _ =>
        rcases kept msg holds with isLocal | ⟨notTaken, _⟩
        · rw [isLocal] at isSource
          cases isSource
        · exact absurd isTaken notTaken
      | quiet same quiet =>
        rw [World.Matched, same, quiet.handed]
        exact emptied
      | resent other action peer reaches checked resends =>
        have queued := resends.queued
        rw [isQueued, Bool.and_eq_true, isId] at queued
        rcases Option.isSome_iff_exists.mp queued.2 with ⟨noted, isNoted⟩
        have state := resends.state
        rw [isId] at state
        have same := emptied.sameId node other h2hId _ noted here isNoted
        have stores : ∀ another i, served.router.pendingReq another i =
            if another = other ∧ i = h2hId then
              some { noted with reqMessage := some (markedMsg msg) }
            else router.pendingReq another i := by
          intro another i
          rw [state, MsgRouter.pendingReq_storeRequestMessage, isNoted]
          rfl
        have ofNoted : Belongs world.arrivals msg.object noted := by
          rw [Belongs, same.1, same.2]
          exact stored.belongs
        have again : Router.Matched served.router world.arrivals world.copies := by
          apply emptied.change isNoted stores rfl rfl
          intro out isOut
          cases isOut
          exact ⟨isId, stored.positive, stored.request, ofNoted⟩
        apply again.sent resends.sends stored.request ⟨_, stored.belongs, rfl⟩
        intro another entry isEntry
        rw [isId] at isEntry
        have there := stores other h2hId
        rw [if_pos ⟨rfl, rfl⟩] at there
        have agrees := again.sameId other another h2hId _ entry there isEntry
        rw [Belongs, agrees.1, agrees.2]
        exact ofNoted
      | relayed other action peer acl passes accepts relays =>
        rcases kept msg holds with isLocal | ⟨_, sameNode⟩
        · rw [isLocal] at relays
          have ids : (assignIds env router none { markedMsg msg with acl }).h2hIndex =
              h2hId :=
            assignIds_waiting isId stored.positive
          have origHH := matched.ownId node h2hId req found isLocal
          have noted : (notedMsg env router none { markedMsg msg with acl }).hdr.hh =
              req.origHH := by
            rw [notedMsg_hh_local, ids, origHH]
          have belongs := stored.belongs
          rw [Belongs, isLocal] at belongs
          apply emptied.relays relays stored.request
          · rw [noted]
            exact belongs
          · intro another entry isEntry
            rw [ids] at isEntry
            have agrees := emptied.sameId node another h2hId _ entry here isEntry
            rw [noted, agrees.1, agrees.2]
            exact ⟨isLocal, rfl⟩
          · intro _ _ _
            rw [ids]
            exact stored.positive
          · intro copy member copyId
            rw [ids] at copyId
            rw [← copyId] at found
            have carried := matched.copied copy member node req found
            rw [Belongs, isLocal] at carried
            rw [noted]
            exact carried
        · rcases sameNode other action peer passes.reaches with ⟨rfl, checked⟩
          have unqueued := passes.unqueued checked
          rw [isQueued, isId, here] at unqueued
          cases unqueued

end

section

variable {env : Environment Peer} {router : MsgRouter Peer} {msg : Msg}
  {served : Served Peer}

/-- The answer with the id that the request came with. -/
def restored (msg : Msg) (origHH : HopId) : Msg :=
  { msg with hdr := { msg.hdr with hh := origHH } }

/-- The router accepts the answer: a request waits under its id. -/
def Accepted (router : MsgRouter Peer) (msg : Msg) : Prop :=
  ∃ node, router.pendingReq node msg.hdr.hh ≠ none

theorem lookup_eq_some {node : DeliveryNode} {req : PendingReq Peer}
    (found : router.pendingReq node msg.hdr.hh = some req) :
    router.lookup node msg = some (req, restored msg req.origHH,
      router.deleteQueuedMessage node msg.hdr.hh) := by
  simp [MsgRouter.lookup, found, restored]

theorem lookup_eq_none {node : DeliveryNode}
    (missing : router.pendingReq node msg.hdr.hh = none) : router.lookup node msg = none := by
  simp [MsgRouter.lookup, missing]

/-- The first node of the chain that has an entry under the id processes the answer. -/
theorem route_cases (env : Environment Peer) (nodes : List DeliveryNode) :
    ((∀ node ∈ nodes, router.pendingReq node msg.hdr.hh = none) ∧
        route env router msg nodes = .ok ⟨router, [], 0⟩) ∨
      ∃ node ∈ nodes, ∃ req, router.pendingReq node msg.hdr.hh = some req ∧
        route env router msg nodes =
          node.process env (router.deleteQueuedMessage node msg.hdr.hh) req.reqMessage
            req.source (restored msg req.origHH) := by
  induction nodes with
  | nil =>
    left
    constructor
    · intro node member
      cases member
    · rfl
  | cons node nodes induction =>
    cases found : router.pendingReq node msg.hdr.hh with
    | some req =>
      right
      refine ⟨node, List.mem_cons_self, req, found, ?_⟩
      rw [route, lookup_eq_some found]
    | none =>
      have skips : route env router msg (node :: nodes) = route env router msg nodes := by
        rw [route, lookup_eq_none found]
      rw [skips]
      rcases induction with ⟨missing, discarded⟩ | ⟨other, member, req, isReq, processed⟩
      · left
        constructor
        · intro other member
          rcases List.mem_cons.mp member with rfl | member
          · exact found
          · exact missing other member
        · exact discarded
      · exact .inr ⟨other, List.mem_cons_of_mem node member, req, isReq, processed⟩

theorem answerMsg_discarded (missing : ¬ Accepted router msg) :
    answerMsg env router msg = .ok ⟨router, [], 0⟩ := by
  rcases route_cases env [.dcLocal, .dcForward, .dcRouted] with
    ⟨_, discarded⟩ | ⟨node, _, req, found, _⟩
  · exact discarded
  · exact absurd ⟨node, by simp [found]⟩ missing

theorem answerMsg_accepted (env : Environment Peer) (accepted : Accepted router msg) :
    ∃ node req, router.pendingReq node msg.hdr.hh = some req ∧
      answerMsg env router msg =
        node.process env (router.deleteQueuedMessage node msg.hdr.hh) req.reqMessage
          req.source (restored msg req.origHH) := by
  rcases route_cases env [.dcLocal, .dcForward, .dcRouted] with
    ⟨missing, _⟩ | ⟨node, _, req, found, processed⟩
  · rcases accepted with ⟨node, present⟩
    exact absurd (missing node (by cases node <;> simp)) present
  · exact ⟨node, req, found, processed⟩

/-- An answer leaves for the source of a request, under the id of the request. -/
inductive ToSource (arrival : Arrival Peer) (msg : Msg) : Delivery Peer → Prop where
  | peer (peer : Peer) (out : Msg) : arrival.source = some peer → out.object = msg.object →
      out.hdr = { msg.hdr with hh := arrival.hh } →
      ToSource arrival msg (.transmit peer (some out))
  | session : arrival.source = none →
      ToSource arrival msg (.localAnswer (restored msg arrival.hh))
  | error : arrival.source = none →
      ToSource arrival msg (.errorAnswer (restored msg arrival.hh))

/-- The source can still take the answer. -/
def SourceThere (env : Environment Peer) (arrival : Arrival Peer) (msg : Msg) : Prop :=
  match arrival.source with
  | some peer => env.running peer = true ∧ env.isOpen peer = true
  | none => msg.hdr.flags.e = true → env.ownsSession (restored msg arrival.hh) = true

/-- What leaves the router, but for requests that are sent on, goes to the source. A redirect
indication goes to nobody: the request is sent to another host. -/
structure DeliveredTo (env : Environment Peer) (arrival : Arrival Peer) (msg : Msg)
    (result : Except (Abort Peer) (Served Peer)) : Prop where
  onlySource : ∀ served, result = .ok served → ∀ delivery ∈ served.deliveries,
    delivery.copy = none → ToSource arrival msg delivery
  delivered : msg.isRedirected = false → SourceThere env arrival msg →
    ∃ served, result = .ok served ∧ ∃ delivery ∈ served.deliveries,
      ToSource arrival msg delivery

section

variable {p : Option Msg} {arrival : Arrival Peer}

variable {answer : Msg}

theorem redirectAnswer_eq_ok (returned : RedirectAgent.answer env router answer p = .ok served) :
    served.router = router ∧ (served.deliveries = [] ∨ ∃ request peer acl,
      p = some request ∧ Sends env (some { request with acl }) (some peer) served.deliveries) := by
  unfold RedirectAgent.answer at returned
  split at returned
  · cases returned
    exact ⟨rfl, .inl rfl⟩
  · cases p with
    | none => cases returned
    | some request =>
      rcases bind_eq_ok.mp returned with ⟨⟨sent, deliveries⟩, transmitted, last⟩
      cases last
      exact ⟨rfl, .inr ⟨request, _, _, rfl, sends_of_send transmitted⟩⟩

/-- The agent sends nothing but requests. -/
theorem delivered_redirected (redirected : msg.isRedirected = true)
    (requests : ∀ request, p = some request → request.hdr.flags.r = true) :
    DeliveredTo env arrival msg (RedirectAgent.answer env router answer p) where
  onlySource := by
    intro served returned delivery member noCopy
    rcases (redirectAnswer_eq_ok returned).2 with nothing | ⟨request, peer, acl, isP, sends⟩
    · rw [nothing] at member
      cases member
    · rcases sends.eq_transmit member with ⟨_, _, rfl, _⟩
      simp [Delivery.copy, requests request isP] at noCopy
  delivered := by
    intro notRedirected
    rw [redirected] at notRedirected
    cases notRedirected

/-- An answer is sent to the peer that the request came from. -/
theorem delivered_sent {peer : Peer} {out : Msg} (isSource : arrival.source = some peer)
    (object : out.object = msg.object) (hdr : out.hdr = { msg.hdr with hh := arrival.hh }) :
    DeliveredTo env arrival msg (do
      let (sent, deliveries) ← send env (some out) (some peer)
      .ok ⟨router, deliveries, if 0 ≤ sent then 0 else -1⟩) where
  onlySource := by
    intro served returned delivery member _
    rcases bind_eq_ok.mp returned with ⟨⟨sent, deliveries⟩, transmitted, last⟩
    cases last
    rcases (sends_of_send transmitted).eq_transmit member with ⟨_, isPeer, rfl, _⟩
    cases isPeer
    exact .peer peer out isSource object hdr
  delivered := by
    intro _ there
    rw [SourceThere, isSource] at there
    rw [send_open there.1 there.2]
    exact ⟨_, rfl, _, List.mem_cons_self, .peer peer out isSource object hdr⟩

theorem delivered_locally (isLocal : arrival.source = none) :
    DeliveredTo env arrival msg
      (.ok ⟨router, localAnswered env (restored msg arrival.hh), 0⟩) where
  onlySource := by
    intro served returned delivery member _
    cases returned
    dsimp only at member
    rw [localAnswered] at member
    split at member
    · rw [errorDelivered] at member
      split at member
      · rw [List.mem_singleton.mp member]
        exact .error isLocal
      · cases member
    · rw [List.mem_singleton.mp member]
      exact .session isLocal
  delivered := by
    intro _ there
    rw [SourceThere, isLocal] at there
    refine ⟨_, rfl, ?_⟩
    by_cases error : msg.hdr.flags.e = true
    · refine ⟨_, ?_, .error isLocal⟩
      have isError : (restored msg arrival.hh).hdr.flags.e = true := error
      simp [localAnswered, isError, errorDelivered, there error]
    · refine ⟨_, ?_, .session isLocal⟩
      have noError : (restored msg arrival.hh).hdr.flags.e = false :=
        Bool.eq_false_iff.mpr error
      simp [localAnswered, noError]

variable {node : DeliveryNode}

/-- A node gives an answer to the source of the entry that it has taken out. -/
theorem delivered_process (requests : ∀ request, p = some request → request.hdr.flags.r = true)
    (unowned : node = .dcRouted → arrival.source ≠ none → msg.hdr.flags.e = true →
      env.ownsSession (restored msg arrival.hh) = false) :
    DeliveredTo env arrival msg
      (node.process env router p arrival.source (restored msg arrival.hh)) := by
  have sameKind : (restored msg arrival.hh).isRedirected = msg.isRedirected := rfl
  have throughLocal : DeliveredTo env arrival msg
      (DcLocal.process env router p arrival.source (restored msg arrival.hh)) := by
    unfold DcLocal.process
    rw [sameKind]
    by_cases redirected : msg.isRedirected = true
    · rw [if_pos redirected]
      exact delivered_redirected redirected requests
    · rw [if_neg redirected]
      cases isSource : arrival.source with
      | none => exact delivered_locally isSource
      | some peer => exact delivered_sent isSource rfl rfl
  cases node with
  | dcLocal => exact throughLocal
  | dcForward => exact throughLocal
  | dcRouted =>
    change DeliveredTo env arrival msg
      (DcRouted.process env router p arrival.source (restored msg arrival.hh))
    unfold DcRouted.process
    rw [sameKind]
    by_cases redirected : msg.isRedirected = true
    · rw [if_pos redirected]
      exact delivered_redirected redirected requests
    · rw [if_neg redirected]
      cases isSource : arrival.source with
      | none => exact delivered_locally isSource
      | some peer =>
        by_cases error : msg.hdr.flags.e = true
        · have isError : (restored msg arrival.hh).hdr.flags.e = true := error
          have notOwned := unowned rfl (by simp [isSource]) error
          simp only [isError, if_true, errorHandled, errorDelivered, notOwned,
            Bool.false_eq_true, if_false, List.nil_append]
          cases env.proxyHandlers (restored msg arrival.hh).hdr.appId with
          | none => exact delivered_sent isSource rfl rfl
          | some handler => exact delivered_sent isSource rfl rfl
        · have noError : (restored msg arrival.hh).hdr.flags.e = false :=
            Bool.eq_false_iff.mpr error
          simp only [noError, Bool.false_eq_true, if_false, List.nil_append, proxyAnswered]
          cases env.proxyHandlers (restored msg arrival.hh).hdr.appId with
          | none => exact delivered_sent isSource rfl rfl
          | some handler => exact delivered_sent isSource rfl rfl

variable {dest : Option Peer}

theorem quiet_of_sends {out : Option Msg} {deliveries : List (Delivery Peer)}
    (sends : Sends env out dest deliveries) (noRequest : ∀ sent ∈ out, sent.hdr.flags.r = false) :
    Quiet deliveries := by
  intro delivery member
  rcases sends.eq_transmit member with ⟨peer, _, rfl, _⟩
  cases out with
  | none => rfl
  | some sent => simp [Delivery.copy, noRequest sent rfl]

theorem quiet_errorDelivered (answer : Msg) : Quiet (errorDelivered env answer) := by
  rw [errorDelivered]
  split <;> simp [Quiet, Delivery.copy]

theorem quiet_localAnswered (answer : Msg) : Quiet (localAnswered env answer) := by
  rw [localAnswered]
  split
  · exact quiet_errorDelivered answer
  · simp [Quiet, Delivery.copy]

/-- An answer that is processed sends a request at most to another host. -/
theorem process_eq_ok (noRequest : answer.hdr.flags.r = false)
    (returned : node.process env router p dest answer = .ok served) :
    served.router = router ∧ (Quiet served.deliveries ∨ ∃ request peer acl,
      p = some request ∧ Sends env (some { request with acl }) (some peer) served.deliveries) := by
  have redirects : ∀ served, RedirectAgent.answer env router answer p = .ok served →
      served.router = router ∧ (Quiet served.deliveries ∨ ∃ request peer acl,
        p = some request ∧
          Sends env (some { request with acl }) (some peer) served.deliveries) := by
    intro served redirected
    rcases redirectAnswer_eq_ok redirected with ⟨same, nothing | hands⟩
    · exact ⟨same, .inl (by simp [Quiet, nothing])⟩
    · exact ⟨same, .inr hands⟩
  have throughLocal : DcLocal.process env router p dest answer = .ok served →
      served.router = router ∧ (Quiet served.deliveries ∨ ∃ request peer acl,
        p = some request ∧
          Sends env (some { request with acl }) (some peer) served.deliveries) := by
    intro processed
    unfold DcLocal.process at processed
    split at processed
    · exact redirects served processed
    · cases dest with
      | none =>
        cases processed
        exact ⟨rfl, .inl (quiet_localAnswered answer)⟩
      | some peer =>
        rcases bind_eq_ok.mp processed with ⟨⟨sent, deliveries⟩, transmitted, last⟩
        cases last
        refine ⟨rfl, .inl (quiet_of_sends (sends_of_send transmitted) ?_)⟩
        intro out isOut
        cases isOut
        exact noRequest
  cases node with
  | dcLocal => exact throughLocal returned
  | dcForward => exact throughLocal returned
  | dcRouted =>
    change DcRouted.process env router p dest answer = .ok served at returned
    unfold DcRouted.process at returned
    split at returned
    · exact redirects served returned
    · cases dest with
      | none =>
        cases returned
        exact ⟨rfl, .inl (quiet_localAnswered answer)⟩
      | some peer =>
        rcases bind_eq_ok.mp returned with ⟨⟨sent, deliveries⟩, transmitted, last⟩
        cases last
        refine ⟨rfl, .inl ?_⟩
        have quiet : Quiet deliveries := by
          apply quiet_of_sends (sends_of_send transmitted)
          intro out isOut
          split at isOut
          · rw [errorHandled] at isOut
            split at isOut
            · cases isOut
            · split at isOut <;> cases isOut <;> exact noRequest
          · cases isOut
            rw [proxyAnswered]
            split <;> exact noRequest
        intro delivery member
        rcases List.mem_append.mp member with member | member
        · split at member
          · exact quiet_errorDelivered answer delivery member
          · cases member
        · exact quiet delivery member

theorem process_fails :
    FailsOnly (Fails router) (node.process env router p dest answer) := by
  have redirects : FailsOnly (Fails router) (RedirectAgent.answer env router answer p) := by
    unfold RedirectAgent.answer
    split
    · exact .ok _
    · cases p with
      | none => exact .error (.inr rfl)
      | some request => exact .bind (send_fails router _ _) fun _ _ => .ok _
  have throughLocal : FailsOnly (Fails router) (DcLocal.process env router p dest answer) := by
    unfold DcLocal.process
    split
    · exact redirects
    · cases dest with
      | none => exact .ok _
      | some peer => exact .bind (send_fails router _ _) fun _ _ => .ok _
  cases node with
  | dcLocal => exact throughLocal
  | dcForward => exact throughLocal
  | dcRouted =>
    change FailsOnly (Fails router) (DcRouted.process env router p dest answer)
    unfold DcRouted.process
    split
    · exact redirects
    · cases dest with
      | none => exact .ok _
      | some peer => exact .bind (send_fails router _ _) fun _ _ => .ok _

end

end

section

variable {config : RouterConfig} {env : Environment Peer} {world next : World Peer}

theorem World.Matched.answered (matched : world.Matched) {copy : Copy Peer} {msg : Msg}
    [DecidableEq Peer] (enabled : world.Enabled (.answer copy msg))
    (taken : { world with copies := world.copies.erase copy }.ends
      (answerMsg env world.router msg) = some next) : next.Matched := by
  have fewer : Router.Matched world.router world.arrivals (world.copies.erase copy) :=
    matched.answer fun other member => List.mem_of_mem_erase member
  by_cases accepted : Accepted world.router msg
  · rcases answerMsg_accepted env accepted with ⟨node, req, found, processed⟩
    rw [processed] at taken
    have removed : Router.Matched (world.router.deleteQueuedMessage node msg.hdr.hh)
        world.arrivals (world.copies.erase copy) := by
      apply fewer.remove
      intro other id entry isEntry
      rw [MsgRouter.pendingReq_deleteQueuedMessage] at isEntry
      split at isEntry
      · cases isEntry
      · exact isEntry
    cases result : node.process env (world.router.deleteQueuedMessage node msg.hdr.hh)
        req.reqMessage req.source (restored msg req.origHH) with
    | error abort =>
      rw [result] at taken
      rcases process_fails abort result with rfl | rfl
      · cases taken
        exact removed
      · cases taken
    | ok served =>
      rw [result] at taken
      cases taken
      have noRequest : (restored msg req.origHH).hdr.flags.r = false := enabled.2.1
      rcases process_eq_ok noRequest result with
        ⟨same, quiet | ⟨request, peer, acl, isStored, sends⟩⟩
      · rw [World.Matched, same, quiet.handed]
        exact removed
      · have stored := matched.stored node msg.hdr.hh req request found isStored
        rw [World.Matched, same]
        apply removed.sent sends stored.request ⟨_, stored.belongs, rfl⟩
        intro other entry isEntry
        have isId : ({ request with acl } : Msg).hdr.hh = msg.hdr.hh := stored.hh
        rw [isId, MsgRouter.pendingReq_deleteQueuedMessage] at isEntry
        split at isEntry
        · cases isEntry
        · have agrees := matched.sameId node other msg.hdr.hh req entry found isEntry
          rw [Belongs, agrees.1, agrees.2]
          exact stored.belongs
  · rw [answerMsg_discarded accepted] at taken
    cases taken
    exact fewer

/-- Every step that keeps the requests apart keeps the entries matched. -/
theorem World.Matched.step [DecidableEq Peer] (matched : world.Matched) {event : Event Peer}
    (enabled : world.Enabled event) (apart : Apart config env world event)
    (taken : world.next config env event = some next) : next.Matched := by
  cases event with
  | request source msg => exact matched.request enabled apart taken
  | answer copy msg => exact matched.answered enabled taken
  | reTxCheck node check h2hId =>
    change world.ends (Router.reTxCheck config env world.router node check h2hId) = some next
      at taken
    unfold Router.reTxCheck at taken
    cases found : world.router.pendingReq node h2hId with
    | none =>
      rw [found] at taken
      cases taken
      exact matched
    | some req =>
      rw [found] at taken
      dsimp only at taken
      by_cases isMatch : check.matches req = true
      · rw [if_pos isMatch] at taken
        by_cases few : req.reTxCount < config.retxMaxCount
        · rw [if_pos few] at taken
          apply matched.reTransmit found _ taken
          intro msg holds
          exact apart req msg found holds isMatch few
        · rw [if_neg few] at taken
          cases taken
          apply Router.Matched.remove matched
          intro other id entry isEntry
          rw [MsgRouter.pendingReq_deleteQueuedMessage] at isEntry
          split at isEntry
          · cases isEntry
          · exact isEntry
      · rw [if_neg isMatch] at taken
        cases taken
        exact matched

theorem Run.matched [DecidableEq Peer] (run : Run config (Apart config) world) :
    world.Matched := by
  induction run with
  | initial => exact Router.Matched.initial
  | step _ enabled apart taken induction => exact World.Matched.step induction enabled apart taken

/-- While the requests are kept apart, every answer that is accepted goes to the source of the
request that it answers, with the id of that request. -/
theorem answer_to_its_source [DecidableEq Peer] (run : Run config (Apart config) world)
    {copy : Copy Peer} {msg : Msg} (enabled : world.Enabled (.answer copy msg))
    (apart : Apart config env world (.answer copy msg))
    (accepted : Accepted world.router msg) :
    ∃ arrival ∈ world.arrivals, arrival.object = copy.object ∧
      (∀ other ∈ world.arrivals, other.object = copy.object → other = arrival) ∧
      DeliveredTo env arrival msg (answerMsg env world.router msg) := by
  have matched := run.matched
  rcases answerMsg_accepted env accepted with ⟨node, req, found, processed⟩
  have belongs : Belongs world.arrivals copy.object req := by
    rw [enabled.2.2] at found
    exact matched.copied copy enabled.1 node req found
  refine ⟨_, belongs, rfl, ?_, ?_⟩
  · intro other member same
    exact List.inj_on_of_nodup_map matched.objects member belongs same
  · rw [processed]
    apply delivered_process
    · intro request holds
      exact (matched.stored node msg.hdr.hh req request found holds).request
    · intro isRouted fromPeer error
      rw [isRouted] at found
      exact apart req found fromPeer error

end

namespace Agent

/-- Nothing has come yet under any id. -/
theorem fresh_initial (id : HopId) : (World.initial : World Nat).Fresh id :=
  ⟨fun _ => rfl, by simp [World.initial]⟩

/-- A request that the local handler takes. -/
def forHandler (object : Nat) : Msg :=
  { request [identityAvp AvpName.destHost config.identity] with object }

def answerTo (hh : HopId) : Msg where
  object := 9
  hdr := ⟨⟨false, true, false, false⟩, 272, 4, hh, 7⟩
  acl := []

/-- The request of the peer 0 is sent to the peer 1. -/
def relayed : World Nat :=
  (World.initial.next config env (.request (some 0) byRealm)).getD .initial

/-- The local handler has a request of the peer 1. -/
def one : World Nat :=
  (World.initial.next config env (.request (some 1) (forHandler 1))).getD .initial

/-- It has also one of the peer 2. -/
def two : World Nat :=
  (one.next config env (.request (some 2) (forHandler 2))).getD .initial

theorem relayed_run : Run config (Apart config) relayed := by
  apply Run.serve .initial env (.request (some 0) byRealm) ⟨rfl, by simp [World.initial]⟩
  · exact ⟨fun _ _ => fresh_initial _, fun _ _ _ _ _ => rfl, fun _ _ _ _ _ => fresh_initial _⟩
  · rfl

theorem two_run : Run config (fun _ _ _ => True) two := by
  have first : Run config (fun _ _ _ => True) one :=
    Run.serve .initial env (.request (some 1) (forHandler 1)) ⟨rfl, by simp [World.initial]⟩
      trivial rfl
  exact first.serve env (.request (some 2) (forHandler 2)) ⟨rfl, by decide⟩ trivial rfl

end Agent

open Agent in
theorem answer_to_its_source_relayed :
    ∃ arrival ∈ relayed.arrivals, arrival.object = 0 ∧
      (∀ other ∈ relayed.arrivals, other.object = 0 → other = arrival) ∧
      DeliveredTo env arrival (answerTo 42) (answerMsg env relayed.router (answerTo 42)) := by
  have enabled : relayed.Enabled (.answer ⟨some 1, 42, 0⟩ (answerTo 42)) :=
    ⟨List.mem_cons_self, rfl, rfl⟩
  have apart : Apart config env relayed (.answer ⟨some 1, 42, 0⟩ (answerTo 42)) :=
    fun _ _ _ _ => rfl
  have accepted : Accepted relayed.router (answerTo 42) := by
    refine ⟨.dcRouted, ?_⟩
    intro missing
    cases missing
  exact answer_to_its_source relayed_run enabled apart accepted

open Agent in
/-- Two peers have sent requests under one id, and the answer to the second one goes to the
first. -/
theorem answer_to_another_source :
    Run config (fun _ _ _ => True) two ∧
      two.arrivals = [⟨2, some 2, 5⟩, ⟨1, some 1, 5⟩] ∧
      two.Enabled (.answer ⟨none, 5, 2⟩ (answerTo 5)) ∧
      Accepted two.router (answerTo 5) ∧
      ¬ DeliveredTo env ⟨2, some 2, 5⟩ (answerTo 5) (answerMsg env two.router (answerTo 5)) := by
  refine ⟨two_run, rfl, ⟨List.mem_cons_self, rfl, rfl⟩, ⟨.dcLocal, ?_⟩, ?_⟩
  · intro missing
    cases missing
  · intro delivered
    have goes := delivered.onlySource _ rfl _ List.mem_cons_self rfl
    cases goes with
    | peer _ _ isSource => cases isSource

end OpenDiameter.Router
