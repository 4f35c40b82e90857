import OpenDiameter.Router.Retransmission
import OpenDiameter.Transport.RxTermination

/-!
The error answers to the requests that the router rejects, when they come and when they are
sent once more, and those to the frames that the receive collector rejects.
-/

namespace OpenDiameter.Router

open OpenDiameter.Foundation OpenDiameter.Parser

variable {Peer : Type}

/-- The grouped values of a container. -/
def groupsOf (container : AvpContainer) : List AvpContainerList :=
  container.entries.filterMap fun entry =>
    match entry.data with
    | .grouped value => some value
    | _ => none

/-- All Proxy-Info AVPs of a message in their order. -/
def proxyInfos (acl : AvpContainerList) : List AvpContainerList :=
  (acl.filter fun container => container.avpName == AvpName.proxyInfo).flatMap groupsOf

/-- The error answer is addressed like the request. -/
structure LikeRequest (original answer : Msg) : Prop where
  isError : answer.hdr.flags.r = false ∧ answer.hdr.flags.e = true
  hh : answer.hdr.hh = original.hdr.hh
  ee : answer.hdr.ee = original.hdr.ee
  code : answer.hdr.code = original.hdr.code
  p : answer.hdr.flags.p = original.hdr.flags.p
  proxyInfo : proxyInfos answer.acl = proxyInfos original.acl

/-- Where the peer is there, one error answer is sent, to the peer, and is addressed like its
request. -/
def AnsweredLike (env : Environment Peer) (peer : Peer) (original : Msg)
    (outcome : Except (Abort Peer) (Served Peer)) : Prop :=
  env.running peer = true → env.isOpen peer = true →
    ∃ router answer rcode, outcome = .ok ⟨router, [.transmit peer (some answer)], rcode⟩ ∧
      LikeRequest original answer

/-- The one Proxy-Info that an error answer has. -/
def copiedProxyInfo (host state : Octets) : AvpContainerList :=
  [identityAvp AvpName.proxyHost host, avpOf AvpName.proxyState .string (.octets state)]

/-- The first Proxy-Info of the rejected message, with its host and its state, is all that the
original has. -/
inductive ProxyInfoKept (rejected original : AvpContainerList) : Prop where
  | absent : getGrouped rejected AvpName.proxyInfo = none → proxyInfos original = [] →
      ProxyInfoKept rejected original
  | single (proxyInfo : AvpContainerList) (host state : Octets) :
      getGrouped rejected AvpName.proxyInfo = some proxyInfo →
      getOctets proxyInfo AvpName.proxyHost 0 = some host →
      getOctets proxyInfo AvpName.proxyState 0 = some state →
      proxyInfos original = [copiedProxyInfo host state] → ProxyInfoKept rejected original

/-- Why the router answers a request itself, with the code and with what it adds to the
answer. -/
inductive Rejects (config : RouterConfig) (env : Environment Peer) (router : MsgRouter Peer)
    (msg : Msg) : UInt32 → AvpContainerList → Prop where
  | undeliverable : Onward config env msg → RcRouted.lookup config env msg = .ok none →
      Rejects config env router msg ResultCode.unableToDeliver []
  | looping (node : DeliveryNode) (action : RouteAction) (peer : Peer) :
      Reaches config env msg node action peer → checks config msg node = true →
      isQueued router node msg = false → loopDetection config msg = true →
      Rejects config env router msg ResultCode.loopDetected []
  | redirected (dest : Option Peer) (route : RouteEntry) (app : Option RouteApplication)
      (avps : AvpContainerList) : Onward config env msg →
      RcRouted.lookup config env msg = .ok (some dest) →
      (getOctets msg.acl AvpName.destRealm 0).bind config.routeTable.lookup = some route →
      route.action = .actionRedirect → RedirectAgent.application route msg = some app →
      (RedirectAgent.redirectAvps route app : Except (Abort Peer) _) = .ok avps →
      Rejects config env router msg ResultCode.redirectIndication avps

section

variable {config : RouterConfig} {env : Environment Peer} {router : MsgRouter Peer}
  {source : Option Peer} {msg original : Msg} {rcode : UInt32} {avps : AvpContainerList}

theorem proxyInfos_append (left right : AvpContainerList) :
    proxyInfos (left ++ right) = proxyInfos left ++ proxyInfos right := by
  rw [proxyInfos, List.filter_append, List.flatMap_append]
  rfl

/-- What is added to an answer is no Proxy-Info. -/
theorem Rejects.avps_proxyInfos (rejects : Rejects config env router msg rcode avps) :
    proxyInfos avps = [] := by
  cases rejects with
  | undeliverable => rfl
  | looping => rfl
  | redirected dest route app _ _ _ _ _ _ made =>
    cases app with
    | none =>
      cases made
      rfl
    | some app =>
      rw [RedirectAgent.redirectAvps] at made
      by_cases empty : app.servers = []
      · rw [if_pos empty] at made
        cases made
      · rw [if_neg empty] at made
        cases made
        rfl

/-- The answer that the router makes and sends. -/
def answered (config : RouterConfig) (env : Environment Peer) (router : MsgRouter Peer)
    (source : Option Peer) (msg : Msg) (rcode : UInt32) (avps : AvpContainerList) :
    Except (Abort Peer) (Served Peer) := do
  let answer ← generate config env msg rcode
  let (sent, deliveries) ← send env (some { answer with acl := answer.acl ++ avps }) source
  .ok ⟨router, deliveries, if 0 ≤ sent then 0 else -1⟩

theorem answered_nil :
    answered config env router source msg rcode [] =
      sendErrorAnswer config env router source msg rcode := by
  simp only [answered, sendErrorAnswer, List.append_nil]

/-- A request of the local node may be handed to the error handler in place of an answer. -/
theorem Rejects.requestMsg_cases (rejects : Rejects config env router msg rcode avps)
    (source : Option Peer) :
    requestMsg config env router source msg = answered config env router source msg rcode avps ∨
      source = none ∧ ∃ result, requestMsg config env router source msg =
        .ok ⟨router, [.errorRequest msg], result⟩ := by
  cases rejects with
  | undeliverable onward none =>
    rw [requestMsg_next onward.notLocal onward.notForwarded, none, answered_nil]
    cases source with
    | none => exact .inr ⟨rfl, _, rfl⟩
    | some peer => exact .inl rfl
  | looping node action dest reaches checked unqueued loops =>
    rw [answered_nil]
    have queued : ¬ isQueued router node msg = true := by simp [unqueued]
    cases reaches with
    | forward _ notLocal found =>
      rw [requestMsg_forward notLocal found, DcForward.requestMsg.eq_def, if_neg queued,
        if_pos loops]
      cases source with
      | none => exact .inr ⟨rfl, _, rfl⟩
      | some peer => exact .inl rfl
    | routed _ route notLocal notForwarded found isRoute noLocal noRedirect =>
      have elsewhere : fromElsewhere config msg = true := by
        simpa [checks] using checked
      rw [requestMsg_routed notLocal notForwarded found,
        dcRouted_onward isRoute noLocal noRedirect, if_pos elsewhere, if_neg queued,
        if_pos loops]
      exact .inl rfl
  | redirected dest route app _ onward found isRoute redirect isApp made =>
    rw [requestMsg_routed onward.notLocal onward.notForwarded found]
    simp only [DcRouted.requestMsg, isRoute, redirect, RedirectAgent.request, isApp, made]
    exact .inl rfl

/-- Only the first Proxy-Info is copied. -/
theorem proxyInfoKept_iff {acl : AvpContainerList} {copies : List AvpContainer}
    (read : proxyInfoAnswers acl = some copies) :
    proxyInfos copies = proxyInfos original.acl ↔ ProxyInfoKept acl original.acl := by
  rw [proxyInfoAnswers] at read
  cases isFirst : getGrouped acl AvpName.proxyInfo with
  | none =>
    rw [isFirst] at read
    cases read
    constructor
    · exact fun same => .absent isFirst same.symm
    · rintro (⟨_, empty⟩ | ⟨proxyInfo, _, _, isOther, _⟩)
      · exact empty.symm
      · rw [isFirst] at isOther
        cases isOther
  | some proxyInfo =>
    rw [isFirst] at read
    obtain ⟨copy, isCopy, rfl⟩ := Option.map_eq_some_iff.mp read
    rw [proxyInfoAnswer] at isCopy
    split at isCopy
    · rename_i host state isHost isState
      cases isCopy
      change [copiedProxyInfo host state] = _ ↔ _
      constructor
      · exact fun same => .single proxyInfo host state isFirst isHost isState same.symm
      · rintro (⟨missing, _⟩ | ⟨other, otherHost, otherState, isOther, hasHost, hasState, all⟩)
        · rw [isFirst] at missing
          cases missing
        · rw [isFirst] at isOther
          cases isOther
          rw [isHost] at hasHost
          rw [isState] at hasState
          cases hasHost
          cases hasState
          exact all.symm
    · cases isCopy

theorem ProxyInfoKept.read {rejected kept : AvpContainerList}
    (holds : ProxyInfoKept rejected kept) : proxyInfoAnswers rejected ≠ none := by
  rw [proxyInfoAnswers]
  cases holds with
  | absent missing => simp [missing]
  | single proxyInfo host state found isHost isState =>
    simp [found, proxyInfoAnswer, isHost, isState]

theorem errorAnswer_proxyInfos {object : Nat} {identity realm : Octets} {answer : Msg}
    (made : msg.errorAnswer object identity realm rcode = some answer) :
    ∃ copies, proxyInfoAnswers msg.acl = some copies ∧
      proxyInfos answer.acl = proxyInfos copies := by
  rw [Msg.errorAnswer, Option.map_eq_some_iff] at made
  obtain ⟨copies, read, rfl⟩ := made
  refine ⟨copies, read, ?_⟩
  have noSession : proxyInfos ((getOctets msg.acl AvpName.sessionId 0).toList.map fun value =>
      avpOf AvpName.sessionId .utf8String (.octets value)) = [] := by
    cases getOctets msg.acl AvpName.sessionId 0 <;> rfl
  have noState : proxyInfos ((getUInt32 msg.acl AvpName.originStateId).toList.map
      (uint32Avp AvpName.originStateId)) = [] := by
    cases getUInt32 msg.acl AvpName.originStateId <;> rfl
  have noRest : proxyInfos [identityAvp AvpName.originHost identity,
      identityAvp AvpName.originRealm realm, uint32Avp AvpName.resultCode rcode,
      identityAvp AvpName.errorReportingHost identity] = [] := rfl
  dsimp only
  rw [proxyInfos_append, proxyInfos_append, proxyInfos_append, noSession, noState, noRest,
    List.nil_append, List.nil_append, List.append_nil]

/-- What a rejected message has kept of the request as it was received. -/
structure Keeps (rejected original : Msg) : Prop where
  hh : rejected.hdr.hh = original.hdr.hh
  ee : rejected.hdr.ee = original.hdr.ee
  code : rejected.hdr.code = original.hdr.code
  p : rejected.hdr.flags.p = original.hdr.flags.p
  proxyInfo : ProxyInfoKept rejected.acl original.acl

theorem likeRequest_iff {answer : Msg}
    (made : generate config env msg rcode = (.ok answer : Except (Abort Peer) Msg))
    (others : proxyInfos avps = []) :
    LikeRequest original { answer with acl := answer.acl ++ avps } ↔ Keeps msg original := by
  have isAnswer := generate_eq_ok.mp made
  have isHdr := (errorAnswer_hdr isAnswer).1
  obtain ⟨copies, read, same⟩ := errorAnswer_proxyInfos isAnswer
  have all : proxyInfos (answer.acl ++ avps) = proxyInfos copies := by
    rw [proxyInfos_append, others, List.append_nil, same]
  constructor
  · intro like
    have hh := like.hh
    have ee := like.ee
    have code := like.code
    have p := like.p
    rw [isHdr] at hh ee code p
    exact ⟨hh, ee, code, p, (proxyInfoKept_iff read).mp (all.symm.trans like.proxyInfo)⟩
  · intro keeps
    constructor
    · rw [isHdr]
      exact ⟨rfl, rfl⟩
    · rw [isHdr]
      exact keeps.hh
    · rw [isHdr]
      exact keeps.ee
    · rw [isHdr]
      exact keeps.code
    · rw [isHdr]
      exact keeps.p
    · exact all.trans ((proxyInfoKept_iff read).mpr keeps.proxyInfo)

theorem Rejects.answeredLike_iff (rejects : Rejects config env router msg rcode avps)
    (source : Option Peer) (peer : Peer) :
    AnsweredLike env peer original (requestMsg config env router source msg) ↔
      (env.running peer = true → env.isOpen peer = true →
        source = some peer ∧ Keeps msg original) := by
  constructor
  · intro answers running isOpen
    obtain ⟨next, answer, result, returned, like⟩ := answers running isOpen
    rcases rejects.requestMsg_cases source with same | ⟨_, _, same⟩
    · rw [same] at returned
      obtain ⟨made, isMade, rest⟩ := bind_eq_ok.mp returned
      obtain ⟨⟨sent, deliveries⟩, transmitted, last⟩ := bind_eq_ok.mp rest
      cases last
      obtain ⟨dest, rfl, isDest, _⟩ :=
        (sends_of_send transmitted).eq_transmit List.mem_cons_self
      cases isDest
      exact ⟨rfl, (likeRequest_iff isMade rejects.avps_proxyInfos).mp like⟩
    · rw [same] at returned
      cases returned
  · intro kept running isOpen
    obtain ⟨rfl, keeps⟩ := kept running isOpen
    rcases rejects.requestMsg_cases (some peer) with same | ⟨isLocal, _⟩
    · obtain ⟨copies, read⟩ := Option.ne_none_iff_exists'.mp keeps.proxyInfo.read
      obtain ⟨answer, made⟩ : ∃ answer,
          generate config env msg rcode = (.ok answer : Except (Abort Peer) Msg) := by
        rw [generate, Msg.errorAnswer, read]
        exact ⟨_, rfl⟩
      have sent := send_open running isOpen (some { answer with acl := answer.acl ++ avps })
      rw [same, answered, made]
      simp only [bind, Except.bind, sent]
      exact ⟨_, _, _, rfl, (likeRequest_iff made rejects.avps_proxyInfos).mpr keeps⟩
    · cases isLocal

end

/-! What the stored messages have of the requests that have come. -/

/-- The message is the request on its way. An end-to-end id of 0 may have been replaced. -/
structure Descends (original msg : Msg) : Prop where
  object : msg.object = original.object
  code : msg.hdr.code = original.hdr.code
  p : msg.hdr.flags.p = original.hdr.flags.p
  ee : msg.hdr.ee = original.hdr.ee ∨ original.hdr.ee = 0

/-- An entry holds the message. -/
def Holding (router : MsgRouter Peer) (msg : Msg) : Prop :=
  ∃ node id req, router.pendingReq node id = some req ∧ req.reqMessage = some msg

section

variable {config : RouterConfig} {env : Environment Peer} {router next : MsgRouter Peer}
  {source : Option Peer} {msg original held : Msg} {served : Served Peer}

theorem Descends.refl (msg : Msg) : Descends msg msg :=
  ⟨rfl, rfl, rfl, .inl rfl⟩

theorem Descends.outMsg (descends : Descends original msg) (router : MsgRouter Peer)
    (source : Option Peer) (acl : AvpContainerList) :
    Descends original (assignIds env router source { msg with acl }).outMsg := by
  cases source with
  | some peer => exact ⟨descends.object, descends.code, descends.p, descends.ee⟩
  | none =>
    refine ⟨descends.object, descends.code, descends.p, ?_⟩
    by_cases unset : msg.hdr.ee = 0
    · rcases descends.ee with same | zero
      · exact .inr (same.symm.trans unset)
      · exact .inr zero
    · have kept : (assignIds env router none { msg with acl }).outMsg.hdr.ee = msg.hdr.ee :=
        if_neg unset
      rw [kept]
      exact descends.ee

theorem Descends.marked (descends : Descends original msg) : Descends original (markedMsg msg) :=
  ⟨descends.object, descends.code, descends.p, descends.ee⟩

/-- What is held after a request has been routed was held before, or is that request. -/
theorem Holding.of_requestMsg
    (returned : requestMsg config env router source msg = .ok served)
    (holding : Holding served.router held) :
    Holding router held ∨ ∀ original, Descends original msg → Descends original held := by
  obtain ⟨other, id, entry, isEntry, holds⟩ := holding
  cases routed_requestMsg returned with
  | consumed peer dest taken isSource same =>
    left
    subst same
    rw [MsgRouter.pendingReq_add] at isEntry
    split at isEntry
    · cases found : router.pendingReq .dcLocal msg.hdr.hh with
      | none =>
        rw [found] at isEntry
        cases isEntry
        cases holds
      | some req =>
        rw [found] at isEntry
        cases isEntry
        exact ⟨_, _, req, found, holds⟩
    · exact ⟨_, _, entry, isEntry, holds⟩
  | quiet same =>
    left
    rw [same] at isEntry
    exact ⟨_, _, entry, isEntry, holds⟩
  | resent node action peer reaches checked resends =>
    rw [resends.state, MsgRouter.pendingReq_storeRequestMessage] at isEntry
    split at isEntry
    · right
      obtain ⟨req, _, rfl⟩ := Option.map_eq_some_iff.mp isEntry
      cases holds
      exact fun _ descends => descends
    · exact .inl ⟨_, _, entry, isEntry, holds⟩
  | relayed node action peer acl passes accepts relays =>
    rw [relays.state, pendingReq_noteRequest] at isEntry
    split at isEntry
    · cases isEntry
      rw [notedReq] at holds
      split at holds
      · right
        cases holds
        exact fun _ descends => descends.outMsg router source acl
      · left
        cases found : router.pendingReq node
            (assignIds env router source { msg with acl }).h2hIndex with
        | none =>
          rw [found] at holds
          cases holds
        | some req =>
          rw [found] at holds
          exact ⟨_, _, req, found, holds⟩
    · exact .inl ⟨_, _, entry, isEntry, holds⟩

theorem Holding.of_update {node : DeliveryNode} {id : HopId}
    {change : PendingReq Peer → PendingReq Peer}
    (empties : ∀ req, (change req).reqMessage = none)
    (holding : Holding (router.update node id change) held) : Holding router held := by
  obtain ⟨other, i, entry, isEntry, holds⟩ := holding
  rw [MsgRouter.pendingReq_update] at isEntry
  split at isEntry
  · obtain ⟨req, _, rfl⟩ := Option.map_eq_some_iff.mp isEntry
    rw [empties] at holds
    cases holds
  · exact ⟨_, _, entry, isEntry, holds⟩

theorem Holding.of_delete {node : DeliveryNode} {id : HopId}
    (holding : Holding (router.deleteQueuedMessage node id) held) : Holding router held := by
  obtain ⟨other, i, entry, isEntry, holds⟩ := holding
  rw [MsgRouter.pendingReq_deleteQueuedMessage] at isEntry
  split at isEntry
  · cases isEntry
  · exact ⟨_, _, entry, isEntry, holds⟩

end

/-- The request that comes with an event. -/
def Event.arrived : Event Peer → List (Option Peer × Msg)
  | .request source msg => [(source, msg)]
  | .answer _ _ => []
  | .reTxCheck _ _ _ => []

/-- A message that comes has an object of its own. -/
def Admits (requests : List (Option Peer × Msg)) : Event Peer → Prop
  | .request _ msg =>
    msg.hdr.flags.r = true ∧ ∀ request ∈ requests, request.2.object ≠ msg.object
  | .answer _ msg => msg.hdr.flags.r = false
  | .reTxCheck node _ _ => node ≠ .dcLocal

/-- The states of the router with the requests that have come, as they were received. -/
inductive Recorded [DecidableEq Peer] (config : RouterConfig) :
    World Peer → List (Option Peer × Msg) → Prop where
  | initial : Recorded config .initial []
  | step {world next : World Peer} {env : Environment Peer} {event : Event Peer}
      {requests : List (Option Peer × Msg)} :
      Recorded config world requests → Admits requests event →
      world.next config env event = some next →
      Recorded config next (event.arrived ++ requests)

section

variable {config : RouterConfig} {env : Environment Peer} {world next : World Peer}
  {event : Event Peer} {requests : List (Option Peer × Msg)} {router : MsgRouter Peer}
  {msg held : Msg}

theorem World.ends_router {outcome : Except (Abort Peer) (Served Peer)}
    (taken : world.ends outcome = some next) :
    (∃ served, outcome = .ok served ∧ next.router = served.router) ∨
      outcome = .error (.thrown next.router) := by
  cases outcome with
  | ok served =>
    cases taken
    exact .inl ⟨served, rfl, rfl⟩
  | error abort =>
    cases abort with
    | thrown router =>
      cases taken
      exact .inr rfl
    | crashed => cases taken

theorem Holding.of_routed {source : Option Peer}
    (taken : world.ends (requestMsg config env router source msg) = some next)
    (holding : Holding next.router held) :
    Holding router held ∨ ∀ original, Descends original msg → Descends original held := by
  rcases World.ends_router taken with ⟨served, returned, same⟩ | thrown
  · rw [same] at holding
    exact holding.of_requestMsg returned
  · rcases requestMsg_fails _ thrown with same | crashed
    · rw [Abort.thrown.inj same] at holding
      exact .inl holding
    · cases crashed

theorem Holding.of_answered (noRequest : msg.hdr.flags.r = false)
    (taken : world.ends (answerMsg env router msg) = some next) (same : world.router = router)
    (holding : Holding next.router held) : Holding router held := by
  subst same
  by_cases accepted : Accepted world.router msg
  · obtain ⟨node, req, found, processed⟩ := answerMsg_accepted env accepted
    rw [processed] at taken
    rcases World.ends_router taken with ⟨served, returned, same⟩ | thrown
    · have noAnswer : (restored msg req.origHH).hdr.flags.r = false := noRequest
      have kept := (process_eq_ok noAnswer returned).1
      rw [same, kept] at holding
      exact holding.of_delete
    · rcases process_fails _ thrown with same | crashed
      · rw [Abort.thrown.inj same] at holding
        exact holding.of_delete
      · cases crashed
  · rw [answerMsg_discarded accepted] at taken
    cases taken
    exact holding

variable [DecidableEq Peer]

/-- What is held after an event was held before, or is the request of the event. -/
theorem Holding.of_next (admits : Admits requests event)
    (taken : world.next config env event = some next) (holding : Holding next.router held) :
    (∃ stored, Holding world.router stored ∧
        ∀ original, Descends original stored → Descends original held) ∨
      ∃ request ∈ event.arrived, Descends request.2 held := by
  have stays : Holding world.router held → ∃ stored, Holding world.router stored ∧
      ∀ original, Descends original stored → Descends original held :=
    fun holding => ⟨held, holding, fun _ descends => descends⟩
  cases event with
  | request source msg =>
    rcases holding.of_routed taken with before | descends
    · exact .inl (stays before)
    · exact .inr ⟨_, List.mem_singleton_self _, descends msg (.refl msg)⟩
  | answer copy msg =>
    exact .inl (stays (holding.of_answered admits taken rfl))
  | reTxCheck node check id =>
    left
    change world.ends (Router.reTxCheck config env world.router node check id) = some next
      at taken
    unfold Router.reTxCheck at taken
    cases found : world.router.pendingReq node id with
    | none =>
      rw [found] at taken
      cases taken
      exact stays holding
    | some req =>
      rw [found] at taken
      dsimp only at taken
      split at taken
      · split at taken
        · cases holds : req.reqMessage with
          | none =>
            rw [reTransmit, holds] at taken
            cases taken
          | some stored =>
            rw [reTransmit, holds] at taken
            rcases holding.of_routed taken with before | descends
            · exact stays (before.of_update fun _ => rfl)
            · exact ⟨stored, ⟨node, id, req, found, holds⟩,
                fun original isStored => descends original isStored.marked⟩
        · cases taken
          exact stays holding.of_delete
      · cases taken
        exact stays holding

/-- Every stored message is a request that has come, on its way. -/
theorem Recorded.traced (run : Recorded config world requests)
    (holding : Holding world.router held) : ∃ request ∈ requests, Descends request.2 held := by
  induction run generalizing held with
  | initial =>
    obtain ⟨node, id, req, found, _⟩ := holding
    cases found
  | step _ admits taken induction =>
    rcases holding.of_next admits taken with ⟨stored, before, onward⟩ | ⟨request, isIn, here⟩
    · obtain ⟨request, isIn, descends⟩ := induction before
      exact ⟨request, List.mem_append_right _ isIn, onward _ descends⟩
    · exact ⟨request, List.mem_append_left _ isIn, here⟩

theorem Recorded.distinct (run : Recorded config world requests) :
    (requests.map fun request => request.2.object).Nodup := by
  induction run with
  | initial => exact .nil
  | @step _ _ _ event _ _ admits _ induction =>
    cases event with
    | request source msg =>
      refine List.nodup_cons.mpr ⟨fun isIn => ?_, induction⟩
      obtain ⟨request, isRequest, same⟩ := List.mem_map.mp isIn
      exact admits.2 request isRequest same
    | answer copy msg => exact induction
    | reTxCheck node check id => exact induction

/-- The object of a stored message tells which request it is. -/
theorem Recorded.descends (run : Recorded config world requests)
    (holding : Holding world.router held) {source : Option Peer} {original : Msg}
    (isRequest : (source, original) ∈ requests) (object : original.object = held.object) :
    Descends original held := by
  obtain ⟨request, isIn, descends⟩ := run.traced holding
  have same : (source, original) = request :=
    List.inj_on_of_nodup_map run.distinct isRequest isIn (object.trans descends.object)
  rw [← same] at descends
  exact descends

end

/-! An answer makes the router send that answer, or the request that it redirects. -/

section

variable {env : Environment Peer} {router : MsgRouter Peer} {msg out : Msg} {peer : Peer}
  {served : Served Peer}

theorem process_objects {node : DeliveryNode} {p : Option Msg} {dest : Option Peer}
    (returned : node.process env router p dest msg = .ok served)
    (sent : .transmit peer (some out) ∈ served.deliveries) :
    out.object = msg.object ∨ ∃ stored, p = some stored ∧ out.object = stored.object := by
  have redirects : RedirectAgent.answer env router msg p = .ok served →
      ∃ stored, p = some stored ∧ out.object = stored.object := by
    intro redirected
    rcases redirectAnswer_eq_ok redirected with ⟨_, nothing | ⟨stored, _, _, isStored, sends⟩⟩
    · rw [nothing] at sent
      cases sent
    · obtain ⟨_, _, isOut, _⟩ := sends.eq_transmit sent
      cases isOut
      exact ⟨stored, isStored, rfl⟩
  have unsent : ∀ {delivered : List (Delivery Peer)}, .transmit peer (some out) ∈ delivered →
      delivered = localAnswered env msg ∨ delivered = errorDelivered env msg → False := by
    intro delivered member isLocal
    have noError : .transmit peer (some out) ∉ errorDelivered env msg := by
      rw [errorDelivered]
      split <;> simp
    rcases isLocal with rfl | rfl
    · rw [localAnswered] at member
      split at member
      · exact noError member
      · simp at member
    · exact noError member
  have throughLocal : DcLocal.process env router p dest msg = .ok served →
      out.object = msg.object ∨ ∃ stored, p = some stored ∧ out.object = stored.object := by
    intro processed
    unfold DcLocal.process at processed
    split at processed
    · exact .inr (redirects processed)
    · cases dest with
      | none =>
        cases processed
        exact (unsent sent (.inl rfl)).elim
      | some dest =>
        obtain ⟨⟨result, deliveries⟩, transmitted, last⟩ := bind_eq_ok.mp processed
        cases last
        obtain ⟨_, _, isOut, _⟩ := (sends_of_send transmitted).eq_transmit sent
        cases isOut
        exact .inl rfl
  cases node with
  | dcLocal => exact throughLocal returned
  | dcForward => exact throughLocal returned
  | dcRouted =>
    change DcRouted.process env router p dest msg = .ok served at returned
    unfold DcRouted.process at returned
    split at returned
    · exact .inr (redirects returned)
    · cases dest with
      | none =>
        cases returned
        exact (unsent sent (.inl rfl)).elim
      | some dest =>
        obtain ⟨⟨result, deliveries⟩, transmitted, last⟩ := bind_eq_ok.mp returned
        cases last
        rcases List.mem_append.mp sent with delivered | sent
        · split at delivered
          · exact (unsent delivered (.inr rfl)).elim
          · cases delivered
        · obtain ⟨_, _, isOut, _⟩ := (sends_of_send transmitted).eq_transmit sent
          left
          have isHandled := (Delivery.transmit.inj isOut).2
          split at isHandled
          · rw [errorHandled] at isHandled
            split at isHandled
            · cases isHandled
            · split at isHandled <;> cases isHandled <;> rfl
          · rw [Option.some.inj isHandled, proxyAnswered]
            split <;> rfl

theorem answered_objects (returned : answerMsg env router msg = .ok served)
    (sent : .transmit peer (some out) ∈ served.deliveries) :
    out.object = msg.object ∨ ∃ stored, Holding router stored ∧ out.object = stored.object := by
  by_cases accepted : Accepted router msg
  · obtain ⟨node, req, found, processed⟩ := answerMsg_accepted env accepted
    rw [processed] at returned
    rcases process_objects returned sent with same | ⟨stored, isStored, same⟩
    · exact .inl same
    · exact .inr ⟨stored, ⟨node, _, req, found, isStored⟩, same⟩
  · rw [answerMsg_discarded accepted] at returned
    cases returned
    cases sent

end

/-! The receive collector answers a header that it rejects, whatever the header is of. -/

section

open Transport

/-- The header at the front of the buffer. -/
def frontHeader (state : MessageState) : DiameterMsgHeader :=
  .read (state.collector.buffer.bytes.take diameterHeaderSize)

/-- What a pass hands to the handler. -/
def callbacks : MessagePass → List Callback
  | .again outputs _ => outputs
  | .leave outputs _ => outputs

/-- The error answer that a pass produces is for a request. -/
def RepliesToRequests (env : Transport.Environment) (state : MessageState) : Prop :=
  ∀ answer, .sendErrorAnswer answer ∈ callbacks (messagePass env state) →
    (frontHeader state).flags.r = true

/-- A header at the front is rejected though its length is trusted. -/
structure RejectsHeader (env : Transport.Environment) (state : MessageState) : Prop where
  inner : state.inner = true
  enough : diameterHeaderSize < state.collector.buffer.used
  unknown : state.collector.msgLength = 0
  trusted : ¬ Untrusted env state
  rejected : (parseHeaderRawToApp env.dictionary .strict
    (state.collector.buffer.bytes.take diameterHeaderSize)).2 ≠ none

variable {env : Transport.Environment} {state : MessageState}

/-- An error answer is handed on when a header is rejected. -/
theorem rejected_of_sendErrorAnswer {answer : DiameterMsg}
    (sent : .sendErrorAnswer answer ∈ callbacks (messagePass env state)) :
    RejectsHeader env state := by
  have ofFacing : ∀ {before length rejected hdr},
      Facing env state before length rejected hdr → .sendErrorAnswer answer ∈ before →
      RejectsHeader env state := by
    intro before length rejected hdr facing member
    cases facing.known with
    | carried => cases member
    | parsed => cases member
    | rejected unknown parsed trusted =>
      exact ⟨facing.inner, facing.enough, unknown, trusted, by simp [parsed]⟩
  have ofAppended : ∀ {before length rejected hdr other},
      Facing env state before length rejected hdr →
      Callback.sendErrorAnswer answer ∈ before ++ [other] →
      other ≠ .sendErrorAnswer answer → RejectsHeader env state := by
    intro before length rejected hdr other facing member differs
    rcases List.mem_append.mp member with member | member
    · exact ofFacing facing member
    · exact absurd (List.mem_singleton.mp member).symm differs
  rcases messagePass_cases env state with
    ⟨outputs, next, again, advances⟩ | ⟨outputs, result, left, leaves⟩
  · rw [again] at sent
    cases advances with
    | fill => cases sent
    | idle => cases sent
    | resync => cases sent
    | grow facing => exact ofFacing facing sent
    | wait facing => exact ofFacing facing sent
    | skip facing => exact ofAppended facing sent (by simp)
    | message facing => exact ofAppended facing sent (by simp)
    | payloadError facing => exact ofAppended facing sent (by simp)
  · rw [left] at sent
    cases leaves with
    | done => cases sent
    | corrupted => simp [callbacks] at sent
    | exhausted facing => exact ofAppended facing sent (by simp)
    | bug facing => exact ofAppended facing sent (by simp)

theorem repliesToRequests_iff (env : Transport.Environment) (state : MessageState) :
    RepliesToRequests env state ↔
      (RejectsHeader env state → (frontHeader state).flags.r = true) := by
  constructor
  · intro replies rejects
    rcases parsed : parseHeaderRawToApp env.dictionary .strict
      (state.collector.buffer.bytes.take diameterHeaderSize) with ⟨hdr, _ | st⟩
    · exact absurd (by simp [parsed]) rejects.rejected
    · have known := KnownFrame.rejected rejects.unknown parsed rejects.trusted
      have pass := messagePass_of_facing ⟨rejects.inner, rejects.enough, known⟩
      apply replies (errorMsgGenerate env hdr st.code)
      rw [pass]
      cases handleFrame env (state.known hdr.length true) hdr <;> exact List.mem_cons_self
  · intro onlyRequests answer sent
    exact onlyRequests (rejected_of_sendErrorAnswer sent)

end

/-! The error answers of the router and of the collector together. -/

/-- The router rejects a request of a peer: the peer with the request as it was received, and
the rejected message with the source that the router has of it by then. -/
inductive Rejection [DecidableEq Peer] (config : RouterConfig) (env : Environment Peer)
    (router : MsgRouter Peer) (requests : List (Option Peer × Msg)) (peer : Peer) :
    Msg → Option Peer → Msg → Except (Abort Peer) (Served Peer) → Prop where
  | received {rcode : UInt32} {avps : AvpContainerList} (msg : Msg) :
      msg.hdr.flags.r = true → Rejects config env router msg rcode avps →
      Rejection config env router requests peer msg (some peer) msg
        (requestMsg config env router (some peer) msg)
  | sentAgain {rcode : UInt32} {avps : AvpContainerList} (original msg : Msg)
      (node : DeliveryNode) (check : ReTxCheck Peer) (id : HopId) (req : PendingReq Peer) :
      (some peer, original) ∈ requests → original.object = msg.object →
      node ≠ .dcLocal → router.pendingReq node id = some req → req.reqMessage = some msg →
      check.matches req = true → req.reTxCount < config.retxMaxCount →
      Rejects config env (router.update node id fun req => retried config env req none)
        (markedMsg msg) rcode avps →
      Rejection config env router requests peer original req.source (markedMsg msg)
        (reTxCheck config env router node check id)

/-- The rejected message is still addressed like the request that was received. -/
structure StillAddressed (peer : Peer) (original : Msg) (source : Option Peer)
    (rejected : Msg) : Prop where
  source : source = some peer
  /-- The id that the router has given the message is by chance the one it came with. -/
  hh : rejected.hdr.hh = original.hdr.hh
  ee : original.hdr.ee = 0 → rejected.hdr.ee = 0
  proxyInfo : ProxyInfoKept rejected.acl original.acl

section

variable [DecidableEq Peer] {config : RouterConfig} {world : World Peer}
  {requests : List (Option Peer × Msg)}

theorem Recorded.answeredLike_iff (run : Recorded config world requests)
    {env : Environment Peer} {peer : Peer} {original rejected : Msg} {source : Option Peer}
    {outcome : Except (Abort Peer) (Served Peer)}
    (rejection : Rejection config env world.router requests peer original source rejected
      outcome) :
    AnsweredLike env peer original outcome ↔
      (env.running peer = true → env.isOpen peer = true →
        StillAddressed peer original source rejected) := by
  have reduces : ∀ {source : Option Peer} {rejected : Msg}, Descends original rejected →
      (source = some peer ∧ Keeps rejected original ↔
        StillAddressed peer original source rejected) := by
    intro source rejected descends
    constructor
    · rintro ⟨isSource, keeps⟩
      exact ⟨isSource, keeps.hh, fun zero => keeps.ee.trans zero, keeps.proxyInfo⟩
    · intro still
      have ee : rejected.hdr.ee = original.hdr.ee := by
        rcases descends.ee with same | zero
        · exact same
        · rw [still.ee zero, zero]
      exact ⟨still.source, still.hh, ee, descends.code, descends.p, still.proxyInfo⟩
  cases rejection with
  | received _ _ rejects =>
    rw [rejects.answeredLike_iff, reduces (.refl _)]
  | sentAgain _ msg node check id req isRequest object _ found holds isMatch few rejects =>
    have descends := run.descends ⟨node, id, req, found, holds⟩ isRequest object
    have again : reTxCheck config env world.router node check id =
        requestMsg config env
          (world.router.update node id fun req => retried config env req none) req.source
          (markedMsg msg) := by
      rw [reTxCheck, found]
      dsimp only
      rw [if_pos isMatch, if_pos few, reTransmit, holds]
      rfl
    rw [again, rejects.answeredLike_iff, reduces descends.marked]

/-- In every state of the router a rejected request is answered under its own ids and with
all its Proxy-Infos exactly where the rejected message is still addressed like it; an answer
makes the router send nothing of its own; and the collector replies to no answer exactly
where it rejects none of which it trusts the length. -/
theorem error_answers_addressed_iff (run : Recorded config world requests) :
    (∀ {env : Environment Peer} {peer : Peer} {original rejected : Msg} {source : Option Peer}
        {outcome : Except (Abort Peer) (Served Peer)},
      Rejection config env world.router requests peer original source rejected outcome →
      (AnsweredLike env peer original outcome ↔
        (env.running peer = true → env.isOpen peer = true →
          StillAddressed peer original source rejected))) ∧
      (∀ {env : Environment Peer} {msg out : Msg} {peer : Peer} {served : Served Peer},
        answerMsg env world.router msg = .ok served →
        .transmit peer (some out) ∈ served.deliveries →
        out.object = msg.object ∨
          ∃ stored, Holding world.router stored ∧ out.object = stored.object) ∧
      ∀ (env : Transport.Environment) (state : Transport.MessageState),
        RepliesToRequests env state ↔
          (RejectsHeader env state → (frontHeader state).flags.r = true) :=
  ⟨fun rejection => run.answeredLike_iff rejection, answered_objects, repliesToRequests_iff⟩

end

namespace Agent

open Transport

/-- Both servers are lost. -/
def allLost : Environment Nat :=
  { env with isOpen := fun peer => peer == 0 }

theorem sentFirst_recorded : Recorded twoServers sentFirst [(some 0, byRealm)] := by
  have admits : Admits [] (.request (some 0) byRealm) := ⟨rfl, by simp⟩
  have taken : World.initial.next twoServers env (.request (some 0) byRealm) = some sentFirst :=
    rfl
  exact .step .initial admits taken

/-- The entry of the request under the id 42. -/
def waiting : PendingReq Nat where
  origHH := 5
  source := some 0
  dest := some 1
  reTxExpireTime := 0
  reTxCount := 0
  reqMessage := some sent

/-- There is no server for the request any more. -/
theorem sentFirst_rejection :
    Rejection twoServers allLost sentFirst.router [(some 0, byRealm)] 0 byRealm (some 0)
      (markedMsg sent)
      (reTxCheck twoServers allLost sentFirst.router .dcRouted (.peer 1) 42) := by
  have onward : Onward twoServers allLost (markedMsg sent) := ⟨rfl, rfl⟩
  have unroutable : RcRouted.lookup twoServers allLost (markedMsg sent) = .ok none := rfl
  exact .sentAgain byRealm sent .dcRouted (.peer 1) 42 waiting List.mem_cons_self rfl (by decide)
    rfl rfl rfl (by decide) (.undeliverable onward unroutable)

/-- A request for a realm without a route, with the Proxy-Infos of the proxies before. -/
def unrouted (proxyInfos : List AvpContainerList) : Msg :=
  request
    [identityAvp AvpName.destRealm [113],
      { avpName := AvpName.proxyInfo
        entries := proxyInfos.map fun proxyInfo => ⟨.grouped, .grouped proxyInfo⟩ }]

theorem unrouted_rejection (proxyInfos : List AvpContainerList) :
    Rejection twoServers env sentFirst.router [(some 0, byRealm)] 0 (unrouted proxyInfos)
      (some 0) (unrouted proxyInfos)
      (requestMsg twoServers env sentFirst.router (some 0) (unrouted proxyInfos)) :=
  .received _ rfl (.undeliverable ⟨rfl, rfl⟩ rfl)

def oneProxy : Msg :=
  unrouted [copiedProxyInfo [97] [1]]

def twoProxies : Msg :=
  unrouted [copiedProxyInfo [97] [1], copiedProxyInfo [98] [2]]

/-- An answer with a command code that the dictionary does not have. -/
def unknownAnswer : List UInt8 :=
  [1, 0, 0, 24, 0, 0, 1, 25, 0, 0, 0, 0, 0, 0, 0, 1, 0, 0, 0, 1, 0, 0, 0, 0]

/-- The answer has been received. -/
def answerReceived : MessageState where
  collector :=
    { (DiameterRxMsgCollector.create 76).registerHandler with
      buffer := (ByteBuffer.zeroed 96).fill unknownAnswer }
  data := []
  hasHeaderError := false
  inner := true

theorem answerReceived_rejects : RejectsHeader watchdogEnvironment answerReceived where
  inner := rfl
  enough := by decide
  unknown := rfl
  trusted := by
    rintro ⟨_, hdr, st, parsed, _, untrusted⟩
    cases parsed
    cases untrusted
  rejected := by decide

end Agent

open Agent in
theorem error_answer_with_proxy_info :
    AnsweredLike env 0 oneProxy (requestMsg twoServers env sentFirst.router (some 0) oneProxy) :=
  ((error_answers_addressed_iff sentFirst_recorded).1 (unrouted_rejection _)).mpr
    fun _ _ => ⟨rfl, rfl, id, .single _ [97] [1] rfl rfl rfl rfl⟩

open Agent Transport in
/-- A request that is rejected after it was sent once more is answered under the id of the
router, and of two Proxy-Infos the second one is left out. An answer with an unknown command
code is answered. -/
theorem error_answers_misaddressed :
    Rejection twoServers allLost sentFirst.router [(some 0, byRealm)] 0 byRealm (some 0)
        (markedMsg sent)
        (reTxCheck twoServers allLost sentFirst.router .dcRouted (.peer 1) 42) ∧
      ¬ AnsweredLike allLost 0 byRealm
        (reTxCheck twoServers allLost sentFirst.router .dcRouted (.peer 1) 42) ∧
      ¬ AnsweredLike env 0 twoProxies
        (requestMsg twoServers env sentFirst.router (some 0) twoProxies) ∧
      ¬ RepliesToRequests watchdogEnvironment answerReceived := by
  refine ⟨sentFirst_rejection, ?_, ?_, ?_⟩
  · intro answers
    obtain ⟨_, answer, _, returned, like⟩ := answers rfl rfl
    cases returned
    exact absurd like.hh (by decide)
  · intro answers
    obtain ⟨_, answer, _, returned, like⟩ := answers rfl rfl
    cases returned
    cases like.proxyInfo
  · intro replies
    cases (repliesToRequests_iff _ _).mp replies answerReceived_rejects
end OpenDiameter.Router
