import OpenDiameter.Peer.PeerTable
import OpenDiameter.Router.RequestCases

/-!
What comes of a request that a peer sends: it is handed to the local handler, sent on and
noted, or answered with an error. In which cases none of it happens.
-/

namespace OpenDiameter.Router

open OpenDiameter.Foundation OpenDiameter.Parser

variable {Peer : Type}

/-- The outcome of a request of a peer. A request that is sent on is noted under an id that
was free, with its source, its destination and the id that it came with. -/
inductive Settled (router : MsgRouter Peer) (source : Peer) (msg : Msg) (served : Served Peer) :
    Prop where
  | consumed : .localRequest source msg ∈ served.deliveries → Settled router source msg served
  | forwarded (node : DeliveryNode) (dest : Peer) (out : Msg) (req : PendingReq Peer) :
      .transmit dest (some out) ∈ served.deliveries → out.object = msg.object →
      out.hdr.flags.r = true → router.pendingReq node out.hdr.hh = none →
      served.router.pendingReq node out.hdr.hh = some req → req.source = some source →
      req.dest = some dest → req.origHH = msg.hdr.hh → Settled router source msg served
  | answered (answer : Msg) : AnswersError msg answer →
      .transmit source (some answer) ∈ served.deliveries → Settled router source msg served

/-- The call returns with an outcome. -/
def Settles (router : MsgRouter Peer) (source : Peer) (msg : Msg)
    (result : Except (Abort Peer) (Served Peer)) : Prop :=
  ∃ served, result = .ok served ∧ Settled router source msg served

/-- An error answer can be made, and the source can be reached. -/
structure Answerable (env : Environment Peer) (source : Peer) (msg : Msg) : Prop where
  proxyInfo : proxyInfoAnswers msg.acl ≠ none
  running : env.running source = true
  isOpen : env.isOpen source = true

section

variable {config : RouterConfig} {env : Environment Peer} {router : MsgRouter Peer}
  {source : Peer} {dest : Option Peer} {msg : Msg}

variable {peer : Peer}

theorem send_open (running : env.running peer = true) (isOpen : env.isOpen peer = true)
    (out : Option Msg) :
    send env out (some peer) = .ok (0, [.transmit peer out]) := by
  simp [send, running, isOpen]

theorem settles_dcLocal :
    Settles router source msg (DcLocal.requestMsg config env router (some source) dest msg) :=
  ⟨_, rfl, .consumed List.mem_cons_self⟩

theorem not_settled_nil {served : Served Peer} (nothing : served.deliveries = []) :
    ¬ Settled router source msg served := by
  intro settled
  cases settled with
  | consumed member =>
    rw [nothing] at member
    cases member
  | forwarded _ _ _ _ member =>
    rw [nothing] at member
    cases member
  | answered _ _ member =>
    rw [nothing] at member
    cases member

theorem errorAnswer_answerable (made : proxyInfoAnswers msg.acl ≠ none) (object : Nat)
    (identity realm : Octets) (rcode : UInt32) :
    ∃ answer, msg.errorAnswer object identity realm rcode = some answer := by
  rw [Msg.errorAnswer]
  cases isMade : proxyInfoAnswers msg.acl with
  | none => exact absurd isMade made
  | some proxyInfo => exact ⟨_, rfl⟩

theorem generate_crashed (missing : proxyInfoAnswers msg.acl = none) (rcode : UInt32) :
    (generate config env msg rcode : Except (Abort Peer) Msg) = .error .crashed := by
  simp [generate, Msg.errorAnswer, missing]

theorem proxyInfo_of_generate {rcode : UInt32} {answer : Msg}
    (made : generate config env msg rcode = (.ok answer : Except (Abort Peer) Msg)) :
    proxyInfoAnswers msg.acl ≠ none := by
  intro missing
  rw [generate_crashed missing] at made
  cases made

/-- A settled call that delivers only an error answer has reached the source. -/
theorem answerable_of_sends {served : Served Peer} {answer : Msg}
    (settled : Settled router source msg served) (answers : AnswersError msg answer)
    (made : proxyInfoAnswers msg.acl ≠ none) (sends : Sends env (some answer) (some source) served.deliveries) :
    Answerable env source msg := by
  cases settled with
  | consumed member =>
    rcases sends.eq_transmit member with ⟨_, _, same, _⟩
    cases same
  | forwarded _ _ _ _ member _ isRequest =>
    rcases sends.eq_transmit member with ⟨_, _, same, _⟩
    cases same
    have flags := congrArg (fun hdr : MsgHeader => hdr.flags.r) answers.hdr
    simp [isRequest] at flags
  | answered _ _ member =>
    rcases sends.eq_transmit member with ⟨peer, isSource, _, running, isOpen⟩
    cases isSource
    exact ⟨made, running, isOpen⟩

theorem settles_sendErrorAnswer_iff (rcode : UInt32) :
    Settles router source msg (sendErrorAnswer config env router (some source) msg rcode) ↔
      Answerable env source msg := by
  constructor
  · intro ⟨served, returned, settled⟩
    rcases sendErrorAnswer_eq_ok returned with ⟨answer, deliveries, answers, sends, _, same⟩
    rw [sendErrorAnswer] at returned
    rcases bind_eq_ok.mp returned with ⟨_, made, _⟩
    rw [← same] at sends
    exact answerable_of_sends settled answers (proxyInfo_of_generate made) sends
  · intro answerable
    rcases errorAnswer_answerable answerable.proxyInfo env.newObject config.identity
      config.realm rcode with ⟨answer, made⟩
    have isAnswer : (generate config env msg rcode : Except (Abort Peer) Msg) = .ok answer :=
      generate_eq_ok.mpr made
    refine ⟨⟨router, [.transmit source (some answer)], 0⟩, ?_, ?_⟩
    · simp only [sendErrorAnswer, isAnswer, send_open answerable.running answerable.isOpen]
      rfl
    · exact .answered answer ⟨(errorAnswer_hdr made).1⟩ List.mem_cons_self

variable {node : DeliveryNode}

/-- A request that the router takes for one sent before is not noted. -/
theorem not_settles_resend (request : msg.hdr.flags.r = true)
    (queued : isQueued router node msg = true) :
    ¬ Settles router source msg (resend env router node dest msg) := by
  intro ⟨served, returned, settled⟩
  have resends := resend_eq_ok queued returned
  cases settled with
  | consumed member =>
    rcases resends.sends.eq_transmit member with ⟨_, _, same, _⟩
    cases same
  | forwarded other _ _ req member _ _ free noted =>
    rcases resends.sends.eq_transmit member with ⟨_, _, same, _⟩
    cases same
    rw [resends.state, MsgRouter.pendingReq_storeRequestMessage] at noted
    by_cases here : other = node
    · simp [here] at noted free
      simp [free] at noted
    · simp [here, free] at noted
  | answered _ answers member =>
    rcases resends.sends.eq_transmit member with ⟨_, _, same, _⟩
    cases same
    have flags := congrArg (fun hdr : MsgHeader => hdr.flags.r) answers.hdr
    simp [request] at flags

theorem settles_relay_iff {acl : AvpContainerList} (request : msg.hdr.flags.r = true)
    (isOpen : env.isOpen peer = true) :
    Settles router source msg
        (relay config env router node (some source) (some peer) { msg with acl }) ↔
      env.running peer = true ∧ router.pendingReq node (env.hopByHop router.hopId) = none := by
  constructor
  · intro ⟨served, returned, settled⟩
    have relays := relay_eq_ok returned
    cases settled with
    | consumed member =>
      rcases relays.sends.eq_transmit member with ⟨_, _, same, _⟩
      cases same
    | forwarded other _ _ req member _ _ free noted =>
      rcases relays.sends.eq_transmit member with ⟨_, isDest, same, running, _⟩
      cases isDest
      cases same
      rw [relays.state, pendingReq_noteRequest] at noted
      by_cases here : other = node
      · rw [here] at free
        exact ⟨running, free⟩
      · rw [if_neg (fun both => here both.1), free] at noted
        cases noted
    | answered _ answers member =>
      rcases relays.sends.eq_transmit member with ⟨_, _, same, _⟩
      cases same
      have flags := congrArg (fun hdr : MsgHeader => hdr.flags.r) answers.hdr
      simp [assignIds, request] at flags
  · intro ⟨running, free⟩
    let out := (assignIds env router (some source) { msg with acl }).outMsg
    refine ⟨⟨noteRequest config env router node (some source) (some peer) { msg with acl },
      [.transmit peer (some out)], 0⟩, ?_, ?_⟩
    · simp only [relay, send_open running isOpen]
      rfl
    · have noted : (noteRequest config env router node (some source) (some peer)
          { msg with acl }).pendingReq node (env.hopByHop router.hopId) =
            some (notedReq config env router node (some source) (some peer)
              { msg with acl }) := by
        rw [pendingReq_noteRequest]
        exact if_pos ⟨rfl, rfl⟩
      have entry : (notedReq config env router node (some source) (some peer)
          { msg with acl }).source = some source ∧
          (notedReq config env router node (some source) (some peer)
            { msg with acl }).dest = some peer ∧
          (notedReq config env router node (some source) (some peer)
            { msg with acl }).origHH = msg.hdr.hh := by
        simp only [notedReq, assignIds, free, Option.getD_none]
        split <;> exact ⟨rfl, rfl, rfl⟩
      exact .forwarded node peer out _ List.mem_cons_self rfl request free noted entry.1
        entry.2.1 entry.2.2

/-- A redirect agent finds an application to answer with. -/
def Redirects (route : RouteEntry) (msg : Msg) : Prop :=
  ∃ app, RedirectAgent.application route msg = some app ∧
    ∀ application ∈ app, application.servers ≠ []

variable {route : RouteEntry}

theorem settles_redirect_iff
    (found : (getOctets msg.acl AvpName.destRealm 0).bind config.routeTable.lookup = some route) :
    Settles router source msg (RedirectAgent.request config env router (some source) msg) ↔
      Answerable env source msg ∧ Redirects route msg := by
  constructor
  · intro ⟨served, returned, settled⟩
    have cases_ := redirect_eq_ok returned
    unfold RedirectAgent.request at returned
    rw [found] at returned
    rcases bind_eq_ok.mp returned with ⟨_, made, rest⟩
    constructor
    · rcases cases_.2 with nothing | ⟨answer, answers, sends⟩
      · exact absurd settled (not_settled_nil nothing)
      · exact answerable_of_sends settled answers (proxyInfo_of_generate made) sends
    · cases isApp : RedirectAgent.application route msg with
      | none =>
        rw [isApp] at rest
        cases rest
        exact absurd settled (not_settled_nil rfl)
      | some app =>
        refine ⟨app, isApp, ?_⟩
        rw [isApp] at rest
        rcases bind_eq_ok.mp rest with ⟨avps, added, _⟩
        intro application isSome empty
        rw [Option.mem_def.mp isSome, RedirectAgent.redirectAvps, if_pos empty] at added
        cases added
  · intro ⟨answerable, app, isApp, servers⟩
    rcases errorAnswer_answerable answerable.proxyInfo env.newObject config.identity
      config.realm ResultCode.redirectIndication with ⟨answer, made⟩
    have isAnswer : (generate config env msg ResultCode.redirectIndication :
        Except (Abort Peer) Msg) = .ok answer :=
      generate_eq_ok.mpr made
    have avps : ∃ avps, (RedirectAgent.redirectAvps route app :
        Except (Abort Peer) AvpContainerList) = .ok avps := by
      cases app with
      | none => exact ⟨_, rfl⟩
      | some application =>
        rw [RedirectAgent.redirectAvps, if_neg (servers application rfl)]
        exact ⟨_, rfl⟩
    rcases avps with ⟨avps, added⟩
    refine ⟨⟨router, [.transmit source (some { answer with acl := answer.acl ++ avps })], 0⟩,
      ?_, ?_⟩
    · unfold RedirectAgent.request
      simp only [found, isAnswer, isApp, added,
        send_open answerable.running answerable.isOpen]
      rfl
    · have answers : AnswersError msg { answer with acl := answer.acl ++ avps } :=
        ⟨(errorAnswer_hdr made).1⟩
      exact .answered _ answers List.mem_cons_self

theorem settles_deliver_iff {action : RouteAction} {acl : AvpContainerList}
    (request : msg.hdr.flags.r = true) (isOpen : env.isOpen peer = true) :
    Settles router source msg
        (DcRouted.deliver config env router action (some source) (some peer)
          { msg with acl }) ↔
      (action = .actionProxy → proxyRequest env { msg with acl } ≠ none) ∧
        env.running peer = true ∧
        router.pendingReq .dcRouted (env.hopByHop router.hopId) = none := by
  rw [DcRouted.deliver]
  by_cases proxies : action = .actionProxy
  · rw [if_pos proxies]
    cases accepted : proxyRequest env { msg with acl } with
    | none =>
      constructor
      · intro ⟨served, returned, settled⟩
        cases returned
        exact absurd settled (not_settled_nil rfl)
      · intro holds
        exact absurd rfl (holds.1 proxies)
    | some out =>
      rcases proxyRequest_eq_some accepted with ⟨changed, rfl⟩
      rw [settles_relay_iff request isOpen]
      simp
  · rw [if_neg proxies, settles_relay_iff request isOpen]
    simp [proxies]

/-- The node looks whether it has sent the request before, and whether it loops. -/
def checks (config : RouterConfig) (msg : Msg) (node : DeliveryNode) : Bool :=
  node != .dcRouted || fromElsewhere config msg

/-- The AVPs that `DcRouted` sends a request on with. -/
def onwardAcl (config : RouterConfig) (msg : Msg) : AvpContainerList :=
  if fromElsewhere config msg then (addRouteRecord config msg).acl else msg.acl

/-- Where the request chain takes a request that is to be sent on, with the action of its
route and the peer that is chosen. -/
inductive Reaches (config : RouterConfig) (env : Environment Peer) (msg : Msg) :
    DeliveryNode → RouteAction → Peer → Prop where
  | forward (dest : Peer) : RcLocal.lookup config msg = false →
      RcForwarded.lookup env msg = some dest →
      Reaches config env msg .dcForward .actionRelay dest
  | routed (dest : Peer) (route : RouteEntry) : RcLocal.lookup config msg = false →
      RcForwarded.lookup env msg = none →
      RcRouted.lookup config env msg = .ok (some (some dest)) →
      (getOctets msg.acl AvpName.destRealm 0).bind config.routeTable.lookup = some route →
      route.action ≠ .actionLocal → route.action ≠ .actionRedirect →
      Reaches config env msg .dcRouted route.action dest

/-- The request is neither taken for one sent before nor for one that loops. -/
structure Passes (config : RouterConfig) (env : Environment Peer) (router : MsgRouter Peer)
    (msg : Msg) (node : DeliveryNode) (action : RouteAction) (dest : Peer) : Prop where
  reaches : Reaches config env msg node action dest
  unqueued : checks config msg node = true → isQueued router node msg = false
  noLoop : checks config msg node = true → loopDetection config msg = false

/-- What `RcRouted` has found where it succeeds. -/
theorem rcRouted_lookup_eq_some
    (found : RcRouted.lookup config env msg = .ok (some dest)) :
    ∃ realm route, RcRouted.destRealm msg = some realm ∧
      config.routeTable.lookup realm = some route ∧
      (route.action = .actionRedirect ∧ dest = none ∨
        route.action ≠ .actionRedirect ∧ ∃ app peer, route.applicationOf msg = some app ∧
          env.openServer app.servers = some peer ∧ dest = some peer) := by
  unfold RcRouted.lookup at found
  cases isRealm : RcRouted.destRealm msg with
  | none =>
    rw [isRealm] at found
    cases found
  | some realm =>
    rw [isRealm] at found
    simp only [RcRouted.lookupRealm] at found
    cases isRoute : config.routeTable.lookup realm with
    | none =>
      rw [isRoute] at found
      cases found
    | some route =>
      rw [isRoute] at found
      refine ⟨realm, route, rfl, isRoute, ?_⟩
      cases isApp : route.applicationOf msg with
      | none =>
        simp only [isApp] at found
        cases found
      | some app =>
        simp only [isApp] at found
        by_cases redirect : route.action = .actionRedirect
        · rw [if_pos redirect] at found
          cases found
          exact .inl ⟨redirect, rfl⟩
        · rw [if_neg redirect] at found
          by_cases empty : app.servers = []
          · rw [if_pos empty] at found
            cases found
          · rw [if_neg empty] at found
            have chosen := Except.ok.inj found
            rcases Option.map_eq_some_iff.mp chosen with ⟨peer, isPeer, rfl⟩
            exact .inr ⟨redirect, app, peer, rfl, isPeer, rfl⟩

theorem isOpen_of_filter {found : Option Peer} (open_ : found.filter env.isOpen = some peer) :
    env.isOpen peer = true :=
  (Option.filter_eq_some_iff.mp open_).2

/-- The peer that is chosen is open. -/
theorem Reaches.isOpen {action : RouteAction} (reaches : Reaches config env msg node action peer) :
    env.isOpen peer = true := by
  cases reaches with
  | forward _ _ found =>
    unfold RcForwarded.lookup at found
    split at found
    · exact isOpen_of_filter found
    · cases found
  | routed _ route _ _ found =>
    rcases rcRouted_lookup_eq_some found with ⟨_, _, _, _, ⟨_, none_⟩ | ⟨_, app, peer, _,
      isServer, same⟩⟩
    · cases none_
    · cases same
      rcases List.exists_of_findSome?_eq_some isServer with ⟨_, _, chosen⟩
      exact isOpen_of_filter chosen

theorem requestMsg_forward (notLocal : RcLocal.lookup config msg = false)
    (found : RcForwarded.lookup env msg = some peer) (source : Option Peer) :
    requestMsg config env router source msg =
      DcForward.requestMsg config env router source (some peer) msg := by
  simp [requestMsg, notLocal, found]

/-- Neither of the first two nodes of the chain takes the request. -/
theorem requestMsg_next (notLocal : RcLocal.lookup config msg = false)
    (notForwarded : RcForwarded.lookup env msg = none) (source : Option Peer) :
    requestMsg config env router source msg =
      RcRouted.lookup config env msg >>= fun found =>
        match found with
        | some dest => DcRouted.requestMsg config env router source dest msg
        | none => DcReject.requestMsg config env router source msg := by
  simp only [requestMsg, notLocal, notForwarded]
  rfl

theorem requestMsg_routed (notLocal : RcLocal.lookup config msg = false)
    (notForwarded : RcForwarded.lookup env msg = none)
    (found : RcRouted.lookup config env msg = .ok (some dest)) (source : Option Peer) :
    requestMsg config env router source msg =
      DcRouted.requestMsg config env router source dest msg := by
  rw [requestMsg_next notLocal notForwarded, found]
  rfl

theorem dcRouted_onward
    (found : (getOctets msg.acl AvpName.destRealm 0).bind config.routeTable.lookup = some route)
    (notLocal : route.action ≠ .actionLocal) (notRedirect : route.action ≠ .actionRedirect)
    (source : Option Peer) :
    DcRouted.requestMsg config env router source dest msg =
      if fromElsewhere config msg then
        if isQueued router .dcRouted msg then resend env router .dcRouted dest msg
        else if loopDetection config msg then
          sendErrorAnswer config env router source msg ResultCode.loopDetected
        else
          DcRouted.deliver config env router route.action source dest
            (addRouteRecord config msg)
      else DcRouted.deliver config env router route.action source dest msg := by
  unfold DcRouted.requestMsg
  rw [found]
  cases action : route.action with
  | actionLocal => exact absurd action notLocal
  | actionRedirect => exact absurd action notRedirect
  | actionRelay => simp only [action]
  | actionProxy => simp only [action]

section

variable {node : DeliveryNode} {action : RouteAction} {peer : Peer}

theorem not_settles_queued (reaches : Reaches config env msg node action peer)
    (request : msg.hdr.flags.r = true) (checked : checks config msg node = true)
    (queued : isQueued router node msg = true) :
    ¬ Settles router source msg (requestMsg config env router (some source) msg) := by
  cases reaches with
  | forward _ notLocal found =>
    rw [requestMsg_forward notLocal found, DcForward.requestMsg.eq_def, if_pos queued]
    exact not_settles_resend request queued
  | routed _ route notLocal notForwarded found isRoute noLocal noRedirect =>
    have elsewhere : fromElsewhere config msg = true := by
      simpa [checks] using checked
    rw [requestMsg_routed notLocal notForwarded found,
      dcRouted_onward isRoute noLocal noRedirect, if_pos elsewhere, if_pos queued]
    exact not_settles_resend request queued

theorem settles_loop_iff (reaches : Reaches config env msg node action peer)
    (checked : checks config msg node = true) (unqueued : isQueued router node msg = false)
    (loops : loopDetection config msg = true) :
    Settles router source msg (requestMsg config env router (some source) msg) ↔
      Answerable env source msg := by
  cases reaches with
  | forward _ notLocal found =>
    rw [requestMsg_forward notLocal found, DcForward.requestMsg.eq_def,
      if_neg (by simp [unqueued]), if_pos loops]
    exact settles_sendErrorAnswer_iff _
  | routed _ route notLocal notForwarded found isRoute noLocal noRedirect =>
    have elsewhere : fromElsewhere config msg = true := by
      simpa [checks] using checked
    rw [requestMsg_routed notLocal notForwarded found,
      dcRouted_onward isRoute noLocal noRedirect, if_pos elsewhere,
      if_neg (by simp [unqueued]), if_pos loops]
    exact settles_sendErrorAnswer_iff _

theorem settles_passes_iff (passes : Passes config env router msg node action peer)
    (request : msg.hdr.flags.r = true) :
    Settles router source msg (requestMsg config env router (some source) msg) ↔
      (action = .actionProxy →
        proxyRequest env { msg with acl := onwardAcl config msg } ≠ none) ∧
      env.running peer = true ∧ router.pendingReq node (env.hopByHop router.hopId) = none := by
  have isOpen := passes.reaches.isOpen
  have unqueued := passes.unqueued
  have noLoop := passes.noLoop
  cases passes.reaches with
  | forward _ notLocal found =>
    rw [requestMsg_forward notLocal found, DcForward.requestMsg.eq_def,
      if_neg (by simp [unqueued rfl]), if_neg (by simp [noLoop rfl])]
    exact (settles_relay_iff request isOpen).trans (by simp)
  | routed _ route notLocal notForwarded found isRoute noLocal noRedirect =>
    rw [requestMsg_routed notLocal notForwarded found,
      dcRouted_onward isRoute noLocal noRedirect]
    by_cases elsewhere : fromElsewhere config msg = true
    · have checked : checks config msg .dcRouted = true := by
        simpa [checks] using elsewhere
      rw [if_pos elsewhere, if_neg (by simp [unqueued checked]),
        if_neg (by simp [noLoop checked]), onwardAcl, if_pos elsewhere]
      exact settles_deliver_iff request isOpen
    · rw [if_neg elsewhere, onwardAcl, if_neg elsewhere]
      exact settles_deliver_iff request isOpen

end

/-- Neither of the first two nodes of the chain takes the request. -/
structure Onward (config : RouterConfig) (env : Environment Peer) (msg : Msg) : Prop where
  notLocal : RcLocal.lookup config msg = false
  notForwarded : RcForwarded.lookup env msg = none

/-- What keeps a request from its outcome. -/
inductive Unanswered (config : RouterConfig) (env : Environment Peer)
    (router : MsgRouter Peer) (source : Peer) (msg : Msg) : Prop where
  /-- The request is rejected, and there is no error answer. -/
  | rejected : Onward config env msg → RcRouted.lookup config env msg = .ok none →
      ¬ Answerable env source msg → Unanswered config env router source msg
  /-- The front of an empty list of servers is read. -/
  | noServers (realm : Octets) (route : RouteEntry) (app : RouteApplication) :
      Onward config env msg → RcRouted.destRealm msg = some realm →
      config.routeTable.lookup realm = some route → route.applicationOf msg = some app →
      route.action ≠ .actionRedirect → app.servers = [] →
      Unanswered config env router source msg
  /-- The realm that `RcRouted` has looked up is not that of a Destination-Realm. -/
  | noRealm (dest : Option Peer) : Onward config env msg →
      RcRouted.lookup config env msg = .ok (some dest) →
      (getOctets msg.acl AvpName.destRealm 0).bind config.routeTable.lookup = none →
      Unanswered config env router source msg
  | redirected (dest : Option Peer) (route : RouteEntry) : Onward config env msg →
      RcRouted.lookup config env msg = .ok (some dest) →
      (getOctets msg.acl AvpName.destRealm 0).bind config.routeTable.lookup = some route →
      route.action = .actionRedirect →
      ¬ (Answerable env source msg ∧ Redirects route msg) →
      Unanswered config env router source msg
  /-- The request is taken for one that the router has sent before. -/
  | queued (node : DeliveryNode) (action : RouteAction) (peer : Peer) :
      Reaches config env msg node action peer → checks config msg node = true →
      isQueued router node msg = true → Unanswered config env router source msg
  | looped (node : DeliveryNode) (action : RouteAction) (peer : Peer) :
      Reaches config env msg node action peer → checks config msg node = true →
      isQueued router node msg = false → loopDetection config msg = true →
      ¬ Answerable env source msg → Unanswered config env router source msg
  /-- The proxy handler refuses the request, or there is none. -/
  | refused (node : DeliveryNode) (peer : Peer) :
      Passes config env router msg node .actionProxy peer →
      proxyRequest env { msg with acl := onwardAcl config msg } = none →
      Unanswered config env router source msg
  | stopped (node : DeliveryNode) (action : RouteAction) (peer : Peer) :
      Passes config env router msg node action peer → env.running peer = false →
      Unanswered config env router source msg
  /-- Another request waits under the id that is generated. -/
  | idTaken (node : DeliveryNode) (action : RouteAction) (peer : Peer) :
      Passes config env router msg node action peer →
      router.pendingReq node (env.hopByHop router.hopId) ≠ none →
      Unanswered config env router source msg

/-- A request that goes to a route has come there by its Destination-Realm. -/
theorem rcRouted_route (found : RcRouted.lookup config env msg = .ok (some dest))
    (isRoute : (getOctets msg.acl AvpName.destRealm 0).bind config.routeTable.lookup = some route) :
    route.action = .actionRedirect ∨ ∃ peer, dest = some peer := by
  rcases rcRouted_lookup_eq_some found with ⟨realm, other, isRealm, isOther, rest⟩
  have same : other = route := by
    rw [RcRouted.destRealm] at isRealm
    cases isDest : getOctets msg.acl AvpName.destRealm 0 with
    | none =>
      rw [isDest] at isRoute
      cases isRoute
    | some destRealm =>
      rw [isDest] at isRealm isRoute
      cases isRealm
      exact Option.some.inj (isOther.symm.trans isRoute)
  rcases rest with ⟨redirect, _⟩ | ⟨_, _, peer, _, _, isPeer⟩
  · exact .inl (same ▸ redirect)
  · exact .inr ⟨peer, isPeer⟩

theorem rcRouted_lookup_eq_error {abort : Abort Peer}
    (failed : RcRouted.lookup config env msg = .error abort) :
    ∃ realm route app, RcRouted.destRealm msg = some realm ∧
      config.routeTable.lookup realm = some route ∧ route.applicationOf msg = some app ∧
      route.action ≠ .actionRedirect ∧ app.servers = [] := by
  unfold RcRouted.lookup at failed
  cases isRealm : RcRouted.destRealm msg with
  | none =>
    rw [isRealm] at failed
    cases failed
  | some realm =>
    rw [isRealm] at failed
    simp only [RcRouted.lookupRealm] at failed
    cases isRoute : config.routeTable.lookup realm with
    | none =>
      rw [isRoute] at failed
      cases failed
    | some route =>
      rw [isRoute] at failed
      cases isApp : route.applicationOf msg with
      | none =>
        simp only [isApp] at failed
        cases failed
      | some app =>
        simp only [isApp] at failed
        by_cases redirect : route.action = .actionRedirect
        · rw [if_pos redirect] at failed
          cases failed
        · rw [if_neg redirect] at failed
          by_cases empty : app.servers = []
          · exact ⟨realm, route, app, rfl, isRoute, isApp, redirect, empty⟩
          · rw [if_neg empty] at failed
            cases failed

theorem rcRouted_lookup_noServers {realm : Octets} {app : RouteApplication}
    (isRealm : RcRouted.destRealm msg = some realm)
    (isRoute : config.routeTable.lookup realm = some route)
    (isApp : route.applicationOf msg = some app) (noRedirect : route.action ≠ .actionRedirect)
    (empty : app.servers = []) :
    RcRouted.lookup config env msg = .error .crashed := by
  simp [RcRouted.lookup, RcRouted.lookupRealm, isRealm, isRoute, isApp, noRedirect, empty]

theorem settles_rejected_iff (onward : Onward config env msg)
    (found : RcRouted.lookup config env msg = .ok none) :
    Settles router source msg (requestMsg config env router (some source) msg) ↔
      Answerable env source msg := by
  have call : requestMsg config env router (some source) msg =
      sendErrorAnswer config env router (some source) msg ResultCode.unableToDeliver := by
    rw [requestMsg_next onward.notLocal onward.notForwarded, found]
    rfl
  rw [call]
  exact settles_sendErrorAnswer_iff _

theorem settles_redirected_iff (onward : Onward config env msg)
    (found : RcRouted.lookup config env msg = .ok (some dest))
    (isRoute : (getOctets msg.acl AvpName.destRealm 0).bind config.routeTable.lookup = some route)
    (redirect : route.action = .actionRedirect) :
    Settles router source msg (requestMsg config env router (some source) msg) ↔
      Answerable env source msg ∧ Redirects route msg := by
  have call : requestMsg config env router (some source) msg =
      RedirectAgent.request config env router (some source) msg := by
    rw [requestMsg_routed onward.notLocal onward.notForwarded found]
    unfold DcRouted.requestMsg
    rw [isRoute]
    simp only [redirect]
  rw [call]
  exact settles_redirect_iff isRoute

/-- Nothing else keeps a request from its outcome. -/
theorem settles_of_not_unanswered (request : msg.hdr.flags.r = true)
    (answered : ¬ Unanswered config env router source msg) :
    Settles router source msg (requestMsg config env router (some source) msg) := by
  have settles_of_reaches : ∀ node action peer, Reaches config env msg node action peer →
      Settles router source msg (requestMsg config env router (some source) msg) := by
    intro node action peer reaches
    by_cases passes : Passes config env router msg node action peer
    · apply (settles_passes_iff passes request).mpr
      refine ⟨?_, ?_, ?_⟩
      · intro proxies refused
        rw [proxies] at passes
        exact answered (.refused node peer passes refused)
      · by_contra stopped
        exact answered (.stopped node action peer passes (by simpa using stopped))
      · by_contra taken
        exact answered (.idTaken node action peer passes taken)
    · have checked : checks config msg node = true := by
        by_contra unchecked
        exact passes ⟨reaches, fun checked => absurd checked unchecked,
          fun checked => absurd checked unchecked⟩
      have unqueued : isQueued router node msg = false := by
        by_contra queued
        exact answered (.queued node action peer reaches checked (by simpa using queued))
      have loops : loopDetection config msg = true := by
        by_contra noLoop
        exact passes ⟨reaches, fun _ => unqueued, fun _ => by simpa using noLoop⟩
      apply (settles_loop_iff reaches checked unqueued loops).mpr
      by_contra unanswerable
      exact answered (.looped node action peer reaches checked unqueued loops unanswerable)
  by_cases isLocal : RcLocal.lookup config msg = true
  · rw [requestMsg, if_pos isLocal]
    exact settles_dcLocal
  · have notLocal : RcLocal.lookup config msg = false := by simpa using isLocal
    cases forwarded : RcForwarded.lookup env msg with
    | some peer => exact settles_of_reaches _ _ _ (.forward peer notLocal forwarded)
    | none =>
      have onward : Onward config env msg := ⟨notLocal, forwarded⟩
      cases found : RcRouted.lookup config env msg with
      | error abort =>
        rcases rcRouted_lookup_eq_error found with
          ⟨realm, route, app, isRealm, isRoute, isApp, noRedirect, empty⟩
        exact absurd (.noServers realm route app onward isRealm isRoute isApp noRedirect
          empty) answered
      | ok result =>
        cases result with
        | none =>
          apply (settles_rejected_iff onward found).mpr
          by_contra unanswerable
          exact answered (.rejected onward found unanswerable)
        | some dest =>
          cases isRoute : (getOctets msg.acl AvpName.destRealm 0).bind
              config.routeTable.lookup with
          | none => exact absurd (.noRealm dest onward found isRoute) answered
          | some route =>
            by_cases redirect : route.action = .actionRedirect
            · apply (settles_redirected_iff onward found isRoute redirect).mpr
              by_contra unanswerable
              exact answered (.redirected dest route onward found isRoute redirect
                unanswerable)
            · by_cases local_ : route.action = .actionLocal
              · rw [requestMsg_routed notLocal forwarded found]
                unfold DcRouted.requestMsg
                rw [isRoute]
                simp only [local_]
                exact settles_dcLocal
              · rcases rcRouted_route found isRoute with isRedirect | ⟨peer, rfl⟩
                · exact absurd isRedirect redirect
                · exact settles_of_reaches _ _ _ (.routed peer route notLocal
                    forwarded found isRoute local_ redirect)

theorem not_settles_of_unanswered (request : msg.hdr.flags.r = true)
    (unanswered : Unanswered config env router source msg) :
    ¬ Settles router source msg (requestMsg config env router (some source) msg) := by
  intro settles
  cases unanswered with
  | rejected onward found unanswerable =>
    exact unanswerable ((settles_rejected_iff onward found).mp settles)
  | noServers _ _ _ onward isRealm isRoute isApp noRedirect empty =>
    rcases settles with ⟨served, returned, _⟩
    rw [requestMsg_next onward.notLocal onward.notForwarded,
      rcRouted_lookup_noServers isRealm isRoute isApp noRedirect empty] at returned
    cases returned
  | noRealm _ onward found missing =>
    rcases settles with ⟨served, returned, _⟩
    rw [requestMsg_routed onward.notLocal onward.notForwarded found] at returned
    unfold DcRouted.requestMsg at returned
    rw [missing] at returned
    cases returned
  | redirected _ _ onward found isRoute redirect unanswerable =>
    exact unanswerable ((settles_redirected_iff onward found isRoute redirect).mp settles)
  | queued _ _ _ reaches checked queued =>
    exact not_settles_queued reaches request checked queued settles
  | looped _ _ _ reaches checked unqueued loops unanswerable =>
    exact unanswerable ((settles_loop_iff reaches checked unqueued loops).mp settles)
  | refused _ _ passes refused =>
    exact ((settles_passes_iff passes request).mp settles).1 rfl refused
  | stopped _ _ _ passes stopped =>
    have running := ((settles_passes_iff passes request).mp settles).2.1
    rw [stopped] at running
    cases running
  | idTaken _ _ _ passes taken =>
    exact taken ((settles_passes_iff passes request).mp settles).2.2

/-- The realm of a request is to be taken from its User-Name, of the form `user@realm`. -/
structure NamesRealm (config : RouterConfig) (env : Environment Peer) (msg : Msg)
    (user realm : Octets) : Prop where
  onward : Onward config env msg
  noDestRealm : getOctets msg.acl AvpName.destRealm 0 = none
  userName : getOctets msg.acl AvpName.userName 0 = some (user ++ 64 :: realm)
  freeUser : 64 ∉ user
  freeRealm : 64 ∉ realm
  named : realm ≠ []

/-- The part after the `@` is what the route is looked up by. -/
def RoutedByRealm (config : RouterConfig) (env : Environment Peer) (msg : Msg) : Prop :=
  ∀ user realm, NamesRealm config env msg user realm →
    RcRouted.destRealm msg = some realm

variable {user realm : Octets}

theorem idxOf?_user (free : 64 ∉ user) :
    (user ++ 64 :: realm).idxOf? 64 = some user.length := by
  induction user with
  | nil => rfl
  | cons octet user induction =>
    have notAt : octet ≠ 64 := fun same => free (same ▸ List.mem_cons_self)
    have rest := induction fun member => free (List.mem_cons_of_mem octet member)
    simp [List.idxOf?_cons, notAt, rest]

/-- The realm that is looked up begins with the `@`. -/
theorem userNameRealm_user (free : 64 ∉ user) (named : realm ≠ []) :
    ∃ tail, userNameRealm (user ++ 64 :: realm) = some (64 :: tail) := by
  have drops : (user ++ 64 :: realm).drop user.length = 64 :: realm :=
    List.drop_left
  have length : 0 < realm.length := List.length_pos_iff.mpr named
  rw [userNameRealm, idxOf?_user free, Option.map_some, drops]
  rw [List.length_append, List.length_cons, ← Nat.add_assoc, Nat.add_sub_cancel]
  rcases Nat.exists_eq_add_one.mpr (Nat.add_pos_right user.length length) with ⟨size, isSize⟩
  rw [isSize]
  exact ⟨realm.take size, rfl⟩

theorem not_routedByRealm (names : NamesRealm config env msg user realm) :
    ¬ RoutedByRealm config env msg := by
  intro routed
  have isRealm := routed user realm names
  rw [RcRouted.destRealm, names.noDestRealm] at isRealm
  simp only [names.userName, Option.bind_some] at isRealm
  rcases userNameRealm_user names.freeUser names.named with ⟨tail, taken⟩
  rw [taken] at isRealm
  exact names.freeRealm (Option.some.inj isRealm ▸ List.mem_cons_self)

/-- Every request of a peer has an outcome and goes by the realm that it names, except for
those that are left without an answer and those that name their realm in the User-Name. -/
theorem request_outcome (config : RouterConfig) (env : Environment Peer)
    (router : MsgRouter Peer) (source : Peer) (msg : Msg) (request : msg.hdr.flags.r = true) :
    Settles router source msg (requestMsg config env router (some source) msg) ∧
        RoutedByRealm config env msg ↔
      ¬ Unanswered config env router source msg ∧
        ∀ user realm, ¬ NamesRealm config env msg user realm := by
  constructor
  · intro ⟨settles, routed⟩
    constructor
    · intro unanswered
      exact not_settles_of_unanswered request unanswered settles
    · intro user realm names
      exact not_routedByRealm names routed
  · intro ⟨answered, unnamed⟩
    constructor
    · exact settles_of_not_unanswered request answered
    · intro user realm names
      exact absurd names (unnamed user realm)

end

/-! A relay with a route for the realm `r`, and another one for what it does not know. -/

namespace Agent

def route (realm server : Octets) : RouteEntry where
  realm := realm
  action := .actionRelay
  redirectUsage := 0
  applications := [⟨4, 0, [server]⟩]

def config : RouterConfig where
  identity := [114, 108, 121]
  realm := [120]
  backendAuth := false
  authAppIds := []
  acctAppIds := []
  vendorSpecificIds := []
  retxInterval := 0
  retxMaxCount := 0
  routeTable := ⟨[route [114] [115, 49]], some (route [] [115, 50])⟩

def env : Environment Nat where
  peerTable := [([115, 49], 1), ([115, 50], 2)]
  running := fun _ => true
  isOpen := fun _ => true
  ownsSession := fun _ => false
  proxyHandlers := fun _ => none
  now := 0
  hopSeed := 41
  endToEnd := 0
  newObject := 1

def request (acl : AvpContainerList) : Msg where
  object := 0
  hdr := ⟨⟨true, true, false, false⟩, 272, 4, 5, 7⟩
  acl := acl

def byRealm : Msg :=
  request [identityAvp AvpName.destRealm [114]]

/-- The User-Name is `u@r`. -/
def byUserName : Msg :=
  request [identityAvp AvpName.destHost [104], identityAvp AvpName.userName [117, 64, 114]]

def sent : Msg :=
  { byRealm with
    hdr := { byRealm.hdr with hh := 42 }
    acl := byRealm.acl ++ [identityAvp AvpName.routeRecord config.identity] }

theorem byRealm_settles :
    Settles .initial 0 byRealm (requestMsg config env .initial (some 0) byRealm) :=
  ⟨_, rfl, .forwarded .dcRouted 1 sent _ List.mem_cons_self rfl rfl rfl rfl rfl rfl rfl⟩

theorem byRealm_unnamed (user realm : Octets) : ¬ NamesRealm config env byRealm user realm := by
  intro names
  have missing := names.noDestRealm
  cases missing

theorem byUserName_names : NamesRealm config env byUserName [117] [114] :=
  ⟨⟨rfl, rfl⟩, rfl, rfl, by decide, by decide, by decide⟩

theorem byUserName_thrown :
    requestMsg config env .initial (some 0) byUserName = .error (.thrown .initial) := rfl

end Agent

open Agent in
theorem request_outcome_relayed :
    ¬ Unanswered config env .initial 0 byRealm ∧
      ∀ user realm, ¬ NamesRealm config env byRealm user realm :=
  (request_outcome config env .initial 0 byRealm rfl).mp
    ⟨byRealm_settles, fun user realm names => absurd names (byRealm_unnamed user realm)⟩

open Agent in
/-- A route is found for `@r`, and the request is dropped for want of a
Destination-Realm. -/
theorem user_name_request_lost :
    byUserName.hdr.flags.r = true ∧
      ¬ Settles .initial 0 byUserName (requestMsg config env .initial (some 0) byUserName) ∧
      ¬ RoutedByRealm config env byUserName := by
  refine ⟨rfl, ?_, not_routedByRealm byUserName_names⟩
  intro ⟨served, returned, _⟩
  rw [byUserName_thrown] at returned
  cases returned

end OpenDiameter.Router
