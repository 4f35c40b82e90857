import OpenDiameter.Router.RequestOutcomes

/-!
Runs of the message router: requests and answers as they come, in any order, and the
entries that are checked for retransmission. Beside the router the state notes what has come and
what was handed on.
-/

namespace OpenDiameter.Router

open OpenDiameter.Foundation OpenDiameter.Parser

variable {Peer : Type}

/-- A request that has come, with the id that its source knows it by. A local request has
the id that the router gives it. -/
structure Arrival (Peer : Type) where
  object : Nat
  source : Option Peer
  hh : HopId

/-- A request that was handed on: to a peer, or to the local handler. -/
structure Copy (Peer : Type) where
  holder : Option Peer
  hh : HopId
  object : Nat
  deriving DecidableEq

/-- The request that a delivery hands on. -/
def Delivery.copy : Delivery Peer → Option (Copy Peer)
  | .transmit peer (some msg) =>
    if msg.hdr.flags.r then some ⟨some peer, msg.hdr.hh, msg.object⟩ else none
  | .localRequest _ msg => some ⟨none, msg.hdr.hh, msg.object⟩
  | _ => none

structure World (Peer : Type) where
  router : MsgRouter Peer
  arrivals : List (Arrival Peer)
  /-- What is handed on and not answered. -/
  copies : List (Copy Peer)
  /-- All that was handed on, the last first. -/
  history : List (Copy Peer)

inductive Event (Peer : Type) where
  | request (source : Option Peer) (msg : Msg)
  | answer (copy : Copy Peer) (msg : Msg)
  | reTxCheck (node : DeliveryNode) (check : ReTxCheck Peer) (h2hId : HopId)

namespace World

def initial : World Peer where
  router := .initial
  arrivals := []
  copies := []
  history := []

/-- Each answer answers a request that was handed on. The passes of `ReTransmitEvent` go
through the entries of two of the nodes. -/
def Enabled (world : World Peer) : Event Peer → Prop
  | .request _ msg =>
    msg.hdr.flags.r = true ∧ ∀ arrival ∈ world.arrivals, arrival.object ≠ msg.object
  | .answer copy msg =>
    copy ∈ world.copies ∧ msg.hdr.flags.r = false ∧ msg.hdr.hh = copy.hh
  | .reTxCheck node _ _ => node ≠ .dcLocal

/-- A call ends: its exceptions are caught outside the router. -/
def ends (world : World Peer) :
    Except (Abort Peer) (Served Peer) → Option (World Peer)
  | .ok served =>
    let handed := served.deliveries.filterMap Delivery.copy
    some
      { world with
        router := served.router
        copies := handed ++ world.copies
        history := handed ++ world.history }
  | .error (.thrown router) => some { world with router }
  | .error .crashed => none

/-- A request comes. -/
def arrives (env : Environment Peer) (world : World Peer) (source : Option Peer) (msg : Msg) :
    World Peer :=
  { world with
    arrivals :=
      ⟨msg.object, source, (notedMsg env world.router source msg).hdr.hh⟩ :: world.arrivals }

section

variable [DecidableEq Peer] (config : RouterConfig) (env : Environment Peer)

def next (world : World Peer) : Event Peer → Option (World Peer)
  | .request source msg =>
    (world.arrives env source msg).ends (requestMsg config env world.router source msg)
  | .answer copy msg =>
    { world with copies := world.copies.erase copy }.ends (answerMsg env world.router msg)
  | .reTxCheck node check h2hId =>
    world.ends (Router.reTxCheck config env world.router node check h2hId)

end

end World

/-- The states that the router reaches by steps that are allowed. What it finds around it may
be different at every step. -/
inductive Run [DecidableEq Peer] (config : RouterConfig)
    (Allowed : Environment Peer → World Peer → Event Peer → Prop) : World Peer → Prop where
  | initial : Run config Allowed .initial
  | step {world next : World Peer} {env : Environment Peer} {event : Event Peer} :
      Run config Allowed world → world.Enabled event → Allowed env world event →
      world.next config env event = some next → Run config Allowed next

theorem Run.serve [DecidableEq Peer] {config : RouterConfig}
    {Allowed : Environment Peer → World Peer → Event Peer → Prop} {world next : World Peer}
    (run : Run config Allowed world) (env : Environment Peer) (event : Event Peer)
    (enabled : world.Enabled event) (allowed : Allowed env world event)
    (taken : world.next config env event = some next) : Run config Allowed next :=
  .step run enabled allowed taken

section

variable {config : RouterConfig} {env : Environment Peer} {router : MsgRouter Peer}
  {source dest : Option Peer} {msg : Msg} {served : Served Peer}

/-- The local node takes the request. -/
inductive TakenLocally (config : RouterConfig) (env : Environment Peer) (msg : Msg) : Prop where
  | addressed : RcLocal.lookup config msg = true → TakenLocally config env msg
  | routed (dest : Option Peer) (route : RouteEntry) : Onward config env msg →
      RcRouted.lookup config env msg = .ok (some dest) →
      (getOctets msg.acl AvpName.destRealm 0).bind config.routeTable.lookup = some route →
      route.action = .actionLocal → TakenLocally config env msg

/-- The node passes a request on that passes its checks. -/
def Accepts (config : RouterConfig) (env : Environment Peer) (msg : Msg)
    (action : RouteAction) : Prop :=
  action = .actionProxy → proxyRequest env { msg with acl := onwardAcl config msg } ≠ none

/-- Nothing is handed on. -/
def Quiet (deliveries : List (Delivery Peer)) : Prop :=
  ∀ delivery ∈ deliveries, delivery.copy = none

variable {deliveries : List (Delivery Peer)}

theorem Quiet.handed (quiet : Quiet deliveries) :
    deliveries.filterMap Delivery.copy = [] :=
  List.filterMap_eq_nil_iff.mpr quiet

theorem handed_of_sends {out : Msg} (sends : Sends env (some out) dest deliveries)
    (request : out.hdr.flags.r = true) :
    deliveries.filterMap Delivery.copy = [] ∨
      ∃ peer, dest = some peer ∧ env.running peer = true ∧ env.isOpen peer = true ∧
        deliveries.filterMap Delivery.copy = [⟨some peer, out.hdr.hh, out.object⟩] := by
  rcases sends with ⟨peer, isDest, rfl⟩
  by_cases present : env.running peer ∧ env.isOpen peer
  · right
    rw [if_pos present]
    refine ⟨peer, isDest, present.1, present.2, ?_⟩
    simp [Delivery.copy, request]
  · left
    rw [if_neg present]
    rfl

/-- What becomes of a request, and where. -/
inductive Routed (config : RouterConfig) (env : Environment Peer) (router : MsgRouter Peer)
    (source : Option Peer) (msg : Msg) (served : Served Peer) : Prop where
  | consumed (peer : Peer) (dest : Option Peer) : TakenLocally config env msg →
      source = some peer →
      served = ⟨router.add .dcLocal msg.hdr.hh (pendingOf config env msg source dest),
        [.localRequest peer msg], 0⟩ →
      Routed config env router source msg served
  | quiet : served.router = router → Quiet served.deliveries →
      Routed config env router source msg served
  | resent (node : DeliveryNode) (action : RouteAction) (peer : Peer) :
      Reaches config env msg node action peer → checks config msg node = true →
      Resends env router node (some peer) msg served →
      Routed config env router source msg served
  | relayed (node : DeliveryNode) (action : RouteAction) (peer : Peer)
      (acl : AvpContainerList) : Passes config env router msg node action peer →
      Accepts config env msg action →
      Relays env config router node source (some peer) { msg with acl } served →
      Routed config env router source msg served

theorem quiet_of_answer {answer : Msg} (answers : AnswersError msg answer)
    (sends : Sends env (some answer) source deliveries) :
    Quiet deliveries := by
  intro delivery member
  rcases sends.eq_transmit member with ⟨peer, _, rfl, _⟩
  simp [Delivery.copy, answers.hdr]

theorem routed_dcLocal (taken : TakenLocally config env msg)
    (returned : DcLocal.requestMsg config env router source dest msg = .ok served) :
    Routed config env router source msg served := by
  cases source with
  | none =>
    cases returned
    exact .quiet rfl (by simp [Quiet])
  | some peer =>
    cases returned
    exact .consumed peer dest taken rfl rfl

theorem routed_sendErrorAnswer {rcode : UInt32}
    (returned : sendErrorAnswer config env router source msg rcode = .ok served) :
    Routed config env router source msg served := by
  rcases sendErrorAnswer_eq_ok returned with ⟨answer, deliveries, answers, sends, same, rfl⟩
  exact .quiet same (quiet_of_answer answers sends)

theorem routed_deliver {action : RouteAction} {peer : Peer}
    (passes : Passes config env router msg .dcRouted action peer)
    (returned : DcRouted.deliver config env router action source (some peer)
      { msg with acl := onwardAcl config msg } = .ok served) :
    Routed config env router source msg served := by
  rw [DcRouted.deliver] at returned
  by_cases proxies : action = .actionProxy
  · rw [if_pos proxies] at returned
    cases accepted : proxyRequest env { msg with acl := onwardAcl config msg } with
    | none =>
      rw [accepted] at returned
      cases returned
      exact .quiet rfl (by simp [Quiet])
    | some out =>
      rcases proxyRequest_eq_some accepted with ⟨acl, rfl⟩
      rw [accepted] at returned
      have accepts : Accepts config env msg action := by
        intro _
        simp [accepted]
      exact .relayed .dcRouted action peer acl passes accepts (relay_eq_ok returned)
  · rw [if_neg proxies] at returned
    exact .relayed .dcRouted action peer (onwardAcl config msg) passes
      (fun proxy => absurd proxy proxies) (relay_eq_ok returned)

theorem routed_forward {peer : Peer} (reaches : Reaches config env msg .dcForward .actionRelay
      peer)
    (returned : DcForward.requestMsg config env router source (some peer) msg = .ok served) :
    Routed config env router source msg served := by
  rw [DcForward.requestMsg.eq_def] at returned
  by_cases queued : isQueued router .dcForward msg = true
  · rw [if_pos queued] at returned
    exact .resent .dcForward .actionRelay peer reaches rfl (resend_eq_ok queued returned)
  · rw [if_neg queued] at returned
    by_cases loops : loopDetection config msg = true
    · rw [if_pos loops] at returned
      cases source with
      | none =>
        cases returned
        exact .quiet rfl (by simp [Quiet, Delivery.copy])
      | some source => exact routed_sendErrorAnswer returned
    · rw [if_neg loops] at returned
      have passes : Passes config env router msg .dcForward .actionRelay peer :=
        ⟨reaches, fun _ => by simpa using queued, fun _ => by simpa using loops⟩
      exact .relayed .dcForward .actionRelay peer msg.acl passes (by simp [Accepts])
        (relay_eq_ok returned)

theorem routed_onward {route : RouteEntry} {peer : Peer}
    (reaches : Reaches config env msg .dcRouted route.action peer)
    (found : (getOctets msg.acl AvpName.destRealm 0).bind config.routeTable.lookup = some route)
    (notLocal : route.action ≠ .actionLocal) (notRedirect : route.action ≠ .actionRedirect)
    (returned : DcRouted.requestMsg config env router source (some peer) msg = .ok served) :
    Routed config env router source msg served := by
  rw [dcRouted_onward found notLocal notRedirect] at returned
  by_cases elsewhere : fromElsewhere config msg = true
  · have checked : checks config msg .dcRouted = true := by
      simpa [checks] using elsewhere
    rw [if_pos elsewhere] at returned
    by_cases queued : isQueued router .dcRouted msg = true
    · rw [if_pos queued] at returned
      exact .resent .dcRouted route.action peer reaches checked (resend_eq_ok queued returned)
    · rw [if_neg queued] at returned
      by_cases loops : loopDetection config msg = true
      · rw [if_pos loops] at returned
        exact routed_sendErrorAnswer returned
      · rw [if_neg loops] at returned
        have passes : Passes config env router msg .dcRouted route.action peer :=
          ⟨reaches, fun _ => by simpa using queued, fun _ => by simpa using loops⟩
        apply routed_deliver passes
        rw [onwardAcl, if_pos elsewhere]
        exact returned
  · have unchecked : checks config msg .dcRouted = false := by
      simpa [checks] using elsewhere
    have passes : Passes config env router msg .dcRouted route.action peer := by
      refine ⟨reaches, ?_, ?_⟩
      · intro checked
        rw [unchecked] at checked
        cases checked
      · intro checked
        rw [unchecked] at checked
        cases checked
    rw [if_neg elsewhere] at returned
    apply routed_deliver passes
    rw [onwardAcl, if_neg elsewhere]
    exact returned

/-- What the router does with a request is one of the cases. -/
theorem routed_requestMsg
    (returned : requestMsg config env router source msg = .ok served) :
    Routed config env router source msg served := by
  by_cases isLocal : RcLocal.lookup config msg = true
  · rw [requestMsg, if_pos isLocal] at returned
    exact routed_dcLocal (.addressed isLocal) returned
  · have notLocal : RcLocal.lookup config msg = false := by simpa using isLocal
    cases forwarded : RcForwarded.lookup env msg with
    | some peer =>
      rw [requestMsg_forward notLocal forwarded] at returned
      exact routed_forward (.forward peer notLocal forwarded) returned
    | none =>
      have onward : Onward config env msg := ⟨notLocal, forwarded⟩
      rw [requestMsg_next notLocal forwarded] at returned
      rcases bind_eq_ok.mp returned with ⟨found, isFound, rest⟩
      cases found with
      | none =>
        cases source with
        | none =>
          cases rest
          exact .quiet rfl (by simp [Quiet, Delivery.copy])
        | some source => exact routed_sendErrorAnswer rest
      | some dest =>
        cases isRoute : (getOctets msg.acl AvpName.destRealm 0).bind
            config.routeTable.lookup with
        | none =>
          simp only [DcRouted.requestMsg, isRoute] at rest
          cases rest
        | some route =>
          by_cases redirect : route.action = .actionRedirect
          · simp only [DcRouted.requestMsg, isRoute, redirect] at rest
            rcases redirect_eq_ok rest with ⟨same, nothing | ⟨answer, answers, sends⟩⟩
            · exact .quiet same (by simp [Quiet, nothing])
            · exact .quiet same (quiet_of_answer answers sends)
          · by_cases takes : route.action = .actionLocal
            · simp only [DcRouted.requestMsg, isRoute, takes] at rest
              exact routed_dcLocal (.routed dest route onward isFound isRoute takes) rest
            · rcases rcRouted_route isFound isRoute with isRedirect | ⟨peer, rfl⟩
              · exact absurd isRedirect redirect
              · exact routed_onward (.routed peer route notLocal forwarded isFound isRoute
                  takes redirect) isRoute takes redirect rest

/-- A call that does not return ends by its own exception, with the router as it was, or
crashes. -/
def Fails (router : MsgRouter Peer) (abort : Abort Peer) : Prop :=
  abort = .thrown router ∨ abort = .crashed

theorem send_fails (router : MsgRouter Peer) (out : Option Msg) (dest : Option Peer) :
    FailsOnly (Fails router) (send env out dest) := by
  cases dest with
  | none => exact .error (.inr rfl)
  | some peer =>
    rw [send]
    split
    · exact .ok _
    · split
      · exact .ok _
      · exact .ok _

theorem generate_fails (router : MsgRouter Peer) (rcode : UInt32) :
    FailsOnly (Fails router) (generate config env msg rcode) := by
  rw [generate]
  split
  · exact .error (.inr rfl)
  · exact .ok _

theorem sendErrorAnswer_fails (rcode : UInt32) :
    FailsOnly (Fails router) (sendErrorAnswer config env router source msg rcode) :=
  .bind (generate_fails router rcode) fun _ _ => .bind (send_fails router _ _) fun _ _ => .ok _

theorem resend_fails (node : DeliveryNode) :
    FailsOnly (Fails router) (resend env router node dest msg) :=
  .bind (send_fails router _ _) fun _ _ => .ok _

theorem relay_fails (node : DeliveryNode) :
    FailsOnly (Fails router) (relay config env router node source dest msg) :=
  .bind (send_fails router _ _) fun _ _ => .ok _

theorem dcLocal_fails :
    FailsOnly (Fails router) (DcLocal.requestMsg config env router source dest msg) := by
  cases source with
  | none => exact .ok _
  | some peer => exact .ok _

theorem dcForward_fails :
    FailsOnly (Fails router) (DcForward.requestMsg config env router source dest msg) := by
  unfold DcForward.requestMsg
  split
  · exact resend_fails _
  · split
    · cases source with
      | none => exact .ok _
      | some peer => exact sendErrorAnswer_fails _
    · exact relay_fails _

theorem deliver_fails (action : RouteAction) (msg : Msg) :
    FailsOnly (Fails router) (DcRouted.deliver config env router action source dest msg) := by
  rw [DcRouted.deliver]
  split
  · split
    · exact .ok _
    · exact relay_fails _
  · exact relay_fails _

theorem redirectAvps_fails (router : MsgRouter Peer) (route : RouteEntry)
    (app : Option RouteApplication) :
    FailsOnly (Fails router) (RedirectAgent.redirectAvps route app) := by
  cases app with
  | none => exact .ok _
  | some app =>
    rw [RedirectAgent.redirectAvps]
    split
    · exact .error (.inr rfl)
    · exact .ok _

theorem redirect_fails :
    FailsOnly (Fails router) (RedirectAgent.request config env router source msg) := by
  unfold RedirectAgent.request
  split
  · exact .error (.inr rfl)
  · apply FailsOnly.bind (generate_fails router _)
    intro answer _
    split
    · exact .ok _
    · apply FailsOnly.bind (redirectAvps_fails router _ _)
      intro avps _
      exact .bind (send_fails router _ _) fun _ _ => .ok _

theorem dcRouted_fails :
    FailsOnly (Fails router) (DcRouted.requestMsg config env router source dest msg) := by
  unfold DcRouted.requestMsg
  split
  · exact .error (.inl rfl)
  · split
    · exact dcLocal_fails
    · exact redirect_fails
    · split
      · split
        · exact resend_fails _
        · split
          · exact sendErrorAnswer_fails _
          · exact deliver_fails _ _
      · exact deliver_fails _ _

theorem rcRouted_fails (router : MsgRouter Peer) :
    FailsOnly (Fails router) (RcRouted.lookup config env msg) := by
  intro abort failed
  rcases rcRouted_lookup_eq_error failed with ⟨_, _, _, isRealm, isRoute, isApp, notRedirect,
    empty⟩
  rw [rcRouted_lookup_noServers isRealm isRoute isApp notRedirect empty] at failed
  cases failed
  exact .inr rfl

theorem requestMsg_fails :
    FailsOnly (Fails router) (requestMsg config env router source msg) := by
  unfold requestMsg
  split
  · exact dcLocal_fails
  · split
    · exact dcForward_fails
    · apply FailsOnly.bind (rcRouted_fails router)
      intro found _
      split
      · exact dcRouted_fails
      · unfold DcReject.requestMsg
        cases source with
        | none => exact .ok _
        | some peer => exact sendErrorAnswer_fails _

end

end OpenDiameter.Router
