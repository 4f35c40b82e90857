import OpenDiameter.Foundation.Outcome
import OpenDiameter.Router.AnswerRouting

/-!
What a call of the router with a request can do.
-/

namespace OpenDiameter.Router

open OpenDiameter.Foundation OpenDiameter.Parser

variable {Peer : Type} {config : RouterConfig} {env : Environment Peer}
  {router : MsgRouter Peer} {source dest : Option Peer} {msg : Msg} {served : Served Peer}

/-- A message is transmitted where the peer is there and open. -/
def Sends (env : Environment Peer) (msg : Option Msg) (dest : Option Peer)
    (deliveries : List (Delivery Peer)) : Prop :=
  ∃ peer, dest = some peer ∧
    deliveries = if env.running peer ∧ env.isOpen peer then [.transmit peer msg] else []

theorem sends_of_send {out : Option Msg} {sent : Int} {deliveries : List (Delivery Peer)}
    (returned : send env out dest = .ok (sent, deliveries)) : Sends env out dest deliveries := by
  cases dest with
  | none => cases returned
  | some peer =>
    refine ⟨peer, rfl, ?_⟩
    rw [send] at returned
    by_cases running : env.running peer = false
    · rw [if_pos running] at returned
      cases returned
      simp [running]
    · rw [if_neg running] at returned
      by_cases isOpen : env.isOpen peer = true
      · rw [if_pos isOpen] at returned
        cases returned
        simp [running, isOpen]
      · rw [if_neg isOpen] at returned
        cases returned
        simp [isOpen]

theorem Sends.eq_transmit {out : Option Msg} {deliveries : List (Delivery Peer)}
    (sends : Sends env out dest deliveries) {delivery : Delivery Peer}
    (member : delivery ∈ deliveries) :
    ∃ peer, dest = some peer ∧ delivery = .transmit peer out ∧ env.running peer = true ∧
      env.isOpen peer = true := by
  rcases sends with ⟨peer, isDest, rfl⟩
  by_cases present : env.running peer ∧ env.isOpen peer
  · rw [if_pos present] at member
    exact ⟨peer, isDest, List.mem_singleton.mp member, present⟩
  · rw [if_neg present] at member
    cases member

variable {rcode : UInt32}

theorem generate_eq_ok {answer : Msg} :
    (generate config env msg rcode : Except (Abort Peer) Msg) = .ok answer ↔
      msg.errorAnswer env.newObject config.identity config.realm rcode = some answer := by
  rw [generate]
  split <;> simp [*]

theorem errorAnswer_hdr {object : Nat} {identity realm : Octets} {answer : Msg}
    (made : msg.errorAnswer object identity realm rcode = some answer) :
    answer.hdr = { msg.hdr with flags := { msg.hdr.flags with e := true, r := false } } ∧
      answer.object = object := by
  rw [Msg.errorAnswer, Option.map_eq_some_iff] at made
  rcases made with ⟨_, _, rfl⟩
  exact ⟨rfl, rfl⟩

/-- The message answers a request with an error. -/
structure AnswersError (request answer : Msg) : Prop where
  hdr : answer.hdr =
    { request.hdr with flags := { request.hdr.flags with e := true, r := false } }

theorem sendErrorAnswer_eq_ok
    (returned : sendErrorAnswer config env router source msg rcode = .ok served) :
    ∃ answer deliveries, AnswersError msg answer ∧ Sends env (some answer) source deliveries ∧
      served.router = router ∧ served.deliveries = deliveries := by
  rw [sendErrorAnswer] at returned
  rcases bind_eq_ok.mp returned with ⟨answer, made, rest⟩
  rcases bind_eq_ok.mp rest with ⟨⟨sent, deliveries⟩, transmitted, last⟩
  cases last
  exact ⟨answer, deliveries, ⟨(errorAnswer_hdr (generate_eq_ok.mp made)).1⟩,
    sends_of_send transmitted, rfl, rfl⟩

/-- A request is noted under its id, sent to the destination and stored. -/
structure Relays (env : Environment Peer) (config : RouterConfig) (router : MsgRouter Peer)
    (node : DeliveryNode) (source dest : Option Peer) (msg : Msg) (served : Served Peer) :
    Prop where
  state : served.router = noteRequest config env router node source dest msg
  sends : Sends env (some (assignIds env router source msg).outMsg) dest served.deliveries

/-- The entry that a request has once it is noted. -/
def notedReq (config : RouterConfig) (env : Environment Peer) (router : MsgRouter Peer)
    (node : DeliveryNode) (source dest : Option Peer) (msg : Msg) : PendingReq Peer :=
  let ids := assignIds env router source msg
  let req := (router.pendingReq node ids.h2hIndex).getD
    (pendingOf config env (notedMsg env router source msg) source dest)
  if 0 < ids.h2hIndex then { req with reqMessage := some ids.outMsg } else req

theorem pendingReq_noteRequest (node other : DeliveryNode) (id : HopId) :
    (noteRequest config env router node source dest msg).pendingReq other id =
      if other = node ∧ id = (assignIds env router source msg).h2hIndex then
        some (notedReq config env router node source dest msg)
      else router.pendingReq other id := by
  unfold noteRequest notedReq
  by_cases positive : 0 < (assignIds env router source msg).h2hIndex
  · simp only [if_pos positive, MsgRouter.pendingReq_storeRequestMessage,
      MsgRouter.pendingReq_add, MsgRouter.pendingReq_hopId]
    by_cases here : other = node ∧ id = (assignIds env router source msg).h2hIndex
    · simp [here]
    · simp [here]
  · simp only [if_neg positive, MsgRouter.pendingReq_add, MsgRouter.pendingReq_hopId]

theorem relay_eq_ok {node : DeliveryNode}
    (returned : relay config env router node source dest msg = .ok served) :
    Relays env config router node source dest msg served := by
  rw [relay] at returned
  rcases bind_eq_ok.mp returned with ⟨⟨sent, deliveries⟩, transmitted, last⟩
  cases last
  exact ⟨rfl, sends_of_send transmitted⟩

/-- A request is sent once more, and its message stored again. -/
structure Resends (env : Environment Peer) (router : MsgRouter Peer) (node : DeliveryNode)
    (dest : Option Peer) (msg : Msg) (served : Served Peer) : Prop where
  queued : isQueued router node msg = true
  state : served.router = router.storeRequestMessage node msg.hdr.hh msg
  sends : Sends env (some msg) dest served.deliveries

theorem resend_eq_ok {node : DeliveryNode} (queued : isQueued router node msg = true)
    (returned : resend env router node dest msg = .ok served) :
    Resends env router node dest msg served := by
  rw [resend] at returned
  rcases bind_eq_ok.mp returned with ⟨⟨sent, deliveries⟩, transmitted, last⟩
  cases last
  exact ⟨queued, rfl, sends_of_send transmitted⟩

theorem redirect_eq_ok
    (returned : RedirectAgent.request config env router source msg = .ok served) :
    served.router = router ∧ (served.deliveries = [] ∨
      ∃ answer, AnswersError msg answer ∧ Sends env (some answer) source served.deliveries) := by
  unfold RedirectAgent.request at returned
  split at returned
  · cases returned
  · rcases bind_eq_ok.mp returned with ⟨answer, made, rest⟩
    split at rest
    · cases rest
      exact ⟨rfl, .inl rfl⟩
    · rcases bind_eq_ok.mp rest with ⟨avps, _, rest⟩
      rcases bind_eq_ok.mp rest with ⟨⟨sent, deliveries⟩, transmitted, last⟩
      cases last
      have answers : AnswersError msg { answer with acl := answer.acl ++ avps } :=
        ⟨(errorAnswer_hdr (generate_eq_ok.mp made)).1⟩
      exact ⟨rfl, .inr ⟨_, answers, sends_of_send transmitted⟩⟩

theorem proxyRequest_eq_some {out : Msg} (accepted : proxyRequest env msg = some out) :
    ∃ acl, out = { msg with acl } := by
  rw [proxyRequest] at accepted
  split at accepted
  · cases accepted
  · rename_i handler _
    by_cases proceed : (handler.requestMsg msg).1 = true
    · rw [if_pos proceed] at accepted
      cases accepted
      exact ⟨_, rfl⟩
    · rw [if_neg proceed] at accepted
      cases accepted

end OpenDiameter.Router
