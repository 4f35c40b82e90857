import OpenDiameter.Router.RequestRouting

/-!
The chain of the delivery nodes that an answer goes through, and the requests that are
sent once more.
-/

namespace OpenDiameter.Router

open OpenDiameter.Parser

variable {Peer : Type}

/-- `DiameterDeliveryRoutingNode::Lookup`, which takes the request out: the entry, and the
answer with the id that the request came with. -/
def MsgRouter.lookup (router : MsgRouter Peer) (node : DeliveryNode) (msg : Msg) :
    Option (PendingReq Peer × Msg × MsgRouter Peer) :=
  (router.pendingReq node msg.hdr.hh).map fun req =>
    (req, { msg with hdr := { msg.hdr with hh := req.origHH } },
      router.deleteQueuedMessage node msg.hdr.hh)

section

variable (config : RouterConfig) (env : Environment Peer)

/-- The first redirect host of the answer, from one on, that is an open peer. -/
def RedirectAgent.redirectPeer (uris : List DiameterUri) : Option (DiameterUri × Peer) :=
  uris.findSome? fun uri =>
    ((env.lookupPeer uri.fqdn).filter env.isOpen).map fun peer => (uri, peer)

/-- The Redirect-Host AVPs that `GetAvp` finds one after the other. -/
def redirectHosts (acl : AvpContainerList) : List DiameterUri :=
  match acl.search AvpName.redirectHost with
  | none => []
  | some container =>
    container.entries.filterMap fun entry =>
      match entry.data with
      | .uri value => some value
      | _ => none

/-- The request goes to another host. -/
def setDestHost (acl : AvpContainerList) (fqdn : Octets) : AvpContainerList :=
  match getOctets acl AvpName.destHost 0 with
  | some _ => setFirst AvpName.destHost (.octets fqdn) acl
  | none => acl ++ [identityAvp AvpName.destHost fqdn]

/-- `RedirectAgent::Answer` -/
def RedirectAgent.answer (router : MsgRouter Peer) (msg : Msg) (p : Option Msg) :
    Except (Abort Peer) (Served Peer) :=
  match RedirectAgent.redirectPeer env (redirectHosts (delAvp msg.acl AvpName.resultCode)) with
  | none => .ok ⟨router, [], 0⟩
  | some (uri, peer) =>
    match p with
    | none => .error .crashed
    | some p => do
        let p := { p with acl := setDestHost p.acl uri.fqdn }
        let (sent, deliveries) ← send env (some p) (some peer)
        .ok ⟨router, deliveries, if 0 ≤ sent then 0 else -1⟩

/-- What `RxErrorMsgHandler::Answer` leaves of the message: nothing where a local session
takes it. -/
def errorHandled (msg : Msg) : Option Msg :=
  if env.ownsSession msg then none
  else
    match env.proxyHandlers msg.hdr.appId with
    | none => some msg
    | some handler => some { msg with acl := handler.errorMsg msg }

/-- What `RxErrorMsgHandler::Answer` delivers. -/
def errorDelivered (msg : Msg) : List (Delivery Peer) :=
  if env.ownsSession msg then [.errorAnswer msg] else []

/-- `RxProxyMsgHandler::Answer` -/
def proxyAnswered (msg : Msg) : Msg :=
  match env.proxyHandlers msg.hdr.appId with
  | none => msg
  | some handler => { msg with acl := handler.answerMsg msg }

/-- An answer for the local node: to the error handler, or to the local one. -/
def localAnswered (msg : Msg) : List (Delivery Peer) :=
  if msg.hdr.flags.e then errorDelivered env msg else [.localAnswer msg]

/-- `DcLocal::Process`, which is also `DcForward::Process`. -/
def DcLocal.process (router : MsgRouter Peer) (p : Option Msg) (dest : Option Peer)
    (msg : Msg) : Except (Abort Peer) (Served Peer) :=
  if msg.isRedirected then RedirectAgent.answer env router msg p
  else
    match dest with
    | none => .ok ⟨router, localAnswered env msg, 0⟩
    | some _ => do
        let (sent, deliveries) ← send env (some msg) dest
        .ok ⟨router, deliveries, if 0 ≤ sent then 0 else -1⟩

/-- `DcRouted::Process` -/
def DcRouted.process (router : MsgRouter Peer) (p : Option Msg) (dest : Option Peer)
    (msg : Msg) : Except (Abort Peer) (Served Peer) :=
  if msg.isRedirected then RedirectAgent.answer env router msg p
  else
    match dest with
    | none => .ok ⟨router, localAnswered env msg, 0⟩
    | some _ => do
        let handled := if msg.hdr.flags.e then errorHandled env msg
          else some (proxyAnswered env msg)
        let delivered := if msg.hdr.flags.e then errorDelivered env msg else []
        let (sent, deliveries) ← send env handled dest
        .ok ⟨router, delivered ++ deliveries, if 0 ≤ sent then 0 else -1⟩

def DeliveryNode.process (router : MsgRouter Peer) (p : Option Msg) (dest : Option Peer)
    (msg : Msg) : DeliveryNode → Except (Abort Peer) (Served Peer)
  | .dcLocal | .dcForward => DcLocal.process env router p dest msg
  | .dcRouted => DcRouted.process env router p dest msg

/-- `DiameterRoutingNode::Route`, from a node of the delivery chain on; `DcReject` discards
the answer. -/
def route (router : MsgRouter Peer) (msg : Msg) :
    List DeliveryNode → Except (Abort Peer) (Served Peer)
  | [] => .ok ⟨router, [], 0⟩
  | node :: rest =>
    match router.lookup node msg with
    | some (req, answer, router) => node.process env router req.reqMessage req.source answer
    | none => route router msg rest

/-- `DiameterMsgRouter::AnswerMsg`, whoever the answer comes from. -/
def answerMsg (router : MsgRouter Peer) (msg : Msg) : Except (Abort Peer) (Served Peer) :=
  route env router msg [.dcLocal, .dcForward, .dcRouted]

/-- The peer of a `PendingReqPeerCheck`, or the time of a `PendingReqAgeCheck`. -/
inductive ReTxCheck (Peer : Type) where
  | peer (threshold : Peer)
  | age (threshold : Nat)

/-- `match` -/
def ReTxCheck.matches [DecidableEq Peer] (check : ReTxCheck Peer) (req : PendingReq Peer) :
    Bool :=
  match check with
  | .peer threshold => req.dest == some threshold
  | .age threshold => req.reTxExpireTime < threshold

/-- `DcRequestReTransmission`: the message is marked, moved out of its entry and routed as
a request of its source. -/
def reTransmit (router : MsgRouter Peer) (node : DeliveryNode) (h2hId : HopId)
    (req : PendingReq Peer) : Except (Abort Peer) (Served Peer) :=
  match req.reqMessage with
  | none => .error .crashed
  | some msg =>
    let msg := { msg with hdr := { msg.hdr with flags := { msg.hdr.flags with t := true } } }
    let router := router.update node h2hId fun req =>
      { req with
        reTxCount := req.reTxCount + 1
        reTxExpireTime := env.now + config.retxInterval
        reqMessage := none }
    requestMsg config env router req.source msg

/-- `PendingReqReTxCheck` on one entry. -/
def reTxCheck [DecidableEq Peer] (router : MsgRouter Peer) (node : DeliveryNode)
    (check : ReTxCheck Peer) (h2hId : HopId) : Except (Abort Peer) (Served Peer) :=
  match router.pendingReq node h2hId with
  | none => .ok ⟨router, [], 0⟩
  | some req =>
    if check.matches req then
      if req.reTxCount < config.retxMaxCount then reTransmit config env router node h2hId req
      else .ok ⟨router.deleteQueuedMessage node h2hId, [], 0⟩
    else .ok ⟨router, [], 0⟩

end

end OpenDiameter.Router
