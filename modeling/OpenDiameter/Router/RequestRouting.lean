import OpenDiameter.Router.PendingRequests

/-!
The chain of the routing nodes that a request goes through, and what its delivery node
does with it.
-/

namespace OpenDiameter.Router

open OpenDiameter.Parser

variable {Peer : Type}

/-- What the router gives away. A message to transmit goes to the thread of the peer,
which follows the pointer also where it is null. -/
inductive Delivery (Peer : Type) where
  | transmit (peer : Peer) (msg : Option Msg)
  | localRequest (source : Peer) (msg : Msg)
  | localAnswer (msg : Msg)
  | errorRequest (msg : Msg)
  /-- A local session takes the answer. -/
  | errorAnswer (msg : Msg)

structure Served (Peer : Type) where
  router : MsgRouter Peer
  deliveries : List (Delivery Peer)
  rcode : Int

/-- How a call may end that does not return. -/
inductive Abort (Peer : Type) where
  /-- `throw (0)` -/
  | thrown (router : MsgRouter Peer)
  /-- A null pointer is followed, or the front of an empty list read. -/
  | crashed

/-- What `DiameterPeerStateMachine::Send` returns and has transmitted. -/
def send (env : Environment Peer) (msg : Option Msg) :
    Option Peer → Except (Abort Peer) (Int × List (Delivery Peer))
  | none => .error .crashed
  | some peer =>
    if env.running peer = false then .ok (-1, [])
    else if env.isOpen peer then .ok (0, [.transmit peer msg])
    else .ok (0, [])

section

variable (config : RouterConfig) (env : Environment Peer)

/-- `DiameterErrorMsg::Generate` -/
def generate (msg : Msg) (rcode : UInt32) : Except (Abort Peer) Msg :=
  match msg.errorAnswer env.newObject config.identity config.realm rcode with
  | none => .error .crashed
  | some answer => .ok answer

/-- The error answer is sent to the source. -/
def sendErrorAnswer (router : MsgRouter Peer) (source : Option Peer) (msg : Msg)
    (rcode : UInt32) : Except (Abort Peer) (Served Peer) := do
  let answer ← generate config env msg rcode
  let (sent, deliveries) ← send env (some answer) source
  .ok ⟨router, deliveries, if 0 ≤ sent then 0 else -1⟩

/-! The routing nodes. -/

/-- `RcLocal::Lookup` -/
def RcLocal.lookup (msg : Msg) : Bool :=
  match getOctets msg.acl AvpName.destHost 0 with
  | some destHost => sameIgnoringCase destHost config.identity
  | none =>
    match getOctets msg.acl AvpName.destRealm 0 with
    | some destRealm =>
      sameIgnoringCase destRealm config.realm && config.backendAuth &&
        (config.authAppIds.contains msg.hdr.appId ||
          config.acctAppIds.contains msg.hdr.appId ||
          config.vendorSpecificIds.any fun ids =>
            ids.1 == msg.hdr.appId || ids.2 == msg.hdr.appId)
    | none => true

/-- `RcForwarded::Lookup` -/
def RcForwarded.lookup (msg : Msg) : Option Peer :=
  match getOctets msg.acl AvpName.destHost 0 with
  | some destHost => (env.lookupPeer destHost).filter env.isOpen
  | none => none

/-- `substr(find("@"), length() - 1)`, which throws where there is no `@`. -/
def userNameRealm (userName : Octets) : Option Octets :=
  (userName.idxOf? 64).map fun position =>
    (userName.drop position).take (userName.length - 1)

/-- The realm by which `RcRouted` looks a route up. -/
def RcRouted.destRealm (msg : Msg) : Option Octets :=
  match getOctets msg.acl AvpName.destRealm 0 with
  | some realm => some realm
  | none => (getOctets msg.acl AvpName.userName 0).bind userNameRealm

/-- The application of a route that fits the message. -/
def RouteEntry.applicationOf (route : RouteEntry) (msg : Msg) : Option RouteApplication :=
  match route.lookup msg.hdr.appId 0 with
  | some app => some app
  | none =>
    match getUInt32Of msg.acl AvpName.authAppId AvpName.acctAppId with
    | some id => route.lookup id 0
    | none =>
      match getGrouped msg.acl AvpName.vendorAppId with
      | none => none
      | some grouped =>
        match getUInt32 grouped AvpName.vendorId,
          getUInt32Of grouped AvpName.authAppId AvpName.acctAppId with
        | some vid, some value => route.lookup value vid
        | _, _ => none

/-- The first server with an open peer. -/
def Environment.openServer (servers : List Octets) : Option Peer :=
  servers.findSome? fun server => (env.lookupPeer server).filter env.isOpen

/-- `RcRouted::Lookup`, once the realm is known: no destination where the next node is to
try, and none of it where the request is to be redirected. -/
def RcRouted.lookupRealm (msg : Msg) (realm : Octets) :
    Except (Abort Peer) (Option (Option Peer)) :=
  match config.routeTable.lookup realm with
  | none => .ok none
  | some route =>
    match route.applicationOf msg with
    | none => .ok none
    | some app =>
      if route.action = .actionRedirect then .ok (some none)
      else if app.servers = [] then .error .crashed
      else .ok ((env.openServer app.servers).map some)

/-- `RcRouted::Lookup`; its own exceptions send the request to the next node. -/
def RcRouted.lookup (msg : Msg) : Except (Abort Peer) (Option (Option Peer)) :=
  match RcRouted.destRealm msg with
  | none => .ok none
  | some realm => RcRouted.lookupRealm config env msg realm

/-! The delivery nodes. -/

/-- What `Add` notes of a request. -/
def pendingOf (msg : Msg) (source dest : Option Peer) : PendingReq Peer where
  origHH := msg.hdr.hh
  source := source
  dest := dest
  reTxExpireTime := env.now + config.retxInterval
  reTxCount := 0
  reqMessage := none

/-- `DcLocal::RequestMsg` -/
def DcLocal.requestMsg (router : MsgRouter Peer) (source dest : Option Peer) (msg : Msg) :
    Except (Abort Peer) (Served Peer) :=
  match source with
  | some peer =>
    .ok ⟨router.add .dcLocal msg.hdr.hh (pendingOf config env msg source dest),
      [.localRequest peer msg], 0⟩
  | none => .ok ⟨router, [], 0⟩

/-- The texts of a container. -/
def octetsOf (container : AvpContainer) : List Octets :=
  container.entries.filterMap fun entry =>
    match entry.data with
    | .octets value => some value
    | _ => none

/-- The Route-Records that `GetAvp` finds one after the other. -/
def routeRecords (acl : AvpContainerList) : List Octets :=
  ((acl.search AvpName.routeRecord).map octetsOf).getD []

/-- `LoopDetection` -/
def loopDetection (msg : Msg) : Bool :=
  (routeRecords msg.acl).contains config.identity

/-- A request that the router sends once more: only the message is stored again. -/
def resend (router : MsgRouter Peer) (node : DeliveryNode) (dest : Option Peer) (msg : Msg) :
    Except (Abort Peer) (Served Peer) := do
  let (sent, deliveries) ← send env (some msg) dest
  .ok ⟨router.storeRequestMessage node msg.hdr.hh msg, deliveries,
    if 0 ≤ sent then 0 else -1⟩

structure AssignedIds where
  /-- The id under which the request waits. -/
  h2hIndex : HopId
  /-- The message as it is sent. -/
  outMsg : Msg
  /-- The last id that was generated. -/
  hopId : HopId

/-- The ids of a request that is sent on: a new one for a received request, and for a local
one where it has none. -/
def assignIds (router : MsgRouter Peer) (source : Option Peer) (msg : Msg) : AssignedIds :=
  match source with
  | some _ =>
    let localHH := env.hopByHop router.hopId
    ⟨localHH, { msg with hdr := { msg.hdr with hh := localHH } }, localHH⟩
  | none =>
    let hh := if msg.hdr.hh = 0 then env.hopByHop router.hopId else msg.hdr.hh
    let ee := if msg.hdr.ee = 0 then env.endToEnd else msg.hdr.ee
    ⟨hh, { msg with hdr := { msg.hdr with hh, ee } },
      if msg.hdr.hh = 0 then hh else router.hopId⟩

/-- The message that `Add` sees: a local request has its ids by then. -/
def notedMsg (router : MsgRouter Peer) (source : Option Peer) (msg : Msg) : Msg :=
  match source with
  | some _ => msg
  | none => (assignIds env router source msg).outMsg

/-- The request is noted, and its message stored under a positive id. -/
def noteRequest (router : MsgRouter Peer) (node : DeliveryNode) (source dest : Option Peer)
    (msg : Msg) : MsgRouter Peer :=
  let ids := assignIds env router source msg
  let noted := { router with hopId := ids.hopId }.add node ids.h2hIndex
    (pendingOf config env (notedMsg env router source msg) source dest)
  if 0 < ids.h2hIndex then noted.storeRequestMessage node ids.h2hIndex ids.outMsg else noted

/-- The end of `DcForward::RequestMsg` and `DcRouted::RequestMsg`. -/
def relay (router : MsgRouter Peer) (node : DeliveryNode) (source dest : Option Peer)
    (msg : Msg) : Except (Abort Peer) (Served Peer) := do
  let (sent, deliveries) ← send env (some (assignIds env router source msg).outMsg) dest
  .ok ⟨noteRequest config env router node source dest msg, deliveries,
    if 0 ≤ sent then 0 else -1⟩

/-- The request is marked as sent before, and waits in the node. -/
def isQueued (router : MsgRouter Peer) (node : DeliveryNode) (msg : Msg) : Bool :=
  msg.hdr.flags.t && (router.pendingReq node msg.hdr.hh).isSome

/-- `DcForward::RequestMsg` -/
def DcForward.requestMsg (router : MsgRouter Peer) (source dest : Option Peer) (msg : Msg) :
    Except (Abort Peer) (Served Peer) :=
  if isQueued router .dcForward msg then resend env router .dcForward dest msg
  else if loopDetection config msg then
    match source with
    | some _ => sendErrorAnswer config env router source msg ResultCode.loopDetected
    | none => .ok ⟨router, [.errorRequest msg], -1⟩
  else relay config env router .dcForward source dest msg

/-- The application that a redirect agent finds, or its return without an answer. -/
def RedirectAgent.application (route : RouteEntry) (msg : Msg) :
    Option (Option RouteApplication) :=
  let app := route.lookup msg.hdr.appId 0
  match app, getUInt32Of msg.acl AvpName.authAppId AvpName.acctAppId with
  | none, some id => some (route.lookup id 0)
  | _, _ =>
    match getGrouped msg.acl AvpName.vendorAppId with
    | none => some app
    | some grouped =>
      match getUInt32 grouped AvpName.vendorId with
      | none => none
      | some vid =>
        match getUInt32Of grouped AvpName.authAppId AvpName.acctAppId with
        | none => some app
        | some value => some (route.lookup value vid)

/-- The redirect hosts that are added to the answer. The fields of a URI that are not
assigned read as zero. -/
def RedirectAgent.redirectAvps (route : RouteEntry) :
    Option RouteApplication → Except (Abort Peer) AvpContainerList
  | none => .ok []
  | some app =>
    if app.servers = [] then .error .crashed
    else
      .ok [avpOf AvpName.redirectHostUsage .enum (.integer32 route.redirectUsage),
        { avpName := AvpName.redirectHost
          entries := app.servers.map fun server => ⟨.diamUri, .uri ⟨server, 0, 0, 0, 0⟩⟩ }]

/-- `RedirectAgent::Request` -/
def RedirectAgent.request (router : MsgRouter Peer) (source : Option Peer) (msg : Msg) :
    Except (Abort Peer) (Served Peer) :=
  match (getOctets msg.acl AvpName.destRealm 0).bind config.routeTable.lookup with
  | none => .error .crashed
  | some route => do
      let answer ← generate config env msg ResultCode.redirectIndication
      match RedirectAgent.application route msg with
      | none => .ok ⟨router, [], -1⟩
      | some app =>
        let avps ← RedirectAgent.redirectAvps route app
        let answer := { answer with acl := answer.acl ++ avps }
        let (sent, deliveries) ← send env (some answer) source
        .ok ⟨router, deliveries, if 0 ≤ sent then 0 else -1⟩

/-- `RxProxyMsgHandler::Request`: the message where it may be sent on. Without a handler
of the application it may not. -/
def proxyRequest (msg : Msg) : Option Msg :=
  match env.proxyHandlers msg.hdr.appId with
  | none => none
  | some handler =>
    let returned := handler.requestMsg msg
    if returned.1 then some { msg with acl := returned.2 } else none

/-- The Origin-Host is another one. -/
def fromElsewhere (msg : Msg) : Bool :=
  getOctets msg.acl AvpName.originHost 0 != some config.identity

/-- The local identity is added in a container of its own. -/
def addRouteRecord (msg : Msg) : Msg :=
  { msg with acl := msg.acl ++ [identityAvp AvpName.routeRecord config.identity] }

/-- `DcRouted::RequestMsg`, from the proxy handler on. -/
def DcRouted.deliver (router : MsgRouter Peer) (action : RouteAction)
    (source dest : Option Peer) (msg : Msg) : Except (Abort Peer) (Served Peer) :=
  if action = .actionProxy then
    match proxyRequest env msg with
    | none => .ok ⟨router, [], 0⟩
    | some msg => relay config env router .dcRouted source dest msg
  else relay config env router .dcRouted source dest msg

/-- `DcRouted::RequestMsg` -/
def DcRouted.requestMsg (router : MsgRouter Peer) (source dest : Option Peer) (msg : Msg) :
    Except (Abort Peer) (Served Peer) :=
  match (getOctets msg.acl AvpName.destRealm 0).bind config.routeTable.lookup with
  | none => .error (.thrown router)
  | some route =>
    match route.action with
    | .actionLocal => DcLocal.requestMsg config env router source dest msg
    | .actionRedirect => RedirectAgent.request config env router source msg
    | action =>
      if fromElsewhere config msg then
        if isQueued router .dcRouted msg then resend env router .dcRouted dest msg
        else if loopDetection config msg then
          sendErrorAnswer config env router source msg ResultCode.loopDetected
        else DcRouted.deliver config env router action source dest (addRouteRecord config msg)
      else DcRouted.deliver config env router action source dest msg

/-- `DcReject::RequestMsg` -/
def DcReject.requestMsg (router : MsgRouter Peer) (source : Option Peer) (msg : Msg) :
    Except (Abort Peer) (Served Peer) :=
  match source with
  | none => .ok ⟨router, [.errorRequest msg], 0⟩
  | some _ => sendErrorAnswer config env router source msg ResultCode.unableToDeliver

/-- `DiameterMsgRouter::RequestMsg`, through the request chain. -/
def requestMsg (router : MsgRouter Peer) (source : Option Peer) (msg : Msg) :
    Except (Abort Peer) (Served Peer) :=
  if RcLocal.lookup config msg then DcLocal.requestMsg config env router source none msg
  else
    match RcForwarded.lookup env msg with
    | some dest => DcForward.requestMsg config env router source (some dest) msg
    | none => do
        match ← RcRouted.lookup config env msg with
        | some dest => DcRouted.requestMsg config env router source dest msg
        | none => DcReject.requestMsg config env router source msg

end

end OpenDiameter.Router
