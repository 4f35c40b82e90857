import OpenDiameter.Framework.ProtectedMap
import OpenDiameter.Router.RouterMsg

/-!
What a delivery node keeps of the requests that wait for an answer.
-/

namespace OpenDiameter.Router

open Framework

variable {Peer : Type}

/-- The configuration that the router reads. -/
structure RouterConfig where
  identity : Octets
  realm : Octets
  backendAuth : Bool
  authAppIds : List UInt32
  acctAppIds : List UInt32
  /-- The authentication and the accounting id of each vendor specific application. -/
  vendorSpecificIds : List (UInt32 × UInt32)
  retxInterval : Nat
  retxMaxCount : Nat
  routeTable : RouteTable

/-- `AAA_ProxyHandler` of an application. It may change the AVPs of what passes. -/
structure ProxyHandler where
  requestMsg : Msg → Bool × Parser.AvpContainerList
  answerMsg : Msg → Parser.AvpContainerList
  errorMsg : Msg → Parser.AvpContainerList

/-- What the router finds around it at the time of a call. -/
structure Environment (Peer : Type) where
  /-- The peers with their identities, in the order of the peer table. -/
  peerTable : List (Octets × Peer)
  running : Peer → Bool
  isOpen : Peer → Bool
  /-- A local session has the Session-Id of the message. -/
  ownsSession : Msg → Bool
  proxyHandlers : UInt32 → Option ProxyHandler
  now : Nat
  /-- `rand()`, where the generator of hop-by-hop ids has to be seeded. -/
  hopSeed : HopId
  endToEnd : UInt32
  /-- The next message that is allocated. -/
  newObject : Nat

/-- `DiameterPeerTable::Lookup` -/
def Environment.lookupPeer (env : Environment Peer) (peername : Octets) : Option Peer :=
  (env.peerTable.find? fun entry => sameIgnoringCase entry.1 peername).map Prod.snd

/-- `DiameterHopByHopGenerator::Get` -/
def Environment.hopByHop (env : Environment Peer) (hopId : HopId) : HopId :=
  (if hopId = 0 then env.hopSeed else hopId) + 1

/-- `DiameterRouterPendingReq`; no source is the local node. -/
structure PendingReq (Peer : Type) where
  origHH : HopId
  source : Option Peer
  dest : Option Peer
  reTxExpireTime : Nat
  reTxCount : Nat
  reqMessage : Option Msg

/-- The delivery nodes that keep requests. -/
inductive DeliveryNode where
  | dcLocal
  | dcForward
  | dcRouted
  deriving DecidableEq, Repr

/-- The `m_ReqMap` of each node, and the last hop-by-hop id that was generated. -/
structure MsgRouter (Peer : Type) where
  pending : DeliveryNode → ProtectedMap HopId (PendingReq Peer)
  hopId : HopId

namespace MsgRouter

def initial : MsgRouter Peer where
  pending := fun _ => ∅
  hopId := 0

def setPending (router : MsgRouter Peer) (node : DeliveryNode)
    (map : ProtectedMap HopId (PendingReq Peer)) : MsgRouter Peer :=
  { router with pending := fun other => if other = node then map else router.pending other }

/-- The entry of a node under an id. -/
def pendingReq (router : MsgRouter Peer) (node : DeliveryNode) (h2hId : HopId) :
    Option (PendingReq Peer) :=
  (router.pending node).lookup h2hId

def add (router : MsgRouter Peer) (node : DeliveryNode) (localh2h : HopId)
    (req : PendingReq Peer) : MsgRouter Peer :=
  router.setPending node ((router.pending node).add localh2h req)

def update (router : MsgRouter Peer) (node : DeliveryNode) (h2hId : HopId)
    (change : PendingReq Peer → PendingReq Peer) : MsgRouter Peer :=
  router.setPending node ((router.pending node).update h2hId change)

/-- `DeleteQueuedMessage` -/
def deleteQueuedMessage (router : MsgRouter Peer) (node : DeliveryNode) (h2hId : HopId) :
    MsgRouter Peer :=
  router.setPending node ((router.pending node).remove h2hId)

def storeRequestMessage (router : MsgRouter Peer) (node : DeliveryNode) (h2hId : HopId)
    (msg : Msg) : MsgRouter Peer :=
  router.update node h2hId fun req => { req with reqMessage := some msg }

section

variable (router : MsgRouter Peer) (node other : DeliveryNode) (h2hId id : HopId)

@[simp] theorem setPending_hopId (map : ProtectedMap HopId (PendingReq Peer)) :
    (router.setPending node map).hopId = router.hopId := rfl

@[simp] theorem setPending_pending (map : ProtectedMap HopId (PendingReq Peer)) :
    (router.setPending node map).pending other = if other = node then map else router.pending other
    := rfl

@[simp] theorem add_hopId (req : PendingReq Peer) :
    (router.add node h2hId req).hopId = router.hopId := rfl

@[simp] theorem update_hopId (change : PendingReq Peer → PendingReq Peer) :
    (router.update node h2hId change).hopId = router.hopId := rfl

@[simp] theorem storeRequestMessage_hopId (msg : Msg) :
    (router.storeRequestMessage node h2hId msg).hopId = router.hopId := rfl

@[simp] theorem pendingReq_initial :
    (initial : MsgRouter Peer).pendingReq node h2hId = none := rfl

@[simp] theorem pendingReq_hopId (hopId : HopId) :
    ({ router with hopId } : MsgRouter Peer).pendingReq node id = router.pendingReq node id := rfl

@[simp] theorem pendingReq_add (req : PendingReq Peer) :
    (router.add node h2hId req).pendingReq other id =
      if other = node ∧ id = h2hId then some ((router.pendingReq node h2hId).getD req)
      else router.pendingReq other id := by
  unfold add pendingReq
  by_cases same : other = node
  · simp [same]
  · simp [same]

@[simp] theorem pendingReq_update (change : PendingReq Peer → PendingReq Peer) :
    (router.update node h2hId change).pendingReq other id =
      if other = node ∧ id = h2hId then (router.pendingReq node h2hId).map change
      else router.pendingReq other id := by
  unfold update pendingReq
  by_cases same : other = node
  · simp [same]
  · simp [same]

@[simp] theorem pendingReq_storeRequestMessage (msg : Msg) :
    (router.storeRequestMessage node h2hId msg).pendingReq other id =
      if other = node ∧ id = h2hId then
        (router.pendingReq node h2hId).map fun req => { req with reqMessage := some msg }
      else router.pendingReq other id :=
  pendingReq_update ..

@[simp] theorem pendingReq_deleteQueuedMessage :
    (router.deleteQueuedMessage node h2hId).pendingReq other id =
      if other = node ∧ id = h2hId then none else router.pendingReq other id := by
  unfold deleteQueuedMessage pendingReq
  by_cases same : other = node
  · simp [same]
  · simp [same]

end

end MsgRouter

end OpenDiameter.Router
