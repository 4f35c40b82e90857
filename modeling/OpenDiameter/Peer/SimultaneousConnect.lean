import OpenDiameter.Peer.PeerMachine

/-!
Two peers that connect to each other at the same time, each over a connection that it
initiates. The messages of a connection come in the order they are sent, and its end
after them.
-/

namespace OpenDiameter.Peer

inductive Side where
  | left
  | right
deriving DecidableEq

namespace Side

def other : Side → Side
  | .left => .right
  | .right => .left

@[simp] theorem other_ne (side : Side) : side.other ≠ side := by
  cases side <;> decide

@[simp] theorem ne_other (side : Side) : side ≠ side.other := by
  cases side <;> decide

@[simp] theorem other_other (side : Side) : side.other.other = side := by
  cases side <;> rfl

theorem eq_or_other (connection side : Side) : connection = side ∨ connection = side.other := by
  cases connection <;> cases side <;> simp [other]

end Side

/-- What a peer sent on a connection, the oldest first. -/
def Peer.sentOn {Avps : Type} (peer : Peer Side Avps) (connection : Side) :
    List (PeerMsg Avps) :=
  peer.sendQueue.filterMap fun transmission =>
    if transmission.io = some connection then some transmission.msg else none

/-- A peer at one side. A connection is named by the side that initiates it. -/
structure Endpoint (Avps : Type) where
  peer : Peer Side Avps
  started : Bool
  connected : Bool
  /-- How much has come on each connection. -/
  received : Side → Nat

namespace Endpoint

variable {Avps : Type}

def initial : Endpoint Avps where
  peer := .initial
  started := false
  connected := false
  received := fun _ => 0

/-- Until its CER comes a connection belongs to the acceptor, which closes it on
anything else. -/
def arrive (endpoint : Endpoint Avps) (side connection : Side) (msg : PeerMsg Avps) :
    Peer Side Avps :=
  if connection = side then endpoint.peer.message msg
  else if endpoint.received connection = 0 then
    if msg.code = .capabilitiesExchg ∧ msg.request = true then
      endpoint.peer.incommingConnectionRequest connection msg
    else { endpoint.peer with deleted := endpoint.peer.deleted ++ [connection] }
  else endpoint.peer.message msg

def lose (endpoint : Endpoint Avps) (side connection : Side) : Peer Side Avps :=
  if connection = side then endpoint.peer.collectorError .connector
  else if endpoint.received connection = 0 then
    { endpoint.peer with deleted := endpoint.peer.deleted ++ [connection] }
  else endpoint.peer.collectorError .acceptor

def receive (endpoint : Endpoint Avps) (connection : Side) (peer : Peer Side Avps) :
    Endpoint Avps :=
  { endpoint with
    peer
    received := fun other =>
      endpoint.received other + if other = connection then 1 else 0 }

/-- A step of one side: it is started once and connects once, serves an event, or takes
what comes on a connection. What comes on a connection that it has given up may be lost
with the connection. -/
inductive Step (config : PeerConfig Avps) (side : Side) (far near : Endpoint Avps) :
    Endpoint Avps → Prop
  | start : near.started = false →
      Step config side far near { near with peer := near.peer.start, started := true }
  | connect : near.started = true → near.connected = false →
      Step config side far near
        { near with peer := near.peer.connectionRequestAccepted side, connected := true }
  | serve (id : MsgId) (next : Peer Side Avps) : near.peer.serve config id = some next →
      Step config side far near { near with peer := next }
  | deliver (connection : Side) (msg : PeerMsg Avps) :
      (far.peer.sentOn connection)[near.received connection]? = some msg →
      Step config side far near (near.receive connection (near.arrive side connection msg))
  | lose (connection : Side) : near.received connection = (far.peer.sentOn connection).length →
      connection ∈ far.peer.deleted →
      Step config side far near (near.receive connection (near.lose side connection))
  | discard (connection : Side) : near.received connection ≤ (far.peer.sentOn connection).length →
      connection ∈ near.peer.deleted →
      Step config side far near (near.receive connection near.peer)

end Endpoint

/-- What two sides may come to. -/
inductive Reachable {Avps : Type} (config : Side → PeerConfig Avps) :
    Endpoint Avps → Endpoint Avps → Prop
  | initial : Reachable config .initial .initial
  | left {left right next : Endpoint Avps} : Reachable config left right →
      left.peer.crashed = false → Endpoint.Step (config .left) .left right left next →
      Reachable config next right
  | right {left right next : Endpoint Avps} : Reachable config left right →
      right.peer.crashed = false → Endpoint.Step (config .right) .right left right next →
      Reachable config left next

end OpenDiameter.Peer
