import OpenDiameter.Peer.PeerTable

/-!
The peer state machine of `aaa_peer_fsm.cxx` and the events that the transport and
the peer table post to it in `aaa_peer_table.cxx`. Timers are what may post their
events at any time. `Io` stands for the objects of the connections, `Avps` for what
a capabilities exchange carries besides the Origin-Host.
-/

namespace OpenDiameter.Peer

open Framework

inductive MsgCode where
  | capabilitiesExchg
  | watchdog
  | disconnectPeer
  | other
deriving DecidableEq

/-- A hop-by-hop and an end-to-end id. -/
structure MsgId where
  hh : UInt32
  ee : UInt32
deriving DecidableEq

structure PeerMsg (Avps : Type) where
  code : MsgCode
  request : Bool
  id : MsgId
  originHost : List Int8
  /-- 0 where there is no Result-Code. -/
  resultCode : Nat
  avps : Option Avps

/-- `InterpretedResultCode` is `RCODE_SUCCESS`. -/
def PeerMsg.success {Avps : Type} (msg : PeerMsg Avps) : Bool :=
  msg.resultCode / 1000 = 2

inductive Validation where
  | success
  | noCommonApplication
  | noCommonSecurity
deriving DecidableEq

/-- The result code `ValidatePeer` sets. -/
def Validation.rcode : Validation → Nat
  | .success => 2001
  | .noCommonApplication => 5010
  | .noCommonSecurity => 5017

structure PeerConfig (Avps : Type) where
  identity : List Int8
  avps : Avps
  /-- `ValidatePeer` on what `DisassembleCE` took from the message. -/
  validatePeer : PeerMsg Avps → Validation

namespace PeerConfig

variable {Avps : Type}

/-- `AssembleCE` with the ids and, in an answer, the Result-Code. -/
def assembleCe (config : PeerConfig Avps) (request : Bool) (id : MsgId) (rcode : Nat) :
    PeerMsg Avps where
  code := .capabilitiesExchg
  request := request
  id := id
  originHost := config.identity
  resultCode := rcode
  avps := some config.avps

def assembleDw (config : PeerConfig Avps) (request : Bool) (id : MsgId) (rcode : Nat) :
    PeerMsg Avps where
  code := .watchdog
  request := request
  id := id
  originHost := config.identity
  resultCode := rcode
  avps := none

def assembleDp (config : PeerConfig Avps) (request : Bool) (id : MsgId) (rcode : Nat) :
    PeerMsg Avps where
  code := .disconnectPeer
  request := request
  id := id
  originHost := config.identity
  resultCode := rcode
  avps := none

end PeerConfig

structure PeerEventParam (Io Avps : Type) where
  event : PeerEvent
  msg : Option (PeerMsg Avps)
  io : Option Io

/-- A message given to the transmission thread, and the ids of the request it is the
answer to. -/
structure Transmission (Io Avps : Type) where
  io : Option Io
  msg : PeerMsg Avps
  answers : Option MsgId

structure Peer (Io Avps : Type) where
  state : PeerState
  running : Bool
  eventQueue : List (PeerEventParam Io Avps)
  current : Option (PeerEventParam Io Avps)
  ioInitiator : Option Io
  ioResponder : Option Io
  /-- The Origin-Host of `m_PeerCapabilities`. -/
  host : List Int8
  lastTxHopId : List UInt32
  lastTxEndId : List UInt32
  lastRxHopId : List UInt32
  lastRxEndId : List UInt32
  sendQueue : List (Transmission Io Avps)
  /-- The connections given to the garbage collector or deleted. -/
  deleted : List Io
  /-- A null pointer was used; nothing happens after it. -/
  crashed : Bool
  /-- The ids of the last CER that was accepted to be answered later. -/
  accepted : Option MsgId

inductive Election where
  | sameHost
  | won
  | lost
deriving DecidableEq

/-- The comparison of `Elect` from an octet on. -/
def compareHosts : List Int8 → List Int8 → Election
  | localOctet :: localHost, peerOctet :: peerHost =>
    if localOctet = peerOctet then compareHosts localHost peerHost
    else if localOctet > peerOctet then .won
    else .lost
  | _, _ => .lost

/-- The comparison of `Elect`, where the shorter host is padded with octets 8. -/
def electHosts (localHost peerHost : List Int8) : Election :=
  if localHost.length < peerHost.length then
    compareHosts (localHost ++ List.replicate (peerHost.length - localHost.length) 8) peerHost
  else if localHost.length > peerHost.length then
    compareHosts localHost (peerHost ++ List.replicate (localHost.length - peerHost.length) 8)
  else if localHost = peerHost then .sameHost
  else compareHosts localHost peerHost

namespace Peer

variable {Io Avps : Type}

/-- `Notify`, which drops the event unless the machine is running. -/
def notify (peer : Peer Io Avps) (event : PeerEvent) (msg : Option (PeerMsg Avps))
    (io : Option Io) : Peer Io Avps :=
  if peer.running then { peer with eventQueue := peer.eventQueue ++ [⟨event, msg, io⟩] }
  else { peer with deleted := peer.deleted ++ io.toList }

def addId (ids : List UInt32) (id : UInt32) : List UInt32 :=
  if id ∈ ids then ids else id :: ids

/-- `MsgIdTxMessage` of an answer, which takes the first ids received. -/
def msgIdTxAnswer (peer : Peer Io Avps) : MsgId × Peer Io Avps :=
  (⟨peer.lastRxHopId.headD 0, peer.lastRxEndId.headD 0⟩,
    { peer with
      lastRxHopId := peer.lastRxHopId.tail
      lastRxEndId := peer.lastRxEndId.tail })

/-- `MsgIdTxMessage` of a request with the ids of the generators. -/
def msgIdTxRequest (peer : Peer Io Avps) (id : MsgId) : Peer Io Avps :=
  { peer with
    lastTxHopId := addId peer.lastTxHopId id.hh
    lastTxEndId := addId peer.lastTxEndId id.ee }

def msgIdRxMessage (peer : Peer Io Avps) (msg : PeerMsg Avps) : Bool × Peer Io Avps :=
  if msg.request then
    (true,
      { peer with
        lastRxHopId := peer.lastRxHopId ++ [msg.id.hh]
        lastRxEndId := peer.lastRxEndId ++ [msg.id.ee] })
  else if msg.id.hh ∈ peer.lastTxHopId then
    let peer := { peer with lastTxHopId := peer.lastTxHopId.erase msg.id.hh }
    if msg.id.ee ∈ peer.lastTxEndId then
      (true, { peer with lastTxEndId := peer.lastTxEndId.erase msg.id.ee })
    else (false, peer)
  else (false, peer)

def transmit (peer : Peer Io Avps) (io : Option Io) (msg : PeerMsg Avps)
    (answers : Option MsgId) : Peer Io Avps :=
  { peer with sendQueue := peer.sendQueue ++ [⟨io, msg, answers⟩] }

/-- `TransportProtocolInUse` asks the initiator or else the responder. -/
def transportProtocolInUse (peer : Peer Io Avps) : Peer Io Avps :=
  if peer.ioInitiator.isNone ∧ peer.ioResponder.isNone then { peer with crashed := true }
  else peer

/-- The connection an answer goes out on. -/
def openIo (peer : Peer Io Avps) : Option Io :=
  if peer.state = .iOpen then peer.ioInitiator else peer.ioResponder

variable (config : PeerConfig Avps)

def sendCer (peer : Peer Io Avps) (id : MsgId) : Peer Io Avps :=
  let peer := (peer.msgIdTxRequest id).transportProtocolInUse
  peer.transmit peer.ioInitiator
    (config.assembleCe true id 0) none

def sendCea (peer : Peer Io Avps) (rcode : Nat) (answers : Option MsgId) : Peer Io Avps :=
  let (id, peer) := peer.msgIdTxAnswer
  let peer := peer.transportProtocolInUse
  peer.transmit peer.openIo
    (config.assembleCe false id rcode) answers

def sendDwr (peer : Peer Io Avps) (id : MsgId) : Peer Io Avps :=
  let peer := peer.msgIdTxRequest id
  peer.transmit peer.openIo
    (config.assembleDw true id 0) none

def sendDwa (peer : Peer Io Avps) (rcode : Nat) (answers : Option MsgId) : Peer Io Avps :=
  let (id, peer) := peer.msgIdTxAnswer
  peer.transmit peer.openIo
    (config.assembleDw false id rcode) answers

def sendDpr (peer : Peer Io Avps) (initiator : Bool) (id : MsgId) : Peer Io Avps :=
  let peer := peer.msgIdTxRequest id
  peer.transmit (if initiator then peer.ioInitiator else peer.ioResponder)
    (config.assembleDp true id 0) none

def sendDpa (peer : Peer Io Avps) (initiator : Bool) (rcode : Nat)
    (answers : Option MsgId) : Peer Io Avps :=
  let (id, peer) := peer.msgIdTxAnswer
  peer.transmit (if initiator then peer.ioInitiator else peer.ioResponder)
    (config.assembleDp false id rcode) answers

def dropInitiator (peer : Peer Io Avps) : Peer Io Avps :=
  { peer with ioInitiator := none, deleted := peer.deleted ++ peer.ioInitiator.toList }

def dropResponder (peer : Peer Io Avps) : Peer Io Avps :=
  { peer with ioResponder := none, deleted := peer.deleted ++ peer.ioResponder.toList }

/-- `Cleanup` with or without `CLEANUP_IO_I`. Outside of `Serve` there is no current
event, and its pointer is null. -/
def cleanup (peer : Peer Io Avps) (keepInitiator : Bool) : Peer Io Avps :=
  let peer := { peer with host := [], running := false }.dropResponder
  let peer := if keepInitiator then peer else peer.dropInitiator
  match peer.current with
  | none => { peer with crashed := true }
  | some param =>
    { peer with
      current := some { param with msg := none, io := none }
      deleted := peer.deleted ++ param.io.toList
      state := .closed
      running := true }

/-- The connection of the current event. -/
def currentIo (peer : Peer Io Avps) : Option Io :=
  peer.current.bind fun param => param.io

def currentMsg (peer : Peer Io Avps) : Option (PeerMsg Avps) :=
  peer.current.bind fun param => param.msg

/-- The connection is taken from the current event, and an older one deleted. -/
def takeInitiator (peer : Peer Io Avps) : Peer Io Avps :=
  { peer with
    ioInitiator := peer.currentIo
    deleted := peer.deleted ++ peer.ioInitiator.toList
    current := peer.current.map fun param => { param with io := none } }

def takeResponder (peer : Peer Io Avps) : Peer Io Avps :=
  { peer with
    ioResponder := peer.currentIo
    deleted := peer.deleted ++ peer.ioResponder.toList
    current := peer.current.map fun param => { param with io := none } }

/-- The message is taken from the current event; a null pointer to it is used. -/
def withMsg (peer : Peer Io Avps) (use : PeerMsg Avps → Peer Io Avps → Peer Io Avps) :
    Peer Io Avps :=
  match peer.currentMsg with
  | none => { peer with crashed := true }
  | some msg =>
    use msg
      { peer with current := peer.current.map fun param => { param with msg := none } }

def disassembleCe (peer : Peer Io Avps) (msg : PeerMsg Avps) : Peer Io Avps :=
  { peer with host := msg.originHost }

def elect (peer : Peer Io Avps) : Peer Io Avps :=
  match electHosts config.identity peer.host with
  | .sameHost => peer.cleanup false
  | .won => peer.notify .winElection none none
  | .lost => peer

/-- `DiameterPeerEntry::Start`; the connector goes to work. -/
def start (peer : Peer Io Avps) : Peer Io Avps :=
  peer.notify .start none none

def act (peer : Peer Io Avps) (id : MsgId) : PeerAction → Peer Io Avps
  | .iSendConnReq => peer
  | .rAcceptSendCea =>
    peer.takeResponder.withMsg fun cer peer =>
      let peer := peer.disassembleCe cer
      let validation := config.validatePeer cer
      let peer := peer.sendCea config validation.rcode (some cer.id)
      if validation = .success then peer else peer.cleanup false
  | .iSendCer => peer.takeInitiator.sendCer config id
  | .connNack => peer.cleanup false
  | .cleanup => peer.cleanup false
  | .retry => peer.start
  | .rAccept =>
    peer.takeResponder.withMsg fun cer peer =>
      let peer := { peer.disassembleCe cer with accepted := some cer.id }
      if config.validatePeer cer = .success then peer else peer.cleanup false
  | .error => peer.cleanup false
  | .processCea =>
    peer.withMsg fun cea peer =>
      if cea.success then peer.disassembleCe cea else peer.cleanup false
  | .rAcceptElect =>
    peer.takeResponder.withMsg fun cer peer =>
      let peer := { peer.disassembleCe cer with accepted := some cer.id }
      if config.validatePeer cer = .success then peer.elect config
      else peer.cleanup true
  | .disconnect => peer.cleanup false
  | .disconnectDpa => peer.withMsg fun _ peer => peer.cleanup false
  | .iSendCerElect => (peer.takeInitiator.sendCer config id).elect config
  | .rSendCea => peer.takeResponder.sendCea config 2001 peer.accepted
  | .rSendCeaOpen =>
    peer.withMsg fun cer peer =>
      (peer.disassembleCe cer).sendCea config (config.validatePeer cer).rcode (some cer.id)
  | .rDisconnectResp => peer.dropResponder
  | .rDisconnectIOpen =>
    peer.withMsg fun cea peer =>
      if cea.success then (peer.disassembleCe cea).dropResponder else peer.cleanup false
  | .rReject => { peer with
      current := peer.current.map fun param => { param with msg := none, io := none }
      deleted := peer.deleted ++ peer.currentIo.toList }
  | .iDisconnectSendCea => peer.dropInitiator.sendCea config 2001 peer.accepted
  -- empty unless compiled for asynchronous sending
  | .rSendMessage => peer
  -- the message goes to the router
  | .process => peer.withMsg fun _ peer => peer
  | .processDwrSendDwa =>
    peer.withMsg fun dwr peer => peer.sendDwa config 2001 (some dwr.id)
  | .processDwa =>
    peer.withMsg fun dwa peer => if dwa.success then peer else peer.cleanup false
  | .iSendDpr => peer.sendDpr config true id
  | .rSendDpr => peer.sendDpr config false id
  | .iSendDpaDisconnect =>
    peer.withMsg fun dpr peer => (peer.sendDpa config true 2001 (some dpr.id)).cleanup false
  | .rSendDpaDisconnect =>
    peer.withMsg fun dpr peer => (peer.sendDpa config false 2001 (some dpr.id)).cleanup false
  | .iSendMessage => peer
  | .iSendCea =>
    peer.withMsg fun cer peer =>
      (peer.disassembleCe cer).sendCea config (config.validatePeer cer).rcode (some cer.id)
  | .watchdog => peer.sendDwr config id

/-- `Event`: the state changes before the action. -/
def event (peer : Peer Io Avps) (id : MsgId) (event : PeerEvent) : Peer Io Avps :=
  if peer.running = false then peer
  else
    match peerStateTable.find peer.state event with
    | none => peer
    | some entry =>
      let peer := { peer with state := entry.nextState }
      match entry.action with
      | none => peer
      | some action => peer.act config id action

/-- The current event is deleted with what was not taken from it. -/
def release (peer : Peer Io Avps) : Peer Io Avps :=
  { peer with
    current := none
    deleted := peer.deleted ++ peer.currentIo.toList }

/-- `Serve` of the first event of the queue. -/
def serve (peer : Peer Io Avps) (id : MsgId) : Option (Peer Io Avps) :=
  match peer.eventQueue with
  | [] => none
  | param :: rest =>
    let peer := { peer with eventQueue := rest, current := some param }
    some (peer.event config id param.event).release

/-! What the transport and the peer table post. -/

def stop (peer : Peer Io Avps) : Peer Io Avps :=
  peer.notify .stop none none

def incommingConnectionRequest (peer : Peer Io Avps) (io : Io) (cer : PeerMsg Avps) :
    Peer Io Avps :=
  (peer.msgIdRxMessage cer).2.notify .rConnCer (some cer) (some io)

def connectionRequestAccepted (peer : Peer Io Avps) (io : Io) : Peer Io Avps :=
  peer.notify .iRcvConnAck none (some io)

def connectionRequestFailed (peer : Peer Io Avps) : Peer Io Avps :=
  peer.notify .iRcvConnNack none none

/-- The event of a base protocol message, by the side it is taken to come from. -/
def messageEvent (initiator request : Bool) : MsgCode → PeerEvent
  | .capabilitiesExchg =>
    if initiator then (if request then .iRcvCer else .iRcvCea)
    else (if request then .rRcvCer else .rRcvCea)
  | .watchdog =>
    if initiator then (if request then .iRcvDwr else .iRcvDwa)
    else (if request then .rRcvDwr else .rRcvDwa)
  | .disconnectPeer =>
    if initiator then (if request then .iRcvDpr else .iRcvDpa)
    else (if request then .rRcvDpr else .rRcvDpa)
  | .other => if initiator then .iRcvMessage else .rRcvMessage

def isCea (msg : PeerMsg Avps) : Bool :=
  msg.code = .capabilitiesExchg ∧ msg.request = false

/-- `Message`, which reads the state when the message arrives. -/
def message (peer : Peer Io Avps) (msg : PeerMsg Avps) : Peer Io Avps :=
  if peer.state = .waitICea ∧ isCea msg = false then
    peer.notify .iRcvNonCea none none
  else if msg.code = .other then
    match peer.state with
    | .iOpen => peer.notify .iRcvMessage (some msg) none
    | .rOpen => peer.notify .rRcvMessage (some msg) none
    | _ => peer
  else
    let (known, peer) := peer.msgIdRxMessage msg
    if known = false ∧ msg.request = false then peer
    else
      match peer.state with
      | .iOpen => peer.notify (messageEvent true msg.request msg.code) (some msg) none
      | .rOpen => peer.notify (messageEvent false msg.request msg.code) (some msg) none
      | .closing =>
        peer.notify (messageEvent peer.ioInitiator.isSome msg.request msg.code)
          (some msg) none
      | .waitReturns | .waitICea =>
        if isCea msg then peer.notify .iRcvCea (some msg) none else peer
      | _ => peer

/-- The errors of a message collector, by what `Error` does with them. -/
inductive CollectorError where
  /-- `TRANSPORT_ERROR` on the connection of an acceptor or a connector. -/
  | acceptor
  | connector
  | parsing
  | others
deriving DecidableEq

def collectorError (peer : Peer Io Avps) : CollectorError → Peer Io Avps
  | .acceptor => peer.notify .rPeerDisc none none
  | .connector => peer.notify .iPeerDisc none none
  | .parsing => peer
  | .others => peer.cleanup false

/-- A peer as it is constructed. -/
def initial : Peer Io Avps where
  state := .closed
  running := true
  eventQueue := []
  current := none
  ioInitiator := none
  ioResponder := none
  host := []
  lastTxHopId := []
  lastTxEndId := []
  lastRxHopId := []
  lastRxEndId := []
  sendQueue := []
  deleted := []
  crashed := false
  accepted := none

/-- The peer in a state with its first event current. -/
def serving (peer : Peer Io Avps) (param : PeerEventParam Io Avps)
    (rest : List (PeerEventParam Io Avps)) (state : PeerState) : Peer Io Avps :=
  { peer with state, eventQueue := rest, current := some param }

/-- What the first event may lead to: nothing, a state without an action, or an action
in the next state. -/
inductive Handles (config : PeerConfig Avps) (id : MsgId) (peer : Peer Io Avps)
    (param : PeerEventParam Io Avps) (rest : List (PeerEventParam Io Avps)) :
    Peer Io Avps → Prop
  | unlisted : peerStateTable.find peer.state param.event = none →
      Handles config id peer param rest (peer.serving param rest peer.state)
  | idle (entry : StateTableEntry PeerState PeerEvent PeerAction) :
      peerStateTable.find peer.state param.event = some entry → entry.action = none →
      Handles config id peer param rest (peer.serving param rest entry.nextState)
  | acts (entry : StateTableEntry PeerState PeerEvent PeerAction) (action : PeerAction) :
      peerStateTable.find peer.state param.event = some entry → entry.action = some action →
      Handles config id peer param rest
        ((peer.serving param rest entry.nextState).act config id action)

variable {config : PeerConfig Avps} {param : PeerEventParam Io Avps}
  {rest : List (PeerEventParam Io Avps)}

theorem Handles.unlisted_eq {id : MsgId} {peer handled : Peer Io Avps}
    (handles : Handles config id peer param rest handled)
    (noRow : peerStateTable.find peer.state param.event = none) :
    handled = peer.serving param rest peer.state := by
  cases handles with
  | unlisted _ => rfl
  | idle entry found _ =>
    rw [noRow] at found
    contradiction
  | acts entry action found _ =>
    rw [noRow] at found
    contradiction

theorem Handles.acts_eq {id : MsgId} {peer handled : Peer Io Avps}
    (handles : Handles config id peer param rest handled)
    {row : StateTableEntry PeerState PeerEvent PeerAction}
    (isRow : peerStateTable.find peer.state param.event = some row) {action : PeerAction}
    (isAction : row.action = some action) :
    handled = (peer.serving param rest row.nextState).act config id action := by
  cases handles with
  | unlisted noRow =>
    rw [isRow] at noRow
    contradiction
  | idle entry found noAction =>
    rw [isRow] at found
    cases found
    rw [isAction] at noAction
    contradiction
  | acts entry other found isOther =>
    rw [isRow] at found
    cases found
    rw [isAction] at isOther
    cases isOther
    rfl

theorem serve_cases {peer next : Peer Io Avps} {id : MsgId} (running : peer.running = true)
    (served : peer.serve config id = some next) :
    ∃ param rest handled,
      peer.eventQueue = param :: rest ∧ Handles config id peer param rest handled ∧
      next = handled.release := by
  unfold serve at served
  split at served
  · contradiction
  · rename_i param rest queue
    cases served
    refine ⟨param, rest, _, queue, ?_, rfl⟩
    simp only [event, running, Bool.true_eq_false, if_false]
    split
    · rename_i unlisted
      simpa only [serving, running] using Handles.unlisted unlisted
    · rename_i entry found
      split
      · rename_i noAction
        simpa only [serving, running] using Handles.idle entry found noAction
      · rename_i action isAction
        simpa only [serving, running] using Handles.acts entry action found isAction

variable {peer : Peer Io Avps}

theorem withMsg_serving {state : PeerState} {msg : PeerMsg Avps} (isMsg : param.msg = some msg)
    (use : PeerMsg Avps → Peer Io Avps → Peer Io Avps) :
    (peer.serving param rest state).withMsg use =
      use msg (peer.serving { param with msg := none } rest state) := by
  simp [withMsg, currentMsg, serving, isMsg]

theorem takeResponder_serving (peer : Peer Io Avps) (param : PeerEventParam Io Avps)
    (rest : List (PeerEventParam Io Avps)) (state : PeerState) :
    (peer.serving param rest state).takeResponder =
      { peer with
        ioResponder := param.io
        deleted := peer.deleted ++ peer.ioResponder.toList }.serving
          { param with io := none } rest state := rfl

theorem takeInitiator_serving (peer : Peer Io Avps) (param : PeerEventParam Io Avps)
    (rest : List (PeerEventParam Io Avps)) (state : PeerState) :
    (peer.serving param rest state).takeInitiator =
      { peer with
        ioInitiator := param.io
        deleted := peer.deleted ++ peer.ioInitiator.toList }.serving
          { param with io := none } rest state := rfl

theorem takeResponder_withMsg {state : PeerState} {msg : PeerMsg Avps}
    (isMsg : param.msg = some msg) (use : PeerMsg Avps → Peer Io Avps → Peer Io Avps) :
    (peer.serving param rest state).takeResponder.withMsg use =
      use msg
        ({ peer with
          ioResponder := param.io
          deleted := peer.deleted ++ peer.ioResponder.toList }.serving
            { param with msg := none, io := none } rest state) := by
  rw [takeResponder_serving, withMsg_serving]
  exact isMsg

theorem transportProtocolInUse_eq (peer : Peer Io Avps) :
    peer.transportProtocolInUse =
      { peer with
        crashed := peer.crashed || (peer.ioInitiator.isNone && peer.ioResponder.isNone) } := by
  unfold transportProtocolInUse
  split
  · rename_i noIo
    simp [noIo.1, noIo.2]
  · rename_i someIo
    rw [← Bool.and_eq_true, Bool.not_eq_true] at someIo
    simp only [someIo, Bool.or_false]

/-- A CER changes the books, the send queue, and whether a null pointer was used. -/
theorem sendCer_eq (peer : Peer Io Avps) (id : MsgId) :
    peer.sendCer config id =
      { peer with
        lastTxHopId := addId peer.lastTxHopId id.hh
        lastTxEndId := addId peer.lastTxEndId id.ee
        sendQueue := peer.sendQueue ++ [⟨peer.ioInitiator, config.assembleCe true id 0, none⟩]
        crashed := peer.crashed || (peer.ioInitiator.isNone && peer.ioResponder.isNone) } := by
  simp [sendCer, transportProtocolInUse_eq, transmit, msgIdTxRequest]

theorem sendCea_eq (peer : Peer Io Avps) (rcode : Nat) (answers : Option MsgId) :
    peer.sendCea config rcode answers =
      { peer with
        lastRxHopId := peer.lastRxHopId.tail
        lastRxEndId := peer.lastRxEndId.tail
        sendQueue := peer.sendQueue ++
          [⟨peer.openIo,
            config.assembleCe false ⟨peer.lastRxHopId.headD 0, peer.lastRxEndId.headD 0⟩ rcode,
            answers⟩]
        crashed := peer.crashed || (peer.ioInitiator.isNone && peer.ioResponder.isNone) } := by
  simp [sendCea, transportProtocolInUse_eq, transmit, msgIdTxAnswer, openIo]

/-- An election with another host may only be won or lost. -/
theorem elect_eq (running : peer.running = true)
    (different : electHosts config.identity peer.host ≠ .sameHost) :
    peer.elect config =
      { peer with
        eventQueue := peer.eventQueue ++
          if electHosts config.identity peer.host = .won then [⟨.winElection, none, none⟩]
          else [] } := by
  unfold elect
  cases outcome : electHosts config.identity peer.host with
  | sameHost => exact absurd outcome different
  | won => simp [notify, running]
  | lost => simp

/-- During the service of an event a cleanup closes the peer. -/
theorem cleanup_eq (current : peer.current = some param) (keepInitiator : Bool) :
    peer.cleanup keepInitiator =
      { peer with
        state := .closed
        running := true
        host := []
        ioResponder := none
        ioInitiator := if keepInitiator then peer.ioInitiator else none
        current := some { param with msg := none, io := none }
        deleted := peer.deleted ++ peer.ioResponder.toList ++
          (if keepInitiator then [] else peer.ioInitiator.toList) ++ param.io.toList } := by
  cases keepInitiator <;> simp [cleanup, dropResponder, dropInitiator, current]

end Peer

/-- What happens to a peer: a call of the transport or the peer table, a timer, or
the service of the next event. -/
inductive PeerInput (Io Avps : Type) where
  | start
  | stop
  | timer (event : PeerEvent)
  | incommingConnectionRequest (io : Io) (cer : PeerMsg Avps)
  | connectionRequestAccepted (io : Io)
  | connectionRequestFailed
  | message (msg : PeerMsg Avps)
  | collectorError (error : Peer.CollectorError)
  | serve (id : MsgId)

namespace PeerInput

variable {Io Avps : Type}

/-- The timers are for three events, and an incoming connection comes with a CER. -/
def Possible : PeerInput Io Avps → Prop
  | .timer event => event = .timeout ∨ event = .connRetry ∨ event = .watchdog
  | .incommingConnectionRequest _ cer =>
    cer.code = .capabilitiesExchg ∧ cer.request = true
  | _ => True

def perform (config : PeerConfig Avps) (peer : Peer Io Avps) :
    PeerInput Io Avps → Option (Peer Io Avps)
  | .start => some peer.start
  | .stop => some peer.stop
  | .timer event => some (peer.notify event none none)
  | .incommingConnectionRequest io cer => some (peer.incommingConnectionRequest io cer)
  | .connectionRequestAccepted io => some (peer.connectionRequestAccepted io)
  | .connectionRequestFailed => some peer.connectionRequestFailed
  | .message msg => some (peer.message msg)
  | .collectorError error => some (peer.collectorError error)
  | .serve id => peer.serve config id

end PeerInput

/-- The states of a peer after possible inputs that meet a condition. After a null
pointer was used there are none. -/
inductive PeerRun {Io Avps : Type} (config : PeerConfig Avps)
    (Meets : Peer Io Avps → PeerInput Io Avps → Prop) : Peer Io Avps → Prop
  | initial : PeerRun config Meets .initial
  | step {peer next : Peer Io Avps} (input : PeerInput Io Avps) :
      PeerRun config Meets peer → peer.crashed = false → input.Possible →
      Meets peer input → input.perform config peer = some next →
      PeerRun config Meets next

end OpenDiameter.Peer
