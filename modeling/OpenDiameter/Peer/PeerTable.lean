import OpenDiameter.Framework.StateTable

/-!
The state table of a peer, `DiameterPeerStateTable` of `aaa_peer_fsm.h`.
-/

namespace OpenDiameter.Peer

open Framework

inductive PeerState where
  | closed
  | waitConnAck
  | waitICea
  | waitConnAckElect
  | waitReturns
  | iOpen
  | rOpen
  | closing
deriving DecidableEq

inductive PeerEvent where
  | start
  | stop
  | timeout
  | connRetry
  | rConnCer
  | iRcvConnAck
  | iRcvConnNack
  | rRcvCea
  | iRcvCea
  | iPeerDisc
  | rPeerDisc
  | iRcvNonCea
  | winElection
  | sendMessage
  | rRcvMessage
  | iRcvMessage
  | rRcvDwr
  | iRcvDwr
  | rRcvDwa
  | iRcvDwa
  | rRcvDpr
  | iRcvDpr
  | rRcvCer
  | iRcvCer
  | rRcvDpa
  | iRcvDpa
  | watchdog
deriving DecidableEq

inductive PeerAction where
  | iSendConnReq
  | rAcceptSendCea
  | iSendCer
  | connNack
  | cleanup
  | retry
  | rAccept
  | error
  | processCea
  | rAcceptElect
  | disconnect
  | disconnectDpa
  | iSendCerElect
  | rSendCea
  | rSendCeaOpen
  | rDisconnectResp
  | rDisconnectIOpen
  | rReject
  | iDisconnectSendCea
  | rSendMessage
  | process
  | processDwrSendDwa
  | processDwa
  | iSendDpr
  | rSendDpr
  | iSendDpaDisconnect
  | rSendDpaDisconnect
  | iSendMessage
  | iSendCea
  | watchdog
deriving DecidableEq

/-- An entry for one event. -/
def entry (state : PeerState) (event : PeerEvent) (next : PeerState) (action : PeerAction) :
    StateTableEntry PeerState PeerEvent PeerAction where
  prevState := state
  event := some event
  nextState := next
  action := some action

def wildcardEntry (state next : PeerState) (action : Option PeerAction) :
    StateTableEntry PeerState PeerEvent PeerAction where
  prevState := state
  event := none
  nextState := next
  action := action

def peerStateTable : StateTable PeerState PeerEvent PeerAction :=
  [ entry .closed .start .waitConnAck .iSendConnReq,
    entry .closed .rConnCer .rOpen .rAcceptSendCea,
    entry .closed .connRetry .closed .retry,
    wildcardEntry .closed .closed (some .cleanup),

    entry .waitConnAck .iRcvConnAck .waitICea .iSendCer,
    entry .waitConnAck .iRcvConnNack .closed .connNack,
    entry .waitConnAck .rConnCer .waitConnAckElect .rAccept,
    entry .waitConnAck .timeout .closed .error,
    entry .waitConnAck .stop .closed .error,

    entry .waitICea .iRcvCea .iOpen .processCea,
    entry .waitICea .rConnCer .waitReturns .rAcceptElect,
    entry .waitICea .iPeerDisc .closed .disconnect,
    entry .waitICea .iRcvNonCea .closed .error,
    entry .waitICea .timeout .closed .error,
    entry .waitICea .stop .closed .error,

    entry .waitConnAckElect .iRcvConnAck .waitReturns .iSendCerElect,
    entry .waitConnAckElect .iRcvConnNack .rOpen .rSendCea,
    entry .waitConnAckElect .rPeerDisc .waitConnAck .rDisconnectResp,
    entry .waitConnAckElect .rConnCer .waitConnAckElect .rReject,
    entry .waitConnAckElect .timeout .closed .error,

    entry .waitReturns .winElection .rOpen .iDisconnectSendCea,
    entry .waitReturns .iPeerDisc .rOpen .iDisconnectSendCea,
    entry .waitReturns .iRcvCea .iOpen .rDisconnectIOpen,
    entry .waitReturns .rPeerDisc .waitICea .rDisconnectResp,
    entry .waitReturns .rConnCer .waitReturns .rReject,
    entry .waitReturns .timeout .closed .error,

    entry .rOpen .sendMessage .rOpen .rSendMessage,
    entry .rOpen .rRcvMessage .rOpen .process,
    entry .rOpen .rRcvDwr .rOpen .processDwrSendDwa,
    entry .rOpen .rRcvDwa .rOpen .processDwa,
    entry .rOpen .rConnCer .rOpen .rReject,
    entry .rOpen .stop .closing .rSendDpr,
    entry .rOpen .rRcvDpr .closed .rSendDpaDisconnect,
    entry .rOpen .rPeerDisc .closed .disconnect,
    entry .rOpen .rRcvCer .rOpen .rSendCeaOpen,
    entry .rOpen .rRcvCea .rOpen .processCea,
    entry .rOpen .watchdog .rOpen .watchdog,

    entry .iOpen .sendMessage .iOpen .iSendMessage,
    entry .iOpen .iRcvMessage .iOpen .process,
    entry .iOpen .iRcvDwr .iOpen .processDwrSendDwa,
    entry .iOpen .iRcvDwa .iOpen .processDwa,
    entry .iOpen .rConnCer .iOpen .rReject,
    entry .iOpen .stop .closing .iSendDpr,
    entry .iOpen .iRcvDpr .closed .iSendDpaDisconnect,
    entry .iOpen .iPeerDisc .closed .disconnect,
    entry .iOpen .iRcvCer .iOpen .iSendCea,
    entry .iOpen .iRcvCea .iOpen .processCea,
    entry .iOpen .watchdog .iOpen .watchdog,

    entry .closing .iRcvDpa .closed .disconnectDpa,
    entry .closing .rRcvDpa .closed .disconnectDpa,
    entry .closing .timeout .closed .error,
    entry .closing .iPeerDisc .closed .disconnect,
    entry .closing .rPeerDisc .closed .disconnect,
    wildcardEntry .closing .closing none ]

end OpenDiameter.Peer
