import OpenDiameter.Framework.StateTable

/-!
The messages of PANA, the events of its state machines, and the settings of a node.
-/

namespace OpenDiameter.Pana

/-- `pana_octetstring_t` -/
abbrev PanaOctetstring := List UInt8

/-- A request and its answer have one type. -/
def mtypePci : UInt16 := 1
def mtypePar : UInt16 := 2
def mtypePtr : UInt16 := 3
def mtypePnr : UInt16 := 4

def rcodeSuccess : UInt32 := 0
def rcodeAuthenticationRejected : UInt32 := 1
def rcodeAuthorizationRejected : UInt32 := 2

def termcauseLogout : UInt32 := 1
def termcauseAdministrative : UInt32 := 4
def termcauseSessionTimeout : UInt32 := 8

def prfHmacSha1 : UInt32 := 2
def authHmacSha1160 : UInt32 := 7
def authHmacSize : Nat := 20

/-- `ACE_INET_Addr` -/
structure InetAddr where
  ipAddress : UInt32
  portNumber : UInt16
  deriving DecidableEq, Repr

structure PanaFlags where
  request : Bool := false
  start : Bool := false
  complete : Bool := false
  auth : Bool := false
  ping : Bool := false
  ipreconfig : Bool := false
  deriving DecidableEq, Repr

structure PanaMsgHeader where
  flags : PanaFlags := {}
  type : UInt16
  sessionId : UInt32 := 0
  seq : UInt32 := 0
  deriving DecidableEq, Repr

/-- The AVPs that a session reads or adds. -/
inductive PanaAvp where
  | eapPayload (value : PanaOctetstring)
  | nonce (value : PanaOctetstring)
  | auth (value : PanaOctetstring)
  | integrityAlgorithm (value : UInt32)
  | prfAlgorithm (value : UInt32)
  | resultCode (value : UInt32)
  | sessionLifetime (value : UInt32)
  | keyId (value : UInt32)
  | terminationCause (value : UInt32)
  deriving DecidableEq, Repr

structure PanaMessage extends PanaMsgHeader where
  srcAddress : InetAddr := ⟨0, 0⟩
  destAddress : InetAddr := ⟨0, 0⟩
  avpList : List PanaAvp := []
  deriving DecidableEq, Repr

namespace PanaMessage

/-- `GetAvp(PANA_AVPNAME_EAP)`: the first AVP of the name. -/
def eapPayload (msg : PanaMessage) : Option PanaOctetstring :=
  msg.avpList.findSome? fun | .eapPayload value => some value | _ => none

def nonce (msg : PanaMessage) : Option PanaOctetstring :=
  msg.avpList.findSome? fun | .nonce value => some value | _ => none

def authAvp (msg : PanaMessage) : Option PanaOctetstring :=
  msg.avpList.findSome? fun | .auth value => some value | _ => none

def integrityAlgorithms (msg : PanaMessage) : List UInt32 :=
  msg.avpList.filterMap fun | .integrityAlgorithm value => some value | _ => none

def prfAlgorithms (msg : PanaMessage) : List UInt32 :=
  msg.avpList.filterMap fun | .prfAlgorithm value => some value | _ => none

def resultCode (msg : PanaMessage) : Option UInt32 :=
  msg.avpList.findSome? fun | .resultCode value => some value | _ => none

def sessionLifetime (msg : PanaMessage) : Option UInt32 :=
  msg.avpList.findSome? fun | .sessionLifetime value => some value | _ => none

def keyId (msg : PanaMessage) : Option UInt32 :=
  msg.avpList.findSome? fun | .keyId value => some value | _ => none

def terminationCause (msg : PanaMessage) : Option UInt32 :=
  msg.avpList.findSome? fun | .terminationCause value => some value | _ => none

def add (msg : PanaMessage) (avp : PanaAvp) : PanaMessage :=
  { msg with avpList := msg.avpList ++ [avp] }

end PanaMessage

/-- The value of the first AUTH AVP is replaced. -/
def setAuth (value : PanaOctetstring) : List PanaAvp → List PanaAvp
  | [] => []
  | .auth _ :: rest => .auth value :: rest
  | avp :: rest => avp :: setAuth value rest

/-- `PANA_ST` -/
inductive PanaState where
  | initial
  | waitPar
  | waitPan
  | waitSuccPan
  | waitFailPan
  | waitEapMsg
  | waitEapResult
  | waitEapResultClose
  | opened
  | waitPna
  | waitPanOrPar
  | sessTerm
  | closed
  deriving DecidableEq, Repr

/-- `PANA_MSG_TYPE`, which tells a request from its answer. -/
inductive PanaMsgType where
  | pci
  | par
  | pan
  | pnr
  | pna
  | ptr
  | pta
  deriving DecidableEq, Repr

inductive PanaEapEvent where
  | success
  | failure
  | request
  | response
  | invalidMsg
  | timeout
  | respTimeout
  deriving DecidableEq, Repr

inductive PanaAppEvent where
  | pacFound
  | reauth
  | terminate
  | authUser
  | ping
  deriving DecidableEq, Repr

inductive PanaResultCode where
  | fail
  | success
  deriving DecidableEq, Repr

/--
`PANA_PacEventVariable` and `PANA_PaaEventVariable`: the bits of an event that one of the two
state tables looks at.
-/
structure PanaEvent where
  msgType : Option PanaMsgType := none
  flagStart : Bool := false
  flagComplete : Bool := false
  flagAuth : Bool := false
  flagPing : Bool := false
  eventApp : Option PanaAppEvent := none
  eventEap : Option PanaEapEvent := none
  cfgEapPiggyback : Bool := false
  cfgOptimizedHshk : Bool := false
  doAuthorize : Bool := false
  doRetryTimeout : Bool := false
  doReTransmission : Bool := false
  doSessTimeout : Bool := false
  resultCode : Option PanaResultCode := none
  avpExistEapPayload : Bool := false
  deriving DecidableEq, Repr

inductive PanaExceptionCode where
  | failed
  | invalidMessage
  | missingEapPayload
  | missingAlgorithm
  | missingPrf
  | invalidAlgorithm
  | invalidPrf
  deriving DecidableEq, Repr

structure PanaException where
  code : PanaExceptionCode
  description : String
  deriving DecidableEq, Repr

/-- Which of the two parties a session is. -/
inductive PanaRole where
  | pac
  | paa
  deriving DecidableEq, Repr

/--
The configuration, and what a session takes from the message parser and from OpenSSL: the octets
of a message and the keyed hash of octets.
-/
structure PanaSettings where
  sessionLifetime : UInt32
  listenAddress : InetAddr
  eapPiggyback : Bool
  paaPortNumber : UInt16
  optimizedHandshake : Bool
  carryLifetime : Bool
  ipReconfig : Bool
  byteStream : PanaMsgHeader → List PanaAvp → PanaOctetstring
  hmac : PanaOctetstring → PanaOctetstring → PanaOctetstring

end OpenDiameter.Pana
