import OpenDiameter.Pana.Session

/-!
`PANA_Paa` and `PANA_PaaSession`: the actions of the PAA, its state table, its message handlers,
and what the EAP authenticator and the application ask of it.
-/

namespace OpenDiameter.Pana

open OpenDiameter.Framework

namespace Paa

section Actions

variable (settings : PanaSettings) (callbacks : PanaCallbacks)

def notifyAuthorization : PanaM Unit := do
  let session ← get
  notify <| .authorize
    { pacAddress := session.pacAddress
      paaAddress := session.paaAddress
      ipReconfiguration := session.ipReconfiguration
      key := if session.sa.msk.isSet then some session.sa.msk.value else none
      lifetime := session.sessionLifetime }

def notifyEapRestart : PanaM Unit :=
  notify .eapStart

def notifyEapReAuth : PanaM Unit := do
  updateSa SecurityAssociation.resetNonces
  notify .eapStart

/-- The EAP payload of a start in an optimized handshake. -/
def startPayload : PanaM (List PanaAvp) := do
  let session ← get
  if settings.optimizedHandshake ∧ session.txEapMessageQueue = [] then
    throwPana .missingEapPayload "No EAP payload generated on optimized handshake"
  else
    eapPayloadAvp settings.optimizedHandshake

def txPARStart : PanaM Unit := do
  let seq ← nextTxSeqNum
  let session ← get
  let payload ← startPayload settings
  let msg : PanaMessage :=
    { flags := { request := true, start := true }, type := mtypePar,
      sessionId := session.sessionId, seq,
      avpList := payload ++
        [.integrityAlgorithm authHmacSha1160, .prfAlgorithm prfHmacSha1] }
  sendReqMsg settings .paa msg
  updateSa fun sa => { sa with parStart := msgByteStream settings msg }

/-- Both algorithms have to be there, each with the one value that is supported. -/
def checkAlgorithms (msg : PanaMessage) : PanaM Unit :=
  match msg.integrityAlgorithms.head?, msg.prfAlgorithms.head? with
  | none, _ => throwPana .missingAlgorithm "No Integrity Algorithm present"
  | some integrity, prf =>
    if integrity ≠ authHmacSha1160 then
      throwPana .invalidAlgorithm "Integrity Algorithm not supported"
    else
      match prf with
      | none => throwPana .missingPrf "No PRF Algorithm present"
      | some prf =>
        if prf ≠ prfHmacSha1 then throwPana .invalidPrf "PRF Algorithm not supported"
        else pure ()

def startEap (msg : PanaMessage) : PanaM Unit :=
  match msg.eapPayload with
  | some payload => notify (.eapResponse payload)
  | none => if settings.optimizedHandshake then pure () else notifyEapRestart

def rxPANStart : PanaM Unit := do
  let msg ← dequeueRxMsg
  checkAlgorithms msg
  startEap settings msg
  updateSa fun sa => { sa with panStart := msgByteStream settings msg }

def txPAR : PanaM Unit := do
  let seq ← nextTxSeqNum
  let session ← get
  if session.txEapMessageQueue = [] then
    throwPana .missingEapPayload "No EAP payload on TxPAR"
  else
    let packet ← dequeueTxEap
    let nonce : List PanaAvp :=
      if session.sa.paaNonce.isSet then [] else [.nonce callbacks.nonce]
    updateSa fun sa =>
      if sa.paaNonce.isSet then sa else { sa with paaNonce := .set callbacks.nonce }
    sendReqMsg settings .paa <| session.withAuth settings
      { flags := { request := true }, type := mtypePar, sessionId := session.sessionId, seq,
        avpList := .eapPayload packet :: nonce }

/-- The AVPs of a success: the lifetime of an authorized session, and the new key's identifier. -/
def successAvps (session : PanaSession) : List PanaAvp :=
  (if session.authorized ∧ session.sessionLifetime > 0 ∧ settings.carryLifetime then
      [.sessionLifetime session.sessionLifetime] else []) ++
    (if callbacks.newKey.isSome then [.keyId session.sa.mskId] else [])

/-- `TxPARComplete`, on EAP success or failure. -/
def txPARComplete (rcode : UInt32) (eapSuccess : Bool) : PanaM Unit := do
  let seq ← nextTxSeqNum
  let session ← get
  let packet ← dequeueTxEap
  updateAaaKeys settings callbacks eapSuccess
  let keyed ← get
  sendReqMsg settings .paa <| keyed.withAuth settings
    { flags :=
        { request := true, complete := true
          ipreconfig := eapSuccess && session.authorized && session.ipReconfiguration }
      type := mtypePar, seq, sessionId := session.sessionId
      avpList := [.resultCode rcode, .eapPayload packet] ++
        (if eapSuccess then successAvps settings callbacks session else []) }

def rxPANComplete (success : Bool) : PanaM Unit := do
  let _ ← dequeueRxMsg
  if success then notifyAuthorization else disconnect settings callbacks 0

def txPAN : PanaM Unit := do
  let session ← get
  sendAnsMsg settings .paa <| session.withAuth settings
    { type := mtypePar, seq := session.lastRxSeqNum, sessionId := session.sessionId }

def notifyEapResponse (msg : PanaMessage) : PanaM Unit :=
  match msg.eapPayload with
  | some payload => notify (.eapResponse payload)
  | none => pure ()

def rxPAR : PanaM Unit := do
  let msg ← dequeueRxMsg
  notifyEapResponse msg
  txPAN settings

def updatePacNonce (msg : PanaMessage) : PanaM Unit :=
  updateSa fun sa =>
    match msg.nonce with
    | some nonce => if sa.pacNonce.isSet then sa else { sa with pacNonce := .set nonce }
    | none => sa

def rxPAN : PanaM Unit := do
  let msg ← dequeueRxMsg
  updatePacNonce msg
  notifyEapResponse msg

def txPNAAuth : PanaM Unit := do
  let session ← get
  sendAnsMsg settings .paa <| session.withAuth settings
    { flags := { auth := true }, type := mtypePnr, seq := session.lastRxSeqNum,
      sessionId := session.sessionId }

def rxPNRAuth : PanaM Unit := do
  let _ ← dequeueRxMsg
  updateSa SecurityAssociation.resetNonces
  notifyEapReAuth
  txPNAAuth settings

end Actions

end Paa

/-- The actions of `PANA_PaaStateTable`. -/
inductive PaaAction where
  | exitActionPaaEapRestart
  | exitActionTxPARStart
  | exitActionRxPANStart
  | exitActionTxPAR
  | exitActionTxPARCompleteEapFail
  | exitActionTxPARCompleteEapSuccess
  | exitActionTxPARCompleteEapSuccessFail
  | exitActionRxPANCompleteSuccess
  | exitActionRxPANCompleteFail
  | openExitActionRxPNRAuth
  | openExitActionReAuth
  | openExitActionTxPNRPing
  | openExitActionRxPNRPing
  | waitPaaExitActionRxPNAPing
  | waitPANExitActionRxPAR
  | waitPANExitActionRxPAN
  | openExitActionTxPTR
  | openExitActionRxPTR
  | exitActionEapTimeout
  | exitActionTimeout
  | exitActionRetransmission
  | sessExitActionRxPTA
  | closed
  deriving DecidableEq, Repr

/-- The operator of each action class. -/
def PaaAction.perform (settings : PanaSettings) (callbacks : PanaCallbacks) :
    PaaAction → PanaM Unit
  | .exitActionPaaEapRestart => Paa.notifyEapRestart
  | .exitActionTxPARStart => Paa.txPARStart settings
  | .exitActionRxPANStart => Paa.rxPANStart settings
  | .exitActionTxPAR => Paa.txPAR settings callbacks
  | .exitActionTxPARCompleteEapFail =>
    Paa.txPARComplete settings callbacks rcodeAuthenticationRejected false
  | .exitActionTxPARCompleteEapSuccess =>
    Paa.txPARComplete settings callbacks rcodeSuccess true
  | .exitActionTxPARCompleteEapSuccessFail =>
    Paa.txPARComplete settings callbacks rcodeAuthorizationRejected true
  | .exitActionRxPANCompleteSuccess => Paa.rxPANComplete settings callbacks true
  | .exitActionRxPANCompleteFail => Paa.rxPANComplete settings callbacks false
  | .openExitActionRxPNRAuth => Paa.rxPNRAuth settings
  | .openExitActionReAuth => Paa.notifyEapReAuth
  | .openExitActionTxPNRPing => txPNRPing settings .paa
  | .openExitActionRxPNRPing => rxPNRPing settings .paa
  | .waitPaaExitActionRxPNAPing => rxPNAPing
  | .waitPANExitActionRxPAR => Paa.rxPAR settings
  | .waitPANExitActionRxPAN => Paa.rxPAN
  | .openExitActionTxPTR => txPTR settings .paa termcauseAdministrative
  | .openExitActionRxPTR => rxPTR settings .paa callbacks
  | .exitActionEapTimeout => disconnect settings callbacks termcauseSessionTimeout
  | .exitActionTimeout => disconnect settings callbacks termcauseSessionTimeout
  | .exitActionRetransmission => retransmit settings .paa callbacks
  | .sessExitActionRxPTA => disconnect settings callbacks 0
  | .closed => pure ()

/-- `PANA_PaaStateTable` -/
def paaStateTable : StateTable PanaState PanaEvent PaaAction :=
  [⟨.initial, some { eventApp := some .pacFound, cfgOptimizedHshk := true }, .initial,
    some .exitActionPaaEapRestart⟩,
   ⟨.initial, some { eventEap := some .request }, .initial, some .exitActionTxPARStart⟩,
   ⟨.initial, some { eventEap := some .timeout }, .initial, some .exitActionTimeout⟩,
   ⟨.initial, some { eventEap := some .failure }, .initial, some .exitActionTimeout⟩,
   ⟨.initial, some { msgType := some .pan, flagStart := true }, .waitEapMsg,
    some .exitActionRxPANStart⟩,
   ⟨.initial, some { msgType := some .pan, flagStart := true, cfgOptimizedHshk := true,
                     avpExistEapPayload := true },
    .waitEapMsg, some .exitActionRxPANStart⟩,
   ⟨.initial, some { msgType := some .pan, flagStart := true, cfgOptimizedHshk := true },
    .waitPanOrPar, some .exitActionRxPANStart⟩,
   ⟨.initial, some { doRetryTimeout := true }, .closed, some .exitActionTimeout⟩,
   ⟨.initial, some { doReTransmission := true }, .initial, some .exitActionRetransmission⟩,
   ⟨.initial, none, .initial, none⟩,
   ⟨.waitEapMsg, some { eventEap := some .request }, .waitPanOrPar, some .exitActionTxPAR⟩,
   ⟨.waitEapMsg, some { eventEap := some .failure }, .waitFailPan,
    some .exitActionTxPARCompleteEapFail⟩,
   ⟨.waitEapMsg, some { eventEap := some .success, doAuthorize := true }, .waitSuccPan,
    some .exitActionTxPARCompleteEapSuccess⟩,
   ⟨.waitEapMsg, some { eventEap := some .success }, .waitFailPan,
    some .exitActionTxPARCompleteEapSuccessFail⟩,
   ⟨.waitEapMsg, some { eventEap := some .timeout }, .closed, some .exitActionTimeout⟩,
   ⟨.waitEapMsg, some { eventEap := some .invalidMsg }, .closed, some .exitActionTimeout⟩,
   ⟨.waitEapMsg, none, .waitEapMsg, none⟩,
   ⟨.waitSuccPan, some { msgType := some .pan, flagComplete := true }, .opened,
    some .exitActionRxPANCompleteSuccess⟩,
   ⟨.waitSuccPan, some { doRetryTimeout := true }, .closed, some .exitActionTimeout⟩,
   ⟨.waitSuccPan, some { doReTransmission := true }, .waitSuccPan,
    some .exitActionRetransmission⟩,
   ⟨.waitSuccPan, none, .waitSuccPan, none⟩,
   ⟨.waitFailPan, some { msgType := some .pan, flagComplete := true }, .closed,
    some .exitActionRxPANCompleteFail⟩,
   ⟨.waitFailPan, some { doRetryTimeout := true }, .closed, some .exitActionTimeout⟩,
   ⟨.waitFailPan, some { doReTransmission := true }, .waitFailPan,
    some .exitActionRetransmission⟩,
   ⟨.waitFailPan, none, .waitFailPan, none⟩,
   ⟨.opened, some { msgType := some .pnr, flagAuth := true }, .waitEapMsg,
    some .openExitActionRxPNRAuth⟩,
   ⟨.opened, some { eventApp := some .reauth }, .waitEapMsg, some .openExitActionReAuth⟩,
   ⟨.opened, some { doSessTimeout := true }, .waitEapMsg, some .openExitActionReAuth⟩,
   ⟨.opened, some { eventApp := some .ping }, .waitPna, some .openExitActionTxPNRPing⟩,
   ⟨.opened, some { msgType := some .pnr, flagPing := true }, .opened,
    some .openExitActionRxPNRPing⟩,
   ⟨.opened, some { eventApp := some .terminate }, .sessTerm, some .openExitActionTxPTR⟩,
   ⟨.opened, some { msgType := some .ptr }, .closed, some .openExitActionRxPTR⟩,
   ⟨.opened, none, .opened, none⟩,
   ⟨.waitPna, some { msgType := some .pna, flagPing := true }, .opened,
    some .waitPaaExitActionRxPNAPing⟩,
   ⟨.waitPna, some { doRetryTimeout := true }, .closed, some .exitActionTimeout⟩,
   ⟨.waitPna, some { doReTransmission := true }, .waitPna, some .exitActionRetransmission⟩,
   ⟨.waitPna, none, .waitPna, none⟩,
   ⟨.waitPanOrPar, some { msgType := some .par }, .waitEapMsg, some .waitPANExitActionRxPAR⟩,
   ⟨.waitPanOrPar, some { msgType := some .pan, avpExistEapPayload := true }, .waitEapMsg,
    some .waitPANExitActionRxPAN⟩,
   ⟨.waitPanOrPar, some { msgType := some .pan }, .waitPanOrPar, some .waitPANExitActionRxPAN⟩,
   ⟨.waitPanOrPar, some { eventEap := some .request }, .waitPanOrPar, some .exitActionTxPAR⟩,
   ⟨.waitPanOrPar, some { eventEap := some .timeout }, .closed, some .exitActionEapTimeout⟩,
   ⟨.waitPanOrPar, some { doRetryTimeout := true }, .closed, some .exitActionTimeout⟩,
   ⟨.waitPanOrPar, some { doReTransmission := true }, .waitPanOrPar,
    some .exitActionRetransmission⟩,
   ⟨.waitPanOrPar, none, .waitPanOrPar, none⟩,
   ⟨.sessTerm, some { msgType := some .pta }, .closed, some .sessExitActionRxPTA⟩,
   ⟨.sessTerm, some { doRetryTimeout := true }, .closed, some .exitActionTimeout⟩,
   ⟨.sessTerm, some { doReTransmission := true }, .sessTerm, some .exitActionRetransmission⟩,
   ⟨.sessTerm, none, .sessTerm, none⟩,
   ⟨.closed, some { eventApp := some .terminate }, .closed, some .closed⟩,
   ⟨.closed, none, .closed, none⟩]

namespace Paa

section Handlers

variable (settings : PanaSettings) (msg : PanaMessage)

/-- The addresses are taken from a request. -/
def saveAddresses : PanaM Unit :=
  modify fun session =>
    { session with pacAddress := msg.srcAddress, paaAddress := msg.destAddress }

def saveRequestAddresses : PanaM Unit :=
  if msg.flags.request then saveAddresses msg else pure ()

def saveHeader : PanaM Unit :=
  modify fun session => { session with lastRxHeader := msg.toPanaMsgHeader }

/-- `PANA_PsmRxPCI` -/
def rxPCI : PanaM PanaEvent := do
  if msg.flags.request then
    invalidMessage "PCI message with request flag set, invalid message"
  else
    rxValidateMsg settings .paa msg false
    saveAddresses msg
    saveHeader msg
    return { msgType := some .pci }

def handleStart : PanaM PanaEvent := do
  if msg.flags.request then
    invalidMessage "PAR-Start request recevied, invalid message"
  else
    rxValidateMsg settings .paa msg false
    saveHeader msg
    return { msgType := some .pan, flagStart := true,
             cfgOptimizedHshk := settings.optimizedHandshake,
             avpExistEapPayload := msg.eapPayload.isSome }

def handleComplete : PanaM PanaEvent := do
  if msg.flags.request then
    invalidMessage "PAR-Complete request message received, invalid message"
  else
    rxValidateMsg settings .paa msg false
    saveHeader msg
    return { msgType := some .pan, flagComplete := true,
             avpExistEapPayload := msg.eapPayload.isSome }

def handleNormal : PanaM PanaEvent := do
  rxValidateMsg settings .paa msg false
  saveHeader msg
  saveRequestAddresses msg
  return if msg.flags.request then
      { msgType := some .par }
    else
      { msgType := some .pan, avpExistEapPayload := msg.eapPayload.isSome }

/-- `PANA_PsmRxPA` -/
def rxPA : PanaM PanaEvent := do
  if msg.flags.auth ∨ msg.flags.ping then
    invalidMessage "PA recevied, invalid flag settings"
  else if msg.flags.start then
    handleStart settings msg
  else if msg.flags.complete then
    handleComplete settings msg
  else
    handleNormal settings msg

def handleAuth : PanaM PanaEvent := do
  if msg.flags.request then
    rxValidateMsg settings .paa msg false
    saveAddresses msg
    saveHeader msg
    return { msgType := some .pnr, flagAuth := true }
  else
    invalidMessage "PNR-Auth answer message received, invalid message"

def handlePing : PanaM PanaEvent := do
  rxValidateMsg settings .paa msg false
  saveRequestAddresses msg
  saveHeader msg
  return { msgType := if msg.flags.request then some .pnr else some .pna, flagPing := true }

/-- `PANA_PsmRxPN` -/
def rxPN : PanaM PanaEvent := do
  if msg.flags.start ∨ msg.flags.complete then
    invalidMessage "PN recevied, invalid flag settings"
  else if msg.flags.auth then
    handleAuth settings msg
  else if msg.flags.ping then
    handlePing settings msg
  else
    invalidMessage "PN recevied with empty flags"

/-- `PANA_PsmRxPT` -/
def rxPT : PanaM PanaEvent := do
  rxValidateMsg settings .paa msg false
  saveRequestAddresses msg
  saveHeader msg
  return { msgType := if msg.flags.request then some .ptr else some .pta }

/-- The handlers in the table of the session; a message of another type is dropped. -/
def receive : PanaM Unit :=
  if msg.type = mtypePci then
    receiveIn [.initial] (rxPCI settings) msg
  else if msg.type = mtypePar then
    receiveIn [.initial, .waitPanOrPar, .waitSuccPan, .waitFailPan, .opened] (rxPA settings) msg
  else if msg.type = mtypePnr then
    receiveIn [.opened, .waitPna] (rxPN settings) msg
  else if msg.type = mtypePtr then
    receiveIn [.opened, .sessTerm] (rxPT settings) msg
  else pure ()

end Handlers

end Paa

/--
What the EAP authenticator and the application ask of a `PANA_PaaSession`; a success comes with
what `IsUserAuthorized` says.
-/
inductive PaaCall where
  | eapSendRequest (req : PanaOctetstring)
  | eapInvalidMessage
  | eapSuccess (req : Option PanaOctetstring) (isUserAuthorized : Bool)
  | eapFailure (req : Option PanaOctetstring)
  | eapTimeout
  | eapReAuthenticate
  | ping
  | stop
  deriving DecidableEq, Repr

/-- An event that may come with a packet. -/
def postWith (packet : Option PanaOctetstring) (event : PanaEvent) :
    PanaSession → PanaSession :=
  match packet with
  | some packet => .postPacket packet event
  | none => .post event

def PaaCall.apply : PaaCall → PanaSession → PanaSession
  | .eapSendRequest req => .postPacket req { eventEap := some .request }
  | .eapInvalidMessage => .post { eventEap := some .invalidMsg }
  | .eapSuccess req isUserAuthorized => fun session =>
    postWith req { eventEap := some .success, doAuthorize := isUserAuthorized }
      { session with authorized := isUserAuthorized }
  | .eapFailure req => postWith req { eventEap := some .failure }
  | .eapTimeout => .post { eventEap := some .timeout }
  | .eapReAuthenticate => .post { eventApp := some .reauth }
  | .ping => .post { eventApp := some .ping }
  | .stop => .post { eventApp := some .terminate }

end OpenDiameter.Pana
