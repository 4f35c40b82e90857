import OpenDiameter.Pana.Session

/-!
`PANA_Client` and `PANA_PacSession`: the actions of the PaC, its state table, its message
handlers, and what the EAP peer and the application ask of it.
-/

namespace OpenDiameter.Pana

open OpenDiameter.Framework

namespace Client

section Actions

variable (settings : PanaSettings) (callbacks : PanaCallbacks)

def notifyEapRestart : PanaM Unit := do
  updateSa SecurityAssociation.resetNonces
  notify .eapStart
  updateSa fun sa => sa.reset callbacks.globalId

def notifyAuthorization : PanaM Unit := do
  let session ← get
  notify <| .authorize
    { pacAddress := session.pacAddress
      paaAddress := session.paaAddress
      ipReconfiguration := session.ipReconfiguration
      key := if session.sa.msk.isSet then some session.sa.msk.value else none
      lifetime := session.sessionLifetime }
  modify fun session => { session with authorized := true }

def txPCI : PanaM Unit := do
  modify fun session => { session with sessionId := 0 }
  sendReqMsg settings .pac { type := mtypePci }

def txPANStart (eapOptimization : Bool) : PanaM Unit := do
  let session ← get
  let payload ← eapPayloadAvp eapOptimization
  let msg : PanaMessage :=
    { flags := { start := true }, type := mtypePar, seq := session.lastRxSeqNum,
      sessionId := session.sessionId,
      avpList := payload ++
        [.integrityAlgorithm authHmacSha1160, .prfAlgorithm prfHmacSha1] }
  sendAnsMsg settings .pac msg
  updateSa fun sa => { sa with panStart := msgByteStream settings msg }

/-- The EAP payload of a start is handed on, and the start answered unless that comes later. -/
def startEap (msg : PanaMessage) : PanaM Unit :=
  match msg.eapPayload with
  | some payload => do
      notify (.eapRequest payload)
      unless settings.eapPiggyback do
        txPANStart settings false
  | none => txPANStart settings false

def rxPARStart : PanaM Unit := do
  let msg ← dequeueRxMsg
  notifyEapRestart callbacks
  startEap settings msg
  updateSa fun sa => { sa with parStart := msgByteStream settings msg }

def txPAN (eapPiggyBack : Bool) : PanaM Unit := do
  let session ← get
  let nonce : List PanaAvp :=
    if session.sa.pacNonce.isSet then [] else [.nonce callbacks.nonce]
  updateSa fun sa =>
    if sa.pacNonce.isSet then sa else { sa with pacNonce := .set callbacks.nonce }
  let payload ← eapPayloadAvp eapPiggyBack
  sendAnsMsg settings .pac <| session.withAuth settings
    { type := mtypePar, seq := session.lastRxSeqNum, sessionId := session.sessionId,
      avpList := nonce ++ payload }

def updatePaaNonce (msg : PanaMessage) : PanaM Unit :=
  updateSa fun sa =>
    match msg.nonce with
    | some nonce => if sa.paaNonce.isSet then sa else { sa with paaNonce := .set nonce }
    | none => sa

/-- EAP piggyback check -/
def answerAtOnce : PanaM Unit :=
  if settings.eapPiggyback then pure () else txPAN settings callbacks false

def rxPAR : PanaM Unit := do
  let msg ← dequeueRxMsg
  updatePaaNonce msg
  answerAtOnce settings callbacks
  match msg.eapPayload with
  | some payload => notify (.eapRequest payload)
  | none => throwPana .failed "No EAP-Payload AVP in PAR message"

def rxPAN : PanaM Unit := do
  let _ ← dequeueRxMsg

def txPAR : PanaM Unit := do
  let seq ← nextTxSeqNum
  let packet ← dequeueTxEap
  let session ← get
  sendReqMsg settings .pac <| session.withAuth settings
    { flags := { request := true }, type := mtypePar, sessionId := session.sessionId, seq,
      avpList := [.eapPayload packet] }

def rxPARComplete : PanaM Unit := do
  let msg ← dequeueRxMsg
  match msg.resultCode with
  | none => throwPana .failed "No Result-Code AVP in PNR message"
  | some rcode =>
    modify fun session => { session with ipReconfiguration := msg.flags.ipreconfig }
    match msg.eapPayload with
    | some payload =>
      modify fun session =>
        { session with
          sessionLifetime := msg.sessionLifetime.getD session.sessionLifetime
          sa := { session.sa with mskId := msg.keyId.getD session.sa.mskId } }
      notify (.eapRequest payload)
    | none =>
      if rcode ≠ rcodeSuccess then notify .eapAltReject
      else throwPana .failed "No EAP-Payload on PANA_SUCCESS result code"

/-- The AUTH AVP of the last answer goes by the MSK, which is never forgotten. -/
def panCompleteAvps (sa : SecurityAssociation) (msg : PanaMessage) : PanaMessage :=
  if sa.msk.isSet then
    addAuthAvp settings sa.authKey.value
      (if sa.mskId ≠ 0 then msg.add (.keyId sa.mskId) else msg)
  else msg

def txPANComplete (authSuccess : Bool) : PanaM Unit := do
  updateAaaKeys settings callbacks authSuccess
  let session ← get
  sendAnsMsg settings .pac <| panCompleteAvps settings session.sa
    { flags := { complete := true }, type := mtypePar, seq := session.lastRxSeqNum,
      sessionId := session.sessionId }

def txPNRAuth : PanaM Unit := do
  let seq ← nextTxSeqNum
  let session ← get
  sendReqMsg settings .pac <| session.withAuth settings
    { flags := { request := true, auth := true }, type := mtypePnr,
      sessionId := session.sessionId, seq }

def rxPNAAuth : PanaM Unit := do
  let _ ← dequeueRxMsg
  notifyEapRestart callbacks

end Actions

end Client

/-- The actions of `PANA_ClientStateTable`. -/
inductive PacAction where
  | offlineExitActionAuthUser
  | offlineExitActionRxPAR
  | waitEapMsgInExitActionTxPAN
  | waitPaaExitActionRxPAR
  | waitPaaExitActionRxPAN
  | waitPaaExitActionRxPARComplete
  | waitEapMsgExitActionTxPAN
  | waitEapMsgExitActionTxPAR
  | waitEapMsgExitActionTxPANTout
  | waitEapResultExitActionEapOpen
  | waitEapFailExitActionClose
  | waitEapSuccessExitActionClose
  | openExitActionRxPNRPing
  | openExitActionTxPNRPing
  | openExitActionTxPNRAuth
  | openExitActionRxPAR
  | openExitActionRxPTR
  | openExitActionTxPTR
  | waitPNAExitActionRxPNAAuth
  | waitPNAExitActionRxPNAPing
  | exitActionTimeout
  | exitActionRetransmission
  | sessTermExitActionRxPTA
  deriving DecidableEq, Repr

/-- The operator of each action class. -/
def PacAction.perform (settings : PanaSettings) (callbacks : PanaCallbacks) :
    PacAction → PanaM Unit
  | .offlineExitActionAuthUser => Client.txPCI settings
  | .offlineExitActionRxPAR => Client.rxPARStart settings callbacks
  | .waitEapMsgInExitActionTxPAN => Client.txPANStart settings true
  | .waitPaaExitActionRxPAR => Client.rxPAR settings callbacks
  | .waitPaaExitActionRxPAN => Client.rxPAN
  | .waitPaaExitActionRxPARComplete => Client.rxPARComplete
  | .waitEapMsgExitActionTxPAN => Client.txPAN settings callbacks true
  | .waitEapMsgExitActionTxPAR => Client.txPAR settings
  | .waitEapMsgExitActionTxPANTout => Client.txPAN settings callbacks false
  | .waitEapResultExitActionEapOpen => do
      Client.txPANComplete settings callbacks true
      Client.notifyAuthorization
  | .waitEapFailExitActionClose => do
      Client.txPANComplete settings callbacks false
      disconnect settings callbacks 0
  | .waitEapSuccessExitActionClose => do
      Client.txPANComplete settings callbacks true
      disconnect settings callbacks 0
  | .openExitActionRxPNRPing => rxPNRPing settings .pac
  | .openExitActionTxPNRPing => txPNRPing settings .pac
  | .openExitActionTxPNRAuth => Client.txPNRAuth settings
  | .openExitActionRxPAR => do
      Client.notifyEapRestart callbacks
      Client.rxPAR settings callbacks
  | .openExitActionRxPTR => rxPTR settings .pac callbacks
  | .openExitActionTxPTR => txPTR settings .pac termcauseLogout
  | .waitPNAExitActionRxPNAAuth => Client.rxPNAAuth callbacks
  | .waitPNAExitActionRxPNAPing => rxPNAPing
  | .exitActionTimeout => disconnect settings callbacks termcauseSessionTimeout
  | .exitActionRetransmission => retransmit settings .pac callbacks
  | .sessTermExitActionRxPTA => rxPTA settings callbacks

/-- `PANA_ClientStateTable` -/
def clientStateTable : StateTable PanaState PanaEvent PacAction :=
  [⟨.initial, some { eventApp := some .authUser }, .initial, some .offlineExitActionAuthUser⟩,
   ⟨.initial, some { msgType := some .par, flagStart := true }, .waitPar,
    some .offlineExitActionRxPAR⟩,
   ⟨.initial, some { msgType := some .par, flagStart := true, cfgEapPiggyback := true },
    .waitPar, some .offlineExitActionRxPAR⟩,
   ⟨.initial, some { msgType := some .par, flagStart := true, avpExistEapPayload := true,
                     cfgEapPiggyback := true },
    .initial, some .offlineExitActionRxPAR⟩,
   ⟨.initial, some { msgType := some .par, flagStart := true, avpExistEapPayload := true },
    .waitEapMsg, some .offlineExitActionRxPAR⟩,
   ⟨.initial, some { eventEap := some .response }, .waitPar, some .waitEapMsgInExitActionTxPAN⟩,
   ⟨.initial, some { eventEap := some .response, cfgEapPiggyback := true }, .waitPar,
    some .waitEapMsgInExitActionTxPAN⟩,
   ⟨.initial, some { eventEap := some .respTimeout }, .initial, some .exitActionTimeout⟩,
   ⟨.initial, some { eventEap := some .respTimeout, cfgEapPiggyback := true }, .initial,
    some .exitActionTimeout⟩,
   ⟨.initial, some { doReTransmission := true }, .initial, some .exitActionRetransmission⟩,
   ⟨.initial, some { doRetryTimeout := true }, .closed, some .exitActionTimeout⟩,
   ⟨.initial, some { doSessTimeout := true }, .closed, some .exitActionTimeout⟩,
   ⟨.initial, none, .initial, none⟩,
   ⟨.waitPan, some { msgType := some .pan }, .waitPar, some .waitPaaExitActionRxPAN⟩,
   ⟨.waitPan, some { doReTransmission := true }, .waitPan, some .exitActionRetransmission⟩,
   ⟨.waitPan, some { doRetryTimeout := true }, .closed, some .exitActionTimeout⟩,
   ⟨.waitPan, some { doSessTimeout := true }, .closed, some .exitActionTimeout⟩,
   ⟨.waitPar, some { msgType := some .par }, .waitEapMsg, some .waitPaaExitActionRxPAR⟩,
   ⟨.waitPar, some { msgType := some .par, cfgEapPiggyback := true }, .waitEapMsg,
    some .waitPaaExitActionRxPAR⟩,
   ⟨.waitPar, some { msgType := some .par, flagComplete := true, avpExistEapPayload := true,
                     resultCode := some .success },
    .waitEapResult, some .waitPaaExitActionRxPARComplete⟩,
   ⟨.waitPar, some { msgType := some .par, flagComplete := true, resultCode := some .fail },
    .waitEapResultClose, some .waitPaaExitActionRxPARComplete⟩,
   ⟨.waitPar, some { msgType := some .par, flagComplete := true, avpExistEapPayload := true,
                     resultCode := some .fail },
    .waitEapResultClose, some .waitPaaExitActionRxPARComplete⟩,
   ⟨.waitPar, some { doReTransmission := true }, .waitPar, some .exitActionRetransmission⟩,
   ⟨.waitPar, some { doRetryTimeout := true }, .closed, some .exitActionTimeout⟩,
   ⟨.waitPar, some { doSessTimeout := true }, .closed, some .exitActionTimeout⟩,
   ⟨.waitPar, none, .waitPar, none⟩,
   ⟨.waitEapMsg, some { eventEap := some .response, cfgEapPiggyback := true }, .waitPar,
    some .waitEapMsgExitActionTxPAN⟩,
   ⟨.waitEapMsg, some { eventEap := some .response }, .waitPan,
    some .waitEapMsgExitActionTxPAR⟩,
   ⟨.waitEapMsg, some { eventEap := some .respTimeout, cfgEapPiggyback := true }, .waitPar,
    some .waitEapMsgExitActionTxPANTout⟩,
   ⟨.waitEapMsg, some { eventEap := some .invalidMsg }, .closed, some .exitActionTimeout⟩,
   ⟨.waitEapMsg, some { eventEap := some .failure }, .closed, some .exitActionTimeout⟩,
   ⟨.waitEapMsg, none, .waitEapMsg, none⟩,
   ⟨.waitEapResult, some { eventEap := some .success }, .opened,
    some .waitEapResultExitActionEapOpen⟩,
   ⟨.waitEapResult, some { eventEap := some .failure }, .closed,
    some .waitEapFailExitActionClose⟩,
   ⟨.waitEapResult, none, .waitEapResult, none⟩,
   ⟨.waitEapResultClose, some { eventEap := some .success }, .closed,
    some .waitEapSuccessExitActionClose⟩,
   ⟨.waitEapResultClose, some { eventEap := some .failure }, .closed,
    some .waitEapFailExitActionClose⟩,
   ⟨.waitEapResultClose, none, .waitEapResultClose, none⟩,
   ⟨.opened, some { msgType := some .pnr, flagPing := true }, .opened,
    some .openExitActionRxPNRPing⟩,
   ⟨.opened, some { eventApp := some .ping }, .waitPna, some .openExitActionTxPNRPing⟩,
   ⟨.opened, some { eventApp := some .reauth }, .waitPna, some .openExitActionTxPNRAuth⟩,
   ⟨.opened, some { msgType := some .par }, .waitEapMsg, some .openExitActionRxPAR⟩,
   ⟨.opened, some { msgType := some .par, cfgEapPiggyback := true }, .waitEapMsg,
    some .openExitActionRxPAR⟩,
   ⟨.opened, some { msgType := some .ptr }, .closed, some .openExitActionRxPTR⟩,
   ⟨.opened, some { eventApp := some .terminate }, .sessTerm, some .openExitActionTxPTR⟩,
   ⟨.opened, some { doSessTimeout := true }, .closed, some .exitActionTimeout⟩,
   ⟨.opened, none, .opened, none⟩,
   ⟨.waitPna, some { msgType := some .pna, flagAuth := true }, .waitPar,
    some .waitPNAExitActionRxPNAAuth⟩,
   ⟨.waitPna, some { msgType := some .pna, flagPing := true }, .opened,
    some .waitPNAExitActionRxPNAPing⟩,
   ⟨.waitPna, some { doSessTimeout := true }, .closed, some .exitActionTimeout⟩,
   ⟨.waitPna, some { doReTransmission := true }, .waitPna, some .exitActionRetransmission⟩,
   -- The one retry timeout that retransmits.
   ⟨.waitPna, some { doRetryTimeout := true }, .closed, some .exitActionRetransmission⟩,
   ⟨.waitPna, none, .waitPna, none⟩,
   ⟨.sessTerm, some { msgType := some .pta }, .closed, some .sessTermExitActionRxPTA⟩,
   ⟨.sessTerm, some { doSessTimeout := true }, .closed, some .exitActionTimeout⟩,
   ⟨.sessTerm, some { doRetryTimeout := true }, .closed, some .exitActionTimeout⟩,
   ⟨.sessTerm, some { doReTransmission := true }, .sessTerm, some .exitActionRetransmission⟩,
   ⟨.sessTerm, none, .sessTerm, none⟩,
   ⟨.closed, none, .closed, none⟩]

namespace Client

section Handlers

variable (settings : PanaSettings) (msg : PanaMessage)

/-- What is there of each algorithm has to have the value that is supported. -/
def checkAlgorithms : PanaM Unit :=
  if msg.integrityAlgorithms ≠ [] ∧ authHmacSha1160 ∉ msg.integrityAlgorithms then
    throwPana .failed "PAR recevied, unsupported integrity algorithm"
  else if msg.prfAlgorithms ≠ [] ∧ prfHmacSha1 ∉ msg.prfAlgorithms then
    throwPana .failed "PAR recevied, unsupported PRF algorithm"
  else pure ()

def handleStart : PanaM PanaEvent := do
  if msg.flags.request then
    modify fun session => { session with sessionId := msg.sessionId }
    rxValidateMsg settings .pac msg false
    modify fun session =>
      { session with
        paaAddress := msg.srcAddress
        lastUsedChannel := msg.destAddress
        lastRxHeader := msg.toPanaMsgHeader }
    checkAlgorithms msg
    return { msgType := some .par, flagStart := true, cfgEapPiggyback := settings.eapPiggyback,
             avpExistEapPayload := msg.eapPayload.isSome }
  else
    invalidMessage "PAN recevied, invalid message"

def handleNormal : PanaM PanaEvent := do
  rxValidateMsg settings .pac msg false
  modify fun session =>
    { session with
      lastRxHeader := msg.toPanaMsgHeader
      paaAddress := if msg.flags.request then msg.srcAddress else session.paaAddress
      lastUsedChannel := msg.destAddress }
  return if msg.flags.request then
      { msgType := some .par, cfgEapPiggyback := settings.eapPiggyback }
    else
      { msgType := some .pan }

def handleComplete : PanaM PanaEvent := do
  if msg.flags.request then
    rxValidateMsg settings .pac msg true
    modify fun session =>
      { session with
        paaAddress := msg.srcAddress
        lastUsedChannel := msg.destAddress
        lastRxHeader := msg.toPanaMsgHeader }
    return { msgType := some .par, flagComplete := true,
             avpExistEapPayload := msg.eapPayload.isSome,
             resultCode :=
               if msg.resultCode = some rcodeSuccess then some .success else some .fail }
  else
    invalidMessage "PNA received, invalid message"

/-- `PANA_CsmRxPA` -/
def rxPA : PanaM PanaEvent := do
  if msg.flags.auth ∨ msg.flags.ping then
    invalidMessage "PA recevied, invalid flag settings"
  else if msg.flags.start then
    handleStart settings msg
  else if msg.flags.complete then
    handleComplete settings msg
  else
    handleNormal settings msg

def handlePing : PanaM PanaEvent := do
  modify fun session =>
    { session with
      paaAddress := if msg.flags.request then msg.srcAddress else session.paaAddress
      lastUsedChannel := msg.destAddress
      lastRxHeader := msg.toPanaMsgHeader }
  return { msgType := if msg.flags.request then some .pnr else some .pna, flagPing := true }

def handleAuth : PanaM PanaEvent := do
  if msg.flags.request then
    invalidMessage "PNR-Auth answer message received, invalid message"
  else
    modify fun session =>
      { session with pacAddress := msg.srcAddress, lastRxHeader := msg.toPanaMsgHeader }
    return { msgType := some .pna, flagAuth := true }

/-- `PANA_CsmRxPN` -/
def rxPN : PanaM PanaEvent := do
  rxValidateMsg settings .pac msg false
  if msg.flags.start ∨ msg.flags.complete then
    invalidMessage "PN recevied, invalid flag settings"
  else if msg.flags.ping then
    handlePing msg
  else if msg.flags.auth then
    handleAuth msg
  else
    invalidMessage "PN recevied with empty flags"

/-- `PANA_CsmRxPT` -/
def rxPT : PanaM PanaEvent := do
  rxValidateMsg settings .pac msg false
  modify fun session =>
    { session with
      paaAddress := if msg.flags.request then msg.srcAddress else session.paaAddress
      lastUsedChannel := msg.destAddress
      lastRxHeader := msg.toPanaMsgHeader }
  return { msgType := if msg.flags.request then some .ptr else some .pta }

/-- The handlers in the table of the session; a message of another type is dropped. -/
def receive : PanaM Unit :=
  if msg.type = mtypePar then
    receiveIn [.initial, .waitPan, .waitPar, .opened] (rxPA settings) msg
  else if msg.type = mtypePnr then
    receiveIn [.opened, .waitPna] (rxPN settings) msg
  else if msg.type = mtypePtr then
    receiveIn [.opened, .sessTerm] (rxPT settings) msg
  else pure ()

end Handlers

end Client

/-- What the EAP peer and the application ask of a `PANA_PacSession`. -/
inductive PacCall where
  | start (paaIpAddress : Option UInt32)
  | eapSendResponse (response : PanaOctetstring)
  | eapInvalidMessage
  | eapSuccess
  | eapTimeout
  | eapFailure
  | reAuthenticate
  | ping
  | stop
  deriving DecidableEq, Repr

def PacCall.apply (settings : PanaSettings) : PacCall → PanaSession → PanaSession
  | .start none => .post { eventApp := some .authUser }
  | .start (some ipAddress) => fun session =>
    .post { eventApp := some .authUser }
      { session with paaAddress := ⟨ipAddress, settings.paaPortNumber⟩ }
  | .eapSendResponse response =>
    .postPacket response
      { eventEap := some .response, cfgEapPiggyback := settings.eapPiggyback }
  | .eapInvalidMessage => .post { eventEap := some .invalidMsg }
  | .eapSuccess => .post { eventEap := some .success }
  | .eapTimeout => .post { eventEap := some .timeout }
  | .eapFailure => .post { eventEap := some .failure }
  | .reAuthenticate => .post { eventApp := some .reauth }
  | .ping => .post { eventApp := some .ping }
  | .stop => .post { eventApp := some .terminate }

end OpenDiameter.Pana
