import OpenDiameter.Foundation.Transitions
import OpenDiameter.Pana.Client
import OpenDiameter.Pana.Paa

/-!
`PANA_StateMachine`: the service of the received messages and of the events, for a client and
for an authentication agent.
-/

namespace OpenDiameter.Pana

open OpenDiameter.Foundation OpenDiameter.Framework

/-- What the state machine of a client and of an authentication agent is made of. -/
structure PanaMachine where
  Action : Type
  Call : Type
  table : StateTable PanaState PanaEvent Action
  perform : PanaCallbacks → Action → PanaM Unit
  receive : PanaMessage → PanaM Unit
  apply : Call → PanaSession → PanaSession

/-- `PANA_TID` -/
inductive PanaTimer where
  | retry
  | session
  | eapResp
  deriving DecidableEq, Repr

section Machine

variable (settings : PanaSettings)

def pacMachine : PanaMachine where
  Action := PacAction
  Call := PacCall
  table := clientStateTable
  perform := PacAction.perform settings
  receive := Client.receive settings
  apply := PacCall.apply settings

def paaMachine : PanaMachine where
  Action := PaaAction
  Call := PaaCall
  table := paaStateTable
  perform := PaaAction.perform settings
  receive := Paa.receive settings
  apply := PaaCall.apply

def machine : PanaRole → PanaMachine
  | .pac => pacMachine settings
  | .paa => paaMachine settings

/-- The event that `FsmTimer` schedules. -/
def timerEvent (role : PanaRole) : PanaTimer → PanaEvent
  | .retry => { doReTransmission := true }
  | .session => { doSessTimeout := true }
  | .eapResp =>
    { eventEap := some .respTimeout
      cfgEapPiggyback := decide (role = .pac) && settings.eapPiggyback }

end Machine

/-- What is left when a computation is over: a fault is kept, an exception is caught. -/
def settle (caught : PanaSession → PanaSession) :
    EStateM.Result PanaStop PanaSession Unit → PanaSession
  | .ok _ session => session
  | .error (.thrown _) session => caught session
  | .error (.fault fault) session => { session with fault := some fault }

namespace PanaMachine

variable (machine : PanaMachine)

/-- The message handlers have the first message; what they throw is logged. -/
def serveMessage (session : PanaSession) : PanaSession :=
  match session.received with
  | [] => session
  | msg :: rest => settle id ((machine.receive msg).run { session with received := rest })

/-- An action gets the event, and with it the message it was posted for. -/
def beginAction (queued : QueuedEvent) (session : PanaSession) : PanaSession :=
  { session with
    asked := (queued.message.filter (·.flags.request)).or session.asked
    acted := session.acted ++ (queued.message.map (·, session.sa.authKey)).toList }

/-- The state machine has the first event; at an exception the session stops itself. -/
def serveEvent (callbacks : PanaCallbacks) (session : PanaSession) : PanaSession :=
  match session.events with
  | [] => session
  | queued :: rest =>
    match machine.table.find session.state queued.event with
    | none => { session with events := rest }
    | some entry =>
      let moved := { session with events := rest, state := entry.nextState }
      match entry.action with
      | none => moved
      | some action =>
        settle (.post { eventApp := some .terminate })
          ((machine.perform callbacks action).run (beginAction queued moved))

/-- `PANA_StateMachine::Serve` -/
def serve (callbacks : PanaCallbacks) (session : PanaSession) : PanaSession :=
  let served := machine.serveMessage session
  if served.fault.isSome then served else machine.serveEvent callbacks served

end PanaMachine

/-- What happens to a session next. -/
inductive PanaInput (settings : PanaSettings) (role : PanaRole) where
  | receive (msg : PanaMessage)
  | call (made : (machine settings role).Call)
  | timeout (timer : PanaTimer)
  | serve (callbacks : PanaCallbacks)
  | abort (callbacks : PanaCallbacks)

section Runs

variable (settings : PanaSettings) {role : PanaRole}

def PanaInput.apply {settings : PanaSettings} :
    PanaInput settings role → PanaSession → PanaSession
  | .receive msg => fun session => { session with received := session.received ++ [msg] }
  | .call made => (machine settings role).apply made
  | .timeout timer => .post (timerEvent settings role timer)
  | .serve callbacks => (machine settings role).serve callbacks
  | .abort callbacks => fun session =>
    .reset settings callbacks (.post { eventApp := some .terminate } session)

/-- A session does nothing more after a fault. -/
def Step (session : PanaSession) (input : PanaInput settings role) (after : PanaSession) : Prop :=
  session.fault = none ∧ after = input.apply session

def newClient (pacAddress paaAddress : InetAddr) (callbacks : PanaCallbacks) : PanaSession :=
  { lastTxSeqNum := callbacks.random
    pacAddress
    paaAddress
    sessionLifetime := settings.sessionLifetime
    sa := { mskId := callbacks.globalId } }

def newPaa (sessionId : UInt32) (callbacks : PanaCallbacks) : PanaSession :=
  { sessionId
    lastTxSeqNum := callbacks.random
    paaAddress := settings.listenAddress
    sessionLifetime := settings.sessionLifetime
    ipReconfiguration := settings.ipReconfig
    sa := { mskId := callbacks.globalId } }

/-- `PANA_PaaSessionFactory::PacFound` of an optimized handshake. -/
def pacFound (addr : InetAddr) (session : PanaSession) : PanaSession :=
  .post { eventApp := some .pacFound, cfgOptimizedHshk := true }
    { session with pacAddress := addr }

def generateStatelessPAR : PanaMessage :=
  { flags := { request := true, start := true }, type := mtypePar,
    avpList := [.integrityAlgorithm authHmacSha1160, .prfAlgorithm prfHmacSha1] }

/-- `PANA_PaaSessionFactory::StatelessRxPANStart`, past its checks. -/
def statelessRxPANStart (msg : PanaMessage) (session : PanaSession) : PanaSession :=
  { session with
    sa := { session.sa with
      parStart := msgByteStream settings
        { generateStatelessPAR with sessionId := msg.sessionId, seq := msg.seq } }
    pacAddress := msg.srcAddress
    lastTxSeqNum := msg.seq
    sessionId := msg.sessionId
    received := [msg] }

def Started : PanaRole → PanaSession → Prop
  | .pac, session => ∃ pacAddress paaAddress callbacks,
      session = newClient settings pacAddress paaAddress callbacks
  | .paa, session => ∃ sessionId callbacks,
      (settings.optimizedHandshake = true ∧
        ∃ addr, session = pacFound addr (newPaa settings sessionId callbacks)) ∨
      ∃ msg : PanaMessage, msg.type = mtypePar ∧ msg.sessionId ≠ 0 ∧ msg.flags.start = true ∧
        session = statelessRxPANStart settings msg (newPaa settings sessionId callbacks)

/-- The sessions of the role that are reached by allowed steps. -/
abbrev ReachedBy (role : PanaRole) (allowed : PanaSession → PanaInput settings role → Prop) :
    PanaSession → Prop :=
  Reached (Started settings role) (Step settings) allowed

end Runs

/-- A node that neither piggybacks nor optimizes. -/
def plainSettings : PanaSettings where
  sessionLifetime := 3600
  listenAddress := ⟨2, 716⟩
  eapPiggyback := false
  paaPortNumber := 716
  optimizedHandshake := false
  carryLifetime := false
  ipReconfig := false
  byteStream header _ := keyIdOctets header.seq
  hmac key octets := key ++ octets

theorem reached_newClient (allowed : PanaSession → PanaInput plainSettings .pac → Prop) :
    ReachedBy plainSettings .pac allowed (newClient plainSettings ⟨1, 0⟩ ⟨2, 716⟩ {}) :=
  .start ⟨_, _, _, rfl⟩

/-- A PAR[S] of a PAA that supports what the PaC does. -/
def parStart (sessionId seq : UInt32) : PanaMessage :=
  { generateStatelessPAR with sessionId, seq }

end OpenDiameter.Pana
