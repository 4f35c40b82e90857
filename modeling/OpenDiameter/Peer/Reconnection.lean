import OpenDiameter.Foundation.Transitions
import OpenDiameter.Peer.PeerMachine

/-!
`DoReConnect` of `aaa_peer_fsm.cxx`: the attempts that a peer counts after its connection was lost
or refused, over all that may happen to it.
-/

namespace OpenDiameter.Peer

open Foundation Framework

/-- `reconnect_interval` and `reconnect_max` of the transport, where attempts are limited to a
positive number. -/
structure ReconnectConfig where
  reconnectInterval : UInt32
  reconnectMax : UInt32
  isPositive : 0 < reconnectMax

/-- What a run did for its connections. -/
inductive ReconnectEvent where
  /-- An open state was entered, with the attempts counted then. -/
  | opened (attempt : UInt32)
  /-- `DoReConnect` was called, from an open state or another one. -/
  | failed (wasOpen scheduled : Bool)
deriving DecidableEq

def PeerState.isOpen (state : PeerState) : Bool :=
  state = .iOpen ∨ state = .rOpen

structure ReconnectingPeer (Io Avps : Type) where
  peer : Peer Io Avps
  /-- `m_DisconnectCause` is `AAA_DISCONNECT_REBOOTING`. -/
  rebooting : Bool
  reconnectAttempt : UInt32
  /-- The last event is the first one of the list. -/
  history : List ReconnectEvent

/-- An input, and whether the cause is a reboot if it stops the peer. -/
structure ReconnectInput (Io Avps : Type) where
  input : PeerInput Io Avps
  rebooting : Bool

namespace ReconnectEvent

/-- The consecutive failures after which a reconnection was scheduled, up to the last one. -/
def failures : List ReconnectEvent → Nat
  | .failed _ true :: history => failures history + 1
  | _ => 0

/-- The attempts start again from zero with each connection, the loss of one always schedules a
reconnection, and the peer gives up only after the limit of consecutive failures. -/
def KeepsBudget (reconnectMax : UInt32) : List ReconnectEvent → Prop
  | [] => True
  | .opened attempt :: history => attempt = 0 ∧ KeepsBudget reconnectMax history
  | .failed wasOpen scheduled :: history =>
    (wasOpen = true → scheduled = true) ∧
      (scheduled = false → reconnectMax.toNat ≤ failures history) ∧
      KeepsBudget reconnectMax history

end ReconnectEvent

namespace ReconnectingPeer

variable {Io Avps : Type}

section

variable (limits : ReconnectConfig) (config : PeerConfig Avps)
  (reconnecting : ReconnectingPeer Io Avps)

/-- `DoReConnect` -/
def doReConnect (wasOpen : Bool) : ReconnectingPeer Io Avps :=
  if reconnecting.reconnectAttempt < limits.reconnectMax then
    if limits.reconnectInterval > 0 then
      { reconnecting with
        reconnectAttempt := reconnecting.reconnectAttempt + 1
        history := .failed wasOpen true :: reconnecting.history }
    else { reconnecting with history := .failed wasOpen false :: reconnecting.history }
  else
    { reconnecting with
      reconnectAttempt := 0
      history := .failed wasOpen false :: reconnecting.history }

/-- The action of the first event of the queue, with its message. -/
def nextAction : Option (PeerAction × Option (PeerMsg Avps)) :=
  match reconnecting.peer.eventQueue with
  | [] => none
  | param :: _ =>
    if reconnecting.peer.running = false then none
    else
      (peerStateTable.find reconnecting.peer.state param.event).bind fun entry =>
        entry.action.map fun action => (action, param.msg)

/-- The service of the first event calls `DoReConnect`. -/
def servesReConnect : Bool :=
  match reconnecting.nextAction with
  | some (.connNack, _) | some (.disconnect, _) => true
  | some (.disconnectDpa, some _) => reconnecting.rebooting
  | _ => false

def reConnects : PeerInput Io Avps → Bool
  | .serve _ => reconnecting.servesReConnect
  | _ => false

def stopCause (given : ReconnectInput Io Avps) : Bool :=
  match given.input with
  | .stop => given.rebooting
  | _ => reconnecting.rebooting

def nextPeer (input : PeerInput Io Avps) : Peer Io Avps :=
  (input.perform config reconnecting.peer).getD reconnecting.peer

/-- The input leads to an open state from another one. -/
def opens (input : PeerInput Io Avps) : Bool :=
  (reconnecting.nextPeer config input).state.isOpen && !reconnecting.peer.state.isOpen

def step (given : ReconnectInput Io Avps) (reconnecting : ReconnectingPeer Io Avps) :
    ReconnectingPeer Io Avps :=
  if reconnecting.peer.crashed then reconnecting
  else
    let next :=
      { reconnecting with
        peer := reconnecting.nextPeer config given.input
        rebooting := reconnecting.stopCause given }
    if reconnecting.reConnects given.input then
      next.doReConnect limits reconnecting.peer.state.isOpen
    else if reconnecting.opens config given.input then
      { next with history := .opened reconnecting.reconnectAttempt :: reconnecting.history }
    else next

def run (inputs : List (ReconnectInput Io Avps)) (reconnecting : ReconnectingPeer Io Avps) :
    ReconnectingPeer Io Avps :=
  inputs.foldl (fun reconnecting given => reconnecting.step limits config given) reconnecting

/-- An open state is entered only while no attempt is counted, and a connection is lost or refused
only where there is an interval for reconnections. -/
def Meets (given : ReconnectInput Io Avps) (reconnecting : ReconnectingPeer Io Avps) : Prop :=
  reconnecting.peer.crashed = false →
    (reconnecting.opens config given.input = true → reconnecting.reconnectAttempt = 0) ∧
      (reconnecting.reConnects given.input = true → limits.reconnectInterval > 0)

end

/-- The cause of a new peer is that it does not want to talk. -/
def initial : ReconnectingPeer Io Avps := ⟨.initial, false, 0, []⟩

/-- The attempts counted are the failures since the last connection. -/
structure Kept (limits : ReconnectConfig) (reconnecting : ReconnectingPeer Io Avps) : Prop where
  keeps : ReconnectEvent.KeepsBudget limits.reconnectMax reconnecting.history
  counted : reconnecting.reconnectAttempt.toNat = ReconnectEvent.failures reconnecting.history
  isOpen : reconnecting.peer.state.isOpen = true → reconnecting.reconnectAttempt = 0
  noInterval : limits.reconnectInterval = 0 → reconnecting.reconnectAttempt = 0

variable {limits : ReconnectConfig} {config : PeerConfig Avps}
  {reconnecting : ReconnectingPeer Io Avps}

theorem cleanup_closed {peer : Peer Io Avps} {param : PeerEventParam Io Avps}
    (current : peer.current = some param) : (peer.cleanup false).state = .closed := by
  rw [Peer.cleanup_eq current]

/-- An action that calls `DoReConnect` has closed the peer. -/
theorem act_closed {peer : Peer Io Avps} {param : PeerEventParam Io Avps} {id : MsgId}
    {action : PeerAction} (current : peer.current = some param)
    (isAction : action = .connNack ∨ action = .disconnect ∨
      action = .disconnectDpa ∧ param.msg.isSome = true) :
    (peer.act config id action).state = .closed := by
  rcases isAction with rfl | rfl | ⟨rfl, hasMsg⟩
  · exact cleanup_closed current
  · exact cleanup_closed current
  · obtain ⟨msg, isMsg⟩ := Option.isSome_iff_exists.mp hasMsg
    have isCurrent : peer.currentMsg = some msg := by
      rw [Peer.currentMsg, current]
      exact isMsg
    rw [Peer.act, Peer.withMsg, isCurrent]
    apply cleanup_closed
    rw [current]
    rfl

theorem nextAction_eq_some {action : PeerAction} {msg : Option (PeerMsg Avps)}
    (isAction : reconnecting.nextAction = some (action, msg)) :
    reconnecting.peer.running = true ∧ ∃ param rest entry,
      reconnecting.peer.eventQueue = param :: rest ∧
      peerStateTable.find reconnecting.peer.state param.event = some entry ∧
      entry.action = some action ∧ param.msg = msg := by
  rw [nextAction] at isAction
  split at isAction
  · cases isAction
  · rename_i param rest isQueue
    split at isAction
    · cases isAction
    · rename_i running
      have ⟨entry, found, acts⟩ := Option.bind_eq_some_iff.mp isAction
      have ⟨other, isOther, same⟩ := Option.map_eq_some_iff.mp acts
      cases same
      exact ⟨Bool.of_not_eq_false running, param, rest, entry, isQueue, found, isOther, rfl⟩

theorem servesReConnect_iff :
    reconnecting.servesReConnect = true ↔ ∃ action msg,
      reconnecting.nextAction = some (action, msg) ∧
      (action = .connNack ∨ action = .disconnect ∨
        action = .disconnectDpa ∧ msg.isSome = true ∧ reconnecting.rebooting = true) := by
  rw [servesReConnect]
  constructor
  · intro serves
    split at serves
    · rename_i msg isAction
      exact ⟨_, msg, isAction, .inl rfl⟩
    · rename_i msg isAction
      exact ⟨_, msg, isAction, .inr (.inl rfl)⟩
    · rename_i msg isAction
      exact ⟨_, some msg, isAction, .inr (.inr ⟨rfl, rfl, serves⟩)⟩
    · cases serves
  · rintro ⟨action, msg, isAction, rfl | rfl | ⟨rfl, hasMsg, rebooting⟩⟩
    · rw [isAction]
    · rw [isAction]
    · obtain ⟨content, rfl⟩ := Option.isSome_iff_exists.mp hasMsg
      rw [isAction]
      exact rebooting

/-- With a call of `DoReConnect` the peer is closed. -/
theorem reConnects_closed (input : PeerInput Io Avps)
    (isCall : reconnecting.reConnects input = true) :
    (reconnecting.nextPeer config input).state = .closed := by
  cases input with
  | serve id =>
    have ⟨action, msg, isAction, kind⟩ := servesReConnect_iff.mp isCall
    have ⟨running, param, rest, entry, isQueue, found, acts, isMsg⟩ :=
      nextAction_eq_some isAction
    rw [nextPeer, PeerInput.perform]
    cases isServed : reconnecting.peer.serve config id with
    | none =>
      rw [Peer.serve, isQueue] at isServed
      cases isServed
    | some next =>
      obtain ⟨_, _, handled, sameQueue, handles, rfl⟩ := Peer.serve_cases running isServed
      cases isQueue.symm.trans sameQueue
      rw [handles.acts_eq found acts]
      change ((reconnecting.peer.serving param rest entry.nextState).act config id
        action).state = .closed
      apply act_closed rfl
      rw [isMsg]
      exact kind.imp_right (Or.imp_right fun dpa => ⟨dpa.1, dpa.2.1⟩)
  | _ => cases isCall

/-- One call counts a failure more, or gives up after as many as the limit says. -/
theorem doReConnect_keeps_iff (kept : Kept limits reconnecting) :
    ReconnectEvent.KeepsBudget limits.reconnectMax
        (reconnecting.doReConnect limits reconnecting.peer.state.isOpen).history ↔
      limits.reconnectInterval > 0 := by
  have isPositive := limits.isPositive
  rw [doReConnect]
  split
  · rename_i below
    have room : reconnecting.reconnectAttempt.toNat < limits.reconnectMax.toNat :=
      UInt32.lt_iff_toNat_lt.mp below
    split
    · rename_i hasInterval
      exact iff_of_true ⟨fun _ => rfl, fun missed => (nomatch missed), kept.keeps⟩ hasInterval
    · rename_i noInterval
      refine iff_of_false (fun keeps => ?_) noInterval
      have counted := keeps.2.1 rfl
      rw [← kept.counted] at counted
      exact Nat.not_lt_of_le counted room
  · rename_i reached
    have atLimit : limits.reconnectMax.toNat ≤ reconnecting.reconnectAttempt.toNat :=
      Nat.le_of_not_lt fun room => reached (UInt32.lt_iff_toNat_lt.mpr room)
    have someAttempt : reconnecting.reconnectAttempt ≠ 0 := by
      intro none
      rw [none] at reached
      exact reached isPositive
    refine iff_of_true ⟨fun wasOpen => ?_, fun _ => ?_, kept.keeps⟩ ?_
    · exact absurd (kept.isOpen wasOpen) someAttempt
    · rw [← kept.counted]
      exact atLimit
    · apply UInt32.pos_iff_ne_zero.mpr
      exact fun noInterval => someAttempt (kept.noInterval noInterval)

theorem doReConnect_history (peer : Peer Io Avps) (rebooting wasOpen : Bool) :
    (doReConnect limits { reconnecting with peer := peer, rebooting := rebooting }
      wasOpen).history = (reconnecting.doReConnect limits wasOpen).history := by
  rw [doReConnect, doReConnect]
  dsimp only
  split
  · split <;> rfl
  · rfl

theorem doReConnect_peer (wasOpen : Bool) :
    (reconnecting.doReConnect limits wasOpen).peer = reconnecting.peer := by
  rw [doReConnect]
  split
  · split <;> rfl
  · rfl

/-- The attempts are the failures since, where there is an interval. -/
theorem doReConnect_counted (counted : reconnecting.reconnectAttempt.toNat =
      ReconnectEvent.failures reconnecting.history)
    (hasInterval : limits.reconnectInterval > 0) (wasOpen : Bool) :
    (reconnecting.doReConnect limits wasOpen).reconnectAttempt.toNat =
      ReconnectEvent.failures (reconnecting.doReConnect limits wasOpen).history := by
  rw [doReConnect]
  split
  · rename_i below
    have room : reconnecting.reconnectAttempt.toNat < limits.reconnectMax.toNat :=
      UInt32.lt_iff_toNat_lt.mp below
    have small := limits.reconnectMax.toNat_lt
    change (reconnecting.reconnectAttempt + 1).toNat =
      ReconnectEvent.failures reconnecting.history + 1
    rw [← counted, UInt32.toNat_add, UInt32.toNat_one]
    omega
  · rfl

theorem closed_not_open {input : PeerInput Io Avps}
    (isCall : reconnecting.reConnects input = true) :
    (reconnecting.nextPeer config input).state.isOpen = false := by
  rw [reConnects_closed input isCall]
  rfl

theorem Kept.step_keeps_iff (kept : Kept limits reconnecting) (given : ReconnectInput Io Avps) :
    ReconnectEvent.KeepsBudget limits.reconnectMax
        (reconnecting.step limits config given).history ↔ Meets limits config given reconnecting := by
  rw [step, Meets]
  split
  · rename_i crashed
    exact iff_of_true kept.keeps fun sound => absurd (crashed.symm.trans sound) Bool.noConfusion
  · rename_i sound
    have notCrashed := Bool.eq_false_iff.mpr sound
    dsimp only
    split
    · rename_i isCall
      have notOpen : reconnecting.opens config given.input = false := by
        rw [opens, closed_not_open isCall]
        rfl
      rw [doReConnect_history, doReConnect_keeps_iff kept]
      constructor
      · intro hasInterval _
        exact ⟨fun isOpen => absurd (notOpen.symm.trans isOpen) Bool.noConfusion,
          fun _ => hasInterval⟩
      · exact fun meets => (meets notCrashed).2 isCall
    · rename_i noCall
      split
      · rename_i isOpen
        constructor
        · intro keeps _
          exact ⟨fun _ => keeps.1, fun isCall => absurd isCall noCall⟩
        · exact fun meets => ⟨(meets notCrashed).1 isOpen, kept.keeps⟩
      · rename_i notOpen
        refine iff_of_true kept.keeps fun _ => ?_
        exact ⟨fun isOpen => absurd isOpen notOpen, fun isCall => absurd isCall noCall⟩

theorem Kept.step (kept : Kept limits reconnecting) (given : ReconnectInput Io Avps)
    (meets : Meets limits config given reconnecting) :
    Kept limits (reconnecting.step limits config given) := by
  have keeps := (kept.step_keeps_iff given).mpr meets
  rw [ReconnectingPeer.step] at keeps ⊢
  split
  · exact kept
  · rename_i sound
    have meets := meets (Bool.eq_false_iff.mpr sound)
    rw [if_neg sound] at keeps
    dsimp only at keeps ⊢
    split
    · rename_i isCall
      have hasInterval := meets.2 isCall
      rw [if_pos isCall] at keeps
      refine ⟨keeps, ?_, ?_, ?_⟩
      · apply doReConnect_counted
        · exact kept.counted
        · exact hasInterval
      · rw [doReConnect_peer]
        dsimp only
        rw [closed_not_open isCall]
        exact fun isOpen => nomatch isOpen
      · exact fun noInterval => absurd noInterval (UInt32.pos_iff_ne_zero.mp hasInterval)
    · rename_i noCall
      rw [if_neg noCall] at keeps
      split
      · rename_i isOpen
        rw [if_pos isOpen] at keeps
        have fromZero := meets.1 isOpen
        refine ⟨keeps, ?_, fun _ => fromZero, fun _ => fromZero⟩
        change reconnecting.reconnectAttempt.toNat = 0
        rw [fromZero]
        rfl
      · rename_i notOpen
        refine ⟨kept.keeps, kept.counted, fun isOpen => kept.isOpen ?_, kept.noInterval⟩
        change (reconnecting.nextPeer config given.input).state.isOpen = true at isOpen
        rw [opens, isOpen, Bool.true_and, Bool.not_eq_true', Bool.not_eq_false] at notOpen
        exact notOpen

theorem initial_kept : Kept limits (initial : ReconnectingPeer Io Avps) where
  keeps := trivial
  counted := rfl
  isOpen := fun isOpen => nomatch isOpen
  noInterval := fun _ => rfl

end ReconnectingPeer

/-- One reconnection is allowed. -/
def oneAttempt : ReconnectConfig := ⟨30, 1, by decide⟩

def lonePeer : PeerConfig Unit := ⟨[], (), fun _ => .success⟩

/-- The peer connects to another one, which accepts it. -/
def connects : List (ReconnectInput Unit Unit) :=
  [⟨.serve ⟨0, 0⟩, false⟩, ⟨.connectionRequestAccepted (), false⟩, ⟨.serve ⟨0, 0⟩, false⟩,
    ⟨.message ⟨.capabilitiesExchg, false, ⟨0, 0⟩, [], 2001, some ()⟩, false⟩,
    ⟨.serve ⟨0, 0⟩, false⟩]

/-- The connection is lost twice, and a reconnection is scheduled after the first loss. -/
def losesTwice : List (ReconnectInput Unit Unit) :=
  ⟨.start, false⟩ :: connects ++
    [⟨.collectorError .connector, false⟩, ⟨.serve ⟨0, 0⟩, false⟩, ⟨.timer .connRetry, false⟩,
      ⟨.serve ⟨0, 0⟩, false⟩] ++ connects ++
    [⟨.collectorError .connector, false⟩, ⟨.serve ⟨0, 0⟩, false⟩]

end OpenDiameter.Peer
