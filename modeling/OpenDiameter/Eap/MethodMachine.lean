import OpenDiameter.Eap.AuthMachine

/-!
A method as a machine with a state table of its own. An action may raise an event of the method,
which is then served before the action returns.
-/

namespace OpenDiameter.Eap

open OpenDiameter.Framework

/-- What an action does: the data that it leaves, what it tells the switch in order, and the
event of the method that it raises last. -/
structure MethodEffect (Data Event Report : Type) where
  data : Data
  reports : List Report := []
  raised : Option Event := none

structure MethodMachine (State Event Action Data Input Report : Type) where
  table : StateTable State Event Action
  initialState : State
  perform : Action → Input → Data → MethodEffect Data Event Report

/-- The event that is pending is one that there was no depth left for. -/
structure MethodRun (State Event Data Report : Type) where
  state : State
  data : Data
  reports : List Report := []
  pending : Option Event := none
  deriving DecidableEq

namespace MethodMachine

variable {State Event Action Data Input Report : Type} [DecidableEq State] [DecidableEq Event]

/-- The action of an entry; `AAA_NullAction` does nothing. -/
def act (machine : MethodMachine State Event Action Data Input Report) (action : Option Action)
    (input : Input) (data : Data) : MethodEffect Data Event Report :=
  match action with
  | none => { data := data }
  | some action => machine.perform action input data

/-- `AAA_StateMachine::Event`: an event that has no entry in the state is dropped. -/
def event (machine : MethodMachine State Event Action Data Input Report) (input : Input) :
    (depth : Nat) → Event → State → Data → MethodRun State Event Data Report
  | 0, event, state, data => { state := state, data := data, pending := some event }
  | depth + 1, event, state, data =>
    match machine.table.find state event with
    | none => { state := state, data := data }
    | some entry =>
      let effect := machine.act entry.action input data
      match effect.raised with
      | none =>
        { state := entry.nextState, data := effect.data, reports := effect.reports }
      | some raised =>
        let rest := machine.event input depth raised entry.nextState effect.data
        { rest with reports := effect.reports ++ rest.reports }

section Events

variable {machine : MethodMachine State Event Action Data Input Report} {input : Input}
  {depth : Nat} {served : Event} {state : State} {data : Data}
  {entry : StateTableEntry State Event Action}

/-- An event whose action raises no other. -/
theorem event_ends (found : machine.table.find state served = some entry)
    {effect : MethodEffect Data Event Report} (does : machine.act entry.action input data = effect)
    (ends : effect.raised = none) :
    machine.event input (depth + 1) served state data =
      { state := entry.nextState, data := effect.data, reports := effect.reports } := by
  simp only [event, found, does, ends]

variable {raised : Event}

/-- An event whose action raises another. -/
theorem event_raises (found : machine.table.find state served = some entry)
    {effect : MethodEffect Data Event Report} (does : machine.act entry.action input data = effect)
    (raises : effect.raised = some raised) :
    machine.event input (depth + 1) served state data =
      { machine.event input depth raised entry.nextState effect.data with
        reports :=
          effect.reports ++
            (machine.event input depth raised entry.nextState effect.data).reports } := by
  simp only [event, found, does, raises]

theorem event_dropped (missing : machine.table.find state served = none) :
    machine.event input (depth + 1) served state data = { state := state, data := data } := by
  simp only [event, missing]

variable {checked : Data} {next : StateTableEntry State Event Action}

/-- A check that accepts, and the action that it leads to. -/
theorem event_checked (found : machine.table.find state served = some entry)
    (does : machine.act entry.action input data = { data := checked, raised := some raised })
    (foundNext : machine.table.find entry.nextState raised = some next) {last : Data}
    {reports : List Report}
    (doesNext : machine.act next.action input checked = { data := last, reports := reports }) :
    machine.event input (depth + 2) served state data =
      { state := next.nextState, data := last, reports := reports } := by
  rw [event_raises found does rfl, event_ends foundNext doesNext rfl]
  rfl

variable {changed : Data}

/-- A check that accepts, an action that raises an event in its turn, and what that one does. -/
theorem event_checked_raises (found : machine.table.find state served = some entry)
    (does : machine.act entry.action input data = { data := checked, raised := some raised })
    (foundNext : machine.table.find entry.nextState raised = some next) {late : Event}
    (doesNext : machine.act next.action input checked = { data := changed, raised := some late })
    {last : StateTableEntry State Event Action}
    (foundLast : machine.table.find next.nextState late = some last) {left : Data}
    {reports : List Report}
    (doesLast : machine.act last.action input changed = { data := left, reports := reports }) :
    machine.event input (depth + 3) served state data =
      { state := last.nextState, data := left, reports := reports } := by
  rw [event_raises found does rfl, event_checked foundNext doesNext foundLast doesLast]
  rfl

/-- An action whose event is dropped. -/
theorem event_raises_dropped (found : machine.table.find state served = some entry)
    (does : machine.act entry.action input data = { data := changed, raised := some raised })
    (missing : machine.table.find entry.nextState raised = none) :
    machine.event input (depth + 2) served state data =
      { state := entry.nextState, data := changed } := by
  rw [event_raises found does rfl, event_dropped missing]
  rfl

/-- A check that accepts, and an action whose event is dropped. -/
theorem event_checked_dropped (found : machine.table.find state served = some entry)
    (does : machine.act entry.action input data = { data := checked, raised := some raised })
    (foundNext : machine.table.find entry.nextState raised = some next) {late : Event}
    (doesNext : machine.act next.action input checked = { data := changed, raised := some late })
    (missing : machine.table.find next.nextState late = none) :
    machine.event input (depth + 3) served state data =
      { state := next.nextState, data := changed } := by
  rw [event_raises found does rfl, event_raises_dropped foundNext doesNext missing]
  rfl

end Events

/-- Where integrity checks, one after the other, lead to from a start. -/
inductive Reached (machine : MethodMachine State Event Action Data Input Report)
    (check : Event) (start : Data → Data) : State → Data → Prop where
  | start (data : Data) : Reached machine check start machine.initialState (start data)
  | checked {state : State} {data : Data} (before : Reached machine check start state data)
      (input : Input) :
      Reached machine check start (machine.event input 3 check state data).state
        (machine.event input 3 check state data).data

theorem Reached.invariant {machine : MethodMachine State Event Action Data Input Report}
    {check : Event} {start : Data → Data} {waits : State → Prop}
    (first : waits machine.initialState)
    (keeps : ∀ input state data, waits state → waits (machine.event input 3 check state data).state)
    {state : State} {data : Data} (reached : machine.Reached check start state data) :
    waits state := by
  induction reached with
  | start data => exact first
  | checked before input induction => exact keeps _ _ _ induction

end MethodMachine

/-- What a method of the peer tells its switch, in the order it does. The last two are events,
which the switch serves at once. -/
inductive PeerReport where
  | txMessage (msg : EapOctets)
  | decision (decision : PeerDecision)
  | methodState (state : PeerMethodState)
  | validReq
  | invalidReq
  deriving DecidableEq, Repr

/-- What a method of an authenticator tells its switch. The last two are events, which are
queued. -/
inductive AuthReport where
  | txMessage (msg : EapOctets)
  | policyUpdate (result : PolicySwitch)
  /-- `MethodState() = END` -/
  | methodEnd
  | peerIdentity (identity : EapOctets)
  | validResp
  | invalidResp
  deriving DecidableEq, Repr

/-- The message that a method sets, as it is left to the switch. -/
def PeerReport.sent (reports : List PeerReport) : Option EapOctets :=
  reports.findSome? fun report => match report with | .txMessage msg => some msg | _ => none

def AuthReport.sent (reports : List AuthReport) : Option EapOctets :=
  reports.findSome? fun report => match report with | .txMessage msg => some msg | _ => none

def PeerReport.transmitted (reports : List PeerReport) : EapOctets := (sent reports).getD []

def AuthReport.transmitted (reports : List AuthReport) : EapOctets := (sent reports).getD []

/-- The event that ends the wait of the switch. -/
def PeerReport.isVerdict : PeerReport → Bool
  | .validReq => true
  | .invalidReq => true
  | _ => false

def AuthReport.isVerdict : AuthReport → Bool
  | .validResp => true
  | .invalidResp => true
  | _ => false

/-- How many verdicts the switch is given. -/
def PeerReport.verdicts (reports : List PeerReport) : Nat := reports.countP isVerdict

def AuthReport.verdicts (reports : List AuthReport) : Nat := reports.countP isVerdict

end OpenDiameter.Eap
