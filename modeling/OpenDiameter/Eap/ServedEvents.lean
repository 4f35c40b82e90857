import OpenDiameter.Eap.AuthMachine

/-!
The cases of one service: which event is taken, and whether it is ignored, only moves the
machine, or leads to an action.
-/

namespace OpenDiameter.Eap

open OpenDiameter.Foundation OpenDiameter.Framework

variable {Method : Type}

namespace EapPeer

/-- The next event of the switch, and the peer without it. -/
inductive Takes (peer : EapPeer Method) : PeerEvent → EapPeer Method → Prop where
  | raised {event : PeerEvent} (isRaised : peer.raised = some event) :
      Takes peer event { peer with raised := none }
  | queued {event : PeerEvent} {rest : List (EapJob PeerEvent)}
      (notRaised : peer.raised = none) (isFirst : peer.jobs = .switch event :: rest) :
      Takes peer event { peer with jobs := rest }

/-- What a service does. -/
inductive Served (methods : PeerMethods Method) (identity : Option EapOctets)
    (peer : EapPeer Method) : EapPeer Method → Prop where
  | nothing (notRaised : peer.raised = none) (noJobs : peer.jobs = []) :
      Served methods identity peer peer
  | ignored {event : PeerEvent} {begun : EapPeer Method} (takes : peer.Takes event begun)
      (ignores : peer.running = true → peerStateTable.find peer.state event = none) :
      Served methods identity peer begun
  | moved {event : PeerEvent} {begun : EapPeer Method}
      {entry : StateTableEntry PeerState PeerEvent PeerAction} (takes : peer.Takes event begun)
      (running : peer.running = true) (found : peerStateTable.find peer.state event = some entry)
      (noAction : entry.action = none) :
      Served methods identity peer { begun with state := entry.nextState }
  | performed {event : PeerEvent} {begun : EapPeer Method}
      {entry : StateTableEntry PeerState PeerEvent PeerAction} {action : PeerAction}
      (takes : peer.Takes event begun) (running : peer.running = true)
      (found : peerStateTable.find peer.state event = some entry)
      (isAction : entry.action = some action) :
      Served methods identity peer
        (({ begun with state := entry.nextState } : EapPeer Method).perform methods identity action)
  | method {event : EapMethodEvent} {rest : List (EapJob PeerEvent)}
      (notRaised : peer.raised = none) (isFirst : peer.jobs = .method event :: rest) :
      Served methods identity peer
        (({ peer with jobs := rest } : EapPeer Method).serveMethod methods event)
  | innerMethod {event : EapMethodEvent} {rest : List (EapJob PeerEvent)}
      (notRaised : peer.raised = none) (isFirst : peer.jobs = .innerMethod event :: rest) :
      Served methods identity peer
        (({ peer with jobs := rest } : EapPeer Method).serveInnerMethod methods event)

variable {methods : PeerMethods Method} {identity : Option EapOctets} {peer begun : EapPeer Method}
  {event : PeerEvent}

theorem Takes.served (takes : peer.Takes event begun) (same : begun.running = peer.running)
    (sameState : begun.state = peer.state) :
    Served methods identity peer (begun.event methods identity event) := by
  rw [EapPeer.event]
  split
  · rename_i running
    split
    · rename_i ignores
      exact .ignored takes fun _ => sameState ▸ ignores
    · rename_i entry found
      cases isAction : entry.action with
      | none => exact .moved takes (same ▸ running) (sameState ▸ found) isAction
      | some action => exact .performed takes (same ▸ running) (sameState ▸ found) isAction
  · rename_i stopped
    exact .ignored takes fun running => absurd (same.trans running) stopped

theorem serve_served (methods : PeerMethods Method) (identity : Option EapOctets)
    (peer : EapPeer Method) : Served methods identity peer (peer.serve methods identity) := by
  rw [serve]
  split
  · rename_i event isRaised
    exact (Takes.raised isRaised).served rfl rfl
  · rename_i notRaised
    split
    · rename_i noJobs
      exact .nothing notRaised noJobs
    · rename_i event rest isFirst
      exact (Takes.queued notRaised isFirst).served rfl rfl
    · rename_i isFirst
      exact .method notRaised isFirst
    · rename_i isFirst
      exact .innerMethod notRaised isFirst

end EapPeer

namespace EapAuth

/-- The next event of the switch, and the authenticator without it. -/
inductive Takes (auth : EapAuth Method) : AuthEvent → EapAuth Method → Prop where
  | raised {event : AuthEvent} (isRaised : auth.raised = some event) :
      Takes auth event { auth with raised := none }
  | queued {event : AuthEvent} {rest : List (EapJob AuthEvent)}
      (notRaised : auth.raised = none) (isFirst : auth.jobs = .switch event :: rest) :
      Takes auth event { auth with jobs := rest }

theorem Takes.raised_none {auth begun : EapAuth Method} {event : AuthEvent}
    (takes : auth.Takes event begun) : begun.raised = none := by
  cases takes with
  | raised _ => rfl
  | queued notRaised _ => exact notRaised

/-- What a service does. -/
inductive Served (methods : AuthMethods Method) (auth : EapAuth Method) :
    EapAuth Method → Prop where
  | nothing (notRaised : auth.raised = none) (noJobs : auth.jobs = []) :
      Served methods auth auth
  | ignored {event : AuthEvent} {begun : EapAuth Method} (takes : auth.Takes event begun)
      (ignores : auth.running = true → (authStateTable auth.kind).find auth.state event = none) :
      Served methods auth begun
  | moved {event : AuthEvent} {begun : EapAuth Method}
      {entry : StateTableEntry AuthState AuthEvent AuthAction} (takes : auth.Takes event begun)
      (running : auth.running = true)
      (found : (authStateTable auth.kind).find auth.state event = some entry)
      (noAction : entry.action = none) :
      Served methods auth { begun with state := entry.nextState }
  | performed {event : AuthEvent} {begun : EapAuth Method}
      {entry : StateTableEntry AuthState AuthEvent AuthAction} {action : AuthAction}
      (takes : auth.Takes event begun) (running : auth.running = true)
      (found : (authStateTable auth.kind).find auth.state event = some entry)
      (isAction : entry.action = some action) :
      Served methods auth
        (({ begun with state := entry.nextState } : EapAuth Method).perform methods action)
  | method {event : EapMethodEvent} {rest : List (EapJob AuthEvent)}
      (notRaised : auth.raised = none) (isFirst : auth.jobs = .method event :: rest) :
      Served methods auth
        (({ auth with jobs := rest } : EapAuth Method).serveMethod methods event)
  | innerMethod {event : EapMethodEvent} {rest : List (EapJob AuthEvent)}
      (notRaised : auth.raised = none) (isFirst : auth.jobs = .innerMethod event :: rest) :
      Served methods auth
        (({ auth with jobs := rest } : EapAuth Method).serveInnerMethod methods event)

variable {methods : AuthMethods Method} {auth begun : EapAuth Method} {event : AuthEvent}

theorem Takes.served (takes : auth.Takes event begun) (same : begun.running = auth.running)
    (sameState : begun.state = auth.state) (sameKind : begun.kind = auth.kind) :
    Served methods auth (begun.event methods event) := by
  rw [EapAuth.event]
  split
  · rename_i running
    split
    · rename_i ignores
      exact .ignored takes fun _ => sameKind ▸ sameState ▸ ignores
    · rename_i entry found
      cases isAction : entry.action with
      | none => exact .moved takes (same ▸ running) (sameKind ▸ sameState ▸ found) isAction
      | some action => exact .performed takes (same ▸ running) (sameKind ▸ sameState ▸ found) isAction
  · rename_i stopped
    exact .ignored takes fun running => absurd (same.trans running) stopped

theorem serve_served (methods : AuthMethods Method) (auth : EapAuth Method) :
    Served methods auth (auth.serve methods) := by
  rw [serve]
  split
  · rename_i event isRaised
    exact (Takes.raised isRaised).served rfl rfl rfl
  · rename_i notRaised
    split
    · rename_i noJobs
      exact .nothing notRaised noJobs
    · rename_i event rest isFirst
      exact (Takes.queued notRaised isFirst).served rfl rfl rfl
    · rename_i isFirst
      exact .method notRaised isFirst
    · rename_i isFirst
      exact .innerMethod notRaised isFirst

end EapAuth

end OpenDiameter.Eap
