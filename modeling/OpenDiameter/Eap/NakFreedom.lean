import OpenDiameter.Eap.AuthEffects
import OpenDiameter.Eap.NakNegotiation

/-!
Where the peer allows the first type that the authenticator proposes there is no Nak, and only
there is everything negotiated as it should be.
-/

namespace OpenDiameter.Eap

open OpenDiameter.Foundation OpenDiameter.Framework

/-! A standalone authenticator hears of a Nak by a message only. -/

section Hearing

variable {Method : Type} {methods : AuthMethods Method} {auth begun after : EapAuth Method}
  {msg : EapOctets}

/-- The authenticator has heard of no Nak. -/
structure HearsNoNak (auth : EapAuth Method) : Prop where
  kind : auth.kind = .standAlone
  raised : auth.raised ≠ some .rxNak
  rxQueue : ∀ msg ∈ auth.rxQueue, parseType msg ≠ .nak

theorem HearsNoNak.of_same (hears : HearsNoNak auth) (kind : after.kind = auth.kind)
    (raised : after.raised = auth.raised) (rxQueue : after.rxQueue = auth.rxQueue) :
    HearsNoNak after where
  kind := kind.trans hears.kind
  raised := raised ▸ hears.raised
  rxQueue := rxQueue ▸ hears.rxQueue

variable {event : AuthEvent}

/-- Another event is raised. -/
theorem HearsNoNak.raising (hears : HearsNoNak auth) (isRaised : after.raised = some event)
    (other : event ≠ .rxNak) (kind : after.kind = auth.kind)
    (rxQueue : after.rxQueue = auth.rxQueue) :
    HearsNoNak after where
  kind := kind.trans hears.kind
  raised := by
    rw [isRaised]
    exact fun same => other (Option.some.inj same)
  rxQueue := rxQueue ▸ hears.rxQueue

theorem HearsNoNak.of_quiet (hears : HearsNoNak auth) (quiet : Quiet auth after) :
    HearsNoNak after :=
  hears.of_same (congrArg PolicyPath.kind quiet.path) quiet.raised quiet.rxQueue

theorem HearsNoNak.examine (hears : HearsNoNak auth) (other : parseType msg ≠ .nak) :
    HearsNoNak (auth.examine msg) := by
  rw [EapAuth.examine]
  split
  · exact hears.of_same rfl rfl rfl
  · split
    · rename_i isNak
      exact absurd isNak.1 other
    · split
      · exact hears.raising rfl (by rintro ⟨⟩) rfl rfl
      · exact hears.raising rfl (by rintro ⟨⟩) rfl rfl

/-- The other messages are kept. -/
theorem HearsNoNak.dequeue (hears : HearsNoNak auth) {rest : List EapOctets}
    (isQueue : auth.rxQueue = msg :: rest) :
    HearsNoNak { auth with rxQueue := rest } ∧ parseType msg ≠ .nak := by
  refine ⟨⟨hears.kind, hears.raised, ?_⟩, hears.rxQueue msg (isQueue ▸ List.mem_cons_self)⟩
  intro other member
  exact hears.rxQueue other (isQueue ▸ List.mem_cons_of_mem _ member)

theorem HearsNoNak.receiveAaa (hears : HearsNoNak auth) (code : UInt8) (other : event ≠ .rxNak)
    {empty : EapAuth Method → EapAuth Method}
    (empties : HearsNoNak (empty { auth with txMessage := none })) :
    HearsNoNak (auth.receiveAaa code event empty) := by
  rw [EapAuth.receiveAaa]
  split
  · exact empties
  · dsimp only
    split
    · exact hears.raising rfl (by rintro ⟨⟩) rfl rfl
    · exact hears.raising rfl other rfl rfl

/-- Every action but that which a backend authenticator begins with. -/
theorem HearsNoNak.perform (hears : HearsNoNak auth) {action : AuthAction}
    (notBackend : action ≠ .backendInitializing) : HearsNoNak (auth.perform methods action) := by
  cases action with
  | backendInitializing => exact absurd rfl notBackend
  | disable | aaaRequest | prepareRequest => exact hears.raising rfl (by rintro ⟨⟩) rfl rfl
  | initializing | discard => exact hears.raising rfl (by rintro ⟨⟩) rfl rfl
  | sendSuccess | sendFailure | completePassThroughWithSuccess | completePassThroughWithFailure =>
    exact hears.of_same rfl rfl rfl
  | doIntegrityCheck2 => exact hears.of_same rfl rfl rfl
  | proposeMethod => exact hears.of_quiet .proposeMethod
  | sendRequest => exact hears.of_quiet .sendRequest
  | doIntegrityCheck => exact hears.of_quiet (.notifyMethod _)
  | tunnelEstablished | notifyInnerEap => exact hears.of_quiet (.notifyInnerMethod _)
  | waitTunnelProcess => exact hears.of_quiet (Quiet.composeRequest.trans (.notifyMethod _))
  | buildRequest => exact (hears.of_quiet .composeRequest).raising rfl (by rintro ⟨⟩) rfl rfl
  | pickUpMethod =>
    rw [EapAuth.perform, EapAuth.pickUpMethod]
    split
    · exact hears.of_quiet (.stop (by rintro ⟨⟩))
    · split
      · rename_i type _ _
        have begun : HearsNoNak { auth with currentMethod := type } := hears.of_same rfl rfl rfl
        exact (begun.of_quiet (.createMethod _ _)).raising rfl (by rintro ⟨⟩) rfl rfl
      · exact hears.raising rfl (by rintro ⟨⟩) rfl rfl
  | methodResponse =>
    rw [EapAuth.perform, EapAuth.methodResponse]
    split
    · exact hears.of_quiet (.stop (by rintro ⟨⟩))
    · split
      · exact hears.raising rfl (by rintro ⟨⟩) rfl rfl
      · exact hears.raising rfl (by rintro ⟨⟩) rfl rfl
  | doPolicyCheck =>
    rw [EapAuth.perform, EapAuth.doPolicyCheck]
    split
    · exact hears.raising rfl (by rintro ⟨⟩) rfl rfl
    · exact hears.raising rfl (by rintro ⟨⟩) rfl rfl
    · exact hears.raising rfl (by rintro ⟨⟩) rfl rfl
    · exact hears.raising rfl (by rintro ⟨⟩) rfl rfl
  | discard2 =>
    rw [EapAuth.perform, EapAuth.discard2]
    dsimp only
    split
    · exact hears.of_same rfl rfl rfl
    · rename_i isQueue
      rw [if_neg (by rw [hears.kind]; rintro ⟨⟩)]
      exact ⟨hears.kind, (by rintro ⟨⟩), (hears.dequeue isQueue).1.rxQueue⟩
  | resetMethod =>
    rw [EapAuth.perform, EapAuth.resetMethod]
    split
    · exact hears.of_quiet (.stop (by rintro ⟨⟩))
    · split
      · exact hears.of_quiet (.stop (by rintro ⟨⟩))
      · exact hears.raising rfl (by rintro ⟨⟩) rfl rfl
  | retransmit =>
    rw [EapAuth.perform, EapAuth.retransmit]
    split
    · apply HearsNoNak.of_quiet _ .sendTxMessage
      exact hears.of_same rfl rfl rfl
    · exact hears.raising rfl (by rintro ⟨⟩) rfl rfl
  | receiveMsg =>
    rw [EapAuth.perform, EapAuth.receiveMsg]
    split
    · exact hears.of_same rfl rfl rfl
    · rename_i isQueue
      apply HearsNoNak.examine _ (hears.dequeue isQueue).2
      exact (hears.dequeue isQueue).1.of_same rfl rfl rfl
  | receiveMsg2 =>
    rw [EapAuth.perform, EapAuth.receiveMsg2]
    split
    · exact hears.of_same rfl rfl rfl
    · rename_i isQueue
      dsimp only
      split
      · exact (hears.dequeue isQueue).1.of_same rfl rfl rfl
      · exact (hears.dequeue isQueue).1.raising rfl (by rintro ⟨⟩) rfl rfl
  | pickUpInitCheck =>
    rw [EapAuth.perform, EapAuth.pickUpInitCheck]
    split
    · exact hears.raising rfl (by rintro ⟨⟩) rfl rfl
    · exact hears.raising rfl (by rintro ⟨⟩) rfl rfl
  | aaaContinue =>
    rw [EapAuth.perform, EapAuth.aaaContinue]
    apply hears.receiveAaa
    · rintro ⟨⟩
    · exact hears.of_same rfl rfl rfl
  | aaaSuccess =>
    rw [EapAuth.perform, EapAuth.aaaSuccess]
    apply hears.receiveAaa
    · rintro ⟨⟩
    · exact hears.raising rfl (by rintro ⟨⟩) rfl rfl
  | aaaFailure =>
    rw [EapAuth.perform, EapAuth.aaaFailure]
    apply hears.receiveAaa
    · rintro ⟨⟩
    · exact hears.raising rfl (by rintro ⟨⟩) rfl rfl
  | discard3 =>
    rw [EapAuth.perform, EapAuth.discard3]
    split
    · exact hears.of_same rfl rfl rfl
    · exact hears.of_same rfl rfl rfl

theorem notBackend_of_find {state : AuthState}
    {entry : StateTableEntry AuthState AuthEvent AuthAction}
    (found : (authStateTable .standAlone).find state event = some entry) :
    entry.action ≠ some .backendInitializing := by
  have listed : ∀ entry ∈ standAloneStateTable, entry.action ≠ some .backendInitializing := by
    decide
  exact listed entry (StateTable.find_sound found).1

theorem HearsNoNak.takes (hears : HearsNoNak auth) (takes : auth.Takes event begun) :
    HearsNoNak begun := by
  cases takes with
  | raised isRaised => exact ⟨hears.kind, nofun, hears.rxQueue⟩
  | queued notRaised isFirst => exact hears.of_same rfl rfl rfl

theorem HearsNoNak.serve (hears : HearsNoNak auth) : HearsNoNak (auth.serve methods) := by
  have served := EapAuth.serve_served methods auth
  generalize auth.serve methods = after at served ⊢
  cases served with
  | nothing notRaised noJobs => exact hears
  | ignored takes ignores => exact hears.takes takes
  | moved takes running found noAction => exact (hears.takes takes).of_same rfl rfl rfl
  | performed takes running found isAction =>
    rw [hears.kind] at found
    apply HearsNoNak.perform
    · exact (hears.takes takes).of_same rfl rfl rfl
    · rintro rfl
      exact notBackend_of_find found isAction
  | method notRaised isFirst =>
    rw [EapAuth.serveMethod]
    split
    · exact hears.of_same rfl rfl rfl
    · exact hears.of_same rfl rfl rfl
  | innerMethod notRaised isFirst =>
    rw [EapAuth.serveInnerMethod]
    split
    · exact hears.of_same rfl rfl rfl
    · exact hears.of_same rfl rfl rfl

theorem HearsNoNak.receive (hears : HearsNoNak auth) (other : parseType msg ≠ .nak) :
    HearsNoNak (auth.receive msg) := by
  refine ⟨hears.kind, hears.raised, ?_⟩
  intro received member
  rw [EapAuth.receive, EapAuth.notify, List.mem_append, List.mem_singleton] at member
  apply member.elim (hears.rxQueue received)
  rintro rfl
  exact other

end Hearing

/-! An authenticator that has ended its session stays so. -/

section Conclusion

variable {Method : Type} {methods : AuthMethods Method} {auth begun after : EapAuth Method}

structure Concluded (auth : EapAuth Method) : Prop where
  kind : auth.kind = .standAlone
  state : auth.state = .success ∨ auth.state = .failure
  notRaised : auth.raised = none

theorem Concluded.of_same (concluded : Concluded auth) (kind : after.kind = auth.kind)
    (state : after.state = auth.state) (raised : after.raised = auth.raised) :
    Concluded after where
  kind := kind.trans concluded.kind
  state := state ▸ concluded.state
  notRaised := raised.trans concluded.notRaised

/-- Only messages are taken, and the state is kept. -/
theorem concluded_of_find {state : AuthState} {event : AuthEvent}
    {entry : StateTableEntry AuthState AuthEvent AuthAction}
    (found : (authStateTable .standAlone).find state event = some entry)
    (ended : state = .success ∨ state = .failure) :
    entry.nextState = state ∧ ∀ action ∈ entry.action, action = .discard2 := by
  have listed : ∀ entry ∈ standAloneStateTable,
      entry.prevState = .success ∨ entry.prevState = .failure →
        entry.nextState = entry.prevState ∧ ∀ action ∈ entry.action, action = .discard2 := by
    decide
  have sound := StateTable.find_sound found
  have kept := listed entry sound.1 (sound.2.1.symm ▸ ended)
  exact ⟨kept.1.trans sound.2.1, kept.2⟩

theorem Concluded.takes {event : AuthEvent} (concluded : Concluded auth)
    (takes : auth.Takes event begun) : Concluded begun ∧ begun.state = auth.state := by
  cases takes with
  | raised isRaised => exact ⟨⟨concluded.kind, concluded.state, rfl⟩, rfl⟩
  | queued notRaised isFirst => exact ⟨concluded.of_same rfl rfl rfl, rfl⟩

theorem Concluded.serve (concluded : Concluded auth) : Concluded (auth.serve methods) := by
  have served := EapAuth.serve_served methods auth
  generalize auth.serve methods = after at served ⊢
  cases served with
  | nothing notRaised noJobs => exact concluded
  | ignored takes ignores => exact (concluded.takes takes).1
  | moved takes running found noAction =>
    rw [concluded.kind] at found
    have begun := concluded.takes takes
    refine ⟨begun.1.kind, ?_, begun.1.notRaised⟩
    dsimp only
    rw [(concluded_of_find found concluded.state).1]
    exact concluded.state
  | performed takes running found isAction =>
    rw [concluded.kind] at found
    have begun := (concluded.takes takes).1
    have kept := concluded_of_find found concluded.state
    have isDiscard := kept.2 _ isAction
    rw [isDiscard, EapAuth.perform, EapAuth.discard2]
    dsimp only
    split
    · exact ⟨begun.kind, kept.1.symm ▸ concluded.state, begun.notRaised⟩
    · rw [if_neg (by rw [begun.kind]; rintro ⟨⟩)]
      exact ⟨begun.kind, kept.1.symm ▸ concluded.state, rfl⟩
  | method notRaised isFirst =>
    rw [EapAuth.serveMethod]
    split
    · exact concluded.of_same rfl rfl rfl
    · exact concluded.of_same rfl rfl rfl
  | innerMethod notRaised isFirst =>
    rw [EapAuth.serveInnerMethod]
    split
    · exact concluded.of_same rfl rfl rfl
    · exact concluded.of_same rfl rfl rfl

end Conclusion

/-! A peer that has accepted a method sends no Nak. -/

section Acceptance

variable {Method : Type} {methods : PeerMethods Method} {identity : Option EapOctets}
  {peer between after : EapPeer Method}

/-- Nothing that the peer has sent, or that it keeps to be sent, is a Nak. -/
structure SendsNoNak (peer : EapPeer Method) : Prop where
  txMessage : ∀ msg ∈ peer.txMessage, parseType msg ≠ .nak
  calls : ∀ msg, msg ∈ peer.calls.filterMap PeerCall.message → parseType msg ≠ .nak

theorem SendsNoNak.of_same (clean : SendsNoNak peer) (txMessage : after.txMessage = peer.txMessage)
    (calls : after.calls = peer.calls) : SendsNoNak after where
  txMessage := txMessage ▸ clean.txMessage
  calls := calls ▸ clean.calls

theorem SendsNoNak.prepare (clean : SendsNoNak peer) {msg : EapOctets}
    (txMessage : after.txMessage = some msg) (other : parseType msg ≠ .nak)
    (calls : after.calls = peer.calls) : SendsNoNak after where
  txMessage := by
    intro kept isKept
    rw [txMessage] at isKept
    cases isKept
    exact other
  calls := calls ▸ clean.calls

/-- The application is told something else. -/
theorem SendsNoNak.call (clean : SendsNoNak peer) {call : PeerCall} (silent : call.message = none)
    (txMessage : after.txMessage = peer.txMessage) (calls : after.calls = peer.calls ++ [call]) :
    SendsNoNak after where
  txMessage := txMessage ▸ clean.txMessage
  calls := by
    intro msg member
    rw [calls, List.filterMap_append, List.filterMap_cons_none silent, List.filterMap_nil,
      List.append_nil] at member
    exact clean.calls msg member

theorem SendsNoNak.composeResponse (clean : SendsNoNak peer) :
    SendsNoNak peer.composeResponse := by
  refine ⟨?_, clean.calls⟩
  intro msg isKept
  obtain ⟨kept, isTx, rfl⟩ := Option.map_eq_some_iff.mp isKept
  rw [parseType_writeHeader]
  exact clean.txMessage kept isTx

theorem SendsNoNak.sendResp (clean : SendsNoNak peer) (cached : Bool) :
    SendsNoNak (peer.sendResp cached) := by
  rw [EapPeer.sendResp]
  split
  · exact clean.of_same rfl rfl
  · rename_i msg isTx
    refine ⟨clean.txMessage, ?_⟩
    intro sent member
    rw [List.filterMap_append, List.mem_append] at member
    apply member.elim (clean.calls sent)
    intro isLast
    rw [List.mem_singleton.mp isLast]
    exact clean.txMessage msg isTx

theorem SendsNoNak.buildResp (clean : SendsNoNak peer) : SendsNoNak (peer.buildResp methods) := by
  have composed := clean.composeResponse
  rw [EapPeer.buildResp]
  split
  · exact clean.of_same rfl rfl
  · dsimp only
    split
    · apply SendsNoNak.sendResp
      exact composed.of_same rfl rfl
    · split
      · exact clean.of_same rfl rfl
      · split
        · apply SendsNoNak.sendResp
          exact composed.of_same rfl rfl
        · apply SendsNoNak.sendResp
          exact composed.of_same rfl rfl

/-- Every action but that which builds a Nak. -/
theorem SendsNoNak.perform (clean : SendsNoNak peer) {action : PeerAction}
    (notNak : action ≠ .buildNak) : SendsNoNak (peer.perform methods identity action) := by
  cases action with
  | buildNak => exact absurd rfl notNak
  | initializing | discard | startTimer => exact clean.of_same rfl rfl
  | retransmit => exact (clean.sendResp true).of_same rfl rfl
  | sendSuccess | sendFailure => exact clean.call rfl rfl rfl
  | buildResp => exact clean.buildResp
  | buildNotification =>
    have other : parseType (writeType .notification) ≠ .nak := by decide
    exact clean.prepare rfl other rfl
  | checkTimeoutCondition =>
    rw [EapPeer.perform, EapPeer.checkTimeoutCondition]
    split
    · exact clean.of_same rfl rfl
    · exact clean.of_same rfl rfl
  | doIntegrityCheck =>
    rw [EapPeer.perform, EapPeer.doIntegrityCheck]
    split
    · exact clean.of_same rfl rfl
    · exact clean.of_same rfl rfl
  | doPolicyCheck =>
    obtain ⟨_, _, _, _, _, _, isAfter⟩ := @doPolicyCheck_eq _ methods peer
    rw [EapPeer.perform, isAfter]
    exact clean.of_same rfl rfl
  | parseNotification =>
    rw [EapPeer.perform, EapPeer.parseNotification]
    split
    · exact clean.of_same rfl rfl
    · split
      · exact clean.call rfl rfl rfl
      · exact clean.of_same rfl rfl
  | parseIdentity =>
    rw [EapPeer.perform, EapPeer.parseIdentity]
    split
    · exact clean.of_same rfl rfl
    · split
      · cases identity with
        | none => exact clean.of_same rfl rfl
        | some text => exact clean.of_same rfl rfl
      · exact clean.of_same rfl rfl
  | buildIdentity =>
    rw [EapPeer.perform, EapPeer.buildIdentity]
    split
    · have other : parseType (writeType .identity ++ peer.peerIdentity) ≠ .nak := (by rintro ⟨⟩)
      exact clean.prepare rfl other rfl
    · exact clean.of_same rfl rfl
  | checkRxQueue =>
    rw [EapPeer.perform, EapPeer.checkRxQueue]
    split
    · exact clean.of_same rfl rfl
    · exact clean.of_same rfl rfl
  | checkIdentity =>
    cases identity with
    | none => exact clean.of_same rfl rfl
    | some text => exact clean.of_same rfl rfl
  | tunnelEstablished =>
    rw [EapPeer.perform, EapPeer.tunnelEstablished]
    split
    · exact clean.of_same rfl rfl
    · exact clean.of_same rfl rfl
  | waitTunnelProcess =>
    rw [EapPeer.perform, EapPeer.waitTunnelProcess]
    split
    · exact clean.composeResponse.of_same rfl rfl
    · exact clean.of_same rfl rfl
  | receiveMsg =>
    rw [EapPeer.perform, EapPeer.receiveMsg]
    split
    · exact clean.of_same rfl rfl
    · rename_i msg rest isQueue
      obtain ⟨_, _, _, _, _, isAfter⟩ :=
        @examine_eq _ { peer with rxQueue := rest, rxMessage := some msg } msg
      rw [isAfter]
      exact clean.of_same rfl rfl

/-- Every response of a method is something else. -/
theorem SendsNoNak.reply (clean : SendsNoNak peer) {reply : PeerReply}
    (other : ∀ response queued, reply.outcome = .valid response queued →
      parseType ([0, 0, 0, 0] ++ response) ≠ .nak) : SendsNoNak (peer.reply reply) := by
  rw [EapPeer.reply]
  dsimp only
  split
  · exact clean.of_same rfl rfl
  · rename_i response queued isValid
    have isOther := other response queued isValid
    split
    · exact clean.prepare rfl isOther rfl
    · exact clean.prepare rfl isOther rfl
  · split
    · exact clean.of_same rfl rfl
    · exact clean.of_same rfl rfl
  · split
    · exact clean.of_same rfl rfl
    · exact clean.of_same rfl rfl

/-- The peer has accepted a method. -/
structure Accepted (peer : EapPeer Method) : Prop where
  engaged : Engaged peer
  clean : SendsNoNak peer

theorem Accepted.serve (accepted : Accepted peer)
    (noNak : ∀ event request identifier method response queued,
      (methods.serve event request identifier method).2.outcome = .valid response queued →
        parseType ([0, 0, 0, 0] ++ response) ≠ .nak) :
    Accepted (peer.serve methods identity) := by
  refine ⟨accepted.engaged.serve, ?_⟩
  have begins {begun : EapPeer Method} {event : PeerEvent} (takes : peer.Takes event begun) :
      SendsNoNak begun := by
    cases takes with
    | raised isRaised => exact accepted.clean.of_same rfl rfl
    | queued notRaised isFirst => exact accepted.clean.of_same rfl rfl
  have served := EapPeer.serve_served methods identity peer
  generalize peer.serve methods identity = after at served ⊢
  cases served with
  | nothing notRaised noJobs => exact accepted.clean
  | ignored takes ignores => exact begins takes
  | moved takes running found noAction => exact (begins takes).of_same rfl rfl
  | performed takes running found isAction =>
    apply SendsNoNak.perform
    · exact (begins takes).of_same rfl rfl
    · rintro rfl
      have notEntry := (accepted.engaged.takes takes).2
      rw [entry_of_find found (.inr isAction)] at notEntry
      cases notEntry
  | method notRaised isFirst =>
    rw [EapPeer.serveMethod]
    split
    · exact accepted.clean.of_same rfl rfl
    · apply SendsNoNak.reply
      · exact accepted.clean.of_same rfl rfl
      · exact noNak _ _ _ _
  | innerMethod notRaised isFirst =>
    rw [EapPeer.serveInnerMethod]
    split
    · exact accepted.clean.of_same rfl rfl
    · apply SendsNoNak.reply
      · exact accepted.clean.of_same rfl rfl
      · exact noNak _ _ _ _

theorem Accepted.receive (accepted : Accepted peer) (msg : EapOctets) :
    Accepted (peer.receive msg) :=
  ⟨accepted.engaged.receive msg, accepted.clean.of_same rfl rfl⟩

end Acceptance

/-! The negotiation with a peer that allows the first type. -/

section Negotiations

variable {AuthMethod PeerMethod : Type} {settings : NegotiationSettings AuthMethod PeerMethod}
  {type : EapType} {request : EapOctets} {c next : Negotiation AuthMethod PeerMethod}
  {peer : EapPeer PeerMethod}

/-- The peer is on its way into the first method. -/
inductive Entering (settings : NegotiationSettings AuthMethod PeerMethod) (type : EapType)
    (request : EapOctets) (peer : EapPeer PeerMethod) : Prop where
  | received (isPeer : peer = (waitingPeer settings).receive request)
  | examined (isPeer : peer =
      { (waitingPeer settings).examined request with
        state := .received
        raised := some .sgNewMethod })
  | allowed (running : peer.running = true) (state : peer.state = .getMethod)
      (raised : peer.raised = some .sgEnterMethod) (noJobs : peer.jobs = [])
      (current : peer.currentMethod = type) (notSent : peer.txMessage = none)
      (noCalls : peer.calls = [])

theorem Entering.serve (entering : Entering settings type request peer)
    (isMethod : 4 ≤ type.type) (isType : parseType request = type)
    (code : (parseHeader request).code = codeRequest)
    (allowed : (waitingPeer settings).policy.allow type = true) (identity : Option EapOctets) :
    (peer.serve settings.peerMethods identity).calls = [] ∧
      (Entering settings type request (peer.serve settings.peerMethods identity) ∨
        Accepted (peer.serve settings.peerMethods identity)) := by
  have notNotification := method_ne_notification isMethod
  have notIdentity := method_ne_identity isMethod
  cases entering with
  | received isPeer =>
    have examines : peer.serve settings.peerMethods identity =
        { (waitingPeer settings).examined request with
          state := .received
          raised := some .sgNewMethod } := by
      rw [isPeer]
      simp [waitingPeer, newPeer, EapPeer.receive, EapPeer.notify, EapPeer.serve, EapPeer.event,
        find_rxMsg, EapPeer.perform, EapPeer.receiveMsg, EapPeer.examine, code,
        EapPeer.parseRequest, isType, notNotification, notIdentity, EapPeer.raise,
        EapPeer.examined]
    rw [examines]
    exact ⟨rfl, .inl (.examined rfl)⟩
  | examined isPeer =>
    let begun : EapPeer PeerMethod :=
      { (waitingPeer settings).examined request with state := .getMethod, raised := none }
    have checks : peer.serve settings.peerMethods identity =
        begun.doPolicyCheck settings.peerMethods := by
      rw [isPeer]
      rfl
    have isAllowed : (if begun.reqMethod = .identity then decide (begun.currentMethod = .none)
        else begun.policy.allow begun.reqMethod) = true := by
      have req : begun.reqMethod = type := isType
      rw [req, if_neg notIdentity]
      exact allowed
    rw [EapPeer.doPolicyCheck] at checks
    dsimp only at checks
    rw [if_pos isAllowed] at checks
    obtain ⟨_, _, _, isCreated⟩ :=
      @createMethod_eq _ settings.peerMethods
        ({ begun with currentMethod := begun.reqMethod } : EapPeer PeerMethod).deleteMethod
        begun.reqMethod begun.policy.innerEapMethodType
    rw [isCreated] at checks
    rw [checks]
    exact ⟨rfl, .inl (.allowed rfl rfl rfl rfl isType rfl rfl)⟩
  | allowed running state raised noJobs current notSent noCalls =>
    have enters : peer.serve settings.peerMethods identity =
        ({ peer with raised := none, state := .method } : EapPeer PeerMethod).doIntegrityCheck := by
      simp [EapPeer.serve, raised, EapPeer.event, running, state, find_sgEnterMethod,
        EapPeer.perform]
    rw [enters, EapPeer.doIntegrityCheck]
    have hasMethod : peer.currentMethod ≠ .none := current ▸ method_ne_none isMethod
    have clean : SendsNoNak peer := by
      constructor
      · rw [notSent]
        rintro _ ⟨⟩
      · rw [noCalls]
        rintro _ ⟨⟩
    dsimp only
    split
    · refine ⟨noCalls, .inr ⟨⟨hasMethod, (by rintro _ ⟨⟩), ?_⟩, clean.of_same rfl rfl⟩⟩
      rw [EapPeer.stop, noJobs]
      rintro _ ⟨⟩
    · refine ⟨noCalls, .inr ⟨⟨hasMethod, (by rintro _ ⟨⟩), ?_⟩, clean.of_same rfl rfl⟩⟩
      rw [noJobs]
      intro job member
      rw [List.mem_singleton.mp member]
      rfl

/-- Nothing has been answered yet. -/
structure Opens (settings : NegotiationSettings AuthMethod PeerMethod) (type : EapType)
    (request : EapOctets) (c : Negotiation AuthMethod PeerMethod) : Prop where
  notRaised : c.auth.raised = none
  noJobs : c.auth.jobs = []
  responses : c.responses = []
  peer : c.requests = [request] ∧ c.peer = waitingPeer settings ∨
    c.requests = [] ∧ Entering settings type request c.peer

/-- There is no Nak anywhere. -/
structure Peaceful (settings : NegotiationSettings AuthMethod PeerMethod) (type : EapType)
    (request : EapOctets) (c : Negotiation AuthMethod PeerMethod) : Prop where
  auth : HearsNoNak c.auth
  responses : ∀ msg ∈ c.responses, parseType msg ≠ .nak
  peer : Opens settings type request c ∨ Accepted c.peer

/-- What is sent in a service is kept among the calls. -/
theorem SendsNoNak.sent {after : EapPeer PeerMethod} (clean : SendsNoNak after) (count : Nat)
    {responses : List EapOctets} (peaceful : ∀ msg ∈ responses, parseType msg ≠ .nak) :
    ∀ msg ∈ responses ++ (after.calls.drop count).filterMap PeerCall.message,
      parseType msg ≠ .nak := by
  intro msg member
  apply (List.mem_append.mp member).elim (peaceful msg)
  intro isSent
  exact clean.calls msg ((List.drop_sublist _ _).filterMap _ |>.subset isSent)

theorem Opens.sends_nothing (opens : Opens settings type request c) : c.peer.calls = [] := by
  cases opens.peer with
  | inl waits => rw [waits.2]; rfl
  | inr enters =>
    cases enters.2 with
    | received isPeer => rw [isPeer]; rfl
    | examined isPeer => rw [isPeer]; rfl
    | allowed running state raised noJobs current notSent noCalls => exact noCalls

/-- One step of the negotiation. -/
theorem Peaceful.step {input : NegotiationInput} {types : EapTypeList}
    (peaceful : Peaceful settings type request c)
    (supports : SupportsTypes settings types) (isMethod : 4 ≤ type.type)
    (isType : parseType request = type) (code : (parseHeader request).code = codeRequest)
    (allowed : (waitingPeer settings).policy.allow type = true)
    (stepped : NegotiationStep settings c input next) : Peaceful settings type request next := by
  obtain ⟨auth, responses, peer⟩ := peaceful
  cases stepped with
  | serveAuth faultless =>
    refine ⟨auth.serve, responses, peer.imp_left ?_⟩
    intro opens
    have still : c.auth.serve settings.authMethods = c.auth := by
      rw [EapAuth.serve, opens.notRaised, opens.noJobs]
    refine ⟨?_, ?_, opens.responses, ?_⟩
    · rw [Negotiation.serveAuth, still]
      exact opens.notRaised
    · rw [Negotiation.serveAuth, still]
      exact opens.noJobs
    · have nothing : (c.serveAuth settings.authMethods).requests = c.requests := by
        rw [Negotiation.serveAuth, still]
        simp
      rw [nothing]
      exact opens.peer
  | servePeer identity faultless =>
    cases peer with
    | inr accepted =>
      have served : Accepted (c.peer.serve settings.peerMethods identity) :=
        accepted.serve supports.noNak
      exact ⟨auth, served.clean.sent _ responses, .inr served⟩
    | inl opens =>
      have quiet : c.responses = [] := opens.responses
      have silent := opens.sends_nothing
      cases opens.peer with
      | inl waits =>
        have still : c.peer.serve settings.peerMethods identity = c.peer := by
          rw [waits.2]
          exact @Settled.iterate _ settings.peerMethods identity _ waitingPeer_settled 1
        have same : c.servePeer settings.peerMethods identity = c := by
          rw [Negotiation.servePeer, still]
          simp
        rw [same]
        exact ⟨auth, responses, .inl opens⟩
      | inr enters =>
        obtain ⟨noCalls, goesOn⟩ := enters.2.serve isMethod isType code allowed identity
        have noResponses : (c.servePeer settings.peerMethods identity).responses = [] := by
          rw [Negotiation.servePeer]
          dsimp only
          rw [noCalls, quiet, List.drop_nil]
          rfl
        refine ⟨auth, (by rw [noResponses]; rintro _ ⟨⟩), goesOn.imp_left ?_⟩
        intro entering
        exact ⟨opens.notRaised, opens.noJobs, noResponses, .inr ⟨enters.1, entering⟩⟩
  | @deliverRequest msg rest faultless isFirst =>
    refine ⟨auth, responses, ?_⟩
    cases peer with
    | inr accepted => exact .inr (accepted.receive msg)
    | inl opens =>
      cases opens.peer with
      | inr enters =>
        rw [enters.1] at isFirst
        cases isFirst
      | inl waits =>
        rw [waits.1] at isFirst
        cases isFirst
        refine .inl ⟨opens.notRaised, opens.noJobs, opens.responses, .inr ⟨rfl, ?_⟩⟩
        exact .received (congrArg (EapPeer.receive request) waits.2)
  | @deliverResponse msg rest faultless isFirst =>
    have other : parseType msg ≠ .nak := responses msg (isFirst ▸ List.mem_cons_self)
    refine ⟨auth.receive other, ?_, peer.imp_left ?_⟩
    · intro later member
      exact responses later (isFirst ▸ List.mem_cons_of_mem _ member)
    · intro opens
      rw [opens.responses] at isFirst
      cases isFirst

theorem Proposed.hearsNoNak {auth : EapAuth AuthMethod}
    (proposed : Proposed settings type request auth) : HearsNoNak auth where
  kind := proposed.kind
  raised := by
    rw [proposed.notRaised]
    nofun
  rxQueue := by
    rw [proposed.noMessages]
    nofun

/-- Both wait where a negotiation starts. -/
theorem StartsNegotiation.waits (starts : StartsNegotiation settings c) :
    c.peer = waitingPeer settings ∧
      ∀ {services : Nat} {auth : EapAuth AuthMethod},
        (EapAuth.serve settings.authMethods)^[services]
          (newAuth .standAlone settings.authPolicy settings.methodState).start = auth →
        auth.raised = none → auth.jobs = [] → c.auth = auth := by
  obtain ⟨identity, services, isPeer⟩ := starts.peer
  obtain ⟨authServices, isAuth⟩ := starts.auth
  constructor
  · have waiting := @serve_newPeer _ _ settings identity
    rw [isPeer, ← waiting]
    apply iterate_unique
    · rw [← isPeer, EapPeer.serve, starts.peerWaits.1, starts.peerWaits.2]
    · rw [waiting]
      rfl
  · intro others auth isOther notRaised noJobs
    rw [← isOther, isAuth]
    apply iterate_unique
    · rw [← isAuth, EapAuth.serve, starts.authWaits.1, starts.authWaits.2]
    · rw [isOther, EapAuth.serve, notRaised, noJobs]

end Negotiations

/-- Everything is negotiated as it should be just where the first type of the chain is allowed by
the policy of the peer, so that there is no Nak. -/
theorem negotiates_iff {AuthMethod PeerMethod : Type}
    {settings : NegotiationSettings AuthMethod PeerMethod} {types : EapTypeList}
    (chain : LegacyChain settings.authPolicy.elements settings.authPolicy.initialPolicyElement types)
    (supports : SupportsTypes settings types) :
    (∀ c, NegotiationReached settings c → Negotiates settings c) ↔
      ∀ type ∈ types.head?, EapPolicy.allow
        { settings.peerPolicy with
          currentPolicyElement := settings.peerPolicy.initialPolicyElement } type = true := by
  cases types with
  | nil =>
    have isFinal : settings.authPolicy.initialPolicyElement.isContinued = false := by
      generalize settings.authPolicy.initialPolicyElement = initial at chain
      cases chain with
      | ends isFinal => exact isFinal
    refine ⟨fun _ => nofun, fun _ c reached => ?_⟩
    have concluded : Concluded c.auth := by
      apply reached.invariant fun c => Concluded c.auth
      · intro c starts
        obtain ⟨auth, isAuth, kind, state, notRaised, noJobs⟩ := ends_at_once isFinal
        rw [starts.waits.2 isAuth notRaised noJobs]
        exact ⟨kind, state, notRaised⟩
      · intro c input next concluded stepped _
        cases stepped with
        | serveAuth faultless => exact concluded.serve
        | servePeer identity faultless => exact concluded
        | deliverRequest faultless isFirst => exact concluded
        | deliverResponse faultless isFirst => exact concluded.of_same rfl rfl rfl
    intro isRaised
    rw [concluded.notRaised] at isRaised
    cases isRaised
  | cons type types =>
    have isMethod : 4 ≤ type.type := by
      generalize settings.authPolicy.initialPolicyElement = initial at chain
      cases chain with
      | link legacy rest => exact legacy.1
    obtain ⟨request, proposed⟩ := proposes_first chain supports
    constructor
    · intro negotiates other isHead
      cases isHead
      apply Bool.of_not_eq_false
      intro refused
      obtain ⟨c, reached, fails⟩ :=
        not_negotiates proposed isMethod (starts_opening proposed ⟨8, rfl⟩) refused
      exact fails (negotiates c reached)
    · intro allowed c reached
      have isAllowed := allowed type rfl
      have code : (parseHeader request).code = codeRequest := by rw [proposed.isRequest]
      have peaceful : Peaceful settings type request c := by
        apply reached.invariant (Peaceful settings type request)
        · intro c starts
          have isAuth := starts.waits.2 rfl proposed.notRaised proposed.noJobs
          have calls : c.auth.calls = [.send request] := isAuth ▸ proposed.calls
          refine ⟨isAuth ▸ proposed.hearsNoNak, starts.responses ▸ nofun, .inl ?_⟩
          refine ⟨isAuth ▸ proposed.notRaised, isAuth ▸ proposed.noJobs, starts.responses,
            .inl ⟨?_, starts.waits.1⟩⟩
          rw [starts.requests, calls]
          rfl
        · intro c input next peaceful stepped _
          exact peaceful.step supports isMethod proposed.isType code isAllowed stepped
      intro isNak
      exact absurd isNak peaceful.auth.raised

section Samples

/-- An authenticator whose policy is MD5-Challenge, and a peer whose policy is another type. -/
def md5Negotiation (peerType : EapType) : NegotiationSettings Md5AuthState Md5PeerState where
  authMethods := md5AuthMethods sampleMd5
  authPolicy :=
    { elements := fun _ => { methodType := .md5Challenge }
      initialPolicyElement := .continued 0
      currentPolicyElement := .null }
  methodState := .proposed
  peerMethods := md5PeerMethods sampleMd5
  peerPolicy :=
    { elements := fun _ => { methodType := peerType }
      initialPolicyElement := .continued 0
      currentPolicyElement := .null }
  decision := .fail
  lastIdentifier := 0

theorem md5_chain (peerType : EapType) :
    LegacyChain (md5Negotiation peerType).authPolicy.elements
      (md5Negotiation peerType).authPolicy.initialPolicyElement [.md5Challenge] := by
  have legacy : EapType.md5Challenge.IsLegacy := ⟨by decide, by decide, rfl, rfl⟩
  exact .link legacy (.ends rfl)

/-- MD5-Challenge responds with its type. -/
theorem md5_noNak (event : EapMethodEvent) (request : Option EapOctets) (identifier : UInt8)
    (method : Md5PeerState) (response : EapOctets) (queued : Bool)
    (valid : (serveMd5Peer sampleMd5 event request identifier method).2.outcome =
      .valid response queued) : parseType ([0, 0, 0, 0] ++ response) ≠ .nak := by
  cases method with
  | success => cases valid
  | initializing =>
    cases event with
    | sgTunnelProcess => cases valid
    | sgIntegrityCheck =>
      simp only [serveMd5Peer] at valid
      generalize request.bind readMd5Value = read at valid
      cases read with
      | none => cases valid
      | some value =>
        cases valid
        rintro ⟨⟩

theorem md5_supports (peerType : EapType) :
    SupportsTypes (md5Negotiation peerType) [.md5Challenge] where
  prepares := by
    intro type member
    rw [List.mem_singleton.mp member]
    exact ⟨.initializing, .waitResponse, _, rfl, rfl, rfl⟩
  inner := fun hasInner => absurd rfl hasInner
  noNak := md5_noNak

/-- Two that are for MD5-Challenge negotiate it. -/
theorem negotiates_md5 :
    (waitingPeer (md5Negotiation .md5Challenge)).policy.allow .md5Challenge = true ∧
      ∀ c, NegotiationReached (md5Negotiation .md5Challenge) c →
        Negotiates (md5Negotiation .md5Challenge) c := by
  refine ⟨rfl, ?_⟩
  apply (negotiates_iff (md5_chain .md5Challenge) (md5_supports .md5Challenge)).mpr
  intro type isHead
  cases isHead
  rfl

/-- The authenticator does not read the Nak of a peer that is for another type. -/
theorem nak_is_not_read : ∃ c, NegotiationReached (md5Negotiation ⟨13, 0, 0⟩) c ∧
    ¬Negotiates (md5Negotiation ⟨13, 0, 0⟩) c := by
  obtain ⟨request, proposed⟩ := proposes_first (md5_chain ⟨13, 0, 0⟩) (md5_supports ⟨13, 0, 0⟩)
  exact not_negotiates proposed (by decide) (starts_opening proposed ⟨8, rfl⟩) rfl

end Samples

end OpenDiameter.Eap
