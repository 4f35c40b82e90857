import OpenDiameter.Peer.ConnectService

/-!
Two sides that connect at the same time follow the protocol of two parties, and when
both are open they use one connection.
-/

namespace OpenDiameter.Peer

namespace Peer

variable {Avps : Type} {config : PeerConfig Avps} {side : Side} {host : List Int8}
  {far : Party} {peer next : Peer Side Avps} {posted : List (PeerEventParam Side Avps)}
  {taken : List MsgId}

theorem Posts.holds (post : peer.Posts next posted taken) (connection : Side) :
    next.holds connection =
      peer.holds connection + (posted.filterMap PeerEventParam.io).count connection := by
  simp [Peer.holds, currentIo, post.eventQueue, post.current, post.ioInitiator,
    post.ioResponder, post.deleted]
  omega

theorem Posts.quiet (post : peer.Posts next posted taken)
    (quiet : Quiet config side host far peer)
    (expected : ∀ param ∈ posted,
      Expected side (electHosts config.identity host = .won) host far param)
    (once : ∀ connection, next.holds connection ≤ 1) :
    Quiet config side host far next where
  running := post.running.trans quiet.running
  current := post.current.trans quiet.current
  events := by
    intro param member
    rw [post.eventQueue] at member
    exact (List.mem_append.mp member).elim (quiet.events param) (expected param)
  once := once
  initiator := by
    rw [post.ioInitiator]
    exact quiet.initiator
  responder := by
    rw [post.ioResponder]
    exact quiet.responder
  sent := by
    rw [post.sendQueue]
    exact quiet.sent
  single := by
    rw [sentOn, post.sendQueue]
    exact quiet.single
  elects := by
    rw [post.state, post.host]
    exact quiet.elects

/-- Events without a connection leave the protocol where it is. -/
theorem Posts.alone (post : peer.Posts next posted taken)
    (quiet : Quiet config side host far peer)
    (expected : ∀ param ∈ posted,
      Expected side (electHosts config.identity host = .won) host far param)
    (alone : ∀ param ∈ posted, param.io = none) :
    Advances config side host far peer next ∧
      ∀ connection, next.holds connection = peer.holds connection := by
  have noIo : posted.filterMap PeerEventParam.io = [] := by
    simpa [List.filterMap_eq_nil_iff] using alone
  have holds (connection : Side) : next.holds connection = peer.holds connection := by
    simp [post.holds, noIo]
  constructor
  · constructor
    · apply post.quiet quiet expected
      intro connection
      rw [holds]
      exact quiet.once connection
    · left
      simp [party, place, post.state, post.deleted, post.ioInitiator, post.ioResponder,
        post.sendQueue, holds]
  · exact holds

variable {held : Option Side} {connection : Side}

/-- A connection that is nowhere yet. -/
theorem place_absent (absent : peer.holds connection = 0)
    (isHeld : held = peer.ioInitiator ∨ held = peer.ioResponder) :
    peer.place held connection = .absent ∧ connection ∉ peer.deleted ∧
      held ≠ some connection := by
  have notDeleted : connection ∉ peer.deleted := by
    rw [← List.count_eq_zero]
    simp only [holds] at absent
    omega
  have notHeld : held ≠ some connection := by
    intro same
    rcases isHeld with isHeld | isHeld <;> rw [isHeld] at same <;>
      simp [holds, same] at absent
  refine ⟨?_, notDeleted, notHeld⟩
  simp [place, notDeleted, notHeld, absent]

variable {param : PeerEventParam Side Avps}

theorem Posts.once (post : peer.Posts next [param] taken) (quiet : Quiet config side host far peer)
    (carried : param.io = some connection) (absent : peer.holds connection = 0) (other : Side) :
    next.holds other ≤ 1 := by
  rw [post.holds]
  by_cases same : other = connection
  · simp [carried, same, absent]
  · simpa [carried, same, List.count_singleton, Ne.symm same] using quiet.once other

/-- An event with a connection that was nowhere. -/
theorem Posts.place_arriving (post : peer.Posts next [param] taken)
    (carried : param.io = some connection) (absent : peer.holds connection = 0)
    (isHeld : held = peer.ioInitiator ∨ held = peer.ioResponder) :
    next.place held connection = .arriving := by
  obtain ⟨_, notDropped, notHeld⟩ := place_absent absent isHeld
  simp [place, post.deleted, post.holds, notDropped, notHeld, carried]

theorem Posts.place_kept {connection other : Side} (post : peer.Posts next [param] taken)
    (carried : param.io = some connection) (different : other ≠ connection) :
    next.place held other = peer.place held other := by
  simp [place, post.deleted, post.holds, carried, different.symm]

theorem Posts.connects (post : peer.Posts next [param] taken)
    (quiet : Quiet config side host far peer)
    (expected : Expected side (electHosts config.identity host = .won) host far param)
    (carried : param.io = some side) (absent : peer.holds side = 0) :
    Advances config side host far peer next := by
  constructor
  · apply post.quiet quiet _ (post.once quiet carried absent)
    simpa using expected
  · right
    have step : Party.Step (electHosts config.identity host = .won) far (peer.party side)
        { peer.party side with own := .arriving } :=
      .connected (place_absent absent (.inl rfl)).1
    simpa [party, post.state, post.ioInitiator, post.ioResponder, post.sendQueue,
      post.place_arriving carried absent (.inl rfl),
      post.place_kept carried side.other_ne] using step

theorem Posts.requests (post : peer.Posts next [param] taken)
    (quiet : Quiet config side host far peer)
    (expected : Expected side (electHosts config.identity host = .won) host far param)
    (carried : param.io = some side.other) (absent : peer.holds side.other = 0)
    (offered : far.offered = true) : Advances config side host far peer next := by
  constructor
  · apply post.quiet quiet _ (post.once quiet carried absent)
    simpa using expected
  · right
    have step : Party.Step (electHosts config.identity host = .won) far (peer.party side)
        { peer.party side with other := .arriving } :=
      .requested (place_absent absent (.inr rfl)).1 offered
    simpa [party, post.state, post.ioInitiator, post.ioResponder, post.sendQueue,
      post.place_arriving carried absent (.inr rfl),
      post.place_kept carried side.ne_other] using step

/-- The other's connection is gone before its CER. -/
theorem Quiet.loses (quiet : Quiet config side host far peer)
    (absent : peer.holds side.other = 0) :
    Advances config side host far peer
      { peer with deleted := peer.deleted ++ [side.other] } := by
  have holds (connection : Side) :
      ({ peer with deleted := peer.deleted ++ [side.other] } : Peer Side Avps).holds
        connection = peer.holds connection + [side.other].count connection := by
    simp only [Peer.holds, currentIo, List.count_append]
    omega
  have once (connection : Side) :
      ({ peer with deleted := peer.deleted ++ [side.other] } : Peer Side Avps).holds
        connection ≤ 1 := by
    rw [holds]
    by_cases same : connection = side.other
    · simp [same, absent]
    · simpa [List.count_singleton, Ne.symm same] using quiet.once connection
  constructor
  · exact ⟨quiet.running, quiet.current, quiet.events, once, quiet.initiator, quiet.responder,
      quiet.sent, quiet.single, quiet.elects⟩
  · right
    have step : Party.Step (electHosts config.identity host = .won) far (peer.party side)
        { peer.party side with other := .dropped } :=
      .lost (place_absent absent (.inr rfl)).1
    simpa [party, place, holds] using step

/-- A CEA leads to its event, or to none. -/
theorem posts_cea {cea : PeerMsg Avps} (running : peer.running = true)
    (notClosing : peer.state ≠ .closing) (isAnswer : isCea cea = true) :
    ∃ posted taken, peer.Posts (peer.message cea) posted taken ∧
      ∀ param ∈ posted, (param.event = .iRcvCea ∨ param.event = .rRcvCea) ∧
        param.msg = some cea ∧ param.io = none := by
  have answer : cea.code = .capabilitiesExchg ∧ cea.request = false := by
    simpa [isCea] using isAnswer
  have book := posts_msgIdRxMessage peer cea
  have kept : ∃ posted taken, peer.Posts (peer.msgIdRxMessage cea).2 posted taken ∧
      ∀ param ∈ posted, (param.event = .iRcvCea ∨ param.event = .rRcvCea) ∧
        param.msg = some cea ∧ param.io = none :=
    ⟨_, _, book, by simp⟩
  have posts (initiator : Bool) :
      ∃ posted taken,
        peer.Posts
          ((peer.msgIdRxMessage cea).2.notify
            (messageEvent initiator cea.request cea.code) (some cea) none) posted taken ∧
        ∀ param ∈ posted, (param.event = .iRcvCea ∨ param.event = .rRcvCea) ∧
          param.msg = some cea ∧ param.io = none := by
    refine ⟨_, _, book.trans (posts_notify (book.running.trans running)
      (genuine_messageEvent Side initiator cea)), ?_⟩
    intro param member
    cases List.mem_singleton.mp member
    cases initiator <;> simp [answer, messageEvent]
  unfold message
  rw [if_neg (by simp [isAnswer]), if_neg (by simp [answer])]
  dsimp only
  split
  · exact kept
  · rw [book.state]
    cases state : peer.state with
    | closing => exact absurd state notClosing
    | iOpen => exact posts true
    | rOpen => exact posts false
    | waitReturns | waitICea =>
      simpa [isAnswer, answer, messageEvent] using posts true
    | closed | waitConnAck | waitConnAckElect => exact kept

variable {msg : PeerMsg Avps}

theorem mem_sentOn (member : msg ∈ peer.sentOn connection) :
    ∃ transmission ∈ peer.sendQueue, transmission.io = some connection ∧
      transmission.msg = msg := by
  rcases List.mem_filterMap.mp member with ⟨transmission, inQueue, isMsg⟩
  split at isMsg
  · rename_i onConnection
    exact ⟨transmission, inQueue, onConnection, by simpa using isMsg⟩
  · contradiction

/-- A CER came on the connection that its sender initiated. -/
theorem Quiet.sent_own (quiet : Quiet config side host far peer) (member : msg ∈ peer.sentOn side) :
    msg.code = .capabilitiesExchg ∧ msg.request = true ∧
      msg.originHost = config.identity ∧ (peer.party side).offered = true := by
  rcases mem_sentOn member with ⟨transmission, inQueue, onConnection, rfl⟩
  rcases quiet.sent transmission inQueue with ⟨code, ⟨_, request, host⟩ | ⟨elsewhere, _⟩⟩
  · refine ⟨code, request, host, ?_⟩
    simp only [party, List.any_eq_true]
    exact ⟨transmission, inQueue, request⟩
  · rw [elsewhere] at onConnection
    exact absurd (Option.some.inj onConnection) (by simp)

/-- A CEA came on the other's connection. -/
theorem Quiet.sent_other (quiet : Quiet config side host far peer)
    (member : msg ∈ peer.sentOn side.other) :
    isCea msg = true ∧ (msg.success = true → (peer.party side).agreed = true) ∧
      (msg.success = false → (peer.party side).refused = true) := by
  rcases mem_sentOn member with ⟨transmission, inQueue, onConnection, rfl⟩
  rcases quiet.sent transmission inQueue with ⟨code, ⟨elsewhere, _⟩ | ⟨_, answer⟩⟩
  · rw [elsewhere] at onConnection
    exact absurd (Option.some.inj onConnection) (by simp)
  · refine ⟨by simp [isCea, code, answer], ?_, ?_⟩
    · intro success
      simp only [party, List.any_eq_true]
      exact ⟨transmission, inQueue, by simp [answer, success]⟩
    · intro failure
      simp only [party, List.any_eq_true]
      exact ⟨transmission, inQueue, by simp [answer, failure]⟩

/-- The error of a lost connection posts its event. -/
theorem Quiet.posts_error (quiet : Quiet config side host far peer) (event : PeerEvent)
    (noMsg : event.msgCode = none) (noIo : event.bringsIo = false)
    (expected : Expected side (electHosts config.identity host = .won) host far
      (⟨event, none, none⟩ : PeerEventParam Side Avps)) :
    Advances config side host far peer (peer.notify event none none) ∧
      ∀ connection, (peer.notify event none none).holds connection = peer.holds connection := by
  have post := posts_alone quiet.running event noMsg noIo
  apply post.alone quiet
  · simpa using expected
  · simp

end Peer

/-- Nothing came on the other's connection. -/
theorem Endpoint.received_other {Avps : Type} {near : Endpoint Avps} {side connection : Side}
    {peer : Peer Side Avps} (first : (near.receive connection peer).received side.other = 0) :
    near.received side.other = 0 ∧ connection = side := by
  simp only [Endpoint.receive] at first
  split at first
  · omega
  · rename_i different
    refine ⟨by omega, ?_⟩
    exact (connection.eq_or_other side).resolve_right fun same => different same.symm

/-- What holds of one side, by what the other one did. -/
structure Tracked {Avps : Type} (config : Side → PeerConfig Avps) (side : Side)
    (far near : Endpoint Avps) : Prop where
  quiet : Peer.Quiet (config side) side (config side.other).identity
    (far.peer.party side.other) near.peer
  consistent : Party.Consistent
    (electHosts (config side).identity (config side.other).identity = .won)
    (far.peer.party side.other) (near.peer.party side)
  own : near.connected = false → near.peer.holds side = 0
  other : near.received side.other = 0 → near.peer.holds side.other = 0

namespace Tracked

variable {Avps : Type} {config : Side → PeerConfig Avps} {side : Side}
  {far near next : Endpoint Avps}

theorem initial (config : Side → PeerConfig Avps) (side : Side) :
    Tracked config side .initial .initial := by
  have nothing (connection : Side) :
      (Peer.initial : Peer Side Avps).holds connection = 0 := rfl
  constructor
  · constructor <;> simp [Endpoint.initial, Peer.initial, Peer.sentOn]
    intro connection
    simp [Peer.holds, Peer.currentIo]
  · exact Party.consistent_initial _ _
  · intro _
    exact nothing side
  · intro _
    exact nothing side.other

/-- The other side only makes more true of what it did. -/
theorem far_grows {far' : Endpoint Avps} (tracked : Tracked config side far near)
    (grows : Party.Grows (far.peer.party side.other) (far'.peer.party side.other)) :
    Tracked config side far' near where
  quiet := { tracked.quiet with
    events := fun param member => (tracked.quiet.events param member).far grows }
  consistent := tracked.consistent.far grows
  own := tracked.own
  other := tracked.other

theorem grows_of_follows {won : Bool} {farParty before after : Party}
    (follows : Peer.Follows won farParty before after) : Party.Grows before after := by
  rcases follows with same | step
  · rw [same]
    exact ⟨id, id, id, id, id⟩
  · exact step.grows

/-- A step of the near side that advances its peer. -/
theorem advance (tracked : Tracked config side far near)
    (refused : (far.peer.party side.other).refused = true →
      (far.peer.party side.other).other = .dropped)
    (advances : Peer.Advances (config side) side (config side.other).identity
      (far.peer.party side.other) near.peer next.peer)
    (own : next.connected = false → next.peer.holds side = 0)
    (other : next.received side.other = 0 → next.peer.holds side.other = 0) :
    Tracked config side far next ∧
      Party.Grows (near.peer.party side) (next.peer.party side) := by
  constructor
  · constructor
    · exact advances.1
    · rcases advances.2 with same | step
      · rw [same]
        exact tracked.consistent
      · exact tracked.consistent.step refused step
    · exact own
    · exact other
  · exact grows_of_follows advances.2

/-- What comes on a connection advances the peer. -/
theorem arrive (tracked : Tracked config side far near)
    (farTracked : Tracked config side.other near far) {connection : Side} {msg : PeerMsg Avps}
    (sent : (far.peer.sentOn connection)[near.received connection]? = some msg) :
    Peer.Advances (config side) side (config side.other).identity
        (far.peer.party side.other) near.peer (near.arrive side connection msg) ∧
      (near.arrive side connection msg).holds side = near.peer.holds side ∧
      (connection = side →
        (near.arrive side connection msg).holds side.other = near.peer.holds side.other) := by
  have quiet := tracked.quiet
  have member : msg ∈ far.peer.sentOn connection := List.mem_of_getElem? sent
  unfold Endpoint.arrive
  rcases connection.eq_or_other side with rfl | rfl
  · rw [if_pos rfl]
    rw [← connection.other_other] at member
    obtain ⟨isCea, agreed, refused⟩ := farTracked.quiet.sent_other member
    rcases Peer.posts_cea quiet.running tracked.consistent.open_ isCea with
      ⟨posted, taken, post, events⟩
    have expected : ∀ param ∈ posted,
        Peer.Expected connection
          (electHosts (config connection).identity (config connection.other).identity = .won)
          (config connection.other).identity (far.peer.party connection.other) param := by
      intro param inPosted
      obtain ⟨event, isMsg, noIo⟩ := events param inPosted
      rcases event with event | event <;>
        simpa [Peer.Expected, event, isMsg, noIo] using ⟨agreed, refused⟩
    have alone := post.alone quiet expected fun param inPosted => (events param inPosted).2.2
    exact ⟨alone.1, alone.2 _, fun _ => alone.2 _⟩
  · rw [if_neg (by simp)]
    obtain ⟨code, request, host, offered⟩ := farTracked.quiet.sent_own member
    have single := farTracked.quiet.single
    have first : near.received side.other = 0 := by
      have bound := (List.getElem?_eq_some_iff.mp sent).1
      omega
    rw [if_pos first, if_pos ⟨code, request⟩]
    have absent := tracked.other first
    have genuine : (⟨.rConnCer, some msg, some side.other⟩ :
        PeerEventParam Side Avps).Genuine := by
      constructor
      · simp [code, PeerEvent.msgCode]
      · intro other isMsg _
        cases isMsg
        exact request
      · rfl
    have book := Peer.posts_msgIdRxMessage near.peer msg
    have post := book.trans (Peer.posts_notify (book.running.trans quiet.running) genuine)
    refine ⟨post.requests quiet ?_ rfl absent offered, ?_, ?_⟩
    · exact ⟨rfl, offered, msg, rfl, host⟩
    · exact (post.holds side).trans (by simp)
    · intro same
      exact absurd same (by simp)

/-- The end of a connection advances the peer. -/
theorem lose (tracked : Tracked config side far near) {connection : Side}
    (gone : connection ∈ far.peer.deleted) :
    Peer.Advances (config side) side (config side.other).identity
        (far.peer.party side.other) near.peer (near.lose side connection) ∧
      (near.lose side connection).holds side = near.peer.holds side ∧
      (connection = side →
        (near.lose side connection).holds side.other = near.peer.holds side.other) := by
  have quiet := tracked.quiet
  unfold Endpoint.lose
  rcases connection.eq_or_other side with rfl | rfl
  · rw [if_pos rfl]
    have alone := quiet.posts_error .iPeerDisc rfl rfl
      ⟨rfl, by simp [Peer.party, Peer.place, gone]⟩
    exact ⟨alone.1, alone.2 _, fun _ => alone.2 _⟩
  · rw [if_neg (by simp)]
    split
    · rename_i first
      refine ⟨quiet.loses (tracked.other first), ?_, ?_⟩
      · simp [Peer.holds, Peer.currentIo]
      · intro same
        exact absurd same (by simp)
    · have alone := quiet.posts_error .rPeerDisc rfl rfl
        ⟨rfl, by simp [Peer.party, Peer.place, gone]⟩
      exact ⟨alone.1, alone.2 _, fun _ => alone.2 _⟩

theorem step (tracked : Tracked config side far near)
    (farTracked : Tracked config side.other near far)
    (different : electHosts (config side).identity (config side.other).identity ≠ .sameHost)
    (step : Endpoint.Step (config side) side far near next) :
    Tracked config side far next ∧
      Party.Grows (near.peer.party side) (next.peer.party side) := by
  have quiet := tracked.quiet
  have refused : (far.peer.party side.other).refused = true →
      (far.peer.party side.other).other = .dropped := farTracked.consistent.refused
  cases step with
  | start _ =>
    have post := Peer.posts_alone quiet.running .start rfl rfl
    have alone := post.alone quiet (by simp [Peer.Expected]) (by simp)
    apply tracked.advance refused alone.1
    · intro notConnected
      exact (alone.2 side).trans (tracked.own notConnected)
    · intro first
      exact (alone.2 side.other).trans (tracked.other first)
  | connect _ notConnected =>
    have genuine : (⟨.iRcvConnAck, none, some side⟩ : PeerEventParam Side Avps).Genuine := by
      constructor
      · rfl
      · simp
      · rfl
    have post := Peer.posts_notify quiet.running genuine
    apply tracked.advance refused
      (post.connects quiet rfl rfl (tracked.own notConnected))
    · rintro ⟨⟩
    · intro first
      rw [← tracked.other first]
      exact (post.holds side.other).trans (by simp)
  | serve id served isNext =>
    have advances := quiet.serve tracked.consistent different isNext
    have holds := Peer.holds_serve quiet.running quiet.current isNext
    apply tracked.advance refused advances
    · intro notConnected
      exact (holds side).trans (tracked.own notConnected)
    · intro first
      exact (holds side.other).trans (tracked.other first)
  | deliver connection msg sent =>
    obtain ⟨advances, own, other⟩ := tracked.arrive farTracked sent
    apply tracked.advance refused advances
    · intro notConnected
      exact own.trans (tracked.own notConnected)
    · intro first
      obtain ⟨before, isOwn⟩ := Endpoint.received_other first
      rw [← tracked.other before]
      exact other isOwn
  | lose connection _ gone =>
    obtain ⟨advances, own, other⟩ := tracked.lose gone
    apply tracked.advance refused advances
    · intro notConnected
      exact own.trans (tracked.own notConnected)
    · intro first
      obtain ⟨before, isOwn⟩ := Endpoint.received_other first
      rw [← tracked.other before]
      exact other isOwn
  | discard connection _ _ =>
    have unchanged : Peer.Advances (config side) side (config side.other).identity
        (far.peer.party side.other) near.peer (near.receive connection near.peer).peer :=
      ⟨quiet, .inl rfl⟩
    apply tracked.advance refused unchanged tracked.own
    intro first
    exact tracked.other (Endpoint.received_other first).1

end Tracked

theorem compareHosts_ne_sameHost (localHost peerHost : List Int8) :
    compareHosts localHost peerHost ≠ .sameHost := by
  induction localHost generalizing peerHost with
  | nil => simp [compareHosts]
  | cons localOctet localHost induction =>
    cases peerHost with
    | nil => simp [compareHosts]
    | cons peerOctet peerHost =>
      rw [compareHosts]
      split
      · exact induction peerHost
      · split <;> simp

variable {localHost peerHost : List Int8}

/-- Not both hosts are greater than the other. -/
theorem compareHosts_asymmetric (won : compareHosts localHost peerHost = .won) :
    compareHosts peerHost localHost ≠ .won := by
  induction localHost generalizing peerHost with
  | nil => simp [compareHosts] at won
  | cons localOctet localHost induction =>
    cases peerHost with
    | nil => simp [compareHosts]
    | cons peerOctet peerHost =>
      rw [compareHosts] at won ⊢
      by_cases same : localOctet = peerOctet
      · rw [if_pos same] at won
        rw [if_pos same.symm]
        exact induction won
      · rw [if_neg same] at won
        rw [if_neg (Ne.symm same)]
        by_cases greater : localOctet > peerOctet
        · have notLess : ¬ peerOctet > localOctet := by
            intro less
            exact absurd (Int8.lt_asymm less greater) (by simp)
          simp [notLess]
        · simp [greater] at won

theorem electHosts_ne_sameHost (different : localHost ≠ peerHost) :
    electHosts localHost peerHost ≠ .sameHost := by
  unfold electHosts
  rw [if_neg different]
  split
  · exact compareHosts_ne_sameHost _ _
  · split
    · exact compareHosts_ne_sameHost _ _
    · exact compareHosts_ne_sameHost _ _

theorem electHosts_asymmetric (won : electHosts localHost peerHost = .won) :
    electHosts peerHost localHost ≠ .won := by
  unfold electHosts at won ⊢
  by_cases less : localHost.length < peerHost.length
  · rw [if_pos less] at won
    rw [if_neg (by omega), if_pos less]
    exact compareHosts_asymmetric won
  · by_cases greater : localHost.length > peerHost.length
    · rw [if_neg less, if_pos greater] at won
      rw [if_pos greater]
      exact compareHosts_asymmetric won
    · rw [if_neg less, if_neg greater] at won
      rw [if_neg greater, if_neg less]
      by_cases same : localHost = peerHost
      · rw [if_pos same] at won
        contradiction
      · rw [if_neg same] at won
        rw [if_neg (Ne.symm same)]
        exact compareHosts_asymmetric won

section

variable {Avps : Type} {config : Side → PeerConfig Avps} {left right : Endpoint Avps}

/-- Both sides follow the protocol in every state that they come to. -/
theorem tracked_reachable (distinct : (config .left).identity ≠ (config .right).identity)
    (reached : Reachable config left right) :
    Tracked config .left right left ∧ Tracked config .right left right := by
  induction reached with
  | initial => exact ⟨Tracked.initial config .left, Tracked.initial config .right⟩
  | left _ _ step induction =>
    have stepped := induction.1.step induction.2 (electHosts_ne_sameHost distinct) step
    exact ⟨stepped.1, induction.2.far_grows stepped.2⟩
  | right _ _ step induction =>
    have stepped := induction.2.step induction.1 (electHosts_ne_sameHost distinct.symm) step
    exact ⟨induction.1.far_grows stepped.2, stepped.1⟩

theorem Tracked.opposite {side : Side} {far near : Endpoint Avps}
    (tracked : Tracked config side far near) (trackedFar : Tracked config side.other near far)
    (isOpen : near.peer.state = .iOpen) (notRefused : (near.peer.party side).refused = false) :
    far.peer.state = .rOpen ∧ near.peer.openIo = some side ∧ far.peer.openIo = some side := by
  have consistentFar := trackedFar.consistent
  rw [side.other_other] at consistentFar
  have isResponder : far.peer.state = .rOpen :=
    tracked.consistent.responder_open consistentFar isOpen notRefused
  have own := Peer.initiator_held tracked.consistent (.inr (.inl isOpen))
  have taken := Peer.responder_held trackedFar.consistent (.inr (.inl isResponder))
  rw [side.other_other] at taken
  exact ⟨isResponder, by simp [Peer.openIo, isOpen, own.1],
    by simp [Peer.openIo, isResponder, taken.1]⟩

end

/-- Hosts named `a` and `b`, which accept each other. -/
def hosts (side : Side) : PeerConfig Unit where
  identity := match side with
    | .left => [97]
    | .right => [98]
  avps := ()
  validatePeer := fun _ => .success

end OpenDiameter.Peer
