import OpenDiameter.Peer.ConnectProtocol
import OpenDiameter.Peer.ConnectionPlaces
import OpenDiameter.Peer.SimultaneousConnect

/-!
What the service of an event does to a peer while two sides connect: a step of the
protocol of the two parties, or none.
-/

namespace OpenDiameter.Peer

namespace Peer

variable {Avps : Type}

/-- Where a connection is that the peer would hold as one of its two. -/
def place (peer : Peer Side Avps) (held : Option Side) (connection : Side) : Place :=
  if connection ∈ peer.deleted then .dropped
  else if held = some connection then .held
  else if peer.holds connection = 0 then .absent
  else .arriving

def party (peer : Peer Side Avps) (side : Side) : Party where
  state := peer.state
  own := peer.place peer.ioInitiator side
  other := peer.place peer.ioResponder side.other
  offered := peer.sendQueue.any fun transmission => transmission.msg.request
  agreed := peer.sendQueue.any fun transmission =>
    !transmission.msg.request && transmission.msg.success
  refused := peer.sendQueue.any fun transmission =>
    !transmission.msg.request && !transmission.msg.success

/-- The events that come while two sides connect, by what the other side did. -/
def Expected (side : Side) (won : Bool) (host : List Int8) (far : Party)
    (param : PeerEventParam Side Avps) : Prop :=
  match param.event with
  | .start => param.io = none
  | .iRcvConnAck => param.io = some side
  | .rConnCer => param.io = some side.other ∧ far.offered = true ∧
      ∃ cer, param.msg = some cer ∧ cer.originHost = host
  | .winElection => param.io = none ∧ won = true
  | .iPeerDisc => param.io = none ∧ far.other = .dropped
  | .rPeerDisc => param.io = none ∧ far.own = .dropped
  | .iRcvCea | .rRcvCea => param.io = none ∧ ∃ cea, param.msg = some cea ∧
      (cea.success = true → far.agreed = true) ∧ (cea.success = false → far.refused = true)
  | _ => False

variable {won : Bool}

theorem Expected.far {side : Side} {host : List Int8} {far far' : Party}
    {param : PeerEventParam Side Avps} (expected : Expected side won host far param)
    (grows : Party.Grows far far') : Expected side won host far' param := by
  unfold Expected at *
  split <;> simp_all [grows.offered, grows.own, grows.other]
  all_goals
    rcases expected with ⟨_, cea, isCea, agreed, refused⟩
    exact ⟨cea, isCea, fun success => grows.agreed (agreed success),
      fun failure => grows.refused (refused failure)⟩

/-- A CER on the own connection or a CEA on the other one. -/
def Sent (config : PeerConfig Avps) (side : Side) (transmission : Transmission Side Avps) :
    Prop :=
  transmission.msg.code = .capabilitiesExchg ∧
    (transmission.io = some side ∧ transmission.msg.request = true ∧
        transmission.msg.originHost = config.identity ∨
      transmission.io = some side.other ∧ transmission.msg.request = false)

/-- A peer while two sides connect. -/
structure Quiet (config : PeerConfig Avps) (side : Side) (host : List Int8) (far : Party)
    (peer : Peer Side Avps) : Prop where
  running : peer.running = true
  current : peer.current = none
  events : ∀ param ∈ peer.eventQueue,
    Expected side (electHosts config.identity host = .won) host far param
  once : ∀ connection, peer.holds connection ≤ 1
  initiator : ∀ connection ∈ peer.ioInitiator, connection = side
  responder : ∀ connection ∈ peer.ioResponder, connection = side.other
  sent : ∀ transmission ∈ peer.sendQueue, Sent config side transmission
  single : (peer.sentOn side).length ≤ 1
  elects : peer.state = .waitConnAckElect → peer.host = host

variable {config : PeerConfig Avps} {side : Side} {host : List Int8} {far : Party}
  {peer next handled : Peer Side Avps} {param : PeerEventParam Side Avps}
  {rest : List (PeerEventParam Side Avps)} {id : MsgId}

/-- What a service changes: it posts events, sends messages and gives connections up. -/
structure Moves (peer : Peer Side Avps) (rest posted : List (PeerEventParam Side Avps))
    (sends : List (Transmission Side Avps)) (drops : List Side) (next : Peer Side Avps) :
    Prop where
  running : next.running = true
  current : next.current = none
  eventQueue : next.eventQueue = rest ++ posted
  holds : ∀ connection, next.holds connection = peer.holds connection
  sendQueue : next.sendQueue = peer.sendQueue ++ sends
  deleted : next.deleted = peer.deleted ++ drops

variable {posted : List (PeerEventParam Side Avps)} {sends : List (Transmission Side Avps)}
  {drops : List Side} {held held' : Option Side} {connection : Side}

theorem Moves.dropped (moves : Moves peer rest posted sends drops next)
    (given : connection ∈ drops) : next.place held connection = .dropped := by
  simp [place, moves.deleted, given]

theorem Moves.kept (moves : Moves peer rest posted sends drops next)
    (kept : connection ∉ drops) :
    next.place held connection = peer.place held connection := by
  simp [place, moves.deleted, moves.holds, kept]

theorem Moves.taken (moves : Moves peer rest posted sends drops next)
    (notDropped : connection ∉ peer.deleted) (kept : connection ∉ drops) :
    next.place (some connection) connection = .held := by
  simp [place, moves.deleted, notDropped, kept]

/-- A connection that is no longer held is given up. -/
theorem Moves.released (moves : Moves peer rest posted sends drops next)
    (given : held = some connection → connection ∈ drops) :
    Party.Drops (peer.place held connection) (next.place none connection) := by
  by_cases dropped : connection ∈ drops
  · exact .inr (moves.dropped dropped)
  · left
    have notHeld : held ≠ some connection := fun isHeld => dropped (given isHeld)
    simp [place, moves.deleted, moves.holds, dropped, notHeld]

/-- A step of the protocol or none. -/
def Follows (won : Bool) (far before after : Party) : Prop :=
  after = before ∨ Party.Step won far before after

/-- The step of the protocol, by what becomes of the state, of both connections and of
what was sent. -/
theorem Moves.follows {after : Party} (moves : Moves peer rest posted sends drops next)
    (follows : Follows won far (peer.party side) after) (state : next.state = after.state)
    (own : next.place next.ioInitiator side = after.own)
    (other : next.place next.ioResponder side.other = after.other)
    (offered : ((peer.party side).offered ||
      sends.any fun transmission => transmission.msg.request) = after.offered)
    (agreed : ((peer.party side).agreed ||
      sends.any fun transmission => !transmission.msg.request && transmission.msg.success) =
        after.agreed)
    (refused : ((peer.party side).refused ||
      sends.any fun transmission => !transmission.msg.request && !transmission.msg.success) =
        after.refused) :
    Follows won far (peer.party side) (next.party side) := by
  have same : next.party side = after := by
    rw [Party.ext_iff]
    refine ⟨state, own, other, ?_, ?_, ?_⟩
    · rw [← offered]
      simp [Peer.party, moves.sendQueue]
    · rw [← agreed]
      simp [Peer.party, moves.sendQueue]
    · rw [← refused]
      simp [Peer.party, moves.sendQueue]
  rw [same]
  exact follows

/-- What is sent on the own connection is a CER. -/
theorem Quiet.sentOn_nil (quiet : Quiet config side host far peer)
    (notOffered : (peer.party side).offered = false) : peer.sentOn side = [] := by
  simp only [Peer.sentOn, List.filterMap_eq_nil_iff]
  intro transmission member
  have request : transmission.msg.request = false := by
    simp only [Peer.party, List.any_eq_false] at notOffered
    simpa using notOffered transmission member
  rcases (quiet.sent transmission member).2 with ⟨_, isRequest, _⟩ | ⟨elsewhere, _⟩
  · rw [request] at isRequest
    contradiction
  · simp [elsewhere]

theorem Moves.quiet (moves : Moves peer rest posted sends drops next)
    (quiet : Quiet config side host far peer) (first : peer.eventQueue = param :: rest)
    (expected : ∀ param ∈ posted,
      Expected side (electHosts config.identity host = .won) host far param)
    (initiator : ∀ connection ∈ next.ioInitiator, connection = side)
    (responder : ∀ connection ∈ next.ioResponder, connection = side.other)
    (sent : ∀ transmission ∈ sends, Sent config side transmission)
    (single : sends = [] ∨ (∃ transmission, sends = [transmission] ∧
      (transmission.io ≠ some side ∨ (peer.party side).offered = false)))
    (elects : next.state = .waitConnAckElect → next.host = host) :
    Quiet config side host far next := by
  have sentOn : next.sentOn side = peer.sentOn side ++ sends.filterMap fun transmission =>
      if transmission.io = some side then some transmission.msg else none := by
    simp [Peer.sentOn, moves.sendQueue]
  constructor
  · exact moves.running
  · exact moves.current
  · intro other member
    rw [moves.eventQueue] at member
    apply (List.mem_append.mp member).elim
    · intro inRest
      exact quiet.events other (by simp [first, inRest])
    · exact expected other
  · intro connection
    rw [moves.holds]
    exact quiet.once connection
  · exact initiator
  · exact responder
  · intro transmission member
    rw [moves.sendQueue] at member
    exact (List.mem_append.mp member).elim (quiet.sent transmission) (sent transmission)
  · rw [sentOn]
    rcases single with none | ⟨transmission, one, elsewhere | notOffered⟩
    · simpa [none] using quiet.single
    · simpa [one, elsewhere] using quiet.single
    · rw [quiet.sentOn_nil notOffered, one]
      exact List.length_filterMap_le _ _
  · exact elects

theorem Quiet.first_place (quiet : Quiet config side host far peer)
    (first : peer.eventQueue = param :: rest) (carried : param.io = some connection) :
    connection ∉ peer.deleted ∧ peer.ioInitiator ≠ some connection ∧
      peer.ioResponder ≠ some connection ∧
      peer.place peer.ioInitiator connection = .arriving ∧
      peer.place peer.ioResponder connection = .arriving := by
  have once := quiet.once connection
  have here : peer.holds connection = peer.holds connection := rfl
  simp only [holds, first, List.filterMap_cons, carried, List.count_cons_self] at once here
  have notDeleted : connection ∉ peer.deleted := by
    rw [← List.count_eq_zero]
    omega
  have notInitiator : peer.ioInitiator ≠ some connection := by
    intro isInitiator
    simp [isInitiator] at once
    omega
  have notResponder : peer.ioResponder ≠ some connection := by
    intro isResponder
    simp [isResponder] at once
    omega
  have somewhere : peer.holds connection ≠ 0 := by
    simp only [holds, first, List.filterMap_cons, carried, List.count_cons_self]
    omega
  refine ⟨notDeleted, notInitiator, notResponder, ?_, ?_⟩
  · simp [place, notDeleted, notInitiator, somewhere]
  · simp [place, notDeleted, notResponder, somewhere]

theorem Quiet.moves_release (quiet : Quiet config side host far peer)
    (first : peer.eventQueue = param :: rest)
    (handles : Handles config id peer param rest handled)
    (running : handled.running = true) (queue : handled.eventQueue = rest ++ posted)
    (sendQueue : handled.sendQueue = peer.sendQueue ++ sends)
    (deleted : handled.deleted ++ handled.currentIo.toList = peer.deleted ++ drops) :
    Moves peer rest posted sends drops handled.release := by
  refine ⟨running, rfl, queue, ?_, sendQueue, deleted⟩
  intro connection
  rw [holds_release]
  cases handles with
  | unlisted _ => exact holds_serving first quiet.current _ connection
  | idle entry _ _ => exact holds_serving first quiet.current _ connection
  | acts entry action _ _ => rw [holds_act, holds_serving first quiet.current]

/-- A service keeps what holds of the peer and follows the protocol. -/
def Advances (config : PeerConfig Avps) (side : Side) (host : List Int8) (far : Party)
    (peer next : Peer Side Avps) : Prop :=
  Quiet config side host far next ∧
    Follows (electHosts config.identity host = .won) far (peer.party side) (next.party side)

/-- An event that is not for its state is deleted with its connection. -/
theorem Quiet.ignore (quiet : Quiet config side host far peer)
    (first : peer.eventQueue = param :: rest) :
    Advances config side host far peer (peer.serving param rest peer.state).release := by
  have moves : Moves peer rest [] [] param.io.toList
      (peer.serving param rest peer.state).release := by
    constructor
    · exact quiet.running
    · rfl
    · simp [release, serving]
    · intro connection
      rw [holds_release, holds_serving first quiet.current]
    · simp [release, serving]
    · rfl
  constructor
  · apply moves.quiet quiet first
    · simp
    · exact quiet.initiator
    · exact quiet.responder
    · simp
    · exact .inl rfl
    · exact quiet.elects
  · cases carried : param.io with
    | none =>
      rw [carried] at moves
      apply moves.follows (.inl rfl) rfl (moves.kept (by simp)) (moves.kept (by simp)) <;> simp
    | some connection =>
      rw [carried] at moves
      have arriving := (quiet.first_place first carried).2.2.2
      rcases connection.eq_or_other side with rfl | rfl
      · apply moves.follows (.inr (.ignoreOwn arriving.1)) rfl (moves.dropped (by simp))
          (moves.kept (by simp)) <;> simp
      · apply moves.follows (.inr (.ignoreOther arriving.2)) rfl (moves.kept (by simp))
          (moves.dropped (by simp)) <;> simp

/-- The peer closes as the protocol does. -/
theorem Moves.closes (moves : Moves peer rest [] [] drops next)
    (quiet : Quiet config side host far peer) (first : peer.eventQueue = param :: rest)
    (state : next.state = .closed)
    (initiator : ∀ connection ∈ next.ioInitiator, connection = side)
    (own : Party.Drops (peer.place peer.ioInitiator side) (next.place next.ioInitiator side))
    (responder : next.ioResponder = none)
    (other : peer.ioResponder = some side.other → side.other ∈ drops)
    (why : Party.Ends far (peer.party side) ∨
      (side.other ∈ drops ∧
        (peer.state = .rOpen → far.own = .dropped ∨ far.refused = true))) :
    Advances config side host far peer next := by
  constructor
  · apply moves.quiet quiet first <;> simp [state, responder]
    exact initiator
  · rcases why with ends | ⟨dropped, lost⟩
    · have dropsOther : Party.Drops (peer.place peer.ioResponder side.other)
          (next.place next.ioResponder side.other) := by
        rw [responder]
        exact moves.released other
      apply moves.follows (.inr (.close _ _ own dropsOther ends)) state rfl rfl <;> simp
    · apply moves.follows (.inr (.closeOther _ own lost)) state rfl (moves.dropped dropped) <;>
        simp

variable {state : PeerState}

/-- A cleanup in a service without messages gives both connections up. -/
theorem Quiet.clean (quiet : Quiet config side host far peer)
    (first : peer.eventQueue = param :: rest) {current : PeerEventParam Side Avps}
    (sameIo : current.io = param.io)
    (why : Party.Ends far (peer.party side) ∨
      (peer.ioResponder = some side.other ∧
        (peer.state = .rOpen → far.own = .dropped ∨ far.refused = true))) :
    Advances config side host far peer
      ((peer.serving current rest state).cleanup false).release := by
  have moves : Moves peer rest [] []
      (peer.ioResponder.toList ++ peer.ioInitiator.toList ++ param.io.toList)
      ((peer.serving current rest state).cleanup false).release := by
    constructor
    · rw [cleanup_eq rfl]
      rfl
    · rfl
    · rw [cleanup_eq rfl]
      simp [release, serving]
    · intro connection
      rw [holds_release, holds_cleanup, ← holds_serving first quiet.current state]
      simp [holds, serving, currentIo, sameIo]
    · rw [cleanup_eq rfl]
      simp [release, serving]
    · rw [cleanup_eq rfl]
      simp [release, serving, currentIo, sameIo]
  apply moves.closes quiet first
  · rw [cleanup_eq rfl]
    rfl
  · rw [cleanup_eq rfl]
    simp [release]
  · rw [cleanup_eq rfl]
    apply moves.released
    intro isHeld
    simp [isHeld]
  · rw [cleanup_eq rfl]
    rfl
  · intro isHeld
    simp [isHeld]
  · apply why.imp_right
    intro held
    exact ⟨by simp [held.1], held.2⟩

theorem sent_cer (config : PeerConfig Avps) (side : Side) (id : MsgId) :
    ∀ transmission ∈ [(⟨some side, config.assembleCe true id 0, none⟩ :
      Transmission Side Avps)], Sent config side transmission := by
  intro transmission member
  cases List.mem_singleton.mp member
  exact ⟨rfl, .inl ⟨rfl, rfl, rfl⟩⟩

theorem sent_cea (config : PeerConfig Avps) (side : Side) (id : MsgId) (rcode : Nat)
    (answers : Option MsgId) :
    ∀ transmission ∈ [(⟨some side.other, config.assembleCe false id rcode, answers⟩ :
      Transmission Side Avps)], Sent config side transmission := by
  intro transmission member
  cases List.mem_singleton.mp member
  exact ⟨rfl, .inr ⟨rfl, rfl⟩⟩

/-- Only an election that was won posts an event. -/
theorem expected_election (config : PeerConfig Avps) (side : Side) (host : List Int8)
    (far : Party) :
    ∀ param ∈ (if electHosts config.identity host = .won then
        [(⟨.winElection, none, none⟩ : PeerEventParam Side Avps)] else []),
      Expected side (electHosts config.identity host = .won) host far param := by
  intro param member
  split at member
  · rename_i won
    cases List.mem_singleton.mp member
    simp [Expected, won]
  · contradiction

theorem Quiet.initiator_drops (quiet : Quiet config side host far peer) :
    side.other ∉ peer.ioInitiator.toList := by
  intro member
  have same := quiet.initiator side.other (by simpa using member)
  exact absurd same (by simp)

theorem Quiet.responder_drops (quiet : Quiet config side host far peer) :
    side ∉ peer.ioResponder.toList := by
  intro member
  have same := quiet.responder side (by simpa using member)
  exact absurd same (by simp)

theorem release_reject (config : PeerConfig Avps) (peer : Peer Side Avps)
    (param : PeerEventParam Side Avps) (rest : List (PeerEventParam Side Avps))
    (state : PeerState) (id : MsgId) :
    ((peer.serving param rest state).act config id .rReject).release =
      (peer.serving param rest state).release := by
  simp [act, release, serving, currentIo]

@[simp] theorem request_assembleCe (config : PeerConfig Avps) (request : Bool) (id : MsgId)
    (rcode : Nat) : (config.assembleCe request id rcode).request = request := rfl

@[simp] theorem success_assembleCe (config : PeerConfig Avps) (id : MsgId)
    (validation : Validation) :
    (config.assembleCe false id validation.rcode).success = decide (validation = .success) := by
  cases validation <;> simp [PeerMsg.success, PeerConfig.assembleCe, Validation.rcode]

variable {cer : PeerMsg Avps}

/-- A closed peer answers the CER: it opens or gives up. -/
theorem Quiet.serve_cer_closed (quiet : Quiet config side host far peer)
    (state : peer.state = .closed)
    (first : peer.eventQueue = param :: rest) (event : param.event = .rConnCer)
    (handles : Handles config id peer param rest handled)
    (carried : param.io = some side.other) (isCer : param.msg = some cer) :
    Advances config side host far peer handled.release := by
  obtain ⟨notDropped, _, notResponder, _, arriving⟩ := quiet.first_place first carried
  have acted := handles.acts_eq (by rw [state, event]; rfl) rfl
  rw [act, takeResponder_withMsg isCer] at acted
  simp only [sendCea_eq, carried] at acted
  split at acted
  · rename_i valid
    have moves : Moves peer rest []
        [⟨some side.other, config.assembleCe false
          ⟨peer.lastRxHopId.headD 0, peer.lastRxEndId.headD 0⟩
          (config.validatePeer cer).rcode, some cer.id⟩]
        peer.ioResponder.toList handled.release := by
      apply quiet.moves_release first handles <;> rw [acted]
      · exact quiet.running
      · simp [serving, disassembleCe]
      · rfl
      · simp [serving, disassembleCe, currentIo]
    rw [acted] at moves ⊢
    constructor
    · apply moves.quiet quiet first
      · simp
      · exact quiet.initiator
      · intro connection member
        cases member
        rfl
      · exact sent_cea config side _ _ _
      · exact .inr ⟨_, rfl, .inl (by simp)⟩
      · rintro ⟨⟩
    · apply moves.follows (.inr (.accept state arriving)) rfl
        (moves.kept quiet.responder_drops)
        (moves.taken notDropped (by simpa using notResponder)) <;>
        simp [valid]
  · rename_i invalid
    rw [cleanup_eq rfl] at acted
    have moves : Moves peer rest []
        [⟨some side.other, config.assembleCe false
          ⟨peer.lastRxHopId.headD 0, peer.lastRxEndId.headD 0⟩
          (config.validatePeer cer).rcode, some cer.id⟩]
        (peer.ioResponder.toList ++ side.other :: peer.ioInitiator.toList)
        handled.release := by
      apply quiet.moves_release first handles <;> rw [acted]
      · simp [serving, disassembleCe]
      · rfl
      · simp [serving, disassembleCe, currentIo]
    rw [acted] at moves ⊢
    constructor
    · apply moves.quiet quiet first
      · simp
      · rintro _ ⟨⟩
      · rintro _ ⟨⟩
      · exact sent_cea config side _ _ _
      · exact .inr ⟨_, rfl, .inl (by simp)⟩
      · rintro ⟨⟩
    · have own : Party.Drops (peer.place peer.ioInitiator side) (Peer.place _ none side) :=
        moves.released (by
          intro isHeld
          simp [isHeld])
      apply moves.follows (.inr (.refuse _ state arriving own)) rfl rfl
        (moves.dropped (by simp)) <;> simp [invalid]

theorem Quiet.serve_cer_waitConnAck (quiet : Quiet config side host far peer)
    (state : peer.state = .waitConnAck)
    (first : peer.eventQueue = param :: rest) (event : param.event = .rConnCer)
    (handles : Handles config id peer param rest handled)
    (carried : param.io = some side.other) (isCer : param.msg = some cer)
    (isHost : cer.originHost = host) :
    Advances config side host far peer handled.release := by
  obtain ⟨notDropped, _, notResponder, _, arriving⟩ := quiet.first_place first carried
  have acted := handles.acts_eq (by rw [state, event]; rfl) rfl
  rw [act, takeResponder_withMsg isCer] at acted
  simp only [carried] at acted
  split at acted
  · have moves : Moves peer rest [] [] peer.ioResponder.toList handled.release := by
      apply quiet.moves_release first handles <;> rw [acted]
      · exact quiet.running
      · simp [serving, disassembleCe]
      · simp [serving, disassembleCe]
      · simp [serving, disassembleCe, currentIo]
    rw [acted] at moves ⊢
    constructor
    · apply moves.quiet quiet first
      · simp
      · exact quiet.initiator
      · intro connection member
        cases member
        rfl
      · simp
      · exact .inl rfl
      · intro _
        exact isHost
    · apply moves.follows (.inr (.await state arriving)) rfl
        (moves.kept quiet.responder_drops)
        (moves.taken notDropped (by simpa using notResponder)) <;> simp
  · rw [cleanup_eq rfl] at acted
    have moves : Moves peer rest [] []
        (peer.ioResponder.toList ++ side.other :: peer.ioInitiator.toList)
        handled.release := by
      apply quiet.moves_release first handles <;> rw [acted]
      · simp [serving, disassembleCe]
      · simp [serving, disassembleCe]
      · simp [serving, disassembleCe, currentIo]
    rw [acted] at moves ⊢
    apply moves.closes quiet first rfl (by rintro _ ⟨⟩) _ rfl
    · intro _
      simp
    · right
      simp [state]
    · apply moves.released
      intro isHeld
      simp [isHeld]

/-- A peer that has its own CER out holds the election. -/
theorem Quiet.serve_cer_waitICea (quiet : Quiet config side host far peer)
    (state : peer.state = .waitICea)
    (different : electHosts config.identity host ≠ .sameHost)
    (first : peer.eventQueue = param :: rest) (event : param.event = .rConnCer)
    (handles : Handles config id peer param rest handled)
    (carried : param.io = some side.other) (isCer : param.msg = some cer)
    (isHost : cer.originHost = host) :
    Advances config side host far peer handled.release := by
  obtain ⟨notDropped, _, notResponder, _, arriving⟩ := quiet.first_place first carried
  have acted := handles.acts_eq (by rw [state, event]; rfl) rfl
  rw [act, takeResponder_withMsg isCer] at acted
  simp only [carried] at acted
  split at acted
  · rw [elect_eq] at acted
    · have moves : Moves peer rest
          (if electHosts config.identity host = .won then [⟨.winElection, none, none⟩]
            else [])
          [] peer.ioResponder.toList handled.release := by
        apply quiet.moves_release first handles <;> rw [acted]
        · exact quiet.running
        · simp [serving, disassembleCe, isHost]
        · simp [serving, disassembleCe]
        · simp [serving, disassembleCe, currentIo]
      rw [acted] at moves ⊢
      constructor
      · apply moves.quiet quiet first
        · exact expected_election config side host far
        · exact quiet.initiator
        · intro connection member
          cases member
          rfl
        · simp
        · exact .inl rfl
        · rintro ⟨⟩
      · apply moves.follows (.inr (.awaitElect state arriving)) rfl
          (moves.kept quiet.responder_drops)
          (moves.taken notDropped (by simpa using notResponder)) <;> simp
    · exact quiet.running
    · rw [← isHost] at different
      exact different
  · rw [cleanup_eq rfl] at acted
    have moves : Moves peer rest [] [] (peer.ioResponder.toList ++ [side.other])
        handled.release := by
      apply quiet.moves_release first handles <;> rw [acted]
      · simp [serving, disassembleCe]
      · simp [serving, disassembleCe]
      · simp [serving, disassembleCe, currentIo]
    rw [acted] at moves ⊢
    apply moves.closes quiet first rfl quiet.initiator _ rfl
    · intro _
      simp
    · right
      simp [state]
    · left
      apply moves.kept
      simpa using quiet.responder_drops

theorem held_of_place (isHeld : peer.place held connection = .held) :
    held = some connection ∧ connection ∉ peer.deleted := by
  unfold place at isHeld
  split at isHeld
  · contradiction
  · rename_i notDropped
    split at isHeld
    · rename_i same
      exact ⟨same, notDropped⟩
    · split at isHeld <;> contradiction

/-- The responder's connection in a state that needs one. -/
theorem responder_held (consistent : Party.Consistent won far (peer.party side))
    (needs : peer.state = .waitConnAckElect ∨ peer.state = .rOpen ∨ peer.state = .waitReturns) :
    peer.ioResponder = some side.other ∧ side.other ∉ peer.deleted :=
  held_of_place (consistent.otherHeld needs)

theorem initiator_held (consistent : Party.Consistent won far (peer.party side))
    (needs : peer.state = .waitICea ∨ peer.state = .iOpen ∨ peer.state = .waitReturns) :
    peer.ioInitiator = some side ∧ side ∉ peer.deleted :=
  held_of_place (consistent.ownHeld needs)

/-- The election ends with the other's connection. -/
theorem Quiet.wins (quiet : Quiet config side host far peer)
    (consistent : Party.Consistent (electHosts config.identity host = .won) far
      (peer.party side))
    (first : peer.eventQueue = param :: rest) (state : peer.state = .waitReturns)
    (alone : param.io = none)
    (why : decide (electHosts config.identity host = .won) = true ∨ far.other = .dropped)
    (handles : Handles config id peer param rest handled)
    (acted : handled = (peer.serving param rest .rOpen).act config id .iDisconnectSendCea) :
    Advances config side host far peer handled.release := by
  have held := responder_held consistent (.inr (.inr state))
  have own := initiator_held consistent (.inr (.inr state))
  rw [act, sendCea_eq] at acted
  have moves : Moves peer rest []
      [⟨some side.other, config.assembleCe false
        ⟨peer.lastRxHopId.headD 0, peer.lastRxEndId.headD 0⟩ Validation.success.rcode,
        peer.accepted⟩]
      [side] handled.release := by
    apply quiet.moves_release first handles <;> rw [acted]
    · exact quiet.running
    · simp [serving, dropInitiator]
    · simp [serving, dropInitiator, openIo, held.1, Validation.rcode]
    · simp [serving, dropInitiator, currentIo, own.1, alone]
  rw [acted] at moves ⊢
  constructor
  · apply moves.quiet quiet first
    · simp
    · rintro _ ⟨⟩
    · exact quiet.responder
    · exact sent_cea config side _ _ _
    · exact .inr ⟨_, rfl, .inl (by simp)⟩
    · rintro ⟨⟩
  · apply moves.follows (.inr (.win state why)) rfl (moves.dropped (by simp))
    · have kept : side.other ∉ [side] := by simp
      exact moves.kept kept
    · simp
    · simp
    · simp

/-- The other's connection is gone, and the peer waits on. -/
theorem Quiet.withdraws (quiet : Quiet config side host far peer)
    (first : peer.eventQueue = param :: rest) (alone : param.io = none)
    (held : peer.ioResponder = some side.other) (notElect : state ≠ .waitConnAckElect)
    (step : Party.Step (electHosts config.identity host = .won) far (peer.party side)
      { peer.party side with state, other := .dropped })
    (handles : Handles config id peer param rest handled)
    (acted : handled = (peer.serving param rest state).act config id .rDisconnectResp) :
    Advances config side host far peer handled.release := by
  have moves : Moves peer rest [] [] [side.other] handled.release := by
    apply quiet.moves_release first handles <;> rw [acted]
    · exact quiet.running
    · simp [act, serving, dropResponder]
    · simp [act, serving, dropResponder]
    · simp [act, serving, dropResponder, currentIo, held, alone]
  rw [acted] at moves ⊢
  constructor
  · apply moves.quiet quiet first
    · simp
    · exact quiet.initiator
    · rintro _ ⟨⟩
    · simp
    · exact .inl rfl
    · intro elects
      exact absurd elects notElect
  · apply moves.follows (.inr step) rfl (moves.kept (by simp)) (moves.dropped (by simp)) <;>
      simp

/-- A CEA opens the peer or leaves it open. -/
theorem Quiet.opens (quiet : Quiet config side host far peer)
    (first : peer.eventQueue = param :: rest) (alone : param.io = none) {cea : PeerMsg Avps}
    (isCea : param.msg = some cea) (success : cea.success = true)
    (notElect : state ≠ .waitConnAckElect)
    (follows : Follows (electHosts config.identity host = .won) far (peer.party side)
      { peer.party side with state }) (handles : Handles config id peer param rest handled)
    (acted : handled = (peer.serving param rest state).act config id .processCea) :
    Advances config side host far peer handled.release := by
  rw [act, withMsg_serving isCea, if_pos success] at acted
  have moves : Moves peer rest [] [] [] handled.release := by
    apply quiet.moves_release first handles <;> rw [acted]
    · exact quiet.running
    · simp [serving, disassembleCe]
    · simp [serving, disassembleCe]
    · simp [serving, disassembleCe, currentIo, alone]
  rw [acted] at moves ⊢
  constructor
  · apply moves.quiet quiet first
    · simp
    · exact quiet.initiator
    · exact quiet.responder
    · simp
    · exact .inl rfl
    · intro elects
      exact absurd elects notElect
  · apply moves.follows follows rfl (moves.kept (by simp)) (moves.kept (by simp)) <;> simp

section

variable (quiet : Quiet config side host far peer)
  (consistent : Party.Consistent (electHosts config.identity host = .won) far (peer.party side))
  (first : peer.eventQueue = param :: rest)
  (handles : Handles config id peer param rest handled)
include quiet consistent first handles

theorem Quiet.serve_start (event : param.event = .start) :
    Advances config side host far peer handled.release := by
  have expected := quiet.events param (by simp [first])
  simp only [Expected, event] at expected
  cases state : peer.state with
  | closing => exact absurd state consistent.open_
  | closed =>
    have acted := handles.acts_eq (by rw [state, event]; rfl) rfl
    have moves : Moves peer rest [] [] [] handled.release := by
      apply quiet.moves_release first handles <;>
        simp [acted, act, serving, currentIo, expected, quiet.running]
    rw [acted] at moves ⊢
    constructor
    · apply moves.quiet quiet first
      · simp
      · exact quiet.initiator
      · exact quiet.responder
      · simp
      · exact .inl rfl
      · rintro ⟨⟩
    · apply moves.follows (.inr (.start state)) rfl (moves.kept (by simp))
        (moves.kept (by simp)) <;> simp
  | _ =>
    rw [handles.unlisted_eq (by rw [state, event]; rfl)]
    exact quiet.ignore first

theorem Quiet.serve_ack (different : electHosts config.identity host ≠ .sameHost)
    (event : param.event = .iRcvConnAck) :
    Advances config side host far peer handled.release := by
  have expected := quiet.events param (by simp [first])
  simp only [Expected, event] at expected
  obtain ⟨notDropped, notInitiator, _, arriving, _⟩ := quiet.first_place first expected
  have notOffered : (peer.party side).offered = false := by
    cases offered : (peer.party side).offered with
    | false => rfl
    | true =>
      have own : (peer.party side).own = .arriving := arriving
      have held := consistent.offered offered
      simp [own] at held
  cases state : peer.state with
  | closing => exact absurd state consistent.open_
  | closed =>
    rw [handles.acts_eq (by rw [state, event]; rfl) rfl]
    exact quiet.clean first rfl (.inl (.inl state))
  | waitConnAck =>
    have acted := handles.acts_eq (by rw [state, event]; rfl) rfl
    rw [act, takeInitiator_serving, sendCer_eq, expected] at acted
    have moves : Moves peer rest [] [⟨some side, config.assembleCe true id 0, none⟩]
        peer.ioInitiator.toList handled.release := by
      apply quiet.moves_release first handles <;> rw [acted]
      · exact quiet.running
      · simp [serving]
      · rfl
      · simp [serving, currentIo]
    rw [acted] at moves ⊢
    constructor
    · apply moves.quiet quiet first
      · simp
      · intro connection member
        cases member
        rfl
      · exact quiet.responder
      · exact sent_cer config side id
      · exact .inr ⟨_, rfl, .inr notOffered⟩
      · rintro ⟨⟩
    · apply moves.follows (.inr (.offer state arriving)) rfl
        (moves.taken notDropped (by simpa using notInitiator))
        (moves.kept quiet.initiator_drops) <;> simp [PeerConfig.assembleCe]
  | waitConnAckElect =>
    have acted := handles.acts_eq (by rw [state, event]; rfl) rfl
    rw [act, takeInitiator_serving, sendCer_eq, expected, elect_eq] at acted
    · have elects := quiet.elects state
      have moves : Moves peer rest
          (if electHosts config.identity host = .won then [⟨.winElection, none, none⟩] else [])
          [⟨some side, config.assembleCe true id 0, none⟩]
          peer.ioInitiator.toList handled.release := by
        apply quiet.moves_release first handles <;> rw [acted]
        · exact quiet.running
        · simp [serving, elects]
        · rfl
        · simp [serving, currentIo]
      rw [acted] at moves ⊢
      constructor
      · apply moves.quiet quiet first
        · exact expected_election config side host far
        · intro connection member
          cases member
          rfl
        · exact quiet.responder
        · exact sent_cer config side id
        · exact .inr ⟨_, rfl, .inr notOffered⟩
        · rintro ⟨⟩
      · apply moves.follows (.inr (.offerElect state arriving)) rfl
          (moves.taken notDropped (by simpa using notInitiator))
          (moves.kept quiet.initiator_drops) <;> simp [PeerConfig.assembleCe]
    · exact quiet.running
    · rw [← quiet.elects state] at different
      exact different
  | _ =>
    rw [handles.unlisted_eq (by rw [state, event]; rfl)]
    exact quiet.ignore first

theorem Quiet.serve_cer (different : electHosts config.identity host ≠ .sameHost)
    (event : param.event = .rConnCer) :
    Advances config side host far peer handled.release := by
  have expected := quiet.events param (by simp [first])
  simp only [Expected, event] at expected
  obtain ⟨carried, _, cer, isCer, isHost⟩ := expected
  cases state : peer.state with
  | closing => exact absurd state consistent.open_
  | closed => exact quiet.serve_cer_closed state first event handles carried isCer
  | waitConnAck =>
    exact quiet.serve_cer_waitConnAck state first event handles carried isCer isHost
  | waitICea =>
    exact quiet.serve_cer_waitICea state different first event handles carried isCer isHost
  | _ =>
    rw [handles.acts_eq (by rw [state, event]; rfl) rfl, release_reject]
    have ignored := quiet.ignore first
    rw [state] at ignored
    exact ignored

theorem Quiet.serve_win (event : param.event = .winElection) :
    Advances config side host far peer handled.release := by
  have expected := quiet.events param (by simp [first])
  simp only [Expected, event] at expected
  cases state : peer.state with
  | closing => exact absurd state consistent.open_
  | closed =>
    rw [handles.acts_eq (by rw [state, event]; rfl) rfl]
    exact quiet.clean first rfl (.inl (.inl state))
  | waitReturns =>
    have acted := handles.acts_eq (by rw [state, event]; rfl) rfl
    exact quiet.wins consistent first state expected.1 (.inl expected.2) handles acted
  | _ =>
    rw [handles.unlisted_eq (by rw [state, event]; rfl)]
    exact quiet.ignore first

theorem Quiet.serve_iDisc (event : param.event = .iPeerDisc) :
    Advances config side host far peer handled.release := by
  have expected := quiet.events param (by simp [first])
  simp only [Expected, event] at expected
  cases state : peer.state with
  | closing => exact absurd state consistent.open_
  | closed =>
    rw [handles.acts_eq (by rw [state, event]; rfl) rfl]
    exact quiet.clean first rfl (.inl (.inl state))
  | waitICea =>
    rw [handles.acts_eq (by rw [state, event]; rfl) rfl]
    exact quiet.clean first rfl (.inl (.inr ⟨.inl state, .inl expected.2⟩))
  | iOpen =>
    rw [handles.acts_eq (by rw [state, event]; rfl) rfl]
    exact quiet.clean first rfl (.inl (.inr ⟨.inr state, .inl expected.2⟩))
  | waitReturns =>
    have acted := handles.acts_eq (by rw [state, event]; rfl) rfl
    exact quiet.wins consistent first state expected.1 (.inr expected.2) handles acted
  | _ =>
    rw [handles.unlisted_eq (by rw [state, event]; rfl)]
    exact quiet.ignore first

theorem Quiet.serve_rDisc (event : param.event = .rPeerDisc) :
    Advances config side host far peer handled.release := by
  have expected := quiet.events param (by simp [first])
  simp only [Expected, event] at expected
  cases state : peer.state with
  | closing => exact absurd state consistent.open_
  | closed =>
    rw [handles.acts_eq (by rw [state, event]; rfl) rfl]
    exact quiet.clean first rfl (.inl (.inl state))
  | rOpen =>
    rw [handles.acts_eq (by rw [state, event]; rfl) rfl]
    apply quiet.clean first rfl
    exact .inr ⟨(responder_held consistent (.inr (.inl state))).1, fun _ => .inl expected.2⟩
  | waitConnAckElect =>
    have acted := handles.acts_eq (by rw [state, event]; rfl) rfl
    exact quiet.withdraws first expected.1 (responder_held consistent (.inl state)).1
      (by decide) (.withdraw state) handles acted
  | waitReturns =>
    have acted := handles.acts_eq (by rw [state, event]; rfl) rfl
    exact quiet.withdraws first expected.1 (responder_held consistent (.inr (.inr state))).1
      (by decide) (.withdrawElect state) handles acted
  | _ =>
    rw [handles.unlisted_eq (by rw [state, event]; rfl)]
    exact quiet.ignore first

theorem Quiet.serve_iCea (event : param.event = .iRcvCea) :
    Advances config side host far peer handled.release := by
  have expected := quiet.events param (by simp [first])
  simp only [Expected, event] at expected
  obtain ⟨alone, cea, isCea, agreed, refused⟩ := expected
  cases state : peer.state with
  | closing => exact absurd state consistent.open_
  | closed =>
    rw [handles.acts_eq (by rw [state, event]; rfl) rfl]
    exact quiet.clean first rfl (.inl (.inl state))
  | waitICea =>
    have acted := handles.acts_eq (by rw [state, event]; rfl) rfl
    cases success : cea.success with
    | true =>
      exact quiet.opens first alone isCea success (by decide)
        (.inr (.opened state (agreed success))) handles acted
    | false =>
      rw [act, withMsg_serving isCea, if_neg (by simp [success])] at acted
      rw [acted]
      apply quiet.clean first
      · rfl
      · exact .inl (.inr ⟨.inl state, .inr (refused success)⟩)
  | iOpen =>
    have acted := handles.acts_eq (by rw [state, event]; rfl) rfl
    cases success : cea.success with
    | true =>
      exact quiet.opens first alone isCea success (by decide)
        (.inl (by simp [Peer.party, state, entry])) handles acted
    | false =>
      rw [act, withMsg_serving isCea, if_neg (by simp [success])] at acted
      rw [acted]
      apply quiet.clean first
      · rfl
      · exact .inl (.inr ⟨.inr state, .inr (refused success)⟩)
  | waitReturns =>
    have held := responder_held consistent (.inr (.inr state))
    have acted := handles.acts_eq (by rw [state, event]; rfl) rfl
    rw [act, withMsg_serving isCea] at acted
    cases success : cea.success with
    | true =>
      rw [if_pos success] at acted
      have moves : Moves peer rest [] [] [side.other] handled.release := by
        apply quiet.moves_release first handles <;> rw [acted]
        · exact quiet.running
        · simp [serving, disassembleCe, dropResponder]
        · simp [serving, disassembleCe, dropResponder]
        · simp [serving, disassembleCe, dropResponder, currentIo, held.1, alone]
      rw [acted] at moves ⊢
      constructor
      · apply moves.quiet quiet first
        · simp
        · exact quiet.initiator
        · rintro _ ⟨⟩
        · simp
        · exact .inl rfl
        · rintro ⟨⟩
      · apply moves.follows (.inr (.openedElect state (agreed success))) rfl
          (moves.kept (by simp)) (moves.dropped (by simp)) <;> simp
    | false =>
      rw [if_neg (by simp [success])] at acted
      rw [acted]
      apply quiet.clean first
      · rfl
      · exact .inr ⟨held.1, by simp [state]⟩
  | _ =>
    rw [handles.unlisted_eq (by rw [state, event]; rfl)]
    exact quiet.ignore first

theorem Quiet.serve_rCea (event : param.event = .rRcvCea) :
    Advances config side host far peer handled.release := by
  have expected := quiet.events param (by simp [first])
  simp only [Expected, event] at expected
  obtain ⟨alone, cea, isCea, agreed, refused⟩ := expected
  cases state : peer.state with
  | closing => exact absurd state consistent.open_
  | closed =>
    rw [handles.acts_eq (by rw [state, event]; rfl) rfl]
    exact quiet.clean first rfl (.inl (.inl state))
  | rOpen =>
    have acted := handles.acts_eq (by rw [state, event]; rfl) rfl
    cases success : cea.success with
    | true =>
      exact quiet.opens first alone isCea success (by decide)
        (.inl (by simp [Peer.party, state, entry])) handles acted
    | false =>
      rw [act, withMsg_serving isCea, if_neg (by simp [success])] at acted
      rw [acted]
      apply quiet.clean first
      · rfl
      · exact .inr ⟨(responder_held consistent (.inr (.inl state))).1,
          fun _ => .inr (refused success)⟩
  | _ =>
    rw [handles.unlisted_eq (by rw [state, event]; rfl)]
    exact quiet.ignore first

end

/-- The service of an event follows the protocol. -/
theorem Quiet.serve (quiet : Quiet config side host far peer)
    (consistent : Party.Consistent (electHosts config.identity host = .won) far
      (peer.party side))
    (different : electHosts config.identity host ≠ .sameHost)
    (served : peer.serve config id = some next) :
    Advances config side host far peer next := by
  rcases serve_cases quiet.running served with ⟨param, rest, handled, first, handles, rfl⟩
  have expected := quiet.events param (by simp [first])
  cases event : param.event with
  | start => exact quiet.serve_start consistent first handles event
  | iRcvConnAck => exact quiet.serve_ack consistent first handles different event
  | rConnCer => exact quiet.serve_cer consistent first handles different event
  | winElection => exact quiet.serve_win consistent first handles event
  | iPeerDisc => exact quiet.serve_iDisc consistent first handles event
  | rPeerDisc => exact quiet.serve_rDisc consistent first handles event
  | iRcvCea => exact quiet.serve_iCea consistent first handles event
  | rRcvCea => exact quiet.serve_rCea consistent first handles event
  | _ => simp [Expected, event] at expected

end Peer

end OpenDiameter.Peer
