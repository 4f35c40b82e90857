import OpenDiameter.Pana.Message

/-!
`PANA_PaaSessionFactory`: the handshake in which the PAA keeps nothing until the answer to its
first request is there. The session id and the sequence number of the request are drawn from the
address of the PaC and the minute of the clock, and drawn again when the answer is received.
-/

namespace OpenDiameter.Pana

/-- A session with the index that it has in the session database. -/
structure PaaSessionEntry where
  index : UInt32
  sessionId : UInt32
  pacAddress : InetAddr
  lastTxSeqNum : UInt32
  isOpen : Bool
  deriving DecidableEq, Repr

namespace PaaFactory

/-- In microseconds, the unit of the clock. -/
def minute : Nat := 60000000

/-- `MAX_MINUTES_TO_HONOR_SID` -/
def maxMinutesToHonorSid : Nat := 3

def mtypePci : UInt16 := 1
def mtypePan : UInt16 := 2

section

-- What `rand` returns after `srand`.
variable (rand : UInt32 → UInt32)

/-- `PANA_ReplicatableNumbers::Get`, by the time of its construction and the calls so far. -/
def get (base : Nat) (getCount seed : UInt32) : UInt32 :=
  rand (seed + UInt32.ofNat (base / minute % 60) + (getCount + 1))

/-- The session id and the sequence number, in the order in which they are drawn. -/
def numbers (addr : InetAddr) (now : Nat) : UInt32 × UInt32 :=
  (get rand now 0 addr.ipAddress, get rand now 1 addr.ipAddress)

/-- `StatelessTxPARStart` -/
def statelessPar (addr : InetAddr) (now : Nat) : PanaMessage where
  flags := { request := true, start := true }
  type := mtypePan
  sessionId := (numbers rand addr now).1
  seq := (numbers rand addr now).2
  destAddress := addr
  avpList := [.integrityAlgorithm authHmacSha1160, .prfAlgorithm prfHmacSha1]

end

/-- What becomes of a message or of a PaC that was found. -/
inductive Reply where
  /-- An open session has it. -/
  | delivered (index : UInt32)
  | created (sessionId : UInt32)
  | sent (par : PanaMessage)
  /-- An exception is thrown, which the caller logs, or the message is of no known type. -/
  | discarded
  deriving DecidableEq, Repr

/-- `PANA_SESSIONDB_SEARCH` -/
def has (sessions : List PaaSessionEntry) (index : UInt32) : Bool :=
  sessions.any fun session => session.index == index

section

variable (rand : UInt32 → UInt32) (optimizedHandshake : Bool)

/-- `PacFound`. A new session has the sum of seconds and microseconds for an id; where the
database has that already, the exception leaves the session without an entry. -/
def pacFound (addr : InetAddr) (now : Nat) (sessions : List PaaSessionEntry) :
    Reply × List PaaSessionEntry :=
  if optimizedHandshake then
    let sessionId := UInt32.ofNat (now / 1000000 + now % 1000000)
    if has sessions sessionId then (.discarded, sessions)
    else (.created sessionId, ⟨sessionId, sessionId, addr, 0, true⟩ :: sessions)
  else (.sent (statelessPar rand addr now), sessions)

def rxPci (msg : PanaMessage) (now : Nat) (sessions : List PaaSessionEntry) :
    Reply × List PaaSessionEntry :=
  if msg.seq ≠ 0 then (.discarded, sessions)
  else if msg.sessionId ≠ 0 then (.discarded, sessions)
  else pacFound rand optimizedHandshake msg.srcAddress now sessions

def statelessRxPanStart (msg : PanaMessage) (now : Nat) (sessions : List PaaSessionEntry) :
    Reply × List PaaSessionEntry :=
  if msg.sessionId = 0 then (.discarded, sessions)
  else if msg.flags.start = false then (.discarded, sessions)
  else if msg.sessionId ≠ get rand now 0 msg.srcAddress.ipAddress then (.discarded, sessions)
  else if msg.seq ≠ get rand now 1 msg.srcAddress.ipAddress then (.discarded, sessions)
  else
    (.created msg.sessionId,
      ⟨msg.sessionId, msg.sessionId, msg.srcAddress, msg.seq, true⟩ :: sessions)

/-- `Receive` -/
def receive (msg : PanaMessage) (now : Nat) (sessions : List PaaSessionEntry) :
    Reply × List PaaSessionEntry :=
  if has sessions msg.sessionId then (.delivered msg.sessionId, sessions)
  else if msg.type = mtypePci then rxPci rand optimizedHandshake msg now sessions
  else if msg.type = mtypePan then statelessRxPanStart rand msg now sessions
  else (.discarded, sessions)

inductive Input where
  | receive (msg : PanaMessage) (now : Nat)
  | pacFound (addr : InetAddr) (now : Nat)
  /-- A session disconnects and resets its id. It stays in the database. -/
  | disconnect (index : UInt32)

def step (sessions : List PaaSessionEntry) : Input → List PaaSessionEntry
  | .receive msg now => (receive rand optimizedHandshake msg now sessions).2
  | .pacFound addr now => (pacFound rand optimizedHandshake addr now sessions).2
  | .disconnect index =>
    sessions.map fun session =>
      if session.index = index then { session with sessionId := 0, isOpen := false }
      else session

/-- The sessions after the inputs, of which there are none at first. -/
def run (inputs : List Input) : List PaaSessionEntry :=
  inputs.foldl (step rand optimizedHandshake) []

end

/-! Session ids -/

/-- No two open sessions have one session id. -/
def DistinctIds (sessions : List PaaSessionEntry) : Prop :=
  sessions.Pairwise fun session other =>
    session.isOpen → other.isOpen → session.sessionId ≠ other.sessionId

/-- The database has one session for an index, and an open session is found under its id. -/
structure Indexed (sessions : List PaaSessionEntry) : Prop where
  once : sessions.Pairwise fun session other => session.index ≠ other.index
  byId : ∀ session ∈ sessions, session.isOpen → session.sessionId = session.index

variable {sessions : List PaaSessionEntry}

theorem Indexed.distinctIds (indexed : Indexed sessions) : DistinctIds sessions := by
  have pairs := List.Pairwise.and_mem.mp indexed.once
  apply pairs.imp
  intro session other ⟨isSession, isOther, different⟩ sessionOpen otherOpen
  rw [indexed.byId session isSession sessionOpen, indexed.byId other isOther otherOpen]
  exact different

theorem Indexed.cons (indexed : Indexed sessions) {sessionId : UInt32}
    (isNew : has sessions sessionId = false) (addr : InetAddr) (seq : UInt32) :
    Indexed (⟨sessionId, sessionId, addr, seq, true⟩ :: sessions) where
  once := by
    apply List.pairwise_cons.mpr
    refine ⟨fun other listed same => ?_, indexed.once⟩
    have found : has sessions sessionId = true :=
      List.any_eq_true.mpr ⟨other, listed, beq_iff_eq.mpr same.symm⟩
    rw [isNew] at found
    cases found
  byId := List.forall_mem_cons.mpr ⟨fun _ => rfl, indexed.byId⟩

section

variable {rand : UInt32 → UInt32} {optimizedHandshake : Bool}

theorem Indexed.pacFound (indexed : Indexed sessions) (addr : InetAddr) (now : Nat) :
    Indexed (pacFound rand optimizedHandshake addr now sessions).2 := by
  unfold PaaFactory.pacFound
  split
  · dsimp only
    split
    · exact indexed
    · rename_i isNew
      exact indexed.cons (Bool.eq_false_iff.mpr isNew) addr 0
  · exact indexed

theorem Indexed.statelessRxPanStart (indexed : Indexed sessions) {msg : PanaMessage}
    (isNew : has sessions msg.sessionId = false) (now : Nat) :
    Indexed (statelessRxPanStart rand msg now sessions).2 := by
  unfold PaaFactory.statelessRxPanStart
  repeat' split
  all_goals first
    | exact indexed
    | exact indexed.cons isNew msg.srcAddress msg.seq

theorem Indexed.receive (indexed : Indexed sessions) (msg : PanaMessage) (now : Nat) :
    Indexed (receive rand optimizedHandshake msg now sessions).2 := by
  unfold PaaFactory.receive
  split
  · exact indexed
  · rename_i isNew
    split
    · unfold rxPci
      split
      · exact indexed
      · split
        · exact indexed
        · exact indexed.pacFound msg.srcAddress now
    · split
      · exact indexed.statelessRxPanStart (Bool.eq_false_iff.mpr isNew) now
      · exact indexed

theorem Indexed.step (indexed : Indexed sessions) (input : Input) :
    Indexed (step rand optimizedHandshake sessions input) := by
  cases input with
  | receive msg now => exact indexed.receive msg now
  | pacFound addr now => exact indexed.pacFound addr now
  | disconnect index =>
    constructor
    · apply List.pairwise_map.mpr
      apply indexed.once.imp
      intro session other different
      split <;> split <;> exact different
    · intro session listed
      obtain ⟨before, isBefore, same⟩ := List.mem_map.mp listed
      subst same
      split
      · exact fun closed => nomatch closed
      · exact indexed.byId before isBefore

theorem run_indexed (inputs : List Input) : Indexed (run rand optimizedHandshake inputs) := by
  have start : Indexed [] := ⟨.nil, nofun⟩
  unfold run
  generalize ([] : List PaaSessionEntry) = sessions at start ⊢
  induction inputs generalizing sessions with
  | nil => exact start
  | cons input inputs induction => exact induction _ (start.step input)

end

/-! The answer to a stateless request -/

/-- The answer with which a PaC returns the numbers of a request. -/
def panStart (par : PanaMessage) : PanaMessage where
  flags := { start := true }
  type := mtypePan
  sessionId := par.sessionId
  seq := par.seq
  srcAddress := par.destAddress

section

variable (rand : UInt32 → UInt32) (optimizedHandshake : Bool) (sessions : List PaaSessionEntry)
  (addr : InetAddr) (sent delay : Nat)

/-- An answer that comes in time creates the session of its request, and an older one creates
none. -/
def Honours : Prop :=
  let par := statelessPar rand addr sent
  let received := receive rand optimizedHandshake (panStart par) (sent + delay) sessions
  (delay < maxMinutesToHonorSid * minute →
    received = (.created par.sessionId,
      ⟨par.sessionId, par.sessionId, addr, par.seq, true⟩ :: sessions)) ∧
  (maxMinutesToHonorSid * minute < delay → ∀ sessionId, received.1 ≠ .created sessionId)

/-- What is added to the seed of `rand`, but for the number of the draw. -/
def seedAt (time : Nat) : UInt32 :=
  addr.ipAddress + UInt32.ofNat (time / minute % 60)

/-- `rand` gives the same numbers for the minutes of the hour in which the request is sent and the
answer received, and the first is an id that a session can have and none is stored under. -/
def Replicated : Prop :=
  rand (seedAt addr (sent + delay) + 1) = rand (seedAt addr sent + 1) ∧
    rand (seedAt addr (sent + delay) + 2) = rand (seedAt addr sent + 2) ∧
    rand (seedAt addr sent + 1) ≠ 0 ∧ has sessions (rand (seedAt addr sent + 1)) = false

/-- What `StatelessRxPANStart` asks of an answer with the start flag. -/
def Accepts (msg : PanaMessage) (now : Nat) : Prop :=
  has sessions msg.sessionId = false ∧ msg.sessionId ≠ 0 ∧
    msg.sessionId = get rand now 0 msg.srcAddress.ipAddress ∧
    msg.seq = get rand now 1 msg.srcAddress.ipAddress

variable {rand} {optimizedHandshake} {sessions} {addr} {sent} {delay}
variable {msg : PanaMessage} {now : Nat}

theorem receive_of_accepts (isPan : msg.type = mtypePan) (isStart : msg.flags.start = true)
    (accepts : Accepts rand sessions msg now) :
    receive rand optimizedHandshake msg now sessions = (.created msg.sessionId,
      ⟨msg.sessionId, msg.sessionId, msg.srcAddress, msg.seq, true⟩ :: sessions) := by
  obtain ⟨isNew, positive, sameId, sameSeq⟩ := accepts
  have notPci : msg.type ≠ mtypePci := by
    rw [isPan]
    decide
  have started : ¬ msg.flags.start = false := by
    rw [isStart]
    decide
  unfold receive statelessRxPanStart
  rw [if_neg (Bool.eq_false_iff.mp isNew), if_neg notPci, if_pos isPan, if_neg positive,
    if_neg started, if_neg (not_not_intro sameId), if_neg (not_not_intro sameSeq)]

theorem accepts_of_created (isPan : msg.type = mtypePan) {sessionId : UInt32}
    (isCreated : (receive rand optimizedHandshake msg now sessions).1 = .created sessionId) :
    Accepts rand sessions msg now := by
  have notPci : msg.type ≠ mtypePci := by
    rw [isPan]
    decide
  unfold receive at isCreated
  rw [if_neg notPci, if_pos isPan] at isCreated
  split at isCreated
  · cases isCreated
  · rename_i isNew
    unfold statelessRxPanStart at isCreated
    split at isCreated
    · cases isCreated
    · rename_i positive
      split at isCreated
      · cases isCreated
      · split at isCreated
        · cases isCreated
        · rename_i sameId
          split at isCreated
          · cases isCreated
          · rename_i sameSeq
            exact ⟨Bool.eq_false_iff.mpr isNew, positive, Classical.not_not.mp sameId,
              Classical.not_not.mp sameSeq⟩

/-- The answer is accepted exactly where its numbers are drawn again at its reception. -/
theorem accepts_panStart :
    Accepts rand sessions (panStart (statelessPar rand addr sent)) (sent + delay) ↔
      Replicated rand sessions addr sent delay := by
  constructor
  · intro ⟨isNew, positive, sameId, sameSeq⟩
    exact ⟨sameId.symm, sameSeq.symm, positive, isNew⟩
  · intro ⟨sameId, sameSeq, positive, isNew⟩
    exact ⟨isNew, positive, sameId.symm, sameSeq.symm⟩

end

/-- After any run, the sessions that are open have ids of their own, and an answer to a stateless
request is honoured for the right time exactly where its numbers come out again at a reception in
time, and do not come out at a later one. -/
theorem stateless_handshake_iff (rand : UInt32 → UInt32) (optimizedHandshake : Bool)
    (inputs : List Input) (addr : InetAddr) (sent delay : Nat) :
    DistinctIds (run rand optimizedHandshake inputs) ∧
      (Honours rand optimizedHandshake (run rand optimizedHandshake inputs) addr sent delay ↔
        (delay < maxMinutesToHonorSid * minute →
          Replicated rand (run rand optimizedHandshake inputs) addr sent delay) ∧
        (maxMinutesToHonorSid * minute < delay →
          ¬ Replicated rand (run rand optimizedHandshake inputs) addr sent delay)) := by
  refine ⟨(run_indexed inputs).distinctIds, ?_⟩
  generalize run rand optimizedHandshake inputs = sessions
  have accepts := @accepts_panStart rand sessions addr sent delay
  unfold Honours
  constructor
  · intro ⟨inTime, late⟩
    constructor
    · intro early
      exact accepts.mp (accepts_of_created rfl (congrArg Prod.fst (inTime early)))
    · intro isLate replicated
      exact late isLate _ (congrArg Prod.fst (receive_of_accepts rfl rfl (accepts.mpr replicated)))
  · intro ⟨early_replicated, late_not⟩
    constructor
    · intro early
      exact receive_of_accepts rfl rfl (accepts.mpr (early_replicated early))
    · intro isLate sessionId isCreated
      exact late_not isLate (accepts.mp (accepts_of_created rfl isCreated))

/-- The generator that the C standard gives as an example. -/
def exampleRand (seed : UInt32) : UInt32 :=
  (seed * 1103515245 + 12345) / 65536 % 32768

/-- The request is sent in the last second of a minute, and the answer received one second after
that. -/
theorem next_minute_refused :
    ¬ Honours exampleRand false (run exampleRand false []) ⟨0x0a000001, 716⟩ 59000000
      1000000 := by
  intro ⟨inTime, _⟩
  have accepted := congrArg Prod.fst (inTime (by decide))
  revert accepted
  decide

end PaaFactory

end OpenDiameter.Pana
