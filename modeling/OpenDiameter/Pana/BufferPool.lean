import OpenDiameter.Foundation.Transitions
import OpenDiameter.Pana.MessageEncoder

/-!
The buffers that `PANA_MESSAGE_POOL` lends to the sender, to the security association and to the
receiver of messages, each of which goes on to code that throws.
-/

namespace OpenDiameter.Pana

open OpenDiameter.Foundation OpenDiameter.Parser

/-- `PANA_MIN_MESSAGE_COUNT` -/
def minMessageCount : Nat := 100

def avpNameAuth : String := "AUTH"

/-- `PANA_MessagePoolManager` -/
structure MessagePool where
  refCount : Fin minMessageCount → Int
  /-- The buffers of the parsers that are scheduled and have not been served. -/
  scheduled : List (Fin minMessageCount)

namespace MessagePool

def fresh : MessagePool where
  refCount := fun _ => 0
  scheduled := []

def setCount (pool : MessagePool) (buffer : Fin minMessageCount) (count : Int) : MessagePool :=
  { pool with refCount := fun other => if other = buffer then count else pool.refCount other }

/-- The first buffer without a reference, or NULL. -/
def malloc (pool : MessagePool) : Option (Fin minMessageCount × MessagePool) :=
  ((List.finRange minMessageCount).find? fun buffer => pool.refCount buffer == 0).map fun buffer =>
    (buffer, pool.setCount buffer (pool.refCount buffer + 1))

def free (pool : MessagePool) (buffer : Fin minMessageCount) : MessagePool :=
  pool.setCount buffer (pool.refCount buffer - 1)

section

variable (dictionaries : PanaDictionaries) (depth : Nat)

/-- What follows `malloc` in `Send` and in `ValidateAuthAvp`: the encoder, which throws before the
buffer is freed. -/
def encodeAndFree (m : PanaWireMessage) (pool : MessagePool) : Option MessagePool :=
  pool.malloc.map fun (buffer, pool) =>
    match (encodeMessage dictionaries depth m {}).1 with
    | .ok () => pool.free buffer
    | .error _ => pool

/-- `PANA_Channel::Send`. As in all that follows, NULL is used at once. -/
def send (m : PanaWireMessage) (pool : MessagePool) : Option MessagePool :=
  encodeAndFree dictionaries depth m pool

/-- `PANA_SecurityAssociation::AddAuthAvp`. The destructor of `PANA_MsgByteStream` frees the buffer,
also where its encoder throws. -/
def addAuthAvp (pool : MessagePool) : Option MessagePool :=
  pool.malloc.map fun (buffer, pool) => pool.free buffer

/-- The AUTH value that is first found, set to zero. -/
def zeroAuth : AvpContainerList → AvpContainerList
  | [] => []
  | c :: acl =>
    if c.avpName == avpNameAuth then
      { c with
        entries := c.entries.modifyHead fun entry =>
          { entry with data := .octets (List.replicate authHmacSize 0) } } :: acl
    else c :: zeroAuth acl

/-- `PANA_SecurityAssociation::ValidateAuthAvp`, but for its result. -/
def validateAuthAvp (msg : PanaWireMessage) (pool : MessagePool) : Option MessagePool :=
  match msg.avpList.search avpNameAuth with
  | none => some pool
  | some _ => encodeAndFree dictionaries depth { msg with avpList := zeroAuth msg.avpList } pool

end

/-- One pass of `PANA_IngressReceiver::Serve`: a parser has the buffer, or it is freed where the
exception is caught. -/
def receive (bytes : Int) (hasHandler isAllocated isScheduled : Bool) (pool : MessagePool) :
    Option MessagePool :=
  pool.malloc.map fun (buffer, pool) =>
    if 0 < bytes ∧ hasHandler ∧ isAllocated ∧ isScheduled then
      { pool with scheduled := buffer :: pool.scheduled }
    else pool.free buffer

/-- `PANA_IngressMsgParser::Serve`, which catches what is thrown before it frees the buffer. -/
def serve (buffer : Fin minMessageCount) (pool : MessagePool) : MessagePool :=
  if buffer ∈ pool.scheduled then
    { pool.free buffer with scheduled := pool.scheduled.erase buffer }
  else pool

/-! Runs -/

inductive Call where
  | send (m : PanaWireMessage)
  | addAuthAvp
  | validateAuthAvp (msg : PanaWireMessage)
  | receive (bytes : Int) (hasHandler isAllocated isScheduled : Bool)
  | serve (buffer : Fin minMessageCount)

section

variable (dictionaries : PanaDictionaries) (depth : Nat)

def perform : Call → MessagePool → Option MessagePool
  | .send m => send dictionaries depth m
  | .addAuthAvp => addAuthAvp
  | .validateAuthAvp msg => validateAuthAvp dictionaries depth msg
  | .receive bytes hasHandler isAllocated isScheduled =>
    receive bytes hasHandler isAllocated isScheduled
  | .serve buffer => fun pool => some (pool.serve buffer)

/-- A call, unless one before it has used NULL. -/
def performNext (call : Call) (pool : Option MessagePool) : Option MessagePool :=
  pool.bind (perform dictionaries depth call)

/-- The message that a call encodes by hand. -/
def Call.encoded : Call → Option PanaWireMessage
  | .send m => some m
  | .validateAuthAvp msg =>
    (msg.avpList.search avpNameAuth).map fun _ => { msg with avpList := zeroAuth msg.avpList }
  | _ => none

def Call.takesBuffer : Call → Bool
  | .send _ | .addAuthAvp | .receive .. => true
  | .validateAuthAvp msg => (msg.avpList.search avpNameAuth).isSome
  | .serve _ => false

/-- A call that takes a buffer finds one that no parser has, and encodes its message. -/
def Call.Fits (call : Call) (pool : Option MessagePool) : Prop :=
  (call.takesBuffer = true →
      ∀ lending, pool = some lending → ∃ buffer, buffer ∉ lending.scheduled) ∧
    ∀ m, call.encoded = some m → (encodeMessage dictionaries depth m {}).1 = .ok ()

end

/-- No buffer has a reference but those with a parser, which have one. -/
structure Conserved (pool : MessagePool) : Prop where
  counted : ∀ buffer, pool.refCount buffer = pool.scheduled.count buffer
  once : pool.scheduled.Nodup

/-- NULL has not been used, and the buffers are conserved. -/
def AllConserved (pool : Option MessagePool) : Prop :=
  ∃ lending, pool = some lending ∧ lending.Conserved

theorem fresh_conserved : fresh.Conserved where
  counted := fun _ => rfl
  once := .nil

variable {pool : MessagePool} {buffer : Fin minMessageCount}

@[simp] theorem setCount_refCount_self (count : Int) :
    (pool.setCount buffer count).refCount buffer = count :=
  if_pos rfl

theorem setCount_refCount_other {other : Fin minMessageCount} (different : other ≠ buffer)
    (count : Int) : (pool.setCount buffer count).refCount other = pool.refCount other :=
  if_neg different

/-- A buffer that is taken and freed leaves the pool as it was. -/
theorem free_setCount (isFree : pool.refCount buffer = 0) :
    (pool.setCount buffer 1).free buffer = pool := by
  unfold free
  rw [setCount_refCount_self]
  unfold setCount
  congr
  funext other
  split
  · rename_i same
    rw [same, isFree]
    rfl
  · rename_i different
    exact if_neg different

namespace Conserved

theorem isFree (conserved : pool.Conserved) (idle : buffer ∉ pool.scheduled) :
    pool.refCount buffer = 0 := by
  rw [conserved.counted, List.count_eq_zero.mpr idle]
  rfl

/-- `malloc` finds a buffer exactly where one is with no parser. -/
theorem malloc_cases (conserved : pool.Conserved) :
    (∃ buffer, buffer ∉ pool.scheduled ∧
      pool.malloc = some (buffer, pool.setCount buffer 1)) ∨
    (¬ ∃ buffer, buffer ∉ pool.scheduled) ∧ pool.malloc = none := by
  unfold malloc
  cases found : (List.finRange minMessageCount).find? fun buffer => pool.refCount buffer == 0 with
  | none =>
    refine .inr ⟨fun ⟨buffer, idle⟩ => ?_, rfl⟩
    apply List.find?_eq_none.mp found buffer (List.mem_finRange buffer)
    exact beq_iff_eq.mpr (conserved.isFree idle)
  | some buffer =>
    have isFree : pool.refCount buffer = 0 :=
      beq_iff_eq.mp (List.find?_some (p := fun buffer => pool.refCount buffer == 0) found)
    refine .inl ⟨buffer, ?_, ?_⟩
    · rw [conserved.counted] at isFree
      exact List.count_eq_zero.mp (Int.ofNat_eq_zero.mp isFree)
    · rw [Option.map_some, isFree]
      rfl

/-- What a call does to a buffer and to the pool that lends it. -/
theorem lent_iff (conserved : pool.Conserved) {Meets : Prop}
    {use : Fin minMessageCount × MessagePool → MessagePool}
    (used : ∀ buffer, buffer ∉ pool.scheduled →
      ((use (buffer, pool.setCount buffer 1)).Conserved ↔ Meets)) :
    AllConserved (pool.malloc.map use) ↔
      (∃ buffer, buffer ∉ pool.scheduled) ∧ Meets := by
  cases conserved.malloc_cases with
  | inl isLent =>
    obtain ⟨buffer, idle, lent⟩ := isLent
    rw [lent]
    constructor
    · intro ⟨lending, same, kept⟩
      cases same
      exact ⟨⟨buffer, idle⟩, (used buffer idle).mp kept⟩
    · exact fun ⟨_, meets⟩ => ⟨_, rfl, (used buffer idle).mpr meets⟩
  | inr isNull =>
    rw [isNull.2]
    constructor
    · exact fun ⟨_, same, _⟩ => nomatch same
    · exact fun ⟨idle, _⟩ => absurd idle isNull.1

/-- A buffer that nobody frees is missing. -/
theorem not_leaked (idle : buffer ∉ pool.scheduled) : ¬ (pool.setCount buffer 1).Conserved := by
  intro conserved
  have counted := conserved.counted buffer
  rw [setCount_refCount_self] at counted
  have none : (pool.setCount buffer 1).scheduled.count buffer = 0 := List.count_eq_zero.mpr idle
  rw [none] at counted
  cases counted

theorem freed (conserved : pool.Conserved) (idle : buffer ∉ pool.scheduled) :
    ((pool.setCount buffer 1).free buffer).Conserved := by
  rw [free_setCount (conserved.isFree idle)]
  exact conserved

theorem handedOn (conserved : pool.Conserved) (idle : buffer ∉ pool.scheduled) :
    Conserved { pool.setCount buffer 1 with scheduled := buffer :: pool.scheduled } where
  counted := by
    intro other
    by_cases same : other = buffer
    · rw [same]
      change (pool.setCount buffer 1).refCount buffer = _
      rw [setCount_refCount_self, List.count_cons_self, List.count_eq_zero.mpr idle]
      rfl
    · change (pool.setCount buffer 1).refCount other = _
      rw [setCount_refCount_other same, List.count_cons_of_ne (Ne.symm same)]
      exact conserved.counted other
  once := List.nodup_cons.mpr ⟨idle, conserved.once⟩

theorem serve (conserved : pool.Conserved) (buffer : Fin minMessageCount) :
    (pool.serve buffer).Conserved := by
  unfold MessagePool.serve
  split
  · rename_i isScheduled
    refine ⟨?_, conserved.once.erase buffer⟩
    intro other
    by_cases same : other = buffer
    · rw [same]
      change (pool.setCount buffer _).refCount buffer = _
      have positive : 0 < pool.scheduled.count buffer := List.count_pos_iff.mpr isScheduled
      rw [setCount_refCount_self, conserved.counted, List.count_erase_self]
      omega
    · change (pool.setCount buffer _).refCount other = _
      rw [setCount_refCount_other same, List.count_erase_of_ne same]
      exact conserved.counted other
  · exact conserved

variable {dictionaries : PanaDictionaries} {depth : Nat}

theorem encodeAndFree_iff (conserved : pool.Conserved) (m : PanaWireMessage) :
    AllConserved (encodeAndFree dictionaries depth m pool) ↔
      (∃ buffer, buffer ∉ pool.scheduled) ∧
        (encodeMessage dictionaries depth m {}).1 = .ok () := by
  apply conserved.lent_iff
  intro buffer idle
  dsimp only
  cases (encodeMessage dictionaries depth m {}).1 with
  | ok _ => exact iff_of_true (conserved.freed idle) rfl
  | error failure => exact iff_of_false (not_leaked idle) nofun

theorem fits_of_none {call : Call} (takes : call.takesBuffer = true)
    (noMessage : call.encoded = none) :
    call.Fits dictionaries depth (some pool) ↔ ∃ buffer, buffer ∉ pool.scheduled := by
  constructor
  · exact fun fits => fits.1 takes pool rfl
  · intro idle
    refine ⟨fun _ lending same => ?_, fun m encodes => ?_⟩
    · cases same
      exact idle
    · rw [noMessage] at encodes
      cases encodes

theorem fits_of_some {call : Call} {m : PanaWireMessage} (takes : call.takesBuffer = true)
    (encodes : call.encoded = some m) :
    call.Fits dictionaries depth (some pool) ↔ (∃ buffer, buffer ∉ pool.scheduled) ∧
      (encodeMessage dictionaries depth m {}).1 = .ok () := by
  constructor
  · exact fun fits => ⟨fits.1 takes pool rfl, fits.2 m encodes⟩
  · intro ⟨idle, succeeds⟩
    refine ⟨fun _ lending same => ?_, fun other same => ?_⟩
    · cases same
      exact idle
    · cases encodes.symm.trans same
      exact succeeds

/-- A call conserves the buffers just where it fits the pool. -/
theorem perform_iff (conserved : pool.Conserved) (call : Call) :
    AllConserved (perform dictionaries depth call pool) ↔
      call.Fits dictionaries depth (some pool) := by
  cases call with
  | send m => exact (conserved.encodeAndFree_iff m).trans (fits_of_some rfl rfl).symm
  | addAuthAvp =>
    rw [fits_of_none rfl rfl, ← and_true (∃ buffer, buffer ∉ pool.scheduled)]
    exact conserved.lent_iff fun buffer idle => iff_of_true (conserved.freed idle) trivial
  | validateAuthAvp msg =>
    change AllConserved (validateAuthAvp dictionaries depth msg pool) ↔ _
    unfold validateAuthAvp
    cases found : msg.avpList.search avpNameAuth with
    | none =>
      refine iff_of_true ⟨pool, rfl, conserved⟩ ⟨fun takes => ?_, fun m encodes => ?_⟩
      · rw [Call.takesBuffer, found] at takes
        cases takes
      · rw [Call.encoded, found] at encodes
        cases encodes
    | some auth =>
      refine (conserved.encodeAndFree_iff _).trans (Iff.symm (fits_of_some ?_ ?_))
      · rw [Call.takesBuffer, found]
        rfl
      · rw [Call.encoded, found]
        rfl
  | receive bytes hasHandler isAllocated isScheduled =>
    rw [fits_of_none rfl rfl, ← and_true (∃ buffer, buffer ∉ pool.scheduled)]
    apply conserved.lent_iff
    intro buffer idle
    dsimp only
    split
    · exact iff_of_true (conserved.handedOn idle) trivial
    · exact iff_of_true (conserved.freed idle) trivial
  | serve buffer =>
    exact iff_of_true ⟨_, rfl, conserved.serve buffer⟩ ⟨nofun, nofun⟩

end Conserved

/-- In a run from the fresh pool the buffers are conserved and NULL is not used, just where every
call that takes a buffer finds one that no parser has, and encodes its message. -/
theorem buffers_conserved_iff (dictionaries : PanaDictionaries) (depth : Nat)
    (calls : List Call) :
    (∀ before after, calls = before ++ after →
        AllConserved (before.foldl
          (fun pool call => performNext dictionaries depth call pool) (some fresh))) ↔
      ∀ before call after, calls = before ++ call :: after →
        call.Fits dictionaries depth (before.foldl
          (fun pool call => performNext dictionaries depth call pool) (some fresh)) := by
  have step : ∀ call pool, AllConserved pool →
      (AllConserved (performNext dictionaries depth call pool) ↔
        call.Fits dictionaries depth pool) := by
    intro call pool ⟨lending, same, conserved⟩
    subst same
    exact conserved.perform_iff call
  apply run_good_iff (fun _ kept => kept) step
  · exact fun call pool kept fits => (step call pool kept).mpr fits
  · exact ⟨fresh, rfl, fresh_conserved⟩

/-! A leak -/

/-- The request of PANA-Auth, with its EAP payload. -/
def panaAuth : PanaDictionaries where
  commandList :=
    [⟨⟨[], [], [⟨⟨"EAP-Payload", 2, .string, 0, ⟨true, false, false⟩⟩, 0, 1⟩]⟩, 2, true⟩]
  groupedAvpList := []

def eapRequest (eap : List UInt8) : PanaWireMessage where
  flags := { request := true }
  type := 2
  avpList := [⟨"EAP-Payload", [⟨.string, .octets eap⟩]⟩]

/-- A payload for which the buffer has no room. -/
theorem send_leaks {eap : List UInt8} (long : eap.length = 1100) :
    ¬ AllConserved (performNext panaAuth 1 (.send (eapRequest eap)) (some fresh)) := by
  intro conserved
  have fits := (fresh_conserved.perform_iff (.send (eapRequest eap))).mp conserved
  have encodes := fits.2 _ rfl
  revert encodes
  simp [encodeMessage, writeMessageHeader, PanaDictionaries.searchCommand, panaAuth, eapRequest,
    writePayload, writeQualifiedAvps, writeQualified, AvpContainerList.search, writeEntries,
    writeEntry, writeAvp, writeValue, writeOctets, expectType, AvpContainerEntry.expect,
    PanaBuffer.copyOut, PanaEncode.andThen, PanaBuffer.put, messageHeaderOctets, avpHeaderOctets,
    htonl, maxMessageSize, long]

/-- The send of an EAP payload of 1100 octets throws and keeps its buffer. -/
theorem long_payload_leaks :
    ¬ AllConserved (performNext panaAuth 1 (.send (eapRequest (List.replicate 1100 0)))
      (some fresh)) :=
  send_leaks List.length_replicate

end MessagePool

end OpenDiameter.Pana
