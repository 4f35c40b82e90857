import OpenDiameter.Session.SessionDbRuns

/-!
The ids that the session database generates: under which conditions they are new.
-/

namespace OpenDiameter.Session

open OpenDiameter.Foundation OpenDiameter.Utility

variable {Data : Type}

/-- What the calls before have added. -/
structure History where
  /-- Every id with a generated counter. -/
  generated : List SessionId
  /-- The ids with counters of their callers that have not been removed. -/
  explicit : List SessionId

namespace History

def empty : History where
  generated := []
  explicit := []

def after (history : History) : DbCall Data → DbResult Data → History
  | .add _ id _, .added (some new) =>
    if id.counter = .nullCounter then { history with generated := new :: history.generated }
    else { history with explicit := new :: history.explicit }
  | .remove id, _ => { history with explicit := history.explicit.filter (· ≠ id) }
  | _, _ => history

def afterAll (history : History) : List (DbCall Data) → List (DbResult Data) → History
  | call :: calls, result :: results => (history.after call result).afterAll calls results
  | _, _ => history

end History

namespace DiameterSessionDb

variable {db : DiameterSessionDb Data} {whole : ColorTree (Slot SessionKey Nat)} {fuel : Nat}
  {history : History}

/-- The counter that an id under the key is generated from. -/
def generator (fuel : Nat) (db : DiameterSessionDb Data) (clock : SessionCounter)
    (key : SessionKey) : SessionCounter :=
  match db.tree.findBy SessionKey.comparison fuel key with
  | some (some node) => (db.entryLists node.payload).lastKnownCounter
  | _ => clock

/-- A call that compares right, and where it adds an id: the clock that a list starts from is not
behind the counters generated under its key, the counter that is generated does not wrap, and no
id that a caller brought has it. -/
structure GeneratesRight (fuel : Nat) (db : DiameterSessionDb Data) (history : History)
    (call : DbCall Data) : Prop where
  walks : RbTreeTree.WalksRight SessionKey.comparison db.tree call.id.key
  created : ∀ clock id data, call = .add clock id data →
    db.tree.findBy SessionKey.comparison fuel id.key = some none →
    ∀ earlier ∈ history.generated, earlier.key = id.key → ¬ clock.less earlier.counter
  counted : ∀ clock id data, call = .add clock id data → id.counter = .nullCounter →
    (db.generator fuel clock id.key).less (db.generator fuel clock id.key).next
  apart : ∀ clock id data, call = .add clock id data → id.counter = .nullCounter →
    ⟨id.key, (db.generator fuel clock id.key).next⟩ ∉ history.explicit

variable {clock : SessionCounter}

theorem GeneratesRight.walks_add {id : SessionId} {data : Data}
    (right : GeneratesRight fuel db history (.add clock id data)) :
    RbTreeTree.WalksRight SessionKey.comparison db.tree id.key :=
  right.walks

def GeneratesRightAll (fuel : Nat) (db : DiameterSessionDb Data) (history : History) :
    List (DbCall Data) → Prop
  | [] => True
  | call :: calls => GeneratesRight fuel db history call ∧ ∀ next result,
      db.perform fuel call = some (next, result) →
        GeneratesRightAll fuel next (history.after call result) calls

/-- The history accounts for what the database holds. -/
structure Accounted (map : SessionMap Data) (counters : SessionKey → Option SessionCounter)
    (history : History) : Prop where
  behind : ∀ id ∈ history.generated, ∀ counter, counters id.key = some counter →
    id.counter.value ≤ counter.value
  known : ∀ id, map id ≠ none → id ∈ history.generated ∨ id ∈ history.explicit
  generated : ∀ id ∈ history.generated, id.counter ≠ .nullCounter
  explicit : ∀ id ∈ history.explicit, id.counter ≠ .nullCounter

theorem Accounted.empty :
    Accounted (fun _ => none : SessionMap Data) (fun _ => none) History.empty where
  behind _ isIn := by cases isIn
  known _ found := absurd rfl found
  generated _ isIn := by cases isIn
  explicit _ isIn := by cases isIn

variable {map : SessionMap Data} {counters : SessionKey → Option SessionCounter}

theorem Accounted.null (accounted : Accounted map counters history) (key : SessionKey) :
    map ⟨key, .nullCounter⟩ = none := by
  cases found : map ⟨key, .nullCounter⟩ with
  | none => rfl
  | some data =>
    have present : map ⟨key, .nullCounter⟩ ≠ none := by simp [found]
    cases accounted.known _ present with
    | inl isIn => exact absurd rfl (accounted.generated _ isIn)
    | inr isIn => exact absurd rfl (accounted.explicit _ isIn)

/-- Under a key, no id generated before is past the counter that the next is generated from. -/
theorem Accounted.generated_le (accounted : Accounted map counters history) {key : SessionKey}
    (created : counters key = none → ∀ earlier ∈ history.generated, earlier.key = key →
      ¬ clock.less earlier.counter) :
    ∀ earlier ∈ history.generated, earlier.key = key →
      earlier.counter.value ≤ ((counters key).getD clock).value := by
  intro earlier isIn sameKey
  cases last : counters key with
  | none =>
    have notBehind := created last earlier isIn sameKey
    rw [SessionCounter.less_iff] at notBehind
    exact Nat.le_of_not_lt notBehind
  | some counter => exact accounted.behind earlier isIn counter (sameKey ▸ last)

/-- What a call that generates right leaves is accounted for again. -/
theorem Accounted.step (accounted : Accounted map counters history) {call : DbCall Data}
    {result : DbResult Data} {next : SessionMap Data}
    {nextCounters : SessionKey → Option SessionCounter} (step : MapStep map call result next)
    (counterStep : CounterStep counters nextCounters call result)
    (created : ∀ clock id data, call = .add clock id data → counters id.key = none →
      ∀ earlier ∈ history.generated, earlier.key = id.key → ¬ clock.less earlier.counter)
    (counted : ∀ clock id data, call = .add clock id data → id.counter = .nullCounter →
      ((counters id.key).getD clock).less ((counters id.key).getD clock).next) :
    Accounted next nextCounters (history.after call result) := by
  have unmoved : (∀ key counter, nextCounters key = some counter →
      counters key = some counter) → ∀ id ∈ history.generated, ∀ counter,
        nextCounters id.key = some counter → id.counter.value ≤ counter.value :=
    fun same id isIn counter last => accounted.behind id isIn counter (same _ _ last)
  cases step with
  | present => exact { accounted with behind := unmoved counterStep }
  | found => exact { accounted with behind := unmoved counterStep }
  | removed id =>
    constructor
    · exact unmoved counterStep
    · intro other found
      by_cases same : other = id
      · rw [same, Function.update_self] at found
        exact absurd rfl found
      · rw [Function.update_of_ne same] at found
        cases accounted.known other found with
        | inl isIn => exact .inl isIn
        | inr isIn => exact .inr (List.mem_filter.mpr ⟨isIn, by simpa using same⟩)
    · exact accounted.generated
    · intro other isIn
      exact accounted.explicit other (List.mem_filter.mp isIn).1
  | @added clock id data absent explicit =>
    rw [History.after, if_neg explicit]
    have before := accounted.generated_le (created clock id data rfl)
    constructor
    · intro earlier isIn counter last
      rw [counterStep.2, if_neg explicit] at last
      by_cases sameKey : earlier.key = id.key
      · rw [if_pos sameKey] at last
        cases last
        rw [sameKey]
        exact before earlier isIn sameKey
      · rw [if_neg sameKey] at last
        exact accounted.behind earlier isIn counter last
    · intro other found
      by_cases same : other = id
      · exact .inr (same ▸ List.mem_cons_self ..)
      · rw [Function.update_of_ne same] at found
        cases accounted.known other found with
        | inl isIn => exact .inl isIn
        | inr isIn => exact .inr (List.mem_cons_of_mem _ isIn)
    · exact accounted.generated
    · intro other isIn
      cases isIn with
      | head => exact explicit
      | tail _ isIn => exact accounted.explicit other isIn
  | @generated clock id data counter absent isNull _ =>
    rw [History.after, if_pos isNull]
    have before := accounted.generated_le (created clock id data rfl)
    have grows := counted clock id data rfl isNull
    have isNext : counter = ((counters id.key).getD clock).next := counterStep.1 isNull
    rw [← isNext, SessionCounter.less_iff] at grows
    constructor
    · intro earlier isIn last isLast
      rw [counterStep.2, if_pos isNull] at isLast
      cases isIn with
      | head =>
        rw [if_pos rfl] at isLast
        cases isLast
        exact Nat.le_refl _
      | tail _ isIn =>
        by_cases sameKey : earlier.key = id.key
        · rw [if_pos sameKey] at isLast
          cases isLast
          exact Nat.le_of_lt (Nat.lt_of_le_of_lt (before earlier isIn sameKey) grows)
        · rw [if_neg sameKey] at isLast
          exact accounted.behind earlier isIn last isLast
    · intro other found
      by_cases same : other = { id with counter }
      · exact .inl (same ▸ List.mem_cons_self ..)
      · rw [Function.update_of_ne same] at found
        cases accounted.known other found with
        | inl isIn => exact .inl (List.mem_cons_of_mem _ isIn)
        | inr isIn => exact .inr isIn
    · intro other isIn
      cases isIn with
      | head =>
        intro isNull
        have zero : counter.value = 0 := congrArg SessionCounter.value isNull
        omega
      | tail _ isIn => exact accounted.generated other isIn
    · exact accounted.explicit

/-- A generated id is none that was generated before under its key, and none of the map. -/
theorem Accounted.fresh (accounted : Accounted map counters history) {key : SessionKey}
    (created : counters key = none → ∀ earlier ∈ history.generated, earlier.key = key →
      ¬ clock.less earlier.counter)
    (counted : ((counters key).getD clock).less ((counters key).getD clock).next)
    (apart : ⟨key, ((counters key).getD clock).next⟩ ∉ history.explicit) :
    ⟨key, ((counters key).getD clock).next⟩ ∉ history.generated ∧
      map ⟨key, ((counters key).getD clock).next⟩ = none := by
  rw [SessionCounter.less_iff] at counted
  have new : ⟨key, ((counters key).getD clock).next⟩ ∉ history.generated := by
    intro isIn
    have before := accounted.generated_le created _ isIn rfl
    exact Nat.not_lt_of_le before counted
  refine ⟨new, ?_⟩
  cases found : map ⟨key, ((counters key).getD clock).next⟩ with
  | none => rfl
  | some data =>
    have present : map ⟨key, ((counters key).getD clock).next⟩ ≠ none := by simp [found]
    cases accounted.known _ present with
    | inl isIn => exact absurd isIn new
    | inr isIn => exact absurd isIn apart

section

variable (represents : Represents db whole) (enough : 2 * whole.items.length + 1 < fuel)

include represents enough

theorem generator_eq {key : SessionKey}
    (walks : RbTreeTree.WalksRight SessionKey.comparison db.tree key) (clock : SessionCounter) :
    db.generator fuel clock key = (counterOf db whole key).getD clock := by
  rw [generator, findBy_eq_binding represents enough walks, counterOf]
  cases binding whole key with
  | none => rfl
  | some node => rfl

theorem findBy_eq_none {key : SessionKey}
    (walks : RbTreeTree.WalksRight SessionKey.comparison db.tree key)
    (absent : counterOf db whole key = none) :
    db.tree.findBy SessionKey.comparison fuel key = some none := by
  rw [findBy_eq_binding represents enough walks]
  cases bound : binding whole key with
  | none => rfl
  | some node => simp [counterOf, bound] at absent

section

variable {clock : SessionCounter} {id : SessionId} {data : Data}
  (right : GeneratesRight fuel db history (.add clock id data))

include right

theorem GeneratesRight.created_of_absent (absent : counterOf db whole id.key = none) :
    ∀ earlier ∈ history.generated, earlier.key = id.key → ¬ clock.less earlier.counter :=
  right.created clock id data rfl (findBy_eq_none represents enough right.walks_add absent)

theorem GeneratesRight.counted_next (isNull : id.counter = .nullCounter) :
    ((counterOf db whole id.key).getD clock).less ((counterOf db whole id.key).getD clock).next := by
  rw [← generator_eq represents enough right.walks_add]
  exact right.counted clock id data rfl isNull

theorem GeneratesRight.fresh (accounted : Accounted (mapOf db whole) (counterOf db whole) history)
    (isNull : id.counter = .nullCounter) :
    ⟨id.key, ((counterOf db whole id.key).getD clock).next⟩ ∉ history.generated ∧
      mapOf db whole ⟨id.key, ((counterOf db whole id.key).getD clock).next⟩ = none := by
  have apart := right.apart clock id data rfl isNull
  rw [generator_eq represents enough right.walks_add] at apart
  exact accounted.fresh (right.created_of_absent represents enough)
    (right.counted_next represents enough isNull) apart

end

theorem GeneratesRight.callRight {call : DbCall Data}
    (right : GeneratesRight fuel db history call)
    (accounted : Accounted (mapOf db whole) (counterOf db whole) history) :
    CallRight fuel db call := by
  refine ⟨right.walks, ?_⟩
  cases call with
  | lookup id => trivial
  | remove id => trivial
  | add clock id data =>
    intro isNull node found
    have bound : binding whole id.key = some node := by
      rw [findBy_eq_binding represents enough right.walks_add] at found
      exact Option.some.inj found
    have absent := (right.fresh represents enough accounted isNull).2
    simpa [mapOf, counterOf, bound] using absent

/-- What a call that generates right leaves is accounted for again. -/
theorem GeneratesRight.accounts {call : DbCall Data}
    (right : GeneratesRight fuel db history call)
    (accounted : Accounted (mapOf db whole) (counterOf db whole) history)
    {result : DbResult Data} {next : SessionMap Data}
    {nextCounters : SessionKey → Option SessionCounter}
    (step : MapStep (mapOf db whole) call result next)
    (counterStep : CounterStep (counterOf db whole) nextCounters call result) :
    Accounted next nextCounters (history.after call result) := by
  apply accounted.step step counterStep
  · intro clock id data isAdd
    subst isAdd
    exact right.created_of_absent represents enough
  · intro clock id data isAdd
    subst isAdd
    exact right.counted_next represents enough

end

/-- A run whose calls generate right leaves a database that its history accounts for. -/
theorem performAll_accounts (represents : Represents db whole)
    (accounted : Accounted (mapOf db whole) (counterOf db whole) history)
    {calls : List (DbCall Data)} {last : DbCall Data}
    (enough : 2 * (whole.items.length + calls.length) + 1 < fuel)
    (right : GeneratesRightAll fuel db history (calls ++ [last])) :
    ∃ db' results whole', db.performAll fuel calls = some (db', results) ∧
      Represents db' whole' ∧ whole'.items.length ≤ whole.items.length + calls.length ∧
      MapRun (mapOf db whole) calls results (mapOf db' whole') ∧
      Accounted (mapOf db' whole') (counterOf db' whole') (history.afterAll calls results) ∧
      GeneratesRight fuel db' (history.afterAll calls results) last := by
  induction calls generalizing db whole history with
  | nil =>
    exact ⟨db, [], whole, rfl, represents, Nat.le_refl _, .nil _, accounted, right.1⟩
  | cons call calls induction =>
    rw [List.length_cons] at enough ⊢
    have fits : 2 * whole.items.length + 1 < fuel := by omega
    rcases implements represents fits (right.1.callRight represents fits accounted) with
      ⟨next, result, nextWhole, performed, nextRepresents, grown, step, counterStep⟩
    have nextAccounted := right.1.accounts represents fits accounted step counterStep
    rcases induction nextRepresents nextAccounted (by omega) (right.2 next result performed) with
      ⟨db', results, whole', rest, representsLast, size, run, accountedLast, rightLast⟩
    refine ⟨db', result :: results, whole', ?_, representsLast, by omega, .cons step run,
      accountedLast, rightLast⟩
    simp [performAll, performed, rest]

/-- After every such run, the id that is generated for a null counter is not in the database, and
is none of those generated before. -/
theorem generated_id_fresh {calls : List (DbCall Data)} {clock : SessionCounter}
    {key : SessionKey} {data : Data} (enough : 2 * (calls.length + 1) < fuel)
    (right : GeneratesRightAll fuel .empty .empty
      (calls ++ [.add clock ⟨key, .nullCounter⟩ data])) :
    ∃ db results map next new,
      DiameterSessionDb.empty.performAll fuel calls = some (db, results) ∧
      MapRun (fun _ => none) calls results map ∧
      db.perform fuel (.add clock ⟨key, .nullCounter⟩ data) = some (next, .added (some new)) ∧
      new.key = key ∧ map new = none ∧
      new ∉ (History.empty.afterAll calls results).generated := by
  have fits : 2 * ((.nil : ColorTree (Slot SessionKey Nat)).items.length + calls.length) + 1 <
      fuel := by
    rw [ColorTree.items, List.length_nil]
    omega
  rcases performAll_accounts .empty Accounted.empty fits right with
    ⟨db, results, whole, performed, represents, size, run, accounted, rightLast⟩
  rw [ColorTree.items, List.length_nil] at size
  have enoughLast : 2 * whole.items.length + 1 < fuel := by omega
  rcases implements represents enoughLast
      (rightLast.callRight represents enoughLast accounted) with
    ⟨next, result, nextWhole, generated, _, _, step, counterStep⟩
  have fresh := rightLast.fresh represents enoughLast accounted rfl
  have absent := accounted.null key
  generalize mapOf next nextWhole = nextMap at step
  cases step with
  | present isThere => exact absurd absent isThere
  | added _ explicit => exact absurd rfl explicit
  | generated counter =>
    have isNext : counter = ((counterOf db whole key).getD clock).next := counterStep.1 rfl
    subst isNext
    exact ⟨db, results, mapOf db whole, next, _, performed, run, generated, rfl, fresh.2,
      fresh.1⟩

theorem generated_id_fresh_again :
    ∃ db results map next new,
      DiameterSessionDb.empty.performAll 5 [.add ⟨5, 7⟩ ⟨⟨[97], []⟩, .nullCounter⟩ 10] =
        some (db, results) ∧
      MapRun (fun _ => none) [.add ⟨5, 7⟩ ⟨⟨[97], []⟩, .nullCounter⟩ 10] results map ∧
      db.perform 5 (.add ⟨5, 7⟩ ⟨⟨[97], []⟩, .nullCounter⟩ 20) = some (next, .added (some new)) ∧
      new.key = ⟨[97], []⟩ ∧ map new = none ∧
      new ∉ (History.empty.afterAll [.add ⟨5, 7⟩ ⟨⟨[97], []⟩, .nullCounter⟩ 10]
        results).generated := by
  have itself : RbTreeTree.ComparesRight SessionKey.comparison ⟨[97], []⟩ ⟨[97], []⟩ :=
    SessionKey.comparesRight_iff.mpr (.inl rfl)
  apply generated_id_fresh (by decide)
  refine ⟨⟨.of_root itself ?_, ?_, ?_, ?_⟩, ?_⟩
  · intro data found
    cases found
  · intro clock id data isAdd absent earlier isIn
    cases isIn
  · intro clock id data isAdd isNull
    cases isAdd
    rfl
  · intro clock id data isAdd isNull isIn
    cases isIn
  · intro next result performed
    have isResult : ((DiameterSessionDb.empty : DiameterSessionDb Nat).perform 5
        (.add ⟨5, 7⟩ ⟨⟨[97], []⟩, .nullCounter⟩ 10)).map
          (fun performed => (performed.1.tree.data performed.1.tree.root,
            performed.1.tree.findBy SessionKey.comparison 5 ⟨[97], []⟩,
            (performed.1.entryLists 0).lastKnownCounter, performed.2)) =
        some (some ⟨⟨[97], []⟩, 0⟩, some (some ⟨⟨[97], []⟩, 0⟩), ⟨5, 8⟩,
          .added (some ⟨⟨[97], []⟩, ⟨5, 8⟩⟩)) := rfl
    rw [performed] at isResult
    injection isResult with isResult
    injection isResult with root isResult
    injection isResult with found isResult
    injection isResult with last isResult
    subst isResult
    refine ⟨⟨.of_root itself ?_, ?_, ?_, ?_⟩, fun _ _ _ => trivial⟩
    · intro data isData
      rw [root] at isData
      cases isData
      rfl
    · intro clock id data isAdd absent
      cases isAdd
      rw [found] at absent
      cases absent
    · intro clock id data isAdd isNull
      cases isAdd
      rw [generator, found]
      dsimp only
      rw [last]
      rfl
    · intro clock id data isAdd isNull isIn
      cases isIn

/-- The list that went with its last entry starts from the same clock again. -/
theorem generated_id_repeated :
    ∃ db results next new,
      DiameterSessionDb.empty.performAll 20 [.add ⟨5, 7⟩ ⟨⟨[97], []⟩, .nullCounter⟩ 10,
        .remove ⟨⟨[97], []⟩, ⟨5, 8⟩⟩] = some (db, results) ∧
      db.perform 20 (.add ⟨5, 7⟩ ⟨⟨[97], []⟩, .nullCounter⟩ 20) = some (next, .added (some new)) ∧
      new ∈ (History.empty.afterAll [.add ⟨5, 7⟩ ⟨⟨[97], []⟩, .nullCounter⟩ 10,
        .remove ⟨⟨[97], []⟩, ⟨5, 8⟩⟩] results).generated :=
  ⟨_, [.added (some ⟨⟨[97], []⟩, ⟨5, 8⟩⟩), .removed true], _, ⟨⟨[97], []⟩, ⟨5, 8⟩⟩, rfl, rfl,
    List.mem_cons_self⟩

end DiameterSessionDb

end OpenDiameter.Session
