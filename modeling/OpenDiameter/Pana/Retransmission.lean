import OpenDiameter.Foundation.Transitions
import Mathlib.Data.Rat.Floor
import Mathlib.Tactic.Linarith

/-!
The retransmission timer of a PANA session. What the code computes in `unsigned int` stands beside
the rules that it quotes, which are about unbounded numbers.
-/

namespace OpenDiameter.Pana

open OpenDiameter.Foundation

/-- `PANA_CfgRetransmissionParam` -/
structure RetransmissionParam where
  irt : UInt32
  mrc : UInt32
  mrt : UInt32
  mrd : UInt32

/-- What `RAND()` returns. -/
structure RandomFactor where
  value : ℚ
  low : -(1 / 10) ≤ value
  high : value ≤ 1 / 10

namespace RandomFactor

/-- `int(RAND()*float(time))`, of the exact product. -/
def times (factor : RandomFactor) (time : Nat) : Int :=
  if 0 ≤ factor.value * time then ⌊factor.value * time⌋ else ⌈factor.value * time⌉

theorem times_bounds (factor : RandomFactor) (time : Nat) :
    -(time : Int) ≤ 10 * factor.times time ∧ 10 * factor.times time ≤ time := by
  have low : -(1 / 10) * (time : ℚ) ≤ factor.value * time :=
    mul_le_mul_of_nonneg_right factor.low (Nat.cast_nonneg time)
  have high : factor.value * time ≤ 1 / 10 * (time : ℚ) :=
    mul_le_mul_of_nonneg_right factor.high (Nat.cast_nonneg time)
  rw [times]
  split
  · rename_i nonneg
    have floorNonneg : 0 ≤ ⌊factor.value * time⌋ := Int.floor_nonneg.mpr nonneg
    have floorLe := Int.floor_le (factor.value * time)
    constructor
    · omega
    · have bound : ((10 * ⌊factor.value * time⌋ : Int) : ℚ) ≤ ((time : Int) : ℚ) := by
        push_cast
        linarith
      exact_mod_cast bound
  · rename_i negative
    have ceilNonpos : ⌈factor.value * time⌉ ≤ 0 :=
      Int.ceil_le.mpr (le_of_lt (lt_of_not_ge (by simpa using negative)))
    have leCeil := Int.le_ceil (factor.value * time)
    constructor
    · have bound : ((-(time : Int) : Int) : ℚ) ≤ ((10 * ⌈factor.value * time⌉ : Int) : ℚ) := by
        push_cast
        linarith
      exact_mod_cast bound
    · omega

end RandomFactor

/-- The factors that one call draws: for the timeout, and for the one that replaces it. -/
structure Draws where
  rand : RandomFactor
  replacing : RandomFactor

/-- `PANA_SessionTimerInterface`, as far as retransmission goes. -/
structure RetryTimer where
  timeout : Nat
  duration : Nat
  count : Nat
  deriving DecidableEq, Repr

/-- The sum of an `unsigned int` and an `int`. -/
def addInt (time : Nat) (change : Int) : Nat := ((time + change) % 2 ^ 32).toNat

theorem addInt_eq {time : Nat} {change : Int} (nonneg : 0 ≤ time + change)
    (small : time + change < 2 ^ 32) : (addInt time change : Int) = time + change := by
  rw [addInt, Int.emod_eq_of_lt nonneg small, Int.toNat_of_nonneg nonneg]

namespace RetransmissionParam

variable (rt : RetransmissionParam)

/-- `newRt` after it was compared with the upper bound. -/
def replaced (newRt : Nat) (draws : Draws) : Nat :=
  if newRt > rt.mrt.toNat then addInt rt.mrt.toNat (draws.replacing.times rt.mrt.toNat)
  else newRt

def scheduleTxRetry (draws : Draws) : RetryTimer :=
  let newRt := addInt rt.irt.toNat (draws.rand.times rt.irt.toNat)
  let newRt := rt.replaced newRt draws
  { timeout := newRt, duration := newRt, count := 1 }

/-- The timer as it is armed again, unless the exchange is given up. -/
def reScheduleTxRetry (timer : RetryTimer) (draws : Draws) : Option RetryTimer :=
  let newRt := addInt (2 * timer.timeout % 2 ^ 32) (draws.rand.times timer.timeout)
  let newRt := rt.replaced newRt draws
  if rt.mrc.toNat > 0 ∧ timer.count ≥ rt.mrc.toNat then none
  else if rt.mrd.toNat > 0 ∧ (timer.duration + newRt) % 2 ^ 32 > rt.mrd.toNat then none
  else some {
    timeout := newRt
    duration := (timer.duration + newRt) % 2 ^ 32
    count := (timer.count + 1) % 2 ^ 32 }

end RetransmissionParam

/-- A transmission of the request, with the seconds since the first one, and the timer then
armed. -/
structure Transmission where
  time : Nat
  delay : Nat
  draws : Draws

/-- A request that is sent until it is answered. -/
structure RequestExchange where
  timer : RetryTimer
  /-- From the last on. -/
  sent : List Transmission
  /-- When the armed timer expires. -/
  expiry : Nat
  /-- The unsigned expressions that were computed, without a bound. -/
  computed : List Int

namespace RetransmissionParam

variable (rt : RetransmissionParam)

/-- The first timeout, before it is compared with the upper bound. -/
def firstRt (draws : Draws) : Int := rt.irt.toNat + draws.rand.times rt.irt.toNat

/-- The timeout after one of so many seconds. -/
def nextRt (timeout : Nat) (draws : Draws) : Int :=
  2 * timeout + draws.rand.times timeout

/-- What a timeout above `MRT` is replaced by. -/
def maxRt (draws : Draws) : Int := rt.mrt.toNat + draws.replacing.times rt.mrt.toNat

/-- A timeout that is replaced above `MRT`, zero or not. -/
def taken (newRt : Int) (draws : Draws) : Int :=
  if newRt > rt.mrt.toNat then rt.maxRt draws else newRt

/-- The rule for the upper bound, where zero means that there is none. -/
def ruleRt (newRt : Int) (draws : Draws) : Int :=
  if rt.mrt.toNat ≠ 0 ∧ newRt > rt.mrt.toNat then rt.maxRt draws else newRt

def GivesUpCounting (timer : RetryTimer) : Prop :=
  rt.mrc.toNat > 0 ∧ timer.count ≥ rt.mrc.toNat

instance (timer : RetryTimer) : Decidable (rt.GivesUpCounting timer) :=
  inferInstanceAs (Decidable (_ ∧ _))

/-- The unsigned expressions of `ScheduleTxRetry`. -/
def firstExpressions (draws : Draws) : List Int :=
  rt.firstRt draws ::
    if (addInt rt.irt.toNat (draws.rand.times rt.irt.toNat)) > rt.mrt.toNat then
      [rt.maxRt draws]
    else []

/-- The unsigned expressions of `ReScheduleTxRetry`. -/
def nextExpressions (timer : RetryTimer) (draws : Draws) : List Int :=
  let newRt := addInt (2 * timer.timeout % 2 ^ 32) (draws.rand.times timer.timeout)
  [2 * (timer.timeout : Int), nextRt timer.timeout draws] ++
    (if newRt > rt.mrt.toNat then [rt.maxRt draws] else []) ++
    (if rt.GivesUpCounting timer then [] else [timer.duration + (rt.replaced newRt draws : Int)]) ++
    (if (rt.reScheduleTxRetry timer draws).isSome then [(timer.count : Int) + 1] else [])

/-- `SendReqMsg` -/
def sendReqMsg (draws : Draws) : RequestExchange :=
  let timer := rt.scheduleTxRetry draws
  { timer
    sent := [⟨0, timer.timeout, draws⟩]
    expiry := timer.timeout
    computed := rt.firstExpressions draws }

/-- `TxLastReqMsg`, when the timer has expired. -/
def txLastReqMsg (draws : Draws) (exchange : RequestExchange) : RequestExchange :=
  let computed := rt.nextExpressions exchange.timer draws ++ exchange.computed
  match rt.reScheduleTxRetry exchange.timer draws with
  | none => { exchange with computed }
  | some timer =>
    { timer
      sent := ⟨exchange.expiry, timer.timeout, draws⟩ :: exchange.sent
      expiry := exchange.expiry + timer.timeout
      computed }

/-- The delays of the transmissions, from the last on, are those of the rules. -/
def ByRules : List Transmission → Prop
  | [] => True
  | [first] => (first.delay : Int) = rt.ruleRt (rt.firstRt first.draws) first.draws
  | transmission :: before :: rest =>
    (transmission.delay : Int) =
        rt.ruleRt (nextRt before.delay transmission.draws) transmission.draws ∧
      ByRules (before :: rest)

/-- What the rules say of an exchange. -/
structure Follows (exchange : RequestExchange) : Prop where
  delays : rt.ByRules exchange.sent
  counted : rt.mrc.toNat ≠ 0 → exchange.sent.length ≤ rt.mrc.toNat
  lasting : rt.mrd.toNat ≠ 0 → ∀ transmission ∈ exchange.sent, transmission.time ≤ rt.mrd.toNat
  exact : ∀ value ∈ exchange.computed, 0 ≤ value ∧ value < 2 ^ 32

/-- The first timeout fits, and is not bounded by an `MRT` of zero. -/
structure FirstFits (draws : Draws) : Prop where
  sum : rt.firstRt draws < 2 ^ 32
  replaced : rt.firstRt draws > rt.mrt.toNat → rt.mrt.toNat ≠ 0 ∧ rt.maxRt draws < 2 ^ 32

/-- The timer is armed again. -/
def Arms (draws : Draws) (timer : RetryTimer) : Prop :=
  ¬ rt.GivesUpCounting timer ∧
    (rt.mrd.toNat > 0 →
      timer.duration + rt.taken (nextRt timer.timeout draws) draws ≤ rt.mrd.toNat)

/-- The next timeout and the duration fit. -/
structure NextExact (draws : Draws) (timer : RetryTimer) : Prop where
  double : 2 * timer.timeout < 2 ^ 32
  sum : nextRt timer.timeout draws < 2 ^ 32
  replaced : nextRt timer.timeout draws > rt.mrt.toNat → rt.maxRt draws < 2 ^ 32
  duration : ¬ rt.GivesUpCounting timer →
    timer.duration + rt.taken (nextRt timer.timeout draws) draws < 2 ^ 32

/-- Where the timer is armed again, the count fits too, and the timeout is not bounded by an
`MRT` of zero. -/
structure NextFits (draws : Draws) (timer : RetryTimer) : Prop extends
    rt.NextExact draws timer where
  bounded : rt.Arms draws timer → rt.mrt.toNat = 0 → timer.timeout = 0
  count : rt.Arms draws timer → timer.count + 1 < 2 ^ 32

variable {rt} {draws : Draws} {timer : RetryTimer}

theorem firstRt_nonneg : 0 ≤ rt.firstRt draws := by
  have bounds := draws.rand.times_bounds rt.irt.toNat
  rw [firstRt]
  omega

theorem maxRt_nonneg : 0 ≤ rt.maxRt draws := by
  have bounds := draws.replacing.times_bounds rt.mrt.toNat
  rw [maxRt]
  omega

theorem maxRt_zero (unlimited : rt.mrt.toNat = 0) : rt.maxRt draws = 0 := by
  have bounds := draws.replacing.times_bounds rt.mrt.toNat
  rw [maxRt]
  omega

theorem nextRt_bounds (timeout : Nat) : 19 * timeout ≤ 10 * nextRt timeout draws := by
  have bounds := draws.rand.times_bounds timeout
  rw [nextRt]
  omega

theorem nextRt_nonneg (timeout : Nat) : 0 ≤ nextRt timeout draws := by
  have bounds := @nextRt_bounds draws timeout
  omega

theorem taken_nonneg {newRt : Int} (nonneg : 0 ≤ newRt) : 0 ≤ rt.taken newRt draws := by
  rw [taken]
  split
  · exact maxRt_nonneg
  · exact nonneg

/-- The bound of the code is the rule's just where an `MRT` of zero bounds nothing. -/
theorem taken_eq_ruleRt_iff {newRt : Int} :
    rt.taken newRt draws = rt.ruleRt newRt draws ↔ (newRt > rt.mrt.toNat → rt.mrt.toNat ≠ 0) := by
  rw [taken, ruleRt]
  by_cases above : newRt > rt.mrt.toNat
  · rw [if_pos above]
    by_cases unlimited : rt.mrt.toNat = 0
    · rw [if_neg fun limited => limited.1 unlimited, maxRt_zero unlimited]
      constructor
      · intro same
        omega
      · intro limited
        exact absurd unlimited (limited above)
    · rw [if_pos ⟨unlimited, above⟩]
      exact iff_of_true rfl fun _ => unlimited
  · rw [if_neg above, if_neg fun limited => above limited.2]
    exact iff_of_true rfl fun isAbove => absurd isAbove above

theorem replaced_eq {newRt : Nat} {value : Int} (same : (newRt : Int) = value)
    (fits : value > rt.mrt.toNat → rt.maxRt draws < 2 ^ 32) :
    (rt.replaced newRt draws : Int) = rt.taken value draws := by
  subst same
  rw [replaced, taken]
  by_cases above : newRt > rt.mrt.toNat
  · have isAbove : (newRt : Int) > rt.mrt.toNat := Int.ofNat_lt.mpr above
    rw [if_pos above, if_pos isAbove]
    exact addInt_eq maxRt_nonneg (fits isAbove)
  · have isBelow : ¬ (newRt : Int) > rt.mrt.toNat := fun isAbove => above (Int.ofNat_lt.mp isAbove)
    rw [if_neg above, if_neg isBelow]

/-! The first transmission. -/

theorem firstExpressions_exact_iff :
    (∀ value ∈ rt.firstExpressions draws, 0 ≤ value ∧ value < 2 ^ 32) ↔
      rt.firstRt draws < 2 ^ 32 ∧
        (rt.firstRt draws > rt.mrt.toNat → rt.maxRt draws < 2 ^ 32) := by
  rw [firstExpressions, List.forall_mem_cons, and_iff_right (firstRt_nonneg)]
  apply and_congr_right
  intro small
  have same : (addInt rt.irt.toNat (draws.rand.times rt.irt.toNat) : Int) = rt.firstRt draws :=
    addInt_eq firstRt_nonneg small
  by_cases above : addInt rt.irt.toNat (draws.rand.times rt.irt.toNat) > rt.mrt.toNat
  · have isAbove : rt.firstRt draws > rt.mrt.toNat := by omega
    rw [if_pos above, List.forall_mem_singleton, and_iff_right maxRt_nonneg]
    exact ⟨fun fits _ => fits, fun fits => fits isAbove⟩
  · have isBelow : ¬ rt.firstRt draws > rt.mrt.toNat := by omega
    rw [if_neg above]
    exact iff_of_true (fun _ absent => nomatch absent) fun isAbove => absurd isAbove isBelow

theorem scheduleTxRetry_timeout (sum : rt.firstRt draws < 2 ^ 32)
    (fits : rt.firstRt draws > rt.mrt.toNat → rt.maxRt draws < 2 ^ 32) :
    ((rt.scheduleTxRetry draws).timeout : Int) = rt.taken (rt.firstRt draws) draws :=
  replaced_eq (addInt_eq firstRt_nonneg sum) fits

theorem sendReqMsg_follows_iff : rt.Follows (rt.sendReqMsg draws) ↔ rt.FirstFits draws := by
  constructor
  · intro follows
    have ⟨sum, fits⟩ := firstExpressions_exact_iff.mp follows.exact
    have delay : ((rt.scheduleTxRetry draws).timeout : Int) = _ := follows.delays
    rw [scheduleTxRetry_timeout sum fits, taken_eq_ruleRt_iff] at delay
    exact ⟨sum, fun above => ⟨delay above, fits above⟩⟩
  · intro first
    have fits := fun above => (first.replaced above).2
    constructor
    · change ((rt.scheduleTxRetry draws).timeout : Int) = _
      rw [scheduleTxRetry_timeout first.sum fits, taken_eq_ruleRt_iff]
      exact fun above => (first.replaced above).1
    · intro limited
      exact Nat.pos_of_ne_zero limited
    · intro _ transmission listed
      rw [List.mem_singleton.mp listed]
      exact Nat.zero_le _
    · exact firstExpressions_exact_iff.mpr ⟨first.sum, fits⟩

/-! The transmissions after it. -/

/-- `newRt` before it is compared with the upper bound. -/
theorem newRt_eq (double : 2 * timer.timeout < 2 ^ 32)
    (sum : nextRt timer.timeout draws < 2 ^ 32) :
    (addInt (2 * timer.timeout % 2 ^ 32) (draws.rand.times timer.timeout) : Int) =
      nextRt timer.timeout draws := by
  rw [Nat.mod_eq_of_lt double]
  have same : ((2 * timer.timeout : Nat) : Int) + draws.rand.times timer.timeout =
      nextRt timer.timeout draws := by
    rw [nextRt]
    push_cast
    rfl
  rw [← same]
  apply addInt_eq
  · rw [same]
    exact nextRt_nonneg _
  · rw [same]
    exact sum

theorem NextExact.replaced_eq (exact : rt.NextExact draws timer) :
    (rt.replaced (addInt (2 * timer.timeout % 2 ^ 32) (draws.rand.times timer.timeout)) draws
      : Int) = rt.taken (nextRt timer.timeout draws) draws :=
  RetransmissionParam.replaced_eq (newRt_eq exact.double exact.sum) exact.replaced

/-- The timer after it was armed again, where nothing exceeds an `unsigned int`. -/
theorem NextExact.reScheduleTxRetry (exact : rt.NextExact draws timer) :
    (rt.Arms draws timer → ∃ next, rt.reScheduleTxRetry timer draws = some next ∧
      (next.timeout : Int) = rt.taken (nextRt timer.timeout draws) draws ∧
      next.duration = timer.duration + next.timeout ∧
      next.count = (timer.count + 1) % 2 ^ 32) ∧
    (¬ rt.Arms draws timer → rt.reScheduleTxRetry timer draws = none) := by
  have same := exact.replaced_eq
  unfold RetransmissionParam.reScheduleTxRetry
  dsimp only
  by_cases counting : rt.mrc.toNat > 0 ∧ timer.count ≥ rt.mrc.toNat
  · rw [if_pos counting]
    exact ⟨fun arms => absurd counting arms.1, fun _ => rfl⟩
  · rw [if_neg counting]
    have fits := exact.duration counting
    generalize rt.replaced _ draws = newRt at same ⊢
    have small : timer.duration + newRt < 2 ^ 32 := by omega
    rw [Nat.mod_eq_of_lt small]
    by_cases late : rt.mrd.toNat > 0 ∧ timer.duration + newRt > rt.mrd.toNat
    · rw [if_pos late]
      refine ⟨fun arms => ?_, fun _ => rfl⟩
      have inTime := arms.2 late.1
      omega
    · rw [if_neg late]
      refine ⟨fun _ => ⟨_, rfl, same, rfl, rfl⟩, fun rests => absurd ⟨counting, ?_⟩ rests⟩
      intro limited
      omega

theorem forall_mem_then {P : Int → Prop} {value : Int} (p : Prop) [Decidable p] :
    (∀ other ∈ (if p then [value] else []), P other) ↔ (p → P value) := by
  by_cases holds : p <;> simp [holds]

theorem forall_mem_else {P : Int → Prop} {value : Int} (p : Prop) [Decidable p] :
    (∀ other ∈ (if p then [] else [value]), P other) ↔ (¬ p → P value) := by
  by_cases holds : p <;> simp [holds]

/-- The expressions are computed without a wrap just where the timeout, the duration and the
count fit. -/
theorem nextExpressions_exact_iff :
    (∀ value ∈ rt.nextExpressions timer draws, 0 ≤ value ∧ value < 2 ^ 32) ↔
      rt.NextExact draws timer ∧ (rt.Arms draws timer → timer.count + 1 < 2 ^ 32) := by
  unfold nextExpressions
  dsimp only
  rw [List.forall_mem_append, List.forall_mem_append, List.forall_mem_append,
    List.forall_mem_cons, List.forall_mem_singleton, forall_mem_then, forall_mem_else,
    forall_mem_then]
  have nonneg := @nextRt_nonneg draws timer.timeout
  constructor
  · intro ⟨⟨⟨⟨⟨_, double⟩, ⟨_, sum⟩⟩, above⟩, duration⟩, count⟩
    have double : 2 * timer.timeout < 2 ^ 32 := by omega
    have newRt := newRt_eq double sum
    have exact : rt.NextExact draws timer := by
      have fits : nextRt timer.timeout draws > rt.mrt.toNat → rt.maxRt draws < 2 ^ 32 :=
        fun isAbove => (above (by omega)).2
      refine ⟨double, sum, fits, fun counting => ?_⟩
      rw [← RetransmissionParam.replaced_eq newRt fits]
      exact (duration counting).2
    refine ⟨exact, fun arms => ?_⟩
    obtain ⟨next, isNext, _⟩ := exact.reScheduleTxRetry.1 arms
    have small := (count (isNext ▸ rfl)).2
    omega
  · intro ⟨exact, count⟩
    have newRt := newRt_eq exact.double exact.sum
    have same := exact.replaced_eq
    refine ⟨⟨⟨⟨⟨by omega, ?_⟩, nonneg, exact.sum⟩, ?_⟩, ?_⟩, ?_⟩
    · have double := exact.double
      omega
    · exact fun above => ⟨maxRt_nonneg, exact.replaced (by omega)⟩
    · intro counting
      have fits := exact.duration counting
      rw [same]
      have takenNonneg := @taken_nonneg rt draws _ nonneg
      omega
    · intro isSome
      have arms : rt.Arms draws timer := by
        by_contra rests
        rw [exact.reScheduleTxRetry.2 rests] at isSome
        cases isSome
      have small := count arms
      omega

/-- An exchange that follows the rules, with the timer that counts it. -/
structure Kept (rt : RetransmissionParam) (exchange : RequestExchange) : Prop where
  follows : rt.Follows exchange
  elapsed : exchange.timer.duration = exchange.expiry
  count : exchange.timer.count = exchange.sent.length
  last : ∃ last rest, exchange.sent = last :: rest ∧ last.delay = exchange.timer.timeout

variable {exchange : RequestExchange}

theorem sendReqMsg_kept (first : rt.FirstFits draws) : rt.Kept (rt.sendReqMsg draws) where
  follows := sendReqMsg_follows_iff.mpr first
  elapsed := rfl
  count := rfl
  last := ⟨_, [], rfl, rfl⟩

/-- Where the timer is not armed again, only the expressions computed are new. -/
theorem txLastReqMsg_none (isNone : rt.reScheduleTxRetry exchange.timer draws = none) :
    rt.txLastReqMsg draws exchange = { exchange with
      computed := rt.nextExpressions exchange.timer draws ++ exchange.computed } := by
  rw [txLastReqMsg, isNone]

theorem txLastReqMsg_some {next : RetryTimer}
    (isSome : rt.reScheduleTxRetry exchange.timer draws = some next) :
    rt.txLastReqMsg draws exchange = {
      timer := next
      sent := ⟨exchange.expiry, next.timeout, draws⟩ :: exchange.sent
      expiry := exchange.expiry + next.timeout
      computed := rt.nextExpressions exchange.timer draws ++ exchange.computed } := by
  rw [txLastReqMsg, isSome]

theorem txLastReqMsg_computed (draws : Draws) (exchange : RequestExchange) :
    (rt.txLastReqMsg draws exchange).computed =
      rt.nextExpressions exchange.timer draws ++ exchange.computed := by
  unfold txLastReqMsg
  dsimp only
  split <;> rfl

/-- The delay that is armed is the rule's just where an `MRT` of zero bounds nothing. -/
theorem Kept.byRules_iff (kept : rt.Kept exchange) {next : RetryTimer}
    (timeout : (next.timeout : Int) = rt.taken (nextRt exchange.timer.timeout draws) draws) :
    rt.ByRules (⟨exchange.expiry, next.timeout, draws⟩ :: exchange.sent) ↔
      (rt.mrt.toNat = 0 → exchange.timer.timeout = 0) := by
  obtain ⟨last, rest, sent, delay⟩ := kept.last
  have rules := kept.follows.delays
  rw [sent] at rules ⊢
  change _ ∧ rt.ByRules (last :: rest) ↔ _
  rw [and_iff_left rules, delay]
  dsimp only
  rw [timeout, taken_eq_ruleRt_iff]
  have bounds := @nextRt_bounds draws exchange.timer.timeout
  constructor
  · intro limited unlimited
    by_contra positive
    exact limited (by omega) unlimited
  · intro zero above unlimited
    have none := zero unlimited
    have bounds := draws.rand.times_bounds exchange.timer.timeout
    rw [nextRt] at above
    omega

theorem Kept.follows_iff (kept : rt.Kept exchange) (draws : Draws) :
    rt.Follows (rt.txLastReqMsg draws exchange) ↔ rt.NextFits draws exchange.timer := by
  constructor
  · intro follows
    have all := follows.exact
    rw [txLastReqMsg_computed, List.forall_mem_append] at all
    have ⟨exact, count⟩ := nextExpressions_exact_iff.mp all.1
    refine ⟨exact, fun arms => ?_, count⟩
    obtain ⟨next, isSome, timeout, _⟩ := exact.reScheduleTxRetry.1 arms
    rw [txLastReqMsg_some isSome] at follows
    exact (kept.byRules_iff timeout).mp follows.delays
  · intro fits
    have exact := fits.toNextExact
    have expressions := nextExpressions_exact_iff.mpr ⟨exact, fits.count⟩
    have all : ∀ value ∈ rt.nextExpressions exchange.timer draws ++ exchange.computed,
        0 ≤ value ∧ value < 2 ^ 32 :=
      List.forall_mem_append.mpr ⟨expressions, kept.follows.exact⟩
    by_cases arms : rt.Arms draws exchange.timer
    · obtain ⟨next, isSome, timeout, duration, count⟩ := exact.reScheduleTxRetry.1 arms
      rw [txLastReqMsg_some isSome]
      refine ⟨(kept.byRules_iff timeout).mpr (fits.bounded arms), ?_, ?_, all⟩
      · intro limited
        have counting := arms.1
        rw [GivesUpCounting, kept.count] at counting
        change exchange.sent.length + 1 ≤ _
        omega
      · intro limited
        have inTime := arms.2 (Nat.pos_of_ne_zero limited)
        rw [← timeout, kept.elapsed] at inTime
        intro transmission listed
        cases List.mem_cons.mp listed with
        | inl isNew =>
          rw [isNew]
          change exchange.expiry ≤ _
          omega
        | inr isOld => exact kept.follows.lasting limited transmission isOld
    · rw [txLastReqMsg_none (exact.reScheduleTxRetry.2 arms)]
      exact ⟨kept.follows.delays, kept.follows.counted, kept.follows.lasting, all⟩

theorem Kept.txLastReqMsg (kept : rt.Kept exchange) (fits : rt.NextFits draws exchange.timer) :
    rt.Kept (rt.txLastReqMsg draws exchange) := by
  have follows := (kept.follows_iff draws).mpr fits
  by_cases arms : rt.Arms draws exchange.timer
  · obtain ⟨next, isSome, timeout, duration, count⟩ := fits.toNextExact.reScheduleTxRetry.1 arms
    rw [txLastReqMsg_some isSome] at follows ⊢
    refine ⟨follows, ?_, ?_, ⟨_, _, rfl, rfl⟩⟩
    · change next.duration = exchange.expiry + next.timeout
      rw [duration, kept.elapsed]
    · change next.count = exchange.sent.length + 1
      rw [count, Nat.mod_eq_of_lt (fits.count arms), kept.count]
  · rw [txLastReqMsg_none (fits.toNextExact.reScheduleTxRetry.2 arms)] at follows ⊢
    exact ⟨follows, kept.elapsed, kept.count, kept.last⟩

end RetransmissionParam

/-- The exchange after the first transmission and so many expiries of its timer. -/
def RetransmissionParam.run (rt : RetransmissionParam) (first : Draws) (draws : List Draws) :
    RequestExchange :=
  draws.foldl (fun exchange draws => rt.txLastReqMsg draws exchange) (rt.sendReqMsg first)

/-- A request is sent by the rules throughout an exchange exactly when the first timeout fits, and
at each expiry the next one does. -/
theorem RetransmissionParam.run_follows_iff (rt : RetransmissionParam) (first : Draws)
    (draws : List Draws) :
    (∀ before after, draws = before ++ after → rt.Follows (rt.run first before)) ↔
      rt.FirstFits first ∧ ∀ before next after, draws = before ++ next :: after →
        rt.NextFits next (rt.run first before).timer := by
  have later (fits : rt.FirstFits first) :=
    @run_good_iff _ _ rt.txLastReqMsg rt.Kept rt.Follows
      (fun draws exchange => rt.NextFits draws exchange.timer) (fun _ kept => kept.follows)
      (fun draws _ kept => kept.follows_iff draws) (fun _ _ kept => kept.txLastReqMsg)
      (rt.sendReqMsg first) (RetransmissionParam.sendReqMsg_kept fits) draws
  constructor
  · intro follows
    have fits := RetransmissionParam.sendReqMsg_follows_iff.mp (follows [] draws rfl)
    exact ⟨fits, (later fits).mp follows⟩
  · intro ⟨fits, nexts⟩
    exact (later fits).mpr nexts

/-- A random factor of zero. -/
def RandomFactor.zero : RandomFactor := ⟨0, by norm_num, by norm_num⟩

/-- With an `MRT` of zero, which should mean no limit, the timer of a first timeout of four
seconds is armed with none at all. -/
theorem unlimited_timeout_collapses :
    (RetransmissionParam.run ⟨4, 0, 0, 0⟩ ⟨.zero, .zero⟩ []).timer.timeout = 0 ∧
      ¬ RetransmissionParam.Follows ⟨4, 0, 0, 0⟩
        (RetransmissionParam.run ⟨4, 0, 0, 0⟩ ⟨.zero, .zero⟩ []) := by
  have none : ∀ time, RandomFactor.zero.times time = 0 := by
    intro time
    simp [RandomFactor.times, RandomFactor.zero]
  constructor
  · change RetransmissionParam.replaced _ _ _ = 0
    simp [RetransmissionParam.replaced, none, addInt]
  · intro follows
    have fits := RetransmissionParam.sendReqMsg_follows_iff.mp follows
    have limited := fits.replaced
    simp [RetransmissionParam.firstRt, none] at limited

end OpenDiameter.Pana
