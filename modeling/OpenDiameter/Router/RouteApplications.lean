import Mathlib.Data.Int.Order.Basic
import OpenDiameter.Foundation.Histories
import OpenDiameter.Foundation.OrderedMap

/-!
The applications of a route: `DiameterRouteEntry` keeps them by vendor id and then by
application id, in the order of these ids.
-/

namespace OpenDiameter.Router

open OpenDiameter.Foundation

/-- A `DiameterRouteApplication` and the number of the object. -/
structure StoredApplication where
  object : Nat
  applicationId : Int
  vendorId : Int
deriving DecidableEq, Repr

/-- `DiameterRouteAppIdMap` -/
abbrev RouteAppIdMap := OrderedMap Int StoredApplication

/-- `m_Identifiers` of a `DiameterRouteEntry`. -/
abbrev RouteIdentifiers := OrderedMap Int RouteAppIdMap

inductive RouteAppsUpdate where
  /-- A new application is added. -/
  | add (applicationId vendorId : Int)
  | remove (applicationId vendorId : Int)

namespace RouteIdentifiers

/-- What `Remove` leaves of the map of a vendor. -/
def removeFrom (appId : Int) (id : RouteAppIdMap) : Option RouteAppIdMap :=
  match OrderedMap.get id appId with
  | none => some id
  | some _ =>
    let id := OrderedMap.alter appId (fun _ => none) id
    if id.isEmpty then none else some id

/-- `Remove` -/
def remove (identifiers : RouteIdentifiers) (appId vendorId : Int) : RouteIdentifiers :=
  OrderedMap.alter vendorId (fun found => found.bind (removeFrom appId)) identifiers

/-- `insert`, which leaves an application that is there. -/
def insertInto (app : StoredApplication) (id : RouteAppIdMap) : RouteAppIdMap :=
  OrderedMap.alter app.applicationId (fun found => found.or (some app)) id

/-- `Add`, where the ids are given to `Remove` the other way round. -/
def add (identifiers : RouteIdentifiers) (app : StoredApplication) : RouteIdentifiers :=
  OrderedMap.alter app.vendorId (fun found => some (insertInto app (found.getD [])))
    (remove identifiers app.vendorId app.applicationId)

/-- `Lookup` -/
def lookup (identifiers : RouteIdentifiers) (appId vendorId : Int) : Option StoredApplication :=
  (OrderedMap.get identifiers vendorId).bind fun id => OrderedMap.get id appId

/-- `First` -/
def first (identifiers : RouteIdentifiers) : Option StoredApplication :=
  identifiers.head?.bind fun x => x.2.head?.map Prod.snd

/-- What comes after the first application in the maps of the vendors. -/
def nextVendors : RouteIdentifiers → Option StoredApplication
  | [] => none
  | x :: rest => (x.2.tail.head?.map Prod.snd).or (nextVendors rest)

/-- `Next` of an application that is stored. -/
def next (identifiers : RouteIdentifiers) (app : StoredApplication) : Option StoredApplication :=
  match identifiers.dropWhile fun x => x.1 != app.vendorId with
  | [] => none
  | x :: rest =>
    ((x.2.dropWhile fun y => y.1 != app.applicationId).tail.head?.map Prod.snd).or
      (nextVendors rest)

def enumerateFrom (identifiers : RouteIdentifiers) : Nat → StoredApplication →
    List StoredApplication
  | 0, _ => []
  | fuel + 1, app =>
    app ::
      match next identifiers app with
      | none => []
      | some following => enumerateFrom identifiers fuel following

/-- What `First` and then `Next` give, up to a number of applications. -/
def enumerate (identifiers : RouteIdentifiers) (fuel : Nat) : List StoredApplication :=
  match first identifiers with
  | none => []
  | some app => enumerateFrom identifiers fuel app

/-- All applications, vendor by vendor. -/
def applications (identifiers : RouteIdentifiers) : List StoredApplication :=
  identifiers.flatMap fun x => x.2.map Prod.snd

end RouteIdentifiers

/-! A route entry beside what it should have under each pair of ids. -/

structure RouteApps where
  identifiers : RouteIdentifiers
  /-- The applications constructed so far. -/
  constructed : Nat
  /-- What was added last under a pair of an application and a vendor id, and not removed. -/
  added : Int → Int → Option StoredApplication

namespace RouteApps

open RouteIdentifiers

def empty : RouteApps where
  identifiers := []
  constructed := 0
  added := fun _ _ => none

/-- One pair of ids is given something else. -/
def assign (added : Int → Int → Option StoredApplication) (appId vendorId : Int)
    (app : Option StoredApplication) : Int → Int → Option StoredApplication :=
  fun otherApp otherVendor =>
    if otherApp = appId ∧ otherVendor = vendorId then app else added otherApp otherVendor

def update (apps : RouteApps) : RouteAppsUpdate → RouteApps
  | .add appId vendorId =>
    let app : StoredApplication := ⟨apps.constructed, appId, vendorId⟩
    { identifiers := add apps.identifiers app
      constructed := apps.constructed + 1
      added := assign apps.added appId vendorId (some app) }
  | .remove appId vendorId =>
    { apps with
      identifiers := remove apps.identifiers appId vendorId
      added := assign apps.added appId vendorId none }

/-- The calls of `Add` and `Remove` on a route entry. -/
def calls : Component RouteApps RouteAppsUpdate Unit :=
  fun apps call => some ((), apps.update call)

/-- `Lookup` finds what was added, and `First` and `Next` give each application once. -/
structure Faithful (apps : RouteApps) : Prop where
  lookup : ∀ appId vendorId,
    RouteIdentifiers.lookup apps.identifiers appId vendorId = apps.added appId vendorId
  enumerates : ∀ fuel, (applications apps.identifiers).length ≤ fuel →
    (enumerate apps.identifiers fuel).Perm (applications apps.identifiers)

/-- An application is added under two equal ids, or under a pair where neither it nor the pair
the other way round has an application; and no other vendor has one. -/
def Fits (apps : RouteApps) : RouteAppsUpdate → Prop
  | .add appId vendorId =>
    (appId = vendorId ∨
      RouteIdentifiers.lookup apps.identifiers appId vendorId = none ∧
        RouteIdentifiers.lookup apps.identifiers vendorId appId = none) ∧
      ∀ x ∈ apps.identifiers, x.1 = vendorId
  | .remove _ _ => True

end RouteApps

/-! What `Add` and `Remove` do to the lookups. -/

namespace RouteIdentifiers

/-- The maps are in order and not empty, and every application is where its ids say. -/
structure Kept (identifiers : RouteIdentifiers) : Prop where
  vendors : Ascending Prod.fst identifiers
  apps : ∀ x ∈ identifiers, Ascending Prod.fst x.2
  inhabited : ∀ x ∈ identifiers, x.2 ≠ []
  placed : ∀ x ∈ identifiers, ∀ y ∈ x.2, y.2.applicationId = y.1 ∧ y.2.vendorId = x.1

variable {identifiers : RouteIdentifiers} {id : RouteAppIdMap} {app : StoredApplication}
  {appId vendorId otherApp otherVendor : Int}

theorem kept_empty : Kept [] where
  vendors := .nil
  apps := fun _ isIn => nomatch isIn
  inhabited := fun _ isIn => nomatch isIn
  placed := fun _ isIn => nomatch isIn

theorem get_removeFrom (ascending : Ascending Prod.fst id) :
    (removeFrom appId id).bind (fun id => OrderedMap.get id otherApp) =
      if otherApp = appId then none else OrderedMap.get id otherApp := by
  rw [removeFrom]
  split
  · rename_i absent
    split
    · rename_i same
      rw [same]
      exact absent
    · rfl
  · have left : OrderedMap.get (OrderedMap.alter appId (fun _ => none) id) otherApp =
        if otherApp = appId then none else OrderedMap.get id otherApp :=
      OrderedMap.get_alter ascending
    rw [← left]
    dsimp only
    split
    · rename_i isEmpty
      rw [List.isEmpty_iff.1 isEmpty]
      rfl
    · rfl

theorem lookup_remove (kept : Kept identifiers) :
    lookup (remove identifiers appId vendorId) otherApp otherVendor =
      if otherApp = appId ∧ otherVendor = vendorId then none
      else lookup identifiers otherApp otherVendor := by
  rw [lookup, remove, OrderedMap.get_alter kept.vendors]
  by_cases same : otherVendor = vendorId
  · subst same
    rw [if_pos rfl, lookup]
    cases found : OrderedMap.get identifiers otherVendor with
    | none => simp
    | some id =>
      have ascending := kept.apps _ (OrderedMap.mem_of_get found)
      rw [Option.bind_some, get_removeFrom ascending, Option.bind_some]
      simp only [and_true]
  · rw [if_neg same, if_neg fun both => same both.2, lookup]

theorem get_insertInto (ascending : Ascending Prod.fst id) :
    OrderedMap.get (insertInto app id) otherApp =
      if otherApp = app.applicationId then (OrderedMap.get id app.applicationId).or (some app)
      else OrderedMap.get id otherApp :=
  OrderedMap.get_alter ascending

variable {left : RouteAppIdMap}

/-- What is left is the map as it was, or the rest of it when there is one. -/
theorem removeFrom_eq_some (isLeft : removeFrom appId id = some left) :
    left = id ∨ left = OrderedMap.alter appId (fun _ => none) id ∧ left ≠ [] := by
  rw [removeFrom] at isLeft
  split at isLeft
  · exact .inl (Option.some.inj isLeft).symm
  · dsimp only at isLeft
    split at isLeft
    · exact nomatch isLeft
    · rename_i someLeft
      rw [← Option.some.inj isLeft]
      exact .inr ⟨rfl, fun noneLeft => someLeft (List.isEmpty_iff.2 noneLeft)⟩

variable {y : Int × StoredApplication}

theorem mem_removeFrom (isLeft : removeFrom appId id = some left) (isIn : y ∈ left) : y ∈ id := by
  rcases removeFrom_eq_some isLeft with same | ⟨rest, -⟩
  · exact same ▸ isIn
  · rw [rest] at isIn
    rcases OrderedMap.mem_alter isIn with ⟨-, old, isNew, -⟩ | isIn
    · exact nomatch isNew
    · exact isIn

theorem removeFrom_ascending (ascending : Ascending Prod.fst id)
    (isLeft : removeFrom appId id = some left) : Ascending Prod.fst left := by
  rcases removeFrom_eq_some isLeft with same | ⟨rest, -⟩
  · exact same ▸ ascending
  · exact rest ▸ OrderedMap.ascending_alter ascending

theorem removeFrom_inhabited (inhabited : id ≠ []) (isLeft : removeFrom appId id = some left) :
    left ≠ [] := by
  rcases removeFrom_eq_some isLeft with same | ⟨-, someLeft⟩
  · exact same ▸ inhabited
  · exact someLeft

theorem mem_remove {x : Int × RouteAppIdMap} (isIn : x ∈ remove identifiers appId vendorId) :
    (∃ id, (x.1, id) ∈ identifiers ∧ removeFrom appId id = some x.2) ∨ x ∈ identifiers := by
  rcases OrderedMap.mem_alter isIn with ⟨isKey, old, isNew, isOld⟩ | isIn
  · obtain ⟨id, isSome, isLeft⟩ := Option.bind_eq_some_iff.1 isNew
    exact .inl ⟨id, isKey ▸ isOld id isSome, isLeft⟩
  · exact .inr isIn

theorem Kept.remove (kept : Kept identifiers) (appId vendorId : Int) :
    Kept (remove identifiers appId vendorId) where
  vendors := OrderedMap.ascending_alter kept.vendors
  apps := fun x isIn => by
    rcases mem_remove isIn with ⟨id, isOld, isLeft⟩ | isOld
    · exact removeFrom_ascending (kept.apps _ isOld) isLeft
    · exact kept.apps x isOld
  inhabited := fun x isIn => by
    rcases mem_remove isIn with ⟨id, isOld, isLeft⟩ | isOld
    · exact removeFrom_inhabited (kept.inhabited _ isOld) isLeft
    · exact kept.inhabited x isOld
  placed := fun x isIn y isApp => by
    rcases mem_remove isIn with ⟨id, isOld, isLeft⟩ | isOld
    · exact kept.placed _ isOld y (mem_removeFrom isLeft isApp)
    · exact kept.placed x isOld y isApp

/-- The map of a vendor that an application is inserted into. -/
theorem ascending_found {found : Option RouteAppIdMap} (ascending : ∀ id, found = some id →
    Ascending Prod.fst id) : Ascending Prod.fst (found.getD []) := by
  cases found with
  | none => exact .nil
  | some id => exact ascending id rfl

theorem Kept.ascending_get (kept : Kept identifiers) (vendorId : Int) :
    Ascending Prod.fst ((OrderedMap.get identifiers vendorId).getD []) :=
  ascending_found fun _ found => kept.apps _ (OrderedMap.mem_of_get found)

theorem lookup_insert (kept : Kept identifiers) :
    lookup (OrderedMap.alter app.vendorId (fun found => some (insertInto app (found.getD [])))
        identifiers) otherApp otherVendor =
      if otherApp = app.applicationId ∧ otherVendor = app.vendorId then
        (lookup identifiers app.applicationId app.vendorId).or (some app)
      else lookup identifiers otherApp otherVendor := by
  have getD (found : Option RouteAppIdMap) (appId : Int) :
      OrderedMap.get (found.getD []) appId = found.bind fun id => OrderedMap.get id appId := by
    cases found with
    | none => rfl
    | some id => rfl
  rw [lookup, OrderedMap.get_alter kept.vendors]
  by_cases same : otherVendor = app.vendorId
  · rw [if_pos same, Option.bind_some, get_insertInto (kept.ascending_get _), getD, getD, lookup,
      lookup, same]
    simp only [and_true]
  · rw [if_neg same, if_neg fun both => same both.2, lookup]

theorem mem_insertInto (isIn : y ∈ insertInto app id) :
    y = (app.applicationId, app) ∨ y ∈ id := by
  rcases OrderedMap.mem_alter isIn with ⟨isKey, old, isNew, isOld⟩ | isIn
  · cases old with
    | none =>
      rw [Option.none_or] at isNew
      exact .inl (Prod.ext isKey (Option.some.inj isNew).symm)
    | some old =>
      rw [Option.some_or] at isNew
      have isPair : y = (app.applicationId, old) :=
        Prod.ext isKey (Option.some.inj isNew).symm
      rw [isPair]
      exact .inr (isOld old rfl)
  · exact .inr isIn

theorem insertInto_inhabited : insertInto app id ≠ [] := by
  cases id with
  | nil => rintro ⟨⟩
  | cons first id =>
    rw [insertInto, OrderedMap.alter]
    split
    · rintro ⟨⟩
    · split
      · rintro ⟨⟩
      · rintro ⟨⟩

theorem mem_add {x : Int × RouteAppIdMap} (isIn : x ∈ add identifiers app) :
    (x.1 = app.vendorId ∧ ∃ id, x.2 = insertInto app id ∧
      (id = [] ∨ (x.1, id) ∈ remove identifiers app.vendorId app.applicationId)) ∨
      x ∈ remove identifiers app.vendorId app.applicationId := by
  rcases OrderedMap.mem_alter isIn with ⟨isKey, old, isNew, isOld⟩ | isIn
  · refine .inl ⟨isKey, old.getD [], (Option.some.inj isNew).symm, ?_⟩
    cases old with
    | none => exact .inl rfl
    | some id => exact .inr (isKey ▸ isOld id rfl)
  · exact .inr isIn

theorem Kept.add (kept : Kept identifiers) (app : StoredApplication) :
    Kept (add identifiers app) := by
  have removed := kept.remove app.vendorId app.applicationId
  constructor
  · exact OrderedMap.ascending_alter removed.vendors
  · intro x isIn
    rcases mem_add isIn with ⟨-, id, isNew, rfl | isOld⟩ | isOld
    · rw [isNew]
      exact OrderedMap.ascending_alter .nil
    · rw [isNew]
      exact OrderedMap.ascending_alter (removed.apps _ isOld)
    · exact removed.apps x isOld
  · intro x isIn
    rcases mem_add isIn with ⟨-, id, isNew, -⟩ | isOld
    · rw [isNew]
      exact insertInto_inhabited
    · exact removed.inhabited x isOld
  · intro x isIn y isApp
    rcases mem_add isIn with ⟨isKey, id, isNew, isOld⟩ | isOld
    · rw [isNew] at isApp
      rcases mem_insertInto isApp with rfl | isApp
      · exact ⟨rfl, isKey.symm⟩
      · rcases isOld with rfl | isOld
        · exact nomatch isApp
        · exact removed.placed _ isOld y isApp
    · exact removed.placed x isOld y isApp

theorem lookup_add (kept : Kept identifiers) :
    lookup (add identifiers app) otherApp otherVendor =
      if otherApp = app.applicationId ∧ otherVendor = app.vendorId then
        (lookup (remove identifiers app.vendorId app.applicationId) app.applicationId
          app.vendorId).or (some app)
      else lookup (remove identifiers app.vendorId app.applicationId) otherApp otherVendor :=
  lookup_insert (kept.remove _ _)

/-! Going through the applications. -/

/-- No two vendors have applications. -/
def OneVendor (identifiers : RouteIdentifiers) : Prop :=
  ∀ x ∈ identifiers, ∀ other ∈ identifiers, x.1 = other.1

theorem dropWhile_key {before rest : RouteAppIdMap}
    (ascending : Ascending Prod.fst (before ++ y :: rest)) :
    (before ++ y :: rest).dropWhile (fun other => other.1 != y.1) = y :: rest := by
  induction before with
  | nil => rw [List.nil_append, List.dropWhile_cons, if_neg fun differs => bne_iff_ne.1 differs rfl]
  | cons other before induction =>
    obtain ⟨above, rest⟩ := List.pairwise_cons.1 ascending
    have below := above y (List.mem_append_right _ List.mem_cons_self)
    rw [List.cons_append, List.dropWhile_cons, if_pos (bne_iff_ne.2 (ne_of_lt below))]
    exact induction rest

/-- The applications of the only vendor come one after the other. -/
theorem enumerateFrom_eq {before rest : RouteAppIdMap} (fuel : Nat)
    (kept : Kept [(vendorId, before ++ y :: rest)]) (enough : rest.length < fuel) :
    enumerateFrom [(vendorId, before ++ y :: rest)] fuel y.2 = y.2 :: rest.map Prod.snd := by
  induction fuel generalizing before y rest with
  | zero => exact absurd enough (Nat.not_lt_zero _)
  | succ fuel induction =>
    have placed := kept.placed _ List.mem_cons_self y
      (List.mem_append_right _ List.mem_cons_self)
    have isNext : next [(vendorId, before ++ y :: rest)] y.2 = rest.head?.map Prod.snd := by
      rw [next, List.dropWhile_cons, placed.2, if_neg fun differs => bne_iff_ne.1 differs rfl]
      show Option.or _ none = _
      rw [placed.1, dropWhile_key (kept.apps _ List.mem_cons_self), Option.or_none,
        List.tail_cons]
    rw [enumerateFrom, isNext]
    cases rest with
    | nil => rfl
    | cons following rest =>
      refine congrArg (y.2 :: ·) ?_
      have same : before ++ y :: following :: rest = (before ++ [y]) ++ following :: rest := by
        rw [List.append_assoc, List.singleton_append]
      rw [same] at kept ⊢
      exact induction kept (Nat.lt_of_succ_lt_succ enough)

theorem nextVendors_tail (found : nextVendors identifiers = some app) :
    ∃ x ∈ identifiers, ∃ y ∈ x.2.tail, y.2 = app := by
  induction identifiers with
  | nil => exact nomatch found
  | cons x identifiers induction =>
    rw [nextVendors] at found
    cases isHead : x.2.tail.head? with
    | none =>
      rw [isHead] at found
      obtain ⟨other, isIn, rest⟩ := induction found
      exact ⟨other, List.mem_cons_of_mem x isIn, rest⟩
    | some y =>
      rw [isHead] at found
      exact ⟨x, List.mem_cons_self, y, List.mem_of_mem_head? isHead, Option.some.inj found⟩

theorem mem_tail_of_dropWhile {test : Int × StoredApplication → Bool}
    (isIn : y ∈ (id.dropWhile test).tail) : y ∈ id.tail := by
  cases id with
  | nil => exact isIn
  | cons first id =>
    rw [List.dropWhile_cons] at isIn
    split at isIn
    · exact List.dropWhile_subset _ (List.mem_of_mem_tail isIn)
    · exact isIn

/-- `Next` gives no application that is the first one of its vendor. -/
theorem next_tail {prev : StoredApplication} (found : next identifiers prev = some app) :
    ∃ x ∈ identifiers, ∃ y ∈ x.2.tail, y.2 = app := by
  rw [next] at found
  split at found
  · exact nomatch found
  · rename_i x rest isRest
    have isIn {other : Int × RouteAppIdMap} (isLater : other ∈ x :: rest) :
        other ∈ identifiers := List.dropWhile_subset _ (isRest ▸ isLater)
    cases isHead : (x.2.dropWhile fun y => y.1 != prev.applicationId).tail.head? with
    | none =>
      rw [isHead] at found
      obtain ⟨other, isLater, rest⟩ := nextVendors_tail found
      exact ⟨other, isIn (List.mem_cons_of_mem x isLater), rest⟩
    | some y =>
      rw [isHead] at found
      exact ⟨x, isIn List.mem_cons_self, y,
        mem_tail_of_dropWhile (List.mem_of_mem_head? isHead), Option.some.inj found⟩

theorem mem_enumerateFrom {start : StoredApplication} {fuel : Nat}
    (isIn : app ∈ enumerateFrom identifiers fuel start) :
    app = start ∨ ∃ x ∈ identifiers, ∃ y ∈ x.2.tail, y.2 = app := by
  induction fuel generalizing start with
  | zero => exact nomatch isIn
  | succ fuel induction =>
    rw [enumerateFrom] at isIn
    rcases List.mem_cons.1 isIn with same | isLater
    · exact .inl same
    · split at isLater
      · exact nomatch isLater
      · rename_i following isNext
        rcases induction isLater with same | found
        · exact .inr (same ▸ next_tail isNext)
        · exact .inr found

/-- The first application of a second vendor is left out. -/
theorem second_not_mem {first second : Int × RouteAppIdMap} {rest : RouteIdentifiers}
    {ys : RouteAppIdMap} (kept : Kept (first :: second :: rest)) (isFirst : second.2 = y :: ys)
    (fuel : Nat) :
    y.2 ∉ enumerate (first :: second :: rest) fuel := by
  have isSecond : second ∈ first :: second :: rest := List.mem_cons_of_mem _ List.mem_cons_self
  have placed := kept.placed second isSecond y (isFirst ▸ List.mem_cons_self)
  have below := (List.pairwise_cons.1 kept.vendors).1 second List.mem_cons_self
  intro isIn
  rw [enumerate] at isIn
  split at isIn
  · exact nomatch isIn
  · rename_i start isStart
    obtain ⟨head, isHead, isApp⟩ := Option.map_eq_some_iff.1 isStart
    rcases mem_enumerateFrom isIn with same | ⟨x, isX, z, isTail, same⟩
    · have ofFirst := kept.placed first List.mem_cons_self head (List.mem_of_mem_head? isHead)
      rw [isApp, ← same, placed.2] at ofFirst
      exact absurd ofFirst.2 (ne_of_gt below)
    · have ofX := kept.placed x isX z (List.mem_of_mem_tail isTail)
      rw [same, placed.1, placed.2] at ofX
      have foundX := OrderedMap.get_of_mem kept.vendors (show (x.1, x.2) ∈ _ from isX)
      have foundSecond :=
        OrderedMap.get_of_mem kept.vendors (show (second.1, second.2) ∈ _ from isSecond)
      rw [← ofX.2, foundSecond] at foundX
      rw [← Option.some.inj foundX, isFirst, List.tail_cons] at isTail
      have ascending := kept.apps second isSecond
      rw [isFirst] at ascending
      exact absurd ofX.1 (ne_of_lt ((List.pairwise_cons.1 ascending).1 z isTail))

theorem enumerates_iff (kept : Kept identifiers) :
    (∀ fuel, (applications identifiers).length ≤ fuel →
      (enumerate identifiers fuel).Perm (applications identifiers)) ↔ OneVendor identifiers := by
  cases identifiers with
  | nil =>
    refine iff_of_true (fun fuel _ => ?_) fun x isIn => nomatch isIn
    exact .refl _
  | cons first rest =>
    cases rest with
    | nil =>
      refine iff_of_true (fun fuel enough => ?_) fun x isIn other isOther => ?_
      · obtain ⟨vendorId, id⟩ := first
        obtain ⟨y, ys, rfl⟩ :=
          List.exists_cons_of_ne_nil (kept.inhabited _ List.mem_cons_self)
        have all : applications [(vendorId, y :: ys)] = y.2 :: ys.map Prod.snd :=
          List.append_nil _
        rw [all, List.length_cons, List.length_map] at enough
        rw [all]
        have parted : Kept [(vendorId, [] ++ y :: ys)] := kept
        exact .of_eq (enumerateFrom_eq fuel parted enough)
      · rw [List.mem_singleton.1 isIn, List.mem_singleton.1 isOther]
    | cons second rest =>
      refine iff_of_false (fun enumerates => ?_) fun one => ?_
      · have isSecond : second ∈ first :: second :: rest :=
          List.mem_cons_of_mem _ List.mem_cons_self
        obtain ⟨y, ys, isFirst⟩ :=
          List.exists_cons_of_ne_nil (kept.inhabited second isSecond)
        have isStored : y.2 ∈ applications (first :: second :: rest) :=
          List.mem_flatMap.2 ⟨second, isSecond,
            List.mem_map.2 ⟨y, isFirst ▸ List.mem_cons_self, rfl⟩⟩
        exact second_not_mem kept isFirst _
          ((enumerates _ (Nat.le_refl _)).mem_iff.2 isStored)
      · have below := (List.pairwise_cons.1 kept.vendors).1 second List.mem_cons_self
        exact absurd (one first List.mem_cons_self second
          (List.mem_cons_of_mem _ List.mem_cons_self)) (ne_of_lt below)

end RouteIdentifiers

/-! The calls of `Add` and `Remove` one after the other. -/

namespace RouteApps

open RouteIdentifiers

variable {apps : RouteApps} {appId vendorId : Int}

/-- What every call keeps, faithful or not. -/
structure Known (apps : RouteApps) : Prop where
  kept : Kept apps.identifiers
  constructed : ∀ appId vendorId app, apps.added appId vendorId = some app →
    app.object < apps.constructed

theorem known_empty : Known empty where
  kept := kept_empty
  constructed := fun _ _ _ isAdded => nomatch isAdded

theorem Known.update (known : Known apps) (call : RouteAppsUpdate) : Known (apps.update call) := by
  cases call with
  | add appId vendorId =>
    refine ⟨known.kept.add _, fun otherApp otherVendor app isAdded => ?_⟩
    change (if _ then _ else _) = _ at isAdded
    split at isAdded
    · rw [← Option.some.inj isAdded]
      exact Nat.lt_succ_self _
    · exact Nat.lt_succ_of_lt (known.constructed _ _ app isAdded)
  | remove appId vendorId =>
    refine ⟨known.kept.remove _ _, fun otherApp otherVendor app isAdded => ?_⟩
    change (if _ then _ else _) = _ at isAdded
    split at isAdded
    · exact nomatch isAdded
    · exact known.constructed _ _ app isAdded

/-- Every lookup gives what was added. -/
def Finds (apps : RouteApps) : Prop := ∀ appId vendorId,
  lookup apps.identifiers appId vendorId = apps.added appId vendorId

theorem faithful_iff (known : Known apps) :
    Faithful apps ↔ Finds apps ∧ OneVendor apps.identifiers := by
  rw [← enumerates_iff known.kept]
  exact ⟨fun faithful => ⟨faithful.lookup, faithful.enumerates⟩, fun both => ⟨both.1, both.2⟩⟩

theorem Known.remove_finds (known : Known apps) (finds : Finds apps) :
    Finds (apps.update (.remove appId vendorId)) := fun otherApp otherVendor => by
  show lookup (RouteIdentifiers.remove _ _ _) _ _ = assign _ _ _ _ _ _
  rw [lookup_remove known.kept, assign, finds]

/-- Two equal ids are the same both ways; other ones must be new both ways. -/
theorem Known.add_finds_iff (known : Known apps) (finds : Finds apps) :
    Finds (apps.update (.add appId vendorId)) ↔
      appId = vendorId ∨
        lookup apps.identifiers appId vendorId = none ∧
          lookup apps.identifiers vendorId appId = none := by
  have after (otherApp otherVendor : Int) :
      lookup (apps.update (.add appId vendorId)).identifiers otherApp otherVendor =
        if otherApp = appId ∧ otherVendor = vendorId then
          (if appId = vendorId ∧ vendorId = appId then none
            else apps.added appId vendorId).or (some ⟨apps.constructed, appId, vendorId⟩)
        else if otherApp = vendorId ∧ otherVendor = appId then none
        else apps.added otherApp otherVendor := by
    show lookup (RouteIdentifiers.add _ _) _ _ = _
    rw [lookup_add known.kept, lookup_remove known.kept, lookup_remove known.kept, finds, finds]
  rw [finds, finds]
  constructor
  · intro nextFinds
    by_cases same : appId = vendorId
    · exact .inl same
    · refine .inr ⟨?_, ?_⟩
      · -- an application that is there stays, and the new one is not found
        cases isThere : apps.added appId vendorId with
        | none => rfl
        | some old =>
          have found := nextFinds appId vendorId
          rw [after, if_pos ⟨rfl, rfl⟩, if_neg fun both => same both.1, isThere,
            Option.some_or] at found
          have isNew : old = ⟨apps.constructed, appId, vendorId⟩ := by
            have added : (apps.update (.add appId vendorId)).added appId vendorId =
                some ⟨apps.constructed, appId, vendorId⟩ := if_pos ⟨rfl, rfl⟩
            rw [added] at found
            exact Option.some.inj found
          have older := known.constructed _ _ old isThere
          rw [isNew] at older
          exact absurd older (Nat.lt_irrefl _)
      · -- the application under the ids the other way round is gone
        have found := nextFinds vendorId appId
        rw [after, if_neg fun both => same both.1.symm, if_pos ⟨rfl, rfl⟩] at found
        have added : (apps.update (.add appId vendorId)).added vendorId appId =
            apps.added vendorId appId := if_neg fun both => same both.1.symm
        rw [← added, ← found]
  · intro fits otherApp otherVendor
    rw [after]
    show _ = assign _ _ _ _ _ _
    rw [assign]
    by_cases pair : otherApp = appId ∧ otherVendor = vendorId
    · rw [if_pos pair, if_pos pair]
      rcases fits with same | ⟨isNew, -⟩
      · rw [if_pos ⟨same, same.symm⟩, Option.none_or]
      · rw [isNew, ite_self, Option.none_or]
    · rw [if_neg pair, if_neg pair]
      split
      · rename_i swapped
        rcases fits with same | ⟨-, isNew⟩
        · subst same
          exact absurd swapped pair
        · rw [swapped.1, swapped.2, isNew]
      · rfl

theorem mem_key_of_lookup {identifiers : RouteIdentifiers} {app : StoredApplication}
    (found : lookup identifiers appId vendorId = some app) :
    ∃ id, (vendorId, id) ∈ identifiers := by
  obtain ⟨id, isVendor, -⟩ := Option.bind_eq_some_iff.1 found
  exact ⟨id, OrderedMap.mem_of_get isVendor⟩

theorem key_of_mem_remove {identifiers : RouteIdentifiers} {x : Int × RouteAppIdMap}
    (isIn : x ∈ RouteIdentifiers.remove identifiers appId vendorId) :
    ∃ id, (x.1, id) ∈ identifiers := by
  rcases mem_remove isIn with ⟨id, isOld, -⟩ | isOld
  · exact ⟨id, isOld⟩
  · exact ⟨x.2, isOld⟩

theorem remove_oneVendor (one : OneVendor apps.identifiers) :
    OneVendor (apps.update (.remove appId vendorId)).identifiers :=
  fun x isIn other isOther =>
    have ⟨id, isOld⟩ := key_of_mem_remove isIn
    have ⟨otherId, isOldOther⟩ := key_of_mem_remove isOther
    one (x.1, id) isOld (other.1, otherId) isOldOther

/-- An application of another vendor stays, so that there must not be any. -/
theorem Known.add_oneVendor_iff (known : Known apps) (finds : Finds apps)
    (nextFinds : Finds (apps.update (.add appId vendorId))) :
    OneVendor (apps.update (.add appId vendorId)).identifiers ↔
      ∀ x ∈ apps.identifiers, x.1 = vendorId := by
  constructor
  · intro one x isIn
    refine Classical.byContradiction fun isOther => ?_
    obtain ⟨y, ys, isSome⟩ := List.exists_cons_of_ne_nil (known.kept.inhabited x isIn)
    have isApp : y ∈ x.2 := isSome ▸ List.mem_cons_self
    have found : lookup apps.identifiers y.1 x.1 = some y.2 := by
      rw [RouteIdentifiers.lookup,
        OrderedMap.get_of_mem known.kept.vendors (show (x.1, x.2) ∈ _ from isIn)]
      exact OrderedMap.get_of_mem (known.kept.apps x isIn) (show (y.1, y.2) ∈ _ from isApp)
    have nextFound : lookup (apps.update (.add appId vendorId)).identifiers y.1 x.1 = some y.2 := by
      rw [nextFinds, ← found, finds]
      exact if_neg fun both => isOther both.2
    have nextAdded : lookup (apps.update (.add appId vendorId)).identifiers appId vendorId =
        some ⟨apps.constructed, appId, vendorId⟩ := by
      rw [nextFinds]
      exact if_pos ⟨rfl, rfl⟩
    obtain ⟨id, isX⟩ := mem_key_of_lookup nextFound
    obtain ⟨newId, isNew⟩ := mem_key_of_lookup nextAdded
    exact isOther (one _ isX _ isNew)
  · intro only
    have isVendor {x : Int × RouteAppIdMap}
        (isIn : x ∈ (apps.update (.add appId vendorId)).identifiers) : x.1 = vendorId := by
      rcases mem_add isIn with ⟨isKey, -⟩ | isOld
      · exact isKey
      · obtain ⟨id, isOld⟩ := key_of_mem_remove isOld
        exact only (x.1, id) isOld
    exact fun x isIn other isOther => (isVendor isIn).trans (isVendor isOther).symm

theorem fits_iff (known : Known apps) (faithful : Faithful apps) (call : RouteAppsUpdate) :
    Fits apps call ↔ Faithful (apps.update call) := by
  obtain ⟨finds, one⟩ := (faithful_iff known).1 faithful
  rw [faithful_iff (known.update call)]
  cases call with
  | add appId vendorId =>
    rw [Fits, ← known.add_finds_iff finds]
    constructor
    · exact fun fits => ⟨fits.1, (known.add_oneVendor_iff finds fits.1).2 fits.2⟩
    · exact fun next => ⟨next.1, (known.add_oneVendor_iff finds next.1).1 next.2⟩
  | remove appId vendorId =>
    exact iff_of_true trivial ⟨known.remove_finds finds, remove_oneVendor one⟩

/-- A route entry is faithful all along exactly when every application that is added fits. -/
theorem always_faithful_iff (updates : List RouteAppsUpdate) :
    calls.Always Faithful empty updates ↔ calls.Meets Fits empty updates := by
  have faithful : Faithful empty :=
    (faithful_iff known_empty).2 ⟨fun _ _ => rfl, fun _ isIn => nomatch isIn⟩
  have allowed : ∀ update ∈ updates, Function.const _ True update := fun _ _ => trivial
  refine Component.always_iff_meets Known ?_ ?_ allowed known_empty faithful
  · intro state call output next _ known _ answered
    rw [← (Prod.mk.inj (Option.some.inj answered)).2]
    exact known.update call
  · intro state call _ known faithful
    rw [fits_iff known faithful call]
    constructor
    · exact fun holds => ⟨(), _, rfl, holds⟩
    · rintro ⟨output, next, answered, holds⟩
      rw [← (Prod.mk.inj (Option.some.inj answered)).2] at holds
      exact holds

/-- An application is added again and the old one stays; one is added and takes away the one
under the ids the other way round; and of two vendors the application of the second one is
left out. -/
theorem updates_not_faithful :
    ¬calls.Always Faithful empty [.add 5 0, .add 5 0] ∧
      ¬calls.Always Faithful empty [.add 5 4, .add 4 5] ∧
      ¬calls.Always Faithful empty [.add 5 0, .add 5 10415] := by
  refine ⟨?_, ?_, ?_⟩
  · rintro ⟨-, _, _, ⟨⟩, -, _, _, ⟨⟩, last⟩
    exact absurd (last.lookup 5 0) (by decide)
  · rintro ⟨-, _, _, ⟨⟩, -, _, _, ⟨⟩, last⟩
    exact absurd (last.lookup 5 4) (by decide)
  · rintro ⟨-, _, _, ⟨⟩, -, _, _, ⟨⟩, last⟩
    exact absurd (last.enumerates 2 (by decide)).length_eq (by decide)

end RouteApps

end OpenDiameter.Router
