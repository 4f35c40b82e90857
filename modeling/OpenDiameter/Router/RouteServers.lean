import Mathlib.Data.List.Sort
import OpenDiameter.Router.RequestRouting

/-!
The list of the servers of a route application, which `Add` keeps in the order of their metrics
and `RcRouted` goes through with `First` and `Next`.
-/

namespace OpenDiameter.Router

/-- `DiameterRouteServerEntry` and the number of the object. -/
structure RouteServerEntry where
  object : Nat
  server : Octets
  metric : Int32
deriving DecidableEq, Repr

/-- An entry may stand before another one. -/
def RouteServerEntry.Precedes (entry other : RouteServerEntry) : Prop :=
  entry.metric ≤ other.metric

instance : DecidableRel RouteServerEntry.Precedes := fun entry other =>
  inferInstanceAs (Decidable (entry.metric ≤ other.metric))

instance : Std.Total RouteServerEntry.Precedes := ⟨fun _ _ => Int32.le_total _ _⟩

instance : IsTrans RouteServerEntry RouteServerEntry.Precedes :=
  ⟨fun _ _ _ first second => Int32.le_trans first second⟩

/-- `DiameterRouteServers`, and how many entries have been constructed. -/
structure RouteServers where
  entries : List RouteServerEntry
  constructed : Nat
deriving DecidableEq, Repr

inductive RouteServersUpdate where
  | add (server : Octets) (metric : Int32)
  | remove (server : Octets)

namespace RouteServers

variable {Peer : Type}

/-- `Remove` -/
def remove (servers : RouteServers) (server : Octets) : RouteServers :=
  { servers with entries := servers.entries.eraseP fun entry => server == entry.server }

/-- `Add` of a new entry, which comes before the first one with a metric that is not lower. -/
def add (servers : RouteServers) (server : Octets) (metric : Int32) : RouteServers where
  entries := (servers.remove server).entries.orderedInsert RouteServerEntry.Precedes
    ⟨servers.constructed, server, metric⟩
  constructed := servers.constructed + 1

def update (servers : RouteServers) : RouteServersUpdate → RouteServers
  | .add server metric => servers.add server metric
  | .remove server => servers.remove server

def empty : RouteServers := ⟨[], 0⟩

/-- The list after `Add` and `Remove` in some order. -/
def run (updates : List RouteServersUpdate) : RouteServers := updates.foldl update empty

/-- `First`: the front of the list, which an empty list does not have. -/
def first (servers : RouteServers) : Option (Option RouteServerEntry) :=
  servers.entries.head?.map some

def nextIn (prev : RouteServerEntry) : List RouteServerEntry → Option RouteServerEntry
  | [] => none
  | entry :: rest => if prev.object = entry.object then rest.head? else nextIn prev rest

/-- `Next`, which finds the entry before by its pointer. -/
def next (servers : RouteServers) (prev : RouteServerEntry) : Option RouteServerEntry :=
  nextIn prev servers.entries

/-- An entry and those that `Next` gives one after the other. -/
def enumerateFrom (servers : RouteServers) : Nat → RouteServerEntry → List RouteServerEntry
  | 0, _ => []
  | fuel + 1, entry =>
    entry ::
      match servers.next entry with
      | none => []
      | some following => servers.enumerateFrom fuel following

/-- The loop of `RcRouted::Lookup` over the servers. -/
def openServerFrom (env : Environment Peer) (servers : RouteServers) :
    Nat → RouteServerEntry → Option Peer
  | 0, _ => none
  | fuel + 1, entry =>
    match (env.lookupPeer entry.server).filter env.isOpen with
    | some peer => some peer
    | none =>
      match servers.next entry with
      | none => none
      | some following => servers.openServerFrom env fuel following

/-- The names of the servers, as a route application has them. -/
def names (servers : RouteServers) : List Octets := servers.entries.map RouteServerEntry.server

/-- The list is in order and can be gone through, and requests go to the best open peer. -/
structure InOrder (servers : RouteServers) : Prop where
  unique : servers.names.Nodup
  sorted : servers.entries.Pairwise RouteServerEntry.Precedes
  first : servers.first = some servers.entries.head?
  enumerated : ∀ entry, servers.entries.head? = some entry → ∀ fuel, servers.entries.length ≤ fuel →
    servers.enumerateFrom fuel entry = servers.entries
  best : ∀ {Peer : Type} (config : RouterConfig) (env : Environment Peer) (msg : Msg)
    (realm : Octets) (route : RouteEntry) (app : RouteApplication),
    config.routeTable.lookup realm = some route → route.applicationOf msg = some app →
    route.action ≠ .actionRedirect → app.servers = servers.names →
    (∃ entry ∈ servers.entries, ((env.lookupPeer entry.server).filter env.isOpen).isSome) →
    ∃ peer, RcRouted.lookupRealm config env msg realm = .ok (some (some peer)) ∧
      ∃ entry ∈ servers.entries, (env.lookupPeer entry.server).filter env.isOpen = some peer ∧
        ∀ other ∈ servers.entries, ((env.lookupPeer other.server).filter env.isOpen).isSome →
          entry.metric ≤ other.metric

/-! What every update keeps. -/

structure Kept (servers : RouteServers) : Prop where
  names : servers.names.Nodup
  objects : (servers.entries.map RouteServerEntry.object).Nodup
  bounded : ∀ entry ∈ servers.entries, entry.object < servers.constructed
  sorted : servers.entries.Pairwise RouteServerEntry.Precedes

variable {servers : RouteServers} {server : Octets}

theorem kept_empty : empty.Kept where
  names := List.nodup_nil
  objects := List.nodup_nil
  bounded := fun _ isIn => nomatch isIn
  sorted := .nil

theorem Kept.remove (kept : servers.Kept) (server : Octets) : (servers.remove server).Kept where
  names := kept.names.sublist (List.eraseP_sublist.map _)
  objects := kept.objects.sublist (List.eraseP_sublist.map _)
  bounded := fun entry isIn => kept.bounded entry (List.mem_of_mem_eraseP isIn)
  sorted := kept.sorted.sublist List.eraseP_sublist

/-- No server of that name is left, since there was one at most. -/
theorem not_mem_eraseP {entries : List RouteServerEntry}
    (nodup : (entries.map RouteServerEntry.server).Nodup) :
    server ∉ (entries.eraseP fun entry => server == entry.server).map RouteServerEntry.server := by
  induction entries with
  | nil => exact List.not_mem_nil
  | cons entry entries induction =>
    rw [List.map_cons, List.nodup_cons] at nodup
    rw [List.eraseP_cons]
    cases same : server == entry.server with
    | true =>
      rw [cond_true, eq_of_beq same]
      exact nodup.1
    | false =>
      rw [cond_false, List.map_cons, List.mem_cons, not_or]
      exact ⟨ne_of_beq_false same, induction nodup.2⟩

theorem Kept.add (kept : servers.Kept) (server : Octets) (metric : Int32) :
    (servers.add server metric).Kept := by
  have removed := kept.remove server
  have order := List.perm_orderedInsert RouteServerEntry.Precedes
    ⟨servers.constructed, server, metric⟩ (servers.remove server).entries
  constructor
  · apply (order.map RouteServerEntry.server).nodup_iff.2
    exact List.nodup_cons.2 ⟨not_mem_eraseP kept.names, removed.names⟩
  · apply (order.map RouteServerEntry.object).nodup_iff.2
    refine List.nodup_cons.2 ⟨fun isIn => ?_, removed.objects⟩
    obtain ⟨entry, isEntry, same⟩ := List.mem_map.1 isIn
    exact absurd same (Nat.ne_of_lt (removed.bounded entry isEntry))
  · intro entry isIn
    rcases List.mem_cons.1 (order.mem_iff.1 isIn) with rfl | isOld
    · exact Nat.lt_succ_self _
    · exact Nat.lt_succ_of_lt (removed.bounded entry isOld)
  · exact removed.sorted.orderedInsert _ _

theorem Kept.update (kept : servers.Kept) (update : RouteServersUpdate) :
    (servers.update update).Kept := by
  cases update with
  | add server metric => exact kept.add server metric
  | remove server => exact kept.remove server

theorem kept_foldl (kept : servers.Kept) (updates : List RouteServersUpdate) :
    (updates.foldl update servers).Kept := by
  induction updates generalizing servers with
  | nil => exact kept
  | cons first updates induction => exact induction (kept.update first)

theorem kept_run (updates : List RouteServersUpdate) : (run updates).Kept :=
  kept_foldl kept_empty updates

/-! Going through the list. -/

section

variable {entry : RouteServerEntry} {before rest : List RouteServerEntry}

theorem nextIn_eq (unseen : entry.object ∉ before.map RouteServerEntry.object) :
    nextIn entry (before ++ entry :: rest) = rest.head? := by
  induction before with
  | nil => exact if_pos rfl
  | cons other before induction =>
    rw [List.map_cons, List.mem_cons, not_or] at unseen
    rw [List.cons_append, nextIn, if_neg unseen.1]
    exact induction unseen.2

/-- From an entry on, the rest of the list is enumerated. -/
theorem enumerateFrom_eq (objects : (servers.entries.map RouteServerEntry.object).Nodup)
    (fuel : Nat) (split : servers.entries = before ++ entry :: rest)
    (enough : rest.length < fuel) : servers.enumerateFrom fuel entry = entry :: rest := by
  induction fuel generalizing before entry rest with
  | zero => exact absurd enough (Nat.not_lt_zero _)
  | succ fuel induction =>
    have unseen : entry.object ∉ before.map RouteServerEntry.object := fun isIn => by
      rw [split, List.map_append, List.map_cons] at objects
      exact (List.nodup_append.1 objects).2.2 _ isIn _ List.mem_cons_self rfl
    have isNext : servers.next entry = rest.head? := by
      rw [next, split]
      exact nextIn_eq unseen
    cases rest with
    | nil => rw [enumerateFrom, isNext, List.head?_nil]
    | cons following rest =>
      rw [enumerateFrom, isNext, List.head?_cons]
      have parted : servers.entries = (before ++ [entry]) ++ following :: rest := by
        rw [split, List.append_assoc, List.singleton_append]
      exact congrArg (entry :: ·) (induction parted (Nat.lt_of_succ_lt_succ enough))

theorem Kept.enumerated (kept : servers.Kept) (isFirst : servers.entries.head? = some entry)
    (fuel : Nat) (enough : servers.entries.length ≤ fuel) :
    servers.enumerateFrom fuel entry = servers.entries := by
  obtain ⟨rest, split⟩ := List.head?_eq_some_iff.1 isFirst
  rw [split] at enough
  have parted : servers.entries = [] ++ entry :: rest := split
  rw [enumerateFrom_eq kept.objects fuel parted enough, split]

end

/-! The loop of `RcRouted::Lookup`. -/

section

variable {Peer : Type} {env : Environment Peer} {entry : RouteServerEntry}

theorem openServer_names :
    env.openServer servers.names = servers.entries.findSome? fun entry =>
      (env.lookupPeer entry.server).filter env.isOpen := by
  rw [Environment.openServer, names, List.findSome?_map]
  rfl

/-- The first server with an open peer has the lowest metric of them. -/
theorem best_of_sorted {entries : List RouteServerEntry}
    (sorted : entries.Pairwise RouteServerEntry.Precedes) {choice : RouteServerEntry → Option Peer}
    (some : ∃ entry ∈ entries, (choice entry).isSome) :
    ∃ peer, entries.findSome? choice = Option.some peer ∧
      ∃ entry ∈ entries, choice entry = Option.some peer ∧
        ∀ other ∈ entries, (choice other).isSome → entry.metric ≤ other.metric := by
  have isSome : (entries.findSome? choice).isSome := List.findSome?_isSome_iff.2 some
  obtain ⟨peer, found⟩ := Option.isSome_iff_exists.1 isSome
  obtain ⟨before, entry, rest, split, isPeer, none⟩ := List.findSome?_eq_some_iff.1 found
  refine ⟨peer, found, entry, ?_, isPeer, fun other isIn isOpen => ?_⟩
  · rw [split]
    exact List.mem_append_right _ List.mem_cons_self
  · rw [split] at isIn sorted
    rcases List.mem_append.1 isIn with isBefore | isAfter
    · rw [none other isBefore] at isOpen
      exact nomatch isOpen
    · cases isAfter with
      | head => exact Int32.le_refl _
      | tail _ isAfter =>
        exact (List.pairwise_cons.1 (List.pairwise_append.1 sorted).2.1).1 other isAfter

/-- The loop is a search of the servers that it comes to. -/
theorem openServerFrom_eq (fuel : Nat) (entry : RouteServerEntry) :
    servers.openServerFrom env fuel entry =
      (servers.enumerateFrom fuel entry).findSome? fun entry =>
        (env.lookupPeer entry.server).filter env.isOpen := by
  induction fuel generalizing entry with
  | zero => rfl
  | succ fuel induction =>
    rw [openServerFrom, enumerateFrom, List.findSome?_cons]
    cases (env.lookupPeer entry.server).filter env.isOpen with
    | some peer => rfl
    | none =>
      cases servers.next entry with
      | none => rfl
      | some following => exact induction following

/-- After any updates, the loop finds what a search by name does, an open peer of the lowest
metric. -/
theorem loop_finds_best (updates : List RouteServersUpdate)
    (isFirst : (run updates).first = some (some entry)) {fuel : Nat}
    (enough : (run updates).entries.length ≤ fuel) :
    (run updates).openServerFrom env fuel entry = env.openServer (run updates).names ∧
      ∀ peer, (run updates).openServerFrom env fuel entry = some peer →
        ∃ best ∈ (run updates).entries,
          (env.lookupPeer best.server).filter env.isOpen = some peer ∧
          ∀ other ∈ (run updates).entries,
            ((env.lookupPeer other.server).filter env.isOpen).isSome →
              best.metric ≤ other.metric := by
  have kept := kept_run updates
  have isHead : (run updates).entries.head? = some entry := by
    obtain ⟨_, isHead, same⟩ := Option.map_eq_some_iff.1 isFirst
    rw [isHead, same]
  rw [openServerFrom_eq, kept.enumerated isHead fuel enough, openServer_names]
  refine ⟨rfl, fun peer found => ?_⟩
  have isSome := Option.isSome_iff_exists.2 ⟨peer, found⟩
  obtain ⟨_, same, best⟩ := best_of_sorted kept.sorted (List.findSome?_isSome_iff.1 isSome)
  cases found.symm.trans same
  exact best

/-- The server with metric 3 is tried before the one that was added again with metric 5. -/
theorem loop_finds_best_open :
    (run [.add [1] 7, .add [2] 3, .add [1] 5]).openServerFrom
        ⟨[([1], 8), ([2], 9)], fun _ => true, fun _ => true, fun _ => false, fun _ => none, 0, 0, 0,
          0⟩ 2 ⟨1, [2], 3⟩ = some 9 := by
  rw [(loop_finds_best _ (by decide) (by decide)).1]
  decide

end

/-- The list that is left is in order exactly when it is not empty. -/
theorem run_inOrder_iff (updates : List RouteServersUpdate) :
    (run updates).InOrder ↔ (run updates).entries ≠ [] := by
  have kept := kept_run updates
  constructor
  · intro inOrder noEntry
    have read := inOrder.first
    rw [first, noEntry] at read
    exact nomatch read
  · intro someEntry
    refine ⟨kept.names, kept.sorted, ?_, fun entry isFirst => kept.enumerated isFirst, ?_⟩
    · obtain ⟨entry, rest, split⟩ := List.exists_cons_of_ne_nil someEntry
      rw [first, split]
      rfl
    · intro Peer config env msg realm route app isRoute isApp notRedirect isNames some
      obtain ⟨peer, found, best⟩ := best_of_sorted kept.sorted some
      refine ⟨peer, ?_, best⟩
      have someName : app.servers ≠ [] := by
        rw [isNames]
        exact fun noName => someEntry (List.map_eq_nil_iff.1 noName)
      simp only [RcRouted.lookupRealm, isRoute, isApp]
      rw [if_neg notRedirect, if_neg someName, isNames, openServer_names, found]
      rfl

/-- The front of an empty list is read. -/
theorem empty_not_inOrder : ¬(run []).InOrder := fun inOrder => nomatch inOrder.first

end RouteServers

end OpenDiameter.Router
