import OpenDiameter.Session.SessionDb

/-!
The session database against the finite map from session ids that it stands for.
-/

namespace OpenDiameter.Session

open OpenDiameter.Foundation OpenDiameter.Utility

variable {Data : Type}

abbrev SessionMap (Data : Type) := SessionId → Option Data

/-- What a call of a finite map returns and leaves. A generated counter makes an id that is
new. -/
inductive MapStep (map : SessionMap Data) : DbCall Data → DbResult Data → SessionMap Data → Prop
  where
  | present {clock : SessionCounter} {id : SessionId} {data : Data} : map id ≠ none →
      MapStep map (.add clock id data) (.added none) map
  | added {clock : SessionCounter} {id : SessionId} {data : Data} : map id = none →
      id.counter ≠ .nullCounter →
      MapStep map (.add clock id data) (.added (some id)) (Function.update map id (some data))
  | generated {clock : SessionCounter} {id : SessionId} {data : Data} (counter : SessionCounter) :
      map id = none → id.counter = .nullCounter → map { id with counter } = none →
      MapStep map (.add clock id data) (.added (some { id with counter }))
        (Function.update map { id with counter } (some data))
  | found (id : SessionId) : MapStep map (.lookup id) (.found (map id)) map
  | removed (id : SessionId) :
      MapStep map (.remove id) (.removed (map id).isSome) (Function.update map id none)

theorem MapStep.eq_update {map next : SessionMap Data} {clock : SessionCounter}
    {id added : SessionId} {data : Data}
    (step : MapStep map (.add clock id data) (.added (some added)) next) :
    next = Function.update map added (some data) := by
  cases step with
  | added => rfl
  | generated => rfl

theorem MapStep.eq_found {map next : SessionMap Data} {id : SessionId} {found : Option Data}
    (step : MapStep map (.lookup id) (.found found) next) : found = map id := by
  cases step
  rfl

/-- Calls of a finite map one after the other. -/
inductive MapRun : SessionMap Data → List (DbCall Data) → List (DbResult Data) →
    SessionMap Data → Prop where
  | nil (map : SessionMap Data) : MapRun map [] [] map
  | cons {map next last : SessionMap Data} {call : DbCall Data} {calls : List (DbCall Data)}
      {result : DbResult Data} {results : List (DbResult Data)} :
      MapStep map call result next → MapRun next calls results last →
      MapRun map (call :: calls) (result :: results) last

namespace DiameterSessionEntryList

variable {list : DiameterSessionEntryList Data} {counter other : SessionCounter}

/-- The counters of the entries differ. -/
def Distinct (list : DiameterSessionEntryList Data) : Prop :=
  (list.entries.map DiameterSessionEntry.counter).Nodup

theorem lookup_eq_none :
    list.lookup counter = none ↔
      counter ∉ list.entries.map DiameterSessionEntry.counter := by
  simp [lookup, List.find?_eq_none]

theorem lookup_create (clock : SessionCounter) :
    (create clock : DiameterSessionEntryList Data).lookup counter = none := rfl

theorem lookup_cons (entry : DiameterSessionEntry Data) (last : SessionCounter) :
    (⟨entry :: list.entries, last⟩ : DiameterSessionEntryList Data).lookup counter =
      if counter = entry.counter then some entry.data else list.lookup counter := by
  by_cases same : counter = entry.counter
  · simp [lookup, same]
  · simp [lookup, same, Ne.symm same]

theorem entries_add {grown : DiameterSessionEntryList Data} {idCounter : SessionCounter}
    {data : Data} (added : list.add idCounter data = (grown, counter)) :
    grown.entries = ⟨counter, data⟩ :: list.entries := by
  unfold add at added
  split at added
  · cases added
    rfl
  · cases added
    rfl

theorem lookup_add {grown : DiameterSessionEntryList Data} {idCounter : SessionCounter}
    {data : Data} (added : list.add idCounter data = (grown, counter)) (other : SessionCounter) :
    grown.lookup other = if other = counter then some data else list.lookup other := by
  rw [lookup, entries_add added]
  exact lookup_cons _ list.lastKnownCounter

theorem add_explicit {grown : DiameterSessionEntryList Data} {idCounter : SessionCounter}
    {data : Data} (added : list.add idCounter data = (grown, counter))
    (explicit : idCounter ≠ .nullCounter) : counter = idCounter := by
  rw [add, if_neg explicit] at added
  cases added
  rfl

theorem add_generated {grown : DiameterSessionEntryList Data} {data : Data}
    (added : list.add .nullCounter data = (grown, counter)) :
    counter = list.lastKnownCounter.next := by
  rw [add, if_pos rfl] at added
  cases added
  rfl

theorem lastKnownCounter_add {grown : DiameterSessionEntryList Data}
    {idCounter : SessionCounter} {data : Data}
    (added : list.add idCounter data = (grown, counter)) :
    grown.lastKnownCounter =
      if idCounter = .nullCounter then counter else list.lastKnownCounter := by
  unfold add at added
  split at added
  · cases added
    simp [*]
  · cases added
    simp [*]

theorem Distinct.create (clock : SessionCounter) :
    (create clock : DiameterSessionEntryList Data).Distinct :=
  List.nodup_nil

theorem Distinct.add {grown : DiameterSessionEntryList Data} {idCounter : SessionCounter}
    {data : Data} (distinct : list.Distinct) (added : list.add idCounter data = (grown, counter))
    (unused : list.lookup counter = none) : grown.Distinct := by
  rw [Distinct, entries_add added, List.map_cons]
  exact List.nodup_cons.mpr ⟨lookup_eq_none.mp unused, distinct⟩

theorem Distinct.remove (distinct : list.Distinct) : (list.remove counter).Distinct :=
  distinct.sublist ((List.eraseP_sublist ..).map _)

theorem Distinct.lookup_remove (distinct : list.Distinct) :
    (list.remove counter).lookup other =
      if other = counter then none else list.lookup other := by
  rcases list with ⟨entries, last⟩
  simp only [DiameterSessionEntryList.remove, DiameterSessionEntryList.lookup]
  simp only [DiameterSessionEntryList.Distinct] at distinct
  induction entries with
  | nil => simp
  | cons entry entries induction =>
    rw [List.map_cons, List.nodup_cons] at distinct
    by_cases here : entry.counter = counter
    · rw [List.eraseP_cons_of_pos (by simp [here])]
      by_cases same : other = counter
      · rw [if_pos same, same]
        have absent : counter ∉ entries.map DiameterSessionEntry.counter := here ▸ distinct.1
        have missing : entries.find? (fun entry => entry.counter == counter) = none := by
          simpa [List.find?_eq_none] using absent
        rw [missing]
        rfl
      · have notEntry : ¬ entry.counter = other := fun isOther => same (isOther.symm.trans here)
        simp [same, notEntry]
    · rw [List.eraseP_cons_of_neg (by simp [here])]
      by_cases isEntry : entry.counter = other
      · have same : ¬ other = counter := fun isCounter => here (isEntry.trans isCounter)
        simp [isEntry, same]
      · simpa [isEntry] using induction distinct.2

end DiameterSessionEntryList

namespace DiameterSessionDb

variable {db : DiameterSessionDb Data} {whole : ColorTree (Slot SessionKey Nat)} {fuel : Nat}

/-- The tree is one in the order of the keys, whose nodes have lists of their own. -/
structure Represents (db : DiameterSessionDb Data) (whole : ColorTree (Slot SessionKey Nat)) :
    Prop where
  wellFormed : WellFormed db.tree whole
  older : ∀ key node, binding whole key = some node → node.payload < db.newNode
  apart : ∀ key other node second, binding whole key = some node →
    binding whole other = some second → second.payload = node.payload → other = key
  distinct : ∀ key node, binding whole key = some node →
    (db.entryLists node.payload).Distinct

/-- The map that the database stands for. -/
def mapOf (db : DiameterSessionDb Data) (whole : ColorTree (Slot SessionKey Nat)) :
    SessionMap Data :=
  fun id => (binding whole id.key).bind fun node =>
    (db.entryLists node.payload).lookup id.counter

theorem Represents.empty : Represents (DiameterSessionDb.empty : DiameterSessionDb Data) .nil where
  wellFormed := WellFormed.empty
  older _ _ found := by cases found
  apart _ _ _ _ found := by cases found
  distinct _ _ found := by cases found

theorem mapOf_setEntryList (represents : Represents db whole) {key : SessionKey}
    {node : RbTreeData SessionKey Nat} (bound : binding whole key = some node)
    (list : DiameterSessionEntryList Data) (id : SessionId) :
    mapOf (db.setEntryList node.payload list) whole id =
      if id.key = key then list.lookup id.counter else mapOf db whole id := by
  by_cases here : id.key = key
  · simp [mapOf, setEntryList, here, bound]
  · rw [if_neg here, mapOf, mapOf]
    cases other : binding whole id.key with
    | none => rfl
    | some second =>
      have elsewhere : second.payload ≠ node.payload := by
        intro same
        exact here (represents.apart key id.key node second bound other same)
      simp [setEntryList, elsewhere]

/-- The counter that an id under the key was generated with last, or the clock before that. -/
def counterOf (db : DiameterSessionDb Data) (whole : ColorTree (Slot SessionKey Nat))
    (key : SessionKey) : Option SessionCounter :=
  (binding whole key).map fun node => (db.entryLists node.payload).lastKnownCounter

theorem counterOf_setEntryList (represents : Represents db whole) {key : SessionKey}
    {node : RbTreeData SessionKey Nat} (bound : binding whole key = some node)
    (list : DiameterSessionEntryList Data) (other : SessionKey) :
    counterOf (db.setEntryList node.payload list) whole other =
      if other = key then some list.lastKnownCounter else counterOf db whole other := by
  by_cases here : other = key
  · simp [counterOf, setEntryList, here, bound]
  · rw [if_neg here, counterOf, counterOf]
    cases found : binding whole other with
    | none => rfl
    | some second =>
      have elsewhere : second.payload ≠ node.payload := by
        intro same
        exact here (represents.apart key other node second bound found same)
      simp [setEntryList, elsewhere]

theorem Represents.setEntryList (represents : Represents db whole) {node : Nat}
    {list : DiameterSessionEntryList Data} (distinct : list.Distinct) :
    Represents (db.setEntryList node list) whole where
  wellFormed := represents.wellFormed
  older := represents.older
  apart := represents.apart
  distinct := by
    intro other second found
    by_cases here : second.payload = node
    · simpa [DiameterSessionDb.setEntryList, here] using distinct
    · simpa [DiameterSessionDb.setEntryList, here] using represents.distinct other second found

/-- A new node under a key that had none. -/
theorem Represents.insert (represents : Represents db whole) {key : SessionKey} {tree : RbTreeTree SessionKey Nat}
    {grown : ColorTree (Slot SessionKey Nat)} (wellFormed : WellFormed tree grown)
    (bindings : ∀ other, binding grown other =
      if other = key then some ⟨key, db.newNode⟩ else binding whole other)
    {list : DiameterSessionEntryList Data} (distinct : list.Distinct) :
    Represents ({ db with tree, newNode := db.newNode + 1 }.setEntryList db.newNode list)
        grown ∧
      ∀ id, mapOf ({ db with tree, newNode := db.newNode + 1 }.setEntryList db.newNode list)
          grown id =
        if id.key = key then list.lookup id.counter else mapOf db whole id := by
  have old : ∀ other node, binding whole other = some node → node.payload ≠ db.newNode :=
    fun other node found => Nat.ne_of_lt (represents.older other node found)
  constructor
  · refine ⟨wellFormed, ?_, ?_, ?_⟩
    · intro other node found
      rw [bindings] at found
      by_cases here : other = key
      · rw [if_pos here] at found
        cases found
        exact Nat.lt_succ_self _
      · rw [if_neg here] at found
        exact Nat.lt_succ_of_lt (represents.older other node found)
    · intro first other node second found isOther same
      rw [bindings] at found isOther
      by_cases here : first = key
      · rw [if_pos here] at found
        cases found
        by_cases there : other = key
        · rw [here, there]
        · rw [if_neg there] at isOther
          exact absurd same (old other second isOther)
      · rw [if_neg here] at found
        by_cases there : other = key
        · rw [if_pos there] at isOther
          cases isOther
          exact absurd same.symm (old first node found)
        · rw [if_neg there] at isOther
          exact represents.apart first other node second found isOther same
    · intro other node found
      rw [bindings] at found
      by_cases here : other = key
      · rw [if_pos here] at found
        cases found
        simpa [DiameterSessionDb.setEntryList] using distinct
      · rw [if_neg here] at found
        have elsewhere := old other node found
        simpa [DiameterSessionDb.setEntryList, elsewhere] using
          represents.distinct other node found
  · intro id
    rw [mapOf, bindings]
    by_cases here : id.key = key
    · simp [here, DiameterSessionDb.setEntryList]
    · rw [if_neg here, if_neg here, mapOf]
      cases found : binding whole id.key with
      | none => rfl
      | some node =>
        have elsewhere := old id.key node found
        simp [DiameterSessionDb.setEntryList, elsewhere]

theorem Represents.counterOf_insert (represents : Represents db whole) {key : SessionKey}
    {tree : RbTreeTree SessionKey Nat} {grown : ColorTree (Slot SessionKey Nat)}
    (bindings : ∀ other, binding grown other =
      if other = key then some ⟨key, db.newNode⟩ else binding whole other)
    (list : DiameterSessionEntryList Data) (other : SessionKey) :
    counterOf ({ db with tree, newNode := db.newNode + 1 }.setEntryList db.newNode list)
        grown other =
      if other = key then some list.lastKnownCounter else counterOf db whole other := by
  rw [counterOf, bindings]
  by_cases here : other = key
  · simp [here, DiameterSessionDb.setEntryList]
  · rw [if_neg here, if_neg here, counterOf]
    cases found : binding whole other with
    | none => rfl
    | some node =>
      have elsewhere := Nat.ne_of_lt (represents.older other node found)
      simp [DiameterSessionDb.setEntryList, elsewhere]

theorem Represents.erase (represents : Represents db whole) {key : SessionKey}
    {tree : RbTreeTree SessionKey Nat} {fewer : ColorTree (Slot SessionKey Nat)}
    (wellFormed : WellFormed tree fewer)
    (bindings : ∀ other, binding fewer other =
      if other = key then none else binding whole other) :
    Represents { db with tree } fewer := by
  have kept : ∀ other node, binding fewer other = some node →
      binding whole other = some node := by
    intro other node found
    rw [bindings] at found
    split at found
    · cases found
    · exact found
  exact
    { wellFormed := wellFormed
      older := fun other node found => represents.older other node (kept other node found)
      apart := fun first other node second found isOther =>
        represents.apart first other node second (kept _ _ found) (kept _ _ isOther)
      distinct := fun other node found => represents.distinct other node (kept _ _ found) }

theorem mapOf_erase {key : SessionKey} {tree : RbTreeTree SessionKey Nat}
    {fewer : ColorTree (Slot SessionKey Nat)}
    (bindings : ∀ other, binding fewer other =
      if other = key then none else binding whole other) (id : SessionId) :
    mapOf { db with tree } fewer id = if id.key = key then none else mapOf db whole id := by
  rw [mapOf, bindings]
  split
  · rfl
  · rfl

theorem update_mapOf (id other : SessionId) {list old : DiameterSessionEntryList Data}
    {value : Option Data} {map : SessionMap Data}
    (here : ∀ counter, map ⟨id.key, counter⟩ = old.lookup counter)
    (changed : ∀ counter, list.lookup counter =
      if counter = id.counter then value else old.lookup counter) :
    (if other.key = id.key then list.lookup other.counter else map other) =
      Function.update map id value other := by
  by_cases sameKey : other.key = id.key
  · rw [if_pos sameKey, changed]
    rcases other with ⟨key, counter⟩
    rcases id with ⟨idKey, idCounter⟩
    dsimp only at sameKey here ⊢
    subst sameKey
    by_cases sameCounter : counter = idCounter
    · simp [sameCounter]
    · simp [sameCounter, here]
  · have other_ : other ≠ id := fun same => sameKey (congrArg SessionId.key same)
    rw [if_neg sameKey, Function.update_of_ne other_]

/-- The counter that a call generates next is that of no entry of its list. -/
def CounterUnused (fuel : Nat) (db : DiameterSessionDb Data) : DbCall Data → Prop
  | .add _ id _ => id.counter = .nullCounter → ∀ node,
      db.tree.findBy SessionKey.comparison fuel id.key = some (some node) →
      (db.entryLists node.payload).lookup (db.entryLists node.payload).lastKnownCounter.next =
        none
  | _ => True

/-- The comparisons that the call makes are right, and so is the counter it generates. -/
structure CallRight (fuel : Nat) (db : DiameterSessionDb Data) (call : DbCall Data) : Prop where
  walks : RbTreeTree.WalksRight SessionKey.comparison db.tree call.id.key
  unused : CounterUnused fuel db call

/-- What a call does to the counters of the keys. An id is generated with the one after the last,
or after the clock where its list is new. -/
def CounterStep (before after : SessionKey → Option SessionCounter) :
    DbCall Data → DbResult Data → Prop
  | .add clock id _, .added (some new) =>
    (id.counter = .nullCounter → new.counter = ((before id.key).getD clock).next) ∧
      ∀ key, after key =
        if key = id.key then
          some (if id.counter = .nullCounter then new.counter else (before key).getD clock)
        else before key
  | _, _ => ∀ key counter, after key = some counter → before key = some counter

/-- A call returns what the map returns, and leaves what the map is then. -/
def Implements (fuel : Nat) (db : DiameterSessionDb Data)
    (whole : ColorTree (Slot SessionKey Nat)) (call : DbCall Data) : Prop :=
  ∃ next result nextWhole, db.perform fuel call = some (next, result) ∧
    Represents next nextWhole ∧ nextWhole.items.length ≤ whole.items.length + 1 ∧
    MapStep (mapOf db whole) call result (mapOf next nextWhole) ∧
    CounterStep (counterOf db whole) (counterOf next nextWhole) call result

section

variable (represents : Represents db whole) (enough : 2 * whole.items.length + 1 < fuel)
  {id : SessionId}

include represents enough

theorem findBy_eq_binding {key : SessionKey}
    (walks : RbTreeTree.WalksRight SessionKey.comparison db.tree key) :
    db.tree.findBy SessionKey.comparison fuel key = some (binding whole key) := by
  rw [RbTreeTree.findBy_eq walks]
  exact represents.wellFormed.find key (by omega)

theorem implements_lookup (right : CallRight fuel db (.lookup id)) :
    Implements fuel db whole (.lookup id) := by
  have walks : RbTreeTree.WalksRight SessionKey.comparison db.tree id.key := right.walks
  have found := findBy_eq_binding represents enough walks
  have returned : db.perform fuel (.lookup id) = some (db, .found (mapOf db whole id)) := by
    simp only [perform, lookup, found, mapOf]
    cases binding whole id.key <;> rfl
  exact ⟨db, _, whole, returned, represents, Nat.le_succ _, .found id, fun _ _ same => same⟩

/-- The first id under its key gets a list with a node of its own. -/
theorem implements_add_new {clock : SessionCounter} {data : Data}
    (right : CallRight fuel db (.add clock id data)) (absent : binding whole id.key = none) :
    Implements fuel db whole (.add clock id data) := by
  have walks : RbTreeTree.WalksRight SessionKey.comparison db.tree id.key := right.walks
  have found := findBy_eq_binding represents enough walks
  have short : whole.items.length < fuel := by omega
  let node : RbTreeData SessionKey Nat := ⟨id.key, db.newNode⟩
  have unbound : binding whole node.key = none := absent
  rcases represents.wellFormed.insert_unbound unbound short with
    ⟨tree, grown, inserted, wellFormed, size, bindings⟩
  rw [← represents.wellFormed.insertBy_eq walks short] at inserted
  generalize isList : (DiameterSessionEntryList.create clock).add id.counter data = added
  rcases added with ⟨list, counter⟩
  have distinct : list.Distinct :=
    (DiameterSessionEntryList.Distinct.create clock).add isList
      (DiameterSessionEntryList.lookup_create counter)
  rcases represents.insert wellFormed bindings distinct with ⟨represents', maps⟩
  have returned : db.perform fuel (.add clock id data) =
      some (({ db with tree, newNode := db.newNode + 1 } :
        DiameterSessionDb Data).setEntryList db.newNode list, .added (some { id with counter })) := by
    simp only [perform, add, found, absent, Option.bind_eq_bind, Option.bind_some, isList]
    rw [show db.tree.insertBy SessionKey.comparison fuel ⟨id.key, db.newNode⟩ =
      some (tree, some node) from inserted]
    rfl
  have missing : ∀ other, mapOf db whole ⟨id.key, other⟩ = none := by
    intro other
    simp [mapOf, absent]
  have changed : mapOf (({ db with tree, newNode := db.newNode + 1 } :
      DiameterSessionDb Data).setEntryList db.newNode list) grown =
        Function.update (mapOf db whole) { id with counter } (some data) := by
    funext other
    rw [maps]
    have fresh : ∀ other, mapOf db whole ⟨id.key, other⟩ =
        (DiameterSessionEntryList.create clock).lookup other := missing
    exact update_mapOf { id with counter } other fresh
      (DiameterSessionEntryList.lookup_add isList)
  have noCounter : counterOf db whole id.key = none := by
    rw [counterOf, absent]
    rfl
  refine ⟨_, _, grown, returned, represents', by omega, ?_, ?_, ?_⟩
  rotate_left
  · intro generated
    rw [generated] at isList
    rw [noCounter]
    exact DiameterSessionEntryList.add_generated isList
  · intro key
    rw [represents.counterOf_insert bindings,
      DiameterSessionEntryList.lastKnownCounter_add isList]
    by_cases here : key = id.key
    · rw [if_pos here, if_pos here, here, noCounter]
      rfl
    · rw [if_neg here, if_neg here]
  rw [changed]
  by_cases explicit : id.counter = .nullCounter
  · exact .generated counter (missing id.counter) explicit (missing counter)
  · have same := DiameterSessionEntryList.add_explicit isList explicit
    subst same
    exact .added (missing id.counter) explicit

/-- An id is added to the list of its node. -/
theorem implements_add_known {clock : SessionCounter} {data : Data}
    (right : CallRight fuel db (.add clock id data)) {node : RbTreeData SessionKey Nat}
    (bound : binding whole id.key = some node) :
    Implements fuel db whole (.add clock id data) := by
  have walks : RbTreeTree.WalksRight SessionKey.comparison db.tree id.key := right.walks
  have found := findBy_eq_binding represents enough walks
  rw [bound] at found
  have here : ∀ counter, mapOf db whole ⟨id.key, counter⟩ =
      (db.entryLists node.payload).lookup counter := by
    intro counter
    simp [mapOf, bound]
  cases present : (db.entryLists node.payload).lookup id.counter with
  | some old =>
    have returned : db.perform fuel (.add clock id data) = some (db, .added none) := by
      simp [perform, add, found, present]
    have isThere : mapOf db whole id ≠ none := by
      rw [show id = ⟨id.key, id.counter⟩ from rfl, here, present]
      simp
    exact ⟨db, _, whole, returned, represents, Nat.le_succ _, .present isThere,
      fun _ _ same => same⟩
  | none =>
    generalize isList : (db.entryLists node.payload).add id.counter data = added
    rcases added with ⟨list, counter⟩
    have unused : (db.entryLists node.payload).lookup counter = none := by
      by_cases explicit : id.counter = .nullCounter
      · have generated := isList
        rw [explicit] at generated
        rw [DiameterSessionEntryList.add_generated generated]
        exact right.unused explicit node found
      · rw [DiameterSessionEntryList.add_explicit isList explicit]
        exact present
    have distinct : list.Distinct :=
      (represents.distinct id.key node bound).add isList unused
    have returned : db.perform fuel (.add clock id data) =
        some (db.setEntryList node.payload list, .added (some { id with counter })) := by
      simp [perform, add, found, present, isList]
    have changed : mapOf (db.setEntryList node.payload list) whole =
        Function.update (mapOf db whole) { id with counter } (some data) := by
      funext other
      rw [mapOf_setEntryList represents bound]
      exact update_mapOf { id with counter } other here
        (DiameterSessionEntryList.lookup_add isList)
    have lastCounter : counterOf db whole id.key =
        some (db.entryLists node.payload).lastKnownCounter := by
      rw [counterOf, bound]
      rfl
    refine ⟨_, _, whole, returned, represents.setEntryList distinct, Nat.le_succ _, ?_, ?_, ?_⟩
    rotate_left
    · intro generated
      rw [generated] at isList
      rw [lastCounter]
      exact DiameterSessionEntryList.add_generated isList
    · intro key
      rw [counterOf_setEntryList represents bound,
        DiameterSessionEntryList.lastKnownCounter_add isList]
      by_cases here : key = id.key
      · rw [if_pos here, if_pos here, here, lastCounter]
        rfl
      · rw [if_neg here, if_neg here]
    rw [changed]
    have missing : mapOf db whole id = none := by
      rw [show id = ⟨id.key, id.counter⟩ from rfl, here, present]
    by_cases explicit : id.counter = .nullCounter
    · exact .generated counter missing explicit ((here counter).trans unused)
    · have same := DiameterSessionEntryList.add_explicit isList explicit
      subst same
      exact .added missing explicit

theorem implements_remove (right : CallRight fuel db (.remove id)) :
    Implements fuel db whole (.remove id) := by
  have walks : RbTreeTree.WalksRight SessionKey.comparison db.tree id.key := right.walks
  have found := findBy_eq_binding represents enough walks
  cases bound : binding whole id.key with
  | none =>
    rw [bound] at found
    have missing : mapOf db whole id = none := by
      rw [mapOf, bound]
      rfl
    have returned : db.perform fuel (.remove id) = some (db, .removed false) := by
      simp [perform, remove, found]
    have step : MapStep (mapOf db whole) _ _ _ := .removed id
    rw [missing, Option.isSome_none, Function.update_eq_self_iff.mpr missing.symm] at step
    exact ⟨db, _, whole, returned, represents, Nat.le_succ _, step, fun _ _ same => same⟩
  | some node =>
    rw [bound] at found
    have here : ∀ counter, mapOf db whole ⟨id.key, counter⟩ =
        (db.entryLists node.payload).lookup counter := by
      intro counter
      simp [mapOf, bound]
    have isThere : mapOf db whole id = (db.entryLists node.payload).lookup id.counter :=
      here id.counter
    cases present : (db.entryLists node.payload).lookup id.counter with
    | none =>
      have returned : db.perform fuel (.remove id) = some (db, .removed false) := by
        simp [perform, remove, found, present]
      have missing := isThere.trans present
      have step : MapStep (mapOf db whole) _ _ _ := .removed id
      rw [missing, Option.isSome_none, Function.update_eq_self_iff.mpr missing.symm] at step
      exact ⟨db, _, whole, returned, represents, Nat.le_succ _, step, fun _ _ same => same⟩
    | some old =>
      have listDistinct := represents.distinct id.key node bound
      have changed : ∀ other, (if other.key = id.key then
          ((db.entryLists node.payload).remove id.counter).lookup other.counter
          else mapOf db whole other) = Function.update (mapOf db whole) id none other :=
        fun other => update_mapOf id other here fun _ => listDistinct.lookup_remove
      have represents' : Represents
          (db.setEntryList node.payload ((db.entryLists node.payload).remove id.counter))
          whole :=
        represents.setEntryList listDistinct.remove
      have step : MapStep (mapOf db whole) _ _ _ := .removed id
      rw [isThere.trans present, Option.isSome_some] at step
      have counters : ∀ key counter, counterOf (db.setEntryList node.payload
          ((db.entryLists node.payload).remove id.counter)) whole key = some counter →
            counterOf db whole key = some counter := by
        intro key counter known
        rw [counterOf_setEntryList represents bound] at known
        by_cases sameKey : key = id.key
        · rw [if_pos sameKey] at known
          rw [counterOf, sameKey, bound]
          exact known
        · rwa [if_neg sameKey] at known
      by_cases last :
          ((db.entryLists node.payload).remove id.counter).entries.isEmpty = true
      · rcases represents.wellFormed.remove id.key enough with
          ⟨tree, fewer, removed, wellFormed, size, bindings⟩
        rw [← RbTreeTree.removeBy_eq walks] at removed
        refine ⟨_, .removed true, fewer, ?_, represents'.erase wellFormed bindings, by omega,
          ?_, ?_⟩
        · simp only [perform, remove, found, present, Option.bind_eq_bind, Option.bind_some]
          simp [last, setEntryList, removed]
        · have empty : ∀ counter, ((db.entryLists node.payload).remove id.counter).lookup
              counter = none := by
            intro counter
            rw [DiameterSessionEntryList.lookup, List.isEmpty_iff.mp last]
            rfl
          have same : mapOf { db.setEntryList node.payload
              ((db.entryLists node.payload).remove id.counter) with tree } fewer =
                Function.update (mapOf db whole) id none := by
            funext other
            rw [← changed, mapOf_erase bindings, mapOf_setEntryList represents bound, empty]
            by_cases sameKey : other.key = id.key <;> simp [sameKey]
          rw [same]
          exact step
        · intro key counter known
          rw [counterOf, bindings] at known
          split at known
          · cases known
          · exact counters key counter known
      · refine ⟨_, .removed true, whole, ?_, represents', Nat.le_succ _, ?_, counters⟩
        · simp only [perform, remove, found, present, Option.bind_eq_bind, Option.bind_some]
          simp [last]
        · have same : mapOf (db.setEntryList node.payload
              ((db.entryLists node.payload).remove id.counter)) whole =
                Function.update (mapOf db whole) id none := by
            funext other
            rw [mapOf_setEntryList represents bound, changed]
          rw [same]
          exact step

theorem implements {call : DbCall Data} (right : CallRight fuel db call) :
    Implements fuel db whole call := by
  cases call with
  | add clock id data =>
    cases bound : binding whole id.key with
    | none => exact implements_add_new represents enough right bound
    | some node => exact implements_add_known represents enough right bound
  | lookup id => exact implements_lookup represents enough right
  | remove id => exact implements_remove represents enough right

end

end DiameterSessionDb

end OpenDiameter.Session
