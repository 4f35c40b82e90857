import OpenDiameter.Session.SessionId

/-!
`DiameterSessionDb`: a red-black tree whose nodes each hold the entries of one diameter id with
one optional value.
-/

namespace OpenDiameter.Session

open OpenDiameter.Utility

variable {Data : Type}

structure DiameterSessionEntry (Data : Type) where
  counter : SessionCounter
  data : Data

/-- The entries, the last added first, and `m_LastKnownCounter`. -/
structure DiameterSessionEntryList (Data : Type) where
  entries : List (DiameterSessionEntry Data)
  lastKnownCounter : SessionCounter

namespace DiameterSessionEntryList

/-- The constructor, which reads the clock. -/
def create (gettimeofday : SessionCounter) : DiameterSessionEntryList Data where
  entries := []
  lastKnownCounter := gettimeofday

/-- `Add`, with the counter that the entry has then. -/
def add (list : DiameterSessionEntryList Data) (idCounter : SessionCounter) (data : Data) :
    DiameterSessionEntryList Data × SessionCounter :=
  if idCounter = .nullCounter then
    let counter := list.lastKnownCounter.next
    (⟨⟨counter, data⟩ :: list.entries, counter⟩, counter)
  else ({ list with entries := ⟨idCounter, data⟩ :: list.entries }, idCounter)

def lookup (list : DiameterSessionEntryList Data) (counter : SessionCounter) : Option Data :=
  (list.entries.find? fun entry => entry.counter == counter).map DiameterSessionEntry.data

/-- `Remove`, which takes the first entry with the counter. -/
def remove (list : DiameterSessionEntryList Data) (counter : SessionCounter) :
    DiameterSessionEntryList Data :=
  { list with entries := list.entries.eraseP fun entry => entry.counter == counter }

end DiameterSessionEntryList

/-- The tree's data are pointers to nodes, here the numbers of their entry lists. -/
structure DiameterSessionDb (Data : Type) where
  tree : RbTreeTree SessionKey Nat
  entryLists : Nat → DiameterSessionEntryList Data
  newNode : Nat

namespace DiameterSessionDb

def empty : DiameterSessionDb Data where
  tree := .empty
  entryLists := fun _ => .create .nullCounter
  newNode := 0

def setEntryList (db : DiameterSessionDb Data) (node : Nat)
    (list : DiameterSessionEntryList Data) : DiameterSessionDb Data :=
  { db with entryLists := Function.update db.entryLists node list }

/-- `Add`: the id that was added, with a generated counter where it had none; nothing where it
fails. -/
def add (fuel : Nat) (gettimeofday : SessionCounter) (db : DiameterSessionDb Data)
    (id : SessionId) (data : Data) : Option (DiameterSessionDb Data × Option SessionId) := do
  match ← db.tree.findBy SessionKey.comparison fuel id.key with
  | some prevNode =>
    let list := db.entryLists prevNode.payload
    if (list.lookup id.counter).isSome then return (db, none)
    let (list, counter) := list.add id.counter data
    return (db.setEntryList prevNode.payload list, some { id with counter })
  | none =>
    let (list, counter) := (DiameterSessionEntryList.create gettimeofday).add id.counter data
    let (tree, _) ← db.tree.insertBy SessionKey.comparison fuel ⟨id.key, db.newNode⟩
    let db := { db with tree, newNode := db.newNode + 1 }.setEntryList db.newNode list
    return (db, some { id with counter })

def lookup (fuel : Nat) (db : DiameterSessionDb Data) (id : SessionId) :
    Option (Option Data) := do
  match ← db.tree.findBy SessionKey.comparison fuel id.key with
  | some prevNode => return (db.entryLists prevNode.payload).lookup id.counter
  | none => return none

/-- `Remove`. A node whose list is empty goes with its last entry. -/
def remove (fuel : Nat) (db : DiameterSessionDb Data) (id : SessionId) :
    Option (DiameterSessionDb Data × Bool) := do
  match ← db.tree.findBy SessionKey.comparison fuel id.key with
  | some prevNode =>
    let list := db.entryLists prevNode.payload
    if (list.lookup id.counter).isNone then return (db, false)
    let list := list.remove id.counter
    let db := db.setEntryList prevNode.payload list
    if list.entries.isEmpty then
      let (tree, _) ← db.tree.removeBy SessionKey.comparison fuel id.key
      return ({ db with tree }, true)
    else return (db, true)
  | none => return (db, false)

end DiameterSessionDb

/-- A call of the database. -/
inductive DbCall (Data : Type) where
  | add (gettimeofday : SessionCounter) (id : SessionId) (data : Data)
  | lookup (id : SessionId)
  | remove (id : SessionId)

def DbCall.id : DbCall Data → SessionId
  | .add _ id _ => id
  | .lookup id => id
  | .remove id => id

/-- What a call returns. -/
inductive DbResult (Data : Type) where
  | added (id : Option SessionId)
  | found (data : Option Data)
  | removed (success : Bool)
  deriving DecidableEq

namespace DiameterSessionDb

def perform (fuel : Nat) (db : DiameterSessionDb Data) :
    DbCall Data → Option (DiameterSessionDb Data × DbResult Data)
  | .add gettimeofday id data =>
    (db.add fuel gettimeofday id data).map fun (db, id) => (db, .added id)
  | .lookup id => (db.lookup fuel id).map fun data => (db, .found data)
  | .remove id => (db.remove fuel id).map fun (db, success) => (db, .removed success)

def performAll (fuel : Nat) (db : DiameterSessionDb Data) :
    List (DbCall Data) → Option (DiameterSessionDb Data × List (DbResult Data))
  | [] => some (db, [])
  | call :: calls => do
      let (db, result) ← db.perform fuel call
      let (db, results) ← db.performAll fuel calls
      return (db, result :: results)

end DiameterSessionDb

end OpenDiameter.Session
