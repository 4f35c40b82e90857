import Mathlib.Algebra.BigOperators.Intervals
import Mathlib.Logic.Function.Basic

/-!
`AAA_QueueJob` of `framework.h`: entries wait in one list for each priority and
weight, and each priority has a list of the numbers of those lists, from which
`Dequeue` is told where to take the next entry.
-/

namespace OpenDiameter.Framework

def maxNumPriority : Nat := 3

def maxMaxWeight : Nat := 3

/-- What the constructor fixes. It throws when a bound is exceeded. -/
structure QueueShape where
  numPriority : Nat
  maxWeight : Nat
  /-- `MaxSize()`, the largest `size_t`. -/
  maxSize : Nat
  fewPriorities : numPriority ≤ maxNumPriority
  lowWeight : maxWeight ≤ maxMaxWeight
  /-- `size_t` is at least as wide as `unsigned`. -/
  wideSize : 2 ^ 32 - 1 ≤ maxSize

structure QueueJob (Entry : Type) where
  indexQueue : Nat → List Nat
  dataQueue : Nat → List Entry
  total : Nat
  signaled : Bool

/-- What a call did, with the value it returns. -/
inductive Reply (Entry : Type) where
  /-- The thread waits for the condition. -/
  | waits
  | declines (value : Int)
  | queued (value : Int)
  /-- The entry taken out and the data queue it was in; 1 is returned. -/
  | serves (dIndex : Nat) (entry : Entry)
  | removed (value : Int)
  | flushed
deriving DecidableEq

namespace QueueShape

variable (shape : QueueShape)

def index (priority : Nat) : Nat :=
  (if priority > maxNumPriority then maxNumPriority else priority) - 1

def dataIndex (priority weight : Nat) : Nat :=
  let p := if priority > maxNumPriority then maxNumPriority else priority
  let w := if weight > maxMaxWeight then maxMaxWeight else weight
  (p - 1) * shape.maxWeight + (w - 1)

/-- The data queues of the array. -/
def dataQueues : List Nat := List.range (shape.numPriority * shape.maxWeight)

/-- The weight a data queue is for. -/
def weightOf (dIndex : Nat) : Nat := dIndex % shape.maxWeight + 1

/-- The priority a data queue is for, counted from 0. -/
def priorityOf (dIndex : Nat) : Nat := dIndex / shape.maxWeight

end QueueShape

namespace QueueJob

variable {Entry : Type} (shape : QueueShape)

def fresh : QueueJob Entry where
  indexQueue := fun _ => []
  dataQueue := fun _ => []
  total := 0
  signaled := false

def enqueue (queue : QueueJob Entry) (entry : Entry) (blocking : Bool)
    (priority weight : Nat) : Reply Entry × QueueJob Entry :=
  if queue.signaled = false ∧ queue.total = shape.maxSize then
    (if blocking then .waits else .declines 0, queue)
  else if queue.signaled ∧ blocking then
    (.declines (-1), queue)
  else
    let pIndex := QueueShape.index priority
    let dIndex := shape.dataIndex priority weight
    let indexQueue :=
      if (queue.dataQueue dIndex).length < weight then
        Function.update queue.indexQueue pIndex (queue.indexQueue pIndex ++ [dIndex])
      else queue.indexQueue
    let total : Nat := (queue.total + 1) % 2 ^ 32
    (.queued (Int.bmod total (2 ^ 32)),
      { queue with
        indexQueue
        dataQueue :=
          Function.update queue.dataQueue dIndex (queue.dataQueue dIndex ++ [entry])
        total })

/-- The first priority whose index queue is not empty, that queue's front and
what is behind it. -/
def front (queue : QueueJob Entry) : Option (Nat × Nat × List Nat) :=
  (List.range shape.numPriority).findSome? fun p =>
    match queue.indexQueue p with
    | [] => none
    | dIndex :: rest => some (p, dIndex, rest)

/-- The front of an empty list is undefined, and so is the call then. -/
def dequeue (queue : QueueJob Entry) (blocking : Bool) :
    Option (Reply Entry × QueueJob Entry) :=
  if queue.signaled = false ∧ queue.total = 0 then
    some (if blocking then .waits else .declines 0, queue)
  else if queue.signaled ∧ blocking then
    some (.declines (-1), queue)
  else
    match queue.front shape with
    | none => some (.declines 0, queue)
    | some (p, dIndex, rest) =>
      match queue.dataQueue dIndex with
      | [] => none
      | entry :: left =>
        let index :=
          if left.length ≥ shape.weightOf dIndex then rest ++ [dIndex] else rest
        some (.serves dIndex entry,
          { queue with
            indexQueue := Function.update queue.indexQueue p index
            dataQueue := Function.update queue.dataQueue dIndex left
            total := (queue.total + (2 ^ 32 - 1)) % 2 ^ 32 })

/-- The loop of `AdjustIndexQueue` from the iterator on, with its counter `j`. -/
def adjustIndexQueue (dIndex size : Nat) (j : Nat) : List Nat → List Nat
  | [] => []
  | index :: rest =>
    if index = dIndex then
      if j + 1 > size then adjustIndexQueue dIndex size (j + 1) rest
      -- `i = i++` assigns the old position, so the iterator stays
      else adjustIndexQueue dIndex size (j + 1) (index :: rest)
    else index :: adjustIndexQueue dIndex size j rest
termination_by queue => (queue.length, size - j)

variable [DecidableEq Entry]

/-- One data queue of `Remove`, beside the `totalRemove` so far. -/
def removeFrom (entry : Entry) (pIndex : Nat) (state : QueueJob Entry × Int)
    (dIndex : Nat) : QueueJob Entry × Int :=
  let queue := state.1
  let preSize := (queue.dataQueue dIndex).length % 2 ^ 32
  let left := (queue.dataQueue dIndex).filter (· ≠ entry)
  let postSize := left.length % 2 ^ 32
  let dataQueue := Function.update queue.dataQueue dIndex left
  if preSize ≠ postSize then
    let removed : Nat := (preSize + (2 ^ 32 - postSize)) % 2 ^ 32
    ({ queue with
        dataQueue
        total := (queue.total + (2 ^ 32 - removed)) % 2 ^ 32
        indexQueue :=
          Function.update queue.indexQueue pIndex
            (adjustIndexQueue dIndex left.length 0 (queue.indexQueue pIndex)) },
      -- the operator is `=+`, an assignment
      Int.bmod removed (2 ^ 32))
  else ({ queue with dataQueue }, state.2)

def remove (queue : QueueJob Entry) (entry : Entry) : QueueJob Entry × Int :=
  (List.range shape.numPriority).foldl
    (fun state i =>
      (List.range' (i * shape.maxWeight) shape.maxWeight).foldl (removeFrom entry i) state)
    (queue, 0)

def flush (queue : QueueJob Entry) : QueueJob Entry :=
  { queue with
    indexQueue := fun p => if p < shape.numPriority then [] else queue.indexQueue p
    dataQueue := fun d =>
      if d < shape.numPriority * shape.maxWeight then [] else queue.dataQueue d
    total := 0 }

end QueueJob

/-- The calls of an owner of a queue. -/
inductive QueueCall (Entry : Type) where
  | enqueue (entry : Entry) (blocking : Bool) (priority weight : Nat)
  | dequeue (blocking : Bool)
  | remove (entry : Entry)
  | flush

namespace QueueCall

variable {Entry : Type}

def InRange (shape : QueueShape) : QueueCall Entry → Prop
  | .enqueue _ _ priority weight =>
    1 ≤ priority ∧ priority ≤ shape.numPriority ∧ 1 ≤ weight ∧ weight ≤ shape.maxWeight
  | _ => True

def perform (shape : QueueShape) [DecidableEq Entry] (queue : QueueJob Entry) :
    QueueCall Entry → Option (Reply Entry × QueueJob Entry)
  | .enqueue entry blocking priority weight =>
    some (queue.enqueue shape entry blocking priority weight)
  | .dequeue blocking => queue.dequeue shape blocking
  | .remove entry =>
    let (queue, removed) := queue.remove shape entry
    some (.removed removed, queue)
  | .flush => some (.flushed, queue.flush shape)

end QueueCall

end OpenDiameter.Framework
