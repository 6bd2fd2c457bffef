import Asio.Lib.IntrusiveList
import Mathlib.Algebra.Ring.Nat
import Mathlib.Order.Lattice

/-! # The timer queue

`asio::detail::timer_queue<Time_Traits>`: the timers with pending waits form an
intrusive doubly linked list headed by `timers_`, and those that can expire also
have an entry in `heap_`, a vector kept as a binary min-heap, whose position
they remember in `heap_index_`. The `per_timer_data` objects are a memory with
one map for each member, indexed by the address of the object.
-/

namespace Asio.Timer

/-- The part of `Time_Traits` the queue uses: `less_than` is the order, and
`is_positive_infinity` singles out the times that never come. -/
class TimeTraits (Time : Type*) extends LinearOrder Time where
  isPositiveInfinity : Time → Bool

/-- `Time_Traits::less_than`. -/
def lessThan {Time : Type*} [TimeTraits Time] (first second : Time) : Bool := decide (first < second)

/-- The error codes a `wait_op` completes with. -/
inductive ErrorCode where
  | success
  | operationAborted
  deriving DecidableEq, Repr

/-- `wait_op`: the operation's address and its `ec_`. -/
structure WaitOp (Op : Type*) where
  op : Op
  ec : ErrorCode
  deriving DecidableEq, Repr

/-- The operation with `ec_ = asio::error::operation_aborted`. -/
def WaitOp.abort {Op : Type*} (wait : WaitOp Op) : WaitOp Op :=
  { wait with ec := .operationAborted }

/-- `timer_queue::heap_entry`. -/
structure HeapEntry (Id Time : Type*) where
  time : Time
  timer : Id
  deriving DecidableEq, Repr

/-- `(std::numeric_limits<std::size_t>::max)()`. -/
def sizeMax : Nat := 2 ^ 64 - 1

/-- No `std::vector` holds more than `PTRDIFF_MAX` entries. -/
def vectorMaxSize : Nat := 2 ^ 63 - 1

/-- A timer queue and the `per_timer_data` memory it works on: `timers` is
`timers_` with the members `next_` and `prev_`. -/
structure TimerQueue (Id Op Time : Type*) where
  opQueue : Id → List (WaitOp Op)
  heapIndex : Id → Nat
  timers : IntrusiveList Id
  heap : Array (HeapEntry Id Time)

namespace TimerQueue

variable {Id Op Time : Type*}

/-- An empty queue over default-constructed `per_timer_data` objects. -/
def empty : TimerQueue Id Op Time where
  opQueue _ := []
  heapIndex _ := sizeMax
  timers := ⟨none, fun _ => none, fun _ => none⟩
  heap := #[]

variable [DecidableEq Id]

/-- The test `timer.prev_ != 0 || &timer == timers_`. -/
def isActive (queue : TimerQueue Id Op Time) (timer : Id) : Bool :=
  (queue.timers.prev timer).isSome || queue.timers.head == some timer

/-- `timer.heap_index_ = index`. -/
def setHeapIndex (queue : TimerQueue Id Op Time) (timer : Id) (index : Nat) :
    TimerQueue Id Op Time :=
  { queue with heapIndex := Function.update queue.heapIndex timer index }

/-- `timer.op_queue_` replaced. -/
def setOpQueue (queue : TimerQueue Id Op Time) (timer : Id) (ops : List (WaitOp Op)) :
    TimerQueue Id Op Time :=
  { queue with opQueue := Function.update queue.opQueue timer ops }

/-- Swap two entries in the heap. -/
def swapHeap (queue : TimerQueue Id Op Time) (index1 index2 : Nat) : TimerQueue Id Op Time :=
  let queue := { queue with heap := queue.heap.swapIfInBounds index1 index2 }
  let queue := match queue.heap[index1]? with
    | some entry => queue.setHeapIndex entry.timer index1
    | none => queue
  match queue.heap[index2]? with
    | some entry => queue.setHeapIndex entry.timer index2
    | none => queue

variable [TimeTraits Time]

/-- `Time_Traits::less_than(heap_[index1].time_, heap_[index2].time_)`, for
indices inside the heap. -/
def heapLess (queue : TimerQueue Id Op Time) (index1 index2 : Nat) : Bool :=
  match queue.heap[index1]?, queue.heap[index2]? with
  | some entry1, some entry2 => lessThan entry1.time entry2.time
  | _, _ => false

/-- The loop of `up_heap`, which at most `index` iterations end. -/
def upHeapLoop : Nat → TimerQueue Id Op Time → Nat → TimerQueue Id Op Time
  | 0, queue, _ => queue
  | fuel + 1, queue, index =>
      if 0 < index then
        let parent := (index - 1) / 2
        if !queue.heapLess index parent then queue
        else upHeapLoop fuel (queue.swapHeap index parent) parent
      else queue

/-- Move the item at the given index up the heap to its correct position. -/
def upHeap (queue : TimerQueue Id Op Time) (index : Nat) : TimerQueue Id Op Time :=
  upHeapLoop index queue index

/-- The loop of `down_heap`, which at most `heap_.size()` iterations end. -/
def downHeapLoop : Nat → TimerQueue Id Op Time → Nat → TimerQueue Id Op Time
  | 0, queue, _ => queue
  | fuel + 1, queue, index =>
      let child := index * 2 + 1
      if child < queue.heap.size then
        let minChild := if child + 1 = queue.heap.size || queue.heapLess child (child + 1)
          then child else child + 1
        if queue.heapLess index minChild then queue
        else downHeapLoop fuel (queue.swapHeap index minChild) minChild
      else queue

/-- Move the item at the given index down the heap to its correct position. -/
def downHeap (queue : TimerQueue Id Op Time) (index : Nat) : TimerQueue Id Op Time :=
  downHeapLoop queue.heap.size queue index

/-- The heap half of `remove_timer`. -/
def removeFromHeap (queue : TimerQueue Id Op Time) (timer : Id) : TimerQueue Id Op Time :=
  let index := queue.heapIndex timer
  if index < queue.heap.size then
    if index = queue.heap.size - 1 then
      let queue := queue.setHeapIndex timer sizeMax
      { queue with heap := queue.heap.pop }
    else
      let queue := queue.swapHeap index (queue.heap.size - 1)
      let queue := queue.setHeapIndex timer sizeMax
      let queue := { queue with heap := queue.heap.pop }
      if 0 < index && queue.heapLess index ((index - 1) / 2) then queue.upHeap index
      else queue.downHeap index
  else queue

/-- Remove a timer from the heap and list of timers. -/
def removeTimer (queue : TimerQueue Id Op Time) (timer : Id) : TimerQueue Id Op Time :=
  let queue := queue.removeFromHeap timer
  { queue with timers := queue.timers.unlink timer }

/-- `heap_.push_back(entry)`: it throws when the allocation fails, and always
when the vector has its maximal size. -/
def pushBack (allocated : Bool) (heap : Array (HeapEntry Id Time)) (entry : HeapEntry Id Time) :
    Option (Array (HeapEntry Id Time)) :=
  if allocated && heap.size < vectorMaxSize then some (heap.push entry) else none

/-- The first half of `enqueue_timer`: an inactive timer gets its heap entry,
unless its time is positive infinity, and is inserted into the list of active
timers. The flag says whether `push_back` returned. -/
def activate (allocated : Bool) (queue : TimerQueue Id Op Time) (time : Time) (timer : Id) :
    TimerQueue Id Op Time × Bool :=
  if queue.isActive timer then (queue, true)
  else if TimeTraits.isPositiveInfinity time then
    let queue := queue.setHeapIndex timer sizeMax
    ({ queue with timers := queue.timers.pushFront timer }, true)
  else
    let queue := queue.setHeapIndex timer queue.heap.size
    match pushBack allocated queue.heap ⟨time, timer⟩ with
    | none => (queue, false)
    | some heap =>
        let queue := { queue with heap := heap }
        let queue := queue.upHeap (queue.heap.size - 1)
        ({ queue with timers := queue.timers.pushFront timer }, true)

/-- Add a new timer to the queue: the resulting queue, and the result (none when
`push_back` threw). -/
def enqueueTimer [DecidableEq Op] (allocated : Bool) (queue : TimerQueue Id Op Time) (time : Time)
    (timer : Id) (op : WaitOp Op) : TimerQueue Id Op Time × Option Bool :=
  match queue.activate allocated time timer with
  | (queue, false) => (queue, none)
  | (queue, true) =>
      let queue := queue.setOpQueue timer (queue.opQueue timer ++ [op])
      (queue, some (queue.heapIndex timer == 0 &&
        (queue.opQueue timer).head?.map WaitOp.op == some op.op))

/-- `empty`. -/
def isEmpty (queue : TimerQueue Id Op Time) : Bool := queue.timers.head.isNone

/-- The loop of `get_ready_timers`, which at most `heap_.size()` iterations end. -/
def getReadyLoop (now : Time) : Nat → TimerQueue Id Op Time → List (WaitOp Op) →
    TimerQueue Id Op Time × List (WaitOp Op)
  | 0, queue, ops => (queue, ops)
  | fuel + 1, queue, ops =>
      match queue.heap[0]? with
      | none => (queue, ops)
      | some root =>
          if lessThan now root.time then (queue, ops)
          else
            let ops := ops ++ queue.opQueue root.timer
            let queue := queue.setOpQueue root.timer []
            getReadyLoop now fuel (queue.removeTimer root.timer) ops

/-- Dequeue all timers not later than the current time. -/
def getReadyTimers (queue : TimerQueue Id Op Time) (now : Time) (ops : List (WaitOp Op)) :
    TimerQueue Id Op Time × List (WaitOp Op) :=
  getReadyLoop now queue.heap.size queue ops

/-- The loop of `cancel_timer`: the aborted operations, those that stay, and
`num_cancelled`. -/
def cancelLoop (maxCancelled : Nat) :
    Nat → List (WaitOp Op) → List (WaitOp Op) × List (WaitOp Op) × Nat
  | numCancelled, [] => ([], [], numCancelled)
  | numCancelled, op :: rest =>
      if numCancelled ≠ maxCancelled then
        let (aborted, kept, count) := cancelLoop maxCancelled (numCancelled + 1) rest
        (op.abort :: aborted, kept, count)
      else ([], op :: rest, numCancelled)

/-- Cancel and dequeue operations for the given timer: the resulting queue, the
operations pushed to `ops`, and their number. -/
def cancelTimer (queue : TimerQueue Id Op Time) (timer : Id) (maxCancelled : Nat) :
    TimerQueue Id Op Time × List (WaitOp Op) × Nat :=
  if queue.isActive timer then
    let (aborted, kept, count) := cancelLoop maxCancelled 0 (queue.opQueue timer)
    let queue := queue.setOpQueue timer kept
    (if kept.isEmpty then queue.removeTimer timer else queue, aborted, count)
  else (queue, [], 0)

/-- Move operations from one timer to another, empty timer. -/
def moveTimer (queue : TimerQueue Id Op Time) (target source : Id) : TimerQueue Id Op Time :=
  let queue := queue.setOpQueue target (queue.opQueue target ++ queue.opQueue source)
  let queue := queue.setOpQueue source []
  let queue := queue.setHeapIndex target (queue.heapIndex source)
  let queue := queue.setHeapIndex source sizeMax
  let queue := match queue.heap[queue.heapIndex target]? with
    | some entry => { queue with
        heap := queue.heap.setIfInBounds (queue.heapIndex target) { entry with timer := target } }
    | none => queue
  { queue with timers := queue.timers.replace target source }

end TimerQueue

end Asio.Timer
