import Asio.Error
import Mathlib.Data.List.AList

/-! # The operations of a reactor by descriptor

`reactor_op_queue`: a map from descriptors to queues of operations, none of them
empty. The hash map is taken as the finite map it implements.
-/

namespace Asio.Reactor

/-- `reactor_op`: its address and its `ec_`. -/
structure ReactorOp (Op : Type*) where
  op : Op
  ec : ErrorCode := .success
  deriving DecidableEq, Repr

/-- The operation with another `ec_`. -/
def ReactorOp.complete {Op : Type*} (ec : ErrorCode) (op : ReactorOp Op) : ReactorOp Op :=
  { op with ec := ec }

/-- `reactor_op_queue`. -/
structure ReactorOpQueue (Descriptor Op : Type*) where
  operations : AList fun _ : Descriptor => List (ReactorOp Op)
  busy : ∀ entry ∈ operations.entries, entry.2 ≠ []

namespace ReactorOpQueue

variable {Descriptor Op : Type*}

/-- The constructor. -/
def new : ReactorOpQueue Descriptor Op where
  operations := ∅
  busy _ member := absurd member List.not_mem_nil

/-- `empty`. -/
def empty (queue : ReactorOpQueue Descriptor Op) : Bool := queue.operations.entries.isEmpty

/-- The descriptors, in the order of iteration. -/
def descriptors (queue : ReactorOpQueue Descriptor Op) : List Descriptor := queue.operations.keys

variable [DecidableEq Descriptor]

/-- `has_operation`. -/
def hasOperation (queue : ReactorOpQueue Descriptor Op) (descriptor : Descriptor) : Bool :=
  (queue.operations.lookup descriptor).isSome

/-- The queue of a descriptor gets its new contents. -/
def put (queue : ReactorOpQueue Descriptor Op) (descriptor : Descriptor)
    (ops : List (ReactorOp Op)) (some : ops ≠ []) : ReactorOpQueue Descriptor Op where
  operations := queue.operations.insert descriptor ops
  busy entry member := by
    rw [AList.entries_insert, List.mem_cons] at member
    obtain rfl | other := member
    · exact some
    · exact queue.busy entry ((List.kerase_sublist _ _).subset other)

/-- `operations_.erase(i)`. -/
def erase (queue : ReactorOpQueue Descriptor Op) (descriptor : Descriptor) :
    ReactorOpQueue Descriptor Op where
  operations := queue.operations.erase descriptor
  busy entry member := queue.busy entry ((List.kerase_sublist _ _).subset member)

/-- `enqueue_operation`. -/
def enqueueOperation (queue : ReactorOpQueue Descriptor Op) (descriptor : Descriptor)
    (op : ReactorOp Op) : ReactorOpQueue Descriptor Op × Bool :=
  match queue.operations.lookup descriptor with
  | none => (queue.put descriptor [op] (List.cons_ne_nil _ _), true)
  | some ops => (queue.put descriptor (ops ++ [op]) (List.concat_ne_nil _ _), false)

/-- `cancel_operations`, which appends to `ops`. -/
def cancelOperations (queue : ReactorOpQueue Descriptor Op) (descriptor : Descriptor)
    (ops : List (ReactorOp Op)) (ec : ErrorCode) :
    ReactorOpQueue Descriptor Op × List (ReactorOp Op) × Bool :=
  match queue.operations.lookup descriptor with
  | none => (queue, ops, false)
  | some pending => (queue.erase descriptor, ops ++ pending.map (ReactorOp.complete ec), true)

/-- The loop of `perform_operations`: those that finish, with their errors, and
those that are left, beginning with the first that does not. -/
def performLoop (perform : Op → Option ErrorCode) :
    List (ReactorOp Op) → List (ReactorOp Op) × List (ReactorOp Op)
  | [] => ([], [])
  | op :: ops => match perform op.op with
      | some ec =>
          let (finished, left) := performLoop perform ops
          (op.complete ec :: finished, left)
      | none => ([], op :: ops)

/-- An operation that `perform` finished. -/
def finished (perform : Op → Option ErrorCode) (op : ReactorOp Op) : ReactorOp Op :=
  match perform op.op with
  | some ec => op.complete ec
  | none => op

/-- The loop takes the longest stretch of operations that finish. -/
theorem performLoop_eq (perform : Op → Option ErrorCode) (ops : List (ReactorOp Op)) :
    performLoop perform ops =
      ((ops.takeWhile fun op => (perform op.op).isSome).map (finished perform),
        ops.dropWhile fun op => (perform op.op).isSome) := by
  induction ops with
  | nil => rfl
  | cons op ops ih =>
      rw [performLoop]
      cases outcome : perform op.op with
      | none => simp [outcome]
      | some ec => simp [outcome, ih, finished]

/-- `perform_operations`, which appends to `ops`. -/
def performOperations (queue : ReactorOpQueue Descriptor Op) (descriptor : Descriptor)
    (perform : Op → Option ErrorCode) (ops : List (ReactorOp Op)) :
    ReactorOpQueue Descriptor Op × List (ReactorOp Op) × Bool :=
  match queue.operations.lookup descriptor with
  | none => (queue, ops, false)
  | some pending =>
      let finished := (performLoop perform pending).1
      let left := (performLoop perform pending).2
      if some : left ≠ [] then (queue.put descriptor left some, ops ++ finished, true)
      else (queue.erase descriptor, ops ++ finished, false)

section Lemmas

variable {queue : ReactorOpQueue Descriptor Op} {descriptor other : Descriptor}
  {ops : List (ReactorOp Op)}

theorem hasOperation_iff :
    queue.hasOperation descriptor = true ↔ descriptor ∈ queue.operations := by
  rw [hasOperation, AList.lookup_isSome]

theorem mem_descriptors :
    descriptor ∈ queue.descriptors ↔ queue.hasOperation descriptor = true := by
  rw [hasOperation_iff, descriptors, AList.mem_keys]

@[simp] theorem hasOperation_put (some : ops ≠ []) :
    (queue.put other ops some).hasOperation descriptor = true ↔
      descriptor = other ∨ queue.hasOperation descriptor = true := by
  rw [hasOperation_iff, hasOperation_iff]
  exact AList.mem_insert _

@[simp] theorem hasOperation_erase : (queue.erase other).hasOperation descriptor = true ↔
    descriptor ≠ other ∧ queue.hasOperation descriptor = true := by
  rw [hasOperation_iff, hasOperation_iff]
  exact AList.mem_erase

theorem hasOperation_enqueue (op : ReactorOp Op) :
    (queue.enqueueOperation other op).1.hasOperation descriptor = true ↔
      descriptor = other ∨ queue.hasOperation descriptor = true := by
  unfold enqueueOperation
  split
  · exact hasOperation_put (List.cons_ne_nil _ _)
  · exact hasOperation_put (List.concat_ne_nil _ _)

/-- The result says whether the operation is the only one of its descriptor. -/
theorem enqueue_first (op : ReactorOp Op) :
    (queue.enqueueOperation descriptor op).2 = !queue.hasOperation descriptor := by
  unfold enqueueOperation hasOperation
  split
  · next none => rw [none]; rfl
  · next found => rw [found]; rfl

theorem hasOperation_cancel (ec : ErrorCode) :
    (queue.cancelOperations other ops ec).1.hasOperation descriptor = true ↔
      descriptor ≠ other ∧ queue.hasOperation descriptor = true := by
  unfold cancelOperations
  split
  · next none =>
    refine ⟨fun waits => ⟨?_, waits⟩, And.right⟩
    rintro rfl
    simp [hasOperation, none] at waits
  · exact hasOperation_erase

/-- Nothing is handed over only if the descriptor has no operation. -/
theorem cancel_eq_nil (ec : ErrorCode) :
    (queue.cancelOperations descriptor ops ec).2.1 = [] ↔
      ops = [] ∧ queue.hasOperation descriptor = false := by
  unfold cancelOperations
  split
  · next none => simp [hasOperation, none]
  · next pending found =>
    have some : pending ≠ [] :=
      queue.busy ⟨descriptor, pending⟩ (AList.mem_lookup_iff.mp found)
    simp [hasOperation, found, some]

end Lemmas

end ReactorOpQueue

end Asio.Reactor
