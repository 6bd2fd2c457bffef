import Asio.Lib.Custody
import Asio.Reactor.OpTable
import Asio.Reactor.SelectBlocking
import Asio.Timer.QueueAll

/-! # Where the select reactor keeps operations

Operations wait in a queue or for a timer, or are with the thread in `run`; a call takes them
from there to a queue of its own, and then to the scheduler or to their end. The loops of the
reactor only let operations leave the front of its queues.
-/

namespace Asio.Reactor

open Timer (WaitOp)

/-- The address of an operation. -/
def Operation.op {Op : Type*} : Operation Op → Op
  | .reactor op => op.op
  | .wait op => op.op

/-! ## Dequeuing all operations -/

/-- The loop of `get_all_operations`, which appends to `ops`. -/
def ReactorOpQueue.getAllLoop {Descriptor Op : Type*} [DecidableEq Descriptor] :
    List Descriptor → ReactorOpQueue Descriptor Op → List (ReactorOp Op) →
    ReactorOpQueue Descriptor Op × List (ReactorOp Op)
  | [], queue, ops => (queue, ops)
  | descriptor :: descriptors, queue, ops =>
      getAllLoop descriptors (queue.erase descriptor) (ops ++ queue.pending descriptor)

/-- `get_all_operations`. -/
def ReactorOpQueue.getAllOperations {Descriptor Op : Type*} [DecidableEq Descriptor]
    (queue : ReactorOpQueue Descriptor Op) (ops : List (ReactorOp Op)) :
    ReactorOpQueue Descriptor Op × List (ReactorOp Op) :=
  getAllLoop queue.descriptors queue ops

theorem ReactorOpQueue.getAllLoop_pending {Descriptor Op : Type*} [DecidableEq Descriptor]
    (descriptors : List Descriptor) (queue : ReactorOpQueue Descriptor Op)
    (ops : List (ReactorOp Op)) (descriptor : Descriptor) :
    (getAllLoop descriptors queue ops).1.pending descriptor =
      if descriptor ∈ descriptors then [] else queue.pending descriptor := by
  induction descriptors generalizing queue ops with
  | nil => rw [getAllLoop, if_neg List.not_mem_nil]
  | cons first descriptors ih =>
      rw [getAllLoop, ih, pending_erase]
      by_cases own : descriptor = first
      · subst own
        simp
      · simp [own]

/-- No operation is left. -/
theorem ReactorOpQueue.getAllOperations_pending {Descriptor Op : Type*} [DecidableEq Descriptor]
    (queue : ReactorOpQueue Descriptor Op) (ops : List (ReactorOp Op)) (descriptor : Descriptor) :
    (queue.getAllOperations ops).1.pending descriptor = [] := by
  rw [getAllOperations, getAllLoop_pending]
  split
  · rfl
  · next absent =>
    rw [mem_descriptors, hasOperation, Option.not_isSome_iff_eq_none] at absent
    exact pending_of_not_found absent

namespace SelectReactor

variable {Service Id Op Time : Type*}

/-- The loop of `shutdown` over the queues. -/
def getAllLoop : List OpType → (OpType → ReactorOpQueue Nat Op) → List (ReactorOp Op) →
    (OpType → ReactorOpQueue Nat Op) × List (ReactorOp Op)
  | [], opQueue, ops => (opQueue, ops)
  | i :: is, opQueue, ops =>
      let (queue, ops) := (opQueue i).getAllOperations ops
      getAllLoop is (Function.update opQueue i queue) ops

theorem getAllLoop_of_not_mem {is : List OpType} {opQueue : OpType → ReactorOpQueue Nat Op}
    {ops : List (ReactorOp Op)} {i : OpType} (absent : i ∉ is) :
    (getAllLoop is opQueue ops).1 i = opQueue i := by
  induction is generalizing opQueue ops with
  | nil => rfl
  | cons first is ih =>
      rw [List.mem_cons, not_or] at absent
      rw [getAllLoop, ih absent.2, Function.update_of_ne absent.1]

/-- No operation is left. -/
theorem getAllLoop_pending {is : List OpType} {opQueue : OpType → ReactorOpQueue Nat Op}
    {ops : List (ReactorOp Op)} {i : OpType} (distinct : is.Nodup) (member : i ∈ is)
    (descriptor : Nat) : ((getAllLoop is opQueue ops).1 i).pending descriptor = [] := by
  induction is generalizing opQueue ops with
  | nil => cases member
  | cons first is ih =>
      obtain ⟨fresh, distinct⟩ := List.nodup_cons.mp distinct
      rcases List.mem_cons.mp member with rfl | later
      · rw [getAllLoop, getAllLoop_of_not_mem fresh, Function.update_self]
        exact ReactorOpQueue.getAllOperations_pending _ _ descriptor
      · exact ih distinct later

end SelectReactor

/-! ## Places -/

/-- The places where an operation may be. -/
inductive SelectPlace (Id : Type*) where
  | waiting (opType : OpType) (descriptor : Nat)
  | timed (timer : Id)
  | ops
  | running
  | handedOver
  | destroyed

/-- The operations in all the places. -/
structure SelectHoldings (Id Op : Type*) where
  opQueue : OpType → ReactorOpQueue Nat Op
  timers : Id → List (WaitOp Op)
  ops : List (ReactorOp Op)
  waits : List (WaitOp Op)
  running : List (ReactorOp Op)
  handedOver : List (Operation Op)
  destroyed : List (Operation Op)

namespace SelectHoldings

variable {Service Id Op Time : Type*}

/-- The contents of a place. -/
def contents (holdings : SelectHoldings Id Op) : SelectPlace Id → List Op
  | .waiting opType descriptor => ((holdings.opQueue opType).pending descriptor).map ReactorOp.op
  | .timed timer => (holdings.timers timer).map WaitOp.op
  | .ops => holdings.ops.map ReactorOp.op ++ holdings.waits.map WaitOp.op
  | .running => holdings.running.map ReactorOp.op
  | .handedOver => holdings.handedOver.map Operation.op
  | .destroyed => holdings.destroyed.map Operation.op

/-- The operations that were given are in one place each. -/
def Kept (given : List Op) (holdings : SelectHoldings Id Op) : Prop :=
  Custody.Kept given holdings.contents

/-- What the thread in `run` holds. -/
def ofRun : SelectRun Service Op Time → List (ReactorOp Op)
  | .idle => []
  | .blocked _ _ _ ops => ops
  | .returned _ ops => ops

variable {given : List Op} {holdings : SelectHoldings Id Op}

@[simp] theorem op_complete (ec : ErrorCode) (op : ReactorOp Op) :
    (op.complete ec).op = op.op := rfl

@[simp] theorem map_complete (ec : ErrorCode) (ops : List (ReactorOp Op)) :
    (ops.map (ReactorOp.complete ec)).map ReactorOp.op = ops.map ReactorOp.op := by
  rw [List.map_map]
  rfl

@[simp] theorem map_abort (ops : List (WaitOp Op)) :
    (ops.map WaitOp.abort).map WaitOp.op = ops.map WaitOp.op := by
  rw [List.map_map]
  rfl

@[simp] theorem map_reactor (ops : List (ReactorOp Op)) :
    (ops.map Operation.reactor).map Operation.op = ops.map ReactorOp.op := by
  rw [List.map_map]
  rfl

@[simp] theorem map_wait (ops : List (WaitOp Op)) :
    (ops.map Operation.wait).map Operation.op = ops.map WaitOp.op := by
  rw [List.map_map]
  rfl

/-- Operations that leave the front of a queue arrive among the `ops`. -/
theorem Kept.leave (kept : holdings.Kept given) (opType : OpType) (descriptor : Nat)
    {queue : ReactorOpQueue Nat Op} {taken left arrived : List (ReactorOp Op)}
    (pending : queue.pending =
      Function.update (holdings.opQueue opType).pending descriptor left)
    (arrives : arrived.map ReactorOp.op = taken.map ReactorOp.op)
    (split : (taken ++ left).map ReactorOp.op =
      ((holdings.opQueue opType).pending descriptor).map ReactorOp.op) :
    Kept given { holdings with
      opQueue := Function.update holdings.opQueue opType queue
      ops := holdings.ops ++ arrived } := by
  apply Custody.Kept.move kept (.waiting opType descriptor) .ops (taken.map ReactorOp.op)
  · intro same
    cases same
  · simp only [contents, Function.update_self, pending]
    rw [← List.map_append, split]
  · simp only [contents, List.map_append, arrives, List.append_assoc]
    exact List.Perm.append_left _ List.perm_append_comm
  · intro place other _
    cases place with
    | waiting i d =>
        by_cases own : i = opType
        · subst own
          have different : d ≠ descriptor := fun same => other (same ▸ rfl)
          simp only [contents, Function.update_self, pending, Function.update_of_ne different]
        · simp only [contents, Function.update_of_ne own]
    | ops => contradiction
    | timed _ => rfl
    | running => rfl
    | handedOver => rfl
    | destroyed => rfl

/-- An operation is queued. -/
theorem Kept.enqueue (kept : holdings.Kept given) (opType : OpType) (descriptor : Nat)
    (op : ReactorOp Op) (fresh : op.op ∉ given) :
    Kept (given ++ [op.op]) { holdings with
      opQueue := Function.update holdings.opQueue opType
        ((holdings.opQueue opType).enqueueOperation descriptor op).1 } := by
  have pending : ((holdings.opQueue opType).enqueueOperation descriptor op).1.pending = _ :=
    (ReactorOpQueue.enqueueOperation_pending op).1
  apply Custody.Kept.enter kept (.waiting opType descriptor) fresh
  · simp [contents, pending]
  · intro place other
    cases place with
    | waiting i d =>
        by_cases own : i = opType
        · subst own
          have different : d ≠ descriptor := fun same => other (same ▸ rfl)
          simp only [contents, Function.update_self, pending, Function.update_of_ne different]
        · simp only [contents, Function.update_of_ne own]
    | timed _ => rfl
    | ops => rfl
    | running => rfl
    | handedOver => rfl
    | destroyed => rfl

@[simp] theorem op_finished (perform : Op → Option ErrorCode) (op : ReactorOp Op) :
    (ReactorOpQueue.finished perform op).op = op.op := by
  unfold ReactorOpQueue.finished
  split <;> rfl

@[simp] theorem map_finished (perform : Op → Option ErrorCode) (ops : List (ReactorOp Op)) :
    (ops.map (ReactorOpQueue.finished perform)).map ReactorOp.op = ops.map ReactorOp.op := by
  rw [List.map_map]
  exact List.map_congr_left fun op _ => op_finished perform op

end SelectHoldings

/-! ## Loops over the queues -/

/-- Operations have left the queues and have been appended to `ops`. -/
inductive Leaves {Op : Type*} (start : OpType → ReactorOpQueue Nat Op)
    (first : List (ReactorOp Op)) : (OpType → ReactorOpQueue Nat Op) → List (ReactorOp Op) → Prop
  | refl : Leaves start first start first
  | leave {opQueue : OpType → ReactorOpQueue Nat Op} {ops : List (ReactorOp Op)}
      (i : OpType) (descriptor : Nat) {queue : ReactorOpQueue Nat Op}
      {taken left arrived : List (ReactorOp Op)} : Leaves start first opQueue ops →
      queue.pending = Function.update (opQueue i).pending descriptor left →
      arrived.map ReactorOp.op = taken.map ReactorOp.op →
      taken ++ left = (opQueue i).pending descriptor →
      Leaves start first (Function.update opQueue i queue) (ops ++ arrived)

namespace Leaves

variable {Op : Type*} {start opQueue : OpType → ReactorOpQueue Nat Op}
  {first ops : List (ReactorOp Op)}

theorem cancelOperations (leaves : Leaves start first opQueue ops) (i : OpType) (descriptor : Nat)
    (ec : ErrorCode) :
    Leaves start first
      (Function.update opQueue i ((opQueue i).cancelOperations descriptor ops ec).1)
      ((opQueue i).cancelOperations descriptor ops ec).2.1 := by
  obtain ⟨pending, result⟩ : (_ = _) ∧ ((opQueue i).cancelOperations descriptor ops ec).2 = _ :=
    ReactorOpQueue.cancelOperations_pending ec
  rw [congrArg Prod.fst result]
  exact leaves.leave i descriptor pending (SelectHoldings.map_complete ec _) (List.append_nil _)

theorem performOperations (leaves : Leaves start first opQueue ops) (i : OpType)
    (descriptor : Nat) (perform : Op → Option ErrorCode) :
    Leaves start first
      (Function.update opQueue i ((opQueue i).performOperations descriptor perform ops).1)
      ((opQueue i).performOperations descriptor perform ops).2.1 := by
  obtain ⟨pending, result⟩ :
      (_ = _) ∧ ((opQueue i).performOperations descriptor perform ops).2 = _ :=
    ReactorOpQueue.performOperations_pending perform
  rw [congrArg Prod.fst result]
  rw [ReactorOpQueue.performLoop_eq] at pending ⊢
  exact leaves.leave i descriptor pending (SelectHoldings.map_finished perform _)
    (List.takeWhile_append_dropWhile)

theorem cancelLoop (leaves : Leaves start first opQueue ops) (descriptor : Nat)
    (ec : ErrorCode) (is : List OpType) (needInterrupt : Bool) :
    Leaves start first (SelectReactor.cancelLoop descriptor ec is opQueue ops needInterrupt).1
      (SelectReactor.cancelLoop descriptor ec is opQueue ops needInterrupt).2.1 := by
  induction is generalizing opQueue ops needInterrupt with
  | nil => exact leaves
  | cons i is ih => exact ih (leaves.cancelOperations i descriptor ec) _

theorem setLoop (i : OpType) (descriptors : List Nat) (adapter : FdSetAdapter)
    {queue : ReactorOpQueue Nat Op}
    (leaves : Leaves start first (Function.update opQueue i queue) ops) :
    Leaves start first
      (Function.update opQueue i (FdSetAdapter.setLoop descriptors adapter queue ops).2.1)
      (FdSetAdapter.setLoop descriptors adapter queue ops).2.2 := by
  induction descriptors generalizing adapter queue ops with
  | nil => exact leaves
  | cons descriptor descriptors ih =>
      rw [FdSetAdapter.setLoop]
      split
      · exact ih _ leaves
      · apply ih
        have next := leaves.cancelOperations i descriptor .fdSetFailure
        rw [Function.update_self, Function.update_idem] at next
        exact next

theorem foldl_next (is : List OpType) {setUp : SelectReactor.SetUp Op}
    (leaves : Leaves start first setUp.opQueue setUp.ops) :
    Leaves start first (is.foldl SelectReactor.SetUp.next setUp).opQueue
      (is.foldl SelectReactor.SetUp.next setUp).ops := by
  induction is generalizing setUp with
  | nil => exact leaves
  | cons i is ih =>
      rw [← Function.update_eq_self i setUp.opQueue] at leaves
      exact ih (leaves.setLoop i _ _)

theorem performDescriptors (i : OpType) (descriptors : List Nat) (adapter : FdSetAdapter)
    (perform : Op → Option ErrorCode) {queue : ReactorOpQueue Nat Op}
    (leaves : Leaves start first (Function.update opQueue i queue) ops) :
    Leaves start first
      (Function.update opQueue i (adapter.performLoop perform descriptors queue ops).1)
      (adapter.performLoop perform descriptors queue ops).2 := by
  induction descriptors generalizing queue ops with
  | nil => exact leaves
  | cons descriptor descriptors ih =>
      rw [FdSetAdapter.performLoop]
      split
      · apply ih
        have next := leaves.performOperations i descriptor perform
        rw [Function.update_self, Function.update_idem] at next
        exact next
      · exact ih leaves

theorem performLoop (leaves : Leaves start first opQueue ops) (is : List OpType)
    (fdSets : OpType → FdSetAdapter) (perform : Op → Option ErrorCode) :
    Leaves start first (SelectReactor.performLoop fdSets perform is opQueue ops).1
      (SelectReactor.performLoop fdSets perform is opQueue ops).2 := by
  induction is generalizing opQueue ops with
  | nil => exact leaves
  | cons i is ih =>
      rw [← Function.update_eq_self i opQueue] at leaves
      exact ih (leaves.performDescriptors i _ (fdSets i) perform)

theorem getAllDescriptors (i : OpType) (descriptors : List Nat) {queue : ReactorOpQueue Nat Op}
    (leaves : Leaves start first (Function.update opQueue i queue) ops) :
    Leaves start first
      (Function.update opQueue i (ReactorOpQueue.getAllLoop descriptors queue ops).1)
      (ReactorOpQueue.getAllLoop descriptors queue ops).2 := by
  induction descriptors generalizing queue ops with
  | nil => exact leaves
  | cons descriptor descriptors ih =>
      rw [ReactorOpQueue.getAllLoop]
      apply ih
      have erased : (queue.erase descriptor).pending =
          Function.update queue.pending descriptor [] :=
        ReactorOpQueue.pending_erase
      rw [← Function.update_self i queue opQueue] at erased
      have next := leaves.leave i descriptor erased rfl (List.append_nil _)
      rw [Function.update_self, Function.update_idem] at next
      exact next

theorem getAllLoop (leaves : Leaves start first opQueue ops) (is : List OpType) :
    Leaves start first (SelectReactor.getAllLoop is opQueue ops).1
      (SelectReactor.getAllLoop is opQueue ops).2 := by
  induction is generalizing opQueue ops with
  | nil => exact leaves
  | cons i is ih =>
      rw [← Function.update_eq_self i opQueue] at leaves
      exact ih (leaves.getAllDescriptors i _)

/-- No operation joins a queue. -/
theorem fewer (leaves : Leaves start first opQueue ops) (i : OpType) (descriptor : Nat) :
    ∀ op ∈ (opQueue i).pending descriptor, op ∈ (start i).pending descriptor := by
  induction leaves with
  | refl => exact fun _ member => member
  | @leave opQueue ops j other queue taken left arrived leaves pending arrives split ih =>
      intro op member
      apply ih
      by_cases own : i = j
      · subst own
        rw [Function.update_self, pending] at member
        by_cases same : descriptor = other
        · subst same
          rw [Function.update_self] at member
          rw [← split]
          exact List.mem_append_right _ member
        · rwa [Function.update_of_ne same] at member
      · rwa [Function.update_of_ne own] at member

end Leaves

namespace SelectHoldings

variable {Service Id Op Time : Type*} {given : List Op} {holdings : SelectHoldings Id Op}

theorem Kept.leaves {opQueue : OpType → ReactorOpQueue Nat Op} {ops : List (ReactorOp Op)}
    (kept : holdings.Kept given) (leaves : Leaves holdings.opQueue holdings.ops opQueue ops) :
    Kept given { holdings with
      opQueue := opQueue
      ops := ops } := by
  induction leaves with
  | refl => exact kept
  | leave i descriptor leaves pending arrives split ih =>
      exact ih.leave i descriptor pending arrives (congrArg _ split)

/-! ## Timers -/

/-- An operation waits for a timer. -/
theorem Kept.schedule [DecidableEq Id] (kept : holdings.Kept given) (timer : Id) (op : WaitOp Op)
    (fresh : op.op ∉ given) :
    Kept (given ++ [op.op]) { holdings with
      timers := Function.update holdings.timers timer (holdings.timers timer ++ [op]) } := by
  apply Custody.Kept.enter kept (.timed timer) fresh
  · simp [contents]
  · intro place other
    cases place with
    | timed some =>
        have different : some ≠ timer := fun same => other (same ▸ rfl)
        simp only [contents, Function.update_of_ne different]
    | waiting _ _ => rfl
    | ops => rfl
    | running => rfl
    | handedOver => rfl
    | destroyed => rfl

/-- The oldest operations of a timer arrive among the `waits`. -/
theorem Kept.cancelTimer [DecidableEq Id] (kept : holdings.Kept given) (timer : Id)
    (maxCancelled : Nat) :
    Kept given { holdings with
      timers := Function.update holdings.timers timer ((holdings.timers timer).drop maxCancelled)
      waits := holdings.waits ++
        ((holdings.timers timer).take maxCancelled).map WaitOp.abort } := by
  apply Custody.Kept.move kept (.timed timer) .ops
    (((holdings.timers timer).take maxCancelled).map WaitOp.op)
  · intro same
    cases same
  · simp only [contents, Function.update_self]
    rw [← List.map_append, List.take_append_drop]
  · simp only [contents, List.map_append, map_abort, List.append_assoc]
    exact List.Perm.refl _
  · intro place other _
    cases place with
    | timed some =>
        have different : some ≠ timer := fun same => other (same ▸ rfl)
        simp only [contents, Function.update_of_ne different]
    | ops => contradiction
    | waiting _ _ => rfl
    | running => rfl
    | handedOver => rfl
    | destroyed => rfl

/-- All operations of some timers arrive among the `waits`. -/
theorem Kept.takeTimers (kept : holdings.Kept given) {ready : List Id} (distinct : ready.Nodup)
    {timers : Id → List (WaitOp Op)} (taken : ∀ timer ∈ ready, timers timer = [])
    (stays : ∀ timer, timer ∉ ready → timers timer = holdings.timers timer) :
    Kept given { holdings with
      timers := timers
      waits := holdings.waits ++ ready.flatMap holdings.timers } := by
  apply Custody.Kept.gather kept (ready.map .timed) .ops holdings.contents
  · apply distinct.map
    intro first second same
    exact SelectPlace.timed.inj same
  · intro member
    obtain ⟨timer, -, same⟩ := List.mem_map.mp member
    cases same
  · intro place member
    obtain ⟨timer, isReady, rfl⟩ := List.mem_map.mp member
    simp [contents, taken timer isReady]
  · simp only [contents, List.map_append, List.flatMap_map, List.map_flatMap, List.append_assoc]
    exact List.Perm.refl _
  · intro place outside _
    cases place with
    | timed timer =>
        have waits : timer ∉ ready :=
          fun isReady => outside (List.mem_map.mpr ⟨timer, isReady, rfl⟩)
        simp only [contents, stays timer waits]
    | ops => contradiction
    | waiting _ _ => rfl
    | running => rfl
    | handedOver => rfl
    | destroyed => rfl

/-! ## From hand to hand -/

/-- The local operations are handed over to the scheduler. -/
theorem Kept.handOver (kept : holdings.Kept given) :
    Kept given { holdings with
      ops := []
      waits := []
      handedOver := holdings.handedOver ++ holdings.ops.map .reactor ++
        holdings.waits.map .wait } := by
  apply Custody.Kept.move kept .ops .handedOver (holdings.contents .ops)
  · intro same
    cases same
  · simp [contents]
  · simp only [contents, List.map_append, map_reactor, map_wait, List.append_assoc]
    exact List.Perm.refl _
  · intro place other another
    cases place <;> first | contradiction | rfl

/-- The local operations are destroyed. -/
theorem Kept.destroy (kept : holdings.Kept given) :
    Kept given { holdings with
      ops := []
      waits := []
      destroyed := holdings.destroyed ++ (holdings.ops.map .reactor ++
        holdings.waits.map .wait) } := by
  apply Custody.Kept.move kept .ops .destroyed (holdings.contents .ops)
  · intro same
    cases same
  · simp [contents]
  · simp only [contents, List.map_append, map_reactor, map_wait]
    exact List.Perm.refl _
  · intro place other another
    cases place <;> first | contradiction | rfl

/-- `run` keeps its operations while it blocks. -/
theorem Kept.block (kept : holdings.Kept given) (idle : holdings.running = [])
    (none : holdings.waits = []) :
    Kept given { holdings with
      ops := []
      running := holdings.ops } := by
  apply Custody.Kept.move kept .ops .running (holdings.contents .ops)
  · intro same
    cases same
  · simp [contents, none]
  · simp [contents, idle, none]
  · intro place other another
    cases place <;> first | contradiction | rfl

/-- `run` has taken the lock again. -/
theorem Kept.resume (kept : holdings.Kept given) (nothing : holdings.ops = [])
    (none : holdings.waits = []) :
    Kept given { holdings with
      ops := holdings.running
      running := [] } := by
  apply Custody.Kept.move kept .running .ops (holdings.contents .running)
  · intro same
    cases same
  · simp [contents]
  · simp [contents, nothing, none]
  · intro place other another
    cases place <;> first | contradiction | rfl

/-- A new operation is handed over at once. -/
theorem Kept.forward (kept : holdings.Kept given) (op : Operation Op) (fresh : op.op ∉ given) :
    Kept (given ++ [op.op]) { holdings with
      handedOver := holdings.handedOver ++ [op] } := by
  apply Custody.Kept.enter kept .handedOver fresh
  · simp [contents]
  · intro place other
    cases place <;> first | contradiction | rfl

end SelectHoldings

end Asio.Reactor
