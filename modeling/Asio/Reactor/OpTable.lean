import Asio.Core.HashMapRuns
import Asio.Reactor.OpQueue

/-! # The hash map of operations

`reactor_op_queue` over the `hash_map` that holds it: `mapped_type` is a queue of
operations whose copy constructor and assignment copy nothing, so a node that is
used again keeps the queue it was left with.
-/

namespace Asio.Reactor

open Asio.Core

/-- `reactor_op_queue::mapped_type`. -/
structure MappedType (Op : Type*) where
  queue : List (ReactorOp Op)

/-- `mapped_type() {}`, `mapped_type(const mapped_type&) {}` and
`void operator=(const mapped_type&) {}`. -/
instance {Op : Type*} : Copying (MappedType Op) where
  default := ⟨[]⟩
  copy _ := ⟨[]⟩
  assign old _ := old

/-- `reactor_op_queue` with its `operations_`. -/
structure ReactorOpTable (Node Descriptor Op : Type*) where
  operations : HashMap Node Descriptor (MappedType Op)

namespace ReactorOpTable

variable {Node Descriptor Op : Type*} [DecidableEq Node] [DecidableEq Descriptor]
  [HashValue Descriptor] [Inhabited Descriptor] (table : ReactorOpTable Node Descriptor Op)

/-- `it->second` with other operations. -/
def setQueue (node : Node) (ops : List (ReactorOp Op)) : ReactorOpTable Node Descriptor Op :=
  { operations := table.operations.write node ⟨ops⟩ }

/-- `enqueue_operation`; none when the hash map fails. -/
def enqueueOperation (allocated : Node) (descriptor : Descriptor) (op : ReactorOp Op) :
    Option (ReactorOpTable Node Descriptor Op × Bool) :=
  match table.operations.insert allocated (descriptor, Copying.default) with
  | some (operations, some node, isNew) =>
      let table : ReactorOpTable Node Descriptor Op := { operations }
      some (table.setQueue node ((operations.value node).queue ++ [op]), isNew)
  | some (_, none, _) => none
  | none => none

/-- The loop of `cancel_operations`, which empties the queue. -/
def cancelLoop (ec : ErrorCode) :
    List (ReactorOp Op) → List (ReactorOp Op) → List (ReactorOp Op)
  | [], ops => ops
  | op :: pending, ops => cancelLoop ec pending (ops ++ [op.complete ec])

/-- `operations_.erase(i)`. -/
def erase (node : Node) : Option (ReactorOpTable Node Descriptor Op) :=
  (table.operations.eraseIt (some node)).map fun operations => { operations }

/-- `cancel_operations` of an iterator. -/
def cancelIt (it : Option Node) (ops : List (ReactorOp Op)) (ec : ErrorCode) :
    Option (ReactorOpTable Node Descriptor Op × List (ReactorOp Op) × Bool) :=
  match it with
  | none => some (table, ops, false)
  | some node =>
      let ops := cancelLoop ec (table.operations.value node).queue ops
      ((table.setQueue node []).erase node).map fun table => (table, ops, true)

/-- `cancel_operations`. -/
def cancelOperations (descriptor : Descriptor) (ops : List (ReactorOp Op)) (ec : ErrorCode) :
    Option (ReactorOpTable Node Descriptor Op × List (ReactorOp Op) × Bool) :=
  match table.operations.find descriptor with
  | none => none
  | some it => table.cancelIt it ops ec

/-- `has_operation`. -/
def hasOperation (descriptor : Descriptor) : Option Bool :=
  match table.operations.find descriptor with
  | none => none
  | some it => some it.isSome

/-- `perform_operations` of an iterator: `perform` tells which operations finish. -/
def performIt (it : Option Node) (perform : Op → Option ErrorCode) (ops : List (ReactorOp Op)) :
    Option (ReactorOpTable Node Descriptor Op × List (ReactorOp Op) × Bool) :=
  match it with
  | none => some (table, ops, false)
  | some node =>
      let (finished, left) := ReactorOpQueue.performLoop perform (table.operations.value node).queue
      let table := table.setQueue node left
      if left ≠ [] then some (table, ops ++ finished, true)
      else (table.erase node).map fun table => (table, ops ++ finished, false)

/-- `perform_operations`. -/
def performOperations (descriptor : Descriptor) (perform : Op → Option ErrorCode)
    (ops : List (ReactorOp Op)) :
    Option (ReactorOpTable Node Descriptor Op × List (ReactorOp Op) × Bool) :=
  match table.operations.find descriptor with
  | none => none
  | some it => table.performIt it perform ops

/-- A pass of the loop of `get_all_operations`. -/
def getAllBody
    (state : ReactorOpTable Node Descriptor Op × List (ReactorOp Op) × Option Node) :
    Loop.Pass (ReactorOpTable Node Descriptor Op × List (ReactorOp Op) × Option Node)
      (ReactorOpTable Node Descriptor Op × List (ReactorOp Op)) :=
  let (table, ops, i) := state
  match i with
  | none => .leave (table, ops)
  | some node =>
      let following := NodeList.next table.operations.values i
      let ops := ops ++ (table.operations.value node).queue
      match (table.setQueue node []).erase node with
      | none => .blocked
      | some table => .again (table, ops, following)

/-- `get_all_operations`. -/
def getAllOperations (ops : List (ReactorOp Op)) :
    Option (ReactorOpTable Node Descriptor Op × List (ReactorOp Op)) :=
  Loop.evaluate getAllBody (table.operations.values.length + 1)
    (table, ops, table.operations.values.head?)

/-- `empty`. -/
def empty : Bool := table.operations.values.isEmpty

end ReactorOpTable

/-! ### The queues of a table -/

/-- The queue that a finite map of queues has for a descriptor. -/
def queues {Node Descriptor Op : Type*} (entries : Entries Node Descriptor (MappedType Op))
    (descriptor : Descriptor) : List (ReactorOp Op) :=
  match entries descriptor with
  | some (_, mapped) => mapped.queue
  | none => []

namespace ReactorOpTable

variable {Node Descriptor Op : Type*} [DecidableEq Descriptor]

theorem queues_update (entries : Entries Node Descriptor (MappedType Op)) (descriptor : Descriptor)
    (node : Node) (ops : List (ReactorOp Op)) :
    queues (Function.update entries descriptor (some (node, ⟨ops⟩))) =
      Function.update (queues entries) descriptor ops := by
  funext other
  by_cases same : other = descriptor
  · subst same
    simp [queues]
  · simp [queues, same]

theorem queues_update_none (entries : Entries Node Descriptor (MappedType Op))
    (descriptor : Descriptor) : queues (Function.update entries descriptor none) =
      Function.update (queues entries) descriptor [] := by
  funext other
  by_cases same : other = descriptor
  · subst same
    simp [queues]
  · simp [queues, same]

variable [DecidableEq Node] [HashValue Descriptor] {table next : ReactorOpTable Node Descriptor Op}
  {node : Node} {descriptor : Descriptor}

/-- The operations that wait for a descriptor. -/
def pending (table : ReactorOpTable Node Descriptor Op) : Descriptor → List (ReactorOp Op) :=
  queues table.operations.contents

/-- The invariant of a table: the queues of the entries are not empty, and those of
the spare nodes are. -/
structure Valid (table : ReactorOpTable Node Descriptor Op) : Prop where
  operations : table.operations.Valid
  busy : ∀ node ∈ table.operations.values, (table.operations.value node).queue ≠ []
  spare : ∀ node ∈ table.operations.spares, (table.operations.value node).queue = []

omit [DecidableEq Node] in
theorem Valid.pending_key (valid : table.Valid) (member : node ∈ table.operations.values) :
    table.pending (table.operations.key node) = (table.operations.value node).queue := by
  have found := valid.operations.contents_eq_some.mpr ⟨member, rfl, rfl⟩
  simp only [pending, queues, found]

omit [DecidableEq Node] in
/-- A descriptor has an entry exactly when operations wait for it. -/
theorem Valid.entry_eq_none (valid : table.Valid) :
    table.operations.entry descriptor = none ↔ table.pending descriptor = [] := by
  cases found : table.operations.entry descriptor with
  | none => simp only [pending, queues, HashMap.contents, found, Option.map_none]
  | some node =>
      obtain ⟨member, rfl⟩ := valid.operations.entry_eq_some.mp found
      rw [valid.pending_key member]
      exact iff_of_false (Option.some_ne_none node) (valid.busy node member)

theorem Valid.setQueue (valid : table.Valid) (member : node ∈ table.operations.values)
    {ops : List (ReactorOp Op)} (some : ops ≠ []) : (table.setQueue node ops).Valid ∧
      (table.setQueue node ops).pending =
        Function.update table.pending (table.operations.key node) ops := by
  refine ⟨⟨valid.operations.write node _, ?_, ?_⟩, ?_⟩
  · intro other inside
    change (Function.update table.operations.value node ⟨ops⟩ other).queue ≠ []
    by_cases same : other = node
    · subst same
      rw [Function.update_self]
      exact some
    · rw [Function.update_of_ne same]
      exact valid.busy other inside
  · intro other inside
    have different : other ≠ node := fun same =>
      (List.nodup_append.mp valid.operations.nodup).2.2 node member other inside same.symm
    change (Function.update table.operations.value node ⟨ops⟩ other).queue = []
    rw [Function.update_of_ne different]
    exact valid.spare other inside
  · unfold pending
    rw [← queues_update]
    exact congrArg queues (valid.operations.contents_write member _)

/-- **The drained queue.** An entry whose queue was emptied is erased, and its node
is spared with an empty queue. -/
theorem Valid.erase [Inhabited Descriptor] (valid : table.Valid)
    (member : node ∈ table.operations.values) :
    ∃ next, (table.setQueue node []).erase node = some next ∧ next.Valid ∧
      next.pending = Function.update table.pending (table.operations.key node) [] ∧
      next.operations.values = table.operations.values.erase node ∧
      ∀ other, other ≠ node → next.operations.value other = table.operations.value other ∧
        next.operations.key other = table.operations.key other := by
  have written := valid.operations.write node (⟨[]⟩ : MappedType Op)
  obtain ⟨operations, erases, erased, after⟩ := written.eraseIt_eq member
  have others : ∀ other, other ≠ node →
      operations.value other = table.operations.value other ∧
        operations.key other = table.operations.key other := by
    intro other different
    rw [erased.value_eq, erased.key_eq, Function.update_of_ne different,
      Function.update_of_ne different]
    exact ⟨Function.update_of_ne different _ _, rfl⟩
  refine ⟨⟨operations⟩, ?_, ⟨after, ?_, ?_⟩, ?_, erased.values_eq, others⟩
  · simp only [ReactorOpTable.erase, ReactorOpTable.setQueue, erases, Option.map_some]
  · intro other inside
    simp only [erased.values_eq] at inside
    obtain ⟨different, inside⟩ := written.values_nodup.mem_erase_iff.mp inside
    rw [(others other different).1]
    exact valid.busy other inside
  · intro other inside
    simp only [erased.spares_eq] at inside
    by_cases same : other = node
    · -- The assignment of `value_type()` leaves the queue alone, which was emptied before.
      subst same
      simp only [erased.value_eq, Function.update_self]
      exact congrArg MappedType.queue (Function.update_self _ _ _)
    · rw [(others other same).1]
      exact valid.spare other ((List.mem_cons.mp inside).resolve_left same)
  · unfold pending
    rw [erased.contents_eq written after member, valid.operations.contents_write member]
    change queues (Function.update (Function.update _ (table.operations.key node) _)
      (table.operations.key node) none) = _
    rw [Function.update_idem, queues_update_none]

variable [Inhabited Descriptor]

omit [Inhabited Descriptor] in
/-- **`enqueue_operation`.** A recycled node comes with an empty queue, so the
operation is the first one. -/
theorem Valid.enqueue (valid : table.Valid) {allocated : Node}
    (fresh : table.operations.Fresh allocated) (op : ReactorOp Op) :
    ∃ next, table.enqueueOperation allocated descriptor op =
        some (next, (table.pending descriptor).isEmpty) ∧ next.Valid ∧
      next.pending =
        Function.update table.pending descriptor (table.pending descriptor ++ [op]) := by
  obtain ⟨middle, same, rehashed, positive⟩ :=
    valid.operations.insert_eq allocated (descriptor, Copying.default)
  have between : (⟨middle⟩ : ReactorOpTable Node Descriptor Op).Valid := by
    refine ⟨rehashed.valid valid.operations positive, ?_, ?_⟩
    · intro node member
      simp only [rehashed.value_eq]
      exact valid.busy node (rehashed.perm.mem_iff.mp member)
    · intro node member
      simp only [rehashed.value_eq]
      exact valid.spare node (rehashed.spares_eq ▸ member)
  have samePending : (⟨middle⟩ : ReactorOpTable Node Descriptor Op).pending = table.pending :=
    congrArg queues (rehashed.contents_eq valid.operations positive)
  rw [← samePending]
  simp only [enqueueOperation, same]
  cases found : middle.entry descriptor with
  | some node =>
      obtain ⟨member, rfl⟩ := between.operations.entry_eq_some.mp found
      have waiting := between.pending_key member
      rw [between.operations.insertHashed_present found]
      obtain ⟨after, pending⟩ :=
        between.setQueue member (List.concat_ne_nil op (middle.value node).queue)
      refine ⟨_, ?_, after, ?_⟩
      · have some := between.busy node member
        rw [waiting, List.isEmpty_eq_false_iff.mpr some]
      · rw [pending, waiting]
  | none =>
      have freshNow : middle.Fresh allocated := by
        intro none member
        rw [rehashed.spares_eq] at none
        exact fresh none (rehashed.perm.mem_iff.mp member)
      have absent : middle.entry (descriptor, (Copying.default : MappedType Op)).1 = none := found
      obtain ⟨operations, inserts, inserted, after⟩ :=
        between.operations.insertHashed_absent positive freshNow absent
      have none := between.entry_eq_none.mp found
      have notTaken := between.operations.taken_not_mem freshNow
      obtain ⟨left, right, split, placed⟩ := inserted.values_eq
      have member : middle.taken allocated ∈ operations.values := by
        rw [placed]
        simp
      have stored : middle.stored (Copying.default : MappedType Op) = ⟨[]⟩ := by
        unfold HashMap.stored
        split
        · rfl
        · next spare rest spares =>
          have empty := between.spare spare (by simp [spares])
          change middle.value spare = _
          rw [← empty]
      have value : operations.value (middle.taken allocated) = ⟨[]⟩ := by
        rw [inserted.value_eq, Function.update_self, stored]
      have key : operations.key (middle.taken allocated) = descriptor := by
        rw [inserted.key_eq, Function.update_self]
      rw [inserts]
      simp only [value, List.nil_append, none, List.isEmpty_nil]
      refine ⟨_, rfl, ⟨after.write _ _, ?_, ?_⟩, ?_⟩
      · intro node inside
        change (Function.update operations.value (middle.taken allocated) ⟨[op]⟩ node).queue ≠ []
        by_cases isTaken : node = middle.taken allocated
        · subst isTaken
          rw [Function.update_self]
          exact List.cons_ne_nil op []
        · rw [Function.update_of_ne isTaken, inserted.value_eq, Function.update_of_ne isTaken]
          apply between.busy node
          change node ∈ middle.values
          change node ∈ operations.values at inside
          rw [placed, List.mem_append, List.mem_cons] at inside
          rw [split, List.mem_append]
          tauto
      · intro node inside
        change (Function.update operations.value (middle.taken allocated) ⟨[op]⟩ node).queue = []
        have isTaken : node ≠ middle.taken allocated := fun isTaken =>
          (List.nodup_append.mp after.nodup).2.2 _ member node inside isTaken.symm
        rw [Function.update_of_ne isTaken, inserted.value_eq, Function.update_of_ne isTaken]
        apply between.spare node
        change node ∈ operations.spares at inside
        rw [inserted.spares_eq] at inside
        exact List.mem_of_mem_tail inside
      · change queues (operations.write _ _).contents = _
        rw [after.contents_write member, key, queues_update,
          inserted.contents_eq between.operations after notTaken absent, queues_update]
        simp only [Function.update_idem]
        rfl

theorem cancelLoop_eq (ec : ErrorCode) (waiting ops : List (ReactorOp Op)) :
    cancelLoop ec waiting ops = ops ++ waiting.map (ReactorOp.complete ec) := by
  induction waiting generalizing ops with
  | nil => simp [cancelLoop]
  | cons op waiting ih => simp [cancelLoop, ih]

/-- **`cancel_operations`.** -/
theorem Valid.cancel (valid : table.Valid) (descriptor : Descriptor) (ops : List (ReactorOp Op))
    (ec : ErrorCode) :
    ∃ next, table.cancelOperations descriptor ops ec =
        some (next, ops ++ (table.pending descriptor).map (ReactorOp.complete ec),
          !(table.pending descriptor).isEmpty) ∧ next.Valid ∧
      next.pending = Function.update table.pending descriptor [] := by
  simp only [cancelOperations, valid.operations.find_eq]
  cases found : table.operations.entry descriptor with
  | none =>
      have none := valid.entry_eq_none.mp found
      refine ⟨table, ?_, valid, ?_⟩
      · simp [cancelIt, none]
      · rw [← none, Function.update_eq_self]
  | some node =>
      obtain ⟨member, rfl⟩ := valid.operations.entry_eq_some.mp found
      obtain ⟨next, erases, after, pending, -⟩ := valid.erase member
      have some := valid.busy node member
      refine ⟨next, ?_, after, pending⟩
      simp only [cancelIt, erases, cancelLoop_eq, valid.pending_key member, Option.map_some,
        List.isEmpty_eq_false_iff.mpr some, Bool.not_false]

/-- **`perform_operations`.** -/
theorem Valid.perform (valid : table.Valid) (descriptor : Descriptor)
    (perform : Op → Option ErrorCode) (ops : List (ReactorOp Op)) :
    let performed := ReactorOpQueue.performLoop perform (table.pending descriptor)
    ∃ next, table.performOperations descriptor perform ops =
        some (next, ops ++ performed.1, !performed.2.isEmpty) ∧ next.Valid ∧
      next.pending = Function.update table.pending descriptor performed.2 := by
  intro performed
  simp only [performOperations, valid.operations.find_eq]
  cases found : table.operations.entry descriptor with
  | none =>
      have none := valid.entry_eq_none.mp found
      have nothing : performed = ([], []) := by
        simp only [performed, none, ReactorOpQueue.performLoop]
      refine ⟨table, ?_, valid, ?_⟩
      · simp [performIt, nothing]
      · rw [nothing, ← none, Function.update_eq_self]
  | some node =>
      obtain ⟨member, rfl⟩ := valid.operations.entry_eq_some.mp found
      have same : ReactorOpQueue.performLoop perform (table.operations.value node).queue =
          performed := by
        simp only [performed, valid.pending_key member]
      simp only [performIt, same]
      by_cases left : performed.2 = []
      · obtain ⟨next, erases, after, pending, -⟩ := valid.erase member
        refine ⟨next, ?_, after, left ▸ pending⟩
        simp [left, erases]
      · obtain ⟨after, pending⟩ := valid.setQueue member left
        refine ⟨_, ?_, after, pending⟩
        simp [left]

/-- The loop of `get_all_operations` takes the queues of all entries in the order of
iteration. -/
theorem Valid.evaluate_getAllBody (nodes : List Node) {ops : List (ReactorOp Op)} {passes : Nat}
    (valid : table.Valid) (isValues : table.operations.values = nodes)
    (enough : nodes.length < passes) :
    ∃ next, Loop.evaluate getAllBody passes (table, ops, nodes.head?) =
        some (next, ops ++ nodes.flatMap fun node => (table.operations.value node).queue) ∧
      next.Valid ∧ next.operations.values = [] := by
  obtain ⟨fuel, rfl⟩ : ∃ fuel, passes = fuel + 1 := ⟨passes - 1, by omega⟩
  induction nodes generalizing table ops fuel with
  | nil => exact ⟨table, by simp [Loop.evaluate, getAllBody], valid, isValues⟩
  | cons node rest ih =>
      have nodup := valid.operations.values_nodup
      have member : node ∈ table.operations.values := by simp [isValues]
      obtain ⟨next, erases, after, -, values, others⟩ := valid.erase member
      rw [isValues, List.erase_cons_head] at values
      have following : NodeList.next table.operations.values (some node) = rest.head? := by
        rw [isValues] at nodup ⊢
        exact @NodeList.next_split _ _ [] _ _ nodup
      obtain ⟨fuel, rfl⟩ : ∃ more, fuel = more + 1 := ⟨fuel - 1, by simp at enough; omega⟩
      obtain ⟨final, returns, ended, none⟩ := @ih next
        (ops ++ (table.operations.value node).queue) after values fuel (by simp at enough; omega)
      refine ⟨final, ?_, ended, none⟩
      have same : rest.flatMap (fun other => (next.operations.value other).queue) =
          rest.flatMap fun other => (table.operations.value other).queue := by
        apply List.flatMap_congr
        intro other inside
        rw [isValues] at nodup
        have different : other ≠ node := fun isNode =>
          (List.nodup_cons.mp nodup).1 (isNode ▸ inside)
        rw [(others other different).1]
      rw [Loop.evaluate]
      simp only [List.head?_cons, getAllBody, erases, following, returns, same, List.flatMap_cons,
        List.append_assoc]

/-- **`get_all_operations`.** -/
theorem Valid.getAll (valid : table.Valid) (ops : List (ReactorOp Op)) :
    ∃ next, ∃ descriptors : List Descriptor, table.getAllOperations ops =
        some (next, ops ++ descriptors.flatMap table.pending) ∧ next.Valid ∧
      next.pending = (fun _ => []) ∧ descriptors.Nodup ∧
      ∀ descriptor, descriptor ∈ descriptors ↔ table.pending descriptor ≠ [] := by
  obtain ⟨next, returns, after, none⟩ :=
    @Valid.evaluate_getAllBody _ _ _ _ _ _ table _ _ ops _ valid rfl (Nat.lt_succ_self _)
  refine ⟨next, table.operations.values.map table.operations.key, ?_, after, ?_, ?_, ?_⟩
  · rw [getAllOperations, returns, List.flatMap_map]
    congr 3
    apply List.flatMap_congr
    intro node member
    exact (valid.pending_key member).symm
  · funext descriptor
    apply after.entry_eq_none.mp
    simp [HashMap.entry, none]
  · exact List.Nodup.map_on (fun node member other otherMember same =>
      valid.operations.distinct node member other otherMember same) valid.operations.values_nodup
  · intro descriptor
    rw [← not_iff_not, Decidable.not_not, ← valid.entry_eq_none, HashMap.entry_eq_none,
      List.mem_map]
    simp

end ReactorOpTable

/-! ### The table and the finite map of operations -/

namespace ReactorOpQueue

variable {Descriptor Op : Type*} [DecidableEq Descriptor] {queue : ReactorOpQueue Descriptor Op}
  {descriptor : Descriptor} {ops waiting : List (ReactorOp Op)}

/-- The operations that wait for a descriptor. -/
def pending (queue : ReactorOpQueue Descriptor Op) (descriptor : Descriptor) :
    List (ReactorOp Op) :=
  (queue.operations.lookup descriptor).getD []

theorem pending_put (some : waiting ≠ []) : (queue.put descriptor waiting some).pending =
    Function.update queue.pending descriptor waiting := by
  funext other
  by_cases same : other = descriptor
  · subst same
    simp [pending, put]
  · simp [pending, put, same, AList.lookup_insert_ne]

theorem pending_erase : (queue.erase descriptor).pending =
    Function.update queue.pending descriptor [] := by
  funext other
  by_cases same : other = descriptor
  · subst same
    simp [pending, erase]
  · simp [pending, erase, same, AList.lookup_erase_ne]

theorem pending_of_lookup (found : queue.operations.lookup descriptor = some waiting) :
    queue.pending descriptor = waiting ∧ waiting ≠ [] := by
  refine ⟨by rw [pending, found, Option.getD_some], ?_⟩
  exact queue.busy ⟨descriptor, waiting⟩ (AList.mem_lookup_iff.mp found)

theorem pending_of_not_found (absent : queue.operations.lookup descriptor = none) :
    queue.pending descriptor = [] := by
  rw [pending, absent, Option.getD_none]

theorem enqueueOperation_pending (op : ReactorOp Op) :
    (queue.enqueueOperation descriptor op).1.pending =
        Function.update queue.pending descriptor (queue.pending descriptor ++ [op]) ∧
      (queue.enqueueOperation descriptor op).2 = (queue.pending descriptor).isEmpty := by
  unfold enqueueOperation
  split
  · next absent =>
    rw [pending_put, pending_of_not_found absent]
    exact ⟨rfl, rfl⟩
  · next waiting found =>
    obtain ⟨same, some⟩ := pending_of_lookup found
    rw [pending_put, same, List.isEmpty_eq_false_iff.mpr some]
    exact ⟨rfl, rfl⟩

theorem cancelOperations_pending (ec : ErrorCode) :
    (queue.cancelOperations descriptor ops ec).1.pending =
        Function.update queue.pending descriptor [] ∧
      (queue.cancelOperations descriptor ops ec).2 =
        (ops ++ (queue.pending descriptor).map (ReactorOp.complete ec),
          !(queue.pending descriptor).isEmpty) := by
  unfold cancelOperations
  split
  · next absent =>
    have none := pending_of_not_found absent
    simp only [none, List.map_nil, List.append_nil, List.isEmpty_nil, Bool.not_true, and_true]
    rw [← none, Function.update_eq_self]
  · next waiting found =>
    obtain ⟨same, some⟩ := pending_of_lookup found
    rw [pending_erase, same, List.isEmpty_eq_false_iff.mpr some]
    exact ⟨rfl, rfl⟩

theorem performOperations_pending (perform : Op → Option ErrorCode) :
    (queue.performOperations descriptor perform ops).1.pending = Function.update queue.pending
        descriptor (performLoop perform (queue.pending descriptor)).2 ∧
      (queue.performOperations descriptor perform ops).2 =
        (ops ++ (performLoop perform (queue.pending descriptor)).1,
          !(performLoop perform (queue.pending descriptor)).2.isEmpty) := by
  unfold performOperations
  split
  · next absent =>
    have none := pending_of_not_found absent
    simp only [none, performLoop, List.append_nil, List.isEmpty_nil, Bool.not_true, and_true]
    rw [← none, Function.update_eq_self]
  · next waiting found =>
    obtain ⟨same, -⟩ := pending_of_lookup found
    by_cases none : (performLoop perform waiting).2 = []
    · simp only [same, none, ne_eq, not_true_eq_false, ↓reduceDIte]
      exact ⟨pending_erase, rfl⟩
    · simp only [same, none, ne_eq, not_false_eq_true, ↓reduceDIte,
        List.isEmpty_eq_false_iff.mpr none]
      exact ⟨pending_put none, rfl⟩

end ReactorOpQueue

namespace ReactorOpTable

variable {Node Descriptor Op : Type*} [DecidableEq Node] [DecidableEq Descriptor]
  [HashValue Descriptor] [Inhabited Descriptor] {table : ReactorOpTable Node Descriptor Op}
  {queue : ReactorOpQueue Descriptor Op} {descriptor : Descriptor}

/-- **Simulation.** A table and a finite map with the same queues answer alike, and
keep the same queues. -/
theorem Valid.simulates (valid : table.Valid) (same : table.pending = queue.pending) :
    (∀ allocated op, table.operations.Fresh allocated →
      ∃ next, table.enqueueOperation allocated descriptor op =
          some (next, (queue.enqueueOperation descriptor op).2) ∧ next.Valid ∧
        next.pending = (queue.enqueueOperation descriptor op).1.pending) ∧
    (∀ ops ec, ∃ next, table.cancelOperations descriptor ops ec =
          some (next, (queue.cancelOperations descriptor ops ec).2) ∧ next.Valid ∧
        next.pending = (queue.cancelOperations descriptor ops ec).1.pending) ∧
    ∀ perform ops, ∃ next, table.performOperations descriptor perform ops =
          some (next, (queue.performOperations descriptor perform ops).2) ∧ next.Valid ∧
        next.pending = (queue.performOperations descriptor perform ops).1.pending := by
  refine ⟨fun allocated op fresh => ?_, fun ops ec => ?_, fun perform ops => ?_⟩
  · obtain ⟨pending, result⟩ := @ReactorOpQueue.enqueueOperation_pending _ _ _ queue descriptor op
    rw [pending, result, ← same]
    exact valid.enqueue fresh op
  · obtain ⟨pending, result⟩ :=
      @ReactorOpQueue.cancelOperations_pending _ _ _ queue descriptor ops ec
    rw [pending, result, ← same]
    exact valid.cancel descriptor ops ec
  · obtain ⟨pending, result⟩ :=
      @ReactorOpQueue.performOperations_pending _ _ _ queue descriptor ops perform
    rw [pending, result, ← same]
    exact valid.perform descriptor perform ops

end ReactorOpTable

/-! ### Runs -/

/-- A call on a reactor's queue of operations. -/
inductive OpCall (Node Descriptor Op : Type*) where
  | enqueue (allocated : Node) (descriptor : Descriptor) (op : ReactorOp Op)
  | cancel (descriptor : Descriptor) (ec : ErrorCode)
  | perform (descriptor : Descriptor) (outcome : Op → Option ErrorCode)
  | getAll

/-- The result of a call, and the operations it handed over. -/
inductive OpAnswer (Op : Type*) where
  | enqueued (first : Bool)
  | handed (ops : List (ReactorOp Op)) (result : Bool)
  | all (ops : List (ReactorOp Op))

namespace OpCall

variable {Node Descriptor Op : Type*}

/-- The queues after a call. -/
def after [DecidableEq Descriptor] (pending : Descriptor → List (ReactorOp Op)) :
    OpCall Node Descriptor Op → Descriptor → List (ReactorOp Op)
  | .enqueue _ descriptor op =>
      Function.update pending descriptor (pending descriptor ++ [op])
  | .cancel descriptor _ => Function.update pending descriptor []
  | .perform descriptor outcome => Function.update pending descriptor
      ((pending descriptor).dropWhile fun op => (outcome op.op).isSome)
  | .getAll => fun _ => []

/-- What first-in first-out queues answer. -/
def Answers (pending : Descriptor → List (ReactorOp Op)) :
    OpCall Node Descriptor Op → OpAnswer Op → Prop
  | .enqueue _ descriptor _, answer => answer = .enqueued (pending descriptor).isEmpty
  | .cancel descriptor ec, answer => answer =
      .handed ((pending descriptor).map (ReactorOp.complete ec)) (!(pending descriptor).isEmpty)
  | .perform descriptor outcome, answer => answer =
      .handed (((pending descriptor).takeWhile fun op => (outcome op.op).isSome).map
          (ReactorOpQueue.finished outcome))
        (!((pending descriptor).dropWhile fun op => (outcome op.op).isSome).isEmpty)
  | .getAll, answer => ∃ descriptors : List Descriptor, descriptors.Nodup ∧
      (∀ descriptor, descriptor ∈ descriptors ↔ pending descriptor ≠ []) ∧
      answer = .all (descriptors.flatMap pending)

end OpCall

namespace ReactorOpTable

variable {Node Descriptor Op : Type*} [DecidableEq Node] [DecidableEq Descriptor]
  [HashValue Descriptor] [Inhabited Descriptor] {table : ReactorOpTable Node Descriptor Op}

/-- Make a call: none when an assertion fails or a loop goes astray. -/
def call (table : ReactorOpTable Node Descriptor Op) :
    OpCall Node Descriptor Op → Option (ReactorOpTable Node Descriptor Op × OpAnswer Op)
  | .enqueue allocated descriptor op => (table.enqueueOperation allocated descriptor op).map
      fun (table, first) => (table, .enqueued first)
  | .cancel descriptor ec => (table.cancelOperations descriptor [] ec).map
      fun (table, ops, result) => (table, .handed ops result)
  | .perform descriptor perform => (table.performOperations descriptor perform []).map
      fun (table, ops, result) => (table, .handed ops result)
  | .getAll => (table.getAllOperations []).map fun (table, ops) => (table, .all ops)

/-- The allocator returns a node that is not in use. -/
def Admits (table : ReactorOpTable Node Descriptor Op) : OpCall Node Descriptor Op → Prop
  | .enqueue allocated _ _ => table.operations.Fresh allocated
  | .cancel .. => True
  | .perform .. => True
  | .getAll => True

instance (table : ReactorOpTable Node Descriptor Op) :
    (call : OpCall Node Descriptor Op) → Decidable (table.Admits call)
  | .enqueue allocated _ _ => inferInstanceAs (Decidable (table.operations.Fresh allocated))
  | .cancel .. => isTrue trivial
  | .perform .. => isTrue trivial
  | .getAll => isTrue trivial

/-- What a call makes of a valid table. -/
theorem Valid.call (valid : table.Valid) {call : OpCall Node Descriptor Op}
    (admits : table.Admits call) :
    ∃ next answer, table.call call = some (next, answer) ∧ call.Answers table.pending answer ∧
      next.Valid ∧ next.pending = call.after table.pending := by
  cases call with
  | enqueue allocated descriptor op =>
      obtain ⟨next, returns, after, pending⟩ :=
        @Valid.enqueue _ _ _ _ _ _ _ descriptor valid _ admits op
      exact ⟨next, _, by simp only [ReactorOpTable.call, returns, Option.map_some], rfl, after,
        pending⟩
  | cancel descriptor ec =>
      obtain ⟨next, returns, after, pending⟩ := valid.cancel descriptor [] ec
      rw [List.nil_append] at returns
      exact ⟨next, _, by simp only [ReactorOpTable.call, returns, Option.map_some], rfl, after,
        pending⟩
  | perform descriptor outcome =>
      obtain ⟨next, returns, after, pending⟩ := valid.perform descriptor outcome []
      rw [ReactorOpQueue.performLoop_eq] at returns pending
      rw [List.nil_append] at returns
      exact ⟨next, _, by simp only [ReactorOpTable.call, returns, Option.map_some], rfl, after,
        pending⟩
  | getAll =>
      obtain ⟨next, descriptors, returns, after, pending, nodup, busy⟩ := valid.getAll []
      rw [List.nil_append] at returns
      exact ⟨next, _, by simp only [ReactorOpTable.call, returns, Option.map_some],
        ⟨descriptors, nodup, busy, rfl⟩, after, pending⟩

end ReactorOpTable

/-- A table with the queues that its calls have built. -/
structure OpRun (Node Descriptor Op : Type*) where
  table : ReactorOpTable Node Descriptor Op
  pending : Descriptor → List (ReactorOp Op)

namespace OpRun

variable {Node Descriptor Op : Type*} [DecidableEq Node] [DecidableEq Descriptor]
  [HashValue Descriptor] [Inhabited Descriptor]

/-- The table as a machine. -/
def machine : Transition.Machine (OpRun Node Descriptor Op) (OpCall Node Descriptor Op) where
  initial state := ∃ key value, state = ⟨⟨.new key value⟩, fun _ => []⟩
  step state call :=
    if state.table.Admits call then
      (state.table.call call).map fun (table, _) => ⟨table, call.after state.pending⟩
    else none

/-- The invariant of the runs. -/
def Valid (state : OpRun Node Descriptor Op) : Prop :=
  state.table.Valid ∧ state.pending = state.table.pending

variable {state next : OpRun Node Descriptor Op}

theorem Valid.step {call : OpCall Node Descriptor Op} (valid : state.Valid)
    (stepped : machine.step state call = some next) : next.Valid := by
  simp only [machine] at stepped
  split at stepped
  · next admits =>
    obtain ⟨after, answer, answered, -, stillValid, pending⟩ := valid.1.call admits
    rw [answered] at stepped
    cases stepped
    exact ⟨stillValid, by rw [pending, ← valid.2]⟩
  · contradiction

theorem valid_of_reachable (reachable : machine.Reachable state) : state.Valid := by
  refine reachable.invariant ?_ fun _ _ _ _ valid _ stepped => valid.step stepped
  rintro _ ⟨key, value, rfl⟩
  exact ⟨⟨HashMap.valid_new key value, nofun, nofun⟩, rfl⟩

/-- **The queue of operations of a reactor.** After any calls a descriptor has
operations exactly when some that were enqueued for it were not handed over since,
spare nodes have empty queues, and every further call answers as first-in first-out
queues do. -/
theorem op_queue_refines (key : Node → Descriptor) (value : Node → MappedType Op)
    (calls : List (OpCall Node Descriptor Op))
    (ran : machine.run ⟨⟨.new key value⟩, fun _ => []⟩ calls = some state) :
    (∀ descriptor,
      state.table.hasOperation descriptor = some (!(state.pending descriptor).isEmpty)) ∧
    (state.table.empty = true ↔ ∀ descriptor, state.pending descriptor = []) ∧
    (∀ node ∈ state.table.operations.spares, (state.table.operations.value node).queue = []) ∧
    ∀ call, state.table.Admits call → ∃ table answer, state.table.call call = some (table, answer) ∧
      call.Answers state.pending answer := by
  have start : machine.Reachable (⟨⟨.new key value⟩, fun _ => []⟩ : OpRun Node Descriptor Op) :=
    .initial ⟨key, value, rfl⟩
  obtain ⟨valid, same⟩ := valid_of_reachable (start.run calls ran)
  rw [same]
  refine ⟨fun descriptor => ?_, ?_, valid.spare, fun call admits => ?_⟩
  · simp only [ReactorOpTable.hasOperation, valid.operations.find_eq]
    have vacant := @ReactorOpTable.Valid.entry_eq_none _ _ _ _ _ _ descriptor valid
    cases found : state.table.operations.entry descriptor with
    | none => simp [vacant.mp found]
    | some node =>
        have waiting : state.table.pending descriptor ≠ [] := fun none => by
          rw [vacant.mpr none] at found
          cases found
        simp [List.isEmpty_eq_false_iff.mpr waiting]
  · simp only [ReactorOpTable.empty, List.isEmpty_iff]
    constructor
    · intro none descriptor
      apply valid.entry_eq_none.mp
      simp [HashMap.entry, none]
    · intro none
      rw [List.eq_nil_iff_forall_not_mem]
      intro node member
      exact valid.busy node member (valid.pending_key member ▸ none _)
  · obtain ⟨table, answer, answered, right, -⟩ := valid.call admits
    exact ⟨table, answer, answered, right⟩

/-- Operations for two descriptors of one bucket, a cancellation, a recycled node, and
a round in which the first of two operations finishes. -/
def someCalls : List (OpCall Nat Int32 Nat) :=
  [.enqueue 1 5 ⟨10, .success⟩, .enqueue 2 8 ⟨11, .success⟩, .enqueue 0 5 ⟨12, .success⟩,
    .cancel 8 .operationAborted, .enqueue 0 18 ⟨13, .success⟩,
    .perform 5 fun op => if op = 10 then some .success else none]

theorem op_queue_refines_someCalls :
    ∃ state, machine.run ⟨⟨.new (fun _ => 0) fun _ => ⟨[]⟩⟩, fun _ => []⟩ someCalls = some state ∧
      ∀ descriptor,
        state.table.hasOperation descriptor = some (!(state.pending descriptor).isEmpty) := by
  refine ⟨_, rfl, ?_⟩
  exact (op_queue_refines (fun _ => 0) (fun _ => ⟨[]⟩) someCalls rfl).1

end OpRun

end Asio.Reactor
