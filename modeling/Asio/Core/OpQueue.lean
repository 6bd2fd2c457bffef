import Asio.Lib.Chain

/-! # Queues of operations

`op_queue` keeps its operations by their own links, which all queues share. The list that each
queue stands for is followed beside the links: `push` appends to it, `pop` removes its head,
and a pushed queue is appended as a whole.
-/

namespace Asio.Core

/-- `op_queue`. -/
structure OpQueue (Operation : Type*) where
  front : Option Operation
  back : Option Operation
  deriving Repr

/-- The queues of a program, and the links of its operations. -/
structure OpQueues (Queue Operation : Type*) where
  next : Operation → Option Operation
  queues : Queue → OpQueue Operation

namespace OpQueues

variable {Queue Operation : Type*} [DecidableEq Queue] [DecidableEq Operation]
  (memory : OpQueues Queue Operation)

/-- Constructed queues, and operations, whose constructor clears the link. -/
def new : OpQueues Queue Operation := ⟨fun _ => none, fun _ => ⟨none, none⟩⟩

/-- `pop`. -/
def pop (queue : Queue) : OpQueues Queue Operation :=
  match (memory.queues queue).front with
  | none => memory
  | some tmp =>
      let front := memory.next tmp
      let back := if front = none then none else (memory.queues queue).back
      { next := Function.update memory.next tmp none
        queues := Function.update memory.queues queue ⟨front, back⟩ }

/-- `push` of an operation. -/
def push (queue : Queue) (h : Operation) : OpQueues Queue Operation :=
  let next := Function.update memory.next h none
  match (memory.queues queue).back with
  | some back =>
      { next := Function.update next back (some h)
        queues := Function.update memory.queues queue
          ⟨(memory.queues queue).front, some h⟩ }
  | none =>
      { next := next
        queues := Function.update memory.queues queue ⟨some h, some h⟩ }

/-- `push` of another queue. -/
def pushQueue (queue q : Queue) : OpQueues Queue Operation :=
  match (memory.queues q).front with
  | none => memory
  | some otherFront =>
      let joined : OpQueues Queue Operation :=
        match (memory.queues queue).back with
        | some back =>
            { next := Function.update memory.next back (some otherFront)
              queues := Function.update memory.queues queue
                ⟨(memory.queues queue).front, (memory.queues q).back⟩ }
        | none =>
            { next := memory.next
              queues := Function.update memory.queues queue
                ⟨some otherFront, (memory.queues q).back⟩ }
      { joined with queues := Function.update joined.queues q ⟨none, none⟩ }

/-- `is_enqueued`. -/
def isEnqueued (queue : Queue) (o : Operation) : Bool :=
  (memory.next o).isSome || (memory.queues queue).back == some o

/-- The links spell the lists. An operation is in one queue at most, and has no link when it is
in none. -/
structure Spells (held : Queue → List Operation) : Prop where
  chain : ∀ queue, Chain memory.next (memory.queues queue).front (held queue) none
  back_eq : ∀ queue, (memory.queues queue).back = (held queue).getLast?
  apart : ∀ queue other op, op ∈ held queue → op ∈ held other → queue = other
  unlinked : ∀ op, (∀ queue, op ∉ held queue) → memory.next op = none

variable {memory} {held : Queue → List Operation} {queue other : Queue} {op : Operation}

omit [DecidableEq Queue] [DecidableEq Operation] in
theorem spells_new : (new : OpQueues Queue Operation).Spells fun _ => [] where
  chain _ := rfl
  back_eq _ := rfl
  apart _ _ _ inside := absurd inside List.not_mem_nil
  unlinked _ _ := rfl

omit [DecidableEq Queue] [DecidableEq Operation] in
theorem Spells.front_eq (spells : memory.Spells held) (queue : Queue) :
    (memory.queues queue).front = (held queue).head? :=
  (spells.chain queue).head_eq

omit [DecidableEq Queue] in
/-- An operation that is in no other queue is enqueued when it is in this one. -/
theorem Spells.isEnqueued_iff (spells : memory.Spells held)
    (elsewhere : ∀ other, other ≠ queue → op ∉ held other) :
    memory.isEnqueued queue op = true ↔ op ∈ held queue := by
  rw [isEnqueued, Bool.or_eq_true, beq_iff_eq, spells.back_eq, Option.isSome_iff_ne_none]
  apply (spells.chain queue).mem_iff
  intro absent
  apply spells.unlinked
  intro other
  by_cases same : other = queue
  · exact same ▸ absent
  · exact elsewhere other same

/-! ## One queue changes -/

omit [DecidableEq Operation] in
/-- Links that change outside the other queues, and a queue that spells its new list. -/
theorem Spells.update {next : Operation → Option Operation} {changed : OpQueue Operation}
    {ops : List Operation} (spells : memory.Spells held)
    (chain : Chain next changed.front ops none) (back_eq : changed.back = ops.getLast?)
    (apart : ∀ other, other ≠ queue → ∀ op ∈ held other, op ∉ ops ∧ next op = memory.next op)
    (unlinked : ∀ op, op ∉ ops → (∀ other, other ≠ queue → op ∉ held other) → next op = none) :
    (⟨next, Function.update memory.queues queue changed⟩ : OpQueues Queue Operation).Spells
      (Function.update held queue ops) := by
  refine ⟨?_, ?_, ?_, ?_⟩
  · intro other
    dsimp only
    by_cases same : other = queue
    · subst same
      rw [Function.update_self, Function.update_self]
      exact chain
    · rw [Function.update_of_ne same, Function.update_of_ne same]
      exact (spells.chain other).congr fun op inside => (apart other same op inside).2
  · intro other
    dsimp only
    by_cases same : other = queue
    · subst same
      rw [Function.update_self, Function.update_self]
      exact back_eq
    · rw [Function.update_of_ne same, Function.update_of_ne same]
      exact spells.back_eq other
  · intro first second op inside inside'
    by_cases same : first = queue <;> by_cases same' : second = queue
    · rw [same, same']
    · rw [same, Function.update_self] at inside
      rw [Function.update_of_ne same'] at inside'
      exact absurd inside (apart second same' op inside').1
    · rw [Function.update_of_ne same] at inside
      rw [same', Function.update_self] at inside'
      exact absurd inside' (apart first same op inside).1
    · rw [Function.update_of_ne same] at inside
      rw [Function.update_of_ne same'] at inside'
      exact spells.apart first second op inside inside'
  · intro op outside
    apply unlinked
    · have here := outside queue
      rw [Function.update_self] at here
      exact here
    · intro other differs
      have there := outside other
      rw [Function.update_of_ne differs] at there
      exact there

/-- What `pop` removes is the head of the list. -/
theorem Spells.pop (spells : memory.Spells held) (queue : Queue) :
    (memory.pop queue).Spells (Function.update held queue (held queue).tail) := by
  have front := spells.front_eq queue
  have back := spells.back_eq queue
  have chain := spells.chain queue
  unfold OpQueues.pop
  cases is : held queue with
  | nil =>
      have same : Function.update held queue [] = held := by
        rw [← is, Function.update_eq_self]
      rw [is] at front
      rw [front, List.tail_nil, same]
      exact spells
  | cons tmp rest =>
      rw [is] at front back chain
      have nodup := List.nodup_cons.mp chain.nodup
      rw [front]
      dsimp only [List.head?_cons, List.tail_cons]
      have next_eq := chain.2.head_eq
      apply spells.update
      · apply chain.2.congr
        intro op inside
        rw [Function.update_of_ne]
        rintro rfl
        exact nodup.1 inside
      · rw [back, next_eq]
        cases rest with
        | nil => rfl
        | cons op rest => rfl
      · intro other differs op inside
        have foreign : op ∉ tmp :: rest := fun inside' =>
          differs (spells.apart other queue op inside (is ▸ inside'))
        rw [List.mem_cons, not_or] at foreign
        exact ⟨foreign.2, Function.update_of_ne foreign.1 _ _⟩
      · intro op outside elsewhere
        by_cases same : op = tmp
        · rw [same, Function.update_self]
        · rw [Function.update_of_ne same]
          apply spells.unlinked
          intro other
          by_cases here : other = queue
          · rw [here, is, List.mem_cons, not_or]
            exact ⟨same, outside⟩
          · exact elsewhere other here

omit [DecidableEq Queue] [DecidableEq Operation] in
/-- A queue that is not empty keeps its front when something is appended. -/
theorem Spells.front_or (spells : memory.Spells held) (first : Operation)
    {back : Operation} (is : (memory.queues queue).back = some back) :
    (memory.queues queue).front.or (some first) = (memory.queues queue).front := by
  rw [spells.back_eq] at is
  rw [spells.front_eq]
  cases ops : held queue with
  | nil =>
      rw [ops] at is
      cases is
  | cons op rest => rfl

omit [DecidableEq Queue] [DecidableEq Operation] in
/-- A queue without a back has no front. -/
theorem Spells.front_none (spells : memory.Spells held)
    (is : (memory.queues queue).back = none) : (memory.queues queue).front = none := by
  rw [spells.back_eq, List.getLast?_eq_none_iff] at is
  rw [spells.front_eq, is, List.head?_nil]

/-- What `push` does to the links and to the queue. -/
theorem Spells.push_eq (spells : memory.Spells held) (queue : Queue) (h : Operation) :
    memory.push queue h =
      ⟨Chain.lead (Function.update memory.next h none) (held queue).getLast? h,
        Function.update memory.queues queue
          ⟨(memory.queues queue).front.or (some h), some h⟩⟩ := by
  unfold OpQueues.push
  rw [← spells.back_eq]
  cases back : (memory.queues queue).back with
  | none =>
      rw [spells.front_none back]
      rfl
  | some last =>
      rw [spells.front_or h back]
      rfl

/-- What `push` of a queue that is not empty does to the links and to the queues. -/
theorem Spells.pushQueue_eq {q : Queue} {first : Operation} (spells : memory.Spells held)
    (front : (memory.queues q).front = some first) : memory.pushQueue queue q =
      ⟨Chain.lead memory.next (held queue).getLast? first, Function.update
        (Function.update memory.queues queue
          ⟨(memory.queues queue).front.or (some first), (memory.queues q).back⟩)
        q ⟨none, none⟩⟩ := by
  unfold OpQueues.pushQueue
  rw [front, ← spells.back_eq]
  cases back : (memory.queues queue).back with
  | none =>
      rw [spells.front_none back]
      rfl
  | some last =>
      rw [spells.front_or first back]
      rfl

/-- An operation that is in no queue is appended. -/
theorem Spells.push {h : Operation} (spells : memory.Spells held) (free : ∀ queue, h ∉ held queue)
    (queue : Queue) : (memory.push queue h).Spells
      (Function.update held queue (held queue ++ [h])) := by
  have fixed (op : Operation) (outside : op ∉ held queue ++ [h]) :
      Chain.lead (Function.update memory.next h none) (held queue).getLast? h op =
        memory.next op := by
    rw [List.mem_append, List.mem_singleton, not_or] at outside
    rw [Chain.lead_of_not_mem outside.1, Function.update_of_ne outside.2]
  rw [spells.push_eq]
  apply spells.update
  · apply (spells.chain queue).join
    · intro op inside
      apply Function.update_of_ne
      rintro rfl
      exact free queue inside
    · exact ⟨rfl, Function.update_self _ _ _⟩
    · intro op inside
      rw [List.mem_singleton]
      rintro rfl
      exact free queue inside
  · rw [List.getLast?_concat]
  · intro other differs op inside
    have foreign : op ∉ held queue ++ [h] := by
      rw [List.mem_append, List.mem_singleton, not_or]
      refine ⟨fun inside' => differs (spells.apart other queue op inside inside'), ?_⟩
      rintro rfl
      exact free other inside
    exact ⟨foreign, fixed op foreign⟩
  · intro op outside elsewhere
    rw [fixed op outside]
    apply spells.unlinked
    intro other
    by_cases here : other = queue
    · exact here ▸ fun inside => outside (List.mem_append_left _ inside)
    · exact elsewhere other here

omit [DecidableEq Operation] in
/-- What a queue holds after another one was appended to it. -/
theorem mem_pushQueue_iff {q : Queue} (held : Queue → List Operation) :
    op ∈ Function.update (Function.update held queue (held queue ++ held q)) q [] other ↔
      other ≠ q ∧ (op ∈ held other ∨ other = queue ∧ op ∈ held q) := by
  by_cases here : other = q
  · rw [here, Function.update_self]
    exact iff_of_false List.not_mem_nil fun inside => inside.1 rfl
  · rw [Function.update_of_ne here]
    by_cases joined : other = queue
    · rw [joined, Function.update_self, List.mem_append]
      exact ⟨fun inside => ⟨joined ▸ here, inside.imp_right fun inside => ⟨rfl, inside⟩⟩,
        fun inside => inside.2.imp_right And.right⟩
    · rw [Function.update_of_ne joined]
      exact ⟨fun inside => ⟨here, .inl inside⟩,
        fun inside => inside.2.resolve_right fun queued => joined queued.1⟩

/-- Another queue is appended as a whole, and left empty. -/
theorem Spells.pushQueue {q : Queue} (spells : memory.Spells held) (differ : queue ≠ q) :
    (memory.pushQueue queue q).Spells
      (Function.update (Function.update held queue (held queue ++ held q)) q []) := by
  by_cases empty : held q = []
  · have front := spells.front_eq q
    rw [empty] at front
    have same : Function.update (Function.update held queue (held queue ++ held q)) q [] =
        held := by
      rw [empty, List.append_nil, Function.update_eq_self, ← empty, Function.update_eq_self]
    rw [same]
    unfold OpQueues.pushQueue
    rw [front]
    exact spells
  · obtain ⟨first, rest, others⟩ := List.exists_cons_of_ne_nil empty
    have front : (memory.queues q).front = some first := by
      rw [spells.front_eq, others, List.head?_cons]
    have joined_chain := (spells.chain queue).join (fun _ _ => rfl) (front ▸ spells.chain q)
      fun op inside inside' => differ (spells.apart queue q op inside inside')
    have fixed (op : Operation) (outside : op ∉ held queue) :
        Chain.lead memory.next (held queue).getLast? first op = memory.next op :=
      Chain.lead_of_not_mem outside first
    rw [spells.pushQueue_eq front]
    refine ⟨?_, ?_, ?_, ?_⟩
    · intro other
      dsimp only
      by_cases here : other = q
      · rw [here, Function.update_self, Function.update_self]
        rfl
      · rw [Function.update_of_ne here, Function.update_of_ne here]
        by_cases joined : other = queue
        · rw [joined, Function.update_self, Function.update_self]
          exact joined_chain
        · rw [Function.update_of_ne joined, Function.update_of_ne joined]
          apply (spells.chain other).congr
          intro op inside
          exact fixed op fun inside' => joined (spells.apart other queue op inside inside')
    · intro other
      dsimp only
      by_cases here : other = q
      · rw [here, Function.update_self, Function.update_self]
        rfl
      · rw [Function.update_of_ne here, Function.update_of_ne here]
        by_cases joined : other = queue
        · rw [joined, Function.update_self, Function.update_self,
            List.getLast?_append_of_ne_nil _ empty]
          exact spells.back_eq q
        · rw [Function.update_of_ne joined, Function.update_of_ne joined]
          exact spells.back_eq other
    · intro first second op inside inside'
      obtain ⟨not_q, here | ⟨rfl, here⟩⟩ := (mem_pushQueue_iff held).mp inside <;>
        obtain ⟨not_q', here' | ⟨rfl, here'⟩⟩ := (mem_pushQueue_iff held).mp inside'
      · exact spells.apart first second op here here'
      · exact absurd (spells.apart first q op here here') not_q
      · exact absurd (spells.apart second q op here' here) not_q'
      · rfl
    · intro op outside
      have source : op ∉ held q := fun inside =>
        outside queue ((mem_pushQueue_iff held).mpr ⟨differ, .inr ⟨rfl, inside⟩⟩)
      have others (other : Queue) (inside : op ∈ held other) : False := by
        by_cases here : other = q
        · exact source (here ▸ inside)
        · exact outside other ((mem_pushQueue_iff held).mpr ⟨here, .inl inside⟩)
      dsimp only
      rw [fixed op (others queue)]
      exact spells.unlinked op others

end OpQueues

end Asio.Core
