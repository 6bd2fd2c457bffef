import Asio.Core.OpQueue
import Asio.Lib.Transition
import Mathlib.Data.Fintype.Basic

/-! # Runs of queues of operations

Queues are pushed, popped and destroyed in any order. A destructor destroys its operations one
by one; what it destroys may use the other queues meanwhile, and begin their destructors too.
-/

namespace Asio.Core

/-- A destructor: its queue, what the queue held when it began, and what it has destroyed. -/
structure OpDestructor (Queue Operation : Type*) where
  queue : Queue
  found : List Operation
  destroyed : List Operation
  deriving Repr

/-- The queues and the lists that they stand for; the destructors that run, the innermost
first, and those that have returned. For the properties it keeps the operations that were
pushed, popped by the user and destroyed, in order. -/
structure OpQueueRun (Queue Operation : Type*) where
  memory : OpQueues Queue Operation
  held : Queue → List Operation
  destructors : List (OpDestructor Queue Operation)
  finished : List (OpDestructor Queue Operation)
  pushed : List Operation
  popped : List Operation
  destroyed : List Operation

/-- The calls, and the next turn of the innermost destructor. -/
inductive OpQueueCall (Queue Operation : Type*) where
  | push (queue : Queue) (h : Operation)
  | pop (queue : Queue)
  | pushQueue (queue q : Queue)
  | destruct (queue : Queue)
  | proceed

namespace OpQueueRun

variable {Queue Operation : Type*} [DecidableEq Queue] [DecidableEq Operation]
  (run : OpQueueRun Queue Operation)

/-- No queue was used yet. -/
def new : OpQueueRun Queue Operation := ⟨.new, fun _ => [], [], [], [], [], []⟩

/-- The queues whose destructors were called. -/
def ended : List Queue := (run.destructors ++ run.finished).map OpDestructor.queue

/-- `pop`, and the list without its head. -/
def removeFront (queue : Queue) : OpQueueRun Queue Operation :=
  { run with
    memory := run.memory.pop queue
    held := Function.update run.held queue (run.held queue).tail }

/-- One turn of the loop in `~op_queue`. -/
def proceed : Option (OpQueueRun Queue Operation) :=
  match run.destructors with
  | [] => none
  | destructor :: outer =>
      match (run.memory.queues destructor.queue).front with
      | none => some { run with
          destructors := outer
          finished := destructor :: run.finished }
      | some op => some { run.removeFront destructor.queue with
          destructors := { destructor with destroyed := destructor.destroyed ++ [op] } :: outer
          destroyed := run.destroyed ++ [op] }

/-- A call. -/
def call : OpQueueCall Queue Operation → Option (OpQueueRun Queue Operation)
  | .push queue h => some { run with
      memory := run.memory.push queue h
      held := Function.update run.held queue (run.held queue ++ [h])
      pushed := run.pushed ++ [h] }
  | .pop queue => some { run.removeFront queue with
      popped := run.popped ++ (run.memory.queues queue).front.toList }
  | .pushQueue queue q => some { run with
      memory := run.memory.pushQueue queue q
      held := Function.update
        (Function.update run.held queue (run.held queue ++ run.held q)) q [] }
  | .destruct queue => some { run with
      destructors := ⟨queue, run.held queue, []⟩ :: run.destructors }
  | .proceed => run.proceed

/-- An operation that is in no queue is pushed, a different queue is pushed, and no queue is used
after its destructor is called. -/
def Obeys : OpQueueCall Queue Operation → Prop
  | .push queue h => queue ∉ run.ended ∧ ∀ other, h ∉ run.held other
  | .pop queue => queue ∉ run.ended
  | .pushQueue queue q => queue ≠ q ∧ queue ∉ run.ended ∧ q ∉ run.ended
  | .destruct queue => queue ∉ run.ended
  | .proceed => True

instance Obeys.decidable [Fintype Queue] :
    ∀ call : OpQueueCall Queue Operation, Decidable (run.Obeys call)
  | .push queue h => inferInstanceAs (Decidable (queue ∉ run.ended ∧ ∀ other, h ∉ run.held other))
  | .pop queue => inferInstanceAs (Decidable (queue ∉ run.ended))
  | .pushQueue queue q =>
      inferInstanceAs (Decidable (queue ≠ q ∧ queue ∉ run.ended ∧ q ∉ run.ended))
  | .destruct queue => inferInstanceAs (Decidable (queue ∉ run.ended))
  | .proceed => isTrue trivial

/-- The runs of calls. -/
def machine : Transition.Machine (OpQueueRun Queue Operation) (OpQueueCall Queue Operation) where
  initial run := run = new
  step := call

/-- An operation that was pushed was popped or destroyed since, or is in a queue. -/
structure Conserved : Prop where
  inside : ∀ queue, ∀ op ∈ run.held queue,
    run.pushed.count op = run.popped.count op + run.destroyed.count op + 1
  outside : ∀ op, (∀ queue, op ∉ run.held queue) →
    run.pushed.count op = run.popped.count op + run.destroyed.count op

/-- Each destructor has a queue of its own, and has destroyed what it found less what its queue
still holds. -/
structure Destroys : Prop where
  once : run.ended.Nodup
  nodup : ∀ destructor ∈ run.destructors ++ run.finished, destructor.found.Nodup
  running : ∀ destructor ∈ run.destructors,
    destructor.found = destructor.destroyed ++ run.held destructor.queue
  returned : ∀ destructor ∈ run.finished,
    destructor.destroyed = destructor.found ∧ run.held destructor.queue = []

/-- The links spell the lists, no operation is lost or duplicated, and the destructors destroy
what they found. -/
structure WellFormed : Prop where
  spells : run.memory.Spells run.held
  conserved : run.Conserved
  destroys : run.Destroys

/-- What the links and the logs tell, and what remains to be done: a walk from `front()` meets
the operations of the list, and the innermost destructor returns when it has destroyed what
is left. -/
structure Kept : Prop where
  wellFormed : run.WellFormed
  acyclic : ∀ queue, (run.held queue).Nodup
  walked : ∀ queue, Loop.Returns (Chain.walk run.memory.next)
    ((run.memory.queues queue).front, []) (run.held queue)
  last : ∀ queue op, (run.memory.queues queue).back = some op → run.memory.next op = none
  popped : ∀ queue op, (run.memory.queues queue).front = some op →
    (run.memory.pop queue).next op = none
  isEnqueued : ∀ queue op, (∀ other, other ≠ queue → op ∉ run.held other) →
    (run.memory.isEnqueued queue op = true ↔ op ∈ run.held queue)
  returns : ∀ destructor outer, run.destructors = destructor :: outer →
    ∃ next, machine.run run
        (List.replicate ((run.held destructor.queue).length + 1) .proceed) = some next ∧
      next.destructors = outer ∧
      next.finished =
        { destructor with destroyed := destructor.found } :: run.finished

variable {run} {next : OpQueueRun Queue Operation} {queue q : Queue} {op h : Operation}
  {rest : List Operation}

omit [DecidableEq Queue] in
theorem wellFormed_new : (new : OpQueueRun Queue Operation).WellFormed where
  spells := OpQueues.spells_new
  conserved := ⟨fun _ _ inside => absurd inside List.not_mem_nil, fun _ _ => rfl⟩
  destroys := ⟨List.nodup_nil, fun _ inside => absurd inside List.not_mem_nil,
    fun _ inside => absurd inside List.not_mem_nil, fun _ inside => absurd inside List.not_mem_nil⟩

/-! ## What is lost or duplicated -/

theorem count_of_ne (differ : op ≠ h) : [h].count op = 0 :=
  List.count_eq_zero_of_not_mem fun inside => differ (List.mem_singleton.mp inside)

/-- The head of a queue is removed, and logged as popped or as destroyed. -/
theorem Conserved.removed (conserved : run.Conserved) (spells : run.memory.Spells run.held)
    (is : run.held queue = op :: rest) (held : next.held = Function.update run.held queue rest)
    (pushed : next.pushed = run.pushed)
    (logged : ∀ other, next.popped.count other + next.destroyed.count other =
      run.popped.count other + run.destroyed.count other + [op].count other) :
    next.Conserved := by
  have here : op ∈ run.held queue := is ▸ List.mem_cons_self
  have absent : op ∉ rest := by
    have nodup := (spells.chain queue).nodup
    rw [is] at nodup
    exact (List.nodup_cons.mp nodup).1
  constructor
  · intro other op' inside
    rw [held] at inside
    have before : op' ∈ run.held other ∧ op' ≠ op := by
      by_cases same : other = queue
      · rw [same, Function.update_self] at inside
        rw [same, is]
        refine ⟨List.mem_cons_of_mem _ inside, ?_⟩
        rintro rfl
        exact absent inside
      · rw [Function.update_of_ne same] at inside
        refine ⟨inside, ?_⟩
        rintro rfl
        exact same (spells.apart other queue op' inside here)
    have counted := conserved.inside other op' before.1
    have logged := logged op'
    rw [count_of_ne before.2] at logged
    rw [pushed]
    omega
  · intro op' outside
    rw [held] at outside
    have logged := logged op'
    rw [pushed]
    by_cases same : op' = op
    · subst same
      have counted := conserved.inside queue op' here
      rw [List.count_singleton_self] at logged
      omega
    · have counted := conserved.outside op' fun other inside => by
        have there := outside other
        by_cases isQueue : other = queue
        · rw [isQueue, Function.update_self] at there
          rw [isQueue, is] at inside
          exact (List.mem_cons.mp inside).elim same there
        · rw [Function.update_of_ne isQueue] at there
          exact there inside
      rw [count_of_ne same] at logged
      omega

/-- An operation that was in no queue is pushed. -/
theorem Conserved.push (conserved : run.Conserved) (free : ∀ queue, h ∉ run.held queue)
    (held : next.held = Function.update run.held queue (run.held queue ++ [h]))
    (pushed : next.pushed = run.pushed ++ [h]) (popped : next.popped = run.popped)
    (destroyed : next.destroyed = run.destroyed) : next.Conserved := by
  have counted := conserved.outside h free
  constructor
  · intro other op inside
    rw [held] at inside
    rw [pushed, popped, destroyed, List.count_append]
    by_cases same : op = h
    · rw [same, List.count_singleton_self, counted]
    · have before : op ∈ run.held other := by
        by_cases isQueue : other = queue
        · rw [isQueue, Function.update_self, List.mem_append, List.mem_singleton] at inside
          exact isQueue ▸ inside.resolve_right same
        · rw [Function.update_of_ne isQueue] at inside
          exact inside
      rw [count_of_ne same]
      exact conserved.inside other op before
  · intro op outside
    rw [held] at outside
    have here := outside queue
    rw [Function.update_self, List.mem_append, List.mem_singleton, not_or] at here
    rw [pushed, popped, destroyed, List.count_append, count_of_ne here.2]
    apply conserved.outside
    intro other inside
    by_cases isQueue : other = queue
    · exact here.1 (isQueue ▸ inside)
    · have there := outside other
      rw [Function.update_of_ne isQueue] at there
      exact there inside

omit [DecidableEq Queue] in
/-- Operations move between queues. -/
theorem Conserved.moved (conserved : run.Conserved)
    (held : ∀ op, (∃ queue, op ∈ next.held queue) ↔ ∃ queue, op ∈ run.held queue)
    (pushed : next.pushed = run.pushed) (popped : next.popped = run.popped)
    (destroyed : next.destroyed = run.destroyed) : next.Conserved := by
  constructor
  · intro queue op inside
    obtain ⟨origin, before⟩ := (held op).mp ⟨queue, inside⟩
    rw [pushed, popped, destroyed]
    exact conserved.inside origin op before
  · intro op outside
    rw [pushed, popped, destroyed]
    apply conserved.outside
    intro queue inside
    obtain ⟨place, after⟩ := (held op).mpr ⟨queue, inside⟩
    exact outside place after

omit [DecidableEq Operation] in
/-- What is in queues stays in queues when one is appended to another. -/
theorem mem_pushQueue (held : Queue → List Operation) (differ : queue ≠ q) (op : Operation) :
    (∃ other, op ∈ Function.update
        (Function.update held queue (held queue ++ held q)) q [] other) ↔
      ∃ other, op ∈ held other := by
  constructor
  · rintro ⟨other, inside⟩
    obtain ⟨-, inside | ⟨-, inside⟩⟩ := (OpQueues.mem_pushQueue_iff held).mp inside
    · exact ⟨other, inside⟩
    · exact ⟨q, inside⟩
  · rintro ⟨other, inside⟩
    by_cases isSource : other = q
    · exact ⟨queue, (OpQueues.mem_pushQueue_iff held).mpr
        ⟨differ, .inr ⟨rfl, isSource ▸ inside⟩⟩⟩
    · exact ⟨other, (OpQueues.mem_pushQueue_iff held).mpr ⟨isSource, .inl inside⟩⟩

/-! ## What the destructors destroy -/

omit [DecidableEq Queue] [DecidableEq Operation] in
theorem mem_ended {destructor : OpDestructor Queue Operation}
    (inside : destructor ∈ run.destructors ++ run.finished) : destructor.queue ∈ run.ended :=
  List.mem_map_of_mem inside

omit [DecidableEq Queue] [DecidableEq Operation] in
/-- Other queues are used. -/
theorem Destroys.unchanged (destroys : run.Destroys)
    (held : ∀ queue ∈ run.ended, next.held queue = run.held queue)
    (destructors : next.destructors = run.destructors) (finished : next.finished = run.finished) :
    next.Destroys := by
  refine ⟨?_, ?_, ?_, ?_⟩
  · rw [ended, destructors, finished]
    exact destroys.once
  · rw [destructors, finished]
    exact destroys.nodup
  · rw [destructors]
    intro destructor inside
    rw [held _ (mem_ended (List.mem_append_left _ inside))]
    exact destroys.running destructor inside
  · rw [finished]
    intro destructor inside
    rw [held _ (mem_ended (List.mem_append_right _ inside))]
    exact destroys.returned destructor inside

omit [DecidableEq Operation] in
theorem Destroys.update (destroys : run.Destroys) (notEnded : queue ∉ run.ended)
    {ops : List Operation} (held : next.held = Function.update run.held queue ops)
    (destructors : next.destructors = run.destructors) (finished : next.finished = run.finished) :
    next.Destroys := by
  apply destroys.unchanged _ destructors finished
  intro other inside
  rw [held, Function.update_of_ne]
  rintro rfl
  exact notEnded inside

omit [DecidableEq Queue] in
/-- A destructor begins. -/
theorem WellFormed.destruct (wellFormed : run.WellFormed) (notEnded : queue ∉ run.ended) :
    WellFormed { run with destructors := ⟨queue, run.held queue, []⟩ :: run.destructors } where
  spells := wellFormed.spells
  conserved := wellFormed.conserved.moved (fun _ => Iff.rfl) rfl rfl rfl
  destroys := by
    have destroys := wellFormed.destroys
    refine ⟨List.nodup_cons.mpr ⟨notEnded, destroys.once⟩, ?_, ?_, destroys.returned⟩
    · intro destructor inside
      rcases List.mem_cons.mp inside with rfl | inside
      · exact (wellFormed.spells.chain queue).nodup
      · exact destroys.nodup destructor inside
    · intro destructor inside
      rcases List.mem_cons.mp inside with rfl | inside
      · rfl
      · exact destroys.running destructor inside

omit [DecidableEq Queue] in
/-- The innermost destructor returns. -/
theorem WellFormed.returned {destructor : OpDestructor Queue Operation}
    {outer : List (OpDestructor Queue Operation)} (wellFormed : run.WellFormed)
    (is : run.destructors = destructor :: outer) (empty : run.held destructor.queue = []) :
    WellFormed { run with destructors := outer, finished := destructor :: run.finished } where
  spells := wellFormed.spells
  conserved := wellFormed.conserved.moved (fun _ => Iff.rfl) rfl rfl rfl
  destroys := by
    obtain ⟨once, nodup, running, returned⟩ := wellFormed.destroys
    rw [ended, is] at once
    rw [is] at nodup running
    have moved : (outer ++ destructor :: run.finished).Perm
        (destructor :: outer ++ run.finished) := List.perm_middle
    refine ⟨(moved.map _).nodup_iff.mpr once, ?_, ?_, ?_⟩
    · intro other inside
      exact nodup other (moved.mem_iff.mp inside)
    · intro other inside
      exact running other (List.mem_cons_of_mem _ inside)
    · intro other inside
      rcases List.mem_cons.mp inside with rfl | inside
      · have found := running _ List.mem_cons_self
        rw [empty, List.append_nil] at found
        exact ⟨found.symm, empty⟩
      · exact returned other inside

/-- The innermost destructor destroys the head of its queue. -/
theorem WellFormed.destroyed {destructor : OpDestructor Queue Operation}
    {outer : List (OpDestructor Queue Operation)} (wellFormed : run.WellFormed)
    (is : run.destructors = destructor :: outer)
    (holds : run.held destructor.queue = op :: rest) :
    WellFormed { run.removeFront destructor.queue with
      destructors := { destructor with destroyed := destructor.destroyed ++ [op] } :: outer
      destroyed := run.destroyed ++ [op] } where
  spells := wellFormed.spells.pop destructor.queue
  conserved := by
    apply wellFormed.conserved.removed wellFormed.spells holds
    · rw [removeFront, holds, List.tail_cons]
    · rfl
    · intro other
      dsimp only [removeFront]
      rw [List.count_append]
      omega
  destroys := by
    obtain ⟨once, nodup, running, returned⟩ := wellFormed.destroys
    rw [ended, is] at once
    rw [is] at nodup running
    have differs (other : OpDestructor Queue Operation) (inside : other ∈ outer ++ run.finished) :
        other.queue ≠ destructor.queue := by
      intro same
      apply (List.nodup_cons.mp once).1
      rw [← same]
      exact List.mem_map_of_mem inside
    refine ⟨once, ?_, ?_, ?_⟩
    · intro other inside
      rcases List.mem_cons.mp inside with rfl | inside
      · exact nodup destructor List.mem_cons_self
      · exact nodup other (List.mem_cons_of_mem _ inside)
    · intro other inside
      dsimp only [removeFront]
      rcases List.mem_cons.mp inside with rfl | inside
      · have found := running destructor List.mem_cons_self
        rw [holds] at found
        dsimp only
        rw [Function.update_self, holds, List.tail_cons, found, List.append_assoc,
          List.singleton_append]
      · rw [Function.update_of_ne (differs other (List.mem_append_left _ inside))]
        exact running other (List.mem_cons_of_mem _ inside)
    · intro other inside
      dsimp only [removeFront]
      rw [Function.update_of_ne (differs other (List.mem_append_right _ inside))]
      exact returned other inside

/-! ## Calls -/

theorem WellFormed.push (wellFormed : run.WellFormed) (notEnded : queue ∉ run.ended)
    (free : ∀ other, h ∉ run.held other) :
    WellFormed { run with
      memory := run.memory.push queue h
      held := Function.update run.held queue (run.held queue ++ [h])
      pushed := run.pushed ++ [h] } where
  spells := wellFormed.spells.push free queue
  conserved := wellFormed.conserved.push free rfl rfl rfl rfl
  destroys := wellFormed.destroys.update notEnded rfl rfl rfl

theorem WellFormed.pop (wellFormed : run.WellFormed) (notEnded : queue ∉ run.ended) :
    WellFormed { run.removeFront queue with
      popped := run.popped ++ (run.memory.queues queue).front.toList } where
  spells := wellFormed.spells.pop queue
  conserved := by
    rw [wellFormed.spells.front_eq queue]
    cases is : run.held queue with
    | nil =>
        apply wellFormed.conserved.moved
        · intro op
          dsimp only [removeFront]
          rw [is, List.tail_nil, ← is, Function.update_eq_self]
        · rfl
        · exact List.append_nil _
        · rfl
    | cons op rest =>
        apply wellFormed.conserved.removed wellFormed.spells is
        · rw [removeFront, is, List.tail_cons]
        · rfl
        · intro other
          dsimp only [removeFront, List.head?_cons, Option.toList_some]
          rw [List.count_append]
          omega
  destroys := wellFormed.destroys.update notEnded rfl rfl rfl

theorem WellFormed.pushQueue (wellFormed : run.WellFormed) (differ : queue ≠ q)
    (notEnded : queue ∉ run.ended) (notEnded' : q ∉ run.ended) :
    WellFormed { run with
      memory := run.memory.pushQueue queue q
      held := Function.update
        (Function.update run.held queue (run.held queue ++ run.held q)) q [] } where
  spells := wellFormed.spells.pushQueue differ
  conserved := wellFormed.conserved.moved (mem_pushQueue run.held differ) rfl rfl rfl
  destroys := by
    refine wellFormed.destroys.unchanged ?_ rfl rfl
    intro other inside
    dsimp only
    rw [Function.update_of_ne, Function.update_of_ne]
    · rintro rfl
      exact notEnded inside
    · rintro rfl
      exact notEnded' inside

/-- What a turn of a destructor does. -/
theorem WellFormed.proceed_eq {destructor : OpDestructor Queue Operation}
    {outer : List (OpDestructor Queue Operation)} (wellFormed : run.WellFormed)
    (is : run.destructors = destructor :: outer) :
    run.proceed = match run.held destructor.queue with
      | [] => some { run with destructors := outer, finished := destructor :: run.finished }
      | op :: _ => some { run.removeFront destructor.queue with
          destructors := { destructor with destroyed := destructor.destroyed ++ [op] } :: outer
          destroyed := run.destroyed ++ [op] } := by
  unfold proceed
  rw [is]
  dsimp only
  rw [wellFormed.spells.front_eq destructor.queue]
  cases run.held destructor.queue with
  | nil => rfl
  | cons op rest => rfl

theorem WellFormed.proceed (wellFormed : run.WellFormed) (proceeded : run.proceed = some next) :
    next.WellFormed := by
  cases is : run.destructors with
  | nil =>
      rw [OpQueueRun.proceed, is] at proceeded
      cases proceeded
  | cons destructor outer =>
      rw [wellFormed.proceed_eq is] at proceeded
      cases holds : run.held destructor.queue with
      | nil =>
          rw [holds] at proceeded
          cases proceeded
          exact wellFormed.returned is holds
      | cons op rest =>
          rw [holds] at proceeded
          cases proceeded
          exact wellFormed.destroyed is holds

theorem WellFormed.call {call : OpQueueCall Queue Operation} (wellFormed : run.WellFormed)
    (obeys : run.Obeys call) (called : run.call call = some next) : next.WellFormed := by
  cases call with
  | push queue h =>
      cases called
      exact wellFormed.push obeys.1 obeys.2
  | pop queue =>
      cases called
      exact wellFormed.pop obeys
  | pushQueue queue q =>
      cases called
      exact wellFormed.pushQueue obeys.1 obeys.2.1 obeys.2.2
  | destruct queue =>
      cases called
      exact wellFormed.destruct obeys
  | proceed => exact wellFormed.proceed called

/-- The innermost destructor takes a turn for each operation that its queue holds, and a last
one. -/
theorem WellFormed.returns (wellFormed : run.WellFormed) {destructor : OpDestructor Queue Operation}
    {outer : List (OpDestructor Queue Operation)} (is : run.destructors = destructor :: outer) :
    ∃ next, machine.run run
        (List.replicate ((run.held destructor.queue).length + 1) .proceed) = some next ∧
      next.destructors = outer ∧
      next.finished = { destructor with destroyed := destructor.found } :: run.finished := by
  induction holds : run.held destructor.queue generalizing run destructor with
  | nil =>
      have found := wellFormed.destroys.running destructor (is ▸ List.mem_cons_self)
      rw [holds, List.append_nil] at found
      have turn : machine.step run .proceed =
          some { run with destructors := outer, finished := destructor :: run.finished } := by
        have proceeded := wellFormed.proceed_eq is
        rw [holds] at proceeded
        exact proceeded
      refine ⟨{ run with destructors := outer, finished := destructor :: run.finished },
        ?_, rfl, ?_⟩
      · rw [List.length_nil, Nat.zero_add, List.replicate_one, Transition.Machine.run, turn]
        rfl
      · obtain ⟨queue, ops, destroyed⟩ := destructor
        cases (found : ops = destroyed)
        rfl
  | cons op rest ih =>
      have turn : machine.step run .proceed = some { run.removeFront destructor.queue with
          destructors := { destructor with destroyed := destructor.destroyed ++ [op] } :: outer
          destroyed := run.destroyed ++ [op] } := by
        have proceeded := wellFormed.proceed_eq is
        rw [holds] at proceeded
        exact proceeded
      have left : (run.removeFront destructor.queue).held destructor.queue = rest := by
        dsimp only [removeFront]
        rw [Function.update_self, holds, List.tail_cons]
      obtain ⟨next, ran, destructors, finished⟩ := ih (wellFormed.destroyed is holds) rfl left
      refine ⟨next, ?_, destructors, finished⟩
      rw [List.length_cons, List.replicate_succ, Transition.Machine.run, turn]
      exact ran

theorem WellFormed.kept (wellFormed : run.WellFormed) : run.Kept where
  wellFormed := wellFormed
  acyclic queue := (wellFormed.spells.chain queue).nodup
  walked queue := Chain.returns_walk (wellFormed.spells.chain queue) []
  last queue op isBack := by
    rw [wellFormed.spells.back_eq, List.getLast?_eq_some_iff] at isBack
    obtain ⟨before, is⟩ := isBack
    have chain := wellFormed.spells.chain queue
    rw [is] at chain
    exact (Chain.concat_iff.mp chain).2
  popped queue op isFront := by
    unfold OpQueues.pop
    rw [isFront]
    exact Function.update_self _ _ _
  isEnqueued _ _ elsewhere := wellFormed.spells.isEnqueued_iff elsewhere
  returns _ _ is := wellFormed.returns is

/-- However the queues are pushed, popped and destroyed, each spells its list and loses or
duplicates no operation, and each destructor destroys what it found once. -/
theorem queues_kept (reachable : machine.ReachableWhen Obeys run) : run.Kept := by
  apply WellFormed.kept
  apply reachable.invariant
  · rintro _ rfl
    exact wellFormed_new
  · rintro run call next - wellFormed obeys called
    exact wellFormed.call obeys called

/-- A destructor runs; what it destroys first uses another queue and ends a third one. -/
def nestedCalls : List (OpQueueCall (Fin 3) Nat) :=
  [.push 0 1, .push 0 2, .push 1 3, .pushQueue 0 1, .pop 0, .push 1 4, .push 2 5, .destruct 0,
    .proceed, .pop 1, .push 1 1, .destruct 2, .proceed, .proceed, .proceed, .proceed]

theorem queues_kept_nested : ∃ run : OpQueueRun (Fin 3) Nat,
    machine.run new nestedCalls = some run ∧ run.held 1 = [1] ∧ run.popped = [1, 4] ∧
      run.destroyed = [2, 5, 3] ∧
      run.finished.map OpDestructor.destroyed = [[2, 3], [5]] ∧ run.Kept := by
  refine ⟨_, rfl, ?_, ?_, ?_, ?_,
    queues_kept (.run (.initial rfl) nestedCalls rfl (by decide))⟩
  all_goals decide

end OpQueueRun

end Asio.Core
