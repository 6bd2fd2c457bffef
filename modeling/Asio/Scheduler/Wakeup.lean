import Asio.Scheduler.Closing
import Asio.Scheduler.Task

/-! # Wakeups

While the main queue holds operations, some thread is on its way to the queue or
about to wake one that sleeps, unless nobody sleeps. The responsibility passes
from thread to thread, and is lost only where a function returns or throws after
it has filled the queue for others.
-/

namespace Asio.Scheduler

open State

variable {T Op D : Type*}

/-- The critical sections that look for an operation, or lead to one that does. -/
def Section.approaches {Op : Type*} : Section Op → Bool
  | .enter | .dispatch | .waited | .afterTask | .taskCleanup false => true
  | _ => false

/-- A thread is on its way to the queue. -/
def Pc.approaches : Pc Op D → Bool
  | .acquiring rest | .holding rest => rest.approaches
  | _ => false

/-- A thread waits on the condition variable. -/
def Pc.waits : Pc Op D → Bool
  | .waiting => true
  | _ => false

/-- A thread has been woken and locks the mutex, still inside `wait`. -/
def Pc.wakes : Pc Op D → Bool
  | .acquiring .wake | .holding .wake => true
  | _ => false

/-- A thread runs the task and may block in it. -/
def Pc.blocks (interrupted : Bool) : Pc Op D → Bool
  | .task usec _ => usec != 0 && !interrupted
  | _ => false

/-- A thread runs the task and does not block in it. -/
def Pc.returns (interrupted : Bool) : Pc Op D → Bool
  | .task usec _ => usec == 0 || interrupted
  | _ => false

/-- A thread will look at the queue without being woken. -/
def Pc.serves (interrupted signalled : Bool) (pc : Pc Op D) : Bool :=
  pc.approaches || pc.returns interrupted || pc.wakes && signalled

/-- A thread will look at the queue, or wake one that does. -/
def State.Attends (state : State T Op D) (t : T) : Prop :=
  (state.thread t).pc.serves state.scheduler.taskInterrupted
      state.scheduler.wakeupEvent.signalled = true ∨
    state.scheduler.wakeupEvent.signalled = true ∧ (state.thread t).signalling = true ∧
      ∃ u, (state.thread u).pc.waits = true

instance [Fintype T] (state : State T Op D) (t : T) : Decidable (state.Attends t) :=
  inferInstanceAs (Decidable (_ ∨ _ ∧ _ ∧ _))

/-- The queue is attended to: by some thread, or nobody sleeps or may block. -/
def State.Attended (state : State T Op D) : Prop :=
  (∃ t, state.Attends t) ∨ state.scheduler.wakeupEvent.waiters = 0 ∧
    ∀ t, (state.thread t).pc.blocks state.scheduler.taskInterrupted = false

/-- The queue is attended to without the help of one thread. -/
def State.AttendedBeside (state : State T Op D) (t : T) : Prop :=
  (∃ u, u ≠ t ∧ state.Attends u) ∨ state.scheduler.wakeupEvent.waiters = 0 ∧
    ∀ u, u ≠ t → (state.thread u).pc.blocks state.scheduler.taskInterrupted = false

instance [Fintype T] [DecidableEq T] (state : State T Op D) (t : T) :
    Decidable (state.AttendedBeside t) :=
  inferInstanceAs (Decidable (_ ∨ _ ∧ _))

/-- A step with which a thread leaves work behind for others: a function returns
or throws after it has put its private queue on the main queue, or the task throws
and is put back. -/
def State.leavesWork (state : State T Op D) (move : T × Action T Op D) : Bool :=
  match (state.thread move.1).pc, (state.thread move.1).contexts, move.2 with
  | .holding (.flush thrown), info :: _, _ => thrown || !info.entry.repeats
  | .holding (.taskCleanup true), _, _ => true
  | .task _ _, _, .taskReturn true => true
  | _, _, _ => false

/-- The action calls a function that runs the scheduler. -/
def Action.calls : Action T Op D → Bool
  | .call _ => true
  | _ => false

/-- No step leaves work behind unless the queue is attended to, and a scheduler
made for one thread is run by one. -/
def Attentive (oneThread : Bool) (state : State T Op D) (move : T × Action T Op D) : Prop :=
  (state.leavesWork move = true → state.AttendedBeside move.1) ∧
    (oneThread = true → move.2.calls = true →
      ∀ u, u ≠ move.1 → (state.thread u).contexts = [])

instance [Fintype T] [DecidableEq T] (oneThread : Bool) (state : State T Op D)
    (move : T × Action T Op D) : Decidable (Attentive oneThread state move) :=
  inferInstanceAs (Decidable ((_ → _) ∧ (_ → _ → ∀ u, u ≠ move.1 → _)))

/-- A thread sleeps: it is inside `wait`. -/
def Pc.sleeps (pc : Pc Op D) : Bool := pc.waits || pc.wakes

/-- The threads that sleep are counted, a scheduler made for one thread is run by
one, `stop` has woken everyone, and a queue with operations is attended to. -/
structure Wakeful [Fintype T] (oneThread : Bool) (state : State T Op D) : Prop where
  waiters : state.scheduler.wakeupEvent.waiters = ∑ t, (state.thread t).pc.sleeps.toNat
  single : oneThread = true → ∀ t u, (state.thread t).contexts ≠ [] → u ≠ t →
    (state.thread u).contexts = []
  stopped : state.scheduler.stopped = true → state.scheduler.wakeupEvent.signalled = true ∧
    ∀ t, (state.thread t).pc.waits = false ∧
      (state.thread t).pc.blocks state.scheduler.taskInterrupted = false
  attended : state.scheduler.stopped = false → state.scheduler.opQueue ≠ [] → state.Attended

section Members

variable (scheduler : Scheduler Op D) (ops : List (Operation Op D)) (oneThread : Bool)
  (outcome : Outcome Op D)

theorem interruptTask_taskInterrupted (interrupted : scheduler.taskInterrupted = true) :
    scheduler.interruptTask.taskInterrupted = true := by
  unfold interruptTask
  split
  · rfl
  · exact interrupted

/-- After `interruptTask` the task is interrupted, if there is one. -/
theorem interruptTask_free (task : scheduler.task = true) :
    scheduler.interruptTask.taskInterrupted = true := by
  unfold interruptTask
  split
  · rfl
  · next done =>
      rw [task, Bool.and_true, Bool.not_eq_true, Bool.not_eq_false'] at done
      exact done

theorem wakeOneThreadAndUnlock_taskInterrupted (interrupted : scheduler.taskInterrupted = true) :
    scheduler.wakeOneThreadAndUnlock.1.taskInterrupted = true := by
  rw [wakeOneThreadAndUnlock_eq]
  simp only
  split
  · exact interrupted
  · exact interruptTask_taskInterrupted _ interrupted

/-- Without a waiting thread, `wake_one_thread_and_unlock` interrupts the task. -/
theorem wakeOneThreadAndUnlock_free (none : scheduler.wakeupEvent.waiters = 0)
    (task : scheduler.task = true) :
    scheduler.wakeOneThreadAndUnlock.1.taskInterrupted = true := by
  rw [wakeOneThreadAndUnlock_eq]
  simp only
  rw [if_neg (Nat.not_lt.mpr (Nat.le_of_eq none))]
  exact interruptTask_free _ task

theorem wakeOneThreadAndUnlock_signalling :
    scheduler.wakeOneThreadAndUnlock.2 = decide (0 < scheduler.wakeupEvent.waiters) := by
  rw [wakeOneThreadAndUnlock_eq]

theorem dequeue_waiters : (scheduler.dequeue oneThread ops outcome).scheduler.wakeupEvent.waiters =
    scheduler.wakeupEvent.waiters := by
  rw [dequeue_eq]
  split
  · rw [wakeOneThreadAndUnlock_wakeupEvent]
    rfl
  · rfl

theorem dequeue_signalled (signalled : scheduler.wakeupEvent.signalled = true) :
    (scheduler.dequeue oneThread ops outcome).scheduler.wakeupEvent.signalled = true := by
  rw [dequeue_eq]
  split
  · rw [wakeOneThreadAndUnlock_wakeupEvent]
    rfl
  · exact signalled

theorem dequeue_taskInterrupted (interrupted : scheduler.taskInterrupted = true) :
    (scheduler.dequeue oneThread ops outcome).scheduler.taskInterrupted = true := by
  rw [dequeue_eq]
  split
  · exact wakeOneThreadAndUnlock_taskInterrupted _ interrupted
  · exact interrupted

end Members

section Attention

variable {state next : State T Op D} {t u : T} {pc : Pc Op D}

theorem Pc.share_of_blocks {interrupted : Bool} (blocks : pc.blocks interrupted = true) :
    pc.share = 1 := by
  cases pc with
  | task usec pushed => rfl
  | _ => exact Bool.noConfusion blocks

theorem Pc.blocks_eq_false {interrupted : Bool} (idle : pc.share = 0) :
    pc.blocks interrupted = false := by
  by_contra blocks
  rw [Pc.share_of_blocks (Bool.not_eq_false _ ▸ blocks)] at idle
  contradiction

/-- An interrupted task does not block. -/
theorem Pc.blocks_interrupted : pc.blocks true = false := by
  cases pc with
  | task usec pushed => exact Bool.and_false _
  | _ => rfl

/-- Interrupting the task and signalling the event only help. -/
theorem Pc.serves_mono {interrupted interruptedToo signalled signalledToo : Bool}
    (interrupts : interrupted = true → interruptedToo = true)
    (signals : signalled = true → signalledToo = true)
    (serves : pc.serves interrupted signalled = true) :
    pc.serves interruptedToo signalledToo = true := by
  unfold Pc.serves at serves ⊢
  rw [Bool.or_eq_true, Bool.or_eq_true, Bool.and_eq_true] at serves ⊢
  rcases serves with (approaches | returns) | ⟨wakes, signalled⟩
  · exact Or.inl (Or.inl approaches)
  · refine Or.inl (Or.inr ?_)
    cases pc with
    | task usec pushed =>
        unfold Pc.returns at returns ⊢
        rw [Bool.or_eq_true] at returns ⊢
        exact returns.imp id interrupts
    | _ => exact returns
  · exact Or.inr ⟨wakes, signals signalled⟩

theorem Pc.blocks_mono {interrupted interruptedToo : Bool}
    (interrupts : interrupted = true → interruptedToo = true)
    (blocks : pc.blocks interrupted = false) : pc.blocks interruptedToo = false := by
  cases interruptedToo with
  | true => exact Pc.blocks_interrupted
  | false =>
      cases interrupted with
      | true => exact absurd (interrupts rfl) Bool.false_ne_true
      | false => exact blocks

/-- A thread that a step does not touch attends to the queue as before. -/
theorem State.Attends.other (attends : state.Attends u) (same : next.thread u = state.thread u)
    (interrupts : state.scheduler.taskInterrupted = true → next.scheduler.taskInterrupted = true)
    (signals : state.scheduler.wakeupEvent.signalled = true →
      next.scheduler.wakeupEvent.signalled = true)
    (waiting : (∃ v, (state.thread v).pc.waits = true) → ∃ v, (next.thread v).pc.waits = true) :
    next.Attends u := by
  unfold State.Attends
  rw [same]
  rcases attends with serves | ⟨signalled, signalling, asleep⟩
  · exact Or.inl (Pc.serves_mono interrupts signals serves)
  · exact Or.inr ⟨signals signalled, signalling, waiting asleep⟩

variable [Fintype T]

/-- A thread sleeps when the event counts one. -/
theorem exists_sleeps (waiters : state.scheduler.wakeupEvent.waiters =
      ∑ t, (state.thread t).pc.sleeps.toNat)
    (asleep : 0 < state.scheduler.wakeupEvent.waiters) :
    ∃ t, (state.thread t).pc.sleeps = true := by
  by_contra awake
  have none : ∑ t, (state.thread t).pc.sleeps.toNat = 0 := by
    apply Finset.sum_eq_zero
    intro t _
    rw [Bool.eq_false_of_not_eq_true fun sleeps => awake ⟨t, sleeps⟩]
    rfl
  omega

/-- Nobody sleeps when the event counts nobody. -/
theorem sleeps_eq_false (waiters : state.scheduler.wakeupEvent.waiters =
      ∑ t, (state.thread t).pc.sleeps.toNat)
    (none : state.scheduler.wakeupEvent.waiters = 0) (t : T) :
    (state.thread t).pc.sleeps = false := by
  rw [none] at waiters
  have zero := Finset.sum_eq_zero_iff.mp waiters.symm t (Finset.mem_univ t)
  cases asleep : (state.thread t).pc.sleeps with
  | false => rfl
  | true =>
      rw [asleep] at zero
      contradiction

/-- After the event has been signalled, the queue is attended to: a thread that
sleeps has been woken or will be, and without one the task does not block. -/
theorem attended_of_signalled (waiters : next.scheduler.wakeupEvent.waiters =
      ∑ t, (next.thread t).pc.sleeps.toNat)
    (signalled : next.scheduler.wakeupEvent.signalled = true)
    (announced : 0 < next.scheduler.wakeupEvent.waiters → (next.thread t).signalling = true)
    (free : next.scheduler.wakeupEvent.waiters = 0 →
      ∀ u, (next.thread u).pc.blocks next.scheduler.taskInterrupted = false) : next.Attended := by
  rcases Nat.eq_zero_or_pos next.scheduler.wakeupEvent.waiters with none | some
  · exact Or.inr ⟨none, free none⟩
  · obtain ⟨u, sleeps⟩ := exists_sleeps waiters some
    rw [Pc.sleeps, Bool.or_eq_true] at sleeps
    rcases sleeps with waits | wakes
    · exact Or.inl ⟨t, Or.inr ⟨signalled, announced some, u, waits⟩⟩
    · refine Or.inl ⟨u, Or.inl ?_⟩
      rw [Pc.serves, wakes, signalled]
      exact Bool.or_true _

end Attention

section Preservation

variable [DecidableEq T] [Fintype T] {oneThread : Bool} {state next : State T Op D} {t : T}
  {info : ThreadInfo Op D} {outer contexts : List (ThreadInfo Op D)} {thread : Thread Op D}
  {action : Action T Op D}

omit [DecidableEq T] in
/-- With a scheduler made for one thread, no other thread runs it. -/
theorem Wakeful.alone {pc : Pc Op D} {signalling : Bool} (wakeful : Wakeful oneThread state)
    (one : oneThread = true) (here : state.thread t = ⟨pc, signalling, info :: outer⟩) :
    ∀ u, u ≠ t → (state.thread u).contexts = [] := by
  intro u other
  apply wakeful.single one t u _ other
  rw [here]
  exact List.cons_ne_nil _ _

omit [DecidableEq T] [Fintype T] in
/-- A thread outside the scheduler neither sleeps nor runs the task. -/
theorem Shaped.idle (shaped : Shaped state) (outside : (state.thread t).contexts = []) :
    (state.thread t).pc.sleeps = false ∧ (state.thread t).pc.share = 0 := by
  have shape := shaped t
  unfold Thread.Shape at shape
  rw [outside] at shape
  have calling : (state.thread t).pc.phase = .calling := by
    cases phase : (state.thread t).pc.phase with
    | calling => rfl
    | looking =>
        rw [phase] at shape
        obtain ⟨_, _, same, -⟩ := shape
        contradiction
    | gathering =>
        rw [phase] at shape
        obtain ⟨_, _, same, -⟩ := shape
        contradiction
    | finishing =>
        rw [phase] at shape
        obtain ⟨_, _, same, -⟩ := shape
        contradiction
  cases here : (state.thread t).pc with
  | acquiring rest =>
      rw [here] at calling
      cases rest with
      | wake => exact Phase.noConfusion calling
      | taskCleanup thrown => exact Phase.noConfusion calling
      | _ => exact ⟨rfl, rfl⟩
  | holding rest =>
      rw [here] at calling
      cases rest with
      | wake => exact Phase.noConfusion calling
      | taskCleanup thrown => exact Phase.noConfusion calling
      | _ => exact ⟨rfl, rfl⟩
  | waiting =>
      rw [here] at calling
      exact Phase.noConfusion calling
  | task usec pushed =>
      rw [here] at calling
      exact Phase.noConfusion calling
  | _ => exact ⟨rfl, rfl⟩

omit [DecidableEq T] in
/-- While the task is queued, no thread runs it. -/
theorem Placed.free (placed : Placed state) (queued : 0 < taskCount state.scheduler.opQueue)
    (t : T) : (state.thread t).pc.share = 0 := by
  have bound : (state.thread t).pc.share ≤ ∑ u, (state.thread u).pc.share :=
    Finset.single_le_sum (fun u _ => share_nonneg state u) (Finset.mem_univ t)
  have nonneg := share_nonneg state t
  have share := placed.share
  omega

omit [DecidableEq T] in
/-- A thread runs the task only when the scheduler has one. -/
theorem Placed.task_of_runs (placed : Placed state) (shaped : Shaped state)
    (closed : Closed state) (runs : (state.thread t).pc.share = 1) : state.scheduler.task = true := by
  by_contra none
  have bound : (state.thread t).pc.share ≤ ∑ u, (state.thread u).pc.share :=
    Finset.single_le_sum (fun u _ => share_nonneg state u) (Finset.mem_univ t)
  cases down : state.scheduler.shutdown with
  | false =>
      have absent := placed.absent (Bool.not_eq_true _ ▸ none) down
      omega
  | true =>
      have idle := shaped.idle (closed.outside (closed.shutdown down) t)
      rw [idle.2] at runs
      contradiction

/-- A step of one thread, by what it does to the members. -/
theorem Wakeful.update (wakeful : Wakeful oneThread state) (t : T) (thread : Thread Op D)
    (threads : next.thread = Function.update state.thread t thread)
    (waiters : next.scheduler.wakeupEvent.waiters + (state.thread t).pc.sleeps.toNat =
      state.scheduler.wakeupEvent.waiters + thread.pc.sleeps.toNat)
    (single : oneThread = true → thread.contexts ≠ [] →
      ∀ u, u ≠ t → (state.thread u).contexts = [])
    (stopped : next.scheduler.stopped = true → next.scheduler.wakeupEvent.signalled = true ∧
      ∀ u, (next.thread u).pc.waits = false ∧
        (next.thread u).pc.blocks next.scheduler.taskInterrupted = false)
    (attended : next.scheduler.wakeupEvent.waiters = ∑ u, (next.thread u).pc.sleeps.toNat →
      next.scheduler.stopped = false → next.scheduler.opQueue ≠ [] → next.Attended) :
    Wakeful oneThread next := by
  have counted : next.scheduler.wakeupEvent.waiters = ∑ u, (next.thread u).pc.sleeps.toNat := by
    have sum := FamilySum.sum_update_add (fun thread : Thread Op D => thread.pc.sleeps.toNat)
      state.thread t thread
    simp only [← threads] at sum
    have before := wakeful.waiters
    omega
  refine ⟨counted, ?_, stopped, attended counted⟩
  intro one u v inside other
  rw [threads] at inside ⊢
  by_cases same : u = t
  · subst same
    rw [Function.update_self] at inside
    rw [Function.update_of_ne other]
    exact single one inside v other
  · rw [Function.update_of_ne same] at inside
    by_cases this : v = t
    · subst this
      rw [Function.update_self]
      by_contra insideToo
      exact inside (single one insideToo u same)
    · rw [Function.update_of_ne this]
      exact wakeful.single one u v inside other

/-- While the scheduler is stopped, nobody sleeps and the task does not block. -/
theorem Wakeful.stopped_next (wakeful : Wakeful oneThread state) (t : T) (thread : Thread Op D)
    (threads : next.thread = Function.update state.thread t thread)
    (waits : thread.pc.waits = false)
    (blocks : (state.thread t).pc.blocks state.scheduler.taskInterrupted = false →
      thread.pc.blocks next.scheduler.taskInterrupted = false)
    (event : state.scheduler.wakeupEvent.signalled = true →
      next.scheduler.wakeupEvent.signalled = true)
    (interrupts : state.scheduler.taskInterrupted = true →
      next.scheduler.taskInterrupted = true)
    (stopped : state.scheduler.stopped = true) :
    next.scheduler.wakeupEvent.signalled = true ∧ ∀ u, (next.thread u).pc.waits = false ∧
      (next.thread u).pc.blocks next.scheduler.taskInterrupted = false := by
  obtain ⟨signalled, awake⟩ := wakeful.stopped stopped
  refine ⟨event signalled, fun u => ?_⟩
  rw [threads]
  by_cases same : u = t
  · subst same
    rw [Function.update_self]
    exact ⟨waits, blocks (awake u).2⟩
  · rw [Function.update_of_ne same]
    exact ⟨(awake u).1, Pc.blocks_mono interrupts (awake u).2⟩

/-- A step of a thread that does not sleep and leaves the event and the task alone. -/
theorem Wakeful.move {pc after : Pc Op D} {signals : Bool} {inside : List (ThreadInfo Op D)}
    (wakeful : Wakeful oneThread state) (here : state.thread t = ⟨pc, signals, contexts⟩)
    (threads : next.thread = Function.update state.thread t ⟨after, signals, inside⟩)
    (serves : pc.serves state.scheduler.taskInterrupted
        state.scheduler.wakeupEvent.signalled = true →
      after.serves state.scheduler.taskInterrupted state.scheduler.wakeupEvent.signalled = true)
    (blocks : pc.blocks state.scheduler.taskInterrupted = false →
      after.blocks state.scheduler.taskInterrupted = false := by exact fun _ => rfl)
    (single : oneThread = true → inside ≠ [] → ∀ u, u ≠ t → (state.thread u).contexts = [])
    (opQueue : next.scheduler.opQueue ≠ [] → state.scheduler.opQueue ≠ [] := by exact id)
    (sleeps : after.sleeps = pc.sleeps := by rfl) (awake : pc.waits = false := by rfl)
    (awakeToo : after.waits = false := by rfl)
    (event : next.scheduler.wakeupEvent = state.scheduler.wakeupEvent := by rfl)
    (interrupted : next.scheduler.taskInterrupted = state.scheduler.taskInterrupted := by rfl)
    (stopped : next.scheduler.stopped = state.scheduler.stopped := by rfl) :
    Wakeful oneThread next := by
  have untouched : ∀ u, u ≠ t → next.thread u = state.thread u := by
    intro u other
    rw [threads, Function.update_of_ne other]
  have touched : next.thread t = ⟨after, signals, inside⟩ := by
    rw [threads, Function.update_self]
  have signalled : state.scheduler.wakeupEvent.signalled = true →
      next.scheduler.wakeupEvent.signalled = true := by
    rw [event]
    exact id
  have interrupts : state.scheduler.taskInterrupted = true →
      next.scheduler.taskInterrupted = true := by
    rw [interrupted]
    exact id
  have waiting : (∃ v, (state.thread v).pc.waits = true) →
      ∃ v, (next.thread v).pc.waits = true := by
    rintro ⟨v, waits⟩
    refine ⟨v, ?_⟩
    rw [untouched v]
    · exact waits
    · rintro rfl
      rw [here, awake] at waits
      contradiction
  refine wakeful.update t ⟨after, signals, inside⟩ threads ?_ single ?_ ?_
  · rw [event, here, sleeps]
  · rw [stopped]
    refine wakeful.stopped_next t _ threads awakeToo ?_ signalled interrupts
    rw [here, interrupted]
    exact blocks
  · intro _ running queued
    rw [stopped] at running
    rcases wakeful.attended running (opQueue queued) with ⟨u, attends⟩ | ⟨none, free⟩
    · refine Or.inl ⟨u, ?_⟩
      by_cases same : u = t
      · subst same
        rcases attends with serving | ⟨loud, signalling, asleep⟩
        · rw [here] at serving
          refine Or.inl ?_
          rw [touched, event, interrupted]
          exact serves serving
        · rw [here] at signalling
          refine Or.inr ⟨signalled loud, ?_, waiting asleep⟩
          rw [touched]
          exact signalling
      · exact attends.other (untouched u same) interrupts signalled waiting
    · refine Or.inr ⟨?_, fun u => ?_⟩
      · rw [event]
        exact none
      · rw [interrupted]
        by_cases same : u = t
        · subst same
          have before := free u
          rw [here] at before
          rw [touched]
          exact blocks before
        · rw [untouched u same]
          exact free u

omit [DecidableEq T] [Fintype T] in
theorem turnOf_pc {rest : Section Op} {scheduler : Scheduler Op D} {entry : Entry}
    {turn : Turn Op D} (turned : rest.turnOf oneThread scheduler entry = some turn) :
    (.holding rest : Pc Op D).sleeps = false ∧ (.holding rest : Pc Op D).share = 0 := by
  cases rest with
  | dispatch => exact ⟨rfl, rfl⟩
  | waited => exact ⟨rfl, rfl⟩
  | afterTask => exact ⟨rfl, rfl⟩
  | _ => simp [Section.turnOf] at turned

/-- When the only thread that runs the scheduler goes on, nobody sleeps. -/
theorem Shaped.attended_alone (shaped : Shaped state)
    (others : ∀ u, u ≠ t → (state.thread u).contexts = [])
    (threads : next.thread = Function.update state.thread t thread)
    (sleeps : thread.pc.sleeps = false) (share : thread.pc.share = 0)
    (waiters : next.scheduler.wakeupEvent.waiters = ∑ u, (next.thread u).pc.sleeps.toNat) :
    next.Attended := by
  have idle : ∀ u, (next.thread u).pc.sleeps = false ∧ (next.thread u).pc.share = 0 := by
    intro u
    rw [threads]
    by_cases same : u = t
    · subst same
      rw [Function.update_self]
      exact ⟨sleeps, share⟩
    · rw [Function.update_of_ne same]
      exact shaped.idle (others u same)
  refine Or.inr ⟨?_, fun u => Pc.blocks_eq_false (idle u).2⟩
  rw [waiters]
  apply Finset.sum_eq_zero
  intro u _
  rw [(idle u).1]
  rfl

/-- A thread dequeues an operation to perform or to complete, and wakes another
thread when there is more to do. -/
theorem Wakeful.dequeue {rest : Section Op} {ops : List (Operation Op D)} {outcome : Outcome Op D}
    {after : Pc Op D} {inside : List (ThreadInfo Op D)} (wakeful : Wakeful oneThread state)
    (shaped : Shaped state) (placed : Placed state) (closed : Closed state)
    (here : state.thread t = ⟨.holding rest, false, info :: outer⟩)
    (place : (.holding rest : Pc Op D).sleeps = false ∧ (.holding rest : Pc Op D).share = 0)
    (threads : next.thread = Function.update state.thread t
      ⟨after, (state.scheduler.dequeue oneThread ops outcome).signalling, inside⟩)
    (scheduler : next.scheduler = (state.scheduler.dequeue oneThread ops outcome).scheduler)
    (sleeps : after.sleeps = false) (share : after.share = 0) : Wakeful oneThread next := by
  have idle : after.waits = false := by
    rw [Pc.sleeps, Bool.or_eq_false_iff] at sleeps
    exact sleeps.1
  refine wakeful.update t _ threads ?_ (fun one _ => wakeful.alone one here) ?_ ?_
  · rw [scheduler, dequeue_waiters, here, place.1, sleeps]
  · rw [scheduler, dequeue_stopped, ← scheduler]
    refine wakeful.stopped_next t _ threads idle (fun _ => Pc.blocks_eq_false share) ?_ ?_
    · rw [scheduler]
      exact dequeue_signalled _ _ _ _
    · rw [scheduler]
      exact dequeue_taskInterrupted _ _ _ _
  · intro waiters _ queued
    rw [scheduler, dequeue_opQueue] at queued
    cases one : oneThread with
    | true => exact shaped.attended_alone (wakeful.alone one here) threads sleeps share waiters
    | false =>
        have more : state.scheduler.dequeue oneThread ops outcome =
            ⟨{ state.scheduler with opQueue := ops }.wakeOneThreadAndUnlock.1, outcome,
              { state.scheduler with opQueue := ops }.wakeOneThreadAndUnlock.2⟩ := by
          rw [dequeue_eq, if_pos ⟨queued, one⟩]
        have count : next.scheduler.wakeupEvent.waiters = state.scheduler.wakeupEvent.waiters := by
          rw [scheduler, dequeue_waiters]
        apply attended_of_signalled waiters
        · rw [scheduler, more, wakeOneThreadAndUnlock_wakeupEvent]
          rfl
        · rw [threads, Function.update_self, more, wakeOneThreadAndUnlock_signalling, count]
          exact decide_eq_true
        · intro none u
          rw [count] at none
          rw [threads]
          by_cases same : u = t
          · subst same
            rw [Function.update_self]
            exact Pc.blocks_eq_false share
          · rw [Function.update_of_ne same]
            by_contra blocks
            have runs := Pc.share_of_blocks (Bool.not_eq_false _ ▸ blocks)
            have task := placed.task_of_runs shaped closed runs
            apply blocks
            rw [scheduler, more]
            rw [wakeOneThreadAndUnlock_free { state.scheduler with opQueue := ops } none task]
            exact Pc.blocks_interrupted

theorem Wakeful.turn {rest : Section Op} {turn : Turn Op D} (wakeful : Wakeful oneThread state)
    (shaped : Shaped state) (placed : Placed state) (closed : Closed state)
    (here : state.thread t = ⟨.holding rest, false, info :: outer⟩)
    (turned : rest.turnOf oneThread state.scheduler info.entry = some turn) :
    Wakeful oneThread (state.turn t info outer turn) := by
  have place := turnOf_pc (D := D) turned
  have blocks : (state.thread t).pc.blocks state.scheduler.taskInterrupted = false := by
    rw [here]
    exact Pc.blocks_eq_false place.2
  cases turned_of_turnOf turned with
  | leave ended =>
      refine wakeful.update t ⟨.user, false, outer⟩ rfl ?_ (fun one _ => wakeful.alone one here)
        (wakeful.stopped_next t _ rfl rfl (fun _ => rfl) id id) fun waiters running queued => ?_
      · rw [here, place.1]
        rfl
      · rcases ended with stopped | empty | ⟨one, -⟩
        · exact absurd (stopped.symm.trans running) (by decide)
        · exact absurd empty queued
        · exact shaped.attended_alone (wakeful.alone one here) rfl rfl rfl waiters
  | @handOver ops after queue =>
      refine wakeful.update t ⟨.user, _, outer⟩ rfl ?_ (fun one _ => wakeful.alone one here)
        (wakeful.stopped_next t _ rfl rfl (fun _ => rfl) (fun _ => rfl) id)
        fun waiters running queued => attended_of_signalled (t := t) waiters rfl ?_ fun _ u => ?_
      · rw [here, place.1]
        rfl
      · intro some
        change (Function.update state.thread t _ t).signalling = true
        rw [Function.update_self]
        exact decide_eq_true some
      · have free := placed.free (by rw [queue]; simp) u
        change (Function.update state.thread t _ u).pc.blocks _ = false
        by_cases same : u = t
        · subst same
          rw [Function.update_self]
          rfl
        · rw [Function.update_of_ne same]
          exact Pc.blocks_eq_false free
  | sleep running queue _ =>
      refine wakeful.update t ⟨.waiting, false, info :: outer⟩ rfl ?_
        (fun one _ => wakeful.alone one here) (fun stopped => ?_) fun _ _ queued => ?_
      · rw [here, place.1]
        rfl
      · exact absurd (running.symm.trans stopped) (by decide)
      · exact absurd queue queued
  | @task ops usec queue origin =>
      have free := placed.free (by rw [queue]; simp)
      rw [dequeueTask_eq]
      refine wakeful.update t ⟨.task (if ops = [] then usec else 0) [], _, info :: outer⟩ rfl ?_
        (fun one _ => wakeful.alone one here) (fun stopped => ?_) fun _ _ queued => ?_
      · rw [here, place.1]
        simp only [State.turn, setThread_scheduler]
        split <;> rfl
      · -- Only the second look of `wait_one` does not test `stopped_`, and does not block.
        have poll : usec = 0 := by
          rcases origin with ⟨-, running⟩ | ⟨-, poll⟩
          · exact absurd (running.symm.trans stopped) (by decide)
          · exact poll
        obtain ⟨signalled, awake⟩ := wakeful.stopped stopped
        refine ⟨?_, fun u => ?_⟩
        · simp only [State.turn, setThread_scheduler]
          split
          · rfl
          · exact signalled
        · change (Function.update state.thread t _ u).pc.waits = false ∧
            (Function.update state.thread t _ u).pc.blocks _ = false
          by_cases same : u = t
          · subst same
            rw [Function.update_self, poll, ite_self]
            exact ⟨rfl, rfl⟩
          · rw [Function.update_of_ne same]
            exact ⟨(awake u).1, Pc.blocks_eq_false (free u)⟩
      · refine Or.inl ⟨t, Or.inl ?_⟩
        change (Function.update state.thread t _ t).pc.serves _ _ = true
        have more : ops ≠ [] := queued
        rw [Function.update_self, if_neg more]
        rfl
  | @pollTask ops queue _ _ =>
      refine wakeful.update t ⟨.task 0 [], false, info :: outer⟩ rfl ?_
        (fun one _ => wakeful.alone one here)
        (wakeful.stopped_next t _ rfl rfl (fun _ => rfl) id id) fun _ _ _ => ?_
      · rw [here, place.1]
        rfl
      · refine Or.inl ⟨t, Or.inl ?_⟩
        change (Function.update state.thread t _ t).pc.serves _ _ = true
        rw [Function.update_self]
        rfl
  | @perform descriptor ops queue =>
      rw [turn_dequeue_perform]
      exact wakeful.dequeue shaped placed closed here place rfl rfl rfl rfl
  | @complete op ops queue =>
      rw [turn_dequeue_complete]
      exact wakeful.dequeue shaped placed closed here place rfl rfl rfl rfl

omit [DecidableEq T] [Fintype T] in
theorem Pc.of_approaches {pc : Pc Op D} (approaches : pc.approaches = true) :
    pc.sleeps = false ∧ ∀ interrupted, pc.blocks interrupted = false := by
  cases pc with
  | acquiring rest =>
      cases rest with
      | wake => exact Bool.noConfusion approaches
      | _ => exact ⟨rfl, fun _ => rfl⟩
  | holding rest =>
      cases rest with
      | wake => exact Bool.noConfusion approaches
      | _ => exact ⟨rfl, fun _ => rfl⟩
  | _ => exact Bool.noConfusion approaches

/-- A thread that does not sleep goes on to look at the queue. -/
theorem Wakeful.approach {pc after : Pc Op D} {inside : List (ThreadInfo Op D)}
    (wakeful : Wakeful oneThread state) (here : state.thread t = ⟨pc, false, contexts⟩)
    (threads : next.thread = Function.update state.thread t ⟨after, false, inside⟩)
    (approaches : after.approaches = true)
    (single : oneThread = true → inside ≠ [] → ∀ u, u ≠ t → (state.thread u).contexts = [])
    (sleepless : pc.sleeps = false := by rfl)
    (interrupts : state.scheduler.taskInterrupted = true →
      next.scheduler.taskInterrupted = true := by exact id)
    (event : next.scheduler.wakeupEvent = state.scheduler.wakeupEvent := by rfl)
    (stopped : next.scheduler.stopped = state.scheduler.stopped := by rfl) :
    Wakeful oneThread next := by
  obtain ⟨sleeps, blocks⟩ := Pc.of_approaches approaches
  have awake : after.waits = false := by
    rw [Pc.sleeps, Bool.or_eq_false_iff] at sleeps
    exact sleeps.1
  refine wakeful.update t ⟨after, false, inside⟩ threads ?_ single ?_ fun _ _ _ => ?_
  · rw [event, here, sleepless, sleeps]
  · rw [stopped]
    refine wakeful.stopped_next t _ threads awake (fun _ => blocks _) ?_ interrupts
    rw [event]
    exact id
  · refine Or.inl ⟨t, Or.inl ?_⟩
    rw [threads, Function.update_self, Pc.serves, approaches]
    rfl

/-- A thread leaves work behind only when the queue is attended to. -/
theorem Wakeful.leaveWork {pc : Pc Op D} {after : Pc Op D} {inside : List (ThreadInfo Op D)}
    (wakeful : Wakeful oneThread state) (here : state.thread t = ⟨pc, false, info :: outer⟩)
    (beside : state.AttendedBeside t)
    (threads : next.thread = Function.update state.thread t ⟨after, false, inside⟩)
    (interrupts : state.scheduler.taskInterrupted = true →
      next.scheduler.taskInterrupted = true := by exact id)
    (idle : ∀ interrupted, after.blocks interrupted = false := by exact fun _ => rfl)
    (sleepless : pc.sleeps = false := by rfl)
    (sleeps : after.sleeps = false := by rfl)
    (event : next.scheduler.wakeupEvent = state.scheduler.wakeupEvent := by rfl)
    (stopped : next.scheduler.stopped = state.scheduler.stopped := by rfl) :
    Wakeful oneThread next := by
  have untouched : ∀ u, u ≠ t → next.thread u = state.thread u := by
    intro u other
    rw [threads, Function.update_of_ne other]
  have awake : pc.waits = false := by
    rw [Pc.sleeps, Bool.or_eq_false_iff] at sleepless
    exact sleepless.1
  have awakeToo : after.waits = false := by
    rw [Pc.sleeps, Bool.or_eq_false_iff] at sleeps
    exact sleeps.1
  have signalled : state.scheduler.wakeupEvent.signalled = true →
      next.scheduler.wakeupEvent.signalled = true := by
    rw [event]
    exact id
  refine wakeful.update t ⟨after, false, inside⟩ threads ?_ (fun one _ => wakeful.alone one here) ?_
    fun _ _ _ => ?_
  · rw [event, here, sleepless, sleeps]
  · rw [stopped]
    exact wakeful.stopped_next t _ threads awakeToo (fun _ => idle _) signalled
      interrupts
  · rcases beside with ⟨u, other, attends⟩ | ⟨none, free⟩
    · refine Or.inl ⟨u, attends.other (untouched u other) interrupts signalled ?_⟩
      rintro ⟨v, waits⟩
      refine ⟨v, ?_⟩
      rw [untouched v]
      · exact waits
      · rintro rfl
        rw [here, awake] at waits
        contradiction
    · refine Or.inr ⟨?_, fun u => ?_⟩
      · rw [event]
        exact none
      · by_cases same : u = t
        · subst same
          rw [threads, Function.update_self]
          exact idle _
        · rw [untouched u same]
          exact Pc.blocks_mono interrupts (free u same)

omit [DecidableEq T] in
/-- The event counts a thread that sleeps. -/
theorem Wakeful.counted {pc : Pc Op D} {signalling : Bool} (wakeful : Wakeful oneThread state)
    (here : state.thread t = ⟨pc, signalling, contexts⟩) (sleeps : pc.sleeps = true) :
    1 ≤ state.scheduler.wakeupEvent.waiters := by
  have bound : (state.thread t).pc.sleeps.toNat ≤ ∑ u, (state.thread u).pc.sleeps.toNat :=
    Finset.single_le_sum (f := fun u => (state.thread u).pc.sleeps.toNat)
      (fun _ _ => Nat.zero_le _) (Finset.mem_univ t)
  rw [here, sleeps] at bound
  rw [wakeful.waiters]
  exact bound

/-- A thread that has been woken leaves `wait`. -/
theorem Wakeful.rise {entry : Section Op} {inside : List (ThreadInfo Op D)}
    (wakeful : Wakeful oneThread state)
    (here : state.thread t = ⟨.holding .wake, false, info :: outer⟩)
    (threads : next.thread = Function.update state.thread t ⟨.holding entry, false, inside⟩)
    (approaches : entry.approaches = true) (sleeps : (.holding entry : Pc Op D).sleeps = false)
    (scheduler : next.scheduler = { state.scheduler with
      wakeupEvent := state.scheduler.wakeupEvent.stopWaiting }) : Wakeful oneThread next := by
  have counted := wakeful.counted here rfl
  refine wakeful.update t _ threads ?_ (fun one _ => wakeful.alone one here) ?_ fun _ _ _ => ?_
  · rw [scheduler, here, sleeps]
    change state.scheduler.wakeupEvent.waiters - 1 + 1 = _
    exact Nat.sub_add_cancel counted
  · rw [scheduler]
    refine fun stopped => scheduler ▸ wakeful.stopped_next t _ threads rfl (fun _ => rfl) ?_ ?_ stopped
    · rw [scheduler]
      exact id
    · rw [scheduler]
      exact id
  · refine Or.inl ⟨t, Or.inl ?_⟩
    rw [threads, Function.update_self, Pc.serves, Pc.approaches, approaches]
    rfl

omit [DecidableEq T] [Fintype T] in
theorem afterTask_approaches (entry : Entry) : (entry.afterTask : Section Op).approaches = true := by
  cases entry <;> rfl

omit [DecidableEq T] [Fintype T] in
theorem afterWork_pc (last thrown : Bool) : (Pc.afterWork last thrown : Pc Op D).sleeps = false ∧
    (Pc.afterWork last thrown : Pc Op D).waits = false ∧
      (Pc.afterWork last thrown : Pc Op D).share = 0 := by
  cases last <;> exact ⟨rfl, rfl, rfl⟩

/-- A thread that was woken without a signal sleeps again. -/
theorem Wakeful.sleepAgain (wakeful : Wakeful oneThread state)
    (here : state.thread t = ⟨.holding .wake, false, info :: outer⟩)
    (silent : state.scheduler.wakeupEvent.signalled = false)
    (threads : next.thread = Function.update state.thread t ⟨.waiting, false, info :: outer⟩)
    (scheduler : next.scheduler = { state.scheduler with
      wakeupEvent := state.scheduler.wakeupEvent.stopWaiting.startWaiting }) :
    Wakeful oneThread next := by
  have counted := wakeful.counted here rfl
  have untouched : ∀ u, u ≠ t → next.thread u = state.thread u := by
    intro u other
    rw [threads, Function.update_of_ne other]
  refine wakeful.update t _ threads ?_ (fun one _ => wakeful.alone one here) ?_ ?_
  · rw [scheduler, here]
    change state.scheduler.wakeupEvent.waiters - 1 + 1 + 1 = _ + 1
    rw [Nat.sub_add_cancel counted]
  · rw [scheduler]
    intro stopped
    exact absurd ((wakeful.stopped stopped).1.symm.trans silent) (by decide)
  · intro _ running queued
    rw [scheduler] at running queued
    rcases wakeful.attended running queued with ⟨u, attends⟩ | ⟨none, -⟩
    · have other : u ≠ t := by
        rintro rfl
        unfold State.Attends at attends
        rw [here, silent] at attends
        rcases attends with serves | ⟨signalled, -⟩
        · exact Bool.noConfusion serves
        · exact Bool.noConfusion signalled
      refine Or.inl ⟨u, attends.other (untouched u other) ?_ ?_ ?_⟩
      · rw [scheduler]
        exact id
      · rw [scheduler]
        exact id
      · intro _
        refine ⟨t, ?_⟩
        rw [threads, Function.update_self]
        rfl
    · omega

theorem Wakeful.run (wakeful : Wakeful oneThread state) (shaped : Shaped state)
    (placed : Placed state) (closed : Closed state)
    (attentive : Attentive oneThread state (t, action))
    (effect : RunEffect oneThread t info outer state next) : Wakeful oneThread next := by
  cases effect with
  | enter here _ => exact wakeful.approach here rfl rfl fun one _ => wakeful.alone one here
  | splice here _ _ _ => exact wakeful.approach here rfl rfl fun one _ => wakeful.alone one here
  | turn here turned => exact wakeful.turn shaped placed closed here turned
  | wakeSignalled here _ => exact wakeful.rise here rfl rfl rfl rfl
  | sleepAgain here silent => exact wakeful.sleepAgain here silent rfl rfl
  | wakeOnce here => exact wakeful.rise here rfl rfl rfl rfl
  | taskCleanup here =>
      exact wakeful.approach here rfl (afterTask_approaches _)
        (fun one _ => wakeful.alone one here) rfl fun _ => rfl
  | taskThrown here =>
      have beside := attentive.1 (by simp [State.leavesWork, here])
      exact wakeful.leaveWork here beside rfl fun _ => rfl
  | flushOn here _ => exact wakeful.approach here rfl rfl fun one _ => wakeful.alone one here
  | flushLeave here leaves =>
      have beside := attentive.1 (by simpa [State.leavesWork, here] using leaves)
      exact wakeful.leaveWork here beside rfl
  | @cleanup thrown here =>
      rw [workCleanup_eq]
      obtain ⟨sleeps, waits, share⟩ := @afterWork_pc Op D
        (decide (info.privateOutstandingWork = 0 ∧ state.scheduler.outstandingWork = 1)) thrown
      exact wakeful.move here rfl (fun serves => Bool.noConfusion serves)
        (fun _ => Pc.blocks_eq_false share) (fun one _ => wakeful.alone one here) id sleeps rfl waits
  | flush here _ =>
      exact wakeful.move here rfl (fun serves => Bool.noConfusion serves) (fun _ => rfl)
        fun one _ => wakeful.alone one here
  | goBack here _ _ => exact wakeful.approach here rfl rfl fun one _ => wakeful.alone one here
  | leave here _ =>
      exact wakeful.move here rfl (fun serves => Bool.noConfusion serves) (fun _ => rfl)
        fun one _ => wakeful.alone one here

omit [DecidableEq T] in
/-- A thread keeps its contexts. -/
theorem Wakeful.kept {pc : Pc Op D} {signalling : Bool} (wakeful : Wakeful oneThread state)
    (here : state.thread t = ⟨pc, signalling, contexts⟩) (one : oneThread = true)
    (inside : contexts ≠ []) : ∀ u, u ≠ t → (state.thread u).contexts = [] := by
  intro u other
  apply wakeful.single one t u _ other
  rw [here]
  exact inside

/-- A step of a thread that has nothing to do with the queue, before or after. -/
theorem Wakeful.aside {pc after : Pc Op D} {inside : List (ThreadInfo Op D)}
    (wakeful : Wakeful oneThread state) (here : state.thread t = ⟨pc, false, contexts⟩)
    (threads : next.thread = Function.update state.thread t ⟨after, false, inside⟩)
    (single : oneThread = true → inside ≠ [] → ∀ u, u ≠ t → (state.thread u).contexts = [])
    (opQueue : next.scheduler.opQueue ≠ [] → state.scheduler.opQueue ≠ [] := by exact id)
    (idle : pc.serves state.scheduler.taskInterrupted state.scheduler.wakeupEvent.signalled =
      false := by rfl)
    (sleepless : pc.sleeps = false := by rfl) (sleeps : after.sleeps = false := by rfl)
    (share : after.share = 0 := by rfl)
    (event : next.scheduler.wakeupEvent = state.scheduler.wakeupEvent := by rfl)
    (interrupted : next.scheduler.taskInterrupted = state.scheduler.taskInterrupted := by rfl)
    (stopped : next.scheduler.stopped = state.scheduler.stopped := by rfl) :
    Wakeful oneThread next := by
  have awake : ∀ {pc : Pc Op D}, pc.sleeps = false → pc.waits = false := by
    intro pc sleeps
    rw [Pc.sleeps, Bool.or_eq_false_iff] at sleeps
    exact sleeps.1
  refine wakeful.move here threads (fun serves => ?_) (fun _ => Pc.blocks_eq_false share) single
    opQueue (sleeps.trans sleepless.symm) (awake sleepless) (awake sleeps) event interrupted stopped
  rw [idle] at serves
  contradiction

/-- Operations are pushed to the main queue, and another thread is woken. -/
theorem Wakeful.announce {pc : Pc Op D} (wakeful : Wakeful oneThread state) (shaped : Shaped state)
    (placed : Placed state) (closed : Closed state)
    (here : state.thread t = ⟨pc, false, contexts⟩) (scheduler : Scheduler Op D)
    (threads : next.thread = Function.update state.thread t
      ⟨.user, scheduler.wakeOneThreadAndUnlock.2, contexts⟩)
    (members : next.scheduler = scheduler.wakeOneThreadAndUnlock.1)
    (sleepless : pc.sleeps = false := by rfl)
    (task : state.scheduler.task = true → scheduler.task = true := by exact id)
    (event : scheduler.wakeupEvent = state.scheduler.wakeupEvent := by rfl)
    (interrupted : scheduler.taskInterrupted = state.scheduler.taskInterrupted := by rfl)
    (stopped : scheduler.stopped = state.scheduler.stopped := by rfl) :
    Wakeful oneThread next := by
  have count : next.scheduler.wakeupEvent.waiters = state.scheduler.wakeupEvent.waiters := by
    rw [members, wakeOneThreadAndUnlock_wakeupEvent, event]
    rfl
  have signalled : next.scheduler.wakeupEvent.signalled = true := by
    rw [members, wakeOneThreadAndUnlock_wakeupEvent]
    rfl
  have interrupts : state.scheduler.taskInterrupted = true →
      next.scheduler.taskInterrupted = true := by
    rw [members, ← interrupted]
    exact wakeOneThreadAndUnlock_taskInterrupted scheduler
  refine wakeful.update t _ threads ?_ (fun one inside => wakeful.kept here one inside) ?_
    fun waiters _ _ => attended_of_signalled (t := t) waiters signalled ?_ fun none u => ?_
  · rw [count, here, sleepless]
    rfl
  · rw [members, wakeOneThreadAndUnlock_stopped, stopped, ← members]
    exact wakeful.stopped_next t _ threads rfl (fun _ => rfl) (fun _ => signalled) interrupts
  · rw [threads, Function.update_self, wakeOneThreadAndUnlock_signalling, event, count]
    exact decide_eq_true
  · rw [threads]
    by_cases same : u = t
    · subst same
      rw [Function.update_self]
      rfl
    · rw [Function.update_of_ne same]
      by_contra blocks
      have runs := Pc.share_of_blocks (Bool.not_eq_false _ ▸ blocks)
      apply blocks
      rw [count, ← event] at none
      rw [members, wakeOneThreadAndUnlock_free scheduler none
        (task (placed.task_of_runs shaped closed runs))]
      exact Pc.blocks_interrupted

omit [DecidableEq T] [Fintype T] in
theorem woken_sleeps (thread : Thread Op D) : thread.woken.pc.sleeps = thread.pc.sleeps ∧
    thread.woken.pc.waits = false := by
  unfold Thread.woken
  split
  · next waiting =>
      rw [waiting]
      exact ⟨rfl, rfl⟩
  · next awake =>
      refine ⟨rfl, ?_⟩
      cases here : thread.pc with
      | waiting => exact absurd here awake
      | _ => rfl

omit [DecidableEq T] in
/-- `stop` wakes all threads and interrupts the task. -/
theorem Wakeful.woken (wakeful : Wakeful oneThread state) (shaped : Shaped state)
    (placed : Placed state) (closed : Closed state) : Wakeful oneThread state.stopAll where
  waiters := by
    simp only [stopAll_thread, woken_sleeps, stopAll_scheduler, stopAllThreads_wakeupEvent]
    exact wakeful.waiters
  single := by
    simp only [stopAll_thread, woken_contexts]
    exact wakeful.single
  stopped _ := by
    rw [stopAll_scheduler, stopAllThreads_wakeupEvent]
    refine ⟨rfl, fun t => ⟨(woken_sleeps _).2, ?_⟩⟩
    rw [stopAll_thread]
    by_contra blocks
    have runs : (state.thread t).pc.share = 1 := by
      rw [← share_woken]
      exact Pc.share_of_blocks (Bool.not_eq_false _ ▸ blocks)
    have interrupted : state.scheduler.stopAllThreads.taskInterrupted = true := by
      unfold stopAllThreads
      exact interruptTask_free _ (placed.task_of_runs shaped closed runs)
    rw [interrupted] at blocks
    exact blocks Pc.blocks_interrupted
  attended running := by
    rw [stopAll_scheduler, stopAllThreads_stopped] at running
    contradiction

/-- When `restart` clears `stopped_`, the threads that `stop` has woken attend to
the queue, and nobody else sleeps. -/
theorem Wakeful.restart (wakeful : Wakeful oneThread state)
    (here : state.thread t = ⟨.holding .restart, false, contexts⟩)
    (threads : next.thread = Function.update state.thread t ⟨.user, false, contexts⟩)
    (scheduler : next.scheduler = { state.scheduler with stopped := false }) :
    Wakeful oneThread next := by
  cases stopped : state.scheduler.stopped with
  | false =>
      refine wakeful.aside here threads (fun one inside => wakeful.kept here one inside) ?_ rfl rfl rfl
        rfl ?_ ?_ ?_
      · rw [scheduler]
        exact id
      · rw [scheduler]
      · rw [scheduler]
      · rw [scheduler, stopped]
  | true =>
      obtain ⟨signalled, awake⟩ := wakeful.stopped stopped
      have touched : ∀ u, (next.thread u).pc.blocks next.scheduler.taskInterrupted = false ∧
          (next.thread u).pc.waits = false := by
        intro u
        rw [threads, scheduler]
        by_cases same : u = t
        · subst same
          rw [Function.update_self]
          exact ⟨rfl, rfl⟩
        · rw [Function.update_of_ne same]
          exact ⟨(awake u).2, (awake u).1⟩
      refine wakeful.update t _ threads ?_ (fun one inside => wakeful.kept here one inside) ?_
        fun waiters _ _ => ?_
      · rw [scheduler, here]
        rfl
      · rw [scheduler]
        exact fun stopped => Bool.noConfusion stopped
      · rcases Nat.eq_zero_or_pos next.scheduler.wakeupEvent.waiters with none | some
        · exact Or.inr ⟨none, fun u => (touched u).1⟩
        · obtain ⟨u, sleeps⟩ := exists_sleeps waiters some
          rw [Pc.sleeps, (touched u).2, Bool.false_or] at sleeps
          refine Or.inl ⟨u, Or.inl ?_⟩
          rw [Pc.serves, sleeps, scheduler, signalled]
          exact Bool.or_true _

theorem Posted.wakeful {ops : List Op} {pc : Pc Op D} {before : List (ThreadInfo Op D)}
    (posted : Posted oneThread t contexts ops state next) (wakeful : Wakeful oneThread state)
    (here : state.thread t = ⟨pc, false, before⟩)
    (inside : contexts ≠ [] → before ≠ [])
    (idle : pc.serves state.scheduler.taskInterrupted state.scheduler.wakeupEvent.signalled =
      false := by rfl)
    (sleepless : pc.sleeps = false := by rfl) : Wakeful oneThread next := by
  have single : oneThread = true → contexts ≠ [] → ∀ u, u ≠ t → (state.thread u).contexts = [] :=
    fun one some => wakeful.kept here one (inside some)
  cases posted with
  | nothing _ => exact wakeful.aside here rfl single id idle sleepless
  | here same _ =>
      refine wakeful.aside here rfl (fun one _ => single one ?_) id idle sleepless
      rw [same]
      exact List.cons_ne_nil _ _
  | shared => exact wakeful.aside here rfl single id idle sleepless

omit [DecidableEq T] [Fintype T] in
theorem holding_eq_acquiring (rest : Section Op) (interrupted signalled : Bool) :
    (.holding rest : Pc Op D).serves interrupted signalled =
        (.acquiring rest : Pc Op D).serves interrupted signalled ∧
      (.holding rest : Pc Op D).sleeps = (.acquiring rest : Pc Op D).sleeps := by
  cases rest <;> exact ⟨rfl, rfl⟩

variable [DecidableEq Op]

theorem Wakeful.call (wakeful : Wakeful oneThread state) (shaped : Shaped state)
    (placed : Placed state) (closed : Closed state)
    (attentive : Attentive oneThread state (t, action))
    (effect : CallEffect oneThread t action contexts state next) : Wakeful oneThread next := by
  cases effect with
  | @request rest here requested =>
      rcases requested with rfl | rfl | rfl
      · exact wakeful.aside here rfl fun one inside => wakeful.kept here one inside
      · exact wakeful.aside here rfl fun one inside => wakeful.kept here one inside
      · exact wakeful.aside here rfl fun one inside => wakeful.kept here one inside
  | close here _ _ =>
      exact wakeful.aside here rfl fun one inside => wakeful.kept here one inside
  | @acquire rest here _ =>
      obtain ⟨serves, sleeps⟩ := holding_eq_acquiring (D := D) rest
        state.scheduler.taskInterrupted state.scheduler.wakeupEvent.signalled
      refine wakeful.move here rfl (fun serving => serves.trans serving) (fun _ => rfl)
        (fun one inside => wakeful.kept here one inside) id sleeps
  | @push ops here =>
      exact wakeful.announce shaped placed closed here
        (state.scheduler.enqueue (ops.map Operation.user)) rfl rfl
  | @stop cleanup here =>
      have there : state.stopAll.thread t = ⟨.holding (.stop cleanup), false, contexts⟩ := by
        rw [stopAll_thread, here]
        rfl
      have woken := wakeful.woken shaped placed closed
      cases cleanup with
      | none => exact woken.aside there rfl fun one inside => woken.kept there one inside
      | some thrown => exact woken.aside there rfl fun one inside => woken.kept there one inside
  | restart here => exact wakeful.restart here rfl rfl
  | initTask here _ _ =>
      exact wakeful.announce shaped placed closed here
        ({ state.scheduler with task := true }.enqueue [.task]) rfl rfl rfl fun _ => rfl
  | initAgain here =>
      exact wakeful.aside here rfl fun one inside => wakeful.kept here one inside
  | shutdown here =>
      exact wakeful.aside here rfl fun one inside => wakeful.kept here one inside
  | @destroy o opQueue here queue =>
      refine ⟨wakeful.waiters, wakeful.single, wakeful.stopped, fun running _ => ?_⟩
      exact wakeful.attended running (by rw [queue]; exact List.cons_ne_nil _ _)
  | destroyed here _ =>
      exact wakeful.aside here rfl fun one inside => wakeful.kept here one inside
  | callStop here _ =>
      exact wakeful.aside here rfl fun one inside => wakeful.kept here one inside
  | call here _ _ called =>
      refine wakeful.aside here rfl fun one _ => attentive.2 one ?_
      rw [called]
      rfl
  | postHere here _ inside =>
      subst inside
      exact wakeful.aside here rfl fun one _ => wakeful.alone one here
  | postShared here _ =>
      exact wakeful.aside here rfl fun one inside => wakeful.kept here one inside
  | startOp _ _ => exact ⟨wakeful.waiters, wakeful.single, wakeful.stopped, wakeful.attended⟩
  | @deferred _ ops here _ posted =>
      have taken : Wakeful oneThread (state.takePending ops) :=
        ⟨wakeful.waiters, wakeful.single, wakeful.stopped, wakeful.attended⟩
      exact posted.wakeful taken here id
  | abandon _ _ _ => exact ⟨wakeful.waiters, wakeful.single, wakeful.stopped, wakeful.attended⟩
  | workStarted _ => exact ⟨wakeful.waiters, wakeful.single, wakeful.stopped, wakeful.attended⟩
  | workFinished here _ place =>
      rcases place with ⟨_, rfl⟩ | ⟨_, rfl⟩
      · exact wakeful.aside here rfl fun one inside => wakeful.kept here one inside
      · exact wakeful.aside here rfl fun one inside => wakeful.kept here one inside
  | finish here _ =>
      exact wakeful.aside here rfl fun one inside => wakeful.kept here one inside

variable [DecidableEq D]

omit [DecidableEq D] in
theorem Wakeful.reactor (wakeful : Wakeful oneThread state)
    (attentive : Attentive oneThread state (t, action))
    (effect : ReactorEffect oneThread t action info outer state next) : Wakeful oneThread next := by
  cases effect with
  | again _ _ => exact wakeful
  | event here _ => exact wakeful.move here rfl id id fun one _ => wakeful.alone one here
  | timers here _ => exact wakeful.move here rfl id id fun one _ => wakeful.alone one here
  | @taskReturn usec pushed thrown here returned =>
      cases thrown with
      | false => exact wakeful.approach here rfl rfl fun one _ => wakeful.alone one here
      | true =>
          have beside := attentive.1 (by simp [State.leavesWork, here, returned])
          exact wakeful.leaveWork here beside rfl
  | performNone here => exact wakeful.aside here rfl fun one _ => wakeful.alone one here
  | @perform _ descriptor first rest here _ posted =>
      have begun : Wakeful oneThread { state.takePending (first :: rest) with
          history := { state.history with called := state.history.called ++ [first] } } :=
        ⟨wakeful.waiters, wakeful.single, wakeful.stopped, wakeful.attended⟩
      exact posted.wakeful begun here fun _ => List.cons_ne_nil _ _

omit [DecidableEq Op] [DecidableEq D] in
/-- A thread that waits is woken. -/
theorem Wakeful.wakeUp {signals : Bool} (wakeful : Wakeful oneThread state)
    (here : state.thread t = ⟨.waiting, signals, contexts⟩) :
    Wakeful oneThread (state.setThread t ⟨.acquiring .wake, signals, contexts⟩) := by
  have counted := wakeful.counted here rfl
  refine wakeful.update t ⟨.acquiring .wake, signals, contexts⟩ rfl ?_
    (fun one inside => wakeful.kept here one inside)
    (wakeful.stopped_next t _ rfl rfl (fun _ => rfl) id id) fun _ running queued => ?_
  · rw [here]
    rfl
  · have roused : state.scheduler.wakeupEvent.signalled = true →
        (state.setThread t ⟨.acquiring .wake, signals, contexts⟩).Attends t := by
      intro signalled
      refine Or.inl ?_
      rw [setThread_thread, Function.update_self, setThread_scheduler, signalled]
      rfl
    rcases wakeful.attended running queued with ⟨u, serves | ⟨signalled, -⟩⟩ | ⟨none, -⟩
    · refine Or.inl ⟨u, Or.inl ?_⟩
      have other : u ≠ t := by
        rintro rfl
        rw [here] at serves
        exact Bool.noConfusion serves
      rw [setThread_thread, Function.update_of_ne other]
      exact serves
    · exact Or.inl ⟨t, roused signalled⟩
    · omega

omit [DecidableEq Op] [DecidableEq D] in
/-- A thread has signalled, and whoever was to be woken is on the way. -/
theorem Wakeful.silence (wakeful : Wakeful oneThread state) (t : T)
    (roused : state.scheduler.wakeupEvent.signalled = true →
      (∃ u, (state.thread u).pc.waits = true) → ∃ u, (state.thread u).pc.serves
        state.scheduler.taskInterrupted state.scheduler.wakeupEvent.signalled = true) :
    Wakeful oneThread (state.setThread t { state.thread t with signalling := false }) := by
  have kept : ∀ u, ((state.setThread t
      { state.thread t with signalling := false }).thread u).pc = (state.thread u).pc := by
    intro u
    rw [setThread_thread]
    by_cases same : u = t
    · subst same
      rw [Function.update_self]
    · rw [Function.update_of_ne same]
  have here : state.thread t =
      ⟨(state.thread t).pc, (state.thread t).signalling, (state.thread t).contexts⟩ := rfl
  refine wakeful.update t { state.thread t with signalling := false } rfl rfl
    (fun one inside => wakeful.kept here one inside) (fun stopped => ?_)
    fun _ running queued => ?_
  · obtain ⟨signalled, awake⟩ := wakeful.stopped stopped
    refine ⟨signalled, fun u => ?_⟩
    rw [kept]
    exact awake u
  · rcases wakeful.attended running queued with ⟨u, serves | ⟨signalled, -, asleep⟩⟩ | ⟨none, free⟩
    · refine Or.inl ⟨u, Or.inl ?_⟩
      rw [kept]
      exact serves
    · obtain ⟨v, serves⟩ := roused signalled asleep
      refine Or.inl ⟨v, Or.inl ?_⟩
      rw [kept]
      exact serves
    · refine Or.inr ⟨none, fun u => ?_⟩
      rw [kept]
      exact free u

omit [DecidableEq Op] [DecidableEq D] in
theorem Wakeful.wake (wakeful : Wakeful oneThread state) (effect : WakeEffect t state next) :
    Wakeful oneThread next := by
  cases effect with
  | signalNone _ nobody =>
      refine wakeful.silence t fun _ asleep => ?_
      obtain ⟨u, waits⟩ := asleep
      cases here : (state.thread u).pc with
      | waiting => exact absurd here (nobody u)
      | _ =>
          rw [here] at waits
          exact Bool.noConfusion waits
  | @signal u _ waiting other =>
      have there : state.thread u =
          ⟨.waiting, (state.thread u).signalling, (state.thread u).contexts⟩ := by
        rw [← waiting]
      have woken := (wakeful.wakeUp there).silence t fun signalled _ => by
        refine ⟨u, ?_⟩
        rw [setThread_thread, Function.update_self, signalled]
        rfl
      have same : (state.setThread t { state.thread t with signalling := false }).setThread u
            { state.thread u with pc := .acquiring .wake } =
          (state.setThread u ⟨.acquiring .wake, (state.thread u).signalling,
            (state.thread u).contexts⟩).setThread t { (state.setThread u ⟨.acquiring .wake,
              (state.thread u).signalling, (state.thread u).contexts⟩).thread t with
                signalling := false } := by
        unfold State.setThread
        simp only [Function.update_of_ne other.symm]
        rw [Function.update_comm other]
      rw [same]
      exact woken
  | awaken here => exact wakeful.wakeUp here

/-- In a run whose steps leave no work behind, the queue is attended to. -/
theorem wakeful_of_reachableWhen
    (reachable : (machine oneThread).ReachableWhen (Attentive oneThread) state) :
    Wakeful oneThread state := by
  apply reachable.invariant
  · intro state isInitial
    subst isInitial
    exact
      { waiters := by simp [State.initial, Scheduler.initial, Pc.sleeps, Pc.waits, Pc.wakes]
        single := fun _ _ _ inside => absurd rfl inside
        stopped := fun stopped => Bool.noConfusion stopped
        attended := fun _ queued => absurd rfl queued }
  · intro state move next reached wakeful attentive stepped
    have shaped := shaped_of_reachable reached.reachable
    have placed := placed_of_reachable reached.reachable
    have closed := closed_of_reachable reached.reachable
    cases effect_of_step stepped with
    | run effect => exact wakeful.run shaped placed closed attentive effect
    | call effect => exact wakeful.call shaped placed closed attentive effect
    | reactor effect => exact wakeful.reactor attentive effect
    | wake effect => exact wakeful.wake effect

end Preservation

/-- A thread is inside `run` or `run_one`. -/
def Thread.insideRun (thread : Thread Op D) : Bool :=
  thread.contexts.any fun info => info.entry == .run || info.entry == .runOne

/-- A thread is blocked: asleep in `wait` with no signal pending for it, or inside
`task_->run(-1)` with the task not interrupted. -/
def State.blocked (state : State T Op D) (t : T) : Bool :=
  match (state.thread t).pc with
  | .waiting => true
  | .acquiring .wake | .holding .wake => !state.scheduler.wakeupEvent.signalled
  | .task usec _ => usec == -1 && !state.scheduler.taskInterrupted
  | _ => false

/-- A thread is about to look at the queue or to signal. -/
def State.underWay (state : State T Op D) (t : T) : Bool :=
  (state.thread t).signalling || (state.thread t).pc.serves state.scheduler.taskInterrupted
    state.scheduler.wakeupEvent.signalled

/-- Some thread is inside `run` or `run_one`, and all such threads are blocked. -/
def State.AllBlocked (state : State T Op D) : Prop :=
  (∃ t, (state.thread t).insideRun = true) ∧
    ∀ t, (state.thread t).insideRun = true → state.blocked t = true

instance [Fintype T] (state : State T Op D) : Decidable state.AllBlocked :=
  inferInstanceAs (Decidable (_ ∧ ∀ t, (state.thread t).insideRun = true → _))

/-- While the scheduler is not stopped, the mutex is free and operations are
queued, the threads inside `run` and `run_one` are not all blocked, unless some
thread is about to look at the queue or to signal. -/
def NoLostWakeup (state : State T Op D) : Prop :=
  state.scheduler.stopped = false → state.mutex = none → state.scheduler.opQueue ≠ [] →
    state.AllBlocked → ∃ t, state.underWay t = true

instance [Fintype T] [DecidableEq T] [DecidableEq Op] [DecidableEq D] (state : State T Op D) :
    Decidable (NoLostWakeup state) :=
  inferInstanceAs (Decidable (_ → state.mutex = none → state.scheduler.opQueue ≠ [] → _ → _))

/-- When nobody sleeps and the task does not block, no thread is blocked. -/
theorem blocked_eq_false {state : State T Op D} {t : T}
    (awake : (state.thread t).pc.sleeps = false)
    (free : (state.thread t).pc.blocks state.scheduler.taskInterrupted = false) :
    state.blocked t = false := by
  unfold State.blocked
  split
  · next here =>
      rw [here] at awake
      exact Bool.noConfusion awake
  · next here =>
      rw [here] at awake
      exact Bool.noConfusion awake
  · next here =>
      rw [here] at awake
      exact Bool.noConfusion awake
  · next usec _ here =>
      rw [here] at free
      unfold Pc.blocks at free
      rw [Bool.and_eq_false_iff] at free ⊢
      refine free.imp (fun now => ?_) id
      rw [bne_eq_false_iff_eq] at now
      rw [now]
      rfl
  · rfl

/-- **No lost wakeup.** In a run whose steps leave no work behind unattended, the
threads that run the scheduler are never all blocked while operations are queued. -/
theorem noLostWakeup_of_attentive [Fintype T] [DecidableEq T] [DecidableEq Op] [DecidableEq D]
    {oneThread : Bool} {state : State T Op D}
    (reachable : (machine oneThread).ReachableWhen (Attentive oneThread) state) :
    NoLostWakeup state := by
  have wakeful := wakeful_of_reachableWhen reachable
  rintro running - queued ⟨inside, blocked⟩
  rcases wakeful.attended running queued with ⟨t, serves | ⟨-, signalling, -⟩⟩ | ⟨none, free⟩
  · refine ⟨t, ?_⟩
    rw [State.underWay, serves]
    exact Bool.or_true _
  · refine ⟨t, ?_⟩
    rw [State.underWay, signalling]
    rfl
  · obtain ⟨t, runs⟩ := inside
    have awake := blocked_eq_false (sleeps_eq_false wakeful.waiters none t) (free t)
    exact absurd (blocked t runs) (by rw [awake]; exact Bool.false_ne_true)

/-- A thread blocks in the task, and another posts and is about to lock the mutex
of `run_one`. -/
def attendedMoves : List (Fin 2 × Action (Fin 2) Nat Nat) :=
  [(0, .initTask), (0, .acquire), (0, .proceed), (0, .workStarted), (0, .call .run),
    (0, .acquire), (0, .proceed), (0, .proceed), (1, .post 1 false), (1, .acquire),
    (1, .proceed), (1, .call .runOne)]

theorem noLostWakeup_attendedMoves :
    ∃ state, (machine false).run .initial attendedMoves = some state ∧ NoLostWakeup state := by
  have reached : (machine false).ReachableWhen (Attentive false) _ :=
    .run (.initial rfl) attendedMoves rfl (by decide)
  exact ⟨_, rfl, noLostWakeup_of_attentive reached⟩

/-- Thread 0 sleeps in `run`. The handler that thread 1 completes in `run_one`
posts a continuation, which `run_one` leaves on the main queue when it returns. -/
def leftMoves : List (Fin 2 × Action (Fin 2) Nat Nat) :=
  [(0, .post 1 false), (0, .acquire), (0, .proceed), (1, .call .runOne), (1, .acquire),
    (1, .proceed), (1, .proceed), (0, .call .run), (0, .acquire), (0, .proceed), (0, .proceed),
    (1, .post 2 true), (1, .finish false), (1, .proceed), (1, .proceed), (1, .acquire),
    (1, .proceed)]

/-- A run in which the continuation stays on the queue and `run` sleeps on. -/
theorem noLostWakeup_leftMoves :
    ¬ ∀ state : State (Fin 2) Nat Nat, (machine false).Reachable state → NoLostWakeup state := by
  intro claim
  have reached : (machine false).Reachable _ := .run (.initial rfl) leftMoves rfl
  exact absurd (claim _ reached) (by decide)

end Asio.Scheduler
