import Asio.Scheduler.Shape

/-! # What runs after `stop`

`stop` only sets a flag that the loops look at before they take an operation from
the queue. `do_run_one` looks at it in every iteration; `do_wait_one` and
`do_poll_one` look at it once, and go on to the queue after they have waited on
the event or have run the task (`State.unchecked`). These are the steps that
start an operation on a stopped scheduler, and the only ones.
-/

namespace Asio.Scheduler

variable {T Op D : Type*}

/-- `o == &task_operation_`. -/
def Operation.isTask : Operation Op D → Bool
  | .task => true
  | _ => false

/-- Inside `descriptor_state::perform_io`. -/
def Pc.performs : Pc Op D → Bool
  | .performIo _ => true
  | _ => false

/-- In the loop of `shutdown`. -/
def Pc.destroys : Pc Op D → Bool
  | .destroying => true
  | _ => false

/-- The operations of `op_queue_` but for the task. -/
def State.operations (state : State T Op D) : List (Operation Op D) :=
  state.scheduler.opQueue.filter fun o => !o.isTask

/-- A step takes no operation but the task from `op_queue_`, unless `shutdown`
destroys it, and calls `complete` on none, unless a dequeued descriptor state
completes it. -/
structure StartsNothing (state next : State T Op D) (t : T) : Prop where
  queued : (state.thread t).pc.destroys = true ∨ state.operations <+: next.operations
  called : (state.thread t).pc.performs = true ∨ next.history.called = state.history.called

instance [DecidableEq Op] [DecidableEq D] (state next : State T Op D) (t : T) :
    Decidable (StartsNothing state next t) :=
  decidable_of_iff (((state.thread t).pc.destroys = true ∨ state.operations <+: next.operations) ∧
      ((state.thread t).pc.performs = true ∨ next.history.called = state.history.called))
    ⟨fun both => ⟨both.1, both.2⟩, fun starts => ⟨starts.queued, starts.called⟩⟩

/-- A thread is about to take an operation other than the task from the queue,
after the event or the task, without looking at `stopped_`. -/
def State.unchecked (state : State T Op D) (t : T) : Bool :=
  match state.thread t, state.scheduler.opQueue with
  | ⟨.holding .waited, false, _ :: _⟩, o :: _ | ⟨.holding .afterTask, false, _ :: _⟩, o :: _ =>
      !o.isTask
  | _, _ => false

/-- A step goes on to the queue of a stopped scheduler without looking. -/
def Overlooks (state : State T Op D) (move : T × Action T Op D) : Prop :=
  state.scheduler.stopped = true ∧ state.unchecked move.1 = true

section Steps

variable [DecidableEq T] {oneThread : Bool} {state next : State T Op D} {t : T}
  {info : ThreadInfo Op D} {outer contexts : List (ThreadInfo Op D)} {action : Action T Op D}

omit [DecidableEq T] in
/-- A step that leaves the queue or adds to it, and completes nothing. -/
theorem startsNothing_of_append (more : List (Operation Op D))
    (queue : next.scheduler.opQueue = state.scheduler.opQueue ++ more)
    (called : next.history.called = state.history.called) : StartsNothing state next t where
  queued := Or.inr ⟨more.filter fun o => !o.isTask, by
    simp only [State.operations, queue, List.filter_append]⟩
  called := Or.inr called

omit [DecidableEq T] in
theorem startsNothing_of_eq (queue : next.scheduler.opQueue = state.scheduler.opQueue := by rfl)
    (called : next.history.called = state.history.called := by rfl) :
    StartsNothing state next t := by
  have appended : next.scheduler.opQueue = state.scheduler.opQueue ++ [] := by
    rw [queue, List.append_nil]
  exact startsNothing_of_append [] appended called

/-- On a stopped scheduler the three functions leave at once. -/
theorem dispatch_of_stopped {scheduler : Scheduler Op D} (stopped : scheduler.stopped = true)
    (entry : Entry) : scheduler.dispatch oneThread entry = ⟨scheduler, .leave, false⟩ := by
  cases entry <;> simp only [dispatch, doRunOne, doWaitOne, doPollOne, stopped, ↓reduceIte]

/-- A turn that leaves the operations and completes none. -/
theorem startsNothing_turn {turn : Turn Op D} (outcome : ∀ op, turn.outcome ≠ .complete op)
    (queue : (turn.scheduler.opQueue.filter fun o => !o.isTask) = state.operations) :
    StartsNothing state (state.turn t info outer turn) t := by
  have operations : (state.turn t info outer turn).operations = state.operations := by
    unfold State.turn
    split <;> exact queue
  refine ⟨Or.inr (operations ▸ List.prefix_rfl), Or.inr ?_⟩
  unfold State.turn
  split
  · rfl
  · rfl
  · rfl
  · rfl
  · next op completes => exact absurd completes (outcome op)

/-- A critical section of a stopped scheduler that looks before it takes, or finds the task. -/
theorem startsNothing_of_turnOf {rest : Section Op} {turn : Turn Op D}
    (here : state.thread t = ⟨.holding rest, false, info :: outer⟩)
    (stopped : state.scheduler.stopped = true) (checked : state.unchecked t = false)
    (turned : rest.turnOf oneThread state.scheduler info.entry = some turn) :
    StartsNothing state (state.turn t info outer turn) t := by
  by_cases looks : rest = .dispatch
  · subst looks
    simp only [Section.turnOf, dispatch_of_stopped stopped, Option.some.injEq] at turned
    subst turned
    exact startsNothing_turn (by simp) rfl
  · have task : ∀ o ops, state.scheduler.opQueue = o :: ops → o.isTask = true := by
      intro o ops queue
      simp only [State.unchecked, here, queue] at checked
      cases rest with
      | waited => simpa using checked
      | afterTask => simpa using checked
      | dispatch => exact absurd rfl looks
      | _ => simp [Section.turnOf] at turned
    have kept : ∀ ops, state.scheduler.opQueue = .task :: ops →
        (ops.filter fun o => !o.isTask) = state.operations := by
      intro ops queue
      simp [State.operations, queue, Operation.isTask]
    cases turned_of_turnOf turned with
    | leave _ => exact startsNothing_turn (by simp) rfl
    | handOver _ _ => exact startsNothing_turn (by simp) rfl
    | sleep _ _ looks' => exact absurd looks' looks
    | task queue _ =>
        rw [dequeueTask_eq]
        exact startsNothing_turn (by simp) (kept _ queue)
    | pollTask queue _ _ => exact startsNothing_turn (by simp) (kept _ queue)
    | perform queue => exact Bool.noConfusion (task _ _ queue)
    | complete queue => exact Bool.noConfusion (task _ _ queue)

theorem startsNothing_run (stopped : state.scheduler.stopped = true)
    (checked : state.unchecked t = false) (effect : RunEffect oneThread t info outer state next) :
    StartsNothing state next t := by
  cases effect with
  | enter | wakeSignalled | sleepAgain | wakeOnce | cleanup | flush | goBack | leave =>
      exact startsNothing_of_eq
  | splice | flushOn | flushLeave => exact startsNothing_of_append _ rfl rfl
  | taskCleanup | taskThrown =>
      exact startsNothing_of_append _ (List.append_assoc _ _ _) rfl
  | turn here turned => exact startsNothing_of_turnOf here stopped checked turned

end Steps

section Moves

variable [DecidableEq T] [Fintype T] [DecidableEq Op] [DecidableEq D] {oneThread : Bool}
  {state next : State T Op D} {t : T} {info : ThreadInfo Op D}
  {outer contexts : List (ThreadInfo Op D)} {action : Action T Op D}

omit [Fintype T] [DecidableEq Op] [DecidableEq D] in
theorem Posted.opQueue {ops : List Op} (posted : Posted oneThread t contexts ops state next) :
    next.scheduler.opQueue = state.scheduler.opQueue ∧
      next.history.called = state.history.called := by
  cases posted <;> exact ⟨rfl, rfl⟩

omit [Fintype T] [DecidableEq D] in
theorem startsNothing_call (effect : CallEffect oneThread t action contexts state next) :
    StartsNothing state next t := by
  cases effect with
  | request | close | acquire | restart | initAgain | shutdown | destroyed | callStop | call |
      postHere | postShared | startOp | abandon | workStarted | workFinished | finish =>
      exact startsNothing_of_eq
  | @push ops here => exact startsNothing_of_append (ops.map .user) (by simp) rfl
  | stop here => exact startsNothing_of_eq (by simp) rfl
  | initTask here => exact startsNothing_of_append [.task] (by simp) rfl
  | destroy here queue =>
      exact ⟨Or.inl (by rw [here]; rfl), Or.inr rfl⟩
  | deferred here _ posted =>
      obtain ⟨queue, called⟩ := posted.opQueue
      exact startsNothing_of_eq queue called

omit [Fintype T] [DecidableEq D] in
theorem startsNothing_reactor (effect : ReactorEffect oneThread t action info outer state next) :
    StartsNothing state next t := by
  cases effect with
  | again | event | timers | taskReturn | performNone => exact startsNothing_of_eq
  | perform here _ posted =>
      obtain ⟨queue, -⟩ := posted.opQueue
      refine ⟨Or.inr ⟨[], ?_⟩, Or.inl (by rw [here]; rfl)⟩
      rw [List.append_nil, State.operations, State.operations, queue]
      rfl

omit [Fintype T] [DecidableEq Op] [DecidableEq D] in
theorem startsNothing_wake (effect : WakeEffect t state next) : StartsNothing state next t := by
  cases effect <;> exact startsNothing_of_eq

omit [DecidableEq Op] [DecidableEq D] [Fintype T] in
@[simp] theorem turn_scheduler (turn : Turn Op D) :
    (state.turn t info outer turn).scheduler = turn.scheduler := by
  unfold State.turn
  split <;> rfl

omit [DecidableEq Op] [DecidableEq D] [Fintype T] in
/-- The sections that go on to the queue without looking take its front. -/
theorem operations_of_runSection {rest : Section Op} {o : Operation Op D}
    {ops : List (Operation Op D)} (goesOn : rest = .waited ∨ rest = .afterTask)
    (queue : state.scheduler.opQueue = o :: ops) (untasked : o.isTask = false)
    (ran : state.runSection oneThread t info outer rest = some next) :
    state.operations = o :: next.operations := by
  have front : state.operations = o :: ops.filter fun o => !o.isTask := by
    simp [State.operations, queue, untasked]
  have taken : next.scheduler.opQueue = ops := by
    rcases goesOn with rfl | rfl <;>
      simp only [State.runSection, doWaitOneFront, Scheduler.afterTask, queue, Option.some.injEq]
        at ran <;>
      subst ran <;> cases o with
      | task => contradiction
      | descriptor => simp
      | user => simp
  rw [front, State.operations, taken]

/-- A thread in such a section can only go on with it. -/
theorem runSection_of_step {rest : Section Op} (goesOn : rest = .waited ∨ rest = .afterTask)
    (here : state.thread t = ⟨.holding rest, false, info :: outer⟩)
    (stepped : (machine oneThread).step state (t, action) = some next) :
    state.runSection oneThread t info outer rest = some next := by
  simp only [machine, State.step, here, Bool.false_eq_true, ↓reduceIte] at stepped
  rcases goesOn with rfl | rfl <;> cases action with
  | proceed =>
      simpa only [State.threadStep, here, State.proceed, State.callSection] using stepped
  | _ => simp [State.threadStep, here] at stepped

theorem operations_of_unchecked (unchecked : state.unchecked t = true)
    (stepped : (machine oneThread).step state (t, action) = some next) :
    (state.thread t).pc.destroys = false ∧ ∃ o, state.operations = o :: next.operations := by
  unfold State.unchecked at unchecked
  split at unchecked
  · next info outer o ops here queue =>
      exact ⟨by rw [here]; rfl, o, operations_of_runSection (Or.inl rfl) queue
        (by simpa using unchecked) (runSection_of_step (Or.inl rfl) here stepped)⟩
  · next info outer o ops here queue =>
      exact ⟨by rw [here]; rfl, o, operations_of_runSection (Or.inr rfl) queue
        (by simpa using unchecked) (runSection_of_step (Or.inr rfl) here stepped)⟩
  · contradiction

/-- **What a stopped scheduler starts**: nothing, but for the steps that go on to the queue without
looking. -/
theorem startsNothing_iff {move : T × Action T Op D} (stopped : state.scheduler.stopped = true)
    (stepped : (machine oneThread).step state move = some next) :
    StartsNothing state next move.1 ↔ ¬ Overlooks state move := by
  constructor
  · intro starts overlooks
    obtain ⟨destroys, o, taken⟩ := operations_of_unchecked overlooks.2 stepped
    have kept := starts.queued.resolve_left (by rw [destroys]; exact Bool.false_ne_true)
    have shorter := kept.length_le
    rw [taken, List.length_cons] at shorter
    omega
  · intro looks
    have checked : state.unchecked move.1 = false := by
      rw [← Bool.not_eq_true]
      exact fun unchecked => looks ⟨stopped, unchecked⟩
    cases effect_of_step stepped with
    | run effect => exact startsNothing_run stopped checked effect
    | call effect => exact startsNothing_call effect
    | reactor effect => exact startsNothing_reactor effect
    | wake effect => exact startsNothing_wake effect

end Moves

section Runs

variable [DecidableEq T] [Fintype T] [DecidableEq Op] [DecidableEq D]

/-- In a run, every step taken while the scheduler is stopped has a property. -/
def WhileStopped (oneThread : Bool) (moves : List (T × Action T Op D))
    (property : State T Op D → T × Action T Op D → State T Op D → Prop) : Prop :=
  ∀ before move after state next, moves = before ++ move :: after →
    (machine oneThread).run .initial before = some state →
    (machine oneThread).step state move = some next → state.scheduler.stopped = true →
    property state move next

/-- **No handler is started after `stop`** in a run exactly when no step of it goes on to the queue
of a stopped scheduler without looking. -/
theorem startsNothing_whileStopped_iff (oneThread : Bool) (moves : List (T × Action T Op D)) :
    WhileStopped oneThread moves (fun state move next => StartsNothing state next move.1) ↔
      WhileStopped oneThread moves fun state move _ => ¬ Overlooks state move := by
  unfold WhileStopped
  refine forall₅_congr fun before move after state next => ?_
  refine forall₄_congr fun _ _ stepped stopped => ?_
  exact startsNothing_iff stopped stepped

end Runs

/-- Thread 0 polls and is in the task when thread 1 stops the scheduler; the
operation it finds on the queue afterwards is completed all the same. -/
def stopDuringTask : List (Fin 2 × Action (Fin 2) Nat Nat) :=
  [(0, .initTask), (0, .acquire), (0, .proceed), (0, .post 1 false), (0, .acquire), (0, .proceed),
    (0, .call .pollOne), (0, .acquire), (0, .proceed), (0, .proceed), (1, .stop), (1, .acquire),
    (1, .proceed), (0, .taskReturn false), (0, .acquire), (0, .proceed), (0, .proceed)]

theorem startsNothing_stopDuringTask :
    ¬ ∀ moves : List (Fin 2 × Action (Fin 2) Nat Nat),
      WhileStopped false moves fun state move next => StartsNothing state next move.1 := by
  intro claim
  obtain ⟨state, ran, passes⟩ : ∃ state,
      (machine false).run (.initial : State (Fin 2) Nat Nat) stopDuringTask.dropLast = some state ∧
        (state.scheduler.stopped && ((machine false).step state (0, .proceed)).any fun next =>
          !decide (StartsNothing state next 0)) = true :=
    Transition.Machine.exists_of_run (by decide)
  simp only [Bool.and_eq_true, Option.any_eq_true, Bool.not_eq_true', decide_eq_false_iff_not]
    at passes
  obtain ⟨stopped, next, stepped, starts⟩ := passes
  exact starts (claim stopDuringTask _ _ [] state next rfl ran stepped stopped)

end Asio.Scheduler
