import Asio.Scheduler.Accounting
import Mathlib.Algebra.BigOperators.Ring.Finset

/-! # The count of outstanding work

While nothing has been abandoned or shut down, no operation is ever destroyed,
and the accounts say exactly what `outstanding_work_` counts.
-/

namespace Asio.Scheduler

open State

variable {T Op D : Type*}

/-- A move that neither abandons operations nor shuts the scheduler down. -/
def Preserving (_ : State T Op D) (move : T × Action T Op D) : Prop :=
  (∀ ops, move.2 ≠ .abandon ops) ∧ move.2 ≠ .shutdown

/-- A thread is in `shutdown`. -/
def Pc.shuttingDown : Pc Op D → Bool
  | .acquiring .shutdown | .holding .shutdown | .destroying => true
  | _ => false

/-- No operation has been destroyed and no thread is about to destroy one. -/
structure Intact (state : State T Op D) : Prop where
  kept : state.history.destroyed = []
  open_ : ∀ t, (state.thread t).pc.shuttingDown = false

section Preservation

variable [DecidableEq T] {oneThread : Bool} {state next : State T Op D} {t : T}
  {info : ThreadInfo Op D} {outer contexts : List (ThreadInfo Op D)} {thread : Thread Op D}
  {action : Action T Op D}

theorem Intact.update (intact : Intact state) (t : T) (thread : Thread Op D)
    (threads : next.thread = Function.update state.thread t thread)
    (kept : next.history.destroyed = state.history.destroyed)
    (place : thread.pc.shuttingDown = false) : Intact next where
  kept := kept.trans intact.kept
  open_ u := by
    rw [threads]
    by_cases same : u = t
    · subst same
      rw [Function.update_self]
      exact place
    · rw [Function.update_of_ne same]
      exact intact.open_ u

/-- Leaving a function that runs the scheduler with an empty private queue. -/
theorem leave_destroyed (signalling : Bool) (flushed : info.privateOpQueue = []) :
    (state.leave t info outer signalling).history.destroyed = state.history.destroyed := by
  simp [State.leave, flushed]

theorem Intact.run (intact : Intact state) (shaped : Shaped state)
    (effect : RunEffect oneThread t info outer state next) : Intact next := by
  cases effect with
  | turn here turned =>
      obtain ⟨_, _, same, -, flushed, -⟩ : PhaseShape .looking (info :: outer) :=
        shaped.at here (turnOf_phase turned)
      obtain ⟨rfl, rfl⟩ := List.cons.inj same
      cases turned_of_turnOf turned with
      | leave _ => exact intact.update t ⟨.user, false, outer⟩ rfl (leave_destroyed _ flushed) rfl
      | handOver _ _ =>
          exact intact.update t ⟨.user, _, outer⟩ rfl (leave_destroyed _ flushed) rfl
      | sleep _ _ _ => exact intact.update t ⟨.waiting, false, info :: outer⟩ rfl rfl rfl
      | task _ _ =>
          rw [dequeueTask_eq]
          exact intact.update t ⟨.task _ [], _, info :: outer⟩ rfl rfl rfl
      | pollTask _ _ _ => exact intact.update t ⟨.task 0 [], false, info :: outer⟩ rfl rfl rfl
      | @perform descriptor _ _ =>
          rw [turn_dequeue_perform]
          exact intact.update t ⟨.performIo descriptor, _, info :: outer⟩ rfl rfl rfl
      | @complete op _ _ =>
          rw [turn_dequeue_complete]
          exact intact.update t ⟨.user, _, { info with current := some op } :: outer⟩ rfl rfl rfl
  | taskThrown _ => exact intact.update t ⟨.user, false, outer⟩ rfl (leave_destroyed _ rfl) rfl
  | flushLeave _ _ => exact intact.update t ⟨.user, false, outer⟩ rfl (leave_destroyed _ rfl) rfl
  | leave _ flushed =>
      exact intact.update t ⟨.user, false, outer⟩ rfl (leave_destroyed _ flushed) rfl
  | taskCleanup _ =>
      refine intact.update t ⟨.holding info.entry.afterTask, false, _ :: outer⟩ rfl rfl ?_
      cases info.entry <;> rfl
  | cleanup _ =>
      rw [workCleanup_eq]
      refine intact.update t ⟨.afterWork _ _, false, _ :: outer⟩ rfl rfl ?_
      unfold Pc.afterWork
      split <;> rfl
  | enter _ _ => exact intact.update t ⟨.holding .dispatch, false, info :: outer⟩ rfl rfl rfl
  | splice _ _ _ _ => exact intact.update t ⟨.holding .dispatch, false, _⟩ rfl rfl rfl
  | wakeSignalled _ _ =>
      exact intact.update t ⟨.holding .dispatch, false, info :: outer⟩ rfl rfl rfl
  | sleepAgain _ _ => exact intact.update t ⟨.waiting, false, info :: outer⟩ rfl rfl rfl
  | wakeOnce _ => exact intact.update t ⟨.holding .waited, false, _ :: outer⟩ rfl rfl rfl
  | flushOn _ _ => exact intact.update t ⟨.holding .dispatch, false, _ :: outer⟩ rfl rfl rfl
  | flush _ _ => exact intact.update t ⟨.acquiring (.flush _), false, info :: outer⟩ rfl rfl rfl
  | goBack _ _ _ =>
      exact intact.update t ⟨.acquiring .dispatch, false, info :: outer⟩ rfl rfl rfl

theorem Posted.intact {ops : List Op} (posted : Posted oneThread t contexts ops state next)
    (intact : Intact state) : Intact next := by
  cases posted with
  | nothing _ => exact intact.update t ⟨.user, false, contexts⟩ rfl rfl rfl
  | here _ _ => exact intact.update t ⟨.user, false, _ :: _⟩ rfl rfl rfl
  | shared => exact intact.update t ⟨.acquiring (.push ops), false, contexts⟩ rfl rfl rfl

variable [DecidableEq Op]

theorem Intact.call (intact : Intact state) (allowed : Preserving state (t, action))
    (effect : CallEffect oneThread t action contexts state next) : Intact next := by
  have elsewhere : ∀ {pc : Pc Op D}, state.thread t = ⟨pc, false, contexts⟩ →
      pc.shuttingDown = false := by
    intro pc here
    have place := intact.open_ t
    rwa [here] at place
  cases effect with
  | request _ requested =>
      refine intact.update t ⟨.acquiring _, false, contexts⟩ rfl rfl ?_
      rcases requested with rfl | rfl | rfl <;> rfl
  | close _ _ isShutdown => exact absurd isShutdown allowed.2
  | @acquire rest here _ =>
      refine intact.update t ⟨.holding rest, false, contexts⟩ rfl rfl ?_
      have place := elsewhere here
      cases rest <;> first | rfl | contradiction
  | push _ => exact intact.update t ⟨.user, _, contexts⟩ rfl rfl rfl
  | @stop cleanup here =>
      have woken : Intact state.stopAll := by
        refine ⟨intact.kept, fun u => ?_⟩
        have place := intact.open_ u
        rw [stopAll_thread]
        unfold Thread.woken
        split
        · rfl
        · exact place
      refine woken.update t ⟨.afterStop cleanup, false, contexts⟩ rfl rfl ?_
      cases cleanup <;> rfl
  | restart _ => exact intact.update t ⟨.user, false, contexts⟩ rfl rfl rfl
  | initTask _ _ _ => exact intact.update t ⟨.user, _, contexts⟩ rfl rfl rfl
  | initAgain _ => exact intact.update t ⟨.user, false, contexts⟩ rfl rfl rfl
  | shutdown here => exact absurd (elsewhere here) (by simp [Pc.shuttingDown])
  | destroy here _ => exact absurd (elsewhere here) (by simp [Pc.shuttingDown])
  | destroyed here _ => exact absurd (elsewhere here) (by simp [Pc.shuttingDown])
  | callStop _ _ => exact intact.update t ⟨.acquiring (.stop none), false, contexts⟩ rfl rfl rfl
  | call _ _ _ => exact intact.update t ⟨.acquiring .enter, false, _ :: contexts⟩ rfl rfl rfl
  | postHere _ _ _ => exact intact.update t ⟨.user, false, _ :: _⟩ rfl rfl rfl
  | postShared _ _ => exact intact.update t ⟨.acquiring (.push _), false, contexts⟩ rfl rfl rfl
  | startOp _ _ => exact ⟨intact.kept, intact.open_⟩
  | deferred _ _ posted => exact posted.intact ⟨intact.kept, intact.open_⟩
  | abandon _ _ isAbandon => exact absurd isAbandon (allowed.1 _)
  | workStarted _ => exact ⟨intact.kept, intact.open_⟩
  | workFinished _ _ place =>
      refine intact.update t ⟨_, false, contexts⟩ rfl rfl ?_
      rcases place with ⟨_, rfl⟩ | ⟨_, rfl⟩ <;> rfl
  | finish _ _ => exact intact.update t ⟨.cleanup _, false, contexts⟩ rfl rfl rfl

theorem Intact.reactor (intact : Intact state)
    (effect : ReactorEffect oneThread t action info outer state next) : Intact next := by
  cases effect with
  | again _ _ => exact intact
  | event _ _ => exact intact.update t ⟨.task _ _, false, _ :: outer⟩ rfl rfl rfl
  | timers _ _ => exact intact.update t ⟨.task _ _, false, _ :: outer⟩ rfl rfl rfl
  | taskReturn _ _ =>
      exact intact.update t ⟨.acquiring (.taskCleanup _), false, _ :: outer⟩ rfl rfl rfl
  | performNone _ => exact intact.update t ⟨.cleanup false, false, _ :: outer⟩ rfl rfl rfl
  | perform _ _ posted => exact posted.intact ⟨intact.kept, intact.open_⟩

omit [DecidableEq Op] in
theorem Intact.wake (intact : Intact state) (effect : WakeEffect t state next) : Intact next := by
  cases effect with
  | signalNone _ _ => exact intact.update t _ rfl rfl (intact.open_ t)
  | signal _ _ _ =>
      have silent : Intact (state.setThread t { state.thread t with signalling := false }) :=
        intact.update t _ rfl rfl (intact.open_ t)
      exact silent.update _ ⟨.acquiring .wake, _, _⟩ rfl rfl rfl
  | awaken _ => exact intact.update t ⟨.acquiring .wake, false, _⟩ rfl rfl rfl

variable [Fintype T] [DecidableEq D]

theorem intact_of_reachable (reachable : (machine oneThread).ReachableWhen Preserving state) :
    Intact state := by
  apply reachable.invariant
  · intro state isInitial
    subst isInitial
    exact ⟨rfl, fun _ => rfl⟩
  · intro state move next reached intact allowed stepped
    cases effect_of_step stepped with
    | run effect => exact intact.run (shaped_of_reachable reached.reachable) effect
    | call effect => exact intact.call allowed effect
    | reactor effect => exact intact.reactor effect
    | wake effect => exact intact.wake effect

end Preservation

section Counts

variable [Fintype T]

/-- A number added up over the contexts of all threads. -/
def State.overContexts (state : State T Op D) (count : ThreadInfo Op D → ℕ) : ℕ :=
  ∑ t, ((state.thread t).contexts.map count).sum

/-- `private_outstanding_work`, over all live `thread_info`s. -/
def State.privateWork (state : State T Op D) : ℕ :=
  state.overContexts ThreadInfo.privateOutstandingWork

/-- The user operations in `op_queue_` and in the private queues. -/
def State.queued (state : State T Op D) : ℕ :=
  (userOps state.scheduler.opQueue).length +
    state.overContexts fun info => (userOps info.privateOpQueue).length

/-- The user operations whose completion runs under a `work_cleanup` that has not. -/
def State.executing (state : State T Op D) : ℕ :=
  state.overContexts fun info => info.current.toList.length

/-- A thread has called `compensating_work_started` and not yet run the
`work_cleanup` that follows it. -/
def Thread.compensating (thread : Thread Op D) : Bool :=
  thread.contexts.any fun info => info.compensations != 0

/-- The number of such threads. -/
def State.compensating (state : State T Op D) : ℕ :=
  (Finset.univ.filter fun t => (state.thread t).compensating).card

/-- The operations that are counted but not yet pushed. -/
def State.inTransit (state : State T Op D) : ℕ := ∑ t, (state.thread t).pc.inTransit.length

omit [Fintype T] in
theorem busy_compensations {contexts : List (ThreadInfo Op D)}
    (busy : ∀ info ∈ contexts, info.Busy) :
    (contexts.map ThreadInfo.compensations).sum = 0 ∧
      contexts.any (fun info => info.compensations != 0) = false := by
  constructor
  · apply List.sum_eq_zero
    intro count member
    obtain ⟨info, inside, rfl⟩ := List.mem_map.mp member
    exact (busy info inside).2
  · rw [List.any_eq_false]
    intro info inside
    simp [(busy info inside).2]

/-- A thread calls `compensating_work_started` at most once per `work_cleanup`. -/
theorem Thread.Shape.compensations {thread : Thread Op D} (shape : thread.Shape) :
    (thread.contexts.map ThreadInfo.compensations).sum = if thread.compensating then 1 else 0 := by
  unfold Thread.compensating
  have settledCase : ∀ {info : ThreadInfo Op D} {outer : List (ThreadInfo Op D)},
      info.Settled → (∀ other ∈ outer, other.Busy) →
      ((info :: outer).map ThreadInfo.compensations).sum =
        if (info :: outer).any (fun info => info.compensations != 0) then 1 else 0 := by
    intro info outer settled busy
    simp [busy_compensations busy, settled.compensations]
  unfold Thread.Shape at shape
  cases phase : thread.pc.phase with
  | calling =>
      rw [phase] at shape
      simp [busy_compensations shape]
  | looking =>
      rw [phase] at shape
      obtain ⟨info, outer, same, settled, -, busy⟩ := shape
      rw [same]
      exact settledCase settled busy
  | gathering =>
      rw [phase] at shape
      obtain ⟨info, outer, same, settled, busy⟩ := shape
      rw [same]
      exact settledCase settled busy
  | finishing =>
      rw [phase] at shape
      obtain ⟨info, outer, same, ended, busy⟩ := shape
      rw [same]
      rcases ended with ⟨-, none⟩ | ⟨-, -, -, once⟩
      · simp [busy_compensations busy, none]
      · simp [busy_compensations busy, once]

theorem compensating_eq {state : State T Op D} (shaped : Shaped state) :
    state.overContexts ThreadInfo.compensations = state.compensating := by
  unfold State.overContexts State.compensating
  rw [Finset.card_filter]
  exact Finset.sum_congr rfl fun t _ => (shaped t).compensations

omit [Fintype T] in
theorem sum_balance (contexts : List (ThreadInfo Op D)) :
    (contexts.map ThreadInfo.balance).sum =
      (contexts.map ThreadInfo.privateOutstandingWork).sum -
        (contexts.map ThreadInfo.compensations).sum -
        (contexts.map fun info => (userOps info.privateOpQueue).length).sum -
        (contexts.map fun info => info.current.toList.length).sum := by
  induction contexts with
  | nil => rfl
  | cons info outer ih =>
      simp only [List.map_cons, List.sum_cons, ih, ThreadInfo.balance]
      push_cast
      ring

/-- The balances of all threads, in terms of the counts. -/
theorem sum_thread_balance (state : State T Op D) :
    ∑ t, (state.thread t).balance = (state.privateWork : ℤ) -
      state.overContexts ThreadInfo.compensations -
      state.overContexts (fun info => (userOps info.privateOpQueue).length) - state.executing -
      state.inTransit := by
  simp only [Thread.balance, sum_balance, Finset.sum_sub_distrib, State.privateWork,
    State.executing, State.overContexts, State.inTransit, Nat.cast_sum]

end Counts

/-- A thread about to push an operation, and another in a handler that has posted
one to its private queue. -/
def someMoves : List (Fin 2 × Action (Fin 2) Nat Nat) :=
  [(0, .post 1 false), (0, .acquire), (0, .proceed), (1, .call .run), (1, .acquire),
    (1, .proceed), (1, .proceed), (1, .post 2 true), (0, .post 3 false)]

end Asio.Scheduler
