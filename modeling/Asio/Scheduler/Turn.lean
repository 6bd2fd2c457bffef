import Asio.Scheduler.Effect

/-! # What a critical section does to the members

The members each function of the scheduler leaves alone, and the ways in which
`do_run_one`, `do_wait_one` and `do_poll_one` release the mutex.
-/

namespace Asio.Scheduler

variable {T Op D : Type*}

section Members

variable (scheduler : Scheduler Op D) (ops : List (Operation Op D))

@[simp] theorem interruptTask_opQueue : scheduler.interruptTask.opQueue = scheduler.opQueue := by
  unfold interruptTask
  split <;> rfl

@[simp] theorem interruptTask_outstandingWork :
    scheduler.interruptTask.outstandingWork = scheduler.outstandingWork := by
  unfold interruptTask
  split <;> rfl

@[simp] theorem interruptTask_task : scheduler.interruptTask.task = scheduler.task := by
  unfold interruptTask
  split <;> rfl

@[simp] theorem interruptTask_shutdown :
    scheduler.interruptTask.shutdown = scheduler.shutdown := by
  unfold interruptTask
  split <;> rfl

@[simp] theorem interruptTask_stopped : scheduler.interruptTask.stopped = scheduler.stopped := by
  unfold interruptTask
  split <;> rfl

@[simp] theorem interruptTask_wakeupEvent :
    scheduler.interruptTask.wakeupEvent = scheduler.wakeupEvent := by
  unfold interruptTask
  split <;> rfl

/-- `wake_one_thread_and_unlock` signals a waiting thread, if there is one, and
otherwise interrupts the task. -/
theorem wakeOneThreadAndUnlock_eq : scheduler.wakeOneThreadAndUnlock =
    (if 0 < scheduler.wakeupEvent.waiters
      then { scheduler with wakeupEvent := scheduler.wakeupEvent.signalAll }
      else { scheduler with wakeupEvent := scheduler.wakeupEvent.signalAll }.interruptTask,
      decide (0 < scheduler.wakeupEvent.waiters)) := by
  unfold wakeOneThreadAndUnlock Event.maybeUnlockAndSignalOne Event.signalAll
  by_cases waiters : 0 < scheduler.wakeupEvent.waiters
  · simp only [waiters, decide_true, ↓reduceIte]
  · simp only [waiters, decide_false, Bool.false_eq_true, ↓reduceIte]

@[simp] theorem wakeOneThreadAndUnlock_opQueue :
    scheduler.wakeOneThreadAndUnlock.1.opQueue = scheduler.opQueue := by
  rw [wakeOneThreadAndUnlock_eq]
  simp only
  split <;> simp

@[simp] theorem wakeOneThreadAndUnlock_outstandingWork :
    scheduler.wakeOneThreadAndUnlock.1.outstandingWork = scheduler.outstandingWork := by
  rw [wakeOneThreadAndUnlock_eq]
  simp only
  split <;> simp

@[simp] theorem wakeOneThreadAndUnlock_task :
    scheduler.wakeOneThreadAndUnlock.1.task = scheduler.task := by
  rw [wakeOneThreadAndUnlock_eq]
  simp only
  split <;> simp

@[simp] theorem wakeOneThreadAndUnlock_stopped :
    scheduler.wakeOneThreadAndUnlock.1.stopped = scheduler.stopped := by
  rw [wakeOneThreadAndUnlock_eq]
  simp only
  split <;> simp

@[simp] theorem wakeOneThreadAndUnlock_shutdown :
    scheduler.wakeOneThreadAndUnlock.1.shutdown = scheduler.shutdown := by
  rw [wakeOneThreadAndUnlock_eq]
  simp only
  split <;> simp

@[simp] theorem wakeOneThreadAndUnlock_wakeupEvent :
    scheduler.wakeOneThreadAndUnlock.1.wakeupEvent = scheduler.wakeupEvent.signalAll := by
  rw [wakeOneThreadAndUnlock_eq]
  simp only
  split <;> simp

@[simp] theorem enqueue_opQueue : (scheduler.enqueue ops).opQueue = scheduler.opQueue ++ ops := rfl

@[simp] theorem enqueue_outstandingWork :
    (scheduler.enqueue ops).outstandingWork = scheduler.outstandingWork := rfl

@[simp] theorem enqueue_task : (scheduler.enqueue ops).task = scheduler.task := rfl

@[simp] theorem enqueue_shutdown : (scheduler.enqueue ops).shutdown = scheduler.shutdown := rfl

@[simp] theorem enqueue_stopped : (scheduler.enqueue ops).stopped = scheduler.stopped := rfl

@[simp] theorem enqueue_wakeupEvent :
    (scheduler.enqueue ops).wakeupEvent = scheduler.wakeupEvent := rfl

@[simp] theorem enqueue_taskInterrupted :
    (scheduler.enqueue ops).taskInterrupted = scheduler.taskInterrupted := rfl

@[simp] theorem reinsertTask_opQueue :
    (scheduler.reinsertTask ops).opQueue = scheduler.opQueue ++ ops ++ [.task] := rfl

@[simp] theorem reinsertTask_outstandingWork :
    (scheduler.reinsertTask ops).outstandingWork = scheduler.outstandingWork := rfl

@[simp] theorem reinsertTask_task : (scheduler.reinsertTask ops).task = scheduler.task := rfl

@[simp] theorem reinsertTask_shutdown :
    (scheduler.reinsertTask ops).shutdown = scheduler.shutdown := rfl

@[simp] theorem reinsertTask_stopped :
    (scheduler.reinsertTask ops).stopped = scheduler.stopped := rfl

@[simp] theorem reinsertTask_wakeupEvent :
    (scheduler.reinsertTask ops).wakeupEvent = scheduler.wakeupEvent := rfl

@[simp] theorem stopAllThreads_opQueue :
    scheduler.stopAllThreads.opQueue = scheduler.opQueue := by
  simp [stopAllThreads]

@[simp] theorem stopAllThreads_outstandingWork :
    scheduler.stopAllThreads.outstandingWork = scheduler.outstandingWork := by
  simp [stopAllThreads]

@[simp] theorem stopAllThreads_task : scheduler.stopAllThreads.task = scheduler.task := by
  simp [stopAllThreads]

@[simp] theorem stopAllThreads_shutdown :
    scheduler.stopAllThreads.shutdown = scheduler.shutdown := by
  simp [stopAllThreads]

@[simp] theorem stopAllThreads_stopped : scheduler.stopAllThreads.stopped = true := by
  simp [stopAllThreads]

@[simp] theorem stopAllThreads_wakeupEvent :
    scheduler.stopAllThreads.wakeupEvent = scheduler.wakeupEvent.signalAll := by
  simp [stopAllThreads]

variable (oneThread : Bool) (outcome : Outcome Op D) (usec : Int)

/-- An operation is dequeued; with more in the queue, another thread is woken. -/
theorem dequeue_eq : scheduler.dequeue oneThread ops outcome =
    if ops ≠ [] ∧ oneThread = false then
      ⟨{ scheduler with opQueue := ops }.wakeOneThreadAndUnlock.1, outcome,
        { scheduler with opQueue := ops }.wakeOneThreadAndUnlock.2⟩
    else ⟨{ scheduler with opQueue := ops }, outcome, false⟩ := by
  unfold dequeue
  cases ops <;> cases oneThread <;> rfl

@[simp] theorem dequeue_outcome :
    (scheduler.dequeue oneThread ops outcome).outcome = outcome := by
  rw [dequeue_eq]
  split <;> rfl

@[simp] theorem dequeue_opQueue :
    (scheduler.dequeue oneThread ops outcome).scheduler.opQueue = ops := by
  rw [dequeue_eq]
  split <;> simp

@[simp] theorem dequeue_outstandingWork :
    (scheduler.dequeue oneThread ops outcome).scheduler.outstandingWork =
      scheduler.outstandingWork := by
  rw [dequeue_eq]
  split <;> simp

@[simp] theorem dequeue_task :
    (scheduler.dequeue oneThread ops outcome).scheduler.task = scheduler.task := by
  rw [dequeue_eq]
  split <;> simp

@[simp] theorem dequeue_shutdown :
    (scheduler.dequeue oneThread ops outcome).scheduler.shutdown = scheduler.shutdown := by
  rw [dequeue_eq]
  split <;> simp

@[simp] theorem dequeue_stopped :
    (scheduler.dequeue oneThread ops outcome).scheduler.stopped = scheduler.stopped := by
  rw [dequeue_eq]
  split <;> simp

/-- The task is dequeued; with more in the queue it will not block, and another
thread is woken. -/
theorem dequeueTask_eq : scheduler.dequeueTask oneThread ops usec =
    ⟨{ scheduler with
        opQueue := ops
        taskInterrupted := !ops.isEmpty
        wakeupEvent := if ops ≠ [] ∧ oneThread = false then scheduler.wakeupEvent.signalAll
          else scheduler.wakeupEvent },
      .runTask (if ops = [] then usec else 0),
      decide (ops ≠ [] ∧ oneThread = false ∧ 0 < scheduler.wakeupEvent.waiters)⟩ := by
  unfold dequeueTask Event.unlockAndSignalOne Event.signalAll
  cases ops <;> cases oneThread <;> simp

end Members

section StateTurn

variable [DecidableEq T] (state : State T Op D) (t : T) (info : ThreadInfo Op D)
  (outer : List (ThreadInfo Op D)) (scheduler : Scheduler Op D) (ops : List (Operation Op D))
  (oneThread : Bool)

/-- A descriptor state is taken from the queue. -/
theorem turn_dequeue_perform (descriptor : D) :
    state.turn t info outer (scheduler.dequeue oneThread ops (.perform descriptor)) =
      { state with
        mutex := none
        scheduler := (scheduler.dequeue oneThread ops (.perform descriptor)).scheduler }.setThread t
          ⟨.performIo descriptor,
            (scheduler.dequeue oneThread ops (.perform descriptor)).signalling, info :: outer⟩ := by
  unfold State.turn
  rw [dequeue_outcome]

/-- A user operation is taken from the queue. -/
theorem turn_dequeue_complete (op : Op) :
    state.turn t info outer (scheduler.dequeue oneThread ops (.complete op)) =
      { { state with
          mutex := none
          scheduler := (scheduler.dequeue oneThread ops (.complete op)).scheduler }.setThread t
            ⟨.user, (scheduler.dequeue oneThread ops (.complete op)).signalling,
              { info with current := some op } :: outer⟩ with
        history := { state.history with called := state.history.called ++ [op] } } := by
  unfold State.turn
  rw [dequeue_outcome]

/-- Where `~work_cleanup` goes on after the work is finished. -/
def Pc.afterWork (last thrown : Bool) : Pc Op D :=
  if last then .acquiring (.stop (some thrown)) else .flushing thrown

/-- The context after the work of its operation is finished. -/
def ThreadInfo.cleaned (info : ThreadInfo Op D) : ThreadInfo Op D :=
  { info with privateOutstandingWork := 0, current := none, compensations := 0 }

/-- The first half of `~work_cleanup` finishes the work of one operation, shares
the work its handler has started, and calls `stop` when no work is left. -/
theorem workCleanup_eq (thrown : Bool) : state.workCleanup t thrown info outer =
    { state.setThread t ⟨.afterWork (decide (info.privateOutstandingWork = 0 ∧
          state.scheduler.outstandingWork = 1)) thrown, false, info.cleaned :: outer⟩ with
      scheduler := { state.scheduler with
        outstandingWork := state.scheduler.outstandingWork + info.privateOutstandingWork - 1 }
      history := { state.history with
        completed := state.history.completed ++ info.current.toList } } := by
  have work : (if 1 < info.privateOutstandingWork then
        state.scheduler.outstandingWork + (info.privateOutstandingWork - 1 : Nat)
      else if info.privateOutstandingWork < 1 then state.scheduler.outstandingWork - 1
      else state.scheduler.outstandingWork) =
      state.scheduler.outstandingWork + info.privateOutstandingWork - 1 := by
    split
    · omega
    · split <;> omega
  have last : (info.privateOutstandingWork < 1 ∧
      state.scheduler.outstandingWork + info.privateOutstandingWork - 1 = 0) ↔
      (info.privateOutstandingWork = 0 ∧ state.scheduler.outstandingWork = 1) := by
    omega
  unfold State.workCleanup
  simp only [work, last, Pc.afterWork, decide_eq_true_eq]
  rfl

end StateTurn

/-- The ways in which a critical section that looks for an operation ends. -/
inductive Turned (oneThread : Bool) (scheduler : Scheduler Op D) (entry : Entry)
    (rest : Section Op) : Turn Op D → Prop where
  | leave : (scheduler.stopped = true ∨ scheduler.opQueue = [] ∨
        oneThread = true ∧ rest = .afterTask) →
      Turned oneThread scheduler entry rest ⟨scheduler, .leave, false⟩
  | handOver {ops : List (Operation Op D)} : rest = .afterTask →
      scheduler.opQueue = .task :: ops →
      Turned oneThread scheduler entry rest
        ⟨{ scheduler with wakeupEvent := scheduler.wakeupEvent.signalAll }, .leave,
          decide (0 < scheduler.wakeupEvent.waiters)⟩
  | sleep : scheduler.stopped = false → scheduler.opQueue = [] → rest = .dispatch →
      Turned oneThread scheduler entry rest scheduler.sleep
  | task {ops : List (Operation Op D)} {usec : Int} :
      scheduler.opQueue = .task :: ops →
      (rest = .dispatch ∧ scheduler.stopped = false ∨ rest = .waited ∧ usec = 0) →
      Turned oneThread scheduler entry rest (scheduler.dequeueTask oneThread ops usec)
  | pollTask {ops : List (Operation Op D)} :
      scheduler.opQueue = .task :: ops → rest = .dispatch → entry.polls = true →
      Turned oneThread scheduler entry rest ⟨{ scheduler with opQueue := ops }, .runTask 0, false⟩
  | perform {descriptor : D} {ops : List (Operation Op D)} :
      scheduler.opQueue = .descriptor descriptor :: ops →
      Turned oneThread scheduler entry rest (scheduler.dequeue oneThread ops (.perform descriptor))
  | complete {op : Op} {ops : List (Operation Op D)} :
      scheduler.opQueue = .user op :: ops →
      Turned oneThread scheduler entry rest (scheduler.dequeue oneThread ops (.complete op))

section Turns

variable {oneThread : Bool} {scheduler : Scheduler Op D}

theorem turned_doRunOne (entry : Entry) :
    Turned oneThread scheduler entry .dispatch (scheduler.doRunOne oneThread) := by
  unfold doRunOne
  split
  · next stopped => exact .leave (Or.inl stopped)
  · next running =>
      rw [Bool.not_eq_true] at running
      split
      · next empty => exact .sleep running empty rfl
      · next queue => exact .task queue (Or.inl ⟨rfl, running⟩)
      · next queue => exact .perform queue
      · next queue => exact .complete queue

theorem turned_doWaitOneFront {entry : Entry} {rest : Section Op} {usec : Int}
    (place : rest = .dispatch ∧ scheduler.stopped = false ∨ rest = .waited ∧ usec = 0) :
    Turned oneThread scheduler entry rest (scheduler.doWaitOneFront oneThread usec) := by
  unfold doWaitOneFront
  split
  · next empty => exact .leave (Or.inr (Or.inl empty))
  · next queue => exact .task queue place
  · next queue => exact .perform queue
  · next queue => exact .complete queue

theorem turned_doWaitOne (entry : Entry) (usec : Int) :
    Turned oneThread scheduler entry .dispatch (scheduler.doWaitOne oneThread usec) := by
  unfold doWaitOne
  split
  · next stopped => exact .leave (Or.inl stopped)
  · next running =>
      rw [Bool.not_eq_true] at running
      split
      · next empty => exact .sleep running empty rfl
      · exact turned_doWaitOneFront (Or.inl ⟨rfl, running⟩)

theorem turned_doPollOne {entry : Entry} (polls : entry.polls = true) :
    Turned oneThread scheduler entry .dispatch (scheduler.doPollOne oneThread) := by
  unfold doPollOne
  split
  · next stopped => exact .leave (Or.inl stopped)
  · split
    · next empty => exact .leave (Or.inr (Or.inl empty))
    · next queue => exact .pollTask queue rfl polls
    · next queue => exact .perform queue
    · next queue => exact .complete queue

theorem turned_afterTask (entry : Entry) (polls : Bool) :
    Turned oneThread scheduler entry .afterTask (scheduler.afterTask oneThread polls) := by
  unfold Scheduler.afterTask
  split
  · next empty => exact .leave (Or.inr (Or.inl empty))
  · next queue =>
      split
      · exact .handOver rfl queue
      · next signalNobody =>
          simp only [Bool.or_eq_true, Bool.not_eq_true', not_or, Bool.not_eq_false] at signalNobody
          exact .leave (Or.inr (Or.inr ⟨signalNobody.2, rfl⟩))
  · next queue => exact .perform queue
  · next queue => exact .complete queue

/-- Every turn of the three functions is one of the listed ones. -/
theorem turned_of_turnOf {entry : Entry} {rest : Section Op} {turn : Turn Op D}
    (turned : rest.turnOf oneThread scheduler entry = some turn) :
    Turned oneThread scheduler entry rest turn := by
  cases rest with
  | dispatch =>
      simp only [Section.turnOf, Option.some.injEq, Scheduler.dispatch] at turned
      subst turned
      cases entry with
      | run => exact turned_doRunOne .run
      | runOne => exact turned_doRunOne .runOne
      | waitOne usec => exact turned_doWaitOne (.waitOne usec) usec
      | poll => exact turned_doPollOne rfl
      | pollOne => exact turned_doPollOne rfl
  | waited =>
      simp only [Section.turnOf, Option.some.injEq] at turned
      subst turned
      exact turned_doWaitOneFront (Or.inr ⟨rfl, rfl⟩)
  | afterTask =>
      simp only [Section.turnOf, Option.some.injEq] at turned
      subst turned
      exact turned_afterTask entry entry.polls
  | _ => simp [Section.turnOf] at turned

end Turns

end Asio.Scheduler
