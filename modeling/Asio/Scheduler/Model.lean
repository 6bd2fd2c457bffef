import Mathlib.Algebra.Ring.Nat
import Mathlib.Data.List.Basic

/-! # The scheduler object

`asio::detail::scheduler` with locking enabled: the members that `mutex_`
protects, the count of outstanding work, and what the member functions do with
them between acquiring and releasing the mutex. A critical section ends in a
`Turn`: the members as they are when the mutex is released, what the thread does
next, and whether it still has to call `pthread_cond_signal`.
-/

namespace Asio

namespace Scheduler

/-- What can be linked in an operation queue: `task_operation_`, a
`descriptor_state` of the reactor, or an operation a user waits for. -/
inductive Operation (Op D : Type*) where
  | task
  | descriptor (descriptor : D)
  | user (op : Op)
  deriving DecidableEq

/-- The functions that run the scheduler, with the time `wait_one` may still wait. -/
inductive Entry where
  | run
  | runOne
  | waitOne (usec : Int)
  | poll
  | pollOne
  deriving DecidableEq

/-- `run` and `poll` go on after a handler, the others return. -/
def Entry.repeats : Entry → Bool
  | .run | .poll => true
  | _ => false

/-- `poll` and `poll_one`, which never block. -/
def Entry.polls : Entry → Bool
  | .poll | .pollOne => true
  | _ => false

/-- `posix_event`: `state_` is twice `waiters`, plus one when signalled. -/
structure Event where
  signalled : Bool
  waiters : Nat
  deriving DecidableEq

namespace Event

/-- `signal_all`, but for the broadcast. -/
def signalAll (event : Event) : Event := { event with signalled := true }

/-- `unlock_and_signal_one`: the flag is `have_waiters`. -/
def unlockAndSignalOne (event : Event) : Event × Bool :=
  ({ event with signalled := true }, decide (0 < event.waiters))

/-- `maybe_unlock_and_signal_one`: the flag is the result. -/
def maybeUnlockAndSignalOne (event : Event) : Event × Bool :=
  ({ event with signalled := true }, decide (0 < event.waiters))

/-- `clear`. -/
def clear (event : Event) : Event := { event with signalled := false }

/-- `state_ += 2`, before `pthread_cond_wait`. -/
def startWaiting (event : Event) : Event := { event with waiters := event.waiters + 1 }

/-- `state_ -= 2`, after `pthread_cond_wait`. -/
def stopWaiting (event : Event) : Event := { event with waiters := event.waiters - 1 }

end Event

end Scheduler

/-- The members of the scheduler; `task` says whether `task_` is set. -/
structure Scheduler (Op D : Type*) where
  wakeupEvent : Scheduler.Event
  task : Bool
  taskInterrupted : Bool
  outstandingWork : Int
  opQueue : List (Scheduler.Operation Op D)
  stopped : Bool
  shutdown : Bool

namespace Scheduler

/-- `scheduler_thread_info` of one call of a function that runs the scheduler:
the call, its private queue and work count, and the user operation that is being
completed. `compensations` counts the calls of `compensating_work_started` since
the last `work_cleanup`, and `id` tells the private queues apart. -/
structure ThreadInfo (Op D : Type*) where
  entry : Entry
  id : Nat
  privateOpQueue : List (Operation Op D)
  privateOutstandingWork : Nat
  current : Option Op
  compensations : Nat

/-- What a thread does once it has released the mutex. -/
inductive Outcome (Op D : Type*) where
  | leave
  | sleep
  | runTask (usec : Int)
  | perform (descriptor : D)
  | complete (op : Op)

/-- The end of a critical section of `do_run_one`, `do_wait_one` or `do_poll_one`. -/
structure Turn (Op D : Type*) where
  scheduler : Scheduler Op D
  outcome : Outcome Op D
  signalling : Bool

variable {Op D : Type*}

/-- The constructor. -/
def initial : Scheduler Op D where
  wakeupEvent := ⟨false, 0⟩
  task := false
  taskInterrupted := true
  outstandingWork := 0
  opQueue := []
  stopped := false
  shutdown := false

/-- `op_queue_.push(ops)`. -/
def enqueue (scheduler : Scheduler Op D) (ops : List (Operation Op D)) : Scheduler Op D :=
  { scheduler with opQueue := scheduler.opQueue ++ ops }

/-- The critical section of `~task_cleanup`: the completed operations are queued
and the task is reinserted at the end. -/
def reinsertTask (scheduler : Scheduler Op D) (ops : List (Operation Op D)) : Scheduler Op D :=
  ({ scheduler with taskInterrupted := true }.enqueue ops).enqueue [.task]

/-- `task_interrupted_ = true; task_->interrupt();` when the task may block. -/
def interruptTask (scheduler : Scheduler Op D) : Scheduler Op D :=
  if !scheduler.taskInterrupted && scheduler.task then { scheduler with taskInterrupted := true }
  else scheduler

/-- `wake_one_thread_and_unlock`. -/
def wakeOneThreadAndUnlock (scheduler : Scheduler Op D) : Scheduler Op D × Bool :=
  let (event, signalling) := scheduler.wakeupEvent.maybeUnlockAndSignalOne
  let scheduler := { scheduler with wakeupEvent := event }
  if signalling then (scheduler, true) else (scheduler.interruptTask, false)

/-- `stop_all_threads`, but for the broadcast. -/
def stopAllThreads (scheduler : Scheduler Op D) : Scheduler Op D :=
  { scheduler with stopped := true, wakeupEvent := scheduler.wakeupEvent.signalAll }.interruptTask

/-- The dequeueing of an operation to be performed or completed. -/
def dequeue (oneThread : Bool) (scheduler : Scheduler Op D) (rest : List (Operation Op D))
    (outcome : Outcome Op D) : Turn Op D :=
  let scheduler := { scheduler with opQueue := rest }
  let moreHandlers := !rest.isEmpty
  if moreHandlers && !oneThread then
    let (scheduler, signalling) := scheduler.wakeOneThreadAndUnlock
    ⟨scheduler, outcome, signalling⟩
  else ⟨scheduler, outcome, false⟩

/-- The dequeueing of the task in `do_run_one` and `do_wait_one`. -/
def dequeueTask (oneThread : Bool) (scheduler : Scheduler Op D) (rest : List (Operation Op D))
    (usec : Int) : Turn Op D :=
  let moreHandlers := !rest.isEmpty
  let scheduler := { scheduler with opQueue := rest, taskInterrupted := moreHandlers }
  let usec := if moreHandlers then 0 else usec
  if moreHandlers && !oneThread then
    let (event, signalling) := scheduler.wakeupEvent.unlockAndSignalOne
    ⟨{ scheduler with wakeupEvent := event }, .runTask usec, signalling⟩
  else ⟨scheduler, .runTask usec, false⟩

/-- The beginning of a wait: `clear`, and `wait` or `wait_for_usec` up to the
release of the mutex. -/
def sleep (scheduler : Scheduler Op D) : Turn Op D :=
  ⟨{ scheduler with wakeupEvent := scheduler.wakeupEvent.clear.startWaiting }, .sleep, false⟩

/-- One iteration of `do_run_one`. -/
def doRunOne (oneThread : Bool) (scheduler : Scheduler Op D) : Turn Op D :=
  if scheduler.stopped then ⟨scheduler, .leave, false⟩
  else match scheduler.opQueue with
    | [] => scheduler.sleep
    | .task :: rest => scheduler.dequeueTask oneThread rest (-1)
    | .descriptor descriptor :: rest => scheduler.dequeue oneThread rest (.perform descriptor)
    | .user op :: rest => scheduler.dequeue oneThread rest (.complete op)

/-- `do_wait_one` from `if (o == &task_operation_)` on. -/
def doWaitOneFront (oneThread : Bool) (scheduler : Scheduler Op D) (usec : Int) : Turn Op D :=
  match scheduler.opQueue with
  | [] => ⟨scheduler, .leave, false⟩
  | .task :: rest => scheduler.dequeueTask oneThread rest usec
  | .descriptor descriptor :: rest => scheduler.dequeue oneThread rest (.perform descriptor)
  | .user op :: rest => scheduler.dequeue oneThread rest (.complete op)

/-- `do_wait_one`. -/
def doWaitOne (oneThread : Bool) (scheduler : Scheduler Op D) (usec : Int) : Turn Op D :=
  if scheduler.stopped then ⟨scheduler, .leave, false⟩
  else match scheduler.opQueue with
    | [] => scheduler.sleep
    | _ :: _ => scheduler.doWaitOneFront oneThread usec

/-- `do_poll_one`. -/
def doPollOne (oneThread : Bool) (scheduler : Scheduler Op D) : Turn Op D :=
  if scheduler.stopped then ⟨scheduler, .leave, false⟩
  else match scheduler.opQueue with
    | [] => ⟨scheduler, .leave, false⟩
    | .task :: rest => ⟨{ scheduler with opQueue := rest }, .runTask 0, false⟩
    | .descriptor descriptor :: rest => scheduler.dequeue oneThread rest (.perform descriptor)
    | .user op :: rest => scheduler.dequeue oneThread rest (.complete op)

/-- `do_wait_one` and `do_poll_one` after the block that runs the task; only the
former looks at `one_thread_` before it signals. -/
def afterTask (oneThread polls : Bool) (scheduler : Scheduler Op D) : Turn Op D :=
  match scheduler.opQueue with
  | [] => ⟨scheduler, .leave, false⟩
  | .task :: _ =>
      if polls || !oneThread then
        let (event, signalling) := scheduler.wakeupEvent.maybeUnlockAndSignalOne
        ⟨{ scheduler with wakeupEvent := event }, .leave, signalling⟩
      else ⟨scheduler, .leave, false⟩
  | .descriptor descriptor :: rest => scheduler.dequeue oneThread rest (.perform descriptor)
  | .user op :: rest => scheduler.dequeue oneThread rest (.complete op)

/-- The function a call goes through for each operation. -/
def dispatch (oneThread : Bool) (scheduler : Scheduler Op D) : Entry → Turn Op D
  | .run | .runOne => scheduler.doRunOne oneThread
  | .waitOne usec => scheduler.doWaitOne oneThread usec
  | .poll | .pollOne => scheduler.doPollOne oneThread

end Scheduler

end Asio
