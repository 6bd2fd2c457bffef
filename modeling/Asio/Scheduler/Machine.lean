import Asio.Lib.Transition
import Asio.Scheduler.Model
import Mathlib.Data.Fintype.Basic
import Mathlib.Data.Multiset.AddSub

/-! # Threads running the scheduler

Any number of threads call the functions of the scheduler. A step is one atomic
piece of one thread's code: the acquisition of the mutex, a piece of a critical
section, an access to the atomic `outstanding_work_`, a call of
`pthread_cond_signal`, or an action of user code, of the reactor or of the
environment. Handlers, the task and the environment may do anything their
interfaces allow, so every choice of theirs is part of the action.
-/

namespace Asio.Scheduler

/-- The threads of the runs with two of them are named `0` and `1`. -/
instance neZero_two : NeZero 2 := ⟨Nat.succ_ne_zero 1⟩

/-- A critical section, or the rest of one. `stop` carries what follows it: user
code, or the rest of a `work_cleanup`, which may run during stack unwinding. -/
inductive Section (Op : Type*) where
  | enter
  | dispatch
  | wake
  | waited
  | taskCleanup (thrown : Bool)
  | afterTask
  | flush (thrown : Bool)
  | push (ops : List Op)
  | stop (cleanup : Option Bool)
  | restart
  | initTask
  | shutdown
  deriving DecidableEq

/-- Where a thread is: in user code, about to lock the mutex, holding it, inside
`pthread_cond_wait`, inside `task_->run` with the descriptor states it has pushed
so far, inside `descriptor_state::perform_io`, in one of the two halves of
`~work_cleanup`, or in the loop of `shutdown`. -/
inductive Pc (Op D : Type*) where
  | user
  | acquiring (rest : Section Op)
  | holding (rest : Section Op)
  | waiting
  | task (usec : Int) (pushed : List D)
  | performIo (descriptor : D)
  | cleanup (thrown : Bool)
  | flushing (thrown : Bool)
  | destroying
  deriving DecidableEq

/-- A thread: `signalling` says that it has released the mutex and still has to
call `pthread_cond_signal`; `contexts` is its call stack of functions that run
the scheduler, innermost first. -/
structure Thread (Op D : Type*) where
  pc : Pc Op D
  signalling : Bool
  contexts : List (ThreadInfo Op D)

/-- A push of an operation: `none` stands for `op_queue_`, `some id` for the
private queue of the context with that number. -/
structure Push (T Op : Type*) where
  queue : Option Nat
  thread : T
  op : Op

/-- What has happened to the operations so far: those ever made, those on which
`complete` was called, in that order, those whose `complete` has returned, those
destroyed, what a private queue still held when its `scheduler_thread_info` went
out of scope, and the pushes of user operations, in order. `contexts` counts the
calls that have run the scheduler. -/
structure History (T Op D : Type*) where
  known : List Op
  called : List Op
  completed : List Op
  destroyed : List Op
  leftBehind : List (Operation Op D)
  pushes : List (Push T Op)
  contexts : Nat

/-- The scheduler, its threads, the operations that wait in the queues of the
reactor and of the timers, and the counts of work held by work guards. `closing`
is set once `shutdown` has been called. -/
structure State (T Op D : Type*) where
  mutex : Option T
  scheduler : Scheduler Op D
  thread : T → Thread Op D
  pending : Multiset Op
  guards : Nat
  closing : Bool
  history : History T Op D

/-- What a thread does next, where its program leaves a choice: `proceed` is the
next piece of its own code. -/
inductive Action (T Op D : Type*) where
  | acquire
  | proceed
  | signal (woken : Option T)
  | awaken
  | call (entry : Entry)
  | post (op : Op) (isContinuation : Bool)
  | dispatch (op : Op)
  | startOp (op : Op)
  | deferred (ops : List Op)
  | abandon (ops : List Op)
  | workStarted
  | workFinished
  | stop
  | restart
  | initTask
  | shutdown
  | finish (thrown : Bool)
  | performIo (ops : List Op)
  | event (descriptor : D)
  | timers (ops : List Op)
  | taskReturn (thrown : Bool)

/-- The user operations among those in a queue, in order. -/
def userOps {Op D : Type*} (queue : List (Operation Op D)) : List Op :=
  queue.filterMap fun
    | .user op => some op
    | _ => none

/-- `pthread_cond_broadcast`, or the end of one thread's wait: a thread inside
`pthread_cond_wait` goes on to lock the mutex again. -/
def Thread.woken {Op D : Type*} (thread : Thread Op D) : Thread Op D :=
  match thread.pc with
  | .waiting => { thread with pc := .acquiring .wake }
  | _ => thread

namespace State

variable {T Op D : Type*}

/-- A scheduler as constructed, and threads that have not called it. -/
def initial : State T Op D where
  mutex := none
  scheduler := .initial
  thread _ := ⟨.user, false, []⟩
  pending := 0
  guards := 0
  closing := false
  history := ⟨[], [], [], [], [], [], 0⟩

/-- `o->next_ != 0`: an operation is linked in some queue, and not last. -/
def Linked (state : State T Op D) (o : Operation Op D) : Prop :=
  o ∈ state.scheduler.opQueue.dropLast ∨
    ∃ t, ∃ info ∈ (state.thread t).contexts, o ∈ info.privateOpQueue.dropLast

/-- `op_queue::is_enqueued`: `op_queue_access::next(o) != 0 || back_ == o`. -/
def IsEnqueued (state : State T Op D) (queue : List (Operation Op D)) (o : Operation Op D) : Prop :=
  state.Linked o ∨ queue.getLast? = some o

instance [Fintype T] [DecidableEq Op] [DecidableEq D] (state : State T Op D)
    (queue : List (Operation Op D)) (o : Operation Op D) : Decidable (state.IsEnqueued queue o) :=
  inferInstanceAs (Decidable ((_ ∨ ∃ t, ∃ info ∈ (state.thread t).contexts, _) ∨ _))

variable [DecidableEq T]

def setThread (state : State T Op D) (t : T) (thread : Thread Op D) : State T Op D :=
  { state with thread := Function.update state.thread t thread }

/-- A function that runs the scheduler returns or throws: its `thread_info` goes
out of scope, and what its private queue still holds is destroyed. -/
def leave (state : State T Op D) (t : T) (info : ThreadInfo Op D)
    (outer : List (ThreadInfo Op D)) (signalling : Bool) : State T Op D :=
  { state.setThread t ⟨.user, signalling, outer⟩ with
    history := { state.history with
      leftBehind := state.history.leftBehind ++ info.privateOpQueue
      destroyed := state.history.destroyed ++ userOps info.privateOpQueue } }

/-- The end of a critical section that looked for an operation. -/
def turn (state : State T Op D) (t : T) (info : ThreadInfo Op D) (outer : List (ThreadInfo Op D))
    (turn : Turn Op D) : State T Op D :=
  let state := { state with mutex := none, scheduler := turn.scheduler }
  match turn.outcome with
  | .leave => state.leave t info outer turn.signalling
  | .sleep => state.setThread t ⟨.waiting, turn.signalling, info :: outer⟩
  | .runTask usec => state.setThread t ⟨.task usec [], turn.signalling, info :: outer⟩
  | .perform descriptor =>
      state.setThread t ⟨.performIo descriptor, turn.signalling, info :: outer⟩
  | .complete op =>
      { state.setThread t ⟨.user, turn.signalling, { info with current := some op } :: outer⟩ with
        history := { state.history with called := state.history.called ++ [op] } }

/-- The pushes of user operations to one queue by one thread. -/
def logPushes (state : State T Op D) (queue : Option Nat) (t : T) (ops : List Op) : State T Op D :=
  { state with history := { state.history with
      pushes := state.history.pushes ++ ops.map fun op => ⟨queue, t, op⟩ } }

/-- The innermost context of a thread is replaced and the thread goes on. -/
def goOn (state : State T Op D) (t : T) (pc : Pc Op D) (info : ThreadInfo Op D)
    (outer : List (ThreadInfo Op D)) : State T Op D :=
  state.setThread t ⟨pc, false, info :: outer⟩

/-- A piece of a critical section of a function that runs the scheduler. -/
def runSection (oneThread : Bool) (state : State T Op D) (t : T) (info : ThreadInfo Op D)
    (outer : List (ThreadInfo Op D)) : Section Op → Option (State T Op D)
  | .enter =>
      match info.entry.polls && oneThread, outer with
      | true, outerInfo :: outer =>
          -- Handlers on a thread-private queue are put on the main queue.
          let scheduler := state.scheduler.enqueue outerInfo.privateOpQueue
          some ({ state with scheduler }.goOn t (.holding .dispatch) info
            ({ outerInfo with privateOpQueue := [] } :: outer))
      | _, outer => some (state.goOn t (.holding .dispatch) info outer)
  | .dispatch => some (state.turn t info outer (state.scheduler.dispatch oneThread info.entry))
  | .wake =>
      let event := state.scheduler.wakeupEvent.stopWaiting
      match info.entry with
      | .run | .runOne =>
          if event.signalled then
            let scheduler := { state.scheduler with wakeupEvent := event }
            some ({ state with scheduler }.goOn t (.holding .dispatch) info outer)
          else
            let scheduler := { state.scheduler with wakeupEvent := event.startWaiting }
            some ({ state with scheduler, mutex := none }.goOn t .waiting info outer)
      | .waitOne _ =>
          let scheduler := { state.scheduler with wakeupEvent := event }
          -- Wait at most once.
          some ({ state with scheduler }.goOn t (.holding .waited)
            { info with entry := .waitOne 0 } outer)
      | .poll | .pollOne => none
  | .waited => some (state.turn t info outer (state.scheduler.doWaitOneFront oneThread 0))
  | .taskCleanup thrown =>
      let scheduler := state.scheduler.reinsertTask info.privateOpQueue
      let info := { info with privateOpQueue := [] }
      let state := { state with scheduler }
      if thrown then some ({ state with mutex := none }.leave t info outer false)
      else match info.entry with
        | .run | .runOne => some (state.goOn t (.holding .dispatch) info outer)
        | .waitOne _ | .poll | .pollOne => some (state.goOn t (.holding .afterTask) info outer)
  | .afterTask =>
      some (state.turn t info outer (state.scheduler.afterTask oneThread info.entry.polls))
  | .flush thrown =>
      let scheduler := state.scheduler.enqueue info.privateOpQueue
      let info := { info with privateOpQueue := [] }
      let state := { state with scheduler }
      if thrown || !info.entry.repeats then
        some ({ state with mutex := none }.leave t info outer false)
      else some (state.goOn t (.holding .dispatch) info outer)
  | _ => none

/-- A critical section of a function that any thread may call. -/
def callSection (state : State T Op D) (t : T) (contexts : List (ThreadInfo Op D)) :
    Section Op → Option (State T Op D)
  | .push ops =>
      let scheduler := state.scheduler.enqueue (ops.map Operation.user)
      let (scheduler, signalling) := scheduler.wakeOneThreadAndUnlock
      some (({ state with mutex := none, scheduler }.setThread t
        ⟨.user, signalling, contexts⟩).logPushes none t ops)
  | .stop cleanup =>
      let state := { state with
        mutex := none
        scheduler := state.scheduler.stopAllThreads
        thread := fun u => (state.thread u).woken }
      match cleanup with
      | none => some (state.setThread t ⟨.user, false, contexts⟩)
      | some thrown => some (state.setThread t ⟨.flushing thrown, false, contexts⟩)
  | .restart =>
      let scheduler := { state.scheduler with stopped := false }
      some ({ state with mutex := none, scheduler }.setThread t ⟨.user, false, contexts⟩)
  | .initTask =>
      if !state.scheduler.shutdown && !state.scheduler.task then
        let scheduler := { state.scheduler with task := true }.enqueue [Operation.task]
        let (scheduler, signalling) := scheduler.wakeOneThreadAndUnlock
        some ({ state with mutex := none, scheduler }.setThread t ⟨.user, signalling, contexts⟩)
      else some ({ state with mutex := none }.setThread t ⟨.user, false, contexts⟩)
  | .shutdown =>
      let scheduler := { state.scheduler with shutdown := true }
      some ({ state with mutex := none, scheduler }.setThread t ⟨.destroying, false, contexts⟩)
  | _ => none

/-- The first half of `~work_cleanup`: the work of the operation is finished, but
for the work its handler has started. -/
def workCleanup (state : State T Op D) (t : T) (thrown : Bool) (info : ThreadInfo Op D)
    (outer : List (ThreadInfo Op D)) : State T Op D :=
  let work := info.privateOutstandingWork
  let outstandingWork := if 1 < work then state.scheduler.outstandingWork + (work - 1 : Nat)
    else if work < 1 then state.scheduler.outstandingWork - 1
    else state.scheduler.outstandingWork
  let pc := if work < 1 ∧ outstandingWork = 0 then .acquiring (.stop (some thrown))
    else .flushing thrown
  let cleaned := { info with privateOutstandingWork := 0, current := none, compensations := 0 }
  { state.goOn t pc cleaned outer with
    scheduler := { state.scheduler with outstandingWork }
    history := { state.history with
      completed := state.history.completed ++ info.current.toList } }

/-- The next piece of a thread's own code. -/
def proceed (oneThread : Bool) (state : State T Op D) (t : T) : Option (State T Op D) :=
  match (state.thread t).pc, (state.thread t).contexts with
  | .holding rest, contexts =>
      match callSection state t contexts rest, contexts with
      | some next, _ => some next
      | none, info :: outer => runSection oneThread state t info outer rest
      | none, [] => none
  | .cleanup thrown, info :: outer => some (state.workCleanup t thrown info outer)
  | .flushing thrown, info :: outer =>
      -- The second half of `~work_cleanup`, and the way out of the function.
      if !info.privateOpQueue.isEmpty then
        some (state.goOn t (.acquiring (.flush thrown)) info outer)
      else if thrown || !info.entry.repeats then some (state.leave t info outer false)
      else some (state.goOn t (.acquiring .dispatch) info outer)
  | .destroying, contexts =>
      match state.scheduler.opQueue with
      | [] => some ({ state with scheduler := { state.scheduler with task := false } }.setThread t
          ⟨.user, false, contexts⟩)
      | o :: opQueue => some { state with
          scheduler := { state.scheduler with opQueue }
          history := { state.history with
            destroyed := state.history.destroyed ++ userOps [o] } }
  | _, _ => none

/-- A thread calls a function that runs the scheduler. -/
def call (state : State T Op D) (t : T) (entry : Entry) (contexts : List (ThreadInfo Op D)) :
    State T Op D :=
  if state.scheduler.outstandingWork = 0 then
    state.setThread t ⟨.acquiring (.stop none), false, contexts⟩
  else
    { state.setThread t ⟨.acquiring .enter, false,
        ⟨entry, state.history.contexts, [], 0, none, 0⟩ :: contexts⟩ with
      history := { state.history with contexts := state.history.contexts + 1 } }

/-- `post_immediate_completion`; `contexts` is what `thread_call_stack::contains`
searches. -/
def postImmediateCompletion (oneThread : Bool) (state : State T Op D) (t : T) (op : Op)
    (isContinuation : Bool) (contexts : List (ThreadInfo Op D)) : State T Op D :=
  let state := { state with history := { state.history with known := op :: state.history.known } }
  match oneThread || isContinuation, contexts with
  | true, info :: outer =>
      (state.goOn t .user { info with
        privateOutstandingWork := info.privateOutstandingWork + 1
        privateOpQueue := info.privateOpQueue ++ [.user op] } outer).logPushes (some info.id) t [op]
  | _, contexts =>
      { state with scheduler := { state.scheduler with
          outstandingWork := state.scheduler.outstandingWork + 1 } }.setThread t
        ⟨.acquiring (.push [op]), false, contexts⟩

/-- `do_dispatch`. -/
def doDispatch (state : State T Op D) (t : T) (op : Op) (contexts : List (ThreadInfo Op D)) :
    State T Op D :=
  { state with
    scheduler := { state.scheduler with outstandingWork := state.scheduler.outstandingWork + 1 }
    history := { state.history with known := op :: state.history.known } }.setThread t
      ⟨.acquiring (.push [op]), false, contexts⟩

/-- `post_deferred_completions`, and with one operation `post_deferred_completion`. -/
def postDeferredCompletions (oneThread : Bool) (state : State T Op D) (t : T) (ops : List Op)
    (contexts : List (ThreadInfo Op D)) : State T Op D :=
  match ops, oneThread, contexts with
  | [], _, contexts => state.setThread t ⟨.user, false, contexts⟩
  | _ :: _, true, info :: outer =>
      (state.goOn t .user { info with
        privateOpQueue := info.privateOpQueue ++ ops.map .user } outer).logPushes (some info.id) t
          ops
  | _ :: _, _, contexts => state.setThread t ⟨.acquiring (.push ops), false, contexts⟩

variable [Fintype T] [DecidableEq Op] [DecidableEq D]

/-- Operations leave the queues of the reactor and of the timers. -/
def takePending (state : State T Op D) (ops : List Op) : State T Op D :=
  { state with pending := state.pending - (ops : Multiset Op) }

/-- The actions of a thread in user code, outside all contexts or in a handler.
Every operation made is a new object; `shutdown` is called when no thread runs
the scheduler, and no thread does from then on. -/
def userStep (oneThread : Bool) (state : State T Op D) (t : T) (contexts : List (ThreadInfo Op D)) :
    Action T Op D → Option (State T Op D)
  | .call entry => if state.closing then none else some (state.call t entry contexts)
  | .post op isContinuation =>
      if op ∈ state.history.known then none
      else some (state.postImmediateCompletion oneThread t op isContinuation contexts)
  | .dispatch op =>
      if op ∈ state.history.known then none else some (state.doDispatch t op contexts)
  | .startOp op =>
      -- `start_op` and `schedule_timer` hold the reactor's lock over both updates.
      if op ∈ state.history.known then none
      else some { state with
        scheduler := { state.scheduler with
          outstandingWork := state.scheduler.outstandingWork + 1 }
        pending := op ::ₘ state.pending
        history := { state.history with known := op :: state.history.known } }
  | .deferred ops =>
      if ↑ops ≤ state.pending then
        some ((state.takePending ops).postDeferredCompletions oneThread t ops contexts)
      else none
  | .abandon ops =>
      if ↑ops ≤ state.pending then
        some { state with
          pending := state.pending - (ops : Multiset Op)
          history := { state.history with destroyed := state.history.destroyed ++ ops } }
      else none
  | .workStarted => some { state with
      scheduler := { state.scheduler with outstandingWork := state.scheduler.outstandingWork + 1 }
      guards := state.guards + 1 }
  | .workFinished =>
      if 0 < state.guards then
        let outstandingWork := state.scheduler.outstandingWork - 1
        let pc := if outstandingWork == 0 then .acquiring (.stop none) else .user
        some ({ state with
          scheduler := { state.scheduler with outstandingWork }
          guards := state.guards - 1 }.setThread t ⟨pc, false, contexts⟩)
      else none
  | .stop => some (state.setThread t ⟨.acquiring (.stop none), false, contexts⟩)
  | .restart => some (state.setThread t ⟨.acquiring .restart, false, contexts⟩)
  | .initTask => some (state.setThread t ⟨.acquiring .initTask, false, contexts⟩)
  | .shutdown =>
      if ∀ u, (state.thread u).contexts = [] then
        some ({ state with closing := true }.setThread t ⟨.acquiring .shutdown, false, contexts⟩)
      else none
  | .finish thrown =>
      -- The handler of the innermost context returns or throws.
      if contexts.isEmpty then none
      else some (state.setThread t ⟨.cleanup thrown, false, contexts⟩)
  | _ => none

/-- The actions of the reactor inside `task_->run`, with the descriptor states
pushed so far. -/
def taskStep (state : State T Op D) (t : T) (usec : Int) (pushed : List D)
    (info : ThreadInfo Op D) (outer : List (ThreadInfo Op D)) :
    Action T Op D → Option (State T Op D)
  | .event descriptor =>
      -- Otherwise `add_ready_events` only marks the queued descriptor state.
      if state.IsEnqueued info.privateOpQueue (.descriptor descriptor) then some state
      else some (state.goOn t (.task usec (pushed ++ [descriptor])) { info with
        privateOpQueue := info.privateOpQueue ++ [.descriptor descriptor] } outer)
  | .timers ops =>
      if ↑ops ≤ state.pending then
        some (((state.takePending ops).goOn t (.task usec pushed) { info with
          privateOpQueue := info.privateOpQueue ++ ops.map Operation.user } outer).logPushes
            (some info.id) t ops)
      else none
  | .taskReturn thrown =>
      -- The first half of `~task_cleanup`.
      let outstandingWork := state.scheduler.outstandingWork + info.privateOutstandingWork
      some ({ state with scheduler := { state.scheduler with outstandingWork } }.goOn t
        (.acquiring (.taskCleanup thrown)) { info with privateOutstandingWork := 0 } outer)
  | _ => none

/-- `descriptor_state::do_complete`: the operations that `perform_io` completed
leave the reactor; the first is completed here and the rest are posted. Without
any, the work that will be finished is compensated. -/
def performIo (oneThread : Bool) (state : State T Op D) (t : T) (info : ThreadInfo Op D)
    (outer : List (ThreadInfo Op D)) : List Op → State T Op D
  | [] => state.goOn t (.cleanup false) { info with
      privateOutstandingWork := info.privateOutstandingWork + 1
      compensations := info.compensations + 1 } outer
  | first :: rest =>
      { state with
        history := { state.history with called := state.history.called ++ [first] }
        }.postDeferredCompletions oneThread t rest ({ info with current := some first } :: outer)

/-- What a thread may do, by where it is. -/
def threadStep (oneThread : Bool) (state : State T Op D) (t : T) (action : Action T Op D) :
    Option (State T Op D) :=
  match (state.thread t).pc, (state.thread t).contexts, action with
  | .user, contexts, action => state.userStep oneThread t contexts action
  | .acquiring rest, contexts, .acquire =>
      if state.mutex.isNone then
        some ({ state with mutex := some t }.setThread t ⟨.holding rest, false, contexts⟩)
      else none
  | .waiting, contexts, .awaken =>
      -- A spurious wakeup, or the end of the time of a timed wait.
      some (state.setThread t ⟨.acquiring .wake, false, contexts⟩)
  | .task usec pushed, info :: outer, action => state.taskStep t usec pushed info outer action
  | .performIo _, info :: outer, .performIo ops =>
      if ↑ops ≤ state.pending then
        some ((state.takePending ops).performIo oneThread t info outer ops)
      else none
  | _, _, .proceed => state.proceed oneThread t
  | _, _, _ => none

/-- `pthread_cond_signal`: at least one waiting thread, if any, goes on. -/
def condSignal (state : State T Op D) (t : T) (woken : Option T) : Option (State T Op D) :=
  let signalled := state.setThread t { state.thread t with signalling := false }
  match woken with
  | none => if ∃ u, (state.thread u).pc = .waiting then none else some signalled
  | some u =>
      if (state.thread u).pc = .waiting ∧ u ≠ t then
        some (signalled.setThread u (signalled.thread u).woken)
      else none

/-- One step of one thread. -/
def step (oneThread : Bool) (state : State T Op D) (move : T × Action T Op D) :
    Option (State T Op D) :=
  if (state.thread move.1).signalling then
    match move.2 with
    | .signal woken => state.condSignal move.1 woken
    | _ => none
  else state.threadStep oneThread move.1 move.2

end State

/-- The scheduler with its threads as a machine. -/
def machine {T Op D : Type*} [DecidableEq T] [Fintype T] [DecidableEq Op] [DecidableEq D]
    (oneThread : Bool) : Transition.Machine (State T Op D) (T × Action T Op D) where
  initial state := state = .initial
  step := State.step oneThread

end Asio.Scheduler
