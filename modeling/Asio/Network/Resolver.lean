import Asio.Error
import Asio.Lib.Transition
import Mathlib.Algebra.Ring.Nat
import Mathlib.Data.List.Basic
import Mathlib.Logic.Function.Basic

/-! # Asynchronous name resolution

An `async_resolve` is an operation that is first queued on a private scheduler,
whose only thread looks the name up, and then on the main scheduler, which calls
the handler. `resolve_query_op::do_complete` decides by its owner which half it
is in. Around a fork the worker is stopped and joined, and created anew.
-/

namespace Asio.Network

/-- `operation_not_supported`, the system's `EOPNOTSUPP`. -/
def operationNotSupported : ErrorCode where
  value := 95
  category := .system

/-! ## Schedulers -/

/-- `io_context_impl`: of `op_queue_` the resolve operations, `outstanding_work_`
and `stopped_`. -/
structure IoContextImpl where
  opQueue : List Nat := []
  outstandingWork : Nat := 0
  stopped : Bool := false
  deriving DecidableEq, Repr

namespace IoContextImpl

/-- `work_started`. -/
def workStarted (impl : IoContextImpl) : IoContextImpl :=
  { impl with outstandingWork := impl.outstandingWork + 1 }

/-- `stop`. -/
def stop (impl : IoContextImpl) : IoContextImpl := { impl with stopped := true }

/-- `restart`. -/
def restart (impl : IoContextImpl) : IoContextImpl := { impl with stopped := false }

/-- `work_finished`. -/
def workFinished (impl : IoContextImpl) : IoContextImpl :=
  let impl := { impl with outstandingWork := impl.outstandingWork - 1 }
  if impl.outstandingWork = 0 then impl.stop else impl

/-- `post_deferred_completion`. -/
def postDeferredCompletion (impl : IoContextImpl) (op : Nat) : IoContextImpl :=
  { impl with opQueue := impl.opQueue ++ [op] }

/-- `post_immediate_completion`. -/
def postImmediateCompletion (impl : IoContextImpl) (op : Nat) : IoContextImpl :=
  impl.workStarted.postDeferredCompletion op

/-- The beginning of `run`. -/
def run (impl : IoContextImpl) : IoContextImpl :=
  if impl.outstandingWork = 0 then impl.stop else impl

@[simp] theorem workFinished_opQueue (impl : IoContextImpl) :
    impl.workFinished.opQueue = impl.opQueue := by
  unfold workFinished
  dsimp only
  split <;> rfl

@[simp] theorem workFinished_outstandingWork (impl : IoContextImpl) :
    impl.workFinished.outstandingWork = impl.outstandingWork - 1 := by
  unfold workFinished
  dsimp only
  split <;> rfl

@[simp] theorem run_opQueue (impl : IoContextImpl) : impl.run.opQueue = impl.opQueue := by
  unfold run
  split <;> rfl

@[simp] theorem run_outstandingWork (impl : IoContextImpl) :
    impl.run.outstandingWork = impl.outstandingWork := by
  unfold run
  split <;> rfl

theorem stopped_workFinished {impl : IoContextImpl} (stopped : impl.workFinished.stopped = true) :
    impl.stopped = true ∨ impl.workFinished.outstandingWork = 0 := by
  rw [workFinished_outstandingWork]
  unfold workFinished at stopped
  dsimp only at stopped
  split at stopped
  · next none => exact .inr none
  · exact .inl stopped

theorem stopped_run {impl : IoContextImpl} (stopped : impl.run.stopped = true) :
    impl.stopped = true ∨ impl.run.outstandingWork = 0 := by
  rw [run_outstandingWork]
  unfold run at stopped
  split at stopped
  · next none => exact .inr none
  · exact .inl stopped

theorem workFinished_of_pos {impl : IoContextImpl}
    (positive : 1 < impl.outstandingWork) : impl.workFinished =
      { impl with outstandingWork := impl.outstandingWork - 1 } := by
  have more : ¬ impl.outstandingWork - 1 = 0 := by omega
  simp [workFinished, more]

end IoContextImpl

/-! ## Operations -/

/-- `resolve_query_op`: the token it was given (a null pointer has none), its
error, and whether its name was looked up. -/
structure ResolveOp where
  cancelToken : Option Nat := none
  ec : ErrorCode := .success
  lookedUp : Bool := false
  deriving DecidableEq, Repr

/-- The schedulers an operation can be completed by. -/
inductive Owner where
  | main
  | work
  deriving DecidableEq, Repr

/-- What `do_complete` does. -/
inductive Half where
  | resolve
  | deliver
  | destroy
  deriving DecidableEq, Repr

/-- The tests of `do_complete`; `io_context_impl_` is the main scheduler. -/
def doComplete (owner : Option Owner) : Half :=
  if owner.isSome && owner ≠ some .main then .resolve
  else if owner.isSome then .deliver
  else .destroy

@[simp] theorem doComplete_none : doComplete none = .destroy := rfl

/-- `background_getaddrinfo`. -/
def backgroundGetaddrinfo (expired : Bool) (answer : ErrorCode) (op : ResolveOp) : ResolveOp :=
  if expired then { op with ec := .operationAborted }
  else { op with ec := answer, lookedUp := true }

/-! ## The service -/

/-- Where a thread that runs the work scheduler is: between operations, in the
first half of an operation before and after the look-up, or about to tell the
scheduler that it has finished one. -/
inductive Worker where
  | idle
  | resolving (op : Nat)
  | posting (op : Nat)
  | finishing
  deriving DecidableEq, Repr

/-- `thread`, as `work_thread_` points to it. -/
structure WorkThread where
  name : Nat
  joined : Bool
  deriving DecidableEq, Repr

/-- What is being done to the service as a whole: nothing, `notify_fork` joins
the worker, a fork is being made, the service is shut down, its own scheduler is
destroyed, the main scheduler is shut down. -/
inductive Stage where
  | running
  | joining
  | forking
  | closing
  | closed
  | ended
  deriving DecidableEq, Repr

/-- The resolver service with the resolvers and the threads that use it. -/
structure ResolverService where
  main : IoContextImpl
  otherWork : Nat
  completing : List Nat
  work : IoContextImpl
  workThread : Option WorkThread
  workers : List (Nat × Worker)
  spawned : Nat
  stage : Stage
  impls : Nat → Option Nat
  useCount : Nat → Nat
  tokens : Nat
  ops : Nat → ResolveOp
  started : Nat
  delivered : List Nat
  destroyed : List Nat

/-- The steps: calls on resolvers, the parts of a worker's work, the main
scheduler with its other users, and the notifications. -/
inductive ResolverAction where
  | construct (impl : Nat)
  | cancel (impl : Nat)
  | destroy (impl : Nat)
  | moveConstruct (impl other : Nat)
  | moveAssign (impl other : Nat)
  | asyncResolve (impl : Nat)
  | take (worker : Nat)
  | lookUp (worker : Nat) (answer : ErrorCode)
  | post (worker : Nat)
  | finish (worker : Nat)
  | exit (worker : Nat)
  | complete
  | completed (op : Nat)
  | run
  | stop
  | restart
  | otherStarted
  | otherFinished
  | forkPrepare
  | forkJoined
  | forkParent
  | forkChild
  | shutdown
  | destroyWork
  | shutdownMain
  deriving DecidableEq, Repr

namespace ResolverService

variable (service : ResolverService)

/-! ### Resolvers -/

/-- The owner of a token gives it up. -/
def release (impl : Nat) : ResolverService :=
  match service.impls impl with
  | none => service
  | some token => { service with
      useCount := Function.update service.useCount token (service.useCount token - 1) }

/-- `construct`, and `reset` with a new token. -/
def reset (impl : Nat) : ResolverService :=
  { service.release impl with
    impls := Function.update service.impls impl (some service.tokens)
    useCount := Function.update (service.release impl).useCount service.tokens 1
    tokens := service.tokens + 1 }

/-- `destroy`. -/
def destroyImpl (impl : Nat) : ResolverService :=
  { service.release impl with impls := Function.update service.impls impl none }

/-- `move_construct`. -/
def moveConstruct (impl other : Nat) : ResolverService :=
  { service with
    impls := Function.update (Function.update service.impls impl (service.impls other)) other
      none }

/-- `move_assign`. -/
def moveAssign (impl other : Nat) : ResolverService :=
  (service.destroyImpl impl).moveConstruct impl other

/-- `cancel_token.expired()`. -/
def expired (op : Nat) : Bool :=
  match (service.ops op).cancelToken with
  | none => true
  | some token => service.useCount token == 0

/-! ### Starting operations -/

/-- A new thread runs the work scheduler. -/
def spawn : ResolverService :=
  { service with
    workThread := some ⟨service.spawned, false⟩
    workers := service.workers ++ [(service.spawned, .idle)]
    spawned := service.spawned + 1 }

/-- `start_work_thread`. -/
def startWorkThread : ResolverService :=
  if service.workThread.isNone then service.spawn else service

/-- An operation is made. -/
def allocate (op : ResolveOp) : ResolverService :=
  { service with
    ops := Function.update service.ops service.started op
    started := service.started + 1 }

/-- `async_resolve` and `start_resolve_op`. -/
def asyncResolve (locking : Bool) (impl : Nat) : ResolverService :=
  let op := service.started
  if locking then
    let service := (service.allocate { cancelToken := service.impls impl }).startWorkThread
    { service with
      main := service.main.workStarted
      work := service.work.postImmediateCompletion op }
  else
    let service := service.allocate
      { cancelToken := service.impls impl, ec := operationNotSupported }
    { service with main := service.main.postImmediateCompletion op }

/-! ### The worker -/

/-- Where a worker is. -/
def worker (name : Nat) : Option Worker := service.workers.lookup name

/-- A worker goes on. -/
def setWorker (name : Nat) (next : Worker) (workers : List (Nat × Worker)) : List (Nat × Worker) :=
  workers.map fun entry => if entry.1 = name then (entry.1, next) else entry

/-- The steps of a worker that runs the work scheduler. -/
def workerStep (name : Nat) : Worker → ResolverAction → Option ResolverService
  | .idle, .take _ =>
      match service.work.stopped, service.work.opQueue with
      | false, op :: opQueue => match doComplete (some .work) with
          | .resolve => some { service with
              work := { service.work with opQueue := opQueue }
              workers := setWorker name (.resolving op) service.workers }
          | _ => none
      | _, _ => none
  | .resolving op, .lookUp _ answer => some { service with
      ops := Function.update service.ops op
        (backgroundGetaddrinfo (service.expired op) answer (service.ops op))
      workers := setWorker name (.posting op) service.workers }
  | .posting op, .post _ => some { service with
      main := service.main.postDeferredCompletion op
      workers := setWorker name .finishing service.workers }
  | .finishing, .finish _ => some { service with
      work := service.work.workFinished
      workers := setWorker name .idle service.workers }
  | .idle, .exit _ =>
      if service.work.stopped then
        some { service with workers := service.workers.filter fun entry => entry.1 ≠ name }
      else none
  | _, _ => none

/-! ### Forks and shutdown -/

/-- No thread that the service knows of is running. -/
def threadJoined : Bool :=
  match service.workThread with
  | none => true
  | some thread => (service.worker thread.name).isNone

/-- `base_notify_fork(fork_prepare)`, up to the `join`. -/
def forkPrepare : ResolverService :=
  match service.workThread with
  | none => { service with stage := .forking }
  | some _ => { service with work := service.work.stop, stage := .joining }

/-- The end of a `join`. -/
def join : ResolverService :=
  { service with workThread := service.workThread.map fun thread => { thread with joined := true } }

/-- `base_notify_fork` with another event. A thread that was not joined is
detached. -/
def forked : ResolverService :=
  let service := { service with stage := .running }
  if service.workThread.isSome then { service with work := service.work.restart }.spawn
  else service

/-- `base_shutdown` up to the `join`. -/
def shutdown : ResolverService :=
  { service with work := service.work.workFinished.stop, stage := .closing }

/-- `work_io_context_.reset()`: the operations that are left are destroyed. -/
def destroyWork : ResolverService :=
  { service with
    workThread := none
    destroyed := service.destroyed ++ match doComplete none with
      | .destroy => service.work.opQueue
      | _ => []
    work := { service.work with opQueue := [] }
    stage := .closed }

/-- `scheduler::shutdown` of the main scheduler. -/
def shutdownMain : ResolverService :=
  { service with
    destroyed := service.destroyed ++ match doComplete none with
      | .destroy => service.main.opQueue
      | _ => []
    main := { service.main with opQueue := [] }
    stage := .ended }

/-! ### Steps -/

/-- A thread that runs the main scheduler takes an operation and calls its
handler. -/
def complete : Option ResolverService :=
  match service.main.stopped, service.main.opQueue with
  | false, op :: opQueue => match doComplete (some .main) with
      | .deliver => some { service with
          main := { service.main with opQueue := opQueue }
          delivered := service.delivered ++ [op]
          completing := service.completing ++ [op] }
      | _ => none
  | _, _ => none

/-- Calls on resolvers and on the main scheduler, and its steps. -/
def call (locking : Bool) : ResolverAction → Option ResolverService
  | .construct impl => if (service.impls impl).isNone then some (service.reset impl) else none
  | .cancel impl => some (service.reset impl)
  | .destroy impl => some (service.destroyImpl impl)
  | .moveConstruct impl other =>
      if (service.impls impl).isNone ∧ impl ≠ other then some (service.moveConstruct impl other)
      else none
  | .moveAssign impl other => some (service.moveAssign impl other)
  | .asyncResolve impl => some (service.asyncResolve locking impl)
  | .complete => service.complete
  | .completed op =>
      if op ∈ service.completing then some { service with
        completing := service.completing.erase op
        main := service.main.workFinished }
      else none
  | .run => some { service with main := service.main.run }
  | .stop => some { service with main := service.main.stop }
  | .restart => some { service with main := service.main.restart }
  | .otherStarted => some { service with
      otherWork := service.otherWork + 1
      main := service.main.workStarted }
  | .otherFinished =>
      if 0 < service.otherWork then some { service with
        otherWork := service.otherWork - 1
        main := service.main.workFinished }
      else none
  | _ => none

/-- The notifications. The context is shut down when no thread is running it. -/
def notify : Stage → ResolverAction → Option ResolverService
  | .running, .forkPrepare => some service.forkPrepare
  | .joining, .forkJoined =>
      if service.threadJoined then some { service.join with stage := .forking } else none
  | .forking, .forkParent => some service.forked
  | .forking, .forkChild => some { service with workers := [] }.forked
  | .running, .shutdown | .forking, .shutdown =>
      if service.completing.isEmpty then some service.shutdown else none
  | .closing, .destroyWork =>
      if service.threadJoined then some service.destroyWork else none
  | .closed, .shutdownMain => some service.shutdownMain
  | _, _ => none

/-- One step. -/
def step (locking : Bool) (service : ResolverService) (action : ResolverAction) :
    Option ResolverService :=
  match action with
  | .take name | .lookUp name _ | .post name | .finish name | .exit name =>
      (service.worker name).bind fun worker => service.workerStep name worker action
  | .forkPrepare | .forkJoined | .forkParent | .forkChild | .shutdown | .destroyWork
  | .shutdownMain => service.notify service.stage action
  | _ =>
      match service.stage with
      | .running | .joining | .forking => service.call locking action
      | .closing | .closed | .ended => none

end ResolverService

/-- The constructor. The guard counts as work of the work scheduler. -/
def newService : ResolverService where
  main := {}
  otherWork := 0
  completing := []
  work := { outstandingWork := 1 }
  workThread := none
  workers := []
  spawned := 0
  stage := .running
  impls := fun _ => none
  useCount := fun _ => 0
  tokens := 0
  ops := fun _ => {}
  started := 0
  delivered := []
  destroyed := []

/-- The machine, with a main scheduler that locks or does not. -/
def resolverService (locking : Bool) : Transition.Machine ResolverService ResolverAction where
  initial service := service = newService
  step := ResolverService.step locking

end Asio.Network
