import Asio.Reactor.EpollDescriptor

/-! # The operations of an epoll reactor

Any number of sockets, the `descriptor_state` objects of the `object_pool` they refer
to, and the functions that start, perform, cancel and abandon operations. Each function
does its work on an object under one mutex, and is one step here. What `epoll_wait`
returned for an object stays queued in the scheduler while the object is freed and
allocated again, so `perform_io` may be called for any object with any events.
-/

namespace Asio.Reactor

/-- An operation passed to `start_op`, with the number of the call and the registration
of its descriptor. -/
structure StartedOp (Op : Type*) where
  sequence : Nat
  registration : Option Nat
  opType : EpollOpType
  op : Op

/-- The errors of operations that `start_op` does not start. -/
inductive StartError where
  | badDescriptor
  | operationNotSupported
  | system
  deriving DecidableEq, Repr

/-- How an operation is handed on: posted by `start_op` without or after an attempt,
returned or posted by `perform_io`, posted with `operation_aborted`, or destroyed. -/
inductive OpExit where
  | immediate (error : Option StartError)
  | speculative
  | returned
  | posted
  | aborted
  | abandoned
  deriving DecidableEq, Repr

/-- A `descriptor_state` of the pool; `owner` is the registration it was last allocated
for. -/
structure PooledDescriptorState (Op : Type*) extends DescriptorState (StartedOp Op) where
  shutdown : Bool
  owner : Nat

/-- `per_descriptor_data` of a socket that is registered. -/
structure PerDescriptorData where
  object : Nat
  registration : Nat
  deriving DecidableEq, Repr

/-- The calls of `perform` on behalf of the owner of an object, by one call of
`perform_io` or `start_op`. -/
structure PerformCall (Op : Type*) where
  owner : Nat
  attempts : List (StartedOp Op)

/-- The reactor, the sockets that use it, and the history: what was started, what was
handed on, and what was performed. A socket is `closing` between
`deregister_descriptor` and `cleanup_descriptor_data`. -/
structure EpollReactor (Socket World Op : Type*) where
  world : World
  objects : Nat → PooledDescriptorState Op
  created : Nat
  live : List Nat
  free : List Nat
  descriptorData : Socket → Option PerDescriptorData
  closing : List Socket
  registrations : Nat
  started : List (StartedOp Op)
  handed : List (OpExit × StartedOp Op)
  calls : List (PerformCall Op)

/-- The result of `EPOLL_CTL_ADD`. -/
inductive RegisterReply where
  | added
  | notPermitted
  | failed
  deriving DecidableEq, Repr

inductive EpollReactorAction (Socket World Op : Type*) where
  | elapse (next : World)
  | registerDescriptor (socket : Socket) (reply : RegisterReply)
  | startOp (socket : Socket) (opType : EpollOpType) (op : Op) (allowSpeculative modified : Bool)
  | performIo (object : Nat) (events : EpollEvents)
  | cancelOps (socket : Socket)
  | deregisterDescriptor (socket : Socket)
  | cleanupDescriptorData (socket : Socket)
  | moveDescriptor (target source : Socket)
  | shutdown

/-- `registered_events_ == 0`. -/
def EpollEvents.isZero (events : EpollEvents) : Bool :=
  [.epollIn, .epollOut, .epollPri, .epollErr, .epollHup].all fun flag => !events flag

/-- What one loop of `perform_io` over a queue leaves. -/
structure PerformedQueue (World Op : Type*) where
  attempts : List (StartedOp Op)
  completed : List (StartedOp Op)
  queue : List (StartedOp Op)
  exhausted : Bool
  world : World

/-- What the loops of `perform_io` over the types leave. -/
structure PerformedTypes (World Op : Type*) where
  attempts : List (StartedOp Op)
  completed : List (StartedOp Op)
  object : PooledDescriptorState Op
  world : World

variable {Socket World Op : Type*} (perform : Op → World → PerformStatus × World)

/-- The loop of `perform_io` over `op_queue_[j]`. -/
def performQueue : List (StartedOp Op) → World → PerformedQueue World Op
  | [], world => ⟨[], [], [], false, world⟩
  | op :: queue, world =>
      match perform op.op world with
      | (.notDone, world) => ⟨[op], [], op :: queue, false, world⟩
      | (.done, world) =>
          let rest := performQueue queue world
          { rest with attempts := op :: rest.attempts, completed := op :: rest.completed }
      | (.doneAndExhausted, world) => ⟨[op], [op], queue, true, world⟩

/-- The loop of `perform_io` over the types. -/
def performTypes (events : EpollEvents) :
    List EpollOpType → PooledDescriptorState Op → World → PerformedTypes World Op
  | [], object, world => ⟨[], [], object, world⟩
  | opType :: opTypes, object, world =>
      if events.covers opType then
        let performed := performQueue perform (object.opQueue opType) world
        let rest := performTypes events opTypes
          { object with
            opQueue := Function.update object.opQueue opType performed.queue
            trySpeculative :=
              Function.update object.trySpeculative opType !performed.exhausted }
          performed.world
        { rest with
          attempts := performed.attempts ++ rest.attempts
          completed := performed.completed ++ rest.completed }
      else performTypes events opTypes object world

/-- The first completed operation is returned, the others are posted. -/
def performExits : List (StartedOp Op) → List (OpExit × StartedOp Op)
  | [] => []
  | first :: others => (.returned, first) :: others.map (.posted, ·)

namespace EpollReactor

/-- The object that `registered_descriptors_.alloc` returns. -/
def allocated (state : EpollReactor Socket World Op) : Nat := state.free.headD state.created

/-- `allocate_descriptor_state`. -/
def allocateDescriptorState (state : EpollReactor Socket World Op) :
    EpollReactor Socket World Op :=
  { state with
    created := if state.free.isEmpty then state.created + 1 else state.created
    live := state.allocated :: state.live
    free := state.free.tail }

/-- `free_descriptor_state`. -/
def freeDescriptorState (state : EpollReactor Socket World Op) (object : Nat) :
    EpollReactor Socket World Op :=
  { state with live := state.live.erase object, free := object :: state.free }

def setObject (state : EpollReactor Socket World Op) (object : Nat)
    (value : PooledDescriptorState Op) : EpollReactor Socket World Op :=
  { state with objects := Function.update state.objects object value }

def setShutdown (state : EpollReactor Socket World Op) (object : Nat) :
    EpollReactor Socket World Op :=
  state.setObject object { state.objects object with shutdown := true }

/-- The operation of a call of `start_op`. -/
def request (state : EpollReactor Socket World Op) (socket : Socket)
    (opType : EpollOpType) (op : Op) : StartedOp Op :=
  ⟨state.started.length, (state.descriptorData socket).map (·.registration), opType, op⟩

/-- `post_immediate_completion` at the end of `start_op`. -/
def postImmediate (state : EpollReactor Socket World Op) (op : StartedOp Op) (reason : OpExit) :
    EpollReactor Socket World Op :=
  { state with started := state.started ++ [op], handed := state.handed ++ [(reason, op)] }

/-- `op_queue_[op_type].push(op)` at the end of `start_op`. -/
def push (state : EpollReactor Socket World Op) (object : Nat) (op : StartedOp Op) :
    EpollReactor Socket World Op :=
  { state.setObject object { state.objects object with
      opQueue := Function.update (state.objects object).opQueue op.opType
        ((state.objects object).opQueue op.opType ++ [op]) } with
    started := state.started ++ [op] }

/-- `registered_events_ |= EPOLLOUT`. -/
def registerOut (state : EpollReactor Socket World Op) (object : Nat) :
    EpollReactor Socket World Op :=
  state.setObject object { state.objects object with
    registeredEvents := EpollDescriptor.withOut (state.objects object).registeredEvents }

/-- `start_op` after the speculative attempt. -/
def startOpRegisters (state : EpollReactor Socket World Op) (object : Nat) (op : StartedOp Op)
    (modified : Bool) : EpollReactor Socket World Op :=
  if (state.objects object).registeredEvents.isZero then
    state.postImmediate op (.immediate (some .operationNotSupported))
  else if op.opType = .write ∧ (state.objects object).registeredEvents .epollOut = false then
    if modified then (state.registerOut object).push object op
    else state.postImmediate op (.immediate (some .system))
  else state.push object op

/-- The speculative attempt of `start_op`. -/
def attempt (state : EpollReactor Socket World Op) (object : Nat) (op : StartedOp Op) :
    PerformStatus × EpollReactor Socket World Op :=
  ((perform op.op state.world).1,
    { state with
      world := (perform op.op state.world).2
      calls := state.calls ++ [⟨(state.objects object).owner, [op]⟩] })

/-- `try_speculative_[op_type] = false`. -/
def clearSpeculative (state : EpollReactor Socket World Op) (object : Nat)
    (opType : EpollOpType) : EpollReactor Socket World Op :=
  state.setObject object { state.objects object with
    trySpeculative := Function.update (state.objects object).trySpeculative opType false }

/-- `start_op` on an object that is not shut down. -/
def startOpOn (state : EpollReactor Socket World Op) (object : Nat) (op : StartedOp Op)
    (allowSpeculative modified : Bool) : EpollReactor Socket World Op :=
  if ((state.objects object).opQueue op.opType).isEmpty then
    if allowSpeculative &&
        (op.opType != .read || ((state.objects object).opQueue .except).isEmpty) then
      if (state.objects object).trySpeculative op.opType then
        match state.attempt perform object op with
        | (.notDone, state) => state.startOpRegisters object op modified
        | (.done, state) => state.postImmediate op .speculative
        | (.doneAndExhausted, state) =>
            if (state.objects object).registeredEvents.isZero then
              state.postImmediate op .speculative
            else (state.clearSpeculative object op.opType).postImmediate op .speculative
      else state.startOpRegisters object op modified
    else if (state.objects object).registeredEvents.isZero then
      state.postImmediate op (.immediate (some .operationNotSupported))
    else if op.opType = .write then (state.registerOut object).push object op
    else state.push object op
  else state.push object op

/-- Every operation of `op_queue_[0]` to `op_queue_[max_ops - 1]` leaves. -/
def takeOps (state : EpollReactor Socket World Op) (object : Nat) (reason : OpExit) :
    EpollReactor Socket World Op :=
  { state.setObject object { state.objects object with opQueue := fun _ => [] } with
    handed := state.handed ++
      ([.read, .write, .except].flatMap (state.objects object).opQueue).map (reason, ·) }

/-- One turn of the loop of `shutdown`. -/
def shutdownObject (state : EpollReactor Socket World Op) (object : Nat) :
    EpollReactor Socket World Op :=
  ((state.takeOps object .abandoned).setShutdown object).freeDescriptorState object

/-- `shutdown`. -/
def shutdown (state : EpollReactor Socket World Op) : EpollReactor Socket World Op :=
  state.live.foldl shutdownObject state

/-- `perform_io`. -/
def performIo (state : EpollReactor Socket World Op) (object : Nat) (events : EpollEvents) :
    EpollReactor Socket World Op :=
  let performed :=
    performTypes perform events [.except, .write, .read] (state.objects object) state.world
  { state.setObject object performed.object with
    world := performed.world
    handed := state.handed ++ performExits performed.completed
    calls := state.calls ++ [⟨(state.objects object).owner, performed.attempts⟩] }

variable [DecidableEq Socket]

/-- `register_descriptor`. It does not look at the queues of the object. -/
def registerDescriptor (state : EpollReactor Socket World Op) (socket : Socket)
    (reply : RegisterReply) : EpollReactor Socket World Op :=
  { state.allocateDescriptorState.setObject state.allocated { state.objects state.allocated with
      trySpeculative := fun _ => true
      registeredEvents := fun flag => flag != .epollOut && reply != .notPermitted
      shutdown := false
      owner := state.registrations } with
    descriptorData := Function.update state.descriptorData socket
      (some ⟨state.allocated, state.registrations⟩)
    registrations := state.registrations + 1 }

/-- `start_op`; `modified` is whether `EPOLL_CTL_MOD` succeeds. -/
def startOp (state : EpollReactor Socket World Op) (socket : Socket) (opType : EpollOpType)
    (op : Op) (allowSpeculative modified : Bool) : EpollReactor Socket World Op :=
  let request := state.request socket opType op
  match state.descriptorData socket with
  | none => state.postImmediate request (.immediate (some .badDescriptor))
  | some data =>
      if (state.objects data.object).shutdown then state.postImmediate request (.immediate none)
      else state.startOpOn perform data.object request allowSpeculative modified

/-- `cancel_ops`. -/
def cancelOps (state : EpollReactor Socket World Op) (socket : Socket) :
    EpollReactor Socket World Op :=
  match state.descriptorData socket with
  | none => state
  | some data => state.takeOps data.object .aborted

/-- `descriptor_data = 0`. -/
def clearData (state : EpollReactor Socket World Op) (socket : Socket) :
    EpollReactor Socket World Op :=
  { state with descriptorData := Function.update state.descriptorData socket none }

/-- `deregister_descriptor`. -/
def deregisterDescriptor (state : EpollReactor Socket World Op) (socket : Socket) :
    EpollReactor Socket World Op :=
  match state.descriptorData socket with
  | none => state
  | some data =>
      if (state.objects data.object).shutdown then state.clearData socket
      else { (state.takeOps data.object .aborted).setShutdown data.object with
        closing := socket :: state.closing }

/-- `cleanup_descriptor_data`. -/
def cleanupDescriptorData (state : EpollReactor Socket World Op) (socket : Socket) :
    EpollReactor Socket World Op :=
  match state.descriptorData socket with
  | none => state
  | some data => { (state.freeDescriptorState data.object).clearData socket with
      closing := state.closing.filter (· ≠ socket) }

/-- `move_descriptor`. -/
def moveDescriptor (state : EpollReactor Socket World Op) (target source : Socket) :
    EpollReactor Socket World Op :=
  { state with
    descriptorData := Function.update
      (Function.update state.descriptorData target (state.descriptorData source)) source none }

/-- One step. A socket is not registered, moved or deregistered between
`deregister_descriptor` and `cleanup_descriptor_data`, which are called one after the
other; only a socket between them is cleaned up, and the context is not destroyed then. -/
def step (state : EpollReactor Socket World Op) :
    EpollReactorAction Socket World Op → Option (EpollReactor Socket World Op)
  | .elapse next => some { state with world := next }
  | .registerDescriptor socket reply =>
      if socket ∈ state.closing then none else some (state.registerDescriptor socket reply)
  | .startOp socket opType op allowSpeculative modified =>
      some (state.startOp perform socket opType op allowSpeculative modified)
  | .performIo object events =>
      if object < state.created then some (state.performIo perform object events) else none
  | .cancelOps socket => some (state.cancelOps socket)
  | .deregisterDescriptor socket =>
      if socket ∈ state.closing then none else some (state.deregisterDescriptor socket)
  | .cleanupDescriptorData socket =>
      if socket ∈ state.closing then some (state.cleanupDescriptorData socket) else none
  | .moveDescriptor target source =>
      if target ∈ state.closing ∨ source ∈ state.closing then none
      else some (state.moveDescriptor target source)
  | .shutdown => if state.closing = [] then some state.shutdown else none

/-- No object was allocated and nothing was started. -/
def constructed (world : World) : EpollReactor Socket World Op where
  world
  objects _ := ⟨⟨fun _ => [], fun _ => false, fun _ => false⟩, false, 0⟩
  created := 0
  live := []
  free := []
  descriptorData _ := none
  closing := []
  registrations := 0
  started := []
  handed := []
  calls := []

/-- The reactor as a machine. -/
def machine : Transition.Machine (EpollReactor Socket World Op)
    (EpollReactorAction Socket World Op) where
  initial state := ∃ world, state = constructed world
  step := step perform

end EpollReactor

end Asio.Reactor
