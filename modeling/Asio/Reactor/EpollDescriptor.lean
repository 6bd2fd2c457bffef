import Asio.Lib.Transition
import Mathlib.Logic.Function.Basic

/-! # A descriptor of the epoll reactor

One `descriptor_state` that is registered and not shut down, from the kernel's
readiness to `perform_io`. The mutex of the descriptor is held between the calls
of `perform`, between which the kernel and the peer may act.
-/

namespace Asio.Reactor

/-- `reactor_op::status`. -/
inductive PerformStatus where
  | notDone
  | done
  | doneAndExhausted
  deriving DecidableEq, Repr

/-- `epoll_reactor::op_types`; `connect_op` is `write_op`. -/
inductive EpollOpType where
  | read
  | write
  | except
  deriving DecidableEq, Repr

/-- The bits of `epoll_event::events` that tell of readiness. -/
inductive EpollFlag where
  | epollIn
  | epollOut
  | epollPri
  | epollErr
  | epollHup
  deriving DecidableEq, Repr

/-- A set of these bits. -/
abbrev EpollEvents := EpollFlag → Bool

/-- `flag[j]` of `perform_io`. -/
def EpollOpType.flag : EpollOpType → EpollFlag
  | .read => .epollIn
  | .write => .epollOut
  | .except => .epollPri

/-- `events & (flag[j] | EPOLLERR | EPOLLHUP)`. -/
def EpollEvents.covers (events : EpollEvents) (opType : EpollOpType) : Bool :=
  events opType.flag || events .epollErr || events .epollHup

/-- The members of `descriptor_state` that decide when an operation is performed. -/
structure DescriptorState (Op : Type*) where
  opQueue : EpollOpType → List Op
  trySpeculative : EpollOpType → Bool
  registeredEvents : EpollEvents

/-- What is on the other side of a descriptor: its readiness, and what performing
an operation returns and leaves. -/
structure Device (Kernel Op : Type*) where
  ready : Kernel → EpollEvents
  perform : Op → Kernel → PerformStatus × Kernel

/-- Who holds the mutex of the descriptor: `start_op` after a speculative attempt,
or `perform_io` with the types it has not passed, the first of which it may be in. -/
inductive DescriptorHolder (Op : Type*) where
  | free
  | starting (opType : EpollOpType) (op : Op)
  | performing (events : EpollEvents) (opTypes : List EpollOpType) (entered : Bool)

/-- A descriptor with its events on their way: pending in the kernel, returned by
`epoll_wait` to `run`, recorded in `task_result_` of the queued `descriptor_state`,
and dequeued by threads that call `perform_io`. -/
structure EpollDescriptor (Kernel Op : Type*) where
  kernel : Kernel
  pending : EpollEvents
  fetched : Option EpollEvents
  taskResult : Option EpollEvents
  dequeued : List EpollEvents
  data : DescriptorState Op
  holder : DescriptorHolder Op

/-- What may happen. -/
inductive DescriptorAction (Kernel Op : Type*) where
  | kernelMoves (next : Kernel) (input : EpollEvents)
  | startOp (opType : EpollOpType) (op : Op) (allowSpeculative : Bool)
  | startOpContinues
  | cancelOps
  | epollWait
  | dispatch
  | dequeue
  | performIo (thread : Nat)
  | performIoContinues

namespace EpollDescriptor

variable {Kernel Op : Type*} (device : Device Kernel Op)

/-- The kernel goes on: an event becomes pending when readiness newly arises in a
registered direction, or new input arrives there. -/
def kernelMoves (state : EpollDescriptor Kernel Op) (next : Kernel) (input : EpollEvents) :
    EpollDescriptor Kernel Op :=
  { state with
    kernel := next
    pending := fun flag => state.pending flag || state.data.registeredEvents flag &&
      device.ready next flag && (!device.ready state.kernel flag || input flag) }

/-- `EPOLL_CTL_MOD`: an event becomes pending for all that is ready. -/
def epollCtlMod (state : EpollDescriptor Kernel Op) (events : EpollEvents) :
    EpollDescriptor Kernel Op :=
  { state with
    data := { state.data with registeredEvents := events }
    pending := fun flag => state.pending flag || events flag && device.ready state.kernel flag }

/-- `op->perform()`. -/
def perform (state : EpollDescriptor Kernel Op) (op : Op) :
    PerformStatus × EpollDescriptor Kernel Op :=
  ((device.perform op state.kernel).1,
    state.kernelMoves device (device.perform op state.kernel).2 fun _ => false)

/-- `registered_events_ | EPOLLOUT`. -/
def withOut (events : EpollEvents) : EpollEvents := Function.update events .epollOut true

def setTrySpeculative (state : EpollDescriptor Kernel Op) (opType : EpollOpType) (try_ : Bool) :
    EpollDescriptor Kernel Op :=
  { state with data := { state.data with
      trySpeculative := Function.update state.data.trySpeculative opType try_ } }

def setOpQueue (state : EpollDescriptor Kernel Op) (opType : EpollOpType) (ops : List Op) :
    EpollDescriptor Kernel Op :=
  { state with data := { state.data with
      opQueue := Function.update state.data.opQueue opType ops } }

/-- The end of `start_op`: `op_queue_[op_type].push(op)`. -/
def push (state : EpollDescriptor Kernel Op) (opType : EpollOpType) (op : Op) :
    EpollDescriptor Kernel Op :=
  { state.setOpQueue opType (state.data.opQueue opType ++ [op]) with holder := .free }

/-- `start_op`, up to where a speculative attempt was not made or not done. -/
def startOp (state : EpollDescriptor Kernel Op) (opType : EpollOpType) (op : Op)
    (allowSpeculative : Bool) : EpollDescriptor Kernel Op :=
  if (state.data.opQueue opType).isEmpty then
    if allowSpeculative && (opType != .read || (state.data.opQueue .except).isEmpty) then
      if state.data.trySpeculative opType then
        match state.perform device op with
        | (.notDone, state) => { state with holder := .starting opType op }
        | (.done, state) => state
        | (.doneAndExhausted, state) => state.setTrySpeculative opType false
      else { state with holder := .starting opType op }
    else
      let events :=
        if opType = .write then withOut state.data.registeredEvents
        else state.data.registeredEvents
      (state.epollCtlMod device events).push opType op
  else state.push opType op

/-- The rest of `start_op` after the speculative attempt. -/
def startOpContinues (state : EpollDescriptor Kernel Op) (opType : EpollOpType) (op : Op) :
    EpollDescriptor Kernel Op :=
  if opType = .write ∧ state.data.registeredEvents .epollOut = false then
    (state.epollCtlMod device (withOut state.data.registeredEvents)).push opType op
  else state.push opType op

/-- One turn of the loops of `perform_io`. -/
def performIoContinues (state : EpollDescriptor Kernel Op) (events : EpollEvents) :
    List EpollOpType → Bool → EpollDescriptor Kernel Op
  | [], _ => { state with holder := .free }
  | opType :: opTypes, false =>
      if events.covers opType then
        { state.setTrySpeculative opType true with
          holder := .performing events (opType :: opTypes) true }
      else { state with holder := .performing events opTypes false }
  | opType :: opTypes, true =>
      match state.data.opQueue opType with
      | [] => { state with holder := .performing events opTypes false }
      | op :: rest =>
          match state.perform device op with
          | (.notDone, state) => { state with holder := .performing events opTypes false }
          | (.done, state) => state.setOpQueue opType rest
          | (.doneAndExhausted, state) =>
              { (state.setOpQueue opType rest).setTrySpeculative opType false with
                holder := .performing events opTypes false }

/-- One step; a function that finds the mutex locked waits. -/
def step (state : EpollDescriptor Kernel Op) :
    DescriptorAction Kernel Op → Option (EpollDescriptor Kernel Op)
  | .kernelMoves next input => some (state.kernelMoves device next input)
  | .startOp opType op allowSpeculative =>
      match state.holder with
      | .free => some (state.startOp device opType op allowSpeculative)
      | _ => none
  | .startOpContinues =>
      match state.holder with
      | .starting opType op => some (state.startOpContinues device opType op)
      | _ => none
  | .cancelOps =>
      match state.holder with
      | .free => some { state with data := { state.data with opQueue := fun _ => [] } }
      | _ => none
  | .epollWait =>
      match state.fetched with
      | none => some { state with fetched := some state.pending, pending := fun _ => false }
      | some _ => none
  | .dispatch =>
      match state.fetched with
      | none => none
      | some events => some { state with
          fetched := none
          taskResult := match state.taskResult with
            | none => some events
            | some queued => some fun flag => queued flag || events flag }
  | .dequeue =>
      match state.taskResult with
      | none => none
      | some events => some { state with
          taskResult := none
          dequeued := events :: state.dequeued }
  | .performIo thread =>
      match state.holder, state.dequeued[thread]? with
      | .free, some events => some { state with
          dequeued := state.dequeued.eraseIdx thread
          holder := .performing events [.except, .write, .read] false }
      | _, _ => none
  | .performIoContinues =>
      match state.holder with
      | .performing events opTypes entered =>
          some (state.performIoContinues device events opTypes entered)
      | _ => none

/-- `register_descriptor`: all but `EPOLLOUT` is registered, and what is ready is pending. -/
def registered (kernel : Kernel) : EpollDescriptor Kernel Op where
  kernel
  pending := fun flag => flag != .epollOut && device.ready kernel flag
  fetched := none
  taskResult := none
  dequeued := []
  data := ⟨fun _ => [], fun _ => true, fun flag => flag != .epollOut⟩
  holder := .free

/-- The descriptor as a machine. -/
def machine : Transition.Machine (EpollDescriptor Kernel Op) (DescriptorAction Kernel Op) where
  initial state := ∃ kernel, state = registered device kernel
  step := step device

end EpollDescriptor

end Asio.Reactor
