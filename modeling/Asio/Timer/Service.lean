import Asio.Lib.Transition
import Asio.Timer.Deadline
import Asio.Timer.Reactor

/-! # The deadline timer service

`deadline_timer_service` and the move operations of `basic_io_object`: a timer
object holds a pointer to its service, the expiry, the cached flag
`might_have_pending_waits` and the `per_timer_data` whose address identifies it.
The state remembers, beside the memory, the waits started, each with the expiry
of its timer then, and those handed over to the scheduler, each with the clock
then. The reactors are not shut down.
-/

namespace Asio.Timer

/-- A `basic_io_object` over a deadline timer service: `service_` and the members of
the `implementation_type` but for the `per_timer_data`. -/
structure TimerObject (Service Time : Type*) where
  service : Service
  expiry : Time
  mightHavePendingWaits : Bool

/-- The deadline timer services and their timers. -/
structure DeadlineTimers (Service Id Op Time : Type*) where
  queues : TimerQueues Service Id Op Time
  objects : Id → Option (TimerObject Service Time)
  now : Time
  started : List (Op × Time)
  posted : List (WaitOp Op × Time)

namespace DeadlineTimers

variable {Service Id Op Time Duration : Type*}

/-- The operations given to the scheduler: `post_deferred_completions`, or the
`ops` a reactor run returns. -/
def post (state : DeadlineTimers Service Id Op Time) (ops : List (WaitOp Op)) :
    DeadlineTimers Service Id Op Time :=
  { state with posted := state.posted ++ ops.map fun op => (op, state.now) }

variable [DecidableEq Service] [DecidableEq Id] [DecidableEq Op] [ServiceTraits Time Duration]

/-- Services without timers. -/
def start : DeadlineTimers Service Id Op Time where
  queues := .empty
  objects _ := none
  now := ServiceTraits.epoch
  started := []
  posted := []

/-- A timer object written. -/
def setObject (state : DeadlineTimers Service Id Op Time) (timer : Id)
    (impl : Option (TimerObject Service Time)) : DeadlineTimers Service Id Op Time :=
  { state with objects := Function.update state.objects timer impl }

/-- Members of a timer object written. -/
def modifyObject (state : DeadlineTimers Service Id Op Time) (timer : Id)
    (write : TimerObject Service Time → TimerObject Service Time) :
    DeadlineTimers Service Id Op Time :=
  state.setObject timer ((state.objects timer).map write)

/-- Construct a new timer implementation. -/
def construct (state : DeadlineTimers Service Id Op Time) (timer : Id) (service : Service) :
    DeadlineTimers Service Id Op Time :=
  { state with queues := state.queues.constructData timer }.setObject timer
    (some ⟨service, ServiceTraits.epoch, false⟩)

/-- `scheduler_.cancel_timer`, with the operations it posts. -/
def cancelTimer (state : DeadlineTimers Service Id Op Time) (service : Service) (timer : Id)
    (maxCancelled : Nat) : DeadlineTimers Service Id Op Time × Nat :=
  let (queues, ops, count) := state.queues.cancelTimer service timer maxCancelled
  ({ state with queues := queues }.post ops, count)

/-- `scheduler_.move_timer`, with the operations it posts. -/
def moveTimer (state : DeadlineTimers Service Id Op Time) (service : Service) (target source : Id) :
    DeadlineTimers Service Id Op Time :=
  let (queues, ops) := state.queues.moveTimer service target source
  { state with queues := queues }.post ops

/-- Cancel any asynchronous wait operations associated with the timer. -/
def cancel (state : DeadlineTimers Service Id Op Time) (timer : Id)
    (impl : TimerObject Service Time) : DeadlineTimers Service Id Op Time × Nat :=
  if !impl.mightHavePendingWaits then (state, 0)
  else
    let (state, count) := state.cancelTimer impl.service timer sizeMax
    (state.modifyObject timer fun impl => { impl with mightHavePendingWaits := false }, count)

/-- Cancels one asynchronous wait operation associated with the timer. -/
def cancelOne (state : DeadlineTimers Service Id Op Time) (timer : Id)
    (impl : TimerObject Service Time) : DeadlineTimers Service Id Op Time × Nat :=
  if !impl.mightHavePendingWaits then (state, 0)
  else
    let (state, count) := state.cancelTimer impl.service timer 1
    if count = 0 then
      (state.modifyObject timer fun impl => { impl with mightHavePendingWaits := false }, count)
    else (state, count)

/-- Destroy a timer implementation, with the destructor of its `per_timer_data`. -/
def destroy (state : DeadlineTimers Service Id Op Time) (timer : Id)
    (impl : TimerObject Service Time) : DeadlineTimers Service Id Op Time :=
  let state := (state.cancel timer impl).1
  { state with queues := state.queues.destroyData timer }.setObject timer none

/-- The assignments both moves end with: the expiry and the flag of the source are
taken over, and the source gets those of a new timer. -/
def takeOver (state : DeadlineTimers Service Id Op Time) (target source : Id)
    (other : TimerObject Service Time) : DeadlineTimers Service Id Op Time :=
  let state := state.modifyObject target fun impl => { impl with expiry := other.expiry }
  let state := state.modifyObject source fun impl => { impl with expiry := ServiceTraits.epoch }
  let state := state.modifyObject target fun impl =>
    { impl with mightHavePendingWaits := other.mightHavePendingWaits }
  state.modifyObject source fun impl => { impl with mightHavePendingWaits := false }

/-- Move-construct a new implementation; its members are not yet assigned. -/
def moveConstruct (state : DeadlineTimers Service Id Op Time) (target source : Id)
    (other : TimerObject Service Time) : DeadlineTimers Service Id Op Time :=
  let state := { state with queues := state.queues.constructData target }.setObject target
    (some ⟨other.service, ServiceTraits.epoch, false⟩)
  let state := state.moveTimer other.service target source
  state.takeOver target source other

/-- Move-assign from another implementation, and take over its service. -/
def moveAssign (state : DeadlineTimers Service Id Op Time) (target source : Id)
    (impl other : TimerObject Service Time) : DeadlineTimers Service Id Op Time :=
  let state := if impl.service ≠ other.service ∧ impl.mightHavePendingWaits = true then
      (state.cancelTimer impl.service target sizeMax).1
    else state
  let state := state.moveTimer other.service target source
  let state := state.takeOver target source other
  state.modifyObject target fun impl => { impl with service := other.service }

/-- Set the expiry time for the timer as an absolute time. -/
def expiresAt (state : DeadlineTimers Service Id Op Time) (timer : Id)
    (impl : TimerObject Service Time) (time : Time) : DeadlineTimers Service Id Op Time × Nat :=
  let (state, count) := state.cancel timer impl
  (state.modifyObject timer fun impl => { impl with expiry := time }, count)

/-- Set the expiry time for the timer relative to now. -/
def expiresAfter (state : DeadlineTimers Service Id Op Time) (timer : Id)
    (impl : TimerObject Service Time) (duration : Duration) :
    DeadlineTimers Service Id Op Time × Nat :=
  state.expiresAt timer impl (ServiceTraits.add state.now duration)

/-- Start an asynchronous wait on the timer; none when an allocation fails. Every
operation on the timer has an address of its own, so that there are at most
`sizeMax` of them. -/
def asyncWait (state : DeadlineTimers Service Id Op Time) (timer : Id)
    (impl : TimerObject Service Time) (op : Op) : Option (DeadlineTimers Service Id Op Time) :=
  if (state.queues.opQueue timer).length < sizeMax then
    let state := state.modifyObject timer fun impl => { impl with mightHavePendingWaits := true }
    match state.queues.scheduleTimer true impl.service impl.expiry timer ⟨op, .success⟩ with
    | (queues, some _) => some
        { state with queues := queues, started := state.started ++ [(op, impl.expiry)] }
    | (_, none) => none
  else none

/-- The visit of a reactor round to the queue of a service. -/
def getReadyTimers (state : DeadlineTimers Service Id Op Time) (service : Service) :
    DeadlineTimers Service Id Op Time :=
  let (queues, ops) := state.queues.getReadyTimers service state.now
  { state with queues := queues }.post ops

/-- Make a call: the next state and the count returned. An object is constructed
at a free address and used while it lives, every wait is a new operation, the
clock never shows positive infinity, and a call that throws is not a step. -/
def call (state : DeadlineTimers Service Id Op Time) :
    TimerCall Service Id Op Time Duration → Option (DeadlineTimers Service Id Op Time × Nat)
  | .construct timer service =>
      if (state.objects timer).isNone then some (state.construct timer service, 0) else none
  | .destroy timer => (state.objects timer).map fun impl => (state.destroy timer impl, 0)
  | .moveConstruct target source =>
      if (state.objects target).isNone then
        (state.objects source).map fun other => (state.moveConstruct target source other, 0)
      else none
  | .moveAssign target source =>
      (state.objects target).bind fun impl => (state.objects source).map fun other =>
        (state.moveAssign target source impl other, 0)
  | .expiresAt timer time => (state.objects timer).map fun impl => state.expiresAt timer impl time
  | .expiresAfter timer duration =>
      (state.objects timer).map fun impl => state.expiresAfter timer impl duration
  | .cancel timer => (state.objects timer).map fun impl => state.cancel timer impl
  | .cancelOne timer => (state.objects timer).map fun impl => state.cancelOne timer impl
  | .asyncWait timer op =>
      if op ∈ state.started.map Prod.fst then none
      else (state.objects timer).bind fun impl =>
        (state.asyncWait timer impl op).map fun next => (next, 0)
  | .clock now =>
      if TimeTraits.isPositiveInfinity now then none else some ({ state with now := now }, 0)
  | .getReadyTimers service => some (state.getReadyTimers service, 0)

/-- The deadline timers as a machine. -/
def machine : Transition.Machine (DeadlineTimers Service Id Op Time)
    (TimerCall Service Id Op Time Duration) where
  initial state := state = start
  step state call := (state.call call).map Prod.fst

end DeadlineTimers

end Asio.Timer
