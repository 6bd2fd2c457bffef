import Asio.Lib.Transition
import Asio.Reactor.OpQueue
import Asio.Timer.WaitDuration
import Mathlib.Data.Finset.Card

/-! # The select reactor

Before it blocks in `select`, `select_reactor::run` copies the descriptors with
operations to three sets and works out how long to wait, under a lock that it then
releases. What other threads change while it is blocked it only learns if they
make the interrupter's descriptor readable.
-/

namespace Asio.Reactor

open Timer (TimerQueues WaitOp DurationTraits)

/-- `FD_SETSIZE`. -/
def fdSetSize : Nat := 1024

/-! ## Descriptor sets -/

/-- `posix_fd_set_adapter`; the largest descriptor is at first `invalid_socket`. -/
structure FdSetAdapter where
  fdSet : Finset Nat := ∅
  maxDescriptor : Option Nat := none
  deriving DecidableEq

namespace FdSetAdapter

variable {Op : Type*} (adapter : FdSetAdapter)

/-- `reset`. -/
def reset : FdSetAdapter := { adapter with fdSet := ∅ }

/-- `set` of a descriptor. -/
def set (descriptor : Nat) : FdSetAdapter × Bool :=
  if descriptor < fdSetSize then
    ({ maxDescriptor := if adapter.maxDescriptor.all (· < descriptor) then some descriptor
        else adapter.maxDescriptor
       fdSet := insert descriptor adapter.fdSet }, true)
  else (adapter, false)

/-- The loop of `set` over the descriptors with operations, which appends to `ops`. -/
def setLoop : List Nat → FdSetAdapter → ReactorOpQueue Nat Op → List (ReactorOp Op) →
    FdSetAdapter × ReactorOpQueue Nat Op × List (ReactorOp Op)
  | [], adapter, operations, ops => (adapter, operations, ops)
  | descriptor :: descriptors, adapter, operations, ops =>
      match adapter.set descriptor with
      | (adapter, true) => setLoop descriptors adapter operations ops
      | (adapter, false) =>
          let (operations, ops, _) :=
            operations.cancelOperations descriptor ops .fdSetFailure
          setLoop descriptors adapter operations ops

/-- `set` of all descriptors with operations. -/
def setAll (operations : ReactorOpQueue Nat Op) (ops : List (ReactorOp Op)) :
    FdSetAdapter × ReactorOpQueue Nat Op × List (ReactorOp Op) :=
  setLoop operations.descriptors adapter operations ops

/-- `is_set`. -/
def isSet (descriptor : Nat) : Bool := decide (descriptor ∈ adapter.fdSet)

/-- The loop of `perform` over the descriptors with operations. -/
def performLoop (perform : Op → Option ErrorCode) : List Nat → ReactorOpQueue Nat Op →
    List (ReactorOp Op) → ReactorOpQueue Nat Op × List (ReactorOp Op)
  | [], operations, ops => (operations, ops)
  | descriptor :: descriptors, operations, ops =>
      if adapter.isSet descriptor then
        let (operations, ops, _) := operations.performOperations descriptor perform ops
        performLoop perform descriptors operations ops
      else performLoop perform descriptors operations ops

/-- `perform`. -/
def perform (outcome : Op → Option ErrorCode) (operations : ReactorOpQueue Nat Op)
    (ops : List (ReactorOp Op)) : ReactorOpQueue Nat Op × List (ReactorOp Op) :=
  adapter.performLoop outcome operations.descriptors operations ops

end FdSetAdapter

/-! ## The reactor -/

/-- `op_types`. -/
inductive OpType where
  | read
  | write
  | except
  deriving DecidableEq, Repr

/-- The indices below `max_select_ops`, which is `max_ops`. -/
def OpType.all : List OpType := [.read, .write, .except]

theorem OpType.mem_all (i : OpType) : i ∈ OpType.all := by cases i <;> decide

/-- What reactors hand over to the scheduler. -/
inductive Operation (Op : Type*) where
  | reactor (op : ReactorOp Op)
  | wait (op : WaitOp Op)
  deriving DecidableEq, Repr

/-- Where the thread in `run` is: nowhere; between the release of the lock and the
return of `select`, with the arguments of the latter and the clock readings the
timeout was computed from; or after it, before it takes the lock again. -/
inductive SelectRun (Service Op Time : Type*) where
  | idle
  | blocked (nfds : Nat) (timeout : Int) (now : Service → Time) (ops : List (ReactorOp Op))
  | returned (retval : Int) (ops : List (ReactorOp Op))

/-- `select_reactor`: its members, whether the descriptor of the interrupter is
readable, of the scheduler the work that was started and the operations that were
handed over, and the thread in `run`. -/
structure SelectReactor (Service Id Op Time : Type*) where
  interrupted : Bool
  opQueue : OpType → ReactorOpQueue Nat Op
  fdSets : OpType → FdSetAdapter
  timerQueues : TimerQueues Service Id Op Time
  shutdown : Bool
  workStarted : Nat
  handedOver : List (Operation Op)
  run : SelectRun Service Op Time

/-- The descriptor of the interrupter, the timer queues in the order of the set,
and the queue that each timer is used with. -/
structure Setting (Service Id : Type*) where
  readDescriptor : Nat
  services : List Service
  home : Id → Service

/-- The operations of the reactor, the parts of `run`, and the return of `select`,
which changes the sets unless it fails. The clocks are read in `run` and `dispatch`. -/
inductive SelectAction (Service Id Op Time : Type*) where
  | startOp (opType : OpType) (descriptor : Nat) (op : ReactorOp Op)
  | registerInternalDescriptor (opType : OpType) (descriptor : Nat) (op : ReactorOp Op)
  | cancelOps (descriptor : Nat)
  | deregisterDescriptor (descriptor : Nat)
  | deregisterInternalDescriptor (descriptor : Nat)
  | scheduleTimer (time : Time) (timer : Id) (op : WaitOp Op)
  | cancelTimer (timer : Id) (maxCancelled : Nat)
  | interrupt
  | shutdown
  | run (usec : Int) (now : Service → Time)
  | select (result : Option (OpType → Finset Nat))
  | dispatch (perform : Op → Option ErrorCode) (now : Service → Time)

namespace SelectReactor

variable {Service Id Op Time : Type*}

/-- The constructor. -/
def new : SelectReactor Service Id Op Time where
  interrupted := false
  opQueue _ := .new
  fdSets _ := {}
  timerQueues := .empty
  shutdown := false
  workStarted := 0
  handedOver := []
  run := .idle

/-! ### Calls -/

/-- The loop over the queues that cancels the operations of a descriptor: the
queues, the operations, and whether there were any. -/
def cancelLoop (descriptor : Nat) (ec : ErrorCode) :
    List OpType → (OpType → ReactorOpQueue Nat Op) → List (ReactorOp Op) → Bool →
    (OpType → ReactorOpQueue Nat Op) × List (ReactorOp Op) × Bool
  | [], opQueue, ops, needInterrupt => (opQueue, ops, needInterrupt)
  | i :: is, opQueue, ops, needInterrupt =>
      let (queue, ops, cancelled) := (opQueue i).cancelOperations descriptor ops ec
      cancelLoop descriptor ec is (Function.update opQueue i queue) ops (cancelled || needInterrupt)

/-- The loop of `run` that puts the descriptors with operations into the sets. -/
structure SetUp (Op : Type*) where
  opQueue : OpType → ReactorOpQueue Nat Op
  fdSets : OpType → FdSetAdapter
  maxFd : Nat
  haveWorkToDo : Bool
  ops : List (ReactorOp Op)

/-- One iteration of it. -/
def SetUp.next (setUp : SetUp Op) (i : OpType) : SetUp Op :=
  let (fdSet, operations, ops) := (setUp.fdSets i).setAll (setUp.opQueue i) setUp.ops
  { opQueue := Function.update setUp.opQueue i operations
    fdSets := Function.update setUp.fdSets i fdSet
    maxFd := match fdSet.maxDescriptor with
      | some descriptor => if setUp.maxFd < descriptor then descriptor else setUp.maxFd
      | none => setUp.maxFd
    haveWorkToDo := setUp.haveWorkToDo || !(setUp.opQueue i).empty
    ops }

variable (reactor : SelectReactor Service Id Op Time)

/-- `start_op`. -/
def startOp (opType : OpType) (descriptor : Nat) (op : ReactorOp Op) :
    SelectReactor Service Id Op Time :=
  if reactor.shutdown then { reactor with
    workStarted := reactor.workStarted + 1
    handedOver := reactor.handedOver ++ [.reactor op] }
  else
    let (queue, first) := (reactor.opQueue opType).enqueueOperation descriptor op
    { reactor with
      opQueue := Function.update reactor.opQueue opType queue
      workStarted := reactor.workStarted + 1
      interrupted := reactor.interrupted || first }

/-- `register_internal_descriptor`. -/
def registerInternalDescriptor (opType : OpType) (descriptor : Nat) (op : ReactorOp Op) :
    SelectReactor Service Id Op Time :=
  let (queue, _) := (reactor.opQueue opType).enqueueOperation descriptor op
  { reactor with
    opQueue := Function.update reactor.opQueue opType queue
    interrupted := true }

/-- `cancel_ops_unlocked`. -/
def cancelOpsUnlocked (descriptor : Nat) (ec : ErrorCode) : SelectReactor Service Id Op Time :=
  let (opQueue, ops, needInterrupt) := cancelLoop descriptor ec OpType.all reactor.opQueue [] false
  { reactor with
    opQueue := opQueue
    handedOver := reactor.handedOver ++ ops.map .reactor
    interrupted := reactor.interrupted || needInterrupt }

/-- `deregister_internal_descriptor`, which destroys the operations. -/
def deregisterInternalDescriptor (descriptor : Nat) : SelectReactor Service Id Op Time :=
  let (opQueue, _) := cancelLoop descriptor .operationAborted OpType.all reactor.opQueue [] false
  { reactor with opQueue := opQueue }

/-! ### `run` -/

/-- Set up the descriptor sets. -/
def setUp (setting : Setting Service Id) : SetUp Op :=
  let fdSets := fun i => (reactor.fdSets i).reset
  let fdSets := Function.update fdSets .read ((fdSets .read).set setting.readDescriptor).1
  OpType.all.foldl SetUp.next {
    opQueue := reactor.opQueue
    fdSets := fdSets
    maxFd := 0
    haveWorkToDo := !reactor.timerQueues.allEmpty setting.services
    ops := [] }

/-- The maximal wait of `get_timeout`. -/
def maxUsec : Int := 5 * 60 * 1000 * 1000

section Time

variable [DurationTraits Time] (setting : Setting Service Id)

/-- `get_timeout`, in microseconds. -/
def getTimeout (usec : Int) (now : Service → Time) : Int :=
  reactor.timerQueues.waitDurationUsec setting.services now
    (if usec < 0 ∨ maxUsec < usec then maxUsec else usec)

/-- `run` up to the release of the lock. The scheduler passes an empty queue. -/
def beginRun (usec : Int) (now : Service → Time) : SelectReactor Service Id Op Time :=
  let setUp := reactor.setUp setting
  let reactor := { reactor with
    opQueue := setUp.opQueue
    fdSets := setUp.fdSets }
  if usec = 0 ∧ setUp.haveWorkToDo = false then { reactor with
    handedOver := reactor.handedOver ++ setUp.ops.map .reactor }
  else
    let timeout := if usec ≠ 0 then reactor.getTimeout setting usec now else 0
    { reactor with run := .blocked (setUp.maxFd + 1) timeout now setUp.ops }

end Time

/-- `select` returns: the sets it leaves, and the number of their members. -/
def afterSelect (result : Option (OpType → Finset Nat)) : (OpType → FdSetAdapter) × Int :=
  match result with
  | none => (reactor.fdSets, -1)
  | some ready =>
      (fun i => { reactor.fdSets i with fdSet := ready i },
        (OpType.all.map fun i => (ready i).card).sum)

/-- `run` from the return of `select` to the lock. -/
def returnFromSelect (setting : Setting Service Id) (ops : List (ReactorOp Op))
    (result : Option (OpType → Finset Nat)) : SelectReactor Service Id Op Time :=
  let (fdSets, retval) := reactor.afterSelect result
  let reactor := { reactor with fdSets := fdSets }
  if 0 < retval ∧ (fdSets .read).isSet setting.readDescriptor = true then { reactor with
    interrupted := false
    run := .returned (retval - 1) ops }
  else { reactor with run := .returned retval ops }

/-- The loop over the sets that performs the ready operations. -/
def performLoop (fdSets : OpType → FdSetAdapter) (perform : Op → Option ErrorCode) :
    List OpType → (OpType → ReactorOpQueue Nat Op) → List (ReactorOp Op) →
    (OpType → ReactorOpQueue Nat Op) × List (ReactorOp Op)
  | [], opQueue, ops => (opQueue, ops)
  | i :: is, opQueue, ops =>
      let (queue, ops) := (fdSets i).perform perform (opQueue i) ops
      performLoop fdSets perform is (Function.update opQueue i queue) ops

variable [DecidableEq Service] [DecidableEq Id] [DurationTraits Time]

/-- `timer_queue_set::get_ready_timers`. -/
def getReadyTimers (now : Service → Time) : List Service → TimerQueues Service Id Op Time →
    List (WaitOp Op) → TimerQueues Service Id Op Time × List (WaitOp Op)
  | [], queues, ops => (queues, ops)
  | service :: services, queues, ops =>
      let (queues, ready) := queues.getReadyTimers service (now service)
      getReadyTimers now services queues (ops ++ ready)

/-- `run` after it has taken the lock again. -/
def dispatch (setting : Setting Service Id) (retval : Int) (ops : List (ReactorOp Op))
    (perform : Op → Option ErrorCode) (now : Service → Time) : SelectReactor Service Id Op Time :=
  let (opQueue, ops) := if 0 < retval
    then performLoop reactor.fdSets perform OpType.all.reverse reactor.opQueue ops
    else (reactor.opQueue, ops)
  let (timerQueues, waits) := getReadyTimers now setting.services reactor.timerQueues []
  { reactor with
    opQueue := opQueue
    timerQueues := timerQueues
    handedOver := reactor.handedOver ++ ops.map .reactor ++ waits.map .wait
    run := .idle }

/-! ### Steps -/

/-- `schedule_timer`. An enqueue that throws is not a step. -/
def scheduleTimer [DecidableEq Op] (setting : Setting Service Id) (time : Time) (timer : Id)
    (op : WaitOp Op) : Option (SelectReactor Service Id Op Time) :=
  if reactor.shutdown then some { reactor with
    workStarted := reactor.workStarted + 1
    handedOver := reactor.handedOver ++ [.wait op] }
  else match reactor.timerQueues.scheduleTimer true (setting.home timer) time timer op with
    | (_, none) => none
    | (timerQueues, some earliest) => some { reactor with
        timerQueues := timerQueues
        workStarted := reactor.workStarted + 1
        interrupted := reactor.interrupted || earliest }

/-- `cancel_timer`. -/
def cancelTimer (setting : Setting Service Id) (timer : Id) (maxCancelled : Nat) :
    SelectReactor Service Id Op Time :=
  let (timerQueues, ops, _) :=
    reactor.timerQueues.cancelTimer (setting.home timer) timer maxCancelled
  { reactor with
    timerQueues := timerQueues
    handedOver := reactor.handedOver ++ ops.map .wait }

/-- `select` returns members of the sets only, and the interrupter's descriptor
only if it is readable. -/
def Selects (setting : Setting Service Id) : Option (OpType → Finset Nat) → Prop
  | none => True
  | some ready => (∀ i ∈ OpType.all, ready i ⊆ (reactor.fdSets i).fdSet) ∧
      (setting.readDescriptor ∈ ready .read → reactor.interrupted = true)

omit [DecidableEq Service] [DecidableEq Id] [DurationTraits Time] in
instance (setting : Setting Service Id) (result : Option (OpType → Finset Nat)) :
    Decidable (reactor.Selects setting result) :=
  match result with
  | none => isTrue trivial
  | some ready => inferInstanceAs (Decidable ((∀ i ∈ OpType.all,
      ready i ⊆ (reactor.fdSets i).fdSet) ∧
        (setting.readDescriptor ∈ ready .read → reactor.interrupted = true)))

/-- One step. One thread at a time is in `run`. -/
def step [DecidableEq Op] (setting : Setting Service Id)
    (reactor : SelectReactor Service Id Op Time) :
    SelectAction Service Id Op Time → Option (SelectReactor Service Id Op Time)
  | .startOp opType descriptor op => some (reactor.startOp opType descriptor op)
  | .registerInternalDescriptor opType descriptor op =>
      some (reactor.registerInternalDescriptor opType descriptor op)
  | .cancelOps descriptor => some (reactor.cancelOpsUnlocked descriptor .operationAborted)
  | .deregisterDescriptor descriptor => some (reactor.cancelOpsUnlocked descriptor .operationAborted)
  | .deregisterInternalDescriptor descriptor =>
      some (reactor.deregisterInternalDescriptor descriptor)
  | .scheduleTimer time timer op => reactor.scheduleTimer setting time timer op
  | .cancelTimer timer maxCancelled => some (reactor.cancelTimer setting timer maxCancelled)
  | .interrupt => some { reactor with interrupted := true }
  | .shutdown => some { reactor with shutdown := true }
  | .run usec now => match reactor.run with
      | .idle => some (reactor.beginRun setting usec now)
      | _ => none
  | .select result => match reactor.run with
      | .blocked _ _ _ ops =>
          if reactor.Selects setting result then some (reactor.returnFromSelect setting ops result)
          else none
      | _ => none
  | .dispatch perform now => match reactor.run with
      | .returned retval ops => some (reactor.dispatch setting retval ops perform now)
      | _ => none

end SelectReactor

/-- The machine. -/
def selectReactor {Service Id Op Time : Type*} [DecidableEq Service] [DecidableEq Id]
    [DecidableEq Op] [DurationTraits Time] (setting : Setting Service Id) :
    Transition.Machine (SelectReactor Service Id Op Time) (SelectAction Service Id Op Time) where
  initial reactor := reactor = .new
  step := SelectReactor.step setting

end Asio.Reactor
