import Asio.Lib.Transition

/-! # Functions on executors

A function is submitted to its associated executor, or through another executor. Then it travels
in a `work_dispatcher`, which counts as work of the associated executor until the function has been
dispatched there. The executors are those of the contexts; the executor of the system context
counts no work and invokes in place what is dispatched to it.
-/

namespace Asio.Core

/-- The contexts and the functions: which context is the system context, which schedulers are known
to have one thread, and the associated executor of every function, named by its context. -/
structure ExecutorSetting (Context Fn : Type*) where
  system : Context
  oneThread : Context → Bool
  associated : Fn → Context

/-- What an `executor_op` wraps: a function, or a `work_dispatcher` that holds one together with a
work guard. The guard moves along with the function, and what it was moved from owns nothing. -/
inductive ExecutorOp (Fn : Type*) where
  | function (fn : Fn)
  | dispatcher (fn : Fn)
  deriving DecidableEq, Repr

/-- The function that is called in the end. -/
def ExecutorOp.fn {Fn : Type*} : ExecutorOp Fn → Fn
  | .function fn => fn
  | .dispatcher fn => fn

/-- A `thread_info` of a thread that runs a scheduler, and whether there is a `work_cleanup` on its
stack, which there is while an operation completes. -/
structure RunInfo (Fn : Type*) where
  privateOpQueue : List (ExecutorOp Fn)
  privateOutstandingWork : Nat
  completing : Bool
  deriving DecidableEq, Repr

/-- The calls a thread is inside of: the run of a scheduler, a `work_dispatcher` that has still to
reset its guard, and the call of a function. -/
inductive Frame (Context Fn : Type*) where
  | running (context : Context) (info : RunInfo Fn)
  | releasing (fn : Fn)
  | calling (fn : Fn)
  deriving DecidableEq, Repr

/-- An `executor_work_guard`. -/
structure WorkGuard (Context : Type*) where
  executor : Context
  owns : Bool
  deriving DecidableEq, Repr

/-- The schedulers of the contexts, the stacks of the threads, innermost call first, the work
guards of the user, and what has become of the functions. -/
structure ExecutorState (Thread Context Guard Fn : Type*) where
  outstandingWork : Context → Int
  opQueue : Context → List (ExecutorOp Fn)
  stopped : Context → Bool
  shutdown : Context → Bool
  stack : Thread → List (Frame Context Fn)
  guards : Guard → Option (WorkGuard Context)
  submitted : List Fn
  called : List Fn
  destroyed : Context → List Fn

/-- The free functions `dispatch`, `post` and `defer`. -/
inductive Submission where
  | dispatch
  | post
  | defer
  deriving DecidableEq, Repr

/-- What a thread does, and what happens to the work guards and the contexts. -/
inductive ExecutorAction (Thread Context Guard Fn : Type*) where
  | submit (thread : Thread) (how : Submission) (through : Option Context) (fn : Fn)
  | beginRun (thread : Thread) (context : Context)
  | runOne (thread : Thread)
  | finish (thread : Thread)
  | endRun (thread : Thread)
  | makeGuard (guard : Guard) (context : Context)
  | copyGuard (guard other : Guard)
  | moveGuard (guard other : Guard)
  | resetGuard (guard : Guard)
  | destroyGuard (guard : Guard)
  | stop (context : Context)
  | restart (context : Context)
  | shutdown (context : Context)
  | destroyFront (context : Context)
  deriving DecidableEq, Repr

/-- `call_stack::contains` finds the innermost run of the scheduler, which takes the operation
into its private queue. -/
def pushPrivate {Context Fn : Type*} [DecidableEq Context] (context : Context)
    (op : ExecutorOp Fn) : List (Frame Context Fn) → Option (List (Frame Context Fn))
  | [] => none
  | .running running info :: outer =>
      if running = context then
        some (.running running
          { info with
            privateOpQueue := info.privateOpQueue ++ [op]
            privateOutstandingWork := info.privateOutstandingWork + 1 } :: outer)
      else (pushPrivate context op outer).map (.running running info :: ·)
  | .releasing fn :: outer => (pushPrivate context op outer).map (.releasing fn :: ·)
  | .calling fn :: outer => (pushPrivate context op outer).map (.calling fn :: ·)

/-- The context a call runs. -/
def Frame.context? {Context Fn : Type*} : Frame Context Fn → Option Context
  | .running context _ => some context
  | .releasing _ => none
  | .calling _ => none

/-- A thread that is inside a run of the context, `can_dispatch`. -/
def Inside {Context Fn : Type*} (context : Context) (stack : List (Frame Context Fn)) : Prop :=
  context ∈ stack.filterMap Frame.context?

instance {Context Fn : Type*} [DecidableEq Context] (context : Context)
    (stack : List (Frame Context Fn)) : Decidable (Inside context stack) :=
  inferInstanceAs (Decidable (_ ∈ _))

/-- A thread that executes the user's code: outside of everything or in the call of a function. -/
def userCode {Context Fn : Type*} : List (Frame Context Fn) → Bool
  | [] => true
  | .calling _ :: _ => true
  | .releasing _ :: _ => false
  | .running _ _ :: _ => false

namespace ExecutorState

variable {Thread Context Guard Fn : Type*} [DecidableEq Thread] [DecidableEq Context]
  [DecidableEq Guard] [DecidableEq Fn]

/-- Nothing has happened; the system context was created with one unit of work. -/
def new (setting : ExecutorSetting Context Fn) : ExecutorState Thread Context Guard Fn where
  outstandingWork context := if context = setting.system then 1 else 0
  opQueue _ := []
  stopped _ := false
  shutdown _ := false
  stack _ := []
  guards _ := none
  submitted := []
  called := []
  destroyed _ := []

section Functions

variable (setting : ExecutorSetting Context Fn) (state : ExecutorState Thread Context Guard Fn)

/-- `scheduler::work_started`, some units at a time. -/
def addWork (context : Context) (units : Int) : ExecutorState Thread Context Guard Fn :=
  { state with
    outstandingWork := Function.update state.outstandingWork context
      (state.outstandingWork context + units) }

/-- `scheduler::work_finished`; the last stops the scheduler. -/
def workFinished (context : Context) : ExecutorState Thread Context Guard Fn :=
  let finished := state.addWork context (-1)
  if finished.outstandingWork context = 0 then
    { finished with stopped := Function.update finished.stopped context true }
  else finished

/-- `executor_type::on_work_started`. -/
def onWorkStarted (context : Context) : ExecutorState Thread Context Guard Fn :=
  if context = setting.system then state else state.addWork context 1

/-- `executor_type::on_work_finished`. -/
def onWorkFinished (context : Context) : ExecutorState Thread Context Guard Fn :=
  if context = setting.system then state else state.workFinished context

/-- The thread enters a call. -/
def push (thread : Thread) (frame : Frame Context Fn) : ExecutorState Thread Context Guard Fn :=
  { state with
    stack := Function.update state.stack thread (frame :: state.stack thread) }

/-- The calls of a thread change. -/
def setStack (thread : Thread) (stack : List (Frame Context Fn)) :
    ExecutorState Thread Context Guard Fn :=
  { state with
    stack := Function.update state.stack thread stack }

/-- Operations at the back of a scheduler's queue. -/
def enqueue (context : Context) (ops : List (ExecutorOp Fn)) :
    ExecutorState Thread Context Guard Fn :=
  { state with
    opQueue := Function.update state.opQueue context (state.opQueue context ++ ops) }

/-- `scheduler::post_immediate_completion`. -/
def postImmediateCompletion (thread : Thread) (context : Context) (op : ExecutorOp Fn)
    (isContinuation : Bool) : ExecutorState Thread Context Guard Fn :=
  let shared := (state.addWork context 1).enqueue context [op]
  if (setting.oneThread context || isContinuation) = true then
    match pushPrivate context op (state.stack thread) with
    | some stack => state.setStack thread stack
    | none => shared
  else shared

/-- `dispatch` of an executor: in place, when that is possible, what is given as `invoked`. -/
def dispatch (thread : Thread) (context : Context) (op : ExecutorOp Fn)
    (invoked : ExecutorState Thread Context Guard Fn) : ExecutorState Thread Context Guard Fn :=
  if context = setting.system ∨ Inside context (state.stack thread) then invoked
  else state.postImmediateCompletion setting thread context op false

/-- What an operation wraps is invoked: a `work_dispatcher` dispatches its function to the
associated executor. -/
def invoke (thread : Thread) : ExecutorOp Fn → ExecutorState Thread Context Guard Fn
  | .function fn => state.push thread (.calling fn)
  | .dispatcher fn =>
      let entered := state.push thread (.releasing fn)
      entered.dispatch setting thread (setting.associated fn) (.function fn)
        (entered.push thread (.calling fn))

/-- A function or `work_dispatcher` is given to an executor. -/
def give (thread : Thread) (how : Submission) (context : Context) (op : ExecutorOp Fn) :
    ExecutorState Thread Context Guard Fn :=
  match how with
  | .dispatch => state.dispatch setting thread context op (state.invoke setting thread op)
  | .post => state.postImmediateCompletion setting thread context op false
  | .defer => state.postImmediateCompletion setting thread context op true

/-- The free functions. With an executor the function goes there in a `work_dispatcher`, and
without one to its associated executor. -/
def submit (thread : Thread) (how : Submission) (through : Option Context) (fn : Fn) :
    ExecutorState Thread Context Guard Fn :=
  let noted := { state with submitted := state.submitted ++ [fn] }
  match through with
  | none => noted.give setting thread how (setting.associated fn) (.function fn)
  | some context =>
      (noted.onWorkStarted setting (setting.associated fn)).give setting thread how context
        (.dispatcher fn)

/-- The destructor of `work_cleanup`. -/
def workCleanup (thread : Thread) (context : Context) (info : RunInfo Fn)
    (outer : List (Frame Context Fn)) : ExecutorState Thread Context Guard Fn :=
  let counted :=
    if 1 < info.privateOutstandingWork then
      state.addWork context (info.privateOutstandingWork - 1)
    else if info.privateOutstandingWork < 1 then state.workFinished context
    else state
  (counted.enqueue context info.privateOpQueue).setStack thread
    (.running context ⟨[], 0, false⟩ :: outer)

/-- An operation is destroyed without its function being called; so is the guard of a
`work_dispatcher`. -/
def destroy (context : Context) (op : ExecutorOp Fn) : ExecutorState Thread Context Guard Fn :=
  let dropped :=
    { state with
      destroyed := Function.update state.destroyed context (state.destroyed context ++ [op.fn]) }
  match op with
  | .function _ => dropped
  | .dispatcher fn => dropped.onWorkFinished setting (setting.associated fn)

/-- A work guard is constructed, or its destructor ends it. -/
def setGuard (guard : Guard) (object : Option (WorkGuard Context)) :
    ExecutorState Thread Context Guard Fn :=
  { state with
    guards := Function.update state.guards guard object }

/-- One step. A thread acts from the user's code, but for its way through the calls it is in; it
leaves the run of a scheduler when no operation completes there. -/
def step : ExecutorAction Thread Context Guard Fn → Option (ExecutorState Thread Context Guard Fn)
  | .submit thread how through fn =>
      if userCode (state.stack thread) = true ∧ fn ∉ state.submitted then
        some (state.submit setting thread how through fn)
      else none
  | .beginRun thread context =>
      if userCode (state.stack thread) = true then
        if state.outstandingWork context = 0 then
          some { state with stopped := Function.update state.stopped context true }
        else some (state.push thread (.running context ⟨[], 0, false⟩))
      else none
  | .runOne thread =>
      match state.stack thread with
      | .running context info :: outer =>
          match state.opQueue context with
          | op :: ops =>
              if state.stopped context = false ∧ info.completing = false then
                some (({ state with
                  opQueue := Function.update state.opQueue context ops }.setStack thread
                    (.running context { info with completing := true } :: outer)).invoke
                      setting thread op)
              else none
          | [] => none
      | _ => none
  | .finish thread =>
      match state.stack thread with
      | .calling fn :: outer =>
          some { state.setStack thread outer with called := state.called ++ [fn] }
      | .releasing fn :: outer =>
          some ((state.setStack thread outer).onWorkFinished setting (setting.associated fn))
      | .running context info :: outer =>
          if info.completing = true then some (state.workCleanup thread context info outer)
          else none
      | [] => none
  | .endRun thread =>
      match state.stack thread with
      | .running context info :: outer =>
          if info.completing = false then
            some (info.privateOpQueue.foldl (fun left op => left.destroy setting context op)
              (state.setStack thread outer))
          else none
      | _ => none
  | .makeGuard guard context =>
      match state.guards guard with
      | none => some ((state.onWorkStarted setting context).setGuard guard (some ⟨context, true⟩))
      | some _ => none
  | .copyGuard guard other =>
      match state.guards guard, state.guards other with
      | none, some object =>
          some ((if object.owns = true then state.onWorkStarted setting object.executor
            else state).setGuard guard (some object))
      | _, _ => none
  | .moveGuard guard other =>
      match state.guards guard, state.guards other with
      | none, some object =>
          some ((state.setGuard guard (some object)).setGuard other
            (some { object with owns := false }))
      | _, _ => none
  | .resetGuard guard =>
      match state.guards guard with
      | some object =>
          some ((if object.owns = true then state.onWorkFinished setting object.executor
            else state).setGuard guard (some { object with owns := false }))
      | none => none
  | .destroyGuard guard =>
      match state.guards guard with
      | some object =>
          some ((if object.owns = true then state.onWorkFinished setting object.executor
            else state).setGuard guard none)
      | none => none
  | .stop context => some { state with stopped := Function.update state.stopped context true }
  | .restart context => some { state with stopped := Function.update state.stopped context false }
  | .shutdown context =>
      some { state with shutdown := Function.update state.shutdown context true }
  | .destroyFront context =>
      match state.opQueue context with
      | op :: ops =>
          if state.shutdown context = true then
            some ({ state with
              opQueue := Function.update state.opQueue context ops }.destroy setting context op)
          else none
      | [] => none

end Functions

end ExecutorState

/-- The machine whose actions are the calls of the threads. -/
def executorCalls {Thread Context Guard Fn : Type*} [DecidableEq Thread] [DecidableEq Context]
    [DecidableEq Guard] [DecidableEq Fn] (setting : ExecutorSetting Context Fn) :
    Transition.Machine (ExecutorState Thread Context Guard Fn)
      (ExecutorAction Thread Context Guard Fn) where
  initial state := state = .new setting
  step state action := state.step setting action

end Asio.Core
