import Asio.Core.WorkDispatcherOrder
import Asio.Lib.FamilySum
import Mathlib.Algebra.BigOperators.Group.List.Basic
import Mathlib.Tactic.Abel
import Mathlib.Tactic.Linarith

/-! # The work of the contexts

The outstanding work of a context is what waits in its queue, what completes in its runs, and what
the guards on its executor own, wherever the `work_dispatcher` of such a guard is at the time. So
the context does not stop by itself while a function that has to come back to it is under way.
-/

namespace Asio.Core

variable {Thread Context Guard Fn : Type*}

/-! ## What the operations count for -/

section Weights

variable [DecidableEq Context] (setting : ExecutorSetting Context Fn) (context : Context)

/-- What `on_work_started` of an executor counts for a context. -/
def ExecutorSetting.counts (executor : Context) : Nat :=
  if executor = context ∧ context ≠ setting.system then 1 else 0

/-- What the guard in an operation counts. -/
def ExecutorOp.carries : ExecutorOp Fn → Nat
  | .function _ => 0
  | .dispatcher fn => setting.counts context (setting.associated fn)

def opsWeight (ops : List (ExecutorOp Fn)) : Nat :=
  (ops.map (ExecutorOp.carries setting context)).sum

/-- The operation that completes in a run, and the guards in the private queue or of a
`work_dispatcher` on the stack. -/
def Frame.weight : Frame Context Fn → Nat
  | .running other info =>
      (if other = context ∧ info.completing = true then 1 else 0) +
        opsWeight setting context info.privateOpQueue
  | .releasing fn => setting.counts context (setting.associated fn)
  | .calling _ => 0

def stackWeight (stack : List (Frame Context Fn)) : Nat :=
  (stack.map (Frame.weight setting context)).sum

def guardWeight : Option (WorkGuard Context) → Nat
  | some guard => if guard.owns = true then setting.counts context guard.executor else 0
  | none => 0

@[simp] theorem opsWeight_nil : opsWeight setting context [] = 0 := rfl

@[simp] theorem opsWeight_cons (op : ExecutorOp Fn) (ops : List (ExecutorOp Fn)) :
    opsWeight setting context (op :: ops) =
      op.carries setting context + opsWeight setting context ops := by
  simp [opsWeight]

@[simp] theorem opsWeight_append (ops others : List (ExecutorOp Fn)) :
    opsWeight setting context (ops ++ others) =
      opsWeight setting context ops + opsWeight setting context others := by
  simp [opsWeight]

@[simp] theorem stackWeight_cons (frame : Frame Context Fn) (outer : List (Frame Context Fn)) :
    stackWeight setting context (frame :: outer) =
      frame.weight setting context + stackWeight setting context outer := by
  simp [stackWeight]

theorem stackWeight_pushPrivate {running : Context} {op : ExecutorOp Fn}
    {stack pushed : List (Frame Context Fn)} (took : pushPrivate running op stack = some pushed) :
    stackWeight setting context pushed =
      stackWeight setting context stack + op.carries setting context := by
  induction stack generalizing pushed with
  | nil => cases took
  | cons frame outer ih =>
      cases frame with
      | running other info =>
          simp only [pushPrivate] at took
          split at took
          · cases took
            simp [Frame.weight]
            omega
          · obtain ⟨rest, inner, rfl⟩ := Option.map_eq_some_iff.mp took
            simp only [stackWeight_cons, ih inner]
            omega
      | releasing fn =>
          obtain ⟨rest, inner, rfl⟩ := Option.map_eq_some_iff.mp took
          simp only [stackWeight_cons, ih inner]
          omega
      | calling fn =>
          obtain ⟨rest, inner, rfl⟩ := Option.map_eq_some_iff.mp took
          simp only [stackWeight_cons, ih inner]
          omega

end Weights

namespace ExecutorState

section Surplus

variable [Fintype Thread] [Fintype Context] [Fintype Guard] [DecidableEq Context]
  (setting : ExecutorSetting Context Fn) (state : ExecutorState Thread Context Guard Fn)

/-- What there is to account for the outstanding work of a context. The operations that it
destroyed are not subtracted any more. -/
def debt (context : Context) : Nat :=
  (state.opQueue context).length + ∑ c, opsWeight setting context (state.opQueue c) +
    ∑ t, stackWeight setting context (state.stack t) +
    ∑ g, guardWeight setting context (state.guards g) + (state.destroyed context).length

/-- The outstanding work of a context that nothing accounts for. -/
def surplus (context : Context) : Int :=
  state.outstandingWork context - state.debt setting context

variable {setting state}

theorem surplus_congr {next : ExecutorState Thread Context Guard Fn}
    (work : next.outstandingWork = state.outstandingWork) (queues : next.opQueue = state.opQueue)
    (calls : next.stack = state.stack) (guards : next.guards = state.guards)
    (destroyed : next.destroyed = state.destroyed) (context : Context) :
    next.surplus setting context = state.surplus setting context := by
  unfold surplus debt
  rw [work, queues, calls, guards, destroyed]

theorem surplus_addWork (other context : Context) (units : Int) :
    (state.addWork other units).surplus setting context =
      state.surplus setting context + if other = context then units else 0 := by
  unfold surplus
  by_cases same : other = context
  · subst same
    simp only [addWork, debt, Function.update_self, if_true]
    omega
  · simp only [addWork, debt, Function.update_of_ne (Ne.symm same), if_neg same]
    omega

theorem surplus_workFinished (other context : Context) :
    (state.workFinished other).surplus setting context =
      state.surplus setting context - if other = context then 1 else 0 := by
  have same : (state.workFinished other).surplus setting context =
      (state.addWork other (-1)).surplus setting context := by
    unfold workFinished
    dsimp only
    split
    · exact surplus_congr rfl rfl rfl rfl rfl context
    · rfl
  rw [same, surplus_addWork]
  split
  · rfl
  · omega

theorem surplus_onWorkStarted (executor context : Context) :
    (state.onWorkStarted setting executor).surplus setting context =
      state.surplus setting context + setting.counts context executor := by
  unfold onWorkStarted ExecutorSetting.counts
  by_cases system : executor = setting.system
  · rw [if_pos system, if_neg fun both => both.2 (both.1 ▸ system)]
    exact (add_zero _).symm
  · rw [if_neg system, surplus_addWork]
    by_cases same : executor = context
    · rw [if_pos same, if_pos ⟨same, same ▸ system⟩]
      rfl
    · rw [if_neg same, if_neg fun both => same both.1]
      rfl

theorem surplus_onWorkFinished (executor context : Context) :
    (state.onWorkFinished setting executor).surplus setting context =
      state.surplus setting context - setting.counts context executor := by
  unfold onWorkFinished ExecutorSetting.counts
  by_cases system : executor = setting.system
  · rw [if_pos system, if_neg fun both => both.2 (both.1 ▸ system)]
    exact (sub_zero _).symm
  · rw [if_neg system, surplus_workFinished]
    by_cases same : executor = context
    · rw [if_pos same, if_pos ⟨same, same ▸ system⟩]
      rfl
    · rw [if_neg same, if_neg fun both => same both.1]
      rfl

theorem surplus_setQueue (other context : Context) (ops : List (ExecutorOp Fn)) :
    ({ state with opQueue := Function.update state.opQueue other ops } :
        ExecutorState Thread Context Guard Fn).surplus setting context =
      state.surplus setting context + opsWeight setting context (state.opQueue other) -
        opsWeight setting context ops +
        if other = context then ((state.opQueue other).length : Int) - ops.length else 0 := by
  have total := FamilySum.sum_update_add (opsWeight setting context) state.opQueue other ops
  unfold surplus debt
  by_cases same : other = context
  · subst same
    dsimp only
    rw [if_pos rfl, Function.update_self]
    omega
  · dsimp only
    rw [if_neg same, Function.update_of_ne (Ne.symm same)]
    omega

theorem surplus_enqueue (other context : Context) (ops : List (ExecutorOp Fn)) :
    (state.enqueue other ops).surplus setting context =
      state.surplus setting context - opsWeight setting context ops -
        if other = context then (ops.length : Int) else 0 := by
  have same : state.enqueue other ops = { state with
      opQueue := Function.update state.opQueue other (state.opQueue other ++ ops) } := rfl
  rw [same, surplus_setQueue, opsWeight_append, List.length_append]
  split
  · push_cast
    omega
  · push_cast
    omega

/-- A destroyed operation keeps its unit of work, but not its guard. -/
theorem surplus_destroy (other context : Context) (op : ExecutorOp Fn) :
    (state.destroy setting other op).surplus setting context =
      state.surplus setting context - op.carries setting context -
        if other = context then 1 else 0 := by
  have dropped : ({ state with
      destroyed := Function.update state.destroyed other (state.destroyed other ++ [op.fn]) } :
        ExecutorState Thread Context Guard Fn).surplus setting context =
      state.surplus setting context - if other = context then 1 else 0 := by
    unfold surplus debt
    by_cases same : other = context
    · subst same
      dsimp only
      rw [Function.update_self, if_pos rfl, List.length_append, List.length_singleton]
      omega
    · dsimp only
      rw [Function.update_of_ne (Ne.symm same), if_neg same]
      omega
  unfold destroy
  cases op with
  | function fn =>
      dsimp only
      rw [dropped]
      exact congrArg (· - _) (sub_zero _).symm
  | dispatcher fn =>
      dsimp only
      rw [surplus_onWorkFinished, dropped]
      exact sub_right_comm _ _ _

theorem surplus_setGuard [DecidableEq Guard] (guard : Guard) (object : Option (WorkGuard Context))
    (context : Context) :
    (state.setGuard guard object).surplus setting context =
      state.surplus setting context + guardWeight setting context (state.guards guard) -
        guardWeight setting context object := by
  have total := FamilySum.sum_update_add (guardWeight setting context) state.guards guard object
  unfold surplus debt
  dsimp only [setGuard]
  omega

theorem surplus_setGuard_owned [DecidableEq Guard] {counted : ExecutorState Thread Context Guard Fn}
    {guard : Guard} {object : Option (WorkGuard Context)} {context : Context}
    (count : counted.surplus setting context + guardWeight setting context (counted.guards guard) =
      state.surplus setting context + guardWeight setting context object) :
    (counted.setGuard guard object).surplus setting context = state.surplus setting context := by
  rw [surplus_setGuard]
  omega

/-- The work that a guard owned is finished. -/
theorem surplus_endGuard [DecidableEq Guard] {guard : Guard} {object : WorkGuard Context}
    (found : state.guards guard = some object) {left : Option (WorkGuard Context)}
    {context : Context} (nothing : guardWeight setting context left = 0) :
    ((if object.owns = true then state.onWorkFinished setting object.executor
      else state).setGuard guard left).surplus setting context = state.surplus setting context := by
  apply surplus_setGuard_owned
  rw [nothing]
  by_cases owns : object.owns = true
  · obtain ⟨work, stopped, same⟩ :=
      @recounts_onWorkFinished _ _ _ _ setting state _ object.executor
    have guards : (state.onWorkFinished setting object.executor).guards guard = some object := by
      rw [same]
      exact found
    rw [if_pos owns, guards, surplus_onWorkFinished]
    simp [guardWeight, owns]
  · rw [if_neg owns, found]
    simp [guardWeight, owns]

variable [DecidableEq Thread]

theorem surplus_setStack (thread : Thread) (stack : List (Frame Context Fn)) (context : Context) :
    (state.setStack thread stack).surplus setting context =
      state.surplus setting context + stackWeight setting context (state.stack thread) -
        stackWeight setting context stack := by
  have total := FamilySum.sum_update_add (stackWeight setting context) state.stack thread stack
  unfold surplus debt
  dsimp only [setStack]
  omega

theorem surplus_push (thread : Thread) (frame : Frame Context Fn) (context : Context) :
    (state.push thread frame).surplus setting context =
      state.surplus setting context - frame.weight setting context := by
  have same : state.push thread frame = state.setStack thread (frame :: state.stack thread) := rfl
  rw [same, surplus_setStack, stackWeight_cons]
  omega

/-- An operation that is posted takes its own unit of work along, and a guard with it. -/
theorem surplus_postImmediateCompletion (thread : Thread) (other context : Context)
    (op : ExecutorOp Fn) (isContinuation : Bool) :
    (state.postImmediateCompletion setting thread other op isContinuation).surplus setting context =
      state.surplus setting context - op.carries setting context := by
  have shared : ((state.addWork other 1).enqueue other [op]).surplus setting context =
      state.surplus setting context - op.carries setting context := by
    rw [surplus_enqueue, surplus_addWork]
    simp only [opsWeight_cons, opsWeight_nil, List.length_singleton]
    split
    · push_cast
      omega
    · push_cast
      omega
  unfold postImmediateCompletion
  dsimp only
  split
  · split
    · rename_i stack took
      rw [surplus_setStack, stackWeight_pushPrivate setting context took]
      omega
    · exact shared
  · exact shared

theorem surplus_dispatch {invoked : ExecutorState Thread Context Guard Fn} {context : Context}
    {op : ExecutorOp Fn} (thread : Thread) (other : Context)
    (inPlace : invoked.surplus setting context =
      state.surplus setting context - op.carries setting context) :
    (state.dispatch setting thread other op invoked).surplus setting context =
      state.surplus setting context - op.carries setting context := by
  unfold dispatch
  split
  · exact inPlace
  · exact surplus_postImmediateCompletion thread other context op false

theorem surplus_invoke (thread : Thread) (op : ExecutorOp Fn) (context : Context) :
    (state.invoke setting thread op).surplus setting context =
      state.surplus setting context - op.carries setting context := by
  cases op with
  | function fn => exact surplus_push thread (.calling fn) context
  | dispatcher fn =>
      unfold invoke
      rw [surplus_dispatch, surplus_push]
      · exact sub_zero _
      · exact surplus_push thread (.calling fn) context

theorem surplus_give (thread : Thread) (how : Submission) (other : Context) (op : ExecutorOp Fn)
    (context : Context) :
    (state.give setting thread how other op).surplus setting context =
      state.surplus setting context - op.carries setting context := by
  cases how with
  | dispatch => exact surplus_dispatch thread other (surplus_invoke thread op context)
  | post => exact surplus_postImmediateCompletion thread other context op false
  | defer => exact surplus_postImmediateCompletion thread other context op true

theorem surplus_submit [DecidableEq Fn] (thread : Thread) (how : Submission)
    (through : Option Context) (fn : Fn) (context : Context) :
    (state.submit setting thread how through fn).surplus setting context =
      state.surplus setting context := by
  have noted : ({ state with submitted := state.submitted ++ [fn] } :
      ExecutorState Thread Context Guard Fn).surplus setting context =
        state.surplus setting context := surplus_congr rfl rfl rfl rfl rfl context
  cases through with
  | none =>
      unfold submit
      dsimp only
      rw [surplus_give, noted]
      exact sub_zero _
  | some other =>
      unfold submit
      dsimp only
      rw [surplus_give, surplus_onWorkStarted, noted]
      simp only [ExecutorOp.carries]
      omega

/-- The destructor of `work_cleanup` settles the work of the operation that has completed and of
those that were posted meanwhile. -/
theorem surplus_workCleanup {thread : Thread} {running : Context} {info : RunInfo Fn}
    {outer : List (Frame Context Fn)} (inside : state.stack thread = .running running info :: outer)
    (counted : info.privateOutstandingWork = info.privateOpQueue.length)
    (completing : info.completing = true) (context : Context) :
    (state.workCleanup thread running info outer).surplus setting context =
      state.surplus setting context := by
  unfold workCleanup
  rw [surplus_setStack, surplus_enqueue]
  have count : (if 1 < info.privateOutstandingWork then
        state.addWork running (info.privateOutstandingWork - 1)
      else if info.privateOutstandingWork < 1 then state.workFinished running
      else state).surplus setting context = state.surplus setting context +
        if running = context then (info.privateOpQueue.length : Int) - 1 else 0 := by
    rw [counted]
    split
    · exact surplus_addWork running context _
    · split
      · rw [surplus_workFinished]
        split
        · omega
        · omega
      · have one : info.privateOpQueue.length = 1 := by omega
        rw [one]
        split
        · exact (add_zero _).symm
        · exact (add_zero _).symm
  obtain ⟨work, stopped, same⟩ :=
    @recounts_workCleanup _ _ _ _ state _ running info.privateOutstandingWork
  have stack : ((if 1 < info.privateOutstandingWork then
        state.addWork running (info.privateOutstandingWork - 1)
      else if info.privateOutstandingWork < 1 then state.workFinished running
      else state).enqueue running info.privateOpQueue).stack thread =
        .running running info :: outer := by
    rw [same]
    exact inside
  rw [count, stack]
  simp only [stackWeight_cons, Frame.weight, completing, opsWeight_nil]
  by_cases same : running = context
  · simp only [same, if_true, and_true, Bool.false_eq_true, and_false, if_false]
    omega
  · simp only [same, if_false, false_and]
    omega

/-- **No step leaves work unaccounted for.** -/
theorem surplus_step [DecidableEq Guard] [DecidableEq Fn] (orderly : state.Orderly setting)
    {action : ExecutorAction Thread Context Guard Fn}
    {next : ExecutorState Thread Context Guard Fn} (steps : state.Steps setting action next)
    (context : Context) : next.surplus setting context = state.surplus setting context := by
  cases steps with
  | submit how through _ _ => exact surplus_submit _ how through _ context
  | noWork _ => exact surplus_congr rfl rfl rfl rfl rfl context
  | beginRun running _ =>
      rw [surplus_push]
      simp [Frame.weight]
  | @runOne thread running info outer op ops inside waiting _ idle =>
      rw [surplus_invoke, surplus_setStack, surplus_setQueue, inside, waiting]
      simp only [stackWeight_cons, Frame.weight, idle, opsWeight_cons, List.length_cons]
      by_cases same : running = context
      · simp only [same, if_true, and_true, Bool.false_eq_true, and_false, if_false]
        push_cast
        omega
      · simp only [same, if_false, false_and]
        push_cast
        omega
  | @called thread fn outer inside =>
      have left : ({ state.setStack thread outer with called := state.called ++ [fn] } :
          ExecutorState Thread Context Guard Fn).surplus setting context =
            (state.setStack thread outer).surplus setting context :=
        surplus_congr rfl rfl rfl rfl rfl context
      rw [left, surplus_setStack, inside, stackWeight_cons]
      simp [Frame.weight]
  | @released thread fn outer inside =>
      rw [surplus_onWorkFinished, surplus_setStack, inside, stackWeight_cons]
      simp only [Frame.weight]
      omega
  | @cleaned thread running info outer inside completing =>
      have proper := orderly.calls thread
      rw [inside] at proper
      exact surplus_workCleanup inside proper.1.counted completing context
  | @endRun thread running info outer inside idle =>
      have proper := orderly.calls thread
      rw [inside] at proper
      have empty := proper.1.idle idle
      rw [empty, List.foldl_nil, surplus_setStack, inside, stackWeight_cons]
      simp [Frame.weight, idle, empty]
  | @makeGuard guard executor absent =>
      apply surplus_setGuard_owned
      obtain ⟨work, stopped, same⟩ := @recounts_onWorkStarted _ _ _ _ setting state _ executor
      have guards : (state.onWorkStarted setting executor).guards guard = none := by
        rw [same]
        exact absent
      rw [guards, surplus_onWorkStarted]
      simp [guardWeight]
  | @copyGuard guard other object absent found =>
      apply surplus_setGuard_owned
      by_cases owns : object.owns = true
      · obtain ⟨work, stopped, same⟩ :=
          @recounts_onWorkStarted _ _ _ _ setting state _ object.executor
        have guards : (state.onWorkStarted setting object.executor).guards guard = none := by
          rw [same]
          exact absent
        rw [if_pos owns, guards, surplus_onWorkStarted]
        simp [guardWeight, owns]
      · rw [if_neg owns, absent]
        simp [guardWeight, owns]
  | @moveGuard guard other object absent found =>
      have apart : other ≠ guard := by
        intro same
        rw [same, absent] at found
        cases found
      apply surplus_setGuard_owned
      have stays : (state.setGuard guard (some object)).guards other = some object :=
        (Function.update_of_ne apart _ _).trans found
      rw [surplus_setGuard, absent, stays]
      simp only [guardWeight, Bool.false_eq_true, if_false]
      omega
  | resetGuard found =>
      apply surplus_endGuard found
      rfl
  | destroyGuard found =>
      apply surplus_endGuard found
      rfl
  | stop _ => exact surplus_congr rfl rfl rfl rfl rfl context
  | restart _ => exact surplus_congr rfl rfl rfl rfl rfl context
  | shutdown _ => exact surplus_congr rfl rfl rfl rfl rfl context
  | @destroyFront running op ops waiting =>
      rw [surplus_destroy, surplus_setQueue, waiting, opsWeight_cons, List.length_cons]
      split
      · push_cast
        omega
      · push_cast
        omega

end Surplus

end ExecutorState

end Asio.Core
