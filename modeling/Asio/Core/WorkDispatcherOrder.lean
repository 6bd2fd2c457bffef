import Asio.Core.WorkDispatcher

/-! # The calls of the threads

What is on the stacks of the threads: a private queue is used while an operation completes, and a
function without a dispatcher waits at its associated executor and is called there.
-/

namespace Asio.Core

variable {Thread Context Guard Fn : Type*}

/-! ## What a step does -/

section Steps

variable [DecidableEq Thread] [DecidableEq Context] [DecidableEq Guard] [DecidableEq Fn]
  (setting : ExecutorSetting Context Fn) (state : ExecutorState Thread Context Guard Fn)

/-- The steps from a state, one by one. -/
inductive ExecutorState.Steps :
    ExecutorAction Thread Context Guard Fn → ExecutorState Thread Context Guard Fn → Prop where
  | submit {thread : Thread} (how : Submission) (through : Option Context) {fn : Fn} :
      userCode (state.stack thread) = true → fn ∉ state.submitted →
      Steps (.submit thread how through fn) (state.submit setting thread how through fn)
  | noWork {thread : Thread} {context : Context} : state.outstandingWork context = 0 →
      Steps (.beginRun thread context)
        { state with stopped := Function.update state.stopped context true }
  | beginRun {thread : Thread} (context : Context) : userCode (state.stack thread) = true →
      Steps (.beginRun thread context) (state.push thread (.running context ⟨[], 0, false⟩))
  | runOne {thread : Thread} {context : Context} {info : RunInfo Fn}
      {outer : List (Frame Context Fn)} {op : ExecutorOp Fn} {ops : List (ExecutorOp Fn)} :
      state.stack thread = .running context info :: outer → state.opQueue context = op :: ops →
      state.stopped context = false → info.completing = false →
      Steps (.runOne thread)
        (({ state with opQueue := Function.update state.opQueue context ops }.setStack thread
          (.running context { info with completing := true } :: outer)).invoke setting thread op)
  | called {thread : Thread} {fn : Fn} {outer : List (Frame Context Fn)} :
      state.stack thread = .calling fn :: outer →
      Steps (.finish thread) { state.setStack thread outer with called := state.called ++ [fn] }
  | released {thread : Thread} {fn : Fn} {outer : List (Frame Context Fn)} :
      state.stack thread = .releasing fn :: outer →
      Steps (.finish thread)
        ((state.setStack thread outer).onWorkFinished setting (setting.associated fn))
  | cleaned {thread : Thread} {context : Context} {info : RunInfo Fn}
      {outer : List (Frame Context Fn)} :
      state.stack thread = .running context info :: outer → info.completing = true →
      Steps (.finish thread) (state.workCleanup thread context info outer)
  | endRun {thread : Thread} {context : Context} {info : RunInfo Fn}
      {outer : List (Frame Context Fn)} :
      state.stack thread = .running context info :: outer → info.completing = false →
      Steps (.endRun thread)
        (info.privateOpQueue.foldl (fun left op => left.destroy setting context op)
          (state.setStack thread outer))
  | makeGuard {guard : Guard} (context : Context) : state.guards guard = none →
      Steps (.makeGuard guard context)
        ((state.onWorkStarted setting context).setGuard guard (some ⟨context, true⟩))
  | copyGuard {guard other : Guard} {object : WorkGuard Context} :
      state.guards guard = none → state.guards other = some object →
      Steps (.copyGuard guard other)
        ((if object.owns = true then state.onWorkStarted setting object.executor
          else state).setGuard guard (some object))
  | moveGuard {guard other : Guard} {object : WorkGuard Context} :
      state.guards guard = none → state.guards other = some object →
      Steps (.moveGuard guard other)
        ((state.setGuard guard (some object)).setGuard other (some { object with owns := false }))
  | resetGuard {guard : Guard} {object : WorkGuard Context} : state.guards guard = some object →
      Steps (.resetGuard guard)
        ((if object.owns = true then state.onWorkFinished setting object.executor
          else state).setGuard guard (some { object with owns := false }))
  | destroyGuard {guard : Guard} {object : WorkGuard Context} :
      state.guards guard = some object →
      Steps (.destroyGuard guard)
        ((if object.owns = true then state.onWorkFinished setting object.executor
          else state).setGuard guard none)
  | stop (context : Context) :
      Steps (.stop context) { state with stopped := Function.update state.stopped context true }
  | restart (context : Context) :
      Steps (.restart context) { state with stopped := Function.update state.stopped context false }
  | shutdown (context : Context) :
      Steps (.shutdown context)
        { state with shutdown := Function.update state.shutdown context true }
  | destroyFront {context : Context} {op : ExecutorOp Fn} {ops : List (ExecutorOp Fn)} :
      state.opQueue context = op :: ops →
      Steps (.destroyFront context)
        ({ state with opQueue := Function.update state.opQueue context ops }.destroy
          setting context op)

variable {setting state}

theorem ExecutorState.steps_of_step {action : ExecutorAction Thread Context Guard Fn}
    {next : ExecutorState Thread Context Guard Fn}
    (stepped : state.step setting action = some next) : state.Steps setting action next := by
  cases action with
  | submit thread how through fn =>
      simp only [step, Option.ite_none_right_eq_some] at stepped
      obtain ⟨⟨user, fresh⟩, taken⟩ := stepped
      cases taken
      exact .submit how through user fresh
  | beginRun thread context =>
      simp only [step, Option.ite_none_right_eq_some] at stepped
      obtain ⟨user, taken⟩ := stepped
      split at taken
      · rename_i noWork
        cases taken
        exact .noWork noWork
      · cases taken
        exact .beginRun context user
  | runOne thread =>
      simp only [step] at stepped
      split at stepped
      · rename_i context info outer inside
        split at stepped
        · rename_i op ops waiting
          simp only [Option.ite_none_right_eq_some] at stepped
          obtain ⟨⟨going, idle⟩, taken⟩ := stepped
          cases taken
          exact .runOne inside waiting going idle
        · cases stepped
      · cases stepped
  | finish thread =>
      simp only [step] at stepped
      split at stepped
      · rename_i fn outer inside
        cases stepped
        exact .called inside
      · rename_i fn outer inside
        cases stepped
        exact .released inside
      · rename_i context info outer inside
        simp only [Option.ite_none_right_eq_some] at stepped
        obtain ⟨completing, taken⟩ := stepped
        cases taken
        exact .cleaned inside completing
      · cases stepped
  | endRun thread =>
      simp only [step] at stepped
      split at stepped
      · rename_i context info outer inside
        simp only [Option.ite_none_right_eq_some] at stepped
        obtain ⟨idle, taken⟩ := stepped
        cases taken
        exact .endRun inside idle
      · cases stepped
  | makeGuard guard context =>
      simp only [step] at stepped
      split at stepped
      · rename_i absent
        cases stepped
        exact .makeGuard context absent
      · cases stepped
  | copyGuard guard other =>
      simp only [step] at stepped
      split at stepped
      · rename_i object absent found
        cases stepped
        exact .copyGuard absent found
      · cases stepped
  | moveGuard guard other =>
      simp only [step] at stepped
      split at stepped
      · rename_i object absent found
        cases stepped
        exact .moveGuard absent found
      · cases stepped
  | resetGuard guard =>
      simp only [step] at stepped
      split at stepped
      · rename_i object found
        cases stepped
        exact .resetGuard found
      · cases stepped
  | destroyGuard guard =>
      simp only [step] at stepped
      split at stepped
      · rename_i object found
        cases stepped
        exact .destroyGuard found
      · cases stepped
  | stop context =>
      cases stepped
      exact .stop context
  | restart context =>
      cases stepped
      exact .restart context
  | shutdown context =>
      cases stepped
      exact .shutdown context
  | destroyFront context =>
      simp only [step] at stepped
      split at stepped
      · rename_i op ops waiting
        simp only [Option.ite_none_right_eq_some] at stepped
        obtain ⟨-, taken⟩ := stepped
        cases taken
        exact .destroyFront waiting
      · cases stepped

end Steps

/-! ## The calls of a thread -/

section Calls

variable (setting : ExecutorSetting Context Fn)

/-- A run of a scheduler. Its private queue is in use while an operation completes, and a function
without a dispatcher is in the queues of its associated executor's context. -/
structure RunInfo.Settled (context : Context) (info : RunInfo Fn) : Prop where
  counted : info.privateOutstandingWork = info.privateOpQueue.length
  idle : info.completing = false → info.privateOpQueue = []
  homed : ∀ fn, .function fn ∈ info.privateOpQueue → setting.associated fn = context

/-- A thread that may make a call: if the innermost is the run of a scheduler, an operation
completes there. -/
def Busy : List (Frame Context Fn) → Prop
  | .running _ info :: _ => info.completing = true
  | .releasing _ :: _ => True
  | .calling _ :: _ => True
  | [] => True

/-- The calls that a thread is inside of; a function is called where its associated executor
invokes it. -/
def Proper : List (Frame Context Fn) → Prop
  | [] => True
  | .running context info :: outer => info.Settled setting context ∧ Busy outer ∧ Proper outer
  | .releasing _ :: outer => Busy outer ∧ Proper outer
  | .calling fn :: outer =>
      (setting.associated fn = setting.system ∨ Inside (setting.associated fn) outer) ∧
        Busy outer ∧ Proper outer

variable {setting} {stack pushed : List (Frame Context Fn)}

theorem busy_of_userCode (user : userCode stack = true) : Busy stack := by
  cases stack with
  | nil => trivial
  | cons frame outer =>
      cases frame with
      | running context info => cases user
      | releasing fn => trivial
      | calling fn => trivial

variable [DecidableEq Context] {context : Context} {op : ExecutorOp Fn}

theorem contexts_pushPrivate (took : pushPrivate context op stack = some pushed) :
    pushed.filterMap Frame.context? = stack.filterMap Frame.context? := by
  induction stack generalizing pushed with
  | nil => cases took
  | cons frame outer ih =>
      cases frame with
      | running other info =>
          simp only [pushPrivate] at took
          split at took
          · cases took
            rfl
          · obtain ⟨rest, inner, rfl⟩ := Option.map_eq_some_iff.mp took
            exact congrArg (other :: ·) (ih inner)
      | releasing fn =>
          obtain ⟨rest, inner, rfl⟩ := Option.map_eq_some_iff.mp took
          exact @ih rest inner
      | calling fn =>
          obtain ⟨rest, inner, rfl⟩ := Option.map_eq_some_iff.mp took
          exact @ih rest inner

theorem inside_pushPrivate (took : pushPrivate context op stack = some pushed) (other : Context) :
    Inside other pushed ↔ Inside other stack := by
  unfold Inside
  rw [contexts_pushPrivate took]

theorem proper_pushPrivate (proper : Proper setting stack) (busy : Busy stack)
    (homed : ∀ fn, op = .function fn → setting.associated fn = context)
    (took : pushPrivate context op stack = some pushed) : Proper setting pushed ∧ Busy pushed := by
  induction stack generalizing pushed with
  | nil => cases took
  | cons frame outer ih =>
      cases frame with
      | running other info =>
          obtain ⟨settled, below, rest⟩ := proper
          simp only [pushPrivate] at took
          split at took
          · rename_i same
            subst same
            cases took
            refine ⟨⟨⟨?_, ?_, ?_⟩, below, rest⟩, busy⟩
            · simp [settled.counted]
            · intro idle
              exact absurd (busy.symm.trans idle) Bool.noConfusion
            · intro fn member
              rcases List.mem_append.mp member with before | last
              · exact settled.homed fn before
              · exact homed fn (List.mem_singleton.mp last).symm
          · obtain ⟨inner, pushes, rfl⟩ := Option.map_eq_some_iff.mp took
            have kept := ih rest below pushes
            exact ⟨⟨settled, kept.2, kept.1⟩, busy⟩
      | releasing fn =>
          obtain ⟨inner, pushes, rfl⟩ := Option.map_eq_some_iff.mp took
          have kept := ih proper.2 proper.1 pushes
          exact ⟨⟨kept.2, kept.1⟩, trivial⟩
      | calling fn =>
          obtain ⟨inner, pushes, rfl⟩ := Option.map_eq_some_iff.mp took
          have kept := ih proper.2.2 proper.2.1 pushes
          refine ⟨⟨proper.1.imp_right ?_, kept.2, kept.1⟩, trivial⟩
          exact (inside_pushPrivate pushes _).mpr

end Calls

namespace ExecutorState

section Orderly

variable {setting : ExecutorSetting Context Fn}
  {state next invoked : ExecutorState Thread Context Guard Fn}

/-- The calls of all threads, and the queues. -/
structure Orderly (setting : ExecutorSetting Context Fn)
    (state : ExecutorState Thread Context Guard Fn) : Prop where
  calls : ∀ thread, Proper setting (state.stack thread)
  homed : ∀ context fn, .function fn ∈ state.opQueue context → setting.associated fn = context

/-- Only the work is counted anew, and a scheduler stopped perhaps. -/
def Recounts (state next : ExecutorState Thread Context Guard Fn) : Prop :=
  ∃ work stopped, next = { state with outstandingWork := work, stopped := stopped }

theorem Orderly.recounts (orderly : state.Orderly setting) (recounts : state.Recounts next) :
    next.Orderly setting := by
  obtain ⟨work, stopped, rfl⟩ := recounts
  exact ⟨orderly.calls, orderly.homed⟩

theorem Orderly.setGuard [DecidableEq Guard] (orderly : state.Orderly setting) (guard : Guard)
    (object : Option (WorkGuard Context)) : (state.setGuard guard object).Orderly setting :=
  ⟨orderly.calls, orderly.homed⟩

section Counting

variable [DecidableEq Context] (context : Context)

theorem recounts_workFinished : state.Recounts (state.workFinished context) := by
  unfold workFinished
  dsimp only
  split
  · exact ⟨_, _, rfl⟩
  · exact ⟨_, _, rfl⟩

theorem recounts_onWorkStarted : state.Recounts (state.onWorkStarted setting context) := by
  unfold onWorkStarted
  split
  · exact ⟨_, _, rfl⟩
  · exact ⟨_, _, rfl⟩

theorem recounts_onWorkFinished : state.Recounts (state.onWorkFinished setting context) := by
  unfold onWorkFinished
  split
  · exact ⟨_, _, rfl⟩
  · exact recounts_workFinished context

theorem Orderly.enqueue (orderly : state.Orderly setting) {context : Context}
    {ops : List (ExecutorOp Fn)}
    (homed : ∀ fn, .function fn ∈ ops → setting.associated fn = context) :
    (state.enqueue context ops).Orderly setting where
  calls := orderly.calls
  homed other fn member := by
    dsimp only [ExecutorState.enqueue] at member
    by_cases same : other = context
    · subst same
      rw [Function.update_self] at member
      rcases List.mem_append.mp member with before | new
      · exact orderly.homed other fn before
      · exact homed fn new
    · rw [Function.update_of_ne same] at member
      exact orderly.homed other fn member

theorem Orderly.dequeue (orderly : state.Orderly setting) {context : Context} {op : ExecutorOp Fn}
    {ops : List (ExecutorOp Fn)} (waiting : state.opQueue context = op :: ops) :
    ({ state with opQueue := Function.update state.opQueue context ops } :
      ExecutorState Thread Context Guard Fn).Orderly setting where
  calls := orderly.calls
  homed other fn member := by
    dsimp only at member
    by_cases same : other = context
    · subst same
      rw [Function.update_self] at member
      exact orderly.homed other fn (waiting ▸ List.mem_cons_of_mem op member)
    · rw [Function.update_of_ne same] at member
      exact orderly.homed other fn member

theorem Orderly.destroy (orderly : state.Orderly setting) (context : Context)
    (op : ExecutorOp Fn) : (state.destroy setting context op).Orderly setting := by
  have dropped : ({ state with
      destroyed := Function.update state.destroyed context (state.destroyed context ++ [op.fn]) } :
        ExecutorState Thread Context Guard Fn).Orderly setting := ⟨orderly.calls, orderly.homed⟩
  unfold ExecutorState.destroy
  cases op with
  | function fn => exact dropped
  | dispatcher fn => exact dropped.recounts (recounts_onWorkFinished _)

theorem recounts_workCleanup (context : Context) (units : Nat) :
    state.Recounts
      (if 1 < units then state.addWork context (units - 1)
      else if units < 1 then state.workFinished context
      else state) := by
  split
  · exact ⟨_, _, rfl⟩
  · split
    · exact recounts_workFinished context
    · exact ⟨_, _, rfl⟩

end Counting

variable [DecidableEq Thread]

theorem Orderly.setStack (orderly : state.Orderly setting) (thread : Thread)
    {stack : List (Frame Context Fn)} (proper : Proper setting stack) :
    (state.setStack thread stack).Orderly setting where
  calls other := by
    by_cases same : other = thread
    · subst same
      dsimp only [ExecutorState.setStack]
      rwa [Function.update_self]
    · dsimp only [ExecutorState.setStack]
      rw [Function.update_of_ne same]
      exact orderly.calls other
  homed := orderly.homed

theorem Orderly.push (orderly : state.Orderly setting) {thread : Thread} {frame : Frame Context Fn}
    (proper : Proper setting (frame :: state.stack thread)) :
    (state.push thread frame).Orderly setting :=
  orderly.setStack thread proper

variable [DecidableEq Context]

theorem Orderly.post {thread : Thread} {context : Context} {op : ExecutorOp Fn}
    (orderly : state.Orderly setting) (busy : Busy (state.stack thread))
    (homed : ∀ fn, op = .function fn → setting.associated fn = context) (isContinuation : Bool) :
    (state.postImmediateCompletion setting thread context op isContinuation).Orderly setting := by
  have counted : (state.addWork context 1).Orderly setting := orderly.recounts ⟨_, _, rfl⟩
  have shared : ((state.addWork context 1).enqueue context [op]).Orderly setting :=
    counted.enqueue fun fn member => homed fn (List.mem_singleton.mp member).symm
  unfold postImmediateCompletion
  dsimp only
  split
  · split
    · rename_i stack took
      exact orderly.setStack thread (proper_pushPrivate (orderly.calls thread) busy homed took).1
    · exact shared
  · exact shared

theorem Orderly.dispatch {thread : Thread} {context : Context} {op : ExecutorOp Fn}
    (orderly : state.Orderly setting) (busy : Busy (state.stack thread))
    (homed : ∀ fn, op = .function fn → setting.associated fn = context)
    (inPlace : context = setting.system ∨ Inside context (state.stack thread) →
      invoked.Orderly setting) :
    (state.dispatch setting thread context op invoked).Orderly setting := by
  unfold ExecutorState.dispatch
  split
  · rename_i here
    exact inPlace here
  · exact orderly.post busy homed false

/-- An operation is invoked where its function's executor is, unless it is a dispatcher, which sees
to that. -/
theorem Orderly.invoke {thread : Thread} {op : ExecutorOp Fn} (orderly : state.Orderly setting)
    (busy : Busy (state.stack thread))
    (here : ∀ fn, op = .function fn → setting.associated fn = setting.system ∨
      Inside (setting.associated fn) (state.stack thread)) :
    (state.invoke setting thread op).Orderly setting := by
  have proper := orderly.calls thread
  cases op with
  | function fn => exact orderly.push ⟨here fn rfl, busy, proper⟩
  | dispatcher fn =>
      have releasing : Proper setting (.releasing fn :: state.stack thread) := ⟨busy, proper⟩
      have entered := orderly.push releasing
      have stack : (state.push thread (.releasing fn)).stack thread =
          .releasing fn :: state.stack thread := Function.update_self _ _ _
      apply entered.dispatch
      · rw [stack]
        trivial
      · intro other same
        cases same
        rfl
      · intro inPlace
        apply entered.push
        rw [stack] at inPlace ⊢
        exact ⟨inPlace, trivial, releasing⟩

theorem Orderly.give {thread : Thread} {how : Submission} {context : Context} {op : ExecutorOp Fn}
    (orderly : state.Orderly setting) (busy : Busy (state.stack thread))
    (homed : ∀ fn, op = .function fn → setting.associated fn = context) :
    (state.give setting thread how context op).Orderly setting := by
  cases how with
  | dispatch =>
      apply orderly.dispatch busy homed
      intro here
      apply orderly.invoke busy
      intro fn same
      rw [homed fn same]
      exact here
  | post => exact orderly.post busy homed false
  | defer => exact orderly.post busy homed true

theorem Orderly.submit [DecidableEq Fn] (orderly : state.Orderly setting) {thread : Thread}
    (user : userCode (state.stack thread) = true) (how : Submission) (through : Option Context)
    (fn : Fn) : (state.submit setting thread how through fn).Orderly setting := by
  have noted : ({ state with submitted := state.submitted ++ [fn] } :
      ExecutorState Thread Context Guard Fn).Orderly setting := ⟨orderly.calls, orderly.homed⟩
  cases through with
  | none =>
      apply noted.give (busy_of_userCode user)
      intro other same
      cases same
      rfl
  | some context =>
      have recounts : ({ state with submitted := state.submitted ++ [fn] } :
          ExecutorState Thread Context Guard Fn).Recounts
            ({ state with submitted := state.submitted ++ [fn] }.onWorkStarted setting
              (setting.associated fn)) := recounts_onWorkStarted _
      apply (noted.recounts recounts).give
      · obtain ⟨work, stopped, same⟩ := recounts
        rw [same]
        exact busy_of_userCode user
      · intro other same
        cases same

theorem Orderly.workCleanup (orderly : state.Orderly setting) {thread : Thread}
    {context : Context} {info : RunInfo Fn} {outer : List (Frame Context Fn)}
    (inside : state.stack thread = .running context info :: outer) :
    (state.workCleanup thread context info outer).Orderly setting := by
  have proper := orderly.calls thread
  rw [inside] at proper
  obtain ⟨settled, below, rest⟩ := proper
  have counted := orderly.recounts (recounts_workCleanup context info.privateOutstandingWork)
  have idle : RunInfo.Settled setting context ⟨[], 0, false⟩ :=
    ⟨rfl, fun _ => rfl, fun fn member => absurd member List.not_mem_nil⟩
  exact (counted.enqueue settled.homed).setStack thread ⟨idle, below, rest⟩

theorem Orderly.step [DecidableEq Guard] [DecidableEq Fn] (orderly : state.Orderly setting)
    {action : ExecutorAction Thread Context Guard Fn} (steps : state.Steps setting action next) :
    next.Orderly setting := by
  cases steps with
  | submit how through user _ => exact orderly.submit user how through _
  | noWork _ => exact ⟨orderly.calls, orderly.homed⟩
  | beginRun context user =>
      apply orderly.push
      exact ⟨⟨rfl, fun _ => rfl, fun fn member => absurd member List.not_mem_nil⟩,
        busy_of_userCode user, orderly.calls _⟩
  | @runOne thread context info outer op ops inside waiting _ idle =>
      have proper := orderly.calls thread
      rw [inside] at proper
      obtain ⟨settled, below, rest⟩ := proper
      have completing : RunInfo.Settled setting context { info with completing := true } :=
        ⟨settled.counted, fun idle => Bool.noConfusion idle, settled.homed⟩
      have proper : Proper setting (.running context { info with completing := true } :: outer) :=
        ⟨completing, below, rest⟩
      have ready := (orderly.dequeue waiting).setStack thread proper
      have stack : ∀ frames, ({ state with
          opQueue := Function.update state.opQueue context ops }.setStack thread frames :
            ExecutorState Thread Context Guard Fn).stack thread = frames :=
        fun frames => Function.update_self _ _ _
      apply ready.invoke
      · rw [stack]
        rfl
      · intro fn same
        rw [stack, orderly.homed context fn (waiting ▸ same ▸ List.mem_cons_self)]
        exact .inr List.mem_cons_self
  | @called thread fn outer inside =>
      have proper := orderly.calls thread
      rw [inside] at proper
      have left := orderly.setStack thread proper.2.2
      exact ⟨left.calls, left.homed⟩
  | @released thread fn outer inside =>
      have proper := orderly.calls thread
      rw [inside] at proper
      exact (orderly.setStack thread proper.2).recounts (recounts_onWorkFinished _)
  | cleaned inside _ => exact orderly.workCleanup inside
  | @endRun thread context info outer inside idle =>
      have proper := orderly.calls thread
      rw [inside] at proper
      rw [proper.1.idle idle]
      exact orderly.setStack thread proper.2.2
  | makeGuard context _ => exact (orderly.recounts (recounts_onWorkStarted context)).setGuard _ _
  | copyGuard _ _ =>
      apply Orderly.setGuard
      split
      · exact orderly.recounts (recounts_onWorkStarted _)
      · exact orderly
  | moveGuard _ _ => exact (orderly.setGuard _ _).setGuard _ _
  | resetGuard _ =>
      apply Orderly.setGuard
      split
      · exact orderly.recounts (recounts_onWorkFinished _)
      · exact orderly
  | destroyGuard _ =>
      apply Orderly.setGuard
      split
      · exact orderly.recounts (recounts_onWorkFinished _)
      · exact orderly
  | stop _ => exact ⟨orderly.calls, orderly.homed⟩
  | restart _ => exact ⟨orderly.calls, orderly.homed⟩
  | shutdown _ => exact ⟨orderly.calls, orderly.homed⟩
  | destroyFront waiting => exact (orderly.dequeue waiting).destroy _ _

end Orderly

end ExecutorState

end Asio.Core
