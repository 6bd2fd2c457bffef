import Asio.Core.WorkDispatcherWork
import Asio.Lib.Custody
import Mathlib.Algebra.Order.BigOperators.Group.Finset
import Mathlib.Algebra.Order.BigOperators.Group.List

/-! # Functions are called once, and at home

A function is in one place from when it is submitted: in a queue, on the stack of a thread, among
those that were called or among those that were destroyed. Until it is called at its associated
executor, the context of that executor has work.
-/

namespace Asio.Core

variable {Thread Context Guard Fn : Type*}

/-- Where functions are. -/
inductive ExecutorPlace (Thread Context : Type*) where
  | queue (context : Context)
  | thread (thread : Thread)
  | called
  | destroyed (context : Context)
  deriving DecidableEq

/-- The functions that a call holds: those of its private queue, or the one that is called. -/
def Frame.functions : Frame Context Fn → List Fn
  | .running _ info => info.privateOpQueue.map ExecutorOp.fn
  | .releasing _ => []
  | .calling fn => [fn]

theorem functions_pushPrivate [DecidableEq Context] {context : Context} {op : ExecutorOp Fn}
    {stack pushed : List (Frame Context Fn)} (took : pushPrivate context op stack = some pushed) :
    (pushed.flatMap Frame.functions).Perm (stack.flatMap Frame.functions ++ [op.fn]) := by
  induction stack generalizing pushed with
  | nil => cases took
  | cons frame outer ih =>
      cases frame with
      | running other info =>
          simp only [pushPrivate] at took
          split at took
          · cases took
            simp only [List.flatMap_cons, Frame.functions, List.map_append, List.map_cons,
              List.map_nil, List.append_assoc]
            exact List.perm_append_comm.append_left _
          · obtain ⟨rest, inner, rfl⟩ := Option.map_eq_some_iff.mp took
            rw [List.flatMap_cons, List.flatMap_cons, List.append_assoc]
            exact (ih inner).append_left _
      | releasing fn =>
          obtain ⟨rest, inner, rfl⟩ := Option.map_eq_some_iff.mp took
          exact @ih rest inner
      | calling fn =>
          obtain ⟨rest, inner, rfl⟩ := Option.map_eq_some_iff.mp took
          rw [List.flatMap_cons, List.flatMap_cons, List.append_assoc]
          exact (ih inner).append_left _

namespace ExecutorState

section Places

variable {setting : ExecutorSetting Context Fn}
  {state next invoked : ExecutorState Thread Context Guard Fn}

/-- The functions in a place. -/
def contents (state : ExecutorState Thread Context Guard Fn) :
    ExecutorPlace Thread Context → List Fn
  | .queue context => (state.opQueue context).map ExecutorOp.fn
  | .thread thread => (state.stack thread).flatMap Frame.functions
  | .called => state.called
  | .destroyed context => state.destroyed context

theorem Recounts.contents (recounts : state.Recounts next) : next.contents = state.contents := by
  obtain ⟨work, stopped, rfl⟩ := recounts
  rfl

theorem Recounts.submitted (recounts : state.Recounts next) : next.submitted = state.submitted := by
  obtain ⟨work, stopped, rfl⟩ := recounts
  rfl

/-- Every function that was submitted is in one place, once. -/
def Kept (state : ExecutorState Thread Context Guard Fn) : Prop :=
  Custody.Kept state.submitted state.contents

theorem Kept.congr (kept : state.Kept) (same : next.contents = state.contents)
    (submitted : next.submitted = state.submitted) : next.Kept := by
  unfold Kept
  rwa [same, submitted]

theorem Kept.recounts (kept : state.Kept) (recounts : state.Recounts next) : next.Kept :=
  kept.congr recounts.contents recounts.submitted

section Queues

variable [DecidableEq Context] {context : Context}

theorem contents_setQueue_self (ops : List (ExecutorOp Fn)) :
    ({ state with opQueue := Function.update state.opQueue context ops } :
      ExecutorState Thread Context Guard Fn).contents (.queue context) =
        ops.map ExecutorOp.fn := by
  dsimp only [ExecutorState.contents]
  rw [Function.update_self]

theorem contents_setQueue_of_ne {place : ExecutorPlace Thread Context}
    (other : place ≠ .queue context) (ops : List (ExecutorOp Fn)) :
    ({ state with opQueue := Function.update state.opQueue context ops } :
      ExecutorState Thread Context Guard Fn).contents place = state.contents place := by
  cases place with
  | queue another =>
      have apart : another ≠ context := fun same => other (same ▸ rfl)
      dsimp only [ExecutorState.contents]
      rw [Function.update_of_ne apart]
  | thread thread => rfl
  | called => rfl
  | destroyed context => rfl

theorem destroy_recounts (op : ExecutorOp Fn) :
    ({ state with destroyed :=
      Function.update state.destroyed context (state.destroyed context ++ [op.fn]) } :
        ExecutorState Thread Context Guard Fn).Recounts (state.destroy setting context op) := by
  unfold destroy
  cases op with
  | function fn => exact ⟨_, _, rfl⟩
  | dispatcher fn => exact recounts_onWorkFinished _

end Queues

section Threads

variable [DecidableEq Thread] {thread : Thread}

theorem contents_setStack_self (stack : List (Frame Context Fn)) :
    (state.setStack thread stack).contents (.thread thread) = stack.flatMap Frame.functions := by
  dsimp only [ExecutorState.contents, setStack]
  rw [Function.update_self]

theorem contents_setStack_of_ne {place : ExecutorPlace Thread Context}
    (other : place ≠ .thread thread) (stack : List (Frame Context Fn)) :
    (state.setStack thread stack).contents place = state.contents place := by
  cases place with
  | thread another =>
      have apart : another ≠ thread := fun same => other (same ▸ rfl)
      dsimp only [ExecutorState.contents, setStack]
      rw [Function.update_of_ne apart]
  | queue context => rfl
  | called => rfl
  | destroyed context => rfl

/-- A change of a stack that no function takes part in. -/
theorem contents_setStack {stack : List (Frame Context Fn)}
    (same : stack.flatMap Frame.functions = (state.stack thread).flatMap Frame.functions) :
    (state.setStack thread stack).contents = state.contents := by
  funext place
  by_cases own : place = .thread thread
  · subst own
    rw [contents_setStack_self, same]
    rfl
  · exact contents_setStack_of_ne own stack

end Threads

variable [DecidableEq Thread] [DecidableEq Context]

/-- A function has come to a place. -/
def Gains (state next : ExecutorState Thread Context Guard Fn) (fn : Fn) : Prop :=
  next.submitted = state.submitted ∧
    ∃ target, ∀ place, (next.contents place).Perm (Custody.added state.contents target fn place)

theorem gains_setStack {thread : Thread} {stack : List (Frame Context Fn)} {fn : Fn}
    (more : (stack.flatMap Frame.functions).Perm
      ((state.stack thread).flatMap Frame.functions ++ [fn])) :
    state.Gains (state.setStack thread stack) fn := by
  refine ⟨rfl, .thread thread, fun place => ?_⟩
  by_cases own : place = .thread thread
  · subst own
    rw [contents_setStack_self, Custody.added, if_pos rfl]
    exact more
  · rw [contents_setStack_of_ne own, Custody.added, if_neg own, List.append_nil]

theorem gains_push_calling (thread : Thread) (fn : Fn) :
    state.Gains (state.push thread (.calling fn)) fn := by
  apply gains_setStack
  rw [List.flatMap_cons]
  exact List.perm_append_comm

theorem gains_enqueue (context : Context) (op : ExecutorOp Fn) :
    state.Gains (state.enqueue context [op]) op.fn := by
  refine ⟨rfl, .queue context, fun place => ?_⟩
  by_cases own : place = .queue context
  · subst own
    unfold enqueue
    rw [contents_setQueue_self, Custody.added, if_pos rfl, List.map_append]
    exact .refl _
  · unfold enqueue
    rw [contents_setQueue_of_ne own, Custody.added, if_neg own, List.append_nil]

theorem Gains.of_contents {before after : ExecutorState Thread Context Guard Fn} {fn : Fn}
    (gains : before.Gains after fn) (same : before.contents = state.contents)
    (submitted : before.submitted = state.submitted) : state.Gains after fn := by
  obtain ⟨notes, target, puts⟩ := gains
  exact ⟨notes.trans submitted, target, same ▸ puts⟩

theorem gains_post (thread : Thread) (context : Context) (op : ExecutorOp Fn)
    (isContinuation : Bool) :
    state.Gains (state.postImmediateCompletion setting thread context op isContinuation) op.fn := by
  have shared : state.Gains ((state.addWork context 1).enqueue context [op]) op.fn :=
    (gains_enqueue context op).of_contents rfl rfl
  unfold postImmediateCompletion
  dsimp only
  split
  · split
    · rename_i stack took
      exact gains_setStack (functions_pushPrivate took)
    · exact shared
  · exact shared

theorem gains_dispatch {thread : Thread} {context : Context} {op : ExecutorOp Fn}
    (inPlace : state.Gains invoked op.fn) :
    state.Gains (state.dispatch setting thread context op invoked) op.fn := by
  unfold dispatch
  split
  · exact inPlace
  · exact gains_post thread context op false

theorem gains_invoke (thread : Thread) (op : ExecutorOp Fn) :
    state.Gains (state.invoke setting thread op) op.fn := by
  cases op with
  | function fn => exact gains_push_calling thread fn
  | dispatcher fn =>
      have same : (state.push thread (.releasing fn)).contents = state.contents :=
        contents_setStack rfl
      have dispatched : (state.push thread (.releasing fn)).Gains
          (state.invoke setting thread (.dispatcher fn)) (ExecutorOp.function fn).fn :=
        gains_dispatch (gains_push_calling thread fn)
      exact dispatched.of_contents same rfl

theorem gains_give (thread : Thread) (how : Submission) (context : Context) (op : ExecutorOp Fn) :
    state.Gains (state.give setting thread how context op) op.fn := by
  cases how with
  | dispatch => exact gains_dispatch (gains_invoke thread op)
  | post => exact gains_post thread context op false
  | defer => exact gains_post thread context op true

/-- A function that is submitted comes to one place. -/
theorem submit_contents [DecidableEq Fn] (thread : Thread) (how : Submission)
    (through : Option Context) (fn : Fn) :
    (state.submit setting thread how through fn).submitted = state.submitted ++ [fn] ∧
      ∃ target, ∀ place, ((state.submit setting thread how through fn).contents place).Perm
        (Custody.added state.contents target fn place) := by
  let noted : ExecutorState Thread Context Guard Fn :=
    { state with submitted := state.submitted ++ [fn] }
  cases through with
  | none =>
      exact @gains_give _ _ _ _ setting noted _ _ thread how (setting.associated fn) (.function fn)
  | some context =>
      let started := noted.onWorkStarted setting (setting.associated fn)
      have recounts : noted.Recounts started := recounts_onWorkStarted _
      have gains : noted.Gains (started.give setting thread how context (.dispatcher fn)) fn :=
        (gains_give thread how context (.dispatcher fn)).of_contents recounts.contents
          recounts.submitted
      exact gains

theorem added_contents_self (state : ExecutorState Thread Context Guard Fn)
    (place : ExecutorPlace Thread Context) (fn : Fn) :
    Custody.added state.contents place fn place = state.contents place ++ [fn] := by
  rw [Custody.added, if_pos rfl]

theorem added_contents_of_ne (state : ExecutorState Thread Context Guard Fn)
    {place other : ExecutorPlace Thread Context} (apart : other ≠ place) (fn : Fn) :
    Custody.added state.contents place fn other = state.contents other := by
  rw [Custody.added, if_neg apart, List.append_nil]

/-- A function goes from one place to another, as seen from the state without it. -/
theorem Kept.relocate {without : ExecutorState Thread Context Guard Fn}
    {source target : ExecutorPlace Thread Context} {fn : Fn} (kept : state.Kept)
    (same : next.submitted = state.submitted)
    (leaves : ∀ place, (Custody.added without.contents source fn place).Perm (state.contents place))
    (arrives : ∀ place, (next.contents place).Perm
      (Custody.added without.contents target fn place)) : next.Kept := by
  have before := Custody.Kept.perm kept leaves
  have after := (before.relocate target).perm arrives
  unfold Kept
  rwa [same]

/-- An operation that is dequeued is put elsewhere. -/
theorem dequeue_contents {context : Context} {op : ExecutorOp Fn} {ops : List (ExecutorOp Fn)}
    (waiting : state.opQueue context = op :: ops) (place : ExecutorPlace Thread Context) :
    (Custody.added ({ state with opQueue := Function.update state.opQueue context ops } :
      ExecutorState Thread Context Guard Fn).contents (.queue context) op.fn place).Perm
        (state.contents place) := by
  by_cases own : place = .queue context
  · subst own
    have whole : state.contents (.queue context) = op.fn :: ops.map ExecutorOp.fn := by
      dsimp only [ExecutorState.contents]
      rw [waiting]
      rfl
    rw [added_contents_self, contents_setQueue_self, whole]
    exact List.perm_append_comm
  · rw [added_contents_of_ne _ own, contents_setQueue_of_ne own]

theorem Kept.destroyFront {context : Context} {op : ExecutorOp Fn} {ops : List (ExecutorOp Fn)}
    (kept : state.Kept) (waiting : state.opQueue context = op :: ops) :
    ({ state with opQueue := Function.update state.opQueue context ops }.destroy
      setting context op : ExecutorState Thread Context Guard Fn).Kept := by
  have recounts := @destroy_recounts _ _ _ _ setting
    { state with opQueue := Function.update state.opQueue context ops } _ context op
  refine kept.relocate recounts.submitted (dequeue_contents waiting)
    (fun place => (?_ : List.Perm _ (Custody.added _ (.destroyed context) _ place)))
  rw [recounts.contents]
  by_cases own : place = .destroyed context
  · subst own
    rw [added_contents_self]
    dsimp only [ExecutorState.contents]
    rw [Function.update_self]
  · rw [added_contents_of_ne _ own]
    cases place with
    | destroyed another =>
        have apart : another ≠ context := fun same => own (same ▸ rfl)
        dsimp only [ExecutorState.contents]
        rw [Function.update_of_ne apart]
    | queue another => exact .refl _
    | thread thread => exact .refl _
    | called => exact .refl _

theorem Kept.workCleanup {thread : Thread} {context : Context} {info : RunInfo Fn}
    {outer : List (Frame Context Fn)} (kept : state.Kept)
    (inside : state.stack thread = .running context info :: outer) :
    (state.workCleanup thread context info outer).Kept := by
  obtain ⟨work, stopped, same⟩ :=
    @recounts_workCleanup _ _ _ _ state _ context info.privateOutstandingWork
  have apart : ExecutorPlace.queue context ≠ .thread thread := nofun
  unfold ExecutorState.workCleanup
  rw [same]
  dsimp only
  apply Custody.Kept.move kept (.thread thread) (.queue context)
    (info.privateOpQueue.map ExecutorOp.fn)
  · exact apart.symm
  · have whole : state.contents (.thread thread) =
        info.privateOpQueue.map ExecutorOp.fn ++ outer.flatMap Frame.functions := by
      dsimp only [ExecutorState.contents]
      rw [inside, List.flatMap_cons]
      rfl
    rw [contents_setStack_self, whole]
    exact .refl _
  · rw [contents_setStack_of_ne apart]
    unfold enqueue
    rw [contents_setQueue_self, List.map_append]
    exact .refl _
  · intro place notThread notQueue
    rw [contents_setStack_of_ne notThread]
    unfold enqueue
    rw [contents_setQueue_of_ne notQueue]
    rfl

theorem Kept.step [DecidableEq Guard] [DecidableEq Fn] (kept : state.Kept)
    (orderly : state.Orderly setting) {action : ExecutorAction Thread Context Guard Fn}
    (steps : state.Steps setting action next) : next.Kept := by
  cases steps with
  | submit how through _ fresh =>
      obtain ⟨notes, target, puts⟩ := @submit_contents _ _ _ _ setting state _ _ _ _ how through _
      have more := (Custody.Kept.add kept target fresh).perm puts
      unfold Kept
      rwa [notes]
  | noWork _ => exact kept.congr rfl rfl
  | beginRun context _ => exact kept.congr (contents_setStack rfl) rfl
  | @runOne thread context info outer op ops inside waiting _ _ =>
      let taken : ExecutorState Thread Context Guard Fn :=
        { state with opQueue := Function.update state.opQueue context ops }
      let ready :=
        taken.setStack thread (.running context { info with completing := true } :: outer)
      have same : ready.contents = taken.contents := by
        apply contents_setStack
        rw [inside]
        rfl
      obtain ⟨notes, target, puts⟩ := @gains_invoke _ _ _ _ setting ready _ _ thread op
      rw [same] at puts
      exact kept.relocate notes (dequeue_contents waiting) puts
  | @called thread fn outer inside =>
      let left := state.setStack thread outer
      have leaves : ∀ place, (Custody.added left.contents (.thread thread) fn place).Perm
          (state.contents place) := by
        intro place
        by_cases own : place = .thread thread
        · subst own
          have whole : state.contents (.thread thread) = fn :: outer.flatMap Frame.functions := by
            dsimp only [ExecutorState.contents]
            rw [inside]
            rfl
          rw [added_contents_self, contents_setStack_self, whole]
          exact List.perm_append_comm
        · rw [added_contents_of_ne _ own, contents_setStack_of_ne own]
      refine kept.relocate rfl leaves
        (fun place => (?_ : List.Perm _ (Custody.added _ .called fn place)))
      by_cases own : place = .called
      · subst own
        rw [added_contents_self]
        exact .refl _
      · rw [added_contents_of_ne _ own]
        cases place with
        | called => exact absurd rfl own
        | queue context => exact .refl _
        | thread other => exact .refl _
        | destroyed context => exact .refl _
  | @released thread fn outer inside =>
      have left : (state.setStack thread outer).Kept := by
        apply kept.congr (contents_setStack _) rfl
        rw [inside]
        rfl
      exact left.recounts (recounts_onWorkFinished _)
  | cleaned inside _ => exact kept.workCleanup inside
  | @endRun thread context info outer inside idle =>
      have proper := orderly.calls thread
      rw [inside] at proper
      have empty := proper.1.idle idle
      rw [empty]
      apply kept.congr (contents_setStack _) rfl
      rw [inside, List.flatMap_cons, Frame.functions, empty]
      rfl
  | makeGuard context _ => exact (kept.recounts (recounts_onWorkStarted context)).congr rfl rfl
  | copyGuard _ _ =>
      split
      · exact (kept.recounts (recounts_onWorkStarted _)).congr rfl rfl
      · exact kept.congr rfl rfl
  | moveGuard _ _ => exact kept.congr rfl rfl
  | resetGuard _ =>
      split
      · exact (kept.recounts (recounts_onWorkFinished _)).congr rfl rfl
      · exact kept.congr rfl rfl
  | destroyGuard _ =>
      split
      · exact (kept.recounts (recounts_onWorkFinished _)).congr rfl rfl
      · exact kept.congr rfl rfl
  | stop _ => exact kept.congr rfl rfl
  | restart _ => exact kept.congr rfl rfl
  | shutdown _ => exact kept.congr rfl rfl
  | destroyFront waiting => exact kept.destroyFront waiting

end Places

/-! ## Stopping -/

section Stopping

variable {setting : ExecutorSetting Context Fn}
  {state next invoked : ExecutorState Thread Context Guard Fn}

/-- If the scheduler of a context has stopped, it has no work. -/
def Stops (state next : ExecutorState Thread Context Guard Fn) (context : Context) : Prop :=
  next.stopped context = true → state.stopped context = true ∨ next.outstandingWork context = 0

theorem stops_of_stopped (same : next.stopped = state.stopped) (context : Context) :
    state.Stops next context := by
  intro stopped
  rw [same] at stopped
  exact .inl stopped

theorem stops_setGuard [DecidableEq Guard] {counted : ExecutorState Thread Context Guard Fn}
    {context : Context} (stops : state.Stops counted context) (guard : Guard)
    (object : Option (WorkGuard Context)) :
    state.Stops (counted.setGuard guard object) context := stops

variable [DecidableEq Context]

theorem stops_workFinished (other context : Context) :
    state.Stops (state.workFinished other) context := by
  unfold workFinished
  dsimp only
  split
  · rename_i none
    intro stopped
    by_cases same : context = other
    · subst same
      exact .inr none
    · dsimp only at stopped
      rw [Function.update_of_ne same] at stopped
      exact .inl stopped
  · exact stops_of_stopped rfl context

theorem stopped_onWorkStarted (executor : Context) :
    (state.onWorkStarted setting executor).stopped = state.stopped := by
  unfold onWorkStarted
  split
  · rfl
  · rfl

theorem stops_onWorkFinished (executor context : Context) :
    state.Stops (state.onWorkFinished setting executor) context := by
  unfold onWorkFinished
  split
  · exact stops_of_stopped rfl context
  · exact stops_workFinished executor context

variable [DecidableEq Thread]

theorem stopped_post (thread : Thread) (context : Context) (op : ExecutorOp Fn)
    (isContinuation : Bool) :
    (state.postImmediateCompletion setting thread context op isContinuation).stopped =
      state.stopped := by
  unfold postImmediateCompletion
  dsimp only
  split
  · split
    · rfl
    · rfl
  · rfl

theorem stopped_dispatch {thread : Thread} {context : Context} {op : ExecutorOp Fn}
    (inPlace : invoked.stopped = state.stopped) :
    (state.dispatch setting thread context op invoked).stopped = state.stopped := by
  unfold dispatch
  split
  · exact inPlace
  · exact stopped_post thread context op false

theorem stopped_invoke (thread : Thread) (op : ExecutorOp Fn) :
    (state.invoke setting thread op).stopped = state.stopped := by
  cases op with
  | function fn => rfl
  | dispatcher fn => exact stopped_dispatch rfl

theorem stopped_give (thread : Thread) (how : Submission) (context : Context)
    (op : ExecutorOp Fn) : (state.give setting thread how context op).stopped = state.stopped := by
  cases how with
  | dispatch => exact stopped_dispatch (stopped_invoke thread op)
  | post => exact stopped_post thread context op false
  | defer => exact stopped_post thread context op true

theorem stopped_submit [DecidableEq Fn] (thread : Thread) (how : Submission)
    (through : Option Context) (fn : Fn) :
    (state.submit setting thread how through fn).stopped = state.stopped := by
  cases through with
  | none => exact stopped_give thread how _ _
  | some context => exact (stopped_give thread how _ _).trans (stopped_onWorkStarted _)

theorem stops_workCleanup (thread : Thread) (other : Context) (info : RunInfo Fn)
    (outer : List (Frame Context Fn)) (context : Context) :
    state.Stops (state.workCleanup thread other info outer) context := by
  unfold ExecutorState.workCleanup
  dsimp only
  split
  · exact stops_of_stopped rfl context
  · split
    · exact stops_workFinished other context
    · exact stops_of_stopped rfl context

/-- A scheduler stops when it is told to, or has no work. -/
theorem stops_step [DecidableEq Guard] [DecidableEq Fn] (orderly : state.Orderly setting)
    {action : ExecutorAction Thread Context Guard Fn} (steps : state.Steps setting action next)
    {context : Context} (told : action ≠ .stop context) : state.Stops next context := by
  cases steps with
  | submit how through _ _ => exact stops_of_stopped (stopped_submit _ how through _) context
  | @noWork thread other none =>
      intro stopped
      by_cases same : context = other
      · subst same
        exact .inr none
      · dsimp only at stopped
        rw [Function.update_of_ne same] at stopped
        exact .inl stopped
  | beginRun _ _ => exact stops_of_stopped rfl context
  | runOne _ _ _ _ => exact stops_of_stopped (stopped_invoke _ _) context
  | called _ => exact stops_of_stopped rfl context
  | released _ => exact stops_onWorkFinished _ context
  | cleaned _ _ => exact stops_workCleanup _ _ _ _ context
  | @endRun thread other info outer inside idle =>
      have proper := orderly.calls thread
      rw [inside] at proper
      rw [proper.1.idle idle]
      exact stops_of_stopped rfl context
  | makeGuard executor _ => exact stops_of_stopped (stopped_onWorkStarted executor) context
  | copyGuard _ _ =>
      apply stops_setGuard
      split
      · exact stops_of_stopped (stopped_onWorkStarted _) context
      · exact stops_of_stopped rfl context
  | moveGuard _ _ => exact stops_of_stopped rfl context
  | resetGuard _ =>
      apply stops_setGuard
      split
      · exact stops_onWorkFinished _ context
      · exact stops_of_stopped rfl context
  | destroyGuard _ =>
      apply stops_setGuard
      split
      · exact stops_onWorkFinished _ context
      · exact stops_of_stopped rfl context
  | stop other =>
      intro stopped
      have apart : context ≠ other := fun same => told (same ▸ rfl)
      dsimp only at stopped
      rw [Function.update_of_ne apart] at stopped
      exact .inl stopped
  | restart other =>
      intro stopped
      by_cases same : context = other
      · subst same
        dsimp only at stopped
        rw [Function.update_self] at stopped
        cases stopped
      · dsimp only at stopped
        rw [Function.update_of_ne same] at stopped
        exact .inl stopped
  | shutdown _ => exact stops_of_stopped rfl context
  | @destroyFront other op ops waiting =>
      unfold destroy
      cases op with
      | function fn => exact stops_of_stopped rfl context
      | dispatcher fn => exact stops_onWorkFinished _ context

end Stopping

/-! ## Pending functions -/

section Pending

variable {setting : ExecutorSetting Context Fn} {state : ExecutorState Thread Context Guard Fn}

/-- The function waits in the queue of a context, or in the private queue of a run of it. -/
def Pending (state : ExecutorState Thread Context Guard Fn) (context : Context) (fn : Fn) : Prop :=
  (∃ op ∈ state.opQueue context, op.fn = fn) ∨
    ∃ thread info, .running context info ∈ state.stack thread ∧
      ∃ op ∈ info.privateOpQueue, op.fn = fn

theorem settled_of_mem {stack : List (Frame Context Fn)} (proper : Proper setting stack)
    {context : Context} {info : RunInfo Fn} (member : .running context info ∈ stack) :
    info.Settled setting context := by
  induction stack with
  | nil => cases member
  | cons frame outer ih =>
      rcases List.mem_cons.mp member with same | below
      · subst same
        exact proper.1
      · cases frame with
        | running _ _ => exact ih proper.2.2 below
        | releasing _ => exact ih proper.2 below
        | calling _ => exact ih proper.2.2 below

variable [DecidableEq Context]

theorem weight_le_stackWeight {stack : List (Frame Context Fn)} {frame : Frame Context Fn}
    (member : frame ∈ stack) (context : Context) :
    frame.weight setting context ≤ stackWeight setting context stack :=
  List.single_le_sum (fun _ _ => Nat.zero_le _) _ (List.mem_map_of_mem member)

/-- An operation either waits where its function is to be called, or carries a guard for it. -/
theorem homed_or_carries {context : Context} {op : ExecutorOp Fn} {ops : List (ExecutorOp Fn)}
    (member : op ∈ ops) (homed : ∀ fn, .function fn ∈ ops → setting.associated fn = context)
    (notSystem : setting.associated op.fn ≠ setting.system) :
    setting.associated op.fn = context ∨ 0 < opsWeight setting (setting.associated op.fn) ops := by
  cases op with
  | function fn => exact .inl (homed fn member)
  | dispatcher fn =>
      have carries : (ExecutorOp.dispatcher fn).carries setting (setting.associated fn) = 1 :=
        if_pos ⟨rfl, notSystem⟩
      have le : (ExecutorOp.dispatcher fn).carries setting (setting.associated fn) ≤
          opsWeight setting (setting.associated fn) ops :=
        List.single_le_sum (fun _ _ => Nat.zero_le _) _ (List.mem_map_of_mem member)
      rw [carries] at le
      exact .inr le

variable [Fintype Thread] [Fintype Context] [Fintype Guard]

/-- All work is accounted for; the system context began with one unit. -/
def Accounted (setting : ExecutorSetting Context Fn)
    (state : ExecutorState Thread Context Guard Fn) : Prop :=
  ∀ context, state.surplus setting context = if context = setting.system then 1 else 0

theorem Accounted.debt_le (accounted : state.Accounted setting) (context : Context) :
    (state.debt setting context : Int) ≤ state.outstandingWork context := by
  have exact := accounted context
  unfold surplus at exact
  split at exact
  · omega
  · omega

theorem opsWeight_le_debt (context other : Context) :
    opsWeight setting context (state.opQueue other) ≤ state.debt setting context := by
  have le : opsWeight setting context (state.opQueue other) ≤
      ∑ c, opsWeight setting context (state.opQueue c) :=
    Finset.single_le_sum (f := fun c => opsWeight setting context (state.opQueue c))
      (fun _ _ => Nat.zero_le _) (Finset.mem_univ other)
  unfold debt
  omega

theorem stackWeight_le_debt (context : Context) (thread : Thread) :
    stackWeight setting context (state.stack thread) ≤ state.debt setting context := by
  have le : stackWeight setting context (state.stack thread) ≤
      ∑ t, stackWeight setting context (state.stack t) :=
    Finset.single_le_sum (f := fun t => stackWeight setting context (state.stack t))
      (fun _ _ => Nat.zero_le _) (Finset.mem_univ thread)
  unfold debt
  omega

/-- **What is pending is work**, where it waits and where it is to be called. -/
theorem work_of_pending (accounted : state.Accounted setting) (orderly : state.Orderly setting)
    {context : Context} {fn : Fn} (pending : state.Pending context fn) :
    0 < state.outstandingWork context ∧ (setting.associated fn ≠ setting.system →
      0 < state.outstandingWork (setting.associated fn)) := by
  have waits : 0 < state.debt setting context ∧ (setting.associated fn ≠ setting.system →
      setting.associated fn = context ∨ 0 < state.debt setting (setting.associated fn)) := by
    rcases pending with ⟨op, member, rfl⟩ | ⟨thread, info, inside, op, member, rfl⟩
    · refine ⟨?_, fun notSystem => ?_⟩
      · have long := List.length_pos_of_mem member
        unfold debt
        omega
      · exact (homed_or_carries member (orderly.homed context) notSystem).imp_right
          fun carried => carried.trans_le (opsWeight_le_debt _ context)
    · have settled := settled_of_mem (orderly.calls thread) inside
      have completing : info.completing = true := by
        by_contra idle
        have empty := settled.idle (Bool.not_eq_true _ ▸ idle)
        rw [empty] at member
        cases member
      have weighs : ∀ c, (Frame.running context info).weight setting c ≤ state.debt setting c :=
        fun c => (weight_le_stackWeight inside c).trans (stackWeight_le_debt c thread)
      refine ⟨?_, fun notSystem => ?_⟩
      · have own := weighs context
        simp only [Frame.weight, completing, and_self, if_true] at own
        omega
      · refine (homed_or_carries member settled.homed notSystem).imp_right fun carried => ?_
        have own := weighs (setting.associated op.fn)
        simp only [Frame.weight] at own
        omega
  have here : 0 < state.outstandingWork context :=
    (Int.natCast_pos.mpr waits.1).trans_le (accounted.debt_le context)
  refine ⟨here, fun notSystem => ?_⟩
  rcases waits.2 notSystem with same | owed
  · exact same ▸ here
  · exact (Int.natCast_pos.mpr owed).trans_le (accounted.debt_le _)

end Pending

/-- A function is called inside of its associated context. -/
theorem inside_of_calling {setting : ExecutorSetting Context Fn} {stack : List (Frame Context Fn)}
    (proper : Proper setting stack) {fn : Fn} {outer : List (Frame Context Fn)}
    (called : .calling fn :: outer <:+ stack) :
    setting.associated fn = setting.system ∨ Inside (setting.associated fn) outer := by
  induction stack with
  | nil => cases List.suffix_nil.mp called
  | cons frame below ih =>
      rcases List.suffix_cons_iff.mp called with same | deeper
      · cases same
        exact proper.1
      · cases frame with
        | running _ _ => exact ih proper.2.2 deeper
        | releasing _ => exact ih proper.2 deeper
        | calling _ => exact ih proper.2.2 deeper

end ExecutorState

section Runs

variable [Fintype Thread] [Fintype Context] [Fintype Guard] [DecidableEq Thread]
  [DecidableEq Context] [DecidableEq Guard] [DecidableEq Fn]
  {setting : ExecutorSetting Context Fn} {state : ExecutorState Thread Context Guard Fn}

/-- What holds in every state that is reached. -/
structure ExecutorState.Sound (setting : ExecutorSetting Context Fn)
    (state : ExecutorState Thread Context Guard Fn) : Prop where
  kept : state.Kept
  orderly : state.Orderly setting
  accounted : state.Accounted setting

omit [DecidableEq Thread] [DecidableEq Guard] [DecidableEq Fn] in
theorem ExecutorState.sound_new :
    (.new setting : ExecutorState Thread Context Guard Fn).Sound setting where
  kept := by
    have nothing : (.new setting : ExecutorState Thread Context Guard Fn).contents =
        fun _ => [] := by
      funext place
      cases place <;> rfl
    unfold Kept
    rw [nothing]
    exact Custody.kept_nil
  orderly := ⟨fun _ => trivial, fun _ _ member => absurd member List.not_mem_nil⟩
  accounted context := by
    simp [surplus, debt, new, stackWeight, guardWeight]

theorem ExecutorState.sound_of_reachable (reachable : (executorCalls setting).Reachable state) :
    state.Sound setting := by
  apply reachable.invariant
  · rintro state rfl
    exact sound_new
  · intro state action next _ sound _ stepped
    have steps := steps_of_step stepped
    exact ⟨sound.kept.step sound.orderly steps, sound.orderly.step steps,
      fun context => (surplus_step sound.orderly steps context).trans (sound.accounted context)⟩

end Runs

/-- The system context, the one a function goes through and the one it is for. -/
inductive ThreeContexts where
  | system
  | through
  | home
  deriving DecidableEq

instance : Fintype ThreeContexts :=
  ⟨{.system, .through, .home}, fun context => by cases context <;> decide⟩

/-- The functions are associated with a context each. -/
def threeContexts : ExecutorSetting ThreeContexts ThreeContexts where
  system := .system
  oneThread context := context = .home
  associated fn := fn

/-- A function goes through the first context to the second, which is kept at work by nothing but
its guard. -/
def someExecutorActions : List (ExecutorAction Bool ThreeContexts Unit ThreeContexts) :=
  [.submit false .post (some .through) .home, .submit false .post none .through,
    .beginRun true .home, .beginRun false .through, .runOne false, .finish false, .finish false,
    .runOne false, .submit false .dispatch (some .through) .system]

end Asio.Core
