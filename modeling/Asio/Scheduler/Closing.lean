import Asio.Scheduler.WorkCount

/-! # After shutdown

`shutdown` is called when no thread runs the scheduler, and no thread does from
then on.
-/

namespace Asio.Scheduler

open State

variable {T Op D : Type*}

/-- From the call of `shutdown` on no thread is inside a function that runs the
scheduler. -/
structure Closed (state : State T Op D) : Prop where
  outside : state.closing = true → ∀ t, (state.thread t).contexts = []
  shutting : ∀ t, (state.thread t).pc.shuttingDown = true → state.closing = true
  shutdown : state.scheduler.shutdown = true → state.closing = true

section Preservation

variable [DecidableEq T] {oneThread : Bool} {state next : State T Op D} {t : T}
  {info : ThreadInfo Op D} {outer contexts : List (ThreadInfo Op D)} {action : Action T Op D}

omit [DecidableEq T] in
/-- A thread inside a context does not run after the call of `shutdown`. -/
theorem Closed.opened {pc : Pc Op D} {signalling : Bool} (closed : Closed state)
    (here : state.thread t = ⟨pc, signalling, info :: outer⟩) : state.closing = false := by
  by_contra closing
  have none := closed.outside (Bool.not_eq_false _ ▸ closing) t
  rw [here] at none
  exact absurd none (List.cons_ne_nil _ _)

/-- A step of one thread that does not begin to shut the scheduler down. -/
theorem Closed.update (closed : Closed state) (t : T) (thread : Thread Op D)
    (threads : next.thread = Function.update state.thread t thread)
    (outside : state.closing = true → thread.contexts = [])
    (shutting : thread.pc.shuttingDown = true → state.closing = true)
    (closing : next.closing = state.closing := by rfl)
    (shutdown : next.scheduler.shutdown = state.scheduler.shutdown ∨ state.closing = true := by
      exact Or.inl rfl) : Closed next where
  outside := by
    rw [closing, threads]
    intro closing u
    by_cases same : u = t
    · subst same
      rw [Function.update_self]
      exact outside closing
    · rw [Function.update_of_ne same]
      exact closed.outside closing u
  shutting u := by
    rw [closing, threads]
    by_cases same : u = t
    · subst same
      rw [Function.update_self]
      exact shutting
    · rw [Function.update_of_ne same]
      exact closed.shutting u
  shutdown down := by
    rw [closing]
    rcases shutdown with same | closing
    · exact closed.shutdown (same ▸ down)
    · exact closing

/-- A step of a thread inside a context. -/
theorem Closed.inside {pc : Pc Op D} {signalling : Bool} (closed : Closed state)
    (here : state.thread t = ⟨pc, signalling, info :: outer⟩) (thread : Thread Op D)
    (threads : next.thread = Function.update state.thread t thread)
    (shutting : thread.pc.shuttingDown = false)
    (closing : next.closing = state.closing := by rfl)
    (shutdown : next.scheduler.shutdown = state.scheduler.shutdown := by rfl) : Closed next := by
  have opened := closed.opened here
  refine closed.update t thread threads (fun closing => ?_) (fun shuts => ?_) closing
    (Or.inl shutdown)
  · rw [opened] at closing
    contradiction
  · rw [shutting] at shuts
    contradiction

omit [DecidableEq T] in
theorem afterTask_shuttingDown (entry : Entry) :
    (.holding entry.afterTask : Pc Op D).shuttingDown = false := by
  cases entry <;> rfl

omit [DecidableEq T] in
theorem afterWork_shuttingDown (last thrown : Bool) :
    (Pc.afterWork last thrown : Pc Op D).shuttingDown = false := by
  cases last <;> rfl

theorem Closed.turn {rest : Section Op} {turn : Turn Op D} (closed : Closed state)
    (here : state.thread t = ⟨.holding rest, false, info :: outer⟩)
    (turned : rest.turnOf oneThread state.scheduler info.entry = some turn) :
    Closed (state.turn t info outer turn) := by
  cases turned_of_turnOf turned with
  | leave _ => exact closed.inside here ⟨.user, false, outer⟩ rfl rfl
  | handOver _ _ => exact closed.inside here ⟨.user, _, outer⟩ rfl rfl
  | sleep _ _ _ => exact closed.inside here ⟨.waiting, false, info :: outer⟩ rfl rfl
  | task _ _ =>
      rw [dequeueTask_eq]
      exact closed.inside here ⟨.task _ [], _, info :: outer⟩ rfl rfl
  | pollTask _ _ _ => exact closed.inside here ⟨.task 0 [], false, info :: outer⟩ rfl rfl
  | @perform descriptor ops _ =>
      rw [turn_dequeue_perform]
      refine closed.inside here ⟨.performIo descriptor, _, info :: outer⟩ rfl rfl ?_ ?_
      · rfl
      · exact dequeue_shutdown _ _ _ _
  | @complete op ops _ =>
      rw [turn_dequeue_complete]
      refine closed.inside here ⟨.user, _, { info with current := some op } :: outer⟩ rfl rfl ?_ ?_
      · rfl
      · exact dequeue_shutdown _ _ _ _

theorem Closed.run (closed : Closed state)
    (effect : RunEffect oneThread t info outer state next) : Closed next := by
  cases effect with
  | enter here _ => exact closed.inside here _ rfl rfl
  | splice here _ _ _ => exact closed.inside here _ rfl rfl
  | turn here turned => exact closed.turn here turned
  | wakeSignalled here _ => exact closed.inside here _ rfl rfl
  | sleepAgain here _ => exact closed.inside here _ rfl rfl
  | wakeOnce here => exact closed.inside here _ rfl rfl
  | taskCleanup here => exact closed.inside here _ rfl (afterTask_shuttingDown _)
  | taskThrown here => exact closed.inside here _ rfl rfl
  | flushOn here _ => exact closed.inside here _ rfl rfl
  | flushLeave here _ => exact closed.inside here _ rfl rfl
  | cleanup here =>
      rw [workCleanup_eq]
      exact closed.inside here _ rfl (afterWork_shuttingDown _ _)
  | flush here _ => exact closed.inside here _ rfl rfl
  | goBack here _ _ => exact closed.inside here _ rfl rfl
  | leave here _ => exact closed.inside here _ rfl rfl

theorem Posted.closed {ops : List Op} (posted : Posted oneThread t contexts ops state next)
    (closed : Closed state)
    (outside : state.closing = true → contexts = []) : Closed next := by
  cases posted with
  | nothing _ => exact closed.update t _ rfl outside fun shuts => Bool.noConfusion shuts
  | here same _ =>
      refine closed.update t _ rfl (fun closing => ?_) fun shuts => Bool.noConfusion shuts
      rw [outside closing] at same
      contradiction
  | shared => exact closed.update t _ rfl outside fun shuts => Bool.noConfusion shuts

omit [DecidableEq T] in
theorem woken_shuttingDown (thread : Thread Op D) :
    thread.woken.pc.shuttingDown = thread.pc.shuttingDown := by
  unfold Thread.woken
  split
  · next waiting =>
      rw [waiting]
      rfl
  · rfl

omit [DecidableEq T] in
theorem woken_contexts (thread : Thread Op D) : thread.woken.contexts = thread.contexts := by
  unfold Thread.woken
  split <;> rfl

omit [DecidableEq T] in
theorem Closed.woken (closed : Closed state) : Closed state.stopAll where
  outside closing t := by
    rw [stopAll_thread, woken_contexts]
    exact closed.outside closing t
  shutting t := by
    rw [stopAll_thread, woken_shuttingDown]
    exact closed.shutting t
  shutdown := by
    rw [stopAll_scheduler, stopAllThreads_shutdown]
    exact closed.shutdown

variable [DecidableEq Op]

theorem Closed.call (closed : Closed state)
    (effect : CallEffect oneThread t action contexts state next) : Closed next := by
  have outside : ∀ {pc : Pc Op D} {signalling : Bool},
      state.thread t = ⟨pc, signalling, contexts⟩ → state.closing = true → contexts = [] := by
    intro pc signalling here closing
    have none := closed.outside closing t
    rwa [here] at none
  have shutting : ∀ {pc : Pc Op D} {signalling : Bool},
      state.thread t = ⟨pc, signalling, contexts⟩ → pc.shuttingDown = true →
      state.closing = true := by
    intro pc signalling here shuts
    apply closed.shutting t
    rwa [here]
  cases effect with
  | @request rest here requested =>
      refine closed.update t _ rfl (outside here) fun shuts => ?_
      rcases requested with rfl | rfl | rfl <;> exact Bool.noConfusion shuts
  | close here empty _ =>
      have none : contexts = [] := by
        have none := empty t
        rwa [here] at none
      refine ⟨fun _ u => ?_, fun _ _ => rfl, fun _ => rfl⟩
      rw [setThread_thread, none]
      by_cases same : u = t
      · subst same
        rw [Function.update_self]
      · rw [Function.update_of_ne same]
        exact empty u
  | @acquire rest here _ =>
      refine closed.update t _ rfl (outside here) fun shuts => shutting here ?_
      cases rest <;> first | rfl | exact Bool.noConfusion shuts
  | push here =>
      refine closed.update t _ rfl (outside here) (fun shuts => Bool.noConfusion shuts) rfl
        (Or.inl ?_)
      rw [logPushes_scheduler, setThread_scheduler, wakeOneThreadAndUnlock_shutdown,
        enqueue_shutdown]
  | @stop cleanup here =>
      refine closed.woken.update t _ rfl (outside here) fun shuts => ?_
      cases cleanup <;> exact Bool.noConfusion shuts
  | restart here =>
      exact closed.update t _ rfl (outside here) fun shuts => Bool.noConfusion shuts
  | initTask here _ _ =>
      refine closed.update t _ rfl (outside here) (fun shuts => Bool.noConfusion shuts) rfl
        (Or.inl ?_)
      rw [setThread_scheduler, wakeOneThreadAndUnlock_shutdown, enqueue_shutdown]
  | initAgain here =>
      exact closed.update t _ rfl (outside here) fun shuts => Bool.noConfusion shuts
  | shutdown here =>
      exact closed.update t _ rfl (outside here) (fun _ => shutting here rfl) rfl
        (Or.inr (shutting here rfl))
  | destroy here _ =>
      exact closed.update t (state.thread t) (Function.update_eq_self t _).symm
        (fun closing => closed.outside closing t) (closed.shutting t)
  | destroyed here _ =>
      exact closed.update t _ rfl (outside here) fun shuts => Bool.noConfusion shuts
  | callStop here _ =>
      exact closed.update t _ rfl (outside here) fun shuts => Bool.noConfusion shuts
  | call here opened _ _ =>
      refine closed.update t _ rfl (fun closing => ?_) fun shuts => Bool.noConfusion shuts
      rw [opened] at closing
      contradiction
  | postHere here _ inside =>
      subst inside
      exact closed.inside here _ rfl rfl
  | postShared here _ =>
      exact closed.update t _ rfl (outside here) fun shuts => Bool.noConfusion shuts
  | startOp _ _ => exact ⟨closed.outside, closed.shutting, closed.shutdown⟩
  | @deferred _ ops here _ posted =>
      have taken : Closed (state.takePending ops) :=
        ⟨closed.outside, closed.shutting, closed.shutdown⟩
      exact posted.closed taken (outside here)
  | abandon _ _ _ => exact ⟨closed.outside, closed.shutting, closed.shutdown⟩
  | workStarted _ => exact ⟨closed.outside, closed.shutting, closed.shutdown⟩
  | workFinished here _ place =>
      refine closed.update t _ rfl (outside here) fun shuts => ?_
      rcases place with ⟨_, rfl⟩ | ⟨_, rfl⟩ <;> exact Bool.noConfusion shuts
  | finish here _ =>
      exact closed.update t _ rfl (outside here) fun shuts => Bool.noConfusion shuts

variable [Fintype T] [DecidableEq D]

omit [Fintype T] [DecidableEq D] in
theorem Closed.reactor (closed : Closed state)
    (effect : ReactorEffect oneThread t action info outer state next) : Closed next := by
  cases effect with
  | again _ _ => exact closed
  | event here _ => exact closed.inside here _ rfl rfl
  | timers here _ => exact closed.inside here _ rfl rfl
  | taskReturn here _ => exact closed.inside here _ rfl rfl
  | performNone here => exact closed.inside here _ rfl rfl
  | @perform _ descriptor first rest here _ posted =>
      refine posted.closed ⟨closed.outside, closed.shutting, closed.shutdown⟩ fun closing => ?_
      have opened := closed.opened here
      exact absurd (opened.symm.trans closing) Bool.false_ne_true

omit [Fintype T] [DecidableEq Op] [DecidableEq D] in
theorem Closed.wake (closed : Closed state) (effect : WakeEffect t state next) : Closed next := by
  have silent : Closed (state.setThread t { state.thread t with signalling := false }) :=
    closed.update t { state.thread t with signalling := false } rfl
      (fun closing => closed.outside closing t) (closed.shutting t)
  cases effect with
  | signalNone _ _ => exact silent
  | @signal u _ _ other =>
      refine silent.update u _ rfl (fun closing => closed.outside closing u) fun shuts => ?_
      exact Bool.noConfusion shuts
  | awaken here =>
      refine closed.update t _ rfl (fun closing => ?_) fun shuts => Bool.noConfusion shuts
      have none := closed.outside closing t
      rwa [here] at none

/-- In every reachable state no thread runs the scheduler after `shutdown`. -/
theorem closed_of_reachable (reachable : (machine oneThread).Reachable state) : Closed state := by
  apply reachable.invariant
  · intro state isInitial
    subst isInitial
    exact ⟨fun _ _ => rfl, fun _ shuts => Bool.noConfusion shuts,
      fun shutdown => Bool.noConfusion shutdown⟩
  · intro state move next _ closed _ stepped
    cases effect_of_step stepped with
    | run effect => exact closed.run effect
    | call effect => exact closed.call effect
    | reactor effect => exact closed.reactor effect
    | wake effect => exact closed.wake effect

end Preservation

end Asio.Scheduler
