import Asio.Scheduler.Accounting
import Asio.Scheduler.TaskQueue
import Mathlib.Algebra.Order.BigOperators.Group.Finset

/-! # One thread in the reactor

The task operation is in the main queue or one thread runs the task, and the
descriptor states that a run of the task returns are queued before the task is.
So the main queue is a line in which every descriptor state stands before the
task, and when the task is taken from it no descriptor state is left anywhere.
-/

namespace Asio.Scheduler

open State

variable {T Op D : Type*}

/-- Whether a thread runs the task, up to its reinsertion into the queue. -/
def Pc.share : Pc Op D → ℤ
  | .task _ _ | .acquiring (.taskCleanup _) | .holding (.taskCleanup _) => 1
  | _ => 0

/-- A thread is in the loop of `shutdown`. -/
def Pc.Destroys (pc : Pc Op D) : Prop := pc = .destroying

/-- The private queues of a thread: only that of the context that runs the task
holds descriptor states, those the run has pushed so far. -/
structure Thread.Queues (thread : Thread Op D) : Prop where
  task : ∀ info ∈ thread.contexts, taskCount info.privateOpQueue = 0
  idle : thread.pc.share = 0 → ∀ info ∈ thread.contexts, descriptors info.privateOpQueue = []
  outer : ∀ info outer, thread.contexts = info :: outer →
    ∀ other ∈ outer, descriptors other.privateOpQueue = []
  once : ∀ info ∈ thread.contexts, (descriptors info.privateOpQueue).Nodup
  pushed : ∀ usec pushed info outer, thread.pc = .task usec pushed →
    thread.contexts = info :: outer → descriptors info.privateOpQueue = pushed

/-- Where the task operation and the descriptor states are. -/
structure Placed [Fintype T] (state : State T Op D) : Prop where
  share : (taskCount state.scheduler.opQueue : ℤ) + ∑ t, (state.thread t).pc.share ≤ 1
  absent : state.scheduler.task = false → state.scheduler.shutdown = false →
    (taskCount state.scheduler.opQueue : ℤ) + ∑ t, (state.thread t).pc.share ≤ 0
  destroying : ∀ t, (state.thread t).pc.Destroys → state.scheduler.shutdown = true
  queues : ∀ t, (state.thread t).Queues
  ordered : BeforeTask state.scheduler.opQueue
  once : (descriptors state.scheduler.opQueue).Nodup

/-- The private queue of a context holds user operations only. -/
structure ThreadInfo.Quiet (info : ThreadInfo Op D) : Prop where
  task : taskCount info.privateOpQueue = 0
  idle : descriptors info.privateOpQueue = []

section Threads

variable {thread : Thread Op D} {pc : Pc Op D} {signalling : Bool} {info : ThreadInfo Op D}
  {outer contexts : List (ThreadInfo Op D)}

theorem Thread.Queues.quiet (queues : thread.Queues) (share : thread.pc.share = 0) :
    ∀ info ∈ thread.contexts, info.Quiet := fun info member =>
  ⟨queues.task info member, queues.idle share info member⟩

/-- The outer contexts never run the task. -/
theorem Thread.Queues.outer_quiet (queues : thread.Queues)
    (same : thread.contexts = info :: outer) : ∀ other ∈ outer, other.Quiet := fun other member =>
  ⟨queues.task other (same ▸ List.mem_cons_of_mem _ member), queues.outer info outer same other member⟩

/-- A thread that does not run the task, with quiet contexts. -/
theorem queues_of_quiet (share : pc.share = 0) (quiet : ∀ info ∈ contexts, info.Quiet) :
    (⟨pc, signalling, contexts⟩ : Thread Op D).Queues where
  task info member := (quiet info member).task
  idle _ info member := (quiet info member).idle
  outer _ _ same other member := (quiet other (by
    simp only at same
    exact same ▸ List.mem_cons_of_mem _ member)).idle
  once info member := by
    rw [(quiet info member).idle]
    exact List.nodup_nil
  pushed _ _ _ _ here := by
    simp only at here
    rw [here] at share
    simp [Pc.share] at share

/-- A thread that runs the task or is about to reinsert it. -/
theorem queues_of_running (running : pc.share = 1) (task : taskCount info.privateOpQueue = 0)
    (quiet : ∀ other ∈ outer, other.Quiet) (once : (descriptors info.privateOpQueue).Nodup)
    (pushed : ∀ usec pushed, pc = .task usec pushed →
      descriptors info.privateOpQueue = pushed) :
    (⟨pc, signalling, info :: outer⟩ : Thread Op D).Queues where
  task other member := by
    rcases List.mem_cons.mp member with rfl | member
    · exact task
    · exact (quiet other member).task
  idle share := by
    simp only at share
    rw [running] at share
    contradiction
  outer _ _ same other member := by
    obtain ⟨-, rfl⟩ := List.cons.inj same
    exact (quiet other member).idle
  once other member := by
    rcases List.mem_cons.mp member with rfl | member
    · exact once
    · rw [(quiet other member).idle]
      exact List.nodup_nil
  pushed usec list _ _ here same := by
    obtain ⟨rfl, -⟩ := List.cons.inj same
    exact pushed usec list here

theorem quiet_cons (innermost : info.Quiet) (rest : ∀ other ∈ outer, other.Quiet) :
    ∀ other ∈ info :: outer, other.Quiet := by
  intro other member
  rcases List.mem_cons.mp member with rfl | member
  · exact innermost
  · exact rest other member

end Threads

section Preservation

variable [DecidableEq T] [Fintype T] {oneThread : Bool} {state next : State T Op D} {t : T}
  {info : ThreadInfo Op D} {outer contexts : List (ThreadInfo Op D)} {thread : Thread Op D}
  {action : Action T Op D} {thrown : Bool}

omit [DecidableEq T] in
theorem Placed.at {pc : Pc Op D} {signalling : Bool} (placed : Placed state)
    (here : state.thread t = ⟨pc, signalling, contexts⟩) (share : pc.share = 0) :
    ∀ info ∈ contexts, info.Quiet := by
  have quiet := (placed.queues t).quiet
  rw [here] at quiet
  exact quiet share

omit [DecidableEq T] [Fintype T] in
theorem share_nonneg (state : State T Op D) (t : T) : 0 ≤ (state.thread t).pc.share := by
  unfold Pc.share
  split <;> omega

omit [DecidableEq T] in
/-- While a thread runs the task, the main queue holds neither the task nor
descriptor states. -/
theorem Placed.running (placed : Placed state) (running : (state.thread t).pc.share = 1) :
    taskCount state.scheduler.opQueue = 0 ∧ descriptors state.scheduler.opQueue = [] := by
  have bound : (state.thread t).pc.share ≤ ∑ u, (state.thread u).pc.share :=
    Finset.single_le_sum (fun u _ => share_nonneg state u) (Finset.mem_univ t)
  have share := placed.share
  have absent : taskCount state.scheduler.opQueue = 0 := by omega
  exact ⟨absent, placed.ordered.descriptors_eq_nil absent⟩

/-- A step of one thread after which the main queue and the thread hold the task
no more often than before. -/
theorem Placed.change (placed : Placed state) (t : T) (thread : Thread Op D)
    (threads : next.thread = Function.update state.thread t thread)
    (opened : next.scheduler.task = false → next.scheduler.shutdown = false →
      state.scheduler.task = false)
    (closed : state.scheduler.shutdown = true → next.scheduler.shutdown = true)
    (share : (taskCount next.scheduler.opQueue : ℤ) + thread.pc.share ≤
      taskCount state.scheduler.opQueue + (state.thread t).pc.share)
    (queues : thread.Queues) (destroying : thread.pc.Destroys → next.scheduler.shutdown = true)
    (ordered : BeforeTask next.scheduler.opQueue)
    (once : (descriptors next.scheduler.opQueue).Nodup) : Placed next where
  share := by
    have before := placed.share
    rw [threads, FamilySum.sum_update fun thread : Thread Op D => thread.pc.share]
    omega
  absent noTask running := by
    have wasRunning : state.scheduler.shutdown = false := by
      cases past : state.scheduler.shutdown with
      | false => rfl
      | true => rw [closed past] at running; contradiction
    have before := placed.absent (opened noTask running) wasRunning
    rw [threads, FamilySum.sum_update fun thread : Thread Op D => thread.pc.share]
    omega
  destroying u := by
    rw [threads]
    by_cases same : u = t
    · subst same
      rw [Function.update_self]
      exact destroying
    · rw [Function.update_of_ne same]
      exact fun destroys => closed (placed.destroying u destroys)
  queues u := by
    rw [threads]
    by_cases same : u = t
    · subst same
      rw [Function.update_self]
      exact queues
    · rw [Function.update_of_ne same]
      exact placed.queues u
  ordered := ordered
  once := once

/-- A step of one thread that does not initialise the task or shut down. -/
theorem Placed.update (placed : Placed state) (t : T) (thread : Thread Op D)
    (threads : next.thread = Function.update state.thread t thread)
    (task : next.scheduler.task = state.scheduler.task)
    (shutdown : next.scheduler.shutdown = state.scheduler.shutdown)
    (share : (taskCount next.scheduler.opQueue : ℤ) + thread.pc.share =
      taskCount state.scheduler.opQueue + (state.thread t).pc.share)
    (queues : thread.Queues) (notDestroying : ¬ thread.pc.Destroys)
    (ordered : BeforeTask next.scheduler.opQueue)
    (once : (descriptors next.scheduler.opQueue).Nodup) : Placed next :=
  placed.change t thread threads (fun noTask _ => task ▸ noTask)
    (fun closed => shutdown.trans closed) share.le queues
    (fun destroys => absurd destroys notDestroying) ordered once

/-- A step of one thread that leaves the main queue alone. -/
theorem Placed.move (placed : Placed state) (t : T) (thread : Thread Op D)
    (threads : next.thread = Function.update state.thread t thread)
    (task : next.scheduler.task = state.scheduler.task)
    (shutdown : next.scheduler.shutdown = state.scheduler.shutdown)
    (opQueue : next.scheduler.opQueue = state.scheduler.opQueue)
    (share : thread.pc.share = (state.thread t).pc.share) (queues : thread.Queues)
    (notDestroying : ¬ thread.pc.Destroys) : Placed next :=
  placed.update t thread threads task shutdown (by rw [opQueue, share]) queues notDestroying
    (opQueue ▸ placed.ordered) (opQueue ▸ placed.once)

theorem Placed.turn {rest : Section Op} {turn : Turn Op D} (placed : Placed state)
    (here : state.thread t = ⟨.holding rest, false, info :: outer⟩)
    (turned : rest.turnOf oneThread state.scheduler info.entry = some turn) :
    Placed (state.turn t info outer turn) := by
  have zero : (.holding rest : Pc Op D).share = 0 := by
    cases rest with
    | taskCleanup thrown => simp [Section.turnOf] at turned
    | _ => rfl
  have before : (state.thread t).pc.share = 0 := by rw [here, zero]
  have quiet := placed.at here zero
  have rest : ∀ other ∈ outer, other.Quiet := fun other member =>
    quiet other (List.mem_cons_of_mem _ member)
  have innermost := quiet info List.mem_cons_self
  have started : ∀ {usec : ℤ} {signalling : Bool},
      (⟨.task usec [], signalling, info :: outer⟩ : Thread Op D).Queues := by
    intro usec signalling
    refine queues_of_running rfl innermost.task rest ?_ fun _ _ same => ?_
    · rw [innermost.idle]
      exact List.nodup_nil
    · cases same
      exact innermost.idle
  cases turned_of_turnOf turned with
  | leave _ =>
      exact placed.move t ⟨.user, false, outer⟩ rfl rfl rfl rfl before.symm
        (queues_of_quiet rfl rest) (by simp [Pc.Destroys])
  | handOver _ _ =>
      exact placed.move t ⟨.user, _, outer⟩ rfl rfl rfl rfl before.symm
        (queues_of_quiet rfl rest) (by simp [Pc.Destroys])
  | sleep _ _ _ =>
      exact placed.move t ⟨.waiting, false, info :: outer⟩ rfl rfl rfl rfl before.symm
        (queues_of_quiet rfl quiet) (by simp [Pc.Destroys])
  | @task ops usec queue _ =>
      have ordered := placed.ordered
      have once := placed.once
      rw [queue] at ordered once
      rw [dequeueTask_eq]
      refine placed.update t ⟨.task _ [], _, info :: outer⟩ rfl rfl rfl ?_ started
        (by simp [Pc.Destroys]) ordered once
      rw [before, queue]
      simp [State.turn, Pc.share]
  | @pollTask ops queue _ _ =>
      have ordered := placed.ordered
      have once := placed.once
      rw [queue] at ordered once
      refine placed.update t ⟨.task 0 [], false, info :: outer⟩ rfl rfl rfl ?_ started
        (by simp [Pc.Destroys]) ordered once
      rw [before, queue]
      simp [State.turn, Pc.share]
  | @perform descriptor ops queue =>
      have ordered := placed.ordered
      have once := placed.once
      rw [queue] at ordered once
      rw [turn_dequeue_perform]
      refine placed.update t ⟨.performIo descriptor, _, info :: outer⟩ rfl (by simp) (by simp) ?_
        (queues_of_quiet rfl quiet) (by simp [Pc.Destroys]) ?_ ?_
      · rw [before, queue]
        simp [Pc.share]
      · simpa using ordered.tail
      · simpa using once.tail
  | @complete op ops queue =>
      have ordered := placed.ordered
      have once := placed.once
      rw [queue] at ordered once
      rw [turn_dequeue_complete]
      refine placed.update t ⟨.user, _, { info with current := some op } :: outer⟩ rfl (by simp)
        (by simp) ?_ (queues_of_quiet rfl (quiet_cons ⟨innermost.task, innermost.idle⟩ rest))
        (by simp [Pc.Destroys]) ?_ ?_
      · rw [before, queue]
        simp [Pc.share]
      · simpa using ordered.tail
      · simpa using once

/-- A step of one thread that appends user operations to the main queue. -/
theorem Placed.append {queue : List (Operation Op D)} (placed : Placed state) (t : T)
    (thread : Thread Op D) (threads : next.thread = Function.update state.thread t thread)
    (task : next.scheduler.task = state.scheduler.task)
    (shutdown : next.scheduler.shutdown = state.scheduler.shutdown)
    (opQueue : next.scheduler.opQueue = state.scheduler.opQueue ++ queue)
    (noTask : taskCount queue = 0) (users : descriptors queue = [])
    (share : thread.pc.share = (state.thread t).pc.share) (queues : thread.Queues)
    (notDestroying : ¬ thread.pc.Destroys) : Placed next := by
  refine placed.update t thread threads task shutdown ?_ queues notDestroying ?_ ?_
  · rw [opQueue, share, taskCount_append, noTask]
    rfl
  · rw [opQueue]
    exact placed.ordered.append (.of_descriptors_nil users)
  · rw [opQueue, descriptors_append, users, List.append_nil]
    exact placed.once

/-- `~task_cleanup` queues what the run has collected, and the task behind it. -/
theorem Placed.reinsert (placed : Placed state) (t : T) (thread : Thread Op D)
    (here : state.thread t = ⟨.holding (.taskCleanup thrown), false, info :: outer⟩)
    (threads : next.thread = Function.update state.thread t thread)
    (scheduler : next.scheduler = state.scheduler.reinsertTask info.privateOpQueue)
    (share : thread.pc.share = 0) (quiet : ∀ other ∈ thread.contexts, other.Quiet)
    (notDestroying : ¬ thread.pc.Destroys) : Placed next := by
  have running : (state.thread t).pc.share = 1 := by
    rw [here]
    rfl
  obtain ⟨absent, clear⟩ := placed.running running
  have inside := placed.queues t
  rw [here] at inside
  have queue : next.scheduler.opQueue =
      state.scheduler.opQueue ++ info.privateOpQueue ++ [.task] := by
    rw [scheduler]
    rfl
  refine placed.update t thread threads ?_ ?_ ?_ (queues_of_quiet share quiet) notDestroying ?_ ?_
  · rw [scheduler]
    rfl
  · rw [scheduler]
    rfl
  · have none := inside.task info List.mem_cons_self
    rw [queue, share, running, taskCount_append, taskCount_append, absent, none]
    rfl
  · rw [queue]
    exact beforeTask_append_task _
  · rw [queue, descriptors_append, descriptors_append, clear]
    simpa using inside.once info List.mem_cons_self

theorem afterTask_share (entry : Entry) : (.holding entry.afterTask : Pc Op D).share = 0 := by
  cases entry <;> rfl

theorem afterWork_share (last thrown : Bool) : (Pc.afterWork last thrown : Pc Op D).share = 0 := by
  cases last <;> rfl

theorem Placed.run (placed : Placed state)
    (effect : RunEffect oneThread t info outer state next) : Placed next := by
  cases effect with
  | enter here _ =>
      exact placed.move t ⟨.holding .dispatch, false, info :: outer⟩ rfl rfl rfl rfl
        (by rw [here]; rfl) (queues_of_quiet rfl (placed.at here rfl)) (by simp [Pc.Destroys])
  | @splice outerInfo outermore here _ _ nested =>
      subst nested
      have quiet := placed.at here rfl
      have innermost := quiet info List.mem_cons_self
      have spliced := quiet outerInfo (List.mem_cons_of_mem _ List.mem_cons_self)
      have rest : ∀ other ∈ outermore, other.Quiet := fun other member =>
        quiet other (List.mem_cons_of_mem _ (List.mem_cons_of_mem _ member))
      exact placed.append t ⟨.holding .dispatch, false,
        info :: { outerInfo with privateOpQueue := [] } :: outermore⟩ rfl rfl rfl rfl spliced.task
        spliced.idle (by rw [here]; rfl)
        (queues_of_quiet rfl (quiet_cons innermost (quiet_cons ⟨rfl, rfl⟩ rest)))
        (by simp [Pc.Destroys])
  | turn here turned => exact placed.turn here turned
  | wakeSignalled here _ =>
      exact placed.move t ⟨.holding .dispatch, false, info :: outer⟩ rfl rfl rfl rfl
        (by rw [here]; rfl) (queues_of_quiet rfl (placed.at here rfl)) (by simp [Pc.Destroys])
  | sleepAgain here _ =>
      exact placed.move t ⟨.waiting, false, info :: outer⟩ rfl rfl rfl rfl (by rw [here]; rfl)
        (queues_of_quiet rfl (placed.at here rfl)) (by simp [Pc.Destroys])
  | wakeOnce here =>
      have quiet := placed.at here rfl
      have innermost := quiet info List.mem_cons_self
      have rest : ∀ other ∈ outer, other.Quiet := fun other member =>
        quiet other (List.mem_cons_of_mem _ member)
      exact placed.move t ⟨.holding .waited, false, { info with entry := .waitOne 0 } :: outer⟩ rfl
        rfl rfl rfl (by rw [here]; rfl)
        (queues_of_quiet rfl (quiet_cons ⟨innermost.task, innermost.idle⟩ rest))
        (by simp [Pc.Destroys])
  | taskCleanup here =>
      have inside := placed.queues t
      rw [here] at inside
      exact placed.reinsert t ⟨.holding info.entry.afterTask, false,
        { info with privateOpQueue := [] } :: outer⟩ here rfl rfl (afterTask_share _)
        (quiet_cons ⟨rfl, rfl⟩ (inside.outer_quiet rfl)) (by simp [Pc.Destroys])
  | taskThrown here =>
      have inside := placed.queues t
      rw [here] at inside
      exact placed.reinsert t ⟨.user, false, outer⟩ here rfl rfl rfl (inside.outer_quiet rfl)
        (by simp [Pc.Destroys])
  | flushOn here _ =>
      have quiet := placed.at here rfl
      have flushed := quiet info List.mem_cons_self
      have rest : ∀ other ∈ outer, other.Quiet := fun other member =>
        quiet other (List.mem_cons_of_mem _ member)
      exact placed.append t ⟨.holding .dispatch, false, { info with privateOpQueue := [] } :: outer⟩
        rfl rfl rfl rfl flushed.task flushed.idle (by rw [here]; rfl)
        (queues_of_quiet rfl (quiet_cons ⟨rfl, rfl⟩ rest)) (by simp [Pc.Destroys])
  | flushLeave here _ =>
      have quiet := placed.at here rfl
      have flushed := quiet info List.mem_cons_self
      have rest : ∀ other ∈ outer, other.Quiet := fun other member =>
        quiet other (List.mem_cons_of_mem _ member)
      exact placed.append t ⟨.user, false, outer⟩ rfl rfl rfl rfl flushed.task flushed.idle
        (by rw [here]; rfl) (queues_of_quiet rfl rest) (by simp [Pc.Destroys])
  | cleanup here =>
      have quiet := placed.at here rfl
      have innermost := quiet info List.mem_cons_self
      have rest : ∀ other ∈ outer, other.Quiet := fun other member =>
        quiet other (List.mem_cons_of_mem _ member)
      rw [workCleanup_eq]
      refine placed.move t ⟨.afterWork _ _, false, info.cleaned :: outer⟩ rfl rfl rfl rfl ?_
        (queues_of_quiet (afterWork_share _ _)
          (quiet_cons ⟨innermost.task, innermost.idle⟩ rest)) ?_
      · rw [here]
        exact afterWork_share _ _
      · unfold Pc.Destroys Pc.afterWork
        split <;> simp
  | flush here _ =>
      exact placed.move t ⟨.acquiring (.flush _), false, info :: outer⟩ rfl rfl rfl rfl
        (by rw [here]; rfl) (queues_of_quiet rfl (placed.at here rfl)) (by simp [Pc.Destroys])
  | goBack here _ _ =>
      exact placed.move t ⟨.acquiring .dispatch, false, info :: outer⟩ rfl rfl rfl rfl
        (by rw [here]; rfl) (queues_of_quiet rfl (placed.at here rfl)) (by simp [Pc.Destroys])
  | leave here _ =>
      have quiet := placed.at here rfl
      exact placed.move t ⟨.user, false, outer⟩ rfl rfl rfl rfl (by rw [here]; rfl)
        (queues_of_quiet rfl fun other member => quiet other (List.mem_cons_of_mem _ member))
        (by simp [Pc.Destroys])

/-- Posting puts user operations on a private queue at most. -/
theorem Posted.placed {ops : List Op} (posted : Posted oneThread t contexts ops state next)
    (placed : Placed state) (share : (state.thread t).pc.share = 0)
    (quiet : ∀ info ∈ contexts, info.Quiet) : Placed next := by
  cases posted with
  | nothing _ =>
      exact placed.move t ⟨.user, false, contexts⟩ rfl rfl rfl rfl share.symm
        (queues_of_quiet rfl quiet) (by simp [Pc.Destroys])
  | @here info outer inside _ =>
      subst inside
      have innermost := quiet info List.mem_cons_self
      have rest : ∀ other ∈ outer, other.Quiet := fun other member =>
        quiet other (List.mem_cons_of_mem _ member)
      refine placed.move t ⟨.user, false, { info with
        privateOpQueue := info.privateOpQueue ++ ops.map .user } :: outer⟩ rfl rfl rfl rfl
        share.symm (queues_of_quiet rfl (quiet_cons ⟨?_, ?_⟩ rest)) (by simp [Pc.Destroys])
      · simp [innermost.task]
      · simp [innermost.idle]
  | shared =>
      exact placed.move t ⟨.acquiring (.push ops), false, contexts⟩ rfl rfl rfl rfl share.symm
        (queues_of_quiet rfl quiet) (by simp [Pc.Destroys])

omit [DecidableEq T] [Fintype T] in
theorem share_woken (thread : Thread Op D) : thread.woken.pc.share = thread.pc.share := by
  unfold Thread.woken
  split
  · next waiting =>
      rw [waiting]
      rfl
  · rfl

omit [DecidableEq T] [Fintype T] in
theorem Thread.Queues.woken (queues : thread.Queues) : thread.woken.Queues := by
  unfold Thread.woken
  split
  · next waiting =>
      have share : thread.pc.share = 0 := by
        rw [waiting]
        rfl
      exact queues_of_quiet rfl (queues.quiet share)
  · exact queues

omit [DecidableEq T] in
theorem Placed.woken (placed : Placed state) : Placed state.stopAll where
  share := by
    simp only [stopAll_thread, share_woken, stopAll_scheduler, stopAllThreads_opQueue]
    exact placed.share
  absent := by
    simp only [stopAll_thread, share_woken, stopAll_scheduler, stopAllThreads_opQueue,
      stopAllThreads_task, stopAllThreads_shutdown]
    exact placed.absent
  destroying u := by
    rw [stopAll_thread, stopAll_scheduler, stopAllThreads_shutdown]
    unfold Thread.woken
    split
    · exact fun destroys => by simp [Pc.Destroys] at destroys
    · exact placed.destroying u
  queues u := (placed.queues u).woken
  ordered := by
    rw [stopAll_scheduler, stopAllThreads_opQueue]
    exact placed.ordered
  once := by
    rw [stopAll_scheduler, stopAllThreads_opQueue]
    exact placed.once

/-- The mutex is locked for the rest of a thread's critical section. -/
theorem Placed.acquire {rest : Section Op} (placed : Placed state)
    (here : state.thread t = ⟨.acquiring rest, false, contexts⟩)
    (threads : next.thread = Function.update state.thread t ⟨.holding rest, false, contexts⟩)
    (scheduler : next.scheduler = state.scheduler) : Placed next := by
  have share : (.holding rest : Pc Op D).share = (.acquiring rest : Pc Op D).share := by
    cases rest <;> rfl
  have inside := placed.queues t
  rw [here] at inside
  refine placed.move t _ threads (by rw [scheduler]) (by rw [scheduler]) (by rw [scheduler]) ?_ ?_
    (by simp [Pc.Destroys])
  · rw [here]
    exact share
  · exact
      { task := inside.task
        idle := fun idle => inside.idle (share.symm.trans idle)
        outer := inside.outer
        once := inside.once
        pushed := by simp }

/-- `init_task` queues the task that the scheduler does not have yet. -/
theorem Placed.initTask (placed : Placed state) (t : T) (thread : Thread Op D)
    (here : state.thread t = ⟨.holding .initTask, false, contexts⟩)
    (threads : next.thread = Function.update state.thread t thread)
    (none : state.scheduler.task = false) (opened : state.scheduler.shutdown = false)
    (task : next.scheduler.task = true)
    (shutdown : next.scheduler.shutdown = state.scheduler.shutdown)
    (opQueue : next.scheduler.opQueue = state.scheduler.opQueue ++ [.task])
    (share : thread.pc.share = 0) (queues : thread.Queues)
    (notDestroying : ¬ thread.pc.Destroys) : Placed next := by
  have idle : (state.thread t).pc.share = 0 := by
    rw [here]
    rfl
  have before := placed.absent none opened
  exact
    { share := by
        rw [threads, FamilySum.sum_update fun thread : Thread Op D => thread.pc.share, opQueue,
          taskCount_append, share, idle, taskCount_task, taskCount_nil]
        push_cast
        omega
      absent := fun absent => by
        rw [task] at absent
        contradiction
      destroying := by
        intro u
        rw [threads, shutdown]
        by_cases same : u = t
        · subst same
          rw [Function.update_self]
          exact fun destroys => absurd destroys notDestroying
        · rw [Function.update_of_ne same]
          exact placed.destroying u
      queues := by
        intro u
        rw [threads]
        by_cases same : u = t
        · subst same
          rw [Function.update_self]
          exact queues
        · rw [Function.update_of_ne same]
          exact placed.queues u
      ordered := by
        rw [opQueue]
        exact beforeTask_append_task _
      once := by
        rw [opQueue, descriptors_append]
        simpa using placed.once }

variable [DecidableEq Op]

theorem Placed.call (placed : Placed state)
    (effect : CallEffect oneThread t action contexts state next) : Placed next := by
  cases effect with
  | @request rest here requested =>
      have share : (.acquiring rest : Pc Op D).share = 0 := by
        rcases requested with rfl | rfl | rfl <;> rfl
      exact placed.move t ⟨.acquiring rest, false, contexts⟩ rfl rfl rfl rfl
        (by rw [here]; exact share) (queues_of_quiet share (placed.at here rfl))
        (by simp [Pc.Destroys])
  | close here _ _ =>
      exact placed.move t ⟨.acquiring .shutdown, false, contexts⟩ rfl rfl rfl rfl
        (by rw [here]; rfl) (queues_of_quiet rfl (placed.at here rfl)) (by simp [Pc.Destroys])
  | acquire here _ => exact placed.acquire here rfl rfl
  | @push ops here =>
      exact placed.append t ⟨.user, _, contexts⟩ rfl (by simp) (by simp) (by simp)
        (taskCount_map_user ops) (descriptors_map_user ops) (by rw [here]; rfl)
        (queues_of_quiet rfl (placed.at here rfl)) (by simp [Pc.Destroys])
  | @stop cleanup here =>
      have share : (.afterStop cleanup : Pc Op D).share = 0 := by
        cases cleanup <;> rfl
      refine placed.woken.move t ⟨.afterStop cleanup, false, contexts⟩ rfl rfl rfl rfl ?_
        (queues_of_quiet share (placed.at here rfl)) ?_
      · rw [stopAll_thread, share_woken, here]
        exact share
      · cases cleanup <;> simp [Pc.Destroys, Pc.afterStop]
  | restart here =>
      exact placed.move t ⟨.user, false, contexts⟩ rfl rfl rfl rfl (by rw [here]; rfl)
        (queues_of_quiet rfl (placed.at here rfl)) (by simp [Pc.Destroys])
  | initTask here none opened =>
      exact placed.initTask t ⟨.user, _, contexts⟩ here rfl none opened (by simp) (by simp)
        (by simp) rfl (queues_of_quiet rfl (placed.at here rfl)) (by simp [Pc.Destroys])
  | initAgain here =>
      exact placed.move t ⟨.user, false, contexts⟩ rfl rfl rfl rfl (by rw [here]; rfl)
        (queues_of_quiet rfl (placed.at here rfl)) (by simp [Pc.Destroys])
  | shutdown here =>
      refine placed.change t ⟨.destroying, false, contexts⟩ rfl (fun noTask _ => noTask)
        (fun _ => rfl) ?_ (queues_of_quiet rfl (placed.at here rfl)) (fun _ => rfl) placed.ordered
        placed.once
      rw [here]
      exact le_refl _
  | @destroy o opQueue here queue =>
      have ordered := placed.ordered
      have once := placed.once
      rw [queue] at ordered once
      refine placed.change t (state.thread t) (Function.update_eq_self t _).symm
        (fun noTask _ => noTask) id ?_ (placed.queues t) (placed.destroying t) ordered.tail ?_
      · rw [queue]
        cases o <;> simp
      · cases o with
        | task => exact once
        | user op => exact once
        | descriptor descriptor => exact once.tail
  | destroyed here _ =>
      have closed : state.scheduler.shutdown = true := by
        apply placed.destroying t
        unfold Pc.Destroys
        rw [here]
      refine placed.change t ⟨.user, false, contexts⟩ rfl (fun _ opened => ?_) id ?_
        (queues_of_quiet rfl (placed.at here rfl)) (fun _ => closed) placed.ordered placed.once
      · exact absurd (closed.symm.trans opened) (by decide)
      · rw [here]
        exact le_refl _
  | callStop here _ =>
      exact placed.move t ⟨.acquiring (.stop none), false, contexts⟩ rfl rfl rfl rfl
        (by rw [here]; rfl) (queues_of_quiet rfl (placed.at here rfl)) (by simp [Pc.Destroys])
  | @call entry here _ _ _ =>
      exact placed.move t ⟨.acquiring .enter, false,
        ⟨entry, state.history.contexts, [], 0, none, 0⟩ :: contexts⟩ rfl rfl rfl rfl
        (by rw [here]; rfl) (queues_of_quiet rfl (quiet_cons ⟨rfl, rfl⟩ (placed.at here rfl)))
        (by simp [Pc.Destroys])
  | @postHere op info outer here _ inside =>
      have quiet := placed.at here rfl
      subst inside
      have innermost := quiet info List.mem_cons_self
      have rest : ∀ other ∈ outer, other.Quiet := fun other member =>
        quiet other (List.mem_cons_of_mem _ member)
      refine placed.move t ⟨.user, false, { info with
        privateOutstandingWork := info.privateOutstandingWork + 1
        privateOpQueue := info.privateOpQueue ++ [.user op] } :: outer⟩ rfl rfl rfl rfl
        (by rw [here]) (queues_of_quiet rfl (quiet_cons ⟨?_, ?_⟩ rest)) (by simp [Pc.Destroys])
      · simp [innermost.task]
      · simp [innermost.idle]
  | @postShared op here _ =>
      exact placed.move t ⟨.acquiring (.push [op]), false, contexts⟩ rfl rfl rfl rfl
        (by rw [here]; rfl) (queues_of_quiet rfl (placed.at here rfl)) (by simp [Pc.Destroys])
  | startOp _ _ =>
      exact ⟨placed.share, placed.absent, placed.destroying, placed.queues, placed.ordered,
        placed.once⟩
  | @deferred _ ops here held posted =>
      have taken : Placed (state.takePending ops) :=
        ⟨placed.share, placed.absent, placed.destroying, placed.queues, placed.ordered,
          placed.once⟩
      exact posted.placed taken (by rw [takePending_thread, here]; rfl) (placed.at here rfl)
  | abandon _ _ _ =>
      exact ⟨placed.share, placed.absent, placed.destroying, placed.queues, placed.ordered,
        placed.once⟩
  | workStarted _ =>
      exact ⟨placed.share, placed.absent, placed.destroying, placed.queues, placed.ordered,
        placed.once⟩
  | @workFinished pc here _ place =>
      have share : pc.share = 0 := by
        rcases place with ⟨_, rfl⟩ | ⟨_, rfl⟩ <;> rfl
      refine placed.move t ⟨pc, false, contexts⟩ rfl rfl rfl rfl (by rw [here]; exact share)
        (queues_of_quiet share (placed.at here rfl)) ?_
      rcases place with ⟨_, rfl⟩ | ⟨_, rfl⟩ <;> simp [Pc.Destroys]
  | finish here _ =>
      exact placed.move t ⟨.cleanup _, false, contexts⟩ rfl rfl rfl rfl (by rw [here]; rfl)
        (queues_of_quiet rfl (placed.at here rfl)) (by simp [Pc.Destroys])

omit [DecidableEq T] [DecidableEq Op] in
/-- While a thread runs the task or is about to reinsert it, no other thread does. -/
theorem Placed.alone {u : T} (placed : Placed state) (running : (state.thread t).pc.share = 1)
    (other : u ≠ t) : (state.thread u).pc.share = 0 := by
  classical
  have shares : (state.thread t).pc.share + ∑ v ∈ Finset.univ.erase t, (state.thread v).pc.share =
      ∑ v, (state.thread v).pc.share :=
    Finset.add_sum_erase _ (fun v => (state.thread v).pc.share) (Finset.mem_univ t)
  have bound : (state.thread u).pc.share ≤
      ∑ v ∈ Finset.univ.erase t, (state.thread v).pc.share :=
    Finset.single_le_sum (fun v _ => share_nonneg state v)
      (Finset.mem_erase.mpr ⟨other, Finset.mem_univ u⟩)
  have nonneg := share_nonneg state u
  have share := placed.share
  omega

omit [DecidableEq T] [DecidableEq Op] in
/-- While a thread runs the task, the descriptor states in any queue are those
that this run has pushed. -/
theorem Placed.mem_pushed {usec : ℤ} {pushed : List D} {signalling : Bool} {descriptor : D}
    {u : T} {other : ThreadInfo Op D} (placed : Placed state)
    (here : state.thread t = ⟨.task usec pushed, signalling, info :: outer⟩)
    (inside : other ∈ (state.thread u).contexts)
    (member : .descriptor descriptor ∈ other.privateOpQueue) : descriptor ∈ pushed := by
  have running : (state.thread t).pc.share = 1 := by
    rw [here]
    rfl
  rw [← mem_descriptors] at member
  by_cases same : u = t
  · subst same
    have queues := placed.queues u
    rw [here] at inside queues
    rcases List.mem_cons.mp inside with rfl | outside
    · rwa [queues.pushed usec pushed other outer rfl rfl] at member
    · rw [(queues.outer_quiet rfl other outside).idle] at member
      exact absurd member List.not_mem_nil
  · have quiet := (placed.queues u).quiet (placed.alone running same) other inside
    rw [quiet.idle] at member
    exact absurd member List.not_mem_nil

omit [DecidableEq T] [DecidableEq Op] in
/-- While a thread runs the task, the test whether a descriptor state is queued
finds exactly those that this run has pushed. -/
theorem Placed.isEnqueued_iff {usec : ℤ} {pushed : List D} {signalling : Bool} {descriptor : D}
    (placed : Placed state)
    (here : state.thread t = ⟨.task usec pushed, signalling, info :: outer⟩) :
    state.IsEnqueued info.privateOpQueue (.descriptor descriptor) ↔ descriptor ∈ pushed := by
  have running : (state.thread t).pc.share = 1 := by
    rw [here]
    rfl
  have innermost : info ∈ (state.thread t).contexts := by
    rw [here]
    exact List.mem_cons_self
  constructor
  · rintro ((shared | ⟨u, other, inside, linked⟩) | last)
    · have member := mem_descriptors.mpr (List.mem_of_mem_dropLast shared)
      rw [(placed.running running).2] at member
      exact absurd member List.not_mem_nil
    · exact placed.mem_pushed here inside (List.mem_of_mem_dropLast linked)
    · exact placed.mem_pushed here innermost (List.mem_of_getLast? last)
  · intro member
    have queues := placed.queues t
    rw [here] at queues
    rw [← queues.pushed usec pushed info outer rfl rfl, mem_descriptors] at member
    rcases mem_dropLast_or_getLast? member with linked | last
    · exact Or.inl (Or.inr ⟨t, info, innermost, linked⟩)
    · exact Or.inr last

variable [DecidableEq D]

omit [DecidableEq D] in
theorem Placed.reactor (placed : Placed state)
    (effect : ReactorEffect oneThread t action info outer state next) : Placed next := by
  cases effect with
  | again _ _ => exact placed
  | @event usec pushed descriptor here fresh =>
      have inside := placed.queues t
      rw [here] at inside
      have collected := inside.pushed usec pushed info outer rfl rfl
      have new : descriptor ∉ pushed := fun member =>
        fresh ((placed.isEnqueued_iff here).mpr member)
      have once := inside.once info List.mem_cons_self
      refine placed.move t ⟨.task usec (pushed ++ [descriptor]), false, { info with
        privateOpQueue := info.privateOpQueue ++ [.descriptor descriptor] } :: outer⟩ rfl rfl rfl
        rfl (by rw [here]; rfl)
        (queues_of_running rfl ?_ (inside.outer_quiet rfl) ?_ fun _ _ same => ?_)
        (by simp [Pc.Destroys])
      · simp [inside.task info List.mem_cons_self]
      · rw [collected] at once
        simp [collected, List.nodup_append, once]
        exact fun other member same => new (same ▸ member)
      · cases same
        simp [collected]
  | @timers usec pushed ops here _ =>
      have inside := placed.queues t
      rw [here] at inside
      refine placed.move t ⟨.task usec pushed, false, { info with
        privateOpQueue := info.privateOpQueue ++ ops.map .user } :: outer⟩ rfl rfl rfl rfl
        (by rw [here]) (queues_of_running rfl ?_ (inside.outer_quiet rfl) ?_ fun _ _ same => ?_)
        (by simp [Pc.Destroys])
      · simp [inside.task info List.mem_cons_self]
      · simpa using inside.once info List.mem_cons_self
      · cases same
        simp [inside.pushed usec pushed info outer rfl rfl]
  | @taskReturn usec pushed thrown here _ =>
      have inside := placed.queues t
      rw [here] at inside
      exact placed.move t ⟨.acquiring (.taskCleanup thrown), false,
        { info with privateOutstandingWork := 0 } :: outer⟩ rfl rfl rfl rfl (by rw [here]; rfl)
        (queues_of_running rfl (inside.task info List.mem_cons_self) (inside.outer_quiet rfl)
          (inside.once info List.mem_cons_self) fun _ _ same => by simp at same)
        (by simp [Pc.Destroys])
  | performNone here =>
      have quiet := placed.at here rfl
      have innermost := quiet info List.mem_cons_self
      have rest : ∀ other ∈ outer, other.Quiet := fun other member =>
        quiet other (List.mem_cons_of_mem _ member)
      exact placed.move t ⟨.cleanup false, false, { info with
        privateOutstandingWork := info.privateOutstandingWork + 1
        compensations := info.compensations + 1 } :: outer⟩ rfl rfl rfl rfl (by rw [here]; rfl)
        (queues_of_quiet rfl (quiet_cons ⟨innermost.task, innermost.idle⟩ rest))
        (by simp [Pc.Destroys])
  | @perform _ descriptor first rest here _ posted =>
      have quiet := placed.at here rfl
      have innermost := quiet info List.mem_cons_self
      have outside : ∀ other ∈ outer, other.Quiet := fun other member =>
        quiet other (List.mem_cons_of_mem _ member)
      refine posted.placed ⟨placed.share, placed.absent, placed.destroying, placed.queues,
        placed.ordered, placed.once⟩ ?_ (quiet_cons ⟨innermost.task, innermost.idle⟩ outside)
      change (state.thread t).pc.share = 0
      rw [here]
      rfl

omit [DecidableEq Op] [DecidableEq D] in
/-- A thread has called `pthread_cond_signal`. -/
theorem Placed.silence (placed : Placed state) (t : T) :
    Placed (state.setThread t { state.thread t with signalling := false }) := by
  have inside := placed.queues t
  exact placed.change t { state.thread t with signalling := false } rfl (fun noTask _ => noTask) id
    (le_refl _) ⟨inside.task, inside.idle, inside.outer, inside.once, inside.pushed⟩
    (placed.destroying t) placed.ordered placed.once

omit [DecidableEq Op] [DecidableEq D] in
/-- A thread comes back from the wait on the condition variable. -/
theorem Placed.resume {signalling : Bool} (placed : Placed state)
    (here : state.thread t = ⟨.waiting, signalling, contexts⟩) :
    Placed (state.setThread t ⟨.acquiring .wake, signalling, contexts⟩) :=
  placed.move t ⟨.acquiring .wake, signalling, contexts⟩ rfl rfl rfl rfl (by rw [here]; rfl)
    (queues_of_quiet rfl (placed.at here rfl)) (by simp [Pc.Destroys])

omit [DecidableEq Op] [DecidableEq D] in
theorem Placed.wake (placed : Placed state) (effect : WakeEffect t state next) : Placed next := by
  cases effect with
  | signalNone _ _ => exact placed.silence t
  | @signal u _ waiting other =>
      have woken : (state.setThread t { state.thread t with signalling := false }).thread u =
          ⟨.waiting, (state.thread u).signalling, (state.thread u).contexts⟩ := by
        rw [setThread_thread, Function.update_of_ne other, ← waiting]
      exact (placed.silence t).resume woken
  | awaken here => exact placed.resume here

/-- The task and the descriptor states have their places in every reachable state. -/
theorem placed_of_reachable (reachable : (machine oneThread).Reachable state) :
    Placed state := by
  apply reachable.invariant
  · intro state isInitial
    subst isInitial
    have idle : ∀ t, ((State.initial : State T Op D).thread t).pc.share = 0 := fun _ => rfl
    have none : taskCount (State.initial : State T Op D).scheduler.opQueue = 0 := rfl
    exact
      { share := by simp [idle, none]
        absent := fun _ _ => by simp [idle, none]
        destroying := fun _ destroys => by
          simp [Pc.Destroys, State.initial] at destroys
        queues := fun _ => queues_of_quiet rfl fun _ member => absurd member List.not_mem_nil
        ordered := trivial
        once := List.nodup_nil }
  · intro state move next _ placed _ stepped
    cases effect_of_step stepped with
    | run effect => exact placed.run effect
    | call effect => exact placed.call effect
    | reactor effect => exact placed.reactor effect
    | wake effect => exact placed.wake effect

end Preservation

/-- A place inside `task_->run`. -/
def Pc.RunsTask (pc : Pc Op D) : Prop := ∃ usec pushed, pc = .task usec pushed

/-- The task is queued at most once, in the main queue only, and not while a
thread runs it; a run of the task begins with no descriptor state in any queue,
so the test whether one is queued finds those that the run itself has pushed. -/
structure OneInReactor (state : State T Op D) : Prop where
  queuedOnce : taskCount state.scheduler.opQueue ≤ 1
  notPrivate : ∀ t, ∀ info ∈ (state.thread t).contexts, .task ∉ info.privateOpQueue
  notQueued : ∀ t, (state.thread t).pc.RunsTask → .task ∉ state.scheduler.opQueue
  alone : ∀ t u, (state.thread t).pc.RunsTask → (state.thread u).pc.RunsTask → t = u
  unlinked : ∀ t usec, (state.thread t).pc = .task usec [] → ∀ descriptor : D,
    .descriptor descriptor ∉ state.scheduler.opQueue ∧
      ∀ u, ∀ info ∈ (state.thread u).contexts, .descriptor descriptor ∉ info.privateOpQueue
  isEnqueued : ∀ t usec pushed info outer descriptor, (state.thread t).pc = .task usec pushed →
    (state.thread t).contexts = info :: outer →
    (state.IsEnqueued info.privateOpQueue (.descriptor descriptor) ↔ descriptor ∈ pushed)

section OneInReactor

variable [DecidableEq T] [Fintype T] {state : State T Op D} {t : T}

theorem Pc.RunsTask.share {pc : Pc Op D} (runs : pc.RunsTask) : pc.share = 1 := by
  obtain ⟨usec, pushed, rfl⟩ := runs
  rfl

omit [DecidableEq T] in
theorem Placed.queuedOnce (placed : Placed state) : taskCount state.scheduler.opQueue ≤ 1 := by
  have shares := Finset.sum_nonneg fun t (_ : t ∈ Finset.univ) => share_nonneg state t
  have share := placed.share
  omega

omit [DecidableEq T] in
/-- A run of the task begins with no descriptor state in any queue. -/
theorem Placed.unlinked {usec : ℤ} (placed : Placed state)
    (begins : (state.thread t).pc = .task usec []) (shaped : Shaped state) (descriptor : D) :
    .descriptor descriptor ∉ state.scheduler.opQueue ∧
      ∀ u, ∀ info ∈ (state.thread u).contexts, .descriptor descriptor ∉ info.privateOpQueue := by
  have here : state.thread t =
      ⟨.task usec [], (state.thread t).signalling, (state.thread t).contexts⟩ := by
    rw [← begins]
  obtain ⟨info, outer, inside, -⟩ := shaped.at here rfl
  rw [inside] at here
  constructor
  · intro member
    have running : (state.thread t).pc.share = 1 := Pc.RunsTask.share ⟨_, _, begins⟩
    have linked := mem_descriptors.mpr member
    rw [(placed.running running).2] at linked
    exact absurd linked List.not_mem_nil
  · intro u other inside member
    exact absurd (placed.mem_pushed here inside member) List.not_mem_nil

/-- **One thread in the reactor.** Whatever the threads do, at most one of them
runs the task, and each run of the task begins with no descriptor state queued. -/
theorem oneInReactor_of_reachable [DecidableEq Op] [DecidableEq D] {oneThread : Bool}
    (reachable : (machine oneThread).Reachable state) : OneInReactor state := by
  have placed := placed_of_reachable reachable
  have shaped := shaped_of_reachable reachable
  exact
    { queuedOnce := placed.queuedOnce
      notPrivate := fun t info inside =>
        taskCount_eq_zero.mp ((placed.queues t).task info inside)
      notQueued := fun t runs => taskCount_eq_zero.mp (placed.running runs.share).1
      alone := by
        intro t u runs runsToo
        by_contra different
        have idle := placed.alone runs.share (Ne.symm different)
        rw [runsToo.share] at idle
        contradiction
      unlinked := fun t usec begins => placed.unlinked begins shaped
      isEnqueued := by
        intro t usec pushed info outer descriptor here inside
        have place : state.thread t =
            ⟨.task usec pushed, (state.thread t).signalling, info :: outer⟩ := by
          rw [← here, ← inside]
        exact placed.isEnqueued_iff place }

end OneInReactor

/-- A thread runs the task and pushes a descriptor state, while another posts. -/
def taskMoves : List (Fin 2 × Action (Fin 2) Nat Nat) :=
  [(0, .initTask), (0, .acquire), (0, .proceed), (0, .workStarted), (0, .call .run),
    (0, .acquire), (0, .proceed), (0, .proceed), (1, .post 1 false), (0, .event 7),
    (1, .acquire), (1, .proceed)]

theorem oneInReactor_taskMoves :
    ∃ state, (machine false).run .initial taskMoves = some state ∧ OneInReactor state := by
  have reached : (machine false).Reachable _ := .run (.initial rfl) taskMoves rfl
  exact ⟨_, rfl, oneInReactor_of_reachable reached⟩

end Asio.Scheduler
