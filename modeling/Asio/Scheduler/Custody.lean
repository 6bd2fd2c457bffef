import Asio.Scheduler.Closing

/-! # Custody of the operations

A user operation is in exactly one place at a time: it waits in a queue of the
reactor or of the timers, a thread is about to push it, or it has been handed to
the scheduler and is then queued, being completed, completed or destroyed. A step
makes at most one new operation and hands some operations over
(`delivered_of_step`); none ever comes back.
-/

namespace Asio.Scheduler

open State

variable {T Op D : Type*}

section Places

variable [DecidableEq Op]

/-- How often an operation is in the private queue of a context. -/
def ThreadInfo.queuedPrivately (info : ThreadInfo Op D) (op : Op) : ℕ :=
  (userOps info.privateOpQueue).count op

/-- Whether a context is completing an operation. -/
def ThreadInfo.completing (info : ThreadInfo Op D) (op : Op) : ℕ :=
  info.current.toList.count op

/-- How often an operation is in the private queues of a thread. -/
def Thread.queuedPrivately (thread : Thread Op D) (op : Op) : ℕ :=
  (thread.contexts.map fun info => info.queuedPrivately op).sum

/-- How many contexts of a thread are completing an operation. -/
def Thread.completing (thread : Thread Op D) (op : Op) : ℕ :=
  (thread.contexts.map fun info => info.completing op).sum

/-- Whether a thread is about to push an operation. -/
def Thread.aboutToPush (thread : Thread Op D) (op : Op) : ℕ := thread.pc.inTransit.count op

/-- How often an operation is in the main queue. -/
def State.queuedShared (state : State T Op D) (op : Op) : ℕ :=
  (userOps state.scheduler.opQueue).count op

/-- How often an operation has been completed or destroyed. -/
def State.disposed (state : State T Op D) (op : Op) : ℕ :=
  state.history.completed.count op + state.history.destroyed.count op

variable [Fintype T]

/-- How often an operation is in some private queue. -/
def State.queuedPrivately (state : State T Op D) (op : Op) : ℕ :=
  ∑ t, (state.thread t).queuedPrivately op

/-- How many contexts are completing an operation. -/
def State.completing (state : State T Op D) (op : Op) : ℕ :=
  ∑ t, (state.thread t).completing op

/-- How often an operation has been handed to the scheduler: it is in the main
queue, in a private queue, being completed, completed or destroyed. -/
def State.placed (state : State T Op D) (op : Op) : ℕ :=
  state.queuedShared op + state.queuedPrivately op + state.completing op + state.disposed op

/-- How often an operation is still to be handed to the scheduler: it waits in a
queue of the reactor or of the timers, or a thread is about to push it. -/
def State.unplaced (state : State T Op D) (op : Op) : ℕ :=
  state.pending.count op + ∑ t, (state.thread t).aboutToPush op

end Places

/-- What a step does with the operations: it makes the `fresh` ones and hands the
`handed` ones to the scheduler, and `complete` is called on as many as begin to be
completed. -/
structure Delivered [Fintype T] [DecidableEq Op] (fresh handed : List Op)
    (state next : State T Op D) : Prop where
  known : next.history.known = fresh ++ state.history.known
  once : state.history.known.Nodup → (fresh ++ state.history.known).Nodup
  placed : ∀ op, next.placed op = state.placed op + handed.count op
  unplaced : ∀ op, next.unplaced op + handed.count op = state.unplaced op + fresh.count op
  called : ∀ op, next.history.called.count op + state.completing op +
      state.history.completed.count op =
    state.history.called.count op + next.completing op + next.history.completed.count op
  pushes : ∃ pushes, next.history.pushes = state.history.pushes ++ pushes ∧
    ∀ push ∈ pushes, push.op ∈ handed
  leftBehind : next.history.leftBehind = state.history.leftBehind

section Steps

variable [DecidableEq T] [Fintype T] [DecidableEq Op] {oneThread : Bool}
  {state next : State T Op D} {t : T} {info : ThreadInfo Op D}
  {outer contexts : List (ThreadInfo Op D)} {action : Action T Op D} {fresh handed : List Op}

omit [DecidableEq T] in
/-- A step that moves no operation, and another one. -/
theorem Delivered.trans {middle : State T Op D} (first : Delivered [] [] state middle)
    (second : Delivered fresh handed middle next) : Delivered fresh handed state next where
  known := by rw [second.known, first.known, List.nil_append]
  once := by
    have once := second.once
    rwa [first.known, List.nil_append] at once
  placed op := by
    have moved := first.placed op
    have placed := second.placed op
    rw [List.count_nil] at moved
    omega
  unplaced op := by
    have moved := first.unplaced op
    have unplaced := second.unplaced op
    rw [List.count_nil] at moved
    omega
  called op := by
    have before := first.called op
    have after := second.called op
    omega
  pushes := by
    obtain ⟨none, before, unpushed⟩ := first.pushes
    obtain ⟨pushes, after, handed⟩ := second.pushes
    have empty : none = [] := List.eq_nil_iff_forall_not_mem.mpr fun push member =>
      absurd (unpushed push member) List.not_mem_nil
    refine ⟨pushes, ?_, handed⟩
    rw [after, before, empty, List.append_nil]
  leftBehind := second.leftBehind.trans first.leftBehind

/-- A step of one thread, by what it changes in the thread and in the members. -/
theorem delivered_update (t : T) (thread : Thread Op D)
    (threads : next.thread = Function.update state.thread t thread)
    (known : next.history.known = fresh ++ state.history.known)
    (once : state.history.known.Nodup → (fresh ++ state.history.known).Nodup)
    (placed : ∀ op, next.queuedShared op + next.disposed op + thread.queuedPrivately op +
        thread.completing op =
      state.queuedShared op + state.disposed op + (state.thread t).queuedPrivately op +
        (state.thread t).completing op + handed.count op)
    (unplaced : ∀ op, next.pending.count op + thread.aboutToPush op + handed.count op =
      state.pending.count op + (state.thread t).aboutToPush op + fresh.count op)
    (called : ∀ op, next.history.called.count op + (state.thread t).completing op +
        state.history.completed.count op =
      state.history.called.count op + thread.completing op + next.history.completed.count op)
    (pushes : ∃ pushes, next.history.pushes = state.history.pushes ++ pushes ∧
      ∀ push ∈ pushes, push.op ∈ handed)
    (leftBehind : next.history.leftBehind = state.history.leftBehind) :
    Delivered fresh handed state next where
  known := known
  once := once
  placed op := by
    have changed := placed op
    have queued := FamilySum.sum_update_add (fun thread : Thread Op D => thread.queuedPrivately op)
      state.thread t thread
    have completing := FamilySum.sum_update_add (fun thread : Thread Op D => thread.completing op)
      state.thread t thread
    simp only [← threads] at queued completing
    unfold State.placed State.queuedPrivately State.completing
    omega
  unplaced op := by
    have changed := unplaced op
    have pushing := FamilySum.sum_update_add (fun thread : Thread Op D => thread.aboutToPush op)
      state.thread t thread
    simp only [← threads] at pushing
    unfold State.unplaced
    omega
  called op := by
    have changed := called op
    have completing := FamilySum.sum_update_add (fun thread : Thread Op D => thread.completing op)
      state.thread t thread
    simp only [← threads] at completing
    unfold State.completing
    omega
  pushes := pushes
  leftBehind := leftBehind

/-- A step of one thread that makes no operation and hands none over. -/
theorem delivered_quiet (t : T) (thread : Thread Op D)
    (threads : next.thread = Function.update state.thread t thread)
    (known : next.history.known = state.history.known)
    (placed : ∀ op, next.queuedShared op + next.disposed op + thread.queuedPrivately op +
        thread.completing op =
      state.queuedShared op + state.disposed op + (state.thread t).queuedPrivately op +
        (state.thread t).completing op)
    (pending : next.pending = state.pending)
    (inTransit : thread.pc.inTransit = (state.thread t).pc.inTransit)
    (called : ∀ op, next.history.called.count op + (state.thread t).completing op +
        state.history.completed.count op =
      state.history.called.count op + thread.completing op + next.history.completed.count op)
    (pushes : next.history.pushes = state.history.pushes)
    (leftBehind : next.history.leftBehind = state.history.leftBehind) :
    Delivered [] [] state next := by
  refine delivered_update t thread threads known id placed ?_ called ⟨[], ?_, ?_⟩ leftBehind
  · intro op
    rw [pending, Thread.aboutToPush, inTransit]
    rfl
  · rw [pushes, List.append_nil]
  · exact fun _ member => absurd member List.not_mem_nil

/-- A step of one thread that leaves its operations where they are. -/
theorem delivered_alike (t : T) (thread : Thread Op D)
    (threads : next.thread = Function.update state.thread t thread)
    (inTransit : thread.pc.inTransit = (state.thread t).pc.inTransit)
    (queued : ∀ op, thread.queuedPrivately op = (state.thread t).queuedPrivately op)
    (completing : ∀ op, thread.completing op = (state.thread t).completing op)
    (opQueue : userOps next.scheduler.opQueue = userOps state.scheduler.opQueue)
    (pending : next.pending = state.pending)
    (history : next.history = { state.history with contexts := next.history.contexts }) :
    Delivered [] [] state next := by
  refine delivered_quiet t thread threads (by rw [history]) ?_ pending inTransit ?_
    (by rw [history]) (by rw [history])
  · intro op
    unfold State.queuedShared State.disposed
    rw [opQueue, history, queued, completing]
  · intro op
    rw [history, completing]

/-- A step of one thread that moves no operation. -/
theorem delivered_move (t : T) (thread : Thread Op D)
    (threads : next.thread = Function.update state.thread t thread)
    (inTransit : thread.pc.inTransit = (state.thread t).pc.inTransit)
    (contexts : thread.contexts = (state.thread t).contexts)
    (opQueue : userOps next.scheduler.opQueue = userOps state.scheduler.opQueue)
    (pending : next.pending = state.pending) (history : next.history = state.history) :
    Delivered [] [] state next := by
  refine delivered_alike t thread threads inTransit ?_ ?_ opQueue pending (by rw [history])
  · intro op
    rw [Thread.queuedPrivately, contexts]
    rfl
  · intro op
    rw [Thread.completing, contexts]
    rfl

/-- The private queue of the innermost context goes to the main queue. -/
theorem delivered_flush {pc after : Pc Op D} {signalling : Bool} (t : T)
    (here : state.thread t = ⟨pc, signalling, info :: outer⟩)
    (threads : next.thread = Function.update state.thread t
      ⟨after, false, { info with privateOpQueue := [] } :: outer⟩)
    (inTransit : after.inTransit = pc.inTransit)
    (opQueue : userOps next.scheduler.opQueue =
      userOps state.scheduler.opQueue ++ userOps info.privateOpQueue)
    (pending : next.pending = state.pending) (history : next.history = state.history) :
    Delivered [] [] state next := by
  refine delivered_quiet t _ threads (by rw [history]) ?_ pending (by rw [here, inTransit]) ?_
    (by rw [history]) (by rw [history])
  · intro op
    simp [here, State.queuedShared, State.disposed, Thread.queuedPrivately, Thread.completing,
      ThreadInfo.queuedPrivately, ThreadInfo.completing, opQueue, history]
    omega
  · intro op
    simp [here, Thread.completing, ThreadInfo.completing, history]

/-- A context goes out of scope, after its private queue has gone to the main queue. -/
theorem delivered_leave {pc : Pc Op D} {signalling after : Bool} (t : T)
    (here : state.thread t = ⟨pc, signalling, info :: outer⟩) (settled : info.Settled)
    (inTransit : pc.inTransit = []) (scheduler : Scheduler Op D)
    (opQueue : userOps scheduler.opQueue =
      userOps state.scheduler.opQueue ++ userOps info.privateOpQueue)
    (mutex : Option T) :
    Delivered [] [] state
      ({ state with mutex, scheduler }.leave t { info with privateOpQueue := [] } outer after) := by
  refine delivered_quiet t ⟨.user, after, outer⟩ rfl rfl ?_ rfl ?_ ?_ rfl ?_
  · intro op
    simp [here, State.queuedShared, State.disposed, State.leave, Thread.queuedPrivately,
      Thread.completing, ThreadInfo.queuedPrivately, ThreadInfo.completing, opQueue,
      settled.current]
    omega
  · rw [here, inTransit]
    rfl
  · intro op
    simp [here, State.leave, Thread.completing, ThreadInfo.completing, settled.current]
  · simp [State.leave]

theorem delivered_turn {rest : Section Op} {turn : Turn Op D} (shaped : Shaped state)
    (here : state.thread t = ⟨.holding rest, false, info :: outer⟩)
    (turned : rest.turnOf oneThread state.scheduler info.entry = some turn) :
    Delivered [] [] state (state.turn t info outer turn) := by
  obtain ⟨_, _, same, settled, flushed, -⟩ : PhaseShape .looking (info :: outer) :=
    shaped.at here (turnOf_phase turned)
  obtain ⟨rfl, rfl⟩ := List.cons.inj same
  have empty : info = { info with privateOpQueue := [] } := by rw [← flushed]
  have nothing : (.holding rest : Pc Op D).inTransit = [] := by
    cases rest with
    | push ops => simp [Section.turnOf] at turned
    | _ => rfl
  have transit : (state.thread t).pc.inTransit = [] := by rw [here, nothing]
  cases turned_of_turnOf turned with
  | leave _ =>
      have left : Delivered [] [] state ({ state with mutex := none }.leave t
          { info with privateOpQueue := [] } outer false) :=
        delivered_leave t here settled nothing state.scheduler (by simp [flushed]) none
      rwa [← empty] at left
  | handOver _ _ =>
      have left : Delivered [] [] state ({ state with
          mutex := none
          scheduler := { state.scheduler with
            wakeupEvent := state.scheduler.wakeupEvent.signalAll } }.leave t
          { info with privateOpQueue := [] } outer
            (decide (0 < state.scheduler.wakeupEvent.waiters))) :=
        delivered_leave t here settled nothing _ (by simp [flushed]) none
      rwa [← empty] at left
  | sleep _ _ _ =>
      refine delivered_move t ⟨.waiting, false, info :: outer⟩ rfl transit.symm ?_ rfl rfl rfl
      rw [here]
  | task queue _ =>
      rw [dequeueTask_eq]
      refine delivered_move t ⟨.task _ [], _, info :: outer⟩ rfl transit.symm ?_ ?_ rfl rfl
      · rw [here]
      · simp [State.turn, queue]
  | pollTask queue _ _ =>
      refine delivered_move t ⟨.task 0 [], false, info :: outer⟩ rfl transit.symm ?_ ?_ rfl rfl
      · rw [here]
      · simp [State.turn, queue]
  | @perform descriptor ops queue =>
      rw [turn_dequeue_perform]
      refine delivered_move t ⟨.performIo descriptor, _, info :: outer⟩ rfl transit.symm ?_ ?_ rfl
        rfl
      · rw [here]
      · simp [queue]
  | @complete op ops queue =>
      rw [turn_dequeue_complete]
      refine delivered_quiet t ⟨.user, _, { info with current := some op } :: outer⟩ rfl rfl ?_ rfl
        transit.symm ?_ rfl rfl
      · intro other
        simp [here, State.queuedShared, State.disposed, Thread.queuedPrivately, Thread.completing,
          ThreadInfo.queuedPrivately, ThreadInfo.completing, queue, settled.current,
          List.count_cons]
        omega
      · intro other
        simp [here, Thread.completing, ThreadInfo.completing, settled.current]
        omega

theorem delivered_run (shaped : Shaped state)
    (effect : RunEffect oneThread t info outer state next) : Delivered [] [] state next := by
  cases effect with
  | enter here _ =>
      exact delivered_move t ⟨.holding .dispatch, false, info :: outer⟩ rfl (by rw [here]; rfl)
        (by rw [here]) rfl rfl rfl
  | @splice outerInfo outermore here _ _ nested =>
      subst nested
      refine delivered_quiet t ⟨.holding .dispatch, false,
        info :: { outerInfo with privateOpQueue := [] } :: outermore⟩ rfl rfl ?_ rfl
        (by rw [here]; rfl) ?_ rfl rfl
      · intro op
        simp [here, State.queuedShared, State.disposed, Thread.queuedPrivately, Thread.completing,
          ThreadInfo.queuedPrivately, ThreadInfo.completing]
        omega
      · intro op
        simp [here, Thread.completing, ThreadInfo.completing]
  | turn here turned => exact delivered_turn shaped here turned
  | wakeSignalled here _ =>
      exact delivered_move t ⟨.holding .dispatch, false, info :: outer⟩ rfl (by rw [here]; rfl)
        (by rw [here]) rfl rfl rfl
  | sleepAgain here _ =>
      exact delivered_move t ⟨.waiting, false, info :: outer⟩ rfl (by rw [here]; rfl)
        (by rw [here]) rfl rfl rfl
  | wakeOnce here =>
      refine delivered_alike t ⟨.holding .waited, false, { info with entry := .waitOne 0 } :: outer⟩
        rfl (by rw [here]; rfl) ?_ ?_ rfl rfl rfl
      · intro op
        simp [here, Thread.queuedPrivately, ThreadInfo.queuedPrivately]
      · intro op
        simp [here, Thread.completing, ThreadInfo.completing]
  | taskCleanup here =>
      exact delivered_flush t here rfl (afterTask_inTransit _) (by simp) rfl rfl
  | taskThrown here =>
      obtain ⟨_, _, same, settled, -⟩ := shaped.at here rfl
      obtain ⟨rfl, rfl⟩ := List.cons.inj same
      exact delivered_leave t here settled rfl _ (by simp) none
  | flushOn here _ => exact delivered_flush t here rfl rfl (by simp) rfl rfl
  | flushLeave here _ =>
      obtain ⟨_, _, same, settled, -⟩ := shaped.at here rfl
      obtain ⟨rfl, rfl⟩ := List.cons.inj same
      exact delivered_leave t here settled rfl _ (by simp) none
  | cleanup here =>
      rw [workCleanup_eq]
      refine delivered_quiet t ⟨.afterWork _ _, false, info.cleaned :: outer⟩ rfl rfl ?_ rfl ?_ ?_
        rfl rfl
      · intro op
        simp [here, State.queuedShared, State.disposed, Thread.queuedPrivately, Thread.completing,
          ThreadInfo.queuedPrivately, ThreadInfo.completing, ThreadInfo.cleaned]
        omega
      · rw [here, afterWork_inTransit]
        rfl
      · intro op
        simp [here, Thread.completing, ThreadInfo.completing, ThreadInfo.cleaned]
        omega
  | flush here _ =>
      exact delivered_move t ⟨.acquiring (.flush _), false, info :: outer⟩ rfl (by rw [here]; rfl)
        (by rw [here]) rfl rfl rfl
  | goBack here _ _ =>
      exact delivered_move t ⟨.acquiring .dispatch, false, info :: outer⟩ rfl (by rw [here]; rfl)
        (by rw [here]) rfl rfl rfl
  | leave here flushed =>
      obtain ⟨_, _, same, settled, -⟩ := shaped.at here rfl
      obtain ⟨rfl, rfl⟩ := List.cons.inj same
      have left : Delivered [] [] state
          (state.leave t { info with privateOpQueue := [] } outer false) :=
        delivered_leave t here settled rfl state.scheduler (by simp [flushed]) state.mutex
      have empty : info = { info with privateOpQueue := [] } := by rw [← flushed]
      rwa [← empty] at left

omit [DecidableEq T] [Fintype T] in
theorem count_takePending {ops : List Op} (held : (ops : Multiset Op) ≤ state.pending) (op : Op) :
    (state.takePending ops).pending.count op + ops.count op = state.pending.count op := by
  have bound := Multiset.count_le_of_le op held
  rw [Multiset.coe_count] at bound
  rw [takePending_pending, Multiset.count_sub, Multiset.coe_count]
  omega

/-- Posting hands operations over or leaves them to the thread to push; `direct`
are those whose completion has begun before. -/
theorem Posted.delivered {ops : List Op} {middle : State T Op D} (direct : List Op)
    (posted : Posted oneThread t contexts ops middle next) (threads : middle.thread = state.thread)
    (known : middle.history.known = state.history.known)
    (pushes : middle.history.pushes = state.history.pushes)
    (leftBehind : middle.history.leftBehind = state.history.leftBehind)
    (inTransit : (state.thread t).pc.inTransit = [])
    (placed : ∀ op, middle.queuedShared op + middle.disposed op +
        (contexts.map fun info => info.queuedPrivately op).sum +
        (contexts.map fun info => info.completing op).sum =
      state.queuedShared op + state.disposed op + (state.thread t).queuedPrivately op +
        (state.thread t).completing op + direct.count op)
    (pending : ∀ op, middle.pending.count op + ops.count op + direct.count op =
      state.pending.count op)
    (called : ∀ op, middle.history.called.count op + (state.thread t).completing op +
        state.history.completed.count op =
      state.history.called.count op + (contexts.map fun info => info.completing op).sum +
        middle.history.completed.count op) :
    ∃ handed, Delivered [] handed state next := by
  have nothing : ∀ op, (state.thread t).aboutToPush op = 0 := by
    intro op
    rw [Thread.aboutToPush, inTransit, List.count_nil]
  have none : ∀ {handed : List Op}, ∃ pushes, state.history.pushes = state.history.pushes ++ pushes ∧
      ∀ push ∈ pushes, push.op ∈ handed :=
    ⟨[], (List.append_nil _).symm, fun _ member => absurd member List.not_mem_nil⟩
  cases posted with
  | nothing empty =>
      refine ⟨direct, delivered_update t ⟨.user, false, contexts⟩ ?_ known id placed ?_ called ?_
        leftBehind⟩
      · rw [setThread_thread, threads]
      · intro op
        have kept := pending op
        rw [empty] at kept
        rw [nothing, setThread_pending]
        exact kept
      · rw [setThread_history, pushes]
        exact none
  | @here info outer inside _ =>
      refine ⟨direct ++ ops, delivered_update t ⟨.user, false, { info with
        privateOpQueue := info.privateOpQueue ++ ops.map .user } :: outer⟩ ?_ known id ?_ ?_ ?_ ?_
        leftBehind⟩
      · rw [logPushes_thread, goOn_eq, setThread_thread, threads]
      · intro op
        have kept := placed op
        rw [inside] at kept
        simp only [State.queuedShared, State.disposed, Thread.queuedPrivately, Thread.completing,
          ThreadInfo.queuedPrivately, ThreadInfo.completing, goOn_eq, setThread_scheduler,
          State.logPushes, setThread_history, userOps_append, userOps_map_user, List.map_cons,
          List.sum_cons, List.count_append] at kept ⊢
        omega
      · intro op
        have kept := pending op
        rw [nothing, logPushes_pending, goOn_eq, setThread_pending, List.count_append]
        change _ + 0 + _ = _
        rw [List.count_nil]
        omega
      · intro op
        have kept := called op
        rw [inside] at kept
        exact kept
      · refine ⟨ops.map fun op => ⟨some info.id, t, op⟩, ?_, ?_⟩
        · rw [← pushes]
          rfl
        · intro push member
          obtain ⟨op, pushed, rfl⟩ := List.mem_map.mp member
          exact List.mem_append_right _ pushed
  | shared =>
      refine ⟨direct, delivered_update t ⟨.acquiring (.push ops), false, contexts⟩ ?_ known id placed
        ?_ called ?_ leftBehind⟩
      · rw [setThread_thread, threads]
      · intro op
        have kept := pending op
        rw [nothing, setThread_pending, List.count_nil]
        change _ + ops.count op + _ = _
        omega
      · rw [setThread_history, pushes]
        exact none

omit [DecidableEq T] [Fintype T] [DecidableEq Op] in
/-- A new operation is none of those made before. -/
theorem nodup_fresh {op : Op} (fresh : op ∉ state.history.known)
    (once : state.history.known.Nodup) : ([op] ++ state.history.known).Nodup :=
  List.nodup_cons.mpr ⟨fresh, once⟩

omit [DecidableEq T] [Fintype T] [DecidableEq Op] in
theorem woken_inTransit (thread : Thread Op D) : thread.woken.pc.inTransit = thread.pc.inTransit := by
  unfold Thread.woken
  split
  · next waiting =>
      rw [waiting]
      rfl
  · rfl

omit [DecidableEq T] in
/-- Waking all threads moves no operation. -/
theorem delivered_stopAll : Delivered [] [] state state.stopAll where
  known := rfl
  once := id
  placed op := by
    simp [State.placed, State.queuedShared, State.queuedPrivately, State.completing,
      State.disposed, Thread.queuedPrivately, Thread.completing, woken_contexts]
  unplaced op := by simp [State.unplaced, Thread.aboutToPush, woken_inTransit]
  called op := by simp [State.completing, Thread.completing, woken_contexts]
  pushes := ⟨[], (List.append_nil _).symm, fun _ member => absurd member List.not_mem_nil⟩
  leftBehind := rfl

theorem delivered_call (effect : CallEffect oneThread t action contexts state next) :
    ∃ fresh handed, Delivered fresh handed state next := by
  have none : ∀ {handed : List Op}, ∃ pushes, state.history.pushes = state.history.pushes ++ pushes ∧
      ∀ push ∈ pushes, push.op ∈ handed :=
    ⟨[], (List.append_nil _).symm, fun _ member => absurd member List.not_mem_nil⟩
  cases effect with
  | @request rest here requested =>
      have transit : (.acquiring rest : Pc Op D).inTransit = [] := by
        rcases requested with rfl | rfl | rfl <;> rfl
      exact ⟨[], [], delivered_move t ⟨.acquiring rest, false, contexts⟩ rfl
        (by rw [here]; exact transit) (by rw [here]) rfl rfl rfl⟩
  | close here _ _ =>
      exact ⟨[], [], delivered_move t ⟨.acquiring .shutdown, false, contexts⟩ rfl
        (by rw [here]; rfl) (by rw [here]) rfl rfl rfl⟩
  | @acquire rest here _ =>
      exact ⟨[], [], delivered_move t ⟨.holding rest, false, contexts⟩ rfl
        (by rw [here]; exact inTransit_holding rest) (by rw [here]) rfl rfl rfl⟩
  | @push ops here =>
      refine ⟨[], ops, delivered_update t ⟨.user, _, contexts⟩ rfl rfl id ?_ ?_ ?_
        ⟨ops.map fun op => ⟨Option.none, t, op⟩, rfl, ?_⟩ rfl⟩
      · intro op
        simp [here, State.queuedShared, State.disposed, State.logPushes, Thread.queuedPrivately,
          Thread.completing]
        omega
      · intro op
        simp [here, Thread.aboutToPush, Pc.inTransit]
      · intro op
        simp [here, State.logPushes, Thread.completing]
      · intro push member
        obtain ⟨op, pushed, rfl⟩ := List.mem_map.mp member
        exact pushed
  | @stop cleanup here =>
      have moved : Delivered [] [] state.stopAll
          (state.stopAll.setThread t ⟨.afterStop cleanup, false, contexts⟩) := by
        refine delivered_move t ⟨.afterStop cleanup, false, contexts⟩ rfl ?_ ?_ rfl rfl rfl
        · rw [stopAll_thread, woken_inTransit, here]
          exact inTransit_afterStop cleanup
        · rw [stopAll_thread, woken_contexts, here]
      exact ⟨[], [], delivered_stopAll.trans moved⟩
  | restart here =>
      exact ⟨[], [], delivered_move t ⟨.user, false, contexts⟩ rfl (by rw [here]; rfl)
        (by rw [here]) rfl rfl rfl⟩
  | initTask here _ _ =>
      exact ⟨[], [], delivered_move t ⟨.user, _, contexts⟩ rfl (by rw [here]; rfl) (by rw [here])
        (by simp) rfl rfl⟩
  | initAgain here =>
      exact ⟨[], [], delivered_move t ⟨.user, false, contexts⟩ rfl (by rw [here]; rfl)
        (by rw [here]) rfl rfl rfl⟩
  | shutdown here =>
      exact ⟨[], [], delivered_move t ⟨.destroying, false, contexts⟩ rfl (by rw [here]; rfl)
        (by rw [here]) rfl rfl rfl⟩
  | @destroy o opQueue here queue =>
      refine ⟨[], [], delivered_quiet t (state.thread t) (Function.update_eq_self t _).symm rfl ?_ rfl
        rfl (fun _ => rfl) rfl rfl⟩
      intro op
      unfold State.queuedShared State.disposed
      cases o with
      | task => simp [queue]
      | descriptor descriptor => simp [queue]
      | user first =>
          simp [queue, List.count_cons]
          omega
  | destroyed here _ =>
      exact ⟨[], [], delivered_move t ⟨.user, false, contexts⟩ rfl (by rw [here]; rfl)
        (by rw [here]) rfl rfl rfl⟩
  | callStop here _ =>
      exact ⟨[], [], delivered_move t ⟨.acquiring (.stop Option.none), false, contexts⟩ rfl
        (by rw [here]; rfl) (by rw [here]) rfl rfl rfl⟩
  | @call entry here _ _ _ =>
      refine ⟨[], [], delivered_alike t ⟨.acquiring .enter, false,
        ⟨entry, state.history.contexts, [], 0, Option.none, 0⟩ :: contexts⟩ rfl
        (by rw [here]; rfl) ?_ ?_ rfl rfl rfl⟩
      · intro op
        simp [here, Thread.queuedPrivately, ThreadInfo.queuedPrivately]
      · intro op
        simp [here, Thread.completing, ThreadInfo.completing]
  | @postHere op info outer here fresh inside =>
      subst inside
      refine ⟨[op], [op], delivered_update t ⟨.user, false, { info with
        privateOutstandingWork := info.privateOutstandingWork + 1
        privateOpQueue := info.privateOpQueue ++ [.user op] } :: outer⟩ rfl rfl (nodup_fresh fresh)
        ?_ ?_ ?_ ⟨[⟨some info.id, t, op⟩], rfl, by simp⟩ rfl⟩
      · intro other
        simp [here, State.queuedShared, State.disposed, State.logPushes, Thread.queuedPrivately,
          Thread.completing, ThreadInfo.queuedPrivately, ThreadInfo.completing]
        omega
      · intro other
        simp [here, Thread.aboutToPush, Pc.inTransit]
      · intro other
        simp [here, State.logPushes, Thread.completing, ThreadInfo.completing]
  | @postShared op here fresh =>
      refine ⟨[op], [], delivered_update t ⟨.acquiring (.push [op]), false, contexts⟩ rfl rfl
        (nodup_fresh fresh) ?_ ?_ ?_ none rfl⟩
      · intro other
        simp [here, State.queuedShared, State.disposed, Thread.queuedPrivately, Thread.completing]
      · intro other
        simp [here, Thread.aboutToPush, Pc.inTransit]
      · intro other
        simp [here, Thread.completing]
  | @startOp op here fresh =>
      refine ⟨[op], [], delivered_update t (state.thread t) (Function.update_eq_self t _).symm rfl
        (nodup_fresh fresh) (fun _ => rfl) ?_ (fun _ => rfl) none rfl⟩
      intro other
      by_cases same : other = op
      · subst same
        simp
        omega
      · simp [same, Ne.symm same]
  | @deferred _ ops here held posted =>
      refine ⟨[], posted.delivered [] rfl rfl rfl rfl (by rw [here]; rfl) ?_ ?_ ?_⟩
      · intro op
        rw [here]
        rfl
      · intro op
        rw [List.count_nil]
        exact count_takePending held op
      · intro op
        rw [here]
        rfl
  | @abandon ops here held _ =>
      refine ⟨[], ops, delivered_update t (state.thread t) (Function.update_eq_self t _).symm rfl id
        ?_ ?_ (fun _ => rfl) none rfl⟩
      · intro op
        simp [State.queuedShared, State.disposed]
        omega
      · intro op
        have taken := count_takePending held op
        simp only [takePending_pending] at taken
        simp
        omega
  | workStarted here =>
      exact ⟨[], [], delivered_move t (state.thread t) (Function.update_eq_self t _).symm rfl rfl rfl
        rfl rfl⟩
  | @workFinished pc here _ place =>
      have transit : pc.inTransit = [] := by
        rcases place with ⟨_, rfl⟩ | ⟨_, rfl⟩ <;> rfl
      exact ⟨[], [], delivered_move t ⟨pc, false, contexts⟩ rfl (by rw [here]; exact transit)
        (by rw [here]) rfl rfl rfl⟩
  | finish here _ =>
      exact ⟨[], [], delivered_move t ⟨.cleanup _, false, contexts⟩ rfl (by rw [here]; rfl)
        (by rw [here]) rfl rfl rfl⟩

variable [DecidableEq D]

omit [DecidableEq D] in
theorem delivered_reactor (shaped : Shaped state)
    (effect : ReactorEffect oneThread t action info outer state next) :
    ∃ handed, Delivered [] handed state next := by
  cases effect with
  | again _ _ =>
      exact ⟨[], delivered_move t (state.thread t) (Function.update_eq_self t _).symm rfl rfl rfl rfl
        rfl⟩
  | @event usec pushed descriptor here _ =>
      refine ⟨[], delivered_alike t ⟨.task usec (pushed ++ [descriptor]), false, { info with
        privateOpQueue := info.privateOpQueue ++ [.descriptor descriptor] } :: outer⟩ rfl
        (by rw [here]; rfl) ?_ ?_ rfl rfl rfl⟩
      · intro op
        simp [here, Thread.queuedPrivately, ThreadInfo.queuedPrivately]
      · intro op
        simp [here, Thread.completing, ThreadInfo.completing]
  | @timers usec pushed ops here held =>
      refine ⟨ops, delivered_update t ⟨.task usec pushed, false, { info with
        privateOpQueue := info.privateOpQueue ++ ops.map .user } :: outer⟩ rfl rfl id ?_ ?_ ?_
        ⟨ops.map fun op => ⟨some info.id, t, op⟩, rfl, ?_⟩ rfl⟩
      · intro op
        simp [here, State.queuedShared, State.disposed, State.logPushes, Thread.queuedPrivately,
          Thread.completing, ThreadInfo.queuedPrivately, ThreadInfo.completing]
        omega
      · intro op
        have taken := count_takePending held op
        rw [here]
        exact taken
      · intro op
        simp [here, State.logPushes, Thread.completing, ThreadInfo.completing]
      · intro push member
        obtain ⟨op, pushed, rfl⟩ := List.mem_map.mp member
        exact pushed
  | @taskReturn usec pushed thrown here _ =>
      refine ⟨[], delivered_alike t ⟨.acquiring (.taskCleanup thrown), false,
        { info with privateOutstandingWork := 0 } :: outer⟩ rfl (by rw [here]; rfl) ?_ ?_ rfl rfl
        rfl⟩
      · intro op
        simp [here, Thread.queuedPrivately, ThreadInfo.queuedPrivately]
      · intro op
        simp [here, Thread.completing, ThreadInfo.completing]
  | performNone here =>
      refine ⟨[], delivered_alike t ⟨.cleanup false, false, { info with
        privateOutstandingWork := info.privateOutstandingWork + 1
        compensations := info.compensations + 1 } :: outer⟩ rfl (by rw [here]; rfl) ?_ ?_ rfl rfl
        rfl⟩
      · intro op
        simp [here, Thread.queuedPrivately, ThreadInfo.queuedPrivately]
      · intro op
        simp [here, Thread.completing, ThreadInfo.completing]
  | @perform _ descriptor first rest here held posted =>
      obtain ⟨_, _, same, settled, -⟩ := shaped.at here rfl
      obtain ⟨rfl, rfl⟩ := List.cons.inj same
      -- The first operation is completed by the descriptor state itself.
      refine posted.delivered [first] rfl rfl rfl rfl (by rw [here]; rfl) ?_ ?_ ?_
      · intro op
        simp [here, State.queuedShared, State.disposed, Thread.queuedPrivately, Thread.completing,
          ThreadInfo.queuedPrivately, ThreadInfo.completing, settled.current]
        omega
      · intro op
        have taken := count_takePending held op
        rw [List.count_cons] at taken
        rw [List.count_singleton]
        change (state.takePending (first :: rest)).pending.count op + _ + _ = _
        omega
      · intro op
        simp [here, Thread.completing, ThreadInfo.completing, settled.current]
        omega

omit [DecidableEq D] in
theorem delivered_wake (effect : WakeEffect t state next) : Delivered [] [] state next := by
  cases effect with
  | signalNone _ _ =>
      exact delivered_move t { state.thread t with signalling := false } rfl rfl rfl rfl rfl rfl
  | @signal u _ waiting other =>
      have silent : Delivered [] [] state
          (state.setThread t { state.thread t with signalling := false }) :=
        delivered_move t { state.thread t with signalling := false } rfl rfl rfl rfl rfl rfl
      have there : (state.setThread t { state.thread t with signalling := false }).thread u =
          state.thread u := by
        rw [setThread_thread, Function.update_of_ne other]
      refine silent.trans (delivered_move u { state.thread u with pc := .acquiring .wake } rfl ?_ ?_
        rfl rfl rfl)
      · rw [there, waiting]
        rfl
      · rw [there]
  | @awaken contexts here =>
      exact delivered_move t ⟨.acquiring .wake, false, contexts⟩ rfl (by rw [here]; rfl)
        (by rw [here]) rfl rfl rfl

/-- Every step makes some new operations and hands some over, and no operation is
left behind when a context goes out of scope. -/
theorem delivered_of_step {move : T × Action T Op D} (shaped : Shaped state)
    (stepped : (machine oneThread).step state move = some next) :
    ∃ fresh handed, Delivered fresh handed state next := by
  cases effect_of_step stepped with
  | run effect => exact ⟨[], [], delivered_run shaped effect⟩
  | call effect => exact delivered_call effect
  | reactor effect => exact ⟨[], delivered_reactor shaped effect⟩
  | wake effect => exact ⟨[], [], delivered_wake effect⟩

/-- Every operation is in one place; `complete` is called on an operation when it
begins to be completed, and nothing is left behind. -/
structure Kept (state : State T Op D) : Prop where
  once : state.history.known.Nodup
  place : ∀ op, state.placed op + state.unplaced op = state.history.known.count op
  called : ∀ op, state.history.called.count op =
    state.completing op + state.history.completed.count op
  handed : ∀ push ∈ state.history.pushes, 0 < state.placed push.op
  leftBehind : state.history.leftBehind = []

omit [DecidableEq T] [DecidableEq D] in
theorem Kept.step (kept : Kept state) (delivered : Delivered fresh handed state next) :
    Kept next where
  once := by
    rw [delivered.known]
    exact delivered.once kept.once
  place op := by
    have before := kept.place op
    have placed := delivered.placed op
    have unplaced := delivered.unplaced op
    rw [delivered.known, List.count_append]
    omega
  called op := by
    have before := kept.called op
    have called := delivered.called op
    omega
  handed := by
    obtain ⟨pushes, pushed, new⟩ := delivered.pushes
    intro push member
    have placed := delivered.placed push.op
    rw [pushed] at member
    rcases List.mem_append.mp member with old | member
    · have before := kept.handed push old
      omega
    · have once := List.count_pos_iff.mpr (new push member)
      omega
  leftBehind := delivered.leftBehind.trans kept.leftBehind

/-- Every operation is in one place in every reachable state. -/
theorem kept_of_reachable (reachable : (machine oneThread).Reachable state) : Kept state := by
  apply reachable.invariant
  · intro state isInitial
    subst isInitial
    exact
      { once := List.nodup_nil
        place := fun op => by
          simp [State.placed, State.unplaced, State.queuedShared, State.queuedPrivately,
            State.completing, State.disposed, Thread.queuedPrivately, Thread.completing,
            Thread.aboutToPush, Pc.inTransit, State.initial, Scheduler.initial]
        called := fun op => by
          simp [State.completing, Thread.completing, State.initial]
        handed := fun _ member => absurd member List.not_mem_nil
        leftBehind := rfl }
  · intro state move next reached kept _ stepped
    obtain ⟨fresh, handed, delivered⟩ :=
      delivered_of_step (shaped_of_reachable reached.reachable) stepped
    exact kept.step delivered

end Steps

end Asio.Scheduler
