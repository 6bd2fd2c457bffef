import Asio.Scheduler.Turn

/-! # The shape of a thread

Where a thread is decides what its contexts look like: outer contexts are
completing a user operation, and so is the innermost one while user code runs;
a thread that looks for an operation has flushed its private queue and settled
its count of private work.
-/

namespace Asio.Scheduler

open State

variable {T Op D : Type*}

/-! The fields that the building blocks of the steps leave alone. -/

section Fields

variable (state : State T Op D) (t : T) (queue : Option Nat) (ops : List Op)

@[simp] theorem logPushes_thread : (state.logPushes queue t ops).thread = state.thread := rfl

@[simp] theorem logPushes_mutex : (state.logPushes queue t ops).mutex = state.mutex := rfl

@[simp] theorem logPushes_scheduler :
    (state.logPushes queue t ops).scheduler = state.scheduler := rfl

@[simp] theorem logPushes_pending : (state.logPushes queue t ops).pending = state.pending := rfl

@[simp] theorem logPushes_guards : (state.logPushes queue t ops).guards = state.guards := rfl

@[simp] theorem logPushes_closing : (state.logPushes queue t ops).closing = state.closing := rfl

@[simp] theorem stopAll_thread (u : T) : state.stopAll.thread u = (state.thread u).woken := rfl

@[simp] theorem stopAll_scheduler :
    state.stopAll.scheduler = state.scheduler.stopAllThreads := rfl

@[simp] theorem stopAll_mutex : state.stopAll.mutex = none := rfl

@[simp] theorem stopAll_pending : state.stopAll.pending = state.pending := rfl

@[simp] theorem stopAll_guards : state.stopAll.guards = state.guards := rfl

@[simp] theorem stopAll_closing : state.stopAll.closing = state.closing := rfl

@[simp] theorem stopAll_history : state.stopAll.history = state.history := rfl

section Pending

variable [DecidableEq Op]

@[simp] theorem takePending_thread : (state.takePending ops).thread = state.thread := rfl

@[simp] theorem takePending_mutex : (state.takePending ops).mutex = state.mutex := rfl

@[simp] theorem takePending_scheduler : (state.takePending ops).scheduler = state.scheduler := rfl

@[simp] theorem takePending_pending :
    (state.takePending ops).pending = state.pending - (ops : Multiset Op) := rfl

@[simp] theorem takePending_guards : (state.takePending ops).guards = state.guards := rfl

@[simp] theorem takePending_closing : (state.takePending ops).closing = state.closing := rfl

@[simp] theorem takePending_history : (state.takePending ops).history = state.history := rfl

end Pending

section Threads

variable [DecidableEq T] (thread : Thread Op D) (pc : Pc Op D) (info : ThreadInfo Op D)
  (outer : List (ThreadInfo Op D)) (signalling : Bool)

@[simp] theorem setThread_thread :
    (state.setThread t thread).thread = Function.update state.thread t thread := rfl

@[simp] theorem setThread_mutex : (state.setThread t thread).mutex = state.mutex := rfl

@[simp] theorem setThread_scheduler :
    (state.setThread t thread).scheduler = state.scheduler := rfl

@[simp] theorem setThread_pending : (state.setThread t thread).pending = state.pending := rfl

@[simp] theorem setThread_guards : (state.setThread t thread).guards = state.guards := rfl

@[simp] theorem setThread_closing : (state.setThread t thread).closing = state.closing := rfl

@[simp] theorem setThread_history : (state.setThread t thread).history = state.history := rfl

@[simp] theorem goOn_eq :
    state.goOn t pc info outer = state.setThread t ⟨pc, false, info :: outer⟩ := rfl

@[simp] theorem leave_thread : (state.leave t info outer signalling).thread =
    Function.update state.thread t ⟨.user, signalling, outer⟩ := rfl

@[simp] theorem leave_mutex : (state.leave t info outer signalling).mutex = state.mutex := rfl

@[simp] theorem leave_scheduler :
    (state.leave t info outer signalling).scheduler = state.scheduler := rfl

@[simp] theorem leave_pending : (state.leave t info outer signalling).pending = state.pending := rfl

@[simp] theorem leave_guards : (state.leave t info outer signalling).guards = state.guards := rfl

@[simp] theorem leave_closing : (state.leave t info outer signalling).closing = state.closing := rfl

end Threads

end Fields

/-- What the innermost context of a thread is doing. -/
inductive Phase where
  | calling
  | looking
  | gathering
  | finishing
  deriving DecidableEq

/-- The phase of a critical section. -/
def Section.phase {Op : Type*} : Section Op → Phase
  | .enter | .dispatch | .wake | .waited | .afterTask => .looking
  | .taskCleanup _ | .flush _ | .stop (some _) => .gathering
  | .push _ | .stop none | .restart | .initTask | .shutdown => .calling

/-- The phase of a place in the code. -/
def Pc.phase : Pc Op D → Phase
  | .user | .destroying => .calling
  | .acquiring rest | .holding rest => rest.phase
  | .waiting | .performIo _ => .looking
  | .task _ _ | .flushing _ => .gathering
  | .cleanup _ => .finishing

/-- A context completes a user operation. -/
def ThreadInfo.Busy (info : ThreadInfo Op D) : Prop :=
  info.current.isSome = true ∧ info.compensations = 0

/-- A context has settled the work of its last operation. -/
structure ThreadInfo.Settled (info : ThreadInfo Op D) : Prop where
  current : info.current = none
  work : info.privateOutstandingWork = 0
  compensations : info.compensations = 0

/-- What the contexts of a thread look like in each phase. -/
def PhaseShape : Phase → List (ThreadInfo Op D) → Prop
  | .calling, contexts => ∀ info ∈ contexts, info.Busy
  | .looking, contexts => ∃ info outer, contexts = info :: outer ∧
      info.Settled ∧ info.privateOpQueue = [] ∧ ∀ other ∈ outer, other.Busy
  | .gathering, contexts => ∃ info outer, contexts = info :: outer ∧
      info.Settled ∧ ∀ other ∈ outer, other.Busy
  | .finishing, contexts => ∃ info outer, contexts = info :: outer ∧
      (info.Busy ∨ info.current = none ∧ info.privateOpQueue = [] ∧
        info.privateOutstandingWork = 1 ∧ info.compensations = 1) ∧ ∀ other ∈ outer, other.Busy

/-- The shape of a thread. -/
def Thread.Shape (thread : Thread Op D) : Prop := PhaseShape thread.pc.phase thread.contexts

/-- Every thread has its shape. -/
def Shaped (state : State T Op D) : Prop := ∀ t, (state.thread t).Shape

section Preservation

variable [DecidableEq T] {oneThread : Bool} {state next : State T Op D} {t : T}
  {info : ThreadInfo Op D} {outer contexts : List (ThreadInfo Op D)} {thread : Thread Op D}
  {action : Action T Op D}

omit [DecidableEq T] in
theorem Thread.Shape.woken (shape : thread.Shape) : thread.woken.Shape := by
  unfold Thread.woken
  split
  · next waiting =>
      unfold Thread.Shape at shape ⊢
      rw [waiting] at shape
      exact shape
  · exact shape

/-- Replacing a thread by one that has its shape. -/
theorem Shaped.setThread {threads : T → Thread Op D} (shaped : ∀ u, (threads u).Shape)
    (shape : thread.Shape) (u : T) : (Function.update threads t thread u).Shape := by
  by_cases same : u = t
  · subst same
    rw [Function.update_self]
    exact shape
  · rw [Function.update_of_ne same]
    exact shaped u

omit [DecidableEq T] in
/-- The shape of the thread an effect is about. -/
theorem Shaped.at {pc : Pc Op D} {signalling : Bool} {phase : Phase} (shaped : Shaped state)
    (here : state.thread t = ⟨pc, signalling, contexts⟩) (there : pc.phase = phase) :
    PhaseShape phase contexts := by
  have shape := shaped t
  unfold Thread.Shape at shape
  rw [here] at shape
  exact there ▸ shape

theorem afterTask_phase {Op : Type*} (entry : Entry) :
    (entry.afterTask : Section Op).phase = .looking := by
  cases entry <;> rfl

theorem afterWork_phase (last thrown : Bool) :
    (Pc.afterWork last thrown : Pc Op D).phase = .gathering := by
  cases last <;> rfl

/-- A turn ends in the shape of the place it leads to. -/
theorem Shaped.turn {rest : Section Op} {turn : Turn Op D} (shaped : Shaped state)
    (here : state.thread t = ⟨.holding rest, false, info :: outer⟩)
    (looking : rest.phase = .looking) : Shaped (state.turn t info outer turn) := by
  obtain ⟨_, _, same, settled, flushed, busy⟩ : PhaseShape .looking (info :: outer) :=
    shaped.at here looking
  obtain ⟨rfl, rfl⟩ := List.cons.inj same
  unfold State.turn
  cases turn.outcome with
  | leave => exact Shaped.setThread shaped busy
  | sleep => exact Shaped.setThread shaped ⟨info, outer, rfl, settled, flushed, busy⟩
  | runTask usec => exact Shaped.setThread shaped ⟨info, outer, rfl, settled, busy⟩
  | perform descriptor =>
      exact Shaped.setThread shaped ⟨info, outer, rfl, settled, flushed, busy⟩
  | complete op =>
      refine Shaped.setThread shaped fun other member => ?_
      rcases List.mem_cons.mp member with rfl | member
      · exact ⟨rfl, settled.compensations⟩
      · exact busy other member

theorem turnOf_phase {rest : Section Op} {scheduler : Scheduler Op D} {entry : Entry}
    {turn : Turn Op D} (turned : rest.turnOf oneThread scheduler entry = some turn) :
    rest.phase = .looking := by
  cases rest with
  | dispatch => rfl
  | waited => rfl
  | afterTask => rfl
  | _ => simp [Section.turnOf] at turned

theorem Shaped.run (shaped : Shaped state)
    (effect : RunEffect oneThread t info outer state next) : Shaped next := by
  cases effect with
  | enter here _ => exact Shaped.setThread shaped (shaped.at here rfl)
  | @splice outerInfo _ here _ _ nested =>
      obtain ⟨_, _, same, settled, flushed, busy⟩ := shaped.at here rfl
      obtain ⟨rfl, rfl⟩ := List.cons.inj same
      subst nested
      refine Shaped.setThread shaped ⟨_, _, rfl, settled, flushed, fun other member => ?_⟩
      rcases List.mem_cons.mp member with rfl | member
      · exact busy outerInfo List.mem_cons_self
      · exact busy other (List.mem_cons_of_mem _ member)
  | turn here turned => exact shaped.turn here (turnOf_phase turned)
  | wakeSignalled here _ => exact Shaped.setThread shaped (shaped.at here rfl)
  | sleepAgain here _ => exact Shaped.setThread shaped (shaped.at here rfl)
  | wakeOnce here =>
      obtain ⟨_, _, same, settled, flushed, busy⟩ := shaped.at here rfl
      obtain ⟨rfl, rfl⟩ := List.cons.inj same
      exact Shaped.setThread shaped
        ⟨_, _, rfl, ⟨settled.current, settled.work, settled.compensations⟩, flushed, busy⟩
  | taskCleanup here =>
      obtain ⟨_, _, same, settled, busy⟩ := shaped.at here rfl
      obtain ⟨rfl, rfl⟩ := List.cons.inj same
      apply Shaped.setThread shaped
      unfold Thread.Shape
      rw [show (Pc.holding (info.entry.afterTask : Section Op) : Pc Op D).phase = .looking from
        afterTask_phase info.entry]
      exact ⟨_, _, rfl, ⟨settled.current, settled.work, settled.compensations⟩, rfl, busy⟩
  | taskThrown here =>
      obtain ⟨_, _, same, -, busy⟩ := shaped.at here rfl
      obtain ⟨rfl, rfl⟩ := List.cons.inj same
      exact Shaped.setThread shaped busy
  | flushOn here _ =>
      obtain ⟨_, _, same, settled, busy⟩ := shaped.at here rfl
      obtain ⟨rfl, rfl⟩ := List.cons.inj same
      exact Shaped.setThread shaped
        ⟨_, _, rfl, ⟨settled.current, settled.work, settled.compensations⟩, rfl, busy⟩
  | flushLeave here _ =>
      obtain ⟨_, _, same, -, busy⟩ := shaped.at here rfl
      obtain ⟨rfl, rfl⟩ := List.cons.inj same
      exact Shaped.setThread shaped busy
  | cleanup here =>
      obtain ⟨_, _, same, -, busy⟩ := shaped.at here rfl
      obtain ⟨rfl, rfl⟩ := List.cons.inj same
      rw [workCleanup_eq]
      apply Shaped.setThread shaped
      unfold Thread.Shape
      rw [afterWork_phase]
      exact ⟨_, _, rfl, ⟨rfl, rfl, rfl⟩, busy⟩
  | flush here _ => exact Shaped.setThread shaped (shaped.at here rfl)
  | goBack here flushed _ =>
      obtain ⟨_, _, same, settled, busy⟩ := shaped.at here rfl
      obtain ⟨rfl, rfl⟩ := List.cons.inj same
      exact Shaped.setThread shaped ⟨_, _, rfl, settled, flushed, busy⟩
  | leave here _ =>
      obtain ⟨_, _, same, -, busy⟩ := shaped.at here rfl
      obtain ⟨rfl, rfl⟩ := List.cons.inj same
      exact Shaped.setThread shaped busy

theorem Posted.shaped {ops : List Op} (posted : Posted oneThread t contexts ops state next)
    (shaped : Shaped state) (busy : ∀ info ∈ contexts, info.Busy) : Shaped next := by
  cases posted with
  | nothing _ => exact Shaped.setThread shaped busy
  | @here info outer inside _ =>
      subst inside
      refine Shaped.setThread shaped fun other member => ?_
      rcases List.mem_cons.mp member with rfl | member
      · exact busy info List.mem_cons_self
      · exact busy other (List.mem_cons_of_mem _ member)
  | shared => exact Shaped.setThread shaped busy

variable [DecidableEq Op]

theorem Shaped.call (shaped : Shaped state)
    (effect : CallEffect oneThread t action contexts state next) : Shaped next := by
  cases effect with
  | request here requested =>
      apply Shaped.setThread shaped
      have busy := shaped.at here rfl
      rcases requested with rfl | rfl | rfl
      · exact busy
      · exact busy
      · exact busy
  | close here _ _ => exact Shaped.setThread shaped (shaped.at here rfl)
  | acquire here _ => exact Shaped.setThread shaped (shaped.at here rfl)
  | push here => exact Shaped.setThread shaped (shaped.at here rfl)
  | @stop cleanup here =>
      apply Shaped.setThread fun u => (shaped u).woken
      cases cleanup with
      | none => exact shaped.at here rfl
      | some thrown => exact shaped.at here rfl
  | restart here => exact Shaped.setThread shaped (shaped.at here rfl)
  | initTask here _ _ => exact Shaped.setThread shaped (shaped.at here rfl)
  | initAgain here => exact Shaped.setThread shaped (shaped.at here rfl)
  | shutdown here => exact Shaped.setThread shaped (shaped.at here rfl)
  | destroy _ _ => exact shaped
  | destroyed here _ => exact Shaped.setThread shaped (shaped.at here rfl)
  | callStop here _ => exact Shaped.setThread shaped (shaped.at here rfl)
  | call here _ _ _ =>
      exact Shaped.setThread shaped ⟨_, _, rfl, ⟨rfl, rfl, rfl⟩, rfl, shaped.at here rfl⟩
  | @postHere op info outer here _ inside =>
      have busy := shaped.at here rfl
      subst inside
      refine Shaped.setThread shaped fun other member => ?_
      rcases List.mem_cons.mp member with rfl | member
      · exact busy info List.mem_cons_self
      · exact busy other (List.mem_cons_of_mem _ member)
  | postShared here _ => exact Shaped.setThread shaped (shaped.at here rfl)
  | startOp _ _ => exact shaped
  | deferred here _ posted => exact posted.shaped shaped (shaped.at here rfl)
  | abandon _ _ _ => exact shaped
  | workStarted _ => exact shaped
  | workFinished here _ place =>
      apply Shaped.setThread shaped
      have busy := shaped.at here rfl
      rcases place with ⟨_, rfl⟩ | ⟨_, rfl⟩
      · exact busy
      · exact busy
  | finish here inside =>
      have busy := shaped.at here rfl
      obtain ⟨info, outer, rfl⟩ := List.exists_cons_of_ne_nil inside
      exact Shaped.setThread shaped ⟨info, outer, rfl, Or.inl (busy info List.mem_cons_self),
        fun other member => busy other (List.mem_cons_of_mem _ member)⟩

variable [Fintype T] [DecidableEq D]

omit [Fintype T] [DecidableEq D] in
theorem Shaped.reactor (shaped : Shaped state)
    (effect : ReactorEffect oneThread t action info outer state next) : Shaped next := by
  cases effect with
  | again _ _ => exact shaped
  | event here _ =>
      obtain ⟨_, _, same, settled, busy⟩ := shaped.at here rfl
      obtain ⟨rfl, rfl⟩ := List.cons.inj same
      exact Shaped.setThread shaped
        ⟨_, _, rfl, ⟨settled.current, settled.work, settled.compensations⟩, busy⟩
  | timers here _ =>
      obtain ⟨_, _, same, settled, busy⟩ := shaped.at here rfl
      obtain ⟨rfl, rfl⟩ := List.cons.inj same
      exact Shaped.setThread shaped
        ⟨_, _, rfl, ⟨settled.current, settled.work, settled.compensations⟩, busy⟩
  | taskReturn here _ =>
      obtain ⟨_, _, same, settled, busy⟩ := shaped.at here rfl
      obtain ⟨rfl, rfl⟩ := List.cons.inj same
      exact Shaped.setThread shaped
        ⟨_, _, rfl, ⟨settled.current, rfl, settled.compensations⟩, busy⟩
  | performNone here =>
      obtain ⟨_, _, same, settled, flushed, busy⟩ := shaped.at here rfl
      obtain ⟨rfl, rfl⟩ := List.cons.inj same
      refine Shaped.setThread shaped ⟨_, _, rfl, Or.inr ⟨settled.current, flushed, ?_, ?_⟩, busy⟩
      · rw [settled.work]
      · rw [settled.compensations]
  | perform here _ posted =>
      obtain ⟨_, _, same, settled, flushed, busy⟩ := shaped.at here rfl
      obtain ⟨rfl, rfl⟩ := List.cons.inj same
      refine posted.shaped shaped fun other member => ?_
      rcases List.mem_cons.mp member with rfl | member
      · exact ⟨rfl, settled.compensations⟩
      · exact busy other member

omit [DecidableEq Op] [Fintype T] [DecidableEq D] in
theorem Shaped.wake (shaped : Shaped state) (effect : WakeEffect t state next) :
    Shaped next := by
  cases effect with
  | signalNone _ _ => exact Shaped.setThread shaped (shaped t)
  | @signal u _ waiting _ =>
      refine Shaped.setThread (Shaped.setThread shaped (shaped t)) ?_
      have shape := shaped u
      unfold Thread.Shape at shape ⊢
      rw [waiting] at shape
      exact shape
  | awaken here => exact Shaped.setThread shaped (shaped.at here rfl)

/-- In every reachable state every thread has its shape. -/
theorem shaped_of_reachable (reachable : (machine oneThread).Reachable state) : Shaped state := by
  apply reachable.invariant
  · intro state isInitial t
    subst isInitial
    exact fun _ member => absurd member List.not_mem_nil
  · intro state move next _ shaped _ stepped
    cases effect_of_step stepped with
    | run effect => exact shaped.run effect
    | call effect => exact shaped.call effect
    | reactor effect => exact shaped.reactor effect
    | wake effect => exact shaped.wake effect

end Preservation

end Asio.Scheduler
