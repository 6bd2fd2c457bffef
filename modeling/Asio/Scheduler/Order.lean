import Asio.Scheduler.Closing
import Asio.Scheduler.Custody
import Mathlib.Algebra.Order.BigOperators.Group.Finset
import Mathlib.Data.List.Nodup

/-! # The order of completion

When one thread runs the scheduler, the operations whose completion has begun,
those in the main queue and those in a private queue stand in one line, in which
the operations pushed to one queue keep their order. So they are completed in the
order in which they were pushed.
-/

namespace Asio.Scheduler

open State

variable {T Op D : Type*}

/-- Only one thread calls the functions that run the scheduler. -/
def RunBy (runner : T) (_ : State T Op D) (move : T × Action T Op D) : Prop :=
  ∀ entry, move.2 = .call entry → move.1 = runner

/-- The operations pushed to a queue so far, in order. -/
def History.pushedTo (history : History T Op D) (queue : Option ℕ) : List Op :=
  (history.pushes.filter fun push => push.queue == queue).map Push.op

/-- The operations whose completion has begun, and behind them the main queue. -/
def State.front (state : State T Op D) : List Op :=
  state.history.called ++ userOps state.scheduler.opQueue

/-- What the private queue with a number holds, if it is that of a context. -/
def heldIn : List (ThreadInfo Op D) → Option ℕ → List Op
  | [], _ => []
  | info :: outer, queue =>
      if some info.id = queue then userOps info.privateOpQueue else heldIn outer queue

section Lines

variable {info : ThreadInfo Op D} {outer contexts : List (ThreadInfo Op D)} {queue : Option ℕ}
  {pushed front : List Op}

/-- The order of two elements shows in any front part of a list behind which the
second one does not occur. -/
theorem pair_sublist {first second : Op} {back : List Op}
    (pair : [first, second].Sublist (front ++ back)) (notBehind : second ∉ back) :
    [first, second].Sublist front := by
  induction front with
  | nil =>
      have behind := pair.subset (List.mem_cons_of_mem _ List.mem_cons_self)
      exact absurd behind notBehind
  | cons head front ih =>
      rw [List.cons_append] at pair
      cases pair with
      | cons _ pair => exact (ih pair).cons _
      | cons_cons _ rest =>
          have member := rest.subset List.mem_cons_self
          rcases List.mem_append.mp member with member | behind
          · exact (List.singleton_sublist.mpr member).cons_cons _
          · exact absurd behind notBehind

theorem heldIn_none (contexts : List (ThreadInfo Op D)) : heldIn contexts none = [] := by
  induction contexts with
  | nil => rfl
  | cons info outer ih => exact ih

/-- A private queue goes to the main queue. -/
theorem line_flush (line : pushed.Sublist (front ++ heldIn (info :: outer) queue)) :
    pushed.Sublist (front ++ userOps info.privateOpQueue ++
      heldIn ({ info with privateOpQueue := [] } :: outer) queue) := by
  simp only [heldIn] at line ⊢
  split at line
  · next same =>
      rw [if_pos same, userOps_nil, List.append_nil]
      exact line
  · next other =>
      rw [if_neg other, List.append_assoc]
      exact line.trans ((List.Sublist.refl _).append (List.sublist_append_right _ _))

/-- A private queue goes to the main queue, and its context out of scope. -/
theorem line_leave (line : pushed.Sublist (front ++ heldIn (info :: outer) queue)) :
    pushed.Sublist (front ++ userOps info.privateOpQueue ++ heldIn outer queue) := by
  have flushed := line_flush line
  simp only [heldIn] at flushed
  split at flushed
  · rw [userOps_nil, List.append_nil] at flushed
    exact flushed.trans (List.sublist_append_left _ _)
  · exact flushed

/-- The private queue of the next outer context goes to the main queue. -/
theorem line_splice {outerInfo : ThreadInfo Op D}
    (line : pushed.Sublist (front ++ heldIn (info :: outerInfo :: outer) queue)) :
    pushed.Sublist (front ++ userOps outerInfo.privateOpQueue ++
      heldIn (info :: { outerInfo with privateOpQueue := [] } :: outer) queue) := by
  unfold heldIn at line ⊢
  split at line
  · next same =>
      rw [if_pos same, List.append_assoc]
      exact line.trans ((List.Sublist.refl _).append (List.sublist_append_right _ _))
  · next other =>
      rw [if_neg other]
      exact line_flush line

/-- Operations are pushed to the private queue of the innermost context. -/
theorem line_push (ops : List Op) (o : List (Operation Op D)) (users : userOps o = ops)
    (line : pushed.Sublist (front ++ heldIn (info :: outer) queue)) :
    (pushed ++ if some info.id = queue then ops else []).Sublist (front ++
      heldIn ({ info with privateOpQueue := info.privateOpQueue ++ o } :: outer) queue) := by
  simp only [heldIn] at line ⊢
  split at line
  · next same =>
      rw [if_pos same, if_pos same, userOps_append, users, ← List.append_assoc]
      exact line.append (List.Sublist.refl _)
  · next other =>
      rw [if_neg other, if_neg other, List.append_nil]
      exact line

theorem pushedTo_append (history : History T Op D) (t : T) (place : Option ℕ) (ops : List Op)
    (queue : Option ℕ) :
    History.pushedTo { history with pushes := history.pushes ++ ops.map fun op => ⟨place, t, op⟩ }
      queue = history.pushedTo queue ++ if place = queue then ops else [] := by
  unfold History.pushedTo
  rw [List.filter_append, List.map_append]
  congr 1
  split
  · next same =>
      rw [List.filter_eq_self.mpr, List.map_map]
      · exact List.map_id' ops
      · intro push member
        obtain ⟨op, -, rfl⟩ := List.mem_map.mp member
        simpa using same
  · next other =>
      rw [List.filter_eq_nil_iff.mpr]
      · rfl
      · intro push member
        obtain ⟨op, -, rfl⟩ := List.mem_map.mp member
        simpa using other

end Lines

/-- The line of the operations while only `runner` runs the scheduler; it is kept
until `shutdown`, from when on no thread runs the scheduler. -/
structure Lined (runner : T) (state : State T Op D) : Prop where
  others : ∀ t, t ≠ runner → (state.thread t).contexts = []
  numbered : ∀ info ∈ (state.thread runner).contexts, info.id < state.history.contexts
  pushed : ∀ push ∈ state.history.pushes, ∀ id, push.queue = some id → id < state.history.contexts
  line : state.closing = false → ∀ queue, (state.history.pushedTo queue).Sublist
    (state.front ++ heldIn (state.thread runner).contexts queue)

section Preservation

variable [DecidableEq T] {oneThread : Bool} {runner : T} {state next : State T Op D} {t : T}
  {info : ThreadInfo Op D} {outer contexts : List (ThreadInfo Op D)} {thread : Thread Op D}
  {action : Action T Op D}

omit [DecidableEq T] in
/-- A thread inside a context is the one that runs the scheduler. -/
theorem Lined.inside {pc : Pc Op D} {signalling : Bool} (lined : Lined runner state)
    (here : state.thread t = ⟨pc, signalling, info :: outer⟩) : t = runner := by
  by_contra other
  have none := lined.others t other
  rw [here] at none
  exact absurd none (List.cons_ne_nil _ _)

/-- A step of one thread that keeps its contexts, and pushes to the main queue at most. -/
theorem Lined.outside (lined : Lined runner state) (t : T) (thread : Thread Op D)
    (threads : next.thread = Function.update state.thread t thread)
    (contexts : thread.contexts = (state.thread t).contexts)
    (pushed : ∀ push ∈ next.history.pushes, push ∈ state.history.pushes ∨ push.queue = none)
    (line : state.closing = false → ∀ queue held, (queue = none → held = []) →
      (state.history.pushedTo queue).Sublist (state.front ++ held) →
      (next.history.pushedTo queue).Sublist (next.front ++ held))
    (closing : next.closing = state.closing := by rfl)
    (count : next.history.contexts = state.history.contexts := by rfl) : Lined runner next := by
  have kept : ∀ u, (next.thread u).contexts = (state.thread u).contexts := by
    intro u
    rw [threads]
    by_cases same : u = t
    · subst same
      rw [Function.update_self, contexts]
    · rw [Function.update_of_ne same]
  exact
    { others := fun u other => (kept u).trans (lined.others u other)
      numbered := by
        rw [kept, count]
        exact lined.numbered
      pushed := by
        rw [count]
        intro push member number place
        rcases pushed push member with member | shared
        · exact lined.pushed push member number place
        · rw [shared] at place
          contradiction
      line := by
        intro opened queue
        rw [closing] at opened
        rw [kept]
        refine line opened queue _ (fun none => ?_) (lined.line opened queue)
        rw [none]
        exact heldIn_none _ }

/-- A step of one thread that keeps its contexts and pushes nothing. -/
theorem Lined.aside (lined : Lined runner state) (t : T) (thread : Thread Op D)
    (threads : next.thread = Function.update state.thread t thread)
    (contexts : thread.contexts = (state.thread t).contexts)
    (front : state.closing = false → state.front.Sublist next.front := by
      exact fun _ => List.Sublist.refl _)
    (closing : next.closing = state.closing := by rfl)
    (pushes : next.history.pushes = state.history.pushes := by rfl)
    (count : next.history.contexts = state.history.contexts := by rfl) : Lined runner next := by
  refine lined.outside t thread threads contexts ?_ ?_ closing count
  · rw [pushes]
    exact fun _ member => Or.inl member
  · intro opened queue held _ line
    rw [History.pushedTo, pushes]
    exact line.trans ((front opened).append (List.Sublist.refl _))

/-- A step of the thread that runs the scheduler which changes its contexts. -/
theorem Lined.within (lined : Lined runner state) (opened : state.closing = false)
    (thread : Thread Op D) (threads : next.thread = Function.update state.thread runner thread)
    (numbered : ∀ info ∈ thread.contexts, info.id < next.history.contexts)
    (pushed : ∀ push ∈ next.history.pushes, ∀ id, push.queue = some id →
      id < next.history.contexts)
    (line : ∀ queue, (state.history.pushedTo queue).Sublist
        (state.front ++ heldIn (state.thread runner).contexts queue) →
      (next.history.pushedTo queue).Sublist (next.front ++ heldIn thread.contexts queue)) :
    Lined runner next where
  others u other := by
    rw [threads, Function.update_of_ne other]
    exact lined.others u other
  numbered := by
    rw [threads, Function.update_self]
    exact numbered
  pushed := pushed
  line _ queue := by
    rw [threads, Function.update_self]
    exact line queue (lined.line opened queue)

/-- A step that changes the innermost context but for its number and its private
queue of user operations. -/
theorem Lined.replace {pc after : Pc Op D} {signalling signals : Bool} {other : ThreadInfo Op D}
    (lined : Lined runner state) (opened : state.closing = false)
    (here : state.thread t = ⟨pc, signalling, info :: outer⟩)
    (threads : next.thread = Function.update state.thread t ⟨after, signals, other :: outer⟩)
    (queued : userOps other.privateOpQueue = userOps info.privateOpQueue := by rfl)
    (front : state.front.Sublist next.front := by exact List.Sublist.refl _)
    (id : other.id = info.id := by rfl)
    (pushes : next.history.pushes = state.history.pushes := by rfl)
    (count : next.history.contexts = state.history.contexts := by rfl) : Lined runner next := by
  obtain rfl := lined.inside here
  have numbered := lined.numbered
  rw [here] at numbered
  refine lined.within opened _ threads ?_ ?_ fun queue line => ?_
  · rw [count]
    intro context member
    rcases List.mem_cons.mp member with rfl | member
    · rw [id]
      exact numbered info List.mem_cons_self
    · exact numbered context (List.mem_cons_of_mem _ member)
  · rw [pushes, count]
    exact lined.pushed
  · rw [here] at line
    have same : heldIn (other :: outer) queue = heldIn (info :: outer) queue := by
      simp only [heldIn, id, queued]
    rw [History.pushedTo, pushes, same]
    exact line.trans (front.append (List.Sublist.refl _))

theorem Lined.turn {rest : Section Op} {turn : Turn Op D} (lined : Lined runner state)
    (opened : state.closing = false) (shaped : Shaped state)
    (here : state.thread t = ⟨.holding rest, false, info :: outer⟩)
    (turned : rest.turnOf oneThread state.scheduler info.entry = some turn) :
    Lined runner (state.turn t info outer turn) := by
  obtain ⟨_, _, same, -, flushed, -⟩ : PhaseShape .looking (info :: outer) :=
    shaped.at here (turnOf_phase turned)
  obtain ⟨rfl, rfl⟩ := List.cons.inj same
  obtain rfl := lined.inside here
  have numbered := lined.numbered
  rw [here] at numbered
  have left : ∀ {signalling : Bool} {scheduler : Scheduler Op D},
      userOps scheduler.opQueue = userOps state.scheduler.opQueue →
      Lined t ({ state with mutex := none, scheduler }.leave t info outer signalling) := by
    intro signalling scheduler opQueue
    refine lined.within opened ⟨.user, signalling, outer⟩ rfl
      (fun other member => numbered other (List.mem_cons_of_mem _ member)) lined.pushed
      fun queue line => ?_
    rw [here] at line
    have back := line_leave line
    rw [flushed, userOps_nil, List.append_nil] at back
    have front : ({ state with mutex := none, scheduler }.leave t info outer signalling).front =
        state.front := congrArg (state.history.called ++ ·) opQueue
    rw [front]
    exact back
  cases turned_of_turnOf turned with
  | leave _ => exact left rfl
  | handOver _ _ => exact left rfl
  | sleep _ _ _ => exact lined.aside t ⟨.waiting, false, info :: outer⟩ rfl (by rw [here])
  | task queue _ =>
      rw [dequeueTask_eq]
      refine lined.aside t ⟨.task _ [], _, info :: outer⟩ rfl (by rw [here]) fun _ => ?_
      unfold State.front
      rw [queue]
      exact List.Sublist.refl _
  | pollTask queue _ _ =>
      refine lined.aside t ⟨.task 0 [], false, info :: outer⟩ rfl (by rw [here]) fun _ => ?_
      unfold State.front
      rw [queue]
      exact List.Sublist.refl _
  | @perform descriptor ops queue =>
      rw [turn_dequeue_perform]
      refine lined.aside t ⟨.performIo descriptor, _, info :: outer⟩ rfl (by rw [here]) fun _ => ?_
      unfold State.front
      rw [queue, setThread_scheduler, dequeue_opQueue]
      exact List.Sublist.refl _
  | @complete op ops queue =>
      rw [turn_dequeue_complete]
      refine lined.replace opened here rfl rfl ?_
      unfold State.front
      rw [queue, userOps_user, List.append_cons, setThread_scheduler, dequeue_opQueue]

/-- The private queue of the innermost context goes to the main queue. -/
theorem Lined.flush {pc after : Pc Op D} {signalling : Bool} (lined : Lined runner state)
    (opened : state.closing = false) (here : state.thread t = ⟨pc, signalling, info :: outer⟩)
    (threads : next.thread = Function.update state.thread t
      ⟨after, false, { info with privateOpQueue := [] } :: outer⟩)
    (opQueue : userOps next.scheduler.opQueue =
      userOps state.scheduler.opQueue ++ userOps info.privateOpQueue)
    (history : next.history = state.history := by rfl) : Lined runner next := by
  obtain rfl := lined.inside here
  have numbered := lined.numbered
  rw [here] at numbered
  refine lined.within opened _ threads ?_ ?_ fun queue line => ?_
  · rw [history]
    intro other member
    rcases List.mem_cons.mp member with rfl | member
    · exact numbered info List.mem_cons_self
    · exact numbered other (List.mem_cons_of_mem _ member)
  · rw [history]
    exact lined.pushed
  · rw [here] at line
    rw [State.front, history, opQueue, ← List.append_assoc]
    exact line_flush line

/-- The context goes out of scope, after its private queue has gone to the main queue. -/
theorem Lined.leave {pc : Pc Op D} {signalling after : Bool} (lined : Lined runner state)
    (opened : state.closing = false) (here : state.thread t = ⟨pc, signalling, info :: outer⟩)
    (scheduler : Scheduler Op D)
    (opQueue : userOps scheduler.opQueue =
      userOps state.scheduler.opQueue ++ userOps info.privateOpQueue) (mutex : Option T) :
    Lined runner ({ state with mutex, scheduler }.leave t { info with privateOpQueue := [] } outer
      after) := by
  obtain rfl := lined.inside here
  have numbered := lined.numbered
  rw [here] at numbered
  refine lined.within opened ⟨.user, after, outer⟩ rfl
    (fun other member => numbered other (List.mem_cons_of_mem _ member)) lined.pushed
    fun queue line => ?_
  rw [here] at line
  have back := line_leave line
  have front : ({ state with mutex, scheduler }.leave t { info with privateOpQueue := [] } outer
      after).front = state.front ++ userOps info.privateOpQueue := by
    unfold State.front
    rw [leave_scheduler, opQueue, ← List.append_assoc]
    rfl
  rw [front]
  exact back

theorem Lined.run (lined : Lined runner state) (closed : Closed state) (shaped : Shaped state)
    (effect : RunEffect oneThread t info outer state next) : Lined runner next := by
  cases effect with
  | enter here _ =>
      exact lined.aside t ⟨.holding .dispatch, false, info :: outer⟩ rfl (by rw [here])
  | @splice outerInfo outermore here _ _ nested =>
      subst nested
      obtain rfl := lined.inside here
      have numbered := lined.numbered
      rw [here] at numbered
      refine lined.within (closed.opened here) ⟨.holding .dispatch, false,
        info :: { outerInfo with privateOpQueue := [] } :: outermore⟩ rfl ?_ lined.pushed
        fun queue line => ?_
      · intro other member
        rcases List.mem_cons.mp member with rfl | member
        · exact numbered other List.mem_cons_self
        · rcases List.mem_cons.mp member with rfl | member
          · exact numbered outerInfo (List.mem_cons_of_mem _ List.mem_cons_self)
          · exact numbered other (List.mem_cons_of_mem _ (List.mem_cons_of_mem _ member))
      · rw [here] at line
        have spliced := line_splice line
        unfold State.front at spliced ⊢
        rw [List.append_assoc state.history.called] at spliced
        rw [goOn_eq, setThread_scheduler, enqueue_opQueue, userOps_append]
        exact spliced
  | turn here turned => exact lined.turn (closed.opened here) shaped here turned
  | wakeSignalled here _ =>
      exact lined.aside t ⟨.holding .dispatch, false, info :: outer⟩ rfl (by rw [here])
  | sleepAgain here _ => exact lined.aside t ⟨.waiting, false, info :: outer⟩ rfl (by rw [here])
  | wakeOnce here => exact lined.replace (closed.opened here) here rfl
  | taskCleanup here => exact lined.flush (closed.opened here) here rfl (by simp)
  | taskThrown here => exact lined.leave (closed.opened here) here _ (by simp) none
  | flushOn here _ => exact lined.flush (closed.opened here) here rfl (by simp)
  | flushLeave here _ => exact lined.leave (closed.opened here) here _ (by simp) none
  | cleanup here =>
      rw [workCleanup_eq]
      exact lined.replace (closed.opened here) here rfl
  | flush here _ =>
      exact lined.aside t ⟨.acquiring (.flush _), false, info :: outer⟩ rfl (by rw [here])
  | goBack here _ _ =>
      exact lined.aside t ⟨.acquiring .dispatch, false, info :: outer⟩ rfl (by rw [here])
  | leave here flushed =>
      have left : Lined runner
          (state.leave t { info with privateOpQueue := [] } outer false) :=
        lined.leave (closed.opened here) here state.scheduler (by simp [flushed]) state.mutex
      have empty : info = { info with privateOpQueue := [] } := by rw [← flushed]
      rwa [← empty] at left

/-- The push of operations to the private queue of the innermost context. -/
theorem Lined.pushHere {pc after : Pc Op D} {signalling : Bool} {other : ThreadInfo Op D}
    (lined : Lined runner state) (opened : state.closing = false) (ops : List Op)
    (here : state.thread t = ⟨pc, signalling, info :: outer⟩)
    (threads : next.thread = Function.update state.thread t ⟨after, false, other :: outer⟩)
    (queued : userOps other.privateOpQueue = userOps info.privateOpQueue ++ ops)
    (front : state.front.Sublist next.front := by exact List.Sublist.refl _)
    (id : other.id = info.id := by rfl)
    (pushes : next.history.pushes =
      state.history.pushes ++ ops.map fun op => ⟨some info.id, t, op⟩ := by rfl)
    (count : next.history.contexts = state.history.contexts := by rfl) : Lined runner next := by
  obtain rfl := lined.inside here
  have numbered := lined.numbered
  rw [here] at numbered
  refine lined.within opened _ threads ?_ ?_ fun queue line => ?_
  · rw [count]
    intro context member
    rcases List.mem_cons.mp member with rfl | member
    · rw [id]
      exact numbered info List.mem_cons_self
    · exact numbered context (List.mem_cons_of_mem _ member)
  · rw [pushes, count]
    intro push member
    rcases List.mem_append.mp member with member | member
    · exact lined.pushed push member
    · obtain ⟨op, -, rfl⟩ := List.mem_map.mp member
      intro number same
      obtain rfl := Option.some.inj same
      exact numbered info List.mem_cons_self
  · rw [here] at line
    have logged : next.history.pushedTo queue =
        state.history.pushedTo queue ++ if some info.id = queue then ops else [] := by
      rw [← pushedTo_append state.history t (some info.id) ops queue]
      unfold History.pushedTo
      rw [pushes]
    have held : heldIn (other :: outer) queue = heldIn ({ info with
        privateOpQueue := info.privateOpQueue ++ ops.map .user } :: outer) queue := by
      simp only [heldIn, id, queued, userOps_append, userOps_map_user]
    rw [logged, held]
    exact (line_push ops _ (userOps_map_user ops) line).trans
      (front.append (List.Sublist.refl _))

/-- What posting does, seen from a state with the same line. -/
theorem Posted.lined {ops : List Op} {middle : State T Op D}
    (posted : Posted oneThread t contexts ops middle next) (lined : Lined runner state)
    (closed : Closed state)
    (same : contexts = (state.thread t).contexts ∨ ∃ info other outer,
      contexts = other :: outer ∧ (state.thread t).contexts = info :: outer ∧ other.id = info.id ∧
        other.privateOpQueue = info.privateOpQueue)
    (front : state.front.Sublist middle.front := by exact List.Sublist.refl _)
    (threads : middle.thread = state.thread := by rfl)
    (closing : middle.closing = state.closing := by rfl)
    (pushes : middle.history.pushes = state.history.pushes := by rfl)
    (count : middle.history.contexts = state.history.contexts := by rfl) : Lined runner next := by
  -- Without contexts nothing is posted to a private queue.
  have moved : ∀ {pc : Pc Op D}, Lined runner (middle.setThread t ⟨pc, false, contexts⟩) := by
    intro pc
    rcases same with same | ⟨info, other, outer, rfl, inside, id, queued⟩
    · exact lined.aside t ⟨pc, false, contexts⟩ (by rw [setThread_thread, threads]) same
        (fun _ => front) closing pushes count
    · have here : state.thread t = ⟨(state.thread t).pc, (state.thread t).signalling,
          info :: outer⟩ := by rw [← inside]
      exact lined.replace (closed.opened here) here (by rw [setThread_thread, threads])
        (by rw [queued]) front id pushes count
  cases posted with
  | nothing _ => exact moved
  | @here info outer inside _ =>
      have place : ∃ innermost : ThreadInfo Op D,
          (state.thread t).contexts = innermost :: outer ∧ info.id = innermost.id ∧
            info.privateOpQueue = innermost.privateOpQueue := by
        rcases same with same | ⟨innermost, other, rest, same, inner, id, queued⟩
        · exact ⟨info, same.symm.trans inside, rfl, rfl⟩
        · obtain ⟨rfl, rfl⟩ := List.cons.inj (inside.symm.trans same)
          exact ⟨innermost, inner, id, queued⟩
      obtain ⟨innermost, inner, id, queued⟩ := place
      have here : state.thread t = ⟨(state.thread t).pc, (state.thread t).signalling,
          innermost :: outer⟩ := by rw [← inner]
      have threads : ((middle.goOn t .user { info with
          privateOpQueue := info.privateOpQueue ++ ops.map .user } outer).logPushes (some info.id) t
            ops).thread = Function.update state.thread t ⟨.user, false, { info with
              privateOpQueue := info.privateOpQueue ++ ops.map .user } :: outer⟩ := by
        rw [logPushes_thread, goOn_eq, setThread_thread, threads]
      refine lined.pushHere (closed.opened here) ops here threads ?_ front id ?_ count
      · rw [userOps_append, userOps_map_user, queued]
      · rw [← id, ← pushes]
        rfl
  | shared => exact moved

omit [DecidableEq T] in
theorem Lined.woken (lined : Lined runner state) : Lined runner state.stopAll where
  others t other := by
    rw [stopAll_thread, woken_contexts]
    exact lined.others t other
  numbered := by
    rw [stopAll_thread, woken_contexts]
    exact lined.numbered
  pushed := lined.pushed
  line := by
    simp only [stopAll_thread, woken_contexts, State.front, stopAll_scheduler,
      stopAllThreads_opQueue]
    exact lined.line

variable [Fintype T] [DecidableEq Op]

omit [Fintype T] in
theorem Lined.call (lined : Lined runner state) (closed : Closed state)
    (allowed : RunBy runner state (t, action))
    (effect : CallEffect oneThread t action contexts state next) : Lined runner next := by
  cases effect with
  | @request rest here _ =>
      exact lined.aside t ⟨.acquiring rest, false, contexts⟩ rfl (by rw [here])
  | close here empty _ =>
      have none : contexts = [] := by
        have none := empty t
        rwa [here] at none
      subst none
      have kept : ∀ u, (Function.update state.thread t ⟨.acquiring .shutdown, false, []⟩ u).contexts =
          [] := by
        intro u
        by_cases same : u = t
        · subst same
          rw [Function.update_self]
        · rw [Function.update_of_ne same]
          exact empty u
      exact
        { others := fun u _ => kept u
          numbered := fun info member => by
            rw [setThread_thread, kept] at member
            exact absurd member List.not_mem_nil
          pushed := lined.pushed
          line := fun opened => Bool.noConfusion opened }
  | @acquire rest here _ =>
      exact lined.aside t ⟨.holding rest, false, contexts⟩ rfl (by rw [here])
  | @push ops here =>
      refine lined.outside t ⟨.user, _, contexts⟩ rfl (by rw [here]) ?_ ?_
      · intro push member
        rcases List.mem_append.mp member with member | member
        · exact Or.inl member
        · obtain ⟨op, -, rfl⟩ := List.mem_map.mp member
          exact Or.inr rfl
      · intro _ queue held shared line
        have logged := pushedTo_append state.history t none ops queue
        unfold State.front at line ⊢
        rw [logPushes_scheduler, setThread_scheduler, wakeOneThreadAndUnlock_opQueue,
          enqueue_opQueue, userOps_append, userOps_map_user, ← List.append_assoc]
        rw [State.logPushes, setThread_history, logged]
        cases queue with
        | none =>
            rw [shared rfl, List.append_nil] at line ⊢
            exact line.append (List.Sublist.refl _)
        | some number =>
            rw [if_neg (Option.some_ne_none number).symm, List.append_nil, List.append_assoc]
            exact line.trans ((List.Sublist.refl _).append (List.sublist_append_right _ _))
  | @stop cleanup here =>
      refine lined.woken.aside t ⟨.afterStop cleanup, false, contexts⟩ rfl ?_
      rw [stopAll_thread, woken_contexts, here]
  | restart here => exact lined.aside t ⟨.user, false, contexts⟩ rfl (by rw [here])
  | initTask here _ _ =>
      refine lined.aside t ⟨.user, _, contexts⟩ rfl (by rw [here]) fun _ => ?_
      simp [State.front]
  | initAgain here => exact lined.aside t ⟨.user, false, contexts⟩ rfl (by rw [here])
  | shutdown here => exact lined.aside t ⟨.destroying, false, contexts⟩ rfl (by rw [here])
  | destroy here _ =>
      have closing : state.closing = true := by
        apply closed.shutting t
        rw [here]
        rfl
      exact lined.aside t (state.thread t) (Function.update_eq_self t _).symm rfl
        fun opened => by simp [closing] at opened
  | destroyed here _ => exact lined.aside t ⟨.user, false, contexts⟩ rfl (by rw [here])
  | callStop here _ =>
      exact lined.aside t ⟨.acquiring (.stop none), false, contexts⟩ rfl (by rw [here])
  | @call entry here opened _ called =>
      obtain rfl : t = runner := allowed entry called
      have numbered := lined.numbered
      rw [here] at numbered
      refine lined.within opened ⟨.acquiring .enter, false,
        ⟨entry, state.history.contexts, [], 0, none, 0⟩ :: contexts⟩ rfl ?_ ?_ ?_
      · intro info member
        rcases List.mem_cons.mp member with rfl | member
        · exact Nat.lt_succ_self _
        · exact Nat.lt_succ_of_lt (numbered info member)
      · exact fun push member number place =>
          Nat.lt_succ_of_lt (lined.pushed push member number place)
      · intro queue line
        rw [here] at line
        simp only [heldIn]
        split
        · next fresh =>
            -- Nothing has been pushed to the private queue of a new context.
            have unpushed : state.history.pushedTo queue = [] := by
              unfold History.pushedTo
              rw [List.map_eq_nil_iff, List.filter_eq_nil_iff]
              intro push member place
              have bound := lined.pushed push member state.history.contexts
                ((beq_iff_eq.mp place).trans fresh.symm)
              exact absurd bound (Nat.lt_irrefl _)
            have same : History.pushedTo { state.history with
                contexts := state.history.contexts + 1 } queue = state.history.pushedTo queue := rfl
            rw [same, unpushed]
            exact List.nil_sublist _
        · exact line
  | @postHere op info outer here _ inside =>
      subst inside
      refine lined.pushHere (closed.opened here) [op] here rfl ?_
      rw [userOps_append]
      rfl
  | @postShared op here _ =>
      exact lined.aside t ⟨.acquiring (.push [op]), false, contexts⟩ rfl (by rw [here])
  | startOp here _ =>
      exact lined.aside t (state.thread t) (Function.update_eq_self t _).symm rfl
  | deferred here _ posted => exact posted.lined lined closed (Or.inl (by rw [here]))
  | abandon here _ _ =>
      exact lined.aside t (state.thread t) (Function.update_eq_self t _).symm rfl
  | workStarted here =>
      exact lined.aside t (state.thread t) (Function.update_eq_self t _).symm rfl
  | @workFinished pc here _ _ => exact lined.aside t ⟨pc, false, contexts⟩ rfl (by rw [here])
  | finish here _ => exact lined.aside t ⟨.cleanup _, false, contexts⟩ rfl (by rw [here])

variable [DecidableEq D]

omit [Fintype T] [DecidableEq D] in
theorem Lined.reactor (lined : Lined runner state) (closed : Closed state)
    (effect : ReactorEffect oneThread t action info outer state next) : Lined runner next := by
  cases effect with
  | again _ _ => exact lined
  | event here _ => exact lined.replace (closed.opened here) here rfl (by simp)
  | @timers usec pushed ops here _ =>
      refine lined.pushHere (closed.opened here) ops here rfl ?_
      rw [userOps_append, userOps_map_user]
  | taskReturn here _ => exact lined.replace (closed.opened here) here rfl
  | performNone here => exact lined.replace (closed.opened here) here rfl
  | @perform _ descriptor first rest here _ posted =>
      refine posted.lined lined closed (Or.inr ⟨info, _, outer, rfl, by rw [here], rfl, rfl⟩) ?_
      exact (List.sublist_append_left _ _).append (List.Sublist.refl _)

omit [Fintype T] [DecidableEq Op] [DecidableEq D] in
theorem Lined.wake (lined : Lined runner state) (effect : WakeEffect t state next) :
    Lined runner next := by
  have silent : Lined runner (state.setThread t { state.thread t with signalling := false }) :=
    lined.aside t { state.thread t with signalling := false } rfl rfl
  cases effect with
  | signalNone _ _ => exact silent
  | @signal u _ waiting other =>
      refine silent.aside u { state.thread u with pc := .acquiring .wake } rfl ?_
      rw [setThread_thread, Function.update_of_ne other]
  | @awaken contexts here =>
      exact lined.aside t ⟨.acquiring .wake, false, contexts⟩ rfl (by rw [here])

omit [Fintype T] [DecidableEq Op] [DecidableEq D] in
theorem RunEffect.closing (effect : RunEffect oneThread t info outer state next) :
    next.closing = state.closing := by
  cases effect with
  | @turn rest turn here turned =>
      unfold State.turn
      cases turn.outcome <;> rfl
  | _ => rfl

omit [Fintype T] [DecidableEq Op] [DecidableEq D] in
theorem Posted.history {ops : List Op} (posted : Posted oneThread t contexts ops state next) :
    next.closing = state.closing ∧ next.history.called = state.history.called := by
  cases posted <;> exact ⟨rfl, rfl⟩

omit [Fintype T] [DecidableEq D] in
theorem CallEffect.called (effect : CallEffect oneThread t action contexts state next) :
    next.history.called = state.history.called := by
  cases effect with
  | deferred _ _ posted => exact posted.history.2
  | _ => rfl

omit [Fintype T] [DecidableEq D] in
theorem ReactorEffect.closing (effect : ReactorEffect oneThread t action info outer state next) :
    next.closing = state.closing := by
  cases effect with
  | perform _ _ posted => exact posted.history.1
  | _ => rfl

/-- After `shutdown` has been called, `complete` is not called any more. -/
theorem Closed.called {move : T × Action T Op D} (closed : Closed state)
    (stepped : (machine oneThread).step state move = some next) (closing : next.closing = true) :
    next.history.called = state.history.called := by
  have outside : ∀ {pc : Pc Op D} {info : ThreadInfo Op D} {outer : List (ThreadInfo Op D)},
      state.closing = true → state.thread move.1 ≠ ⟨pc, false, info :: outer⟩ :=
    fun closing here => by simp [closed.opened here] at closing
  cases effect_of_step stepped with
  | run effect =>
      rw [effect.closing] at closing
      cases effect <;> exact absurd ‹state.thread move.1 = _› (outside closing)
  | call effect => exact effect.called
  | reactor effect =>
      rw [effect.closing] at closing
      cases effect <;> exact absurd ‹state.thread move.1 = _› (outside closing)
  | wake effect => cases effect <;> rfl

/-- The line is kept by every step while only `runner` runs the scheduler. -/
theorem lined_of_reachableWhen (reachable : (machine oneThread).ReachableWhen (RunBy runner) state) :
    Lined runner state := by
  apply reachable.invariant
  · intro state isInitial
    subst isInitial
    exact
      { others := fun _ _ => rfl
        numbered := fun _ member => absurd member List.not_mem_nil
        pushed := fun _ member => absurd member List.not_mem_nil
        line := fun _ _ => List.nil_sublist _ }
  · intro state move next reached lined allowed stepped
    have shaped := shaped_of_reachable reached.reachable
    have closed := closed_of_reachable reached.reachable
    cases effect_of_step stepped with
    | run effect => exact lined.run closed shaped effect
    | call effect => exact lined.call closed allowed effect
    | reactor effect => exact lined.reactor closed effect
    | wake effect => exact lined.wake effect

/-- Operations pushed to one queue, by whichever threads, are completed in the
order in which they were pushed. -/
def InOrder (state : State T Op D) : Prop :=
  ∀ queue first second, [first, second].Sublist (state.history.pushedTo queue) →
    second ∈ state.history.called → [first, second].Sublist state.history.called

omit [DecidableEq T] [Fintype T] [DecidableEq D] in
theorem count_heldIn_le (contexts : List (ThreadInfo Op D)) (queue : Option ℕ) (op : Op) :
    (heldIn contexts queue).count op ≤
      (contexts.map fun info => info.queuedPrivately op).sum := by
  induction contexts with
  | nil => exact Nat.le_refl _
  | cons info outer ih =>
      rw [List.map_cons, List.sum_cons]
      unfold heldIn
      split
      · exact Nat.le_add_right _ _
      · exact ih.trans (Nat.le_add_left _ _)

omit [DecidableEq T] [DecidableEq D] in
/-- An operation whose completion has begun is in no queue any more. -/
theorem Kept.not_mem_queues {op : Op} (kept : Kept state) (called : op ∈ state.history.called)
    (t : T) (queue : Option ℕ) :
    op ∉ userOps state.scheduler.opQueue ++ heldIn (state.thread t).contexts queue := by
  intro queued
  have place := kept.place op
  have calls := kept.called op
  have once := List.nodup_iff_count_le_one.mp kept.once op
  have begun := List.count_pos_iff.mpr called
  have inside := List.count_pos_iff.mpr queued
  have held := count_heldIn_le (state.thread t).contexts queue op
  have summed : (state.thread t).queuedPrivately op ≤ state.queuedPrivately op :=
    Finset.single_le_sum (f := fun u => (state.thread u).queuedPrivately op)
      (fun _ _ => Nat.zero_le _) (Finset.mem_univ t)
  rw [List.count_append] at inside
  unfold State.placed State.queuedShared State.disposed at place
  unfold Thread.queuedPrivately at summed
  omega

omit [DecidableEq T] [DecidableEq D] in
/-- An operation that is handed over has not begun to be completed. -/
theorem Kept.not_called {fresh handed : List Op} {op : Op} (kept : Kept state)
    (delivered : Delivered fresh handed state next) (keptToo : Kept next) (new : op ∈ handed) :
    op ∉ state.history.called := by
  intro called
  have calls := kept.called op
  have placed := delivered.placed op
  have place := keptToo.place op
  have once := List.nodup_iff_count_le_one.mp keptToo.once op
  have begun := List.count_pos_iff.mpr called
  have handedOver := List.count_pos_iff.mpr new
  unfold State.placed State.disposed at placed place
  omega

/-- With one thread running the scheduler, the operations keep their order. -/
theorem inOrder_of_reachableWhen
    (reachable : (machine oneThread).ReachableWhen (RunBy runner) state) : InOrder state := by
  apply reachable.invariant
  · intro state isInitial
    subst isInitial
    exact fun _ _ _ _ member => absurd member List.not_mem_nil
  · intro state move next reached inOrder allowed stepped queue first second pair called
    have closed := closed_of_reachable reached.reachable
    have linedToo := lined_of_reachableWhen (reached.step allowed stepped)
    have kept := kept_of_reachable reached.reachable
    have keptToo := kept_of_reachable (reached.step allowed stepped).reachable
    cases closing : next.closing with
    | false =>
        have line := pair.trans (linedToo.line closing queue)
        rw [State.front, List.append_assoc] at line
        exact pair_sublist line (keptToo.not_mem_queues called runner queue)
    | true =>
        -- What is pushed from now on is not completed.
        have same := closed.called stepped closing
        rw [same] at called ⊢
        obtain ⟨fresh, handed, delivered⟩ :=
          delivered_of_step (shaped_of_reachable reached.reachable) stepped
        obtain ⟨pushes, pushed, new⟩ := delivered.pushes
        unfold History.pushedTo at pair
        rw [pushed, List.filter_append, List.map_append] at pair
        refine inOrder queue first second (pair_sublist pair fun behind => ?_) called
        obtain ⟨push, member, rfl⟩ := List.mem_map.mp behind
        exact kept.not_called delivered keptToo (new push (List.mem_of_mem_filter member)) called

/-- Where the operations are: each in one place, those pushed in a place of the
scheduler's; `complete` is called on each at most once and on none that is
destroyed; and nothing is left in the private queue of a function that returns. -/
structure Custody (state : State T Op D) : Prop where
  onePlace : ∀ op ∈ state.history.known, state.placed op + state.unplaced op = 1
  handedOver : ∀ push ∈ state.history.pushes, state.placed push.op = 1
  calledOnce : ∀ op, state.history.called.count op ≤ 1
  notDestroyed : ∀ op ∈ state.history.destroyed, op ∉ state.history.called
  nothingLeft : state.history.leftBehind = []

omit [DecidableEq T] [DecidableEq D] in
theorem Kept.custody (kept : Kept state) : Custody state where
  onePlace op known := by
    rw [kept.place, List.count_eq_one_of_mem kept.once known]
  handedOver push member := by
    have handed := kept.handed push member
    have place := kept.place push.op
    have once := List.nodup_iff_count_le_one.mp kept.once push.op
    omega
  calledOnce op := by
    have called := kept.called op
    have place := kept.place op
    have once := List.nodup_iff_count_le_one.mp kept.once op
    unfold State.placed State.disposed at place
    omega
  notDestroyed op destroyed called := by
    have calls := kept.called op
    have place := kept.place op
    have once := List.nodup_iff_count_le_one.mp kept.once op
    have begun := List.count_pos_iff.mpr called
    have gone := List.count_pos_iff.mpr destroyed
    unfold State.placed State.disposed at place
    omega
  nothingLeft := kept.leftBehind

/-- **Custody of the operations.** Whatever the threads do, every operation is in
one place and completed at most once; with one thread running the scheduler,
operations are completed in the order in which they were pushed to their queue. -/
theorem custody_of_reachable (reachable : (machine oneThread).Reachable state) :
    Custody state ∧ ∀ runner, (machine oneThread).ReachableWhen (RunBy runner) state →
      InOrder state :=
  ⟨(kept_of_reachable reachable).custody, fun _ => inOrder_of_reachableWhen⟩

end Preservation

/-- One thread runs the scheduler; the handler of the first operation posts two
more and throws, and another thread posts one. -/
def handOverMoves : List (Fin 2 × Action (Fin 2) Nat Nat) :=
  [(0, .post 1 false), (0, .acquire), (0, .proceed), (0, .call .run), (0, .acquire),
    (0, .proceed), (0, .proceed), (0, .post 2 true), (0, .post 3 true), (1, .post 4 false),
    (1, .acquire), (1, .proceed), (0, .finish true), (0, .proceed), (0, .proceed), (0, .acquire),
    (0, .proceed), (0, .call .poll), (0, .acquire), (0, .proceed), (0, .proceed),
    (0, .finish false), (0, .proceed), (0, .proceed), (0, .acquire), (0, .proceed)]

theorem custody_handOverMoves :
    ∃ state, (machine false).run .initial handOverMoves = some state ∧ Custody state ∧
      InOrder state := by
  have reached : (machine false).ReachableWhen (RunBy (0 : Fin 2)) _ :=
    .run (.initial rfl) handOverMoves rfl (.of_forall (by simp [handOverMoves, RunBy]) _)
  have custody := custody_of_reachable reached.reachable
  exact ⟨_, rfl, custody.1, custody.2 0 reached⟩

end Asio.Scheduler
