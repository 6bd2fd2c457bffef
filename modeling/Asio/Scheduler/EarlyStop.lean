import Asio.Scheduler.Accounting
import Mathlib.Algebra.Order.BigOperators.Group.Finset

/-! # When work_finished stops the scheduler

Each context keeps at least as many operations in its private queue as it has
counted private work for. A nested `poll` moves the operations of the outer
context to the main queue without their count; when it does not, the count can
only reach zero when no work is left.
-/

namespace Asio.Scheduler

open State

variable {T Op D : Type*}

/-- The private work of a context is accounted for by its private queue. -/
def ThreadInfo.Covered (info : ThreadInfo Op D) : Prop :=
  info.privateOutstandingWork ≤ (userOps info.privateOpQueue).length + info.compensations

/-- The private work of every context is covered. -/
def Covered (state : State T Op D) : Prop :=
  ∀ t, ∀ info ∈ (state.thread t).contexts, info.Covered

/-- The private work of the outer context whose private queue the next step of a
thread moves to the main queue. -/
def State.workLeftBehind (oneThread : Bool) (state : State T Op D) (t : T) : ℕ :=
  match (state.thread t).pc, (state.thread t).contexts with
  | .holding .enter, info :: outerInfo :: _ =>
      if info.entry.polls && oneThread then outerInfo.privateOutstandingWork else 0
  | _, _ => 0

/-- The step does not move the private queue of an outer context that has private
work: in the one-thread mode, `poll` and `poll_one` are not called by a handler
that has posted an operation since its context last shared its work. -/
def NestedSafe (oneThread : Bool) (state : State T Op D) (move : T × Action T Op D) : Prop :=
  state.workLeftBehind oneThread move.1 = 0

instance (oneThread : Bool) (state : State T Op D) (move : T × Action T Op D) :
    Decidable (NestedSafe oneThread state move) :=
  inferInstanceAs (Decidable (_ = 0))

/-- The move is a call of `work_finished`, by `~work_cleanup` or for a guard. -/
def State.callsWorkFinished (state : State T Op D) (move : T × Action T Op D) : Bool :=
  match move.2, (state.thread move.1).pc, (state.thread move.1).contexts with
  | .proceed, .cleanup _, info :: _ => info.privateOutstandingWork == 0
  | .workFinished, .user, _ => true
  | _, _, _ => false

/-- The move is a call of `work_finished` that takes the count to zero. -/
def FinishesLastWork (state : State T Op D) (move : T × Action T Op D) : Prop :=
  state.scheduler.outstandingWork = 1 ∧ state.callsWorkFinished move = true

instance (state : State T Op D) (move : T × Action T Op D) :
    Decidable (FinishesLastWork state move) :=
  inferInstanceAs (Decidable (_ ∧ _))

/-- No user work is unfinished: none is queued, pending, held by a guard, about
to be pushed or being completed. -/
structure NoUnfinishedWork (state : State T Op D) : Prop where
  opQueue : userOps state.scheduler.opQueue = []
  privateOpQueue : ∀ t, ∀ info ∈ (state.thread t).contexts, userOps info.privateOpQueue = []
  executing : ∀ t, ∀ info ∈ (state.thread t).contexts, info.current = none
  pending : state.pending = 0
  guards : state.guards = 0
  inTransit : ∀ t, (state.thread t).pc.inTransit = []

section Preservation

variable [DecidableEq T] {oneThread : Bool} {state next : State T Op D} {t : T}
  {info : ThreadInfo Op D} {outer contexts : List (ThreadInfo Op D)} {thread : Thread Op D}
  {action : Action T Op D}

theorem Covered.update (covered : Covered state) (t : T) (thread : Thread Op D)
    (threads : next.thread = Function.update state.thread t thread)
    (new : ∀ info ∈ thread.contexts, info.Covered) : Covered next := by
  intro u
  rw [threads]
  by_cases same : u = t
  · subst same
    rw [Function.update_self]
    exact new
  · rw [Function.update_of_ne same]
    exact covered u

omit [DecidableEq T] in
/-- The contexts of the thread an effect is about are covered. -/
theorem Covered.at {pc : Pc Op D} {signalling : Bool} (covered : Covered state)
    (here : state.thread t = ⟨pc, signalling, contexts⟩) : ∀ info ∈ contexts, info.Covered := by
  have inside := covered t
  rwa [here] at inside

/-- A covered innermost context over covered outer ones. -/
theorem covered_cons (innermost : info.Covered) (rest : ∀ other ∈ outer, other.Covered) :
    ∀ other ∈ info :: outer, other.Covered := by
  intro other member
  rcases List.mem_cons.mp member with rfl | member
  · exact innermost
  · exact rest other member

theorem Covered.turn {turn : Turn Op D} (covered : Covered state)
    (inside : ∀ other ∈ info :: outer, other.Covered) :
    Covered (state.turn t info outer turn) := by
  have rest : ∀ other ∈ outer, other.Covered := fun other member =>
    inside other (List.mem_cons_of_mem _ member)
  have innermost : info.Covered := inside info List.mem_cons_self
  unfold State.turn
  cases turn.outcome with
  | leave => exact covered.update t ⟨.user, _, outer⟩ rfl rest
  | sleep => exact covered.update t ⟨.waiting, _, info :: outer⟩ rfl inside
  | runTask usec => exact covered.update t ⟨.task usec [], _, info :: outer⟩ rfl inside
  | perform descriptor =>
      exact covered.update t ⟨.performIo descriptor, _, info :: outer⟩ rfl inside
  | complete op =>
      exact covered.update t ⟨.user, _, { info with current := some op } :: outer⟩ rfl
        (covered_cons innermost rest)

theorem Covered.run (covered : Covered state) (shaped : Shaped state)
    (safe : NestedSafe oneThread state (t, action))
    (effect : RunEffect oneThread t info outer state next) : Covered next := by
  have emptied : info.Settled → ({ info with privateOpQueue := [] } : ThreadInfo Op D).Covered := by
    intro settled
    simp [ThreadInfo.Covered, settled.work]
  cases effect with
  | enter here _ => exact covered.update t ⟨_, _, info :: outer⟩ rfl (covered.at here)
  | @splice outerInfo outermore here polls one nested =>
      subst nested
      have inside := covered.at here
      have spliced : ({ outerInfo with privateOpQueue := [] } : ThreadInfo Op D).Covered := by
        have shared : outerInfo.privateOutstandingWork = 0 := by
          simpa [NestedSafe, State.workLeftBehind, here, polls, one] using safe
        simp [ThreadInfo.Covered, shared]
      refine covered.update t ⟨_, _, info :: _ :: outermore⟩ rfl ?_
      refine covered_cons (inside info List.mem_cons_self) (covered_cons spliced fun other member => ?_)
      exact inside other (List.mem_cons_of_mem _ (List.mem_cons_of_mem _ member))
  | turn here _ => exact covered.turn (covered.at here)
  | wakeSignalled here _ => exact covered.update t ⟨_, _, info :: outer⟩ rfl (covered.at here)
  | sleepAgain here _ => exact covered.update t ⟨_, _, info :: outer⟩ rfl (covered.at here)
  | wakeOnce here =>
      have inside := covered.at here
      exact covered.update t ⟨_, _, _ :: outer⟩ rfl
        (covered_cons (inside info List.mem_cons_self) fun other member =>
          inside other (List.mem_cons_of_mem _ member))
  | taskCleanup here =>
      obtain ⟨_, _, same, settled, -⟩ := shaped.at here rfl
      obtain ⟨rfl, rfl⟩ := List.cons.inj same
      exact covered.update t ⟨_, _, _ :: outer⟩ rfl
        (covered_cons (emptied settled) fun other member =>
          covered.at here other (List.mem_cons_of_mem _ member))
  | taskThrown here =>
      exact covered.update t ⟨.user, _, outer⟩ rfl fun other member =>
        covered.at here other (List.mem_cons_of_mem _ member)
  | flushOn here _ =>
      obtain ⟨_, _, same, settled, -⟩ := shaped.at here rfl
      obtain ⟨rfl, rfl⟩ := List.cons.inj same
      exact covered.update t ⟨_, _, _ :: outer⟩ rfl
        (covered_cons (emptied settled) fun other member =>
          covered.at here other (List.mem_cons_of_mem _ member))
  | flushLeave here _ =>
      exact covered.update t ⟨.user, _, outer⟩ rfl fun other member =>
        covered.at here other (List.mem_cons_of_mem _ member)
  | cleanup here =>
      rw [workCleanup_eq]
      refine covered.update t ⟨_, _, info.cleaned :: outer⟩ rfl (covered_cons ?_ fun other member =>
        covered.at here other (List.mem_cons_of_mem _ member))
      simp [ThreadInfo.Covered, ThreadInfo.cleaned]
  | flush here _ => exact covered.update t ⟨_, _, info :: outer⟩ rfl (covered.at here)
  | goBack here _ _ => exact covered.update t ⟨_, _, info :: outer⟩ rfl (covered.at here)
  | leave here _ =>
      exact covered.update t ⟨.user, _, outer⟩ rfl fun other member =>
        covered.at here other (List.mem_cons_of_mem _ member)

theorem Posted.covered {ops : List Op} (posted : Posted oneThread t contexts ops state next)
    (covered : Covered state) (inside : ∀ info ∈ contexts, info.Covered) : Covered next := by
  cases posted with
  | nothing _ => exact covered.update t ⟨_, _, contexts⟩ rfl inside
  | @here info outer same _ =>
      subst same
      refine covered.update t ⟨_, _, _ :: outer⟩ rfl (covered_cons ?_ fun other member =>
        inside other (List.mem_cons_of_mem _ member))
      have innermost := inside info List.mem_cons_self
      unfold ThreadInfo.Covered at innermost ⊢
      simp only [userOps_append, userOps_map_user, List.length_append]
      omega
  | shared => exact covered.update t ⟨_, _, contexts⟩ rfl inside

variable [DecidableEq Op]

theorem Covered.call (covered : Covered state)
    (effect : CallEffect oneThread t action contexts state next) : Covered next := by
  cases effect with
  | request here _ => exact covered.update t ⟨_, _, contexts⟩ rfl (covered.at here)
  | close here _ _ => exact covered.update t ⟨_, _, contexts⟩ rfl (covered.at here)
  | acquire here _ => exact covered.update t ⟨_, _, contexts⟩ rfl (covered.at here)
  | push here => exact covered.update t ⟨_, _, contexts⟩ rfl (covered.at here)
  | stop here =>
      have woken : Covered state.stopAll := by
        intro u
        rw [stopAll_thread]
        unfold Thread.woken
        split
        · exact covered u
        · exact covered u
      exact woken.update t ⟨_, _, contexts⟩ rfl (covered.at here)
  | restart here => exact covered.update t ⟨_, _, contexts⟩ rfl (covered.at here)
  | initTask here _ _ => exact covered.update t ⟨_, _, contexts⟩ rfl (covered.at here)
  | initAgain here => exact covered.update t ⟨_, _, contexts⟩ rfl (covered.at here)
  | shutdown here => exact covered.update t ⟨_, _, contexts⟩ rfl (covered.at here)
  | destroy _ _ => exact covered
  | destroyed here _ => exact covered.update t ⟨_, _, contexts⟩ rfl (covered.at here)
  | callStop here _ => exact covered.update t ⟨_, _, contexts⟩ rfl (covered.at here)
  | call here _ _ _ =>
      exact covered.update t ⟨_, _, _ :: contexts⟩ rfl
        (covered_cons (Nat.zero_le _) (covered.at here))
  | @postHere op info outer here _ same =>
      have inside := covered.at here
      subst same
      refine covered.update t ⟨_, _, _ :: outer⟩ rfl (covered_cons ?_ fun other member =>
        inside other (List.mem_cons_of_mem _ member))
      have innermost := inside info List.mem_cons_self
      unfold ThreadInfo.Covered at innermost ⊢
      simp only [userOps_append, userOps_user, userOps_nil, List.length_append, List.length_cons,
        List.length_nil]
      omega
  | postShared here _ => exact covered.update t ⟨_, _, contexts⟩ rfl (covered.at here)
  | startOp _ _ => exact covered
  | deferred here _ posted => exact posted.covered covered (covered.at here)
  | abandon _ _ _ => exact covered
  | workStarted _ => exact covered
  | workFinished here _ _ => exact covered.update t ⟨_, _, contexts⟩ rfl (covered.at here)
  | finish here _ => exact covered.update t ⟨_, _, contexts⟩ rfl (covered.at here)

theorem Covered.reactor (covered : Covered state)
    (effect : ReactorEffect oneThread t action info outer state next) : Covered next := by
  have rest : ∀ {pc : Pc Op D}, state.thread t = ⟨pc, false, info :: outer⟩ →
      ∀ other ∈ outer, other.Covered := fun here other member =>
    covered.at here other (List.mem_cons_of_mem _ member)
  have innermost : ∀ {pc : Pc Op D}, state.thread t = ⟨pc, false, info :: outer⟩ →
      info.privateOutstandingWork ≤ (userOps info.privateOpQueue).length + info.compensations :=
    fun here => covered.at here info List.mem_cons_self
  cases effect with
  | again _ _ => exact covered
  | event here _ =>
      refine covered.update t ⟨_, _, _ :: outer⟩ rfl (covered_cons ?_ (rest here))
      have before := innermost here
      simp only [ThreadInfo.Covered, userOps_append, userOps_descriptor, userOps_nil,
        List.append_nil]
      exact before
  | timers here _ =>
      refine covered.update t ⟨_, _, _ :: outer⟩ rfl (covered_cons ?_ (rest here))
      have before := innermost here
      simp only [ThreadInfo.Covered, userOps_append, userOps_map_user, List.length_append]
      omega
  | taskReturn here _ =>
      exact covered.update t ⟨_, _, _ :: outer⟩ rfl (covered_cons (Nat.zero_le _) (rest here))
  | performNone here =>
      refine covered.update t ⟨_, _, _ :: outer⟩ rfl (covered_cons ?_ (rest here))
      have before := innermost here
      simp only [ThreadInfo.Covered]
      omega
  | perform here _ posted =>
      exact posted.covered covered (covered_cons (innermost here) (rest here))

omit [DecidableEq Op] in
theorem Covered.wake (covered : Covered state) (effect : WakeEffect t state next) :
    Covered next := by
  cases effect with
  | signalNone _ _ => exact covered.update t _ rfl (covered t)
  | @signal u _ _ _ =>
      have silent : Covered (state.setThread t { state.thread t with signalling := false }) :=
        covered.update t _ rfl (covered t)
      exact silent.update u _ rfl (covered u)
  | awaken here => exact covered.update t ⟨_, _, _⟩ rfl (covered.at here)

variable [Fintype T] [DecidableEq D]

/-- The private work stays covered while no nested poll moves counted operations. -/
theorem covered_of_reachable
    (reachable : (machine oneThread).ReachableWhen (NestedSafe oneThread) state) :
    Covered state := by
  apply reachable.invariant
  · intro state isInitial t info member
    subst isInitial
    exact absurd member List.not_mem_nil
  · intro state move next reached covered safe stepped
    cases effect_of_step stepped with
    | run effect => exact covered.run (shaped_of_reachable reached.reachable) safe effect
    | call effect => exact covered.call effect
    | reactor effect => exact covered.reactor effect
    | wake effect => exact covered.wake effect

omit [DecidableEq T] [DecidableEq Op] [Fintype T] [DecidableEq D] in
theorem ThreadInfo.Covered.balance_nonpos (covered : info.Covered) : info.balance ≤ 0 := by
  unfold ThreadInfo.Covered at covered
  unfold ThreadInfo.balance
  omega

omit [DecidableEq T] [DecidableEq Op] [Fintype T] [DecidableEq D] in
/-- Covered contexts count no more than they account for, and exactly as much only
when each of them does. -/
theorem sum_balance_nonpos (covered : ∀ info ∈ contexts, info.Covered) :
    (contexts.map ThreadInfo.balance).sum ≤ 0 ∧
      ((contexts.map ThreadInfo.balance).sum = 0 → ∀ info ∈ contexts, info.balance = 0) := by
  induction contexts with
  | nil => exact ⟨le_rfl, fun _ _ member => absurd member List.not_mem_nil⟩
  | cons first rest ih =>
      obtain ⟨bound, each⟩ := ih fun info member => covered info (List.mem_cons_of_mem _ member)
      have nonpos := (covered first List.mem_cons_self).balance_nonpos
      rw [List.map_cons, List.sum_cons]
      refine ⟨by omega, fun zero info member => ?_⟩
      rcases List.mem_cons.mp member with rfl | member
      · omega
      · exact each (by omega) info member

omit [DecidableEq T] [DecidableEq Op] [Fintype T] [DecidableEq D] in
theorem balance_nonpos (covered : Covered state) (t : T) : (state.thread t).balance ≤ 0 := by
  have sum := (sum_balance_nonpos (covered t)).1
  unfold Thread.balance
  omega

omit [DecidableEq T] [DecidableEq Op] [Fintype T] [DecidableEq D] in
/-- A context that completes no operation and balances its private work has an
empty private queue. -/
theorem Shaped.private_nil (shaped : Shaped state) (t : T)
    (idle : ∀ info ∈ (state.thread t).contexts, info.current = none)
    (balanced : ∀ info ∈ (state.thread t).contexts, info.balance = 0) :
    ∀ info ∈ (state.thread t).contexts, userOps info.privateOpQueue = [] := by
  have settledCase : ∀ {info : ThreadInfo Op D} {outer : List (ThreadInfo Op D)},
      (state.thread t).contexts = info :: outer → info.Settled → userOps info.privateOpQueue = [] := by
    intro info outer same settled
    have balance := balanced info (same ▸ List.mem_cons_self)
    rw [settled.balance_eq] at balance
    exact List.eq_nil_of_length_eq_zero (by omega)
  have notBusy : ∀ info ∈ (state.thread t).contexts, ¬ info.Busy := by
    intro info member busy
    have isSome := busy.1
    rw [idle info member] at isSome
    contradiction
  have alone : ∀ {info : ThreadInfo Op D} {outer : List (ThreadInfo Op D)},
      (state.thread t).contexts = info :: outer → (∀ other ∈ outer, other.Busy) →
      ∀ other ∈ (state.thread t).contexts, other = info := by
    intro info outer same busy other member
    rw [same] at member
    rcases List.mem_cons.mp member with rfl | inside
    · rfl
    · exact absurd (busy other inside)
        (notBusy other (same ▸ List.mem_cons_of_mem _ inside))
  intro other member
  have shape := shaped t
  unfold Thread.Shape at shape
  cases phase : (state.thread t).pc.phase with
  | calling =>
      rw [phase] at shape
      exact absurd (shape other member) (notBusy other member)
  | looking =>
      rw [phase] at shape
      obtain ⟨info, outer, same, -, flushed, busy⟩ := shape
      rw [alone same busy other member, flushed]
      rfl
  | gathering =>
      rw [phase] at shape
      obtain ⟨info, outer, same, settled, busy⟩ := shape
      rw [alone same busy other member]
      exact settledCase same settled
  | finishing =>
      rw [phase] at shape
      obtain ⟨info, outer, same, ended, busy⟩ := shape
      rw [alone same busy other member]
      rcases ended with isBusy | ⟨-, flushed, -, -⟩
      · exact absurd isBusy (notBusy info (same ▸ List.mem_cons_self))
      · rw [flushed]
        rfl

omit [DecidableEq T] [DecidableEq Op] [DecidableEq D] in
/-- When the count of work is zero and the private work is covered, no work is
unfinished. -/
theorem noUnfinishedWork (balanced : Balanced state) (shaped : Shaped state)
    (covered : Covered state) (zero : state.scheduler.outstandingWork = 0) :
    NoUnfinishedWork state := by
  have total : ∑ t, (state.thread t).balance ≤ 0 :=
    Finset.sum_nonpos fun t _ => balance_nonpos covered t
  unfold Balanced State.ledger at balanced
  rw [zero] at balanced
  have each : ∀ t, (state.thread t).balance = 0 := by
    have sum : ∑ t, (state.thread t).balance = 0 := by omega
    rw [Finset.sum_eq_zero_iff_of_nonpos fun t _ => balance_nonpos covered t] at sum
    exact fun t => sum t (Finset.mem_univ t)
  have parts : ∀ t, (state.thread t).pc.inTransit = [] ∧
      ∀ info ∈ (state.thread t).contexts, info.balance = 0 := by
    intro t
    obtain ⟨sum, zero⟩ := sum_balance_nonpos (covered t)
    have whole := each t
    unfold Thread.balance at whole
    exact ⟨List.eq_nil_of_length_eq_zero (by omega), zero (by omega)⟩
  have idle : ∀ t, ∀ info ∈ (state.thread t).contexts, info.current = none := by
    intro t info inside
    have balance := (parts t).2 info inside
    have bound := covered t info inside
    unfold ThreadInfo.Covered at bound
    unfold ThreadInfo.balance at balance
    cases current : info.current with
    | none => rfl
    | some op =>
        rw [current] at balance
        simp only [Option.toList_some, List.length_cons, List.length_nil] at balance
        omega
  refine ⟨List.eq_nil_of_length_eq_zero (by omega), fun t => ?_, idle, ?_, by omega,
    fun t => (parts t).1⟩
  · exact shaped.private_nil t (idle t) (parts t).2
  · rw [← Multiset.card_eq_zero]
    omega

omit [DecidableEq T] [DecidableEq Op] [Fintype T] [DecidableEq D] in
/-- Where `work_finished` is called from. -/
theorem callsWorkFinished_cases {move : T × Action T Op D}
    (calls : state.callsWorkFinished move = true) :
    (move.2 = .proceed ∧ ∃ thrown info outer, (state.thread move.1).pc = .cleanup thrown ∧
        (state.thread move.1).contexts = info :: outer ∧ info.privateOutstandingWork = 0) ∨
      move.2 = .workFinished ∧ (state.thread move.1).pc = .user := by
  unfold State.callsWorkFinished at calls
  split at calls
  · next action place contexts =>
      exact Or.inl ⟨action, _, _, _, place, contexts, by simpa using calls⟩
  · next action place => exact Or.inr ⟨action, place⟩
  · contradiction

/-- The step that takes the count to zero leaves it at zero. -/
theorem FinishesLastWork.zero {move : T × Action T Op D} (last : FinishesLastWork state move)
    (stepped : (machine oneThread).step state move = some next) :
    next.scheduler.outstandingWork = 0 := by
  obtain ⟨one, calls⟩ := last
  simp only [machine, State.step] at stepped
  rcases callsWorkFinished_cases calls with
    ⟨action, thrown, info, outer, place, contexts, noWork⟩ | ⟨action, place⟩
  · simp only [action] at stepped
    split at stepped
    · simp at stepped
    · simp only [State.threadStep, State.proceed, place, contexts, Option.some.injEq] at stepped
      rw [← stepped, workCleanup_eq]
      simp [one, noWork]
  · simp only [action] at stepped
    split at stepped
    · simp at stepped
    · simp only [State.threadStep, place, State.userStep] at stepped
      split at stepped
      · simp only [Option.some.injEq] at stepped
        rw [← stepped]
        simp [one]
      · simp at stepped

omit [DecidableEq T] [DecidableEq Op] [Fintype T] [DecidableEq D] in
/-- A call of `work_finished` moves no private queue. -/
theorem FinishesLastWork.safe {move : T × Action T Op D} (last : FinishesLastWork state move) :
    NestedSafe oneThread state move := by
  rcases callsWorkFinished_cases last.2 with ⟨-, _, _, _, place, -⟩ | ⟨-, place⟩
  · simp [NestedSafe, State.workLeftBehind, place]
  · simp [NestedSafe, State.workLeftBehind, place]

end Preservation

/-- A handler polls before it posts, and the operation it posts is executed. -/
def pollThenPost : List (Fin 1 × Action (Fin 1) Nat Nat) :=
  [(0, .post 1 false), (0, .acquire), (0, .proceed), (0, .call .run), (0, .acquire),
    (0, .proceed), (0, .proceed), (0, .call .poll), (0, .acquire), (0, .proceed), (0, .proceed),
    (0, .post 2 false), (0, .finish false), (0, .proceed), (0, .proceed), (0, .acquire),
    (0, .proceed), (0, .proceed), (0, .finish false)]

/-- In the one-thread mode a handler posts an operation and polls: the operation
is executed by the nested call, which finishes the last counted work while the
handler still runs. -/
def postThenPoll : List (Fin 1 × Action (Fin 1) Nat Nat) :=
  [(0, .post 1 false), (0, .acquire), (0, .proceed), (0, .call .run), (0, .acquire),
    (0, .proceed), (0, .proceed), (0, .post 2 false), (0, .call .pollOne), (0, .acquire),
    (0, .proceed), (0, .proceed), (0, .finish false)]

end Asio.Scheduler
