import Asio.Lib.FamilySum
import Asio.Scheduler.Shape
import Mathlib.Tactic.Ring

/-! # Outstanding-work accounting

The shared count of outstanding work and the private counts of the contexts add
up to the user operations that are queued, wait in the reactor or are being
completed, and the work held by guards. The operations of a thread that is about
to push them are counted but in no queue yet.
-/

namespace Asio.Scheduler

open State

variable {T Op D : Type*}

section UserOps

variable (queue : List (Operation Op D)) (ops : List Op)

@[simp] theorem userOps_nil : userOps ([] : List (Operation Op D)) = [] := rfl

@[simp] theorem userOps_task : userOps (.task :: queue) = userOps queue := rfl

@[simp] theorem userOps_descriptor (descriptor : D) :
    userOps (.descriptor descriptor :: queue) = userOps queue := rfl

@[simp] theorem userOps_user (op : Op) : userOps (.user op :: queue) = op :: userOps queue := rfl

@[simp] theorem userOps_append (rest : List (Operation Op D)) :
    userOps (queue ++ rest) = userOps queue ++ userOps rest := by
  simp [userOps]

@[simp] theorem userOps_map_user : userOps (ops.map Operation.user : List (Operation Op D)) = ops := by
  induction ops with
  | nil => rfl
  | cons op ops ih => simp [ih]

end UserOps

/-- The operations a thread is about to push, which are in no queue yet. -/
def Pc.inTransit : Pc Op D → List Op
  | .acquiring (.push ops) | .holding (.push ops) => ops
  | _ => []

theorem inTransit_user : (.user : Pc Op D).inTransit = [] := rfl

theorem inTransit_stop (cleanup : Option Bool) :
    (.holding (.stop cleanup) : Pc Op D).inTransit = [] := rfl

theorem inTransit_holding (rest : Section Op) :
    (.holding rest : Pc Op D).inTransit = (.acquiring rest : Pc Op D).inTransit := by
  cases rest <;> rfl

theorem inTransit_afterStop (cleanup : Option Bool) :
    (.afterStop cleanup : Pc Op D).inTransit = [] := by
  cases cleanup <;> rfl

/-- The work a context has counted privately, less what it accounts for. -/
def ThreadInfo.balance (info : ThreadInfo Op D) : ℤ :=
  info.privateOutstandingWork - info.compensations - (userOps info.privateOpQueue).length -
    info.current.toList.length

/-- The work a thread has counted privately, less what it accounts for. -/
def Thread.balance (thread : Thread Op D) : ℤ :=
  (thread.contexts.map ThreadInfo.balance).sum - thread.pc.inTransit.length

/-- What the members of the scheduler account for, less the shared count. -/
def State.ledger (state : State T Op D) : ℤ :=
  (userOps state.scheduler.opQueue).length + state.pending.card + state.guards +
    state.history.destroyed.length - state.scheduler.outstandingWork

/-- The accounts agree; operations that were destroyed stay counted. -/
def Balanced [Fintype T] (state : State T Op D) : Prop :=
  ∑ t, (state.thread t).balance = state.ledger

section Preservation

variable [DecidableEq T] [Fintype T] {oneThread : Bool} {state next : State T Op D} {t : T}
  {info : ThreadInfo Op D} {outer contexts : List (ThreadInfo Op D)} {thread : Thread Op D}
  {action : Action T Op D}

/-- A thread and the members change by the same amount. -/
theorem Balanced.update (balanced : Balanced state) (t : T) (thread : Thread Op D)
    (threads : next.thread = Function.update state.thread t thread)
    (delta : next.ledger = state.ledger - (state.thread t).balance + thread.balance) :
    Balanced next := by
  unfold Balanced
  rw [threads, FamilySum.sum_update Thread.balance, balanced, delta]

omit [DecidableEq T] [Fintype T] in
theorem balance_congr {before after : Thread Op D}
    (transit : after.pc.inTransit = before.pc.inTransit)
    (contexts : after.contexts = before.contexts) : after.balance = before.balance := by
  rw [Thread.balance, Thread.balance, transit, contexts]

/-- A thread goes on with the same contexts, and the members stay as they are. -/
theorem Balanced.move (balanced : Balanced state) (t : T) (thread : Thread Op D)
    (threads : next.thread = Function.update state.thread t thread)
    (transit : thread.pc.inTransit = (state.thread t).pc.inTransit)
    (contexts : thread.contexts = (state.thread t).contexts)
    (ledger : next.ledger = state.ledger) : Balanced next := by
  apply balanced.update t thread threads
  rw [ledger, balance_congr transit contexts]
  omega

@[simp] theorem balance_woken (thread : Thread Op D) : thread.woken.balance = thread.balance := by
  unfold Thread.woken
  split
  · next waiting => simp only [Thread.balance, waiting, Pc.inTransit]
  · rfl

theorem afterTask_inTransit (entry : Entry) :
    (.holding entry.afterTask : Pc Op D).inTransit = [] := by
  cases entry <;> rfl

theorem Balanced.turn {rest : Section Op} {turn : Turn Op D} (balanced : Balanced state)
    (shaped : Shaped state) (here : state.thread t = ⟨.holding rest, false, info :: outer⟩)
    (turned : rest.turnOf oneThread state.scheduler info.entry = some turn) :
    Balanced (state.turn t info outer turn) := by
  obtain ⟨_, _, same, settled, flushed, -⟩ : PhaseShape .looking (info :: outer) :=
    shaped.at here (turnOf_phase turned)
  obtain ⟨rfl, rfl⟩ := List.cons.inj same
  have before : (state.thread t).balance = (outer.map ThreadInfo.balance).sum := by
    have transit : (.holding rest : Pc Op D).inTransit = [] := by
      cases rest with
      | push ops => simp [Section.turnOf] at turned
      | _ => rfl
    rw [here]
    simp [Thread.balance, ThreadInfo.balance, transit, settled.current, settled.work,
      settled.compensations, flushed]
  have settledBalance : info.balance = 0 := by
    simp [ThreadInfo.balance, settled.current, settled.work, settled.compensations, flushed]
  have busyBalance : ∀ op, ({ info with current := some op } : ThreadInfo Op D).balance = -1 := by
    intro op
    simp [ThreadInfo.balance, settled.work, settled.compensations, flushed]
  cases turned_of_turnOf turned with
  | leave _ =>
      refine balanced.update t ⟨.user, false, outer⟩ rfl ?_
      rw [before]
      simp [State.turn, State.leave, State.ledger, Thread.balance, Pc.inTransit, flushed]
  | handOver _ _ =>
      refine balanced.update t ⟨.user, _, outer⟩ rfl ?_
      rw [before]
      simp [State.turn, State.leave, State.ledger, Thread.balance, Pc.inTransit, flushed]
  | sleep _ queue _ =>
      refine balanced.update t ⟨.waiting, false, info :: outer⟩ rfl ?_
      rw [before]
      simp [State.turn, State.ledger, Thread.balance, Pc.inTransit, Scheduler.sleep,
        settledBalance]
  | task queue _ =>
      rw [dequeueTask_eq]
      refine balanced.update t ⟨.task _ [], _, info :: outer⟩ rfl ?_
      rw [before]
      simp [State.turn, State.ledger, Thread.balance, Pc.inTransit, settledBalance, queue]
  | pollTask queue _ _ =>
      refine balanced.update t ⟨.task 0 [], false, info :: outer⟩ rfl ?_
      rw [before]
      simp [State.turn, State.ledger, Thread.balance, Pc.inTransit, settledBalance, queue]
  | @perform descriptor ops queue =>
      rw [turn_dequeue_perform]
      refine balanced.update t ⟨.performIo descriptor, _, info :: outer⟩ rfl ?_
      rw [before]
      simp [State.ledger, Thread.balance, Pc.inTransit, settledBalance, queue]
  | @complete op ops queue =>
      rw [turn_dequeue_complete]
      refine balanced.update t ⟨.user, _, { info with current := some op } :: outer⟩ rfl ?_
      rw [before]
      simp [State.ledger, Thread.balance, Pc.inTransit, busyBalance, queue]
      omega

theorem afterWork_inTransit (last thrown : Bool) :
    (Pc.afterWork last thrown : Pc Op D).inTransit = [] := by
  cases last <;> rfl

/-- The balance of a settled context. -/
theorem ThreadInfo.Settled.balance_eq (settled : info.Settled) :
    info.balance = -(userOps info.privateOpQueue).length := by
  simp [ThreadInfo.balance, settled.current, settled.work, settled.compensations]

theorem Balanced.run (balanced : Balanced state) (shaped : Shaped state)
    (effect : RunEffect oneThread t info outer state next) : Balanced next := by
  cases effect with
  | enter here _ =>
      exact balanced.move t ⟨.holding .dispatch, false, info :: outer⟩ rfl (by rw [here]; rfl)
        (by rw [here]) rfl
  | @splice outerInfo outermore here _ _ nested =>
      refine balanced.update t ⟨.holding .dispatch, false,
        info :: { outerInfo with privateOpQueue := [] } :: outermore⟩ rfl ?_
      subst nested
      rw [here]
      simp [State.ledger, Thread.balance, ThreadInfo.balance, Pc.inTransit]
      omega
  | turn here turned => exact balanced.turn shaped here turned
  | wakeSignalled here _ =>
      exact balanced.move t ⟨.holding .dispatch, false, info :: outer⟩ rfl (by rw [here]; rfl)
        (by rw [here]) rfl
  | sleepAgain here _ =>
      exact balanced.move t ⟨.waiting, false, info :: outer⟩ rfl (by rw [here]; rfl)
        (by rw [here]) rfl
  | wakeOnce here =>
      refine balanced.update t
        ⟨.holding .waited, false, { info with entry := .waitOne 0 } :: outer⟩ rfl ?_
      rw [here]
      simp [State.ledger, Thread.balance, ThreadInfo.balance, Pc.inTransit]
  | taskCleanup here =>
      refine balanced.update t ⟨.holding info.entry.afterTask, false,
        { info with privateOpQueue := [] } :: outer⟩ rfl ?_
      have transit : (.holding (.taskCleanup false) : Pc Op D).inTransit = [] := rfl
      rw [here]
      simp [State.ledger, Thread.balance, ThreadInfo.balance, transit, afterTask_inTransit]
      omega
  | taskThrown here =>
      obtain ⟨_, _, same, settled, -⟩ := shaped.at here rfl
      obtain ⟨rfl, rfl⟩ := List.cons.inj same
      refine balanced.update t ⟨.user, false, outer⟩ rfl ?_
      rw [here]
      simp [State.ledger, Thread.balance, settled.balance_eq, Pc.inTransit, State.leave]
      omega
  | flushOn here _ =>
      refine balanced.update t ⟨.holding .dispatch, false,
        { info with privateOpQueue := [] } :: outer⟩ rfl ?_
      rw [here]
      simp [State.ledger, Thread.balance, ThreadInfo.balance, Pc.inTransit]
      omega
  | flushLeave here _ =>
      obtain ⟨_, _, same, settled, -⟩ := shaped.at here rfl
      obtain ⟨rfl, rfl⟩ := List.cons.inj same
      refine balanced.update t ⟨.user, false, outer⟩ rfl ?_
      rw [here]
      simp [State.ledger, Thread.balance, settled.balance_eq, Pc.inTransit, State.leave]
      omega
  | @cleanup thrown here =>
      obtain ⟨_, _, same, ended, -⟩ := shaped.at here rfl
      obtain ⟨rfl, rfl⟩ := List.cons.inj same
      have finished : (info.compensations : ℤ) + info.current.toList.length = 1 := by
        rcases ended with ⟨busy, uncompensated⟩ | ⟨idle, -, -, compensated⟩
        · obtain ⟨op, current⟩ := Option.isSome_iff_exists.mp busy
          simp [uncompensated, current]
        · simp [compensated, idle]
      have transit : (.cleanup thrown : Pc Op D).inTransit = [] := rfl
      rw [workCleanup_eq]
      refine balanced.update t ⟨.afterWork _ thrown, false, info.cleaned :: outer⟩ rfl ?_
      rw [here]
      simp [State.ledger, Thread.balance, ThreadInfo.balance, ThreadInfo.cleaned, transit,
        afterWork_inTransit]
      omega
  | flush here _ =>
      exact balanced.move t ⟨.acquiring (.flush _), false, info :: outer⟩ rfl (by rw [here]; rfl)
        (by rw [here]) rfl
  | goBack here _ _ =>
      exact balanced.move t ⟨.acquiring .dispatch, false, info :: outer⟩ rfl (by rw [here]; rfl)
        (by rw [here]) rfl
  | leave here flushed =>
      obtain ⟨_, _, same, settled, -⟩ := shaped.at here rfl
      obtain ⟨rfl, rfl⟩ := List.cons.inj same
      refine balanced.update t ⟨.user, false, outer⟩ rfl ?_
      rw [here]
      simp [State.ledger, Thread.balance, settled.balance_eq, Pc.inTransit, State.leave, flushed]

omit [DecidableEq T] [Fintype T] in
theorem balance_user (signalling : Bool) :
    (⟨.user, signalling, contexts⟩ : Thread Op D).balance =
      (contexts.map ThreadInfo.balance).sum := by
  simp [Thread.balance, Pc.inTransit]

/-- Posting moves operations into a private queue or into transit. -/
theorem Posted.balanced {ops : List Op} (posted : Posted oneThread t contexts ops state next)
    (balance : ∑ u, (state.thread u).balance = state.ledger + ops.length +
      ((state.thread t).balance - (contexts.map ThreadInfo.balance).sum)) : Balanced next := by
  cases posted with
  | nothing none =>
      unfold Balanced
      rw [setThread_thread, FamilySum.sum_update Thread.balance, balance]
      simp [State.ledger, none, balance_user]
      omega
  | @here info outer inside _ =>
      unfold Balanced
      subst inside
      rw [logPushes_thread, goOn_eq, setThread_thread, FamilySum.sum_update Thread.balance, balance]
      simp [State.ledger, State.logPushes, Thread.balance, ThreadInfo.balance, Pc.inTransit]
      omega
  | shared =>
      unfold Balanced
      rw [setThread_thread, FamilySum.sum_update Thread.balance, balance]
      simp [State.ledger, Thread.balance, Pc.inTransit]
      omega

variable [DecidableEq Op]

omit [DecidableEq T] [Fintype T] in
theorem card_takePending {ops : List Op} (held : (ops : Multiset Op) ≤ state.pending) :
    ((state.takePending ops).pending.card : ℤ) = state.pending.card - ops.length := by
  have bound := Multiset.card_le_card held
  rw [Multiset.coe_card] at bound
  rw [takePending_pending, Multiset.card_sub held, Multiset.coe_card]
  omega

theorem Balanced.call (balanced : Balanced state)
    (effect : CallEffect oneThread t action contexts state next) : Balanced next := by
  cases effect with
  | @request rest here requested =>
      have transit : (.acquiring rest : Pc Op D).inTransit = [] := by
        rcases requested with rfl | rfl | rfl <;> rfl
      exact balanced.move t ⟨.acquiring rest, false, contexts⟩ rfl (by rw [here]; exact transit)
        (by rw [here]) rfl
  | close here _ _ =>
      exact balanced.move t ⟨.acquiring .shutdown, false, contexts⟩ rfl (by rw [here]; rfl)
        (by rw [here]) rfl
  | @acquire rest here _ =>
      exact balanced.move t ⟨.holding rest, false, contexts⟩ rfl
        (by rw [here]; exact inTransit_holding rest) (by rw [here]) rfl
  | push here =>
      refine balanced.update t ⟨.user, _, contexts⟩ rfl ?_
      rw [here]
      simp [State.ledger, State.logPushes, Thread.balance, Pc.inTransit]
      omega
  | @stop cleanup here =>
      have woken : Balanced state.stopAll := by
        unfold Balanced
        simp only [stopAll_thread, balance_woken]
        rw [balanced]
        simp [State.ledger]
      refine woken.update t ⟨.afterStop cleanup, false, contexts⟩ rfl ?_
      rw [stopAll_thread, balance_woken, here]
      simp [State.ledger, Thread.balance, inTransit_afterStop, inTransit_stop]
  | restart here =>
      exact balanced.move t ⟨.user, false, contexts⟩ rfl (by rw [here]; rfl) (by rw [here]) rfl
  | initTask here _ _ =>
      refine balanced.update t ⟨.user, _, contexts⟩ rfl ?_
      rw [here]
      simp [State.ledger, Thread.balance, Pc.inTransit]
  | initAgain here =>
      exact balanced.move t ⟨.user, false, contexts⟩ rfl (by rw [here]; rfl) (by rw [here]) rfl
  | shutdown here =>
      exact balanced.move t ⟨.destroying, false, contexts⟩ rfl (by rw [here]; rfl)
        (by rw [here]) rfl
  | @destroy o opQueue here queue =>
      unfold Balanced at balanced ⊢
      rw [balanced]
      cases o <;> simp [State.ledger, queue]
      omega
  | destroyed here _ =>
      exact balanced.move t ⟨.user, false, contexts⟩ rfl (by rw [here]; rfl) (by rw [here]) rfl
  | callStop here _ =>
      exact balanced.move t ⟨.acquiring (.stop none), false, contexts⟩ rfl (by rw [here]; rfl)
        (by rw [here]) rfl
  | @call entry here _ _ _ =>
      refine balanced.update t ⟨.acquiring .enter, false,
        ⟨entry, state.history.contexts, [], 0, none, 0⟩ :: contexts⟩ rfl ?_
      rw [here]
      simp [State.ledger, Thread.balance, ThreadInfo.balance, Pc.inTransit]
  | @postHere op info outer here _ inside =>
      subst inside
      refine balanced.update t ⟨.user, false, { info with
        privateOutstandingWork := info.privateOutstandingWork + 1
        privateOpQueue := info.privateOpQueue ++ [.user op] } :: outer⟩ rfl ?_
      rw [here]
      simp [State.ledger, State.logPushes, Thread.balance, ThreadInfo.balance, Pc.inTransit]
      omega
  | @postShared op here _ =>
      refine balanced.update t ⟨.acquiring (.push [op]), false, contexts⟩ rfl ?_
      rw [here]
      simp [State.ledger, Thread.balance, Pc.inTransit]
      omega
  | startOp here _ =>
      unfold Balanced at balanced ⊢
      rw [balanced]
      simp [State.ledger]
      omega
  | deferred here held posted =>
      apply posted.balanced
      rw [takePending_thread, balanced]
      have taken := card_takePending held
      simp only [State.ledger, takePending_scheduler, takePending_guards, takePending_history,
        here, Thread.balance, Pc.inTransit, List.length_nil]
      omega
  | abandon here held _ =>
      have taken := card_takePending held
      unfold Balanced at balanced ⊢
      simp only [takePending_thread]
      rw [balanced]
      simp only [State.ledger, takePending_scheduler, takePending_guards, List.length_append]
      omega
  | workStarted here =>
      unfold Balanced at balanced ⊢
      rw [balanced]
      simp [State.ledger]
      omega
  | @workFinished pc here held place =>
      have transit : pc.inTransit = [] := by
        rcases place with ⟨_, rfl⟩ | ⟨_, rfl⟩ <;> rfl
      refine balanced.update t ⟨pc, false, contexts⟩ rfl ?_
      rw [here]
      simp [State.ledger, Thread.balance, transit, inTransit_user]
      omega
  | @finish thrown here _ =>
      exact balanced.move t ⟨.cleanup thrown, false, contexts⟩ rfl (by rw [here]; rfl)
        (by rw [here]) rfl

variable [DecidableEq D]

omit [DecidableEq D] in
theorem Balanced.reactor (balanced : Balanced state) (shaped : Shaped state)
    (effect : ReactorEffect oneThread t action info outer state next) : Balanced next := by
  cases effect with
  | again _ _ => exact balanced
  | @event usec pushed descriptor here _ =>
      refine balanced.update t ⟨.task usec (pushed ++ [descriptor]), false, { info with
        privateOpQueue := info.privateOpQueue ++ [.descriptor descriptor] } :: outer⟩ rfl ?_
      rw [here]
      simp [State.ledger, Thread.balance, ThreadInfo.balance, Pc.inTransit]
  | @timers usec pushed ops here held =>
      have taken := card_takePending held
      refine balanced.update t ⟨.task usec pushed, false, { info with
        privateOpQueue := info.privateOpQueue ++ ops.map .user } :: outer⟩ rfl ?_
      rw [here]
      simp only [State.ledger, State.logPushes, goOn_eq, setThread_scheduler, setThread_pending,
        setThread_guards, setThread_history, takePending_scheduler, takePending_guards,
        takePending_history, Thread.balance, ThreadInfo.balance, Pc.inTransit, userOps_append,
        userOps_map_user, List.length_append, List.map_cons, List.sum_cons, List.length_nil]
      omega
  | @taskReturn usec pushed thrown here _ =>
      obtain ⟨_, _, same, settled, -⟩ := shaped.at here rfl
      obtain ⟨rfl, rfl⟩ := List.cons.inj same
      refine balanced.update t ⟨.acquiring (.taskCleanup thrown), false,
        { info with privateOutstandingWork := 0 } :: outer⟩ rfl ?_
      rw [here]
      simp [State.ledger, Thread.balance, ThreadInfo.balance, Pc.inTransit, settled.work]
  | @performNone descriptor here =>
      refine balanced.update t ⟨.cleanup false, false, { info with
        privateOutstandingWork := info.privateOutstandingWork + 1
        compensations := info.compensations + 1 } :: outer⟩ rfl ?_
      rw [here]
      simp [State.ledger, Thread.balance, ThreadInfo.balance, Pc.inTransit]
  | @perform _ descriptor first rest here held posted =>
      obtain ⟨_, _, same, settled, flushed, -⟩ := shaped.at here rfl
      obtain ⟨rfl, rfl⟩ := List.cons.inj same
      have taken := card_takePending held
      apply posted.balanced
      simp only [takePending_thread]
      rw [balanced, here]
      simp only [State.ledger, takePending_scheduler, takePending_guards,
        Thread.balance, ThreadInfo.balance, Pc.inTransit, List.length_cons, List.map_cons,
        List.sum_cons, settled.current, settled.work, settled.compensations, flushed,
        Option.toList_none, Option.toList_some, List.length_nil, userOps_nil] at taken ⊢
      omega

omit [DecidableEq Op] [DecidableEq D] in
theorem Balanced.wake (balanced : Balanced state) (effect : WakeEffect t state next) :
    Balanced next := by
  cases effect with
  | signalNone _ _ =>
      refine balanced.update t { state.thread t with signalling := false } rfl ?_
      simp [State.ledger, Thread.balance]
  | @signal u _ waiting other =>
      have silent : Balanced (state.setThread t { state.thread t with signalling := false }) := by
        refine balanced.update t { state.thread t with signalling := false } rfl ?_
        simp [State.ledger, Thread.balance]
      refine silent.update u { state.thread u with pc := .acquiring .wake } rfl ?_
      rw [setThread_thread, Function.update_of_ne other]
      simp [State.ledger, Thread.balance, waiting, Pc.inTransit]
  | @awaken contexts here =>
      exact balanced.move t ⟨.acquiring .wake, false, contexts⟩ rfl (by rw [here]; rfl)
        (by rw [here]) rfl

/-- The accounts agree in every reachable state. -/
theorem balanced_of_reachable (reachable : (machine oneThread).Reachable state) :
    Balanced state := by
  apply reachable.invariant
  · intro state isInitial
    subst isInitial
    simp [Balanced, State.ledger, State.initial, Scheduler.initial, Thread.balance, Pc.inTransit]
  · intro state move next reached balanced _ stepped
    have shaped := shaped_of_reachable reached.reachable
    cases effect_of_step stepped with
    | run effect => exact balanced.run shaped effect
    | call effect => exact balanced.call effect
    | reactor effect => exact balanced.reactor shaped effect
    | wake effect => exact balanced.wake effect

end Preservation

end Asio.Scheduler
