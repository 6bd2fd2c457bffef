import Asio.Reactor.SelectReactor

/-! # What a blocked select reactor waits for

While `run` is blocked, every reason to wake up is in the sets or within the
timeout, or else the interrupter is readable. What it does not see is an operation
that has failed while the sets were set up.
-/

namespace Asio.Reactor

open Timer (TimerQueue TimerQueues HeapEntry WaitOp PosixTraits DurationTraits)

/-! ## Setting up the sets -/

namespace FdSetAdapter

variable {Op : Type*} {adapter : FdSetAdapter} {operations : ReactorOpQueue Nat Op}
  {ops : List (ReactorOp Op)} {descriptors : List Nat} {d : Nat}

theorem set_small (small : d < fdSetSize) :
    ∃ fdSet, adapter.set d = (fdSet, true) ∧ fdSet.fdSet = insert d adapter.fdSet := by
  rw [set, if_pos small]
  exact ⟨_, rfl, rfl⟩

theorem set_large (large : ¬ d < fdSetSize) : adapter.set d = (adapter, false) := by
  rw [set, if_neg large]

theorem setLoop_hasOperation :
    (setLoop descriptors adapter operations ops).2.1.hasOperation d = true ↔
      operations.hasOperation d = true ∧ ¬ (d ∈ descriptors ∧ fdSetSize ≤ d) := by
  induction descriptors generalizing adapter operations ops with
  | nil => simp [setLoop]
  | cons first descriptors ih =>
      by_cases small : first < fdSetSize
      · obtain ⟨fdSet, added, -⟩ := adapter.set_small small
        simp only [setLoop, added, ih, List.mem_cons]
        refine and_congr_right fun _ => not_congr (and_congr_left fun large => ?_)
        refine ⟨.inr, fun either => either.resolve_left ?_⟩
        rintro rfl
        exact absurd small (Nat.not_lt.mpr large)
      · simp only [setLoop, set_large small, ih, ReactorOpQueue.hasOperation_cancel, List.mem_cons]
        by_cases own : d = first
        · subst own
          simp [Nat.not_lt.mp small]
        · simp [own]

theorem mem_setLoop : d ∈ (setLoop descriptors adapter operations ops).1.fdSet ↔
    d ∈ adapter.fdSet ∨ d ∈ descriptors ∧ d < fdSetSize := by
  induction descriptors generalizing adapter operations ops with
  | nil => simp [setLoop]
  | cons first descriptors ih =>
      by_cases small : first < fdSetSize
      · obtain ⟨fdSet, added, inserted⟩ := adapter.set_small small
        simp only [setLoop, added, ih, inserted, Finset.mem_insert, List.mem_cons]
        by_cases own : d = first
        · subst own
          simp [small]
        · simp [own]
      · simp only [setLoop, set_large small, ih, List.mem_cons]
        by_cases own : d = first
        · subst own
          simp [small]
        · simp [own]

/-- Nothing fails only if all descriptors with operations are small. -/
theorem setLoop_ops : (setLoop descriptors adapter operations ops).2.2 = [] ↔
    ops = [] ∧ ∀ d ∈ descriptors, operations.hasOperation d = true → d < fdSetSize := by
  induction descriptors generalizing adapter operations ops with
  | nil => simp [setLoop]
  | cons first descriptors ih =>
      by_cases small : first < fdSetSize
      · obtain ⟨fdSet, added, -⟩ := adapter.set_small small
        simp [setLoop, added, ih, small]
      · simp only [setLoop, set_large small, ih, ReactorOpQueue.cancel_eq_nil,
          ReactorOpQueue.hasOperation_cancel, List.forall_mem_cons, and_assoc, and_imp]
        refine and_congr_right fun _ => ?_
        constructor
        · rintro ⟨absent, others⟩
          refine ⟨fun waits => absurd waits (by simp [absent]), fun d member waits => ?_⟩
          refine others d member ?_ waits
          rintro rfl
          simp [absent] at waits
        · rintro ⟨own, others⟩
          exact ⟨Bool.eq_false_iff.mpr fun waits => small (own waits),
            fun d member _ waits => others d member waits⟩

theorem setAll_isSet (waits : (adapter.setAll operations ops).2.1.hasOperation d = true) :
    (adapter.setAll operations ops).1.isSet d = true := by
  obtain ⟨known, small⟩ := setLoop_hasOperation.mp waits
  have member := ReactorOpQueue.mem_descriptors.mpr known
  exact decide_eq_true (mem_setLoop.mpr (.inr ⟨member, Nat.not_le.mp fun large =>
    small ⟨member, large⟩⟩))

theorem setAll_mono (isSet : adapter.isSet d = true) :
    (adapter.setAll operations ops).1.isSet d = true :=
  decide_eq_true (mem_setLoop.mpr (.inl (of_decide_eq_true isSet)))

theorem setAll_ops : (adapter.setAll operations ops).2.2 = [] ↔
    ops = [] ∧ ∀ d, operations.hasOperation d = true → d < fdSetSize := by
  rw [setAll, setLoop_ops]
  refine and_congr_right fun _ => ⟨fun small d waits => ?_, fun small d _ => small d⟩
  exact small d (ReactorOpQueue.mem_descriptors.mpr waits) waits

end FdSetAdapter

namespace SelectReactor

variable {Service Id Op Time : Type*}

/-! A queue is only touched by its own iteration. -/

section SetUp

variable {setUp : SetUp Op} {is : List OpType} {i : OpType} {d : Nat}

theorem foldl_next_of_not_mem (absent : i ∉ is) :
    (is.foldl SetUp.next setUp).opQueue i = setUp.opQueue i ∧
      (is.foldl SetUp.next setUp).fdSets i = setUp.fdSets i := by
  induction is generalizing setUp with
  | nil => exact ⟨rfl, rfl⟩
  | cons first is ih =>
      rw [List.mem_cons, not_or] at absent
      obtain ⟨opQueue, fdSets⟩ := @ih (setUp.next first) absent.2
      exact ⟨opQueue.trans (Function.update_of_ne absent.1 _ _),
        fdSets.trans (Function.update_of_ne absent.1 _ _)⟩

theorem foldl_next_mono (isSet : (setUp.fdSets i).isSet d = true) :
    ((is.foldl SetUp.next setUp).fdSets i).isSet d = true := by
  induction is generalizing setUp with
  | nil => exact isSet
  | cons first is ih =>
      refine ih ?_
      by_cases own : i = first
      · subst own
        simpa only [SetUp.next, Function.update_self] using FdSetAdapter.setAll_mono isSet
      · simpa only [SetUp.next, Function.update_of_ne own] using isSet

theorem foldl_next_isSet (distinct : is.Nodup) (member : i ∈ is)
    (waits : ((is.foldl SetUp.next setUp).opQueue i).hasOperation d = true) :
    ((is.foldl SetUp.next setUp).fdSets i).isSet d = true := by
  induction is generalizing setUp with
  | nil => cases member
  | cons first is ih =>
      rw [List.nodup_cons] at distinct
      by_cases own : i = first
      · subst own
        rw [List.foldl_cons] at waits ⊢
        obtain ⟨opQueue, fdSets⟩ := @foldl_next_of_not_mem _ (setUp.next i) _ _ distinct.1
        rw [opQueue] at waits
        rw [fdSets]
        simp only [SetUp.next, Function.update_self] at waits ⊢
        exact FdSetAdapter.setAll_isSet waits
      · exact ih distinct.2 ((List.mem_cons.mp member).resolve_left own) waits

theorem foldl_next_ops (distinct : is.Nodup) : (is.foldl SetUp.next setUp).ops = [] ↔
    setUp.ops = [] ∧ ∀ i ∈ is, ∀ d, (setUp.opQueue i).hasOperation d = true → d < fdSetSize := by
  induction is generalizing setUp with
  | nil => simp
  | cons first is ih =>
      rw [List.nodup_cons] at distinct
      rw [List.foldl_cons, ih distinct.2]
      have own : (setUp.next first).ops = [] ↔ setUp.ops = [] ∧
          ∀ d, (setUp.opQueue first).hasOperation d = true → d < fdSetSize :=
        FdSetAdapter.setAll_ops
      rw [own, List.forall_mem_cons, and_assoc]
      refine and_congr_right fun _ => and_congr_right fun _ => forall₂_congr fun i member => ?_
      have other : i ≠ first := by
        rintro rfl
        exact distinct.1 member
      simp only [SetUp.next, Function.update_of_ne other]

end SetUp

theorem OpType.all_nodup : OpType.all.Nodup := by decide

/-- What is watched when `run` blocks. -/
theorem setUp_isSet (reactor : SelectReactor Service Id Op Time) (setting : Setting Service Id)
    {i : OpType} {d : Nat} (waits : ((reactor.setUp setting).opQueue i).hasOperation d = true) :
    ((reactor.setUp setting).fdSets i).isSet d = true :=
  foldl_next_isSet OpType.all_nodup (OpType.mem_all i) waits

theorem setUp_interrupter (reactor : SelectReactor Service Id Op Time)
    (setting : Setting Service Id) (small : setting.readDescriptor < fdSetSize) :
    ((reactor.setUp setting).fdSets .read).isSet setting.readDescriptor = true := by
  refine foldl_next_mono ?_
  simp [FdSetAdapter.isSet, FdSetAdapter.set, small]

/-- No operation fails while the sets are set up if all descriptors are small. -/
theorem setUp_ops (reactor : SelectReactor Service Id Op Time) (setting : Setting Service Id) :
    (reactor.setUp setting).ops = [] ↔
      ∀ i d, (reactor.opQueue i).hasOperation d = true → d < fdSetSize := by
  unfold setUp
  dsimp only
  rw [foldl_next_ops OpType.all_nodup]
  exact ⟨fun small i => small.2 i (OpType.mem_all i), fun small => ⟨rfl, fun i _ => small i⟩⟩

/-! ## What is watched -/

section Watches

variable [DurationTraits Time] (setting : Setting Service Id)
  (reactor : SelectReactor Service Id Op Time)

/-- A thread that is blocked for some time has no operation that is finished. -/
def NothingFinished : Prop :=
  ∀ nfds timeout now ops, reactor.run = .blocked nfds timeout now ops → timeout ≠ 0 → ops = []

/-- While a thread is blocked, the interrupter is readable, or every descriptor
with an operation is in its set and the timeout is at most a microsecond longer
than the time to any timer. The interrupter is in its set if it fits there. -/
def Watches : Prop :=
  ∀ nfds timeout now ops, reactor.run = .blocked nfds timeout now ops →
    (setting.readDescriptor < fdSetSize →
      (reactor.fdSets .read).isSet setting.readDescriptor = true) ∧
    (reactor.interrupted = true ∨
      (∀ i d, (reactor.opQueue i).hasOperation d = true → (reactor.fdSets i).isSet d = true) ∧
      ∀ service ∈ setting.services, ∀ entry ∈ reactor.timerQueues.heap service,
        timeout ≤ max (PosixTraits.totalMicroseconds entry.time (now service)) 0 + 1)

/-- `run` may block when it is not asked to, or a timer is due, or all descriptors
with operations fit into the sets. -/
def Allowed : SelectAction Service Id Op Time → Prop
  | .run usec now => usec = 0 ∨ reactor.getTimeout setting usec now = 0 ∨
      ∀ i d, (reactor.opQueue i).hasOperation d = true → d < fdSetSize
  | _ => True

/-- The timer queues hold timers that are used with their own queue. -/
def Timed : Prop :=
  ∃ active dates, reactor.timerQueues.Holds active dates ∧
    ∀ service, ∀ timer ∈ active service, service = setting.home timer

/-- A step that leaves the thread in `run` where it is, and interrupts it if there
is more to wait for. -/
structure Signals (reactor next : SelectReactor Service Id Op Time) : Prop where
  run : next.run = reactor.run
  fdSets : next.fdSets = reactor.fdSets
  interrupted : reactor.interrupted = true → next.interrupted = true
  covered : next.interrupted = true ∨
    (∀ i d, (next.opQueue i).hasOperation d = true → (reactor.opQueue i).hasOperation d = true) ∧
    ∀ service, ∀ entry ∈ next.timerQueues.heap service,
      ∃ old ∈ reactor.timerQueues.heap service, old.time ≤ entry.time

end Watches

section Calls

variable [DurationTraits Time] {setting : Setting Service Id}
  {reactor next : SelectReactor Service Id Op Time} {action : SelectAction Service Id Op Time}

theorem opQueue_beginRun (reactor : SelectReactor Service Id Op Time) (usec : Int)
    (now : Service → Time) :
    (reactor.beginRun setting usec now).opQueue = (reactor.setUp setting).opQueue := by
  unfold beginRun
  dsimp only
  split <;> rfl

theorem fdSets_beginRun (reactor : SelectReactor Service Id Op Time) (usec : Int)
    (now : Service → Time) :
    (reactor.beginRun setting usec now).fdSets = (reactor.setUp setting).fdSets := by
  unfold beginRun
  dsimp only
  split <;> rfl

theorem timerQueues_beginRun (reactor : SelectReactor Service Id Op Time) (usec : Int)
    (now : Service → Time) :
    (reactor.beginRun setting usec now).timerQueues = reactor.timerQueues := by
  unfold beginRun
  dsimp only
  split <;> rfl

/-- `run` hands over what is finished and returns, or is about to block with it. -/
theorem beginRun_cases (setting : Setting Service Id) (reactor : SelectReactor Service Id Op Time)
    (usec : Int) (now : Service → Time) :
    (usec = 0 ∧ (reactor.beginRun setting usec now).run = reactor.run ∧
      (reactor.beginRun setting usec now).handedOver =
        reactor.handedOver ++ (reactor.setUp setting).ops.map .reactor) ∨
    (reactor.beginRun setting usec now).run = .blocked ((reactor.setUp setting).maxFd + 1)
        (if usec ≠ 0 then reactor.getTimeout setting usec now else 0) now
        (reactor.setUp setting).ops ∧
      (reactor.beginRun setting usec now).handedOver = reactor.handedOver := by
  unfold beginRun
  dsimp only
  split
  · next early => exact .inl ⟨early.1, rfl, rfl⟩
  · exact .inr ⟨rfl, rfl⟩

omit [DurationTraits Time] in
theorem hasOperation_update {opQueue : OpType → ReactorOpQueue Nat Op} {opType i : OpType} {d : Nat}
    {queue : ReactorOpQueue Nat Op}
    (fewer : queue.hasOperation d = true → (opQueue opType).hasOperation d = true)
    (waits : (Function.update opQueue opType queue i).hasOperation d = true) :
    (opQueue i).hasOperation d = true := by
  by_cases own : i = opType
  · subst own
    rw [Function.update_self] at waits
    exact fewer waits
  · rwa [Function.update_of_ne own] at waits

theorem Signals.refl : Signals reactor reactor :=
  ⟨rfl, rfl, id, .inr ⟨fun _ _ => id, fun _ entry member => ⟨entry, member, le_refl _⟩⟩⟩

/-- Only the queues of operations have changed. -/
theorem Signals.of_opQueue (opQueue : OpType → ReactorOpQueue Nat Op) (interrupted : Bool)
    {workStarted : Nat} {handedOver : List (Operation Op)}
    (kept : reactor.interrupted = true → interrupted = true)
    (covered : interrupted = true ∨ ∀ i d, (opQueue i).hasOperation d = true →
      (reactor.opQueue i).hasOperation d = true) :
    Signals reactor { reactor with
      opQueue := opQueue
      interrupted := interrupted
      workStarted := workStarted
      handedOver := handedOver } :=
  ⟨rfl, rfl, kept, covered.imp_right fun fewer =>
    ⟨fewer, fun _ entry member => ⟨entry, member, le_refl _⟩⟩⟩

/-- The first operation of a descriptor interrupts. -/
theorem signals_startOp (opType : OpType) (descriptor : Nat) (op : ReactorOp Op) :
    Signals reactor (reactor.startOp opType descriptor op) := by
  unfold startOp
  split
  · exact .of_opQueue reactor.opQueue _ id (.inr fun _ _ => id)
  · refine .of_opQueue (Function.update reactor.opQueue opType
      ((reactor.opQueue opType).enqueueOperation descriptor op).1)
      (reactor.interrupted || ((reactor.opQueue opType).enqueueOperation descriptor op).2)
      (fun interrupted => by simp [interrupted]) ?_
    rw [Bool.or_eq_true, ReactorOpQueue.enqueue_first]
    cases known : (reactor.opQueue opType).hasOperation descriptor with
    | false => exact .inl (.inr rfl)
    | true =>
        refine .inr fun i d => hasOperation_update fun waits => ?_
        obtain rfl | waits := (ReactorOpQueue.hasOperation_enqueue op).mp waits
        · exact known
        · exact waits

omit [DurationTraits Time] in
theorem cancelLoop_hasOperation {descriptor : Nat} {ec : ErrorCode} {is : List OpType}
    {opQueue : OpType → ReactorOpQueue Nat Op} {ops : List (ReactorOp Op)} {needInterrupt : Bool}
    {i : OpType} {d : Nat}
    (waits : ((cancelLoop descriptor ec is opQueue ops needInterrupt).1 i).hasOperation d = true) :
    (opQueue i).hasOperation d = true := by
  induction is generalizing opQueue ops needInterrupt with
  | nil => exact waits
  | cons first is ih =>
      exact hasOperation_update
        (fun waits => ((ReactorOpQueue.hasOperation_cancel ec).mp waits).2) (ih waits)

theorem signals_cancelOpsUnlocked (descriptor : Nat) (ec : ErrorCode) :
    Signals reactor (reactor.cancelOpsUnlocked descriptor ec) :=
  .of_opQueue (cancelLoop descriptor ec OpType.all reactor.opQueue [] false).1 _
    (fun interrupted => by simp [interrupted]) (.inr fun _ _ => cancelLoop_hasOperation)

variable [DecidableEq Service] [DecidableEq Id]

/-- A timer that is the earliest of its queue interrupts. -/
theorem signals_scheduleTimer [DecidableEq Op] {time : Time} {timer : Id} {op : WaitOp Op}
    (timed : reactor.Timed setting)
    (scheduled : reactor.scheduleTimer setting time timer op = some next) :
    Signals reactor next ∧ next.Timed setting := by
  obtain ⟨active, dates, holds, home⟩ := timed
  have home' : ∀ other, timer ∈ active other → other = setting.home timer :=
    fun other => home other timer
  unfold scheduleTimer at scheduled
  split_ifs at scheduled
  · cases scheduled
    exact ⟨.of_opQueue reactor.opQueue _ id (.inr fun _ _ => id), active, dates, holds, home⟩
  · split at scheduled
    · cases scheduled
    · next timerQueues earliest enqueued =>
      cases scheduled
      obtain ⟨now, left, remains, within⟩ := holds.scheduleTimer_any home' enqueued
      refine ⟨⟨rfl, rfl, fun interrupted => by simp [interrupted], ?_⟩, left, now, remains,
        fun service other member => ?_⟩
      · cases earliest with
        | true => exact .inl (Bool.or_true _)
        | false => exact .inr ⟨fun _ _ => id, fun _ _ => holds.schedule_later home' enqueued⟩
      · obtain stays | ⟨rfl, rfl⟩ := within service other member
        · exact home service other stays
        · rfl

theorem signals_cancelTimer (timer : Id) (maxCancelled : Nat) (timed : reactor.Timed setting) :
    Signals reactor (reactor.cancelTimer setting timer maxCancelled) ∧
      (reactor.cancelTimer setting timer maxCancelled).Timed setting := by
  obtain ⟨active, dates, holds, home⟩ := timed
  obtain ⟨⟨left, remains, fewer⟩, -⟩ :=
    holds.cancelTimer (fun other => home other timer) maxCancelled
  refine ⟨⟨rfl, rfl, id, .inr ⟨fun _ _ => id, fun service entry member => ?_⟩⟩, left, dates, remains,
    fun service other member => home service other (fewer service other member)⟩
  exact ⟨entry, holds.heap_subset remains fewer member, le_refl _⟩

theorem getReadyTimers_holds {now : Service → Time} {services : List Service}
    {queues : TimerQueues Service Id Op Time} {waits : List (WaitOp Op)}
    {active : Service → List Id} {dates : Id → Option Time} (holds : queues.Holds active dates) :
    ∃ left, (getReadyTimers now services queues waits).1.Holds left dates ∧
      ∀ other, ∀ timer ∈ left other, timer ∈ active other := by
  induction services generalizing queues waits active with
  | nil => exact ⟨active, holds, fun _ _ => id⟩
  | cons service services ih =>
      obtain ⟨-, -, -, ⟨left, remains, fewer⟩, -⟩ := holds.getReadyTimers service (now service)
      obtain ⟨rest, after, fewest⟩ := @ih _ (waits ++ (queues.getReadyTimers service (now service)).2)
        _ remains
      exact ⟨rest, after, fun other timer member => fewer other timer (fewest other timer member)⟩

theorem Timed.dispatch (timed : reactor.Timed setting) (retval : Int) (ops : List (ReactorOp Op))
    (perform : Op → Option ErrorCode) (now : Service → Time) :
    (reactor.dispatch setting retval ops perform now).Timed setting := by
  obtain ⟨active, dates, holds, home⟩ := timed
  obtain ⟨left, remains, fewer⟩ :=
    @getReadyTimers_holds _ _ _ _ _ _ _ now setting.services _ [] _ _ holds
  exact ⟨left, dates, remains, fun service timer member =>
    home service timer (fewer service timer member)⟩

/-- What a step does: it goes on beside the thread in `run`, or begins to block, or
does not leave it blocked. -/
theorem step_cases [DecidableEq Op] (timed : reactor.Timed setting)
    (stepped : step setting reactor action = some next) : next.Timed setting ∧
    (Signals reactor next ∧ reactor.Allowed setting action ∨
      (∃ usec now, action = .run usec now ∧ reactor.run = .idle ∧
        next = reactor.beginRun setting usec now) ∨
      (∀ nfds timeout now ops, next.run ≠ .blocked nfds timeout now ops) ∧
        reactor.Allowed setting action) := by
  cases action with
  | startOp opType descriptor op =>
      cases stepped
      refine ⟨?_, .inl ⟨signals_startOp opType descriptor op, trivial⟩⟩
      unfold startOp
      split <;> exact timed
  | registerInternalDescriptor opType descriptor op =>
      cases stepped
      exact ⟨timed, .inl ⟨.of_opQueue _ _ (fun _ => rfl) (.inl rfl), trivial⟩⟩
  | cancelOps descriptor | deregisterDescriptor descriptor =>
      cases stepped
      exact ⟨timed, .inl ⟨signals_cancelOpsUnlocked descriptor _, trivial⟩⟩
  | deregisterInternalDescriptor descriptor =>
      cases stepped
      exact ⟨timed, .inl ⟨.of_opQueue
        (cancelLoop descriptor .operationAborted OpType.all reactor.opQueue [] false).1 _ id
        (.inr fun _ _ => cancelLoop_hasOperation), trivial⟩⟩
  | scheduleTimer time timer op =>
      have ⟨signals, after⟩ := signals_scheduleTimer timed stepped
      exact ⟨after, .inl ⟨signals, trivial⟩⟩
  | cancelTimer timer maxCancelled =>
      cases stepped
      have ⟨signals, after⟩ := signals_cancelTimer timer maxCancelled timed
      exact ⟨after, .inl ⟨signals, trivial⟩⟩
  | interrupt =>
      cases stepped
      exact ⟨timed, .inl ⟨.of_opQueue reactor.opQueue _ (fun _ => rfl) (.inl rfl), trivial⟩⟩
  | shutdown =>
      cases stepped
      exact ⟨timed, .inl ⟨⟨rfl, rfl, id, Signals.refl.covered⟩, trivial⟩⟩
  | run usec now =>
      unfold SelectReactor.step at stepped
      dsimp only at stepped
      split at stepped
      · next idle =>
        cases stepped
        refine ⟨?_, .inr (.inl ⟨usec, now, rfl, idle, rfl⟩)⟩
        rw [Timed, timerQueues_beginRun]
        exact timed
      · cases stepped
  | select result =>
      unfold SelectReactor.step at stepped
      dsimp only at stepped
      split at stepped
      · split_ifs at stepped
        cases stepped
        unfold returnFromSelect
        dsimp only
        split <;> exact ⟨timed, .inr (.inr ⟨nofun, trivial⟩)⟩
      · cases stepped
  | dispatch perform now =>
      unfold SelectReactor.step at stepped
      dsimp only at stepped
      split at stepped
      · cases stepped
        exact ⟨timed.dispatch _ _ _ _, .inr (.inr ⟨nofun, trivial⟩)⟩
      · cases stepped

end Calls

/-! ## Runs -/

section Runs

variable [DurationTraits Time] {setting : Setting Service Id}
  {reactor next : SelectReactor Service Id Op Time} {action : SelectAction Service Id Op Time}

theorem Watches.signals (watches : reactor.Watches setting) (signals : Signals reactor next) :
    next.Watches setting := by
  intro nfds timeout now ops blocked
  obtain ⟨interrupter, covered⟩ := watches nfds timeout now ops (signals.run ▸ blocked)
  rw [signals.fdSets]
  refine ⟨interrupter, ?_⟩
  obtain interrupted | ⟨descriptors, timers⟩ := covered
  · exact .inl (signals.interrupted interrupted)
  · refine signals.covered.imp_right fun ⟨fewer, later⟩ =>
      ⟨fun i d waits => descriptors i d (fewer i d waits), fun service known entry member => ?_⟩
    obtain ⟨old, before, earlier⟩ := later service entry member
    have bound := timers service known old before
    have further := DurationTraits.totalMicroseconds_mono (now service) earlier
    omega

/-- `run` watches everything when it blocks. -/
theorem Timed.watches_beginRun (timed : reactor.Timed setting) (idle : reactor.run = .idle)
    (usec : Int) (now : Service → Time) : (reactor.beginRun setting usec now).Watches setting := by
  obtain ⟨active, dates, holds, -⟩ := timed
  intro nfds timeout date ops blocked
  rcases beginRun_cases setting reactor usec now with ⟨-, run, -⟩ | ⟨run, -⟩
  · rw [run, idle] at blocked
    cases blocked
  · rw [run] at blocked
    cases blocked
    rw [fdSets_beginRun, opQueue_beginRun, timerQueues_beginRun]
    refine ⟨reactor.setUp_interrupter setting, .inr ⟨fun i d => reactor.setUp_isSet setting, ?_⟩⟩
    intro service known entry member
    split
    · exact TimerQueues.waitDurationUsec_le now _ known (holds.represents service).minHeap member
    · exact (le_max_right _ _).trans (Int.le_add_one (le_refl _))

/-- `run` has nothing finished when it blocks exactly when it may block. -/
theorem nothingFinished_beginRun_iff (idle : reactor.run = .idle) (usec : Int)
    (now : Service → Time) : (reactor.beginRun setting usec now).NothingFinished ↔
      reactor.Allowed setting (.run usec now) := by
  rw [Allowed, ← reactor.setUp_ops setting]
  rcases beginRun_cases setting reactor usec now with ⟨early, run, -⟩ | ⟨run, -⟩
  · apply iff_of_true _ (.inl early)
    intro nfds timeout date ops blocked
    rw [run, idle] at blocked
    cases blocked
  · constructor
    · intro nothing
      have empty := nothing _ _ _ _ run
      split_ifs at empty with waits
      · by_cases due : reactor.getTimeout setting usec now = 0
        · exact .inr (.inl due)
        · exact .inr (.inr (empty due))
      · exact .inl (not_ne_iff.mp waits)
    · intro allowed nfds timeout date ops blocked blocks
      rw [run] at blocked
      cases blocked
      split_ifs at blocks with waits
      · exact (allowed.resolve_left waits).resolve_left blocks
      · exact absurd rfl blocks

variable [DecidableEq Service] [DecidableEq Id] [DecidableEq Op]

/-- **Step.** What is watched stays so; nothing is finished when a thread blocks
exactly if it may. -/
theorem Timed.step (timed : reactor.Timed setting) (watches : reactor.Watches setting)
    (stepped : SelectReactor.step setting reactor action = some next) :
    next.Watches setting ∧
      (reactor.NothingFinished → (next.NothingFinished ↔ reactor.Allowed setting action)) := by
  obtain ⟨-, ⟨signals, allowed⟩ | ⟨usec, now, rfl, idle, rfl⟩ | ⟨notBlocked, allowed⟩⟩ :=
    step_cases timed stepped
  · refine ⟨watches.signals signals, fun nothing => iff_of_true ?_ allowed⟩
    rw [NothingFinished, signals.run]
    exact nothing
  · exact ⟨timed.watches_beginRun idle usec now,
      fun _ => nothingFinished_beginRun_iff idle usec now⟩
  · exact ⟨fun _ _ _ _ blocked => absurd blocked (notBlocked _ _ _ _),
      fun _ => iff_of_true (fun _ _ _ _ blocked => absurd blocked (notBlocked _ _ _ _)) allowed⟩

omit [DecidableEq Service] [DecidableEq Id] [DecidableEq Op] in
theorem timed_new : (new : SelectReactor Service Id Op Time).Timed setting :=
  ⟨fun _ => [], fun _ => none, TimerQueues.holds_empty _, fun _ _ member => absurd member List.not_mem_nil⟩

end Runs

end SelectReactor

/-- **Blocking.** In every run the thread that blocks overlooks nothing to wake up
for; it has nothing finished in every state exactly when every time it blocks it
is not asked to, or a timer is due, or all descriptors with operations fit into
the sets. -/
theorem select_reactor_blocks {Service Id Op Time : Type*} [DecidableEq Service] [DecidableEq Id]
    [DecidableEq Op] [DurationTraits Time] (setting : Setting Service Id)
    {actions : List (SelectAction Service Id Op Time)} {final : SelectReactor Service Id Op Time}
    (ran : (selectReactor setting).run .new actions = some final) :
    (selectReactor setting).Always (SelectReactor.Watches setting) .new actions ∧
    ((selectReactor setting).Always
        (fun reactor => reactor.NothingFinished ∧ reactor.Watches setting) .new actions ↔
      (selectReactor setting).Permitted (SelectReactor.Allowed setting) .new actions) := by
  have kept : ∀ (property : SelectReactor Service Id Op Time → Prop) reactor action next,
      SelectReactor.Timed setting reactor → property reactor →
      (selectReactor setting).step reactor action = some next → SelectReactor.Timed setting next :=
    fun _ _ _ _ timed _ stepped => (SelectReactor.step_cases timed stepped).1
  have watches : SelectReactor.Watches setting (.new : SelectReactor Service Id Op Time) := nofun
  have nothing : SelectReactor.NothingFinished (.new : SelectReactor Service Id Op Time) := nofun
  constructor
  · refine (Transition.Machine.always_iff_permitted (kept _) ?_ actions ran SelectReactor.timed_new
      watches).mpr (.of_forall (fun _ _ _ => trivial) _)
    intro reactor action next timed property stepped
    exact iff_of_true (timed.step property stepped).1 trivial
  · refine Transition.Machine.always_iff_permitted (kept _) ?_ actions ran SelectReactor.timed_new
      ⟨nothing, watches⟩
    intro reactor action next timed property stepped
    obtain ⟨after, blocks⟩ := timed.step property.2 stepped
    have blocks := blocks property.1
    exact ⟨fun both => blocks.mp both.1, fun allowed => ⟨blocks.mpr allowed, after⟩⟩

/-! ### Two runs -/

/-- An interrupter with a small descriptor, and one timer queue. -/
def someSetting : Setting Unit Nat where
  readDescriptor := 3
  services := [()]
  home _ := ()

/-- The thread is blocked for an operation that fits and a timer, and is then
interrupted for an operation that does not. -/
def someActions : List (SelectAction Unit Nat Nat Timer.Ticks) :=
  [.startOp .read 5 ⟨0, .success⟩, .scheduleTimer ⟨1000000, by decide⟩ 0 ⟨1, .success⟩,
    .run (-1) fun _ => .epoch, .startOp .write 1024 ⟨2, .success⟩, .startOp .read 5 ⟨3, .success⟩]

theorem select_reactor_blocks_someActions : (selectReactor someSetting).Always
    (fun reactor => reactor.NothingFinished ∧ reactor.Watches someSetting) .new someActions := by
  have small : ∀ i d, (((.new : SelectReactor Unit Nat Nat Timer.Ticks).startOp .read 5
      ⟨0, .success⟩).opQueue i).hasOperation d = true → d < fdSetSize := by
    intro i d waits
    cases i with
    | read =>
        obtain rfl | impossible := (@ReactorOpQueue.hasOperation_enqueue Nat Nat _ .new d 5 _).mp waits
        · decide
        · cases impossible
    | write | except => cases waits
  exact (select_reactor_blocks someSetting rfl).2.mpr
    ⟨trivial, trivial, .inr (.inr small), trivial, trivial, trivial⟩

/-- An operation whose descriptor does not fit has failed, and the thread blocks
for five minutes. -/
theorem select_reactor_blocks_on_failed : ∃ reactor : SelectReactor Unit Nat Nat Timer.Ticks,
    (selectReactor someSetting).Reachable reactor ∧ reactor.run = .blocked 4 300000000
      (fun _ => .epoch) [⟨0, .fdSetFailure⟩] :=
  ⟨_, Transition.Machine.Reachable.run (.initial rfl)
    [.startOp .read 1024 ⟨0, .success⟩, .run (-1) fun _ => .epoch] rfl, rfl⟩

end Asio.Reactor
