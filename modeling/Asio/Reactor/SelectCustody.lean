import Asio.Reactor.SelectHoldings

/-! # The operations in the custody of the select reactor

An operation that is given to the select reactor waits in one of its queues or for a timer, is
with the thread in `run`, has been handed over to the scheduler, or has been destroyed. It is in
one of these places at a time, until the end: the second half of `shutdown` takes what is left.
-/

namespace Asio.Reactor

open Timer (TimerQueues WaitOp DurationTraits)

/-! ## The second half of `shutdown` -/

namespace SelectReactor

variable {Service Id Op Time : Type*}

/-- What `shutdown` takes after it has released the lock; `abandon_operations` destroys it.
The loops over the timers may make so many passes. -/
def getAll [DecidableEq Service] [DecidableEq Id] (setting : Setting Service Id) (passes : Nat)
    (reactor : SelectReactor Service Id Op Time) :
    Option (SelectReactor Service Id Op Time × List (Operation Op)) :=
  let (opQueue, ops) := getAllLoop OpType.all reactor.opQueue []
  (TimerQueues.getAllTimers passes setting.services reactor.timerQueues []).map
    fun (timerQueues, waits) =>
      ({ reactor with
          opQueue := opQueue
          timerQueues := timerQueues },
        ops.map .reactor ++ waits.map .wait)

/-- The operations that `deregister_internal_descriptor` destroys. -/
def destroyedBy (reactor : SelectReactor Service Id Op Time) :
    SelectAction Service Id Op Time → List (Operation Op)
  | .deregisterInternalDescriptor descriptor =>
      (cancelLoop descriptor .operationAborted OpType.all reactor.opQueue [] false).2.1.map .reactor
  | _ => []

end SelectReactor

/-- The operation that an action gives to the reactor. -/
def SelectAction.given {Service Id Op Time : Type*} :
    SelectAction Service Id Op Time → Option (Operation Op)
  | .startOp _ _ op => some (.reactor op)
  | .registerInternalDescriptor _ _ op => some (.reactor op)
  | .scheduleTimer _ _ op => some (.wait op)
  | _ => none

/-! ## The books -/

/-- The reactor, the operations it was given, those of internal descriptors, the ones that were
destroyed, and whether `shutdown` is over. -/
structure SelectLedger (Service Id Op Time : Type*) where
  reactor : SelectReactor Service Id Op Time
  given : List Op
  internal : List Op
  destroyed : List (Operation Op)
  collected : Bool

/-- An action, or the second half of `shutdown`. -/
inductive LedgerAction (Service Id Op Time : Type*) where
  | act (action : SelectAction Service Id Op Time)
  | collect (passes : Nat)

namespace SelectLedger

variable {Service Id Op Time : Type*}

/-- The ledger of a new reactor. -/
def new : SelectLedger Service Id Op Time where
  reactor := .new
  given := []
  internal := []
  destroyed := []
  collected := false

/-- An action that gives an operation away is for an operation not given before. -/
def Fresh (ledger : SelectLedger Service Id Op Time) (action : SelectAction Service Id Op Time) :
    Prop :=
  ∀ op ∈ action.given, op.op ∉ ledger.given

variable [DecidableEq Service] [DecidableEq Id] [DecidableEq Op] [DurationTraits Time]

omit [DecidableEq Service] [DecidableEq Id] [DurationTraits Time] in
instance (ledger : SelectLedger Service Id Op Time) (action : SelectAction Service Id Op Time) :
    Decidable (ledger.Fresh action) :=
  match given : action.given with
  | none => isTrue fun op isGiven => by rw [given] at isGiven; cases isGiven
  | some op => decidable_of_iff (op.op ∉ ledger.given) (by simp [Fresh, given])

/-- One step. -/
def step (setting : Setting Service Id) (ledger : SelectLedger Service Id Op Time) :
    LedgerAction Service Id Op Time → Option (SelectLedger Service Id Op Time)
  | .act action =>
      if ledger.Fresh action then
        (ledger.reactor.step setting action).map fun reactor =>
          { ledger with
            reactor := reactor
            given := ledger.given ++ action.given.toList.map Operation.op
            internal := match action with
              | .registerInternalDescriptor _ _ op => ledger.internal ++ [op.op]
              | _ => ledger.internal
            destroyed := ledger.destroyed ++ ledger.reactor.destroyedBy action }
      else none
  | .collect passes =>
      if ledger.reactor.shutdown = true then
        (ledger.reactor.getAll setting passes).map fun (reactor, ops) =>
          { ledger with
            reactor := reactor
            destroyed := ledger.destroyed ++ ops
            collected := true }
      else none

end SelectLedger

/-- The reactor with its books as a machine. -/
def selectLedger {Service Id Op Time : Type*} [DecidableEq Service] [DecidableEq Id]
    [DecidableEq Op] [DurationTraits Time] (setting : Setting Service Id) :
    Transition.Machine (SelectLedger Service Id Op Time) (LedgerAction Service Id Op Time) where
  initial ledger := ledger = .new
  step := SelectLedger.step setting

/-! ## Steps -/

namespace SelectReactor

variable {Service Id Op Time : Type*}

/-- The operations in the custody of the reactor, and those that were destroyed. -/
def holdings (reactor : SelectReactor Service Id Op Time) (destroyed : List (Operation Op)) :
    SelectHoldings Id Op where
  opQueue := reactor.opQueue
  timers := reactor.timerQueues.opQueue
  ops := []
  waits := []
  running := SelectHoldings.ofRun reactor.run
  handedOver := reactor.handedOver
  destroyed := destroyed

variable {reactor : SelectReactor Service Id Op Time} {given : List Op}
  {destroyed : List (Operation Op)}

theorem kept_startOp (kept : (reactor.holdings destroyed).Kept given) (opType : OpType)
    (descriptor : Nat) (op : ReactorOp Op) (fresh : op.op ∉ given) :
    ((reactor.startOp opType descriptor op).holdings destroyed).Kept (given ++ [op.op]) := by
  unfold startOp
  split
  · exact kept.forward (.reactor op) fresh
  · exact kept.enqueue opType descriptor op fresh

theorem kept_cancelOpsUnlocked (kept : (reactor.holdings destroyed).Kept given)
    (descriptor : Nat) (ec : ErrorCode) :
    ((reactor.cancelOpsUnlocked descriptor ec).holdings destroyed).Kept given := by
  have handed := (kept.leaves (Leaves.refl.cancelLoop descriptor ec OpType.all false)).handOver
  simpa [holdings, cancelOpsUnlocked] using handed

theorem kept_deregisterInternalDescriptor (kept : (reactor.holdings destroyed).Kept given)
    (descriptor : Nat) : ((reactor.deregisterInternalDescriptor descriptor).holdings (destroyed ++
      (cancelLoop descriptor .operationAborted OpType.all reactor.opQueue [] false).2.1.map
        .reactor)).Kept given := by
  have gone := (kept.leaves
    (Leaves.refl.cancelLoop descriptor .operationAborted OpType.all false)).destroy
  simpa [holdings, deregisterInternalDescriptor] using gone

theorem leaves_setUp (setting : Setting Service Id) :
    Leaves reactor.opQueue [] (reactor.setUp setting).opQueue (reactor.setUp setting).ops := by
  unfold setUp
  apply Leaves.foldl_next
  exact .refl

theorem kept_beginRun [DurationTraits Time] (setting : Setting Service Id)
    (kept : (reactor.holdings destroyed).Kept given) (idle : reactor.run = .idle) (usec : Int)
    (now : Service → Time) :
    ((reactor.beginRun setting usec now).holdings destroyed).Kept given := by
  have left := kept.leaves (leaves_setUp setting)
  unfold beginRun
  dsimp only
  split
  · have handed := left.handOver
    simpa [holdings] using handed
  · have blocked := left.block (by simp [holdings, idle, SelectHoldings.ofRun]) rfl
    simpa [holdings, SelectHoldings.ofRun] using blocked

theorem kept_returnFromSelect (setting : Setting Service Id)
    (kept : (reactor.holdings destroyed).Kept given) {nfds : Nat} {timeout : Int}
    {now : Service → Time} {ops : List (ReactorOp Op)}
    (blocked : reactor.run = .blocked nfds timeout now ops)
    (result : Option (OpType → Finset Nat)) :
    ((reactor.returnFromSelect setting ops result).holdings destroyed).Kept given := by
  have same : (reactor.returnFromSelect setting ops result).holdings destroyed =
      reactor.holdings destroyed := by
    unfold returnFromSelect
    dsimp only
    split <;> simp [holdings, blocked, SelectHoldings.ofRun]
  rw [same]
  exact kept

section Timers

variable [DecidableEq Service] [DecidableEq Id] [DurationTraits Time]
  {setting : Setting Service Id}

theorem kept_scheduleTimer [DecidableEq Op] {next : SelectReactor Service Id Op Time} {time : Time}
    {timer : Id} {op : WaitOp Op} (kept : (reactor.holdings destroyed).Kept given)
    (timed : reactor.shutdown = false → reactor.Timed setting) (fresh : op.op ∉ given)
    (scheduled : reactor.scheduleTimer setting time timer op = some next) :
    (next.holdings destroyed).Kept (given ++ [op.op]) := by
  unfold scheduleTimer at scheduled
  split at scheduled
  · rw [Option.some.injEq] at scheduled
    subst scheduled
    exact kept.forward (.wait op) fresh
  · next open_ =>
    obtain ⟨active, dates, holds, home⟩ := timed (Bool.not_eq_true _ ▸ open_)
    split at scheduled
    · cases scheduled
    · next timerQueues earliest result =>
      rw [Option.some.injEq] at scheduled
      subst scheduled
      have opQueue := holds.scheduleTimer_opQueue (fun other => home other timer) result
      have waits := kept.schedule timer op fresh
      simpa [holdings, opQueue] using waits

theorem kept_cancelTimer (kept : (reactor.holdings destroyed).Kept given)
    (timers : reactor.Timed setting ∨ reactor.timerQueues.Drained) (timer : Id)
    (maxCancelled : Nat) :
    ((reactor.cancelTimer setting timer maxCancelled).holdings destroyed).Kept given := by
  rcases timers with ⟨active, dates, holds, home⟩ | drained
  · obtain ⟨-, opQueue, ops, -⟩ := holds.cancelTimer (fun other => home other timer) maxCancelled
    have handed := (kept.cancelTimer timer maxCancelled).handOver
    simpa [holdings, cancelTimer, opQueue, ops] using handed
  · simpa [holdings, cancelTimer, drained.cancelTimer] using kept

theorem kept_getReadyTimers {opQueue : OpType → ReactorOpQueue Nat Op}
    {ops running : List (ReactorOp Op)} {handedOver : List (Operation Op)}
    (now : Service → Time) (services : List Service) {queues : TimerQueues Service Id Op Time}
    {waits : List (WaitOp Op)}
    (kept : SelectHoldings.Kept given
      ⟨opQueue, queues.opQueue, ops, waits, running, handedOver, destroyed⟩)
    (timers : (∃ active dates, queues.Holds active dates) ∨ queues.Drained) :
    SelectHoldings.Kept given ⟨opQueue, (getReadyTimers now services queues waits).1.opQueue, ops,
      (getReadyTimers now services queues waits).2, running, handedOver, destroyed⟩ := by
  induction services generalizing queues waits with
  | nil => exact kept
  | cons service services ih =>
      rw [getReadyTimers]
      rcases timers with ⟨active, dates, holds⟩ | drained
      · obtain ⟨ready, distinct, -, ⟨left, remains, -⟩, opQueueEq, opsEq⟩ :=
          holds.getReadyTimers service (now service)
        generalize queues.getReadyTimers service (now service) = result at *
        obtain ⟨after, taken⟩ := result
        dsimp only at remains opQueueEq opsEq ⊢
        subst opsEq
        apply ih _ (.inl ⟨left, dates, remains⟩)
        apply kept.takeTimers distinct
        · intro timer isReady
          rw [opQueueEq, if_pos isReady]
        · intro timer waits
          rw [opQueueEq, if_neg waits]
      · rw [drained.getReadyTimers]
        dsimp only
        rw [List.append_nil]
        exact ih kept (.inr drained)

theorem kept_dispatch (kept : (reactor.holdings destroyed).Kept given)
    (timers : reactor.Timed setting ∨ reactor.timerQueues.Drained) {retval : Int}
    {ops : List (ReactorOp Op)} (returned : reactor.run = .returned retval ops)
    (perform : Op → Option ErrorCode) (now : Service → Time) :
    ((reactor.dispatch setting retval ops perform now).holdings destroyed).Kept given := by
  have resumed := kept.resume rfl rfl
  simp only [holdings, returned, SelectHoldings.ofRun] at resumed
  have queues : (∃ active dates, reactor.timerQueues.Holds active dates) ∨
      reactor.timerQueues.Drained := by
    rcases timers with ⟨active, dates, holds, -⟩ | drained
    · exact .inl ⟨active, dates, holds⟩
    · exact .inr drained
  by_cases ready : 0 < retval
  · have left := resumed.leaves (Leaves.refl.performLoop OpType.all.reverse reactor.fdSets perform)
    simp only [dispatch, if_pos ready]
    exact (kept_getReadyTimers now setting.services left queues).handOver
  · simp only [dispatch, if_neg ready]
    exact (kept_getReadyTimers now setting.services resumed queues).handOver

omit [DecidableEq Service] [DecidableEq Id] in
/-- The timers of the set. -/
theorem exists_walking (timers : reactor.Timed setting ∨ reactor.timerQueues.Drained)
    (known : ∀ timer, setting.home timer ∈ setting.services) :
    ∃ active, reactor.timerQueues.Walking setting.services active := by
  rcases timers with ⟨active, dates, holds, home⟩ | drained
  · refine ⟨active, holds.walking setting.home ?_⟩
    intro service outside
    rw [List.eq_nil_iff_forall_not_mem]
    intro timer member
    exact outside (home service timer member ▸ known timer)
  · exact ⟨_, drained.walking setting.services⟩

theorem kept_getAll {next : SelectReactor Service Id Op Time} {ops : List (Operation Op)}
    (kept : (reactor.holdings destroyed).Kept given) {passes : Nat}
    (timers : reactor.Timed setting ∨ reactor.timerQueues.Drained)
    (known : ∀ timer, setting.home timer ∈ setting.services) (distinct : setting.services.Nodup)
    (collected : reactor.getAll setting passes = some (next, ops)) :
    (next.holdings (destroyed ++ ops)).Kept given ∧ next.timerQueues.Drained := by
  obtain ⟨active, walking⟩ := exists_walking timers known
  obtain ⟨⟨timerQueues, waits⟩, computed, result⟩ := Option.map_eq_some_iff.mp collected
  rw [Prod.mk.injEq] at result
  obtain ⟨rfl, rfl⟩ := result
  obtain ⟨drained, all⟩ := walking.of_getAllTimers distinct computed
  refine ⟨?_, drained⟩
  have left := kept.leaves (Leaves.refl.getAllLoop OpType.all)
  have stays : ∀ timer, timer ∉ setting.services.flatMap active →
      timerQueues.opQueue timer = reactor.timerQueues.opQueue timer := by
    intro timer outside
    rw [drained.opQueue]
    symm
    apply walking.opQueue
    intro service listed member
    exact outside (List.mem_flatMap.mpr ⟨service, listed, member⟩)
  have taken := left.takeTimers (walking.nodup distinct)
    (fun timer _ => drained.opQueue timer) stays
  rw [TimerQueues.waits_eq] at all
  rw [all]
  exact taken.destroy

omit [DecidableEq Service] [DecidableEq Id] [DurationTraits Time] in
/-- Nothing is destroyed. -/
theorem kept_none_destroyed (kept : (reactor.holdings destroyed).Kept given) :
    (reactor.holdings (destroyed ++ [])).Kept given := by
  rwa [List.append_nil]

omit [DecidableEq Service] [DecidableEq Id] [DurationTraits Time] in
/-- Nothing is given. -/
theorem kept_none_given (kept : (reactor.holdings destroyed).Kept given) :
    (reactor.holdings destroyed).Kept (given ++ []) := by
  rwa [List.append_nil]

/-- **A step keeps the operations**, and one that is given. -/
theorem kept_step [DecidableEq Op] {action : SelectAction Service Id Op Time}
    {next : SelectReactor Service Id Op Time} (kept : (reactor.holdings destroyed).Kept given)
    (timers : reactor.Timed setting ∨ reactor.shutdown = true ∧ reactor.timerQueues.Drained)
    (fresh : ∀ op ∈ action.given, op.op ∉ given)
    (stepped : step setting reactor action = some next) :
    (next.holdings (destroyed ++ reactor.destroyedBy action)).Kept
      (given ++ action.given.toList.map Operation.op) := by
  have queues := timers.imp_right And.right
  cases action with
  | startOp opType descriptor op =>
      cases stepped
      exact kept_none_destroyed (kept_startOp kept opType descriptor op (fresh _ rfl))
  | registerInternalDescriptor opType descriptor op =>
      cases stepped
      have waits := kept.enqueue opType descriptor op (fresh _ rfl)
      exact kept_none_destroyed waits
  | cancelOps descriptor =>
      cases stepped
      have handed := kept_cancelOpsUnlocked kept descriptor .operationAborted
      exact kept_none_given (kept_none_destroyed handed)
  | deregisterDescriptor descriptor =>
      cases stepped
      have handed := kept_cancelOpsUnlocked kept descriptor .operationAborted
      exact kept_none_given (kept_none_destroyed handed)
  | deregisterInternalDescriptor descriptor =>
      cases stepped
      exact kept_none_given (kept_deregisterInternalDescriptor kept descriptor)
  | scheduleTimer time timer op =>
      have timed : reactor.shutdown = false → reactor.Timed setting := by
        intro open_
        rcases timers with timed | ⟨shutdown, -⟩
        · exact timed
        · rw [shutdown] at open_
          cases open_
      exact kept_none_destroyed (kept_scheduleTimer kept timed (fresh _ rfl) stepped)
  | cancelTimer timer maxCancelled =>
      cases stepped
      have handed := kept_cancelTimer kept queues timer maxCancelled
      exact kept_none_given (kept_none_destroyed handed)
  | interrupt =>
      cases stepped
      exact kept_none_given (kept_none_destroyed kept)
  | shutdown =>
      cases stepped
      exact kept_none_given (kept_none_destroyed kept)
  | run usec now =>
      simp only [step] at stepped
      split at stepped
      · next idle =>
        cases stepped
        exact kept_none_given (kept_none_destroyed (kept_beginRun setting kept idle usec now))
      · cases stepped
  | select result =>
      simp only [step] at stepped
      split at stepped
      · next blocked =>
        split at stepped
        · cases stepped
          have same := kept_returnFromSelect setting kept blocked result
          exact kept_none_given (kept_none_destroyed same)
        · cases stepped
      · cases stepped
  | dispatch perform now =>
      simp only [step] at stepped
      split at stepped
      · next returned =>
        cases stepped
        have handed := kept_dispatch kept queues returned perform now
        exact kept_none_given (kept_none_destroyed handed)
      · cases stepped

/-- After `shutdown` no step changes the timers, and only operations of internal descriptors
join a queue. -/
structure Settles (reactor next : SelectReactor Service Id Op Time)
    (action : SelectAction Service Id Op Time) : Prop where
  shutdown : next.shutdown = true
  timerQueues : next.timerQueues = reactor.timerQueues
  joins : ∀ i d, ∀ op ∈ (next.opQueue i).pending d, op ∈ (reactor.opQueue i).pending d ∨
    ∃ opType descriptor, action = .registerInternalDescriptor opType descriptor op

omit [DecidableEq Service] [DecidableEq Id] [DurationTraits Time] in
theorem Settles.of_leaves {next : SelectReactor Service Id Op Time}
    {action : SelectAction Service Id Op Time} {ops all : List (ReactorOp Op)}
    (shutdown : next.shutdown = true) (timerQueues : next.timerQueues = reactor.timerQueues)
    (leaves : Leaves reactor.opQueue ops next.opQueue all) : Settles reactor next action where
  shutdown := shutdown
  timerQueues := timerQueues
  joins i d op member := .inl (leaves.fewer i d op member)

theorem getReadyTimers_drained {queues : TimerQueues Service Id Op Time} (drained : queues.Drained)
    (now : Service → Time) (services : List Service) (waits : List (WaitOp Op)) :
    getReadyTimers now services queues waits = (queues, waits) := by
  induction services generalizing waits with
  | nil => rfl
  | cons service services ih =>
      rw [getReadyTimers, drained.getReadyTimers]
      dsimp only
      rw [List.append_nil, ih]

theorem settles_step [DecidableEq Op] {action : SelectAction Service Id Op Time}
    {next : SelectReactor Service Id Op Time} (shutdown : reactor.shutdown = true)
    (drained : reactor.timerQueues.Drained)
    (stepped : step setting reactor action = some next) : Settles reactor next action := by
  have stays : Leaves reactor.opQueue [] reactor.opQueue [] := .refl
  cases action with
  | startOp opType descriptor op =>
      cases stepped
      rw [startOp, if_pos shutdown]
      exact .of_leaves shutdown rfl stays
  | registerInternalDescriptor opType descriptor op =>
      cases stepped
      refine ⟨shutdown, rfl, fun i d other member => ?_⟩
      have pending : ((reactor.opQueue opType).enqueueOperation descriptor op).1.pending = _ :=
        (ReactorOpQueue.enqueueOperation_pending op).1
      simp only [registerInternalDescriptor] at member
      by_cases own : i = opType
      · subst own
        rw [Function.update_self, pending] at member
        by_cases same : d = descriptor
        · subst same
          rw [Function.update_self] at member
          rcases List.mem_append.mp member with before | new
          · exact .inl before
          · exact .inr ⟨i, d, by rw [List.mem_singleton.mp new]⟩
        · rw [Function.update_of_ne same] at member
          exact .inl member
      · rw [Function.update_of_ne own] at member
        exact .inl member
  | cancelOps descriptor =>
      cases stepped
      exact .of_leaves shutdown rfl (stays.cancelLoop descriptor .operationAborted OpType.all false)
  | deregisterDescriptor descriptor =>
      cases stepped
      exact .of_leaves shutdown rfl (stays.cancelLoop descriptor .operationAborted OpType.all false)
  | deregisterInternalDescriptor descriptor =>
      cases stepped
      exact .of_leaves shutdown rfl (stays.cancelLoop descriptor .operationAborted OpType.all false)
  | scheduleTimer time timer op =>
      rw [step, scheduleTimer, if_pos shutdown] at stepped
      cases stepped
      exact .of_leaves shutdown rfl stays
  | cancelTimer timer maxCancelled =>
      cases stepped
      rw [cancelTimer, drained.cancelTimer]
      exact .of_leaves shutdown rfl stays
  | interrupt =>
      cases stepped
      exact .of_leaves shutdown rfl stays
  | shutdown =>
      cases stepped
      exact .of_leaves rfl rfl stays
  | run usec now =>
      simp only [step] at stepped
      split at stepped
      · cases stepped
        apply Settles.of_leaves _ (timerQueues_beginRun reactor usec now)
        · rw [opQueue_beginRun]
          exact leaves_setUp setting
        · unfold beginRun
          dsimp only
          split <;> exact shutdown
      · cases stepped
  | select result =>
      simp only [step] at stepped
      split at stepped
      · next ops blocked =>
        split at stepped
        · cases stepped
          unfold returnFromSelect
          dsimp only
          split <;> exact .of_leaves shutdown rfl stays
        · cases stepped
      · cases stepped
  | dispatch perform now =>
      simp only [step] at stepped
      split at stepped
      · next retval ops returned =>
        cases stepped
        by_cases ready : 0 < retval
        · simp only [dispatch, if_pos ready, getReadyTimers_drained drained]
          have started : Leaves reactor.opQueue ops reactor.opQueue ops := .refl
          exact .of_leaves shutdown rfl
            (started.performLoop OpType.all.reverse reactor.fdSets perform)
        · simp only [dispatch, if_neg ready, getReadyTimers_drained drained]
          exact .of_leaves shutdown rfl stays
      · cases stepped

omit [DecidableEq Service] [DecidableEq Id] in
/-- So many passes walk the timers of every queue. -/
theorem exists_passes (services : List Service) (active : Service → List Id) :
    ∃ passes, ∀ service ∈ services, (active service).length < passes := by
  induction services with
  | nil => exact ⟨0, List.forall_mem_nil _⟩
  | cons service services ih =>
      obtain ⟨passes, enough⟩ := ih
      refine ⟨max ((active service).length + 1) passes, ?_⟩
      rw [List.forall_mem_cons]
      refine ⟨lt_of_lt_of_le (Nat.lt_succ_self _) (le_max_left _ _), fun other member => ?_⟩
      exact lt_of_lt_of_le (enough other member) (le_max_right _ _)

/-- The second half of `shutdown` comes to an end. -/
theorem exists_getAll (timers : reactor.Timed setting ∨ reactor.timerQueues.Drained)
    (known : ∀ timer, setting.home timer ∈ setting.services) (distinct : setting.services.Nodup) :
    ∃ passes, (reactor.getAll setting passes).isSome = true := by
  obtain ⟨active, walking⟩ := exists_walking timers known
  obtain ⟨passes, enough⟩ := exists_passes setting.services active
  obtain ⟨after, computed, -⟩ := walking.getAllTimers distinct enough []
  refine ⟨passes, ?_⟩
  simp only [getAll, computed, Option.map_some, Option.isSome_some]

omit [DurationTraits Time] in
/-- The queues are empty after it. -/
theorem of_getAll {passes : Nat} {next : SelectReactor Service Id Op Time}
    {ops : List (Operation Op)} (collected : reactor.getAll setting passes = some (next, ops)) :
    (∀ i d, (next.opQueue i).pending d = []) ∧ next.shutdown = reactor.shutdown := by
  obtain ⟨⟨timerQueues, waits⟩, -, result⟩ := Option.map_eq_some_iff.mp collected
  rw [Prod.mk.injEq] at result
  obtain ⟨rfl, rfl⟩ := result
  exact ⟨fun i d => getAllLoop_pending OpType.all_nodup (OpType.mem_all i) d, rfl⟩

end Timers

end SelectReactor

namespace SelectLedger

variable {Service Id Op Time : Type*} [DecidableEq Service] [DecidableEq Id] [DecidableEq Op]
  [DurationTraits Time] {setting : Setting Service Id}
  {ledger next : SelectLedger Service Id Op Time}

/-- The operations are kept. Until the end of `shutdown` the queues hold timers that are used
with their own queue; after it no timer has operations, and the queues only those of internal
descriptors. -/
structure Booked (setting : Setting Service Id) (ledger : SelectLedger Service Id Op Time) :
    Prop where
  kept : (ledger.reactor.holdings ledger.destroyed).Kept ledger.given
  timed : ledger.collected = false → ledger.reactor.Timed setting
  shutdown : ledger.collected = true → ledger.reactor.shutdown = true
  drained : ledger.collected = true → ledger.reactor.timerQueues.Drained
  internal : ledger.collected = true → ∀ i d,
    ∀ op ∈ (ledger.reactor.opQueue i).pending d, op.op ∈ ledger.internal

omit [DecidableEq Service] [DecidableEq Id] [DecidableEq Op] in
theorem booked_new : (new : SelectLedger Service Id Op Time).Booked setting where
  kept := by
    apply Custody.kept_nil.perm
    intro place
    cases place <;> exact List.Perm.refl _
  timed _ := SelectReactor.timed_new
  shutdown collected := by cases collected
  drained collected := by cases collected
  internal collected := by cases collected

omit [DecidableEq Service] [DecidableEq Id] [DecidableEq Op] in
theorem Booked.timers (booked : ledger.Booked setting) : ledger.reactor.Timed setting ∨
    ledger.reactor.shutdown = true ∧ ledger.reactor.timerQueues.Drained := by
  cases collected : ledger.collected with
  | false => exact .inl (booked.timed collected)
  | true => exact .inr ⟨booked.shutdown collected, booked.drained collected⟩

theorem Booked.act {action : SelectAction Service Id Op Time} (booked : ledger.Booked setting)
    (stepped : ledger.step setting (.act action) = some next) : next.Booked setting := by
  simp only [step] at stepped
  split at stepped
  · next fresh =>
    obtain ⟨reactor, reacted, rfl⟩ := Option.map_eq_some_iff.mp stepped
    refine ⟨SelectReactor.kept_step booked.kept booked.timers fresh reacted, ?_, ?_, ?_, ?_⟩
    · intro open_
      exact (SelectReactor.step_cases (booked.timed open_) reacted).1
    · intro collected
      exact (SelectReactor.settles_step (booked.shutdown collected) (booked.drained collected)
        reacted).shutdown
    · intro collected
      have settles := SelectReactor.settles_step (booked.shutdown collected)
        (booked.drained collected) reacted
      exact settles.timerQueues ▸ booked.drained collected
    · intro collected i d op member
      have settles := SelectReactor.settles_step (booked.shutdown collected)
        (booked.drained collected) reacted
      rcases settles.joins i d op member with before | ⟨opType, descriptor, rfl⟩
      · have known := booked.internal collected i d op before
        dsimp only
        split
        · exact List.mem_append_left _ known
        · exact known
      · exact List.mem_append_right _ (List.mem_singleton_self _)
  · cases stepped

theorem Booked.collect {passes : Nat} (booked : ledger.Booked setting)
    (known : ∀ timer, setting.home timer ∈ setting.services) (distinct : setting.services.Nodup)
    (stepped : ledger.step setting (.collect passes) = some next) : next.Booked setting := by
  simp only [step] at stepped
  split at stepped
  · next shutdown =>
    obtain ⟨⟨reactor, ops⟩, collected, rfl⟩ := Option.map_eq_some_iff.mp stepped
    obtain ⟨kept, drained⟩ := SelectReactor.kept_getAll booked.kept
      (booked.timers.imp_right And.right) known distinct collected
    obtain ⟨opQueue, stays⟩ := SelectReactor.of_getAll collected
    refine ⟨kept, ?_, ?_, fun _ => drained, ?_⟩
    · intro open_
      cases open_
    · exact fun _ => stays.trans shutdown
    · intro _ i d op member
      rw [opQueue i d] at member
      cases member
  · cases stepped

theorem booked_of_reachable (known : ∀ timer, setting.home timer ∈ setting.services)
    (distinct : setting.services.Nodup) (reachable : (selectLedger setting).Reachable ledger) :
    ledger.Booked setting := by
  apply reachable.invariant
  · rintro _ rfl
    exact booked_new
  · intro state action next _ booked _ stepped
    cases action with
    | act action => exact booked.act stepped
    | collect passes => exact booked.collect known distinct stepped

end SelectLedger

/-- A descriptor is watched, a timer is cancelled, and the rest is destroyed. -/
def someLedgerActions : List (LedgerAction Unit Nat Nat Timer.Ticks) :=
  [.act (.startOp .read 5 ⟨0, .success⟩), .act (.startOp .read 2000 ⟨1, .success⟩),
    .act (.scheduleTimer ⟨3000000, by decide⟩ 0 ⟨2, .success⟩),
    .act (.scheduleTimer ⟨4000000, by decide⟩ 1 ⟨3, .success⟩), .act (.run (-1) fun _ => .epoch),
    .act (.cancelTimer 0 1), .act (.select none), .act .shutdown, .collect 5]

end Asio.Reactor
