import Asio.Reactor.OpTable
import Asio.Reactor.SelectBlocking

/-! # The select reactor and its descriptor sets

`FD_SET` and `FD_ISSET` index a bitmap of `FD_SETSIZE` bits. The sets are built from
descriptors that fit; after `select` the current operations are looked up in them, among
which other threads may have put some since.
-/

namespace Asio.Reactor

open Timer (DurationTraits)

/-! ## What the macros are applied to -/

/-- The `FD_SET` of `set`. -/
def FdSetAdapter.fdSetArguments (descriptor : Nat) : List Nat :=
  if descriptor < fdSetSize then [descriptor] else []

section Actions

variable {Service Id Op Time : Type*}

/-- The action takes away the operations of a descriptor. -/
def SelectAction.Cancels (descriptor : Nat) : SelectAction Service Id Op Time → Prop
  | .cancelOps other => other = descriptor
  | .deregisterDescriptor other => other = descriptor
  | .deregisterInternalDescriptor other => other = descriptor
  | _ => False

/-- The action adds an operation of a descriptor. -/
def SelectAction.Starts (descriptor : Nat) : SelectAction Service Id Op Time → Prop
  | .startOp _ other _ => other = descriptor
  | .registerInternalDescriptor _ other _ => other = descriptor
  | _ => False

end Actions

namespace SelectReactor

variable {Service Id Op Time : Type*} (setting : Setting Service Id)
  (reactor : SelectReactor Service Id Op Time)

/-- The descriptors that `set` is called with, the interrupter's first; a queue is only
touched by its own iteration. -/
def setCalls : List Nat :=
  setting.readDescriptor :: OpType.all.flatMap fun i => (reactor.opQueue i).descriptors

/-- The arguments of `FD_SET` in a step. -/
def fdSetArguments : SelectAction Service Id Op Time → List Nat
  | .run _ _ =>
      match reactor.run with
      | .idle => (reactor.setCalls setting).flatMap FdSetAdapter.fdSetArguments
      | _ => []
  | _ => []

/-- The arguments of `FD_ISSET` in a step: the descriptor of the interrupter when `select`
has returned, and then those with operations. -/
def fdIsSetArguments : SelectAction Service Id Op Time → List Nat
  | .select result => if 0 < (reactor.afterSelect result).2 then [setting.readDescriptor] else []
  | .dispatch _ _ =>
      match reactor.run with
      | .returned retval _ =>
          if 0 < retval then
            OpType.all.reverse.flatMap fun i => (reactor.opQueue i).descriptors
          else []
      | _ => []
  | _ => []

/-- The operations that have finished, in the hands of the scheduler or of `run`. -/
def finished : List (Operation Op) :=
  reactor.handedOver ++
    match reactor.run with
    | .idle => []
    | .blocked _ _ _ ops => ops.map .reactor
    | .returned _ ops => ops.map .reactor

end SelectReactor

/-! ## Sets of descriptors that fit -/

namespace FdSetAdapter

variable {Op : Type*} {adapter : FdSetAdapter} {operations : ReactorOpQueue Nat Op}
  {ops : List (ReactorOp Op)} {descriptors : List Nat} {d : Nat} {op : ReactorOp Op}

/-- The members of a set fit, and the largest descriptor is at least as large. -/
def Fits (adapter : FdSetAdapter) : Prop :=
  ∀ d ∈ adapter.fdSet, d < fdSetSize ∧ ∃ largest, adapter.maxDescriptor = some largest ∧ d ≤ largest

theorem fits_reset : adapter.reset.Fits := fun _ member => absurd member (Finset.notMem_empty _)

theorem Fits.subset (fits : adapter.Fits) {fdSet : Finset Nat} (fewer : fdSet ⊆ adapter.fdSet) :
    Fits { adapter with fdSet := fdSet } :=
  fun d member => fits d (fewer member)

theorem Fits.set (fits : adapter.Fits) (d : Nat) : (adapter.set d).1.Fits := by
  rw [FdSetAdapter.set]
  split
  · next small =>
    intro other member
    dsimp only at member ⊢
    rw [Finset.mem_insert] at member
    cases maximum : adapter.maxDescriptor with
    | none =>
        rcases member with rfl | inside
        · exact ⟨small, other, rfl, Nat.le_refl _⟩
        · obtain ⟨-, largest, known, -⟩ := fits other inside
          rw [maximum] at known
          cases known
    | some largest =>
        have before : other ∈ adapter.fdSet → other < fdSetSize ∧ other ≤ largest := by
          intro inside
          obtain ⟨fitting, same, known, bound⟩ := fits other inside
          rw [maximum] at known
          cases known
          exact ⟨fitting, bound⟩
        rw [Option.all_some]
        by_cases larger : largest < d
        · refine ⟨?_, d, by simp only [larger, decide_true, ↓reduceIte], ?_⟩
          · rcases member with rfl | inside
            · exact small
            · exact (before inside).1
          · rcases member with rfl | inside
            · exact Nat.le_refl _
            · exact Nat.le_trans (before inside).2 (Nat.le_of_lt larger)
        · have kept : (if decide (largest < d) = true then some d else some largest) =
              some largest := by
            simp only [larger, decide_false, Bool.false_eq_true, ↓reduceIte]
          refine ⟨?_, largest, kept, ?_⟩
          · rcases member with rfl | inside
            · exact small
            · exact (before inside).1
          · rcases member with rfl | inside
            · exact Nat.le_of_not_lt larger
            · exact (before inside).2
  · exact fits

theorem Fits.setLoop (fits : adapter.Fits) :
    (setLoop descriptors adapter operations ops).1.Fits := by
  induction descriptors generalizing adapter operations ops with
  | nil => exact fits
  | cons first descriptors ih =>
      by_cases small : first < fdSetSize
      · obtain ⟨fdSet, added, -⟩ := adapter.set_small small
        have grown := fits.set first
        rw [added] at grown
        simp only [FdSetAdapter.setLoop, added]
        exact ih grown
      · simp only [FdSetAdapter.setLoop, set_large small]
        exact ih fits

theorem cancelOperations_ops (ec : ErrorCode) :
    (operations.cancelOperations d ops ec).2.1 =
      ops ++ (operations.pending d).map (ReactorOp.complete ec) :=
  congrArg Prod.fst (ReactorOpQueue.cancelOperations_pending ec).2

theorem performOperations_ops (perform : Op → Option ErrorCode) :
    (operations.performOperations d perform ops).2.1 =
      ops ++ (ReactorOpQueue.performLoop perform (operations.pending d)).1 :=
  congrArg Prod.fst (ReactorOpQueue.performOperations_pending perform).2

/-- What has failed stays so. -/
theorem setLoop_ops_mono (member : op ∈ ops) :
    op ∈ (setLoop descriptors adapter operations ops).2.2 := by
  induction descriptors generalizing adapter operations ops with
  | nil => exact member
  | cons first descriptors ih =>
      by_cases small : first < fdSetSize
      · obtain ⟨fdSet, added, -⟩ := adapter.set_small small
        simp only [setLoop, added]
        exact ih member
      · simp only [setLoop, set_large small]
        apply ih
        rw [cancelOperations_ops]
        exact List.mem_append_left _ member

/-- The operations of a descriptor that does not fit fail. -/
theorem setLoop_fails (listed : d ∈ descriptors) (large : fdSetSize ≤ d)
    (waits : op ∈ operations.pending d) :
    op.complete .fdSetFailure ∈ (setLoop descriptors adapter operations ops).2.2 := by
  induction descriptors generalizing adapter operations ops with
  | nil => cases listed
  | cons first descriptors ih =>
      by_cases small : first < fdSetSize
      · obtain ⟨fdSet, added, -⟩ := adapter.set_small small
        simp only [setLoop, added]
        refine ih ((List.mem_cons.mp listed).resolve_left ?_) waits
        rintro rfl
        exact absurd small (Nat.not_lt.mpr large)
      · simp only [setLoop, set_large small]
        by_cases own : d = first
        · subst own
          apply setLoop_ops_mono
          rw [cancelOperations_ops]
          exact List.mem_append_right _ (List.mem_map_of_mem waits)
        · apply ih ((List.mem_cons.mp listed).resolve_left own)
          rw [(ReactorOpQueue.cancelOperations_pending .fdSetFailure).1,
            Function.update_of_ne own]
          exact waits

theorem performLoop_ops_mono {perform : Op → Option ErrorCode} (member : op ∈ ops) :
    op ∈ (adapter.performLoop perform descriptors operations ops).2 := by
  induction descriptors generalizing operations ops with
  | nil => exact member
  | cons first descriptors ih =>
      by_cases isSet : adapter.isSet first = true
      · have kept : op ∈ (operations.performOperations first perform ops).2.1 := by
          rw [performOperations_ops]
          exact List.mem_append_left _ member
        rw [performLoop, if_pos isSet]
        exact ih kept
      · rw [performLoop, if_neg isSet]
        exact ih member

/-- The operations of a descriptor that is not set are left alone. -/
theorem performLoop_pending {perform : Op → Option ErrorCode} (unset : adapter.isSet d = false) :
    (adapter.performLoop perform descriptors operations ops).1.pending d =
      operations.pending d := by
  induction descriptors generalizing operations ops with
  | nil => rfl
  | cons first descriptors ih =>
      by_cases isSet : adapter.isSet first = true
      · have other : d ≠ first := by
          rintro rfl
          rw [unset] at isSet
          cases isSet
        rw [performLoop, if_pos isSet, ih,
          (ReactorOpQueue.performOperations_pending perform).1, Function.update_of_ne other]
      · rw [performLoop, if_neg isSet]
        exact ih

end FdSetAdapter

namespace SelectReactor

variable {Service Id Op Time : Type*}

/-! ## Setting up the sets -/

section SetUp

variable {setUp : SetUp Op} {is : List OpType} {i : OpType} {d : Nat} {op : ReactorOp Op}

theorem foldl_next_fits (fits : ∀ i, (setUp.fdSets i).Fits) (i : OpType) :
    ((is.foldl SetUp.next setUp).fdSets i).Fits := by
  induction is generalizing setUp with
  | nil => exact fits i
  | cons first is ih =>
      apply ih
      intro other
      by_cases own : other = first
      · subst own
        simp only [SetUp.next, Function.update_self]
        exact (fits other).setLoop
      · simp only [SetUp.next, Function.update_of_ne own]
        exact fits other

theorem maxFd_next_le (setUp : SetUp Op) (i : OpType) : setUp.maxFd ≤ (setUp.next i).maxFd := by
  simp only [SetUp.next]
  split
  · split
    · next larger => exact Nat.le_of_lt larger
    · exact Nat.le_refl _
  · exact Nat.le_refl _

theorem foldl_next_maxFd_le : setUp.maxFd ≤ (is.foldl SetUp.next setUp).maxFd := by
  induction is generalizing setUp with
  | nil => exact Nat.le_refl _
  | cons first is ih => exact Nat.le_trans (maxFd_next_le setUp first) ih

/-- The largest descriptor of all is at least as large as that of each set. -/
theorem foldl_next_maxDescriptor (distinct : is.Nodup) (member : i ∈ is) {largest : Nat}
    (known : ((is.foldl SetUp.next setUp).fdSets i).maxDescriptor = some largest) :
    largest ≤ (is.foldl SetUp.next setUp).maxFd := by
  induction is generalizing setUp with
  | nil => cases member
  | cons first is ih =>
      rw [List.nodup_cons] at distinct
      by_cases own : i = first
      · subst own
        rw [List.foldl_cons] at known ⊢
        rw [(@foldl_next_of_not_mem _ (setUp.next i) _ _ distinct.1).2] at known
        refine Nat.le_trans ?_ foldl_next_maxFd_le
        simp only [SetUp.next, Function.update_self] at known ⊢
        rw [known]
        dsimp only
        split
        · exact Nat.le_refl _
        · next larger => exact Nat.le_of_not_lt larger
      · exact ih distinct.2 ((List.mem_cons.mp member).resolve_left own) known

theorem foldl_next_ops_mono (member : op ∈ setUp.ops) :
    op ∈ (is.foldl SetUp.next setUp).ops := by
  induction is generalizing setUp with
  | nil => exact member
  | cons first is ih =>
      apply ih
      simp only [SetUp.next]
      exact FdSetAdapter.setLoop_ops_mono member

/-- The operations of a descriptor that does not fit fail. -/
theorem foldl_next_fails (distinct : is.Nodup) (member : i ∈ is) (large : fdSetSize ≤ d)
    (waits : op ∈ (setUp.opQueue i).pending d) :
    op.complete .fdSetFailure ∈ (is.foldl SetUp.next setUp).ops := by
  induction is generalizing setUp with
  | nil => cases member
  | cons first is ih =>
      rw [List.nodup_cons] at distinct
      rw [List.foldl_cons]
      by_cases own : i = first
      · subst own
        apply foldl_next_ops_mono
        have listed : d ∈ (setUp.opQueue i).descriptors := by
          rw [ReactorOpQueue.mem_descriptors, ReactorOpQueue.hasOperation]
          cases found : (setUp.opQueue i).operations.lookup d with
          | none =>
              rw [ReactorOpQueue.pending_of_not_found found] at waits
              cases waits
          | some _ => rfl
        simp only [SetUp.next]
        exact FdSetAdapter.setLoop_fails listed large waits
      · apply ih distinct.2 ((List.mem_cons.mp member).resolve_left own)
        simp only [SetUp.next, Function.update_of_ne own]
        exact waits

variable (setting : Setting Service Id) (reactor : SelectReactor Service Id Op Time)

theorem setUp_fits (i : OpType) : ((reactor.setUp setting).fdSets i).Fits := by
  apply foldl_next_fits
  intro i
  by_cases own : i = .read
  · subst own
    simp only [Function.update_self]
    exact FdSetAdapter.fits_reset.set _
  · simp only [Function.update_of_ne own]
    exact FdSetAdapter.fits_reset

/-- `nfds` is greater than every descriptor in the sets. -/
theorem setUp_lt_nfds {i : OpType} {d : Nat}
    (member : d ∈ ((reactor.setUp setting).fdSets i).fdSet) :
    d < (reactor.setUp setting).maxFd + 1 := by
  obtain ⟨-, largest, known, bound⟩ := reactor.setUp_fits setting i d member
  exact Nat.lt_succ_of_le (Nat.le_trans bound
    (foldl_next_maxDescriptor OpType.all_nodup (OpType.mem_all i) known))

/-- No operation on a descriptor that does not fit is left. -/
theorem setUp_small {i : OpType} {d : Nat}
    (waits : ((reactor.setUp setting).opQueue i).hasOperation d = true) : d < fdSetSize := by
  have isSet := reactor.setUp_isSet setting waits
  rw [FdSetAdapter.isSet, decide_eq_true_eq] at isSet
  exact (reactor.setUp_fits setting i d isSet).1

theorem setUp_fails {i : OpType} {d : Nat} (large : fdSetSize ≤ d)
    (waits : op ∈ (reactor.opQueue i).pending d) :
    op.complete .fdSetFailure ∈ (reactor.setUp setting).ops :=
  foldl_next_fails OpType.all_nodup (OpType.mem_all i) large waits

end SetUp

/-! ## Steps -/

section Steps

variable [DecidableEq Service] [DecidableEq Id] [DecidableEq Op] [DurationTraits Time]
  {setting : Setting Service Id} {reactor next : SelectReactor Service Id Op Time}
  {action : SelectAction Service Id Op Time}

/-- A step beside the thread in `run`. -/
structure Beside (reactor : SelectReactor Service Id Op Time)
    (action : SelectAction Service Id Op Time) (next : SelectReactor Service Id Op Time) :
    Prop where
  run : next.run = reactor.run
  fdSets : next.fdSets = reactor.fdSets
  handedOver : ∀ op ∈ reactor.handedOver, op ∈ next.handedOver
  waits : ∀ i d, ∀ op ∈ (reactor.opQueue i).pending d,
    op ∈ (next.opQueue i).pending d ∨ action.Cancels d
  started : ∀ i d, (next.opQueue i).hasOperation d = true →
    (reactor.opQueue i).hasOperation d = true ∨ action.Starts d

omit [DecidableEq Service] [DecidableEq Id] [DecidableEq Op] [DurationTraits Time] in
/-- The operations of other descriptors stay. -/
theorem cancelLoop_pending {descriptor d : Nat} (other : d ≠ descriptor) {ec : ErrorCode}
    {is : List OpType} {opQueue : OpType → ReactorOpQueue Nat Op} {ops : List (ReactorOp Op)}
    {needInterrupt : Bool} (i : OpType) :
    ((cancelLoop descriptor ec is opQueue ops needInterrupt).1 i).pending d =
      (opQueue i).pending d := by
  induction is generalizing opQueue ops needInterrupt with
  | nil => rfl
  | cons first is ih =>
      simp only [cancelLoop, ih]
      by_cases own : i = first
      · subst own
        rw [Function.update_self, (ReactorOpQueue.cancelOperations_pending ec).1,
          Function.update_of_ne other]
      · rw [Function.update_of_ne own]

omit [DecidableEq Service] [DecidableEq Id] [DecidableEq Op] [DurationTraits Time] in
/-- What is enqueued is added. -/
theorem beside_enqueue {opType : OpType} {descriptor : Nat} {op : ReactorOp Op}
    {interrupted : Bool} {workStarted : Nat} (starts : action.Starts descriptor) :
    Beside reactor action { reactor with
      opQueue := Function.update reactor.opQueue opType
        ((reactor.opQueue opType).enqueueOperation descriptor op).1
      workStarted := workStarted
      interrupted := interrupted } where
  run := rfl
  fdSets := rfl
  handedOver _ member := member
  waits i d waiting member := by
    left
    dsimp only
    by_cases own : i = opType
    · subst own
      rw [Function.update_self, (ReactorOpQueue.enqueueOperation_pending op).1]
      by_cases same : d = descriptor
      · subst same
        rw [Function.update_self]
        exact List.mem_append_left _ member
      · rw [Function.update_of_ne same]
        exact member
    · rw [Function.update_of_ne own]
      exact member
  started i d waits := by
    dsimp only at waits
    by_cases own : i = opType
    · subst own
      rw [Function.update_self, ReactorOpQueue.hasOperation_enqueue] at waits
      rcases waits with rfl | before
      · exact .inr starts
      · exact .inl before
    · rw [Function.update_of_ne own] at waits
      exact .inl waits

omit [DecidableEq Service] [DecidableEq Id] [DecidableEq Op] [DurationTraits Time] in
/-- The operations of a descriptor are taken away. -/
theorem beside_cancelLoop {descriptor : Nat} {ec : ErrorCode} {interrupted : Bool}
    {handedOver : List (Operation Op)} (cancels : action.Cancels descriptor)
    (kept : ∀ op ∈ reactor.handedOver, op ∈ handedOver) :
    Beside reactor action { reactor with
      opQueue := (cancelLoop descriptor ec OpType.all reactor.opQueue [] false).1
      handedOver := handedOver
      interrupted := interrupted } where
  run := rfl
  fdSets := rfl
  handedOver := kept
  waits i d op member := by
    by_cases own : d = descriptor
    · subst own
      exact .inr cancels
    · left
      dsimp only
      rw [cancelLoop_pending own]
      exact member
  started _ _ waits := by
    left
    dsimp only at waits
    exact cancelLoop_hasOperation waits

omit [DecidableEq Service] [DecidableEq Id] [DecidableEq Op] [DurationTraits Time] in
/-- The operations on descriptors are not touched. -/
theorem beside_of_eq (run : next.run = reactor.run) (fdSets : next.fdSets = reactor.fdSets)
    (opQueue : next.opQueue = reactor.opQueue)
    (handedOver : ∀ op ∈ reactor.handedOver, op ∈ next.handedOver) :
    Beside reactor action next where
  run := run
  fdSets := fdSets
  handedOver := handedOver
  waits i d op member := by
    rw [opQueue]
    exact .inl member
  started i d waits := by
    rw [opQueue] at waits
    exact .inl waits

omit [DecidableEq Service] [DecidableEq Id] [DecidableEq Op] [DurationTraits Time] in
theorem opQueue_returnFromSelect (reactor : SelectReactor Service Id Op Time)
    (ops : List (ReactorOp Op)) (result : Option (OpType → Finset Nat)) :
    (reactor.returnFromSelect setting ops result).opQueue = reactor.opQueue := by
  unfold returnFromSelect
  dsimp only
  split <;> rfl

/-- What a step does. -/
inductive Stepped (setting : Setting Service Id) (reactor : SelectReactor Service Id Op Time) :
    SelectAction Service Id Op Time → SelectReactor Service Id Op Time → Prop where
  | beside {action : SelectAction Service Id Op Time} {next : SelectReactor Service Id Op Time} :
      Beside reactor action next → (∀ usec now, action ≠ .run usec now) →
      reactor.fdIsSetArguments setting action = [] → Stepped setting reactor action next
  | run {usec : Int} {now : Service → Time} : reactor.run = .idle →
      Stepped setting reactor (.run usec now) (reactor.beginRun setting usec now)
  | select {result : Option (OpType → Finset Nat)} {nfds : Nat} {timeout : Int}
      {now : Service → Time} {ops : List (ReactorOp Op)} :
      reactor.run = .blocked nfds timeout now ops → reactor.Selects setting result →
      Stepped setting reactor (.select result) (reactor.returnFromSelect setting ops result)
  | dispatch {perform : Op → Option ErrorCode} {now : Service → Time} {retval : Int}
      {ops : List (ReactorOp Op)} : reactor.run = .returned retval ops →
      Stepped setting reactor (.dispatch perform now)
        (reactor.dispatch setting retval ops perform now)

theorem stepped_of_step (stepped : step setting reactor action = some next) :
    Stepped setting reactor action next := by
  have kept : ∀ more : List (Operation Op), ∀ op ∈ reactor.handedOver,
      op ∈ reactor.handedOver ++ more := fun _ _ member => List.mem_append_left _ member
  cases action with
  | startOp opType descriptor op =>
      cases stepped
      refine .beside ?_ nofun rfl
      unfold startOp
      split
      · exact beside_of_eq rfl rfl rfl (kept _)
      · exact beside_enqueue rfl
  | registerInternalDescriptor opType descriptor op =>
      cases stepped
      exact .beside (beside_enqueue rfl) nofun rfl
  | cancelOps descriptor =>
      cases stepped
      exact .beside (beside_cancelLoop rfl (kept _)) nofun rfl
  | deregisterDescriptor descriptor =>
      cases stepped
      exact .beside (beside_cancelLoop rfl (kept _)) nofun rfl
  | deregisterInternalDescriptor descriptor =>
      cases stepped
      exact .beside (beside_cancelLoop rfl fun _ member => member) nofun rfl
  | scheduleTimer time timer op =>
      refine .beside ?_ nofun rfl
      change reactor.scheduleTimer setting time timer op = some next at stepped
      unfold scheduleTimer at stepped
      split_ifs at stepped
      · cases stepped
        exact beside_of_eq rfl rfl rfl (kept _)
      · split at stepped
        · cases stepped
        · cases stepped
          exact beside_of_eq rfl rfl rfl fun _ member => member
  | cancelTimer timer maxCancelled =>
      cases stepped
      exact .beside (beside_of_eq rfl rfl rfl (kept _)) nofun rfl
  | interrupt =>
      cases stepped
      exact .beside (beside_of_eq rfl rfl rfl fun _ member => member) nofun rfl
  | shutdown =>
      cases stepped
      exact .beside (beside_of_eq rfl rfl rfl fun _ member => member) nofun rfl
  | run usec now =>
      unfold SelectReactor.step at stepped
      dsimp only at stepped
      split at stepped
      · next idle =>
        cases stepped
        exact .run idle
      · cases stepped
  | select result =>
      unfold SelectReactor.step at stepped
      dsimp only at stepped
      split at stepped
      · next blocked =>
        split_ifs at stepped with selects
        cases stepped
        exact .select blocked selects
      · cases stepped
  | dispatch perform now =>
      unfold SelectReactor.step at stepped
      dsimp only at stepped
      split at stepped
      · next returned =>
        cases stepped
        exact .dispatch returned
      · cases stepped

/-- The sets hold descriptors that fit, and `select` is told of all of them. -/
structure Inside (reactor : SelectReactor Service Id Op Time) : Prop where
  fits : ∀ i, (reactor.fdSets i).Fits
  nfds : ∀ nfds timeout now ops, reactor.run = .blocked nfds timeout now ops →
    ∀ i, ∀ d ∈ (reactor.fdSets i).fdSet, d < nfds

omit [DecidableEq Service] [DecidableEq Id] [DecidableEq Op] [DurationTraits Time] in
theorem inside_new : (new : SelectReactor Service Id Op Time).Inside where
  fits _ d member := absurd member (Finset.notMem_empty d)
  nfds _ _ _ _ blocked := by cases blocked

omit [DecidableEq Op] in
theorem Inside.stepped (inside : reactor.Inside) (stepped : Stepped setting reactor action next) :
    next.Inside := by
  cases stepped with
  | beside beside _ _ =>
      refine ⟨fun i => beside.fdSets ▸ inside.fits i, fun nfds timeout now ops blocked => ?_⟩
      rw [beside.fdSets]
      exact inside.nfds nfds timeout now ops (beside.run ▸ blocked)
  | @run usec now idle =>
      constructor
      · rw [fdSets_beginRun]
        exact reactor.setUp_fits setting
      · intro nfds timeout date ops blocked i d member
        rw [fdSets_beginRun] at member
        rcases beginRun_cases setting reactor usec now with ⟨-, run, -⟩ | ⟨run, -⟩
        · rw [run, idle] at blocked
          cases blocked
        · rw [run] at blocked
          cases blocked
          exact reactor.setUp_lt_nfds setting member
  | @select result nfds timeout now ops blocked selects =>
      have fits : ∀ i, ((reactor.afterSelect result).1 i).Fits := by
        intro i
        cases result with
        | none => exact inside.fits i
        | some ready => exact (inside.fits i).subset (selects.1 i (OpType.mem_all i))
      unfold returnFromSelect
      dsimp only
      split
      · exact ⟨fits, fun _ _ _ _ blocked => by cases blocked⟩
      · exact ⟨fits, fun _ _ _ _ blocked => by cases blocked⟩
  | dispatch returned => exact ⟨inside.fits, fun _ _ _ _ blocked => by cases blocked⟩

/-- What becomes of the operations on descriptors that do not fit: they wait, unless they
are cancelled, until `run` sets up the sets, which they fail to get into; and what has
finished is handed over. -/
structure Completes (reactor : SelectReactor Service Id Op Time)
    (action : SelectAction Service Id Op Time) (next : SelectReactor Service Id Op Time) :
    Prop where
  waits : ∀ i d, fdSetSize ≤ d → ∀ op ∈ (reactor.opQueue i).pending d,
    op ∈ (next.opQueue i).pending d ∨ .reactor (op.complete .fdSetFailure) ∈ next.finished ∨
      action.Cancels d
  fails : ∀ usec now, action = .run usec now →
    ∀ i d, (next.opQueue i).hasOperation d = true → d < fdSetSize
  finished : ∀ op ∈ reactor.finished, op ∈ next.finished

omit [DecidableEq Service] [DecidableEq Id] [DecidableEq Op] [DurationTraits Time] in
/-- The loop over the sets leaves alone the operations of descriptors that do not fit. -/
theorem performLoop_pending {fdSets : OpType → FdSetAdapter} (fits : ∀ i, (fdSets i).Fits)
    {perform : Op → Option ErrorCode} {is : List OpType}
    {opQueue : OpType → ReactorOpQueue Nat Op} {ops : List (ReactorOp Op)} {d : Nat}
    (large : fdSetSize ≤ d) (i : OpType) :
    ((performLoop fdSets perform is opQueue ops).1 i).pending d = (opQueue i).pending d := by
  induction is generalizing opQueue ops with
  | nil => rfl
  | cons first is ih =>
      have unset : (fdSets first).isSet d = false := by
        rw [FdSetAdapter.isSet, decide_eq_false_iff_not]
        intro member
        exact absurd (fits first d member).1 (Nat.not_lt.mpr large)
      rw [performLoop, ih]
      by_cases own : i = first
      · subst own
        rw [Function.update_self]
        exact FdSetAdapter.performLoop_pending unset
      · rw [Function.update_of_ne own]

omit [DecidableEq Service] [DecidableEq Id] [DecidableEq Op] [DurationTraits Time] in
theorem performLoop_ops_mono {fdSets : OpType → FdSetAdapter} {perform : Op → Option ErrorCode}
    {is : List OpType} {opQueue : OpType → ReactorOpQueue Nat Op} {ops : List (ReactorOp Op)}
    {op : ReactorOp Op} (member : op ∈ ops) :
    op ∈ (performLoop fdSets perform is opQueue ops).2 := by
  induction is generalizing opQueue ops with
  | nil => exact member
  | cons first is ih =>
      rw [performLoop]
      exact ih (FdSetAdapter.performLoop_ops_mono member)

omit [DecidableEq Op] in
theorem Inside.completes (inside : reactor.Inside) (stepped : Stepped setting reactor action next) :
    Completes reactor action next := by
  cases stepped with
  | beside beside other _ =>
      refine ⟨fun i d _ op waits => ?_, fun usec now run => absurd run (other usec now),
        fun op member => ?_⟩
      · rcases beside.waits i d op waits with still | cancels
        · exact .inl still
        · exact .inr (.inr cancels)
      · rw [SelectReactor.finished, beside.run]
        rw [SelectReactor.finished] at member
        rcases List.mem_append.mp member with given | held
        · exact List.mem_append_left _ (beside.handedOver op given)
        · exact List.mem_append_right _ held
  | @run usec now idle =>
      have finished : (reactor.beginRun setting usec now).finished =
          reactor.handedOver ++ (reactor.setUp setting).ops.map .reactor := by
        rcases beginRun_cases setting reactor usec now with ⟨-, run, given⟩ | ⟨run, given⟩
        · rw [SelectReactor.finished, run, idle, given, List.append_nil]
        · rw [SelectReactor.finished, run, given]
      refine ⟨fun i d large op waits => ?_, fun _ _ _ i d waits => ?_, fun op member => ?_⟩
      · right; left
        rw [finished]
        apply List.mem_append_right
        exact List.mem_map_of_mem (reactor.setUp_fails setting large waits)
      · rw [opQueue_beginRun] at waits
        exact reactor.setUp_small setting waits
      · rw [SelectReactor.finished, idle, List.append_nil] at member
        rw [finished]
        exact List.mem_append_left _ member
  | @select result nfds timeout now ops blocked selects =>
      have same : (reactor.returnFromSelect setting ops result).finished = reactor.finished := by
        unfold returnFromSelect SelectReactor.finished
        dsimp only
        rw [blocked]
        split <;> rfl
      refine ⟨fun i d _ op waits => ?_, fun _ _ run => (by cases run), fun op member => ?_⟩
      · left
        rw [opQueue_returnFromSelect]
        exact waits
      · rw [same]
        exact member
  | @dispatch perform now retval ops returned =>
      refine ⟨fun i d large op waits => ?_, fun _ _ run => (by cases run), fun op member => ?_⟩
      · left
        unfold dispatch
        dsimp only
        split
        · rw [performLoop_pending inside.fits large]
          exact waits
        · exact waits
      · rw [SelectReactor.finished, returned] at member
        rw [SelectReactor.finished]
        unfold dispatch
        dsimp only
        rw [List.append_nil]
        apply List.mem_append_left
        rcases List.mem_append.mp member with given | held
        · exact List.mem_append_left _ given
        · apply List.mem_append_right
          obtain ⟨own, listed, rfl⟩ := List.mem_map.mp held
          apply List.mem_map_of_mem
          split
          · exact performLoop_ops_mono listed
          · exact listed

/-! ## Runs -/

/-- The macros are applied to descriptors that fit, and operations on others complete. -/
structure InBounds (setting : Setting Service Id) (reactor : SelectReactor Service Id Op Time)
    (action : SelectAction Service Id Op Time) : Prop where
  fdSet : ∀ d ∈ reactor.fdSetArguments setting action, d < fdSetSize
  fdIsSet : ∀ d ∈ reactor.fdIsSetArguments setting action, d < fdSetSize
  completes : ∀ next, step setting reactor action = some next → Completes reactor action next

/-- Nothing that does not fit is looked up when `select` has reported something. -/
def Careful (setting : Setting Service Id) (reactor : SelectReactor Service Id Op Time) :
    SelectAction Service Id Op Time → Prop
  | .select result => 0 < (reactor.afterSelect result).2 → setting.readDescriptor < fdSetSize
  | .dispatch _ _ => ∀ retval ops, reactor.run = .returned retval ops → 0 < retval →
      ∀ i d, (reactor.opQueue i).hasOperation d = true → d < fdSetSize
  | _ => True

/-- Operations on descriptors that do not fit are started only while no thread is in `run`,
and the interrupter's descriptor fits. -/
def StartsOutside (setting : Setting Service Id) (reactor : SelectReactor Service Id Op Time) :
    SelectAction Service Id Op Time → Prop
  | .startOp _ descriptor _ => descriptor < fdSetSize ∨ reactor.run = .idle
  | .registerInternalDescriptor _ descriptor _ => descriptor < fdSetSize ∨ reactor.run = .idle
  | .select _ => setting.readDescriptor < fdSetSize
  | _ => True

omit [DecidableEq Service] [DecidableEq Id] [DecidableEq Op] [DurationTraits Time] in
theorem fdSetArguments_lt (action : SelectAction Service Id Op Time) :
    ∀ d ∈ reactor.fdSetArguments setting action, d < fdSetSize := by
  have guarded : ∀ calls : List Nat, ∀ d ∈ calls.flatMap FdSetAdapter.fdSetArguments,
      d < fdSetSize := by
    intro calls d member
    obtain ⟨call, -, applied⟩ := List.mem_flatMap.mp member
    rw [FdSetAdapter.fdSetArguments] at applied
    split at applied
    · next small =>
      rw [List.mem_singleton] at applied
      exact applied ▸ small
    · cases applied
  intro d member
  unfold fdSetArguments at member
  split at member
  · split at member
    · exact guarded _ d member
    · cases member
  · cases member

omit [DecidableEq Service] [DecidableEq Id] [DecidableEq Op] [DurationTraits Time] in
theorem fdIsSetArguments_lt_iff (action : SelectAction Service Id Op Time) :
    (∀ d ∈ reactor.fdIsSetArguments setting action, d < fdSetSize) ↔
      reactor.Careful setting action := by
  unfold fdIsSetArguments Careful
  cases action with
  | select result =>
      dsimp only
      by_cases reported : 0 < (reactor.afterSelect result).2
      · simp only [reported, ↓reduceIte, List.mem_singleton, forall_eq, true_implies]
      · simp only [reported, ↓reduceIte, false_implies, iff_true]
        exact fun _ member => absurd member List.not_mem_nil
  | dispatch perform now =>
      dsimp only
      cases reactor.run with
      | returned retval ops =>
          dsimp only
          by_cases reported : 0 < retval
          · rw [if_pos reported]
            constructor
            · rintro inside _ _ ⟨⟩ - i d waits
              apply inside
              rw [List.mem_flatMap]
              exact ⟨i, List.mem_reverse.mpr (OpType.mem_all i),
                ReactorOpQueue.mem_descriptors.mpr waits⟩
            · intro small d member
              obtain ⟨i, -, listed⟩ := List.mem_flatMap.mp member
              exact small retval ops rfl reported i d (ReactorOpQueue.mem_descriptors.mp listed)
          · rw [if_neg reported]
            refine iff_of_true (fun _ member => absurd member List.not_mem_nil) ?_
            rintro _ _ ⟨⟩ positive
            exact absurd positive reported
      | idle =>
          exact iff_of_true (fun _ member => absurd member List.not_mem_nil)
            fun _ _ returned => by cases returned
      | blocked _ _ _ _ =>
          exact iff_of_true (fun _ member => absurd member List.not_mem_nil)
            fun _ _ returned => by cases returned
  | _ => exact iff_of_true (fun _ member => absurd member List.not_mem_nil) trivial

theorem Inside.inBounds_iff (inside : reactor.Inside)
    (action : SelectAction Service Id Op Time) :
    reactor.InBounds setting action ↔ reactor.Careful setting action := by
  rw [← fdIsSetArguments_lt_iff]
  exact ⟨InBounds.fdIsSet, fun fdIsSet => ⟨fdSetArguments_lt action, fdIsSet,
    fun _ stepped => inside.completes (stepped_of_step stepped)⟩⟩

/-- While a thread is in `run`, the operations are on descriptors that fit. -/
def FitsWhileRunning (reactor : SelectReactor Service Id Op Time) : Prop :=
  reactor.run ≠ .idle → ∀ i d, (reactor.opQueue i).hasOperation d = true → d < fdSetSize

omit [DecidableEq Op] in
theorem FitsWhileRunning.stepped (fits : reactor.FitsWhileRunning)
    (outside : reactor.StartsOutside setting action)
    (stepped : Stepped setting reactor action next) : next.FitsWhileRunning := by
  cases stepped with
  | beside beside _ _ =>
      intro running i d waits
      rw [beside.run] at running
      rcases beside.started i d waits with before | starts
      · exact fits running i d before
      · cases action with
        | startOp opType descriptor op =>
            cases starts
            exact outside.resolve_right running
        | registerInternalDescriptor opType descriptor op =>
            cases starts
            exact outside.resolve_right running
        | _ => exact absurd starts id
  | @run usec now idle =>
      intro _ i d waits
      rw [opQueue_beginRun] at waits
      exact reactor.setUp_small setting waits
  | @select result nfds timeout now ops blocked selects =>
      intro _ i d waits
      rw [opQueue_returnFromSelect] at waits
      refine fits (fun idle => ?_) i d waits
      rw [blocked] at idle
      cases idle
  | dispatch returned => exact fun running => absurd rfl running

omit [DecidableEq Service] [DecidableEq Id] [DecidableEq Op] [DurationTraits Time] in
theorem FitsWhileRunning.careful (fits : reactor.FitsWhileRunning)
    (outside : reactor.StartsOutside setting action) : reactor.Careful setting action := by
  cases action with
  | select result => exact fun _ => outside
  | dispatch perform now =>
      intro retval ops returned _
      apply fits
      rw [returned]
      exact fun idle => by cases idle
  | _ => trivial

end Steps

end SelectReactor

/-- **The select reactor stays inside `fd_set`.** In every run the sets hold descriptors
that fit, all below the `nfds` of `select`. The macros are applied to such descriptors only,
and the operations on others complete with `fd_set_failure` unless they are cancelled,
exactly when none of the latter waits as `run` dispatches what `select` has reported. That
is so when they are started only while no thread is in `run`. -/
theorem select_fd_sets_inside {Service Id Op Time : Type*} [DecidableEq Service] [DecidableEq Id]
    [DecidableEq Op] [DurationTraits Time] (setting : Setting Service Id)
    {actions : List (SelectAction Service Id Op Time)} {final : SelectReactor Service Id Op Time}
    (ran : (selectReactor setting).run .new actions = some final) :
    (selectReactor setting).Always SelectReactor.Inside .new actions ∧
    ((selectReactor setting).Permitted (SelectReactor.InBounds setting) .new actions ↔
      (selectReactor setting).Permitted (SelectReactor.Careful setting) .new actions) ∧
    ((selectReactor setting).Permitted (SelectReactor.StartsOutside setting) .new actions →
      (selectReactor setting).Permitted (SelectReactor.Careful setting) .new actions) := by
  have kept : ∀ (reactor : SelectReactor Service Id Op Time) action next, reactor.Inside →
      (selectReactor setting).step reactor action = some next → next.Inside :=
    fun _ _ _ inside stepped => inside.stepped (SelectReactor.stepped_of_step stepped)
  refine ⟨?_, ⟨fun inBounds => ?_, fun careful => ?_⟩, fun outside => ?_⟩
  · exact (Transition.Machine.always_iff_permitted (fun _ _ _ _ _ _ => trivial)
      (fun reactor action next _ inside stepped =>
        iff_of_true (kept reactor action next inside stepped) trivial)
      actions ran trivial SelectReactor.inside_new).mpr (.of_forall (fun _ _ _ => trivial) _)
  · exact inBounds.of_invariant (fun _ _ _ inside _ stepped => kept _ _ _ inside stepped)
      (fun _ action inside => (inside.inBounds_iff action).mp) SelectReactor.inside_new
  · exact careful.of_invariant (fun _ _ _ inside _ stepped => kept _ _ _ inside stepped)
      (fun _ action inside => (inside.inBounds_iff action).mpr) SelectReactor.inside_new
  · refine outside.of_invariant (fun _ _ _ fits allowed stepped =>
      SelectReactor.FitsWhileRunning.stepped fits allowed (SelectReactor.stepped_of_step stepped))
      (fun _ _ fits allowed => fits.careful allowed) ?_
    exact fun running => absurd rfl running

/-- An operation that does not fit fails beside one that fits, and another is started while
the thread is blocked. -/
def watchedActions : List (SelectAction Unit Nat Nat Timer.Ticks) :=
  [.startOp .read 2000 ⟨0, .success⟩, .startOp .read 5 ⟨1, .success⟩, .run (-1) fun _ => .epoch,
    .startOp .write 7 ⟨2, .success⟩, .select (some fun i => if i = .read then {5} else ∅),
    .dispatch (fun _ => some .success) fun _ => .epoch]

theorem select_fd_sets_inside_watchedActions :
    (selectReactor someSetting).Permitted (SelectReactor.InBounds someSetting) .new
      watchedActions := by
  have ran : (selectReactor someSetting).run .new watchedActions =
      some (((selectReactor someSetting).run .new watchedActions).get rfl) := rfl
  have small : someSetting.readDescriptor < fdSetSize := by decide
  obtain ⟨-, inBounds, outside⟩ := select_fd_sets_inside someSetting ran
  apply inBounds.mpr
  apply outside
  exact ⟨.inr rfl, .inl (show 5 < 1024 by decide), trivial, .inl (show 7 < 1024 by decide), small,
    trivial, trivial⟩

/-- The thread is blocked for one operation, another whose descriptor does not fit is
started, and the first becomes ready. -/
def unwatchedActions : List (SelectAction Unit Nat Nat Timer.Ticks) :=
  [.startOp .read 5 ⟨0, .success⟩, .run (-1) fun _ => .epoch, .startOp .write 1500 ⟨1, .success⟩,
    .select (some fun i => if i = .read then {5} else ∅),
    .dispatch (fun _ => some .success) fun _ => .epoch]

/-- `FD_ISSET` is applied to the descriptor 1500. -/
theorem not_select_fd_sets_inside :
    ((selectReactor someSetting).run .new unwatchedActions).isSome = true ∧
      ¬ (selectReactor someSetting).Permitted (SelectReactor.InBounds someSetting) .new
        unwatchedActions := by
  refine ⟨rfl, fun inBounds => ?_⟩
  have applied := inBounds.2.2.2.2.1.fdIsSet 1500
  exact absurd (applied (by decide)) (by decide)

end Asio.Reactor
