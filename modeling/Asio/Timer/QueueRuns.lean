import Asio.Timer.QueueOperations
import Mathlib.Order.Nat

/-! # Runs of the timer queue

A timer queue as a machine whose actions are the calls that may be made on it.
The state remembers, beside the queue, the time with which each timer was last
made active; the representation invariant holds after every run.
-/

namespace Asio.Timer

variable {Id Op Time : Type*}

/-- A call on a timer queue; the time of `ready` is the clock reading it makes. -/
inductive QueueCall (Id Op Time : Type*) where
  | enqueue (time : Time) (timer : Id) (op : WaitOp Op)
  | cancel (timer : Id) (maxCancelled : Nat)
  | move (target source : Id)
  | ready (now : Time)

/-- A queue with the times at which its timers were made active. -/
structure QueueRun (Id Op Time : Type*) where
  queue : TimerQueue Id Op Time
  expiry : Id → Option Time

namespace QueueRun

/-- An empty queue over default-constructed timers. -/
def start : QueueRun Id Op Time := ⟨.empty, fun _ => none⟩

variable [DecidableEq Id] [DecidableEq Op] [TimeTraits Time]

/-- Make a call. An enqueue that throws is not a step, and `move_timer` needs an
inactive target with an empty operation queue. -/
def step (state : QueueRun Id Op Time) : QueueCall Id Op Time → Option (QueueRun Id Op Time)
  | .enqueue time timer op =>
      match state.queue.enqueueTimer true time timer op with
      | (_, none) => none
      | (queue, some _) => some
          { queue
            expiry := if state.queue.isActive timer then state.expiry
              else Function.update state.expiry timer (some time) }
  | .cancel timer maxCancelled =>
      some { state with queue := (state.queue.cancelTimer timer maxCancelled).1 }
  | .move target source =>
      if !state.queue.isActive target && (state.queue.opQueue target).isEmpty then some
        { queue := state.queue.moveTimer target source
          expiry := if state.queue.isActive source
            then Function.update state.expiry target (state.expiry source) else state.expiry }
      else none
  | .ready now => some { state with queue := (state.queue.getReadyTimers now []).1 }

/-- The timer queue as a machine. -/
def machine : Transition.Machine (QueueRun Id Op Time) (QueueCall Id Op Time) where
  initial state := state = start
  step := step

omit [DecidableEq Id] [DecidableEq Op] in
/-- The invariant of the runs: the queue represents the timers with operations,
and every other timer is as default-constructed. -/
def Valid (state : QueueRun Id Op Time) : Prop :=
  ∃ active, state.queue.Represents active state.expiry ∧
    (∀ timer ∈ active, state.queue.opQueue timer ≠ []) ∧
    ∀ timer, timer ∉ active → state.queue.Idle timer

/-- The representation invariant of a timer queue. -/
structure WellFormed (state : QueueRun Id Op Time) : Prop where
  minHeap : MinHeap.IsMinHeap HeapEntry.time state.queue.heap
  indexed : state.queue.Indexed
  unindexed : ∀ timer, state.queue.Unqueued timer →
    state.queue.heap.size ≤ state.queue.heapIndex timer
  linked : ∃ active, state.queue.timers.Spells active ∧
    ∀ timer, timer ∈ active ↔ state.queue.opQueue timer ≠ []
  finite : ∀ timer time, state.queue.opQueue timer ≠ [] → state.expiry timer = some time →
    TimeTraits.isPositiveInfinity time = false →
    ∃! i, ∃ inside : i < state.queue.heap.size,
      state.queue.heap[i].timer = timer ∧ state.queue.heap[i].time = time
  infinite : ∀ timer time, state.queue.opQueue timer ≠ [] → state.expiry timer = some time →
    TimeTraits.isPositiveInfinity time = true → state.queue.Unqueued timer
  dated : ∀ timer, state.queue.opQueue timer ≠ [] → (state.expiry timer).isSome

/-! The invariant is kept by each call. -/

omit [DecidableEq Id] [DecidableEq Op] in
theorem valid_start : (start : QueueRun Id Op Time).Valid :=
  ⟨[], TimerQueue.represents_empty _, fun _ member => absurd member List.not_mem_nil,
    fun _ _ => ⟨rfl, rfl, rfl, rfl⟩⟩

variable {state next : QueueRun Id Op Time}

/-- What a queue represents, with nothing said about the `heap_index_` of the
timers outside it. -/
structure Sound (state : QueueRun Id Op Time) (active : List Id) : Prop where
  represents : state.queue.Represents active state.expiry
  busy : ∀ timer ∈ active, state.queue.opQueue timer ≠ []
  dormant : ∀ timer, timer ∉ active → state.queue.Dormant timer

omit [DecidableEq Op] in
theorem Sound.isActive_iff {active : List Id} (sound : state.Sound active) (timer : Id) :
    state.queue.isActive timer = true ↔ timer ∈ active :=
  sound.represents.isActive_iff fun outside => (sound.dormant timer outside).detached.2

omit [DecidableEq Op] in
theorem Sound.not_mem {active : List Id} (sound : state.Sound active) {timer : Id}
    (inactive : state.queue.isActive timer = false) : timer ∉ active := fun member =>
  Bool.false_ne_true (inactive.symm.trans ((sound.isActive_iff timer).mpr member))

omit [DecidableEq Op] in
theorem Sound.inactive {active : List Id} (sound : state.Sound active) {timer : Id}
    (absent : timer ∉ active) : state.queue.isActive timer = false := by
  rw [← Bool.not_eq_true, sound.isActive_iff]
  exact absent

/-- The values that can stand in the `heap_index_` of an inactive timer after a
call: the maximum, or what stood in that of an inactive timer before. -/
def Inherited (state : QueueRun Id Op Time) (active : List Id) (index : Nat) : Prop :=
  index = sizeMax ∨ ∃ timer, timer ∉ active ∧ state.queue.heapIndex timer = index

omit [DecidableEq Id] [DecidableEq Op] [TimeTraits Time] in
theorem Inherited.of_untouched {queue : TimerQueue Id Op Time} {active : List Id} {timer : Id}
    (outside : timer ∉ active) (untouched : TimerQueue.Untouched state.queue queue timer) :
    state.Inherited active (queue.heapIndex timer) :=
  Or.inr ⟨timer, outside, untouched.heapIndex_eq.symm⟩

variable {active : List Id}

theorem Sound.enqueue {time : Time} {timer : Id} {op : WaitOp Op} (sound : state.Sound active)
    (stepped : state.step (.enqueue time timer op) = some next) :
    next.Sound (TimerQueue.enrolled active timer) ∧
      ∀ other, other ∉ TimerQueue.enrolled active timer →
        state.Inherited active (next.queue.heapIndex other) := by
  have detached : timer ∉ active → state.queue.timers.prev timer = none := fun outside =>
    (sound.dormant timer outside).detached.2
  simp only [QueueRun.step] at stepped
  split at stepped
  · simp at stepped
  · next queue earliest enqueued =>
      obtain ⟨after, opQueueEq, untouched⟩ := sound.represents.enqueueTimer detached enqueued
      have expiryEq : (if state.queue.isActive timer then state.expiry
          else Function.update state.expiry timer (some time)) =
          TimerQueue.redated active state.expiry timer time := by
        simp only [TimerQueue.redated, sound.isActive_iff]
      simp only [Option.some.injEq, expiryEq] at stepped
      subst stepped
      have away : ∀ other, other ∉ TimerQueue.enrolled active timer →
          other ∉ timer :: active := by
        intro other outside
        rw [TimerQueue.mem_enrolled] at outside
        simpa using outside
      refine ⟨⟨after, ?_, ?_⟩, ?_⟩
      · intro other member
        rw [opQueueEq]
        by_cases same : other = timer
        · subst same
          simp
        · rw [Function.update_of_ne same]
          exact sound.busy other ((TimerQueue.mem_enrolled.mp member).resolve_left same)
      · intro other outside
        have absent := List.not_mem_of_not_mem_cons (away other outside)
        exact (untouched other (away other outside)).dormant (sound.dormant other absent)
      · intro other outside
        have absent := List.not_mem_of_not_mem_cons (away other outside)
        exact Inherited.of_untouched absent (untouched other (away other outside))

theorem Sound.cancel {timer : Id} {maxCancelled : Nat} (sound : state.Sound active)
    (stepped : state.step (.cancel timer maxCancelled) = some next) :
    ∃ left, left ⊆ active ∧ next.Sound left ∧
      ∀ other, other ∉ left → state.Inherited active (next.queue.heapIndex other) := by
  simp only [QueueRun.step, Option.some.injEq] at stepped
  subst stepped
  by_cases member : timer ∈ active
  · obtain ⟨after, opQueueEq, emptied, untouched, -⟩ :=
      sound.represents.cancelTimer_mem member maxCancelled
    have leaves : ∀ other, other ≠ timer → (other ∈ TimerQueue.disenrolled active timer
        ((state.queue.opQueue timer).drop maxCancelled) ↔ other ∈ active) := by
      intro other different
      unfold TimerQueue.disenrolled
      split
      · exact List.mem_erase_of_ne different
      · exact Iff.rfl
    have gone : timer ∉ TimerQueue.disenrolled active timer
        ((state.queue.opQueue timer).drop maxCancelled) →
        (state.queue.cancelTimer timer maxCancelled).1.Idle timer := by
      intro outside
      apply emptied
      by_contra left
      apply outside
      simp only [TimerQueue.disenrolled, List.isEmpty_iff, left, ↓reduceIte]
      exact member
    refine ⟨_, ?_, ⟨after, ?_, ?_⟩, ?_⟩
    · unfold TimerQueue.disenrolled
      split
      · exact List.erase_subset
      · exact List.Subset.refl _
    · intro other inside
      rw [opQueueEq]
      by_cases same : other = timer
      · subst same
        rw [Function.update_self]
        intro none
        simp only [TimerQueue.disenrolled, none, List.isEmpty_nil, ↓reduceIte] at inside
        exact (sound.represents.spells.nodup.mem_erase_iff.mp inside).1 rfl
      · rw [Function.update_of_ne same]
        exact sound.busy other ((leaves other same).mp inside)
    · intro other outside
      by_cases same : other = timer
      · subst same
        exact (gone outside).dormant
      · have absent : other ∉ active := fun inside => outside ((leaves other same).mpr inside)
        exact (untouched other absent).dormant (sound.dormant other absent)
    · intro other outside
      by_cases same : other = timer
      · subst same
        exact Or.inl (gone outside).noIndex
      · have absent : other ∉ active := fun inside => outside ((leaves other same).mpr inside)
        exact Inherited.of_untouched absent (untouched other absent)
  · rw [TimerQueue.cancelTimer_inactive (sound.inactive member)]
    exact ⟨active, List.Subset.refl _, sound, fun other outside => Or.inr ⟨other, outside, rfl⟩⟩

/-- A move is made to an inactive target; where the source is inactive too, its
`heap_index_` must be that of no heap entry. -/
theorem Sound.move {target source : Id} (sound : state.Sound active)
    (beyond : ∀ timer, timer ∉ active → state.queue.heap.size ≤ state.queue.heapIndex timer)
    (stepped : state.step (.move target source) = some next) :
    ∃ left, next.Sound left ∧
      ∀ other, other ∉ left → state.Inherited active (next.queue.heapIndex other) := by
  simp only [QueueRun.step, Bool.and_eq_true, Bool.not_eq_true', List.isEmpty_iff] at stepped
  split at stepped
  · next permitted =>
      obtain ⟨inactive, -⟩ := permitted
      have absent := sound.not_mem inactive
      simp only [Option.some.injEq] at stepped
      subst stepped
      by_cases member : source ∈ active
      · simp only [(sound.isActive_iff source).mpr member, ↓reduceIte]
        obtain ⟨before, after, rfl⟩ := List.append_of_mem member
        obtain ⟨moved, opQueueEq, sourceIdle, untouched⟩ := sound.represents.moveTimer_mem absent
        have sides := sound.represents.spells.not_mem_sides
        have gone : ∀ other, other ∉ before ++ target :: after → other ≠ source →
            other ∉ before ++ source :: after ∧ other ≠ target := by
          intro other outside different
          simp only [List.mem_append, List.mem_cons, not_or] at outside ⊢
          exact ⟨⟨outside.1, different, outside.2.2⟩, outside.2.1⟩
        refine ⟨before ++ target :: after, ⟨moved, ?_, ?_⟩, ?_⟩
        · intro other inside
          have notSource : other ≠ source := by
            intro same
            subst same
            simp only [List.mem_append, List.mem_cons] at inside absent
            tauto
          rw [opQueueEq, Function.update_of_ne notSource]
          by_cases same : other = target
          · subst same
            rw [Function.update_self]
            exact List.append_ne_nil_of_right_ne_nil _ (sound.busy source member)
          · rw [Function.update_of_ne same]
            apply sound.busy other
            simp only [List.mem_append, List.mem_cons] at inside ⊢
            tauto
        · intro other outside
          by_cases same : other = source
          · exact same ▸ sourceIdle.dormant
          · obtain ⟨away, notTarget⟩ := gone other outside same
            exact (untouched other away notTarget).dormant (sound.dormant other away)
        · intro other outside
          by_cases same : other = source
          · exact Or.inl (same ▸ sourceIdle.noIndex)
          · obtain ⟨away, notTarget⟩ := gone other outside same
            exact Inherited.of_untouched away (untouched other away notTarget)
      · have same := sound.represents.moveTimer_dormant member (sound.dormant source member)
          (sound.dormant target absent) (beyond source member)
        simp only [sound.inactive member, Bool.false_eq_true, ↓reduceIte, same]
        refine ⟨active, ⟨?_, sound.busy, fun other outside => ?_⟩, ?_⟩
        · refine TimerQueue.Represents.elsewhere sound.represents rfl rfl ?_ fun _ _ => rfl
          intro other inside
          have notTarget : other ≠ target := fun isTarget => absent (isTarget ▸ inside)
          have notSource : other ≠ source := fun isSource => member (isSource ▸ inside)
          exact ⟨rfl, (Function.update_of_ne notSource _ _).trans
            (Function.update_of_ne notTarget _ _), rfl, rfl⟩
        · obtain ⟨noOps, detached⟩ := sound.dormant other outside
          exact ⟨noOps, detached⟩
        · intro other outside
          change state.Inherited active (Function.update (Function.update state.queue.heapIndex target
            (state.queue.heapIndex source)) source sizeMax other)
          by_cases isSource : other = source
          · rw [isSource, Function.update_self]
            exact Or.inl rfl
          · rw [Function.update_of_ne isSource]
            by_cases isTarget : other = target
            · rw [isTarget, Function.update_self]
              exact Or.inr ⟨source, member, rfl⟩
            · rw [Function.update_of_ne isTarget]
              exact Or.inr ⟨other, outside, rfl⟩
  · simp at stepped

theorem Sound.ready {now : Time} (sound : state.Sound active)
    (stepped : state.step (.ready now) = some next) :
    ∃ left, left ⊆ active ∧ next.Sound left ∧
      ∀ other, other ∉ left → state.Inherited active (next.queue.heapIndex other) := by
  simp only [QueueRun.step, Option.some.injEq] at stepped
  subst stepped
  obtain ⟨ready, left, collected, -⟩ := sound.represents.getReadyTimers now []
  have nodup := List.nodup_append.mp
    (collected.perm.nodup_iff.mp sound.represents.spells.nodup)
  have absent : ∀ timer, timer ∉ left → timer ∉ ready → timer ∉ active := by
    intro timer outside notReady
    rw [collected.perm.mem_iff, List.mem_append]
    exact fun either => either.elim notReady outside
  refine ⟨left, ?_, ⟨collected.represents, ?_, ?_⟩, ?_⟩
  · intro timer member
    exact collected.perm.mem_iff.mpr (List.mem_append_right _ member)
  · intro timer member
    rw [collected.kept timer fun inReady => nodup.2.2 timer inReady timer member rfl]
    exact sound.busy timer (collected.perm.mem_iff.mpr (List.mem_append_right _ member))
  · intro timer outside
    by_cases inReady : timer ∈ ready
    · exact (collected.ready_idle timer inReady).dormant
    · have away := absent timer outside inReady
      exact (collected.untouched timer away).dormant (sound.dormant timer away)
  · intro timer outside
    by_cases inReady : timer ∈ ready
    · exact Or.inl (collected.ready_idle timer inReady).noIndex
    · have away := absent timer outside inReady
      exact Inherited.of_untouched away (collected.untouched timer away)

/-- **Step.** While no inactive timer has the index of a heap entry, every call
keeps what the queue represents, and an inactive timer comes by no new index. -/
theorem Sound.step {call : QueueCall Id Op Time} (sound : state.Sound active)
    (beyond : ∀ timer, timer ∉ active → state.queue.heap.size ≤ state.queue.heapIndex timer)
    (stepped : state.step call = some next) :
    ∃ left, next.Sound left ∧
      ∀ timer, timer ∉ left → state.Inherited active (next.queue.heapIndex timer) := by
  cases call with
  | enqueue => exact ⟨_, sound.enqueue stepped⟩
  | cancel =>
      obtain ⟨left, -, kept⟩ := sound.cancel stepped
      exact ⟨left, kept⟩
  | move => exact sound.move beyond stepped
  | ready =>
      obtain ⟨left, -, kept⟩ := sound.ready stepped
      exact ⟨left, kept⟩

theorem Valid.step {call : QueueCall Id Op Time} (valid : state.Valid)
    (stepped : state.step call = some next) : next.Valid := by
  obtain ⟨active, represents, busy, idle⟩ := valid
  have sound : state.Sound active :=
    ⟨represents, busy, fun timer outside => (idle timer outside).dormant⟩
  obtain ⟨left, after, inherited⟩ := sound.step (fun timer outside =>
    (idle timer outside).noIndex ▸ Nat.le_of_lt represents.size_lt) stepped
  refine ⟨left, after.represents, after.busy, fun timer outside => ?_⟩
  obtain ⟨noOps, detached⟩ := after.dormant timer outside
  refine ⟨noOps, ?_, detached⟩
  obtain index | ⟨other, absent, index⟩ := inherited timer outside
  · exact index
  · exact index.symm.trans (idle other absent).noIndex

theorem valid_of_reachable (reachable : machine.Reachable state) : state.Valid :=
  reachable.invariant (fun _ isStart => isStart ▸ valid_start)
    fun _ _ _ _ valid _ stepped => valid.step stepped

omit [DecidableEq Id] [DecidableEq Op] in
theorem Valid.wellFormed (valid : state.Valid) : state.WellFormed := by
  obtain ⟨active, represents, busy, idle⟩ := valid
  have mem_iff : ∀ timer, timer ∈ active ↔ state.queue.opQueue timer ≠ [] := fun timer =>
    ⟨busy timer, fun some => by_contra fun outside => some (idle timer outside).noOps⟩
  refine ⟨represents.minHeap, represents.indexed, ?_, ⟨active, represents.spells, mem_iff⟩, ?_, ?_,
    fun timer some => represents.dated timer ((mem_iff timer).mpr some)⟩
  · intro timer unqueued
    have index : state.queue.heapIndex timer = sizeMax := by
      by_cases member : timer ∈ active
      · exact represents.unindexed timer member unqueued
      · exact (idle timer member).noIndex
    exact index ▸ Nat.le_of_lt represents.size_lt
  · intro timer time some dated finite
    obtain ⟨inside, found⟩ := represents.entry_at_index time
      ((represents.mem_heap ⟨time, timer⟩).mpr ⟨(mem_iff timer).mpr some, dated, finite⟩)
    refine ⟨state.queue.heapIndex timer, ⟨inside, by rw [found], by rw [found]⟩, ?_⟩
    intro i ⟨iInside, timerEq, _⟩
    exact (timerEq ▸ represents.indexed i iInside).symm
  · intro timer time some dated infinite
    rw [TimerQueue.unqueued_iff]
    intro entry member same
    obtain ⟨-, entryDated, finite⟩ := (represents.mem_heap entry).mp member
    rw [same, dated, Option.some.injEq] at entryDated
    rw [← entryDated, infinite] at finite
    contradiction

/-- **Representation invariant.** After every sequence of calls from an empty
queue, the heap, the back-pointers and the links agree with the operations that
wait. -/
theorem wellFormed_of_run (calls : List (QueueCall Id Op Time))
    (ran : machine.run start calls = some state) : state.WellFormed :=
  (valid_of_reachable (Transition.Machine.Reachable.run (.initial rfl) calls ran)).wellFormed

end QueueRun

/-- Clock ticks, the last of which stands for positive infinity. -/
instance : TimeTraits Nat where
  toLinearOrder := inferInstance
  isPositiveInfinity time := time == 2 ^ 63 - 1

/-- A timer enqueued twice, one that expires before it, one that never does, a
move, a cancellation and a round. -/
def QueueRun.someCalls : List (QueueCall Nat Nat Nat) :=
  [.enqueue 5 0 ⟨10, .success⟩, .enqueue 3 1 ⟨11, .success⟩, .enqueue 5 0 ⟨12, .success⟩,
    .enqueue (2 ^ 63 - 1) 3 ⟨13, .success⟩, .move 2 0, .cancel 2 1, .ready 4]

theorem QueueRun.wellFormed_of_run_someCalls :
    ∃ state, machine.run start someCalls = some state ∧ state.WellFormed :=
  ⟨_, rfl, wellFormed_of_run someCalls rfl⟩

end Asio.Timer
