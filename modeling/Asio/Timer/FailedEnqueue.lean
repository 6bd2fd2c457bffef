import Asio.Timer.QueueRuns

/-! # Enqueues that throw

`enqueue_timer` writes the index of the entry it is going to push into
`heap_index_` before the `push_back` that may throw. The runs here go on after a
call that threw. The index it left behind is harmless while it is not that of an
entry, and it becomes that of one when another timer is pushed onto a heap of
the same size.
-/

namespace Asio.Timer

variable {Id Op Time : Type*}

/-- A call on a timer queue: `allocated` tells whether `heap_.push_back` gets its
memory, and `move` is the reactor's `move_timer`, which cancels the target
first. -/
inductive ThrowingCall (Id Op Time : Type*) where
  | enqueue (allocated : Bool) (time : Time) (timer : Id) (op : WaitOp Op)
  | cancel (timer : Id) (maxCancelled : Nat)
  | move (target source : Id)
  | ready (now : Time)

namespace TimerQueue

variable {queue : TimerQueue Id Op Time}

/-- What a call on some timers leaves of all others: the heap, their operations
and back-pointers and their order in the list of active timers, and the links
themselves when the call is on inactive timers only. -/
structure SparesOthers [DecidableEq Id] (queue next : TimerQueue Id Op Time)
    (touched : List Id) : Prop where
  heap_eq : next.heap = queue.heap
  others : ∀ other, other ∉ touched →
    next.opQueue other = queue.opQueue other ∧ next.heapIndex other = queue.heapIndex other
  linked : ∃ active left, queue.timers.Spells active ∧ next.timers.Spells left ∧
    left.filter (· ∉ touched) = active.filter (· ∉ touched)
  links : (∀ timer ∈ touched, queue.isActive timer = false) → next.timers = queue.timers

variable [DecidableEq Id] [TimeTraits Time] {active : List Id} {expiry : Id → Option Time}
  {timer : Id}

/-- An enqueue that throws has written the index of an entry that is not there. -/
theorem enqueueTimer_none [DecidableEq Op] {allocated : Bool} {time : Time} {op : WaitOp Op}
    {next : TimerQueue Id Op Time}
    (threw : queue.enqueueTimer allocated time timer op = (next, none)) :
    queue.isActive timer = false ∧ next = queue.setHeapIndex timer queue.heap.size ∧
      (pushBack allocated queue.heap ⟨time, timer⟩).isSome = false := by
  simp only [enqueueTimer, activate] at threw
  cases isActive : queue.isActive timer with
  | true => simp [isActive] at threw
  | false =>
      cases infinite : TimeTraits.isPositiveInfinity time with
      | true => simp [isActive, infinite] at threw
      | false =>
          simp only [isActive, infinite, Bool.false_eq_true, ↓reduceIte, setHeapIndex] at threw
          cases pushed : pushBack allocated queue.heap ⟨time, timer⟩ with
          | some heap => simp [pushed] at threw
          | none =>
              simp only [pushed, Prod.mk.injEq, and_true] at threw
              exact ⟨rfl, threw.symm, rfl⟩

omit [DecidableEq Id] [TimeTraits Time] in
theorem pushBack_eq {allocated : Bool} {heap pushed : Array (HeapEntry Id Time)}
    {entry : HeapEntry Id Time} (returned : pushBack allocated heap entry = some pushed) :
    pushBack true heap entry = some pushed := by
  cases allocated with
  | false => simp [pushBack] at returned
  | true => exact returned

/-- An enqueue that returned does what it does when memory is there. -/
theorem enqueueTimer_some [DecidableEq Op] {allocated earliest : Bool} {time : Time}
    {op : WaitOp Op} {next : TimerQueue Id Op Time}
    (returned : queue.enqueueTimer allocated time timer op = (next, some earliest)) :
    queue.enqueueTimer true time timer op = (next, some earliest) := by
  simp only [enqueueTimer, activate] at returned ⊢
  cases isActive : queue.isActive timer with
  | true => simpa only [isActive, ↓reduceIte] using returned
  | false =>
      cases infinite : TimeTraits.isPositiveInfinity time with
      | true => simpa only [isActive, infinite, Bool.false_eq_true, ↓reduceIte] using returned
      | false =>
          simp only [isActive, infinite, Bool.false_eq_true, ↓reduceIte] at returned ⊢
          cases pushed : pushBack allocated (queue.setHeapIndex timer queue.heap.size).heap
              ⟨time, timer⟩ with
          | none => simp [pushed] at returned
          | some heap =>
              rw [pushed] at returned
              rw [pushBack_eq pushed]
              exact returned

/-- The heap after an enqueue that returned: it grew exactly when the timer was
inactive and can expire. -/
theorem enqueueTimer_heap [DecidableEq Op] {allocated earliest : Bool} {time : Time}
    {op : WaitOp Op} {next : TimerQueue Id Op Time}
    (returned : queue.enqueueTimer allocated time timer op = (next, some earliest)) :
    next.heap = queue.heap ∧
        (queue.isActive timer = true ∨ TimeTraits.isPositiveInfinity time = true) ∨
      queue.isActive timer = false ∧ TimeTraits.isPositiveInfinity time = false ∧
        (pushBack allocated queue.heap ⟨time, timer⟩).isSome ∧
        next.heap = (queue.pushHeap time timer).heap ∧
        next.heapIndex = (queue.pushHeap time timer).heapIndex := by
  simp only [enqueueTimer] at returned
  split at returned
  · simp at returned
  · next middle activated =>
      simp only [Prod.mk.injEq] at returned
      obtain ⟨rfl, -⟩ := returned
      cases isActive : queue.isActive timer with
      | true =>
          simp only [activate, isActive, ↓reduceIte, Prod.mk.injEq, and_true] at activated
          exact Or.inl ⟨by rw [← activated]; rfl, Or.inl rfl⟩
      | false =>
          obtain ⟨infinite, rfl⟩ | ⟨finite, -, rfl⟩ := activate_inactive isActive activated
          · exact Or.inl ⟨rfl, Or.inr infinite⟩
          · refine Or.inr ⟨rfl, finite, ?_, rfl, rfl⟩
            by_contra threw
            rw [Option.not_isSome_iff_eq_none] at threw
            simp [activate, isActive, finite, setHeapIndex, threw] at activated

omit [DecidableEq Id] in
/-- A queue that holds fewer timers has a smaller heap. -/
theorem Represents.size_le {next : TimerQueue Id Op Time} {left : List Id}
    (represents : queue.Represents active expiry) (after : next.Represents left expiry)
    (fewer : left ⊆ active) : next.heap.size ≤ queue.heap.size := by
  have distinct : next.heap.toList.Nodup := by
    rw [List.nodup_iff_injective_getElem]
    intro i j same
    apply Fin.ext
    apply after.indexed.timer_injective (by simp) (by simp)
    exact congrArg HeapEntry.timer same
  apply distinct.length_le_of_subset
  intro entry member
  obtain ⟨inside, dated, finite⟩ := (after.mem_heap entry).mp (Array.mem_toList_iff.mp member)
  exact Array.mem_toList_iff.mpr ((represents.mem_heap entry).mpr ⟨fewer inside, dated, finite⟩)

omit [TimeTraits Time] in
theorem moveTimer_size (queue : TimerQueue Id Op Time) (target source : Id) :
    (queue.moveTimer target source).heap.size = queue.heap.size := by
  simp only [moveTimer, setOpQueue, setHeapIndex]
  split
  · exact Array.size_setIfInBounds
  · rfl

/-- A timer without the index of an entry is cancelled outside the heap. -/
theorem removeTimer_beyond (beyond : queue.heap.size ≤ queue.heapIndex timer) :
    queue.removeTimer timer = { queue with timers := queue.timers.unlink timer } := by
  simp only [removeTimer, removeFromHeap, not_lt.mpr beyond, ↓reduceIte]

/-- Cancelling a timer without the index of an entry spares every other timer. -/
theorem Represents.cancelTimer_spares (represents : queue.Represents active expiry)
    (detached : timer ∉ active → queue.timers.prev timer = none)
    (beyond : queue.heap.size ≤ queue.heapIndex timer) (maxCancelled : Nat) :
    queue.SparesOthers (queue.cancelTimer timer maxCancelled).1 [timer] := by
  have isActive_iff := represents.isActive_iff detached
  cases isActive : queue.isActive timer with
  | false =>
      rw [cancelTimer_inactive isActive]
      exact ⟨rfl, fun _ _ => ⟨rfl, rfl⟩, ⟨active, active, represents.spells, represents.spells, rfl⟩,
        fun _ => rfl⟩
  | true =>
      have never : ¬ ∀ other ∈ [timer], queue.isActive other = false := fun inactive =>
        Bool.false_ne_true ((inactive timer List.mem_cons_self).symm.trans isActive)
      rw [cancelTimer_active isActive]
      simp only
      split
      · have away : (queue.setOpQueue timer ((queue.opQueue timer).drop maxCancelled)).heap.size ≤
            queue.heapIndex timer := beyond
        rw [removeTimer_beyond away]
        obtain ⟨before, after, rfl⟩ := List.append_of_mem (isActive_iff.mp isActive)
        refine ⟨rfl, fun other outside => ⟨?_, rfl⟩,
          ⟨_, before ++ after, represents.spells, represents.spells.unlink, ?_⟩,
          fun inactive => absurd inactive never⟩
        · exact Function.update_of_ne (List.ne_of_not_mem_cons outside) _ _
        · simp
      · refine ⟨rfl, fun other outside => ⟨?_, rfl⟩,
          ⟨active, active, represents.spells, represents.spells, rfl⟩,
          fun inactive => absurd inactive never⟩
        exact Function.update_of_ne (List.ne_of_not_mem_cons outside) _ _

/-- Moving a timer without the index of an entry spares every other timer. -/
theorem Represents.moveTimer_spares {target source : Id}
    (represents : queue.Represents active expiry)
    (dormant : ∀ other, other ∉ active → queue.Dormant other) (absent : target ∉ active)
    (beyond : queue.heap.size ≤ queue.heapIndex source) :
    queue.SparesOthers (queue.moveTimer target source) [target, source] := by
  by_cases member : source ∈ active
  · obtain ⟨before, after, rfl⟩ := List.append_of_mem member
    have apart : target ≠ source := fun same => absent (same ▸ member)
    have isActive := (represents.isActive_iff fun outside => absurd member outside).mpr member
    rw [moveTimer_eq apart]
    refine ⟨?_, fun other outside => ?_, ⟨_, before ++ target :: after, represents.spells,
      represents.spells.replace absent, ?_⟩, fun inactive => ?_⟩
    · simp only [retarget, Array.getElem?_eq_none beyond]
    · simp only [List.mem_cons, List.not_mem_nil, or_false, not_or] at outside
      simp only [Function.update_of_ne outside.1, Function.update_of_ne outside.2, and_self]
    · simp
    · exact absurd isActive (Bool.not_eq_true _ ▸ inactive source (by simp))
  · rw [represents.moveTimer_dormant member (dormant source member) (dormant target absent) beyond]
    refine ⟨rfl, fun other outside => ⟨rfl, ?_⟩,
      ⟨active, active, represents.spells, represents.spells, rfl⟩, fun _ => rfl⟩
    simp only [List.mem_cons, List.not_mem_nil, or_false, not_or] at outside
    simp only [Function.update_of_ne outside.1, Function.update_of_ne outside.2]

end TimerQueue

namespace QueueRun

variable [DecidableEq Id] [DecidableEq Op] [TimeTraits Time]

/-- Make a call, which may throw. -/
def throwingStep (state : QueueRun Id Op Time) :
    ThrowingCall Id Op Time → Option (QueueRun Id Op Time)
  | .enqueue allocated time timer op =>
      match state.queue.enqueueTimer allocated time timer op with
      | (queue, none) => some { state with queue }
      | (queue, some _) => some
          { queue
            expiry := if state.queue.isActive timer then state.expiry
              else Function.update state.expiry timer (some time) }
  | .cancel timer maxCancelled => state.step (.cancel timer maxCancelled)
  | .move target source =>
      (state.step (.cancel target sizeMax)).bind fun state => state.step (.move target source)
  | .ready now => state.step (.ready now)

/-- The timer queue as a machine whose enqueues may throw. -/
def throwing : Transition.Machine (QueueRun Id Op Time) (ThrowingCall Id Op Time) where
  initial state := state = start
  step := throwingStep

omit [DecidableEq Id] [DecidableEq Op] [TimeTraits Time] in
/-- A timer without heap entry has no index of one. -/
def Unindexed (state : QueueRun Id Op Time) : Prop :=
  ∀ timer, state.queue.Unqueued timer → state.queue.heap.size ≤ state.queue.heapIndex timer

/-- A failed enqueue leaves an inactive timer without operations, and a timer
without heap entry is moved and cancelled at the expense of no other timer. -/
structure Harmless (state : QueueRun Id Op Time) : Prop where
  unindexed : state.Unindexed
  failed : ∀ allocated time timer op queue,
    state.queue.enqueueTimer allocated time timer op = (queue, none) →
    queue.isActive timer = false ∧ queue.opQueue timer = []
  cancelled : ∀ timer maxCancelled, state.queue.Unqueued timer →
    state.queue.SparesOthers (state.queue.cancelTimer timer maxCancelled).1 [timer]
  moved : ∀ target source, state.queue.isActive target = false → state.queue.Unqueued source →
    state.queue.SparesOthers (state.queue.moveTimer target source) [target, source]

/-- Where the heap grows, its size is the index of no other timer without entry. -/
def Attentive (state : QueueRun Id Op Time) : ThrowingCall Id Op Time → Prop
  | .enqueue allocated time timer _ =>
      state.queue.isActive timer = false → TimeTraits.isPositiveInfinity time = false →
      (TimerQueue.pushBack allocated state.queue.heap ⟨time, timer⟩).isSome →
      ∀ other, other ≠ timer → state.queue.Unqueued other →
        state.queue.heapIndex other ≠ state.queue.heap.size
  | .cancel .. => True
  | .move .. => True
  | .ready .. => True

variable {state next : QueueRun Id Op Time} {active left : List Id}

omit [DecidableEq Id] [DecidableEq Op] in
theorem Sound.beyond (sound : state.Sound active) (unindexed : state.Unindexed) (timer : Id)
    (outside : timer ∉ active) : state.queue.heap.size ≤ state.queue.heapIndex timer :=
  unindexed timer (sound.represents.unqueued_of_not_mem outside)

/-- What a queue represents makes the other parts of `Harmless` follow from the
first. -/
theorem Sound.harmless_iff_unindexed (sound : state.Sound active) : state.Harmless ↔ state.Unindexed := by
  refine ⟨Harmless.unindexed, fun unindexed => ⟨unindexed, ?_, ?_, ?_⟩⟩
  · intro allocated time timer op queue threw
    obtain ⟨inactive, rfl, -⟩ := TimerQueue.enqueueTimer_none threw
    exact ⟨inactive, (sound.dormant timer (sound.not_mem inactive)).noOps⟩
  · intro timer maxCancelled unqueued
    exact sound.represents.cancelTimer_spares
      (fun outside => (sound.dormant timer outside).detached.2) (unindexed timer unqueued)
      maxCancelled
  · intro target source inactive unqueued
    exact sound.represents.moveTimer_spares sound.dormant (sound.not_mem inactive)
      (unindexed source unqueued)

omit [DecidableEq Op] in
/-- No entry appears, and no inactive timer comes by a new index. -/
theorem Sound.unindexed_of_size_le (sound : state.Sound active) (after : next.Sound left)
    (inherited : ∀ timer, timer ∉ left → state.Inherited active (next.queue.heapIndex timer))
    (size_le : next.queue.heap.size ≤ state.queue.heap.size) (unindexed : state.Unindexed) :
    next.Unindexed := by
  intro timer unqueued
  by_cases member : timer ∈ left
  · rw [after.represents.unindexed timer member unqueued]
    exact Nat.le_of_lt after.represents.size_lt
  · obtain maximal | ⟨other, outside, same⟩ := inherited timer member
    · rw [maximal]
      exact Nat.le_of_lt after.represents.size_lt
    · rw [← same]
      exact Nat.le_trans size_le (sound.beyond unindexed other outside)

theorem Sound.cancel_unindexed {timer : Id} {maxCancelled : Nat} (sound : state.Sound active)
    (unindexed : state.Unindexed) (stepped : state.step (.cancel timer maxCancelled) = some next) :
    ∃ left, next.Sound left ∧ next.Unindexed := by
  obtain ⟨left, fewer, after, inherited⟩ := sound.cancel stepped
  refine ⟨left, after, sound.unindexed_of_size_le after inherited ?_ unindexed⟩
  simp only [QueueRun.step, Option.some.injEq] at stepped
  subst stepped
  exact sound.represents.size_le after.represents fewer

theorem Sound.ready_unindexed {now : Time} (sound : state.Sound active)
    (unindexed : state.Unindexed) (stepped : state.step (.ready now) = some next) :
    ∃ left, next.Sound left ∧ next.Unindexed := by
  obtain ⟨left, fewer, after, inherited⟩ := sound.ready stepped
  refine ⟨left, after, sound.unindexed_of_size_le after inherited ?_ unindexed⟩
  simp only [QueueRun.step, Option.some.injEq] at stepped
  subst stepped
  exact sound.represents.size_le after.represents fewer

theorem Sound.move_unindexed {target source : Id} (sound : state.Sound active)
    (unindexed : state.Unindexed) (stepped : state.step (.move target source) = some next) :
    ∃ left, next.Sound left ∧ next.Unindexed := by
  obtain ⟨left, after, inherited⟩ := sound.move (sound.beyond unindexed) stepped
  refine ⟨left, after, sound.unindexed_of_size_le after inherited ?_ unindexed⟩
  simp only [QueueRun.step] at stepped
  split at stepped
  · simp only [Option.some.injEq] at stepped
    subst stepped
    exact Nat.le_of_eq (state.queue.moveTimer_size target source)
  · simp at stepped

/-- An enqueue that throws writes an index that is that of no entry. -/
theorem Sound.enqueue_threw {allocated : Bool} {time : Time} {timer : Id} {op : WaitOp Op}
    {queue : TimerQueue Id Op Time} (sound : state.Sound active) (unindexed : state.Unindexed)
    (threw : state.queue.enqueueTimer allocated time timer op = (queue, none)) :
    ({ state with queue } : QueueRun Id Op Time).Sound active ∧
      ({ state with queue } : QueueRun Id Op Time).Unindexed := by
  obtain ⟨inactive, rfl, -⟩ := TimerQueue.enqueueTimer_none threw
  have absent := sound.not_mem inactive
  refine ⟨⟨?_, sound.busy, fun other outside => ?_⟩, fun other unqueued => ?_⟩
  · refine TimerQueue.Represents.elsewhere sound.represents rfl rfl ?_ fun _ _ => rfl
    intro other member
    have different : other ≠ timer := fun same => absent (same ▸ member)
    exact ⟨rfl, Function.update_of_ne different _ _, rfl, rfl⟩
  · obtain ⟨noOps, detached⟩ := sound.dormant other outside
    exact ⟨noOps, detached⟩
  · change state.queue.heap.size ≤ Function.update state.queue.heapIndex timer _ other
    by_cases same : other = timer
    · rw [same, Function.update_self]
    · rw [Function.update_of_ne same]
      exact unindexed other unqueued

/-- An enqueue that returns keeps every index outside the heap exactly when it is
attentive. -/
theorem Sound.enqueue_returned {time : Time} {timer : Id} {op : WaitOp Op}
    {allocated earliest : Bool}
    {queue : TimerQueue Id Op Time} (sound : state.Sound active) (unindexed : state.Unindexed)
    (returned : state.queue.enqueueTimer allocated time timer op = (queue, some earliest))
    (stepped : state.step (.enqueue time timer op) = some next) :
    next.Unindexed ↔ state.Attentive (.enqueue allocated time timer op) := by
  obtain ⟨after, inherited⟩ := sound.enqueue stepped
  have nextQueue : next.queue = queue := by
    simp only [QueueRun.step, TimerQueue.enqueueTimer_some returned, Option.some.injEq] at stepped
    rw [← stepped]
  rcases TimerQueue.enqueueTimer_heap returned with
    ⟨same, activeOrInfinite⟩ | ⟨inactive, finite, pushed, heapEq, indexEq⟩
  · constructor
    · intro _ inactive finite
      simp [inactive, finite] at activeOrInfinite
    · intro _
      apply sound.unindexed_of_size_le after inherited _ unindexed
      rw [nextQueue, same]
  · have absent := sound.not_mem inactive
    obtain ⟨rearranged, -, -⟩ := TimerQueue.pushHeap_spec sound.represents absent time
    have size : next.queue.heap.size = state.queue.heap.size + 1 := by
      rw [nextQueue, heapEq, rearranged.perm.size_eq, Array.size_push]
    have unqueued_iff : ∀ other, next.queue.Unqueued other ↔
        state.queue.Unqueued other ∧ other ≠ timer := by
      intro other
      simp only [TimerQueue.unqueued_iff, nextQueue, heapEq, rearranged.perm.mem_iff,
        Array.mem_push]
      constructor
      · exact fun away => ⟨fun entry member => away entry (Or.inl member),
          fun same => away _ (Or.inr rfl) same.symm⟩
      · rintro ⟨away, different⟩ entry (member | rfl)
        · exact away entry member
        · exact Ne.symm different
    have kept : ∀ other, state.queue.Unqueued other → other ≠ timer →
        next.queue.heapIndex other = state.queue.heapIndex other := by
      intro other away different
      rw [nextQueue, indexEq]
      exact TimerQueue.pushHeap_kept sound.represents absent time away different
    constructor
    · intro beyond _ _ _ other different away
      have := beyond other ((unqueued_iff other).mpr ⟨away, different⟩)
      rw [kept other away different, size] at this
      exact Nat.ne_of_gt this
    · intro attentive other unqueued
      obtain ⟨away, different⟩ := (unqueued_iff other).mp unqueued
      rw [kept other away different, size]
      exact Nat.lt_of_le_of_ne (unindexed other away)
        (Ne.symm (attentive inactive finite pushed other different away))

/-- A call from a state where no timer outside the heap has the index of an entry
leads to such a state exactly when it is attentive. -/
theorem Sound.throwingStep {call : ThrowingCall Id Op Time} (sound : state.Sound active)
    (unindexed : state.Unindexed) (stepped : state.throwingStep call = some next) :
    ∃ left, next.Sound left ∧ (next.Unindexed ↔ state.Attentive call) := by
  cases call with
  | enqueue allocated time timer op =>
      simp only [QueueRun.throwingStep] at stepped
      split at stepped
      · next queue threw =>
          simp only [Option.some.injEq] at stepped
          subst stepped
          obtain ⟨after, kept⟩ := sound.enqueue_threw unindexed threw
          refine ⟨active, after, iff_of_true kept fun _ _ pushed => ?_⟩
          rw [(TimerQueue.enqueueTimer_none threw).2.2] at pushed
          contradiction
      · next queue earliest returned =>
          have same : state.step (.enqueue time timer op) = some next := by
            simp only [QueueRun.step, TimerQueue.enqueueTimer_some returned]
            exact stepped
          exact ⟨_, (sound.enqueue same).1, sound.enqueue_returned unindexed returned same⟩
  | cancel timer maxCancelled =>
      obtain ⟨left, after, kept⟩ := sound.cancel_unindexed unindexed stepped
      exact ⟨left, after, iff_of_true kept trivial⟩
  | move target source =>
      simp only [QueueRun.throwingStep, Option.bind_eq_some_iff] at stepped
      obtain ⟨middle, cancelled, moved⟩ := stepped
      obtain ⟨rest, between, kept⟩ := sound.cancel_unindexed unindexed cancelled
      obtain ⟨left, after, still⟩ := between.move_unindexed kept moved
      exact ⟨left, after, iff_of_true still trivial⟩
  | ready now =>
      obtain ⟨left, after, kept⟩ := sound.ready_unindexed unindexed stepped
      exact ⟨left, after, iff_of_true kept trivial⟩

/-- The cancellation makes way for every move whose target holds at most as many
operations as a `size_t` counts. -/
theorem Sound.move_isSome {target source : Id} (sound : state.Sound active)
    (counted : (state.queue.opQueue target).length ≤ sizeMax) :
    (state.throwingStep (.move target source)).isSome := by
  obtain ⟨left, -, after, -⟩ := sound.cancel
    (show state.step (.cancel target sizeMax) = some _ from rfl)
  have noOps : (state.queue.cancelTimer target sizeMax).1.opQueue target = [] := by
    by_cases member : target ∈ active
    · obtain ⟨-, -, emptied, -⟩ := sound.represents.cancelTimer_mem member sizeMax
      exact (emptied (List.drop_eq_nil_of_le counted)).noOps
    · rw [TimerQueue.cancelTimer_inactive (sound.inactive member)]
      exact (sound.dormant target member).noOps
  have inactive := after.inactive fun member => after.busy target member noOps
  simp only [QueueRun.throwingStep, QueueRun.step, Option.bind_some, inactive, noOps, Bool.not_false,
    List.isEmpty_nil, Bool.and_self, ↓reduceIte, Option.isSome_some]

/-- **Failed enqueues.** Along a run in which enqueues throw, no failed enqueue
comes at the expense of another timer exactly when the heap never grows to the
index that a failed enqueue left behind. -/
theorem harmless_iff (calls : List (ThrowingCall Id Op Time))
    (ran : throwing.run start calls = some state) :
    throwing.Always Harmless start calls ↔ throwing.Permitted Attentive start calls := by
  have empty : (start : QueueRun Id Op Time).Sound [] :=
    ⟨TimerQueue.represents_empty _, fun _ member => absurd member List.not_mem_nil,
      fun _ _ => ⟨rfl, rfl, rfl⟩⟩
  have noEntry : (start : QueueRun Id Op Time).Unindexed := fun _ _ => Nat.zero_le _
  have kept : ∀ state call next, (∃ active, state.Sound active) → state.Harmless →
      throwing.step state call = some next →
      ∃ active, (next : QueueRun Id Op Time).Sound active := by
    rintro state call next ⟨active, sound⟩ harmless stepped
    obtain ⟨left, after, -⟩ := sound.throwingStep harmless.unindexed stepped
    exact ⟨left, after⟩
  refine Transition.Machine.always_iff_permitted kept ?_ calls ran ⟨[], empty⟩
    (empty.harmless_iff_unindexed.mpr noEntry)
  rintro state call next ⟨active, sound⟩ harmless stepped
  obtain ⟨left, after, exact⟩ := sound.throwingStep harmless.unindexed stepped
  rw [after.harmless_iff_unindexed, exact]

/-- An enqueue that throws and is made again, with another timer and a move. -/
def recovered : List (ThrowingCall Nat Nat Nat) :=
  [.enqueue true 5 1 ⟨11, .success⟩, .enqueue false 3 0 ⟨10, .success⟩,
    .enqueue true 3 0 ⟨10, .success⟩, .move 2 0, .cancel 1 1]

theorem harmless_iff_recovered : throwing.Always Harmless start recovered := by
  refine (harmless_iff recovered rfl).mpr ⟨?_, ?_, ?_, trivial, trivial, trivial⟩
  · intro _ _ _ other _ _
    show sizeMax ≠ 0
    decide
  · intro _ _ pushed
    contradiction
  · intro _ _ _ other different _
    rcases other with _ | _ | other
    · contradiction
    · show 0 ≠ 1
      decide
    · show sizeMax ≠ 1
      decide

/-- An enqueue of one timer throws, and one of another returns. -/
def overtaken : List (ThrowingCall Nat Nat Nat) :=
  [.enqueue false 3 0 ⟨10, .success⟩, .enqueue true 5 1 ⟨11, .success⟩]

/-- The timer whose enqueue threw has the index of the other one's entry, and a
move of the first takes the entry away from the second. -/
theorem not_harmless_overtaken :
    ∃ state : QueueRun Nat Nat Nat, throwing.run start overtaken = some state ∧
      ¬ state.Harmless ∧ state.queue.heap = #[⟨5, 1⟩] ∧
      (state.queue.moveTimer 2 0).heap = #[⟨5, 2⟩] := by
  obtain ⟨state, ran, heapEq, index, moved⟩ : ∃ state : QueueRun Nat Nat Nat,
      throwing.run start overtaken = some state ∧ state.queue.heap = #[⟨5, 1⟩] ∧
      state.queue.heapIndex 0 = 0 ∧ (state.queue.moveTimer 2 0).heap = #[⟨5, 2⟩] :=
    ⟨_, rfl, rfl, rfl, rfl⟩
  refine ⟨state, ran, fun harmless => ?_, heapEq, moved⟩
  have unqueued : state.queue.Unqueued 0 := by
    rw [TimerQueue.unqueued_iff, heapEq]
    simp
  have beyond := harmless.unindexed 0 unqueued
  rw [heapEq, index] at beyond
  exact Nat.not_succ_le_zero 0 beyond

end QueueRun

end Asio.Timer
