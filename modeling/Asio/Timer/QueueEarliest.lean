import Asio.Timer.QueueRuns

/-! # The earliest time of a timer queue

Only an enqueue that says so makes the earliest time of a queue earlier: a
cancellation leaves some entries out, and a move gives one to another timer.
-/

namespace Asio.Timer

variable {Id Op Time : Type*} [TimeTraits Time]

namespace TimerQueue

variable {queue next : TimerQueue Id Op Time} {timer : Id} {op : WaitOp Op}

theorem enqueueTimer_earliest [DecidableEq Id] [DecidableEq Op] {allocated earliest : Bool}
    {time : Time} (enqueued : queue.enqueueTimer allocated time timer op = (next, some earliest)) :
    earliest = (next.heapIndex timer == 0 &&
      (next.opQueue timer).head?.map WaitOp.op == some op.op) := by
  unfold enqueueTimer at enqueued
  split at enqueued
  · simp at enqueued
  · simp only [Prod.mk.injEq, Option.some.injEq] at enqueued
    obtain ⟨rfl, rfl⟩ := enqueued
    rfl

/-- When `enqueue_timer` says that the new timer is not the earliest, none is
earlier than all that were there before. -/
theorem Represents.enqueue_later [DecidableEq Id] [DecidableEq Op] {active : List Id}
    {expiry : Id → Option Time} {time : Time} (represents : queue.Represents active expiry)
    (idle : timer ∉ active → queue.Idle timer)
    (enqueued : queue.enqueueTimer true time timer op = (next, some false))
    {entry : HeapEntry Id Time} (member : entry ∈ next.heap) :
    ∃ old ∈ queue.heap, old.time ≤ entry.time := by
  obtain ⟨after, opQueueEq, -⟩ :=
    represents.enqueueTimer (fun absent => (idle absent).detached.2) enqueued
  obtain ⟨i, inside, rfl⟩ := Array.mem_iff_getElem.mp member
  have nonempty : 0 < next.heap.size := Nat.zero_lt_of_lt inside
  obtain ⟨enrolled, dated, finite⟩ := (after.mem_heap _).mp (Array.getElem_mem nonempty)
  refine ⟨next.heap[0], ?_, after.minHeap.root_le nonempty i inside⟩
  have old : next.heap[0].timer ∈ active := by
    by_contra absent
    have own : next.heap[0].timer = timer := (mem_enrolled.mp enrolled).resolve_right absent
    rw [own] at absent
    -- the new timer would be at the root, with this operation first
    have index := after.indexed 0 nonempty
    have earliest := enqueueTimer_earliest enqueued
    rw [own] at index
    rw [index, opQueueEq, Function.update_self, (idle absent).noOps] at earliest
    simp at earliest
  refine (represents.mem_heap _).mpr ⟨old, ?_, finite⟩
  rw [redated] at dated
  split at dated
  · exact dated
  · next absent =>
    have other : next.heap[0].timer ≠ timer := fun own => absent (own ▸ old)
    rwa [Function.update_of_ne other] at dated

omit [TimeTraits Time] in
/-- A move gives the entry of the source to the target, with its time. -/
theorem mem_moveTimer_heap [DecidableEq Id] {target source : Id} {entry : HeapEntry Id Time}
    (member : entry ∈ (queue.moveTimer target source).heap) :
    ∃ old ∈ queue.heap, old.time = entry.time := by
  simp only [moveTimer] at member
  split at member
  · next moved found =>
    rcases Array.mem_or_eq_of_mem_setIfInBounds member with kept | rfl
    · exact ⟨entry, kept, rfl⟩
    · exact ⟨moved, Array.mem_of_getElem? found, rfl⟩
  · exact ⟨entry, member, rfl⟩

end TimerQueue

namespace QueueRun

/-- No entry of the heap is earlier than all that were there before. -/
def NoEarlier (state next : QueueRun Id Op Time) : Prop :=
  ∀ entry ∈ next.queue.heap, ∃ old ∈ state.queue.heap, old.time ≤ entry.time

variable {state middle next : QueueRun Id Op Time}

theorem NoEarlier.trans (first : state.NoEarlier middle) (second : middle.NoEarlier next) :
    state.NoEarlier next := by
  intro entry member
  obtain ⟨between, inside, later⟩ := second entry member
  obtain ⟨old, stood, earlier⟩ := first between inside
  exact ⟨old, stood, earlier.trans later⟩

/-- An empty queue has no heap entry. -/
theorem Valid.heap_eq_empty (valid : state.Valid) (empty : state.queue.isEmpty = true) :
    state.queue.heap = #[] := by
  obtain ⟨active, represents, -, -⟩ := valid
  have none : active = [] := by
    rw [TimerQueue.isEmpty, Option.isNone_iff_eq_none, represents.spells.head_eq] at empty
    exact List.head?_eq_none_iff.mp empty
  rw [Array.eq_empty_iff_forall_not_mem]
  intro entry member
  have enrolled := ((represents.mem_heap entry).mp member).1
  rw [none] at enrolled
  exact absurd enrolled List.not_mem_nil

variable [DecidableEq Id] [DecidableEq Op]

theorem Valid.enqueue_noEarlier {time : Time} {timer : Id} {op : WaitOp Op} (valid : state.Valid)
    (stepped : state.step (.enqueue time timer op) = some next)
    (notEarliest : (state.queue.enqueueTimer true time timer op).2 = some false) :
    state.NoEarlier next := by
  obtain ⟨active, represents, -, idle⟩ := valid
  cases enqueued : state.queue.enqueueTimer true time timer op with
  | mk queue result =>
      rw [enqueued] at notEarliest
      dsimp only at notEarliest
      subst notEarliest
      simp only [QueueRun.step, enqueued, Option.some.injEq] at stepped
      subst stepped
      intro entry member
      exact represents.enqueue_later (idle timer) enqueued member

theorem Valid.cancel_noEarlier {timer : Id} {maxCancelled : Nat} (valid : state.Valid)
    (stepped : state.step (.cancel timer maxCancelled) = some next) : state.NoEarlier next := by
  obtain ⟨active, represents, busy, idle⟩ := valid
  have sound : state.Sound active :=
    ⟨represents, busy, fun timer outside => (idle timer outside).dormant⟩
  obtain ⟨left, fewer, after, -⟩ := sound.cancel stepped
  have same : next.expiry = state.expiry := by
    simp only [QueueRun.step, Option.some.injEq] at stepped
    rw [← stepped]
  intro entry member
  obtain ⟨stays, dated⟩ := (after.represents.mem_heap entry).mp member
  rw [same] at dated
  exact ⟨entry, (represents.mem_heap entry).mpr ⟨fewer stays, dated⟩, le_rfl⟩

theorem move_noEarlier {target source : Id}
    (stepped : state.step (.move target source) = some next) : state.NoEarlier next := by
  simp only [QueueRun.step] at stepped
  split at stepped
  · rw [Option.some.injEq] at stepped
    subst stepped
    intro entry member
    obtain ⟨old, stood, same⟩ := TimerQueue.mem_moveTimer_heap member
    exact ⟨old, stood, le_of_eq same⟩
  · contradiction

/-- **`enqueue_timer` says when the earliest time gets earlier.** -/
theorem Valid.earliest_of_earlier {time : Time} {timer : Id} {op : WaitOp Op} {earliest : Bool}
    (valid : state.Valid) (stepped : state.step (.enqueue time timer op) = some next)
    (returned : (state.queue.enqueueTimer true time timer op).2 = some earliest)
    {entry : HeapEntry Id Time} (member : entry ∈ next.queue.heap)
    (earlier : ∀ old ∈ state.queue.heap, entry.time < old.time) : earliest = true := by
  by_contra notEarliest
  rw [Bool.not_eq_true] at notEarliest
  subst notEarliest
  obtain ⟨old, stood, later⟩ := valid.enqueue_noEarlier stepped returned entry member
  exact absurd later (earlier old stood).not_ge

end QueueRun

end Asio.Timer
