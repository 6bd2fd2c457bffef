import Asio.Timer.QueueRuns

/-! # What `get_ready_timers` dispatches

In every state of a timer queue: the timers whose entry in the heap is not later
than the clock, the earliest first, and all the operations of each in their
order. Every other timer stays as it is.
-/

namespace Asio.Timer

variable {Id Op Time : Type*} [DecidableEq Id] [TimeTraits Time]

namespace TimerQueue

/-- What `get_ready_timers` makes of a queue, with the timers it dispatches. -/
structure Dispatches (queue : TimerQueue Id Op Time) (now : Time) (ops : List (WaitOp Op))
    (ready : List Id) (next : TimerQueue Id Op Time) (dispatched : List (WaitOp Op)) : Prop where
  appended : dispatched = ops ++ ready.flatMap queue.opQueue
  nodup : ready.Nodup
  due : ∀ timer, timer ∈ ready ↔ queue.isActive timer = true ∧
    ∃ entry ∈ queue.heap, entry.timer = timer ∧ entry.time ≤ now
  inOrder : ready.Pairwise fun first second => ∀ entry ∈ queue.heap, ∀ later ∈ queue.heap,
    entry.timer = first → later.timer = second → entry.time ≤ later.time
  removed : ∀ timer ∈ ready, next.isActive timer = false ∧ next.Unqueued timer ∧
    next.opQueue timer = []
  kept : ∀ timer, timer ∉ ready → next.isActive timer = queue.isActive timer ∧
    next.opQueue timer = queue.opQueue timer ∧
    ∀ entry, entry.timer = timer → (entry ∈ next.heap ↔ entry ∈ queue.heap)
  later : ∀ root ∈ next.heap[0]?, now < root.time
  terminates : ∀ passes, queue.heap.size ≤ passes →
    getReadyLoop now passes queue ops = (next, dispatched)

variable {queue : TimerQueue Id Op Time} {active : List Id} {expiry : Id → Option Time}

/-- As many passes as there are heap entries are enough. -/
theorem Represents.getReadyLoop_enough (represents : queue.Represents active expiry) (now : Time)
    (passes others : Nat) (enough : queue.heap.size ≤ passes) (enoughToo : queue.heap.size ≤ others)
    (ops : List (WaitOp Op)) : TimerQueue.getReadyLoop now passes queue ops =
      TimerQueue.getReadyLoop now others queue ops := by
  induction passes generalizing others queue active ops with
  | zero =>
      have none : queue.heap[0]? = none := Array.getElem?_eq_none (by omega)
      cases others with
      | zero => rfl
      | succ others => rw [TimerQueue.getReadyLoop, TimerQueue.getReadyLoop, none]
  | succ passes ih =>
      cases others with
      | zero =>
          have none : queue.heap[0]? = none := Array.getElem?_eq_none (by omega)
          rw [TimerQueue.getReadyLoop, TimerQueue.getReadyLoop, none]
      | succ others =>
          rw [TimerQueue.getReadyLoop, TimerQueue.getReadyLoop]
          cases found : queue.heap[0]? with
          | none => rfl
          | some root =>
              obtain ⟨collected, smaller⟩ := represents.collect_root found
              dsimp only
              rw [ih collected.represents others (by omega) (by omega)]

omit [DecidableEq Id] in
/-- A due timer is an active one with an entry that is not later than the clock. -/
theorem Represents.due_iff (represents : queue.Represents active expiry) {now : Time}
    {timer : Id} : (timer ∈ active ∧ Due expiry now timer) ↔
      timer ∈ active ∧ ∃ entry ∈ queue.heap, entry.timer = timer ∧ entry.time ≤ now := by
  constructor
  · rintro ⟨member, time, dated, finite, due⟩
    exact ⟨member, ⟨time, timer⟩, (represents.mem_heap _).mpr ⟨member, dated, finite⟩, rfl, due⟩
  · rintro ⟨member, entry, inHeap, rfl, due⟩
    obtain ⟨-, dated, finite⟩ := (represents.mem_heap entry).mp inHeap
    exact ⟨member, entry.time, dated, finite, due⟩

end TimerQueue

namespace QueueRun

variable [DecidableEq Op] {state : QueueRun Id Op Time}

omit [DecidableEq Op] in
theorem Valid.dispatches (valid : state.Valid) (now : Time) (ops : List (WaitOp Op)) :
    ∃ ready, state.queue.Dispatches now ops ready (state.queue.getReadyTimers now ops).1
      (state.queue.getReadyTimers now ops).2 := by
  obtain ⟨active, represents, -, idle⟩ := valid
  obtain ⟨ready, left, collected, appended, due, notDue, inOrder⟩ :=
    represents.getReadyTimers now ops
  have nodup := collected.perm.nodup_iff.mp represents.spells.nodup
  have apart := (List.nodup_append.mp nodup).2.2
  have active_iff : ∀ timer, state.queue.isActive timer = true ↔ timer ∈ active := fun timer =>
    represents.isActive_iff fun outside => (idle timer outside).detached.2
  have mem_active : ∀ timer, timer ∈ active ↔ timer ∈ ready ∨ timer ∈ left := fun timer => by
    rw [collected.perm.mem_iff, List.mem_append]
  have ready_iff : ∀ timer,
      timer ∈ ready ↔ timer ∈ active ∧ TimerQueue.Due state.expiry now timer := by
    intro timer
    rw [mem_active]
    constructor
    · exact fun member => ⟨.inl member, due timer member⟩
    · rintro ⟨inReady | inLeft, isDue⟩
      · exact inReady
      · exact absurd isDue (notDue timer inLeft)
  have left_iff : ∀ timer, (state.queue.getReadyTimers now ops).1.isActive timer = true ↔
      timer ∈ left := by
    intro timer
    refine collected.represents.isActive_iff fun outside => ?_
    by_cases inReady : timer ∈ ready
    · exact (collected.ready_idle timer inReady).detached.2
    · have absent : timer ∉ active := by
        rw [mem_active]
        exact not_or.mpr ⟨inReady, outside⟩
      exact ((collected.untouched timer absent).idle (idle timer absent)).detached.2
  have notLeft : ∀ timer ∈ ready, timer ∉ left := fun timer inReady inLeft =>
    apart timer inReady timer inLeft rfl
  refine ⟨ready, appended, (List.nodup_append.mp nodup).1, ?_, ?_, ?_, ?_, ?_,
    fun passes enough => represents.getReadyLoop_enough now passes _ enough (Nat.le_refl _) ops⟩
  · intro timer
    rw [active_iff, ready_iff]
    exact represents.due_iff
  · refine inOrder.imp fun {first second} ordered entry inHeap later laterIn own other => ?_
    obtain ⟨-, dated, -⟩ := (represents.mem_heap entry).mp inHeap
    obtain ⟨-, laterDated, -⟩ := (represents.mem_heap later).mp laterIn
    exact ordered _ (own ▸ dated) _ (other ▸ laterDated)
  · intro timer inReady
    refine ⟨?_, collected.represents.unqueued_of_not_mem (notLeft timer inReady),
      (collected.ready_idle timer inReady).noOps⟩
    rw [← Bool.not_eq_true, left_iff]
    exact notLeft timer inReady
  · intro timer outside
    refine ⟨?_, collected.kept timer outside, fun entry own => ?_⟩
    · rw [Bool.eq_iff_iff, left_iff, active_iff, mem_active, or_iff_right outside]
    · rw [collected.represents.mem_heap, represents.mem_heap, own, mem_active,
        or_iff_right outside]
  · intro root found
    obtain ⟨nonempty, rootEq⟩ := Array.getElem?_eq_some_iff.mp found
    obtain ⟨member, dated, finite⟩ := (collected.represents.mem_heap root).mp
      (rootEq ▸ Array.getElem_mem nonempty)
    exact not_le.mp fun isDue => notDue _ member ⟨root.time, dated, finite, isDue⟩

/-- **`get_ready_timers` dispatches exactly the due timers in time order**, after
every sequence of calls from an empty queue. -/
theorem dispatches_of_run (calls : List (QueueCall Id Op Time))
    (ran : machine.run start calls = some state) (now : Time) (ops : List (WaitOp Op)) :
    ∃ ready, state.queue.Dispatches now ops ready (state.queue.getReadyTimers now ops).1
      (state.queue.getReadyTimers now ops).2 :=
  (valid_of_reachable (Transition.Machine.Reachable.run (.initial rfl) calls ran)).dispatches now ops

theorem dispatches_of_run_someCalls :
    ∃ state, machine.run start (someCalls.dropLast) = some state ∧
      ∃ ready, state.queue.Dispatches 4 [] ready (state.queue.getReadyTimers 4 []).1
        (state.queue.getReadyTimers 4 []).2 :=
  ⟨_, rfl, dispatches_of_run someCalls.dropLast rfl 4 []⟩

end QueueRun

end Asio.Timer
