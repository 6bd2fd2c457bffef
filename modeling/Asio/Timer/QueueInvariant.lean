import Asio.Lib.MinHeap
import Asio.Lib.Transition
import Asio.Timer.Queue
import Mathlib.Tactic.Common

/-! # What the timer queue represents

`Represents` relates the pointers, the heap and the back-pointers of a timer
queue to what they stand for: the list of active timers and the time at which
each was enqueued. The sifts only rearrange the heap (`Rearranged`), and each
operation of the queue is a list edit on what is represented.
-/

namespace Asio.Timer.TimerQueue

variable {Id Op Time : Type*}

/-- `heap_[i].timer_->heap_index_ == i` for every heap entry. -/
def Indexed (queue : TimerQueue Id Op Time) : Prop :=
  ∀ i (_ : i < queue.heap.size), queue.heapIndex queue.heap[i].timer = i

/-- A timer has no heap entry. -/
def Unqueued (queue : TimerQueue Id Op Time) (timer : Id) : Prop :=
  ∀ i (_ : i < queue.heap.size), queue.heap[i].timer ≠ timer

/-- The heap of one queue is that of another with its entries reordered and the
back-pointers following them; nothing else differs. -/
structure Rearranged (queue next : TimerQueue Id Op Time) : Prop where
  opQueue_eq : next.opQueue = queue.opQueue
  timers_eq : next.timers = queue.timers
  perm : next.heap.Perm queue.heap
  indexed : queue.Indexed → next.Indexed
  outside : ∀ timer, queue.Unqueued timer → next.heapIndex timer = queue.heapIndex timer

theorem Rearranged.refl (queue : TimerQueue Id Op Time) : Rearranged queue queue :=
  ⟨rfl, rfl, .refl _, id, fun _ _ => rfl⟩

theorem unqueued_iff {queue : TimerQueue Id Op Time} {timer : Id} :
    queue.Unqueued timer ↔ ∀ entry ∈ queue.heap, entry.timer ≠ timer := by
  constructor
  · intro unqueued entry member
    obtain ⟨i, inside, rfl⟩ := Array.mem_iff_getElem.mp member
    exact unqueued i inside
  · intro unqueued i inside
    exact unqueued _ (Array.getElem_mem inside)

theorem Rearranged.unqueued_congr {queue next : TimerQueue Id Op Time}
    (rearranged : Rearranged queue next) {timer : Id} :
    next.Unqueued timer ↔ queue.Unqueued timer := by
  simp only [TimerQueue.unqueued_iff, rearranged.perm.mem_iff]

theorem Rearranged.trans {queue middle next : TimerQueue Id Op Time}
    (first : Rearranged queue middle) (second : Rearranged middle next) :
    Rearranged queue next where
  opQueue_eq := second.opQueue_eq.trans first.opQueue_eq
  timers_eq := second.timers_eq.trans first.timers_eq
  perm := second.perm.trans first.perm
  indexed indexed := second.indexed (first.indexed indexed)
  outside timer unqueued := by
    rw [second.outside timer (first.unqueued_congr.mpr unqueued), first.outside timer unqueued]

/-- Distinct heap entries belong to distinct timers. -/
theorem Indexed.timer_injective {queue : TimerQueue Id Op Time} (indexed : queue.Indexed)
    {i j : Nat} (iInside : i < queue.heap.size) (jInside : j < queue.heap.size)
    (same : queue.heap[i].timer = queue.heap[j].timer) : i = j := by
  rw [← indexed i iInside, same, indexed j jInside]

section Swap

variable [DecidableEq Id] {queue : TimerQueue Id Op Time} {i j : Nat}

theorem swapHeap_eq (iInside : i < queue.heap.size) (jInside : j < queue.heap.size) :
    queue.swapHeap i j = { queue with
      heap := queue.heap.swap i j
      heapIndex := Function.update (Function.update queue.heapIndex queue.heap[j].timer i)
        queue.heap[i].timer j } := by
  simp only [swapHeap, Array.swapIfInBounds, iInside, jInside, ↓reduceDIte, setHeapIndex,
    Array.size_swap, getElem?_pos, Array.getElem_swap_left, Array.getElem_swap_right]

theorem swapHeap_heap (iInside : i < queue.heap.size) (jInside : j < queue.heap.size) :
    (queue.swapHeap i j).heap = queue.heap.swap i j := by
  rw [swapHeap_eq iInside jInside]

/-- A swap keeps the back-pointers of the heap exact. -/
theorem swapHeap_rearranged (iInside : i < queue.heap.size) (jInside : j < queue.heap.size) :
    Rearranged queue (queue.swapHeap i j) := by
  rw [swapHeap_eq iInside jInside]
  refine ⟨rfl, rfl, Array.swap_perm _ _, ?_, ?_⟩
  · intro indexed k inside
    simp only [Array.size_swap] at inside
    have kInside : k < queue.heap.size := inside
    simp only [Array.getElem_swap, Function.update_apply]
    by_cases atI : k = i
    · subst atI
      by_cases same : queue.heap[j].timer = queue.heap[k].timer
      · simp [indexed.timer_injective jInside kInside same]
      · simp [same]
    · by_cases atJ : k = j
      · subst atJ
        simp [atI]
      · have notI : queue.heap[k].timer ≠ queue.heap[i].timer := fun same =>
          atI (indexed.timer_injective kInside iInside same)
        have notJ : queue.heap[k].timer ≠ queue.heap[j].timer := fun same =>
          atJ (indexed.timer_injective kInside jInside same)
        simp only [atI, atJ, ↓reduceIte, notI, notJ]
        exact indexed k kInside
  · intro timer unqueued
    simp only [Function.update_apply, Ne.symm (unqueued i iInside), Ne.symm (unqueued j jInside),
      ↓reduceIte]

end Swap

section Sift

variable [DecidableEq Id] [TimeTraits Time] {queue : TimerQueue Id Op Time} {index : Nat}

omit [DecidableEq Id] in
theorem heapLess_iff {i j : Nat} (iInside : i < queue.heap.size) (jInside : j < queue.heap.size) :
    queue.heapLess i j = true ↔ queue.heap[i].time < queue.heap[j].time := by
  simp only [heapLess, iInside, jInside, getElem?_pos, lessThan, decide_eq_true_eq]

theorem upHeapLoop_succ (fuel : Nat) : upHeapLoop (fuel + 1) queue index =
    if 0 < index then
      if !queue.heapLess index (MinHeap.parent index) then queue
      else upHeapLoop fuel (queue.swapHeap index (MinHeap.parent index)) (MinHeap.parent index)
    else queue := rfl

/-- `up_heap` rearranges the heap, and orders it when only the edge above the
index can be wrong. -/
theorem upHeapLoop_spec (fuel : Nat) (enough : index ≤ fuel) (inside : index < queue.heap.size) :
    Rearranged queue (upHeapLoop fuel queue index) ∧
      (MinHeap.UpOrder HeapEntry.time queue.heap index →
        MinHeap.IsMinHeap HeapEntry.time (upHeapLoop fuel queue index).heap) := by
  induction fuel generalizing queue index with
  | zero =>
      refine ⟨.refl _, fun order => order.isMinHeap fun _ _ positive => ?_⟩
      omega
  | succ fuel ih =>
      rw [upHeapLoop_succ]
      split
      · next positive =>
          have below := MinHeap.parent_lt positive
          have parentInside : MinHeap.parent index < queue.heap.size := by omega
          split
          · next stop =>
              refine ⟨.refl _, fun order => order.isMinHeap fun _ _ _ => ?_⟩
              rw [Bool.not_eq_true', Bool.eq_false_iff, ne_eq,
                heapLess_iff inside parentInside] at stop
              exact not_lt.mp stop
          · next before =>
              rw [Bool.not_eq_true', Bool.not_eq_false, heapLess_iff inside parentInside] at before
              have swapped := swapHeap_heap inside parentInside
              obtain ⟨rearranged, ordered⟩ := @ih (queue.swapHeap index _)
                (MinHeap.parent index) (by omega) (by rw [swapped]; simpa)
              refine ⟨(swapHeap_rearranged inside parentInside).trans rearranged, fun order => ?_⟩
              apply ordered
              rw [swapped]
              exact order.swap inside positive parentInside before
      · next root => exact ⟨.refl _, fun order => order.isMinHeap fun _ _ above => absurd above root⟩

omit [DecidableEq Id] in
/-- The child `down_heap` compares with: a child that is not after its sibling. -/
theorem minChild_spec (childInside : index * 2 + 1 < queue.heap.size) :
    let minChild := if index * 2 + 1 + 1 = queue.heap.size ||
        queue.heapLess (index * 2 + 1) (index * 2 + 1 + 1)
      then index * 2 + 1 else index * 2 + 1 + 1
    ∃ minInside : minChild < queue.heap.size, 0 < minChild ∧ MinHeap.parent minChild = index ∧
      ∀ c (_ : c < queue.heap.size), 0 < c → MinHeap.parent c = index →
        queue.heap[minChild].time ≤ queue.heap[c].time := by
  intro minChild
  by_cases alone : index * 2 + 1 + 1 = queue.heap.size
  · have chosen : minChild = index * 2 + 1 := by simp [minChild, alone]
    rw [chosen]
    refine ⟨childInside, by omega, by unfold MinHeap.parent; omega, fun c cInside positive child => ?_⟩
    rw [MinHeap.parent_eq_iff positive] at child
    have same : c = index * 2 + 1 := by omega
    subst same
    exact le_rfl
  · have siblingInside : index * 2 + 1 + 1 < queue.heap.size := by omega
    have children : ∀ c, 0 < c → MinHeap.parent c = index →
        c = index * 2 + 1 ∨ c = index * 2 + 1 + 1 := by
      intro c positive child
      rw [MinHeap.parent_eq_iff positive] at child
      omega
    by_cases less : queue.heapLess (index * 2 + 1) (index * 2 + 1 + 1) = true
    · have chosen : minChild = index * 2 + 1 := by simp [minChild, less]
      rw [heapLess_iff childInside siblingInside] at less
      rw [chosen]
      refine ⟨childInside, by omega, by unfold MinHeap.parent; omega,
        fun c cInside positive child => ?_⟩
      obtain rfl | rfl := children c positive child
      · exact le_rfl
      · exact less.le
    · have chosen : minChild = index * 2 + 1 + 1 := by simp [minChild, less, alone]
      rw [heapLess_iff childInside siblingInside, not_lt] at less
      rw [chosen]
      refine ⟨siblingInside, by omega, by unfold MinHeap.parent; omega,
        fun c cInside positive child => ?_⟩
      obtain rfl | rfl := children c positive child
      · exact less
      · exact le_rfl

/-- `down_heap` rearranges the heap, and orders it when only the edges below the
index can be wrong. -/
theorem downHeapLoop_spec (fuel : Nat) (enough : queue.heap.size ≤ fuel + index)
    (inside : index < queue.heap.size) :
    Rearranged queue (downHeapLoop fuel queue index) ∧
      (MinHeap.DownOrder HeapEntry.time queue.heap index →
        MinHeap.IsMinHeap HeapEntry.time (downHeapLoop fuel queue index).heap) := by
  induction fuel generalizing queue index with
  | zero => omega
  | succ fuel ih =>
      simp only [downHeapLoop]
      split
      · next childInside =>
          obtain ⟨minInside, positive, child, least⟩ := minChild_spec childInside
          generalize (if index * 2 + 1 + 1 = queue.heap.size ||
            queue.heapLess (index * 2 + 1) (index * 2 + 1 + 1)
            then index * 2 + 1 else index * 2 + 1 + 1) = minChild at *
          have below := MinHeap.parent_lt positive
          split
          · next stop =>
              rw [heapLess_iff inside minInside] at stop
              exact ⟨.refl _, fun order => order.isMinHeap fun c cInside _ cPositive isChild =>
                stop.le.trans (least c cInside cPositive isChild)⟩
          · next notBefore =>
              rw [heapLess_iff inside minInside, not_lt] at notBefore
              have swapped := swapHeap_heap inside minInside
              obtain ⟨rearranged, ordered⟩ := @ih (queue.swapHeap index minChild)
                minChild (by rw [swapped]; simp; omega) (by rw [swapped]; simpa)
              refine ⟨(swapHeap_rearranged inside minInside).trans rearranged, fun order => ?_⟩
              apply ordered
              rw [swapped]
              exact order.swap inside minInside positive child least notBefore
      · next noChild =>
          refine ⟨.refl _, fun order => order.isMinHeap fun c cInside _ cPositive isChild => ?_⟩
          rw [MinHeap.parent_eq_iff cPositive] at isChild
          omega

/-- What removing a timer does to the heap: its entry leaves, every other entry
stays, and the timer forgets its index. -/
structure EntryRemoved (queue next : TimerQueue Id Op Time) (timer : Id) : Prop where
  opQueue_eq : next.opQueue = queue.opQueue
  timers_eq : next.timers = queue.timers
  indexed : next.Indexed
  mem_iff : ∀ entry, entry ∈ next.heap ↔ entry ∈ queue.heap ∧ entry.timer ≠ timer
  size_le : next.heap.size ≤ queue.heap.size
  size_lt : ¬ queue.Unqueued timer → next.heap.size < queue.heap.size
  forgotten : next.heapIndex timer = sizeMax
  outside : ∀ other, queue.Unqueued other → other ≠ timer →
    next.heapIndex other = queue.heapIndex other

omit [TimeTraits Time] in
/-- Dropping the last entry of the heap removes the timer it belongs to. -/
theorem pop_removed {timer : Id} (indexed : queue.Indexed)
    (lastInside : queue.heap.size - 1 < queue.heap.size)
    (last : queue.heap[queue.heap.size - 1].timer = timer) :
    EntryRemoved queue { queue.setHeapIndex timer sizeMax with heap := queue.heap.pop } timer := by
  have away : ∀ i (inside : i < queue.heap.size - 1), queue.heap[i].timer ≠ timer := by
    intro i inside same
    have := indexed.timer_injective (by omega) lastInside (same.trans last.symm)
    omega
  refine ⟨rfl, rfl, ?_, ?_, ?_, ?_, ?_, ?_⟩
  · intro i inside
    have below : i < queue.heap.size - 1 := by simpa using inside
    simp only [setHeapIndex, Array.getElem_pop, Function.update_apply, if_neg (away i below)]
    exact indexed i (by omega)
  · intro entry
    simp only [Array.mem_iff_getElem, Array.size_pop, Array.getElem_pop]
    constructor
    · intro ⟨i, inside, found⟩
      exact ⟨⟨i, by omega, found⟩, found ▸ away i inside⟩
    · intro ⟨⟨i, inside, found⟩, different⟩
      refine ⟨i, ?_, found⟩
      by_contra outside
      have atLast : i = queue.heap.size - 1 := by omega
      subst atLast
      exact different (found ▸ last)
  · simp only [Array.size_pop, Nat.sub_le]
  · intro _
    simp only [Array.size_pop]
    omega
  · simp only [setHeapIndex, Function.update_self]
  · intro other _ different
    simp only [setHeapIndex, Function.update_of_ne different]

omit [DecidableEq Id] [TimeTraits Time] in
/-- Rearranging the heap after a removal is still that removal. -/
theorem EntryRemoved.rearranged {middle next : TimerQueue Id Op Time} {timer : Id}
    (removed : EntryRemoved queue middle timer) (rearranged : Rearranged middle next) :
    EntryRemoved queue next timer where
  opQueue_eq := rearranged.opQueue_eq.trans removed.opQueue_eq
  timers_eq := rearranged.timers_eq.trans removed.timers_eq
  indexed := rearranged.indexed removed.indexed
  mem_iff entry := rearranged.perm.mem_iff.trans (removed.mem_iff entry)
  size_le := rearranged.perm.size_eq ▸ removed.size_le
  size_lt queued := rearranged.perm.size_eq ▸ removed.size_lt queued
  forgotten := by
    rw [rearranged.outside timer, removed.forgotten]
    rw [TimerQueue.unqueued_iff]
    exact fun entry member => ((removed.mem_iff entry).mp member).2
  outside other unqueued different := by
    rw [rearranged.outside other, removed.outside other unqueued different]
    rw [TimerQueue.unqueued_iff] at unqueued ⊢
    exact fun entry member => unqueued entry ((removed.mem_iff entry).mp member).1

omit [DecidableEq Id] [TimeTraits Time] in
/-- A removal after rearranging the heap removes the same entry. -/
theorem Rearranged.removed {middle next : TimerQueue Id Op Time} {timer : Id}
    (rearranged : Rearranged queue middle) (removed : EntryRemoved middle next timer) :
    EntryRemoved queue next timer where
  opQueue_eq := removed.opQueue_eq.trans rearranged.opQueue_eq
  timers_eq := removed.timers_eq.trans rearranged.timers_eq
  indexed := removed.indexed
  mem_iff entry := by rw [removed.mem_iff, rearranged.perm.mem_iff]
  size_le := rearranged.perm.size_eq ▸ removed.size_le
  size_lt queued := rearranged.perm.size_eq ▸
    removed.size_lt fun unqueued => queued (rearranged.unqueued_congr.mp unqueued)
  forgotten := removed.forgotten
  outside other unqueued different := by
    rw [removed.outside other (rearranged.unqueued_congr.mpr unqueued) different,
      rearranged.outside other unqueued]

/-- The end of `remove_timer`'s heap half: after the last entry took the place at
an index, the sift the code chooses restores the heap. -/
theorem resift_spec {middle : TimerQueue Id Op Time} (lastInside : queue.heap.size - 1 < queue.heap.size)
    (inside : index < queue.heap.size) (notLast : index ≠ queue.heap.size - 1)
    (minHeap : MinHeap.IsMinHeap HeapEntry.time queue.heap)
    (heapEq : middle.heap = (queue.heap.swap index (queue.heap.size - 1)).pop) :
    let next := if 0 < index && middle.heapLess index ((index - 1) / 2) then middle.upHeap index
      else middle.downHeap index
    Rearranged middle next ∧ MinHeap.IsMinHeap HeapEntry.time next.heap := by
  intro next
  obtain ⟨except, grand⟩ := minHeap.replace index inside lastInside
  rw [← heapEq] at except grand
  have middleInside : index < middle.heap.size := by
    simp only [heapEq, Array.size_pop, Array.size_swap]
    omega
  by_cases up : (0 < index && middle.heapLess index ((index - 1) / 2)) = true
  · have chosen : next = middle.upHeap index := if_pos up
    rw [chosen]
    simp only [Bool.and_eq_true, decide_eq_true_eq] at up
    have below := MinHeap.parent_lt up.1
    have before := (heapLess_iff middleInside (by omega)).mp up.2
    obtain ⟨rearranged, ordered⟩ := upHeapLoop_spec index (Nat.le_refl _) middleInside
    refine ⟨rearranged, ordered ⟨fun c cInside positive parentInside different => ?_, grand⟩⟩
    by_cases child : MinHeap.parent c = index
    · -- The entry at the index is before its parent, which is not after the child.
      have upper := grand c cInside positive (by omega) child up.1
      simp only [child]
      exact before.le.trans upper
    · exact except c cInside positive parentInside different child
  · have chosen : next = middle.downHeap index := if_neg up
    rw [chosen]
    obtain ⟨rearranged, ordered⟩ := downHeapLoop_spec middle.heap.size (by omega) middleInside
    refine ⟨rearranged, ordered ⟨fun c cInside positive parentInside notChild => ?_, grand⟩⟩
    by_cases same : c = index
    · subst same
      simp only [positive, decide_true, Bool.true_and] at up
      exact not_lt.mp fun before => up ((heapLess_iff middleInside parentInside).mpr before)
    · exact except c cInside positive parentInside same notChild

/-- Removing a timer with a heap entry removes that entry and keeps a min-heap. -/
theorem removeFromHeap_removed {timer : Id} (indexed : queue.Indexed)
    (minHeap : MinHeap.IsMinHeap HeapEntry.time queue.heap)
    (inside : queue.heapIndex timer < queue.heap.size)
    (entry : queue.heap[queue.heapIndex timer].timer = timer) :
    EntryRemoved queue (queue.removeFromHeap timer) timer ∧
      MinHeap.IsMinHeap HeapEntry.time (queue.removeFromHeap timer).heap := by
  have lastInside : queue.heap.size - 1 < queue.heap.size := by omega
  simp only [removeFromHeap, inside, ↓reduceIte]
  split
  · next atLast =>
      refine ⟨pop_removed indexed lastInside ?_, minHeap.pop⟩
      simpa only [atLast] using entry
  · next notLast =>
      have swapped := swapHeap_heap inside lastInside
      have rearranged := swapHeap_rearranged inside lastInside
      have size : (queue.swapHeap (queue.heapIndex timer) (queue.heap.size - 1)).heap.size =
          queue.heap.size := by rw [swapped, Array.size_swap]
      have removed := rearranged.removed (pop_removed (rearranged.indexed indexed)
        (by rw [size]; exact lastInside) (by simpa only [swapped, Array.size_swap,
          Array.getElem_swap_right] using entry))
      have heapEq : ({ (queue.swapHeap (queue.heapIndex timer)
            (queue.heap.size - 1)).setHeapIndex timer sizeMax with
          heap := (queue.swapHeap (queue.heapIndex timer) (queue.heap.size - 1)).heap.pop } :
            TimerQueue Id Op Time).heap =
          (queue.heap.swap (queue.heapIndex timer) (queue.heap.size - 1)).pop :=
        congrArg Array.pop swapped
      obtain ⟨resifted, ordered⟩ := resift_spec lastInside inside notLast minHeap heapEq
      exact ⟨removed.rearranged resifted, ordered⟩

end Sift

/-- What a timer queue represents: `active` lists the active timers in the order
of `timers_`, and `expiry` is the time each was enqueued with. Exactly the
active timers that can expire have a heap entry, with that time. -/
structure Represents [TimeTraits Time] (queue : TimerQueue Id Op Time) (active : List Id)
    (expiry : Id → Option Time) : Prop where
  spells : queue.timers.Spells active
  dated : ∀ timer ∈ active, (expiry timer).isSome
  minHeap : MinHeap.IsMinHeap HeapEntry.time queue.heap
  indexed : queue.Indexed
  bounded : queue.heap.size ≤ vectorMaxSize
  mem_heap : ∀ entry, entry ∈ queue.heap ↔ entry.timer ∈ active ∧
    expiry entry.timer = some entry.time ∧ TimeTraits.isPositiveInfinity entry.time = false
  unindexed : ∀ timer ∈ active, queue.Unqueued timer → queue.heapIndex timer = sizeMax

/-- A timer that belongs to no queue: default-constructed, or left by every
operation that made it inactive. -/
structure Idle (queue : TimerQueue Id Op Time) (timer : Id) : Prop where
  noOps : queue.opQueue timer = []
  noIndex : queue.heapIndex timer = sizeMax
  detached : queue.timers.Detached timer

/-- A timer that no queue holds has neither operations nor links, whatever its
`heap_index_`. -/
structure Dormant (queue : TimerQueue Id Op Time) (timer : Id) : Prop where
  noOps : queue.opQueue timer = []
  detached : queue.timers.Detached timer

theorem Idle.dormant {queue : TimerQueue Id Op Time} {timer : Id} (idle : queue.Idle timer) :
    queue.Dormant timer :=
  ⟨idle.noOps, idle.detached⟩

/-- An operation left the `per_timer_data` of a timer alone. -/
structure Untouched (queue next : TimerQueue Id Op Time) (timer : Id) : Prop where
  opQueue_eq : next.opQueue timer = queue.opQueue timer
  heapIndex_eq : next.heapIndex timer = queue.heapIndex timer
  next_eq : next.timers.next timer = queue.timers.next timer
  prev_eq : next.timers.prev timer = queue.timers.prev timer

theorem Untouched.idle {queue next : TimerQueue Id Op Time} {timer : Id}
    (untouched : Untouched queue next timer) (idle : queue.Idle timer) : next.Idle timer where
  noOps := untouched.opQueue_eq.trans idle.noOps
  noIndex := untouched.heapIndex_eq.trans idle.noIndex
  detached := ⟨untouched.next_eq.trans idle.detached.1, untouched.prev_eq.trans idle.detached.2⟩

theorem Untouched.dormant {queue next : TimerQueue Id Op Time} {timer : Id}
    (untouched : Untouched queue next timer) (dormant : queue.Dormant timer) :
    next.Dormant timer where
  noOps := untouched.opQueue_eq.trans dormant.noOps
  detached := ⟨untouched.next_eq.trans dormant.detached.1,
    untouched.prev_eq.trans dormant.detached.2⟩

/-- What a queue represents depends on the memory of its active timers only. -/
theorem Represents.elsewhere [TimeTraits Time] {queue next : TimerQueue Id Op Time}
    {active : List Id} {dates dates' : Id → Option Time} (represents : queue.Represents active dates)
    (head : next.timers.head = queue.timers.head) (heap : next.heap = queue.heap)
    (untouched : ∀ timer ∈ active, Untouched queue next timer)
    (dated : ∀ timer ∈ active, dates' timer = dates timer) : next.Represents active dates' where
  spells := represents.spells.congr head (fun timer member => (untouched timer member).next_eq)
    fun timer member => (untouched timer member).prev_eq
  dated timer member := by
    rw [dated timer member]
    exact represents.dated timer member
  minHeap := heap ▸ represents.minHeap
  indexed := by
    intro i inside
    have before : i < queue.heap.size := heap ▸ inside
    have member := ((represents.mem_heap _).mp (Array.getElem_mem before)).1
    simp only [heap]
    rw [(untouched _ member).heapIndex_eq]
    exact represents.indexed i before
  bounded := heap ▸ represents.bounded
  mem_heap entry := by
    rw [heap, represents.mem_heap]
    apply and_congr_right
    intro member
    rw [dated _ member]
  unindexed timer member unqueued := by
    rw [(untouched timer member).heapIndex_eq]
    apply represents.unindexed timer member
    rw [unqueued_iff] at unqueued ⊢
    rwa [heap] at unqueued

section Operations

variable [TimeTraits Time] {queue : TimerQueue Id Op Time} {active : List Id}
  {expiry : Id → Option Time} {timer : Id}

theorem represents_empty (expiry : Id → Option Time) :
    (empty : TimerQueue Id Op Time).Represents [] expiry where
  spells := IntrusiveList.spells_nil _ _
  dated _ member := absurd member List.not_mem_nil
  minHeap := MinHeap.isMinHeap_empty
  indexed i inside := absurd inside (Nat.not_lt_zero i)
  bounded := Nat.zero_le _
  mem_heap entry := by simp [empty]
  unindexed _ member := absurd member List.not_mem_nil

/-- A timer outside the active list has no heap entry. -/
theorem Represents.unqueued_of_not_mem (represents : queue.Represents active expiry)
    (outside : timer ∉ active) : queue.Unqueued timer := by
  rw [unqueued_iff]
  intro entry member same
  exact outside (same ▸ ((represents.mem_heap entry).mp member).1)

/-- The heap index of an active timer is that of its entry. -/
theorem Represents.entry_at_index (represents : queue.Represents active expiry) (time : Time)
    (member : ⟨time, timer⟩ ∈ queue.heap) :
    ∃ inside : queue.heapIndex timer < queue.heap.size,
      queue.heap[queue.heapIndex timer] = ⟨time, timer⟩ := by
  obtain ⟨i, inside, found⟩ := Array.mem_iff_getElem.mp member
  have index := represents.indexed i inside
  rw [found] at index
  subst index
  exact ⟨inside, found⟩

/-- `size_t` is wide enough for every index of a vector. -/
theorem Represents.size_lt (represents : queue.Represents active expiry) :
    queue.heap.size < sizeMax := by
  have := represents.bounded
  unfold vectorMaxSize at this
  unfold sizeMax
  omega

variable [DecidableEq Id]

theorem Represents.isActive_iff (represents : queue.Represents active expiry)
    (detached : timer ∉ active → queue.timers.prev timer = none) :
    queue.isActive timer = true ↔ timer ∈ active := by
  rw [← represents.spells.mem_iff detached]
  simp [isActive, Option.isSome_iff_ne_none]

/-- Removing an active timer from the heap, whether or not it has an entry. -/
theorem Represents.entryRemoved (represents : queue.Represents active expiry)
    (member : timer ∈ active) :
    EntryRemoved queue (queue.removeFromHeap timer) timer ∧
      MinHeap.IsMinHeap HeapEntry.time (queue.removeFromHeap timer).heap := by
  obtain ⟨time, dated⟩ := Option.isSome_iff_exists.mp (represents.dated timer member)
  cases infinite : TimeTraits.isPositiveInfinity time with
  | false =>
      obtain ⟨inside, found⟩ := represents.entry_at_index time
        ((represents.mem_heap ⟨time, timer⟩).mpr ⟨member, dated, infinite⟩)
      exact removeFromHeap_removed represents.indexed represents.minHeap inside (by rw [found])
  | true =>
      have unqueued : queue.Unqueued timer := by
        rw [unqueued_iff]
        intro entry entryMember same
        obtain ⟨-, entryDated, finite⟩ := (represents.mem_heap entry).mp entryMember
        rw [same, dated, Option.some.injEq] at entryDated
        rw [← entryDated, infinite] at finite
        contradiction
      have index := represents.unindexed timer member unqueued
      have outside : ¬ queue.heapIndex timer < queue.heap.size := by
        have := represents.size_lt
        omega
      simp only [removeFromHeap, outside, ↓reduceIte]
      refine ⟨⟨rfl, rfl, represents.indexed, fun entry => ?_, Nat.le_refl _,
        fun queued => absurd unqueued queued, index, fun _ _ _ => rfl⟩, represents.minHeap⟩
      exact ⟨fun inHeap => ⟨inHeap, unqueued_iff.mp unqueued entry inHeap⟩, And.left⟩

/-- **`remove_timer`.** The timer leaves the active list and the heap; its
`per_timer_data` becomes as constructed but for its operations, and the timers
outside the list are untouched. -/
theorem Represents.removeTimer {before after : List Id}
    (represents : queue.Represents (before ++ timer :: after) expiry) :
    (queue.removeTimer timer).Represents (before ++ after) expiry ∧
      (queue.removeTimer timer).opQueue = queue.opQueue ∧
      (queue.removeTimer timer).heapIndex timer = sizeMax ∧
      (queue.removeTimer timer).timers.Detached timer ∧
      ∀ other, other ∉ before ++ timer :: after →
        Untouched queue (queue.removeTimer timer) other := by
  obtain ⟨removed, minHeap⟩ := represents.entryRemoved
    (List.mem_append_right before (List.mem_cons_self (a := timer)))
  have apart := represents.spells.neighbours_ne.1
  have sides := represents.spells.not_mem_sides
  have membership : ∀ other, other ∈ before ++ after ↔
      other ∈ before ++ timer :: after ∧ other ≠ timer := by
    intro other
    simp only [List.mem_append, List.mem_cons]
    constructor
    · intro inside
      refine ⟨by tauto, fun same => ?_⟩
      subst same
      exact inside.elim sides.1 sides.2
    · intro ⟨inside, different⟩
      tauto
  have timersEq : (queue.removeTimer timer).timers = queue.timers.unlink timer := by
    simp only [TimerQueue.removeTimer, removed.timers_eq]
  refine ⟨⟨?_, ?_, minHeap, removed.indexed, ?_, ?_, ?_⟩, removed.opQueue_eq, removed.forgotten,
    ?_, ?_⟩
  · rw [timersEq]
    exact represents.spells.unlink
  · intro other inside
    exact represents.dated other ((membership other).mp inside).1
  · exact Nat.le_trans removed.size_le represents.bounded
  · intro entry
    rw [membership]
    change entry ∈ (queue.removeFromHeap timer).heap ↔ _
    rw [removed.mem_iff, represents.mem_heap]
    tauto
  · intro other inside unqueued
    obtain ⟨member, different⟩ := (membership other).mp inside
    have before : queue.Unqueued other := by
      rw [unqueued_iff] at unqueued ⊢
      intro entry entryMember same
      exact unqueued entry ((removed.mem_iff entry).mpr ⟨entryMember, same ▸ different⟩) same
    change (queue.removeFromHeap timer).heapIndex other = _
    rw [removed.outside other before different, represents.unindexed other member before]
  · rw [timersEq]
    exact IntrusiveList.unlink_detached apart
  · intro other outside
    have different : other ≠ timer := fun same => outside (by simp [same])
    obtain ⟨nextEq, prevEq⟩ := represents.spells.unlink_other outside
    refine ⟨congrFun removed.opQueue_eq other, ?_, ?_, ?_⟩
    · exact removed.outside other (represents.unqueued_of_not_mem outside) different
    · rw [timersEq, nextEq]
    · rw [timersEq, prevEq]

end Operations

end Asio.Timer.TimerQueue
