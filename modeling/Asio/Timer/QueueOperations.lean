import Asio.Timer.QueueInvariant

/-! # The operations of the timer queue

Each operation of the queue is a list edit on what the queue represents:
`enqueue_timer` adds an inactive timer in front, `cancel_timer` and
`get_ready_timers` remove timers, and `move_timer` renames one.
-/

namespace Asio.Timer.TimerQueue

variable {Id Op Time : Type*} [DecidableEq Id] [TimeTraits Time] {queue : TimerQueue Id Op Time}
  {active : List Id} {expiry : Id → Option Time} {timer : Id}

section Enqueue

/-- `heap_.push_back` followed by `up_heap` on the new entry. -/
def pushHeap (queue : TimerQueue Id Op Time) (time : Time) (timer : Id) : TimerQueue Id Op Time :=
  let queue := { queue.setHeapIndex timer queue.heap.size with
    heap := queue.heap.push ⟨time, timer⟩ }
  queue.upHeap (queue.heap.size - 1)

theorem pushHeap_spec (represents : queue.Represents active expiry) (absent : timer ∉ active)
    (time : Time) :
    Rearranged { queue.setHeapIndex timer queue.heap.size with
        heap := queue.heap.push ⟨time, timer⟩ } (queue.pushHeap time timer) ∧
      MinHeap.IsMinHeap HeapEntry.time (queue.pushHeap time timer).heap ∧
      (queue.pushHeap time timer).Indexed := by
  have unqueued := represents.unqueued_of_not_mem absent
  have order := represents.minHeap.push ⟨time, timer⟩
  have inside : queue.heap.size < ({ queue.setHeapIndex timer queue.heap.size with
      heap := queue.heap.push ⟨time, timer⟩ } : TimerQueue Id Op Time).heap.size := by simp
  obtain ⟨rearranged, ordered⟩ := upHeapLoop_spec queue.heap.size (Nat.le_refl _) inside
  have unfolded : queue.pushHeap time timer = upHeapLoop queue.heap.size
      { queue.setHeapIndex timer queue.heap.size with heap := queue.heap.push ⟨time, timer⟩ }
      queue.heap.size := by
    simp only [pushHeap, upHeap, Array.size_push, Nat.add_sub_cancel]
  rw [unfolded]
  refine ⟨rearranged, ordered order, rearranged.indexed ?_⟩
  intro i inside
  simp only [Array.size_push] at inside
  simp only [setHeapIndex, Array.getElem_push, Function.update_apply]
  by_cases old : i < queue.heap.size
  · simp only [old, ↓reduceDIte, if_neg (unqueued i old)]
    exact represents.indexed i old
  · simp only [old, ↓reduceDIte, ↓reduceIte]
    omega

/-- What `activate` does for an inactive timer. -/
theorem activate_inactive {allowed : Bool} {time : Time} {next : TimerQueue Id Op Time}
    (inactive : queue.isActive timer = false)
    (activated : queue.activate allowed time timer = (next, true)) :
    (TimeTraits.isPositiveInfinity time = true ∧
      next = { queue.setHeapIndex timer sizeMax with timers := queue.timers.pushFront timer }) ∨
    (TimeTraits.isPositiveInfinity time = false ∧ queue.heap.size < vectorMaxSize ∧
      next = { queue.pushHeap time timer with
        timers := (queue.pushHeap time timer).timers.pushFront timer }) := by
  simp only [activate, inactive, Bool.false_eq_true, ↓reduceIte, pushBack, setHeapIndex] at activated
  cases infinite : TimeTraits.isPositiveInfinity time with
  | true =>
      simp only [infinite, ↓reduceIte, Prod.mk.injEq, and_true] at activated
      exact Or.inl ⟨rfl, activated.symm⟩
  | false =>
      simp only [infinite, Bool.false_eq_true, ↓reduceIte] at activated
      by_cases room : queue.heap.size < vectorMaxSize
      · cases allowed with
        | false => simp at activated
        | true =>
            simp only [room, decide_true, Bool.and_self, ↓reduceIte, Prod.mk.injEq,
              and_true] at activated
            exact Or.inr ⟨rfl, room, activated.symm⟩
      · simp [room] at activated

/-- A timer that never comes joins the active list without a heap entry. -/
theorem Represents.activate_infinite {time : Time} (represents : queue.Represents active expiry)
    (absent : timer ∉ active) (infinite : TimeTraits.isPositiveInfinity time = true) :
    ({ queue.setHeapIndex timer sizeMax with timers := queue.timers.pushFront timer } :
      TimerQueue Id Op Time).Represents (timer :: active)
        (Function.update expiry timer (some time)) := by
  have unqueued := represents.unqueued_of_not_mem absent
  have others : ∀ other ∈ active, other ≠ timer := fun other member same =>
    absent (same ▸ member)
  refine ⟨represents.spells.pushFront absent, ?_, represents.minHeap, ?_, represents.bounded, ?_, ?_⟩
  · intro other member
    rcases List.mem_cons.mp member with rfl | member
    · simp only [Function.update_self, Option.isSome_some]
    · rw [Function.update_of_ne (others other member)]
      exact represents.dated other member
  · intro i inside
    change Function.update queue.heapIndex timer sizeMax queue.heap[i].timer = i
    rw [Function.update_of_ne (unqueued i inside)]
    exact represents.indexed i inside
  · intro entry
    change entry ∈ queue.heap ↔ _
    rw [represents.mem_heap, List.mem_cons]
    by_cases same : entry.timer = timer
    · simp only [same, absent, Function.update_self, Option.some.injEq, false_and, true_or,
        true_and, false_iff, not_and, Bool.not_eq_false]
      intro sameTime
      rw [← sameTime, infinite]
    · simp only [same, false_or, Function.update_of_ne same]
  · intro other member away
    rcases List.mem_cons.mp member with rfl | member
    · simp only [setHeapIndex, Function.update_self]
    · simp only [setHeapIndex, Function.update_of_ne (others other member)]
      exact represents.unindexed other member away

/-- The back-pointers of the other timers without an entry survive a push. -/
theorem pushHeap_kept (represents : queue.Represents active expiry) (absent : timer ∉ active)
    (time : Time) {other : Id} (away : queue.Unqueued other) (different : other ≠ timer) :
    (queue.pushHeap time timer).heapIndex other = queue.heapIndex other := by
  obtain ⟨rearranged, -, -⟩ := pushHeap_spec represents absent time
  rw [rearranged.outside other]
  · simp only [setHeapIndex, Function.update_of_ne different]
  · rw [unqueued_iff] at away ⊢
    intro entry member
    rcases Array.mem_push.mp member with member | rfl
    · exact away entry member
    · exact Ne.symm different

/-- A timer that can expire joins the active list with a heap entry. -/
theorem Represents.activate_finite {time : Time} (represents : queue.Represents active expiry)
    (absent : timer ∉ active) (finite : TimeTraits.isPositiveInfinity time = false)
    (room : queue.heap.size < vectorMaxSize) :
    ({ queue.pushHeap time timer with
      timers := (queue.pushHeap time timer).timers.pushFront timer } :
      TimerQueue Id Op Time).Represents (timer :: active)
        (Function.update expiry timer (some time)) := by
  obtain ⟨rearranged, minHeap, indexed⟩ := pushHeap_spec represents absent time
  have others : ∀ other ∈ active, other ≠ timer := fun other member same =>
    absent (same ▸ member)
  have members : ∀ entry, entry ∈ (queue.pushHeap time timer).heap ↔
      entry ∈ queue.heap ∨ entry = ⟨time, timer⟩ := by
    intro entry
    rw [rearranged.perm.mem_iff, Array.mem_push]
  refine ⟨?_, ?_, minHeap, indexed, ?_, ?_, ?_⟩
  · rw [show (queue.pushHeap time timer).timers = queue.timers from rearranged.timers_eq]
    exact represents.spells.pushFront absent
  · intro other member
    rcases List.mem_cons.mp member with rfl | member
    · simp only [Function.update_self, Option.isSome_some]
    · rw [Function.update_of_ne (others other member)]
      exact represents.dated other member
  · have size : (queue.pushHeap time timer).heap.size = queue.heap.size + 1 := by
      rw [rearranged.perm.size_eq, Array.size_push]
    exact Nat.le_trans (Nat.le_of_eq size) room
  · intro entry
    change entry ∈ (queue.pushHeap time timer).heap ↔ _
    rw [members, represents.mem_heap, List.mem_cons]
    by_cases same : entry.timer = timer
    · simp only [same, absent, Function.update_self, Option.some.injEq, false_and, true_or,
        true_and, false_or]
      constructor
      · intro isNew
        subst isNew
        exact ⟨rfl, finite⟩
      · intro ⟨sameTime, _⟩
        cases entry
        simp only at same sameTime
        rw [same, sameTime]
    · have notNew : entry ≠ ⟨time, timer⟩ := fun isNew => same (by rw [isNew])
      simp only [notNew, or_false, same, false_or, Function.update_of_ne same]
  · intro other member away
    rw [unqueued_iff] at away
    rcases List.mem_cons.mp member with rfl | member
    · exact absurd rfl (away ⟨time, other⟩ ((members _).mpr (Or.inr rfl)))
    · have before : queue.Unqueued other := by
        rw [unqueued_iff]
        exact fun entry inside => away entry ((members entry).mpr (Or.inl inside))
      rw [← represents.unindexed other member before]
      exact pushHeap_kept represents absent time before (others other member)

/-- Activating an inactive timer adds it to the front of the active list. -/
theorem Represents.activate {allowed : Bool} {time : Time} {next : TimerQueue Id Op Time}
    (represents : queue.Represents active expiry) (absent : timer ∉ active)
    (detached : queue.timers.prev timer = none)
    (activated : queue.activate allowed time timer = (next, true)) :
    next.Represents (timer :: active) (Function.update expiry timer (some time)) ∧
      next.opQueue = queue.opQueue ∧
      ∀ other, other ∉ timer :: active → Untouched queue next other := by
  have inactive : queue.isActive timer = false := by
    rw [← Bool.not_eq_true, represents.isActive_iff fun _ => detached]
    exact absent
  obtain ⟨infinite, rfl⟩ | ⟨finite, room, rfl⟩ := activate_inactive inactive activated
  · refine ⟨represents.activate_infinite absent infinite, rfl, fun other outside => ?_⟩
    obtain ⟨nextEq, prevEq⟩ := represents.spells.pushFront_other outside
    have different : other ≠ timer := fun same => outside (by simp [same])
    exact ⟨rfl, Function.update_of_ne different _ _, nextEq, prevEq⟩
  · obtain ⟨rearranged, -, -⟩ := pushHeap_spec represents absent time
    refine ⟨represents.activate_finite absent finite room, rearranged.opQueue_eq,
      fun other outside => ?_⟩
    obtain ⟨nextEq, prevEq⟩ := represents.spells.pushFront_other outside
    have timersEq : (queue.pushHeap time timer).timers = queue.timers := rearranged.timers_eq
    simp only [List.mem_cons, not_or] at outside
    refine ⟨congrFun rearranged.opQueue_eq other, ?_, ?_, ?_⟩
    · exact pushHeap_kept represents absent time (represents.unqueued_of_not_mem outside.2) outside.1
    · simp only [timersEq, nextEq]
    · simp only [timersEq, prevEq]

omit [DecidableEq Id] in
/-- The represented list and times do not depend on the operations. -/
theorem Represents.congr {next : TimerQueue Id Op Time} (represents : queue.Represents active expiry)
    (heapIndex : next.heapIndex = queue.heapIndex) (timers : next.timers = queue.timers)
    (heap : next.heap = queue.heap) : next.Represents active expiry := by
  cases queue
  cases next
  cases heapIndex
  cases timers
  cases heap
  exact ⟨represents.spells, represents.dated, represents.minHeap, represents.indexed,
    represents.bounded, represents.mem_heap, represents.unindexed⟩

/-- The active list after an enqueue. -/
def enrolled (active : List Id) (timer : Id) : List Id :=
  if timer ∈ active then active else timer :: active

omit [TimeTraits Time] in
/-- The enqueue times after an enqueue: an active timer keeps its time. -/
def redated (active : List Id) (expiry : Id → Option Time) (timer : Id) (time : Time) :
    Id → Option Time :=
  if timer ∈ active then expiry else Function.update expiry timer (some time)

theorem mem_enrolled {other : Id} :
    other ∈ enrolled active timer ↔ other = timer ∨ other ∈ active := by
  unfold enrolled
  split
  · next member =>
      constructor
      · exact Or.inr
      · intro either
        rcases either with rfl | inside
        · exact member
        · exact inside
  · exact List.mem_cons

/-- **`enqueue_timer`.** The timer is active afterwards and holds the operation
last; only an inactive timer takes the given time. -/
theorem Represents.enqueueTimer [DecidableEq Op] {allowed earliest : Bool} {time : Time}
    {op : WaitOp Op} {next : TimerQueue Id Op Time} (represents : queue.Represents active expiry)
    (detached : timer ∉ active → queue.timers.prev timer = none)
    (enqueued : queue.enqueueTimer allowed time timer op = (next, some earliest)) :
    next.Represents (enrolled active timer) (redated active expiry timer time) ∧
      next.opQueue = Function.update queue.opQueue timer (queue.opQueue timer ++ [op]) ∧
      ∀ other, other ∉ timer :: active → Untouched queue next other := by
  simp only [TimerQueue.enqueueTimer] at enqueued
  split at enqueued
  · simp at enqueued
  · next middle activated =>
      simp only [Prod.mk.injEq, Option.some.injEq] at enqueued
      obtain ⟨rfl, -⟩ := enqueued
      by_cases member : timer ∈ active
      · have isActive := (represents.isActive_iff detached).mpr member
        simp only [TimerQueue.activate, isActive, ↓reduceIte, Prod.mk.injEq, and_true] at activated
        subst activated
        simp only [enrolled, redated, member, ↓reduceIte]
        refine ⟨represents.congr rfl rfl rfl, rfl, fun other outside => ?_⟩
        have different : other ≠ timer := fun same => outside (by simp [same])
        exact ⟨Function.update_of_ne different _ _, rfl, rfl, rfl⟩
      · obtain ⟨after, opQueueEq, untouched⟩ :=
          represents.activate member (detached member) activated
        simp only [enrolled, redated, member, ↓reduceIte]
        refine ⟨after.congr rfl rfl rfl, ?_, fun other outside => ?_⟩
        · simp only [setOpQueue, opQueueEq]
        · have different : other ≠ timer := fun same => outside (by simp [same])
          obtain ⟨opQueue, heapIndex, nextEq, prevEq⟩ := untouched other outside
          exact ⟨(Function.update_of_ne different _ _).trans opQueue, heapIndex, nextEq, prevEq⟩

end Enqueue

section Cancel

/-- The loop of `cancel_timer` aborts the oldest operations, at most
`max_cancelled` of them, and counts them. -/
theorem cancelLoop_eq {maxCancelled numCancelled : Nat} (below : numCancelled ≤ maxCancelled)
    (ops : List (WaitOp Op)) : cancelLoop maxCancelled numCancelled ops =
      ((ops.take (maxCancelled - numCancelled)).map WaitOp.abort,
        ops.drop (maxCancelled - numCancelled),
        numCancelled + min (maxCancelled - numCancelled) ops.length) := by
  induction ops generalizing numCancelled with
  | nil => simp [cancelLoop]
  | cons op rest ih =>
      rw [cancelLoop]
      by_cases full : numCancelled = maxCancelled
      · subst full
        simp
      · obtain ⟨room, roomEq⟩ : ∃ room, maxCancelled - numCancelled = room + 1 :=
          ⟨maxCancelled - numCancelled - 1, by omega⟩
        have fewer : maxCancelled - (numCancelled + 1) = room := by omega
        rw [if_pos full, ih (by omega), fewer, roomEq]
        simp only [List.take_succ_cons, List.map_cons, List.drop_succ_cons, List.length_cons,
          Prod.mk.injEq, true_and]
        omega

theorem cancelTimer_inactive (inactive : queue.isActive timer = false) (maxCancelled : Nat) :
    queue.cancelTimer timer maxCancelled = (queue, [], 0) := by
  simp only [cancelTimer, inactive, Bool.false_eq_true, ↓reduceIte]

theorem cancelTimer_active (isActive : queue.isActive timer = true) (maxCancelled : Nat) :
    queue.cancelTimer timer maxCancelled =
      (let next := queue.setOpQueue timer ((queue.opQueue timer).drop maxCancelled)
        if ((queue.opQueue timer).drop maxCancelled).isEmpty then next.removeTimer timer else next,
        ((queue.opQueue timer).take maxCancelled).map WaitOp.abort,
        min maxCancelled (queue.opQueue timer).length) := by
  simp only [cancelTimer, isActive, ↓reduceIte, cancelLoop_eq (Nat.zero_le _), Nat.sub_zero,
    Nat.zero_add]

/-- The active list after a cancellation: a timer with no operation left leaves. -/
def disenrolled (active : List Id) (timer : Id) (kept : List (WaitOp Op)) : List Id :=
  if kept.isEmpty then active.erase timer else active

/-- **`cancel_timer`** for an active timer: the oldest operations are aborted,
and the timer leaves the queue when none is left. -/
theorem Represents.cancelTimer_mem (represents : queue.Represents active expiry)
    (member : timer ∈ active) (maxCancelled : Nat) :
    let kept := (queue.opQueue timer).drop maxCancelled
    let result := queue.cancelTimer timer maxCancelled
    result.1.Represents (disenrolled active timer kept) expiry ∧
      result.1.opQueue = Function.update queue.opQueue timer kept ∧
      (kept = [] → result.1.Idle timer) ∧
      (∀ other, other ∉ active → Untouched queue result.1 other) ∧
      result.2.1 = ((queue.opQueue timer).take maxCancelled).map WaitOp.abort ∧
      result.2.2 = min maxCancelled (queue.opQueue timer).length := by
  intro kept result
  have isActive := (represents.isActive_iff fun absent => absurd member absent).mpr member
  have resultEq : result = _ := cancelTimer_active isActive maxCancelled
  have others : ∀ other, other ∉ active → other ≠ timer := fun other outside same =>
    outside (same ▸ member)
  have middle : (queue.setOpQueue timer kept).Represents active expiry :=
    represents.congr rfl rfl rfl
  rw [resultEq]
  cases none : kept.isEmpty with
  | false =>
      have left : kept ≠ [] := by
        rw [List.isEmpty_eq_false_iff] at none
        exact none
      simp only [kept] at none
      simp only [none, Bool.false_eq_true, ↓reduceIte, disenrolled, kept]
      refine ⟨middle, rfl, fun noneLeft => absurd noneLeft left, fun other outside => ?_,
        trivial, trivial⟩
      exact ⟨Function.update_of_ne (others other outside) _ _, rfl, rfl, rfl⟩
  | true =>
      simp only [kept] at none
      simp only [none, ↓reduceIte, disenrolled, kept]
      obtain ⟨before, after, rfl⟩ := List.append_of_mem member
      obtain ⟨removed, opQueueEq, index, detached, untouched⟩ := middle.removeTimer
      have erased : (before ++ timer :: after).erase timer = before ++ after := by
        rw [List.erase_append_right _ represents.spells.not_mem_sides.1, List.erase_cons_head]
      rw [erased]
      refine ⟨removed, opQueueEq, fun noneLeft => ⟨?_, index, detached⟩, fun other outside => ?_,
        trivial, trivial⟩
      · rw [opQueueEq]
        simp only [setOpQueue, Function.update_self]
        exact noneLeft
      · obtain ⟨opQueue, heapIndex, nextEq, prevEq⟩ := untouched other outside
        exact ⟨opQueue.trans (Function.update_of_ne (others other outside) _ _), heapIndex, nextEq,
          prevEq⟩

end Cancel

section Move

variable {target source : Id}

/-- The heap entry of the source, if it has one, becomes the target's. -/
def retarget (queue : TimerQueue Id Op Time) (target source : Id) :
    Array (HeapEntry Id Time) :=
  match queue.heap[queue.heapIndex source]? with
  | some entry => queue.heap.setIfInBounds (queue.heapIndex source) { entry with timer := target }
  | none => queue.heap

omit [TimeTraits Time] in
/-- `move_timer` onto another timer, field by field. -/
theorem moveTimer_eq (apart : target ≠ source) : queue.moveTimer target source =
    { opQueue := Function.update (Function.update queue.opQueue target
        (queue.opQueue target ++ queue.opQueue source)) source []
      heapIndex := Function.update (Function.update queue.heapIndex target
        (queue.heapIndex source)) source sizeMax
      timers := queue.timers.replace target source
      heap := queue.retarget target source } := by
  simp only [moveTimer, setOpQueue, setHeapIndex, retarget, Function.update_self,
    Function.update_of_ne apart]
  cases queue.heap[queue.heapIndex source]? <;> rfl

/-- A heap entry with its timer renamed. -/
def HeapEntry.renamed (target source : Id) (entry : HeapEntry Id Time) : HeapEntry Id Time :=
  if entry.timer = source then { entry with timer := target } else entry

omit [TimeTraits Time] in
theorem HeapEntry.renamed_time (entry : HeapEntry Id Time) :
    (HeapEntry.renamed target source entry).time = entry.time := by
  unfold HeapEntry.renamed
  split <;> rfl

/-- The one entry written is the one entry of the source. -/
theorem Represents.retarget_eq (represents : queue.Represents active expiry) (target : Id)
    (member : source ∈ active) :
    queue.retarget target source = queue.heap.map (HeapEntry.renamed target source) := by
  have atIndex : ∀ i (_ : i < queue.heap.size),
      queue.heap[i].timer = source ↔ queue.heapIndex source = i := by
    intro i inside
    constructor
    · intro same
      exact same ▸ represents.indexed i inside
    · intro same
      by_contra different
      have unqueued : queue.Unqueued source := by
        intro j jInside sameTimer
        have := represents.indexed j jInside
        rw [sameTimer, same] at this
        subst this
        exact different sameTimer
      have := represents.unindexed source member unqueued
      have := represents.size_lt
      omega
  have renamedEq : ∀ i (inside : i < queue.heap.size),
      HeapEntry.renamed target source queue.heap[i] =
        if queue.heapIndex source = i then ⟨queue.heap[i].time, target⟩ else queue.heap[i] := by
    intro i inside
    unfold HeapEntry.renamed
    simp only [atIndex i inside]
  unfold retarget
  cases found : queue.heap[queue.heapIndex source]? with
  | none =>
      apply Array.ext (by simp only [Array.size_map])
      intro i left right
      simp only [Array.size_map] at right
      rw [Array.getElem?_eq_none_iff] at found
      rw [Array.getElem_map, renamedEq i right, if_neg (by omega)]
  | some entry =>
      obtain ⟨inside, entryEq⟩ := Array.getElem?_eq_some_iff.mp found
      apply Array.ext (by simp only [Array.size_map, Array.size_setIfInBounds])
      intro i left right
      simp only [Array.size_map] at right
      simp only [Array.getElem_map, renamedEq i right,
        Array.getElem_setIfInBounds right]
      split
      · next same =>
          subst same
          rw [entryEq]
      · rfl

/-- **`move_timer`** from an active timer: the target takes its place in the list
and in the heap, with its operations and its time. -/
theorem Represents.moveTimer_mem {before after : List Id}
    (represents : queue.Represents (before ++ source :: after) expiry)
    (absent : target ∉ before ++ source :: after) :
    (queue.moveTimer target source).Represents (before ++ target :: after)
        (Function.update expiry target (expiry source)) ∧
      (queue.moveTimer target source).opQueue = Function.update (Function.update queue.opQueue target
        (queue.opQueue target ++ queue.opQueue source)) source [] ∧
      (queue.moveTimer target source).Idle source ∧
      ∀ other, other ∉ before ++ source :: after → other ≠ target →
        Untouched queue (queue.moveTimer target source) other := by
  have apart : target ≠ source := fun same => absent (by simp [same])
  have links := represents.spells.neighbours_ne
  have sides := represents.spells.not_mem_sides
  have heapEq := represents.retarget_eq target
    (List.mem_append_right before (List.mem_cons_self (a := source)))
  have notTarget : ∀ other ∈ before ++ source :: after, other ≠ target := fun other member same =>
    absent (same ▸ member)
  have membership : ∀ other, other ∈ before ++ target :: after ↔
      other = target ∨ (other ∈ before ++ source :: after ∧ other ≠ source) := by
    intro other
    simp only [List.mem_append, List.mem_cons]
    constructor
    · intro inside
      by_cases same : other = target
      · exact Or.inl same
      · refine Or.inr ⟨by tauto, fun isSource => ?_⟩
        subst isSource
        tauto
    · tauto
  rw [moveTimer_eq apart, heapEq]
  refine ⟨⟨represents.spells.replace absent, ?_, ?_, ?_, ?_, ?_, ?_⟩, rfl, ⟨?_, ?_, ?_⟩, ?_⟩
  · intro other inside
    rcases (membership other).mp inside with rfl | ⟨member, _⟩
    · rw [Function.update_self]
      exact represents.dated source (by simp)
    · rw [Function.update_of_ne (notTarget other member)]
      exact represents.dated other member
  · intro c cInside positive parentInside
    simp only [Array.size_map] at cInside parentInside
    simp only [Array.getElem_map, HeapEntry.renamed_time]
    exact represents.minHeap c cInside positive parentInside
  · intro i inside
    have below : i < queue.heap.size := by simpa using inside
    have index := represents.indexed i below
    have notTargetHere : queue.heap[i].timer ≠ target := notTarget _
      ((represents.mem_heap queue.heap[i]).mp (Array.getElem_mem below)).1
    simp only [Array.getElem_map]
    unfold HeapEntry.renamed
    by_cases same : queue.heap[i].timer = source
    · simp only [same, ↓reduceIte, Function.update_of_ne apart, Function.update_self]
      exact same ▸ index
    · simp only [same, ↓reduceIte, Function.update_of_ne same, Function.update_of_ne notTargetHere]
      exact index
  · simpa using represents.bounded
  · intro entry
    simp only [Array.mem_map]
    constructor
    · intro ⟨old, member, renamed⟩
      obtain ⟨inList, dated, finite⟩ := (represents.mem_heap old).mp member
      unfold HeapEntry.renamed at renamed
      by_cases same : old.timer = source
      · rw [if_pos same] at renamed
        subst renamed
        simp only [membership, true_or, Function.update_self, true_and]
        exact ⟨same ▸ dated, finite⟩
      · rw [if_neg same] at renamed
        subst renamed
        rw [membership, Function.update_of_ne (notTarget _ inList)]
        exact ⟨Or.inr ⟨inList, same⟩, dated, finite⟩
    · intro ⟨inList, dated, finite⟩
      rcases (membership _).mp inList with same | ⟨member, different⟩
      · rw [same, Function.update_self] at dated
        refine ⟨⟨entry.time, source⟩, (represents.mem_heap _).mpr ⟨by simp, dated, finite⟩, ?_⟩
        unfold HeapEntry.renamed
        simp only [↓reduceIte, ← same]
      · rw [Function.update_of_ne (notTarget _ member)] at dated
        refine ⟨entry, (represents.mem_heap _).mpr ⟨member, dated, finite⟩, ?_⟩
        unfold HeapEntry.renamed
        rw [if_neg different]
  · intro other inside away
    rw [unqueued_iff] at away
    simp only [Array.mem_map, forall_exists_index, and_imp] at away
    rcases (membership other).mp inside with rfl | ⟨member, different⟩
    · simp only [Function.update_of_ne apart, Function.update_self]
      apply represents.unindexed source (by simp)
      rw [unqueued_iff]
      intro entry inHeap same
      apply away _ entry inHeap rfl
      unfold HeapEntry.renamed
      rw [if_pos same]
    · simp only [Function.update_of_ne different, Function.update_of_ne (notTarget other member)]
      apply represents.unindexed other member
      rw [unqueued_iff]
      intro entry inHeap same
      apply away _ entry inHeap rfl
      unfold HeapEntry.renamed
      rw [if_neg (same ▸ different), same]
  · simp only [Function.update_self]
  · simp only [Function.update_self]
  · simp only [IntrusiveList.Detached, IntrusiveList.replace_next links.1,
      IntrusiveList.replace_prev links.1 links.2, ↓reduceIte, and_self]
  · intro other outside different
    have notSource : other ≠ source := fun same => outside (by simp [same])
    obtain ⟨nextEq, prevEq⟩ := represents.spells.replace_other outside (Ne.symm different)
    refine ⟨?_, ?_, nextEq, prevEq⟩
    · simp only [Function.update_of_ne notSource, Function.update_of_ne different]
    · simp only [Function.update_of_ne notSource, Function.update_of_ne different]

/-- **`move_timer`** between two dormant timers hands over the index of the source,
which is that of no heap entry. -/
theorem Represents.moveTimer_dormant (represents : queue.Represents active expiry)
    (outside : source ∉ active) (sourceDormant : queue.Dormant source)
    (targetDormant : queue.Dormant target) (beyond : queue.heap.size ≤ queue.heapIndex source) :
    queue.moveTimer target source = { queue with
      heapIndex := Function.update (Function.update queue.heapIndex target
        (queue.heapIndex source)) source sizeMax } := by
  have notHead : queue.timers.head ≠ some source := by
    rw [represents.spells.head_eq]
    exact fun first => outside (List.mem_of_mem_head? first)
  have noOps : Function.update (Function.update queue.opQueue target []) source [] =
      queue.opQueue := by
    rw [← targetDormant.noOps, Function.update_eq_self, targetDormant.noOps, ← sourceDormant.noOps,
      Function.update_eq_self]
  have noEntry : queue.heap[Function.update (Function.update queue.heapIndex target
      (queue.heapIndex source)) source sizeMax target]? = none := by
    apply Array.getElem?_eq_none
    by_cases same : target = source
    · rw [same, Function.update_self]
      exact Nat.le_of_lt represents.size_lt
    · rw [Function.update_of_ne same, Function.update_self]
      exact beyond
  simp only [moveTimer, setOpQueue, setHeapIndex, targetDormant.noOps, sourceDormant.noOps,
    List.append_nil, noOps, noEntry, queue.timers.replace_detached sourceDormant.detached
    targetDormant.detached notHead]

/-- **`move_timer`** between two idle timers changes nothing. -/
theorem Represents.moveTimer_idle (represents : queue.Represents active expiry)
    (outside : source ∉ active) (sourceIdle : queue.Idle source) (targetIdle : queue.Idle target) :
    queue.moveTimer target source = queue := by
  rw [represents.moveTimer_dormant outside sourceIdle.dormant targetIdle.dormant
    (sourceIdle.noIndex ▸ Nat.le_of_lt represents.size_lt), sourceIdle.noIndex]
  have noIndex : Function.update (Function.update queue.heapIndex target sizeMax) source sizeMax =
      queue.heapIndex := by
    rw [← targetIdle.noIndex, Function.update_eq_self, targetIdle.noIndex, ← sourceIdle.noIndex,
      Function.update_eq_self]
  rw [noIndex]

end Move

section Ready

/-- A timer is due: it can expire and its time is not later than the clock. -/
def Due (expiry : Id → Option Time) (now : Time) (timer : Id) : Prop :=
  ∃ time, expiry timer = some time ∧ TimeTraits.isPositiveInfinity time = false ∧ time ≤ now

/-- The time of the second timer is not before that of the first. -/
def InOrder (expiry : Id → Option Time) (first second : Id) : Prop :=
  ∀ time ∈ expiry first, ∀ later ∈ expiry second, time ≤ later

/-- The timers and operations that `get_ready_timers` took from a queue. -/
structure Collected (queue : TimerQueue Id Op Time) (active : List Id) (expiry : Id → Option Time)
    (ready left : List Id) (next : TimerQueue Id Op Time) : Prop where
  represents : next.Represents left expiry
  perm : active.Perm (ready ++ left)
  ready_idle : ∀ timer ∈ ready, next.Idle timer
  kept : ∀ timer, timer ∉ ready → next.opQueue timer = queue.opQueue timer
  untouched : ∀ timer, timer ∉ active → Untouched queue next timer

omit [DecidableEq Id] in
theorem Represents.collected_nil (represents : queue.Represents active expiry) :
    queue.Collected active expiry [] active queue where
  represents := represents
  perm := List.Perm.refl _
  ready_idle _ member := absurd member List.not_mem_nil
  kept _ _ := rfl
  untouched _ _ := ⟨rfl, rfl, rfl, rfl⟩

/-- One iteration of `get_ready_timers`: the timer at the root is taken. -/
theorem Represents.collect_root {root : HeapEntry Id Time}
    (represents : queue.Represents active expiry) (found : queue.heap[0]? = some root) :
    let next := (queue.setOpQueue root.timer []).removeTimer root.timer
    queue.Collected active expiry [root.timer] (active.erase root.timer) next ∧
      next.heap.size < queue.heap.size := by
  intro next
  obtain ⟨nonempty, rootEq⟩ := Array.getElem?_eq_some_iff.mp found
  have rootMember : root ∈ queue.heap := rootEq ▸ Array.getElem_mem nonempty
  obtain ⟨member, -, -⟩ := (represents.mem_heap root).mp rootMember
  have middle : (queue.setOpQueue root.timer []).Represents active expiry :=
    represents.congr rfl rfl rfl
  have queued : ¬ (queue.setOpQueue root.timer []).Unqueued root.timer := fun unqueued =>
    unqueued_iff.mp unqueued root rootMember rfl
  refine ⟨?_, (middle.entryRemoved member).1.size_lt queued⟩
  obtain ⟨before, after, rfl⟩ := List.append_of_mem member
  obtain ⟨removed, opQueueEq, index, detached, untouched⟩ := middle.removeTimer
  have erased : (before ++ root.timer :: after).erase root.timer = before ++ after := by
    rw [List.erase_append_right _ represents.spells.not_mem_sides.1, List.erase_cons_head]
  rw [erased]
  refine ⟨removed, List.perm_middle, ?_, ?_, ?_⟩
  · intro timer isRoot
    rw [List.mem_singleton] at isRoot
    subst isRoot
    refine ⟨?_, index, detached⟩
    rw [opQueueEq]
    exact Function.update_self _ _ _
  · intro timer notRoot
    rw [List.mem_singleton] at notRoot
    rw [opQueueEq]
    exact Function.update_of_ne notRoot _ _
  · intro timer outside
    have different : timer ≠ root.timer := fun same => outside (by simp [same])
    obtain ⟨opQueue, heapIndex, nextEq, prevEq⟩ := untouched timer outside
    exact ⟨opQueue.trans (Function.update_of_ne different _ _), heapIndex, nextEq, prevEq⟩

omit [DecidableEq Id] in
/-- Two collections in a row are one. -/
theorem Collected.trans {middle next : TimerQueue Id Op Time} {ready rest others left : List Id}
    (first : queue.Collected active expiry ready rest middle)
    (second : middle.Collected rest expiry others left next) (nodup : active.Nodup) :
    queue.Collected active expiry (ready ++ others) left next where
  represents := second.represents
  perm := by
    rw [List.append_assoc]
    exact first.perm.trans (second.perm.append_left _)
  ready_idle timer member := by
    rcases List.mem_append.mp member with inFirst | inSecond
    · have apart := (List.nodup_append.mp (first.perm.nodup_iff.mp nodup)).2.2
      exact (second.untouched timer fun inRest => apart timer inFirst timer inRest rfl).idle
        (first.ready_idle timer inFirst)
    · exact second.ready_idle timer inSecond
  kept timer outside := by
    simp only [List.mem_append, not_or] at outside
    rw [second.kept timer outside.2, first.kept timer outside.1]
  untouched timer outside := by
    have notRest : timer ∉ rest := fun inRest =>
      outside (first.perm.mem_iff.mpr (List.mem_append_right _ inRest))
    obtain ⟨opQueue, heapIndex, nextEq, prevEq⟩ := first.untouched timer outside
    obtain ⟨opQueue', heapIndex', nextEq', prevEq'⟩ := second.untouched timer notRest
    exact ⟨opQueue'.trans opQueue, heapIndex'.trans heapIndex, nextEq'.trans nextEq,
      prevEq'.trans prevEq⟩

omit [DecidableEq Id] in
/-- When the root is later than the clock, so is every timer that can expire. -/
theorem Represents.root_later {root : HeapEntry Id Time} {now : Time}
    (represents : queue.Represents active expiry) (found : queue.heap[0]? = some root)
    (later : now < root.time) (member : timer ∈ active) : ¬ Due expiry now timer := by
  intro ⟨time, dated, finite, due⟩
  obtain ⟨nonempty, rootEq⟩ := Array.getElem?_eq_some_iff.mp found
  obtain ⟨i, inside, entryEq⟩ := Array.mem_iff_getElem.mp
    ((represents.mem_heap ⟨time, timer⟩).mpr ⟨member, dated, finite⟩)
  have least := represents.minHeap.root_le nonempty i inside
  rw [rootEq, entryEq] at least
  exact not_lt.mpr (least.trans due) later

omit [DecidableEq Id] in
/-- The root is not after any timer that is due. -/
theorem Represents.root_inOrder {root : HeapEntry Id Time} {now : Time}
    (represents : queue.Represents active expiry) (found : queue.heap[0]? = some root)
    (member : timer ∈ active) (due : Due expiry now timer) : InOrder expiry root.timer timer := by
  intro time dated later other
  obtain ⟨nonempty, rootEq⟩ := Array.getElem?_eq_some_iff.mp found
  obtain ⟨-, rootDated, -⟩ := (represents.mem_heap root).mp (rootEq ▸ Array.getElem_mem nonempty)
  obtain ⟨_, same, finite, -⟩ := due
  rw [Option.mem_def] at dated other
  rw [rootDated, Option.some.injEq] at dated
  rw [other, Option.some.injEq] at same
  obtain ⟨i, inside, entryEq⟩ := Array.mem_iff_getElem.mp
    ((represents.mem_heap ⟨later, timer⟩).mpr ⟨member, other, same ▸ finite⟩)
  have least := represents.minHeap.root_le nonempty i inside
  rwa [rootEq, entryEq, dated] at least

/-- The loop of `get_ready_timers` collects exactly the due timers, the earliest
first, and appends their operations. -/
theorem Represents.getReadyLoop (represents : queue.Represents active expiry) (now : Time)
    (fuel : Nat) (enough : queue.heap.size ≤ fuel) (ops : List (WaitOp Op)) :
    ∃ ready left, queue.Collected active expiry ready left (getReadyLoop now fuel queue ops).1 ∧
      (getReadyLoop now fuel queue ops).2 = ops ++ ready.flatMap queue.opQueue ∧
      (∀ timer ∈ ready, Due expiry now timer) ∧ (∀ timer ∈ left, ¬ Due expiry now timer) ∧
      ready.Pairwise (InOrder expiry) := by
  induction fuel generalizing queue active ops with
  | zero =>
      refine ⟨[], active, represents.collected_nil, ?_, fun _ member => absurd member
        List.not_mem_nil, fun timer member ⟨time, dated, finite, _⟩ => ?_, .nil⟩
      · simp only [TimerQueue.getReadyLoop, List.flatMap_nil, List.append_nil]
      · have entry := (represents.mem_heap ⟨time, timer⟩).mpr ⟨member, dated, finite⟩
        obtain ⟨i, inside, -⟩ := Array.mem_iff_getElem.mp entry
        omega
  | succ fuel ih =>
      rw [TimerQueue.getReadyLoop]
      cases found : queue.heap[0]? with
      | none =>
          refine ⟨[], active, represents.collected_nil, ?_, fun _ member => absurd member
            List.not_mem_nil, fun timer member ⟨time, dated, finite, _⟩ => ?_, .nil⟩
          · simp only [List.flatMap_nil, List.append_nil]
          · have entry := (represents.mem_heap ⟨time, timer⟩).mpr ⟨member, dated, finite⟩
            obtain ⟨i, inside, -⟩ := Array.mem_iff_getElem.mp entry
            rw [Array.getElem?_eq_none_iff] at found
            omega
      | some root =>
          simp only [lessThan, decide_eq_true_eq]
          split
          · next later =>
              refine ⟨[], active, represents.collected_nil, ?_, fun _ member => absurd member
                List.not_mem_nil, fun timer member => represents.root_later found later member, .nil⟩
              simp only [List.flatMap_nil, List.append_nil]
          · next due =>
              obtain ⟨nonempty, rootEq⟩ := Array.getElem?_eq_some_iff.mp found
              obtain ⟨-, dated, finite⟩ := (represents.mem_heap root).mp
                (rootEq ▸ Array.getElem_mem nonempty)
              obtain ⟨collected, smaller⟩ := represents.collect_root found
              obtain ⟨ready, left, rest, opsEq, allDue, noneDue, inOrder⟩ :=
                ih collected.represents (by omega) (ops ++ queue.opQueue root.timer)
              refine ⟨root.timer :: ready, left, collected.trans rest represents.spells.nodup, ?_,
                ?_, noneDue, List.pairwise_cons.mpr ⟨fun timer member => ?_, inOrder⟩⟩
              · rw [opsEq, List.flatMap_cons, List.append_assoc]
                congr 2
                apply List.flatMap_congr
                intro timer member
                apply collected.kept
                rw [List.mem_singleton]
                intro same
                have nodup := (collected.trans rest represents.spells.nodup).perm.nodup_iff.mp
                  represents.spells.nodup
                simp only [List.cons_append, List.nil_append, List.nodup_cons] at nodup
                exact nodup.1 (same ▸ List.mem_append_left _ member)
              · intro timer member
                rcases List.mem_cons.mp member with rfl | member
                · exact ⟨root.time, dated, finite, not_lt.mp due⟩
                · exact allDue timer member
              · have remained := collected.perm.mem_iff.mpr (List.mem_append_right _
                  (rest.perm.mem_iff.mpr (List.mem_append_left _ member)))
                exact represents.root_inOrder found remained (allDue timer member)

/-- **`get_ready_timers`.** Exactly the due timers leave the queue, the earliest
first, with all their operations. -/
theorem Represents.getReadyTimers (represents : queue.Represents active expiry) (now : Time)
    (ops : List (WaitOp Op)) :
    ∃ ready left, queue.Collected active expiry ready left (queue.getReadyTimers now ops).1 ∧
      (queue.getReadyTimers now ops).2 = ops ++ ready.flatMap queue.opQueue ∧
      (∀ timer ∈ ready, Due expiry now timer) ∧ (∀ timer ∈ left, ¬ Due expiry now timer) ∧
      ready.Pairwise (InOrder expiry) :=
  represents.getReadyLoop now queue.heap.size (Nat.le_refl _) ops

end Ready

end Asio.Timer.TimerQueue
