import Asio.Timer.QueueOperations

/-! # The timer functions of the reactor

Several timer queues over one memory of `per_timer_data` objects: every
`deadline_timer_service` owns a queue, registered with the reactor of its
`io_context`, and a timer can be moved from one service to another. Each
reactor function works on one queue and is a list edit on what that queue
represents; `Holds` relates all the queues to the active timers of each.
-/

namespace Asio.Timer

variable {Service Id Op Time : Type*}

/-- The `per_timer_data` objects, and for each service the members `timers_` and
`heap_` of its queue. -/
structure TimerQueues (Service Id Op Time : Type*) where
  opQueue : Id → List (WaitOp Op)
  heapIndex : Id → Nat
  next : Id → Option Id
  prev : Id → Option Id
  timers : Service → Option Id
  heap : Service → Array (HeapEntry Id Time)

namespace TimerQueues

/-- Empty queues over default-constructed `per_timer_data` objects. -/
def empty : TimerQueues Service Id Op Time where
  opQueue _ := []
  heapIndex _ := sizeMax
  next _ := none
  prev _ := none
  timers _ := none
  heap _ := #[]

/-- The queue of one service. -/
def queue (queues : TimerQueues Service Id Op Time) (service : Service) : TimerQueue Id Op Time where
  opQueue := queues.opQueue
  heapIndex := queues.heapIndex
  timers := ⟨queues.timers service, queues.next, queues.prev⟩
  heap := queues.heap service

/-- The `per_timer_data` constructor. -/
def constructData [DecidableEq Id] (queues : TimerQueues Service Id Op Time) (timer : Id) :
    TimerQueues Service Id Op Time :=
  { queues with
    opQueue := Function.update queues.opQueue timer []
    heapIndex := Function.update queues.heapIndex timer sizeMax
    next := Function.update queues.next timer none
    prev := Function.update queues.prev timer none }

/-- The `per_timer_data` destructor: `~op_queue` destroys the operations left. -/
def destroyData [DecidableEq Id] (queues : TimerQueues Service Id Op Time) (timer : Id) :
    TimerQueues Service Id Op Time :=
  { queues with opQueue := Function.update queues.opQueue timer [] }

variable [DecidableEq Service]

/-- The memory after an operation on the queue of one service. -/
def setQueue (queues : TimerQueues Service Id Op Time) (service : Service)
    (queue : TimerQueue Id Op Time) : TimerQueues Service Id Op Time where
  opQueue := queue.opQueue
  heapIndex := queue.heapIndex
  next := queue.timers.next
  prev := queue.timers.prev
  timers := Function.update queues.timers service queue.timers.head
  heap := Function.update queues.heap service queue.heap

@[simp] theorem setQueue_opQueue (queues : TimerQueues Service Id Op Time) (service : Service)
    (queue : TimerQueue Id Op Time) : (queues.setQueue service queue).opQueue = queue.opQueue := rfl

omit [DecidableEq Service] in
@[simp] theorem queue_opQueue (queues : TimerQueues Service Id Op Time) (service : Service) :
    (queues.queue service).opQueue = queues.opQueue := rfl

theorem queue_setQueue (queues : TimerQueues Service Id Op Time) (service : Service)
    (queue : TimerQueue Id Op Time) : (queues.setQueue service queue).queue service = queue := by
  simp only [TimerQueues.queue, setQueue, Function.update_self]

theorem setQueue_queue (queues : TimerQueues Service Id Op Time) (service : Service) :
    queues.setQueue service (queues.queue service) = queues := by
  simp only [TimerQueues.queue, setQueue, Function.update_eq_self]

variable [DecidableEq Id] [TimeTraits Time]

/-- `schedule_timer` of a reactor that is not shut down, as far as the queue goes:
none when `enqueue_timer` threw, and else whether the reactor re-evaluates its
timeout. -/
def scheduleTimer [DecidableEq Op] (allocated : Bool) (queues : TimerQueues Service Id Op Time)
    (service : Service) (time : Time) (timer : Id) (op : WaitOp Op) :
    TimerQueues Service Id Op Time × Option Bool :=
  let (queue, earliest) := (queues.queue service).enqueueTimer allocated time timer op
  (queues.setQueue service queue, earliest)

/-- `cancel_timer`: the operations it posts and their number. -/
def cancelTimer (queues : TimerQueues Service Id Op Time) (service : Service) (timer : Id)
    (maxCancelled : Nat) : TimerQueues Service Id Op Time × List (WaitOp Op) × Nat :=
  let (queue, ops, n) := (queues.queue service).cancelTimer timer maxCancelled
  (queues.setQueue service queue, ops, n)

/-- `move_timer`: the operations of the target, which it posts. -/
def moveTimer (queues : TimerQueues Service Id Op Time) (service : Service) (target source : Id) :
    TimerQueues Service Id Op Time × List (WaitOp Op) :=
  let (queue, ops, _) := (queues.queue service).cancelTimer target sizeMax
  (queues.setQueue service (queue.moveTimer target source), ops)

/-- The part of `timer_queue_set::get_ready_timers` for the queue of one service. -/
def getReadyTimers (queues : TimerQueues Service Id Op Time) (service : Service) (now : Time) :
    TimerQueues Service Id Op Time × List (WaitOp Op) :=
  let (queue, ops) := (queues.queue service).getReadyTimers now []
  (queues.setQueue service queue, ops)

end TimerQueues

namespace TimerQueues

/-- The queues represent the active timers of each service, which all have
operations and belong to one service; every other timer belongs to no queue. -/
structure Holds [TimeTraits Time] (queues : TimerQueues Service Id Op Time)
    (active : Service → List Id) (dates : Id → Option Time) : Prop where
  represents : ∀ service, (queues.queue service).Represents (active service) dates
  apart : ∀ {service other timer}, timer ∈ active service → timer ∈ active other → service = other
  busy : ∀ {service timer}, timer ∈ active service → queues.opQueue timer ≠ []
  quiet : ∀ timer, (∀ other, timer ∉ active other) → queues.opQueue timer = []
  idle : ∀ service timer, (∀ other, timer ∉ active other) → (queues.queue service).Idle timer

section Holds

variable [TimeTraits Time] {queues : TimerQueues Service Id Op Time}
  {active : Service → List Id} {dates : Id → Option Time} {service : Service} {timer : Id}

theorem holds_empty (dates : Id → Option Time) :
    (empty : TimerQueues Service Id Op Time).Holds (fun _ => []) dates where
  represents _ := TimerQueue.represents_empty dates
  apart member := absurd member List.not_mem_nil
  busy member := absurd member List.not_mem_nil
  quiet _ _ := rfl
  idle _ _ _ := ⟨rfl, rfl, rfl, rfl⟩

/-- Only the times of the active timers matter. -/
theorem Holds.congr_dates {dates' : Id → Option Time} (holds : queues.Holds active dates)
    (dated : ∀ service, ∀ timer ∈ active service, dates' timer = dates timer) :
    queues.Holds active dates' where
  represents service := (holds.represents service).elsewhere rfl rfl
    (fun _ _ => ⟨rfl, rfl, rfl, rfl⟩) (dated service)
  apart := holds.apart
  busy := holds.busy
  quiet := holds.quiet
  idle := holds.idle

/-- A timer without operations is idle. -/
theorem Holds.idle_of_empty (holds : queues.Holds active dates) (service : Service)
    (none : queues.opQueue timer = []) : (queues.queue service).Idle timer :=
  holds.idle service timer fun _ member => holds.busy member none

/-- A timer that can be active in one service only is inactive there when it has no
operations. -/
theorem Holds.mem_iff (holds : queues.Holds active dates)
    (home : ∀ other, timer ∈ active other → other = service) :
    timer ∈ active service ↔ queues.opQueue timer ≠ [] := by
  constructor
  · exact fun member => holds.busy member
  · intro some
    by_contra absent
    exact some (holds.idle service timer fun other member => absent (home other member ▸ member)).noOps

variable [DecidableEq Id]

theorem Holds.constructData (holds : queues.Holds active dates) (service : Service)
    (none : queues.opQueue timer = []) : queues.constructData timer = queues := by
  obtain ⟨noOps, noIndex, noNext, noPrev⟩ := holds.idle_of_empty service none
  simp only [TimerQueues.queue] at noOps noIndex noNext noPrev
  have opsEq : Function.update queues.opQueue timer [] = queues.opQueue := by
    rw [← noOps, Function.update_eq_self]
  have indexEq : Function.update queues.heapIndex timer sizeMax = queues.heapIndex := by
    rw [← noIndex, Function.update_eq_self]
  have nextEq : Function.update queues.next timer Option.none = queues.next := by
    rw [← noNext, Function.update_eq_self]
  have prevEq : Function.update queues.prev timer Option.none = queues.prev := by
    rw [← noPrev, Function.update_eq_self]
  rw [TimerQueues.constructData, opsEq, indexEq, nextEq, prevEq]

omit [TimeTraits Time] in
theorem destroyData_eq (none : queues.opQueue timer = []) : queues.destroyData timer = queues := by
  rw [TimerQueues.destroyData, ← none, Function.update_eq_self]

variable [DecidableEq Service]

/-- **Frame rule.** An operation on one queue that stays within a set of timers
which no other service has active keeps the other queues. -/
theorem Holds.frame {next : TimerQueue Id Op Time} {now scope : List Id}
    {dates' : Id → Option Time} (holds : queues.Holds active dates) (service : Service)
    (represents : next.Represents now dates') (within : ∀ timer ∈ now, timer ∈ scope)
    (covers : ∀ timer ∈ active service, timer ∈ scope)
    (free : ∀ timer ∈ scope, ∀ other, timer ∈ active other → other = service)
    (untouched : ∀ timer, timer ∉ scope →
      TimerQueue.Untouched (queues.queue service) next timer)
    (dated : ∀ timer, timer ∉ scope → dates' timer = dates timer)
    (busy : ∀ timer ∈ now, next.opQueue timer ≠ [])
    (idle : ∀ timer ∈ scope, timer ∉ now → next.Idle timer) :
    (queues.setQueue service next).Holds (Function.update active service now) dates' := by
  have away : ∀ other, other ≠ service → ∀ timer ∈ active other, timer ∉ scope :=
    fun other different timer member inScope => different (free timer inScope other member)
  have idleOf : ∀ timer, (∀ other, timer ∉ Function.update active service now other) →
      next.Idle timer := by
    intro timer outside
    have notNow : timer ∉ now := by
      have := outside service
      rwa [Function.update_self] at this
    by_cases inScope : timer ∈ scope
    · exact idle timer inScope notNow
    · refine (untouched timer inScope).idle (holds.idle service timer fun other member => ?_)
      by_cases same : other = service
      · exact inScope (covers timer (same ▸ member))
      · have := outside other
        rw [Function.update_of_ne same] at this
        exact this member
  refine ⟨fun other => ?_, @fun first second timer inFirst inSecond => ?_,
    @fun other timer member => ?_, fun timer outside => (idleOf timer outside).noOps,
    fun other timer outside => ?_⟩
  · by_cases same : other = service
    · subst same
      rw [queue_setQueue, Function.update_self]
      exact represents
    · rw [Function.update_of_ne same]
      apply (holds.represents other).elsewhere
      · exact Function.update_of_ne same _ _
      · exact Function.update_of_ne same _ _
      · intro timer member
        obtain ⟨opQueue, heapIndex, nextEq, prevEq⟩ := untouched timer (away other same timer member)
        exact ⟨opQueue, heapIndex, nextEq, prevEq⟩
      · exact fun timer member => dated timer (away other same timer member)
  · by_cases firstSame : first = service
    · subst firstSame
      by_cases secondSame : second = first
      · exact secondSame.symm
      · rw [Function.update_self] at inFirst
        rw [Function.update_of_ne secondSame] at inSecond
        exact (free timer (within timer inFirst) second inSecond).symm
    · rw [Function.update_of_ne firstSame] at inFirst
      by_cases secondSame : second = service
      · subst secondSame
        rw [Function.update_self] at inSecond
        exact free timer (within timer inSecond) first inFirst
      · rw [Function.update_of_ne secondSame] at inSecond
        exact holds.apart inFirst inSecond
  · by_cases same : other = service
    · subst same
      rw [Function.update_self] at member
      exact busy timer member
    · rw [Function.update_of_ne same] at member
      rw [setQueue_opQueue, (untouched timer (away other same timer member)).opQueue_eq]
      exact holds.busy member
  · have isIdle := idleOf timer outside
    exact ⟨isIdle.noOps, isIdle.noIndex, isIdle.detached⟩

omit [DecidableEq Service] in
/-- A timer that can be active in one service only is tested there exactly. -/
theorem Holds.isActive_iff (holds : queues.Holds active dates)
    (home : ∀ other, timer ∈ active other → other = service) :
    (queues.queue service).isActive timer = true ↔ timer ∈ active service :=
  (holds.represents service).isActive_iff fun absent =>
    (holds.idle service timer fun other member => absent (home other member ▸ member)).detached.2

/-- **`cancel_timer`**: the oldest operations of the timer leave it, aborted. -/
theorem Holds.cancelTimer (holds : queues.Holds active dates)
    (home : ∀ other, timer ∈ active other → other = service) (maxCancelled : Nat) :
    let result := queues.cancelTimer service timer maxCancelled
    (∃ left, result.1.Holds left dates ∧ ∀ other, ∀ some ∈ left other, some ∈ active other) ∧
      result.1.opQueue =
        Function.update queues.opQueue timer ((queues.opQueue timer).drop maxCancelled) ∧
      result.2.1 = ((queues.opQueue timer).take maxCancelled).map WaitOp.abort ∧
      result.2.2 = min maxCancelled (queues.opQueue timer).length := by
  intro result
  by_cases member : timer ∈ active service
  · obtain ⟨after, opQueueEq, emptied, untouched, opsEq, countEq⟩ :=
      (holds.represents service).cancelTimer_mem member maxCancelled
    simp only [queue_opQueue] at after opQueueEq emptied opsEq countEq
    have within : ∀ some ∈ TimerQueue.disenrolled (active service) timer
        ((queues.opQueue timer).drop maxCancelled), some ∈ active service := by
      intro some inside
      unfold TimerQueue.disenrolled at inside
      split at inside
      · exact List.mem_of_mem_erase inside
      · exact inside
    have framed := holds.frame service after within (fun _ inside => inside)
      (fun _ inside other elsewhere => holds.apart elsewhere inside) untouched fun _ _ => rfl
    refine ⟨⟨_, framed ?_ ?_, ?_⟩, opQueueEq, opsEq, countEq⟩
    · intro some inside
      rw [opQueueEq]
      by_cases same : some = timer
      · subst same
        rw [Function.update_self]
        intro none
        simp only [TimerQueue.disenrolled, none, List.isEmpty_nil, ↓reduceIte] at inside
        exact ((holds.represents service).spells.nodup.mem_erase_iff.mp inside).1 rfl
      · rw [Function.update_of_ne same]
        exact holds.busy (within some inside)
    · intro some inside outside
      by_cases same : some = timer
      · subst same
        apply emptied
        by_contra left
        apply outside
        simpa only [TimerQueue.disenrolled, List.isEmpty_iff, left, ↓reduceIte] using inside
      · refine absurd ?_ outside
        unfold TimerQueue.disenrolled
        split
        · exact (List.mem_erase_of_ne same).mpr inside
        · exact inside
    · intro other some inside
      by_cases same : other = service
      · subst same
        rw [Function.update_self] at inside
        exact within some inside
      · rwa [Function.update_of_ne same] at inside
  · have none : queues.opQueue timer = [] := by
      by_contra some
      exact member ((holds.mem_iff home).mpr some)
    have inactive : (queues.queue service).isActive timer = false := by
      rw [← Bool.not_eq_true, holds.isActive_iff home]
      exact member
    have resultEq : result = (queues, [], 0) := by
      simp only [result, TimerQueues.cancelTimer, TimerQueue.cancelTimer_inactive inactive,
        setQueue_queue]
    rw [resultEq, none]
    refine ⟨⟨active, holds, fun _ _ inside => inside⟩, ?_, by simp, by simp⟩
    rw [List.drop_nil, ← none, Function.update_eq_self]

/-- **`schedule_timer`**: the operation is the timer's last; an active timer keeps
its time, which here is the given one. -/
theorem Holds.scheduleTimer [DecidableEq Op] {time : Time} {op : WaitOp Op} {earliest : Bool}
    {next : TimerQueues Service Id Op Time} (holds : queues.Holds active dates)
    (home : ∀ other, timer ∈ active other → other = service)
    (dated : timer ∈ active service → dates timer = some time)
    (scheduled : queues.scheduleTimer true service time timer op = (next, some earliest)) :
    (∃ left, next.Holds left (Function.update dates timer (some time)) ∧
        ∀ other, ∀ some ∈ left other, some ∈ active other ∨ other = service ∧ some = timer) ∧
      next.opQueue = Function.update queues.opQueue timer (queues.opQueue timer ++ [op]) := by
  have detached : timer ∉ active service → (queues.queue service).timers.prev timer = none :=
    fun absent => (holds.idle service timer fun other member =>
      absent (home other member ▸ member)).detached.2
  simp only [TimerQueues.scheduleTimer, Prod.mk.injEq] at scheduled
  obtain ⟨rfl, enqueued⟩ := scheduled
  obtain ⟨after, opQueueEq, untouched⟩ :=
    (holds.represents service).enqueueTimer detached (Prod.ext rfl enqueued)
  have datesEq : TimerQueue.redated (active service) dates timer time =
      Function.update dates timer (some time) := by
    unfold TimerQueue.redated
    split
    · next member => rw [← dated member, Function.update_eq_self]
    · rfl
  rw [datesEq] at after
  have within : ∀ some ∈ TimerQueue.enrolled (active service) timer,
      some ∈ timer :: active service := by
    intro some inside
    rw [List.mem_cons]
    exact TimerQueue.mem_enrolled.mp inside
  have framed := holds.frame service after within
  refine ⟨⟨_, framed ?_ ?_ untouched ?_ ?_ ?_, ?_⟩, opQueueEq⟩
  · exact fun some inside => List.mem_cons_of_mem _ inside
  · intro some inside other elsewhere
    rcases List.mem_cons.mp inside with rfl | inside
    · exact home other elsewhere
    · exact holds.apart elsewhere inside
  · intro some outside
    exact Function.update_of_ne (fun same => outside (by simp [same])) _ _
  · intro some inside
    rw [opQueueEq]
    by_cases same : some = timer
    · subst same
      rw [Function.update_self]
      exact List.append_ne_nil_of_right_ne_nil _ (List.cons_ne_nil _ _)
    · rw [Function.update_of_ne same]
      exact holds.busy ((TimerQueue.mem_enrolled.mp inside).resolve_left same)
  · intro some inside outside
    exact absurd (TimerQueue.mem_enrolled.mpr (List.mem_cons.mp inside)) outside
  · intro other some inside
    by_cases same : other = service
    · subst same
      rw [Function.update_self] at inside
      rcases TimerQueue.mem_enrolled.mp inside with isTimer | member
      · exact Or.inr ⟨rfl, isTimer⟩
      · exact Or.inl member
    · rw [Function.update_of_ne same] at inside
      exact Or.inl inside

/-- **`move_timer`**: the target's own operations leave it, aborted, and then it takes
those of the source, with their time. -/
theorem Holds.moveTimer {target source : Id} (holds : queues.Holds active dates)
    (targetHome : ∀ other, target ∈ active other → other = service)
    (sourceHome : ∀ other, source ∈ active other → other = service)
    (few : (queues.opQueue target).length ≤ sizeMax) :
    let result := queues.moveTimer service target source
    (∃ left, result.1.Holds left (Function.update dates target (dates source)) ∧
        ∀ other, ∀ some ∈ left other, some ≠ source ∧
          (some ≠ target ∧ some ∈ active other ∨
            some = target ∧ other = service ∧ source ∈ active service)) ∧
      result.1.opQueue =
        Function.update (Function.update queues.opQueue target (queues.opQueue source)) source [] ∧
      result.2 = (queues.opQueue target).map WaitOp.abort := by
  intro result
  obtain ⟨⟨left, emptied, stayed⟩, opQueueEq, opsEq, -⟩ := holds.cancelTimer targetHome sizeMax
  rw [List.drop_eq_nil_of_le few] at opQueueEq
  rw [List.take_of_length_le few] at opsEq
  have noOps : (queues.cancelTimer service target sizeMax).1.opQueue target = [] := by
    rw [opQueueEq, Function.update_self]
  generalize cancelEq : queues.cancelTimer service target sizeMax = middle
    at emptied opQueueEq opsEq noOps
  have notLeft : ∀ other, target ∉ left other := fun other member => emptied.busy member noOps
  have resultEq : result =
      (middle.1.setQueue service ((middle.1.queue service).moveTimer target source), middle.2.1) := by
    simp only [result, TimerQueues.moveTimer, ← cancelEq, TimerQueues.cancelTimer, queue_setQueue]
    simp only [setQueue, Function.update_idem]
  rw [resultEq]
  by_cases member : source ∈ left service
  · have apart : source ≠ target := fun same => notLeft service (same ▸ member)
    obtain ⟨before, after, split⟩ := List.append_of_mem member
    obtain ⟨moved, movedOps, sourceIdle, untouched⟩ :=
      (split ▸ emptied.represents service).moveTimer_mem (split ▸ notLeft service)
    have sourceOps : middle.1.opQueue source = queues.opQueue source := by
      rw [opQueueEq, Function.update_of_ne apart]
    have finalOps : ((middle.1.queue service).moveTimer target source).opQueue =
        Function.update (Function.update queues.opQueue target (queues.opQueue source)) source [] := by
      rw [movedOps, queue_opQueue, noOps, List.nil_append, sourceOps, opQueueEq,
        Function.update_idem]
    have sides := (split ▸ emptied.represents service).spells.not_mem_sides
    have within : ∀ some ∈ before ++ target :: after, some ∈ target :: left service := by
      intro some inside
      simp only [split, List.mem_append, List.mem_cons] at inside ⊢
      tauto
    have sources : ∀ some ∈ before ++ target :: after, some ≠ source := by
      intro some inside same
      subst same
      simp only [List.mem_append, List.mem_cons] at inside
      tauto
    have framed := emptied.frame service moved within (fun some inside => List.mem_cons_of_mem _ inside)
    refine ⟨⟨_, framed ?_ ?_ ?_ ?_ ?_, ?_⟩, finalOps, opsEq⟩
    · intro some inside other elsewhere
      rcases List.mem_cons.mp inside with rfl | inside
      · exact absurd elsewhere (notLeft other)
      · exact emptied.apart elsewhere inside
    · intro some outside
      rw [List.mem_cons, not_or, split] at outside
      exact untouched some outside.2 outside.1
    · intro some outside
      exact Function.update_of_ne (fun same => outside (by simp [same])) _ _
    · intro some inside
      rw [finalOps, Function.update_of_ne (sources some inside)]
      by_cases same : some = target
      · subst same
        rw [Function.update_self, ← sourceOps]
        exact emptied.busy member
      · rw [Function.update_of_ne same]
        have stays := (List.mem_cons.mp (within some inside)).resolve_left same
        have := emptied.busy stays
        rwa [opQueueEq, Function.update_of_ne same] at this
    · intro some inside outside
      have isSource : some = source := by
        simp only [split, List.mem_append, List.mem_cons] at inside outside
        tauto
      exact isSource ▸ sourceIdle
    · intro other some inside
      by_cases same : other = service
      · subst same
        rw [Function.update_self] at inside
        refine ⟨sources some inside, ?_⟩
        by_cases isTarget : some = target
        · exact Or.inr ⟨isTarget, rfl, stayed _ _ member⟩
        · exact Or.inl ⟨isTarget, stayed _ _
            ((List.mem_cons.mp (within some inside)).resolve_left isTarget)⟩
      · rw [Function.update_of_ne same] at inside
        refine ⟨fun isSource => ?_, Or.inl ⟨fun isTarget => notLeft other (isTarget ▸ inside),
          stayed _ _ inside⟩⟩
        exact same (emptied.apart inside (isSource ▸ member))
  · have noSource : middle.1.opQueue source = [] := by
      by_contra some
      exact member ((emptied.mem_iff fun other inside =>
        sourceHome other (stayed other source inside)).mpr some)
    have sourceIdle := emptied.idle_of_empty service noSource
    rw [(emptied.represents service).moveTimer_idle member sourceIdle
      (emptied.idle_of_empty service noOps), setQueue_queue]
    refine ⟨⟨left, emptied.congr_dates fun other timer inside => ?_, fun other some inside => ?_⟩,
      ?_, opsEq⟩
    · have different : timer ≠ target := fun same => notLeft other (same ▸ inside)
      exact Function.update_of_ne different _ _
    · refine ⟨fun same => emptied.busy inside (same ▸ noSource), Or.inl
        ⟨fun same => notLeft other (same ▸ inside), stayed other some inside⟩⟩
    · rw [opQueueEq]
      by_cases apart : source = target
      · subst apart
        rw [Function.update_idem]
      · rw [opQueueEq, Function.update_of_ne apart] at noSource
        rw [noSource, eq_comm, Function.update_eq_self_iff, Function.update_of_ne apart, noSource]

/-- **`get_ready_timers`**: the operations of the due timers leave them. -/
theorem Holds.getReadyTimers (holds : queues.Holds active dates) (service : Service)
    (now : Time) :
    let result := queues.getReadyTimers service now
    ∃ ready : List Id, ready.Nodup ∧
      (∀ some, some ∈ ready ↔ some ∈ active service ∧ TimerQueue.Due dates now some) ∧
      (∃ left, result.1.Holds left dates ∧ ∀ other, ∀ some ∈ left other, some ∈ active other) ∧
      (∀ some, result.1.opQueue some = if some ∈ ready then [] else queues.opQueue some) ∧
      result.2 = ready.flatMap queues.opQueue := by
  intro result
  obtain ⟨ready, left, collected, opsEq, due, notDue, -⟩ :=
    (holds.represents service).getReadyTimers now []
  have nodup := List.nodup_append.mp
    (collected.perm.nodup_iff.mp (holds.represents service).spells.nodup)
  have members : ∀ some, some ∈ active service ↔ some ∈ ready ∨ some ∈ left := fun some => by
    rw [collected.perm.mem_iff, List.mem_append]
  have framed := holds.frame service collected.represents
    (fun some inside => (members some).mpr (Or.inr inside)) (fun _ inside => inside)
    (fun _ inside other elsewhere => holds.apart elsewhere inside) collected.untouched fun _ _ => rfl
  refine ⟨ready, nodup.1, ?_, ⟨_, framed ?_ ?_, ?_⟩, ?_, ?_⟩
  · intro some
    constructor
    · exact fun inside => ⟨(members some).mpr (Or.inl inside), due some inside⟩
    · intro ⟨inside, isDue⟩
      exact ((members some).mp inside).resolve_right fun stays => notDue some stays isDue
  · intro some inside
    rw [collected.kept some fun taken => nodup.2.2 some taken some inside rfl]
    exact holds.busy ((members some).mpr (Or.inr inside))
  · intro some inside outside
    exact collected.ready_idle some (((members some).mp inside).resolve_right outside)
  · intro other some inside
    by_cases same : other = service
    · subst same
      rw [Function.update_self] at inside
      exact (members some).mpr (Or.inr inside)
    · rwa [Function.update_of_ne same] at inside
  · intro some
    split
    · next taken => exact (collected.ready_idle some taken).noOps
    · next stays => exact collected.kept some stays
  · exact opsEq

end Holds

end TimerQueues

end Asio.Timer
