import Asio.Timer.Chrono
import Asio.Timer.QueueEarliest
import Asio.Timer.Reactor

/-! # The wait for the earliest timer

`wait_duration_usec` tells a reactor how long it may block: in microseconds, the
time to the earliest timer of every queue, and at least one of them for a timer
that is not due yet.
-/

namespace Asio.Timer

/-- What the waits use of `Time_Traits`: the ticks, milliseconds and microseconds
of `to_posix_duration(subtract(t1, t2))`. A positive duration has no negative
number of units. -/
class PosixTraits (Time : Type*) extends TimeTraits Time where
  ticks : Time → Time → Int
  totalMilliseconds : Time → Time → Int
  totalMicroseconds : Time → Time → Int
  totalMilliseconds_nonneg (t1 t2 : Time) : 0 < ticks t1 t2 → 0 ≤ totalMilliseconds t1 t2
  totalMicroseconds_nonneg (t1 t2 : Time) : 0 < ticks t1 t2 → 0 ≤ totalMicroseconds t1 t2

/-- A later time is no fewer microseconds away. -/
class DurationTraits (Time : Type*) extends PosixTraits Time where
  totalMicroseconds_mono (now : Time) {t1 t2 : Time} :
    t1 ≤ t2 → totalMicroseconds t1 now ≤ totalMicroseconds t2 now

/-- The units of the waits. -/
inductive WaitUnit where
  | msec
  | usec
  deriving DecidableEq, Repr

/-- `to_msec` of a duration with these ticks and milliseconds. -/
def toMsec (ticks msec maxDuration : Int) : Int :=
  if ticks ≤ 0 then 0
  else if msec = 0 then 1
  else if msec > maxDuration then maxDuration
  else msec

/-- `to_usec` of a duration with these ticks and microseconds. -/
def toUsec (ticks usec maxDuration : Int) : Int :=
  if ticks ≤ 0 then 0
  else if usec = 0 then 1
  else if usec > maxDuration then maxDuration
  else usec

/-- The wait is too long by less than a microsecond. -/
theorem toUsec_le (ticks usec maxDuration : Int) : toUsec ticks usec maxDuration ≤ max usec 0 + 1 := by
  unfold toUsec
  split_ifs <;> omega

theorem toUsec_le_max (ticks usec maxDuration : Int) :
    toUsec ticks usec maxDuration ≤ max maxDuration 1 := by
  unfold toUsec
  split_ifs <;> omega

section Wait

variable {Id Op Time : Type*} [PosixTraits Time]

/-- `timer_queue::wait_duration_msec`, with the reading of the clock. -/
def TimerQueue.waitDurationMsec (queue : TimerQueue Id Op Time) (now : Time) (maxDuration : Int) :
    Int :=
  match queue.heap[0]? with
  | none => maxDuration
  | some root =>
      toMsec (PosixTraits.ticks root.time now) (PosixTraits.totalMilliseconds root.time now)
        maxDuration

/-- `timer_queue::wait_duration_usec`, with the reading of the clock. -/
def TimerQueue.waitDurationUsec (queue : TimerQueue Id Op Time) (now : Time) (maxDuration : Int) :
    Int :=
  match queue.heap[0]? with
  | none => maxDuration
  | some root =>
      toUsec (PosixTraits.ticks root.time now) (PosixTraits.totalMicroseconds root.time now)
        maxDuration

end Wait

variable {Service Id Op Time : Type*} [DurationTraits Time]

theorem TimerQueue.waitDurationUsec_le_max (queue : TimerQueue Id Op Time) (now : Time)
    (maxDuration : Int) : queue.waitDurationUsec now maxDuration ≤ max maxDuration 1 := by
  unfold TimerQueue.waitDurationUsec
  split
  · exact le_max_left _ _
  · exact toUsec_le_max _ _ _

/-- No timer of the queue is due much before the wait is over. -/
theorem TimerQueue.waitDurationUsec_le {queue : TimerQueue Id Op Time}
    (minHeap : MinHeap.IsMinHeap HeapEntry.time queue.heap) {entry : HeapEntry Id Time}
    (member : entry ∈ queue.heap) (now : Time) (maxDuration : Int) :
    queue.waitDurationUsec now maxDuration ≤
      max (PosixTraits.totalMicroseconds entry.time now) 0 + 1 := by
  obtain ⟨i, inside, rfl⟩ := Array.mem_iff_getElem.mp member
  have nonempty : 0 < queue.heap.size := Nat.zero_lt_of_lt inside
  have least := minHeap.root_le nonempty i inside
  have wait := toUsec_le (PosixTraits.ticks queue.heap[0].time now)
    (PosixTraits.totalMicroseconds queue.heap[0].time now) maxDuration
  have later := DurationTraits.totalMicroseconds_mono now least
  rw [TimerQueue.waitDurationUsec, Array.getElem?_eq_getElem nonempty]
  dsimp only
  omega

namespace TimerQueues

/-- `timer_queue_set::all_empty` for the queues of some services. -/
def allEmpty (queues : TimerQueues Service Id Op Time) (services : List Service) : Bool :=
  services.all fun service => (queues.queue service).isEmpty

/-- `timer_queue_set::wait_duration_usec`; every queue reads its own clock. -/
def waitDurationUsec (queues : TimerQueues Service Id Op Time) (services : List Service)
    (now : Service → Time) (maxDuration : Int) : Int :=
  services.foldl
    (fun minDuration service => (queues.queue service).waitDurationUsec (now service) minDuration)
    maxDuration

variable {queues : TimerQueues Service Id Op Time} {services : List Service}

theorem waitDurationUsec_le_max (now : Service → Time) (maxDuration : Int) :
    queues.waitDurationUsec services now maxDuration ≤ max maxDuration 1 := by
  unfold waitDurationUsec
  induction services generalizing maxDuration with
  | nil => exact le_max_left _ _
  | cons service services ih =>
      have first := (queues.queue service).waitDurationUsec_le_max (now service) maxDuration
      refine (ih _).trans (max_le first (le_max_right _ _))

/-- No timer of any queue is due much before the wait is over. -/
theorem waitDurationUsec_le (now : Service → Time) (maxDuration : Int) {service : Service}
    (known : service ∈ services)
    (minHeap : MinHeap.IsMinHeap HeapEntry.time (queues.heap service)) {entry : HeapEntry Id Time}
    (member : entry ∈ queues.heap service) : queues.waitDurationUsec services now maxDuration ≤
      max (PosixTraits.totalMicroseconds entry.time (now service)) 0 + 1 := by
  induction services generalizing maxDuration with
  | nil => cases known
  | cons other services ih =>
      obtain rfl | later := List.mem_cons.mp known
      · have rest : queues.waitDurationUsec services now
            ((queues.queue service).waitDurationUsec (now service) maxDuration) ≤ _ :=
          waitDurationUsec_le_max now _
        have own : (queues.queue service).waitDurationUsec (now service) maxDuration ≤ _ :=
          TimerQueue.waitDurationUsec_le minHeap member (now service) maxDuration
        refine rest.trans (max_le own ?_)
        omega
      · exact ih _ later

end TimerQueues

/-! ## Changes of the queues

When `enqueue_timer` says that the new timer is not the earliest, a wait that was
worked out before is still short enough.
-/

section Changes

variable {queue next : TimerQueue Id Op Time} {timer : Id} {op : WaitOp Op}

namespace TimerQueues

variable {active left : Service → List Id} {dates : Id → Option Time}
  {queues after : TimerQueues Service Id Op Time} {service : Service}

/-- Fewer active timers have fewer entries. -/
theorem Holds.heap_subset (holds : queues.Holds active dates) (remains : after.Holds left dates)
    (fewer : ∀ other, ∀ timer ∈ left other, timer ∈ active other) {entry : HeapEntry Id Time}
    (member : entry ∈ after.heap service) : entry ∈ queues.heap service := by
  obtain ⟨stays, dated⟩ := ((remains.represents service).mem_heap entry).mp member
  exact ((holds.represents service).mem_heap entry).mpr ⟨fewer service _ stays, dated⟩

variable [DecidableEq Service] [DecidableEq Id] [DecidableEq Op]

/-- The time of a timer that is active is not looked at. -/
theorem scheduleTimer_active (isActive : (queues.queue service).isActive timer = true)
    (time other : Time) : queues.scheduleTimer true service time timer op =
      queues.scheduleTimer true service other timer op := by
  simp only [scheduleTimer, TimerQueue.enqueueTimer, TimerQueue.activate, isActive, if_true]

/-- `schedule_timer` with any time keeps the queues. -/
theorem Holds.scheduleTimer_any {time : Time} {earliest : Bool} (holds : queues.Holds active dates)
    (home : ∀ other, timer ∈ active other → other = service)
    (scheduled : queues.scheduleTimer true service time timer op = (after, some earliest)) :
    ∃ now left, after.Holds left now ∧
      ∀ other, ∀ some ∈ left other, some ∈ active other ∨ other = service ∧ some = timer := by
  by_cases member : timer ∈ active service
  · obtain ⟨own, dated⟩ := Option.isSome_iff_exists.mp ((holds.represents service).dated _ member)
    rw [scheduleTimer_active ((holds.isActive_iff home).mpr member) time own] at scheduled
    obtain ⟨⟨left, remains, within⟩, -⟩ := holds.scheduleTimer home (fun _ => dated) scheduled
    exact ⟨_, left, remains, within⟩
  · obtain ⟨⟨left, remains, within⟩, -⟩ :=
      holds.scheduleTimer home (fun inside => absurd inside member) scheduled
    exact ⟨_, left, remains, within⟩

/-- `schedule_timer` with any time adds the operation to those of the timer. -/
theorem Holds.scheduleTimer_opQueue {time : Time} {earliest : Bool}
    (holds : queues.Holds active dates)
    (home : ∀ other, timer ∈ active other → other = service)
    (scheduled : queues.scheduleTimer true service time timer op = (after, some earliest)) :
    after.opQueue = Function.update queues.opQueue timer (queues.opQueue timer ++ [op]) := by
  by_cases member : timer ∈ active service
  · obtain ⟨own, dated⟩ := Option.isSome_iff_exists.mp ((holds.represents service).dated _ member)
    rw [scheduleTimer_active ((holds.isActive_iff home).mpr member) time own] at scheduled
    exact (holds.scheduleTimer home (fun _ => dated) scheduled).2
  · exact (holds.scheduleTimer home (fun inside => absurd inside member) scheduled).2

/-- A timer that is not the earliest of its queue is not earlier than all others. -/
theorem Holds.schedule_later {time : Time} (holds : queues.Holds active dates)
    (home : ∀ other, timer ∈ active other → other = service)
    (scheduled : queues.scheduleTimer true service time timer op = (after, some false))
    {other : Service} {entry : HeapEntry Id Time} (member : entry ∈ after.heap other) :
    ∃ old ∈ queues.heap other, old.time ≤ entry.time := by
  simp only [TimerQueues.scheduleTimer, Prod.mk.injEq] at scheduled
  obtain ⟨rfl, enqueued⟩ := scheduled
  by_cases own : other = service
  · subst own
    simp only [setQueue, Function.update_self] at member
    exact (holds.represents other).enqueue_later
      (fun absent => holds.idle other timer fun third inside => absent (home third inside ▸ inside))
      (Prod.ext rfl enqueued) member
  · simp only [setQueue, Function.update_of_ne own] at member
    exact ⟨entry, member, le_refl _⟩

end TimerQueues

end Changes

/-! ## Chrono clocks -/

namespace Ticks

/-- `chrono_time_traits::subtract`. -/
def subtract (t1 t2 : Ticks) : Ticks :=
  if nonneg : epoch.1 ≤ t1.1 then
    if other : epoch.1 ≤ t2.1 then ⟨t1.1 - t2.1, by
      have := t1.2; have := t2.2; simp only [epoch] at nonneg other; omega⟩
    else if t2.1 = min.1 then max
    else if late : max.1 - t1.1 < epoch.1 - t2.1 then max
    else ⟨t1.1 - t2.1, by
      have := t1.2; have := t2.2; simp only [epoch, max] at nonneg other late; omega⟩
  else
    if other : t2.1 < epoch.1 then ⟨t1.1 - t2.1, by
      have := t1.2; have := t2.2; simp only [epoch] at nonneg other; omega⟩
    else if t1.1 = min.1 then min
    else if early : max.1 - t2.1 < epoch.1 - t1.1 then min
    else ⟨-(t2.1 - t1.1), by
      have := t1.2; have := t2.2; simp only [epoch, max] at nonneg other early; omega⟩

/-- **`subtract` saturates.** -/
theorem subtract_eq (t1 t2 : Ticks) :
    (subtract t1 t2).1 = Max.max min.1 (Min.min max.1 (t1.1 - t2.1)) := by
  have range1 := t1.2
  have range2 := t2.2
  have within : ∀ d : Ticks, d.1 = t1.1 - t2.1 →
      d.1 = Max.max min.1 (Min.min max.1 (t1.1 - t2.1)) := by
    intro d difference
    have range := d.2
    simp only [max, min]
    omega
  have above : 2 ^ 63 - 1 ≤ t1.1 - t2.1 →
      max.1 = Max.max min.1 (Min.min max.1 (t1.1 - t2.1)) := by
    simp only [max, min]
    omega
  have below : t1.1 - t2.1 ≤ -2 ^ 63 →
      min.1 = Max.max min.1 (Min.min max.1 (t1.1 - t2.1)) := by
    simp only [max, min]
    omega
  unfold subtract
  split
  · next nonneg =>
    simp only [epoch] at nonneg
    split
    · exact within _ rfl
    · split
      · next least => exact above (by simp only [min] at least; omega)
      · split
        · next late => exact above (by simp only [max, epoch] at late; omega)
        · exact within _ rfl
  · next negative =>
    simp only [epoch] at negative
    split
    · exact within _ rfl
    · next other =>
      simp only [epoch] at other
      split
      · next least => exact below (by simp only [min] at least; omega)
      · split
        · next early => exact below (by simp only [max, epoch] at early; omega)
        · exact within _ (Int.neg_sub _ _)

/-- `total_microseconds` of a clock that counts nanoseconds. -/
def totalMicroseconds (ticks : Ticks) : Int := ticks.1.tdiv 1000

/-- `total_milliseconds` of a clock that counts nanoseconds. -/
def totalMilliseconds (ticks : Ticks) : Int := ticks.1.tdiv 1000000

end Ticks

/-- The system clock and the steady clock, with the default wait traits. -/
instance : DurationTraits Ticks where
  toTimeTraits := inferInstance
  ticks t1 t2 := (Ticks.subtract t1 t2).1
  totalMilliseconds t1 t2 := (Ticks.subtract t1 t2).totalMilliseconds
  totalMicroseconds t1 t2 := (Ticks.subtract t1 t2).totalMicroseconds
  totalMilliseconds_nonneg _ _ positive := Int.tdiv_nonneg positive.le (by decide)
  totalMicroseconds_nonneg _ _ positive := Int.tdiv_nonneg positive.le (by decide)
  totalMicroseconds_mono now t1 t2 later := by
    have later : t1.1 ≤ t2.1 := later
    unfold Ticks.totalMicroseconds
    apply Int.tdiv_le_tdiv (by decide)
    rw [Ticks.subtract_eq, Ticks.subtract_eq]
    omega

end Asio.Timer
