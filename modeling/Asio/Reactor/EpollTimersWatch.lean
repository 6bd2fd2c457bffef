import Asio.Reactor.EpollTimers
import Asio.Timer.QueueEarliest

/-! # What the timerfd watches

Every entry of every queue is watched: the timerfd expires at its time, or soon
after it was armed. A step that makes no earliest time earlier keeps this, and
every other step ends in `update_timeout`.
-/

namespace Asio.Reactor

open Timer (PosixTraits TimerQueueBase TimerQueueSet QueueRun WaitOp HeapEntry Ticks sizeMax)

namespace EpollTimers

variable {Service : Type} {Id Op Time : Service → Type}

/-- The timerfd expires no more than a microsecond after `instant`, or after it was armed. -/
def WatchedFor (state : EpollTimers Id Op Time) (instant : Int) : Prop :=
  ∃ armed ∈ state.timerFd, armed.expiry ≤ max instant armed.moment + 1000

/-- What `get_timeout` says of a wait arms the timerfd, in the past for no wait. -/
theorem timerfdSettime_eq (state : EpollTimers Id Op Time) {usec : Int} (nonneg : 0 ≤ usec) :
    state.timerfdSettime
        ⟨usec.tdiv 1000000, if usec ≠ 0 then usec.tmod 1000000 * 1000 else 1⟩ (usec == 0) =
      { state with timerFd := some ⟨state.now, if usec = 0 then 1 else state.now + usec * 1000⟩ } := by
  by_cases none : usec = 0
  · subst none
    rfl
  · have parts := Int.mul_tdiv_add_tmod usec 1000000
    have some : ¬ TimerSpec.mk (usec.tdiv 1000000) (usec.tmod 1000000 * 1000) = ⟨0, 0⟩ := by
      intro zero
      rw [TimerSpec.mk.injEq] at zero
      omega
    have sum : (state.now : Int) + usec.tdiv 1000000 * 1000000000 + usec.tmod 1000000 * 1000 =
        state.now + usec * 1000 := by omega
    simp only [timerfdSettime, none, some, sum, ne_eq, not_false_eq_true, ↓reduceIte, beq_iff_eq]

variable [∀ service, PosixTraits (Time service)]

/-- Every queue represents its timers, and one that is not registered has no entry. -/
structure Sound (state : EpollTimers Id Op Time) : Prop where
  valid : ∀ service, (state.run service).Valid
  vacant : ∀ service, service ∉ state.timerQueues → (state.run service).queue.heap = #[]

/-- The invariant: the timerfd is armed for every entry of every queue. -/
structure Watches (clock : ∀ service, UniformClock (Time service))
    (state : EpollTimers Id Op Time) : Prop extends Sound state where
  watched : ∀ service, ∀ entry ∈ (state.run service).queue.heap,
    state.WatchedFor ((clock service).instant entry.time)

variable {clock : ∀ service, UniformClock (Time service)} {state next : EpollTimers Id Op Time}
  {now : ∀ service, Time service}

/-- The wait for the queues is no longer than for any entry, or a microsecond. -/
theorem usec_le (reads : state.Reads clock now) {service : Service}
    (known : service ∈ state.timerQueues) (valid : (state.run service).Valid)
    {entry : HeapEntry (Id service) (Time service)}
    (member : entry ∈ (state.run service).queue.heap) :
    (state.timerQueueSet now).waitDurationUsec (5 * 60 * 1000 * 1000) ≤ 1 ∨
      state.now + (state.timerQueueSet now).waitDurationUsec (5 * 60 * 1000 * 1000) * 1000 ≤
        (clock service).instant entry.time + 1000 := by
  obtain ⟨active, represents, -, -⟩ := valid
  obtain ⟨i, inside, rfl⟩ := Array.mem_iff_getElem.mp member
  have nonempty : 0 < (state.run service).queue.heap.size := Nat.zero_lt_of_lt inside
  have later := (clock service).instant_mono (represents.minHeap.root_le nonempty i inside)
  have listed : (⟨(state.run service).queue, now service⟩ : TimerQueueBase) ∈
      state.timerQueueSet now := List.mem_map.mpr ⟨service, known, rfl⟩
  have owns : (⟨(state.run service).queue, now service⟩ : TimerQueueBase).ownWait .usec = some
      (if PosixTraits.ticks (state.run service).queue.heap[0].time (now service) ≤ 0 then 0
      else if PosixTraits.totalMicroseconds (state.run service).queue.heap[0].time (now service) = 0
        then 1
      else PosixTraits.totalMicroseconds (state.run service).queue.heap[0].time (now service)) := by
    simp only [TimerQueueBase.ownWait, TimerQueueBase.earliest,
      Array.getElem?_eq_getElem nonempty, Option.map_some]
  have wait : (state.timerQueueSet now).waitDurationUsec (5 * 60 * 1000 * 1000) ≤ _ :=
    TimerQueueSet.waitDuration_le_own (by decide) listed owns
  have short := (clock service).totalMicroseconds_le (state.run service).queue.heap[0].time
    (now service)
  obtain ⟨-, lag⟩ := reads service known
  split at wait
  · exact .inl wait
  · next positive =>
    have short := short (Int.not_le.mp positive)
    split at wait
    · exact .inl wait
    · omega

/-- **Arming.** `update_timeout` makes the timerfd watch every timer. -/
theorem Sound.updateTimeout (sound : state.Sound) (reads : state.Reads clock now) :
    (state.updateTimeout now).Watches clock := by
  have nonneg : 0 ≤ (state.timerQueueSet now).waitDurationUsec (5 * 60 * 1000 * 1000) :=
    @TimerQueueSet.waitDuration_nonneg .usec _ _ (by decide)
  have armed : state.updateTimeout now = _ := state.timerfdSettime_eq nonneg
  rw [armed]
  refine ⟨⟨sound.valid, sound.vacant⟩, fun service entry member => ⟨_, rfl, ?_⟩⟩
  have known : service ∈ state.timerQueues := by
    by_contra absent
    have member : entry ∈ (state.run service).queue.heap := member
    rw [sound.vacant service absent] at member
    exact absurd member (Array.not_mem_empty entry)
  have short := usec_le reads known (sound.valid service) member
  dsimp only
  split
  · omega
  · omega

variable [DecidableEq Service]

section SetRun

variable (state : EpollTimers Id Op Time) {service other : Service}
  (run : QueueRun (Id service) (Op service) (Time service))

omit [∀ service, PosixTraits (Time service)] in
@[simp] theorem setRun_self : (state.setRun service run).run service = run :=
  Function.update_self ..

omit [∀ service, PosixTraits (Time service)] in
theorem setRun_of_ne (different : other ≠ service) :
    (state.setRun service run).run other = state.run other :=
  Function.update_of_ne different ..

end SetRun

theorem Sound.setRun (sound : state.Sound) {service : Service}
    {run : QueueRun (Id service) (Op service) (Time service)} (known : service ∈ state.timerQueues)
    (valid : run.Valid) : (state.setRun service run).Sound := by
  constructor
  · intro other
    by_cases own : other = service
    · subst own
      rw [setRun_self]
      exact valid
    · rw [setRun_of_ne state run own]
      exact sound.valid other
  · intro other absent
    have different : other ≠ service := fun own => absent (own ▸ known)
    rw [setRun_of_ne state run different]
    exact sound.vacant other absent

/-- A call that makes no earliest time earlier needs no arming. -/
theorem Watches.setRun (watches : state.Watches clock) {service : Service}
    {run : QueueRun (Id service) (Op service) (Time service)} (known : service ∈ state.timerQueues)
    (valid : run.Valid) (noEarlier : (state.run service).NoEarlier run) :
    (state.setRun service run).Watches clock := by
  refine ⟨watches.toSound.setRun known valid, fun other entry member => ?_⟩
  by_cases own : other = service
  · subst own
    rw [setRun_self] at member
    obtain ⟨old, stood, earlier⟩ := noEarlier entry member
    obtain ⟨armed, isArmed, expiry⟩ := watches.watched other old stood
    have later := (clock other).instant_mono earlier
    exact ⟨armed, isArmed, by omega⟩
  · rw [setRun_of_ne state run own] at member
    exact watches.watched other entry member

variable [∀ service, DecidableEq (Id service)] [∀ service, DecidableEq (Op service)]

theorem Sound.readyTimers (sound : state.Sound) {service : Service}
    (known : service ∈ state.timerQueues) :
    ({ state with run := readyTimers now state.run service } : EpollTimers Id Op Time).Sound :=
  sound.setRun known ((sound.valid service).step
    (show (state.run service).step (.ready (now service)) = some _ from rfl))

/-- `get_ready_timers` works on the registered queues. -/
theorem Sound.getReadyTimers (sound : state.Sound) : (state.getReadyTimers now).Sound := by
  have loop : ∀ services : List Service, (∀ service ∈ services, service ∈ state.timerQueues) →
      ∀ run, ({ state with run } : EpollTimers Id Op Time).Sound →
        ({ state with run := services.foldl (EpollTimers.readyTimers now) run } :
          EpollTimers Id Op Time).Sound := by
    intro services
    induction services with
    | nil => exact fun _ _ sound => sound
    | cons service services ih =>
        intro known run sound
        apply ih (fun other later => known other (List.mem_cons_of_mem _ later))
        exact sound.readyTimers (known service List.mem_cons_self)
  exact loop _ (fun _ known => known) _ sound

/-- **Step.** -/
theorem Watches.step {action : EpollTimersAction Id Op Time} (watches : state.Watches clock)
    (stepped : state.step clock action = some next) : next.Watches clock := by
  cases action with
  | scheduleTimer service time timer op now =>
      simp only [EpollTimers.step] at stepped
      split at stepped
      · next permitted =>
        obtain ⟨known, reads⟩ := permitted
        split at stepped
        · next run earliest enqueued returned =>
          have valid := (watches.valid service).step enqueued
          rw [Option.some.injEq] at stepped
          subst stepped
          cases earliest with
          | false =>
              exact watches.setRun known valid
                ((watches.valid service).enqueue_noEarlier enqueued returned)
          | true =>
              apply (watches.toSound.setRun known valid).updateTimeout
              exact reads
        · contradiction
      · contradiction
  | cancelTimer service timer maxCancelled =>
      simp only [EpollTimers.step] at stepped
      split at stepped
      · next known =>
        obtain ⟨run, cancelled, rfl⟩ := Option.map_eq_some_iff.mp stepped
        exact watches.setRun known ((watches.valid service).step cancelled)
          ((watches.valid service).cancel_noEarlier cancelled)
      · contradiction
  | moveTimer service target source =>
      simp only [EpollTimers.step] at stepped
      split at stepped
      · next known =>
        obtain ⟨run, made, rfl⟩ := Option.map_eq_some_iff.mp stepped
        obtain ⟨middle, cancelled, moved⟩ := Option.bind_eq_some_iff.mp made
        have between := (watches.valid service).step cancelled
        exact watches.setRun known (between.step moved)
          (((watches.valid service).cancel_noEarlier cancelled).trans
            (QueueRun.move_noEarlier moved))
      · contradiction
  | addTimerQueue service =>
      simp only [EpollTimers.step] at stepped
      split at stepped
      · cases stepped
        refine ⟨⟨watches.valid, fun other absent => watches.vacant other ?_⟩, watches.watched⟩
        exact fun member => absent (List.mem_cons_of_mem _ member)
      · contradiction
  | removeTimerQueue service =>
      simp only [EpollTimers.step] at stepped
      split at stepped
      · next permitted =>
        cases stepped
        refine ⟨⟨watches.valid, fun other absent => ?_⟩, watches.watched⟩
        by_cases own : other = service
        · subst own
          exact (watches.valid other).heap_eq_empty permitted.2
        · exact watches.vacant other fun member =>
            absent ((List.mem_erase_of_ne own).mpr member)
      · contradiction
  | epollWait reported =>
      simp only [EpollTimers.step] at stepped
      split at stepped
      · cases stepped
        exact ⟨⟨watches.valid, watches.vacant⟩, watches.watched⟩
      · contradiction
  | dispatch now =>
      simp only [EpollTimers.step] at stepped
      split at stepped
      · contradiction
      · cases stepped
        exact ⟨⟨watches.valid, watches.vacant⟩, watches.watched⟩
      · split at stepped
        · next reads =>
          cases stepped
          have ready : (state.getReadyTimers now).Sound := watches.toSound.getReadyTimers
          have armed : ((state.getReadyTimers now).updateTimeout now).Watches clock :=
            ready.updateTimeout reads
          exact ⟨⟨armed.valid, armed.vacant⟩, armed.watched⟩
        · contradiction
  | elapse nanoseconds =>
      cases stepped
      exact ⟨⟨watches.valid, watches.vacant⟩, watches.watched⟩

theorem watches_of_reachable (reachable : (machine clock).Reachable state) :
    state.Watches clock := by
  apply reachable.invariant
  · rintro _ ⟨now, rfl⟩
    exact ⟨⟨fun _ => QueueRun.valid_start, fun _ _ => rfl⟩,
      fun _ entry member => absurd member (Array.not_mem_empty entry)⟩
  · intro state action next _ watches _ stepped
    exact watches.step stepped

end EpollTimers

/-- A chrono clock that counts nanoseconds from some moment on. -/
def UniformClock.ofEpoch (epoch : Int) : UniformClock Ticks where
  instant time := epoch + time.1
  instant_mono later := Int.add_le_add_left later _
  totalMicroseconds_le t1 t2 positive := by
    change 0 < (Ticks.subtract t1 t2).1 at positive
    change (Ticks.subtract t1 t2).1.tdiv 1000 * 1000 ≤ epoch + t1.1 - (epoch + t2.1)
    have parts := Int.mul_tdiv_add_tmod (Ticks.subtract t1 t2).1 1000
    have rest := Int.tmod_nonneg 1000 positive.le
    rw [Ticks.subtract_eq] at parts rest positive ⊢
    simp only [Ticks.min] at positive parts rest ⊢
    omega

namespace EpollTimers

/-- A steady and a system clock, each with timers, over a round of the reactor. -/
def someActions : List (@EpollTimersAction Bool (fun _ => Nat) (fun _ => Nat) fun _ => Ticks) :=
  let now := fun service : Bool => if service then (⟨2000, by decide⟩ : Ticks) else ⟨7000, by decide⟩
  [.addTimerQueue true, .addTimerQueue false,
    .scheduleTimer true ⟨90000, by decide⟩ 0 ⟨10, .success⟩ now,
    .scheduleTimer false ⟨8500, by decide⟩ 1 ⟨11, .success⟩ now, .epollWait false,
    .scheduleTimer true ⟨90000, by decide⟩ 2 ⟨12, .success⟩ now, .dispatch now, .elapse 1000,
    .moveTimer true 3 0, .epollWait true, .cancelTimer false 1 1, .removeTimerQueue false,
    .dispatch fun _ => ⟨3000, by decide⟩]

end EpollTimers

end Asio.Reactor
