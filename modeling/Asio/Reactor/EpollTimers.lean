import Asio.Lib.Transition
import Asio.Timer.QueueRuns
import Asio.Timer.QueueSet

/-! # The timers of the epoll reactor

`epoll_reactor` with a timerfd: the timerfd is armed for the earliest timer when
`enqueue_timer` says that a new timer is the earliest of its queue, and by `run`
after it has dispatched the timers that were ready. A critical section of `mutex_`
is one step, at one moment of `CLOCK_MONOTONIC`.
-/

namespace Asio.Reactor

open Timer (PosixTraits TimerQueueSet QueueRun WaitOp sizeMax)

/-- A clock that advances uniformly: where its times lie on the time line of
`CLOCK_MONOTONIC`, in nanoseconds, and that a duration is not rounded up. -/
structure UniformClock (Time : Type) [PosixTraits Time] where
  instant : Time → Int
  instant_mono : ∀ {t1 t2 : Time}, t1 ≤ t2 → instant t1 ≤ instant t2
  totalMicroseconds_le : ∀ t1 t2 : Time, 0 < PosixTraits.ticks t1 t2 →
    PosixTraits.totalMicroseconds t1 t2 * 1000 ≤ instant t1 - instant t2

/-- The `it_value` of an `itimerspec`. -/
structure TimerSpec where
  sec : Int
  nsec : Int
  deriving DecidableEq, Repr

/-- A timerfd that is armed: when that was done, and when it expires. -/
structure Armed where
  moment : Nat
  expiry : Int
  deriving DecidableEq, Repr

/-- The members of `epoll_reactor` that have to do with timers. `checkTimers` is
that of a call of `run` between `epoll_wait` and the dispatch of the timers. -/
structure EpollTimers {Service : Type} (Id Op Time : Service → Type) where
  run : ∀ service, QueueRun (Id service) (Op service) (Time service)
  timerQueues : List Service
  timerFd : Option Armed
  checkTimers : Option Bool
  now : Nat

/-- What happens to the timers; `now` is what the clock of each queue reads. -/
inductive EpollTimersAction {Service : Type} (Id Op Time : Service → Type) where
  | scheduleTimer (service : Service) (time : Time service) (timer : Id service)
      (op : WaitOp (Op service)) (now : ∀ service, Time service)
  | cancelTimer (service : Service) (timer : Id service) (maxCancelled : Nat)
  | moveTimer (service : Service) (target source : Id service)
  | addTimerQueue (service : Service)
  | removeTimerQueue (service : Service)
  | epollWait (reported : Bool)
  | dispatch (now : ∀ service, Time service)
  | elapse (nanoseconds : Nat)

namespace EpollTimers

variable {Service : Type} {Id Op Time : Service → Type}

/-- The timerfd is readable from its expiry until it is armed again. -/
def Readable (state : EpollTimers Id Op Time) : Prop :=
  ∃ armed ∈ state.timerFd, armed.expiry ≤ state.now

instance (state : EpollTimers Id Op Time) : Decidable state.Readable :=
  inferInstanceAs (Decidable (∃ armed ∈ state.timerFd, armed.expiry ≤ state.now))

variable [∀ service, PosixTraits (Time service)]

/-- The clocks read the moment, to the microsecond. -/
def Reads (clock : ∀ service, UniformClock (Time service)) (state : EpollTimers Id Op Time)
    (now : ∀ service, Time service) : Prop :=
  ∀ service ∈ state.timerQueues, (clock service).instant (now service) ≤ state.now ∧
    state.now < (clock service).instant (now service) + 1000

instance (clock : ∀ service, UniformClock (Time service)) (state : EpollTimers Id Op Time)
    (now : ∀ service, Time service) : Decidable (state.Reads clock now) :=
  inferInstanceAs (Decidable (∀ service ∈ state.timerQueues, _))

/-- `timer_queues_`. -/
def timerQueueSet (state : EpollTimers Id Op Time) (now : ∀ service, Time service) :
    TimerQueueSet :=
  state.timerQueues.map fun service => ⟨(state.run service).queue, now service⟩

/-- `get_timeout(itimerspec&)`: the value, and whether the flags are `TFD_TIMER_ABSTIME`. -/
def getTimeout (state : EpollTimers Id Op Time) (now : ∀ service, Time service) :
    TimerSpec × Bool :=
  let usec := (state.timerQueueSet now).waitDurationUsec (5 * 60 * 1000 * 1000)
  (⟨usec.tdiv 1000000, if usec ≠ 0 then usec.tmod 1000000 * 1000 else 1⟩, usec == 0)

/-- `timerfd_settime`: a value of zero disarms the timer. -/
def timerfdSettime (state : EpollTimers Id Op Time) (value : TimerSpec) (absolute : Bool) :
    EpollTimers Id Op Time :=
  { state with
    timerFd :=
      if value = ⟨0, 0⟩ then none
      else some ⟨state.now,
        (if absolute then 0 else state.now) + value.sec * 1000000000 + value.nsec⟩ }

/-- `update_timeout`. -/
def updateTimeout (state : EpollTimers Id Op Time) (now : ∀ service, Time service) :
    EpollTimers Id Op Time :=
  let (value, absolute) := state.getTimeout now
  state.timerfdSettime value absolute

variable [DecidableEq Service] [∀ service, DecidableEq (Id service)]
  [∀ service, DecidableEq (Op service)]

/-- The state after a call on one queue. -/
def setRun (state : EpollTimers Id Op Time) (service : Service)
    (run : QueueRun (Id service) (Op service) (Time service)) : EpollTimers Id Op Time :=
  { state with run := Function.update state.run service run }

/-- `get_ready_timers` of one of the queues. -/
def readyTimers (now : ∀ service, Time service)
    (run : ∀ service, QueueRun (Id service) (Op service) (Time service)) (service : Service) :
    ∀ service, QueueRun (Id service) (Op service) (Time service) :=
  Function.update run service
    { run service with queue := ((run service).queue.getReadyTimers (now service) []).1 }

/-- `timer_queue_set::get_ready_timers`. -/
def getReadyTimers (state : EpollTimers Id Op Time) (now : ∀ service, Time service) :
    EpollTimers Id Op Time :=
  { state with run := state.timerQueues.foldl (readyTimers now) state.run }

/-- One step. A queue is registered while it is used, empty when it is added or
removed, and `epoll_wait` reports the timerfd only when it is readable. -/
def step (clock : ∀ service, UniformClock (Time service)) (state : EpollTimers Id Op Time) :
    EpollTimersAction Id Op Time → Option (EpollTimers Id Op Time)
  | .scheduleTimer service time timer op now =>
      if service ∈ state.timerQueues ∧ state.Reads clock now then
        match (state.run service).step (.enqueue time timer op),
          ((state.run service).queue.enqueueTimer true time timer op).2 with
        | some run, some earliest =>
            let state := state.setRun service run
            some (if earliest then state.updateTimeout now else state)
        | _, _ => none
      else none
  | .cancelTimer service timer maxCancelled =>
      if service ∈ state.timerQueues then
        ((state.run service).step (.cancel timer maxCancelled)).map (state.setRun service)
      else none
  | .moveTimer service target source =>
      if service ∈ state.timerQueues then
        (((state.run service).step (.cancel target sizeMax)).bind
          (·.step (.move target source))).map (state.setRun service)
      else none
  | .addTimerQueue service =>
      if service ∉ state.timerQueues ∧ (state.run service).queue.isEmpty then
        some { state with timerQueues := service :: state.timerQueues }
      else none
  | .removeTimerQueue service =>
      if service ∈ state.timerQueues ∧ (state.run service).queue.isEmpty then
        some { state with timerQueues := state.timerQueues.erase service }
      else none
  | .epollWait reported =>
      if state.checkTimers = none ∧ (reported → state.Readable) then
        some { state with checkTimers := some reported }
      else none
  | .dispatch now =>
      match state.checkTimers with
      | none => none
      | some false => some { state with checkTimers := none }
      | some true =>
          if state.Reads clock now then
            some { (state.getReadyTimers now).updateTimeout now with checkTimers := none }
          else none
  | .elapse nanoseconds => some { state with now := state.now + nanoseconds }

/-- The reactor as it is constructed, at some moment. -/
def start (now : Nat) : EpollTimers Id Op Time where
  run _ := QueueRun.start
  timerQueues := []
  timerFd := none
  checkTimers := none
  now

/-- The timers of the reactor as a machine. -/
def machine (clock : ∀ service, UniformClock (Time service)) :
    Transition.Machine (EpollTimers Id Op Time) (EpollTimersAction Id Op Time) where
  initial state := ∃ now, state = start now
  step := step clock

end EpollTimers

end Asio.Reactor
