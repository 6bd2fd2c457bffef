import Asio.Timer.Chrono
import Asio.Timer.Service

/-! # The deadline timer service keeps its contract

`Served` relates the flags and expiries of the timer objects to the queues: every
active timer is an object of that service with the flag set, and was enqueued
with its present expiry. Every call keeps it and is a step of the abstract model
on what the state represents (`book`), so the waits are conserved.
-/

namespace Asio.Timer.DeadlineTimers

variable {Service Id Op Time Duration : Type*}

/-- The expiries of the timers. -/
def dates (state : DeadlineTimers Service Id Op Time) (timer : Id) : Option Time :=
  (state.objects timer).map TimerObject.expiry

/-- What a timer object stands for. -/
def shown (impl : TimerObject Service Time) (ops : List (WaitOp Op)) : Deadline Service Op Time where
  service := impl.service
  expiry := impl.expiry
  waits := ops.map fun wait => (wait.op, impl.expiry)

/-- What the state stands for. -/
def book (state : DeadlineTimers Service Id Op Time) : Book Service Id Op Time where
  timers timer := (state.objects timer).map fun impl => shown impl (state.queues.opQueue timer)
  clock := state.now
  started := state.started
  handed := state.posted

/-- The invariant: the active timers of a service are objects of that service
whose flag is set and whose expiry is the time in the heap. -/
structure Served [TimeTraits Time] (state : DeadlineTimers Service Id Op Time)
    (active : Service → List Id) : Prop where
  holds : state.queues.Holds active state.dates
  homes : ∀ {service timer}, timer ∈ active service → ∃ impl, state.objects timer = some impl ∧
    impl.service = service ∧ impl.mightHavePendingWaits = true
  few : ∀ timer, (state.queues.opQueue timer).length ≤ sizeMax
  fresh : ∀ timer, ∀ wait ∈ state.queues.opQueue timer, wait.ec = .success
  finite : TimeTraits.isPositiveInfinity state.now = false

section Served

variable [ServiceTraits Time Duration] {state next : DeadlineTimers Service Id Op Time}
  {active : Service → List Id} {timer : Id} {impl : TimerObject Service Time}

theorem Served.home (served : state.Served active) (alive : state.objects timer = some impl) :
    ∀ other, timer ∈ active other → other = impl.service := by
  intro other member
  obtain ⟨found, aliveToo, service, -⟩ := served.homes member
  rw [alive, Option.some.injEq] at aliveToo
  rw [← service, aliveToo]

/-- An address without a timer object has no waits. -/
theorem Served.empty_of_free (served : state.Served active)
    (free : state.objects timer = none) : state.queues.opQueue timer = [] := by
  refine served.holds.quiet timer fun other member => ?_
  obtain ⟨impl, alive, -⟩ := served.homes member
  rw [free] at alive
  contradiction

/-- A timer whose flag is not set has no waits. -/
theorem Served.empty_of_flag (served : state.Served active) (alive : state.objects timer = some impl)
    (flag : impl.mightHavePendingWaits = false) : state.queues.opQueue timer = [] := by
  refine served.holds.quiet timer fun other member => ?_
  obtain ⟨found, aliveToo, -, set⟩ := served.homes member
  rw [alive, Option.some.injEq] at aliveToo
  rw [← aliveToo, flag] at set
  contradiction

variable [DecidableEq Id]

/-- A timer without waits can be written freely. -/
theorem Served.setObject (served : state.Served active) (none : state.queues.opQueue timer = [])
    (impl : Option (TimerObject Service Time)) : (state.setObject timer impl).Served active := by
  have away : ∀ {service other}, other ∈ active service → other ≠ timer := fun member same =>
    served.holds.busy member (same ▸ none)
  refine ⟨served.holds.congr_dates fun service other member => ?_, fun member => ?_, served.few,
    served.fresh, served.finite⟩
  · simp only [dates, DeadlineTimers.setObject, Function.update_of_ne (away member)]
  · simp only [DeadlineTimers.setObject, Function.update_of_ne (away member)]
    exact served.homes member

/-- Constructing or destroying the `per_timer_data` of a timer without waits changes nothing. -/
theorem Served.constructData [Nonempty Service] (served : state.Served active)
    (none : state.queues.opQueue timer = []) : state.queues.constructData timer = state.queues :=
  served.holds.constructData (Classical.arbitrary Service) none

variable [DecidableEq Service]

/-- The oldest waits of a timer leave it, aborted. -/
structure Aborts (state next : DeadlineTimers Service Id Op Time) (timer : Id) (count : Nat) :
    Prop where
  opQueue_eq : next.queues.opQueue =
    Function.update state.queues.opQueue timer ((state.queues.opQueue timer).drop count)
  posted_eq : next.posted = state.posted ++
    ((state.queues.opQueue timer).take count).map fun wait => (wait.abort, state.now)
  objects_eq : next.objects = state.objects
  now_eq : next.now = state.now
  started_eq : next.started = state.started

theorem Served.cancelTimer {service : Service} (served : state.Served active)
    (home : ∀ other, timer ∈ active other → other = service) (maxCancelled : Nat) :
    let result := state.cancelTimer service timer maxCancelled
    (∃ left, result.1.Served left ∧ ∀ other, ∀ some ∈ left other, some ∈ active other) ∧
      Aborts state result.1 timer maxCancelled ∧
      result.2 = min maxCancelled (state.queues.opQueue timer).length := by
  intro result
  obtain ⟨⟨left, holds, stayed⟩, opQueueEq, opsEq, countEq⟩ :=
    served.holds.cancelTimer home maxCancelled
  have opQueueOf : result.1.queues.opQueue = Function.update state.queues.opQueue timer
      ((state.queues.opQueue timer).drop maxCancelled) := opQueueEq
  refine ⟨⟨left, ⟨holds, fun member => served.homes (stayed _ _ member), fun other => ?_,
    fun other wait member => ?_, served.finite⟩, stayed⟩, ⟨opQueueEq, ?_, rfl, rfl, rfl⟩, countEq⟩
  · rw [opQueueOf]
    by_cases same : other = timer
    · subst same
      rw [Function.update_self, List.length_drop]
      exact Nat.le_trans (Nat.sub_le _ _) (served.few other)
    · rw [Function.update_of_ne same]
      exact served.few other
  · rw [opQueueOf] at member
    by_cases same : other = timer
    · subst same
      rw [Function.update_self] at member
      exact served.fresh other wait (List.mem_of_mem_drop member)
    · rw [Function.update_of_ne same] at member
      exact served.fresh other wait member
  · simp only [result, DeadlineTimers.cancelTimer, DeadlineTimers.post, opsEq, List.map_map]
    rfl

/-- The waits of the source, with its expiry and flag, go to the target, whose own waits are
aborted; the source is left as a new timer of its service. -/
structure Moves (state next : DeadlineTimers Service Id Op Time) (target source : Id)
    (other : TimerObject Service Time) : Prop where
  opQueue_eq : next.queues.opQueue = Function.update
    (Function.update state.queues.opQueue target (state.queues.opQueue source)) source []
  posted_eq : next.posted = state.posted ++
    (state.queues.opQueue target).map fun wait => (wait.abort, state.now)
  objects_eq : next.objects = Function.update (Function.update state.objects target (some other))
    source (some ⟨other.service, ServiceTraits.epoch, false⟩)
  now_eq : next.now = state.now
  started_eq : next.started = state.started

/-- `scheduler_.move_timer` followed by assignments that leave the objects so. -/
theorem Served.moveTimer {target source : Id} {other : TimerObject Service Time}
    (served : state.Served active) (alive : state.objects source = some other)
    (home : ∀ service, target ∈ active service → service = other.service)
    (queues : next.queues = (state.moveTimer other.service target source).queues)
    (posted : next.posted = (state.moveTimer other.service target source).posted)
    (objects : next.objects = Function.update (Function.update state.objects target (some other))
      source (some ⟨other.service, ServiceTraits.epoch, false⟩))
    (now : next.now = state.now) (started : next.started = state.started) :
    (∃ left, next.Served left) ∧ Moves state next target source other := by
  obtain ⟨⟨left, holds, stayed⟩, opQueueEq, opsEq⟩ :=
    served.holds.moveTimer home (served.home alive) (served.few target)
  have opQueueOf : next.queues.opQueue = Function.update
      (Function.update state.queues.opQueue target (state.queues.opQueue source)) source [] := by
    rw [queues]
    exact opQueueEq
  have holds : next.queues.Holds left (Function.update state.dates target (state.dates source)) := by
    rw [queues]
    exact holds
  have objectOf : ∀ {service some}, some ∈ left service → next.objects some =
      if some = target then Option.some other else state.objects some := by
    intro service some member
    rw [objects, Function.update_of_ne (stayed _ _ member).1, Function.update_apply]
  refine ⟨⟨left, ⟨holds.congr_dates fun service some member => ?_, fun member => ?_, fun some => ?_,
    fun some wait member => ?_, now ▸ served.finite⟩⟩, opQueueOf, ?_, objects, now, started⟩
  · simp only [dates, objectOf member, Function.update_apply, alive]
    split <;> rfl
  · rw [objectOf member]
    obtain ⟨-, ⟨notTarget, before⟩ | ⟨isTarget, isService, before⟩⟩ := stayed _ _ member
    · rw [if_neg notTarget]
      exact served.homes before
    · rw [if_pos isTarget]
      obtain ⟨found, aliveToo, -, flag⟩ := served.homes before
      rw [alive, Option.some.injEq] at aliveToo
      exact ⟨other, rfl, isService.symm, aliveToo ▸ flag⟩
  · rw [opQueueOf, Function.update_apply, Function.update_apply]
    split
    · exact Nat.zero_le _
    · split
      · exact served.few source
      · exact served.few some
  · rw [opQueueOf, Function.update_apply, Function.update_apply] at member
    split at member
    · simp at member
    · split at member
      · exact served.fresh source wait member
      · exact served.fresh some wait member
  · simp only [posted, DeadlineTimers.moveTimer, DeadlineTimers.post, opsEq, List.map_map]
    rfl

/-- `async_wait` on a timer object: its flag is set and the wait is its newest. -/
theorem Served.asyncWait [DecidableEq Op] {op : Op} (served : state.Served active)
    (alive : state.objects timer = some impl) (waited : state.asyncWait timer impl op = some next) :
    (∃ left, next.Served left) ∧
      next.queues.opQueue =
        Function.update state.queues.opQueue timer (state.queues.opQueue timer ++ [⟨op, .success⟩]) ∧
      next.objects =
        Function.update state.objects timer (some { impl with mightHavePendingWaits := true }) ∧
      next.started = state.started ++ [(op, impl.expiry)] ∧ next.posted = state.posted ∧
      next.now = state.now := by
  unfold DeadlineTimers.asyncWait at waited
  split at waited
  case isFalse => simp at waited
  case isTrue few =>
    simp only [modifyObject, DeadlineTimers.setObject, alive, Option.map_some] at waited
    split at waited
    case h_2 => simp at waited
    case h_1 queues earliest scheduled =>
      rw [Option.some.injEq] at waited
      subst waited
      have home := served.home alive
      obtain ⟨⟨left, holds, stayed⟩, opQueueEq⟩ := served.holds.scheduleTimer home
        (fun _ => by simp only [dates, alive, Option.map_some]) scheduled
      refine ⟨⟨left, ⟨holds.congr_dates fun service some member => ?_, @fun service some member => ?_,
        fun some => ?_, fun some wait member => ?_, served.finite⟩⟩, opQueueEq, rfl, rfl, rfl, rfl⟩
      · simp only [dates, Function.update_apply]
        split <;> rfl
      · by_cases same : some = timer
        · subst same
          refine ⟨_, Function.update_self _ _ _, ?_, rfl⟩
          rcases stayed service some member with before | ⟨isService, -⟩
          · exact (home service before).symm
          · exact isService.symm
        · simp only [Function.update_of_ne same]
          exact served.homes ((stayed service some member).resolve_right fun isNew => same isNew.2)
      · simp only [opQueueEq, Function.update_apply]
        split
        · rw [List.length_append]
          exact few
        · exact served.few some
      · simp only [opQueueEq, Function.update_apply] at member
        split at member
        · rcases List.mem_append.mp member with old | new
          · exact served.fresh timer wait old
          · rw [List.mem_singleton.mp new]
        · exact served.fresh some wait member

/-- The visit of a round: the waits of the timers of the service that are due leave them. -/
theorem Served.getReadyTimers (served : state.Served active) (service : Service) :
    let next := state.getReadyTimers service
    (∃ left, next.Served left) ∧ next.objects = state.objects ∧ next.started = state.started ∧
      next.now = state.now ∧ ∃ ready : List Id, ready.Nodup ∧
      (∀ timer, timer ∈ ready ↔
        timer ∈ active service ∧ TimerQueue.Due state.dates state.now timer) ∧
      (∀ timer, next.queues.opQueue timer =
        if timer ∈ ready then [] else state.queues.opQueue timer) ∧
      next.posted = state.posted ++
        (ready.flatMap state.queues.opQueue).map fun wait => (wait, state.now) := by
  intro next
  obtain ⟨ready, nodup, isReady, ⟨left, holds, stayed⟩, opQueueEq, opsEq⟩ :=
    served.holds.getReadyTimers service state.now
  have opQueueOf : ∀ timer, next.queues.opQueue timer =
      if timer ∈ ready then [] else state.queues.opQueue timer := opQueueEq
  refine ⟨⟨left, ⟨holds, fun member => served.homes (stayed _ _ member), fun timer => ?_,
    fun timer wait member => ?_, served.finite⟩⟩, rfl, rfl, rfl, ready, nodup, isReady, opQueueEq, ?_⟩
  · rw [opQueueOf]
    split
    · exact Nat.zero_le _
    · exact served.few timer
  · rw [opQueueOf] at member
    split at member
    · simp at member
    · exact served.fresh timer wait member
  · simp only [next, DeadlineTimers.getReadyTimers, DeadlineTimers.post, opsEq]

/-- `cancel`: every wait of the timer leaves it, aborted, and the flag is reset. -/
theorem Served.cancel (served : state.Served active) (alive : state.objects timer = some impl) :
    let result := state.cancel timer impl
    (∃ left, result.1.Served left) ∧
      result.1.queues.opQueue = Function.update state.queues.opQueue timer [] ∧
      result.1.posted = state.posted ++
        (state.queues.opQueue timer).map (fun wait => (wait.abort, state.now)) ∧
      result.1.objects =
        Function.update state.objects timer (some { impl with mightHavePendingWaits := false }) ∧
      result.1.now = state.now ∧ result.1.started = state.started ∧
      result.2 = (state.queues.opQueue timer).length := by
  intro result
  cases flag : impl.mightHavePendingWaits with
  | false =>
      have none := served.empty_of_flag alive flag
      have unchanged : ({ impl with mightHavePendingWaits := false } : TimerObject Service Time) =
          impl := by rw [← flag]
      have resultEq : result = (state, 0) := by
        simp only [result, DeadlineTimers.cancel, flag, Bool.not_false, ↓reduceIte]
      rw [resultEq, unchanged, none, ← none, ← alive, Function.update_eq_self,
        Function.update_eq_self]
      exact ⟨⟨active, served⟩, rfl, by rw [none]; simp, rfl, rfl, rfl, by rw [none]; rfl⟩
  | true =>
      obtain ⟨⟨left, after, -⟩, ⟨opQueueEq, postedEq, objectsEq, nowEq, startedEq⟩, countEq⟩ :=
        served.cancelTimer (served.home alive) sizeMax
      rw [List.drop_eq_nil_of_le (served.few timer)] at opQueueEq
      rw [List.take_of_length_le (served.few timer)] at postedEq
      rw [Nat.min_eq_right (served.few timer)] at countEq
      have none : (state.cancelTimer impl.service timer sizeMax).1.queues.opQueue timer = [] := by
        rw [opQueueEq, Function.update_self]
      have resultEq : result = ((state.cancelTimer impl.service timer sizeMax).1.setObject timer
          (some { impl with mightHavePendingWaits := false }),
          (state.cancelTimer impl.service timer sizeMax).2) := by
        simp only [result, DeadlineTimers.cancel, flag, Bool.not_true, Bool.false_eq_true,
          ↓reduceIte, modifyObject, objectsEq, alive, Option.map_some]
      rw [resultEq]
      refine ⟨⟨left, after.setObject none _⟩, opQueueEq, postedEq, ?_, nowEq, startedEq, countEq⟩
      simp only [DeadlineTimers.setObject, objectsEq]

end Served

/-! ## Every call is a step of the abstract model -/

section Book

variable {state next : DeadlineTimers Service Id Op Time} {timer : Id}
  {impl : TimerObject Service Time} {ops : List (WaitOp Op)}

theorem book_alive (alive : state.objects timer = some impl) :
    state.book.timers timer = some (shown impl (state.queues.opQueue timer)) := by
  simp only [book, alive, Option.map_some]

/-- The aborted waits of a timer, as the abstract model hands them over. -/
theorem aborted_eq (impl : TimerObject Service Time) (ops : List (WaitOp Op)) (now : Time)
    (count : Nat) : (ops.take count).map (fun wait => (wait.abort, now)) =
      ((shown impl ops).waits.take count).map fun wait => (⟨wait.1, .operationAborted⟩, now) := by
  rw [shown, ← List.map_take, List.map_map]
  rfl

theorem waits_length (impl : TimerObject Service Time) (ops : List (WaitOp Op)) :
    (shown impl ops).waits.length = ops.length := by
  rw [shown, List.length_map]

variable [DecidableEq Id]

theorem book_timers {impl' : Option (TimerObject Service Time)}
    (objects : next.objects = Function.update state.objects timer impl')
    (opQueue : next.queues.opQueue = Function.update state.queues.opQueue timer ops) :
    next.book.timers =
      Function.update state.book.timers timer (impl'.map fun impl => shown impl ops) := by
  funext other
  simp only [book, objects, opQueue, Function.update_apply]
  split <;> rfl

theorem book_abort {flag : Bool} (impl : TimerObject Service Time) (count : Nat)
    (opQueue : next.queues.opQueue =
      Function.update state.queues.opQueue timer ((state.queues.opQueue timer).drop count))
    (posted : next.posted = state.posted ++
      ((state.queues.opQueue timer).take count).map fun wait => (wait.abort, state.now))
    (objects : next.objects =
      Function.update state.objects timer (some { impl with mightHavePendingWaits := flag }))
    (now : next.now = state.now) (started : next.started = state.started) :
    next.book = state.book.abort timer (shown impl (state.queues.opQueue timer)) count := by
  apply Book.ext
  · rw [book_timers objects opQueue]
    simp only [Book.abort, Book.set, Book.handOver, shown, Option.map_some, List.map_drop]
  · exact now
  · exact started
  · simp only [book, posted, Book.abort, Book.set, Book.handOver, aborted_eq impl]

/-- Replacing the object of a timer without waits. -/
theorem book_setObject (none : state.queues.opQueue timer = [])
    (impl : Option (TimerObject Service Time)) :
    (state.setObject timer impl).book = state.book.set timer (impl.map fun impl => shown impl []) := by
  apply Book.ext
  · apply book_timers rfl
    simp only [setObject, ← none, Function.update_eq_self]
  · rfl
  · rfl
  · rfl

end Book

section Refinement

variable [DecidableEq Service] [DecidableEq Id] [ServiceTraits Time Duration]
  {state next : DeadlineTimers Service Id Op Time} {active : Service → List Id} {timer : Id}
  {impl : TimerObject Service Time}

/-- A call keeps the invariant and does what the contract says. -/
def Refines (state next : DeadlineTimers Service Id Op Time)
    (call : TimerCall Service Id Op Time Duration) (count : Nat) : Prop :=
  (∃ left, next.Served left) ∧ state.book.Step call count next.book

theorem Served.construct_refines {service : Service} (served : state.Served active)
    (free : state.objects timer = none) :
    Refines state (state.construct timer service) (.construct timer service) 0 := by
  have : Nonempty Service := ⟨service⟩
  have none := served.empty_of_free free
  have resultEq : state.construct timer service =
      state.setObject timer (some ⟨service, ServiceTraits.epoch, false⟩) := by
    rw [construct, served.constructData none]
  rw [resultEq]
  refine ⟨⟨active, served.setObject none _⟩, ?_⟩
  rw [book_setObject none]
  exact .construct (by simp only [book, free, Option.map_none])

/-- After `cancel` the state stands for the timer without its waits. -/
theorem Served.cancel_book (served : state.Served active)
    (alive : state.objects timer = some impl) :
    (state.cancel timer impl).1.book = state.book.abort timer
      (shown impl (state.queues.opQueue timer)) (state.queues.opQueue timer).length := by
  obtain ⟨-, opQueueEq, postedEq, objectsEq, nowEq, startedEq, -⟩ := served.cancel alive
  exact book_abort impl (state.queues.opQueue timer).length
    (by rw [List.drop_length]; exact opQueueEq) (by rw [List.take_length]; exact postedEq)
    objectsEq nowEq startedEq

theorem Served.cancel_refines (served : state.Served active)
    (alive : state.objects timer = some impl) :
    Refines state (state.cancel timer impl).1 (.cancel timer) (state.cancel timer impl).2 := by
  obtain ⟨after, -, -, -, -, -, countEq⟩ := served.cancel alive
  refine ⟨after, ?_⟩
  rw [served.cancel_book alive, countEq, ← waits_length impl]
  exact .cancel (book_alive alive)

theorem Served.destroy_refines (served : state.Served active)
    (alive : state.objects timer = some impl) :
    Refines state (state.destroy timer impl) (.destroy timer) 0 := by
  obtain ⟨⟨left, after⟩, opQueueEq, -⟩ := served.cancel alive
  have none : (state.cancel timer impl).1.queues.opQueue timer = [] := by
    rw [opQueueEq, Function.update_self]
  have resultEq : state.destroy timer impl =
      (state.cancel timer impl).1.setObject timer Option.none := by
    rw [destroy, TimerQueues.destroyData_eq none]
  rw [resultEq]
  refine ⟨⟨left, after.setObject none _⟩, ?_⟩
  rw [book_setObject none, served.cancel_book alive, ← waits_length impl]
  exact .destroy (book_alive alive)

/-- `expires_at` is `cancel` and a new expiry. -/
theorem Served.expiresAt_spec (served : state.Served active)
    (alive : state.objects timer = some impl) (time : Time) :
    (∃ left, (state.expiresAt timer impl time).1.Served left) ∧
      (state.expiresAt timer impl time).1.book = (state.book.abort timer
        (shown impl (state.queues.opQueue timer))
        (shown impl (state.queues.opQueue timer)).waits.length).set timer
          (some { shown impl (state.queues.opQueue timer) with expiry := time, waits := [] }) ∧
      (state.expiresAt timer impl time).2 = (shown impl (state.queues.opQueue timer)).waits.length := by
  obtain ⟨⟨left, after⟩, opQueueEq, -, objectsEq, -, -, countEq⟩ := served.cancel alive
  have none : (state.cancel timer impl).1.queues.opQueue timer = [] := by
    rw [opQueueEq, Function.update_self]
  have resultEq : state.expiresAt timer impl time =
      ((state.cancel timer impl).1.setObject timer
        (some { impl with mightHavePendingWaits := false, expiry := time }),
        (state.cancel timer impl).2) := by
    simp only [DeadlineTimers.expiresAt, modifyObject, objectsEq, Function.update_self,
      Option.map_some]
  rw [resultEq]
  refine ⟨⟨left, after.setObject none _⟩, ?_, by rw [countEq, waits_length]⟩
  rw [book_setObject none, served.cancel_book alive, waits_length]
  rfl

theorem Served.cancelOne_refines (served : state.Served active)
    (alive : state.objects timer = some impl) :
    Refines state (state.cancelOne timer impl).1 (.cancelOne timer)
      (state.cancelOne timer impl).2 := by
  have step := Book.Step.cancelOne (book_alive alive)
  rw [waits_length] at step
  cases flag : impl.mightHavePendingWaits with
  | false =>
      have none := served.empty_of_flag alive flag
      have resultEq : state.cancelOne timer impl = (state, 0) := by
        simp only [DeadlineTimers.cancelOne, flag, Bool.not_false, ↓reduceIte]
      have noWaits : (shown impl (state.queues.opQueue timer)).waits = [] := by
        rw [shown, none, List.map_nil]
      rw [Book.abort_of_empty (book_alive alive) noWaits, none, List.length_nil] at step
      rw [resultEq]
      exact ⟨⟨active, served⟩, step⟩
  | true =>
      obtain ⟨⟨left, after, -⟩, aborts, countEq⟩ := served.cancelTimer (served.home alive) 1
      simp only [DeadlineTimers.cancelOne, flag, Bool.not_true, Bool.false_eq_true, ↓reduceIte]
      rw [← countEq] at step
      split
      · next zero =>
          have noOps : state.queues.opQueue timer = [] := by
            rw [← List.length_eq_zero_iff]
            omega
          have none : (state.cancelTimer impl.service timer 1).1.queues.opQueue timer = [] := by
            rw [aborts.opQueue_eq, Function.update_self, noOps, List.drop_nil]
          simp only [modifyObject, aborts.objects_eq, alive, Option.map_some]
          refine ⟨⟨left, after.setObject none _⟩, ?_⟩
          have bookEq : ((state.cancelTimer impl.service timer 1).1.setObject timer
              (some { impl with mightHavePendingWaits := false })).book = _ :=
            book_abort impl 1 aborts.opQueue_eq aborts.posted_eq
              (by rw [DeadlineTimers.setObject, aborts.objects_eq]) aborts.now_eq aborts.started_eq
          exact bookEq ▸ step
      · have objectsEq : (state.cancelTimer impl.service timer 1).1.objects =
            Function.update state.objects timer
              (some { impl with mightHavePendingWaits := impl.mightHavePendingWaits }) := by
          rw [aborts.objects_eq, ← alive, Function.update_eq_self]
        refine ⟨⟨left, after⟩, ?_⟩
        rw [book_abort impl 1 aborts.opQueue_eq aborts.posted_eq objectsEq aborts.now_eq
          aborts.started_eq]
        exact step

/-! The move operations. -/

omit [DecidableEq Service] in
/-- The assignments of a move, whatever service the target had. -/
theorem takeOver_objects {target source : Id} {other : TimerObject Service Time}
    (mine : state.objects target = some impl) (alive : state.objects source = some other) :
    (state.takeOver target source other).objects =
      Function.update (Function.update state.objects target
        (some { other with service := impl.service })) source
        (some ⟨other.service, ServiceTraits.epoch, false⟩) := by
  funext some
  by_cases self : target = source
  · subst self
    rw [mine, Option.some.injEq] at alive
    subst alive
    by_cases same : some = target
    · subst same
      simp only [takeOver, modifyObject, DeadlineTimers.setObject, Function.update_self,
        Option.map_some, mine]
    · simp only [takeOver, modifyObject, DeadlineTimers.setObject, Function.update_of_ne same]
  · by_cases atSource : some = source
    · subst atSource
      simp only [takeOver, modifyObject, DeadlineTimers.setObject, Function.update_self,
        Function.update_of_ne (Ne.symm self), Option.map_some, alive]
    · by_cases atTarget : some = target
      · subst atTarget
        simp only [takeOver, modifyObject, DeadlineTimers.setObject, Function.update_self,
          Function.update_of_ne atSource, Option.map_some, mine]
      · simp only [takeOver, modifyObject, DeadlineTimers.setObject, Function.update_of_ne atSource,
          Function.update_of_ne atTarget]

omit [DecidableEq Service] in
/-- What the state stands for after a move. -/
theorem Moves.book_eq {target source : Id} {other : TimerObject Service Time}
    (moves : Moves state next target source other) :
    next.book.timers = Function.update (Function.update state.book.timers target
        (some (shown other (state.queues.opQueue source)))) source
        (some (Book.vacated (shown other (state.queues.opQueue source)))) := by
  funext some
  simp only [book, moves.objects_eq, moves.opQueue_eq]
  by_cases atSource : some = source
  · subst atSource
    simp only [Function.update_self, Option.map_some]
    rfl
  · simp only [Function.update_of_ne atSource]
    by_cases atTarget : some = target
    · subst atTarget
      simp only [Function.update_self, Option.map_some]
    · simp only [Function.update_of_ne atTarget]

theorem Served.moveConstruct_refines {target source : Id} {other : TimerObject Service Time}
    (served : state.Served active) (free : state.objects target = none)
    (alive : state.objects source = some other) :
    Refines state (state.moveConstruct target source other) (.moveConstruct target source) 0 := by
  have : Nonempty Service := ⟨other.service⟩
  have none := served.empty_of_free free
  have apart : source ≠ target := fun same => by
    subst same
    rw [free] at alive
    contradiction
  -- The new object, before its waits arrive, is a timer of the source's service.
  have fresh := served.setObject none (some ⟨other.service, ServiceTraits.epoch, false⟩)
  generalize middleEq : state.setObject target (some ⟨other.service, ServiceTraits.epoch, false⟩) =
    middle at fresh
  have mine : middle.objects target = some ⟨other.service, ServiceTraits.epoch, false⟩ := by
    rw [← middleEq]
    exact Function.update_self _ _ _
  have theirs : middle.objects source = some other := by
    rw [← middleEq]
    exact (Function.update_of_ne apart _ _).trans alive
  have resultEq : state.moveConstruct target source other =
      (middle.moveTimer other.service target source).takeOver target source other := by
    rw [moveConstruct, served.constructData none, ← middleEq]
  have objectsEq : (state.moveConstruct target source other).objects =
      Function.update (Function.update middle.objects target (some other)) source
        (some ⟨other.service, ServiceTraits.epoch, false⟩) := by
    have moved : (middle.moveTimer other.service target source).objects = middle.objects := rfl
    rw [resultEq, takeOver_objects (moved ▸ mine) (moved ▸ theirs)]
    rfl
  obtain ⟨after, moves⟩ := fresh.moveTimer theirs (fun _ member => fresh.home mine _ member)
    (resultEq ▸ rfl) (resultEq ▸ rfl) objectsEq (resultEq ▸ rfl) (resultEq ▸ rfl)
  refine ⟨after, ?_⟩
  have queuesEq : middle.queues = state.queues := middleEq ▸ rfl
  have bookEq : (state.moveConstruct target source other).book =
      (state.book.set target (some (shown other (state.queues.opQueue source)))).set source
        (some (Book.vacated (shown other (state.queues.opQueue source)))) := by
    apply Book.ext
    · have middleObjects : middle.objects = Function.update state.objects target
          (some ⟨other.service, ServiceTraits.epoch, false⟩) := middleEq ▸ rfl
      have middleOps : middle.queues.opQueue = Function.update state.queues.opQueue target
          (state.queues.opQueue target) := by rw [queuesEq, Function.update_eq_self]
      have middleBook := book_timers middleObjects middleOps
      rw [moves.book_eq, middleBook, Function.update_idem, queuesEq]
      rfl
    · exact moves.now_eq.trans (middleEq ▸ rfl)
    · exact moves.started_eq.trans (middleEq ▸ rfl)
    · have handedEq := moves.posted_eq
      rw [queuesEq, none, List.map_nil, List.append_nil] at handedEq
      exact handedEq.trans (middleEq ▸ rfl)
  rw [bookEq]
  exact .moveConstruct (by simp only [book, free, Option.map_none]) (book_alive alive)

/-- The state in which `move_assign` calls `move_timer`: a target of another service has
been emptied, by the cancellation or because its flag was not set. -/
theorem Served.beforeMove {target : Id} {other : TimerObject Service Time}
    (served : state.Served active) (mine : state.objects target = some impl)
    (middle : next = if impl.service ≠ other.service ∧ impl.mightHavePendingWaits = true then
      (state.cancelTimer impl.service target sizeMax).1 else state) :
    (∃ left, next.Served left ∧ ∀ service, target ∈ left service → service = other.service) ∧
      next.objects = state.objects ∧ next.now = state.now ∧ next.started = state.started ∧
      (∀ some, some ≠ target → next.queues.opQueue some = state.queues.opQueue some) ∧
      next.posted ++ (next.queues.opQueue target).map (fun wait => (wait.abort, next.now)) =
        state.posted ++ (state.queues.opQueue target).map fun wait => (wait.abort, state.now) := by
  split at middle
  · next cancels =>
      obtain ⟨⟨left, after, -⟩, aborts, -⟩ := served.cancelTimer (served.home mine) sizeMax
      rw [← middle] at after aborts
      have none : next.queues.opQueue target = [] := by
        rw [aborts.opQueue_eq, Function.update_self, List.drop_eq_nil_of_le (served.few target)]
      refine ⟨⟨left, after, fun service member => absurd none (after.holds.busy member)⟩,
        aborts.objects_eq, aborts.now_eq, aborts.started_eq, fun some different => ?_, ?_⟩
      · rw [aborts.opQueue_eq, Function.update_of_ne different]
      · rw [none, List.map_nil, List.append_nil, aborts.posted_eq,
          List.take_of_length_le (served.few target)]
  · next stays =>
      subst middle
      refine ⟨⟨active, served, fun service member => ?_⟩, rfl, rfl, rfl, fun _ _ => rfl, rfl⟩
      by_cases same : impl.service = other.service
      · rw [← same]
        exact served.home mine service member
      · have flag : impl.mightHavePendingWaits = false := by
          rw [← Bool.not_eq_true]
          exact fun set => stays ⟨same, set⟩
        exact absurd (served.empty_of_flag mine flag) (served.holds.busy member)

theorem Served.moveAssign_refines {target source : Id} {other : TimerObject Service Time}
    (served : state.Served active) (mine : state.objects target = some impl)
    (alive : state.objects source = some other) :
    Refines state (state.moveAssign target source impl other) (.moveAssign target source) 0 := by
  obtain ⟨middle, middleEq⟩ : ∃ middle, middle =
      if impl.service ≠ other.service ∧ impl.mightHavePendingWaits = true then
        (state.cancelTimer impl.service target sizeMax).1 else state := ⟨_, rfl⟩
  obtain ⟨⟨left, emptied, home⟩, objectsEq, nowEq, startedEq, opQueueEq, postedEq⟩ :=
    served.beforeMove mine middleEq
  have moved : (middle.moveTimer other.service target source).objects = state.objects := objectsEq
  have resultEq : state.moveAssign target source impl other =
      ((middle.moveTimer other.service target source).takeOver target source other).modifyObject
        target fun impl => { impl with service := other.service } := by
    rw [moveAssign, ← middleEq]
  have assigned : (state.moveAssign target source impl other).objects =
      Function.update (Function.update middle.objects target (some other)) source
        (some ⟨other.service, ServiceTraits.epoch, false⟩) := by
    rw [resultEq, modifyObject, DeadlineTimers.setObject,
      takeOver_objects (moved ▸ mine) (moved ▸ alive)]
    funext some
    by_cases atTarget : some = target
    · subst atTarget
      by_cases self : some = source
      · subst self
        simp only [Function.update_self, Option.map_some]
      · simp only [Function.update_self, Function.update_of_ne self, Option.map_some]
    · simp only [Function.update_of_ne atTarget, Function.update_apply]
      split
      · rfl
      · exact congrFun (moved.trans (objectsEq.symm)) some
  obtain ⟨after, moves⟩ := emptied.moveTimer (objectsEq ▸ alive) home
    (resultEq ▸ rfl) (resultEq ▸ rfl) assigned (resultEq ▸ rfl) (resultEq ▸ rfl)
  refine ⟨after, ?_⟩
  have bookEq : (state.moveAssign target source impl other).book =
      ((state.book.abort target (shown impl (state.queues.opQueue target))
        (shown impl (state.queues.opQueue target)).waits.length).set target
          (some (shown other (state.queues.opQueue source)))).set source
            (some (Book.vacated (shown other (state.queues.opQueue source)))) := by
    apply Book.ext
    · simp only [moves.book_eq, Book.set, Book.abort, Book.handOver, Function.update_idem]
      funext some
      by_cases atSource : some = source
      · subst atSource
        rw [Function.update_self, Function.update_self]
        rfl
      · rw [Function.update_of_ne atSource, Function.update_of_ne atSource]
        by_cases atTarget : some = target
        · subst atTarget
          rw [Function.update_self, Function.update_self, opQueueEq source (Ne.symm atSource)]
        · rw [Function.update_of_ne atTarget, Function.update_of_ne atTarget]
          simp only [book, objectsEq, opQueueEq some atTarget]
    · exact moves.now_eq.trans nowEq
    · exact moves.started_eq.trans startedEq
    · have aborted := aborted_eq impl (state.queues.opQueue target) state.now
        (state.queues.opQueue target).length
      rw [List.take_length] at aborted
      simp only [book, moves.posted_eq, postedEq, aborted, Book.set, Book.abort, Book.handOver,
        waits_length]
  rw [bookEq]
  exact .moveAssign (book_alive mine) (book_alive alive)

theorem Served.asyncWait_refines [DecidableEq Op] {op : Op} (served : state.Served active)
    (alive : state.objects timer = some impl) (fresh : op ∉ state.started.map Prod.fst)
    (waited : state.asyncWait timer impl op = some next) :
    Refines state next (.asyncWait timer op) 0 := by
  obtain ⟨after, opQueueEq, objectsEq, startedEq, postedEq, nowEq⟩ := served.asyncWait alive waited
  refine ⟨after, ?_⟩
  have bookEq : next.book = ({ state.book with started := state.book.started ++
      [(op, (shown impl (state.queues.opQueue timer)).expiry)] } : Book Service Id Op Time).set timer
        (some { shown impl (state.queues.opQueue timer) with
          waits := (shown impl (state.queues.opQueue timer)).waits ++
            [(op, (shown impl (state.queues.opQueue timer)).expiry)] }) := by
    apply Book.ext
    · rw [book_timers objectsEq opQueueEq]
      simp only [Option.map_some, shown, List.map_append, List.map_cons, List.map_nil, Book.set]
    · exact nowEq
    · exact startedEq
    · exact postedEq
  rw [bookEq]
  exact .asyncWait (book_alive alive) fresh

omit [DecidableEq Service] [DecidableEq Id] in
/-- A timer is due exactly when its expiry has come: no clock reading is past positive infinity. -/
theorem Served.due_iff (served : state.Served active) (alive : state.objects timer = some impl) :
    TimerQueue.Due state.dates state.now timer ↔ impl.expiry ≤ state.now := by
  simp only [TimerQueue.Due, dates, alive, Option.map_some, Option.some.injEq, exists_eq_left']
  refine ⟨And.right, fun reached => ⟨?_, reached⟩⟩
  by_contra infinite
  rw [Bool.not_eq_false] at infinite
  exact absurd reached (not_le.mpr
    (ServiceTraits.finite_lt_infinite _ _ served.finite infinite))

omit [DecidableEq Service] [DecidableEq Id] in
theorem book_waits (alive : state.objects timer = some impl) : state.book.waits timer =
    (state.queues.opQueue timer).map fun wait => (wait.op, impl.expiry) :=
  Book.waits_of_alive (book_alive alive)

/-- The timers after a visit: those taken have no waits, and all others are not due. -/
theorem Served.visit_book {service : Service} {ready : List Id} (served : state.Served active)
    (isReady : ∀ timer, timer ∈ ready ↔
      timer ∈ active service ∧ TimerQueue.Due state.dates state.now timer)
    (opQueue : ∀ timer, next.queues.opQueue timer =
      if timer ∈ ready then [] else state.queues.opQueue timer)
    (objects : next.objects = state.objects) : next.book.timers = state.book.visit service := by
  funext timer
  simp only [Book.visit, book, objects]
  cases alive : state.objects timer with
  | none => rfl
  | some impl =>
      simp only [Option.map_some, Option.some.injEq, opQueue]
      have member := served.holds.mem_iff (served.home alive)
      by_cases taken : timer ∈ ready
      · obtain ⟨isActive, due⟩ := (isReady timer).mp taken
        have reached := (served.due_iff alive).mp due
        rw [if_pos taken, if_pos (show (shown impl (state.queues.opQueue timer)).service = service
          from (served.home alive service isActive).symm)]
        have noneLater : (shown impl (state.queues.opQueue timer)).waits.filter
            (fun wait => state.now < wait.2) = [] := by
          rw [List.filter_eq_nil_iff]
          intro wait member
          obtain ⟨op, -, rfl⟩ := List.mem_map.mp member
          simpa using reached
        exact congrArg (fun waits => (⟨impl.service, impl.expiry, waits⟩ :
          Deadline Service Op Time)) noneLater.symm
      · rw [if_neg taken]
        split
        · next inService =>
            have allLater : (shown impl (state.queues.opQueue timer)).waits.filter
                (fun wait => state.now < wait.2) =
                  (shown impl (state.queues.opQueue timer)).waits := by
              rw [List.filter_eq_self]
              intro wait waits
              obtain ⟨op, waiting, rfl⟩ := List.mem_map.mp waits
              have isActive := member.mpr (List.ne_nil_of_mem waiting)
              have notDue := fun due => taken ((isReady timer).mpr ⟨inService ▸ isActive, due⟩)
              simpa using not_le.mp fun reached => notDue ((served.due_iff alive).mpr reached)
            exact congrArg (fun waits => (⟨impl.service, impl.expiry, waits⟩ :
              Deadline Service Op Time)) allLater.symm
        · rfl

theorem Served.getReadyTimers_refines (served : state.Served active)
    (conserved : state.book.Conserved) (service : Service) :
    Refines state (state.getReadyTimers service) (.getReadyTimers service) 0 := by
  obtain ⟨after, objectsEq, startedEq, nowEq, ready, nodup, isReady, opQueueEq, postedEq⟩ :=
    served.getReadyTimers service
  refine ⟨after, ?_⟩
  have aliveOf : ∀ timer ∈ ready, ∃ impl, state.objects timer = some impl ∧
      impl.service = service ∧ impl.expiry ≤ state.now := by
    intro timer taken
    obtain ⟨isActive, due⟩ := (isReady timer).mp taken
    obtain ⟨impl, alive, inService, -⟩ := served.homes isActive
    exact ⟨impl, alive, inService, (served.due_iff alive).mp due⟩
  have bookEq : (state.getReadyTimers service).book =
      { state.book.handOver .success (ready.flatMap state.book.waits) with
        timers := state.book.visit service } := by
    apply Book.ext
    · exact served.visit_book isReady opQueueEq objectsEq
    · exact nowEq
    · exact startedEq
    · change (state.getReadyTimers service).posted = state.posted ++ _
      rw [postedEq, List.map_flatMap, List.map_flatMap]
      congr 1
      apply List.flatMap_congr
      intro timer taken
      obtain ⟨impl, alive, -⟩ := aliveOf timer taken
      rw [book_waits alive, List.map_map]
      apply List.map_congr_left
      intro wait member
      rw [← served.fresh timer wait member]
      rfl
  rw [bookEq]
  refine .getReadyTimers ?_ fun wait => ?_
  · refine List.nodup_flatMap.mpr ⟨fun timer _ => (conserved.waitsOnce timer).of_map _, ?_⟩
    apply nodup.imp
    intro first second different wait inFirst inSecond
    exact different (conserved.apart inFirst inSecond rfl)
  · simp only [List.mem_flatMap]
    constructor
    · intro ⟨timer, taken, member⟩
      obtain ⟨impl, alive, inService, reached⟩ := aliveOf timer taken
      refine ⟨timer, _, book_alive alive, inService, ?_, ?_⟩
      · rwa [Book.waits_of_alive (book_alive alive)] at member
      · rw [book_waits alive] at member
        obtain ⟨op, -, rfl⟩ := List.mem_map.mp member
        exact reached
    · intro ⟨timer, deadline, found, inService, member, reached⟩
      obtain ⟨impl, alive, rfl⟩ := Option.map_eq_some_iff.mp found
      obtain ⟨op, waiting, rfl⟩ := List.mem_map.mp member
      have isActive := (served.holds.mem_iff (served.home alive)).mpr (List.ne_nil_of_mem waiting)
      refine ⟨timer, (isReady timer).mpr ⟨?_, (served.due_iff alive).mpr reached⟩, ?_⟩
      · exact (show impl.service = service from inService) ▸ isActive
      · rw [book_waits alive]
        exact member

/-- **The service refines the contract**: every call keeps the invariant and is a step of the
abstract model. -/
theorem Served.call_refines [DecidableEq Op] {call : TimerCall Service Id Op Time Duration}
    {count : Nat} (served : state.Served active) (conserved : state.book.Conserved)
    (called : state.call call = some (next, count)) : Refines state next call count := by
  cases call with
  | construct timer service =>
      simp only [DeadlineTimers.call, Option.ite_none_right_eq_some, Option.isNone_iff_eq_none,
        Option.some.injEq, Prod.mk.injEq] at called
      obtain ⟨free, rfl, rfl⟩ := called
      exact served.construct_refines free
  | destroy timer =>
      obtain ⟨impl, alive, result⟩ := Option.map_eq_some_iff.mp called
      rw [Prod.mk.injEq] at result
      obtain ⟨rfl, rfl⟩ := result
      exact served.destroy_refines alive
  | moveConstruct target source =>
      simp only [DeadlineTimers.call, Option.ite_none_right_eq_some, Option.isNone_iff_eq_none,
        Option.map_eq_some_iff, Prod.mk.injEq] at called
      obtain ⟨free, other, alive, rfl, rfl⟩ := called
      exact served.moveConstruct_refines free alive
  | moveAssign target source =>
      simp only [DeadlineTimers.call, Option.bind_eq_some_iff, Option.map_eq_some_iff,
        Prod.mk.injEq] at called
      obtain ⟨impl, mine, other, alive, rfl, rfl⟩ := called
      exact served.moveAssign_refines mine alive
  | expiresAt timer time =>
      obtain ⟨impl, alive, result⟩ := Option.map_eq_some_iff.mp called
      obtain ⟨after, bookEq, countEq⟩ := served.expiresAt_spec alive time
      rw [result] at after bookEq countEq
      simp only at bookEq countEq
      refine ⟨after, ?_⟩
      rw [bookEq, countEq]
      exact .expiresAt (book_alive alive)
  | expiresAfter timer duration =>
      obtain ⟨impl, alive, result⟩ := Option.map_eq_some_iff.mp called
      obtain ⟨after, bookEq, countEq⟩ :=
        served.expiresAt_spec alive (ServiceTraits.add state.now duration)
      rw [expiresAfter] at result
      rw [result] at after bookEq countEq
      simp only at bookEq countEq
      refine ⟨after, ?_⟩
      rw [bookEq, countEq]
      exact .expiresAfter (book_alive alive)
  | cancel timer =>
      obtain ⟨impl, alive, result⟩ := Option.map_eq_some_iff.mp called
      have refines := served.cancel_refines alive
      rwa [result] at refines
  | cancelOne timer =>
      obtain ⟨impl, alive, result⟩ := Option.map_eq_some_iff.mp called
      have refines := served.cancelOne_refines alive
      rwa [result] at refines
  | asyncWait timer op =>
      simp only [DeadlineTimers.call, Option.ite_none_left_eq_some, Option.bind_eq_some_iff,
        Option.map_eq_some_iff, Prod.mk.injEq] at called
      obtain ⟨fresh, impl, alive, after, waited, rfl, rfl⟩ := called
      exact served.asyncWait_refines alive fresh waited
  | clock now =>
      simp only [DeadlineTimers.call, Option.ite_none_left_eq_some, Option.some.injEq,
        Prod.mk.injEq] at called
      obtain ⟨finite, rfl, rfl⟩ := called
      exact ⟨⟨active, served.holds, served.homes, served.few, served.fresh, by simpa using finite⟩,
        .clock⟩
  | getReadyTimers service =>
      simp only [DeadlineTimers.call, Option.some.injEq, Prod.mk.injEq] at called
      obtain ⟨rfl, rfl⟩ := called
      exact served.getReadyTimers_refines conserved service

/-! ## Every run -/

/-- The deadline timer contract in a state: every wait was handed over at most once, and
successfully only at or after its expiry; the others wait on exactly one living
timer, whose flag is set; and every call does what the contract says. -/
structure Contract [DecidableEq Op] (state : DeadlineTimers Service Id Op Time) : Prop where
  handedOnce : (state.posted.map fun handover => handover.1.op).Nodup
  timely : ∀ handover ∈ state.posted, ∃ wait ∈ state.started, wait.1 = handover.1.op ∧
    (handover.1.ec = .success → wait.2 ≤ handover.2)
  accounted : ∀ wait ∈ state.started,
    ((∃ handover ∈ state.posted, handover.1.op = wait.1) ∧
      ∀ timer, ∀ op ∈ state.queues.opQueue timer, op.op ≠ wait.1) ∨
    ((∀ handover ∈ state.posted, handover.1.op ≠ wait.1) ∧
      ∃! timer, ∃ impl, state.objects timer = some impl ∧ impl.expiry = wait.2 ∧
        ∃ op ∈ state.queues.opQueue timer, op.op = wait.1)
  living : ∀ timer, state.queues.opQueue timer ≠ [] → (state.objects timer).isSome
  flagged : ∀ timer impl, state.objects timer = some impl → state.queues.opQueue timer ≠ [] →
    impl.mightHavePendingWaits = true
  calls : ∀ (call : TimerCall Service Id Op Time Duration) count next,
    state.call call = some (next, count) → state.book.Step call count next.book

omit [DecidableEq Service] [DecidableEq Id] in
/-- An operation of a timer is a wait of it. -/
theorem Served.waits_of_op {op : WaitOp Op} (served : state.Served active)
    (member : op ∈ state.queues.opQueue timer) : ∃ impl, state.objects timer = some impl ∧
      (op.op, impl.expiry) ∈ state.book.waits timer := by
  cases alive : state.objects timer with
  | none =>
      rw [served.empty_of_free alive] at member
      simp at member
  | some impl =>
      refine ⟨impl, rfl, ?_⟩
      rw [book_waits alive]
      exact List.mem_map_of_mem member

/-- What the invariant and the conservation of the waits say of a state. -/
theorem Served.contract [DecidableEq Op] (served : state.Served active)
    (conserved : state.book.Conserved)
    (calls : ∀ (call : TimerCall Service Id Op Time Duration) count next,
      state.call call = some (next, count) → state.book.Step call count next.book) :
    state.Contract where
  handedOnce := conserved.handedOnce
  timely := conserved.handedKnown
  accounted := by
    intro wait isStarted
    rcases conserved.accounted wait isStarted with ⟨handover, isHanded, same⟩ | ⟨timer, waits⟩
    · refine Or.inl ⟨⟨handover, isHanded, same⟩, fun timer op member again => ?_⟩
      obtain ⟨impl, -, waits⟩ := served.waits_of_op member
      exact conserved.unhanded waits isHanded (same.trans again.symm)
    · refine Or.inr ⟨fun handover isHanded => conserved.unhanded waits isHanded, timer, ?_, ?_⟩
      · obtain ⟨deadline, found, member⟩ := Book.alive_of_waits waits
        obtain ⟨impl, alive, rfl⟩ := Option.map_eq_some_iff.mp found
        obtain ⟨op, waiting, rfl⟩ := List.mem_map.mp member
        exact ⟨impl, alive, rfl, op, waiting, rfl⟩
      · intro other ⟨impl, alive, _, op, waiting, same⟩
        obtain ⟨_, -, otherWaits⟩ := served.waits_of_op waiting
        exact conserved.apart otherWaits waits same
  living timer some := by
    by_contra free
    rw [Bool.not_eq_true, Option.isSome_eq_false_iff, Option.isNone_iff_eq_none] at free
    exact some (served.empty_of_free free)
  flagged timer impl alive some := by
    rw [← Bool.not_eq_false]
    exact fun flag => some (served.empty_of_flag alive flag)
  calls := calls

omit [DecidableEq Service] [DecidableEq Id] in
theorem served_start : (start : DeadlineTimers Service Id Op Time).Served fun _ => [] where
  holds := TimerQueues.holds_empty _
  homes member := absurd member List.not_mem_nil
  few _ := Nat.zero_le _
  fresh _ _ member := absurd member List.not_mem_nil
  finite := ServiceTraits.epoch_finite

omit [DecidableEq Service] [DecidableEq Id] in
theorem conserved_start : (start : DeadlineTimers Service Id Op Time).book.Conserved where
  startedOnce := List.nodup_nil
  handedOnce := List.nodup_nil
  waitsOnce _ := List.nodup_nil
  apart member := absurd member List.not_mem_nil
  unhanded member := absurd member List.not_mem_nil
  known member := absurd member List.not_mem_nil
  handedKnown _ member := absurd member List.not_mem_nil
  accounted _ member := absurd member List.not_mem_nil

/-- The invariant of the runs. -/
def Sound (state : DeadlineTimers Service Id Op Time) : Prop :=
  (∃ active, state.Served active) ∧ state.book.Conserved

theorem sound_of_reachable [DecidableEq Op]
    (reachable : (machine : Transition.Machine (DeadlineTimers Service Id Op Time)
      (TimerCall Service Id Op Time Duration)).Reachable state) : state.Sound := by
  have initially : ∀ state : DeadlineTimers Service Id Op Time, state = start → state.Sound := by
    rintro state rfl
    exact ⟨⟨_, served_start⟩, conserved_start⟩
  refine reachable.invariant initially ?_
  intro state call next _ ⟨⟨active, served⟩, conserved⟩ _ stepped
  obtain ⟨⟨after, count⟩, called, rfl⟩ := Option.map_eq_some_iff.mp stepped
  obtain ⟨left, step⟩ := served.call_refines conserved called
  exact ⟨left, step.conserved conserved⟩

/-- **Deadline timer contract.** It holds in every state reached by calls on the timers of any
number of services. -/
theorem contract_of_reachable [DecidableEq Op]
    (reachable : (machine : Transition.Machine (DeadlineTimers Service Id Op Time)
      (TimerCall Service Id Op Time Duration)).Reachable state) : state.Contract := by
  obtain ⟨⟨active, served⟩, conserved⟩ := sound_of_reachable reachable
  exact served.contract conserved fun call count next called =>
    (served.call_refines conserved called).2

end Refinement

/-- Two services; waits that follow a move between them, one of them cancelled, the
other due in a round. -/
def someCalls : List (TimerCall Nat Nat Nat Ticks Ticks) :=
  [.construct 0 0, .construct 1 1, .expiresAfter 0 ⟨5, by decide⟩, .asyncWait 0 10, .asyncWait 0 11,
    .asyncWait 1 12, .moveAssign 1 0, .cancelOne 1, .clock ⟨6, by decide⟩, .getReadyTimers 0,
    .destroy 0]

theorem contract_someCalls :
    ∃ state, machine.run start someCalls = some state ∧ state.Contract :=
  ⟨_, rfl, contract_of_reachable (Transition.Machine.Reachable.run (.initial rfl) someCalls rfl)⟩

end Asio.Timer.DeadlineTimers
