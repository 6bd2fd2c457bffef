import Asio.Timer.Queue
import Mathlib.Data.List.Nodup
import Mathlib.Data.List.Basic
import Mathlib.Logic.Equiv.Basic
import Mathlib.Tactic.Common

/-! # What a deadline timer is for

The abstract model of the deadline timer service: a timer has a service, an
expiry and the waits started on it, each with the expiry in force when it was
started. `Book.Step` says what each call does to the timers and which waits it
hands over with which error code; `Book.Conserved` is kept by every step, so
that each wait is handed over at most once and until then waits on one timer.
-/

namespace Asio.Timer

/-- What a deadline timer service needs from `Time_Traits` beside the order: the
default-constructed time, the addition of a duration, and that no finite time is
at or after positive infinity. -/
class ServiceTraits (Time : Type*) (Duration : outParam Type*) extends TimeTraits Time where
  epoch : Time
  add : Time → Duration → Time
  epoch_finite : isPositiveInfinity epoch = false
  finite_lt_infinite : ∀ finite infinite : Time, isPositiveInfinity finite = false →
    isPositiveInfinity infinite = true → finite < infinite

/-- A call on the timers. `clock` shows another time, and `getReadyTimers` is the
visit of a reactor round to the queue of one of its services. -/
inductive TimerCall (Service Id Op Time Duration : Type*) where
  | construct (timer : Id) (service : Service)
  | destroy (timer : Id)
  | moveConstruct (target source : Id)
  | moveAssign (target source : Id)
  | expiresAt (timer : Id) (time : Time)
  | expiresAfter (timer : Id) (duration : Duration)
  | cancel (timer : Id)
  | cancelOne (timer : Id)
  | asyncWait (timer : Id) (op : Op)
  | clock (now : Time)
  | getReadyTimers (service : Service)
  deriving DecidableEq, Repr

/-- A timer: its service, its expiry, and its waits, oldest first, each with the
expiry that was in force when it was started. -/
@[ext] structure Deadline (Service Op Time : Type*) where
  service : Service
  expiry : Time
  waits : List (Op × Time)

/-- The timers, the clock, and the history of the waits: those started, and those
handed over to the scheduler, each with the clock at that moment. -/
@[ext] structure Book (Service Id Op Time : Type*) where
  timers : Id → Option (Deadline Service Op Time)
  clock : Time
  started : List (Op × Time)
  handed : List (WaitOp Op × Time)

namespace Book

variable {Service Id Op Time Duration : Type*}

/-- The waits on a timer. -/
def waits (book : Book Service Id Op Time) (timer : Id) : List (Op × Time) :=
  match book.timers timer with
  | some deadline => deadline.waits
  | none => []

/-- Waits handed over with one error code. -/
def handOver (book : Book Service Id Op Time) (ec : ErrorCode) (waits : List (Op × Time)) :
    Book Service Id Op Time :=
  { book with handed := book.handed ++ waits.map fun wait => (⟨wait.1, ec⟩, book.clock) }

/-- A timer replaced. -/
def set [DecidableEq Id] (book : Book Service Id Op Time) (timer : Id)
    (deadline : Option (Deadline Service Op Time)) : Book Service Id Op Time :=
  { book with timers := Function.update book.timers timer deadline }

/-- The first waits of a timer aborted. -/
def abort [DecidableEq Id] (book : Book Service Id Op Time) (timer : Id)
    (deadline : Deadline Service Op Time) (count : Nat) : Book Service Id Op Time :=
  (book.handOver .operationAborted (deadline.waits.take count)).set timer
    (some { deadline with waits := deadline.waits.drop count })

/-- The timer left by a move. -/
def vacated [ServiceTraits Time Duration] (deadline : Deadline Service Op Time) :
    Deadline Service Op Time :=
  { deadline with expiry := ServiceTraits.epoch, waits := [] }

/-- A visit to a service: the waits whose expiry has come leave its timers. -/
def visit [DecidableEq Service] [LinearOrder Time] (book : Book Service Id Op Time)
    (service : Service) : Id → Option (Deadline Service Op Time) := fun timer =>
  (book.timers timer).map fun deadline =>
    if deadline.service = service then
      { deadline with waits := deadline.waits.filter fun wait => book.clock < wait.2 }
    else deadline

/-- **The deadline timer contract**: what each call does, and the count it returns. -/
inductive Step [DecidableEq Service] [DecidableEq Id] [ServiceTraits Time Duration] :
    Book Service Id Op Time → TimerCall Service Id Op Time Duration → Nat →
      Book Service Id Op Time → Prop where
  | construct {book : Book Service Id Op Time} {timer : Id} {service : Service}
      (free : book.timers timer = none) :
      Step book (.construct timer service) 0
        (book.set timer (some ⟨service, ServiceTraits.epoch, []⟩))
  /-- The destructor aborts every wait. -/
  | destroy {book : Book Service Id Op Time} {timer : Id} {deadline : Deadline Service Op Time}
      (alive : book.timers timer = some deadline) :
      Step book (.destroy timer) 0 ((book.abort timer deadline deadline.waits.length).set timer none)
  /-- The new timer takes over the service, the expiry and the waits. -/
  | moveConstruct {book : Book Service Id Op Time} {target source : Id}
      {deadline : Deadline Service Op Time} (free : book.timers target = none)
      (alive : book.timers source = some deadline) :
      Step book (.moveConstruct target source) 0
        ((book.set target (some deadline)).set source (some (vacated deadline)))
  /-- The target's own waits are aborted first; in a self-move that is all of them. -/
  | moveAssign {book : Book Service Id Op Time} {target source : Id}
      {old deadline : Deadline Service Op Time} (alive : book.timers target = some old)
      (moved : book.timers source = some deadline) :
      Step book (.moveAssign target source) 0
        (((book.abort target old old.waits.length).set target (some deadline)).set source
          (some (vacated deadline)))
  | expiresAt {book : Book Service Id Op Time} {timer : Id} {deadline : Deadline Service Op Time}
      {time : Time} (alive : book.timers timer = some deadline) :
      Step book (.expiresAt timer time) deadline.waits.length
        ((book.abort timer deadline deadline.waits.length).set timer
          (some { deadline with expiry := time, waits := [] }))
  | expiresAfter {book : Book Service Id Op Time} {timer : Id} {deadline : Deadline Service Op Time}
      {duration : Duration} (alive : book.timers timer = some deadline) :
      Step book (.expiresAfter timer duration) deadline.waits.length
        ((book.abort timer deadline deadline.waits.length).set timer
          (some { deadline with expiry := ServiceTraits.add book.clock duration, waits := [] }))
  | cancel {book : Book Service Id Op Time} {timer : Id} {deadline : Deadline Service Op Time}
      (alive : book.timers timer = some deadline) :
      Step book (.cancel timer) deadline.waits.length
        (book.abort timer deadline deadline.waits.length)
  /-- The oldest wait is aborted. -/
  | cancelOne {book : Book Service Id Op Time} {timer : Id} {deadline : Deadline Service Op Time}
      (alive : book.timers timer = some deadline) :
      Step book (.cancelOne timer) (min 1 deadline.waits.length) (book.abort timer deadline 1)
  | asyncWait {book : Book Service Id Op Time} {timer : Id} {deadline : Deadline Service Op Time}
      {op : Op} (alive : book.timers timer = some deadline) (fresh : op ∉ book.started.map Prod.fst) :
      Step book (.asyncWait timer op) 0
        (({ book with started := book.started ++ [(op, deadline.expiry)] } :
          Book Service Id Op Time).set timer
            (some { deadline with waits := deadline.waits ++ [(op, deadline.expiry)] }))
  | clock {book : Book Service Id Op Time} {now : Time} :
      Step book (.clock now) 0 { book with clock := now }
  /-- Exactly the waits of the service whose expiry has come are handed over. -/
  | getReadyTimers {book : Book Service Id Op Time} {service : Service} {due : List (Op × Time)}
      (nodup : due.Nodup)
      (isDue : ∀ wait, wait ∈ due ↔ ∃ timer deadline, book.timers timer = some deadline ∧
        deadline.service = service ∧ wait ∈ deadline.waits ∧ wait.2 ≤ book.clock) :
      Step book (.getReadyTimers service) 0
        { book.handOver .success due with timers := book.visit service }

/-! ## Conservation of the waits -/

/-- Every wait started has been handed over once, successfully only at or after its
expiry, or waits on exactly one timer. -/
structure Conserved [LE Time] (book : Book Service Id Op Time) : Prop where
  startedOnce : (book.started.map Prod.fst).Nodup
  handedOnce : (book.handed.map fun handover => handover.1.op).Nodup
  waitsOnce : ∀ timer, ((book.waits timer).map Prod.fst).Nodup
  apart : ∀ {timer other wait twin}, wait ∈ book.waits timer → twin ∈ book.waits other →
    wait.1 = twin.1 → timer = other
  unhanded : ∀ {timer wait handover}, wait ∈ book.waits timer → handover ∈ book.handed →
    handover.1.op ≠ wait.1
  known : ∀ {timer wait}, wait ∈ book.waits timer → wait ∈ book.started
  handedKnown : ∀ handover ∈ book.handed, ∃ wait ∈ book.started, wait.1 = handover.1.op ∧
    (handover.1.ec = .success → wait.2 ≤ handover.2)
  accounted : ∀ wait ∈ book.started, (∃ handover ∈ book.handed, handover.1.op = wait.1) ∨
    ∃ timer, wait ∈ book.waits timer

section Conserved

variable {book next : Book Service Id Op Time} {timer : Id} {deadline : Deadline Service Op Time}

theorem waits_of_alive (alive : book.timers timer = some deadline) :
    book.waits timer = deadline.waits := by
  simp only [waits, alive]

theorem alive_of_waits {wait : Op × Time} (member : wait ∈ book.waits timer) :
    ∃ deadline, book.timers timer = some deadline ∧ wait ∈ deadline.waits := by
  unfold waits at member
  split at member
  · next deadline alive => exact ⟨deadline, alive, member⟩
  · simp at member

theorem waits_set_self [DecidableEq Id] (book : Book Service Id Op Time) (timer : Id)
    (deadline : Option (Deadline Service Op Time)) :
    (book.set timer deadline).waits timer =
      match deadline with
      | some deadline => deadline.waits
      | none => [] := by
  simp only [waits, set, Function.update_self]

theorem waits_set_ne [DecidableEq Id] {other : Id} (different : other ≠ timer)
    (deadline : Option (Deadline Service Op Time)) :
    (book.set timer deadline).waits other = book.waits other := by
  simp only [waits, set, Function.update_of_ne different]

/-- Nothing is aborted on a timer without waits. -/
theorem abort_of_empty [DecidableEq Id] (alive : book.timers timer = some deadline)
    (none : deadline.waits = []) (count : Nat) : book.abort timer deadline count = book := by
  have same : { deadline with waits := deadline.waits.drop count } = deadline := by
    rw [none, List.drop_nil, ← none]
  apply Book.ext
  · rw [abort, same, ← alive]
    exact Function.update_eq_self _ _
  · rfl
  · rfl
  · simp only [abort, set, handOver, none, List.take_nil, List.map_nil, List.append_nil]

/-- Handing over waits that leave their timers. -/
theorem Conserved.handOver [LE Time] {ec : ErrorCode} {out : List (Op × Time)}
    (conserved : book.Conserved) (started : next.started = book.started)
    (handed : next.handed = book.handed ++ out.map fun wait => (⟨wait.1, ec⟩, book.clock))
    (once : (out.map Prod.fst).Nodup) (waiting : ∀ wait ∈ out, ∃ timer, wait ∈ book.waits timer)
    (timely : ec = .success → ∀ wait ∈ out, wait.2 ≤ book.clock)
    (fewer : ∀ timer, (next.waits timer).Sublist (book.waits timer))
    (gone : ∀ timer, ∀ wait ∈ next.waits timer, wait.1 ∉ out.map Prod.fst)
    (left : ∀ timer, ∀ wait ∈ book.waits timer, wait ∈ next.waits timer ∨ wait ∈ out) :
    next.Conserved where
  startedOnce := started ▸ conserved.startedOnce
  handedOnce := by
    have opsEq : next.handed.map (fun handover => handover.1.op) =
        book.handed.map (fun handover => handover.1.op) ++ out.map Prod.fst := by
      rw [handed, List.map_append, List.map_map]
      rfl
    rw [opsEq, List.nodup_append]
    refine ⟨conserved.handedOnce, once, ?_⟩
    intro op inHanded other inOut same
    obtain ⟨handover, member, rfl⟩ := List.mem_map.mp inHanded
    obtain ⟨wait, isOut, rfl⟩ := List.mem_map.mp inOut
    obtain ⟨timer, waits⟩ := waiting wait isOut
    exact conserved.unhanded waits member same
  waitsOnce timer := (conserved.waitsOnce timer).sublist ((fewer timer).map Prod.fst)
  apart first second same := conserved.apart ((fewer _).subset first) ((fewer _).subset second) same
  unhanded := by
    intro timer wait handover waits isHanded same
    rw [handed, List.mem_append] at isHanded
    rcases isHanded with before | now
    · exact conserved.unhanded ((fewer timer).subset waits) before same
    · obtain ⟨other, isOut, rfl⟩ := List.mem_map.mp now
      exact gone timer wait waits (same ▸ List.mem_map_of_mem isOut)
  known waits := started ▸ conserved.known ((fewer _).subset waits)
  handedKnown := by
    intro handover isHanded
    rw [started]
    rw [handed, List.mem_append] at isHanded
    rcases isHanded with before | now
    · exact conserved.handedKnown handover before
    · obtain ⟨wait, isOut, rfl⟩ := List.mem_map.mp now
      obtain ⟨timer, waits⟩ := waiting wait isOut
      exact ⟨wait, conserved.known waits, rfl, fun success => timely success wait isOut⟩
  accounted := by
    intro wait isStarted
    rw [started] at isStarted
    rw [handed]
    rcases conserved.accounted wait isStarted with ⟨handover, member, same⟩ | ⟨timer, waits⟩
    · exact Or.inl ⟨handover, List.mem_append_left _ member, same⟩
    · rcases left timer wait waits with stays | isOut
      · exact Or.inr ⟨timer, stays⟩
      · exact Or.inl ⟨_, List.mem_append_right _ (List.mem_map_of_mem isOut), rfl⟩

/-- Waits that follow a renaming of the timers. -/
theorem Conserved.rename [LE Time] (conserved : book.Conserved) (follow : Equiv.Perm Id)
    (started : next.started = book.started) (handed : next.handed = book.handed)
    (waits : ∀ timer, next.waits timer = book.waits (follow timer)) : next.Conserved where
  startedOnce := started ▸ conserved.startedOnce
  handedOnce := handed ▸ conserved.handedOnce
  waitsOnce timer := waits timer ▸ conserved.waitsOnce (follow timer)
  apart first second same :=
    follow.injective (conserved.apart (waits _ ▸ first) (waits _ ▸ second) same)
  unhanded member isHanded := conserved.unhanded (waits _ ▸ member) (handed ▸ isHanded)
  known member := started ▸ conserved.known (waits _ ▸ member)
  handedKnown handover isHanded := started ▸ conserved.handedKnown handover (handed ▸ isHanded)
  accounted wait isStarted := by
    rw [handed]
    refine (conserved.accounted wait (started ▸ isStarted)).imp_right fun ⟨timer, member⟩ => ?_
    exact ⟨follow.symm timer, by rw [waits, follow.apply_symm_apply]; exact member⟩

/-- Aborting the oldest waits of a timer. -/
theorem Conserved.abort [DecidableEq Id] [LE Time] (conserved : book.Conserved)
    (alive : book.timers timer = some deadline) (count : Nat) :
    (book.abort timer deadline count).Conserved := by
  have waits := waits_of_alive alive
  have once := waits ▸ conserved.waitsOnce timer
  have waitsOf : ∀ other, (book.abort timer deadline count).waits other =
      if other = timer then deadline.waits.drop count else book.waits other := by
    intro other
    split
    · next same => rw [same, Book.abort, waits_set_self]
    · next different => rw [Book.abort, waits_set_ne different]; rfl
  have started : (book.abort timer deadline count).started = book.started := rfl
  have handed : (book.abort timer deadline count).handed = book.handed ++
      (deadline.waits.take count).map fun wait => (⟨wait.1, .operationAborted⟩, book.clock) := rfl
  apply conserved.handOver started handed
  · exact once.sublist ((List.take_sublist count _).map Prod.fst)
  · exact fun wait isOut => ⟨timer, waits ▸ List.mem_of_mem_take isOut⟩
  · exact fun success => absurd success (by decide)
  · intro other
    rw [waitsOf]
    split
    · next same => exact same ▸ waits ▸ List.drop_sublist count _
    · exact List.Sublist.refl _
  · intro other wait member isOut
    rw [waitsOf] at member
    obtain ⟨twin, isTaken, same⟩ := List.mem_map.mp isOut
    split at member
    · rw [← List.take_append_drop count deadline.waits, List.map_append, List.nodup_append] at once
      exact once.2.2 twin.1 (List.mem_map_of_mem isTaken) wait.1 (List.mem_map_of_mem member) same
    · next different =>
        exact different (conserved.apart member (waits ▸ List.mem_of_mem_take isTaken) same.symm)
  · intro other wait member
    rw [waitsOf]
    split
    · next same =>
        subst same
        rw [waits, ← List.take_append_drop count deadline.waits, List.mem_append] at member
        exact member.symm
    · exact Or.inl member

/-- A wait started on a timer is its newest. -/
theorem Conserved.start [DecidableEq Id] [LE Time] {op : Op} (conserved : book.Conserved)
    (alive : book.timers timer = some deadline) (fresh : op ∉ book.started.map Prod.fst) :
    (({ book with started := book.started ++ [(op, deadline.expiry)] } :
      Book Service Id Op Time).set timer
        (some { deadline with waits := deadline.waits ++ [(op, deadline.expiry)] })).Conserved := by
  have waits := waits_of_alive alive
  have unstarted : ∀ wait ∈ book.started, wait.1 ≠ op := fun wait member same =>
    fresh (same ▸ List.mem_map_of_mem member)
  have unwaited : ∀ {other wait}, wait ∈ book.waits other → wait.1 ≠ op := fun member =>
    unstarted _ (conserved.known member)
  generalize nextEq : (({ book with started := book.started ++ [(op, deadline.expiry)] } :
    Book Service Id Op Time).set timer
      (some { deadline with waits := deadline.waits ++ [(op, deadline.expiry)] })) = next
  have startedEq : next.started = book.started ++ [(op, deadline.expiry)] := nextEq ▸ rfl
  have handedEq : next.handed = book.handed := nextEq ▸ rfl
  have waitsEq : ∀ other, next.waits other =
      if other = timer then book.waits timer ++ [(op, deadline.expiry)] else book.waits other := by
    intro other
    rw [← nextEq]
    split
    · next same => rw [same, waits_set_self, waits]
    · next different => rw [waits_set_ne different]; rfl
  have mem_waits : ∀ {other wait}, wait ∈ next.waits other →
      wait ∈ book.waits other ∨ other = timer ∧ wait = (op, deadline.expiry) := by
    intro other wait member
    rw [waitsEq] at member
    split at member
    · next same =>
        subst same
        exact (List.mem_append.mp member).imp_right fun isNew => ⟨rfl, List.mem_singleton.mp isNew⟩
    · exact Or.inl member
  constructor
  case startedOnce =>
    rw [startedEq, List.map_append]
    refine List.nodup_append.mpr ⟨conserved.startedOnce, by simp, ?_⟩
    intro old inStarted new isNew same
    obtain ⟨wait, member, rfl⟩ := List.mem_map.mp inStarted
    simp only [List.map_cons, List.map_nil, List.mem_singleton] at isNew
    exact unstarted wait member (same.trans isNew)
  case handedOnce => exact handedEq ▸ conserved.handedOnce
  case waitsOnce =>
    intro other
    rw [waitsEq]
    split
    · rw [List.map_append]
      refine List.nodup_append.mpr ⟨conserved.waitsOnce timer, by simp, ?_⟩
      intro old inWaits new isNew same
      obtain ⟨wait, member, rfl⟩ := List.mem_map.mp inWaits
      simp only [List.map_cons, List.map_nil, List.mem_singleton] at isNew
      exact unwaited member (same.trans isNew)
    · exact conserved.waitsOnce other
  case apart =>
    intro first second wait twin inFirst inSecond same
    rcases mem_waits inFirst with inFirst | ⟨atFirst, rfl⟩ <;>
      rcases mem_waits inSecond with inSecond | ⟨atSecond, rfl⟩
    · exact conserved.apart inFirst inSecond same
    · exact absurd same (unwaited inFirst)
    · exact absurd same.symm (unwaited inSecond)
    · exact atFirst.trans atSecond.symm
  case unhanded =>
    intro other wait handover member isHanded same
    rw [handedEq] at isHanded
    rcases mem_waits member with member | ⟨-, rfl⟩
    · exact conserved.unhanded member isHanded same
    · obtain ⟨old, isStarted, sameOp, -⟩ := conserved.handedKnown handover isHanded
      exact unstarted old isStarted (sameOp.trans same)
  case known =>
    intro other wait member
    rw [startedEq, List.mem_append]
    exact (mem_waits member).imp conserved.known fun ⟨_, isNew⟩ => List.mem_singleton.mpr isNew
  case handedKnown =>
    intro handover isHanded
    obtain ⟨wait, isStarted, rest⟩ := conserved.handedKnown handover (handedEq ▸ isHanded)
    exact ⟨wait, startedEq ▸ List.mem_append_left _ isStarted, rest⟩
  case accounted =>
    intro wait isStarted
    rw [startedEq, List.mem_append, List.mem_singleton] at isStarted
    rw [handedEq]
    rcases isStarted with old | rfl
    · refine (conserved.accounted wait old).imp_right fun ⟨other, member⟩ => ⟨other, ?_⟩
      rw [waitsEq]
      split
      · next same => exact List.mem_append_left _ (same ▸ member)
      · exact member
    · exact Or.inr ⟨timer, by rw [waitsEq, if_pos rfl]; simp⟩

theorem vacated_waits [ServiceTraits Time Duration] (deadline : Deadline Service Op Time) :
    (vacated deadline).waits = [] := rfl

/-- A timer whose waits are gone can be put in any state without waits. -/
theorem Conserved.set [DecidableEq Id] [LE Time] (conserved : book.Conserved)
    (none : book.waits timer = []) {deadline : Option (Deadline Service Op Time)}
    (empty : ∀ some ∈ deadline, Deadline.waits some = []) : (book.set timer deadline).Conserved := by
  refine conserved.rename (Equiv.refl Id) rfl rfl fun other => ?_
  by_cases same : other = timer
  · subst same
    rw [waits_set_self, Equiv.refl_apply, none]
    split
    · next some => exact empty some rfl
    · rfl
  · rw [waits_set_ne same, Equiv.refl_apply]

/-- The waits of a timer move to one without waits. -/
theorem Conserved.move [DecidableEq Id] [LE Time] {target source : Id}
    {moved : Deadline Service Op Time} (conserved : book.Conserved)
    (none : book.waits target = []) (alive : book.timers source = some deadline)
    (empty : moved.waits = []) :
    ((book.set target (some deadline)).set source (some moved)).Conserved := by
  refine conserved.rename (Equiv.swap target source) rfl rfl fun other => ?_
  by_cases atSource : other = source
  · subst atSource
    rw [waits_set_self, Equiv.swap_apply_right, none, ← empty]
  · rw [waits_set_ne atSource]
    by_cases atTarget : other = target
    · subst atTarget
      rw [waits_set_self, Equiv.swap_apply_left, waits_of_alive alive]
    · rw [waits_set_ne atTarget, Equiv.swap_apply_of_ne_of_ne atTarget atSource]

theorem waits_abort_all [DecidableEq Id] (book : Book Service Id Op Time) (timer : Id)
    (deadline : Deadline Service Op Time) :
    (book.abort timer deadline deadline.waits.length).waits timer = [] := by
  rw [abort, waits_set_self, List.drop_length]

/-- The waits left by a visit are those of the service whose expiry has not come, and those of
the other services. -/
theorem waits_visit [DecidableEq Service] [LinearOrder Time] {service : Service}
    (alive : book.timers timer = some deadline) :
    ({ next with timers := book.visit service } : Book Service Id Op Time).waits timer =
      if deadline.service = service then deadline.waits.filter fun wait => book.clock < wait.2
      else deadline.waits := by
  simp only [waits, visit, alive, Option.map_some]
  split <;> rfl

/-- A visit hands over the waits it takes from the timers. -/
theorem Conserved.visit [DecidableEq Service] [LinearOrder Time] {service : Service}
    {due : List (Op × Time)} (conserved : book.Conserved) (nodup : due.Nodup)
    (isDue : ∀ wait, wait ∈ due ↔ ∃ timer deadline, book.timers timer = some deadline ∧
      deadline.service = service ∧ wait ∈ deadline.waits ∧ wait.2 ≤ book.clock) :
    ({ book.handOver .success due with timers := book.visit service } :
      Book Service Id Op Time).Conserved := by
  have waiting : ∀ wait ∈ due, ∃ timer, wait ∈ book.waits timer := by
    intro wait member
    obtain ⟨timer, deadline, alive, -, waits, -⟩ := (isDue wait).mp member
    exact ⟨timer, waits_of_alive alive ▸ waits⟩
  generalize nextEq : ({ book.handOver .success due with timers := book.visit service } :
    Book Service Id Op Time) = next
  have started : next.started = book.started := nextEq ▸ rfl
  have handed : next.handed = book.handed ++ due.map fun wait => (⟨wait.1, .success⟩, book.clock) :=
    nextEq ▸ rfl
  have kept : ∀ {timer deadline}, book.timers timer = some deadline → next.waits timer =
      if deadline.service = service then deadline.waits.filter fun wait => book.clock < wait.2
      else deadline.waits := fun alive => nextEq ▸ waits_visit alive
  have sublist : ∀ timer, (next.waits timer).Sublist (book.waits timer) := by
    intro timer
    cases alive : book.timers timer with
    | none => simp [waits, ← nextEq, Book.visit, alive]
    | some deadline =>
        rw [kept alive, waits_of_alive alive]
        split
        · exact List.filter_sublist
        · exact List.Sublist.refl _
  apply conserved.handOver started handed ?_ waiting ?_ sublist
  · intro timer wait member isOut
    obtain ⟨twin, inDue, same⟩ := List.mem_map.mp isOut
    obtain ⟨other, deadline, alive, inService, waits, reached⟩ := (isDue twin).mp inDue
    have before := (sublist timer).subset member
    have atOther : timer = other :=
      conserved.apart before (waits_of_alive alive ▸ waits) same.symm
    subst atOther
    rw [kept alive, if_pos inService, List.mem_filter] at member
    have twinEq : wait = twin := List.inj_on_of_nodup_map (conserved.waitsOnce timer) before
      (waits_of_alive alive ▸ waits) same.symm
    subst twinEq
    exact absurd reached (not_le.mpr (by simpa using member.2))
  · intro timer wait member
    obtain ⟨deadline, alive, waits⟩ := alive_of_waits member
    rw [kept alive]
    split
    · next inService =>
        by_cases reached : wait.2 ≤ book.clock
        · exact Or.inr ((isDue wait).mpr ⟨timer, deadline, alive, inService, waits, reached⟩)
        · exact Or.inl (List.mem_filter.mpr ⟨waits, by simpa using not_le.mp reached⟩)
    · exact Or.inl waits
  · -- Distinct due waits have distinct operations.
    refine nodup.map_on fun wait inDue twin alsoDue same => ?_
    obtain ⟨timer, waits⟩ := waiting wait inDue
    obtain ⟨other, twinWaits⟩ := waiting twin alsoDue
    have atOther : timer = other := conserved.apart waits twinWaits same
    subst atOther
    exact List.inj_on_of_nodup_map (conserved.waitsOnce timer) waits twinWaits same
  · exact fun _ wait inDue => ((isDue wait).mp inDue).choose_spec.choose_spec.2.2.2

end Conserved

/-- **Every step conserves the waits.** -/
theorem Step.conserved [DecidableEq Service] [DecidableEq Id] [ServiceTraits Time Duration]
    {book next : Book Service Id Op Time} {call : TimerCall Service Id Op Time Duration}
    {count : Nat} (conserved : book.Conserved) (step : book.Step call count next) :
    next.Conserved := by
  cases step with
  | construct free => exact conserved.set (by simp only [waits, free]) (by simp)
  | destroy alive => exact (conserved.abort alive _).set (waits_abort_all _ _ _) (by simp)
  | moveConstruct free alive =>
      exact conserved.move (by simp only [waits, free]) alive (vacated_waits _)
  | @moveAssign target source old deadline alive moved =>
      have emptied := waits_abort_all book target old
      by_cases self : target = source
      · subst self
        have twice : ∀ (middle : Book Service Id Op Time) first second,
            (middle.set target first).set target second = middle.set target second := by
          intro middle first second
          simp only [Book.set, Function.update_idem]
        rw [twice]
        exact (conserved.abort alive _).set emptied fun some isSome => by
          rw [Option.mem_some_iff] at isSome
          exact isSome ▸ vacated_waits deadline
      · refine (conserved.abort alive _).move emptied ?_ (vacated_waits deadline)
        simp only [abort, Book.set, Book.handOver, Function.update_of_ne (Ne.symm self), moved]
  | expiresAt alive => exact (conserved.abort alive _).set (waits_abort_all _ _ _) (by simp)
  | expiresAfter alive => exact (conserved.abort alive _).set (waits_abort_all _ _ _) (by simp)
  | cancel alive => exact conserved.abort alive _
  | cancelOne alive => exact conserved.abort alive _
  | asyncWait alive fresh => exact conserved.start alive fresh
  | clock => exact conserved.rename (Equiv.refl Id) rfl rfl fun _ => rfl
  | getReadyTimers nodup isDue => exact conserved.visit nodup isDue

end Book

end Asio.Timer
