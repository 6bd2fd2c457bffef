import Asio.Lib.Loop
import Asio.Timer.Reactor

/-! # Dequeuing all timers

`get_all_timers` walks the list of active timers, takes their operations and clears the heap.
It is called when a reactor is shut down, and leaves the `heap_index_` of the timers as they
were.
-/

namespace Asio.Timer

variable {Service Id Op Time : Type*} [DecidableEq Id]

namespace TimerQueue

/-- One pass of the loop of `get_all_timers`, and what comes after it. -/
def getAllBody (state : TimerQueue Id Op Time × List (WaitOp Op)) :
    Loop.Pass (TimerQueue Id Op Time × List (WaitOp Op))
      (TimerQueue Id Op Time × List (WaitOp Op)) :=
  let (queue, ops) := state
  match queue.timers.head with
  | some timer =>
      let links := queue.timers
      .again
        ({ queue.setOpQueue timer [] with
            timers := {
              head := links.next timer
              next := Function.update links.next timer none
              prev := Function.update links.prev timer none } },
          ops ++ queue.opQueue timer)
  | none => .leave ({ queue with heap := #[] }, ops)

/-- What `get_all_timers` makes of a queue with these active timers. -/
structure Cleared (queue after : TimerQueue Id Op Time) (active : List Id) : Prop where
  head : after.timers.head = none
  heap : after.heap = #[]
  opQueue : ∀ timer, after.opQueue timer = if timer ∈ active then [] else queue.opQueue timer
  next : ∀ timer, after.timers.next timer =
    if timer ∈ active then none else queue.timers.next timer
  prev : ∀ timer, after.timers.prev timer =
    if timer ∈ active then none else queue.timers.prev timer

/-- The walk takes the operations of the active timers, in their order. -/
theorem evaluate_getAll {active : List Id} (distinct : active.Nodup) {passes : Nat}
    (enough : active.length < passes) (queue : TimerQueue Id Op Time) (ops : List (WaitOp Op))
    (chain : Chain queue.timers.next queue.timers.head active none) :
    ∃ after, Loop.evaluate getAllBody passes (queue, ops) =
        some (after, ops ++ active.flatMap queue.opQueue) ∧ Cleared queue after active := by
  obtain ⟨passes, rfl⟩ := Nat.exists_eq_add_one_of_ne_zero (Nat.ne_zero_of_lt enough)
  induction active generalizing passes queue ops with
  | nil =>
      refine ⟨{ queue with heap := #[] }, ?_, ⟨chain, rfl, ?_, ?_, ?_⟩⟩
      · simp only [Loop.evaluate, getAllBody, show queue.timers.head = none from chain,
          List.flatMap_nil, List.append_nil]
      all_goals exact fun timer => (if_neg List.not_mem_nil).symm
  | cons timer active ih =>
      obtain ⟨fresh, distinct⟩ := List.nodup_cons.mp distinct
      obtain ⟨head, rest⟩ := chain
      have others : ∀ other ∈ active, other ≠ timer :=
        fun other member same => fresh (same ▸ member)
      let middle : TimerQueue Id Op Time := { queue.setOpQueue timer [] with
        timers := {
          head := queue.timers.next timer
          next := Function.update queue.timers.next timer none
          prev := Function.update queue.timers.prev timer none } }
      have onward : Chain middle.timers.next middle.timers.head active none := by
        apply rest.congr
        intro other member
        exact Function.update_of_ne (others other member) _ _
      have waits : active.flatMap middle.opQueue = active.flatMap queue.opQueue := by
        apply List.flatMap_congr
        intro other member
        exact Function.update_of_ne (others other member) _ _
      obtain ⟨passes, rfl⟩ : ∃ fewer, passes = fewer + 1 := by
        apply Nat.exists_eq_add_one_of_ne_zero
        rw [List.length_cons] at enough
        omega
      obtain ⟨after, evaluated, cleared⟩ := ih distinct middle (ops ++ queue.opQueue timer) onward
        passes (Nat.lt_of_succ_lt_succ enough)
      refine ⟨after, ?_, ⟨cleared.head, cleared.heap, ?_, ?_, ?_⟩⟩
      · rw [Loop.evaluate]
        simp only [getAllBody, head]
        rw [evaluated, waits, List.append_assoc, List.flatMap_cons]
      · intro other
        rw [cleared.opQueue other]
        by_cases own : other = timer
        · subst own
          simp [middle, setOpQueue]
        · simp [middle, setOpQueue, own]
      · intro other
        rw [cleared.next other]
        by_cases own : other = timer
        · subst own
          simp [middle]
        · simp [middle, own]
      · intro other
        rw [cleared.prev other]
        by_cases own : other = timer
        · subst own
          simp [middle]
        · simp [middle, own]

end TimerQueue

namespace TimerQueues

variable [DecidableEq Service]

section Fields

variable (queues : TimerQueues Service Id Op Time) (service : Service)
  (queue : TimerQueue Id Op Time)

omit [DecidableEq Id]

@[simp] theorem setQueue_next : (queues.setQueue service queue).next = queue.timers.next := rfl

@[simp] theorem setQueue_prev : (queues.setQueue service queue).prev = queue.timers.prev := rfl

@[simp] theorem setQueue_timers : (queues.setQueue service queue).timers =
    Function.update queues.timers service queue.timers.head := rfl

@[simp] theorem setQueue_heap : (queues.setQueue service queue).heap =
    Function.update queues.heap service queue.heap := rfl

end Fields

/-- `timer_queue_set::get_all_timers`, with a bound on the passes for each queue. -/
def getAllTimers (passes : Nat) : List Service → TimerQueues Service Id Op Time →
    List (WaitOp Op) → Option (TimerQueues Service Id Op Time × List (WaitOp Op))
  | [], queues, ops => some (queues, ops)
  | service :: services, queues, ops =>
      (Loop.evaluate TimerQueue.getAllBody passes (queues.queue service, ops)).bind
        fun (queue, ops) => getAllTimers passes services (queues.setQueue service queue) ops

/-- Queues from which all timers have been taken. -/
structure Drained (queues : TimerQueues Service Id Op Time) : Prop where
  opQueue : ∀ timer, queues.opQueue timer = []
  prev : ∀ timer, queues.prev timer = none
  timers : ∀ service, queues.timers service = none
  heap : ∀ service, queues.heap service = #[]

section Drained

variable [TimeTraits Time] {queues : TimerQueues Service Id Op Time}

/-- There is nothing left to cancel. -/
theorem Drained.cancelTimer (drained : queues.Drained) (service : Service) (timer : Id)
    (maxCancelled : Nat) : queues.cancelTimer service timer maxCancelled = (queues, [], 0) := by
  have inactive : (queues.queue service).isActive timer = false := by
    simp [TimerQueue.isActive, queue, drained.prev timer, drained.timers service]
  rw [TimerQueues.cancelTimer, TimerQueue.cancelTimer_inactive inactive]
  dsimp only
  rw [setQueue_queue]

/-- No timer is ready. -/
theorem Drained.getReadyTimers (drained : queues.Drained) (service : Service) (now : Time) :
    queues.getReadyTimers service now = (queues, []) := by
  have none : (queues.queue service).getReadyTimers now [] = (queues.queue service, []) := by
    simp [TimerQueue.getReadyTimers, queue, drained.heap service, TimerQueue.getReadyLoop]
  rw [TimerQueues.getReadyTimers, none]
  dsimp only
  rw [setQueue_queue]

end Drained

/-- The queues of some services are still to be walked, the others have been. -/
structure Walking (queues : TimerQueues Service Id Op Time) (services : List Service)
    (active : Service → List Id) : Prop where
  distinct : ∀ service ∈ services, (active service).Nodup
  chain : ∀ service ∈ services,
    Chain queues.next (queues.timers service) (active service) none
  apart : ∀ {service other timer}, timer ∈ active service → timer ∈ active other → service = other
  opQueue : ∀ timer, (∀ service ∈ services, timer ∉ active service) → queues.opQueue timer = []
  prev : ∀ timer, (∀ service ∈ services, timer ∉ active service) → queues.prev timer = none
  timers : ∀ service, service ∉ services → queues.timers service = none
  heap : ∀ service, service ∉ services → queues.heap service = #[]

variable {queues : TimerQueues Service Id Op Time} {services : List Service}
  {active : Service → List Id}

omit [DecidableEq Id] [DecidableEq Service] in
theorem Holds.walking [TimeTraits Time] {dates : Id → Option Time}
    (holds : queues.Holds active dates) (home : Id → Service)
    (known : ∀ service, service ∉ services → active service = []) :
    queues.Walking services active where
  distinct service _ := (holds.represents service).spells.nodup
  chain service _ := (holds.represents service).spells.chain
  apart := holds.apart
  opQueue timer absent := by
    apply holds.quiet
    intro other member
    by_cases listed : other ∈ services
    · exact absent other listed member
    · rw [known other listed] at member
      cases member
  prev timer absent := by
    have idle := holds.idle (home timer) timer
    apply (idle _).detached.2
    intro other member
    by_cases listed : other ∈ services
    · exact absent other listed member
    · rw [known other listed] at member
      cases member
  timers service outside := by
    have spells := (holds.represents service).spells.head_eq
    rw [known service outside] at spells
    exact spells
  heap service outside := by
    have entries := (holds.represents service).mem_heap
    apply Array.eq_empty_iff_forall_not_mem.mpr
    intro entry member
    have listed := ((entries entry).mp member).1
    rw [known service outside] at listed
    cases listed

omit [DecidableEq Id] [DecidableEq Service] in
/-- Queues without timers are walked in no time. -/
theorem Drained.walking (drained : queues.Drained) (services : List Service) :
    queues.Walking services fun _ => [] where
  distinct _ _ := List.nodup_nil
  chain service _ := drained.timers service
  apart member := absurd member List.not_mem_nil
  opQueue timer _ := drained.opQueue timer
  prev timer _ := drained.prev timer
  timers service _ := drained.timers service
  heap service _ := drained.heap service

/-- After one of the queues has been walked the others are to be walked. -/
theorem Walking.next {service : Service} {after : TimerQueue Id Op Time}
    (fresh : service ∉ services) (walking : queues.Walking (service :: services) active)
    (cleared : TimerQueue.Cleared (queues.queue service) after (active service)) :
    (queues.setQueue service after).Walking services active where
  distinct other member := walking.distinct other (List.mem_cons_of_mem _ member)
  chain other member := by
    have different : other ≠ service := fun same => fresh (same ▸ member)
    have chain := walking.chain other (List.mem_cons_of_mem _ member)
    rw [setQueue_next, setQueue_timers, Function.update_of_ne different]
    apply chain.congr
    intro timer inside
    rw [cleared.next, if_neg fun also => different (walking.apart inside also)]
    rfl
  apart := walking.apart
  opQueue timer absent := by
    rw [setQueue_opQueue, cleared.opQueue]
    split
    · rfl
    · next outside =>
      apply walking.opQueue timer
      exact List.forall_mem_cons.mpr ⟨outside, absent⟩
  prev timer absent := by
    rw [setQueue_prev, cleared.prev]
    split
    · rfl
    · next outside =>
      apply walking.prev timer
      exact List.forall_mem_cons.mpr ⟨outside, absent⟩
  timers other outside := by
    by_cases own : other = service
    · subst own
      rw [setQueue_timers, Function.update_self]
      exact cleared.head
    · rw [setQueue_timers, Function.update_of_ne own]
      apply walking.timers other
      exact List.not_mem_cons_of_ne_of_not_mem own outside
  heap other outside := by
    by_cases own : other = service
    · subst own
      rw [setQueue_heap, Function.update_self]
      exact cleared.heap
    · rw [setQueue_heap, Function.update_of_ne own]
      apply walking.heap other
      exact List.not_mem_cons_of_ne_of_not_mem own outside

/-- The operations of the timers of the queues. -/
def waits (queues : TimerQueues Service Id Op Time) (services : List Service)
    (active : Service → List Id) : List (WaitOp Op) :=
  services.flatMap fun service => (active service).flatMap queues.opQueue

theorem Walking.waits_next {service : Service} {after : TimerQueue Id Op Time}
    (fresh : service ∉ services) (walking : queues.Walking (service :: services) active)
    (cleared : TimerQueue.Cleared (queues.queue service) after (active service)) :
    (queues.setQueue service after).waits services active = queues.waits services active := by
  apply List.flatMap_congr
  intro other member
  apply List.flatMap_congr
  intro timer inside
  have different : other ≠ service := fun same => fresh (same ▸ member)
  rw [setQueue_opQueue, cleared.opQueue,
    if_neg fun also => different (walking.apart inside also)]
  rfl

omit [DecidableEq Id] [DecidableEq Service] in
theorem Walking.drained (walking : queues.Walking [] active) : queues.Drained where
  opQueue timer := walking.opQueue timer (List.forall_mem_nil _)
  prev timer := walking.prev timer (List.forall_mem_nil _)
  timers service := walking.timers service List.not_mem_nil
  heap service := walking.heap service List.not_mem_nil

omit [DecidableEq Id] [DecidableEq Service] in
theorem Walking.nodup (walking : queues.Walking services active) (distinct : services.Nodup) :
    (services.flatMap active).Nodup := by
  rw [List.nodup_flatMap]
  refine ⟨walking.distinct, ?_⟩
  apply distinct.imp
  intro service other different timer inside also
  exact different (walking.apart inside also)

omit [DecidableEq Id] [DecidableEq Service] in
theorem waits_eq (queues : TimerQueues Service Id Op Time) (services : List Service)
    (active : Service → List Id) :
    queues.waits services active = (services.flatMap active).flatMap queues.opQueue := by
  rw [waits, List.flatMap_assoc]

/-- **`get_all_timers`** takes the operations of all timers. -/
theorem Walking.getAllTimers (walking : queues.Walking services active)
    (distinct : services.Nodup) {passes : Nat}
    (enough : ∀ service ∈ services, (active service).length < passes) (ops : List (WaitOp Op)) :
    ∃ after, TimerQueues.getAllTimers passes services queues ops =
        some (after, ops ++ queues.waits services active) ∧ after.Drained := by
  induction services generalizing queues ops with
  | nil =>
      refine ⟨queues, ?_, walking.drained⟩
      rw [TimerQueues.getAllTimers, waits, List.flatMap_nil, List.append_nil]
  | cons service services ih =>
      obtain ⟨fresh, distinct⟩ := List.nodup_cons.mp distinct
      obtain ⟨shorter, enough⟩ := List.forall_mem_cons.mp enough
      obtain ⟨queue, evaluated, cleared⟩ := TimerQueue.evaluate_getAll
        (walking.distinct service List.mem_cons_self) shorter (queues.queue service) ops
        (walking.chain service List.mem_cons_self)
      obtain ⟨after, computed, drained⟩ := ih (walking.next fresh cleared) distinct enough
        (ops ++ (active service).flatMap queues.opQueue)
      refine ⟨after, ?_, drained⟩
      rw [TimerQueues.getAllTimers, evaluated]
      dsimp only [Option.bind_some]
      rw [queue_opQueue, computed, walking.waits_next fresh cleared, List.append_assoc]
      rfl

/-- What `get_all_timers` returns with any bound on the passes. -/
theorem Walking.of_getAllTimers {ops all : List (WaitOp Op)}
    {after : TimerQueues Service Id Op Time} {passes : Nat}
    (walking : queues.Walking services active) (distinct : services.Nodup)
    (computed : TimerQueues.getAllTimers passes services queues ops = some (after, all)) :
    after.Drained ∧ all = ops ++ queues.waits services active := by
  induction services generalizing queues ops with
  | nil =>
      rw [TimerQueues.getAllTimers, Option.some.injEq, Prod.mk.injEq] at computed
      obtain ⟨rfl, rfl⟩ := computed
      exact ⟨walking.drained, (List.append_nil _).symm⟩
  | cons service services ih =>
      obtain ⟨fresh, distinct⟩ := List.nodup_cons.mp distinct
      rw [TimerQueues.getAllTimers] at computed
      obtain ⟨⟨queue, ops'⟩, evaluated, rest⟩ := Option.bind_eq_some_iff.mp computed
      obtain ⟨queue', evaluated', cleared⟩ := TimerQueue.evaluate_getAll
        (walking.distinct service List.mem_cons_self) (Nat.lt_succ_self _) (queues.queue service)
        ops (walking.chain service List.mem_cons_self)
      have same := (Loop.Returns.of_evaluate evaluated).unique (.of_evaluate evaluated')
      rw [Prod.mk.injEq] at same
      obtain ⟨rfl, rfl⟩ := same
      obtain ⟨drained, all⟩ := ih (walking.next fresh cleared) distinct rest
      refine ⟨drained, ?_⟩
      rw [all, walking.waits_next fresh cleared, List.append_assoc]
      rfl

end TimerQueues

end Asio.Timer
