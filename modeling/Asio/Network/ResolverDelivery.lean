import Asio.Lib.Progress
import Asio.Network.ResolverProtocol
import Mathlib.Data.List.GetD
import Mathlib.Data.List.Nodup
import Mathlib.Tactic.IntervalCases

/-! # Every resolve operation is delivered once

An operation that was cancelled before the worker came to it is not looked up.
As long as the worker and the main scheduler go on, every operation moves towards
the front of the one queue and then of the other; when the service is shut down,
what is on the queues is destroyed.
-/

namespace Asio.Network

/-- The operation a worker has taken and not begun to look up. -/
def Worker.unresolved : Worker → List Nat
  | .resolving op => [op]
  | .idle | .posting _ | .finishing => []

/-- What a worker has still to do before it takes the next operation. -/
def Worker.remaining : Worker → Nat
  | .idle => 0
  | .resolving _ => 3
  | .posting _ => 2
  | .finishing => 1

namespace ResolverService

variable {service next : ResolverService} {locking : Bool} {action : ResolverAction} {op : Nat}

/-- The operations that `background_getaddrinfo` has not been called for. -/
def unresolved (service : ResolverService) : List Nat :=
  service.work.opQueue ++ service.workers.flatMap fun entry => entry.2.unresolved

/-! ## Cancellation -/

theorem Accounted.lt_started (accounted : service.Accounted) (member : op ∈ service.places) :
    op < service.started := by
  have positive := List.count_pos_iff.mpr member
  rw [accounted.placed op] at positive
  by_contra late
  rw [if_neg late] at positive
  exact Nat.lt_irrefl 0 positive

theorem Accounted.nodup (accounted : service.Accounted) : service.places.Nodup := by
  refine List.nodup_iff_count_le_one.mpr fun op => ?_
  rw [accounted.placed op]
  split <;> omega

theorem mem_held_of_unresolved
    (taken : op ∈ service.workers.flatMap fun entry => entry.2.unresolved) : op ∈ service.held := by
  obtain ⟨⟨name, worker⟩, running, waits⟩ := List.mem_flatMap.mp taken
  refine List.mem_flatMap.mpr ⟨⟨name, worker⟩, running, ?_⟩
  cases worker with
  | resolving other => exact waits
  | idle | posting | finishing => cases waits

/-- What a step does to an operation that was started before: it leaves it alone,
or calls `background_getaddrinfo` for it. -/
inductive Moved (service next : ResolverService) (op : Nat) : Prop where
  | same :
      next.ops op = service.ops op →
      (op ∈ next.unresolved → op ∈ service.unresolved) →
      (op ∈ service.unresolved → op ∈ next.unresolved ∨ op ∈ next.destroyed) →
      Moved service next op
  | lookedUp (answer : ErrorCode) :
      op ∈ service.unresolved → op ∉ next.unresolved →
      next.ops op = backgroundGetaddrinfo (service.expired op) answer (service.ops op) →
      Moved service next op

/-- Neither the operation nor the work scheduler is touched. -/
theorem Moved.of_iff (ops : next.ops op = service.ops op)
    (unresolved : op ∈ next.unresolved ↔ op ∈ service.unresolved) : Moved service next op :=
  .same ops unresolved.mp fun member => .inl (unresolved.mpr member)

theorem Sound.moved_of_worked {name : Nat} {worker : Worker} (sound : service.Sound)
    (alone : service.workers = [(name, worker)]) (worked : Worked service name worker next) :
    Moved service next op := by
  cases worked with
  | @take first opQueue stopped queued =>
      exact .of_iff rfl (by simp [unresolved, alone, queued, Worker.unresolved, or_comm])
  | lookUp first answer =>
      by_cases own : op = first
      · subst own
        refine .lookedUp answer ?_ ?_ (Function.update_self _ _ _)
        · simp [unresolved, alone, Worker.unresolved]
        · have nodup := sound.accounted.nodup
          simp only [places, held, alone, List.flatMap_cons, List.flatMap_nil, Worker.held,
            List.append_assoc, List.nodup_append] at nodup
          have elsewhere : op ∉ service.work.opQueue := fun member =>
            nodup.2.2 op member op (by simp) rfl
          simpa [unresolved, Worker.unresolved] using elsewhere
      · exact .of_iff (Function.update_of_ne own _ _)
          (by simp [unresolved, alone, Worker.unresolved, own])
  | post first => exact .of_iff rfl (by simp [unresolved, alone, Worker.unresolved])
  | finish => exact .of_iff rfl (by simp [unresolved, alone, Worker.unresolved])
  | exit => exact .of_iff rfl (by simp [unresolved, alone, Worker.unresolved])

theorem spawn_unresolved : service.spawn.unresolved = service.unresolved := by
  simp [unresolved, spawn, Worker.unresolved]

theorem startWorkThread_unresolved :
    service.startWorkThread.workers.flatMap (fun entry => entry.2.unresolved) =
      service.workers.flatMap fun entry => entry.2.unresolved := by
  unfold startWorkThread
  split
  · simp [spawn, Worker.unresolved]
  · rfl

theorem moved_of_called (called : Called locking service action next)
    (old : op < service.started) : Moved service next op := by
  cases called with
  | asyncResolve impl =>
      cases locking with
      | true =>
          rw [asyncResolve_eq]
          refine .of_iff (Function.update_of_ne (Nat.ne_of_lt old) _ _) ?_
          simp [unresolved, startWorkThread_unresolved, IoContextImpl.postImmediateCompletion,
            IoContextImpl.postDeferredCompletion, IoContextImpl.workStarted, Nat.ne_of_lt old]
      | false => exact .of_iff (Function.update_of_ne (Nat.ne_of_lt old) _ _) Iff.rfl
  | tokens | complete | completed | run | stop | restart | otherStarted | otherFinished =>
      exact .of_iff rfl Iff.rfl

theorem forked_unresolved : service.forked.unresolved = service.unresolved := by
  unfold ResolverService.forked
  dsimp only
  split
  · rw [spawn_unresolved]
    rfl
  · rfl

/-- What the notifications of a fork leave as it is: everything but the work
scheduler and its thread. -/
structure ForkKeeps (service next : ResolverService) : Prop where
  ops : next.ops = service.ops
  started : next.started = service.started
  useCount : next.useCount = service.useCount
  main : next.main = service.main
  delivered : next.delivered = service.delivered
  destroyed : next.destroyed = service.destroyed

theorem forkPrepare_keeps : ForkKeeps service service.forkPrepare := by
  unfold ResolverService.forkPrepare
  split <;> exact ⟨rfl, rfl, rfl, rfl, rfl, rfl⟩

theorem forked_keeps : ForkKeeps service service.forked := by
  unfold ResolverService.forked
  dsimp only
  split <;> exact ⟨rfl, rfl, rfl, rfl, rfl, rfl⟩

theorem Sound.moved_of_notified (sound : service.Sound) (notified : Notified service action next)
    (allowed : service.Allowed action) : Moved service next op := by
  cases notified with
  | forkPrepare =>
      unfold ResolverService.forkPrepare
      split
      · exact .of_iff rfl Iff.rfl
      · exact .of_iff rfl Iff.rfl
  | forkJoined => exact .of_iff rfl Iff.rfl
  | forkParent => exact .of_iff (by rw [forked_keeps.ops]) (by rw [forked_unresolved])
  | forkChild =>
      have untaken : op ∉ service.workers.flatMap fun entry => entry.2.unresolved := fun taken => by
        have held := mem_held_of_unresolved taken
        rw [sound.staffed.held_of_forkChild allowed] at held
        cases held
      refine .of_iff (by rw [forked_keeps.ops]) ?_
      rw [forked_unresolved]
      simp only [unresolved, List.flatMap_nil, List.append_nil, List.mem_append, untaken, or_false]
  | shutdown =>
      exact .of_iff rfl (by simp [unresolved, ResolverService.shutdown, IoContextImpl.stop])
  | destroyWork _ joined =>
      have unmanned := sound.staffed.threadJoined joined
      refine .same rfl ?_ fun member => .inr ?_
      · simp [unresolved, ResolverService.destroyWork, unmanned]
      · simpa [unresolved, ResolverService.destroyWork, unmanned] using Or.inr member
  | shutdownMain => exact .of_iff rfl Iff.rfl

theorem Sound.moved (sound : service.Sound) (allowed : service.Allowed action)
    (stepped : ResolverService.step locking service action = some next)
    (old : op < service.started) : Moved service next op := by
  obtain ⟨name, worker, found, worked⟩ | notified | ⟨-, called⟩ := step_cases stepped
  · exact sound.moved_of_worked (sound.staffed.worker_eq found).2
      (sound.staffed.worked found worked)
  · exact sound.moved_of_notified (notified_of_notify notified) allowed
  · exact moved_of_called (called_of_call called) old

/-- What a step never undoes: objects are made, and expired tokens stay so. -/
structure Grown (service next : ResolverService) : Prop where
  started : service.started ≤ next.started
  destroyed : service.destroyed ⊆ next.destroyed
  useCount : ∀ token < service.tokens, service.useCount token = 0 → next.useCount token = 0

theorem ForkKeeps.grown (kept : ForkKeeps service next) : Grown service next where
  started := kept.started.ge
  destroyed := by
    rw [kept.destroyed]
    exact List.Subset.refl _
  useCount _ _ expired := by rw [kept.useCount, expired]

theorem grown_of_step (sound : service.Sound)
    (stepped : ResolverService.step locking service action = some next) : Grown service next := by
  have unchanged : ∀ {token : Nat}, token < service.tokens → service.useCount token = 0 →
      service.useCount token = 0 := fun _ expired => expired
  obtain ⟨name, worker, found, worked⟩ | notified | ⟨-, called⟩ := step_cases stepped
  · cases sound.staffed.worked found worked <;>
      exact ⟨Nat.le_refl _, List.Subset.refl _, fun _ => unchanged⟩
  · cases notified_of_notify notified with
    | forkPrepare => exact forkPrepare_keeps.grown
    | forkParent => exact forked_keeps.grown
    | forkChild =>
        have kept := @forked_keeps { service with workers := [] }
        exact ⟨kept.grown.started, kept.grown.destroyed, kept.grown.useCount⟩
    | forkJoined | shutdown => exact ⟨Nat.le_refl _, List.Subset.refl _, fun _ => unchanged⟩
    | destroyWork | shutdownMain =>
        exact ⟨Nat.le_refl _, List.subset_append_left _ _, fun _ => unchanged⟩
  · cases called_of_call called with
    | tokens impls useCount tokens expires =>
        exact ⟨Nat.le_refl _, List.Subset.refl _, expires⟩
    | asyncResolve impl =>
        cases locking with
        | true =>
            rw [asyncResolve_eq]
            exact ⟨Nat.le_succ _, List.Subset.refl _, fun _ => unchanged⟩
        | false => exact ⟨Nat.le_succ _, List.Subset.refl _, fun _ => unchanged⟩
    | complete | completed | run | stop | restart | otherStarted | otherFinished =>
        exact ⟨Nat.le_refl _, List.Subset.refl _, fun _ => unchanged⟩

theorem backgroundGetaddrinfo_cancelToken (expired : Bool) (answer : ErrorCode)
    (operation : ResolveOp) :
    (backgroundGetaddrinfo expired answer operation).cancelToken = operation.cancelToken := by
  unfold backgroundGetaddrinfo
  split <;> rfl

theorem Moved.cancelToken (moved : Moved service next op) :
    (next.ops op).cancelToken = (service.ops op).cancelToken := by
  cases moved with
  | same ops => rw [ops]
  | lookedUp answer _ _ ops => rw [ops, backgroundGetaddrinfo_cancelToken]

theorem Sound.expired_step (sound : service.Sound) (allowed : service.Allowed action)
    (stepped : ResolverService.step locking service action = some next)
    (old : op < service.started) (expired : service.expired op = true) :
    next.expired op = true := by
  have sameToken := (sound.moved allowed stepped old).cancelToken
  unfold ResolverService.expired at expired ⊢
  rw [sameToken]
  split at expired
  · rfl
  · next token given =>
    have minted := sound.minted.ops op token given
    exact beq_iff_eq.mpr ((grown_of_step sound stepped).useCount token minted
      (beq_iff_eq.mp expired))

/-- An operation whose token expired before it was looked up: it has not been
looked up, and unless it still waits or was destroyed its error is
`operation_aborted`. -/
structure Doomed (service : ResolverService) (op : Nat) : Prop where
  old : op < service.started
  expired : service.expired op = true
  notLookedUp : (service.ops op).lookedUp = false
  aborted : op ∈ service.unresolved ∨ op ∈ service.destroyed ∨
    (service.ops op).ec = .operationAborted

theorem Doomed.step (doomed : service.Doomed op) (sound : service.Sound)
    (allowed : service.Allowed action)
    (stepped : ResolverService.step locking service action = some next) : next.Doomed op := by
  have grown := grown_of_step sound stepped
  have old : op < next.started := Nat.lt_of_lt_of_le doomed.old grown.started
  have expired := sound.expired_step allowed stepped doomed.old doomed.expired
  cases sound.moved allowed stepped doomed.old with
  | same ops _ kept =>
      refine ⟨old, expired, ops ▸ doomed.notLookedUp, ?_⟩
      obtain waiting | destroyed | aborted := doomed.aborted
      · exact (kept waiting).imp_right .inl
      · exact .inr (.inl (grown.destroyed destroyed))
      · exact .inr (.inr (ops ▸ aborted))
  | lookedUp answer _ _ ops =>
      rw [backgroundGetaddrinfo, doomed.expired, if_pos rfl] at ops
      exact ⟨old, expired, by rw [ops]; exact doomed.notLookedUp, .inr (.inr (by rw [ops]))⟩

/-- What waits has not been looked up. -/
def Untouched (service : ResolverService) : Prop :=
  ∀ op ∈ service.unresolved, (service.ops op).lookedUp = false

theorem mem_places_of_unresolved (member : op ∈ service.unresolved) : op ∈ service.places := by
  obtain queued | taken := List.mem_append.mp member
  · simp [places, queued]
  · simp [places, mem_held_of_unresolved taken]

/-- The only operation that is new has not been looked up. -/
theorem started_step (sound : service.Sound)
    (stepped : ResolverService.step locking service action = some next) :
    next.started = service.started ∨
      next.started = service.started + 1 ∧ (next.ops service.started).lookedUp = false := by
  obtain ⟨name, worker, found, worked⟩ | notified | ⟨-, called⟩ := step_cases stepped
  · cases sound.staffed.worked found worked <;> exact .inl rfl
  · cases notified_of_notify notified with
    | forkPrepare => exact .inl forkPrepare_keeps.started
    | forkParent | forkChild => exact .inl forked_keeps.started
    | forkJoined | shutdown | destroyWork | shutdownMain => exact .inl rfl
  · cases called_of_call called with
    | asyncResolve impl =>
        right
        cases locking with
        | true =>
            rw [asyncResolve_eq]
            exact ⟨rfl, by simp⟩
        | false => exact ⟨rfl, by simp [asyncResolve, allocate]⟩
    | tokens | complete | completed | run | stop | restart | otherStarted | otherFinished =>
        exact .inl rfl

theorem Untouched.step (untouched : service.Untouched) (sound : service.Sound)
    (allowed : service.Allowed action) (nextSound : next.Sound)
    (stepped : ResolverService.step locking service action = some next) : next.Untouched := by
  intro op waiting
  by_cases old : op < service.started
  · cases sound.moved allowed stepped old with
    | same ops before _ => rw [ops]; exact untouched op (before waiting)
    | lookedUp _ _ gone _ => exact absurd waiting gone
  · have known := nextSound.accounted.lt_started (mem_places_of_unresolved waiting)
    obtain same | ⟨more, fresh⟩ := started_step sound stepped
    · exact absurd (same ▸ known) old
    · obtain rfl : op = service.started := by omega
      exact fresh

/-! ## Shutdown -/

/-- Nothing is destroyed before the schedulers are. -/
def Intact (service : ResolverService) : Prop :=
  service.stage ≠ .closed → service.stage ≠ .ended → service.destroyed = []

theorem Intact.step (intact : service.Intact) (sound : service.Sound)
    (stepped : ResolverService.step locking service action = some next) : next.Intact := by
  obtain ⟨name, worker, found, worked⟩ | notified | ⟨-, called⟩ := step_cases stepped
  · cases sound.staffed.worked found worked <;> exact intact
  · have before : service.stage = .running ∨ service.stage = .joining ∨
        service.stage = .forking → service.destroyed = [] := by
      rintro (stage | stage | stage) <;>
        exact intact (by rw [stage]; exact nofun) (by rw [stage]; exact nofun)
    cases notified_of_notify notified with
    | forkPrepare stage =>
        exact fun _ _ => forkPrepare_keeps.destroyed.trans (before (.inl stage))
    | forkJoined stage => exact fun _ _ => before (.inr (.inl stage))
    | forkParent stage | forkChild stage =>
        exact fun _ _ => forked_keeps.destroyed.trans (before (.inr (.inr stage)))
    | shutdown stage =>
        exact fun _ _ => before (stage.imp_right .inr)
    | destroyWork => exact fun notClosed => absurd rfl notClosed
    | shutdownMain => exact fun _ notEnded => absurd rfl notEnded
  · cases called_of_call called with
    | asyncResolve impl =>
        cases locking with
        | true =>
            rw [asyncResolve_eq]
            exact intact
        | false => exact intact
    | tokens | complete | completed | run | stop | restart | otherStarted | otherFinished =>
        exact intact

/-- What holds in every state reached by allowed steps. -/
structure Kept (service : ResolverService) : Prop where
  sound : service.Sound
  untouched : service.Untouched
  intact : service.Intact

theorem Kept.step (kept : service.Kept) (allowed : service.Allowed action)
    (stepped : ResolverService.step locking service action = some next) : next.Kept :=
  have sound := kept.sound.step allowed stepped
  ⟨sound, kept.untouched.step kept.sound allowed sound stepped, kept.intact.step kept.sound stepped⟩

theorem kept_of_reachable (reached : (resolverService locking).ReachableWhen
    Allowed service) : service.Kept := by
  refine reached.invariant ?_ fun _ _ _ _ kept allowed stepped => kept.step allowed stepped
  intro start initially
  have sound : start.Sound := @sound_of_reachable _ locking (.initial initially)
  subst initially
  exact ⟨sound, nofun, fun _ _ => rfl⟩

theorem Doomed.run {actions : List ResolverAction} (doomed : service.Doomed op)
    (kept : service.Kept)
    (ran : (resolverService locking).run service actions = some next)
    (permitted : (resolverService locking).Permitted Allowed service actions) :
    next.Doomed op ∧ next.Kept := by
  induction actions generalizing service with
  | nil =>
      cases ran
      exact ⟨doomed, kept⟩
  | cons action actions ih =>
      obtain ⟨middle, stepped, rest⟩ := Option.bind_eq_some_iff.mp ran
      simp only [Transition.Machine.Permitted, stepped] at permitted
      exact ih (doomed.step kept.sound permitted.1 stepped) (kept.step permitted.1 stepped) rest permitted.2

/-! ## The main scheduler -/

/-- The operations that have not been completed. -/
def inFlight (service : ResolverService) : List Nat :=
  service.work.opQueue ++ service.held ++ service.main.opQueue ++ service.completing

/-- The main scheduler is stopped by the user or because it has run out of work. -/
theorem stopped_step (sound : service.Sound)
    (stepped : ResolverService.step locking service action = some next)
    (stopped : next.main.stopped = true) :
    service.main.stopped = true ∨ action = .stop ∨ next.main.outstandingWork = 0 := by
  obtain ⟨name, worker, found, worked⟩ | notified | ⟨-, called⟩ := step_cases stepped
  · cases sound.staffed.worked found worked <;> exact .inl stopped
  · refine .inl ?_
    cases notified_of_notify notified with
    | forkPrepare => rwa [forkPrepare_keeps.main] at stopped
    | forkParent | forkChild => rwa [forked_keeps.main] at stopped
    | forkJoined | shutdown | destroyWork | shutdownMain => exact stopped
  · cases called_of_call called with
    | asyncResolve impl =>
        cases locking with
        | true =>
            rw [asyncResolve_eq] at stopped
            exact .inl stopped
        | false => exact .inl stopped
    | completed | otherFinished =>
        exact (IoContextImpl.stopped_workFinished stopped).imp_right .inr
    | run => exact (IoContextImpl.stopped_run stopped).imp_right .inr
    | stop => exact .inr (.inl rfl)
    | restart => cases stopped
    | tokens | complete | otherStarted => exact .inl stopped

theorem delivered_step (sound : service.Sound)
    (stepped : ResolverService.step locking service action = some next) :
    next.delivered = service.delivered ∨ action = .complete := by
  obtain ⟨name, worker, found, worked⟩ | notified | ⟨-, called⟩ := step_cases stepped
  · cases sound.staffed.worked found worked <;> exact .inl rfl
  · refine .inl ?_
    cases notified_of_notify notified with
    | forkPrepare => exact forkPrepare_keeps.delivered
    | forkParent | forkChild => exact forked_keeps.delivered
    | forkJoined | shutdown | destroyWork | shutdownMain => rfl
  · cases called_of_call called with
    | asyncResolve impl =>
        cases locking with
        | true =>
            rw [asyncResolve_eq]
            exact .inl rfl
        | false => exact .inl rfl
    | complete => exact .inr rfl
    | tokens | completed | run | stop | restart | otherStarted | otherFinished => exact .inl rfl

/-! ## Delivery -/

/-- The steps that bring a worker on with its operations. -/
def isWork : ResolverAction → Bool
  | .take _ | .lookUp _ _ | .post _ | .finish _ => true
  | _ => false

end ResolverService

/-- An infinite run from a state, without shutdown, in which the worker and the main scheduler
go on: again and again, while no fork is being made, the worker does something or
there is nothing for it to do; and so for the main scheduler. -/
structure FairRun (locking : Bool) (service : ResolverService) where
  state : Nat → ResolverService
  action : Nat → ResolverAction
  starts : state 0 = service
  steps : ∀ n, ResolverService.step locking (state n) (action n) = some (state (n + 1))
  allowed : ∀ n, (state n).Allowed (action n)
  opened : ∀ n, (state n).Open
  working : ∀ n, ∃ m, n ≤ m ∧ (state m).stage = .running ∧
    (ResolverService.isWork (action m) = true ∨
      ∀ action, ResolverService.isWork action = true →
        ResolverService.step locking (state m) action = none)
  completing : ∀ n, ∃ m, n ≤ m ∧ (action m = .complete ∨ (state m).main.opQueue = [])

namespace FairRun

variable {locking : Bool} {service : ResolverService} (run : FairRun locking service)

theorem kept (initially : service.Kept) (n : Nat) : (run.state n).Kept := by
  induction n with
  | zero =>
      rw [run.starts]
      exact initially
  | succ n ih => exact ih.step (run.allowed n) (run.steps n)

end FairRun

namespace ResolverService

variable {service next : ResolverService} {locking : Bool} {action : ResolverAction} {op : Nat}

/-- The operation is on its first queue or in the hands of the worker. -/
def Working (service : ResolverService) (op : Nat) : Prop :=
  op ∈ service.work.opQueue ∨ op ∈ service.held

/-- How many steps of the worker are needed at most until the operation is posted. -/
def workLeft (service : ResolverService) (op : Nat) : Nat :=
  (service.workers.map fun entry => entry.2.remaining).sum +
    if op ∈ service.work.opQueue then 4 * (service.work.opQueue.idxOf op + 1) else 0

/-- Where the work scheduler and the sum of the workers' steps are the same,
nothing has changed for the operation. -/
theorem Working.of_eq (working : service.Working op) (queue : next.work.opQueue = service.work.opQueue)
    (held : next.held = service.held)
    (remaining : (next.workers.map fun entry => entry.2.remaining).sum =
      (service.workers.map fun entry => entry.2.remaining).sum) :
    next.Working op ∧ next.workLeft op ≤ service.workLeft op := by
  refine ⟨?_, ?_⟩
  · rw [Working, queue, held]
    exact working
  · exact Nat.le_of_eq (by rw [workLeft, workLeft, queue, remaining])

/-- Every step of the worker brings the operation nearer to the main scheduler,
unless the worker exits. -/
theorem Sound.working_worked {name : Nat} {worker : Worker} (sound : service.Sound)
    (alone : service.workers = [(name, worker)]) (worked : Worked service name worker next)
    (working : service.Working op) :
    op ∈ next.main.opQueue ∨ next.Working op ∧ next.workLeft op ≤ service.workLeft op ∧
      (service.work.stopped = false → next.workLeft op < service.workLeft op) := by
  cases worked with
  | @take first opQueue stopped queued =>
      have nodup : (first :: opQueue).Nodup := by
        have nodup := sound.accounted.nodup
        simp only [places, List.append_assoc, List.nodup_append] at nodup
        exact queued ▸ nodup.1
      have member : op ∈ first :: opQueue := by
        simpa [Working, held, alone, queued, Worker.held] using working
      have before : service.workLeft op = 4 * ((first :: opQueue).idxOf op + 1) := by
        simp [workLeft, alone, queued, Worker.remaining, List.mem_cons.mp member]
      refine .inr ?_
      rw [before]
      by_cases own : op = first
      · subst own
        have elsewhere : op ∉ opQueue := (List.nodup_cons.mp nodup).1
        refine ⟨.inr (by simp [held, Worker.held]), ?_, fun _ => ?_⟩ <;>
          simp [workLeft, Worker.remaining, elsewhere]
      · have behind : op ∈ opQueue := (List.mem_cons.mp member).resolve_left own
        have further : (first :: opQueue).idxOf op = opQueue.idxOf op + 1 :=
          List.idxOf_cons_ne _ (Ne.symm own)
        rw [further]
        refine ⟨.inl behind, ?_, fun _ => ?_⟩ <;>
          · simp only [workLeft, List.map_cons, List.map_nil, List.sum_cons, List.sum_nil,
              Worker.remaining, behind, if_true]
            omega
  | lookUp first answer =>
      refine .inr ⟨?_, ?_, fun _ => ?_⟩
      · simpa [Working, held, alone, Worker.held] using working
      all_goals simp [workLeft, alone, Worker.remaining]
  | post first =>
      by_cases own : op = first
      · exact .inl (by simp [IoContextImpl.postDeferredCompletion, own])
      · refine .inr ⟨.inl ?_, ?_, fun _ => ?_⟩
        · simpa [Working, held, alone, Worker.held, own] using working
        all_goals simp [workLeft, alone, Worker.remaining]
  | finish =>
      refine .inr ⟨?_, ?_, fun _ => ?_⟩
      · simpa [Working, held, alone, Worker.held] using working
      all_goals simp [workLeft, alone, Worker.remaining]
  | exit stopped =>
      refine .inr ⟨?_, ?_, fun alive => ?_⟩
      · simpa [Working, held, alone, Worker.held] using working
      · simp [workLeft, alone, Worker.remaining]
      · rw [stopped] at alive
        cases alive

theorem mem_places_of_working (working : service.Working op) : op ∈ service.places := by
  obtain queued | held := working
  · simp [places, queued]
  · simp [places, held]

/-- A new operation is behind this one. -/
theorem working_asyncResolve (working : service.Working op) (old : op < service.started)
    (impl : Nat) : (service.asyncResolve locking impl).Working op ∧
      (service.asyncResolve locking impl).workLeft op ≤ service.workLeft op := by
  have remaining : (service.startWorkThread.workers.map fun entry => entry.2.remaining).sum =
      (service.workers.map fun entry => entry.2.remaining).sum := by
    unfold startWorkThread
    split
    · simp [spawn, Worker.remaining]
    · rfl
  have sameHeld : service.startWorkThread.held = service.held := startWorkThread_held
  cases locking with
  | false => exact working.of_eq rfl rfl rfl
  | true =>
      rw [asyncResolve_eq]
      simp only [held] at sameHeld
      refine ⟨?_, Nat.le_of_eq ?_⟩
      · refine working.imp (fun queued => List.mem_append_left _ queued) fun taken => ?_
        simpa only [held, sameHeld] using taken
      · have elsewhere : op ≠ service.started := Nat.ne_of_lt old
        by_cases queued : op ∈ service.work.opQueue
        · simp [workLeft, remaining, IoContextImpl.postImmediateCompletion,
            IoContextImpl.postDeferredCompletion, IoContextImpl.workStarted, queued,
            List.idxOf_append_of_mem queued]
        · simp [workLeft, remaining, IoContextImpl.postImmediateCompletion,
            IoContextImpl.postDeferredCompletion, IoContextImpl.workStarted, queued, elsewhere]

/-- A new worker has nothing to do yet. -/
theorem working_forked (working : service.Working op) :
    service.forked.Working op ∧ service.forked.workLeft op ≤ service.workLeft op := by
  unfold ResolverService.forked
  dsimp only
  split
  · refine working.of_eq rfl ?_ ?_
    · simp [held, spawn]
    · simp [spawn, Worker.remaining]
  · exact working.of_eq rfl rfl rfl

/-- While the service is not shut down, an operation that the worker still has to
post comes no further away from the main scheduler. -/
theorem Sound.working_step (sound : service.Sound) (allowed : service.Allowed action)
    (stepped : ResolverService.step locking service action = some next) (opened : next.Open)
    (working : service.Working op) :
    op ∈ next.main.opQueue ∨ next.Working op ∧ next.workLeft op ≤ service.workLeft op := by
  have old := sound.accounted.lt_started (mem_places_of_working working)
  obtain ⟨name, worker, found, worked⟩ | notified | ⟨-, called⟩ := step_cases stepped
  · exact (sound.working_worked (sound.staffed.worker_eq found).2
      (sound.staffed.worked found worked) working).imp_right fun ⟨still, bound, _⟩ => ⟨still, bound⟩
  · refine .inr ?_
    cases notified_of_notify notified with
    | forkPrepare =>
        unfold ResolverService.forkPrepare
        split <;> exact working.of_eq rfl rfl rfl
    | forkJoined => exact working.of_eq rfl rfl rfl
    | forkParent => exact working_forked working
    | forkChild =>
        have queued : op ∈ service.work.opQueue := working.resolve_right fun taken => by
          rw [sound.staffed.held_of_forkChild allowed] at taken
          cases taken
        have ⟨still, bound⟩ := @working_forked { service with workers := [] } _ (.inl queued)
        exact ⟨still, Nat.le_trans bound (Nat.add_le_add_right (Nat.zero_le _) _)⟩
    | shutdown | destroyWork | shutdownMain => simp [Open, ResolverService.shutdown,
        ResolverService.destroyWork, ResolverService.shutdownMain] at opened
  · refine .inr ?_
    cases called_of_call called with
    | asyncResolve impl => exact working_asyncResolve working old impl
    | tokens | complete | completed | run | stop | restart | otherStarted | otherFinished =>
        exact working.of_eq rfl rfl rfl

/-- While no fork is being made there is a step for the worker that has an
operation, or can take one. -/
theorem Sound.work_enabled (sound : service.Sound) (running : service.stage = .running)
    (working : service.Working op) : ∃ action, isWork action = true ∧
      ResolverService.step locking service action ≠ none := by
  obtain ⟨alive, ⟨thread, idle⟩ | ⟨name, worker, -, alone⟩⟩ := sound.staffed.running running
  · obtain queued | taken := working
    · rw [idle] at queued
      cases queued
    · rw [held, sound.staffed.unmanned (by simp [thread])] at taken
      cases taken
  · have found : service.worker name = some worker := by simp [ResolverService.worker, alone]
    cases worker with
    | idle =>
        have queued : op ∈ service.work.opQueue := by
          simpa [Working, held, alone] using working
        obtain ⟨first, opQueue, queue⟩ := List.exists_cons_of_ne_nil (List.ne_nil_of_mem queued)
        exact ⟨.take name, rfl, by simp [ResolverService.step, found, workerStep, alive, queue,
          doComplete]⟩
    | resolving other =>
        exact ⟨.lookUp name .success, rfl, by simp [ResolverService.step, found, workerStep]⟩
    | posting other => exact ⟨.post name, rfl, by simp [ResolverService.step, found, workerStep]⟩
    | finishing => exact ⟨.finish name, rfl, by simp [ResolverService.step, found, workerStep]⟩

/-- A step of the worker while no fork is being made brings the operation nearer. -/
theorem Sound.workLeft_lt (sound : service.Sound) (running : service.stage = .running)
    (stepped : ResolverService.step locking service action = some next)
    (work : isWork action = true) (working : service.Working op) :
    op ∈ next.main.opQueue ∨ next.workLeft op < service.workLeft op := by
  obtain ⟨name, worker, found, worked⟩ | notified | ⟨-, called⟩ := step_cases stepped
  · exact (sound.working_worked (sound.staffed.worker_eq found).2
      (sound.staffed.worked found worked) working).imp_right fun ⟨_, _, less⟩ =>
        less (sound.staffed.running running).1
  · cases notified_of_notify notified <;> cases work
  · cases action with
    | take | lookUp | post | finish => cases called
    | _ => cases work

/-- The queue of the main scheduler grows at its end and is taken from its front. -/
theorem mainQueue_step (sound : service.Sound)
    (stepped : ResolverService.step locking service action = some next) (opened : next.Open) :
    (∃ later, next.main.opQueue = service.main.opQueue ++ later) ∨
      ∃ first, service.main.opQueue = first :: next.main.opQueue ∧ first ∈ next.delivered := by
  have unchanged : ∃ later, service.main.opQueue = service.main.opQueue ++ later :=
    ⟨[], (List.append_nil _).symm⟩
  obtain ⟨name, worker, found, worked⟩ | notified | ⟨-, called⟩ := step_cases stepped
  · cases sound.staffed.worked found worked with
    | post first => exact .inl ⟨[first], rfl⟩
    | take | lookUp | finish | exit => exact .inl unchanged
  · left
    cases notified_of_notify notified with
    | forkPrepare => rwa [forkPrepare_keeps.main]
    | forkParent | forkChild => rwa [forked_keeps.main]
    | forkJoined => exact unchanged
    | shutdown | destroyWork | shutdownMain => simp [Open, ResolverService.shutdown,
        ResolverService.destroyWork, ResolverService.shutdownMain] at opened
  · cases called_of_call called with
    | asyncResolve impl =>
        cases locking with
        | true =>
            rw [asyncResolve_eq]
            exact .inl unchanged
        | false => exact .inl ⟨[service.started], rfl⟩
    | complete _ queue => exact .inr ⟨_, queue, List.mem_append_right _ List.mem_cons_self⟩
    | completed | otherFinished =>
        exact .inl ⟨[], by rw [IoContextImpl.workFinished_opQueue, List.append_nil]⟩
    | run => exact .inl ⟨[], by rw [IoContextImpl.run_opQueue, List.append_nil]⟩
    | tokens | stop | restart | otherStarted => exact .inl unchanged

/-- An operation is delivered when it is the first, and comes nearer when it is not. -/
theorem taken_first {queue delivered : List Nat} {first : Nat} (waiting : op ∈ first :: queue)
    (taken : first ∈ delivered) :
    op ∈ delivered ∨ op ∈ queue ∧ queue.idxOf op < (first :: queue).idxOf op := by
  by_cases own : op = first
  · exact .inl (own ▸ taken)
  · refine .inr ⟨(List.mem_cons.mp waiting).resolve_left own, ?_⟩
    rw [List.idxOf_cons_ne _ (Ne.symm own)]
    exact Nat.lt_succ_self _

theorem complete_step (completed : ResolverService.step locking service .complete = some next) :
    ∃ first, service.main.opQueue = first :: next.main.opQueue ∧ first ∈ next.delivered := by
  have completed : service.complete = some next := by
    unfold ResolverService.step at completed
    dsimp only at completed
    split at completed
    all_goals first | exact completed | cases completed
  unfold complete at completed
  split at completed
  · next queue =>
    cases completed
    exact ⟨_, queue, List.mem_append_right _ List.mem_cons_self⟩
  · cases completed

end ResolverService

namespace FairRun

variable {locking : Bool} {service : ResolverService} (run : FairRun locking service)
  (initially : service.Kept) {op : Nat}

include initially

/-- What the worker has to post is posted. -/
theorem eventually_posted {n : Nat} (working : (run.state n).Working op) :
    ∃ m, n ≤ m ∧ op ∈ (run.state m).main.opQueue := by
  refine @Progress.eventually (fun n => (run.state n).Working op)
    (fun n => op ∈ (run.state n).main.opQueue) (fun n => (run.state n).workLeft op) ?_ ?_ _ working
  · exact fun n waiting =>
      (run.kept initially n).sound.working_step (run.allowed n) (run.steps n) (run.opened (n + 1)) waiting
  · intro n
    obtain ⟨m, after, running, work | nothing⟩ := run.working n
    · exact ⟨m, after, fun waiting =>
        (run.kept initially m).sound.workLeft_lt running (run.steps m) work waiting⟩
    · refine ⟨m, after, fun waiting => ?_⟩
      obtain ⟨action, work, enabled⟩ := (run.kept initially m).sound.work_enabled running waiting
      exact absurd (nothing action work) enabled

/-- What has been posted is delivered. -/
theorem eventually_delivered {n : Nat} (posted : op ∈ (run.state n).main.opQueue) :
    ∃ m, n ≤ m ∧ op ∈ (run.state m).delivered := by
  refine @Progress.eventually (fun n => op ∈ (run.state n).main.opQueue)
    (fun n => op ∈ (run.state n).delivered) (fun n => (run.state n).main.opQueue.idxOf op) ?_ ?_ _
    posted
  · intro n waiting
    obtain ⟨later, grown⟩ | ⟨first, queue, taken⟩ :=
      ResolverService.mainQueue_step (run.kept initially n).sound (run.steps n) (run.opened (n + 1))
    · rw [grown, List.idxOf_append_of_mem waiting]
      exact .inr ⟨List.mem_append_left _ waiting, Nat.le_refl _⟩
    · rw [queue] at waiting ⊢
      exact (ResolverService.taken_first waiting taken).imp_right fun ⟨still, less⟩ =>
        ⟨still, Nat.le_of_lt less⟩
  · intro n
    obtain ⟨m, after, completes | empty⟩ := run.completing n
    · refine ⟨m, after, fun waiting => ?_⟩
      obtain ⟨first, queue, taken⟩ := ResolverService.complete_step (completes ▸ run.steps m)
      rw [queue] at waiting ⊢
      exact (ResolverService.taken_first waiting taken).imp_right And.right
    · refine ⟨m, after, fun waiting => ?_⟩
      rw [empty] at waiting
      cases waiting

/-- Every operation that was started is delivered. -/
theorem delivered {n : Nat} (started : op < (run.state n).started) :
    ∃ m, n ≤ m ∧ op ∈ (run.state m).delivered := by
  have kept := run.kept initially n
  have intact : (run.state n).destroyed = [] := by
    refine kept.intact ?_ ?_ <;>
      · intro stage
        simpa [ResolverService.Open, stage] using run.opened n
  have posted : ∀ {k : Nat}, op ∈ (run.state k).main.opQueue → n ≤ k →
      ∃ m, n ≤ m ∧ op ∈ (run.state m).delivered := by
    intro k queued later
    obtain ⟨m, after, delivered⟩ := run.eventually_delivered initially queued
    exact ⟨m, Nat.le_trans later after, delivered⟩
  have member : op ∈ (run.state n).places := by
    rw [← List.count_pos_iff, kept.sound.accounted.placed op, if_pos started]
    exact Nat.one_pos
  simp only [ResolverService.places, intact, List.append_nil, List.mem_append] at member
  obtain ((working | queued) | delivered) := member
  · obtain ⟨k, later, queued⟩ := run.eventually_posted initially working
    exact posted queued later
  · exact posted queued (Nat.le_refl n)
  · exact ⟨n, Nat.le_refl n, delivered⟩

end FairRun

namespace ResolverService

variable {service next : ResolverService} {locking : Bool} {action : ResolverAction} {op : Nat}

theorem Staffed.workers_length (staffed : service.Staffed) : service.workers.length ≤ 1 := by
  obtain none | ⟨name, worker, -, alone⟩ := staffed.alone
  · simp [none]
  · simp [alone]

theorem Accounted.mem_places (accounted : service.Accounted) :
    op ∈ service.places ↔ op < service.started := by
  rw [← List.count_pos_iff, accounted.placed op]
  split <;> simp_all

theorem Sound.ended (sound : service.Sound) (ended : service.stage = .ended)
    (started : op < service.started) : op ∈ service.delivered ∨ op ∈ service.destroyed := by
  have member := sound.accounted.mem_places.mpr started
  have held : service.held = [] := by
    rw [ResolverService.held, sound.staffed.closed (.inr ended)]
    rfl
  simpa [places, held, sound.emptied.work (.inr ended), sound.emptied.main ended] using member

theorem Kept.outstanding (kept : service.Kept) (opened : service.Open) :
    service.main.outstandingWork = service.otherWork + service.inFlight.length := by
  have intact : service.destroyed = [] := by
    refine kept.intact ?_ ?_ <;>
      · intro stage
        simp [Open, stage] at opened
  have outstanding := kept.sound.accounted.outstanding
  simp only [intact, List.length_nil, inFlight, List.length_append] at outstanding ⊢
  omega

theorem Accounted.inFlight_nil (accounted : service.Accounted)
    (none : service.main.outstandingWork = 0) : service.inFlight = [] := by
  have outstanding := accounted.outstanding
  rw [← List.length_eq_zero_iff]
  simp only [inFlight, List.length_append]
  omega

theorem Doomed.delivered (doomed : service.Doomed op) (sound : service.Sound)
    (delivered : op ∈ service.delivered) : (service.ops op).ec = .operationAborted := by
  have nodup := sound.accounted.nodup
  simp only [places, List.append_assoc, List.nodup_append] at nodup
  obtain ⟨-, ⟨-, ⟨-, ⟨-, -, apart⟩, mainApart⟩, heldApart⟩, workApart⟩ := nodup
  obtain waiting | destroyed | aborted := doomed.aborted
  · obtain queued | taken := List.mem_append.mp waiting
    · exact absurd rfl (workApart op queued op (by simp [delivered]))
    · exact absurd rfl (heldApart op (mem_held_of_unresolved taken) op (by simp [delivered]))
  · exact absurd rfl (apart op delivered op destroyed)
  · exact aborted

end ResolverService

/-- **Resolve operations.** As long as no fork is finished with a worker that was
not joined, one worker at most runs the work scheduler. Every operation is in one
place: it is delivered at most once, by the main scheduler, and in the end
delivered or destroyed; if the schedulers go on and are not shut down, it is
delivered. One whose token expired before `background_getaddrinfo` is not looked
up. The work of the main scheduler includes what is not completed, so it is not
stopped for want of work. -/
theorem resolver_protocol {locking : Bool} {service : ResolverService}
    (reached : (resolverService locking).ReachableWhen ResolverService.Allowed service) :
    service.workers.length ≤ 1 ∧
    service.places.Nodup ∧ (∀ op, op ∈ service.places ↔ op < service.started) ∧
    (service.stage = .ended →
      ∀ op < service.started, op ∈ service.delivered ∨ op ∈ service.destroyed) ∧
    (service.Open →
      service.main.outstandingWork = service.otherWork + service.inFlight.length) ∧
    (∀ action next, service.Allowed action → service.step locking action = some next →
      (next.delivered ≠ service.delivered → action = .complete) ∧
      (service.main.stopped = false → next.main.stopped = true →
        action = .stop ∨ next.inFlight = [])) ∧
    (∀ op ∈ service.unresolved, service.expired op = true → ∀ actions next,
      (resolverService locking).run service actions = some next →
      (resolverService locking).Permitted ResolverService.Allowed service actions →
      (next.ops op).lookedUp = false ∧
        (op ∈ next.delivered → (next.ops op).ec = .operationAborted)) ∧
    ∀ (run : FairRun locking service) (n op : Nat), op < (run.state n).started →
      ∃ m, n ≤ m ∧ op ∈ (run.state m).delivered := by
  have kept := ResolverService.kept_of_reachable reached
  have sound := kept.sound
  refine ⟨sound.staffed.workers_length, sound.accounted.nodup,
    fun op => sound.accounted.mem_places, fun ended op started => sound.ended ended started,
    kept.outstanding, ?_, ?_, ?_⟩
  · intro action next allowed stepped
    have nextSound := sound.step allowed stepped
    refine ⟨(ResolverService.delivered_step sound stepped).resolve_left, fun alive stopped => ?_⟩
    obtain before | stops | empty := ResolverService.stopped_step sound stepped stopped
    · rw [alive] at before
      cases before
    · exact .inl stops
    · exact .inr (nextSound.accounted.inFlight_nil empty)
  · intro op waiting expired actions next ran permitted
    have doomed : service.Doomed op :=
      ⟨sound.accounted.lt_started (ResolverService.mem_places_of_unresolved waiting), expired,
        kept.untouched op waiting, .inl waiting⟩
    obtain ⟨doomed, nextKept⟩ := doomed.run kept ran permitted
    exact ⟨doomed.notLookedUp, doomed.delivered nextKept.sound⟩
  · exact fun run n op started => run.delivered kept started

/-! ### Two runs -/

/-- While the main scheduler is kept running, an operation is started and cancelled
before the worker comes to it. -/
def cancelledEarly : List ResolverAction :=
  [.otherStarted, .construct 0, .asyncResolve 0, .cancel 0, .take 0, .lookUp 0 .success, .post 0,
    .finish 0, .complete, .completed 0]

/-- The state after the first steps, and then always the last one. -/
def afterCancelling (n : Nat) : ResolverService :=
  ((resolverService true).run newService (cancelledEarly.take n)).getD newService

theorem afterCancelling_eq {n : Nat} (late : 10 ≤ n) : afterCancelling n = afterCancelling 10 := by
  rw [afterCancelling, List.take_of_length_le late]
  rfl

/-- The run goes on with steps that change nothing. -/
def cancelledRun : FairRun true newService where
  state := afterCancelling
  action n := cancelledEarly.getD n .restart
  starts := rfl
  steps n := by
    by_cases late : 10 ≤ n
    · rw [afterCancelling_eq late, afterCancelling_eq (Nat.le_succ_of_le late),
        List.getD_eq_default _ _ late]
      rfl
    · interval_cases n <;> rfl
  allowed n := by
    by_cases late : 10 ≤ n
    · rw [List.getD_eq_default _ _ late]
      exact trivial
    · interval_cases n <;> exact trivial
  opened n := by
    by_cases late : 10 ≤ n
    · rw [afterCancelling_eq late]
      exact .inl rfl
    · interval_cases n <;> exact .inl rfl
  working n := by
    refine ⟨max n 10, Nat.le_max_left _ _, ?_, .inr fun action work => ?_⟩
    all_goals rw [afterCancelling_eq (Nat.le_max_right _ _)]
    · rfl
    · have idle : ∀ name, ((afterCancelling 10).worker name = none ∨
          (afterCancelling 10).worker name = some .idle) := by
        intro name
        cases own : name == 0 <;> simp [ResolverService.worker, own, show
          (afterCancelling 10).workers = [(0, .idle)] from rfl, List.lookup_cons]
      cases action with
      | take name | lookUp name | post name | finish name =>
          obtain absent | idle := idle name
          · simp [ResolverService.step, absent]
          · simp only [ResolverService.step, idle, Option.bind_some]
            rfl
      | _ => cases work
  completing n := ⟨max n 10, Nat.le_max_left _ _, .inr (by
    rw [afterCancelling_eq (Nat.le_max_right _ _)]
    rfl)⟩

theorem resolver_protocol_cancelled : ∃ m, 0 ∈ (cancelledRun.state m).delivered := by
  obtain ⟨m, -, delivered⟩ := (resolver_protocol (.initial rfl)).2.2.2.2.2.2.2 cancelledRun 3 0
    (by decide)
  exact ⟨m, delivered⟩

/-- A resolver starts its first operation between the notifications of a fork. -/
def startedWhileForking : List ResolverAction :=
  [.forkPrepare, .construct 0, .asyncResolve 0]

/-- In the parent two workers run then, and in the child the operation that the
first has taken is in no place. -/
theorem forked_second_worker :
    (∃ service, (resolverService true).Reachable service ∧ service.workers.length = 2) ∧
    ∃ service, (resolverService true).Reachable service ∧ service.started = 1 ∧
      0 ∉ service.places := by
  have initially : (resolverService true).Reachable newService := .initial rfl
  exact ⟨⟨_, initially.run (startedWhileForking ++ [.forkParent]) rfl, rfl⟩,
    _, initially.run (startedWhileForking ++ [.take 0, .forkChild]) rfl, rfl, by decide⟩

end Asio.Network
