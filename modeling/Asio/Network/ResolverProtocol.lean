import Asio.Network.Resolver

/-! # Every resolve operation is in one place

The worker is created when the first operation is started, and joined before a
fork. As long as no fork is finished with a worker that was created after its
preparation, there is one worker at most, and every operation is on one of the
two queues, in the worker's hands, delivered or destroyed.
-/

namespace Asio.Network

/-- The operation a worker has taken and not passed on. -/
def Worker.held : Worker → List Nat
  | .resolving op | .posting op => [op]
  | .idle | .finishing => []

/-- The work a worker has not finished. -/
def Worker.busy : Worker → Nat
  | .idle => 0
  | _ => 1

@[simp] theorem Worker.held_idle : Worker.idle.held = [] := rfl

@[simp] theorem Worker.busy_idle : Worker.idle.busy = 0 := rfl

namespace ResolverService

variable {service next : ResolverService} {locking : Bool} {action : ResolverAction}

/-- The operations in the hands of workers. -/
def held (service : ResolverService) : List Nat := service.workers.flatMap fun entry => entry.2.held

/-- What must not be done: finish a fork with a worker that was not joined. In
the child its thread is gone, which only matters when it has an operation. -/
def Allowed (service : ResolverService) : ResolverAction → Prop
  | .forkParent => ∀ thread, service.workThread = some thread → thread.joined = true
  | .forkChild =>
      (∀ thread, service.workThread = some thread → thread.joined = true) ∨ service.held = []
  | _ => True

/-- The service has not been shut down. -/
def Open (service : ResolverService) : Prop :=
  service.stage = .running ∨ service.stage = .joining ∨ service.stage = .forking

/-- A step is one of a worker, a notification, or a call while the service has
not been shut down. -/
theorem step_cases (stepped : step locking service action = some next) :
    (∃ name worker, service.worker name = some worker ∧
      service.workerStep name worker action = some next) ∨
    service.notify service.stage action = some next ∨
    (service.Open ∧ service.call locking action = some next) := by
  unfold step at stepped
  split at stepped
  iterate 5
    · obtain ⟨worker, found, stepped⟩ := Option.bind_eq_some_iff.mp stepped
      exact .inl ⟨_, worker, found, stepped⟩
  iterate 7 · exact .inr (.inl stepped)
  · split at stepped
    · next running => exact .inr (.inr ⟨.inl running, stepped⟩)
    · next joining => exact .inr (.inr ⟨.inr (.inl joining), stepped⟩)
    · next forking => exact .inr (.inr ⟨.inr (.inr forking), stepped⟩)
    · cases stepped
    · cases stepped
    · cases stepped

/-! ## One worker -/

/-- Who runs the work scheduler: at most the thread that the service knows of,
which runs until the scheduler is stopped. -/
structure Staffed (service : ResolverService) : Prop where
  alone : service.workers = [] ∨ ∃ name worker,
    service.workThread = some ⟨name, false⟩ ∧ service.workers = [(name, worker)]
  running : service.stage = .running → service.work.stopped = false ∧
    (service.workThread = none ∧ service.work.opQueue = [] ∨
      ∃ name worker, service.workThread = some ⟨name, false⟩ ∧ service.workers = [(name, worker)])
  joining : service.stage = .joining → ∃ name, service.workThread = some ⟨name, false⟩
  forking : service.stage = .forking →
    service.workThread = none ∧ service.work.stopped = false ∧ service.work.opQueue = [] ∨
    (∃ name, service.workThread = some ⟨name, true⟩) ∨
    service.work.stopped = false ∧
      ∃ name worker, service.workThread = some ⟨name, false⟩ ∧ service.workers = [(name, worker)]
  closed : service.stage = .closed ∨ service.stage = .ended → service.workers = []

theorem setWorker_alone (name : Nat) (worker next : Worker) :
    setWorker name next [(name, worker)] = [(name, next)] := by
  simp [setWorker]

theorem Staffed.worker_eq (staffed : service.Staffed) {name : Nat} {worker : Worker}
    (found : service.worker name = some worker) :
    service.workThread = some ⟨name, false⟩ ∧ service.workers = [(name, worker)] := by
  obtain none | ⟨own, other, thread, alone⟩ := staffed.alone
  · simp [ResolverService.worker, none] at found
  · rw [ResolverService.worker, alone, List.lookup_cons] at found
    split at found
    · next same =>
      cases found
      rw [beq_iff_eq] at same
      exact same ▸ ⟨thread, alone⟩
    · cases found

/-- A thread that was joined runs no more. -/
theorem Staffed.threadJoined (staffed : service.Staffed) (joined : service.threadJoined = true) :
    service.workers = [] := by
  obtain none | ⟨name, worker, thread, alone⟩ := staffed.alone
  · exact none
  · simp [ResolverService.threadJoined, ResolverService.worker, thread, alone] at joined

/-- What the steps of the worker do. -/
inductive Worked (service : ResolverService) (name : Nat) :
    Worker → ResolverService → Prop where
  | take {op : Nat} {opQueue : List Nat} :
      service.work.stopped = false → service.work.opQueue = op :: opQueue →
      Worked service name .idle { service with
        work := { service.work with opQueue := opQueue }
        workers := [(name, .resolving op)] }
  | lookUp (op : Nat) (answer : ErrorCode) :
      Worked service name (.resolving op) { service with
        ops := Function.update service.ops op
          (backgroundGetaddrinfo (service.expired op) answer (service.ops op))
        workers := [(name, .posting op)] }
  | post (op : Nat) :
      Worked service name (.posting op) { service with
        main := service.main.postDeferredCompletion op
        workers := [(name, .finishing)] }
  | finish :
      Worked service name .finishing { service with
        work := service.work.workFinished
        workers := [(name, .idle)] }
  | exit :
      service.work.stopped = true →
      Worked service name .idle { service with workers := [] }

theorem Staffed.worked (staffed : service.Staffed) {name : Nat} {worker : Worker}
    (found : service.worker name = some worker)
    (stepped : service.workerStep name worker action = some next) :
    Worked service name worker next := by
  obtain ⟨-, alone⟩ := staffed.worker_eq found
  unfold workerStep at stepped
  split at stepped
  · split at stepped
    · next stopped queued =>
      cases stepped
      rw [alone, setWorker_alone]
      exact .take stopped queued
    · cases stepped
  · cases stepped
    rw [alone, setWorker_alone]
    exact .lookUp _ _
  · cases stepped
    rw [alone, setWorker_alone]
    exact .post _
  · cases stepped
    rw [alone, setWorker_alone]
    exact .finish
  · split_ifs at stepped with stopped
    cases stepped
    rw [alone]
    simpa using Worked.exit stopped
  · cases stepped

/-- What the calls do. -/
inductive Called (locking : Bool) (service : ResolverService) :
    ResolverAction → ResolverService → Prop where
  | tokens {action : ResolverAction} (impls : Nat → Option Nat) (useCount : Nat → Nat)
      (tokens : Nat) :
      (∀ token < service.tokens, service.useCount token = 0 → useCount token = 0) →
      (∀ impl token, impls impl = some token →
        token < tokens ∨ ∃ other, service.impls other = some token) →
      service.tokens ≤ tokens →
      Called locking service action
        { service with impls := impls, useCount := useCount, tokens := tokens }
  | asyncResolve (impl : Nat) :
      Called locking service (.asyncResolve impl) (service.asyncResolve locking impl)
  | complete {op : Nat} {opQueue : List Nat} :
      service.main.stopped = false → service.main.opQueue = op :: opQueue →
      Called locking service .complete { service with
        main := { service.main with opQueue := opQueue }
        delivered := service.delivered ++ [op]
        completing := service.completing ++ [op] }
  | completed {op : Nat} :
      op ∈ service.completing →
      Called locking service (.completed op) { service with
        completing := service.completing.erase op
        main := service.main.workFinished }
  | run : Called locking service .run { service with main := service.main.run }
  | stop : Called locking service .stop { service with main := service.main.stop }
  | restart : Called locking service .restart { service with main := service.main.restart }
  | otherStarted :
      Called locking service .otherStarted { service with
        otherWork := service.otherWork + 1
        main := service.main.workStarted }
  | otherFinished :
      0 < service.otherWork →
      Called locking service .otherFinished { service with
        otherWork := service.otherWork - 1
        main := service.main.workFinished }

section Tokens

/-- Giving up a token does not make an expired one valid. -/
theorem release_useCount {token : Nat} (expired : service.useCount token = 0) (impl : Nat) :
    (service.release impl).useCount token = 0 := by
  unfold release
  split
  · exact expired
  · next own _ =>
    by_cases same : token = own
    · subst same
      simp [expired]
    · simpa [same] using expired

theorem release_eq (impl : Nat) : service.release impl =
    { service with useCount := (service.release impl).useCount } := by
  unfold release
  split <;> rfl

theorem Called.reset (impl : Nat) : Called locking service action (service.reset impl) := by
  rw [ResolverService.reset, release_eq]
  refine .tokens _ _ _ ?_ ?_ (Nat.le_succ _)
  · intro token old expired
    rw [Function.update_of_ne (Nat.ne_of_lt old)]
    exact release_useCount expired impl
  · intro other token owned
    by_cases same : other = impl
    · subst same
      rw [Function.update_self] at owned
      cases owned
      exact .inl (Nat.lt_succ_self _)
    · rw [Function.update_of_ne same] at owned
      exact .inr ⟨other, owned⟩

theorem Called.destroyImpl (impl : Nat) :
    Called locking service action (service.destroyImpl impl) := by
  rw [ResolverService.destroyImpl, release_eq]
  refine .tokens _ _ _ (fun token _ expired => release_useCount expired impl) ?_ (Nat.le_refl _)
  intro other token owned
  by_cases same : other = impl
  · subst same
    rw [Function.update_self] at owned
    cases owned
  · rw [Function.update_of_ne same] at owned
    exact .inr ⟨other, owned⟩

/-- The token of one resolver goes to another. -/
theorem moved_owned {impls : Nat → Option Nat} {impl other owner token : Nat}
    (owned : Function.update (Function.update impls impl (impls other)) other none owner =
      some token) : ∃ before, impls before = some token := by
  by_cases source : owner = other
  · subst source
    rw [Function.update_self] at owned
    cases owned
  · rw [Function.update_of_ne source] at owned
    by_cases target : owner = impl
    · subst target
      rw [Function.update_self] at owned
      exact ⟨other, owned⟩
    · rw [Function.update_of_ne target] at owned
      exact ⟨owner, owned⟩

theorem Called.moveConstruct (impl other : Nat) :
    Called locking service action (service.moveConstruct impl other) :=
  .tokens _ _ _ (fun _ _ expired => expired) (fun _ _ owned => .inr (moved_owned owned))
    (Nat.le_refl _)

theorem Called.moveAssign (impl other : Nat) :
    Called locking service action (service.moveAssign impl other) := by
  rw [ResolverService.moveAssign, ResolverService.destroyImpl, release_eq]
  refine .tokens _ _ _ (fun token _ expired => release_useCount expired impl) ?_ (Nat.le_refl _)
  intro owner token owned
  obtain ⟨before, owned⟩ := moved_owned owned
  by_cases same : before = impl
  · subst same
    simp at owned
  · exact .inr ⟨before, by simpa [same] using owned⟩

end Tokens

theorem called_of_call (called : service.call locking action = some next) :
    Called locking service action next := by
  unfold call at called
  split at called
  · split_ifs at called
    cases called
    exact .reset _
  · cases called
    exact .reset _
  · cases called
    exact .destroyImpl _
  · split_ifs at called
    cases called
    exact .moveConstruct _ _
  · cases called
    exact .moveAssign _ _
  · cases called
    exact .asyncResolve _
  · unfold ResolverService.complete at called
    split at called
    · next alive queued =>
      cases called
      exact .complete alive queued
    · cases called
  · split_ifs at called with member
    cases called
    exact .completed member
  · cases called
    exact .run
  · cases called
    exact .stop
  · cases called
    exact .restart
  · cases called
    exact .otherStarted
  · split_ifs at called with positive
    cases called
    exact .otherFinished positive
  · cases called

/-- What the notifications do. -/
inductive Notified (service : ResolverService) : ResolverAction → ResolverService → Prop where
  | forkPrepare : service.stage = .running → Notified service .forkPrepare service.forkPrepare
  | forkJoined : service.stage = .joining → service.threadJoined = true →
      Notified service .forkJoined { service.join with stage := .forking }
  | forkParent : service.stage = .forking → Notified service .forkParent service.forked
  | forkChild : service.stage = .forking →
      Notified service .forkChild { service with workers := [] }.forked
  | shutdown : service.stage = .running ∨ service.stage = .forking → service.completing = [] →
      Notified service .shutdown service.shutdown
  | destroyWork : service.stage = .closing → service.threadJoined = true →
      Notified service .destroyWork service.destroyWork
  | shutdownMain : service.stage = .closed → Notified service .shutdownMain service.shutdownMain

theorem notified_of_notify (notified : service.notify service.stage action = some next) :
    Notified service action next := by
  generalize stage : service.stage = now at notified
  unfold notify at notified
  split at notified
  · cases notified
    exact .forkPrepare stage
  · split_ifs at notified with joined
    cases notified
    exact .forkJoined stage joined
  · cases notified
    exact .forkParent stage
  · cases notified
    exact .forkChild stage
  · split_ifs at notified with idle
    cases notified
    exact .shutdown (.inl stage) (List.isEmpty_iff.mp idle)
  · split_ifs at notified with idle
    cases notified
    exact .shutdown (.inr stage) (List.isEmpty_iff.mp idle)
  · split_ifs at notified with joined
    cases notified
    exact .destroyWork stage joined
  · cases notified
    exact .shutdownMain stage
  · cases notified

/-! ## Accounts -/

/-- All the places an operation can be in. -/
def places (service : ResolverService) : List Nat :=
  service.work.opQueue ++ service.held ++ service.main.opQueue ++ service.delivered ++
    service.destroyed

/-- Every operation that was started is in one place, and both schedulers count
the work there is; the work scheduler of a child may count a lost worker too. -/
structure Accounted (service : ResolverService) : Prop where
  placed : ∀ op, service.places.count op = if op < service.started then 1 else 0
  outstanding : service.main.outstandingWork = service.otherWork + service.work.opQueue.length +
    service.held.length + service.main.opQueue.length + service.completing.length +
    service.destroyed.length
  workOutstanding : service.Open → 1 + service.work.opQueue.length +
    (service.workers.map fun entry => entry.2.busy).sum ≤ service.work.outstandingWork

/-- Every token was made before. -/
structure Minted (service : ResolverService) : Prop where
  impls : ∀ impl token, service.impls impl = some token → token < service.tokens
  ops : ∀ op token, (service.ops op).cancelToken = some token → token < service.tokens

/-- The queues are emptied when the schedulers are destroyed and shut down. -/
structure Emptied (service : ResolverService) : Prop where
  work : service.stage = .closed ∨ service.stage = .ended → service.work.opQueue = []
  main : service.stage = .ended → service.main.opQueue = []

/-- What every allowed step keeps. -/
structure Sound (service : ResolverService) : Prop where
  staffed : service.Staffed
  accounted : service.Accounted
  minted : service.Minted
  emptied : service.Emptied

theorem Emptied.of_stage (notClosed : service.stage ≠ .closed) (notEnded : service.stage ≠ .ended) :
    service.Emptied :=
  ⟨fun stage => absurd stage (not_or.mpr ⟨notClosed, notEnded⟩), fun stage => absurd stage notEnded⟩

theorem Emptied.of_open (opened : service.Open) : service.Emptied := by
  refine .of_stage ?_ ?_ <;>
    · intro stage
      simp [Open, stage] at opened

theorem Staffed.unmanned (staffed : service.Staffed)
    (unknown : ∀ name, service.workThread ≠ some ⟨name, false⟩) : service.workers = [] := by
  refine staffed.alone.resolve_right ?_
  rintro ⟨name, worker, thread, -⟩
  exact unknown name thread

theorem Staffed.not_closed (staffed : service.Staffed) {name : Nat} {worker : Worker}
    (alone : service.workers = [(name, worker)]) :
    ¬ (service.stage = .closed ∨ service.stage = .ended) := by
  intro stage
  have none := staffed.closed stage
  rw [alone] at none
  cases none

/-- A worker runs on a scheduler that was not stopped, unless it is to be joined. -/
theorem Staffed.alive (staffed : service.Staffed) {name : Nat}
    (thread : service.workThread = some ⟨name, false⟩)
    (stage : service.stage = .running ∨ service.stage = .forking) :
    service.work.stopped = false := by
  obtain running | forking := stage
  · exact (staffed.running running).1
  · obtain ⟨none, -⟩ | ⟨other, joined⟩ | ⟨alive, -⟩ := staffed.forking forking
    · rw [thread] at none
      cases none
    · rw [thread] at joined
      cases joined
    · exact alive

/-- The worker goes on with the scheduler as it was, but for its queue and its
count of work. -/
theorem Staffed.goOn (staffed : service.Staffed) {name : Nat} {worker other : Worker}
    (thread : service.workThread = some ⟨name, false⟩)
    (alone : service.workers = [(name, worker)])
    (sameThread : next.workThread = service.workThread) (sameStage : next.stage = service.stage)
    (workers : next.workers = [(name, other)])
    (alive : service.work.stopped = false →
      service.stage = .running ∨ service.stage = .forking → next.work.stopped = false) :
    next.Staffed := by
  have manned : ∃ name worker,
      next.workThread = some ⟨name, false⟩ ∧ next.workers = [(name, worker)] :=
    ⟨name, other, sameThread.trans thread, workers⟩
  have alive : next.stage = .running ∨ next.stage = .forking → next.work.stopped = false := by
    rw [sameStage]
    exact fun stage => alive (staffed.alive thread stage) stage
  refine ⟨.inr manned, fun stage => ⟨alive (.inl stage), .inr manned⟩,
    fun _ => ⟨name, sameThread.trans thread⟩, fun stage => .inr (.inr ⟨alive (.inr stage), manned⟩),
    fun stage => ?_⟩
  rw [sameStage] at stage
  exact absurd stage (staffed.not_closed alone)

section Worker

variable {name : Nat} {worker : Worker}

theorem Minted.worked (minted : service.Minted) (worked : Worked service name worker next) :
    next.Minted := by
  cases worked with
  | lookUp op answer =>
      refine ⟨minted.impls, fun other token given => minted.ops other token ?_⟩
      dsimp only at given
      by_cases same : other = op
      · subst same
        rw [Function.update_self, backgroundGetaddrinfo] at given
        split at given <;> exact given
      · rw [Function.update_of_ne same] at given
        exact given
  | take | post | finish | exit => exact ⟨minted.impls, minted.ops⟩

/-- While a worker is busy, its scheduler does not run out of work. -/
theorem Accounted.workFinished (accounted : service.Accounted) (opened : service.Open)
    (alone : service.workers = [(name, .finishing)]) :
    service.work.workFinished =
      { service.work with outstandingWork := service.work.outstandingWork - 1 } := by
  have outstanding := accounted.workOutstanding opened
  simp only [alone, List.map_cons, List.map_nil, Worker.busy, List.sum_cons, List.sum_nil]
    at outstanding
  exact IoContextImpl.workFinished_of_pos (by omega)

theorem Staffed.afterWork (staffed : service.Staffed) (accounted : service.Accounted)
    (found : service.worker name = some worker) (worked : Worked service name worker next) :
    next.Staffed := by
  obtain ⟨thread, alone⟩ := staffed.worker_eq found
  cases worked with
  | take stopped _ => exact staffed.goOn thread alone rfl rfl rfl fun _ _ => stopped
  | lookUp => exact staffed.goOn thread alone rfl rfl rfl fun alive _ => alive
  | post => exact staffed.goOn thread alone rfl rfl rfl fun alive _ => alive
  | finish =>
      refine staffed.goOn thread alone rfl rfl rfl fun alive stage => ?_
      rw [accounted.workFinished (stage.imp_right .inr) alone]
      exact alive
  | exit stopped =>
      have running : ¬ (service.stage = .running ∨ service.stage = .forking) := by
        intro stage
        have alive := staffed.alive thread stage
        rw [stopped] at alive
        cases alive
      exact ⟨.inl rfl, fun stage => absurd (.inl stage) running, fun _ => ⟨name, thread⟩,
        fun stage => absurd (.inr stage) running, fun _ => rfl⟩

theorem Accounted.worked (accounted : service.Accounted) (alone : service.workers = [(name, worker)])
    (worked : Worked service name worker next) : next.Accounted := by
  have placed := accounted.placed
  have outstanding := accounted.outstanding
  have workOutstanding := accounted.workOutstanding
  simp only [places, held, alone, List.flatMap_cons, List.flatMap_nil, List.map_cons, List.map_nil,
    List.sum_cons, List.sum_nil, List.append_nil] at placed outstanding workOutstanding
  cases worked with
  | @take op opQueue stopped queued =>
      refine ⟨fun other => ?_, ?_, fun opened => ?_⟩
      · have placed := placed other
        simp only [places, held, queued, List.flatMap_cons, List.flatMap_nil, Worker.held,
          List.append_nil, List.count_append, List.count_cons, List.count_nil] at placed ⊢
        omega
      · simp only [held, queued, List.flatMap_cons, List.flatMap_nil, Worker.held,
          List.append_nil, List.length_cons, List.length_nil] at outstanding ⊢
        omega
      · have workOutstanding := workOutstanding opened
        simp only [queued, List.map_cons, List.map_nil, Worker.busy, List.length_cons,
          List.sum_cons, List.sum_nil] at workOutstanding ⊢
        omega
  | lookUp op answer =>
      refine ⟨?_, ?_, fun opened => ?_⟩
      · simpa [places, held, Worker.held] using placed
      · simpa [held, Worker.held] using outstanding
      · simpa [Worker.busy] using workOutstanding opened
  | post op =>
      refine ⟨fun other => ?_, ?_, fun opened => ?_⟩
      · have placed := placed other
        simp only [places, held, IoContextImpl.postDeferredCompletion, List.flatMap_cons,
          List.flatMap_nil, Worker.held, List.append_nil, List.count_append, List.count_cons,
          List.count_nil] at placed ⊢
        omega
      · simp only [held, IoContextImpl.postDeferredCompletion, List.flatMap_cons, List.flatMap_nil,
          Worker.held, List.append_nil, List.length_append, List.length_cons, List.length_nil]
          at outstanding ⊢
        omega
      · simpa [Worker.busy] using workOutstanding opened
  | finish =>
      have queue : service.work.workFinished.opQueue = service.work.opQueue :=
        IoContextImpl.workFinished_opQueue _
      refine ⟨?_, ?_, fun opened => ?_⟩
      · simpa [places, held, Worker.held, queue] using placed
      · simpa [held, Worker.held, queue] using outstanding
      · have workOutstanding := workOutstanding opened
        simp only [Worker.busy] at workOutstanding
        simp only [accounted.workFinished opened alone, List.map_cons, List.map_nil, Worker.busy,
          List.sum_cons, List.sum_nil]
        omega
  | exit stopped =>
      refine ⟨?_, ?_, fun opened => ?_⟩
      · simpa [places, held, Worker.held] using placed
      · simpa [held, Worker.held] using outstanding
      · simpa [Worker.busy] using workOutstanding opened

/-- While there is a worker, the schedulers are there. -/
theorem Staffed.emptied (staffed : service.Staffed) (found : service.worker name = some worker)
    (worked : Worked service name worker next) : next.Emptied := by
  have sameStage : next.stage = service.stage := by cases worked <;> rfl
  have stage := staffed.not_closed (staffed.worker_eq found).2
  rw [← sameStage, not_or] at stage
  exact .of_stage stage.1 stage.2

theorem Sound.worked (sound : service.Sound) (found : service.worker name = some worker)
    (worked : Worked service name worker next) : next.Sound :=
  ⟨sound.staffed.afterWork sound.accounted found worked,
    sound.accounted.worked (sound.staffed.worker_eq found).2 worked, sound.minted.worked worked,
    sound.staffed.emptied found worked⟩

end Worker

/-! ## Calls -/

/-- Starting a worker leaves the operations where they are. -/
theorem startWorkThread_held : service.startWorkThread.held = service.held := by
  unfold startWorkThread
  split
  · simp [held, spawn, Worker.held]
  · rfl

theorem startWorkThread_busy :
    (service.startWorkThread.workers.map fun entry => entry.2.busy).sum =
      (service.workers.map fun entry => entry.2.busy).sum := by
  unfold startWorkThread
  split
  · simp [spawn, Worker.busy]
  · rfl

/-- A new operation is behind the others of the work scheduler. -/
theorem asyncResolve_eq (impl : Nat) : service.asyncResolve true impl = { service with
    workThread := service.startWorkThread.workThread
    workers := service.startWorkThread.workers
    spawned := service.startWorkThread.spawned
    ops := Function.update service.ops service.started { cancelToken := service.impls impl }
    started := service.started + 1
    main := service.main.workStarted
    work := service.work.postImmediateCompletion service.started } := by
  cases absent : service.workThread.isNone <;>
    simp [asyncResolve, startWorkThread, allocate, absent, spawn]

theorem Accounted.asyncResolve (accounted : service.Accounted) (locking : Bool) (impl : Nat) :
    (service.asyncResolve locking impl).Accounted := by
  have placed := accounted.placed
  have outstanding := accounted.outstanding
  have workOutstanding := accounted.workOutstanding
  have sameHeld : service.startWorkThread.held = service.held := startWorkThread_held
  have sameBusy := @startWorkThread_busy service
  simp only [places, held] at placed outstanding sameHeld
  cases locking with
  | true =>
      rw [asyncResolve_eq]
      refine ⟨fun op => ?_, ?_, fun opened => ?_⟩
      · have placed := placed op
        simp only [places, held, IoContextImpl.postImmediateCompletion,
          IoContextImpl.postDeferredCompletion, IoContextImpl.workStarted, List.count_append,
          List.count_cons, List.count_nil, sameHeld, beq_iff_eq] at placed ⊢
        split_ifs at placed ⊢ <;> omega
      · simp only [held, IoContextImpl.postImmediateCompletion,
          IoContextImpl.postDeferredCompletion, IoContextImpl.workStarted, List.length_append,
          List.length_cons, List.length_nil, sameHeld] at outstanding ⊢
        omega
      · have workOutstanding := workOutstanding opened
        simp only [IoContextImpl.postImmediateCompletion, IoContextImpl.postDeferredCompletion,
          IoContextImpl.workStarted, List.length_append, List.length_cons, List.length_nil,
          sameBusy]
        omega
  | false =>
      refine ⟨fun op => ?_, ?_, workOutstanding⟩
      · have placed := placed op
        simp only [ResolverService.asyncResolve, allocate, places, held,
          IoContextImpl.postImmediateCompletion, IoContextImpl.postDeferredCompletion,
          IoContextImpl.workStarted, List.count_append, List.count_cons, List.count_nil,
          Bool.false_eq_true, if_false, beq_iff_eq] at placed ⊢
        split_ifs at placed ⊢ <;> omega
      · simp only [ResolverService.asyncResolve, allocate, held,
          IoContextImpl.postImmediateCompletion, IoContextImpl.postDeferredCompletion,
          IoContextImpl.workStarted, List.length_append, List.length_cons, List.length_nil,
          Bool.false_eq_true, if_false]
        omega

theorem Staffed.asyncResolve (staffed : service.Staffed) (opened : service.Open)
    (locking : Bool) (impl : Nat) : (service.asyncResolve locking impl).Staffed := by
  cases locking with
  | false => exact ⟨staffed.alone, staffed.running, staffed.joining, staffed.forking, staffed.closed⟩
  | true =>
      rw [asyncResolve_eq]
      cases thread : service.workThread with
      | none =>
          -- the first operation creates the worker
          have started : service.startWorkThread = service.spawn := by
            rw [startWorkThread, thread]
            rfl
          have workers : service.spawn.workers = [(service.spawned, .idle)] := by
            rw [spawn, staffed.unmanned (by simp [thread])]
            rfl
          have manned : ∃ name worker, service.spawn.workThread = some ⟨name, false⟩ ∧
              service.spawn.workers = [(name, worker)] := ⟨service.spawned, .idle, rfl, workers⟩
          rw [started]
          refine ⟨.inr manned, fun stage => ⟨(staffed.running stage).1, .inr manned⟩,
            fun _ => ⟨service.spawned, rfl⟩, fun stage => ?_, fun stage => ?_⟩
          · obtain ⟨-, alive, -⟩ | ⟨name, joined⟩ | ⟨alive, -⟩ := staffed.forking stage
            · exact .inr (.inr ⟨alive, manned⟩)
            · rw [thread] at joined
              cases joined
            · exact .inr (.inr ⟨alive, manned⟩)
          · obtain open_ | open_ | open_ := opened <;> simp [open_] at stage
      | some own =>
          have started : service.startWorkThread = service := by
            rw [startWorkThread, thread]
            rfl
          rw [started]
          refine ⟨staffed.alone, fun stage => ?_, staffed.joining, fun stage => ?_, staffed.closed⟩
          · obtain ⟨alive, ⟨none, -⟩ | manned⟩ := staffed.running stage
            · rw [thread] at none
              cases none
            · exact ⟨alive, .inr manned⟩
          · obtain ⟨none, -⟩ | joined | manned := staffed.forking stage
            · rw [thread] at none
              cases none
            · exact .inr (.inl joined)
            · exact .inr (.inr manned)

theorem asyncResolve_open (opened : service.Open) (impl : Nat) :
    (service.asyncResolve locking impl).Open := by
  cases locking with
  | true =>
      rw [asyncResolve_eq]
      exact opened
  | false => exact opened

theorem Minted.asyncResolve (minted : service.Minted) (locking : Bool) (impl : Nat) :
    (service.asyncResolve locking impl).Minted := by
  have ops : ∀ ec op token, (Function.update service.ops service.started
      { cancelToken := service.impls impl, ec := ec } op).cancelToken = some token →
      token < service.tokens := by
    intro ec op token given
    by_cases same : op = service.started
    · subst same
      rw [Function.update_self] at given
      exact minted.impls impl token given
    · rw [Function.update_of_ne same] at given
      exact minted.ops op token given
  cases locking with
  | true =>
      rw [asyncResolve_eq]
      exact ⟨minted.impls, ops _⟩
  | false => exact ⟨minted.impls, ops _⟩

/-- Another user of the main scheduler starts or finishes work, or stops it. -/
theorem Sound.otherUser (sound : service.Sound) (opened : service.Open) {main : IoContextImpl} {otherWork : Nat}
    (queue : main.opQueue = service.main.opQueue)
    (balance : main.outstandingWork + service.otherWork =
      service.main.outstandingWork + otherWork) :
    Sound { service with otherWork := otherWork, main := main } := by
  obtain ⟨staffed, accounted, minted, -⟩ := sound
  have placed := accounted.placed
  have outstanding := accounted.outstanding
  refine ⟨⟨staffed.alone, staffed.running, staffed.joining, staffed.forking, staffed.closed⟩,
    ⟨?_, ?_, accounted.workOutstanding⟩, ⟨minted.impls, minted.ops⟩, .of_open opened⟩
  · simpa only [places, held, queue] using placed
  · simp only [held, queue] at outstanding ⊢
    omega

theorem Sound.called (sound : service.Sound) (opened : service.Open)
    (called : Called locking service action next) : next.Sound := by
  have ⟨staffed, accounted, minted, _⟩ := sound
  have placed := accounted.placed
  have outstanding := accounted.outstanding
  cases called with
  | tokens impls useCount tokens _ owned more =>
      refine ⟨⟨staffed.alone, staffed.running, staffed.joining, staffed.forking, staffed.closed⟩,
        ⟨placed, outstanding, accounted.workOutstanding⟩, ⟨fun impl token given => ?_,
          fun op token given => Nat.lt_of_lt_of_le (minted.ops op token given) more⟩,
        .of_open opened⟩
      obtain fresh | ⟨other, old⟩ := owned impl token given
      · exact fresh
      · exact Nat.lt_of_lt_of_le (minted.impls other token old) more
  | asyncResolve impl =>
      exact ⟨staffed.asyncResolve opened locking impl, accounted.asyncResolve locking impl,
        minted.asyncResolve locking impl, .of_open (asyncResolve_open opened impl)⟩
  | @complete op opQueue alive queued =>
      refine ⟨⟨staffed.alone, staffed.running, staffed.joining, staffed.forking, staffed.closed⟩,
        ⟨fun other => ?_, ?_, accounted.workOutstanding⟩, ⟨minted.impls, minted.ops⟩,
        .of_open opened⟩
      · have placed := placed other
        simp only [places, held, queued, List.count_append, List.count_cons, List.count_nil]
          at placed ⊢
        omega
      · simp only [held, queued, List.length_append, List.length_cons, List.length_nil]
          at outstanding ⊢
        omega
  | @completed op member =>
      refine ⟨⟨staffed.alone, staffed.running, staffed.joining, staffed.forking, staffed.closed⟩,
        ⟨?_, ?_, accounted.workOutstanding⟩, ⟨minted.impls, minted.ops⟩, .of_open opened⟩
      · simpa only [places, held, IoContextImpl.workFinished_opQueue] using placed
      · have positive := List.length_pos_of_mem member
        simp only [held, IoContextImpl.workFinished_opQueue, IoContextImpl.workFinished_outstandingWork,
          List.length_erase_of_mem member] at outstanding ⊢
        omega
  | run =>
      exact sound.otherUser opened (IoContextImpl.run_opQueue _) (by rw [IoContextImpl.run_outstandingWork])
  | stop => exact sound.otherUser opened rfl rfl
  | restart => exact sound.otherUser opened rfl rfl
  | otherStarted => exact sound.otherUser opened rfl (Nat.add_right_comm _ _ _)
  | otherFinished positive =>
      refine sound.otherUser opened (IoContextImpl.workFinished_opQueue _) ?_
      rw [IoContextImpl.workFinished_outstandingWork]
      have outstanding := sound.accounted.outstanding
      omega

/-! ## Notifications -/

theorem Sound.forkPrepare (sound : service.Sound) (stage : service.stage = .running) :
    service.forkPrepare.Sound := by
  obtain ⟨staffed, accounted, minted, -⟩ := sound
  obtain ⟨alive, manned⟩ := staffed.running stage
  have opened : service.Open := .inl stage
  unfold ResolverService.forkPrepare
  split
  · next thread =>
    have idle : service.work.opQueue = [] := by
      obtain ⟨-, idle⟩ | ⟨name, worker, impossible, -⟩ := manned
      · exact idle
      · rw [thread] at impossible
        cases impossible
    exact ⟨⟨.inl (staffed.unmanned (by simp [thread])), nofun, nofun,
        fun _ => .inl ⟨thread, alive, idle⟩, nofun⟩,
      ⟨accounted.placed, accounted.outstanding, fun _ => accounted.workOutstanding opened⟩,
      ⟨minted.impls, minted.ops⟩, .of_stage nofun nofun⟩
  · next own thread =>
    have manned : ∃ name, service.workThread = some ⟨name, false⟩ := by
      obtain ⟨impossible, -⟩ | ⟨name, worker, known, -⟩ := manned
      · rw [thread] at impossible
        cases impossible
      · exact ⟨name, known⟩
    exact ⟨⟨staffed.alone, nofun, fun _ => manned, nofun, nofun⟩,
      ⟨accounted.placed, accounted.outstanding, fun _ => accounted.workOutstanding opened⟩,
      ⟨minted.impls, minted.ops⟩, .of_stage nofun nofun⟩

theorem Sound.forkJoined (sound : service.Sound) (stage : service.stage = .joining)
    (joined : service.threadJoined = true) :
    Sound { service.join with stage := .forking } := by
  obtain ⟨staffed, accounted, minted, -⟩ := sound
  have unmanned := staffed.threadJoined joined
  obtain ⟨name, thread⟩ := staffed.joining stage
  have known : service.join.workThread = some ⟨name, true⟩ := by rw [join, thread]; rfl
  exact ⟨⟨.inl unmanned, nofun, nofun, fun _ => .inr (.inl ⟨name, known⟩), nofun⟩,
    ⟨accounted.placed, accounted.outstanding,
      fun _ => accounted.workOutstanding (.inr (.inl stage))⟩,
    ⟨minted.impls, minted.ops⟩, .of_stage nofun nofun⟩

/-- A fork is finished when no worker runs. -/
theorem Accounted.forked (accounted : service.Accounted) (minted : service.Minted)
    (stage : service.stage = .forking) (unmanned : service.workers = [])
    (idle : service.workThread = none → service.work.stopped = false ∧ service.work.opQueue = []) :
    service.forked.Sound := by
  have workOutstanding := accounted.workOutstanding (.inr (.inr stage))
  unfold ResolverService.forked
  dsimp only
  split
  · have workers : service.workers ++ [(service.spawned, Worker.idle)] =
        [(service.spawned, Worker.idle)] := by rw [unmanned]; rfl
    refine ⟨⟨.inr ⟨service.spawned, .idle, rfl, workers⟩,
        fun _ => ⟨rfl, .inr ⟨service.spawned, .idle, rfl, workers⟩⟩, nofun, nofun, nofun⟩,
      ⟨?_, ?_, fun _ => ?_⟩, ⟨minted.impls, minted.ops⟩, .of_stage nofun nofun⟩
    · intro op
      have placed := accounted.placed op
      simp only [places, held, spawn, IoContextImpl.restart, List.flatMap_append, List.flatMap_cons,
        List.flatMap_nil, Worker.held_idle, List.append_nil] at placed ⊢
      exact placed
    · simpa [held, spawn, IoContextImpl.restart] using accounted.outstanding
    · simpa [spawn, IoContextImpl.restart] using workOutstanding
  · next thread =>
    have thread : service.workThread = none := by simpa using thread
    obtain ⟨alive, empty⟩ := idle thread
    exact ⟨⟨.inl unmanned, fun _ => ⟨alive, .inl ⟨thread, empty⟩⟩, nofun, nofun, nofun⟩,
      ⟨accounted.placed, accounted.outstanding, fun _ => workOutstanding⟩,
      ⟨minted.impls, minted.ops⟩, .of_stage nofun nofun⟩

theorem Staffed.idle (staffed : service.Staffed) (stage : service.stage = .forking)
    (thread : service.workThread = none) :
    service.work.stopped = false ∧ service.work.opQueue = [] := by
  obtain ⟨-, idle⟩ | ⟨name, impossible⟩ | ⟨-, name, worker, impossible, -⟩ := staffed.forking stage
  · exact idle
  · rw [thread] at impossible
    cases impossible
  · rw [thread] at impossible
    cases impossible

/-- Of a worker that was joined, or none, nothing is left. -/
theorem Staffed.unmanned_of_joined (staffed : service.Staffed)
    (joined : ∀ thread, service.workThread = some thread → thread.joined = true) :
    service.workers = [] := by
  refine staffed.unmanned fun name thread => ?_
  cases joined _ thread

/-- In a child only an operation in the hands of a worker would be missed. -/
theorem Accounted.orphaned (accounted : service.Accounted) (empty : service.held = []) :
    Accounted { service with workers := [] } := by
  have placed := accounted.placed
  have outstanding := accounted.outstanding
  simp only [places, empty] at placed outstanding
  refine ⟨?_, ?_, fun opened => ?_⟩
  · simpa [places, held] using placed
  · simpa [held] using outstanding
  · have workOutstanding := accounted.workOutstanding opened
    simp only [List.map_nil, List.sum_nil]
    omega

theorem Staffed.held_of_forkChild (staffed : service.Staffed)
    (allowed : service.Allowed .forkChild) : service.held = [] := by
  obtain joined | empty := allowed
  · rw [held, staffed.unmanned_of_joined joined]
    rfl
  · exact empty

theorem Sound.forkChild (sound : service.Sound) (stage : service.stage = .forking)
    (allowed : service.Allowed .forkChild) : Sound { service with workers := [] }.forked :=
  (sound.accounted.orphaned (sound.staffed.held_of_forkChild allowed)).forked
    ⟨sound.minted.impls, sound.minted.ops⟩ stage rfl (sound.staffed.idle stage)

theorem Sound.notified (sound : service.Sound) (notified : Notified service action next)
    (allowed : service.Allowed action) : next.Sound := by
  have ⟨staffed, accounted, minted, emptied⟩ := sound
  have placed := accounted.placed
  have outstanding := accounted.outstanding
  cases notified with
  | forkPrepare stage => exact sound.forkPrepare stage
  | forkJoined stage joined => exact sound.forkJoined stage joined
  | forkParent stage =>
      exact accounted.forked minted stage (staffed.unmanned_of_joined allowed) (staffed.idle stage)
  | forkChild stage => exact sound.forkChild stage allowed
  | shutdown =>
      exact ⟨⟨staffed.alone, nofun, nofun, nofun, nofun⟩,
        ⟨by simpa [ResolverService.shutdown, places, held, IoContextImpl.stop] using placed,
          by simpa [ResolverService.shutdown, held, IoContextImpl.stop] using outstanding,
          by simp [Open, ResolverService.shutdown]⟩,
        ⟨minted.impls, minted.ops⟩, .of_stage nofun nofun⟩
  | destroyWork _ joined =>
      have unmanned := staffed.threadJoined joined
      refine ⟨⟨.inl unmanned, nofun, nofun, nofun, fun _ => unmanned⟩,
        ⟨fun op => ?_, ?_, by simp [Open, ResolverService.destroyWork]⟩,
        ⟨minted.impls, minted.ops⟩, ⟨fun _ => rfl, nofun⟩⟩
      · have placed := placed op
        change service.destroyWork.places.count op = if op < service.started then 1 else 0
        simp only [ResolverService.destroyWork, doComplete_none, places, held, List.count_append,
          List.count_nil] at placed ⊢
        omega
      · simp only [ResolverService.destroyWork, doComplete_none, held, List.length_append,
          List.length_nil] at outstanding ⊢
        omega
  | shutdownMain stage =>
      have unmanned := staffed.closed (.inl stage)
      refine ⟨⟨.inl unmanned, nofun, nofun, nofun, fun _ => unmanned⟩,
        ⟨fun op => ?_, ?_, by simp [Open, ResolverService.shutdownMain]⟩,
        ⟨minted.impls, minted.ops⟩, ⟨fun _ => emptied.work (.inl stage), fun _ => rfl⟩⟩
      · have placed := placed op
        change service.shutdownMain.places.count op = if op < service.started then 1 else 0
        simp only [ResolverService.shutdownMain, doComplete_none, places, held, List.count_append,
          List.count_nil] at placed ⊢
        omega
      · simp only [ResolverService.shutdownMain, doComplete_none, held, List.length_append,
          List.length_nil] at outstanding ⊢
        omega

/-- **Step.** -/
theorem Sound.step (sound : service.Sound) (allowed : service.Allowed action)
    (stepped : ResolverService.step locking service action = some next) : next.Sound := by
  obtain ⟨name, worker, found, worked⟩ | notified | ⟨opened, called⟩ := step_cases stepped
  · exact sound.worked found (sound.staffed.worked found worked)
  · exact sound.notified (notified_of_notify notified) allowed
  · exact sound.called opened (called_of_call called)

/-- **Runs.** -/
theorem sound_of_reachable (reached : (resolverService locking).ReachableWhen
    Allowed service) : service.Sound := by
  refine reached.invariant ?_ fun _ _ _ _ sound allowed stepped => sound.step allowed stepped
  rintro _ rfl
  refine ⟨⟨.inl rfl, fun _ => ⟨rfl, .inl ⟨rfl, rfl⟩⟩, nofun, nofun, fun _ => rfl⟩,
    ⟨fun op => ?_, rfl, fun _ => Nat.le_refl _⟩, ⟨nofun, nofun⟩, .of_stage nofun nofun⟩
  simp [places, held, newService]

end ResolverService

end Asio.Network
