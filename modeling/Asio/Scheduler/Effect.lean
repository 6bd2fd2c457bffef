import Asio.Scheduler.Machine

/-! # What a step can do

`Effect` lists the atomic pieces of the threads' code, each with the place it
starts from, the conditions under which it runs and the state it leaves. Every
step of the machine is one of them (`effect_of_step`), so an invariant is proved
by cases on the effect and the code is not unfolded again.
-/

namespace Asio.Scheduler

open State

variable {T Op D : Type*} [DecidableEq T]

/-- The critical sections a call from user code begins with. -/
def Section.Requested {Op : Type*} (rest : Section Op) : Prop :=
  rest = .stop none ∨ rest = .restart ∨ rest = .initTask

/-- Where a function goes on after the task has returned. -/
def Entry.afterTask {Op : Type*} : Entry → Section Op
  | .run | .runOne => .dispatch
  | .waitOne _ | .poll | .pollOne => .afterTask

/-- The turn a piece of a critical section ends with. -/
def Section.turnOf (oneThread : Bool) (scheduler : Scheduler Op D) (entry : Entry) :
    Section Op → Option (Turn Op D)
  | .dispatch => some (scheduler.dispatch oneThread entry)
  | .waited => some (scheduler.doWaitOneFront oneThread 0)
  | .afterTask => some (scheduler.afterTask oneThread entry.polls)
  | _ => none

/-- Pieces of code that run inside a context of the scheduler. -/
inductive RunEffect (oneThread : Bool) (t : T) (info : ThreadInfo Op D)
    (outer : List (ThreadInfo Op D)) : State T Op D → State T Op D → Prop where
  | enter {state : State T Op D} :
      state.thread t = ⟨.holding .enter, false, info :: outer⟩ →
      (info.entry.polls = true → oneThread = true → outer = []) →
      RunEffect oneThread t info outer state (state.goOn t (.holding .dispatch) info outer)
  | splice {state : State T Op D} {outerInfo : ThreadInfo Op D}
      {outermore : List (ThreadInfo Op D)} :
      state.thread t = ⟨.holding .enter, false, info :: outer⟩ → info.entry.polls = true →
      oneThread = true → outer = outerInfo :: outermore →
      RunEffect oneThread t info outer state
        ({ state with scheduler := state.scheduler.enqueue outerInfo.privateOpQueue }.goOn t
          (.holding .dispatch) info ({ outerInfo with privateOpQueue := [] } :: outermore))
  | turn {state : State T Op D} {rest : Section Op} {turn : Turn Op D} :
      state.thread t = ⟨.holding rest, false, info :: outer⟩ →
      rest.turnOf oneThread state.scheduler info.entry = some turn →
      RunEffect oneThread t info outer state (state.turn t info outer turn)
  | wakeSignalled {state : State T Op D} :
      state.thread t = ⟨.holding .wake, false, info :: outer⟩ →
      state.scheduler.wakeupEvent.signalled = true →
      RunEffect oneThread t info outer state
        ({ state with scheduler := { state.scheduler with
            wakeupEvent := state.scheduler.wakeupEvent.stopWaiting } }.goOn t
          (.holding .dispatch) info outer)
  | sleepAgain {state : State T Op D} :
      state.thread t = ⟨.holding .wake, false, info :: outer⟩ →
      state.scheduler.wakeupEvent.signalled = false →
      RunEffect oneThread t info outer state
        ({ state with
          mutex := none
          scheduler := { state.scheduler with
            wakeupEvent := state.scheduler.wakeupEvent.stopWaiting.startWaiting } }.goOn t
          .waiting info outer)
  | wakeOnce {state : State T Op D} :
      state.thread t = ⟨.holding .wake, false, info :: outer⟩ →
      RunEffect oneThread t info outer state
        ({ state with scheduler := { state.scheduler with
            wakeupEvent := state.scheduler.wakeupEvent.stopWaiting } }.goOn t
          (.holding .waited) { info with entry := .waitOne 0 } outer)
  | taskCleanup {state : State T Op D} :
      state.thread t = ⟨.holding (.taskCleanup false), false, info :: outer⟩ →
      RunEffect oneThread t info outer state
        ({ state with scheduler := state.scheduler.reinsertTask info.privateOpQueue }.goOn t
          (.holding info.entry.afterTask) { info with privateOpQueue := [] } outer)
  | taskThrown {state : State T Op D} :
      state.thread t = ⟨.holding (.taskCleanup true), false, info :: outer⟩ →
      RunEffect oneThread t info outer state
        ({ state with
          mutex := none
          scheduler := state.scheduler.reinsertTask info.privateOpQueue }.leave t
            { info with privateOpQueue := [] } outer false)
  | flushOn {state : State T Op D} :
      state.thread t = ⟨.holding (.flush false), false, info :: outer⟩ →
      info.entry.repeats = true →
      RunEffect oneThread t info outer state
        ({ state with scheduler := state.scheduler.enqueue info.privateOpQueue }.goOn t
          (.holding .dispatch) { info with privateOpQueue := [] } outer)
  | flushLeave {state : State T Op D} {thrown : Bool} :
      state.thread t = ⟨.holding (.flush thrown), false, info :: outer⟩ →
      (thrown || !info.entry.repeats) = true →
      RunEffect oneThread t info outer state
        ({ state with
          mutex := none
          scheduler := state.scheduler.enqueue info.privateOpQueue }.leave t
            { info with privateOpQueue := [] } outer false)
  | cleanup {state : State T Op D} {thrown : Bool} :
      state.thread t = ⟨.cleanup thrown, false, info :: outer⟩ →
      RunEffect oneThread t info outer state (state.workCleanup t thrown info outer)
  | flush {state : State T Op D} {thrown : Bool} :
      state.thread t = ⟨.flushing thrown, false, info :: outer⟩ → info.privateOpQueue ≠ [] →
      RunEffect oneThread t info outer state
        (state.goOn t (.acquiring (.flush thrown)) info outer)
  | goBack {state : State T Op D} :
      state.thread t = ⟨.flushing false, false, info :: outer⟩ → info.privateOpQueue = [] →
      info.entry.repeats = true →
      RunEffect oneThread t info outer state (state.goOn t (.acquiring .dispatch) info outer)
  | leave {state : State T Op D} {thrown : Bool} :
      state.thread t = ⟨.flushing thrown, false, info :: outer⟩ → info.privateOpQueue = [] →
      RunEffect oneThread t info outer state (state.leave t info outer false)

/-- Where a thread goes on after `stop`. -/
def Pc.afterStop {Op D : Type*} : Option Bool → Pc Op D
  | none => .user
  | some thrown => .flushing thrown

/-- `stop_all_threads`, with the broadcast and the release of the mutex. -/
def State.stopAll (state : State T Op D) : State T Op D :=
  { state with
    mutex := none
    scheduler := state.scheduler.stopAllThreads
    thread := fun u => (state.thread u).woken }

/-- `post_deferred_completions` up to the acquisition of the mutex. -/
inductive Posted (oneThread : Bool) (t : T) (contexts : List (ThreadInfo Op D)) (ops : List Op) :
    State T Op D → State T Op D → Prop where
  | nothing {state : State T Op D} : ops = [] →
      Posted oneThread t contexts ops state (state.setThread t ⟨.user, false, contexts⟩)
  | here {state : State T Op D} {info : ThreadInfo Op D} {outer : List (ThreadInfo Op D)} :
      contexts = info :: outer → oneThread = true →
      Posted oneThread t contexts ops state
        ((state.goOn t .user { info with
          privateOpQueue := info.privateOpQueue ++ ops.map .user } outer).logPushes (some info.id) t
            ops)
  | shared {state : State T Op D} :
      Posted oneThread t contexts ops state
        (state.setThread t ⟨.acquiring (.push ops), false, contexts⟩)

variable [Fintype T] [DecidableEq Op] [DecidableEq D]

/-- Pieces of the functions that any thread may call. Only the actions that bear
their names run the scheduler, shut it down and abandon operations. -/
inductive CallEffect (oneThread : Bool) (t : T) (action : Action T Op D)
    (contexts : List (ThreadInfo Op D)) : State T Op D → State T Op D → Prop where
  | request {state : State T Op D} {rest : Section Op} :
      state.thread t = ⟨.user, false, contexts⟩ → rest.Requested →
      CallEffect oneThread t action contexts state
        (state.setThread t ⟨.acquiring rest, false, contexts⟩)
  | close {state : State T Op D} :
      state.thread t = ⟨.user, false, contexts⟩ → (∀ u, (state.thread u).contexts = []) →
      action = .shutdown →
      CallEffect oneThread t action contexts state
        ({ state with closing := true }.setThread t ⟨.acquiring .shutdown, false, contexts⟩)
  | acquire {state : State T Op D} {rest : Section Op} :
      state.thread t = ⟨.acquiring rest, false, contexts⟩ → state.mutex = none →
      CallEffect oneThread t action contexts state
        ({ state with mutex := some t }.setThread t ⟨.holding rest, false, contexts⟩)
  | push {state : State T Op D} {ops : List Op} :
      state.thread t = ⟨.holding (.push ops), false, contexts⟩ →
      CallEffect oneThread t action contexts state
        (({ state with
          mutex := none
          scheduler :=
            (state.scheduler.enqueue (ops.map Operation.user)).wakeOneThreadAndUnlock.1 }.setThread t
              ⟨.user, (state.scheduler.enqueue (ops.map Operation.user)).wakeOneThreadAndUnlock.2,
                contexts⟩).logPushes none t ops)
  | stop {state : State T Op D} {cleanup : Option Bool} :
      state.thread t = ⟨.holding (.stop cleanup), false, contexts⟩ →
      CallEffect oneThread t action contexts state
        (state.stopAll.setThread t ⟨.afterStop cleanup, false, contexts⟩)
  | restart {state : State T Op D} :
      state.thread t = ⟨.holding .restart, false, contexts⟩ →
      CallEffect oneThread t action contexts state
        ({ state with
          mutex := none
          scheduler := { state.scheduler with stopped := false } }.setThread t
            ⟨.user, false, contexts⟩)
  | initTask {state : State T Op D} :
      state.thread t = ⟨.holding .initTask, false, contexts⟩ → state.scheduler.task = false →
      state.scheduler.shutdown = false →
      CallEffect oneThread t action contexts state
        ({ state with
          mutex := none
          scheduler := ({ state.scheduler with task := true }.enqueue
            [.task]).wakeOneThreadAndUnlock.1 }.setThread t
              ⟨.user, ({ state.scheduler with task := true }.enqueue
                [.task]).wakeOneThreadAndUnlock.2, contexts⟩)
  | initAgain {state : State T Op D} :
      state.thread t = ⟨.holding .initTask, false, contexts⟩ →
      CallEffect oneThread t action contexts state
        ({ state with mutex := none }.setThread t ⟨.user, false, contexts⟩)
  | shutdown {state : State T Op D} :
      state.thread t = ⟨.holding .shutdown, false, contexts⟩ →
      CallEffect oneThread t action contexts state
        ({ state with
          mutex := none
          scheduler := { state.scheduler with shutdown := true } }.setThread t
            ⟨.destroying, false, contexts⟩)
  | destroy {state : State T Op D} {o : Operation Op D} {opQueue : List (Operation Op D)} :
      state.thread t = ⟨.destroying, false, contexts⟩ → state.scheduler.opQueue = o :: opQueue →
      CallEffect oneThread t action contexts state { state with
        scheduler := { state.scheduler with opQueue }
        history := { state.history with destroyed := state.history.destroyed ++ userOps [o] } }
  | destroyed {state : State T Op D} :
      state.thread t = ⟨.destroying, false, contexts⟩ → state.scheduler.opQueue = [] →
      CallEffect oneThread t action contexts state
        ({ state with scheduler := { state.scheduler with task := false } }.setThread t
          ⟨.user, false, contexts⟩)
  | callStop {state : State T Op D} :
      state.thread t = ⟨.user, false, contexts⟩ → state.scheduler.outstandingWork = 0 →
      CallEffect oneThread t action contexts state
        (state.setThread t ⟨.acquiring (.stop none), false, contexts⟩)
  | call {state : State T Op D} {entry : Entry} :
      state.thread t = ⟨.user, false, contexts⟩ → state.closing = false →
      state.scheduler.outstandingWork ≠ 0 → action = .call entry →
      CallEffect oneThread t action contexts state
        { state.setThread t ⟨.acquiring .enter, false,
            ⟨entry, state.history.contexts, [], 0, none, 0⟩ :: contexts⟩ with
          history := { state.history with contexts := state.history.contexts + 1 } }
  | postHere {state : State T Op D} {op : Op} {info : ThreadInfo Op D}
      {outer : List (ThreadInfo Op D)} :
      state.thread t = ⟨.user, false, contexts⟩ → op ∉ state.history.known →
      contexts = info :: outer →
      CallEffect oneThread t action contexts state
        (({ state with history := { state.history with
            known := op :: state.history.known } }.goOn t .user { info with
              privateOutstandingWork := info.privateOutstandingWork + 1
              privateOpQueue := info.privateOpQueue ++ [Operation.user op] } outer).logPushes
                (some info.id) t [op])
  | postShared {state : State T Op D} {op : Op} :
      state.thread t = ⟨.user, false, contexts⟩ → op ∉ state.history.known →
      CallEffect oneThread t action contexts state
        ({ state with
          scheduler := { state.scheduler with
            outstandingWork := state.scheduler.outstandingWork + 1 }
          history := { state.history with known := op :: state.history.known } }.setThread t
            ⟨.acquiring (.push [op]), false, contexts⟩)
  | startOp {state : State T Op D} {op : Op} :
      state.thread t = ⟨.user, false, contexts⟩ → op ∉ state.history.known →
      CallEffect oneThread t action contexts state { state with
        scheduler := { state.scheduler with
          outstandingWork := state.scheduler.outstandingWork + 1 }
        pending := op ::ₘ state.pending
        history := { state.history with known := op :: state.history.known } }
  | deferred {state next : State T Op D} {ops : List Op} :
      state.thread t = ⟨.user, false, contexts⟩ → ↑ops ≤ state.pending →
      Posted oneThread t contexts ops (state.takePending ops) next →
      CallEffect oneThread t action contexts state next
  | abandon {state : State T Op D} {ops : List Op} :
      state.thread t = ⟨.user, false, contexts⟩ → ↑ops ≤ state.pending → action = .abandon ops →
      CallEffect oneThread t action contexts state { state.takePending ops with
        history := { state.history with destroyed := state.history.destroyed ++ ops } }
  | workStarted {state : State T Op D} :
      state.thread t = ⟨.user, false, contexts⟩ →
      CallEffect oneThread t action contexts state { state with
        scheduler := { state.scheduler with
          outstandingWork := state.scheduler.outstandingWork + 1 }
        guards := state.guards + 1 }
  | workFinished {state : State T Op D} {pc : Pc Op D} :
      state.thread t = ⟨.user, false, contexts⟩ → 0 < state.guards →
      (state.scheduler.outstandingWork = 1 ∧ pc = .acquiring (.stop none) ∨
        state.scheduler.outstandingWork ≠ 1 ∧ pc = .user) →
      CallEffect oneThread t action contexts state
        ({ state with
          scheduler := { state.scheduler with
            outstandingWork := state.scheduler.outstandingWork - 1 }
          guards := state.guards - 1 }.setThread t ⟨pc, false, contexts⟩)
  | finish {state : State T Op D} {thrown : Bool} :
      state.thread t = ⟨.user, false, contexts⟩ → contexts ≠ [] →
      CallEffect oneThread t action contexts state
        (state.setThread t ⟨.cleanup thrown, false, contexts⟩)

/-- Pieces of the reactor's code: events and timers collected inside
`task_->run`, and `descriptor_state::do_complete`. -/
inductive ReactorEffect (oneThread : Bool) (t : T) (action : Action T Op D)
    (info : ThreadInfo Op D) (outer : List (ThreadInfo Op D)) : State T Op D → State T Op D → Prop where
  | again {state : State T Op D} {usec : Int} {pushed : List D} {descriptor : D} :
      state.thread t = ⟨.task usec pushed, false, info :: outer⟩ →
      state.IsEnqueued info.privateOpQueue (.descriptor descriptor) →
      ReactorEffect oneThread t action info outer state state
  | event {state : State T Op D} {usec : Int} {pushed : List D} {descriptor : D} :
      state.thread t = ⟨.task usec pushed, false, info :: outer⟩ →
      ¬ state.IsEnqueued info.privateOpQueue (.descriptor descriptor) →
      ReactorEffect oneThread t action info outer state
        (state.goOn t (.task usec (pushed ++ [descriptor])) { info with
          privateOpQueue := info.privateOpQueue ++ [.descriptor descriptor] } outer)
  | timers {state : State T Op D} {usec : Int} {pushed : List D} {ops : List Op} :
      state.thread t = ⟨.task usec pushed, false, info :: outer⟩ → ↑ops ≤ state.pending →
      ReactorEffect oneThread t action info outer state
        (((state.takePending ops).goOn t (.task usec pushed) { info with
          privateOpQueue := info.privateOpQueue ++ ops.map .user } outer).logPushes (some info.id) t
            ops)
  | taskReturn {state : State T Op D} {usec : Int} {pushed : List D} {thrown : Bool} :
      state.thread t = ⟨.task usec pushed, false, info :: outer⟩ → action = .taskReturn thrown →
      ReactorEffect oneThread t action info outer state
        ({ state with scheduler := { state.scheduler with
            outstandingWork := state.scheduler.outstandingWork + info.privateOutstandingWork }
          }.goOn t (.acquiring (.taskCleanup thrown)) { info with privateOutstandingWork := 0 }
            outer)
  | performNone {state : State T Op D} {descriptor : D} :
      state.thread t = ⟨.performIo descriptor, false, info :: outer⟩ →
      ReactorEffect oneThread t action info outer state
        (state.goOn t (.cleanup false) { info with
          privateOutstandingWork := info.privateOutstandingWork + 1
          compensations := info.compensations + 1 } outer)
  | perform {state next : State T Op D} {descriptor : D} {first : Op} {rest : List Op} :
      state.thread t = ⟨.performIo descriptor, false, info :: outer⟩ →
      ↑(first :: rest) ≤ state.pending →
      Posted oneThread t ({ info with current := some first } :: outer) rest
        { state.takePending (first :: rest) with
          history := { state.history with called := state.history.called ++ [first] } } next →
      ReactorEffect oneThread t action info outer state next

/-- Steps of the condition variable. -/
inductive WakeEffect (t : T) : State T Op D → State T Op D → Prop where
  | signalNone {state : State T Op D} :
      (state.thread t).signalling = true → (∀ u, (state.thread u).pc ≠ .waiting) →
      WakeEffect t state (state.setThread t { state.thread t with signalling := false })
  | signal {state : State T Op D} {u : T} :
      (state.thread t).signalling = true → (state.thread u).pc = .waiting → u ≠ t →
      WakeEffect t state ((state.setThread t { state.thread t with signalling := false }).setThread
        u { state.thread u with pc := .acquiring .wake })
  | awaken {state : State T Op D} {contexts : List (ThreadInfo Op D)} :
      state.thread t = ⟨.waiting, false, contexts⟩ →
      WakeEffect t state (state.setThread t ⟨.acquiring .wake, false, contexts⟩)

/-- One atomic step of a thread. -/
inductive Effect (oneThread : Bool) (t : T) (action : Action T Op D) :
    State T Op D → State T Op D → Prop where
  | run {info : ThreadInfo Op D} {outer : List (ThreadInfo Op D)} {state next : State T Op D} :
      RunEffect oneThread t info outer state next → Effect oneThread t action state next
  | call {contexts : List (ThreadInfo Op D)} {state next : State T Op D} :
      CallEffect oneThread t action contexts state next → Effect oneThread t action state next
  | reactor {info : ThreadInfo Op D} {outer : List (ThreadInfo Op D)} {state next : State T Op D} :
      ReactorEffect oneThread t action info outer state next → Effect oneThread t action state next
  | wake {state next : State T Op D} : WakeEffect t state next → Effect oneThread t action state next

/-! Every step of the machine is an effect. -/

section Inversion

variable {oneThread : Bool} {state next : State T Op D} {t : T} {info : ThreadInfo Op D}
  {outer contexts : List (ThreadInfo Op D)} {action : Action T Op D}

omit [Fintype T] [DecidableEq Op] [DecidableEq D] in
theorem runEffect_of_runSection {rest : Section Op}
    (here : state.thread t = ⟨.holding rest, false, info :: outer⟩)
    (stepped : state.runSection oneThread t info outer rest = some next) :
    RunEffect oneThread t info outer state next := by
  cases rest with
  | enter =>
      simp only [runSection] at stepped
      cases splices : info.entry.polls && oneThread with
      | false =>
          simp only [splices, Option.some.injEq] at stepped
          subst stepped
          refine .enter here fun polls one => ?_
          rw [polls, one] at splices
          contradiction
      | true =>
          obtain ⟨polls, one⟩ := Bool.and_eq_true_iff.mp splices
          cases outer with
          | nil =>
              simp only [splices, Option.some.injEq] at stepped
              subst stepped
              exact .enter here fun _ _ => rfl
          | cons outerInfo outermore =>
              simp only [splices, Option.some.injEq] at stepped
              subst stepped
              exact .splice here polls one rfl
  | dispatch =>
      simp only [runSection, Option.some.injEq] at stepped
      subst stepped
      exact .turn here rfl
  | wake =>
      simp only [runSection] at stepped
      split at stepped
      · split at stepped
        · next signalled =>
            simp only [Option.some.injEq] at stepped
            subst stepped
            exact .wakeSignalled here signalled
        · next silent =>
            simp only [Option.some.injEq] at stepped
            subst stepped
            exact .sleepAgain here (Bool.not_eq_true _ ▸ silent)
      · split at stepped
        · next signalled =>
            simp only [Option.some.injEq] at stepped
            subst stepped
            exact .wakeSignalled here signalled
        · next silent =>
            simp only [Option.some.injEq] at stepped
            subst stepped
            exact .sleepAgain here (Bool.not_eq_true _ ▸ silent)
      · simp only [Option.some.injEq] at stepped
        subst stepped
        exact .wakeOnce here
      · simp at stepped
      · simp at stepped
  | waited =>
      simp only [runSection, Option.some.injEq] at stepped
      subst stepped
      exact .turn here rfl
  | taskCleanup thrown =>
      cases thrown with
      | true =>
          simp only [runSection, ↓reduceIte, Option.some.injEq] at stepped
          subst stepped
          exact .taskThrown here
      | false =>
          have shape : RunEffect oneThread t info outer state _ := .taskCleanup here
          simp only [runSection, Bool.false_eq_true, ↓reduceIte] at stepped
          cases entry : info.entry with
          | run =>
              simp only [entry, Option.some.injEq] at stepped
              simpa only [entry, Entry.afterTask, ← stepped] using shape
          | runOne =>
              simp only [entry, Option.some.injEq] at stepped
              simpa only [entry, Entry.afterTask, ← stepped] using shape
          | waitOne usec =>
              simp only [entry, Option.some.injEq] at stepped
              simpa only [entry, Entry.afterTask, ← stepped] using shape
          | poll =>
              simp only [entry, Option.some.injEq] at stepped
              simpa only [entry, Entry.afterTask, ← stepped] using shape
          | pollOne =>
              simp only [entry, Option.some.injEq] at stepped
              simpa only [entry, Entry.afterTask, ← stepped] using shape
  | afterTask =>
      simp only [runSection, Option.some.injEq] at stepped
      subst stepped
      exact .turn here rfl
  | flush thrown =>
      simp only [runSection] at stepped
      split at stepped
      · next leaves =>
          simp only [Option.some.injEq] at stepped
          subst stepped
          exact .flushLeave here leaves
      · next goesOn =>
          simp only [Bool.or_eq_true, Bool.not_eq_true', not_or, Bool.not_eq_true,
            Bool.not_eq_false] at goesOn
          obtain ⟨rfl, repeats⟩ := goesOn
          simp only [Option.some.injEq] at stepped
          subst stepped
          exact .flushOn here repeats
  | push ops => simp [runSection] at stepped
  | stop cleanup => simp [runSection] at stepped
  | restart => simp [runSection] at stepped
  | initTask => simp [runSection] at stepped
  | shutdown => simp [runSection] at stepped

omit [Fintype T] [DecidableEq D] in
theorem callEffect_of_callSection {rest : Section Op}
    (here : state.thread t = ⟨.holding rest, false, contexts⟩)
    (stepped : state.callSection t contexts rest = some next) :
    CallEffect oneThread t action contexts state next := by
  cases rest with
  | push ops =>
      simp only [callSection, Option.some.injEq] at stepped
      subst stepped
      exact .push here
  | stop cleanup =>
      cases cleanup with
      | none =>
          simp only [callSection, Option.some.injEq] at stepped
          subst stepped
          exact .stop here
      | some thrown =>
          simp only [callSection, Option.some.injEq] at stepped
          subst stepped
          exact .stop here
  | restart =>
      simp only [callSection, Option.some.injEq] at stepped
      subst stepped
      exact .restart here
  | initTask =>
      simp only [callSection] at stepped
      split at stepped
      · next absent =>
          simp only [Bool.and_eq_true, Bool.not_eq_true'] at absent
          simp only [Option.some.injEq] at stepped
          subst stepped
          exact .initTask here absent.2 absent.1
      · simp only [Option.some.injEq] at stepped
        subst stepped
        exact .initAgain here
  | shutdown =>
      simp only [callSection, Option.some.injEq] at stepped
      subst stepped
      exact .shutdown here
  | enter => simp [callSection] at stepped
  | dispatch => simp [callSection] at stepped
  | wake => simp [callSection] at stepped
  | waited => simp [callSection] at stepped
  | taskCleanup thrown => simp [callSection] at stepped
  | afterTask => simp [callSection] at stepped
  | flush thrown => simp [callSection] at stepped

omit [Fintype T] [DecidableEq Op] [DecidableEq D] in
theorem posted_postDeferredCompletions (ops : List Op) :
    Posted oneThread t contexts ops state
      (state.postDeferredCompletions oneThread t ops contexts) := by
  cases ops with
  | nil => exact .nothing rfl
  | cons op ops =>
      cases oneThread with
      | false => exact .shared
      | true =>
          cases contexts with
          | nil => exact .shared
          | cons info outer => exact .here rfl rfl

omit [Fintype T] [DecidableEq D] in
theorem effect_of_proceed (silent : (state.thread t).signalling = false)
    (stepped : state.proceed oneThread t = some next) : Effect oneThread t action state next := by
  unfold proceed at stepped
  have here : state.thread t =
      ⟨(state.thread t).pc, false, (state.thread t).contexts⟩ := by
    rw [← silent]
  generalize (state.thread t).pc = pc at here stepped
  generalize (state.thread t).contexts = contexts at here stepped
  split at stepped
  · next rest =>
      cases called : state.callSection t contexts rest with
      | some result =>
          simp only [called, Option.some.injEq] at stepped
          subst stepped
          exact .call (callEffect_of_callSection here called)
      | none =>
          cases contexts with
          | nil => simp [called] at stepped
          | cons info outer =>
              simp only [called] at stepped
              exact .run (runEffect_of_runSection here stepped)
  · simp only [Option.some.injEq] at stepped
    subst stepped
    exact .run (.cleanup here)
  · next thrown info outer =>
      split at stepped
      · next some =>
          simp only [Option.some.injEq] at stepped
          subst stepped
          refine .run (.flush here fun none => ?_)
          simp [none] at some
      · next none =>
          simp only [Bool.not_eq_true', Bool.not_eq_false, List.isEmpty_iff] at none
          split at stepped
          · simp only [Option.some.injEq] at stepped
            subst stepped
            exact .run (.leave here none)
          · next goesOn =>
              simp only [Bool.or_eq_true, Bool.not_eq_true', not_or, Bool.not_eq_true,
                Bool.not_eq_false] at goesOn
              obtain ⟨rfl, repeats⟩ := goesOn
              simp only [Option.some.injEq] at stepped
              subst stepped
              exact .run (.goBack here none repeats)
  · split at stepped
    · next empty =>
        simp only [Option.some.injEq] at stepped
        subst stepped
        exact .call (.destroyed here empty)
    · next o opQueue queue =>
        simp only [Option.some.injEq] at stepped
        subst stepped
        exact .call (.destroy here queue)
  · simp at stepped

omit [DecidableEq D] in
theorem callEffect_of_userStep
    (here : state.thread t = ⟨.user, false, contexts⟩)
    (stepped : state.userStep oneThread t contexts action = some next) :
    CallEffect oneThread t action contexts state next := by
  cases action with
  | call entry =>
      simp only [userStep] at stepped
      split at stepped
      · simp at stepped
      · next opened =>
          simp only [Option.some.injEq, State.call] at stepped
          subst stepped
          split
          · next noWork => exact .callStop here noWork
          · next work => exact .call here (Bool.not_eq_true _ ▸ opened) work rfl
  | post op isContinuation =>
      simp only [userStep] at stepped
      split at stepped
      · simp at stepped
      · next fresh =>
          simp only [Option.some.injEq, postImmediateCompletion] at stepped
          subst stepped
          split
          · exact .postHere here fresh rfl
          · exact .postShared here fresh
  | dispatch op =>
      simp only [userStep] at stepped
      split at stepped
      · simp at stepped
      · next fresh =>
          simp only [Option.some.injEq, doDispatch] at stepped
          subst stepped
          exact .postShared here fresh
  | startOp op =>
      simp only [userStep] at stepped
      split at stepped
      · simp at stepped
      · next fresh =>
          simp only [Option.some.injEq] at stepped
          subst stepped
          exact .startOp here fresh
  | deferred ops =>
      simp only [userStep] at stepped
      split at stepped
      · next held =>
          simp only [Option.some.injEq] at stepped
          subst stepped
          exact .deferred here held (posted_postDeferredCompletions ops)
      · simp at stepped
  | abandon ops =>
      simp only [userStep] at stepped
      split at stepped
      · next held =>
          simp only [Option.some.injEq] at stepped
          subst stepped
          exact .abandon here held rfl
      · simp at stepped
  | workStarted =>
      simp only [userStep, Option.some.injEq] at stepped
      subst stepped
      exact .workStarted here
  | workFinished =>
      simp only [userStep] at stepped
      split at stepped
      · next held =>
          simp only [Option.some.injEq] at stepped
          subst stepped
          apply CallEffect.workFinished here held
          by_cases last : state.scheduler.outstandingWork = 1
          · exact Or.inl ⟨last, by simp [last]⟩
          · refine Or.inr ⟨last, if_neg ?_⟩
            rw [beq_iff_eq]
            omega
      · simp at stepped
  | stop =>
      simp only [userStep, Option.some.injEq] at stepped
      subst stepped
      exact .request here (Or.inl rfl)
  | restart =>
      simp only [userStep, Option.some.injEq] at stepped
      subst stepped
      exact .request here (Or.inr (Or.inl rfl))
  | initTask =>
      simp only [userStep, Option.some.injEq] at stepped
      subst stepped
      exact .request here (Or.inr (Or.inr rfl))
  | shutdown =>
      simp only [userStep] at stepped
      split at stepped
      · next unused =>
          simp only [Option.some.injEq] at stepped
          subst stepped
          exact .close here unused rfl
      · simp at stepped
  | finish thrown =>
      simp only [userStep] at stepped
      split at stepped
      · simp at stepped
      · next inside =>
          simp only [Option.some.injEq] at stepped
          subst stepped
          refine .finish here fun none => inside ?_
          rw [none, List.isEmpty_nil]
  | acquire => simp [userStep] at stepped
  | proceed => simp [userStep] at stepped
  | signal woken => simp [userStep] at stepped
  | awaken => simp [userStep] at stepped
  | performIo ops => simp [userStep] at stepped
  | event descriptor => simp [userStep] at stepped
  | timers ops => simp [userStep] at stepped
  | taskReturn thrown => simp [userStep] at stepped

theorem reactorEffect_of_taskStep {usec : Int} {pushed : List D}
    (here : state.thread t = ⟨.task usec pushed, false, info :: outer⟩)
    (stepped : state.taskStep t usec pushed info outer action = some next) :
    ReactorEffect oneThread t action info outer state next := by
  cases action with
  | event descriptor =>
      simp only [taskStep] at stepped
      split at stepped
      · next enqueued =>
          simp only [Option.some.injEq] at stepped
          subst stepped
          exact .again here enqueued
      · next absent =>
          simp only [Option.some.injEq] at stepped
          subst stepped
          exact .event here absent
  | timers ops =>
      simp only [taskStep] at stepped
      split at stepped
      · next held =>
          simp only [Option.some.injEq] at stepped
          subst stepped
          exact .timers here held
      · simp at stepped
  | taskReturn thrown =>
      simp only [taskStep, Option.some.injEq] at stepped
      subst stepped
      exact .taskReturn here rfl
  | _ => simp [taskStep] at stepped

omit [Fintype T] [DecidableEq D] in
theorem reactorEffect_performIo {descriptor : D} {ops : List Op}
    (here : state.thread t = ⟨.performIo descriptor, false, info :: outer⟩)
    (held : ↑ops ≤ state.pending) :
    ReactorEffect oneThread t action info outer state
      ((state.takePending ops).performIo oneThread t info outer ops) := by
  cases ops with
  | nil =>
      have same : state.takePending [] = state := by
        simp [takePending]
      rw [same]
      exact .performNone here
  | cons first rest => exact .perform here held (posted_postDeferredCompletions rest)

theorem effect_of_threadStep
    (silent : (state.thread t).signalling = false)
    (stepped : state.threadStep oneThread t action = some next) :
    Effect oneThread t action state next := by
  unfold threadStep at stepped
  have here : state.thread t =
      ⟨(state.thread t).pc, false, (state.thread t).contexts⟩ := by
    rw [← silent]
  generalize (state.thread t).pc = pc at here stepped
  generalize (state.thread t).contexts = contexts at here stepped
  split at stepped
  · exact .call (callEffect_of_userStep here stepped)
  · split at stepped
    · next free =>
        simp only [Option.some.injEq] at stepped
        subst stepped
        exact .call (.acquire here (Option.isNone_iff_eq_none.mp free))
    · simp at stepped
  · simp only [Option.some.injEq] at stepped
    subst stepped
    exact .wake (.awaken here)
  · exact .reactor (reactorEffect_of_taskStep here stepped)
  · split at stepped
    · next held =>
        simp only [Option.some.injEq] at stepped
        subst stepped
        exact .reactor (reactorEffect_performIo here held)
    · simp at stepped
  · exact effect_of_proceed silent stepped
  · simp at stepped

/-- Every step of the machine is an effect of the thread that makes it. -/
theorem effect_of_step {move : T × Action T Op D}
    (stepped : state.step oneThread move = some next) : Effect oneThread move.1 move.2 state next := by
  unfold State.step at stepped
  split at stepped
  · next signalling =>
      split at stepped
      · next woken =>
          unfold condSignal at stepped
          split at stepped
          · split at stepped
            · simp at stepped
            · next nobody =>
                simp only [Option.some.injEq] at stepped
                subst stepped
                exact .wake (.signalNone signalling fun u isWaiting => nobody ⟨u, isWaiting⟩)
          · next u =>
              split at stepped
              · next waiter =>
                  obtain ⟨isWaiting, other⟩ := waiter
                  have woken : ((state.setThread move.1
                      { state.thread move.1 with signalling := false }).thread u).woken =
                      { state.thread u with pc := .acquiring .wake } := by
                    simp only [setThread, Function.update_of_ne other, Thread.woken, isWaiting]
                  simp only [woken, Option.some.injEq] at stepped
                  subst stepped
                  exact .wake (.signal signalling isWaiting other)
              · simp at stepped
      · simp at stepped
  · next silent => exact effect_of_threadStep (Bool.not_eq_true _ ▸ silent) stepped

end Inversion

end Asio.Scheduler
