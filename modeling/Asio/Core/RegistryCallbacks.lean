import Asio.Core.RegistryMutex

/-! # Callbacks of the service registry

Service code runs without the mutex as long as no second search finds a service. Where one
does, the new service is destroyed while the mutex is locked again.
-/

namespace Asio.Core

open MutexStacks

variable {Thread TypeInfo Id : Type*} [DecidableEq Thread] {thread : Thread}
  {state next : RegistryThreads Thread TypeInfo Id} {key : Key TypeInfo Id} {context : Nat}
  {stack rest : List (RegistryFrame TypeInfo Id)}

namespace RegistryThreads

/-- A step after which a thread that holds the mutex is inside of a function that locked it. -/
def Advances (thread : Thread) (state next : RegistryThreads Thread TypeInfo Id) : Prop :=
  Advance RegistryFrame.locks thread state.calls next.calls

theorem lock_calls (locked : state.lock thread stack = some next) :
    state.calls.lock thread stack = some next.calls := by
  unfold RegistryThreads.lock at locked
  obtain ⟨calls, is, rfl⟩ := Option.map_eq_some_iff.mp locked
  exact is

/-! ## User code and the code of services -/

theorem advances_enter {frame : RegistryFrame TypeInfo Id} (opens : frame.locks = false)
    (stepped : state.enter thread frame = some next) : Advances thread state next := by
  have entered (outside : ∀ caller ∈ (state.calls.stackOf thread).head?, caller.locks = false) :
      Advances thread state (state.move thread (frame :: state.calls.stackOf thread)) :=
    advance_enter outside opens
  unfold RegistryThreads.enter at stepped
  split at stepped
  · next is =>
    cases stepped
    rw [is] at entered
    exact entered nofun
  · next code name rest is =>
    cases stepped
    rw [is] at entered
    apply entered
    rintro _ ⟨⟩
    rfl
  · cases stepped

theorem advances_finish (stepped : state.finish context thread = some next) :
    Advances thread state next := by
  unfold RegistryThreads.finish at stepped
  split at stepped
  · next is =>
    cases stepped
    exact advance_free is rfl rfl
  · next is =>
    cases stepped
    exact advance_free is rfl rfl
  · next is =>
    cases stepped
    exact advance_free is rfl rfl
  · cases stepped

theorem advances_throw (stepped : state.throw thread = some next) :
    Advances thread state next := by
  unfold RegistryThreads.throw at stepped
  split at stepped
  · cases stepped
  · next is =>
    cases stepped
    exact advance_free is rfl rfl
  · next is =>
    cases stepped
    exact advance_free is rfl rfl
  · next is =>
    cases stepped
    exact advance_free is rfl rfl
  · next is =>
    cases stepped
    exact advance_unlock is rfl rfl
  · cases stepped

section

variable [DecidableEq TypeInfo] [DecidableEq Id]

theorem advances_useService {point : UsePoint}
    (is : state.calls.stackOf thread = .useService key point :: rest)
    (stepped : state.useService thread key rest point = some next)
    (fresh : state.findsDuplicate (thread, .proceed) = false) : Advances thread state next := by
  cases point with
  | lock => exact advance_lock is rfl rfl (lock_calls stepped)
  | search =>
      rw [RegistryThreads.useService] at stepped
      cases found : Registry.findService key state.services with
      | some service =>
          rw [found] at stepped
          cases stepped
          exact advance_held is rfl rfl
      | none =>
          rw [found] at stepped
          cases stepped
          exact advance_held is rfl rfl
  | unlock =>
      cases stepped
      exact advance_unlock is rfl rfl
  | create => cases stepped
  | lockAgain newService => exact advance_lock is rfl rfl (lock_calls stepped)
  | searchAgain newService =>
      have absent : Registry.findService key state.services = none := by
        unfold RegistryThreads.findsDuplicate at fresh
        dsimp only at fresh
        rw [is] at fresh
        exact Option.isNone_iff_eq_none.mp (Option.isSome_eq_false_iff.mp fresh)
      rw [RegistryThreads.useService, absent] at stepped
      cases stepped
      exact advance_held is rfl rfl
  | dispose service => cases stepped
  | leave service =>
      cases stepped
      exact advance_unlock is rfl rfl

theorem advances_addService {newService : Service} {point : AddPoint}
    (is : state.calls.stackOf thread = .addService key newService point :: rest)
    (stepped : state.addService context thread key newService rest point = some next) :
    Advances thread state next := by
  cases point with
  | check =>
      rw [RegistryThreads.addService] at stepped
      split at stepped
      · cases stepped
        exact advance_free is rfl rfl
      · cases stepped
        exact advance_free is rfl rfl
  | lock => exact advance_lock is rfl rfl (lock_calls stepped)
  | search =>
      rw [RegistryThreads.addService] at stepped
      cases found : Registry.findService key state.services with
      | some service =>
          rw [found] at stepped
          cases stepped
          exact advance_held is rfl rfl
      | none =>
          rw [found] at stepped
          cases stepped
          exact advance_held is rfl rfl
  | leave error =>
      cases stepped
      exact advance_unlock is rfl rfl

theorem advances_hasService {point : HasPoint}
    (is : state.calls.stackOf thread = .hasService key point :: rest)
    (stepped : state.hasService thread key rest point = some next) :
    Advances thread state next := by
  cases point with
  | lock => exact advance_lock is rfl rfl (lock_calls stepped)
  | search =>
      cases stepped
      exact advance_held is rfl rfl
  | leave found =>
      cases stepped
      exact advance_unlock is rfl rfl

omit [DecidableEq TypeInfo] [DecidableEq Id] in
theorem advances_notifyFork {event : ForkEvent} {point : ForkPoint}
    (is : state.calls.stackOf thread = .notifyFork event point :: rest)
    (stepped : state.notifyFork thread event rest point = some next) :
    Advances thread state next := by
  cases point with
  | lock => exact advance_lock is rfl rfl (lock_calls stepped)
  | copy =>
      cases stepped
      exact advance_held is rfl rfl
  | unlock services =>
      cases stepped
      exact advance_unlock is rfl rfl
  | visit services =>
      cases services with
      | nil =>
          cases stepped
          exact advance_free is rfl rfl
      | cons service services =>
          cases stepped
          exact advance_free is rfl rfl

theorem advances_proceed (stepped : state.proceed context thread = some next)
    (fresh : state.findsDuplicate (thread, .proceed) = false) : Advances thread state next := by
  unfold RegistryThreads.proceed at stepped
  split at stepped
  · next is => exact advances_useService is stepped fresh
  · next is => exact advances_addService is stepped
  · next is => exact advances_hasService is stepped
  · next is => exact advances_notifyFork is stepped
  · cases stepped

/-- Every step but one leaves a thread that holds the mutex inside of a function that locked it. -/
theorem advances_step {action : ThreadAction TypeInfo Id}
    (stepped : step context state (thread, action) = some next)
    (fresh : state.findsDuplicate (thread, action) = false) : Advances thread state next := by
  cases action with
  | call call => exact advances_enter (by cases call <;> rfl) stepped
  | execute code name => exact advances_enter rfl stepped
  | proceed => exact advances_proceed stepped fresh
  | finish => exact advances_finish stepped
  | throw => exact advances_throw stepped

/-- A duplicate is destroyed while the mutex stays locked. -/
theorem step_duplicate {action : ThreadAction TypeInfo Id}
    (finds : state.findsDuplicate (thread, action) = true)
    (stepped : step context state (thread, action) = some next) :
    ∃ key newService service rest,
      state.calls.stackOf thread = .useService key (.searchAgain newService) :: rest ∧
      next = state.move thread (.service .destructor newService.name ::
        .useService key (.dispose service) :: rest) := by
  cases action with
  | proceed =>
      unfold RegistryThreads.findsDuplicate at finds
      dsimp only at finds
      split at finds
      · next key newService rest is =>
        obtain ⟨service, found⟩ := Option.isSome_iff_exists.mp finds
        change state.proceed context thread = some next at stepped
        rw [RegistryThreads.proceed, is] at stepped
        dsimp only [RegistryThreads.useService] at stepped
        rw [found] at stepped
        cases stepped
        exact ⟨key, newService, service.name, rest, is, rfl⟩
      · cases finds
  | call call => cases finds
  | execute code name => cases finds
  | finish => cases finds
  | throw => cases finds

theorem shift_step {action : ThreadAction TypeInfo Id}
    (stepped : step context state (thread, action) = some next) :
    Shift RegistryFrame.locks thread state.calls next.calls := by
  by_cases finds : state.findsDuplicate (thread, action) = true
  · obtain ⟨key, newService, service, rest, is, rfl⟩ := step_duplicate finds stepped
    apply Shift.move
    rw [is]
    rfl
  · exact (advances_step stepped (Bool.eq_false_iff.mpr finds)).shift

omit [DecidableEq Thread] [DecidableEq TypeInfo] [DecidableEq Id] in
/-- Neither the code of a service nor a function that waits has locked the mutex. -/
theorem calledUnlocked_of_innermost (innermost : state.calls.Innermost RegistryFrame.locks) :
    state.CalledUnlocked := by
  constructor
  · intro thread frame rest is service holds
    have locks := innermost thread frame rest is holds
    rw [RegistryFrame.locks_of_isService service] at locks
    cases locks
  · intro thread frame rest is waits holds
    have locks := innermost thread frame rest is holds
    rw [RegistryFrame.locks_of_waits waits] at locks
    cases locks

/-- The stacks tell who holds the mutex; and a thread that holds it is inside of a function that
locked it, as long as no service is called otherwise. -/
structure Guarded (state : RegistryThreads Thread TypeInfo Id) : Prop where
  told : state.calls.Told RegistryFrame.locks
  innermost : state.CalledUnlocked → state.calls.Innermost RegistryFrame.locks

/-- The new service is destroyed under the lock exactly when it is a duplicate. -/
theorem Guarded.step_iff {action : Thread × ThreadAction TypeInfo Id} (guarded : state.Guarded)
    (unlocked : state.CalledUnlocked) (stepped : step context state action = some next) :
    next.CalledUnlocked ↔ state.findsDuplicate action = false := by
  obtain ⟨thread, action⟩ := action
  constructor
  · intro unlocked
    by_contra finds
    rw [Bool.not_eq_false] at finds
    obtain ⟨key, newService, service, rest, is, rfl⟩ := step_duplicate finds stepped
    have holds : state.calls.mutex = some thread := by
      apply guarded.told.holds
      rw [is, List.countP_cons_of_pos rfl]
      exact Nat.succ_ne_zero _
    exact unlocked.unlocked thread _ _ (Function.update_self _ _ _) rfl holds
  · intro fresh
    have innermost := guarded.innermost unlocked
    exact calledUnlocked_of_innermost
      (innermost.advance guarded.told (advances_step stepped fresh))

theorem Guarded.step {action : Thread × ThreadAction TypeInfo Id} (guarded : state.Guarded)
    (unlocked : state.CalledUnlocked) (stepped : step context state action = some next) :
    next.Guarded where
  told := by
    have shift : Shift RegistryFrame.locks action.1 state.calls next.calls := shift_step stepped
    exact guarded.told.shift shift
  innermost next_unlocked := by
    have fresh := (guarded.step_iff unlocked stepped).mp next_unlocked
    exact (guarded.innermost unlocked).advance guarded.told (advances_step stepped fresh)

omit [DecidableEq Thread] [DecidableEq TypeInfo] [DecidableEq Id] in
theorem guarded_new :
    Guarded (⟨⟨none, fun _ => []⟩, [], 0⟩ : RegistryThreads Thread TypeInfo Id) where
  told := told_new
  innermost _ _ _ _ is := nomatch is

/-- A thread that waits takes no step before the mutex is free. -/
theorem step_waits {frame : RegistryFrame TypeInfo Id} {action : ThreadAction TypeInfo Id}
    (is : state.calls.stackOf thread = frame :: rest) (waits : frame.waits = true)
    (held : state.calls.mutex ≠ none) : step context state (thread, action) = none := by
  obtain ⟨holder, held⟩ := Option.ne_none_iff_exists'.mp held
  have blocked (stack : List (RegistryFrame TypeInfo Id)) : state.lock thread stack = none := by
    rw [RegistryThreads.lock, MutexStacks.lock, held]
    rfl
  unfold RegistryFrame.waits at waits
  split at waits
  case h_6 => cases waits
  all_goals cases action <;> simp [step, enter, finish, throw, proceed, is,
    RegistryThreads.useService, RegistryThreads.addService, RegistryThreads.hasService,
    RegistryThreads.notifyFork, blocked]

/-- A thread that waits for the mutex that it holds goes on to wait, and the mutex stays locked. -/
theorem waits_step {frame : RegistryFrame TypeInfo Id} {action : Thread × ThreadAction TypeInfo Id}
    (told : state.calls.Told RegistryFrame.locks)
    (is : state.calls.stackOf thread = frame :: rest) (waits : frame.waits = true)
    (holds : state.calls.mutex = some thread) (stepped : step context state action = some next) :
    next.calls.stackOf thread = frame :: rest ∧ next.calls.mutex = some thread := by
  obtain ⟨other, action⟩ := action
  by_cases same : other = thread
  · subst same
    rw [step_waits is waits (holds ▸ Option.some_ne_none _)] at stepped
    cases stepped
  · have shift := shift_step stepped
    rw [shift.stackOf_other (Ne.symm same), shift.mutex_other told (Ne.symm same)]
    exact ⟨is, holds⟩

/-- A thread that waits for the mutex that it holds waits for ever. -/
theorem waits_forever {frame : RegistryFrame TypeInfo Id}
    {actions : List (Thread × ThreadAction TypeInfo Id)}
    (told : state.calls.Told RegistryFrame.locks)
    (is : state.calls.stackOf thread = frame :: rest) (waits : frame.waits = true)
    (holds : state.calls.mutex = some thread)
    (ran : (machine context).run state actions = some next) :
    next.calls.stackOf thread = frame :: rest ∧ next.calls.mutex = some thread := by
  induction actions generalizing state with
  | nil =>
      cases ran
      exact ⟨is, holds⟩
  | cons action actions ih =>
      obtain ⟨middle, stepped, ran⟩ := Option.bind_eq_some_iff.mp ran
      obtain ⟨is, holds⟩ := waits_step told is waits holds stepped
      have shift : Shift RegistryFrame.locks action.1 state.calls middle.calls :=
        shift_step stepped
      exact ih (told.shift shift) is holds ran

/-- No service runs while its thread holds the mutex, throughout a run, exactly when no second
search in the run finds a service. -/
theorem always_calledUnlocked_iff {start final : RegistryThreads Thread TypeInfo Id}
    {actions : List (Thread × ThreadAction TypeInfo Id)}
    (initial : (machine context).initial start)
    (ran : (machine context).run start actions = some final) :
    (machine context).Always CalledUnlocked start actions ↔
      (machine context).Permitted (fun state action => state.findsDuplicate action = false)
        start actions := by
  obtain rfl := initial
  apply Transition.Machine.always_iff_permitted _ _ actions ran guarded_new
  · apply calledUnlocked_of_innermost
    rintro _ _ _ ⟨⟩
  · intro state action next guarded unlocked stepped
    exact guarded.step unlocked stepped
  · intro state action next guarded unlocked stepped
    exact guarded.step_iff unlocked stepped

end

/-! ## Two threads -/

/-- A thread calls `use_service` and creates the service. -/
def creating (thread : Nat) (key : Key Nat Nat) : List (Nat × ThreadAction Nat Nat) :=
  (thread, .call (.useService key)) :: List.replicate 3 (thread, .proceed)

/-- The factory returns, and the new service is registered. -/
def registering (thread : Nat) : List (Nat × ThreadAction Nat Nat) :=
  (thread, .finish) :: List.replicate 3 (thread, .proceed)

/-- The constructor of a service asks for another one; a second thread calls `notify_fork`. -/
theorem always_calledUnlocked_nested : (machine 0).Always CalledUnlocked
    ⟨⟨none, fun _ => []⟩, [], 0⟩
    (creating 0 (.ofType 7) ++ creating 0 (.ofType 8) ++ registering 0 ++ registering 0 ++
      (1, .call (.notifyFork .forkChild)) :: List.replicate 4 (1, .proceed)) :=
  (always_calledUnlocked_iff rfl rfl).mpr (by decide)

/-- Two threads create the same service, and the slower one destroys its own. -/
theorem not_always_calledUnlocked : ¬ ∀ (actions : List (Nat × ThreadAction Nat Nat))
    (start final : RegistryThreads Nat Nat Nat), (machine 0).initial start →
    (machine 0).run start actions = some final →
    (machine 0).Always CalledUnlocked start actions := by
  intro always
  have unlocked := (always (creating 0 (.ofType 7) ++ creating 1 (.ofType 7) ++ registering 0 ++
    [(1, .finish), (1, .proceed), (1, .proceed)]) _ _ rfl rfl).last rfl
  exact unlocked.unlocked 1 _ _ rfl rfl rfl

end RegistryThreads

end Asio.Core
