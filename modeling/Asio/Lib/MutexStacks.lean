import Mathlib.Data.List.Basic
import Mathlib.Logic.Function.Basic

/-! # A mutex and the calls of threads

Each thread has a stack of calls. A call may have locked the mutex, which a thread cannot lock
again. The stacks tell who holds the mutex, and a step changes the stack of its thread only:
it locks the mutex, unlocks it, or leaves it alone.
-/

/-- The holder of a mutex, and the calls of every thread, the innermost first. -/
structure MutexStacks (Thread Call : Type*) where
  mutex : Option Thread
  stackOf : Thread → List Call

namespace MutexStacks

variable {Thread Call : Type*} [DecidableEq Thread]

/-- A thread has other calls. -/
def move (state : MutexStacks Thread Call) (thread : Thread) (stack : List Call) :
    MutexStacks Thread Call :=
  { state with stackOf := Function.update state.stackOf thread stack }

/-- A thread locks the mutex, for which it waits until nobody holds it. -/
def lock (state : MutexStacks Thread Call) (thread : Thread) (stack : List Call) :
    Option (MutexStacks Thread Call) :=
  match state.mutex with
  | some _ => none
  | none => some ⟨some thread, Function.update state.stackOf thread stack⟩

/-- A thread unlocks the mutex. -/
def unlock (state : MutexStacks Thread Call) (thread : Thread) (stack : List Call) :
    MutexStacks Thread Call :=
  ⟨none, Function.update state.stackOf thread stack⟩

/-- One call of the thread that holds the mutex has locked it, and none of another thread. -/
structure Told (locks : Call → Bool) (state : MutexStacks Thread Call) : Prop where
  holder : ∀ thread, state.mutex = some thread → (state.stackOf thread).countP locks = 1
  others : ∀ thread, state.mutex ≠ some thread → (state.stackOf thread).countP locks = 0

/-- A thread holds the mutex only as long as its innermost call has locked it. -/
def Innermost (locks : Call → Bool) (state : MutexStacks Thread Call) : Prop :=
  ∀ thread call rest, state.stackOf thread = call :: rest → state.mutex = some thread →
    locks call = true

/-- The steps of a thread: calls are entered or left, or the mutex is locked or unlocked. -/
inductive Shift (locks : Call → Bool) (thread : Thread) (state : MutexStacks Thread Call) :
    MutexStacks Thread Call → Prop where
  | move {stack : List Call} :
      stack.countP locks = (state.stackOf thread).countP locks →
      Shift locks thread state (state.move thread stack)
  | lock {stack : List Call} {next : MutexStacks Thread Call} :
      stack.countP locks = (state.stackOf thread).countP locks + 1 →
      state.lock thread stack = some next → Shift locks thread state next
  | unlock {stack : List Call} :
      stack.countP locks + 1 = (state.stackOf thread).countP locks →
      Shift locks thread state (state.unlock thread stack)

variable {locks : Call → Bool} {thread other : Thread} {state next : MutexStacks Thread Call}
  {stack : List Call}

theorem lock_eq (locked : state.lock thread stack = some next) :
    state.mutex = none ∧ next = ⟨some thread, Function.update state.stackOf thread stack⟩ := by
  unfold lock at locked
  cases free : state.mutex with
  | some holder =>
      rw [free] at locked
      cases locked
  | none =>
      rw [free] at locked
      exact ⟨rfl, (Option.some.inj locked).symm⟩

omit [DecidableEq Thread] in
theorem told_new : Told locks (⟨none, fun _ => []⟩ : MutexStacks Thread Call) where
  holder _ holds := nomatch holds
  others _ _ := rfl

/-- A thread with a call that has locked the mutex holds it. -/
theorem Told.holds (told : state.Told locks) (locked : (state.stackOf thread).countP locks ≠ 0) :
    state.mutex = some thread := by
  by_contra foreign
  exact locked (told.others thread foreign)

/-- The stacks of the other threads stay as they are. -/
theorem Shift.stackOf_other (shift : Shift locks thread state next) (differs : other ≠ thread) :
    next.stackOf other = state.stackOf other := by
  cases shift with
  | move same => exact Function.update_of_ne differs _ _
  | lock more locked =>
      obtain ⟨-, rfl⟩ := lock_eq locked
      exact Function.update_of_ne differs _ _
  | unlock fewer => exact Function.update_of_ne differs _ _

/-- Whether another thread holds the mutex stays as it is. -/
theorem Shift.mutex_other (shift : Shift locks thread state next) (told : state.Told locks)
    (differs : other ≠ thread) : next.mutex = some other ↔ state.mutex = some other := by
  cases shift with
  | move same => exact Iff.rfl
  | lock more locked =>
      obtain ⟨free, rfl⟩ := lock_eq locked
      rw [free]
      constructor
      · rintro ⟨⟩
        exact absurd rfl differs
      · rintro ⟨⟩
  | unlock fewer =>
      have holds : state.mutex = some thread := told.holds (by omega)
      rw [holds]
      constructor
      · rintro ⟨⟩
      · rintro ⟨⟩
        exact absurd rfl differs

/-- The stacks tell who holds the mutex after a step too. -/
theorem Told.shift (told : state.Told locks) (shift : Shift locks thread state next) :
    next.Told locks := by
  constructor
  · intro other holds
    by_cases same : other = thread
    · subst same
      cases shift with
      | move count =>
          dsimp only [MutexStacks.move] at holds ⊢
          rw [Function.update_self, count]
          exact told.holder other holds
      | lock count locked =>
          obtain ⟨free, rfl⟩ := lock_eq locked
          dsimp only
          rw [Function.update_self, count, told.others other (free ▸ nofun)]
      | unlock count => cases holds
    · rw [shift.stackOf_other same]
      exact told.holder other ((shift.mutex_other told same).mp holds)
  · intro other foreign
    by_cases same : other = thread
    · subst same
      cases shift with
      | move count =>
          dsimp only [MutexStacks.move] at foreign ⊢
          rw [Function.update_self, count]
          exact told.others other foreign
      | lock count locked =>
          obtain ⟨free, rfl⟩ := lock_eq locked
          exact absurd rfl foreign
      | unlock count =>
          have before := told.holder other (told.holds (by omega))
          dsimp only [MutexStacks.unlock]
          rw [Function.update_self]
          omega
    · rw [shift.stackOf_other same]
      exact told.others other fun holds => foreign ((shift.mutex_other told same).mpr holds)

omit [DecidableEq Thread] in
/-- A thread does not hold the mutex when its innermost call has not locked it. -/
theorem Innermost.not_holder (innermost : state.Innermost locks) (told : state.Told locks)
    (outside : ∀ call ∈ (state.stackOf thread).head?, locks call = false) :
    state.mutex ≠ some thread := by
  intro holds
  have count := told.holder thread holds
  cases is : state.stackOf thread with
  | nil =>
      rw [is] at count
      cases count
  | cons call rest =>
      have locked := innermost thread call rest is holds
      rw [is] at outside
      rw [outside call rfl] at locked
      cases locked

/-- The steps after which a thread that holds the mutex is still inside of a call that has locked
it. -/
inductive Advance (locks : Call → Bool) (thread : Thread) (state : MutexStacks Thread Call) :
    MutexStacks Thread Call → Prop where
  | held {stack : List Call} :
      stack.countP locks = (state.stackOf thread).countP locks →
      (∀ call ∈ stack.head?, locks call = true) →
      Advance locks thread state (state.move thread stack)
  | free {stack : List Call} :
      stack.countP locks = (state.stackOf thread).countP locks →
      (∀ call ∈ (state.stackOf thread).head?, locks call = false) →
      Advance locks thread state (state.move thread stack)
  | lock {stack : List Call} {next : MutexStacks Thread Call} :
      stack.countP locks = (state.stackOf thread).countP locks + 1 →
      (∀ call ∈ stack.head?, locks call = true) →
      state.lock thread stack = some next → Advance locks thread state next
  | unlock {stack : List Call} :
      stack.countP locks + 1 = (state.stackOf thread).countP locks →
      Advance locks thread state (state.unlock thread stack)

theorem Advance.shift (advance : Advance locks thread state next) :
    Shift locks thread state next := by
  cases advance with
  | held same inner => exact .move same
  | free same inner => exact .move same
  | lock more inner locked => exact .lock more locked
  | unlock fewer => exact .unlock fewer

section

variable {call call' : Call} {rest : List Call}

/-- A call goes on, and has locked the mutex. -/
theorem advance_held (is : state.stackOf thread = call :: rest) (before : locks call = true)
    (after : locks call' = true) :
    Advance locks thread state (state.move thread (call' :: rest)) := by
  apply Advance.held
  · rw [is, List.countP_cons_of_pos before, List.countP_cons_of_pos after]
  · rintro _ ⟨⟩
    exact after

/-- A call that has not locked the mutex is left, or goes on. -/
theorem advance_free (is : state.stackOf thread = call :: rest) (before : locks call = false)
    (after : stack.countP locks = rest.countP locks) :
    Advance locks thread state (state.move thread stack) := by
  apply Advance.free
  · rw [is, List.countP_cons_of_neg (Bool.eq_false_iff.mp before), after]
  · rw [is]
    rintro _ ⟨⟩
    exact before

/-- Another call is entered. -/
theorem advance_enter (outside : ∀ caller ∈ (state.stackOf thread).head?, locks caller = false)
    (entered : locks call = false) :
    Advance locks thread state (state.move thread (call :: state.stackOf thread)) :=
  .free (List.countP_cons_of_neg (Bool.eq_false_iff.mp entered)) outside

/-- A call locks the mutex. -/
theorem advance_lock (is : state.stackOf thread = call :: rest) (before : locks call = false)
    (after : locks call' = true) (locked : state.lock thread (call' :: rest) = some next) :
    Advance locks thread state next := by
  refine .lock ?_ ?_ locked
  · rw [is, List.countP_cons_of_pos after, List.countP_cons_of_neg (Bool.eq_false_iff.mp before)]
  · rintro _ ⟨⟩
    exact after

/-- A call unlocks the mutex. -/
theorem advance_unlock (is : state.stackOf thread = call :: rest) (before : locks call = true)
    (after : stack.countP locks = rest.countP locks) :
    Advance locks thread state (state.unlock thread stack) := by
  apply Advance.unlock
  rw [is, List.countP_cons_of_pos before, after]

end

/-- The innermost call of a thread that holds the mutex has locked it after a step too. -/
theorem Innermost.advance (innermost : state.Innermost locks) (told : state.Told locks)
    (advance : Advance locks thread state next) : next.Innermost locks := by
  intro other call rest is holds
  by_cases same : other = thread
  · subst same
    cases advance with
    | held same inner =>
        dsimp only [MutexStacks.move] at is
        rw [Function.update_self] at is
        exact inner call (is ▸ rfl)
    | free same inner => exact absurd holds (innermost.not_holder told inner)
    | lock more inner locked =>
        obtain ⟨-, rfl⟩ := lock_eq locked
        dsimp only at is
        rw [Function.update_self] at is
        exact inner call (is ▸ rfl)
    | unlock fewer => cases holds
  · rw [advance.shift.stackOf_other same] at is
    exact innermost other call rest is ((advance.shift.mutex_other told same).mp holds)

end MutexStacks
