import Mathlib.Data.List.Basic

/-! # Machines with a computed step

A machine has a set of initial states and a partial step function: in a state an
action is either disabled or leads to exactly one next state, so that every
choice of the environment is part of the action. Runs are lists of actions. An
invariant is proved once per action and then holds of every reachable state; a
property that needs the environment to respect a condition on its steps is
proved for the states reachable under that condition.
-/

namespace Transition

/-- A machine: its initial states and its partial step function. -/
structure Machine (State Action : Type*) where
  initial : State → Prop
  step : State → Action → Option State

namespace Machine

variable {State Action : Type*} (machine : Machine State Action)

/-- The state after a list of actions, when every action is enabled in turn. -/
def run (state : State) : List Action → Option State
  | [] => some state
  | action :: actions => (machine.step state action).bind fun next => run next actions

/-- The states reached from an initial one by steps that are all `allowed`. -/
inductive ReachableWhen (allowed : State → Action → Prop) : State → Prop where
  | initial {state : State} : machine.initial state → ReachableWhen allowed state
  | step {state next : State} {action : Action} :
      ReachableWhen allowed state → allowed state action →
      machine.step state action = some next → ReachableWhen allowed next

/-- The states reached from an initial one by any steps. -/
def Reachable (state : State) : Prop := machine.ReachableWhen (fun _ _ => True) state

variable {machine}

/-- **Invariant rule.** What holds initially and is kept by every allowed step
from a reachable state holds of every state reached by allowed steps. -/
theorem ReachableWhen.invariant {allowed : State → Action → Prop} {property : State → Prop}
    {state : State} (reachable : machine.ReachableWhen allowed state)
    (initially : ∀ state, machine.initial state → property state)
    (preserved : ∀ state action next, machine.ReachableWhen allowed state → property state →
      allowed state action → machine.step state action = some next → property next) :
    property state := by
  induction reachable with
  | initial start => exact initially _ start
  | step reached permitted stepped ih => exact preserved _ _ _ reached ih permitted stepped

/-- Every action of a list is allowed where it is taken. -/
def Permitted (machine : Machine State Action) (allowed : State → Action → Prop) :
    State → List Action → Prop
  | _, [] => True
  | state, action :: actions => allowed state action ∧
      match machine.step state action with
      | some next => machine.Permitted allowed next actions
      | none => True

instance Permitted.decidable {allowed : State → Action → Prop}
    [∀ state action, Decidable (allowed state action)] :
    ∀ (state : State) (actions : List Action), Decidable (machine.Permitted allowed state actions)
  | _, [] => isTrue trivial
  | state, action :: actions =>
      let rest : Decidable (match machine.step state action with
          | some next => machine.Permitted allowed next actions
          | none => True) :=
        match machine.step state action with
        | some next => Permitted.decidable next actions
        | none => isTrue trivial
      @instDecidableAnd _ _ _ rest

/-- A property holds before the actions and after every one of them. -/
def Always (machine : Machine State Action) (property : State → Prop) :
    State → List Action → Prop
  | state, [] => property state
  | state, action :: actions => property state ∧
      match machine.step state action with
      | some next => machine.Always property next actions
      | none => True

/-- **Exact condition rule.** A property that, under an invariant, survives a step
exactly when the step is allowed holds along a run exactly when every step is.
The invariant need only be kept while the property holds. -/
theorem always_iff_permitted {allowed : State → Action → Prop} {property invariant : State → Prop}
    (kept : ∀ state action next, invariant state → property state →
      machine.step state action = some next → invariant next)
    (survives : ∀ state action next, invariant state → property state →
      machine.step state action = some next → (property next ↔ allowed state action))
    (actions : List Action) {state final : State} (ran : machine.run state actions = some final)
    (holds : invariant state) (initially : property state) :
    machine.Always property state actions ↔ machine.Permitted allowed state actions := by
  induction actions generalizing state with
  | nil => exact iff_of_true initially trivial
  | cons action actions ih =>
      obtain ⟨next, stepped, rest⟩ := Option.bind_eq_some_iff.mp ran
      simp only [Always, Permitted, stepped]
      have exact := survives _ _ _ holds initially stepped
      constructor
      · rintro ⟨-, always⟩
        have now : property next := by
          cases actions with
          | nil => exact always
          | cons _ _ => exact always.1
        exact ⟨exact.mp now, (ih rest (kept _ _ _ holds initially stepped) now).mp always⟩
      · rintro ⟨permitted, others⟩
        have now := exact.mpr permitted
        exact ⟨initially, (ih rest (kept _ _ _ holds initially stepped) now).mpr others⟩

/-- What holds all along a run holds at its end. -/
theorem Always.last {property : State → Prop} {actions : List Action} {state final : State}
    (always : machine.Always property state actions) (ran : machine.run state actions = some final) :
    property final := by
  induction actions generalizing state with
  | nil =>
      cases ran
      exact always
  | cons action actions ih =>
      obtain ⟨next, stepped, rest⟩ := Option.bind_eq_some_iff.mp ran
      simp only [Always, stepped] at always
      exact ih always.2 rest

/-- A property of the steps that an invariant gives, from a condition that keeps it. -/
theorem Permitted.of_invariant {allowed permitted : State → Action → Prop}
    {invariant : State → Prop}
    (kept : ∀ state action next, invariant state → allowed state action →
      machine.step state action = some next → invariant next)
    (gives : ∀ state action, invariant state → allowed state action → permitted state action)
    {actions : List Action} {state : State} (holds : invariant state)
    (all : machine.Permitted allowed state actions) :
    machine.Permitted permitted state actions := by
  induction actions generalizing state with
  | nil => exact trivial
  | cons action actions ih =>
      refine ⟨gives _ _ holds all.1, ?_⟩
      have rest := all.2
      cases stepped : machine.step state action with
      | none => exact trivial
      | some next =>
          rw [stepped] at rest
          exact ih (kept _ _ _ holds all.1 stepped) rest

/-- A run of allowed actions ends in a state reached under the condition. -/
theorem ReachableWhen.run {allowed : State → Action → Prop} {state next : State}
    (reached : machine.ReachableWhen allowed state) (actions : List Action)
    (ran : machine.run state actions = some next)
    (permitted : machine.Permitted allowed state actions) : machine.ReachableWhen allowed next := by
  induction actions generalizing state with
  | nil =>
      simp only [Machine.run, Option.some.injEq] at ran
      exact ran ▸ reached
  | cons action actions ih =>
      obtain ⟨middle, stepped, rest⟩ := Option.bind_eq_some_iff.mp ran
      simp only [Permitted, stepped] at permitted
      exact ih (.step reached permitted.1 stepped) rest permitted.2

/-- A test that the state after a run passes. -/
theorem exists_of_run {state : State} {actions : List Action} {test : State → Bool}
    (passes : (machine.run state actions).any test = true) :
    ∃ next, machine.run state actions = some next ∧ test next = true := by
  rw [Option.any_eq_true] at passes
  exact passes

/-- A condition that the actions meet in every state. -/
theorem Permitted.of_forall {allowed : State → Action → Prop} {actions : List Action}
    (permitted : ∀ action ∈ actions, ∀ state, allowed state action) (state : State) :
    machine.Permitted allowed state actions := by
  induction actions generalizing state with
  | nil => exact trivial
  | cons action actions ih =>
      refine ⟨permitted action List.mem_cons_self state, ?_⟩
      split
      · exact ih (fun other member => permitted other (List.mem_cons_of_mem _ member)) _
      · exact trivial

/-- Weakening the condition on the steps keeps a state reachable. -/
theorem ReachableWhen.mono {allowed permitted : State → Action → Prop} {state : State}
    (reachable : machine.ReachableWhen allowed state)
    (weaker : ∀ state action, allowed state action → permitted state action) :
    machine.ReachableWhen permitted state := by
  induction reachable with
  | initial start => exact .initial start
  | step _ satisfied stepped ih => exact .step ih (weaker _ _ satisfied) stepped

/-- A state reached under a condition on the steps is reachable. -/
theorem ReachableWhen.reachable {allowed : State → Action → Prop} {state : State}
    (reached : machine.ReachableWhen allowed state) : machine.Reachable state :=
  reached.mono fun _ _ _ => trivial

/-- A run from a reachable state ends in a reachable state. -/
theorem Reachable.run {state next : State} (reached : machine.Reachable state)
    (actions : List Action) (ran : machine.run state actions = some next) :
    machine.Reachable next := by
  exact ReachableWhen.run reached actions ran (.of_forall (fun _ _ _ => trivial) state)

end Machine

end Transition
