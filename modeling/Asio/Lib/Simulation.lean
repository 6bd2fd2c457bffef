import Asio.Lib.Transition

/-! # Simulation of one machine by another

A step of a concrete machine is seen as some steps of an abstract one, none perhaps, which depend on
the state. If related states stay related, every run of the concrete machine is seen as a run of the
abstract one.
-/

namespace Transition.Machine

variable {State Action Abstract Visible : Type*}

/-- What is seen of a run. -/
def seen (machine : Machine State Action) (view : State → Action → List Visible) :
    State → List Action → List Visible
  | _, [] => []
  | state, action :: actions =>
      match machine.step state action with
      | some next => view state action ++ machine.seen view next actions
      | none => []

/-- Related states stay related, when the abstract machine does what is seen. -/
structure Simulates (concrete : Machine State Action) (abstract : Machine Abstract Visible)
    (view : State → Action → List Visible) (related : State → Abstract → Prop) : Prop where
  initial : ∀ state, concrete.initial state → ∃ spec, abstract.initial spec ∧ related state spec
  step : ∀ state spec action next, related state spec → concrete.step state action = some next →
    ∃ after, abstract.run spec (view state action) = some after ∧ related next after

variable {machine : Machine State Action}

theorem run_append {state middle : State} {first : List Action} (second : List Action)
    (ran : machine.run state first = some middle) :
    machine.run state (first ++ second) = machine.run middle second := by
  induction first generalizing state with
  | nil =>
      cases ran
      rfl
  | cons action actions ih =>
      obtain ⟨next, stepped, rest⟩ := Option.bind_eq_some_iff.mp ran
      rw [List.cons_append, Machine.run, stepped]
      exact ih rest

variable {abstract : Machine Abstract Visible} {view : State → Action → List Visible}
  {related : State → Abstract → Prop}

/-- **Simulation rule.** The abstract machine runs along. -/
theorem Simulates.run (simulates : machine.Simulates abstract view related) {state final : State}
    {spec : Abstract} (now : related state spec) {actions : List Action}
    (ran : machine.run state actions = some final) :
    ∃ after, abstract.run spec (machine.seen view state actions) = some after ∧
      related final after := by
  induction actions generalizing state spec with
  | nil =>
      cases ran
      exact ⟨spec, rfl, now⟩
  | cons action actions ih =>
      obtain ⟨next, stepped, rest⟩ := Option.bind_eq_some_iff.mp ran
      obtain ⟨middle, begins, then_⟩ := simulates.step state spec action next now stepped
      obtain ⟨after, continues, last⟩ := ih then_ rest
      refine ⟨after, ?_, last⟩
      rw [seen, stepped]
      exact (run_append _ begins).trans continues

end Transition.Machine
