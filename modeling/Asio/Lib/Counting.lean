import Asio.Lib.Loop
import Mathlib.Data.List.Pairwise

/-! # Counting up to an end that is not visited

Some of the places of a type stand for the numbers below a bound, and incrementing a place
goes to the next number, from the last one to zero. The loop that increments a place until it
is another one, `for (; place != last; ++place)`, visits the numbers in between when its
start is not behind its end.
-/

namespace Counting

variable {Place : Type*}

/-- One pass of the loop, with the places that have been visited. -/
def visit [BEq Place] (increment : Place → Place) (last : Place) (state : Place × List Place) :
    Loop.Pass (Place × List Place) (List Place) :=
  if state.1 == last then .leave state.2
  else .again (increment state.1, state.2 ++ [state.1])

/-- Places among which a number below the bound has one place at most, and the increment
goes to the place of the next number. -/
structure Cyclic (bound : Nat) (Among : Place → Prop) (value : Place → Nat)
    (increment : Place → Place) : Prop where
  value_lt : ∀ place, Among place → value place < bound
  injective : ∀ place other, Among place → Among other → value place = value other → place = other
  increment_among : ∀ place, Among place → Among (increment place)
  value_increment : ∀ place, Among place → value (increment place) = (value place + 1) % bound

/-- The places from one on and before another, in the order of their numbers. -/
structure Enumerates (Among : Place → Prop) (value : Place → Nat) (first last : Place)
    (visited : List Place) : Prop where
  mem_iff : ∀ place,
    place ∈ visited ↔ Among place ∧ value first ≤ value place ∧ value place < value last
  increasing : visited.Pairwise fun place other => value place < value other
  length_eq : value first + visited.length = value last

namespace Enumerates

variable {Among : Place → Prop} {value : Place → Nat} {first : Place}

theorem nil (Among : Place → Prop) (value : Place → Nat) (first : Place) :
    Enumerates Among value first first [] where
  mem_iff place := by
    constructor
    · intro inside
      cases inside
    · rintro ⟨-, from_first, before⟩
      omega
  increasing := .nil
  length_eq := rfl

/-- The next place to visit. -/
theorem concat {bound : Nat} {increment : Place → Place}
    (cyclic : Cyclic bound Among value increment) {place : Place} {visited : List Place}
    (enumerates : Enumerates Among value first place visited) (among : Among place)
    (fits : value place + 1 < bound) :
    Enumerates Among value first (increment place) (visited ++ [place]) := by
  have next : value (increment place) = value place + 1 := by
    rw [cyclic.value_increment _ among, Nat.mod_eq_of_lt fits]
  have started : value first ≤ value place := enumerates.length_eq ▸ Nat.le_add_right _ _
  constructor
  · intro other
    rw [List.mem_append, List.mem_singleton, enumerates.mem_iff, next]
    constructor
    · rintro (⟨own, from_first, before⟩ | rfl)
      · exact ⟨own, from_first, Nat.lt_succ_of_lt before⟩
      · exact ⟨among, started, Nat.lt_succ_self _⟩
    · rintro ⟨own, from_first, before⟩
      rcases Nat.lt_succ_iff_lt_or_eq.mp before with earlier | same
      · exact .inl ⟨own, from_first, earlier⟩
      · exact .inr (cyclic.injective _ _ own among same)
  · apply List.pairwise_append.mpr
    refine ⟨enumerates.increasing, List.pairwise_singleton _ _, ?_⟩
    intro earlier inside other is
    rw [List.mem_singleton.mp is]
    exact ((enumerates.mem_iff earlier).mp inside).2.2
  · rw [List.length_append, List.length_singleton, next, ← Nat.add_assoc, enumerates.length_eq]

end Enumerates

section Visits

variable [BEq Place] [LawfulBEq Place] {bound : Nat} {Among : Place → Prop}
  {value : Place → Nat} {increment : Place → Place}

/-- The head of the loop: a place that is not behind the end, and the places before it. -/
structure AtHead (Among : Place → Prop) (value : Place → Nat) (first last : Place)
    (state : Place × List Place) : Prop where
  among : Among state.1
  not_behind : value state.1 ≤ value last
  enumerates : Enumerates Among value first state.1 state.2

/-- A pass leaves at the end, and otherwise goes on to the next place. -/
theorem AtHead.proceeds (cyclic : Cyclic bound Among value increment) {first last : Place}
    (last_among : Among last) {state : Place × List Place}
    (atHead : AtHead Among value first last state) :
    (∃ visited, visit increment last state = .leave visited ∧
      Enumerates Among value first last visited) ∨
    ∃ next, visit increment last state = .again next ∧ AtHead Among value first last next ∧
      value last - value next.1 < value last - value state.1 := by
  obtain ⟨place, visited⟩ := state
  obtain ⟨among, not_behind, enumerates⟩ := atHead
  dsimp only at among not_behind enumerates ⊢
  by_cases same : place = last
  · subst same
    exact .inl ⟨visited, if_pos (beq_self_eq_true place), enumerates⟩
  · have less : value place < value last := by
      apply Nat.lt_of_le_of_ne not_behind
      exact fun equal => same (cyclic.injective _ _ among last_among equal)
    have fits : value place + 1 < bound := Nat.lt_of_le_of_lt less (cyclic.value_lt _ last_among)
    have next : value (increment place) = value place + 1 := by
      rw [cyclic.value_increment _ among, Nat.mod_eq_of_lt fits]
    refine .inr ⟨_, if_neg (by simpa using same), ⟨cyclic.increment_among _ among, ?_,
      enumerates.concat cyclic among fits⟩, ?_⟩
    · rw [next]
      exact less
    · rw [next]
      omega

/-- **Counting rule.** The loop leaves when its start is not behind its end, and has visited
the places in between. -/
theorem Cyclic.visits (cyclic : Cyclic bound Among value increment) {first last : Place}
    (first_among : Among first) (last_among : Among last) (le : value first ≤ value last) :
    ∃ visited, Loop.Returns (visit increment last) (first, []) visited ∧
      Enumerates Among value first last visited := by
  have evaluated : ∃ visited,
      Loop.evaluate (visit increment last) (value last - value first + 1) (first, []) =
        some visited ∧ Enumerates Among value first last visited := by
    apply Loop.evaluate_of_variant (AtHead Among value first last) _
      (fun state => value last - value state.1)
    · exact fun state atHead => atHead.proceeds cyclic last_among
    · exact Nat.lt_succ_self _
    · exact ⟨first_among, le, .nil Among value first⟩
  obtain ⟨visited, evaluated, enumerates⟩ := evaluated
  exact ⟨visited, .of_evaluate evaluated, enumerates⟩

end Visits

end Counting
