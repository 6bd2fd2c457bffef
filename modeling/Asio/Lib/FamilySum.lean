import Mathlib.Algebra.BigOperators.Group.Finset.Basic
import Mathlib.Algebra.BigOperators.Group.Finset.Piecewise
import Mathlib.Data.Fintype.BigOperators

/-! # Sums over a family of components

A system of finitely many components is often described by a quantity summed
over all of them. When one component changes, the sum changes by as much as its
own summand does.
-/

namespace FamilySum

variable {Index Component M : Type*} [Fintype Index] [DecidableEq Index]

/-- Replacing one component exchanges its summand for the new one. -/
theorem sum_update_add [AddCommMonoid M] (weight : Component → M) (family : Index → Component)
    (index : Index) (component : Component) :
    ∑ i, weight (Function.update family index component i) + weight (family index) =
      ∑ i, weight (family i) + weight component := by
  have unchanged : ∑ i ∈ Finset.univ.erase index, weight (Function.update family index component i) =
      ∑ i ∈ Finset.univ.erase index, weight (family i) := by
    apply Finset.sum_congr rfl
    intro i member
    rw [Function.update_of_ne (Finset.ne_of_mem_erase member)]
  rw [← Finset.sum_erase_add Finset.univ _ (Finset.mem_univ index), unchanged,
    Function.update_self, ← Finset.sum_erase_add Finset.univ (fun i => weight (family i))
      (Finset.mem_univ index)]
  exact add_right_comm _ _ _

/-- Replacing one component replaces its summand. -/
theorem sum_update [AddCommGroup M] (weight : Component → M) (family : Index → Component)
    (index : Index) (component : Component) :
    ∑ i, weight (Function.update family index component i) =
      ∑ i, weight (family i) - weight (family index) + weight component := by
  rw [eq_sub_of_add_eq (sum_update_add weight family index component)]
  exact add_sub_right_comm _ _ _

end FamilySum
