import Mathlib.Algebra.Order.Group.Int

/-! # Integer arithmetic that may overflow

The values of a machine type lie between two bounds. An operation is defined
when its exact result does too.
-/

namespace CheckedInt

/-- The integers between two bounds. -/
abbrev Within (lo hi : Int) := { value : Int // lo ≤ value ∧ value ≤ hi }

variable {lo hi : Int}

/-- An exact result, if it is in range. -/
def exactly (lo hi exact : Int) : Option (Within lo hi) :=
  if inRange : lo ≤ exact ∧ exact ≤ hi then some ⟨exact, inRange⟩ else none

def add (x y : Within lo hi) : Option (Within lo hi) := exactly lo hi (x.1 + y.1)

def sub (x y : Within lo hi) : Option (Within lo hi) := exactly lo hi (x.1 - y.1)

def neg (x : Within lo hi) : Option (Within lo hi) := exactly lo hi (-x.1)

def mul (x y : Within lo hi) : Option (Within lo hi) := exactly lo hi (x.1 * y.1)

/-- Division, which truncates towards zero. -/
def div (x y : Within lo hi) : Option (Within lo hi) :=
  if y.1 = 0 then none else exactly lo hi (x.1.tdiv y.1)

/-- The value in range that is nearest to an exact result. -/
def clamp (lo hi exact : Int) : Int := max lo (min hi exact)

theorem exactly_of_within {exact : Int} (inRange : lo ≤ exact ∧ exact ≤ hi) :
    exactly lo hi exact = some ⟨exact, inRange⟩ := dif_pos inRange

theorem exactly_of_eq {exact : Int} (result : Within lo hi) (same : result.1 = exact) :
    exactly lo hi exact = some result := by
  subst same
  exact exactly_of_within result.2

theorem exactly_eq_none {exact : Int} :
    exactly lo hi exact = none ↔ ¬ (lo ≤ exact ∧ exact ≤ hi) := by
  unfold exactly
  split
  · next inRange => simp only [reduceCtorEq, inRange, and_self, not_true_eq_false]
  · next outside => simp only [outside, not_false_eq_true]

/-- A quotient by a positive number is no larger than the dividend. -/
theorem div_of_pos {x y : Within lo hi} (lower : lo ≤ 0) (positive : 0 < y.1) :
    ∃ result, div x y = some result ∧ result.1 = x.1.tdiv y.1 := by
  have inRange : lo ≤ x.1.tdiv y.1 ∧ x.1.tdiv y.1 ≤ hi := by
    have shrinks := Int.natAbs_tdiv_le_natAbs x.1 y.1
    obtain nonneg | neg := le_total 0 x.1
    · have := Int.tdiv_nonneg nonneg positive.le
      have := x.2
      omega
    · have := Int.tdiv_nonneg (Int.neg_nonneg_of_nonpos neg) positive.le
      rw [Int.neg_tdiv] at this
      have := x.2
      omega
  refine ⟨⟨_, inRange⟩, ?_, rfl⟩
  rw [div, if_neg positive.ne', exactly_of_within inRange]

end CheckedInt
