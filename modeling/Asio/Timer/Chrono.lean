import Asio.Timer.Deadline
import Mathlib.Algebra.Ring.Int.Defs

/-! # Chrono clocks

`chrono_time_traits`: times and durations are signed 64-bit tick counts, and no
time is positive infinity. Adding a duration saturates.
-/

namespace Asio.Timer

/-- A signed 64-bit tick count: a `time_point`, by its time since the epoch, or a
`duration`. -/
abbrev Ticks := { ticks : Int // -2 ^ 63 ≤ ticks ∧ ticks ≤ 2 ^ 63 - 1 }

namespace Ticks

/-- `(time_type::max)()`. -/
def max : Ticks := ⟨2 ^ 63 - 1, by decide⟩

/-- `(time_type::min)()`. -/
def min : Ticks := ⟨-2 ^ 63, by decide⟩

/-- The default-constructed time. -/
def epoch : Ticks := ⟨0, by decide⟩

/-- `chrono_time_traits::add`. -/
def add (t d : Ticks) : Ticks :=
  if nonneg : 0 ≤ t.1 then
    if late : max.1 - t.1 < d.1 then max
    else ⟨t.1 + d.1, by have := d.2; have := t.2; simp only [max] at late; omega⟩
  else
    if early : -(t.1 - min.1) > d.1 then min
    else ⟨t.1 + d.1, by have := d.2; have := t.2; simp only [min] at early; omega⟩

/-- **`add` saturates**: the sum is clamped to the range of a time. -/
theorem add_eq (t d : Ticks) : (add t d).1 = Max.max min.1 (Min.min max.1 (t.1 + d.1)) := by
  have tRange := t.2
  have dRange := d.2
  unfold add
  by_cases nonneg : 0 ≤ t.1
  · by_cases late : max.1 - t.1 < d.1
    · simp only [nonneg, late, ↓reduceDIte]
      simp only [max, min] at late ⊢
      omega
    · simp only [nonneg, late, ↓reduceDIte]
      simp only [max, min] at late ⊢
      omega
  · by_cases early : -(t.1 - min.1) > d.1
    · simp only [nonneg, early, ↓reduceDIte]
      simp only [max, min] at early ⊢
      omega
    · simp only [nonneg, early, ↓reduceDIte]
      simp only [max, min] at early ⊢
      omega

end Ticks

/-- The generic `is_positive_infinity`, which no time of a chrono clock passes. -/
instance : TimeTraits Ticks where
  toLinearOrder := inferInstance
  isPositiveInfinity _ := false

instance : ServiceTraits Ticks Ticks where
  epoch := Ticks.epoch
  add := Ticks.add
  epoch_finite := rfl
  finite_lt_infinite _ _ _ infinite := by simp [TimeTraits.isPositiveInfinity] at infinite

end Asio.Timer
