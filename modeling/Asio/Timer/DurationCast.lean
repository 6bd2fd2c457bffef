import Asio.Timer.Saturation

/-! # Durations of a clock in milliseconds and microseconds

`posix_time_duration` converts a tick count of a clock with any period. The
ratio is reduced when the program is compiled; the conversion multiplies the
tick count by its numerator and divides by its denominator, and leaves out what
has no effect. The product overflows when the clock is coarser than the unit and
the duration long, as the ones are that `subtract` saturates.
-/

namespace Asio.Timer

open CheckedInt

/-- `detail::gcd`. -/
def gcd : Nat → Nat → Nat
  | v1, 0 => v1
  | v1, v2 + 1 => gcd (v2 + 1) (v1 % (v2 + 1))
termination_by _ v2 => v2
decreasing_by exact Nat.mod_lt _ (Nat.succ_pos _)

theorem gcd_eq (v1 v2 : Nat) : gcd v1 v2 = Nat.gcd v1 v2 := by
  induction v1, v2 using gcd.induct with
  | case1 v1 => rw [gcd, Nat.gcd_zero_right]
  | case2 v1 v2 ih => rw [gcd, ih, Nat.gcd_comm, ← Nat.gcd_rec, Nat.gcd_comm]

/-- The period of a clock, a reduced fraction of a second; the microseconds of a
second times either part are a 64-bit number. -/
structure Period where
  num : Nat
  den : Nat
  num_pos : 0 < num
  den_pos : 0 < den
  coprime : Nat.Coprime num den
  num_fits : num * 1000000 ≤ 2 ^ 63 - 1
  den_fits : den * 1000000 ≤ 2 ^ 63 - 1

def WaitUnit.perSecond : WaitUnit → Nat
  | .msec => 1000
  | .usec => 1000000

namespace Period

/-- `posix_time_duration::duration_cast<Num, Den>`, none when a product
overflows. -/
def durationCast (period : Period) (toNum toDen : Nat) (ticks : Ticks) : Option Ticks := do
  let num1 := period.num / gcd period.num toNum
  let num2 := toNum / gcd period.num toNum
  let den1 := period.den / gcd period.den toDen
  let den2 := toDen / gcd period.den toDen
  let num : Ticks ← exactly _ _ (num1 * den2)
  let den : Ticks ← exactly _ _ (num2 * den1)
  if num.1 = 1 ∧ den.1 = 1 then some ticks
  else if num.1 ≠ 1 ∧ den.1 = 1 then CheckedInt.mul ticks num
  else if num.1 = 1 ∧ period.den ≠ 1 then CheckedInt.div ticks den
  else do
    let product ← CheckedInt.mul ticks num
    CheckedInt.div product den

def totalMilliseconds (period : Period) (ticks : Ticks) : Option Ticks :=
  period.durationCast 1 1000 ticks

def totalMicroseconds (period : Period) (ticks : Ticks) : Option Ticks :=
  period.durationCast 1 1000000 ticks

/-- `total_milliseconds` and `total_microseconds`. -/
def total (period : Period) : WaitUnit → Ticks → Option Ticks
  | .msec => period.totalMilliseconds
  | .usec => period.totalMicroseconds

/-- `to_msec` and `to_usec` of a duration, none when the conversion overflows. -/
def wait (period : Period) (unit : WaitUnit) (d : Ticks) (maxDuration : Int) : Option Int :=
  if d.1 ≤ 0 then some 0
  else do
    let units ← period.total unit d
    match unit with
    | .msec => some (toMsec d.1 units.1 maxDuration)
    | .usec => some (toUsec d.1 units.1 maxDuration)

/-- The tick count in a unit, truncated towards zero. -/
def truncated (period : Period) (unit : WaitUnit) (d : Ticks) : Int :=
  (d.1 * (period.num * unit.perSecond)).tdiv period.den

/-- What a conversion is for: nothing overflows, it is exact but for truncation,
and the wait is the duration within its bounds. -/
structure Converts (period : Period) (unit : WaitUnit) (d : Ticks) : Prop where
  total : ∃ total, period.total unit d = some total ∧ total.1 = period.truncated unit d
  due : d.1 ≤ 0 → ∀ maxDuration > 0, period.wait unit d maxDuration = some 0
  wait : 0 < d.1 → ∀ maxDuration > 0, ∃ wait, period.wait unit d maxDuration = some wait ∧
    1 ≤ wait ∧ wait ≤ maxDuration ∧
    wait = min maxDuration (max 1 (period.truncated unit d))

/-- The numerator of the reduced ratio of a tick to a unit. -/
def multiplier (period : Period) (unit : WaitUnit) : Nat :=
  period.num * (unit.perSecond / Nat.gcd period.den unit.perSecond)

/-- The denominator of the reduced ratio of a tick to a unit. -/
def divisor (period : Period) (unit : WaitUnit) : Nat :=
  period.den / Nat.gcd period.den unit.perSecond

variable {period : Period} {unit : WaitUnit} {d : Ticks}

theorem WaitUnit.perSecond_le (unit : WaitUnit) : unit.perSecond ≤ 1000000 := by
  cases unit <;> decide

theorem gcd_pos (period : Period) (unit : WaitUnit) : 0 < Nat.gcd period.den unit.perSecond :=
  Nat.gcd_pos_of_pos_left _ period.den_pos

theorem divisor_pos (period : Period) (unit : WaitUnit) : 0 < period.divisor unit :=
  Nat.div_pos (Nat.le_of_dvd period.den_pos (Nat.gcd_dvd_left _ _)) (period.gcd_pos unit)

theorem multiplier_le (period : Period) (unit : WaitUnit) :
    period.multiplier unit ≤ 2 ^ 63 - 1 :=
  calc period.num * (unit.perSecond / Nat.gcd period.den unit.perSecond)
      ≤ period.num * 1000000 := Nat.mul_le_mul_left _
        ((Nat.div_le_self _ _).trans (WaitUnit.perSecond_le unit))
    _ ≤ 2 ^ 63 - 1 := period.num_fits

theorem divisor_le (period : Period) (unit : WaitUnit) : period.divisor unit ≤ 2 ^ 63 - 1 :=
  calc period.den / Nat.gcd period.den unit.perSecond
      ≤ period.den := Nat.div_le_self _ _
    _ ≤ period.den * 1000000 := Nat.le_mul_of_pos_right _ (by decide)
    _ ≤ 2 ^ 63 - 1 := period.den_fits

/-- The reduced ratio is the ratio. -/
theorem truncated_eq (period : Period) (unit : WaitUnit) (d : Ticks) :
    period.truncated unit d = (d.1 * period.multiplier unit).tdiv (period.divisor unit) := by
  have den : (period.den : Int) =
      Nat.gcd period.den unit.perSecond * period.divisor unit := by
    rw [divisor, ← Int.natCast_mul, Nat.mul_div_cancel' (Nat.gcd_dvd_left _ _)]
  have num : d.1 * (period.num * unit.perSecond) =
      Nat.gcd period.den unit.perSecond * (d.1 * period.multiplier unit) := by
    have whole := Nat.mul_div_cancel' (Nat.gcd_dvd_right period.den unit.perSecond)
    rw [multiplier]
    nth_rewrite 1 [← whole]
    push_cast
    rw [mul_left_comm (period.num : Int), mul_left_comm d.1]
  rw [truncated, num, den, Int.mul_tdiv_mul_of_pos _ _ (by exact_mod_cast period.gcd_pos unit)]

/-- The conversion multiplies and divides by the parts of the reduced ratio that
are not one. -/
theorem total_eq (period : Period) (unit : WaitUnit) (d : Ticks) :
    ∃ num den : Ticks, num.1 = period.multiplier unit ∧ den.1 = period.divisor unit ∧
      period.total unit d =
        if num.1 = 1 ∧ den.1 = 1 then some d
        else if num.1 ≠ 1 ∧ den.1 = 1 then CheckedInt.mul d num
        else if num.1 = 1 ∧ period.den ≠ 1 then CheckedInt.div d den
        else (CheckedInt.mul d num).bind fun product => CheckedInt.div product den := by
  have numRange := period.multiplier_le unit
  have denRange := period.divisor_le unit
  refine ⟨⟨period.multiplier unit, by omega⟩, ⟨period.divisor unit, by omega⟩, rfl, rfl, ?_⟩
  have cast : period.total unit d = period.durationCast 1 unit.perSecond d := by
    cases unit <;> rfl
  have num : (exactly _ _ ((period.num / gcd period.num 1 : Nat) *
      (unit.perSecond / gcd period.den unit.perSecond : Nat)) : Option Ticks) =
        some ⟨period.multiplier unit, by omega⟩ := by
    refine exactly_of_eq _ ?_
    change ((period.multiplier unit : Nat) : Int) = _
    rw [gcd_eq, gcd_eq, Nat.gcd_one_right, Nat.div_one, multiplier, Int.natCast_mul]
  have den : (exactly _ _ ((1 / gcd period.num 1 : Nat) *
      (period.den / gcd period.den unit.perSecond : Nat)) : Option Ticks) =
        some ⟨period.divisor unit, by omega⟩ := by
    refine exactly_of_eq _ ?_
    change ((period.divisor unit : Nat) : Int) = _
    rw [gcd_eq, gcd_eq, Nat.gcd_one_right, Nat.div_one, divisor, Nat.cast_one, one_mul]
  rw [cast, durationCast]
  simp only [num, den, Option.bind_eq_bind, Option.bind_some]

/-- While the product is in range, the conversion is exact but for truncation. -/
theorem total_of_fits (fits : -2 ^ 63 ≤ d.1 * period.multiplier unit ∧
    d.1 * period.multiplier unit ≤ 2 ^ 63 - 1) :
    ∃ total, period.total unit d = some total ∧ total.1 = period.truncated unit d := by
  obtain ⟨num, den, numEq, denEq, converted⟩ := period.total_eq unit d
  have positive : 0 < den.1 := by
    rw [denEq]
    exact_mod_cast period.divisor_pos unit
  have product : CheckedInt.mul d num = some ⟨d.1 * num.1, numEq ▸ fits⟩ := exactly_of_within _
  rw [converted, truncated_eq, ← numEq, ← denEq]
  by_cases unscaled : num.1 = 1
  · by_cases whole : den.1 = 1
    · refine ⟨d, if_pos ⟨unscaled, whole⟩, ?_⟩
      rw [unscaled, whole, Int.mul_one, Int.tdiv_one]
    · have fraction : period.den ≠ 1 := by
        intro one
        rw [denEq, divisor, one] at whole
        simp at whole
      obtain ⟨quotient, divided, same⟩ := div_of_pos (x := d) (by decide) positive
      refine ⟨quotient, ?_, by rw [same, unscaled, Int.mul_one]⟩
      rw [if_neg (whole ·.2), if_neg (fun both => both.1 unscaled), if_pos ⟨unscaled, fraction⟩,
        divided]
  · by_cases whole : den.1 = 1
    · refine ⟨⟨d.1 * num.1, numEq ▸ fits⟩, ?_, by rw [whole, Int.tdiv_one]⟩
      rw [if_neg (unscaled ·.1), if_pos ⟨unscaled, whole⟩, product]
    · obtain ⟨quotient, divided, same⟩ :=
        div_of_pos (x := ⟨d.1 * num.1, numEq ▸ fits⟩) (by decide) positive
      refine ⟨quotient, ?_, same⟩
      rw [if_neg (unscaled ·.1), if_neg (whole ·.2), if_neg (unscaled ·.1), product,
        Option.bind_some, divided]

/-- When the product is out of range, it overflows. -/
theorem total_of_not_fits (overflows : ¬ (-2 ^ 63 ≤ d.1 * period.multiplier unit ∧
    d.1 * period.multiplier unit ≤ 2 ^ 63 - 1)) : period.total unit d = none := by
  obtain ⟨num, den, numEq, -, converted⟩ := period.total_eq unit d
  have product : CheckedInt.mul d num = none := exactly_eq_none.mpr (numEq ▸ overflows)
  have scaled : num.1 ≠ 1 := by
    intro one
    rw [← numEq, one, Int.mul_one] at overflows
    exact overflows d.2
  rw [converted, if_neg (scaled ·.1)]
  split
  · exact product
  · rw [if_neg (scaled ·.1), product, Option.bind_none]

/-- **The conversion of a wait** is what it is for exactly when the tick count
times the numerator of the reduced ratio is a signed 64-bit number. -/
theorem converts_iff (period : Period) (unit : WaitUnit) (d : Ticks) :
    period.Converts unit d ↔ -2 ^ 63 ≤ d.1 * period.multiplier unit ∧
      d.1 * period.multiplier unit ≤ 2 ^ 63 - 1 := by
  constructor
  · intro converts
    by_contra overflows
    obtain ⟨total, converted, -⟩ := converts.total
    rw [total_of_not_fits overflows] at converted
    contradiction
  · intro fits
    obtain ⟨total, converted, exactTotal⟩ := total_of_fits fits
    refine ⟨⟨total, converted, exactTotal⟩, fun due _ _ => if_pos due, ?_⟩
    intro future maxDuration positive
    have nonneg : 0 ≤ total.1 := by
      rw [exactTotal]
      exact Int.tdiv_nonneg (Int.mul_nonneg future.le
        (Int.mul_nonneg (Int.natCast_nonneg _) (Int.natCast_nonneg _))) (Int.natCast_nonneg _)
    have waits : period.wait unit d maxDuration =
        some (toUsec d.1 total.1 maxDuration) := by
      rw [wait, if_neg future.not_ge, converted]
      cases unit <;> rfl
    refine ⟨_, waits, ?_⟩
    rw [toUsec, if_neg future.not_ge, ← exactTotal]
    split_ifs <;> omega

/-- A clock of seconds, for which the largest duration overflows. -/
def seconds : Period := ⟨1, 1, by decide, by decide, by decide, by decide, by decide⟩

theorem not_converts_seconds :
    ¬ ∀ (period : Period) (unit : WaitUnit) (d : Ticks), period.Converts unit d := by
  intro claim
  obtain ⟨total, converted, -⟩ := (claim seconds .usec Ticks.max).total
  rw [total_of_not_fits (by decide)] at converted
  contradiction

end Period

end Asio.Timer
