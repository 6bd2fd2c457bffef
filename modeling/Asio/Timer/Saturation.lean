import Asio.Lib.CheckedInt
import Asio.Timer.WaitDuration

/-! # Saturating times without overflow

`chrono_time_traits::add` and `subtract` as the machine executes them: every
addition, subtraction and negation is a signed 64-bit one, which is not defined
when it overflows. None of them does, and the results are the exact ones clamped
to the range of the tick count.
-/

namespace Asio.Timer.Ticks

open CheckedInt

/-- `chrono_time_traits::add`, none when an operation on the way overflows. -/
def addChecked (t d : Ticks) : Option Ticks :=
  if epoch.1 ≤ t.1 then do
    let room ← CheckedInt.sub max t
    if room.1 < d.1 then some max
    else CheckedInt.add t d
  else do
    let above ← CheckedInt.sub t min
    let room ← CheckedInt.neg above
    if room.1 > d.1 then some min
    else CheckedInt.add t d

/-- `chrono_time_traits::subtract`, none when an operation on the way overflows. -/
def subtractChecked (t1 t2 : Ticks) : Option Ticks :=
  if epoch.1 ≤ t1.1 then
    if epoch.1 ≤ t2.1 then CheckedInt.sub t1 t2
    else if t2.1 = min.1 then some max
    else do
      let room ← CheckedInt.sub max t1
      let added ← CheckedInt.sub epoch t2
      if room.1 < added.1 then some max
      else CheckedInt.sub t1 t2
  else
    if t2.1 < epoch.1 then CheckedInt.sub t1 t2
    else if t1.1 = min.1 then some min
    else do
      let room ← CheckedInt.sub max t2
      let added ← CheckedInt.sub epoch t1
      if room.1 < added.1 then some min
      else do
        let difference ← CheckedInt.sub t2 t1
        CheckedInt.neg difference

/-- Nothing overflows in `add`. -/
theorem addChecked_eq (t d : Ticks) : addChecked t d = some (add t d) := by
  have tRange := t.2
  have dRange := d.2
  unfold addChecked add
  by_cases nonneg : epoch.1 ≤ t.1
  · have room : CheckedInt.sub max t = some ⟨max.1 - t.1, by
        simp only [epoch, max] at nonneg ⊢; omega⟩ := exactly_of_within _
    simp only [nonneg, ↓reduceIte, room, Option.bind_eq_bind, Option.bind_some]
    simp only [show (0 : Int) ≤ t.1 from nonneg, ↓reduceDIte]
    split
    · rfl
    · exact exactly_of_within _
  · have above : CheckedInt.sub t min = some ⟨t.1 - min.1, by
        simp only [epoch, min] at nonneg ⊢; omega⟩ := exactly_of_within _
    have room : CheckedInt.neg (⟨t.1 - min.1, by
        simp only [epoch, min] at nonneg ⊢; omega⟩ : Ticks) = some ⟨-(t.1 - min.1), by
        simp only [epoch, min] at nonneg ⊢; omega⟩ := exactly_of_within _
    have negative : ¬ (0 : Int) ≤ t.1 := nonneg
    simp only [nonneg, ↓reduceIte, above, room, Option.bind_eq_bind, Option.bind_some]
    simp only [negative, ↓reduceDIte]
    split
    · rfl
    · exact exactly_of_within _

/-- Nothing overflows in `subtract`. -/
theorem subtractChecked_eq (t1 t2 : Ticks) : subtractChecked t1 t2 = some (subtract t1 t2) := by
  have range1 := t1.2
  have range2 := t2.2
  unfold subtractChecked subtract
  by_cases nonneg : epoch.1 ≤ t1.1
  · simp only [nonneg, ↓reduceIte, ↓reduceDIte]
    split
    · exact exactly_of_within _
    · next negative =>
      split
      · rfl
      · next above =>
        have room : CheckedInt.sub max t1 = some ⟨max.1 - t1.1, by
          simp only [epoch, max] at nonneg ⊢; omega⟩ := exactly_of_within _
        have added : CheckedInt.sub epoch t2 = some ⟨epoch.1 - t2.1, by
          simp only [epoch, min] at negative above ⊢; omega⟩ := exactly_of_within _
        simp only [room, added, Option.bind_eq_bind, Option.bind_some]
        split
        · rfl
        · exact exactly_of_within _
  · simp only [nonneg, ↓reduceIte, ↓reduceDIte]
    split
    · exact exactly_of_within _
    · next other =>
      split
      · rfl
      · next above =>
        have room : CheckedInt.sub max t2 = some ⟨max.1 - t2.1, by
          simp only [epoch, max] at other ⊢; omega⟩ := exactly_of_within _
        have added : CheckedInt.sub epoch t1 = some ⟨epoch.1 - t1.1, by
          simp only [epoch, min] at nonneg above ⊢; omega⟩ := exactly_of_within _
        simp only [room, added, Option.bind_eq_bind, Option.bind_some]
        split
        · rfl
        · next near =>
          have difference : CheckedInt.sub t2 t1 = some ⟨t2.1 - t1.1, by
            simp only [epoch, max] at nonneg other near ⊢; omega⟩ := exactly_of_within _
          simp only [difference, Option.bind_some]
          exact exactly_of_within _

/-- **`add` and `subtract` saturate exactly**, and nothing overflows on the way. -/
theorem add_subtract_saturate (x y : Ticks) :
    (∃ sum, addChecked x y = some sum ∧ sum.1 = clamp min.1 max.1 (x.1 + y.1)) ∧
      ∃ difference, subtractChecked x y = some difference ∧
        difference.1 = clamp min.1 max.1 (x.1 - y.1) :=
  ⟨⟨_, addChecked_eq x y, add_eq x y⟩, ⟨_, subtractChecked_eq x y, subtract_eq x y⟩⟩

end Asio.Timer.Ticks
