import Mathlib.Data.Set.Basic

/-! # Sets of what agrees in leading places

Values that are read by a kind and by places that hold a bit each. The values that share the
kind and the leading places of one of them are a cylinder; of two cylinders one is inside the
other, or they are disjoint.
-/

/-- How values are read: two values with the same kind and the same bits are one, and any bit
can be the other way. -/
structure Reading (Value Kind : Type*) (places : Nat) where
  kind : Value → Kind
  bit : Value → Nat → Bool
  ext : ∀ {value other}, kind value = kind other →
    (∀ place < places, bit value place = bit other place) → value = other
  flip : ∀ value, ∀ place < places, ∃ other, kind other = kind value ∧
    bit other place ≠ bit value place ∧ ∀ before < place, bit other before = bit value before

namespace Reading

variable {Value Kind : Type*} {places : Nat} (reading : Reading Value Kind places)

/-- Two values with the same kind and the same leading bits. -/
def Agree (leading : Nat) (value other : Value) : Prop :=
  reading.kind value = reading.kind other ∧
    ∀ place < leading, reading.bit value place = reading.bit other place

/-- The values that agree with a value in the leading places. -/
def cylinder (leading : Nat) (value : Value) : Set Value :=
  {other | reading.Agree leading other value}

variable {reading} {leading least : Nat} {value other third : Value}

theorem Agree.rfl : reading.Agree leading value value := ⟨Eq.refl _, fun _ _ => Eq.refl _⟩

theorem Agree.symm (agree : reading.Agree leading value other) :
    reading.Agree leading other value :=
  ⟨agree.1.symm, fun place inside => (agree.2 place inside).symm⟩

theorem Agree.trans (agree : reading.Agree leading value other)
    (agree' : reading.Agree leading other third) : reading.Agree leading value third :=
  ⟨agree.1.trans agree'.1, fun place inside => (agree.2 place inside).trans (agree'.2 place inside)⟩

theorem Agree.mono (le : least ≤ leading) (agree : reading.Agree leading value other) :
    reading.Agree least value other :=
  ⟨agree.1, fun place inside => agree.2 place (inside.trans_le le)⟩

theorem mem_cylinder : other ∈ reading.cylinder leading value ↔ reading.Agree leading other value :=
  Iff.rfl

theorem self_mem_cylinder : value ∈ reading.cylinder leading value := Agree.rfl

/-- A cylinder is that of any of its values. -/
theorem cylinder_eq (agree : reading.Agree leading value other) :
    reading.cylinder leading value = reading.cylinder leading other := by
  apply Set.ext
  intro third
  exact ⟨fun inside => inside.trans agree, fun inside => inside.trans agree.symm⟩

/-- A cylinder of more places is smaller when its value is in the other one. -/
theorem cylinder_subset (le : least ≤ leading) (agree : reading.Agree least value other) :
    reading.cylinder leading value ⊆ reading.cylinder least other :=
  fun _ inside => (inside.mono le).trans agree

/-- The value whose first bit behind the places is the other way is in the larger cylinder
only. -/
theorem cylinder_proper_iff (within : leading ≤ places) :
    reading.cylinder leading value ⊆ reading.cylinder least other ∧
        reading.cylinder leading value ≠ reading.cylinder least other ↔
      least < leading ∧ reading.Agree least value other := by
  constructor
  · rintro ⟨subset, not_same⟩
    have agree : reading.Agree least value other := subset self_mem_cylinder
    refine ⟨?_, agree⟩
    by_contra not_less
    have le : leading ≤ least := Nat.not_lt.mp not_less
    exact not_same (subset.antisymm (cylinder_subset le (agree.mono le).symm))
  · rintro ⟨less, agree⟩
    refine ⟨cylinder_subset less.le agree, ?_⟩
    intro same
    obtain ⟨flipped, kind, differs, before⟩ := reading.flip value least (less.trans_le within)
    have inside : flipped ∈ reading.cylinder least other := Agree.trans ⟨kind, before⟩ agree
    rw [← same] at inside
    exact differs (inside.2 least less)

end Reading
