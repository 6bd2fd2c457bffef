import Mathlib.Data.List.Infix

/-! # Occurrences of a pattern in a text that grows

A pattern occurs at the positions from which the text begins with it. A search
that is resumed when more text has arrived may skip a position only if no
occurrence can start there however the text goes on: if the text from there on
and the pattern differ at a place both have.
-/

namespace Occurrence

variable {α : Type*} {pattern text : List α} {position : Nat}

/-- The pattern occurs at a position. -/
def At (pattern text : List α) (position : Nat) : Prop := pattern <+: text.drop position

/-- The pattern occurs somewhere. -/
def Occurs (pattern text : List α) : Prop := ∃ position, At pattern text position

/-- The first occurrence ends at a position. -/
def FirstEnd (pattern text : List α) (final : Nat) : Prop :=
  ∃ position, final = position + pattern.length ∧ At pattern text position ∧
    ∀ earlier < position, ¬ At pattern text earlier

/-- However the text goes on, no occurrence starts before a position. -/
def RuledOut (pattern text : List α) (position : Nat) : Prop :=
  ∀ earlier < position, ∀ more, ¬ At pattern (text ++ more) earlier

theorem RuledOut.zero : RuledOut pattern text 0 :=
  fun _ before => absurd before (Nat.not_lt_zero _)

/-- A position that is ruled out stays so when the text grows. -/
theorem RuledOut.append (ruledOut : RuledOut pattern text position) (more : List α) :
    RuledOut pattern (text ++ more) position := by
  intro earlier before further
  rw [List.append_assoc]
  exact ruledOut earlier before _

theorem RuledOut.not_at (ruledOut : RuledOut pattern text position) {earlier : Nat}
    (before : earlier < position) : ¬ At pattern text earlier := by
  have never := ruledOut earlier before []
  rwa [List.append_nil] at never

/-- A position where text and pattern differ can be skipped. -/
theorem RuledOut.succ (ruledOut : RuledOut pattern text position) (inside : position ≤ text.length)
    (absent : ¬ pattern <+: text.drop position) (differs : ¬ text.drop position <+: pattern) :
    RuledOut pattern text (position + 1) := by
  intro earlier before more occurs
  obtain before | rfl := Nat.lt_or_eq_of_le (Nat.le_of_lt_succ before)
  · exact ruledOut earlier before more occurs
  · rw [At, List.drop_append_of_le_length inside] at occurs
    obtain whole | part := List.prefix_or_prefix_of_prefix occurs (List.prefix_append _ more)
    · exact absent whole
    · exact differs part

/-- With everything before it ruled out, an occurrence is the first. -/
theorem RuledOut.firstEnd (ruledOut : RuledOut pattern text position)
    (occurs : At pattern text position) : FirstEnd pattern text (position + pattern.length) :=
  ⟨position, rfl, occurs, fun _ before => ruledOut.not_at before⟩

/-- Too little text after what is ruled out holds no occurrence. -/
theorem RuledOut.not_occurs (ruledOut : RuledOut pattern text position)
    (short : (text.drop position).length < pattern.length) : ¬ Occurs pattern text := by
  rintro ⟨start, occurs⟩
  obtain before | after := Nat.lt_or_ge start position
  · exact ruledOut.not_at before occurs
  · have fits := occurs.length_le
    rw [List.length_drop] at short fits
    omega

theorem FirstEnd.occurs {final : Nat} (first : FirstEnd pattern text final) :
    Occurs pattern text := by
  obtain ⟨start, -, at_, -⟩ := first
  exact ⟨start, at_⟩

end Occurrence
