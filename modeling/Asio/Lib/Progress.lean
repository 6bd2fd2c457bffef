import Mathlib.Logic.Basic

/-! # Progress along an infinite run

Something that waits, and whose rank never grows while it waits, is reached if
the rank decreases again and again. The properties are given by the position in
the run, so that they can speak of the state there and of the step that follows.
-/

namespace Progress

variable {waiting reached : Nat → Prop} {rank : Nat → Nat}

/-- What waits at one position has been reached by a later one, or waits there
with no greater rank. -/
theorem persists
    (keeps : ∀ n, waiting n → reached (n + 1) ∨ waiting (n + 1) ∧ rank (n + 1) ≤ rank n)
    {first : Nat} (now : waiting first) (later : Nat) :
    (∃ n, first ≤ n ∧ n ≤ first + later ∧ reached n) ∨
      waiting (first + later) ∧ rank (first + later) ≤ rank first := by
  induction later with
  | zero => exact .inr ⟨now, Nat.le_refl _⟩
  | succ later ih =>
      obtain ⟨n, after, before, done⟩ | ⟨still, bound⟩ := ih
      · exact .inl ⟨n, after, Nat.le_succ_of_le before, done⟩
      · obtain done | ⟨still, less⟩ := keeps _ still
        · exact .inl ⟨_, Nat.le_add_right _ _, Nat.le_refl _, done⟩
        · exact .inr ⟨still, Nat.le_trans less bound⟩

/-- **Rank rule.** -/
theorem eventually
    (keeps : ∀ n, waiting n → reached (n + 1) ∨ waiting (n + 1) ∧ rank (n + 1) ≤ rank n)
    (advances : ∀ n, ∃ m, n ≤ m ∧ (waiting m → reached (m + 1) ∨ rank (m + 1) < rank m))
    {first : Nat} (now : waiting first) : ∃ n, first ≤ n ∧ reached n := by
  induction size : rank first using Nat.strongRecOn generalizing first with
  | _ size ih =>
      obtain ⟨m, after, advance⟩ := advances first
      obtain ⟨later, rfl⟩ := Nat.exists_eq_add_of_le after
      obtain ⟨n, from_first, -, done⟩ | ⟨still, bound⟩ := persists keeps now later
      · exact ⟨n, from_first, done⟩
      · obtain done | ⟨next, -⟩ := keeps _ still
        · exact ⟨_, Nat.le_succ_of_le after, done⟩
        · obtain done | less := advance still
          · exact ⟨_, Nat.le_succ_of_le after, done⟩
          · obtain ⟨n, from_next, done⟩ := ih _ (size ▸ Nat.lt_of_lt_of_le less bound) next rfl
            exact ⟨n, Nat.le_trans (Nat.le_succ_of_le after) from_next, done⟩

end Progress
