import Mathlib.Data.List.Nodup
import Mathlib.Logic.Function.Basic

/-! # Storing a list of values along a list of cells

A memory is a function from cells to values. `store` writes values one after the
other into the cells of a list, as a transfer writes bytes into the memory its
buffers cover; the cells may repeat, later writes winning. `copy` stores what a list
of other cells holds; it can be done in any number of steps.
-/

namespace Memory

variable {Cell Value : Type*} [DecidableEq Cell]

/-- The memory after the values have been written to the cells, in order. -/
def store (memory : Cell → Value) : List Cell → List Value → Cell → Value
  | cell :: cells, value :: values => store (Function.update memory cell value) cells values
  | _, _ => memory

/-- Only the cells of the values are touched. -/
theorem store_take (memory : Cell → Value) (cells : List Cell) (values : List Value) :
    store memory (cells.take values.length) values = store memory cells values := by
  induction cells generalizing memory values with
  | nil => rw [List.take_nil]
  | cons cell cells ih =>
      cases values with
      | nil => rfl
      | cons value values => exact ih _ _

theorem store_append (memory : Cell → Value) {first : List Cell} (second : List Cell)
    {before : List Value} (after : List Value) (lengths : first.length = before.length) :
    store memory (first ++ second) (before ++ after) =
      store (store memory first before) second after := by
  induction first generalizing memory before with
  | nil =>
      obtain rfl := List.length_eq_zero_iff.mp lengths.symm
      rfl
  | cons cell first ih =>
      cases before with
      | nil => cases lengths
      | cons value before => exact ih _ (Nat.succ_inj.mp lengths)

/-- A cell that is not written keeps its value. -/
theorem store_of_notMem (memory : Cell → Value) {cells : List Cell} (values : List Value)
    {cell : Cell} (outside : cell ∉ cells) : store memory cells values cell = memory cell := by
  induction cells generalizing memory values with
  | nil => rfl
  | cons other cells ih =>
      cases values with
      | nil => rfl
      | cons value values =>
          rw [List.mem_cons, not_or] at outside
          exact (ih _ _ outside.2).trans (Function.update_of_ne outside.1 _ _)

/-- Distinct cells hold what was written to them. -/
theorem map_store (memory : Cell → Value) {cells : List Cell} {values : List Value}
    (distinct : cells.Nodup) (lengths : cells.length = values.length) :
    cells.map (store memory cells values) = values := by
  induction cells generalizing memory values with
  | nil => exact (List.length_eq_zero_iff.mp lengths.symm).symm
  | cons cell cells ih =>
      cases values with
      | nil => cases lengths
      | cons value values =>
          obtain ⟨fresh, distinct⟩ := List.nodup_cons.mp distinct
          have head : store (Function.update memory cell value) cells values cell = value :=
            (store_of_notMem _ _ fresh).trans (Function.update_self _ _ _)
          rw [List.map_cons, store, head, ih _ distinct (Nat.succ_inj.mp lengths)]

/-- The memory after the first cells of the target have received what those of the
source hold. -/
def copy (memory : Cell → Value) (target source : List Cell) (count : Nat) : Cell → Value :=
  store memory (target.take count) ((source.take count).map memory)

@[simp] theorem copy_zero (memory : Cell → Value) (target source : List Cell) :
    copy memory target source 0 = memory := rfl

theorem copy_of_notMem (memory : Cell → Value) {target : List Cell} (source : List Cell)
    (count : Nat) {cell : Cell} (outside : cell ∉ target.take count) :
    copy memory target source count cell = memory cell :=
  store_of_notMem _ _ outside

/-- The target holds what the source held. -/
theorem map_copy (memory : Cell → Value) {target source : List Cell} {count : Nat}
    (distinct : target.Nodup) (room : count ≤ target.length) (held : count ≤ source.length) :
    (target.take count).map (copy memory target source count) =
      (source.take count).map memory := by
  apply map_store memory (distinct.sublist (List.take_sublist _ _))
  rw [List.length_map, List.length_take, List.length_take, Nat.min_eq_left room,
    Nat.min_eq_left held]

/-- What follows the cells that are copied does not matter. -/
theorem copy_append_source (memory : Cell → Value) (target : List Cell) {source : List Cell}
    (more : List Cell) {count : Nat} (held : count ≤ source.length) :
    copy memory target (source ++ more) count = copy memory target source count := by
  rw [copy, copy, List.take_append_of_le_length held]

theorem copy_append_target (memory : Cell → Value) {target : List Cell} (source more : List Cell)
    {count : Nat} (room : count ≤ target.length) :
    copy memory (target ++ more) source count = copy memory target source count := by
  rw [copy, copy, List.take_append_of_le_length room]

/-- Copying from cells that are not written can be continued where it was left. -/
theorem copy_add (memory : Cell → Value) {target source : List Cell}
    (apart : ∀ cell ∈ source, cell ∉ target) {first : Nat} (second : Nat)
    (room : first ≤ target.length) (held : first ≤ source.length) :
    copy memory target source (first + second) =
      copy (copy memory target source first) (target.drop first) (source.drop first) second := by
  have lengths : (target.take first).length = ((source.take first).map memory).length := by
    rw [List.length_map, List.length_take, List.length_take, Nat.min_eq_left room,
      Nat.min_eq_left held]
  have unwritten : ((source.drop first).take second).map (copy memory target source first) =
      ((source.drop first).take second).map memory := by
    apply List.map_congr_left
    intro cell member
    apply copy_of_notMem
    intro written
    exact apart cell (List.mem_of_mem_drop (List.mem_of_mem_take member))
      (List.mem_of_mem_take written)
  unfold copy at unwritten ⊢
  rw [unwritten, List.take_add, List.take_add, List.map_append, store_append _ _ _ lengths]

end Memory
