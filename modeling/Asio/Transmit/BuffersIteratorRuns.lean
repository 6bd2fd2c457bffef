import Asio.Transmit.BuffersIteratorIndex

/-! # Runs of a `buffers_iterator`

Two machines take the same moves: an index kept within the total size, and an
iterator. The iterator follows the index, started at the beginning or at the end,
and shows what the index says. No number of the iterator exceeds the total size.
-/

namespace Asio.Transmit

/-- Where the moves start. -/
inductive Start where
  | begin_
  | end_
  deriving DecidableEq, Repr

/-- The index at the start. -/
def Start.index (buffers : List Buffer) : Start → Nat
  | .begin_ => 0
  | .end_ => bufferSize buffers

/-- The iterator at the start. -/
def Start.iterator (buffers : List Buffer) : Start → Option BuffersIterator
  | .begin_ => BuffersIterator.buffersBegin buffers
  | .end_ => BuffersIterator.buffersEnd buffers

/-- An index that moves within the total size. -/
def indexing (buffers : List Buffer) : Transition.Machine Nat Move where
  initial index := ∃ start : Start, index = start.index buffers
  step index m :=
    if 0 ≤ (index : Int) + m.displacement ∧ (index : Int) + m.displacement ≤ bufferSize buffers then
      some ((index : Int) + m.displacement).toNat
    else none

/-- An iterator that moves over the sequence. -/
def iterating (buffers : List Buffer) : Transition.Machine BuffersIterator Move where
  initial iter := ∃ start : Start, some iter = start.iterator buffers
  step iter m := iter.move buffers m

/-- The index after some moves, none when it would leave the total size. -/
def indexAfter (buffers : List Buffer) (start : Start) (moves : List Move) : Option Nat :=
  (indexing buffers).run (start.index buffers) moves

/-- The iterator after some moves, none when a move does not succeed. -/
def iteratorAfter (buffers : List Buffer) (start : Start) (moves : List Move) :
    Option BuffersIterator :=
  (start.iterator buffers).bind fun iter => (iterating buffers).run iter moves

namespace BuffersIterator

/-- An iterator shows an index: where it is, and the byte there. -/
structure Shows (buffers : List Buffer) (index : Nat) (iter : BuffersIterator) : Prop where
  within : index ≤ (flatten buffers).length
  position : iter.position = index
  byte : ∀ short : index < (flatten buffers).length, iter.dereference = (flatten buffers)[index]

/-- Two iterators compare as their indices do. -/
structure Compares (index otherIndex : Nat) (iter other : BuffersIterator) : Prop where
  equal : iter.equal other = decide (index = otherIndex)
  notEqual : iter.notEqual other = decide (index ≠ otherIndex)
  less : iter.less other = decide (index < otherIndex)
  lessEqual : iter.lessEqual other = decide (index ≤ otherIndex)
  greater : iter.greater other = decide (index > otherIndex)
  greaterEqual : iter.greaterEqual other = decide (index ≥ otherIndex)
  difference : iter.difference other = (index : Int) - otherIndex

variable {buffers : List Buffer} {index otherIndex : Nat} {iter other : BuffersIterator}

theorem At.shows (at_ : iter.At buffers index) : iter.Shows buffers index where
  within := length_flatten buffers ▸ at_.index_le
  position := at_.position
  byte short := by
    have found := at_.dereference (length_flatten buffers ▸ short)
    rw [List.getElem?_eq_getElem short, Option.some.injEq] at found
    exact found.symm

theorem less_eq (iter other : BuffersIterator) :
    iter.less other = decide (iter.position < other.position) := by
  simp only [less, distanceTo]
  apply decide_eq_decide.mpr
  omega

theorem Shows.compares (shows_ : iter.Shows buffers index)
    (others : other.Shows buffers otherIndex) : iter.Compares index otherIndex other := by
  obtain ⟨-, rfl, -⟩ := shows_
  obtain ⟨-, rfl, -⟩ := others
  constructor
  · exact beq_eq_decide ..
  · rw [BuffersIterator.notEqual, BuffersIterator.equal, beq_eq_decide, ← decide_not]
  · exact less_eq iter other
  · rw [lessEqual, less_eq, ← decide_not, decide_eq_decide, Nat.not_lt]
  · exact less_eq other iter
  · rw [greaterEqual, less_eq, ← decide_not, decide_eq_decide, Nat.not_lt]
  · rfl

/-- **Run.** An iterator that stands for an index follows it through every run. -/
theorem At.run {moves : List Move} {target : Nat} (at_ : iter.At buffers index)
    (ran : (indexing buffers).run index moves = some target) :
    ∃ next, (iterating buffers).run iter moves = some next ∧ next.At buffers target := by
  induction moves generalizing index iter with
  | nil =>
      cases ran
      exact ⟨iter, rfl, at_⟩
  | cons m moves ih =>
      obtain ⟨middle, stepped, rest⟩ := Option.bind_eq_some_iff.mp ran
      simp only [indexing] at stepped
      split at stepped
      · rename_i inside
        rw [Option.some.injEq] at stepped
        have same : (index : Int) + m.displacement = middle := by omega
        obtain ⟨next, moved, reached⟩ := at_.move same (by omega)
        obtain ⟨final, followed, stands⟩ := ih reached rest
        refine ⟨final, ?_, stands⟩
        exact Option.bind_eq_some_iff.mpr ⟨next, moved, followed⟩
      · cases stepped

end BuffersIterator

/-- The iterator at the start stands for the index there. -/
theorem Start.iterator_spec (buffers : List Buffer) (start : Start) :
    ∃ iter, start.iterator buffers = some iter ∧ iter.At buffers (start.index buffers) := by
  cases start with
  | begin_ => exact BuffersIterator.buffersBegin_spec
  | end_ => exact BuffersIterator.buffersEnd_spec

theorem exists_iteratorAfter {buffers : List Buffer} {start : Start} {moves : List Move}
    {index : Nat} (kept : indexAfter buffers start moves = some index) :
    ∃ iter, iteratorAfter buffers start moves = some iter ∧ iter.Shows buffers index := by
  obtain ⟨first, started, at_⟩ := start.iterator_spec buffers
  obtain ⟨iter, ran, reached⟩ := at_.run kept
  exact ⟨iter, Option.bind_eq_some_iff.mpr ⟨first, started, ran⟩, reached.shows⟩

/-- **`buffers_iterator`.** After moves that keep the index within the total size, the
iterator has moved without a failed assertion or an endless loop, shows the index
and the byte there, and compares with any other iterator as their indices do. -/
theorem buffers_iterator_refines {buffers : List Buffer} {start : Start} {moves : List Move}
    {index : Nat} (kept : indexAfter buffers start moves = some index) :
    ∃ iter, iteratorAfter buffers start moves = some iter ∧ iter.Shows buffers index ∧
      ∀ otherStart otherMoves otherIndex,
        indexAfter buffers otherStart otherMoves = some otherIndex →
        ∃ other, iteratorAfter buffers otherStart otherMoves = some other ∧
          iter.Compares index otherIndex other := by
  obtain ⟨iter, ran, shows_⟩ := exists_iteratorAfter kept
  refine ⟨iter, ran, shows_, fun otherStart otherMoves otherIndex otherKept => ?_⟩
  obtain ⟨other, otherRan, others⟩ := exists_iteratorAfter otherKept
  exact ⟨other, otherRan, shows_.compares others⟩

/-- Over two buffers of two bytes with empty ones around them. -/
theorem buffers_iterator_refines_two :
    ∃ iter, iteratorAfter [⟨5, 0⟩, ⟨10, 2⟩, ⟨7, 0⟩, ⟨20, 2⟩, ⟨9, 0⟩] .end_
        [.decrement, .subtract 2, .add 3, .add (-2), .increment, .decrement] = some iter ∧
      iter.Shows [⟨5, 0⟩, ⟨10, 2⟩, ⟨7, 0⟩, ⟨20, 2⟩, ⟨9, 0⟩] 2 := by
  obtain ⟨iter, ran, shows_, -⟩ := @buffers_iterator_refines
    [⟨5, 0⟩, ⟨10, 2⟩, ⟨7, 0⟩, ⟨20, 2⟩, ⟨9, 0⟩] .end_
    [.decrement, .subtract 2, .add 3, .add (-2), .increment, .decrement] 2 (by decide)
  exact ⟨iter, ran, shows_⟩

end Asio.Transmit
