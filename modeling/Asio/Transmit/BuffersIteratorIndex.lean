import Asio.Transmit.BuffersIterator

/-! # What a `buffers_iterator` stands for

An iterator stands for an index into the flattened bytes. It is in a buffer that
has a byte there, or behind the last buffer when the index is the total size.
Every operation finds such a place again, over however many empty buffers, so
that the moves of an iterator are those of an index kept within the total size.
-/

namespace Asio.Transmit

/-- The bytes before a buffer. -/
def sizeBefore (buffers : List Buffer) (place : Nat) : Nat := bufferSize (buffers.take place)

section SizeBefore

variable {buffers : List Buffer}

theorem bufferSize_append (buffers others : List Buffer) :
    bufferSize (buffers ++ others) = bufferSize buffers + bufferSize others := by
  rw [bufferSize, List.map_append, List.sum_append, bufferSize, bufferSize]

@[simp] theorem sizeBefore_zero : sizeBefore buffers 0 = 0 := rfl

@[simp] theorem sizeBefore_length : sizeBefore buffers buffers.length = bufferSize buffers := by
  rw [sizeBefore, List.take_length]

theorem sizeBefore_succ {place : Nat} {b : Buffer} (stored : buffers[place]? = some b) :
    sizeBefore buffers (place + 1) = sizeBefore buffers place + b.size := by
  rw [sizeBefore, List.take_add_one, stored, bufferSize_append]
  rfl

theorem sizeBefore_le (place : Nat) : sizeBefore buffers place ≤ bufferSize buffers := by
  have parts := congrArg bufferSize (List.take_append_drop place buffers)
  rw [bufferSize_append] at parts
  exact Nat.le_of_add_right_le (Nat.le_of_eq parts)

/-- A byte of a buffer, found in the flattened bytes. -/
theorem getElem?_flatten {place : Nat} {b : Buffer} (stored : buffers[place]? = some b) {n : Nat}
    (inside : n < b.size) :
    (flatten buffers)[sizeBefore buffers place + n]? = some (b.data + n) := by
  induction buffers generalizing place with
  | nil => cases stored
  | cons first buffers ih =>
      rw [flatten_cons]
      cases place with
      | zero =>
          cases stored
          rw [sizeBefore_zero, Nat.zero_add, List.getElem?_append_left (by simpa using inside)]
          simp [Buffer.cells, inside]
      | succ place =>
          have further : sizeBefore (first :: buffers) (place + 1) + n =
              first.cells.length + (sizeBefore buffers place + n) := by
            rw [Buffer.length_cells, ← Nat.add_assoc]
            rfl
          rw [further, List.getElem?_append_right (Nat.le_add_right _ _), Nat.add_sub_cancel_left]
          exact ih stored

end SizeBefore

namespace BuffersIterator

section Index

variable (buffers : List Buffer)

/-- The numbers of an iterator belong together and say `index`. -/
structure Placed (index : Nat) (iter : BuffersIterator) : Prop where
  begin_ : iter.begin_ = 0
  end_ : iter.end_ = buffers.length
  position : iter.position = index
  place : index = sizeBefore buffers iter.current + iter.currentBufferPosition

/-- The iterator holds the buffer it is at. -/
def Holds (iter : BuffersIterator) : Prop := buffers[iter.current]? = some iter.currentBuffer

/-- An iterator that stands for `index`. -/
structure At (index : Nat) (iter : BuffersIterator) : Prop extends Placed buffers index iter where
  stands : iter.Holds buffers ∧ iter.currentBufferPosition < iter.currentBuffer.size ∨
    iter.current = buffers.length ∧ iter.currentBufferPosition = 0

end Index

variable {buffers : List Buffer} {index : Nat} {iter : BuffersIterator}

theorem Holds.lt (holds : iter.Holds buffers) : iter.current < buffers.length :=
  (List.getElem?_eq_some_iff.mp holds).1

theorem Holds.sizeBefore_succ (holds : iter.Holds buffers) :
    sizeBefore buffers (iter.current + 1) =
      sizeBefore buffers iter.current + iter.currentBuffer.size :=
  Transmit.sizeBefore_succ holds

/-- A place within the sequence has a buffer. -/
theorem exists_stored {place : Nat} (within : place ≤ buffers.length)
    (unfinished : place ≠ buffers.length) : ∃ b, buffers[place]? = some b :=
  ⟨_, List.getElem?_eq_getElem (Nat.lt_of_le_of_ne within unfinished)⟩

/-- Short of the end, an iterator is at a byte of its buffer. -/
theorem At.byte (at_ : iter.At buffers index) (short : index < bufferSize buffers) :
    iter.Holds buffers ∧ iter.currentBufferPosition < iter.currentBuffer.size := by
  apply at_.stands.resolve_right
  rintro ⟨finished, start⟩
  have place := at_.place
  rw [finished, start, sizeBefore_length] at place
  omega

theorem At.current_le (at_ : iter.At buffers index) : iter.current ≤ buffers.length := by
  rcases at_.stands with ⟨holds, -⟩ | ⟨finished, -⟩
  · exact Nat.le_of_lt holds.lt
  · exact Nat.le_of_eq finished

theorem At.index_le (at_ : iter.At buffers index) : index ≤ bufferSize buffers := by
  have place := at_.place
  rcases at_.stands with ⟨holds, byte⟩ | ⟨finished, start⟩
  · have through := @sizeBefore_le buffers (iter.current + 1)
    rw [holds.sizeBefore_succ] at through
    omega
  · rw [finished, start, sizeBefore_length] at place
    omega

/-- Dereferencing short of the end yields the byte at the index. -/
theorem At.dereference (at_ : iter.At buffers index) (short : index < bufferSize buffers) :
    (flatten buffers)[index]? = some iter.dereference := by
  obtain ⟨holds, byte⟩ := at_.byte short
  rw [at_.place]
  exact getElem?_flatten holds byte

/-- The search for the next non-empty buffer ends at the index it started from. -/
theorem evaluate_nextBody (placed : iter.Placed buffers index)
    (start : iter.currentBufferPosition = 0) (within : iter.current ≤ buffers.length) :
    ∃ next, Loop.evaluate (nextBody buffers) (buffers.length + 1) iter = some next ∧
      next.At buffers index := by
  apply Loop.evaluate_of_variant
    (fun iter : BuffersIterator => iter.Placed buffers index ∧ iter.currentBufferPosition = 0 ∧
      iter.current ≤ buffers.length)
    (fun next : BuffersIterator => next.At buffers index)
    (fun iter : BuffersIterator => buffers.length - iter.current)
  · rintro iter ⟨placed, start, within⟩
    by_cases finished : iter.current = iter.end_
    · left
      refine ⟨iter, ?_, placed, .inr ⟨finished.trans placed.end_, start⟩⟩
      simp only [nextBody, finished, ↓reduceIte]
    · have unfinished := placed.end_ ▸ finished
      obtain ⟨b, stored⟩ := exists_stored within unfinished
      have place := placed.place
      by_cases room : 0 < b.size
      · left
        refine ⟨{ iter with currentBuffer := b }, ?_, ⟨placed.begin_, placed.end_,
          placed.position, place⟩, .inl ⟨stored, ?_⟩⟩
        · simp only [nextBody, finished, stored, room, ↓reduceIte]
        · change iter.currentBufferPosition < b.size
          omega
      · right
        refine ⟨{ iter with currentBuffer := b, current := iter.current + 1 }, ?_,
          ⟨⟨placed.begin_, placed.end_, placed.position, ?_⟩, start, ?_⟩, ?_⟩
        · simp only [nextBody, finished, stored, room, ↓reduceIte]
        · change index = sizeBefore buffers (iter.current + 1) + iter.currentBufferPosition
          rw [sizeBefore_succ stored]
          omega
        · change iter.current + 1 ≤ buffers.length
          omega
        · change buffers.length - (iter.current + 1) < buffers.length - iter.current
          omega
  · omega
  · exact ⟨placed, start, within⟩

/-- `begin`. -/
theorem buffersBegin_spec : ∃ iter, buffersBegin buffers = some iter ∧ iter.At buffers 0 :=
  evaluate_nextBody ⟨rfl, rfl, rfl, rfl⟩ rfl (Nat.zero_le _)

/-- `end`. -/
theorem buffersEnd_spec :
    ∃ iter, buffersEnd buffers = some iter ∧ iter.At buffers (bufferSize buffers) := by
  apply Loop.evaluate_of_variant
    (fun iter : BuffersIterator => iter.Placed buffers (sizeBefore buffers iter.current) ∧
      iter.currentBufferPosition = 0 ∧ iter.current ≤ buffers.length)
    (fun next : BuffersIterator => next.At buffers (bufferSize buffers))
    (fun iter : BuffersIterator => buffers.length - iter.current)
  · rintro iter ⟨placed, start, within⟩
    by_cases finished : iter.current = iter.end_
    · left
      have behind := finished.trans placed.end_
      rw [behind, sizeBefore_length] at placed
      refine ⟨iter, ?_, placed, .inr ⟨behind, start⟩⟩
      simp only [endBody, finished, ↓reduceIte]
    · right
      have unfinished := placed.end_ ▸ finished
      obtain ⟨b, stored⟩ := exists_stored within unfinished
      refine ⟨{ iter with position := iter.position + b.size, current := iter.current + 1 }, ?_,
        ⟨⟨placed.begin_, placed.end_, ?_, ?_⟩, start, ?_⟩, ?_⟩
      · simp only [endBody, finished, stored, ↓reduceIte]
      · change iter.position + b.size = sizeBefore buffers (iter.current + 1)
        rw [sizeBefore_succ stored, placed.position]
      · change sizeBefore buffers (iter.current + 1) =
          sizeBefore buffers (iter.current + 1) + iter.currentBufferPosition
        rw [start]
        rfl
      · change iter.current + 1 ≤ buffers.length
        omega
      · change buffers.length - (iter.current + 1) < buffers.length - iter.current
        omega
  · exact Nat.lt_succ_self _
  · exact ⟨⟨rfl, rfl, rfl, rfl⟩, rfl, Nat.zero_le _⟩

/-- `increment` short of the end. -/
theorem At.increment (at_ : iter.At buffers index) (short : index < bufferSize buffers) :
    ∃ next, iter.increment buffers = some next ∧ next.At buffers (index + 1) := by
  obtain ⟨holds, byte⟩ := at_.byte short
  have place := at_.place
  have unfinished : iter.current ≠ iter.end_ := by
    rw [at_.end_]
    exact Nat.ne_of_lt holds.lt
  simp only [BuffersIterator.increment, unfinished, ↓reduceIte]
  by_cases last : iter.currentBufferPosition + 1 = iter.currentBuffer.size
  · simp only [last, ne_eq, not_true_eq_false, ↓reduceIte]
    refine evaluate_nextBody ⟨at_.begin_, at_.end_, congrArg (· + 1) at_.position, ?_⟩ rfl
      (Nat.succ_le_of_lt holds.lt)
    change index + 1 = sizeBefore buffers (iter.current + 1) + 0
    rw [holds.sizeBefore_succ]
    omega
  · simp only [last, ne_eq, not_false_eq_true, ↓reduceIte]
    refine ⟨_, rfl, ⟨at_.begin_, at_.end_, congrArg (· + 1) at_.position, ?_⟩, .inl ⟨holds, ?_⟩⟩
    · change index + 1 = sizeBefore buffers iter.current + (iter.currentBufferPosition + 1)
      omega
    · change iter.currentBufferPosition + 1 < iter.currentBuffer.size
      omega

/-- The search for the previous non-empty buffer finds one when bytes come before. -/
theorem previous_spec (begin_ : iter.begin_ = 0) (within : iter.current ≤ buffers.length)
    (before : 0 < sizeBefore buffers iter.current) :
    ∃ place b, iter.previous buffers = some (some (place, b)) ∧ place < iter.current ∧
      buffers[place]? = some b ∧ 0 < b.size ∧
      sizeBefore buffers iter.current = sizeBefore buffers place + b.size := by
  have found : ∃ found, iter.previous buffers = some found ∧ ∃ place b, found = some (place, b) ∧
      place < iter.current ∧ buffers[place]? = some b ∧ 0 < b.size ∧
      sizeBefore buffers iter.current = sizeBefore buffers place + b.size := by
    apply Loop.evaluate_of_variant
      (fun place : Nat => place ≤ iter.current ∧
        sizeBefore buffers place = sizeBefore buffers iter.current)
      (fun found : Option (Nat × Buffer) => ∃ place b, found = some (place, b) ∧
        place < iter.current ∧ buffers[place]? = some b ∧ 0 < b.size ∧
        sizeBefore buffers iter.current = sizeBefore buffers place + b.size) id
    · rintro place ⟨reached, same⟩
      have further : place ≠ 0 := by
        rintro rfl
        rw [sizeBefore_zero] at same
        omega
      obtain ⟨b, stored⟩ := @exists_stored buffers (place - 1) (by omega) (by omega)
      have step := sizeBefore_succ stored
      rw [Nat.sub_add_cancel (Nat.pos_of_ne_zero further)] at step
      by_cases room : 0 < b.size
      · left
        refine ⟨_, ?_, place - 1, b, rfl, by omega, stored, room, by omega⟩
        simp only [previousBody, begin_, further, stored, room, ↓reduceIte]
      · right
        refine ⟨place - 1, ?_, ⟨by omega, by omega⟩, ?_⟩
        · simp only [previousBody, begin_, further, stored, room, ↓reduceIte]
        · exact Nat.sub_lt (Nat.pos_of_ne_zero further) Nat.one_pos
    · exact Nat.lt_succ_of_le within
    · exact ⟨Nat.le_refl _, rfl⟩
  obtain ⟨_, ran, place, b, rfl, found⟩ := found
  exact ⟨place, b, ran, found⟩

/-- `decrement` past the beginning. -/
theorem At.decrement (at_ : iter.At buffers (index + 1)) :
    ∃ next, iter.decrement buffers = some next ∧ next.At buffers index := by
  have place := at_.place
  have position := at_.position
  have some_ : iter.position ≠ 0 := by omega
  simp only [BuffersIterator.decrement, some_, ↓reduceIte]
  by_cases start : iter.currentBufferPosition = 0
  · obtain ⟨previous, b, found, -, stored, room, size⟩ :=
      previous_spec at_.begin_ at_.current_le (by omega)
    have same : BuffersIterator.previous buffers { iter with position := iter.position - 1 } =
        some (some (previous, b)) := found
    rw [if_neg (not_not.mpr start), same]
    refine ⟨_, rfl, ⟨at_.begin_, at_.end_, ?_, ?_⟩, .inl ⟨stored, Nat.sub_lt room Nat.one_pos⟩⟩
    · change iter.position - 1 = index
      omega
    · change index = sizeBefore buffers previous + (b.size - 1)
      omega
  · obtain ⟨holds, byte⟩ := at_.stands.resolve_right fun behind => start behind.2
    simp only [start, ne_eq, not_false_eq_true, ↓reduceIte]
    refine ⟨_, rfl, ⟨at_.begin_, at_.end_, ?_, ?_⟩, .inl ⟨holds, ?_⟩⟩
    · change iter.position - 1 = index
      omega
    · change index = sizeBefore buffers iter.current + (iter.currentBufferPosition - 1)
      omega
    · exact Nat.lt_of_le_of_lt (Nat.sub_le _ _) byte

/-- The loop of `advance` for a positive distance. -/
theorem evaluate_forwardBody {n : Nat} (placed : iter.Placed buffers index)
    (holds : iter.Holds buffers) (reach : iter.currentBufferPosition ≤ iter.currentBuffer.size)
    (inside : index + n ≤ bufferSize buffers) :
    ∃ next, Loop.evaluate (forwardBody buffers) (buffers.length + 1) (iter, n) = some next ∧
      next.At buffers (index + n) := by
  apply Loop.evaluate_of_variant
    (fun state : BuffersIterator × Nat => state.1.Placed buffers state.1.position ∧
      state.1.Holds buffers ∧ state.1.currentBufferPosition ≤ state.1.currentBuffer.size ∧
      state.1.position + state.2 = index + n)
    (fun next : BuffersIterator => next.At buffers (index + n))
    (fun state : BuffersIterator × Nat => buffers.length - state.1.current)
  · rintro ⟨iter, left⟩ ⟨placed, holds, reach, total⟩
    dsimp only at placed holds reach total
    have place := placed.place
    have through := holds.sizeBefore_succ
    by_cases satisfied : iter.currentBuffer.size - iter.currentBufferPosition > left
    · have passed : forwardBody buffers (iter, left) = .leave { iter with
          position := iter.position + left
          currentBufferPosition := iter.currentBufferPosition + left } := by
        simp only [forwardBody, satisfied, ↓reduceIte]
      refine .inl ⟨_, passed, ⟨placed.begin_, placed.end_, total, ?_⟩, .inl ⟨holds, ?_⟩⟩
      · change index + n =
          sizeBefore buffers iter.current + (iter.currentBufferPosition + left)
        omega
      · change iter.currentBufferPosition + left < iter.currentBuffer.size
        omega
    · by_cases finished : iter.current + 1 = iter.end_
      · have behind := finished.trans placed.end_
        rw [behind, sizeBefore_length] at through
        have exact_ : left - (iter.currentBuffer.size - iter.currentBufferPosition) = 0 := by omega
        have passed : forwardBody buffers (iter, left) = .leave { iter with
            position := iter.position + (iter.currentBuffer.size - iter.currentBufferPosition)
            current := iter.end_
            currentBuffer := ⟨0, 0⟩
            currentBufferPosition := 0 } := by
          simp only [forwardBody, satisfied, finished, exact_, ↓reduceIte]
        refine .inl ⟨_, passed, ⟨placed.begin_, placed.end_, ?_, ?_⟩, .inr ⟨placed.end_, rfl⟩⟩
        · change iter.position + (iter.currentBuffer.size - iter.currentBufferPosition) = index + n
          omega
        · change index + n = sizeBefore buffers iter.end_ + 0
          rw [placed.end_, sizeBefore_length]
          omega
      · have unfinished := placed.end_ ▸ finished
        have within := holds.lt
        obtain ⟨b, stored⟩ := exists_stored (Nat.succ_le_of_lt holds.lt) unfinished
        have passed : forwardBody buffers (iter, left) = .again ({ iter with
            position := iter.position + (iter.currentBuffer.size - iter.currentBufferPosition)
            current := iter.current + 1
            currentBuffer := b
            currentBufferPosition := 0 },
            left - (iter.currentBuffer.size - iter.currentBufferPosition)) := by
          simp only [forwardBody, satisfied, finished, stored, ↓reduceIte]
        refine .inr ⟨_, passed, ⟨⟨placed.begin_, placed.end_, rfl, ?_⟩, stored, Nat.zero_le _, ?_⟩,
          ?_⟩
        · change iter.position + (iter.currentBuffer.size - iter.currentBufferPosition) =
            sizeBefore buffers (iter.current + 1) + 0
          omega
        · change iter.position + (iter.currentBuffer.size - iter.currentBufferPosition) +
            (left - (iter.currentBuffer.size - iter.currentBufferPosition)) = index + n
          omega
        · change buffers.length - (iter.current + 1) < buffers.length - iter.current
          omega
  · exact Nat.lt_succ_of_le (Nat.sub_le _ _)
  · exact ⟨placed.position.symm ▸ placed, holds, reach, congrArg (· + n) placed.position⟩

/-- The loop of `advance` for a negative distance. -/
theorem evaluate_backwardBody {n : Nat} (placed : iter.Placed buffers (index + n))
    (within : iter.current ≤ buffers.length)
    (reach : 0 < iter.currentBufferPosition →
      iter.Holds buffers ∧ iter.currentBufferPosition ≤ iter.currentBuffer.size)
    (positive : 0 < n) :
    ∃ next, Loop.evaluate (backwardBody buffers) (buffers.length + 1) (iter, n) = some next ∧
      next.At buffers index := by
  apply Loop.evaluate_of_variant
    (fun state : BuffersIterator × Nat => state.1.Placed buffers (index + state.2) ∧
      state.1.current ≤ buffers.length ∧ (0 < state.1.currentBufferPosition →
        state.1.Holds buffers ∧ state.1.currentBufferPosition ≤ state.1.currentBuffer.size) ∧
      0 < state.2)
    (fun next : BuffersIterator => next.At buffers index)
    (fun state : BuffersIterator × Nat => state.1.current)
  · rintro ⟨iter, left⟩ ⟨placed, within, reach, positive⟩
    dsimp only at placed within reach positive
    have place := placed.place
    have position := placed.position
    by_cases satisfied : iter.currentBufferPosition ≥ left
    · obtain ⟨holds, reach⟩ := reach (Nat.lt_of_lt_of_le positive satisfied)
      have passed : backwardBody buffers (iter, left) = .leave { iter with
          position := iter.position - left
          currentBufferPosition := iter.currentBufferPosition - left } := by
        simp only [backwardBody, satisfied, ↓reduceIte]
      refine .inl ⟨_, passed, ⟨placed.begin_, placed.end_, ?_, ?_⟩, .inl ⟨holds, ?_⟩⟩
      · change iter.position - left = index
        omega
      · change index = sizeBefore buffers iter.current + (iter.currentBufferPosition - left)
        omega
      · change iter.currentBufferPosition - left < iter.currentBuffer.size
        omega
    · have further : iter.current ≠ iter.begin_ := by
        intro first
        rw [first, placed.begin_, sizeBefore_zero] at place
        omega
      obtain ⟨previous, b, found, before, stored, room, size⟩ :=
        previous_spec placed.begin_ within (by omega)
      have same : BuffersIterator.previous buffers
          { iter with position := iter.position - iter.currentBufferPosition } =
          some (some (previous, b)) := found
      have passed : backwardBody buffers (iter, left) = .again ({ iter with
          position := iter.position - iter.currentBufferPosition
          current := previous
          currentBuffer := b
          currentBufferPosition := b.size }, left - iter.currentBufferPosition) := by
        simp only [backwardBody, satisfied, further, same, ↓reduceIte]
      refine .inr ⟨_, passed, ⟨⟨placed.begin_, placed.end_, ?_, ?_⟩,
        Nat.le_of_lt (Nat.lt_of_lt_of_le before within), fun _ => ⟨stored, Nat.le_refl _⟩, ?_⟩,
        before⟩
      · change iter.position - iter.currentBufferPosition =
          index + (left - iter.currentBufferPosition)
        omega
      · change index + (left - iter.currentBufferPosition) = sizeBefore buffers previous + b.size
        omega
      · change 0 < left - iter.currentBufferPosition
        omega
  · exact Nat.lt_succ_of_le within
  · exact ⟨placed, within, reach, positive⟩

/-- `advance` to an index within the total size. -/
theorem At.advance (at_ : iter.At buffers index) {n : Int} {target : Nat}
    (moved : (index : Int) + n = target) (inside : target ≤ bufferSize buffers) :
    ∃ next, iter.advance buffers n = some next ∧ next.At buffers target := by
  by_cases forward : 0 < n
  · obtain ⟨holds, byte⟩ := at_.byte (by omega)
    have unfinished : iter.current ≠ iter.end_ := by
      rw [at_.end_]
      exact Nat.ne_of_lt holds.lt
    have reached : index + n.toNat = target := by omega
    simp only [BuffersIterator.advance, forward, unfinished, ↓reduceIte]
    rw [← reached] at inside ⊢
    exact evaluate_forwardBody at_.toPlaced holds (Nat.le_of_lt byte) inside
  · by_cases backward : n < 0
    · have from_ : index = target + (-n).toNat := by omega
      have available : iter.position ≥ (-n).toNat := by
        rw [at_.position]
        omega
      simp only [BuffersIterator.advance, forward, backward, available, ↓reduceIte]
      apply evaluate_backwardBody (from_ ▸ at_.toPlaced) at_.current_le
      · intro entered
        obtain ⟨holds, byte⟩ := at_.stands.resolve_right fun behind =>
          Nat.ne_of_gt entered behind.2
        exact ⟨holds, Nat.le_of_lt byte⟩
      · omega
    · have same : index = target := by omega
      simp only [BuffersIterator.advance, forward, backward, ↓reduceIte]
      exact ⟨iter, rfl, same ▸ at_⟩

/-- **Step.** A move that keeps the index within the total size moves the iterator there. -/
theorem At.move (at_ : iter.At buffers index) {m : Move} {target : Nat}
    (moved : (index : Int) + m.displacement = target) (inside : target ≤ bufferSize buffers) :
    ∃ next, iter.move buffers m = some next ∧ next.At buffers target := by
  cases m with
  | increment =>
      have same : index + 1 = target := by
        simp only [Move.displacement] at moved
        omega
      subst same
      exact at_.increment inside
  | decrement =>
      have same : index = target + 1 := by
        simp only [Move.displacement] at moved
        omega
      subst same
      exact at_.decrement
  | add n => exact at_.advance moved inside
  | subtract n => exact at_.advance moved inside

end BuffersIterator

end Asio.Transmit
