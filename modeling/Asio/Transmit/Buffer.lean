import Asio.Lib.Memory
import Mathlib.Algebra.Ring.Nat
import Mathlib.Data.List.Basic

/-! # Buffers and their consumption

A buffer is a range of memory and a buffer sequence a list of them, held in one
of the types for which `asio::detail::consuming_buffers` has a version of its
own. Flattened, a sequence is the list of the cells its buffers cover, and each
version of `consuming_buffers` is a position in that list: what `prepare` offers
begins there, and `consume` moves it on.
-/

namespace Asio.Transmit

/-- `mutable_buffer` and `const_buffer`. -/
structure Buffer where
  data : Nat
  size : Nat
  deriving DecidableEq, Repr

namespace Buffer

/-- The memory cells a buffer covers. -/
def cells (buffer : Buffer) : List Nat := List.range' buffer.data buffer.size

/-- `operator+(buffer, n)`. -/
instance : HAdd Buffer Nat Buffer where
  hAdd buffer n :=
    let offset := if n < buffer.size then n else buffer.size
    ⟨buffer.data + offset, buffer.size - offset⟩

@[simp] theorem length_cells (buffer : Buffer) : buffer.cells.length = buffer.size :=
  List.length_range'

@[simp] theorem size_add (buffer : Buffer) (n : Nat) : (buffer + n).size = buffer.size - n := by
  change buffer.size - (if n < buffer.size then n else buffer.size) = _
  split <;> omega

@[simp] theorem cells_add (buffer : Buffer) (n : Nat) :
    (buffer + n).cells = buffer.cells.drop n := by
  by_cases inside : n < buffer.size
  · have moved : buffer + n = ⟨buffer.data + n, buffer.size - n⟩ := by
      change Buffer.mk _ _ = _
      simp only [inside, ↓reduceIte]
    rw [moved, cells, cells, List.drop_range', Nat.mul_one]
  · rw [List.drop_eq_nil_of_le (by simpa using Nat.le_of_not_lt inside),
      ← List.length_eq_zero_iff, length_cells, size_add]
    omega

end Buffer

/-- `asio::buffer(b, max_size_in_bytes)`. -/
def buffer (b : Buffer) (maxSize : Nat) : Buffer :=
  ⟨b.data, if b.size < maxSize then b.size else maxSize⟩

@[simp] theorem size_buffer (b : Buffer) (maxSize : Nat) :
    (buffer b maxSize).size = min b.size maxSize := by
  simp only [buffer]
  split <;> omega

@[simp] theorem cells_buffer (b : Buffer) (maxSize : Nat) :
    (buffer b maxSize).cells = b.cells.take maxSize := by
  by_cases fits : b.size < maxSize
  · have whole : buffer b maxSize = b := by simp only [buffer, fits, ↓reduceIte]
    rw [whole, Buffer.cells, List.take_range'_of_length_le (Nat.le_of_lt fits)]
  · have part : buffer b maxSize = ⟨b.data, maxSize⟩ := by simp only [buffer, fits, ↓reduceIte]
    rw [part, Buffer.cells, Buffer.cells, List.take_range'_of_length_ge (Nat.le_of_not_lt fits)]

/-- The cells of a list of buffers, one buffer after the other. -/
def flatten (buffers : List Buffer) : List Nat := buffers.flatMap Buffer.cells

@[simp] theorem flatten_nil : flatten [] = [] := rfl

@[simp] theorem flatten_cons (b : Buffer) (buffers : List Buffer) :
    flatten (b :: buffers) = b.cells ++ flatten buffers := rfl

/-- `asio::buffer_size` of a range of buffers. -/
def bufferSize (buffers : List Buffer) : Nat := (buffers.map Buffer.size).sum

@[simp] theorem length_flatten (buffers : List Buffer) :
    (flatten buffers).length = bufferSize buffers := by
  induction buffers with
  | nil => rfl
  | cons b buffers ih =>
      rw [flatten_cons, List.length_append, ih, Buffer.length_cells]
      rfl

/-- The types of buffer sequence that `consuming_buffers` tells apart. -/
inductive BufferSequence where
  /-- A `mutable_buffer` or `const_buffer`. -/
  | single (b : Buffer)
  /-- A `boost::array` or `std::array` of two buffers. -/
  | pair (first second : Buffer)
  /-- A `boost::array` or `std::array` of any number of buffers but two. -/
  | array (buffers : List Buffer)
  /-- Any other range of buffers. -/
  | range (buffers : List Buffer)
  /-- `null_buffers`. -/
  | nullBuffers
  deriving DecidableEq, Repr

/-- The buffers of a sequence. -/
def BufferSequence.buffers : BufferSequence → List Buffer
  | .single b => [b]
  | .pair first second => [first, second]
  | .array buffers => buffers
  | .range buffers => buffers
  | .nullBuffers => []

/-- `buffer_sequence_adapter_base::max_buffers`. -/
def adapterMaxBuffers : Nat := 64

/-- `prepared_buffers_max<Buffers>::value`. -/
def BufferSequence.preparedBuffersMax : BufferSequence → Nat
  | .array buffers => buffers.length
  | _ => adapterMaxBuffers

/-- `prepared_buffers<Buffer, MaxBuffers>::max_buffers`. -/
def preparedMaxBuffers (maxBuffers : Nat) : Nat := if maxBuffers < 16 then maxBuffers else 16

theorem preparedMaxBuffers_pos {maxBuffers : Nat} (positive : 0 < maxBuffers) :
    0 < preparedMaxBuffers maxBuffers := by
  unfold preparedMaxBuffers
  split
  · exact positive
  · exact Nat.succ_pos 15

/-- The version of `consuming_buffers` for a range: `maxBuffers` is the
`max_buffers` of its `prepared_buffers_type`. -/
structure ConsumingRange where
  buffers : List Buffer
  maxBuffers : Nat
  totalSize : Nat
  totalConsumed : Nat := 0
  nextElem : Nat := 0
  nextElemOffset : Nat := 0
  deriving DecidableEq, Repr

namespace ConsumingRange

def empty (tmp : ConsumingRange) : Bool := decide (tmp.totalConsumed ≥ tmp.totalSize)

/-- The loop of `prepare`, from the element reached. -/
def prepareFrom (maxBuffers : Nat) : List Buffer → Nat → Nat → Nat → List Buffer
  | [], _, _, _ => []
  | next :: rest, elemOffset, maxSize, count =>
      if 0 < maxSize ∧ count < maxBuffers then
        let elem := buffer (next + elemOffset) maxSize
        if 0 < elem.size then
          elem :: prepareFrom maxBuffers rest 0 (maxSize - elem.size) (count + 1)
        else
          prepareFrom maxBuffers rest 0 (maxSize - elem.size) count
      else
        []

def prepare (tmp : ConsumingRange) (maxSize : Nat) : List Buffer :=
  prepareFrom tmp.maxBuffers (tmp.buffers.drop tmp.nextElem) tmp.nextElemOffset maxSize 0

/-- The loop of `consume`, from the element reached: by how much `next_elem_`
advances, and the new `next_elem_offset_`. -/
def consumeFrom : List Buffer → Nat → Nat → Nat × Nat
  | [], offset, _ => (0, offset)
  | next :: rest, offset, size =>
      if 0 < size then
        if size < (next + offset).size then
          (0, offset + size)
        else
          let (skipped, reached) := consumeFrom rest 0 (size - (next + offset).size)
          (skipped + 1, reached)
      else
        (0, offset)

def consume (tmp : ConsumingRange) (size : Nat) : ConsumingRange :=
  let (skipped, offset) := consumeFrom (tmp.buffers.drop tmp.nextElem) tmp.nextElemOffset size
  { tmp with
    totalConsumed := tmp.totalConsumed + size
    nextElem := tmp.nextElem + skipped
    nextElemOffset := offset }

end ConsumingRange

/-- `consuming_single_buffer`. -/
structure ConsumingSingle where
  buffer : Buffer
  totalConsumed : Nat := 0
  deriving DecidableEq, Repr

namespace ConsumingSingle

def empty (tmp : ConsumingSingle) : Bool := decide (tmp.totalConsumed ≥ tmp.buffer.size)

def prepare (tmp : ConsumingSingle) (maxSize : Nat) : Buffer :=
  Transmit.buffer (tmp.buffer + tmp.totalConsumed) maxSize

def consume (tmp : ConsumingSingle) (size : Nat) : ConsumingSingle :=
  { tmp with totalConsumed := tmp.totalConsumed + size }

end ConsumingSingle

/-- The version of `consuming_buffers` for an array of two buffers. -/
structure ConsumingPair where
  first : Buffer
  second : Buffer
  totalConsumed : Nat := 0
  deriving DecidableEq, Repr

namespace ConsumingPair

def empty (tmp : ConsumingPair) : Bool :=
  decide (tmp.totalConsumed ≥ tmp.first.size + tmp.second.size)

def prepare (tmp : ConsumingPair) (maxSize : Nat) : List Buffer :=
  let first := buffer (tmp.first + tmp.totalConsumed) maxSize
  let second := buffer
    (tmp.second + if tmp.totalConsumed < tmp.first.size then 0
      else tmp.totalConsumed - tmp.first.size)
    (maxSize - first.size)
  [first, second]

def consume (tmp : ConsumingPair) (size : Nat) : ConsumingPair :=
  { tmp with totalConsumed := tmp.totalConsumed + size }

end ConsumingPair

/-- `consuming_buffers`: the version chosen by the type of the sequence. -/
inductive ConsumingBuffers where
  | single (tmp : ConsumingSingle)
  | pair (tmp : ConsumingPair)
  | range (tmp : ConsumingRange)
  | nullBuffers
  deriving DecidableEq, Repr

/-- The constructor of `consuming_buffers`. -/
def BufferSequence.consuming (sequence : BufferSequence) : ConsumingBuffers :=
  match sequence with
  | .single b => .single ⟨b, 0⟩
  | .pair first second => .pair ⟨first, second, 0⟩
  | .array buffers | .range buffers =>
      .range
        { buffers
          maxBuffers := preparedMaxBuffers sequence.preparedBuffersMax
          totalSize := bufferSize buffers }
  | .nullBuffers => .nullBuffers

namespace ConsumingBuffers

def empty : ConsumingBuffers → Bool
  | .single tmp => tmp.empty
  | .pair tmp => tmp.empty
  | .range tmp => tmp.empty
  | .nullBuffers => false

def prepare (tmp : ConsumingBuffers) (maxSize : Nat) : List Buffer :=
  match tmp with
  | .single tmp => [tmp.prepare maxSize]
  | .pair tmp => tmp.prepare maxSize
  | .range tmp => tmp.prepare maxSize
  | .nullBuffers => []

def consume (tmp : ConsumingBuffers) (size : Nat) : ConsumingBuffers :=
  match tmp with
  | .single tmp => .single (tmp.consume size)
  | .pair tmp => .pair (tmp.consume size)
  | .range tmp => .range (tmp.consume size)
  | .nullBuffers => .nullBuffers

def totalConsumed : ConsumingBuffers → Nat
  | .single tmp => tmp.totalConsumed
  | .pair tmp => tmp.totalConsumed
  | .range tmp => tmp.totalConsumed
  | .nullBuffers => 0

end ConsumingBuffers

/-! ## Each version is a position in the flattened sequence -/

namespace ConsumingRange

/-- The fields of a range version that has consumed `total` of the cells. -/
structure At (tmp : ConsumingRange) (cells : List Nat) (total : Nat) : Prop where
  consumed : tmp.totalConsumed = total
  size : tmp.totalSize = cells.length
  rest : (flatten (tmp.buffers.drop tmp.nextElem)).drop tmp.nextElemOffset = cells.drop total
  inside : ∀ b ∈ (tmp.buffers.drop tmp.nextElem).head?, tmp.nextElemOffset ≤ b.size
  room : 0 < tmp.maxBuffers ∨ cells = []

/-- What is offered begins where the elements left begin. -/
theorem flatten_prepareFrom_prefix (maxBuffers : Nat) (buffers : List Buffer)
    (offset maxSize count : Nat) (inside : ∀ b ∈ buffers.head?, offset ≤ b.size) :
    flatten (prepareFrom maxBuffers buffers offset maxSize count) <+:
      (flatten buffers).drop offset := by
  induction buffers generalizing offset maxSize count with
  | nil => exact List.nil_prefix
  | cons next rest ih =>
      have within : offset ≤ next.cells.length := by
        simpa using inside next rfl
      have offered := fun maxSize count => ih 0 maxSize count fun _ _ => Nat.zero_le _
      rw [prepareFrom, flatten_cons, List.drop_append_of_le_length within]
      split
      · rename_i proceeds
        dsimp only
        by_cases fits : (next + offset).size ≤ maxSize
        · have whole : (buffer (next + offset) maxSize).cells = next.cells.drop offset := by
            rw [cells_buffer, Buffer.cells_add, List.take_of_length_le]
            simpa using fits
          split
          · rw [flatten_cons, whole]
            exact (List.prefix_append_right_inj _).mpr (offered _ _)
          · rename_i skipped
            have none : next.cells.drop offset = [] := by
              rw [← whole, ← List.length_eq_zero_iff, Buffer.length_cells]
              omega
            rw [none, List.nil_append]
            exact offered _ _
        · have full : (buffer (next + offset) maxSize).size = maxSize := by
            rw [size_buffer]
            omega
          rw [full, Nat.sub_self]
          simp only [proceeds, ↓reduceIte, flatten_cons, cells_buffer, Buffer.cells_add]
          have ended : flatten (prepareFrom maxBuffers rest 0 0 (count + 1)) = [] := by
            cases rest <;> rfl
          rw [ended, List.append_nil]
          exact (List.take_prefix _ _).trans (List.prefix_append _ _)
      · exact List.nil_prefix

/-- No more than the size asked for is offered. -/
theorem length_flatten_prepareFrom_le (maxBuffers : Nat) (buffers : List Buffer)
    (offset maxSize count : Nat) :
    (flatten (prepareFrom maxBuffers buffers offset maxSize count)).length ≤ maxSize := by
  induction buffers generalizing offset maxSize count with
  | nil => exact Nat.zero_le _
  | cons next rest ih =>
      have offered := ih 0 (maxSize - (buffer (next + offset) maxSize).size)
      have part : (buffer (next + offset) maxSize).size ≤ maxSize := by
        rw [size_buffer]
        exact Nat.min_le_right _ _
      rw [prepareFrom]
      split
      · dsimp only
        split
        · rw [flatten_cons, List.length_append, Buffer.length_cells]
          have := offered (count + 1)
          omega
        · exact Nat.le_trans (offered count) (Nat.sub_le _ _)
      · exact Nat.zero_le _

/-- While something is left and something is asked for, something is offered. -/
theorem flatten_prepareFrom_ne_nil {maxBuffers maxSize count : Nat} {buffers : List Buffer}
    {offset : Nat} (inside : ∀ b ∈ buffers.head?, offset ≤ b.size)
    (left : (flatten buffers).drop offset ≠ []) (positive : 0 < maxSize)
    (below : count < maxBuffers) :
    flatten (prepareFrom maxBuffers buffers offset maxSize count) ≠ [] := by
  induction buffers generalizing offset with
  | nil => exact absurd List.drop_nil left
  | cons next rest ih =>
      have within : offset ≤ next.cells.length := by
        simpa using inside next rfl
      rw [flatten_cons, List.drop_append_of_le_length within] at left
      simp only [prepareFrom, positive, below, true_and, ↓reduceIte]
      split
      · rename_i offered
        rw [flatten_cons, ← List.length_pos_iff, List.length_append, Buffer.length_cells]
        omega
      · rename_i skipped
        have none : (buffer (next + offset) maxSize).size = 0 := by omega
        have ended : next.cells.drop offset = [] := by
          rw [size_buffer, Buffer.size_add] at none
          exact List.drop_eq_nil_of_le (by rw [Buffer.length_cells]; omega)
        rw [ended, List.nil_append] at left
        rw [none, Nat.sub_zero]
        exact ih (fun _ _ => Nat.zero_le _) left

/-- Consuming moves on by the size consumed, and stays inside an element. -/
theorem consumeFrom_spec {buffers : List Buffer} {offset size : Nat}
    (inside : ∀ b ∈ buffers.head?, offset ≤ b.size) {skipped reached : Nat}
    (consumed : consumeFrom buffers offset size = (skipped, reached))
    (available : size ≤ ((flatten buffers).drop offset).length) :
    (flatten (buffers.drop skipped)).drop reached =
        ((flatten buffers).drop offset).drop size ∧
      ∀ b ∈ (buffers.drop skipped).head?, reached ≤ b.size := by
  induction buffers generalizing offset size skipped with
  | nil =>
      rw [flatten_nil, List.drop_nil, List.drop_nil, List.drop_nil]
      exact ⟨by rw [flatten_nil, List.drop_nil], fun _ member => by simp at member⟩
  | cons next rest ih =>
      have within : offset ≤ next.cells.length := by
        simpa using inside next rfl
      rw [consumeFrom] at consumed
      split at consumed
      · rename_i positive
        split at consumed
        · rename_i partly
          cases consumed
          refine ⟨(List.drop_drop ..).symm, ?_⟩
          intro b member
          cases member
          rw [Buffer.size_add] at partly
          omega
        · rename_i wholly
          cases further : consumeFrom rest 0 (size - (next + offset).size) with
          | mk skips reach =>
              simp only [further, Prod.mk.injEq] at consumed
              obtain ⟨rfl, rfl⟩ := consumed
              rw [Nat.not_lt] at wholly
              rw [flatten_cons, List.drop_append_of_le_length within] at available ⊢
              have length : (next.cells.drop offset).length = (next + offset).size := by
                rw [List.length_drop, Buffer.length_cells, Buffer.size_add]
              have moved := ih (fun _ _ => Nat.zero_le _) further (by
                rw [List.length_append, length] at available
                rw [List.drop_zero]
                omega)
              have ended : (next.cells.drop offset).drop size = [] :=
                List.drop_eq_nil_of_le (by omega)
              rw [List.drop_append, ended, length, List.nil_append, List.drop_succ_cons]
              exact moved
      · rename_i nothing
        cases consumed
        have zero : size = 0 := by omega
        subst zero
        exact ⟨(List.drop_zero ..).symm, inside⟩

end ConsumingRange

namespace ConsumingBuffers

/-- A version of `consuming_buffers` that has consumed `total` of the cells. -/
def At (cells : List Nat) (total : Nat) : ConsumingBuffers → Prop
  | .single tmp => tmp.buffer.cells = cells ∧ tmp.totalConsumed = total
  | .pair tmp => tmp.first.cells ++ tmp.second.cells = cells ∧ tmp.totalConsumed = total
  | .range tmp => tmp.At cells total
  | .nullBuffers => False

variable {tmp : ConsumingBuffers} {cells : List Nat} {total : Nat}

theorem At.totalConsumed (at_ : tmp.At cells total) : tmp.totalConsumed = total := by
  cases tmp with
  | single tmp => exact at_.2
  | pair tmp => exact at_.2
  | range tmp => exact at_.consumed
  | nullBuffers => exact at_.elim

theorem At.empty (at_ : tmp.At cells total) : tmp.empty = decide (cells.length ≤ total) := by
  cases tmp with
  | single tmp =>
      obtain ⟨rfl, rfl⟩ := at_
      rw [Buffer.length_cells]
      rfl
  | pair tmp =>
      obtain ⟨rfl, rfl⟩ := at_
      rw [List.length_append, Buffer.length_cells, Buffer.length_cells]
      rfl
  | range tmp =>
      change decide (tmp.totalConsumed ≥ tmp.totalSize) = _
      rw [at_.consumed, at_.size]
  | nullBuffers => exact at_.elim

/-- What the pair offers is the front of what is left of both buffers. -/
theorem flatten_prepare_pair (tmp : ConsumingPair) (maxSize : Nat) :
    flatten (tmp.prepare maxSize) =
      ((tmp.first.cells ++ tmp.second.cells).drop tmp.totalConsumed).take maxSize := by
  simp only [ConsumingPair.prepare, flatten_cons, flatten_nil, List.append_nil, cells_buffer,
    Buffer.cells_add, size_buffer, Buffer.size_add, List.drop_append, List.take_append,
    List.length_drop, Buffer.length_cells]
  congr 1
  have skip : (if tmp.totalConsumed < tmp.first.size then 0
      else tmp.totalConsumed - tmp.first.size) = tmp.totalConsumed - tmp.first.size := by
    split <;> omega
  have left : maxSize - min (tmp.first.size - tmp.totalConsumed) maxSize =
      maxSize - (tmp.first.size - tmp.totalConsumed) := by omega
  rw [skip, left]

/-- What `prepare` offers begins at the position. -/
theorem At.prepare_prefix (at_ : tmp.At cells total) (maxSize : Nat) :
    flatten (tmp.prepare maxSize) <+: cells.drop total := by
  cases tmp with
  | single tmp =>
      obtain ⟨rfl, rfl⟩ := at_
      simp only [prepare, ConsumingSingle.prepare, flatten_cons, flatten_nil, List.append_nil,
        cells_buffer, Buffer.cells_add]
      exact List.take_prefix _ _
  | pair tmp =>
      obtain ⟨rfl, rfl⟩ := at_
      change flatten (tmp.prepare maxSize) <+: _
      rw [flatten_prepare_pair]
      exact List.take_prefix _ _
  | range tmp =>
      rw [← at_.rest]
      exact ConsumingRange.flatten_prepareFrom_prefix _ _ _ _ _ at_.inside
  | nullBuffers => exact at_.elim

/-- No more than the size asked for is offered. -/
theorem At.length_prepare_le (at_ : tmp.At cells total) (maxSize : Nat) :
    (flatten (tmp.prepare maxSize)).length ≤ maxSize := by
  cases tmp with
  | single tmp =>
      simp only [prepare, ConsumingSingle.prepare, flatten_cons, flatten_nil, List.append_nil,
        cells_buffer]
      exact List.length_take_le _ _
  | pair tmp =>
      change (flatten (tmp.prepare maxSize)).length ≤ _
      rw [flatten_prepare_pair]
      exact List.length_take_le _ _
  | range tmp => exact ConsumingRange.length_flatten_prepareFrom_le _ _ _ _ _
  | nullBuffers => exact at_.elim

/-- Short of the end, a positive size is met with some room. -/
theorem At.prepare_ne_nil (at_ : tmp.At cells total) {maxSize : Nat} (positive : 0 < maxSize)
    (short : total < cells.length) : flatten (tmp.prepare maxSize) ≠ [] := by
  have left : cells.drop total ≠ [] := by
    rw [ne_eq, List.drop_eq_nil_iff]
    omega
  have taken : (cells.drop total).take maxSize ≠ [] := by
    rw [ne_eq, List.take_eq_nil_iff]
    exact not_or.mpr ⟨Nat.ne_of_gt positive, left⟩
  cases tmp with
  | single tmp =>
      obtain ⟨rfl, rfl⟩ := at_
      simpa only [prepare, ConsumingSingle.prepare, flatten_cons, flatten_nil, List.append_nil,
        cells_buffer, Buffer.cells_add] using taken
  | pair tmp =>
      obtain ⟨rfl, rfl⟩ := at_
      change flatten (tmp.prepare maxSize) ≠ []
      rwa [flatten_prepare_pair]
  | range tmp =>
      have some : 0 < tmp.maxBuffers := by
        refine at_.room.resolve_right ?_
        rintro rfl
        exact absurd short (Nat.not_lt_zero _)
      exact ConsumingRange.flatten_prepareFrom_ne_nil at_.inside (at_.rest ▸ left) positive some
  | nullBuffers => exact at_.elim

/-- `consume` moves the position on. -/
theorem At.consume (at_ : tmp.At cells total) {size : Nat} (available : total + size ≤ cells.length) :
    (tmp.consume size).At cells (total + size) := by
  cases tmp with
  | single tmp => exact ⟨at_.1, by rw [← at_.2]; rfl⟩
  | pair tmp => exact ⟨at_.1, by rw [← at_.2]; rfl⟩
  | range tmp =>
      cases moved : ConsumingRange.consumeFrom (tmp.buffers.drop tmp.nextElem)
          tmp.nextElemOffset size with
      | mk skipped offset =>
          obtain ⟨rest, inside⟩ := ConsumingRange.consumeFrom_spec at_.inside moved (by
            rw [at_.rest, List.length_drop]
            omega)
          rw [List.drop_drop, at_.rest, List.drop_drop] at rest
          rw [List.drop_drop] at inside
          simp only [ConsumingBuffers.consume, ConsumingRange.consume, moved]
          exact ⟨congrArg (· + size) at_.consumed, at_.size, rest, inside, at_.room⟩
  | nullBuffers => exact at_.elim

end ConsumingBuffers

/-- The constructor starts at the front of the sequence. -/
theorem BufferSequence.at_consuming {sequence : BufferSequence}
    (real : sequence ≠ .nullBuffers) :
    sequence.consuming.At (flatten sequence.buffers) 0 := by
  cases sequence with
  | single b => exact ⟨(List.append_nil _).symm, rfl⟩
  | pair first second =>
      refine ⟨?_, rfl⟩
      simp only [BufferSequence.buffers, flatten_cons, flatten_nil, List.append_nil]
  | array buffers =>
      refine ⟨rfl, (length_flatten buffers).symm, rfl, fun _ _ => Nat.zero_le _, ?_⟩
      cases buffers with
      | nil => exact .inr rfl
      | cons b buffers =>
          exact .inl (preparedMaxBuffers_pos (Nat.succ_pos buffers.length))
  | range buffers =>
      exact ⟨rfl, (length_flatten buffers).symm, rfl, fun _ _ => Nat.zero_le _,
        .inl (Nat.succ_pos 15)⟩
  | nullBuffers => exact absurd rfl real

end Asio.Transmit
