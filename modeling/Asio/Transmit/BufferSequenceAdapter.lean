import Asio.Transmit.Buffer

/-! # `buffer_sequence_adapter`

The adapter hands at most `max_buffers` buffers of a sequence to the system. Whether a
sequence is empty it decides by the buffers it takes, both after its construction and
before.
-/

namespace Asio.Transmit

/-- The loop of `init`: `buffers_[0 .. count_)` and `total_buffer_size_`. -/
def adapterInit : List Buffer → List Buffer → Nat → List Buffer × Nat
  | [], native, totalBufferSize => (native, totalBufferSize)
  | b :: rest, native, totalBufferSize =>
      if native.length < adapterMaxBuffers then
        adapterInit rest (native ++ [b]) (totalBufferSize + b.size)
      else (native, totalBufferSize)

/-- The loop of the static `all_empty`. -/
def allEmptyFrom : List Buffer → Nat → Bool
  | [], _ => true
  | b :: rest, i =>
      if i < adapterMaxBuffers then
        if b.size > 0 then false else allEmptyFrom rest (i + 1)
      else true

/-- `buffer_sequence_adapter`: `buffers_` up to `count_`, and `total_buffer_size_`. -/
structure BufferSequenceAdapter where
  native : List Buffer
  totalBufferSize : Nat

/-- The constructor for a range of buffers. -/
def BufferSequenceAdapter.ofRange (buffers : List Buffer) : BufferSequenceAdapter :=
  ⟨(adapterInit buffers [] 0).1, (adapterInit buffers [] 0).2⟩

/-- The constructor, with a version of its own for one buffer and for two. -/
def BufferSequence.adapter : BufferSequence → BufferSequenceAdapter
  | .single b => ⟨[b], b.size⟩
  | .pair first second => ⟨[first, second], first.size + second.size⟩
  | sequence => .ofRange sequence.buffers

/-- The member `all_empty`. -/
def BufferSequenceAdapter.allEmpty (bufs : BufferSequenceAdapter) : Bool :=
  bufs.totalBufferSize == 0

/-- The static `all_empty`. -/
def BufferSequence.allEmpty : BufferSequence → Bool
  | .single b => b.size == 0
  | .pair first second => first.size == 0 && second.size == 0
  | sequence => allEmptyFrom sequence.buffers 0

/-! ## What the adapter takes -/

theorem adapterInit_eq (buffers native : List Buffer) (totalBufferSize : Nat) :
    adapterInit buffers native totalBufferSize =
      (native ++ buffers.take (adapterMaxBuffers - native.length),
        totalBufferSize + bufferSize (buffers.take (adapterMaxBuffers - native.length))) := by
  induction buffers generalizing native totalBufferSize with
  | nil => rw [adapterInit, List.take_nil, List.append_nil]; rfl
  | cons b rest ih =>
      rw [adapterInit]
      split
      · next room =>
        obtain ⟨left, more⟩ : ∃ left, adapterMaxBuffers - native.length = left + 1 :=
          ⟨adapterMaxBuffers - native.length - 1, by omega⟩
        have next : adapterMaxBuffers - (native ++ [b]).length = left := by
          rw [List.length_append, List.length_singleton]
          omega
        rw [ih, next, more, List.take_succ_cons, List.append_assoc, List.singleton_append,
          bufferSize, bufferSize, List.map_cons, List.sum_cons, Nat.add_assoc]
      · next full =>
        rw [Nat.sub_eq_zero_of_le (Nat.le_of_not_lt full), List.take_zero, List.append_nil]
        rfl

theorem allEmptyFrom_iff (buffers : List Buffer) (i : Nat) :
    allEmptyFrom buffers i = true ↔ bufferSize (buffers.take (adapterMaxBuffers - i)) = 0 := by
  induction buffers generalizing i with
  | nil =>
      rw [List.take_nil]
      exact iff_of_true rfl rfl
  | cons b rest ih =>
      rw [allEmptyFrom]
      split
      · next room =>
        obtain ⟨left, more⟩ : ∃ left, adapterMaxBuffers - i = left + 1 :=
          ⟨adapterMaxBuffers - i - 1, by omega⟩
        have next : adapterMaxBuffers - (i + 1) = left := by omega
        rw [more, List.take_succ_cons, bufferSize, List.map_cons, List.sum_cons]
        change _ ↔ b.size + bufferSize (rest.take left) = 0
        split
        · next some => exact iff_of_false Bool.false_ne_true (by omega)
        · next none =>
          rw [ih, next]
          omega
      · next full =>
        rw [Nat.sub_eq_zero_of_le (Nat.le_of_not_lt full), List.take_zero]
        exact iff_of_true rfl rfl

/-- The buffers that the adapter looks at. -/
def BufferSequence.taken (sequence : BufferSequence) : List Buffer :=
  sequence.buffers.take adapterMaxBuffers

theorem BufferSequence.adapter_eq (sequence : BufferSequence) :
    sequence.adapter = ⟨sequence.taken, bufferSize sequence.taken⟩ := by
  have range : ∀ buffers : List Buffer, BufferSequenceAdapter.ofRange buffers =
      ⟨buffers.take adapterMaxBuffers, bufferSize (buffers.take adapterMaxBuffers)⟩ := by
    intro buffers
    rw [BufferSequenceAdapter.ofRange, adapterInit_eq, List.nil_append, Nat.zero_add]
    rfl
  cases sequence with
  | single b => rfl
  | pair first second => rfl
  | array buffers => exact range buffers
  | range buffers => exact range buffers
  | nullBuffers => exact range []

theorem BufferSequence.allEmpty_iff (sequence : BufferSequence) :
    sequence.allEmpty = true ↔ bufferSize sequence.taken = 0 := by
  cases sequence with
  | single b =>
      change (b.size == 0) = true ↔ b.size + 0 = 0
      rw [beq_iff_eq, Nat.add_zero]
  | pair first second =>
      change (first.size == 0 && second.size == 0) = true ↔ first.size + (second.size + 0) = 0
      rw [Bool.and_eq_true, beq_iff_eq, beq_iff_eq]
      omega
  | array buffers => exact allEmptyFrom_iff buffers 0
  | range buffers => exact allEmptyFrom_iff buffers 0
  | nullBuffers => exact allEmptyFrom_iff [] 0

/-- Both forms of `all_empty` agree. -/
theorem BufferSequence.allEmpty_adapter (sequence : BufferSequence) :
    sequence.adapter.allEmpty = sequence.allEmpty := by
  rw [Bool.eq_iff_iff, allEmpty_iff, adapter_eq, BufferSequenceAdapter.allEmpty, beq_iff_eq]

theorem flatten_take_front (buffers : List Buffer) (n : Nat) :
    flatten (buffers.take n) <+: flatten buffers := by
  refine ⟨flatten (buffers.drop n), ?_⟩
  rw [flatten, flatten, ← List.flatMap_append, List.take_append_drop]
  rfl

theorem BufferSequence.taken_front (sequence : BufferSequence) :
    flatten sequence.adapter.native <+: flatten sequence.buffers := by
  rw [adapter_eq]
  exact flatten_take_front _ _

/-- What the adapter takes is no larger than the sequence. -/
theorem BufferSequence.size_taken_le (sequence : BufferSequence) :
    bufferSize sequence.taken ≤ bufferSize sequence.buffers := by
  rw [← length_flatten, ← length_flatten]
  exact (flatten_take_front _ _).length_le

/-- The adapter sees a byte of every sequence that has one. -/
def BufferSequence.Seen (sequence : BufferSequence) : Prop :=
  bufferSize sequence.buffers = 0 ∨ 0 < bufferSize sequence.taken

/-- What the adapter says of a sequence. -/
structure BufferSequence.Adapts (sequence : BufferSequence) : Prop where
  member : sequence.adapter.allEmpty = true ↔ bufferSize sequence.buffers = 0
  static : sequence.allEmpty = true ↔ bufferSize sequence.buffers = 0
  front : flatten sequence.adapter.native <+: flatten sequence.buffers
  nonempty : 0 < bufferSize sequence.buffers → flatten sequence.adapter.native ≠ []

theorem BufferSequence.allEmpty_iff_of_seen {sequence : BufferSequence} (seen : sequence.Seen) :
    sequence.allEmpty = true ↔ bufferSize sequence.buffers = 0 := by
  have smaller := sequence.size_taken_le
  rw [allEmpty_iff]
  rcases seen with nothing | some
  · omega
  · omega

theorem BufferSequence.adapts_iff (sequence : BufferSequence) :
    sequence.Adapts ↔ sequence.Seen := by
  constructor
  · intro adapts
    by_cases nothing : bufferSize sequence.buffers = 0
    · exact .inl nothing
    · right
      rw [Nat.pos_iff_ne_zero, ne_eq, ← allEmpty_iff, adapts.static]
      exact nothing
  · intro seen
    refine ⟨?_, allEmpty_iff_of_seen seen, sequence.taken_front, fun positive => ?_⟩
    · rw [allEmpty_adapter]
      exact allEmpty_iff_of_seen seen
    · rw [← List.length_pos_iff, length_flatten, adapter_eq]
      exact seen.resolve_left (Nat.ne_of_gt positive)

end Asio.Transmit
