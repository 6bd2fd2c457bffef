import Asio.Transmit.DynamicBuffer

/-! # The input and output sequences of a dynamic buffer

The adapted container holds the input sequence and, after it, the output sequence;
only the size of the first is stored. Every order of `prepare`, writes, `commit` and
`consume` keeps them apart as two lists would.
-/

namespace Asio.Transmit

/-- What a program does with a dynamic buffer; `write` stores one byte of the prepared
region. -/
inductive BufferAction where
  | prepare (n : Nat)
  | write (offset : Nat) (byte : Byte)
  | commit (n : Nat)
  | consume (n : Nat)
  deriving DecidableEq, Repr

/-! ## Two sequences -/

/-- The model of a dynamic buffer: two sequences and the limit on their sizes. -/
structure Sequences where
  input : List Byte
  output : List Byte
  maxSize : Nat
  deriving DecidableEq, Repr

namespace Sequences

/-- The output sequence with a size, its bytes kept as far as they go. -/
def resized (output : List Byte) (n : Nat) : List Byte :=
  output.take n ++ List.replicate (n - output.length) 0

/-- `prepare` does nothing where it throws. -/
def step (s : Sequences) : BufferAction → Sequences
  | .prepare n =>
      if s.input.length + n ≤ s.maxSize then { s with output := resized s.output n } else s
  | .write offset byte => { s with output := s.output.set offset byte }
  | .commit n => { s with input := s.input ++ s.output.take n, output := [] }
  | .consume n => { s with input := s.input.drop n }

def run (s : Sequences) (actions : List BufferAction) : Sequences := actions.foldl step s

/-- The bytes that an action moves from the output sequence. -/
def taken (s : Sequences) : BufferAction → List Byte
  | .commit n => s.output.take n
  | _ => []

/-- How much an action removes from the front. -/
def removed (s : Sequences) : BufferAction → Nat
  | .consume n => min n s.input.length
  | _ => 0

/-- All bytes that were committed. -/
def committed (s : Sequences) : List BufferAction → List Byte
  | [] => []
  | action :: actions => s.taken action ++ (s.step action).committed actions

/-- The length of the prefix that was consumed. -/
def consumed (s : Sequences) : List BufferAction → Nat
  | [] => 0
  | action :: actions => s.removed action + (s.step action).consumed actions

theorem input_step (s : Sequences) (action : BufferAction) :
    (s.step action).input = (s.input ++ s.taken action).drop (s.removed action) := by
  cases action with
  | prepare n =>
      simp only [step, taken, removed, List.append_nil, List.drop_zero]
      split <;> rfl
  | write offset byte => simp only [step, taken, removed, List.append_nil, List.drop_zero]
  | commit n => simp only [step, taken, removed, List.drop_zero]
  | consume n =>
      simp only [step, taken, removed, List.append_nil]
      rw [← List.drop_eq_drop_min]

theorem removed_le (s : Sequences) (action : BufferAction) :
    s.removed action ≤ (s.input ++ s.taken action).length := by
  rw [List.length_append]
  cases action with
  | consume n => exact Nat.le_add_right_of_le (Nat.min_le_right _ _)
  | prepare n => exact Nat.zero_le _
  | write offset byte => exact Nat.zero_le _
  | commit n => exact Nat.zero_le _

/-- The input sequence is what there was, with what was committed, less the consumed
prefix. -/
theorem input_run (s : Sequences) (actions : List BufferAction) :
    (s.run actions).input = (s.input ++ s.committed actions).drop (s.consumed actions) := by
  induction actions generalizing s with
  | nil => rw [committed, consumed, List.append_nil, List.drop_zero]; rfl
  | cons action actions ih =>
      have later := ih (s.step action)
      rw [input_step, ← List.drop_append_of_le_length (s.removed_le action), List.drop_drop,
        List.append_assoc] at later
      exact later

end Sequences

/-! ## One container -/

namespace ContainerBuffer

variable {container : Container} {growth : Growth}

/-- The bytes behind the input sequence. -/
def output (b : ContainerBuffer container growth) : List Byte := b.contents.drop b.size

/-- A byte stored by the program, at an offset of the prepared region. -/
def write (b : ContainerBuffer container growth) (offset : Nat) (byte : Byte) :
    ContainerBuffer container growth :=
  { b with
    contents := b.contents.set (b.size + offset) byte
    size_le := by
      rw [List.length_set]
      exact b.size_le
    fits := by
      rw [List.length_set]
      exact b.fits }

def step (b : ContainerBuffer container growth) :
    BufferAction → ContainerBuffer container growth
  | .prepare n => (b.prepareIn n).2
  | .write offset byte => b.write offset byte
  | .commit n => b.commit n
  | .consume n => b.consume n

def run (b : ContainerBuffer container growth) (actions : List BufferAction) :
    ContainerBuffer container growth :=
  actions.foldl step b

/-- The subtractions of an action, with what each takes away. -/
def subtractions (b : ContainerBuffer container growth) : BufferAction → List (Nat × Nat)
  | .prepare _ => if b.size > b.maxSize then [] else [(b.maxSize, b.size)]
  | .write _ _ => []
  | .commit _ => [(b.contents.length, b.size)]
  | .consume n => [(b.size, min n b.size)]

/-- The two sequences in the container. -/
def sequences (b : ContainerBuffer container growth) : Sequences :=
  ⟨b.data, b.output, b.maxSize⟩

theorem length_output (b : ContainerBuffer container growth) :
    b.output.length = b.contents.length - b.size := List.length_drop

theorem contents_eq (b : ContainerBuffer container growth) : b.data ++ b.output = b.contents :=
  List.take_append_drop _ _

theorem prepareIn_fst (b : ContainerBuffer container growth) (n : Nat) :
    (b.prepareIn n).2 = match b.prepare n with
      | .ok prepared => prepared
      | .error _ => b := by
  rw [prepareIn, prepare]
  split <;> rfl

theorem prepareIn_of_lt (b : ContainerBuffer container growth) {n : Nat}
    (beyond : b.maxSize < b.size + n) : b.prepareIn n = (.error ⟨container.tooLong⟩, b) :=
  if_pos (by omega)

/-- The prepared region is all of the output sequence. -/
theorem prepareIn_of_le (b : ContainerBuffer container growth) {n : Nat}
    (within : b.size + n ≤ b.maxSize) :
    b.prepareIn n = (.ok ⟨b.size, n⟩, b.resize (b.size + n) (Nat.le_add_right _ _)) := by
  have allowed : ¬ (b.size > b.maxSize ∨ b.maxSize - b.size < n) := by omega
  have region : buffer ((b.resize (b.size + n) (Nat.le_add_right _ _)).whole + b.size) n =
      ⟨b.size, n⟩ := by
    rw [whole, length_resize]
    change buffer ⟨0 + (if b.size < b.size + n then b.size else b.size + n),
      b.size + n - (if b.size < b.size + n then b.size else b.size + n)⟩ n = _
    rw [buffer, Buffer.mk.injEq]
    constructor
    · dsimp only
      split <;> omega
    · dsimp only
      split <;> split <;> omega
  rw [prepareIn, if_neg allowed]
  exact congrArg (fun region => (Except.ok region, _)) region

theorem output_resize (b : ContainerBuffer container growth) (n : Nat) :
    (b.resize (b.size + n) (Nat.le_add_right _ _)).output = Sequences.resized b.output n := by
  have inside := b.size_le
  have front : b.size ≤ (b.contents.take (b.size + n)).length := by
    rw [List.length_take]
    omega
  have added : b.size + n - b.contents.length = n - b.output.length := by
    rw [length_output]
    omega
  change (b.contents.take (b.size + n) ++ List.replicate _ 0).drop b.size = _
  rw [List.drop_append_of_le_length front, List.drop_take, Nat.add_sub_cancel_left, added]
  rfl

/-! ### What each operation does to the two sequences -/

theorem sequences_prepare (b : ContainerBuffer container growth) (n : Nat) :
    (b.step (.prepare n)).sequences = b.sequences.step (.prepare n) := by
  change (b.prepareIn n).2.sequences = if b.data.length + n ≤ b.maxSize then _ else _
  rw [length_data]
  split
  · next within =>
    rw [prepareIn_of_le b within]
    simp only [sequences, data_resize, output_resize]
    rfl
  · next beyond => rw [prepareIn_of_lt b (Nat.lt_of_not_le beyond)]

theorem sequences_write (b : ContainerBuffer container growth) (offset : Nat) (byte : Byte) :
    (b.step (.write offset byte)).sequences = b.sequences.step (.write offset byte) := by
  have before : (b.contents.set (b.size + offset) byte).take b.size = b.data :=
    List.take_set_of_le (Nat.le_add_right _ _)
  have behind : (b.contents.set (b.size + offset) byte).drop b.size =
      b.output.set offset byte := by
    rw [List.drop_set, if_neg (Nat.not_lt.mpr (Nat.le_add_right _ _)), Nat.add_sub_cancel_left]
    rfl
  change Sequences.mk ((b.contents.set (b.size + offset) byte).take b.size)
    ((b.contents.set (b.size + offset) byte).drop b.size) b.maxSize = _
  rw [before, behind]
  rfl

/-- The boundary moves over what is committed, and the container ends at it. -/
theorem sequences_commit (b : ContainerBuffer container growth) (n : Nat) :
    (b.step (.commit n)).sequences = b.sequences.step (.commit n) := by
  have input : b.contents.take (b.size + min n (b.contents.length - b.size)) =
      b.data ++ b.output.take n := by
    rw [List.take_add, ← length_output]
    exact congrArg _ List.take_eq_take_min.symm
  let size := b.size + min n (b.contents.length - b.size)
  change Sequences.mk ((b.contents.take size).take size) ((b.contents.take size).drop size)
    b.maxSize = _
  rw [List.take_take, Nat.min_self, List.drop_eq_nil_of_le (List.length_take_le _ _), input]
  rfl

theorem sequences_consume (b : ContainerBuffer container growth) (n : Nat) :
    (b.step (.consume n)).sequences = b.sequences.step (.consume n) := by
  have behind : (b.contents.drop (min n b.size)).drop (b.size - min n b.size) = b.output := by
    rw [List.drop_drop, Nat.add_sub_cancel' (Nat.min_le_right _ _)]
    rfl
  change Sequences.mk (b.consume n).data
    ((b.contents.drop (min n b.size)).drop (b.size - min n b.size)) b.maxSize = _
  rw [data_consume, behind]
  rfl

theorem sequences_step (b : ContainerBuffer container growth) (action : BufferAction) :
    (b.step action).sequences = b.sequences.step action := by
  cases action with
  | prepare n => exact b.sequences_prepare n
  | write offset byte => exact b.sequences_write offset byte
  | commit n => exact b.sequences_commit n
  | consume n => exact b.sequences_consume n

theorem sequences_run (b : ContainerBuffer container growth) (actions : List BufferAction) :
    (b.run actions).sequences = b.sequences.run actions := by
  induction actions generalizing b with
  | nil => rfl
  | cons action actions ih =>
      change ((b.step action).run actions).sequences = (b.sequences.step action).run actions
      rw [ih, sequences_step]

/-- The container grows to the limit and not beyond. -/
theorem length_step_le (b : ContainerBuffer container growth) (action : BufferAction) :
    (b.step action).contents.length ≤ max b.contents.length b.maxSize := by
  cases action with
  | prepare n =>
      change (b.prepareIn n).2.contents.length ≤ _
      by_cases within : b.size + n ≤ b.maxSize
      · rw [prepareIn_of_le b within, length_resize]
        exact Nat.le_trans within (Nat.le_max_right _ _)
      · rw [prepareIn_of_lt b (Nat.lt_of_not_le within)]
        exact Nat.le_max_left _ _
  | write offset byte =>
      change (b.contents.set _ _).length ≤ _
      rw [List.length_set]
      exact Nat.le_max_left _ _
  | commit n => exact Nat.le_trans (List.length_take_le' _ _) (Nat.le_max_left _ _)
  | consume n =>
      change (b.contents.drop _).length ≤ _
      rw [List.length_drop]
      exact Nat.le_trans (Nat.sub_le _ _) (Nat.le_max_left _ _)

theorem maxSize_step (b : ContainerBuffer container growth) (action : BufferAction) :
    (b.step action).maxSize = b.maxSize := by
  have kept : (b.sequences.step action).maxSize = b.maxSize := by
    cases action with
    | prepare n =>
        rw [Sequences.step]
        split <;> rfl
    | write offset byte => rfl
    | commit n => rfl
    | consume n => rfl
  rw [← sequences_step] at kept
  exact kept

theorem length_run_le (b : ContainerBuffer container growth) (actions : List BufferAction) :
    (b.run actions).contents.length ≤ max b.contents.length b.maxSize := by
  induction actions generalizing b with
  | nil => exact Nat.le_max_left _ _
  | cons action actions ih =>
      have later := ih (b.step action)
      rw [maxSize_step] at later
      exact Nat.le_trans later (Nat.max_le.mpr ⟨b.length_step_le action, Nat.le_max_right _ _⟩)

/-- No action subtracts more than there is. -/
theorem subtractions_le (b : ContainerBuffer container growth) (action : BufferAction) :
    ∀ pair ∈ b.subtractions action, pair.2 ≤ pair.1 := by
  intro pair member
  cases action with
  | prepare n =>
      rw [subtractions] at member
      split at member
      · cases member
      · next within =>
        rw [List.mem_singleton] at member
        subst member
        exact Nat.le_of_not_lt within
  | write offset byte => cases member
  | commit n =>
      rw [subtractions, List.mem_singleton] at member
      subst member
      exact b.size_le
  | consume n =>
      rw [subtractions, List.mem_singleton] at member
      subst member
      exact Nat.min_le_right _ _

/-- What the operations do from a state on. -/
structure Operates (b : ContainerBuffer container growth) : Prop where
  throws : ∀ n, (b.prepareIn n).1 = .error ⟨container.tooLong⟩ ↔
    b.maxSize < b.size + n ∨ b.maxSize < b.size
  unchanged : ∀ n error, (b.prepareIn n).1 = .error error → (b.prepareIn n).2 = b
  prepares : ∀ n region, (b.prepareIn n).1 = .ok region →
    region = ⟨b.size, n⟩ ∧ (b.prepareIn n).2.data = b.data ∧
      (b.prepareIn n).2.output = Sequences.resized b.output n
  writes : ∀ offset byte, (b.write offset byte).data = b.data ∧
    (b.write offset byte).output = b.output.set offset byte
  commits : ∀ m, (b.commit m).data = b.data ++ b.output.take (min m b.output.length) ∧
    (b.commit m).output = []
  consumes : ∀ k, (b.consume k).data = b.data.drop (min k b.size) ∧
    (b.consume k).size = b.size - min k b.size ∧ (b.consume k).output = b.output
  shows : b.data.length = b.size ∧ b.size ≤ b.contents.length
  unwrapped : ∀ action, ∀ pair ∈ b.subtractions action, pair.2 ≤ pair.1

theorem operates (b : ContainerBuffer container growth) : b.Operates where
  throws n := by
    by_cases within : b.size + n ≤ b.maxSize
    · rw [prepareIn_of_le b within]
      exact iff_of_false (fun same => by cases same) (by omega)
    · rw [prepareIn_of_lt b (Nat.lt_of_not_le within)]
      exact iff_of_true rfl (.inl (Nat.lt_of_not_le within))
  unchanged n error threw := by
    by_cases within : b.size + n ≤ b.maxSize
    · rw [prepareIn_of_le b within] at threw
      cases threw
    · rw [prepareIn_of_lt b (Nat.lt_of_not_le within)]
  prepares n region prepared := by
    by_cases within : b.size + n ≤ b.maxSize
    · rw [prepareIn_of_le b within] at prepared ⊢
      cases prepared
      exact ⟨rfl, b.data_resize (Nat.le_add_right _ _), b.output_resize n⟩
    · rw [prepareIn_of_lt b (Nat.lt_of_not_le within)] at prepared
      cases prepared
  writes offset byte :=
    ⟨congrArg Sequences.input (b.sequences_write offset byte),
      congrArg Sequences.output (b.sequences_write offset byte)⟩
  commits m := by
    refine ⟨?_, congrArg Sequences.output (b.sequences_commit m)⟩
    rw [← List.take_eq_take_min]
    exact congrArg Sequences.input (b.sequences_commit m)
  consumes k := by
    refine ⟨?_, rfl, congrArg Sequences.output (b.sequences_consume k)⟩
    rw [← length_data, ← List.drop_eq_drop_min]
    exact b.data_consume k
  shows := ⟨b.length_data, b.size_le⟩
  unwrapped := b.subtractions_le

/-- **A dynamic buffer is an input and an output sequence.** After any actions it holds
what the two lists of the model hold, it shows the initial contents and the committed
bytes less the consumed prefix, and each operation does what it should from there. -/
theorem dynamic_buffer_input_output (contents : List Byte) (maxSize : Nat)
    (actions : List BufferAction) :
    let b : ContainerBuffer container growth := (adapt contents maxSize).run actions
    let initial : Sequences := ⟨contents, [], maxSize⟩
    b.sequences = initial.run actions ∧
      b.data = (contents ++ initial.committed actions).drop (initial.consumed actions) ∧
      b.contents.length ≤ max contents.length maxSize ∧ b.Operates := by
  have adapted : (adapt contents maxSize : ContainerBuffer container growth).sequences =
      ⟨contents, [], maxSize⟩ := by
    change Sequences.mk (contents.take contents.length) (contents.drop contents.length) maxSize = _
    rw [List.take_length, List.drop_length]
  have runs := sequences_run (adapt contents maxSize : ContainerBuffer container growth) actions
  rw [adapted] at runs
  refine ⟨runs, ?_, length_run_le _ _, operates _⟩
  exact (congrArg Sequences.input runs).trans (Sequences.input_run _ _)

end ContainerBuffer

end Asio.Transmit
