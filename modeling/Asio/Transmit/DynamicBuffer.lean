import Asio.Transmit.Stream

/-! # Dynamic buffers

The operations the composed reads and writes use of a dynamic buffer, with what
is required of them: the bytes of the input sequence, an output sequence that
`prepare` makes room for, and `commit` that moves bytes from the one to the
other. `dynamic_string_buffer` and `dynamic_vector_buffer` differ in the
container they adapt and in the text of their error.
-/

namespace Asio.Transmit

/-- `std::length_error`. -/
structure LengthError where
  what : String
  deriving DecidableEq, Repr

/-- The requirements on a dynamic buffer. `fill` is the effect of a read that
stores bytes at the start of the output sequence. -/
class DynamicBuffer (B : Type*) where
  size : B → Nat
  maxSize : B → Nat
  capacity : B → Nat
  data : B → List Byte
  prepare : B → Nat → Except LengthError B
  fill : B → List Byte → B
  commit : B → Nat → B
  consume : B → Nat → B
  length_data : ∀ b, (data b).length = size b
  size_le_capacity : ∀ b, size b ≤ capacity b
  prepare_eq : ∀ b n, size b + n ≤ maxSize b → ∃ prepared, prepare b n = .ok prepared ∧
    ∀ bytes : List Byte, bytes.length ≤ n →
      data (commit (fill prepared bytes) bytes.length) = data b ++ bytes ∧
      maxSize (commit (fill prepared bytes) bytes.length) = maxSize b
  data_consume : ∀ b n, data (consume b n) = (data b).drop n

/-- The containers that are adapted. -/
inductive Container where
  | string
  | vector
  deriving DecidableEq, Repr

/-- The text of the error `prepare` throws. -/
def Container.tooLong : Container → String
  | .string => "dynamic_string_buffer too long"
  | .vector => "dynamic_vector_buffer too long"

/-- How a container that has to grow chooses its capacity. -/
structure Growth where
  after : Nat → Nat → Nat
  enough : ∀ capacity size, size ≤ after capacity size

/-- A growth that allocates what is asked for. -/
def Growth.exact : Growth := ⟨fun _ size => size, fun _ _ => Nat.le_refl _⟩

/-- `dynamic_string_buffer` and `dynamic_vector_buffer` with the container they
refer to. -/
structure ContainerBuffer (container : Container) (growth : Growth) where
  contents : List Byte
  capacity : Nat
  size : Nat
  maxSize : Nat
  size_le : size ≤ contents.length
  fits : contents.length ≤ capacity

namespace ContainerBuffer

variable {container : Container} {growth : Growth}

/-- `dynamic_buffer(data, max_size)`. -/
def adapt (contents : List Byte) (maxSize : Nat) : ContainerBuffer container growth where
  contents := contents
  capacity := contents.length
  size := contents.length
  maxSize := maxSize
  size_le := Nat.le.refl
  fits := Nat.le.refl

/-- The container after `resize(size)`, with the members that stay. -/
def resize (b : ContainerBuffer container growth) (size : Nat) (inside : b.size ≤ size) :
    ContainerBuffer container growth where
  contents := b.contents.take size ++ List.replicate (size - b.contents.length) 0
  capacity := if size ≤ b.capacity then b.capacity else growth.after b.capacity size
  size := b.size
  maxSize := b.maxSize
  size_le := by
    rw [List.length_append, List.length_take, List.length_replicate]
    omega
  fits := by
    have length : (b.contents.take size ++
        List.replicate (size - b.contents.length) 0).length = size := by
      rw [List.length_append, List.length_take, List.length_replicate]
      omega
    rw [length]
    split
    · assumption
    · exact growth.enough _ _

def data (b : ContainerBuffer container growth) : List Byte := b.contents.take b.size

def prepare (b : ContainerBuffer container growth) (n : Nat) :
    Except LengthError (ContainerBuffer container growth) :=
  if b.size > b.maxSize ∨ b.maxSize - b.size < n then
    .error ⟨container.tooLong⟩
  else
    .ok (b.resize (b.size + n) (Nat.le_add_right _ _))

/-- The container as a buffer, with indices for its addresses. -/
def whole (b : ContainerBuffer container growth) : Buffer := ⟨0, b.contents.length⟩

/-- `prepare` with the buffer it returns, and the dynamic buffer as it is left. -/
def prepareIn (b : ContainerBuffer container growth) (n : Nat) :
    Except LengthError Buffer × ContainerBuffer container growth :=
  if b.size > b.maxSize ∨ b.maxSize - b.size < n then
    (.error ⟨container.tooLong⟩, b)
  else
    let b := b.resize (b.size + n) (Nat.le_add_right _ _)
    (.ok (buffer (b.whole + b.size) n), b)

/-- The container after a read has stored bytes from `size` on. -/
def fill (b : ContainerBuffer container growth) (bytes : List Byte) :
    ContainerBuffer container growth :=
  let stored := bytes.take (b.contents.length - b.size)
  { b with
    contents := b.contents.take b.size ++ (stored ++ b.contents.drop (b.size + stored.length))
    size_le := by
      rw [List.length_append, List.length_take]
      have := b.size_le
      omega
    fits := by
      simp only [stored, List.length_append, List.length_take, List.length_drop]
      have := b.size_le
      have := b.fits
      omega }

def commit (b : ContainerBuffer container growth) (n : Nat) : ContainerBuffer container growth :=
  let size := b.size + min n (b.contents.length - b.size)
  { b with
    contents := b.contents.take size
    size := size
    size_le := by
      rw [List.length_take]
      have := b.size_le
      omega
    fits := Nat.le_trans (List.length_take_le' _ _) b.fits }

def consume (b : ContainerBuffer container growth) (n : Nat) : ContainerBuffer container growth :=
  let consumeLength := min n b.size
  { b with
    contents := b.contents.drop consumeLength
    size := b.size - consumeLength
    size_le := by
      rw [List.length_drop]
      exact Nat.sub_le_sub_right b.size_le _
    fits := by
      rw [List.length_drop]
      exact Nat.le_trans (Nat.sub_le _ _) b.fits }

theorem length_data (b : ContainerBuffer container growth) : b.data.length = b.size := by
  rw [data, List.length_take]
  exact Nat.min_eq_left b.size_le

theorem length_resize (b : ContainerBuffer container growth) {size : Nat}
    (inside : b.size ≤ size) : (b.resize size inside).contents.length = size := by
  simp only [resize, List.length_append, List.length_take, List.length_replicate]
  omega

theorem data_resize (b : ContainerBuffer container growth) {size : Nat}
    (inside : b.size ≤ size) : (b.resize size inside).data = b.data := by
  simp only [data, resize, List.take_append, List.length_take, List.take_take]
  have none : b.size - min size b.contents.length = 0 := by
    have := b.size_le
    omega
  rw [none, List.take_zero, List.append_nil, Nat.min_eq_left inside]

/-- Committing what a read stored appends it to the input sequence. -/
theorem data_commit_fill (b : ContainerBuffer container growth) {bytes : List Byte}
    (room : b.size + bytes.length ≤ b.contents.length) :
    ((b.fill bytes).commit bytes.length).data = b.data ++ bytes := by
  have stored : bytes.take (b.contents.length - b.size) = bytes :=
    List.take_of_length_le (by omega)
  have front : (b.contents.take b.size).length = b.size := b.length_data
  have length : (b.fill bytes).contents.length = b.contents.length := by
    simp only [fill, stored, List.length_append, List.length_drop, front]
    omega
  have size : (b.fill bytes).size +
      min bytes.length ((b.fill bytes).contents.length - (b.fill bytes).size) =
      b.size + bytes.length := by
    rw [length]
    change b.size + _ = _
    simp only [fill]
    omega
  simp only [data, commit]
  rw [size, List.take_take, Nat.min_self]
  simp only [fill, stored]
  rw [← List.append_assoc, List.take_left' (by rw [List.length_append, front])]

theorem data_consume (b : ContainerBuffer container growth) (n : Nat) :
    (b.consume n).data = b.data.drop n := by
  simp only [data, consume, List.drop_take]
  by_cases within : n ≤ b.size
  · rw [Nat.min_eq_left within]
  · have ended : b.size - n = 0 := by omega
    rw [Nat.min_eq_right (Nat.le_of_not_le within), Nat.sub_self, ended, List.take_zero,
      List.take_zero]

instance : DynamicBuffer (ContainerBuffer container growth) where
  size := size
  maxSize := maxSize
  capacity := capacity
  data := data
  prepare := prepare
  fill := fill
  commit := commit
  consume := consume
  length_data := length_data
  size_le_capacity b := Nat.le_trans b.size_le b.fits
  prepare_eq b n within := by
    have allowed : ¬ (b.size > b.maxSize ∨ b.maxSize - b.size < n) := by omega
    refine ⟨b.resize (b.size + n) (Nat.le_add_right _ _), if_neg allowed, ?_⟩
    intro bytes room
    refine ⟨?_, rfl⟩
    rw [data_commit_fill, data_resize]
    rw [length_resize]
    exact Nat.add_le_add_left room _
  data_consume := data_consume

end ContainerBuffer

end Asio.Transmit
