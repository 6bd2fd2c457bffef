import Asio.Error
import Asio.Transmit.Buffer

/-! # Streams given by a script

A stream answers the transfers it is asked for from a script, one entry for each
transfer that has room: an error and what it is prepared to transfer, of which
no more than the room asked for takes place. A transfer without room succeeds
with nothing transferred and leaves the script alone. A stream whose script has
run out never answers. The transfers that took place are recorded.
-/

namespace Asio.Transmit

/-- A byte of a buffer. -/
abbrev Byte := UInt8

/-- What a transfer moves and which way: a payload has a size, can be cut to the
room there is, and changes the world when it is moved to or from the cells. -/
structure Direction (Payload World : Type*) where
  size : Payload → Nat
  nothing : Payload
  fit : Nat → Payload → Payload
  perform : List Nat → Payload → World → World
  size_nothing : size nothing = 0
  size_fit : ∀ room payload, size (fit room payload) = min room (size payload)

theorem length_noBytes : ([] : List Byte).length = 0 := rfl

/-- `read_some`: bytes that are stored in the memory. -/
def reading : Direction (List Byte) (Nat → Byte) where
  size := List.length
  nothing := []
  fit := List.take
  perform cells bytes memory := Memory.store memory cells bytes
  size_nothing := length_noBytes
  size_fit _ _ := List.length_take

/-- `write_some`: a number of bytes of a memory, accepted after those before. -/
def writing (memory : Nat → Byte) : Direction Nat (List Byte) where
  size := id
  nothing := 0
  fit := min
  perform cells count accepted := accepted ++ (cells.take count).map memory
  size_nothing := rfl
  size_fit _ _ := rfl

/-- An entry of a script. -/
structure Answer (Payload : Type*) where
  ec : ErrorCode
  payload : Payload
  deriving DecidableEq, Repr

/-- A transfer that took place: the cells it was asked for, and what came of it. -/
structure Transfer (Payload : Type*) where
  cells : List Nat
  ec : ErrorCode
  payload : Payload
  deriving DecidableEq, Repr

/-- A stream: what is left of its script, and the transfers so far. -/
structure Stream (Payload : Type*) where
  script : List (Answer Payload)
  transfers : List (Transfer Payload) := []
  deriving DecidableEq, Repr

variable {Payload World : Type*}

/-- A transfer that gets as far as its cells allow. -/
def Answer.transfer (direction : Direction Payload World) (answer : Answer Payload)
    (cells : List Nat) : Transfer Payload :=
  ⟨cells, answer.ec, direction.fit cells.length answer.payload⟩

/-- The transfer of nothing to no cells. -/
def Transfer.idle (direction : Direction Payload World) : Transfer Payload :=
  ⟨[], .success, direction.nothing⟩

/-- `read_some` and `write_some`, and the completion of `async_read_some` and
`async_write_some`, for buffers that cover the cells. -/
def Stream.transferSome (direction : Direction Payload World) (cells : List Nat)
    (stream : Stream Payload) : Option (Transfer Payload × Stream Payload) :=
  if cells = [] then
    let transfer := Transfer.idle direction
    some (transfer, { stream with transfers := stream.transfers ++ [transfer] })
  else match stream.script with
    | [] => none
    | answer :: script =>
        let transfer := answer.transfer direction cells
        some (transfer, ⟨script, stream.transfers ++ [transfer]⟩)

/-- An entry never reports success with nothing transferred. -/
def Answer.Proceeds (direction : Direction Payload World) (answer : Answer Payload) : Prop :=
  answer.ec.failed = true ∨ 0 < direction.size answer.payload

instance (direction : Direction Payload World) (answer : Answer Payload) :
    Decidable (answer.Proceeds direction) :=
  inferInstanceAs (Decidable (_ ∨ _))

/-- The transfers that had room. -/
def Stream.withRoom (stream : Stream Payload) : List (Transfer Payload) :=
  stream.transfers.filter fun transfer => decide (transfer.cells ≠ [])

variable {direction : Direction Payload World} {cells : List Nat} {stream next : Stream Payload}

@[simp] theorem Answer.transfer_cells (direction : Direction Payload World)
    (answer : Answer Payload) (cells : List Nat) :
    (answer.transfer direction cells).cells = cells := rfl

@[simp] theorem Answer.transfer_ec (direction : Direction Payload World)
    (answer : Answer Payload) (cells : List Nat) :
    (answer.transfer direction cells).ec = answer.ec := rfl

/-- No transfer exceeds its room. -/
theorem Answer.size_transfer_le (direction : Direction Payload World) (answer : Answer Payload)
    (cells : List Nat) :
    direction.size (answer.transfer direction cells).payload ≤ cells.length := by
  rw [Answer.transfer, direction.size_fit]
  exact Nat.min_le_left _ _

theorem Answer.Proceeds.of_room {answer : Answer Payload} (proceeds : answer.Proceeds direction)
    {cells : List Nat} (room : cells ≠ []) :
    answer.ec.failed = true ∨ 0 < direction.size (answer.transfer direction cells).payload := by
  refine proceeds.imp_right fun positive => ?_
  rw [Answer.transfer, direction.size_fit]
  exact Nat.lt_min.mpr ⟨List.length_pos_of_ne_nil room, positive⟩

/-- A transfer without room. -/
theorem Stream.transferSome_nil :
    stream.transferSome direction [] = some (Transfer.idle direction,
      { stream with transfers := stream.transfers ++ [Transfer.idle direction] }) :=
  if_pos rfl

/-- A transfer with room takes the next entry of the script. -/
theorem Stream.transferSome_of_ne_nil (room : cells ≠ []) {transfer : Transfer Payload}
    (answered : stream.transferSome direction cells = some (transfer, next)) :
    ∃ answer, stream.script = answer :: next.script ∧
      transfer = answer.transfer direction cells ∧
      next.transfers = stream.transfers ++ [transfer] := by
  rw [Stream.transferSome, if_neg room] at answered
  split at answered
  · cases answered
  · rename_i answer script opened
    cases answered
    exact ⟨answer, opened, rfl, rfl⟩

/-- A transfer with room waits only for a script that has run out. -/
theorem Stream.transferSome_eq_none (blocked : stream.transferSome direction cells = none) :
    stream.script = [] := by
  rw [Stream.transferSome] at blocked
  split at blocked
  · cases blocked
  · split at blocked
    · assumption
    · cases blocked

/-- Without room there is nothing to record among the transfers that had room. -/
theorem Stream.withRoom_idle :
    ({ stream with
        transfers := stream.transfers ++ [Transfer.idle direction] } : Stream Payload).withRoom =
      stream.withRoom := by
  rw [Stream.withRoom, List.filter_append]
  exact List.append_nil _

end Asio.Transmit
