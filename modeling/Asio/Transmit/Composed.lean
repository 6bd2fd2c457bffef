import Asio.Lib.Loop
import Asio.Transmit.DynamicBuffer

/-! # Composed reads and writes

`read` and `write` call `read_some` and `write_some` in a loop, until the
buffers are full or the completion condition is content. `async_read` and
`async_write` are operations that are called again with the result of each
transfer they have started, and call the user's handler at the end. Reads and
writes have the same text; they differ in the direction of their transfers.
-/

namespace Asio.Transmit

open Loop

/-! ## Completion conditions -/

/-- The result of a completion condition: whether the operation is complete, or
the most that the next transfer may move. -/
inductive ConditionResult where
  | complete (result : Bool)
  | maxSize (result : Nat)
  deriving DecidableEq, Repr

/-- A completion condition that depends on the error and the total only. -/
abbrev CompletionCondition := ErrorCode → Nat → ConditionResult

/-- `default_max_transfer_size`. -/
def defaultMaxTransferSize : Nat := 65536

/-- `adapt_completion_condition_result`. -/
def adaptCompletionConditionResult : ConditionResult → Nat
  | .complete result => if result then 0 else defaultMaxTransferSize
  | .maxSize result => result

/-- `check_for_completion`. -/
def checkForCompletion (completionCondition : CompletionCondition) (ec : ErrorCode)
    (totalTransferred : Nat) : Nat :=
  adaptCompletionConditionResult (completionCondition ec totalTransferred)

/-- `transfer_all_t`. -/
def transferAll : CompletionCondition := fun err _ =>
  .maxSize (if err.failed then 0 else defaultMaxTransferSize)

/-- `transfer_at_least_t`. -/
def transferAtLeast (minimum : Nat) : CompletionCondition := fun err bytesTransferred =>
  .maxSize (if err.failed ∨ bytesTransferred ≥ minimum then 0 else defaultMaxTransferSize)

/-- `transfer_exactly_t`. -/
def transferExactly (size : Nat) : CompletionCondition := fun err bytesTransferred =>
  .maxSize (if err.failed ∨ bytesTransferred ≥ size then 0
    else if size - bytesTransferred < defaultMaxTransferSize then size - bytesTransferred
    else defaultMaxTransferSize)

variable {Payload World : Type*}

/-- What a read or write ends with. -/
structure Outcome (Payload World : Type*) where
  ec : ErrorCode
  total : Nat
  stream : Stream Payload
  world : World

/-! ## Buffer sequences -/

/-- The variables of `read_buffer_sequence` and `write_buffer_sequence`. -/
structure Progress (Payload World : Type*) where
  tmp : ConsumingBuffers
  ec : ErrorCode
  stream : Stream Payload
  world : World

def Progress.outcome (state : Progress Payload World) : Outcome Payload World :=
  ⟨state.ec, state.tmp.totalConsumed, state.stream, state.world⟩

/-- The variables at the head of the loop. -/
def BufferSequence.progress (buffers : BufferSequence) (stream : Stream Payload) (world : World) :
    Progress Payload World :=
  ⟨buffers.consuming, .success, stream, world⟩

/-- The loop of `read_buffer_sequence` and `write_buffer_sequence`. -/
def transferBufferSequence (direction : Direction Payload World)
    (completionCondition : CompletionCondition) (state : Progress Payload World) :
    Pass (Progress Payload World) (Outcome Payload World) :=
  if state.tmp.empty then
    .leave state.outcome
  else
    let maxSize := checkForCompletion completionCondition state.ec state.tmp.totalConsumed
    if maxSize ≠ 0 then
      let cells := flatten (state.tmp.prepare maxSize)
      match state.stream.transferSome direction cells with
      | some (transfer, stream) => .again
          { tmp := state.tmp.consume (direction.size transfer.payload)
            ec := transfer.ec
            stream := stream
            world := direction.perform cells transfer.payload state.world }
      | none => .blocked
    else
      .leave state.outcome

/-- `read_buffer_sequence`. -/
def readBufferSequence (completionCondition : CompletionCondition) :=
  transferBufferSequence reading completionCondition

/-- `write_buffer_sequence`. -/
def writeBufferSequence (memory : Nat → Byte) (completionCondition : CompletionCondition) :=
  transferBufferSequence (writing memory) completionCondition

/-- What a call of a composed operation ends in: a transfer started, with the
operation as its handler, or the user's handler called, or an exception. -/
inductive Call (Op : Type*) where
  | transferSome (cells : List Nat) (op : Op)
  | handler (ec : ErrorCode) (bytesTransferred : Nat) (op : Op)
  | throws (error : LengthError)

/-- A composed operation in progress: what its last call ended in. -/
structure Pending (Payload Op : Type*) where
  call : Call Op
  stream : Stream Payload

/-- One completion: the transfer that was started takes place and the operation
is called with its result. -/
def completion {Op : Type*} (direction : Direction Payload Op)
    (resume : Op → ErrorCode → Nat → Call Op) (state : Pending Payload Op) :
    Pass (Pending Payload Op) (Except LengthError (Outcome Payload Op)) :=
  match state.call with
  | .transferSome cells op =>
      match state.stream.transferSome direction cells with
      | some (transfer, stream) => .again
          { call := resume (direction.perform cells transfer.payload op) transfer.ec
              (direction.size transfer.payload)
            stream := stream }
      | none => .blocked
  | .handler ec bytesTransferred op => .leave (.ok ⟨ec, bytesTransferred, state.stream, op⟩)
  | .throws error => .leave (.error error)

/-- `read_op` and `write_op`, with the memory their buffers refer to. -/
structure TransferOp (World : Type*) where
  buffers : ConsumingBuffers
  world : World

/-- A transfer started by a `TransferOp` changes the world it refers to. -/
def Direction.inOp (direction : Direction Payload World) : Direction Payload (TransferOp World) where
  size := direction.size
  nothing := direction.nothing
  fit := direction.fit
  perform cells payload op := { op with world := direction.perform cells payload op.world }
  size_nothing := direction.size_nothing
  size_fit := direction.size_fit

/-- `read_op::operator()` and `write_op::operator()`. -/
def TransferOp.call (completionCondition : CompletionCondition) (op : TransferOp World)
    (ec : ErrorCode) (bytesTransferred : Nat) (start : Nat) : Call (TransferOp World) :=
  if start = 1 then
    let maxSize := checkForCompletion completionCondition ec op.buffers.totalConsumed
    .transferSome (flatten (op.buffers.prepare maxSize)) op
  else
    let op := { op with buffers := op.buffers.consume bytesTransferred }
    if (!ec.failed && bytesTransferred == 0) || op.buffers.empty then
      .handler ec op.buffers.totalConsumed op
    else
      let maxSize := checkForCompletion completionCondition ec op.buffers.totalConsumed
      if maxSize > 0 then
        .transferSome (flatten (op.buffers.prepare maxSize)) op
      else
        .handler ec op.buffers.totalConsumed op

/-- The completions of an `async_read` or `async_write` of a buffer sequence. -/
def transferOp (direction : Direction Payload World) (completionCondition : CompletionCondition) :=
  completion direction.inOp fun op ec bytesTransferred =>
    op.call completionCondition ec bytesTransferred 0

/-- `start_read_buffer_sequence_op` and `start_write_buffer_sequence_op`. -/
def BufferSequence.startOp (buffers : BufferSequence) (completionCondition : CompletionCondition)
    (stream : Stream Payload) (world : World) : Pending Payload (TransferOp World) :=
  ⟨TransferOp.call completionCondition ⟨buffers.consuming, world⟩ .success 0 1, stream⟩

/-- The completions of a `read_op`. -/
def readOp (completionCondition : CompletionCondition) := transferOp reading completionCondition

/-- The completions of a `write_op`. -/
def writeOp (memory : Nat → Byte) (completionCondition : CompletionCondition) :=
  transferOp (writing memory) completionCondition

/-! ## Dynamic buffers -/

section Dynamic

variable {B : Type*} [DynamicBuffer B]

open DynamicBuffer

/-- The difference of two values of type `std::size_t`. -/
def sizeSub (first second : Nat) : Nat :=
  if second ≤ first then first - second else first + 2 ^ 64 - second

/-- `read_some` into the output sequence of a dynamic buffer. -/
def receiving (B : Type*) [DynamicBuffer B] : Direction (List Byte) B where
  size := List.length
  nothing := []
  fit := List.take
  perform _ bytes b := fill b bytes
  size_nothing := length_noBytes
  size_fit _ _ := List.length_take

/-- What a read into a dynamic buffer asks for, when the condition allows `maxSize`. -/
def bytesAvailable (b : B) (maxSize : Nat) : Nat :=
  min (max 512 (sizeSub (capacity b) (size b))) (min maxSize (sizeSub (DynamicBuffer.maxSize b) (size b)))

/-- The cells of the output sequence, counted from the start of the storage. -/
def outputCells (b : B) (n : Nat) : List Nat := List.range' (size b) n

/-- The variables of `read` into a dynamic buffer. -/
structure DynamicRead (B : Type*) where
  b : B
  ec : ErrorCode
  totalTransferred : Nat
  bytesAvailable : Nat
  stream : Stream (List Byte)

/-- The variables at the head of the loop. -/
def dynamicRead (completionCondition : CompletionCondition) (b : B) (stream : Stream (List Byte)) :
    DynamicRead B :=
  ⟨b, .success, 0, bytesAvailable b (checkForCompletion completionCondition .success 0), stream⟩

/-- The loop of `read` into a dynamic buffer. -/
def readDynamic (completionCondition : CompletionCondition) (state : DynamicRead B) :
    Pass (DynamicRead B) (Except LengthError (Outcome (List Byte) B)) :=
  if state.bytesAvailable > 0 then
    match prepare state.b state.bytesAvailable with
    | .error error => .leave (.error error)
    | .ok prepared =>
        match state.stream.transferSome (receiving B)
            (outputCells state.b state.bytesAvailable) with
        | none => .blocked
        | some (transfer, stream) =>
            let b := commit (fill prepared transfer.payload) transfer.payload.length
            let totalTransferred := state.totalTransferred + transfer.payload.length
            let maxSize := checkForCompletion completionCondition transfer.ec totalTransferred
            .again ⟨b, transfer.ec, totalTransferred, bytesAvailable b maxSize, stream⟩
  else
    .leave (.ok ⟨state.ec, state.totalTransferred, state.stream, state.b⟩)

/-- `async_read_some(buffers_.prepare(n), *this)`. -/
def startRead {Op : Type*} (b : B) (n : Nat) (op : B → Op) : Call Op :=
  match prepare b n with
  | .error error => .throws error
  | .ok prepared => .transferSome (outputCells b n) (op prepared)

/-- `read_dynbuf_op`. -/
structure ReadDynbufOp (B : Type*) where
  buffers : B
  totalTransferred : Nat

/-- `read_dynbuf_op::operator()`. -/
def ReadDynbufOp.call (completionCondition : CompletionCondition) (op : ReadDynbufOp B)
    (ec : ErrorCode) (bytesTransferred : Nat) (start : Nat) : Call (ReadDynbufOp B) :=
  if start = 1 then
    let maxSize := checkForCompletion completionCondition ec op.totalTransferred
    startRead op.buffers (bytesAvailable op.buffers maxSize) fun b => { op with buffers := b }
  else
    let totalTransferred := op.totalTransferred + bytesTransferred
    let buffers := commit op.buffers bytesTransferred
    let maxSize := checkForCompletion completionCondition ec totalTransferred
    let available := bytesAvailable buffers maxSize
    if (!ec.failed && bytesTransferred == 0) || available == 0 then
      .handler ec totalTransferred ⟨buffers, totalTransferred⟩
    else
      startRead buffers available fun b => ⟨b, totalTransferred⟩

/-- A read started by an operation stores into the output sequence of its buffer. -/
def receivingOp {Op : Type*} (store : List Byte → Op → Op) : Direction (List Byte) Op where
  size := List.length
  nothing := []
  fit := List.take
  perform _ bytes op := store bytes op
  size_nothing := length_noBytes
  size_fit _ _ := List.length_take

/-- The completions of a `read_dynbuf_op`. -/
def readDynbufOp (completionCondition : CompletionCondition) :=
  completion (receivingOp fun bytes (op : ReadDynbufOp B) =>
      { op with buffers := fill op.buffers bytes })
    fun op ec bytesTransferred => op.call completionCondition ec bytesTransferred 0

/-- `async_read` into a dynamic buffer. -/
def startReadDynbufOp (completionCondition : CompletionCondition) (b : B)
    (stream : Stream (List Byte)) : Pending (List Byte) (ReadDynbufOp B) :=
  ⟨ReadDynbufOp.call completionCondition ⟨b, 0⟩ .success 0 1, stream⟩

/-- `data()`: one buffer, in a storage whose cells are counted from its start. -/
def dataBuffer (b : B) : BufferSequence := .single ⟨0, size b⟩

/-- The storage `data()` refers to. -/
def dataMemory (b : B) (cell : Nat) : Byte := (data b).getD cell 0

/-- What a write from a dynamic buffer ends with. -/
structure DynamicWritten (B : Type*) where
  ec : ErrorCode
  bytesTransferred : Nat
  stream : Stream Nat
  accepted : List Byte
  b : B

/-- `write` from a dynamic buffer: the write of `data()`, and then `consume`. -/
def writeDynamic (completionCondition : CompletionCondition) (b : B)
    (state : Progress Nat (List Byte)) : Pass (Progress Nat (List Byte)) (DynamicWritten B) :=
  (writeBufferSequence (dataMemory b) completionCondition state).map fun outcome =>
    ⟨outcome.ec, outcome.total, outcome.stream, outcome.world, consume b outcome.total⟩

/-- `write_dynbuf_op`: the `write_op` of `data()`, whose handler consumes and
calls the user's handler. -/
def writeDynbufOp (completionCondition : CompletionCondition) (b : B)
    (state : Pending Nat (TransferOp (List Byte))) :
    Pass (Pending Nat (TransferOp (List Byte))) (Except LengthError (DynamicWritten B)) :=
  (writeOp (dataMemory b) completionCondition state).map fun result =>
    result.map fun outcome =>
      ⟨outcome.ec, outcome.total, outcome.stream, outcome.world.world, consume b outcome.total⟩

end Dynamic

end Asio.Transmit
