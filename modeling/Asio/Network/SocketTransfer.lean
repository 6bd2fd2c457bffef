import Asio.Error
import Asio.Transmit.BufferSequenceAdapter

/-! # Transfers of a stream socket

`receive` and `send` skip the system call for a sequence that the adapter says is empty,
and `async_receive` and `async_send` complete such an operation at once. What the system
and the reactor do is given by scripts; the buffers of every system call are recorded.
-/

namespace Asio.Network

open Asio.Transmit

/-- The flags of `state_type` that a transfer looks at. -/
structure SocketState where
  userSetNonBlocking : Bool
  internalNonBlocking : Bool
  streamOriented : Bool
  deriving DecidableEq, Repr

/-- `state & non_blocking`. -/
def SocketState.nonBlocking (state : SocketState) : Bool :=
  state.userSetNonBlocking || state.internalNonBlocking

/-- What a system call returns: a value that is not negative, or `errno`. -/
inductive CallResult where
  | value (result : Nat)
  | errno (ec : ErrorCode) (failed : ec.failed = true)
  deriving DecidableEq, Repr

/-- How a transfer ends, and the buffers of the system calls it has made. -/
structure Transferred where
  ec : ErrorCode
  bytesTransferred : Nat
  calls : List (List Buffer)
  deriving DecidableEq, Repr

/-- The results of the calls that transfer and of those that wait. -/
structure SystemScript where
  transfers : List CallResult
  polls : List CallResult

/-! ## The synchronous functions -/

/-- The loop of `sync_recv`; a script that runs out leaves it waiting. -/
def recvLoop (state : SocketState) (bufs : List Buffer) (calls : List (List Buffer)) :
    List CallResult → List CallResult → Option Transferred
  | [], _ => none
  | .value bytes :: _, _ =>
      if bytes > 0 then some ⟨.success, bytes, calls ++ [bufs]⟩
      else if state.streamOriented then some ⟨.eof, 0, calls ++ [bufs]⟩
      -- `recv` has cleared the error, which then is none to wait for.
      else some ⟨.success, 0, calls ++ [bufs]⟩
  | .errno ec _ :: transfers, polls =>
      if state.userSetNonBlocking ∨ ec ≠ .wouldBlock ∧ ec ≠ .tryAgain then
        some ⟨ec, 0, calls ++ [bufs]⟩
      else
        match polls with
        | [] => none
        | .errno ec _ :: _ => some ⟨ec, 0, calls ++ [bufs]⟩
        | .value _ :: polls => recvLoop state bufs (calls ++ [bufs]) transfers polls

/-- `socket_ops::sync_recv`; `none` is `invalid_socket`. -/
def syncRecv (socket : Option Nat) (state : SocketState) (bufs : List Buffer) (allEmpty : Bool)
    (script : SystemScript) : Option Transferred :=
  if socket = none then some ⟨.badDescriptor, 0, []⟩
  -- A request to read 0 bytes on a stream is a no-op.
  else if allEmpty && state.streamOriented then some ⟨.success, 0, []⟩
  else recvLoop state bufs [] script.transfers script.polls

/-- The loop of `sync_send`. -/
def sendLoop (state : SocketState) (bufs : List Buffer) (calls : List (List Buffer)) :
    List CallResult → List CallResult → Option Transferred
  | [], _ => none
  | .value bytes :: _, _ => some ⟨.success, bytes, calls ++ [bufs]⟩
  | .errno ec _ :: transfers, polls =>
      if state.userSetNonBlocking ∨ ec ≠ .wouldBlock ∧ ec ≠ .tryAgain then
        some ⟨ec, 0, calls ++ [bufs]⟩
      else
        match polls with
        | [] => none
        | .errno ec _ :: _ => some ⟨ec, 0, calls ++ [bufs]⟩
        | .value _ :: polls => sendLoop state bufs (calls ++ [bufs]) transfers polls

/-- `socket_ops::sync_send`. -/
def syncSend (socket : Option Nat) (state : SocketState) (bufs : List Buffer) (allEmpty : Bool)
    (script : SystemScript) : Option Transferred :=
  if socket = none then some ⟨.badDescriptor, 0, []⟩
  -- A request to write 0 bytes to a stream is a no-op.
  else if allEmpty && state.streamOriented then some ⟨.success, 0, []⟩
  else sendLoop state bufs [] script.transfers script.polls

/-- `reactive_socket_service_base::receive`. -/
def receive (socket : Option Nat) (state : SocketState) (buffers : BufferSequence)
    (script : SystemScript) : Option Transferred :=
  syncRecv socket state buffers.adapter.native buffers.adapter.allEmpty script

/-- `reactive_socket_service_base::send`. -/
def send (socket : Option Nat) (state : SocketState) (buffers : BufferSequence)
    (script : SystemScript) : Option Transferred :=
  syncSend socket state buffers.adapter.native buffers.adapter.allEmpty script

/-! ## The asynchronous functions -/

/-- `socket_ops::non_blocking_recv`: whether the operation is complete, and how. -/
def nonBlockingRecv (isStream : Bool) (bufs : List Buffer) (calls : List (List Buffer)) :
    List CallResult → Option (Bool × Transferred)
  | [] => none
  | .value bytes :: _ =>
      if isStream ∧ bytes = 0 then some (true, ⟨.eof, 0, calls ++ [bufs]⟩)
      else some (true, ⟨.success, bytes, calls ++ [bufs]⟩)
  | .errno ec _ :: transfers =>
      if ec = .interrupted then nonBlockingRecv isStream bufs (calls ++ [bufs]) transfers
      else if ec = .wouldBlock ∨ ec = .tryAgain then some (false, ⟨ec, 0, calls ++ [bufs]⟩)
      else some (true, ⟨ec, 0, calls ++ [bufs]⟩)

/-- `socket_ops::non_blocking_send`. -/
def nonBlockingSend (bufs : List Buffer) (calls : List (List Buffer)) :
    List CallResult → Option (Bool × Transferred)
  | [] => none
  | .value bytes :: _ => some (true, ⟨.success, bytes, calls ++ [bufs]⟩)
  | .errno ec _ :: transfers =>
      if ec = .interrupted then nonBlockingSend bufs (calls ++ [bufs]) transfers
      else if ec = .wouldBlock ∨ ec = .tryAgain then some (false, ⟨ec, 0, calls ++ [bufs]⟩)
      else some (true, ⟨ec, 0, calls ++ [bufs]⟩)

/-- What the reactor does with an operation: it calls `perform`, or gives the operation an
error, as for a descriptor it cannot watch or one that is closed. -/
inductive ReactorStep where
  | perform (transfers : List CallResult)
  | abort (ec : ErrorCode) (failed : ec.failed = true)

/-- An operation in the hands of the reactor, up to its completion. -/
def runOp (doPerform : List (List Buffer) → List CallResult → Option (Bool × Transferred))
    (calls : List (List Buffer)) : List ReactorStep → Option Transferred
  | [] => none
  | .abort ec _ :: _ => some ⟨ec, 0, calls⟩
  | .perform transfers :: steps =>
      match doPerform calls transfers with
      | none => none
      | some (true, transferred) => some transferred
      | some (false, transferred) => runOp doPerform transferred.calls steps

/-- `socket_ops::set_internal_non_blocking`, with the result of its `ioctl`. -/
def setInternalNonBlocking (socket : Option Nat) (ioctl : CallResult) : ErrorCode :=
  if socket = none then .badDescriptor
  else
    match ioctl with
    | .value _ => .success
    | .errno ec _ => ec

/-- `reactive_socket_service_base::start_op`, and what comes of the operation. -/
def startOp (socket : Option Nat) (state : SocketState) (ioctl : CallResult) (noop : Bool)
    (run : Option Transferred) : Option Transferred :=
  if noop then some ⟨.success, 0, []⟩
  else if state.nonBlocking then run
  else
    let ec := setInternalNonBlocking socket ioctl
    if ec.failed then some ⟨ec, 0, []⟩ else run

/-- `async_receive`, with the `do_perform` of `reactive_socket_recv_op_base`. -/
def asyncReceive (socket : Option Nat) (state : SocketState) (buffers : BufferSequence)
    (ioctl : CallResult) (steps : List ReactorStep) : Option Transferred :=
  startOp socket state ioctl (state.streamOriented && buffers.allEmpty)
    (runOp (nonBlockingRecv state.streamOriented buffers.adapter.native) [] steps)

/-- `async_send`, with the `do_perform` of `reactive_socket_send_op_base`. -/
def asyncSend (socket : Option Nat) (state : SocketState) (buffers : BufferSequence)
    (ioctl : CallResult) (steps : List ReactorStep) : Option Transferred :=
  startOp socket state ioctl (state.streamOriented && buffers.allEmpty)
    (runOp (nonBlockingSend buffers.adapter.native) [] steps)

/-! ## Every transfer is tried -/

/-- The transfer has failed, or was tried with room for a byte. -/
def Transferred.Tried (transferred : Transferred) : Prop :=
  transferred.ec.failed = true ∨ ∃ bufs ∈ transferred.calls, 0 < bufferSize bufs

theorem recvLoop_calls {state : SocketState} {bufs : List Buffer} {calls : List (List Buffer)}
    {transfers polls : List CallResult} {transferred : Transferred}
    (returned : recvLoop state bufs calls transfers polls = some transferred) :
    bufs ∈ transferred.calls := by
  induction transfers generalizing calls polls with
  | nil => cases returned
  | cons answer transfers ih =>
      cases answer with
      | value bytes =>
          unfold recvLoop at returned
          split at returned
          · cases returned
            exact List.mem_concat_self
          · split at returned
            · cases returned
              exact List.mem_concat_self
            · cases returned
              exact List.mem_concat_self
      | errno ec failed =>
          unfold recvLoop at returned
          split at returned
          · cases returned
            exact List.mem_concat_self
          · cases polls with
            | nil => cases returned
            | cons poll polls =>
                cases poll with
                | value _ => exact ih returned
                | errno _ _ =>
                    cases returned
                    exact List.mem_concat_self

theorem sendLoop_calls {state : SocketState} {bufs : List Buffer} {calls : List (List Buffer)}
    {transfers polls : List CallResult} {transferred : Transferred}
    (returned : sendLoop state bufs calls transfers polls = some transferred) :
    bufs ∈ transferred.calls := by
  induction transfers generalizing calls polls with
  | nil => cases returned
  | cons answer transfers ih =>
      cases answer with
      | value bytes =>
          cases returned
          exact List.mem_concat_self
      | errno ec failed =>
          unfold sendLoop at returned
          split at returned
          · cases returned
            exact List.mem_concat_self
          · cases polls with
            | nil => cases returned
            | cons poll polls =>
                cases poll with
                | value _ => exact ih returned
                | errno _ _ =>
                    cases returned
                    exact List.mem_concat_self

theorem nonBlockingRecv_calls {isStream done : Bool} {bufs : List Buffer}
    {calls : List (List Buffer)} {transfers : List CallResult} {transferred : Transferred}
    (performed : nonBlockingRecv isStream bufs calls transfers = some (done, transferred)) :
    bufs ∈ transferred.calls := by
  induction transfers generalizing calls with
  | nil => cases performed
  | cons answer transfers ih =>
      cases answer with
      | value bytes =>
          rw [nonBlockingRecv] at performed
          split at performed
          · cases performed
            exact List.mem_concat_self
          · cases performed
            exact List.mem_concat_self
      | errno ec failed =>
          rw [nonBlockingRecv] at performed
          split at performed
          · exact ih performed
          · split at performed
            · cases performed
              exact List.mem_concat_self
            · cases performed
              exact List.mem_concat_self

theorem nonBlockingSend_calls {done : Bool} {bufs : List Buffer} {calls : List (List Buffer)}
    {transfers : List CallResult} {transferred : Transferred}
    (performed : nonBlockingSend bufs calls transfers = some (done, transferred)) :
    bufs ∈ transferred.calls := by
  induction transfers generalizing calls with
  | nil => cases performed
  | cons answer transfers ih =>
      cases answer with
      | value bytes =>
          cases performed
          exact List.mem_concat_self
      | errno ec failed =>
          rw [nonBlockingSend] at performed
          split at performed
          · exact ih performed
          · split at performed
            · cases performed
              exact List.mem_concat_self
            · cases performed
              exact List.mem_concat_self

/-- An operation fails, or completes in a `perform` that has made a call. -/
theorem runOp_tried {doPerform : List (List Buffer) → List CallResult → Option (Bool × Transferred)}
    {bufs : List Buffer} (room : 0 < bufferSize bufs)
    (performs : ∀ calls transfers done transferred,
      doPerform calls transfers = some (done, transferred) → bufs ∈ transferred.calls)
    {calls : List (List Buffer)} {steps : List ReactorStep} {transferred : Transferred}
    (ran : runOp doPerform calls steps = some transferred) : transferred.Tried := by
  induction steps generalizing calls with
  | nil => cases ran
  | cons step steps ih =>
      cases step with
      | abort ec failed =>
          cases ran
          exact .inl failed
      | perform transfers =>
          rw [runOp] at ran
          split at ran
          · cases ran
          · next performed =>
            cases ran
            exact .inr ⟨bufs, performs _ _ _ _ performed, room⟩
          · exact ih ran

theorem startOp_tried {socket : Option Nat} {state : SocketState} {ioctl : CallResult}
    {run : Option Transferred} (tried : ∀ transferred, run = some transferred → transferred.Tried)
    {transferred : Transferred}
    (started : startOp socket state ioctl false run = some transferred) : transferred.Tried := by
  rw [startOp, if_neg Bool.false_ne_true] at started
  split at started
  · exact tried _ started
  · dsimp only at started
    split at started
    · next failed =>
      cases started
      exact .inl failed
    · exact tried _ started

/-- No transfer of a stream socket with a byte to transfer ends without a try. -/
structure TransfersTried (buffers : BufferSequence) : Prop where
  receive : ∀ socket state script transferred, state.streamOriented = true →
    receive socket state buffers script = some transferred → transferred.Tried
  send : ∀ socket state script transferred, state.streamOriented = true →
    send socket state buffers script = some transferred → transferred.Tried
  asyncReceive : ∀ socket state ioctl steps transferred, state.streamOriented = true →
    asyncReceive socket state buffers ioctl steps = some transferred → transferred.Tried
  asyncSend : ∀ socket state ioctl steps transferred, state.streamOriented = true →
    asyncSend socket state buffers ioctl steps = some transferred → transferred.Tried

theorem transfersTried_of_taken {buffers : BufferSequence}
    (room : 0 < bufferSize buffers.taken) : TransfersTried buffers := by
  have notEmpty : buffers.allEmpty = false := by
    rw [← Bool.not_eq_true, BufferSequence.allEmpty_iff]
    exact Nat.ne_of_gt room
  have notEmptied : buffers.adapter.allEmpty = false := by
    rw [BufferSequence.allEmpty_adapter, notEmpty]
  have native : 0 < bufferSize buffers.adapter.native := by
    rw [BufferSequence.adapter_eq]
    exact room
  have failed : ErrorCode.badDescriptor.failed = true := rfl
  refine ⟨?_, ?_, ?_, ?_⟩
  · intro socket state script transferred _ received
    rw [Network.receive, syncRecv, notEmptied, Bool.false_and] at received
    split at received
    · cases received
      exact .inl failed
    · exact .inr ⟨_, recvLoop_calls received, native⟩
  · intro socket state script transferred _ sent
    rw [Network.send, syncSend, notEmptied, Bool.false_and] at sent
    split at sent
    · cases sent
      exact .inl failed
    · exact .inr ⟨_, sendLoop_calls sent, native⟩
  · intro socket state ioctl steps transferred _ received
    rw [Network.asyncReceive, notEmpty, Bool.and_false] at received
    exact startOp_tried (fun _ ran => runOp_tried native
      (fun _ _ _ _ performed => nonBlockingRecv_calls performed) ran) received
  · intro socket state ioctl steps transferred _ sent
    rw [Network.asyncSend, notEmpty, Bool.and_false] at sent
    exact startOp_tried (fun _ ran => runOp_tried native
      (fun _ _ _ _ performed => nonBlockingSend_calls performed) ran) sent

/-- A sequence whose bytes the adapter does not see is received without a try. -/
theorem not_tried_of_unseen {buffers : BufferSequence} (unseen : bufferSize buffers.taken = 0) :
    ¬ TransfersTried buffers := by
  intro tried
  have emptied : buffers.adapter.allEmpty = true := by
    rw [BufferSequence.allEmpty_adapter, BufferSequence.allEmpty_iff]
    exact unseen
  have silent : Network.receive (some 0) ⟨false, false, true⟩ buffers ⟨[], []⟩ =
      some ⟨.success, 0, []⟩ := by
    rw [Network.receive, syncRecv, emptied]
    rfl
  rcases tried.receive _ _ _ _ rfl silent with failed | ⟨_, made, _⟩
  · cases failed
  · cases made

/-- **A non-empty transfer is never a silent no-op** exactly when the adapter sees a byte
of the sequence, and exactly then the adapter says what it should. -/
theorem stream_transfer_tried_iff (buffers : BufferSequence) :
    (buffers.Adapts ↔ buffers.Seen) ∧
      ((0 < bufferSize buffers.buffers → TransfersTried buffers) ↔ buffers.Seen) := by
  refine ⟨buffers.adapts_iff, fun tried => ?_, fun seen positive => ?_⟩
  · by_contra unseen
    obtain ⟨some, none⟩ := not_or.mp unseen
    exact not_tried_of_unseen (Nat.eq_zero_of_not_pos none) (tried (Nat.pos_of_ne_zero some))
  · exact transfersTried_of_taken (seen.resolve_left (Nat.ne_of_gt positive))

/-- As many empty buffers as the adapter takes, and then one byte. -/
def emptyThenByte : BufferSequence := .range (List.replicate 64 ⟨0, 0⟩ ++ [⟨0, 1⟩])

/-- The byte is neither received nor sent, and all four functions report success. -/
theorem not_stream_transfer_tried :
    ¬ emptyThenByte.Adapts ∧
      ¬ (0 < bufferSize emptyThenByte.buffers → TransfersTried emptyThenByte) ∧
      receive (some 5) ⟨false, false, true⟩ emptyThenByte ⟨[], []⟩ = some ⟨.success, 0, []⟩ ∧
      send (some 5) ⟨false, false, true⟩ emptyThenByte ⟨[], []⟩ = some ⟨.success, 0, []⟩ ∧
      asyncReceive (some 5) ⟨false, false, true⟩ emptyThenByte (.value 0) [] =
        some ⟨.success, 0, []⟩ ∧
      asyncSend (some 5) ⟨false, false, true⟩ emptyThenByte (.value 0) [] =
        some ⟨.success, 0, []⟩ := by
  have byte : bufferSize emptyThenByte.buffers = 1 := by decide
  have unseen : bufferSize emptyThenByte.taken = 0 := by decide
  refine ⟨fun adapts => ?_, fun tried => ?_, ?_⟩
  · have empty := emptyThenByte.allEmpty_iff.mpr unseen
    rw [adapts.static, byte] at empty
    cases empty
  · exact not_tried_of_unseen unseen (tried (byte ▸ Nat.one_pos))
  · decide

end Asio.Network
