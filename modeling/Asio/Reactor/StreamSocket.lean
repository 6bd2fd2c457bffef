import Asio.Reactor.EpollDescriptor
import Mathlib.Data.PNat.Defs

/-! # A stream socket as a device

The `do_perform` of the receive, send and wait operations over what the kernel
holds of a connected stream socket: bytes to be read, the end of the stream after
them, and room in the send buffer. No buffer of a transfer is empty: `start_op`
completes a transfer of nothing at once.
-/

namespace Asio.Reactor

/-- What the kernel holds of a connected stream socket. -/
structure StreamSocket where
  incoming : Nat
  ended : Bool
  room : Nat
  deriving DecidableEq, Repr

/-- The operations of a stream socket, with the size of their buffers. -/
inductive StreamOp where
  | recv (size : ℕ+)
  | send (size : ℕ+)
  | wait
  deriving DecidableEq

namespace StreamSocket

/-- `reactive_socket_recv_op_base::do_perform`. -/
def recv (socket : StreamSocket) (size : ℕ+) : PerformStatus × StreamSocket :=
  if socket.incoming = 0 then
    -- `recv` returns 0 at the end of the stream, and would block before it.
    (if socket.ended then .doneAndExhausted else .notDone, socket)
  else (.done, { socket with incoming := socket.incoming - size })

/-- `reactive_socket_send_op_base::do_perform`. -/
def send (socket : StreamSocket) (size : ℕ+) : PerformStatus × StreamSocket :=
  if socket.room = 0 then (.notDone, socket)
  else if socket.room < size then (.doneAndExhausted, { socket with room := 0 })
  else (.done, { socket with room := socket.room - size })

/-- `op->perform()`; `reactive_wait_op::do_perform` is always done. -/
def perform : StreamOp → StreamSocket → PerformStatus × StreamSocket
  | .recv size, socket => socket.recv size
  | .send size, socket => socket.send size
  | .wait, socket => (.done, socket)

/-- What `epoll` reports of the socket. -/
def ready (socket : StreamSocket) : EpollEvents
  | .epollIn => decide (socket.incoming ≠ 0) || socket.ended
  | .epollOut => decide (socket.room ≠ 0)
  | _ => false

/-- The socket as a device. -/
def device : Device StreamSocket StreamOp where
  ready := ready
  perform := perform

@[simp] theorem device_perform_recv (size : ℕ+) (socket : StreamSocket) :
    device.perform (.recv size) socket = socket.recv size := rfl

@[simp] theorem device_perform_send (size : ℕ+) (socket : StreamSocket) :
    device.perform (.send size) socket = socket.send size := rfl

/-- A receive is done when there is something to read, or nothing left to come. -/
theorem recv_done_iff (socket : StreamSocket) (size : ℕ+) :
    (socket.recv size).1 ≠ .notDone ↔ socket.ready.covers .read = true := by
  unfold recv
  by_cases empty : socket.incoming = 0
  · cases ended : socket.ended <;>
      simp [EpollEvents.covers, EpollOpType.flag, ready, empty, ended]
  · simp [EpollEvents.covers, EpollOpType.flag, ready, empty]

/-- A send is done when there is room. -/
theorem send_done_iff (socket : StreamSocket) (size : ℕ+) :
    (socket.send size).1 ≠ .notDone ↔ socket.ready.covers .write = true := by
  unfold send
  by_cases full : socket.room = 0
  · simp [EpollEvents.covers, EpollOpType.flag, ready, full]
  · by_cases partly : socket.room < size <;>
      simp [EpollEvents.covers, EpollOpType.flag, ready, full, partly]

end StreamSocket

end Asio.Reactor
