import Asio.Network.ReactiveSocketService

/-! # Who closes a descriptor

Descriptors come from the user, from `socket()` and from `accept()`. A `socket_holder` has them
until a socket takes them over, or else closes them: on the stack of `do_open` and `accept`, and in
an accept operation for as long as it lasts. Sockets hand them on when they are moved from.
-/

namespace Asio.Network

open Reactor

/-- A `reactive_socket_accept_op`, or with `moves` a `reactive_socket_move_accept_op`, which is
itself the peer. It waits in the reactor until it is performed or cancelled. -/
structure AcceptOp (Socket : Type*) where
  peer : Socket
  moves : Bool
  newSocket : Option Nat
  ec : ErrorCode
  waiting : Bool
  deriving DecidableEq

/-- Who has a descriptor. -/
inductive SocketOwner (Socket Accept : Type*) where
  | user (descriptor : Nat)
  | socket (socket : Socket)
  | accept (accept : Accept)
  deriving DecidableEq

/-- A socket exists as an object of the user, or inside of an accept operation that moves. -/
inductive SocketLife where
  | absent
  | object
  | inside
  deriving DecidableEq, Repr

/-- The service, which of the sockets exist, the descriptors that are open, those the user has, the
accept operations, and whether a descriptor was closed that was not open. -/
structure SocketHolders (Socket Accept World Op : Type*) where
  service : SocketService Socket World Op
  life : Socket → SocketLife
  opened : Nat → Bool
  user : Nat → Bool
  accepts : Accept → Option (AcceptOp Socket)
  misused : Bool

/-- What happens to the sockets, with the answers of the system. The socket that `complete` names
is the one in the `move_binder2` that is made of an operation that moves. -/
inductive HolderAction (Socket Accept : Type*) where
  | create (descriptor : Nat)
  | dispose (descriptor : Nat)
  | construct (socket : Socket)
  | doOpen (socket : Socket) (type : SocketType) (created : Except ℕ+ Nat)
      (registered : Option ℕ+)
  | doAssign (socket : Socket) (type : SocketType) (nativeSocket : Nat) (registered : Option ℕ+)
  | close (socket : Socket) (closed : ErrorCode)
  | release (socket : Socket)
  | moveConstruct (socket other : Socket)
  | moveAssign (socket other : Socket)
  | destroy (socket : Socket)
  | accept (peer : Socket) (type : SocketType) (accepted : Except ErrorCode Nat)
      (registered : Option ℕ+)
  | acceptNew (peer : Socket) (type : SocketType) (accepted : Except ErrorCode Nat)
      (registered : Option ℕ+)
  | asyncAccept (accept : Accept) (peer : Socket) (notStarted : Option ErrorCode)
  | asyncMoveAccept (accept : Accept) (peer : Socket) (notStarted : Option ErrorCode)
  | perform (accept : Accept) (accepted : Option (Except ErrorCode Nat))
  | cancel (accept : Accept)
  | complete (accept : Accept) (type : SocketType) (registered : Option ℕ+) (bound : Socket)
  | abandon (accept : Accept)
  deriving DecidableEq

namespace SocketService

variable {Socket World Op : Type*} [DecidableEq Socket]

/-- `base_move_construct`. The other implementation is reset member by member, after the members
were copied. -/
def baseMove (service : SocketService Socket World Op) (socket other : Socket) :
    SocketService Socket World Op :=
  let moved := (service.setImpl socket (service.impl other)).setImpl other .constructed
  { moved with reactor := moved.reactor.moveDescriptor socket other }

/-- `destroy`, which leaves the members as they are. -/
def baseDestroy (service : SocketService Socket World Op) (socket : Socket) :
    SocketService Socket World Op :=
  if (service.impl socket).isOpen then service.dropDescriptor socket else service

end SocketService

namespace SocketHolders

variable {Socket Accept World Op : Type*} [DecidableEq Socket] [DecidableEq Accept]

/-- No sockets and no descriptors. -/
def new (world : World) : SocketHolders Socket Accept World Op where
  service := ⟨.constructed world, fun _ => .constructed⟩
  life _ := .absent
  opened _ := false
  user _ := false
  accepts _ := none
  misused := false

section Functions

variable (state : SocketHolders Socket Accept World Op)

/-- The system gives out a descriptor. -/
def openDescriptor (descriptor : Nat) : SocketHolders Socket Accept World Op :=
  { state with opened := Function.update state.opened descriptor true }

/-- `socket_ops::close`; where the first attempt would block, the second is made in blocking
mode. -/
def closeDescriptor (descriptor : Nat) : SocketHolders Socket Accept World Op :=
  { state with
    opened := Function.update state.opened descriptor false
    misused := state.misused || !state.opened descriptor }

/-- The end of a `socket_holder`, or `reset`. -/
def closeHeld : Option Nat → SocketHolders Socket Accept World Op
  | some descriptor => state.closeDescriptor descriptor
  | none => state

def setAccept (accept : Accept) (op : Option (AcceptOp Socket)) :
    SocketHolders Socket Accept World Op :=
  { state with accepts := Function.update state.accepts accept op }

def setLife (socket : Socket) (life : SocketLife) : SocketHolders Socket Accept World Op :=
  { state with life := Function.update state.life socket life }

def setUser (descriptor : Nat) (owns : Bool) : SocketHolders Socket Accept World Op :=
  { state with user := Function.update state.user descriptor owns }

/-- The constructor of a socket that is not open. -/
def construct (socket : Socket) (life : SocketLife) : SocketHolders Socket Accept World Op :=
  { state.setLife socket life with service := state.service.setImpl socket .constructed }

/-- `do_open`: the descriptor of `socket()` is in a holder until it is registered. -/
def doOpen (socket : Socket) (type : SocketType) (created : Except ℕ+ Nat)
    (registered : Option ℕ+) : SocketHolders Socket Accept World Op :=
  let result := state.service.doOpen socket type created registered
  let done := { state with service := result.2 }
  if (state.service.impl socket).isOpen = true then done
  else
    match created with
    | .error _ => done
    | .ok sock =>
        let opened := done.openDescriptor sock
        if result.1.failed = true then opened.closeDescriptor sock else opened

/-- `peer.assign` of what a holder has, which it releases on success. -/
def assignHeld (peer : Socket) (type : SocketType) (held : Nat) (registered : Option ℕ+) :
    ErrorCode × SocketHolders Socket Accept World Op :=
  let result := state.service.doAssign peer type held registered
  (result.1, { state with service := result.2 })

/-- `accept` on the part of the peer, with what `sync_accept` has returned. -/
def accept (peer : Socket) (type : SocketType) (accepted : Except ErrorCode Nat)
    (registered : Option ℕ+) : SocketHolders Socket Accept World Op :=
  if (state.service.impl peer).isOpen = true then state
  else
    match accepted with
    | .error _ => state
    | .ok sock =>
        let result := (state.openDescriptor sock).assignHeld peer type sock registered
        if result.1.failed = true then result.2.closeDescriptor sock else result.2

/-- `base_move_construct` on a new socket. -/
def moveConstruct (socket other : Socket) : SocketHolders Socket Accept World Op :=
  { state.setLife socket .object with service := state.service.baseMove socket other }

/-- The destructor of a socket, but for the end of its life. -/
def closeSocket (socket : Socket) : SocketHolders Socket Accept World Op :=
  { state with service := state.service.baseDestroy socket }.closeHeld
    (state.service.impl socket).socket

/-- The destructor of a socket. -/
def destroy (socket : Socket) : SocketHolders Socket Accept World Op :=
  (state.closeSocket socket).setLife socket .absent

/-- `base_move_assign`. -/
def moveAssign (socket other : Socket) : SocketHolders Socket Accept World Op :=
  let closed := state.closeSocket socket
  { closed with service := closed.service.baseMove socket other }

/-- `close`. -/
def close (socket : Socket) (closed : ErrorCode) : SocketHolders Socket Accept World Op :=
  { state with service := (state.service.close socket closed).2 }.closeHeld
    (state.service.impl socket).socket

/-- `release`; the user has the descriptor that it returns. -/
def release (socket : Socket) : SocketHolders Socket Accept World Op :=
  let result := state.service.release socket
  let released := { state with service := result.2.2 }
  match result.2.1 with
  | some descriptor => released.setUser descriptor true
  | none => released

/-- `do_assign` of an accept operation. -/
def assignAccepted (accept : Accept) (op : AcceptOp Socket) (type : SocketType)
    (registered : Option ℕ+) : SocketHolders Socket Accept World Op :=
  match op.newSocket with
  | none => state
  | some sock =>
      let result := state.assignHeld op.peer type sock registered
      let newSocket := if result.1.failed = true then some sock else none
      result.2.setAccept accept (some { op with ec := result.1, newSocket := newSocket })

/-- The destructor of an accept operation: first its holder, then its socket if it is one. -/
def destroyAccept (accept : Accept) : SocketHolders Socket Accept World Op :=
  match state.accepts accept with
  | none => state
  | some op =>
      let closed := (state.setAccept accept none).closeHeld op.newSocket
      if op.moves = true then closed.destroy op.peer else closed

/-- Whether the system can give out the descriptor that it answers. -/
def fresh {ε : Type*} : Except ε Nat → Bool
  | .ok sock => !state.opened sock
  | .error _ => true

/-- One step. The user uses its own sockets and descriptors, and the peer that an operation refers
to exists when the operation completes. -/
def step : HolderAction Socket Accept → Option (SocketHolders Socket Accept World Op)
  | .create descriptor =>
      if state.opened descriptor = false then
        some ((state.openDescriptor descriptor).setUser descriptor true)
      else none
  | .dispose descriptor =>
      if state.user descriptor = true then
        some ((state.setUser descriptor false).closeDescriptor descriptor)
      else none
  | .construct socket =>
      if state.life socket = .absent then some (state.construct socket .object) else none
  | .doOpen socket type created registered =>
      if state.life socket = .object ∧ state.fresh created = true then
        some (state.doOpen socket type created registered)
      else none
  | .doAssign socket type nativeSocket registered =>
      if state.life socket = .object ∧ state.user nativeSocket = true then
        let result := state.assignHeld socket type nativeSocket registered
        some (if result.1.failed = true then result.2 else result.2.setUser nativeSocket false)
      else none
  | .close socket closed =>
      if state.life socket = .object then some (state.close socket closed) else none
  | .release socket => if state.life socket = .object then some (state.release socket) else none
  | .moveConstruct socket other =>
      if state.life socket = .absent ∧ state.life other = .object then
        some (state.moveConstruct socket other)
      else none
  | .moveAssign socket other =>
      if state.life socket = .object ∧ state.life other = .object then
        some (state.moveAssign socket other)
      else none
  | .destroy socket => if state.life socket = .object then some (state.destroy socket) else none
  | .accept peer type accepted registered =>
      if state.life peer = .object ∧ state.fresh accepted = true then
        some (state.accept peer type accepted registered)
      else none
  | .acceptNew peer type accepted registered =>
      if state.life peer = .absent ∧ state.fresh accepted = true then
        some ((state.construct peer .object).accept peer type accepted registered)
      else none
  | .asyncAccept accept peer notStarted =>
      match state.accepts accept with
      | some _ => none
      | none =>
          if state.life peer = .object then
            let error := if (state.service.impl peer).isOpen = true then some .alreadyOpen
              else notStarted
            some (state.setAccept accept
              (some ⟨peer, false, none, error.getD .success, error.isNone⟩))
          else none
  | .asyncMoveAccept accept peer notStarted =>
      match state.accepts accept with
      | some _ => none
      | none =>
          if state.life peer = .absent then
            some ((state.construct peer .inside).setAccept accept
              (some ⟨peer, true, none, notStarted.getD .success, notStarted.isNone⟩))
          else none
  | .perform accept accepted =>
      match state.accepts accept with
      | none => none
      | some op =>
          if op.waiting = true then
            match accepted with
            | none => some ((state.closeHeld op.newSocket).setAccept accept
                (some { op with newSocket := none }))
            | some (.error ec) => some ((state.closeHeld op.newSocket).setAccept accept
                (some { op with newSocket := none, ec := ec, waiting := false }))
            | some (.ok sock) =>
                if state.opened sock = false then
                  some (((state.openDescriptor sock).closeHeld op.newSocket).setAccept accept
                    (some { op with newSocket := some sock, ec := .success, waiting := false }))
                else none
          else none
  | .cancel accept =>
      match state.accepts accept with
      | none => none
      | some op =>
          if op.waiting = true then
            some (state.setAccept accept
              (some { op with ec := .operationAborted, waiting := false }))
          else none
  | .complete accept type registered bound =>
      match state.accepts accept with
      | none => none
      | some op =>
          if op.waiting = false ∧
              (if op.moves = true then state.life bound = .absent
              else state.life op.peer = .object) then
            let assigned := state.assignAccepted accept op type registered
            let handed := if op.moves = true then assigned.moveConstruct bound op.peer else assigned
            some (handed.destroyAccept accept)
          else none
  | .abandon accept =>
      match state.accepts accept with
      | none => none
      | some _ => some (state.destroyAccept accept)

end Functions

end SocketHolders

/-- The machine of the sockets and the accept operations. -/
def socketHolders {Socket Accept World Op : Type*} [DecidableEq Socket] [DecidableEq Accept] :
    Transition.Machine (SocketHolders Socket Accept World Op) (HolderAction Socket Accept) where
  initial state := ∃ world, state = .new world
  step state action := state.step action

end Asio.Network
