import Asio.Error
import Asio.Reactor.EpollReactorRuns
import Asio.Reactor.EpollSet

/-! # Opening and closing the sockets of a reactor

`reactive_socket_service_base` over an epoll reactor: `do_open` and `do_assign`, which
register a descriptor before they store it in the implementation, and `close` and
`release`, which deregister what the implementation holds.
-/

namespace Asio.Network

open Reactor

/-- The `type` argument of `do_open` and `do_assign`. -/
inductive SocketType where
  | stream
  | dgram
  | other
  deriving DecidableEq, Repr

/-- `socket_ops::state_type`, as far as `do_open` and `do_assign` set it. -/
structure SocketStateFlags where
  streamOriented : Bool
  datagramOriented : Bool
  possibleDup : Bool
  deriving DecidableEq, Repr

/-- `base_implementation_type`; `invalid_socket` is `none`. Its `reactor_data_` is what the
reactor keeps for the socket. -/
structure SocketImplementation where
  socket : Option Nat
  state : SocketStateFlags
  deriving DecidableEq, Repr

/-- `is_open`. -/
def SocketImplementation.isOpen (impl : SocketImplementation) : Bool := impl.socket.isSome

/-- `state_ = 0`. -/
def SocketStateFlags.zero : SocketStateFlags := ⟨false, false, false⟩

/-- The `switch` over the type. -/
def SocketStateFlags.ofType : SocketType → SocketStateFlags
  | .stream => { SocketStateFlags.zero with streamOriented := true }
  | .dgram => { SocketStateFlags.zero with datagramOriented := true }
  | .other => SocketStateFlags.zero

/-- What `construct` leaves. -/
def SocketImplementation.constructed : SocketImplementation := ⟨none, SocketStateFlags.zero⟩

/-- The service: its reactor, and the implementations of the sockets. -/
structure SocketService (Socket World Op : Type*) where
  reactor : EpollReactor Socket World Op
  impl : Socket → SocketImplementation

/-- A call, with what the system answers: the `errno` or the descriptor of `socket()`, the
`errno` of `EPOLL_CTL_ADD`, and the error code that `socket_ops::close` sets. -/
inductive SocketCall (Socket : Type*) where
  | doOpen (socket : Socket) (type : SocketType) (created : Except ℕ+ Nat)
      (registered : Option ℕ+)
  | doAssign (socket : Socket) (type : SocketType) (nativeSocket : Nat)
      (registered : Option ℕ+)
  | close (socket : Socket) (closed : ErrorCode)
  | release (socket : Socket)
  deriving DecidableEq

namespace SocketService

variable {Socket World Op : Type*} [DecidableEq Socket]

/-- The implementation of a socket is assigned. -/
def setImpl (service : SocketService Socket World Op) (socket : Socket)
    (value : SocketImplementation) : SocketService Socket World Op :=
  { service with impl := Function.update service.impl socket value }

/-- `reactor_.register_descriptor`. -/
def registerDescriptor (service : SocketService Socket World Op) (socket : Socket)
    (registered : Option ℕ+) : SocketService Socket World Op :=
  { service with reactor := service.reactor.registerDescriptor socket (registerReply registered) }

/-- `deregister_descriptor` and `cleanup_descriptor_data`; what the system does with the
descriptor between them does not matter to the pool. -/
def dropDescriptor (service : SocketService Socket World Op) (socket : Socket) :
    SocketService Socket World Op :=
  { service with
    reactor := (service.reactor.deregisterDescriptor socket).cleanupDescriptorData socket }

/-- `do_open`. -/
def doOpen (service : SocketService Socket World Op) (socket : Socket) (type : SocketType)
    (created : Except ℕ+ Nat) (registered : Option ℕ+) :
    ErrorCode × SocketService Socket World Op :=
  if (service.impl socket).isOpen then (.alreadyOpen, service)
  else
    match created with
    | .error errno => (.ofErrno errno, service)
    | .ok sock =>
        match registerError registered with
        -- The `socket_holder` closes the descriptor; nothing undoes the registration.
        | some errno => (.ofErrno errno, service.registerDescriptor socket registered)
        | none => (.success, (service.registerDescriptor socket registered).setImpl socket
            ⟨some sock, SocketStateFlags.ofType type⟩)

/-- `do_assign`. -/
def doAssign (service : SocketService Socket World Op) (socket : Socket) (type : SocketType)
    (nativeSocket : Nat) (registered : Option ℕ+) : ErrorCode × SocketService Socket World Op :=
  if (service.impl socket).isOpen then (.alreadyOpen, service)
  else
    match registerError registered with
    | some errno => (.ofErrno errno, service.registerDescriptor socket registered)
    | none => (.success, (service.registerDescriptor socket registered).setImpl socket
        ⟨some nativeSocket, { SocketStateFlags.ofType type with possibleDup := true }⟩)

/-- `close`. -/
def close (service : SocketService Socket World Op) (socket : Socket) (closed : ErrorCode) :
    ErrorCode × SocketService Socket World Op :=
  if (service.impl socket).isOpen then
    (closed, (service.dropDescriptor socket).setImpl socket .constructed)
  else (.success, service.setImpl socket .constructed)

/-- `release`, with the descriptor it returns. -/
def release (service : SocketService Socket World Op) (socket : Socket) :
    ErrorCode × Option Nat × SocketService Socket World Op :=
  if (service.impl socket).isOpen then
    (.success, (service.impl socket).socket,
      (service.dropDescriptor socket).setImpl socket .constructed)
  else (.badDescriptor, none, service)

/-- One call. -/
def call (service : SocketService Socket World Op) :
    SocketCall Socket → ErrorCode × SocketService Socket World Op
  | .doOpen socket type created registered => service.doOpen socket type created registered
  | .doAssign socket type nativeSocket registered =>
      service.doAssign socket type nativeSocket registered
  | .close socket closed => service.close socket closed
  | .release socket => ((service.release socket).1, (service.release socket).2.2)

/-- The service as a machine, with every socket closed at first. -/
def machine : Transition.Machine (SocketService Socket World Op) (SocketCall Socket) where
  initial service := ∃ world, service = ⟨.constructed world, fun _ => .constructed⟩
  step service request := some (service.call request).2

/-! ## What a call leaves -/

/-- The `descriptor_state` that a socket's `reactor_data_` points to. -/
def object (service : SocketService Socket World Op) (socket : Socket) : Option Nat :=
  (service.reactor.descriptorData socket).map (·.object)

/-- The pool has the same live objects and the implementation its three members. -/
structure Traceless (service after : SocketService Socket World Op) (socket : Socket) : Prop where
  live : after.reactor.live.Perm service.reactor.live
  impl : after.impl socket = service.impl socket
  reactorData : after.object socket = service.object socket

/-- The live list holds exactly one `descriptor_state` for each open socket. -/
structure OnePerSocket (service : SocketService Socket World Op) : Prop where
  distinct : service.reactor.live.Nodup
  registered : ∀ socket, (service.impl socket).isOpen = true →
    ∃ object ∈ service.reactor.live, service.object socket = some object
  owned : ∀ object ∈ service.reactor.live, ∃ socket, (service.impl socket).isOpen = true ∧
    service.object socket = some object
  separate : ∀ first second, (service.impl first).isOpen = true →
    (service.impl second).isOpen = true → service.object first = service.object second →
      first = second

/-- The call reaches `EPOLL_CTL_ADD`, and it fails with an error other than `EPERM`. -/
def failsToRegister (service : SocketService Socket World Op) : SocketCall Socket → Bool
  | .doOpen socket _ (.ok _) registered =>
      !(service.impl socket).isOpen && (registerError registered).isSome
  | .doAssign socket _ _ registered =>
      !(service.impl socket).isOpen && (registerError registered).isSome
  | _ => false

/-! ## A failed call -/

variable {service after : SocketService Socket World Op}

theorem registerDescriptor_length (service : SocketService Socket World Op) (socket : Socket)
    (registered : Option ℕ+) :
    (service.registerDescriptor socket registered).reactor.live.length =
      service.reactor.live.length + 1 := rfl

/-- A registration is a trace. -/
theorem not_traceless_registerDescriptor (service : SocketService Socket World Op)
    (socket : Socket) (registered : Option ℕ+) :
    ¬ Traceless service (service.registerDescriptor socket registered) socket := by
  intro traceless
  have same := traceless.live.length_eq
  rw [registerDescriptor_length] at same
  exact Nat.succ_ne_self _ same

/-- An error of the registration is one, and it leaves the registered object behind. -/
theorem not_traceless_of_refused (service : SocketService Socket World Op) (socket : Socket)
    (registered : Option ℕ+) (errno : ℕ+) :
    ¬ ((ErrorCode.ofErrno errno).failed = true →
      Traceless service (service.registerDescriptor socket registered) socket) :=
  fun traceless => not_traceless_registerDescriptor service socket registered
    (traceless (ErrorCode.ofErrno_failed errno))

omit [DecidableEq Socket] in
theorem Traceless.refl (service : SocketService Socket World Op) (socket : Socket) :
    Traceless service service socket where
  live := List.Perm.refl _
  impl := rfl
  reactorData := rfl

/-- What a call does to the service; the first index tells whether a registration failed. -/
inductive Changes (service : SocketService Socket World Op) :
    Bool → SocketService Socket World Op → Prop where
  | kept : Changes service false service
  | refused (socket : Socket) (registered : Option ℕ+) :
      (service.impl socket).isOpen = false →
      Changes service true (service.registerDescriptor socket registered)
  | opened (socket : Socket) (registered : Option ℕ+) (value : SocketImplementation) :
      (service.impl socket).isOpen = false → value.isOpen = true →
      Changes service false ((service.registerDescriptor socket registered).setImpl socket value)
  | closed (socket : Socket) : (service.impl socket).isOpen = true →
      Changes service false ((service.dropDescriptor socket).setImpl socket .constructed)
  | reset (socket : Socket) : (service.impl socket).isOpen = false →
      Changes service false (service.setImpl socket .constructed)

theorem doOpen_changes (service : SocketService Socket World Op) (socket : Socket)
    (type : SocketType) (created : Except ℕ+ Nat) (registered : Option ℕ+) :
    Changes service (service.failsToRegister (.doOpen socket type created registered))
      (service.doOpen socket type created registered).2 := by
  unfold doOpen
  cases isOpen : (service.impl socket).isOpen with
  | true =>
      rw [if_pos rfl]
      cases created with
      | error errno => exact .kept
      | ok sock =>
          rw [failsToRegister, isOpen]
          exact .kept
  | false =>
      rw [if_neg Bool.false_ne_true]
      cases created with
      | error errno => exact .kept
      | ok sock =>
          rw [failsToRegister, isOpen]
          cases registerError registered with
          | some errno => exact .refused socket registered isOpen
          | none => exact .opened socket registered _ isOpen rfl

theorem doAssign_changes (service : SocketService Socket World Op) (socket : Socket)
    (type : SocketType) (nativeSocket : Nat) (registered : Option ℕ+) :
    Changes service (service.failsToRegister (.doAssign socket type nativeSocket registered))
      (service.doAssign socket type nativeSocket registered).2 := by
  unfold doAssign
  rw [failsToRegister]
  cases isOpen : (service.impl socket).isOpen with
  | true =>
      rw [if_pos rfl]
      exact .kept
  | false =>
      rw [if_neg Bool.false_ne_true]
      cases registerError registered with
      | some errno => exact .refused socket registered isOpen
      | none => exact .opened socket registered _ isOpen rfl

theorem call_changes (service : SocketService Socket World Op) (request : SocketCall Socket) :
    Changes service (service.failsToRegister request) (service.call request).2 := by
  cases request with
  | doOpen socket type created registered => exact service.doOpen_changes ..
  | doAssign socket type nativeSocket registered => exact service.doAssign_changes ..
  | close socket closed =>
      rw [call, close]
      cases isOpen : (service.impl socket).isOpen with
      | true => exact .closed socket isOpen
      | false => exact .reset socket isOpen
  | release socket =>
      rw [call, release]
      cases isOpen : (service.impl socket).isOpen with
      | true => exact .closed socket isOpen
      | false => exact .kept

/-- A failed `do_open` of a closed socket leaves no trace exactly when it does not fail in
`register_descriptor`. -/
theorem doOpen_traceless_iff {socket : Socket} (closed : (service.impl socket).isOpen = false)
    (type : SocketType) (created : Except ℕ+ Nat) (registered : Option ℕ+) :
    ((service.doOpen socket type created registered).1.failed = true →
        Traceless service (service.doOpen socket type created registered).2 socket) ↔
      service.failsToRegister (.doOpen socket type created registered) = false := by
  unfold doOpen
  rw [closed, if_neg Bool.false_ne_true]
  cases created with
  | error errno => exact iff_of_true (fun _ => .refl service socket) rfl
  | ok sock =>
      rw [failsToRegister, closed]
      cases refused : registerError registered with
      | none => exact iff_of_true (fun failed => absurd failed Bool.false_ne_true) rfl
      | some errno =>
          apply iff_of_false _ Bool.false_ne_true.symm
          exact not_traceless_of_refused service socket registered errno

/-- A failed `do_assign` of a closed socket leaves a trace. -/
theorem doAssign_traceless_iff {socket : Socket} (closed : (service.impl socket).isOpen = false)
    (type : SocketType) (nativeSocket : Nat) (registered : Option ℕ+) :
    ((service.doAssign socket type nativeSocket registered).1.failed = true →
        Traceless service (service.doAssign socket type nativeSocket registered).2 socket) ↔
      service.failsToRegister (.doAssign socket type nativeSocket registered) = false := by
  unfold doAssign
  rw [closed, if_neg Bool.false_ne_true, failsToRegister, closed]
  cases refused : registerError registered with
  | none => exact iff_of_true (fun failed => absurd failed Bool.false_ne_true) rfl
  | some errno =>
      apply iff_of_false _ Bool.false_ne_true.symm
      exact not_traceless_of_refused service socket registered errno

/-! ## Whole runs -/

/-- What holds in every run, also after registrations that failed. -/
structure Consistent (service : SocketService Socket World Op) : Prop where
  sound : service.reactor.Sound
  inUse : service.reactor.InUse
  settled : service.reactor.closing = []
  working : ∀ object ∈ service.reactor.live, (service.reactor.objects object).shutdown = false
  registered : ∀ socket, (service.impl socket).isOpen = true →
    ∃ data, service.reactor.descriptorData socket = some data

theorem setImpl_impl_self (service : SocketService Socket World Op) (socket : Socket)
    (value : SocketImplementation) : (service.setImpl socket value).impl socket = value :=
  Function.update_self ..

theorem setImpl_impl_of_ne (service : SocketService Socket World Op) {socket other : Socket}
    (different : other ≠ socket) (value : SocketImplementation) :
    (service.setImpl socket value).impl other = service.impl other :=
  Function.update_of_ne different ..

@[simp] theorem setImpl_reactor (service : SocketService Socket World Op) (socket : Socket)
    (value : SocketImplementation) : (service.setImpl socket value).reactor = service.reactor := rfl

theorem setImpl_object (service : SocketService Socket World Op) (socket : Socket)
    (value : SocketImplementation) : (service.setImpl socket value).object = service.object := rfl

theorem registerDescriptor_object_self (service : SocketService Socket World Op) (socket : Socket)
    (registered : Option ℕ+) :
    (service.registerDescriptor socket registered).object socket =
      some service.reactor.allocated := by
  change (Function.update service.reactor.descriptorData socket _ socket).map _ = _
  rw [Function.update_self]
  rfl

theorem registerDescriptor_object_of_ne (service : SocketService Socket World Op)
    {socket other : Socket} (different : other ≠ socket) (registered : Option ℕ+) :
    (service.registerDescriptor socket registered).object other = service.object other := by
  change (Function.update service.reactor.descriptorData socket _ other).map _ = _
  rw [Function.update_of_ne different]
  rfl

omit [DecidableEq Socket] in
/-- What a socket points to is live. -/
theorem Consistent.live_of_object (consistent : service.Consistent) {socket : Socket}
    {object : Nat} (points : service.object socket = some object) :
    object ∈ service.reactor.live := by
  obtain ⟨data, refers, rfl⟩ := Option.map_eq_some_iff.mp points
  exact consistent.inUse socket data refers

omit [DecidableEq Socket] in
/-- Two sockets do not point to one object. -/
theorem Consistent.object_separate (consistent : service.Consistent) {first second : Socket}
    {object : Nat} (isFirst : service.object first = some object)
    (isSecond : service.object second = some object) : first = second := by
  obtain ⟨data, refers, same⟩ := Option.map_eq_some_iff.mp isFirst
  obtain ⟨others, referred, same'⟩ := Option.map_eq_some_iff.mp isSecond
  exact consistent.sound.pooled.separate first second data others refers referred
    (same.trans same'.symm)

/-- `register_descriptor` keeps the reactor consistent, whatever it returns. -/
theorem Consistent.registerDescriptor (consistent : service.Consistent) (socket : Socket)
    (registered : Option ℕ+) : (service.registerDescriptor socket registered).Consistent where
  sound := by
    apply consistent.sound.registerDescriptor
    · rw [consistent.settled]
      exact List.not_mem_nil
    · exact consistent.inUse.unreferenced consistent.sound.pooled socket
  inUse := consistent.inUse.registerDescriptor socket _
  settled := consistent.settled
  working := by
    intro object isLive
    change (Function.update service.reactor.objects service.reactor.allocated _ object).shutdown = _
    by_cases own : object = service.reactor.allocated
    · rw [own, Function.update_self]
    · rw [Function.update_of_ne own]
      exact consistent.working object ((List.mem_cons.mp isLive).resolve_left own)
  registered := by
    intro other isOpen
    by_cases own : other = socket
    · exact ⟨_, EpollReactor.registerDescriptor_descriptorData_iff.mpr (.inl ⟨own, rfl⟩)⟩
    · obtain ⟨data, old⟩ := consistent.registered other isOpen
      exact ⟨data, EpollReactor.registerDescriptor_descriptorData_iff.mpr (.inr ⟨own, old⟩)⟩

/-- An implementation is assigned; it is not open unless the socket is registered. -/
theorem Consistent.setImpl (consistent : service.Consistent) {socket : Socket}
    {value : SocketImplementation}
    (registered : value.isOpen = true → ∃ data, service.reactor.descriptorData socket = some data) :
    (service.setImpl socket value).Consistent where
  sound := consistent.sound
  inUse := consistent.inUse
  settled := consistent.settled
  working := consistent.working
  registered := by
    intro other isOpen
    by_cases own : other = socket
    · rw [own, setImpl_impl_self] at isOpen
      rw [own]
      exact registered isOpen
    · rw [setImpl_impl_of_ne service own] at isOpen
      exact consistent.registered other isOpen

/-- What `deregister_descriptor` and `cleanup_descriptor_data` leave of a socket's object. -/
theorem Consistent.dropDescriptor_eq (consistent : service.Consistent) {socket : Socket}
    {data : PerDescriptorData} (refers : service.reactor.descriptorData socket = some data) :
    (service.dropDescriptor socket).reactor =
      { (((service.reactor.takeOps data.object .aborted).setShutdown data.object)
          |>.freeDescriptorState data.object).clearData socket with closing := [] } := by
  have isLive := consistent.inUse socket data refers
  have isOpen : (service.reactor.objects data.object).shutdown = false :=
    consistent.working data.object isLive
  have dropped : service.reactor.deregisterDescriptor socket =
      { (service.reactor.takeOps data.object .aborted).setShutdown data.object with
        closing := [socket] } := by
    rw [EpollReactor.deregisterDescriptor, refers]
    dsimp only
    rw [isOpen, consistent.settled]
    rfl
  have referred : ({ (service.reactor.takeOps data.object .aborted).setShutdown data.object with
      closing := [socket] } : EpollReactor Socket World Op).descriptorData socket = some data :=
    refers
  have forgotten : [socket].filter (fun other => decide (other ≠ socket)) = [] := by simp
  change (service.reactor.deregisterDescriptor socket).cleanupDescriptorData socket = _
  rw [dropped, EpollReactor.cleanupDescriptorData_eq referred]
  dsimp only
  rw [forgotten]
  rfl

theorem Consistent.dropDescriptor_live (consistent : service.Consistent) {socket : Socket}
    {object : Nat} (points : service.object socket = some object) :
    (service.dropDescriptor socket).reactor.live = service.reactor.live.erase object := by
  obtain ⟨data, refers, rfl⟩ := Option.map_eq_some_iff.mp points
  rw [consistent.dropDescriptor_eq refers]
  rfl

theorem Consistent.dropDescriptor_object_of_ne (consistent : service.Consistent)
    {socket other : Socket} {object : Nat} (points : service.object socket = some object)
    (different : other ≠ socket) :
    (service.dropDescriptor socket).object other = service.object other := by
  obtain ⟨data, refers, rfl⟩ := Option.map_eq_some_iff.mp points
  rw [SocketService.object, consistent.dropDescriptor_eq refers]
  change (Function.update service.reactor.descriptorData socket none other).map _ = _
  rw [Function.update_of_ne different]
  rfl

theorem Consistent.dropDescriptor_sound (consistent : service.Consistent) (socket : Socket) :
    (service.dropDescriptor socket).reactor.Sound := by
  have settled : socket ∉ service.reactor.closing := by
    rw [consistent.settled]
    exact List.not_mem_nil
  cases refers : service.reactor.descriptorData socket with
  | none =>
      have same : (service.dropDescriptor socket).reactor = service.reactor := by
        change (service.reactor.deregisterDescriptor socket).cleanupDescriptorData socket = _
        have unregistered : service.reactor.deregisterDescriptor socket = service.reactor := by
          rw [EpollReactor.deregisterDescriptor, refers]
        rw [unregistered, EpollReactor.cleanupDescriptorData, refers]
      rw [same]
      exact consistent.sound
  | some data =>
      have isOpen := consistent.working data.object (consistent.inUse socket data refers)
      apply (consistent.sound.deregisterDescriptor settled).cleanupDescriptorData
      rw [EpollReactor.deregisterDescriptor, refers]
      dsimp only
      rw [isOpen]
      exact List.mem_cons_self

/-- A registered socket is closed. -/
theorem Consistent.closed (consistent : service.Consistent) {socket : Socket}
    (isOpen : (service.impl socket).isOpen = true) :
    ((service.dropDescriptor socket).setImpl socket .constructed).Consistent := by
  obtain ⟨data, refers⟩ := consistent.registered socket isOpen
  have dropped := consistent.dropDescriptor_eq refers
  constructor
  · exact consistent.dropDescriptor_sound socket
  · intro other others referred
    rw [setImpl_reactor, dropped] at referred ⊢
    obtain ⟨different, old⟩ := EpollReactor.clearData_descriptorData_iff.mp referred
    apply (List.mem_erase_of_ne _).mpr (consistent.inUse other others old)
    exact fun shared => different
      (consistent.sound.pooled.separate other socket others data old refers shared)
  · rw [setImpl_reactor, dropped]
  · intro object isLive
    rw [setImpl_reactor, dropped] at isLive ⊢
    change object ∈ service.reactor.live.erase data.object at isLive
    have distinct := (List.nodup_append.mp consistent.sound.pooled.distinct).1
    obtain ⟨different, isLive⟩ := distinct.mem_erase_iff.mp isLive
    change (Function.update (Function.update service.reactor.objects data.object _)
      data.object _ object).shutdown = _
    rw [Function.update_of_ne different, Function.update_of_ne different]
    exact consistent.working object isLive
  · intro other isOpen'
    by_cases own : other = socket
    · rw [own, setImpl_impl_self] at isOpen'
      contradiction
    · rw [setImpl_impl_of_ne _ own] at isOpen'
      rw [setImpl_reactor, dropped]
      obtain ⟨data, old⟩ := consistent.registered other isOpen'
      exact ⟨data, EpollReactor.clearData_descriptorData_iff.mpr ⟨own, old⟩⟩

/-- Every change keeps the service consistent. -/
theorem Consistent.of_changes (consistent : service.Consistent) {refused : Bool}
    (changes : Changes service refused after) : after.Consistent := by
  cases changes with
  | kept => exact consistent
  | refused socket registered closed => exact consistent.registerDescriptor socket registered
  | opened socket registered value closed isOpen =>
      apply (consistent.registerDescriptor socket registered).setImpl
      intro _
      exact ⟨_, Function.update_self ..⟩
  | closed socket isOpen => exact consistent.closed isOpen
  | reset socket closed =>
      apply consistent.setImpl
      exact fun isOpen => absurd isOpen Bool.false_ne_true

omit [DecidableEq Socket] in
theorem consistent_initial (world : World) :
    (⟨.constructed world, fun _ => .constructed⟩ : SocketService Socket World Op).Consistent where
  sound := EpollReactor.sound_constructed world
  inUse _ _ absent := absurd absent (Option.some_ne_none _).symm
  settled := rfl
  working _ absent := absurd absent List.not_mem_nil
  registered _ isOpen := absurd isOpen Bool.false_ne_true

/-! ## One object for each open socket -/

omit [DecidableEq Socket] in
theorem onePerSocket_initial (world : World) :
    (⟨.constructed world, fun _ => .constructed⟩ : SocketService Socket World Op).OnePerSocket where
  distinct := List.nodup_nil
  registered _ isOpen := absurd isOpen Bool.false_ne_true
  owned _ absent := absurd absent List.not_mem_nil
  separate _ _ isOpen := absurd isOpen Bool.false_ne_true

/-- The object of a failed registration belongs to no open socket. -/
theorem Consistent.not_onePerSocket_registerDescriptor (consistent : service.Consistent)
    {socket : Socket} (closed : (service.impl socket).isOpen = false) (registered : Option ℕ+) :
    ¬ (service.registerDescriptor socket registered).OnePerSocket := by
  intro onePerSocket
  obtain ⟨other, isOpen, points⟩ :=
    onePerSocket.owned service.reactor.allocated List.mem_cons_self
  change (service.impl other).isOpen = true at isOpen
  have different : other ≠ socket := by
    rintro rfl
    rw [closed] at isOpen
    contradiction
  rw [registerDescriptor_object_of_ne service different] at points
  exact consistent.sound.pooled.allocated_not_live (consistent.live_of_object points)

omit [DecidableEq Socket] in
/-- A consistent service holds one object for each open socket when each live object belongs
to one. -/
theorem Consistent.onePerSocket (consistent : service.Consistent)
    (owned : ∀ object ∈ service.reactor.live, ∃ socket, (service.impl socket).isOpen = true ∧
      service.object socket = some object) : service.OnePerSocket where
  distinct := (List.nodup_append.mp consistent.sound.pooled.distinct).1
  registered := by
    intro socket isOpen
    obtain ⟨data, refers⟩ := consistent.registered socket isOpen
    refine ⟨data.object, consistent.inUse socket data refers, ?_⟩
    rw [SocketService.object, refers]
    rfl
  owned := owned
  separate := by
    intro first second isFirst isSecond same
    obtain ⟨data, refers⟩ := consistent.registered first isFirst
    have points : service.object first = some data.object := by
      rw [SocketService.object, refers]
      rfl
    exact consistent.object_separate points (same ▸ points)

theorem OnePerSocket.opened (onePerSocket : service.OnePerSocket)
    (consistent : service.Consistent) {socket : Socket}
    (closed : (service.impl socket).isOpen = false) (registered : Option ℕ+)
    {value : SocketImplementation} (isOpen : value.isOpen = true) :
    ((service.registerDescriptor socket registered).setImpl socket value).OnePerSocket := by
  have after := consistent.of_changes (.opened socket registered value closed isOpen)
  apply after.onePerSocket
  intro object isLive
  rcases List.mem_cons.mp isLive with rfl | isLive
  · refine ⟨socket, ?_, registerDescriptor_object_self service socket registered⟩
    rw [setImpl_impl_self]
    exact isOpen
  · obtain ⟨other, isOpen', points⟩ := onePerSocket.owned object isLive
    have different : other ≠ socket := by
      rintro rfl
      rw [closed] at isOpen'
      contradiction
    refine ⟨other, ?_, ?_⟩
    · rw [setImpl_impl_of_ne _ different]
      exact isOpen'
    · rw [setImpl_object, registerDescriptor_object_of_ne service different]
      exact points

theorem OnePerSocket.closed (onePerSocket : service.OnePerSocket)
    (consistent : service.Consistent) {socket : Socket}
    (isOpen : (service.impl socket).isOpen = true) :
    ((service.dropDescriptor socket).setImpl socket .constructed).OnePerSocket := by
  obtain ⟨freed, -, points⟩ := onePerSocket.registered socket isOpen
  apply (consistent.closed isOpen).onePerSocket
  intro object isLive
  rw [setImpl_reactor, consistent.dropDescriptor_live points,
    onePerSocket.distinct.mem_erase_iff] at isLive
  obtain ⟨other, isOpen', owns⟩ := onePerSocket.owned object isLive.2
  have different : other ≠ socket := by
    rintro rfl
    exact isLive.1 (Option.some.inj (owns.symm.trans points))
  refine ⟨other, ?_, ?_⟩
  · rw [setImpl_impl_of_ne _ different]
    exact isOpen'
  · rw [setImpl_object, consistent.dropDescriptor_object_of_ne points different]
    exact owns

theorem OnePerSocket.reset (onePerSocket : service.OnePerSocket)
    (consistent : service.Consistent) {socket : Socket}
    (closed : (service.impl socket).isOpen = false) :
    (service.setImpl socket .constructed).OnePerSocket := by
  apply (consistent.of_changes (.reset socket closed)).onePerSocket
  intro object isLive
  obtain ⟨other, isOpen, points⟩ := onePerSocket.owned object isLive
  have different : other ≠ socket := by
    rintro rfl
    rw [closed] at isOpen
    contradiction
  refine ⟨other, ?_, points⟩
  rw [setImpl_impl_of_ne _ different]
  exact isOpen

/-- One object for each open socket remains exactly when no registration fails. -/
theorem OnePerSocket.survives (onePerSocket : service.OnePerSocket)
    (consistent : service.Consistent) {refused : Bool} (changes : Changes service refused after) :
    after.OnePerSocket ↔ refused = false := by
  cases changes with
  | kept => exact iff_of_true onePerSocket rfl
  | refused socket registered closed =>
      exact iff_of_false (consistent.not_onePerSocket_registerDescriptor closed registered)
        Bool.false_ne_true.symm
  | opened socket registered value closed isOpen =>
      exact iff_of_true (onePerSocket.opened consistent closed registered isOpen) rfl
  | closed socket isOpen => exact iff_of_true (onePerSocket.closed consistent isOpen) rfl
  | reset socket closed => exact iff_of_true (onePerSocket.reset consistent closed) rfl

/-- A failed `do_open` or `do_assign` of a closed socket leaves no trace exactly when it
does not fail in `register_descriptor`, and the live list holds one `descriptor_state` for
each open socket throughout a run exactly when no `register_descriptor` of it fails. -/
theorem failed_open_traceless_iff :
    (∀ (service : SocketService Socket World Op) (socket : Socket),
      (service.impl socket).isOpen = false →
      (∀ type created registered,
        ((service.doOpen socket type created registered).1.failed = true →
            Traceless service (service.doOpen socket type created registered).2 socket) ↔
          service.failsToRegister (.doOpen socket type created registered) = false) ∧
      ∀ type nativeSocket registered,
        ((service.doAssign socket type nativeSocket registered).1.failed = true →
            Traceless service (service.doAssign socket type nativeSocket registered).2 socket) ↔
          service.failsToRegister (.doAssign socket type nativeSocket registered) = false) ∧
    ∀ (service final : SocketService Socket World Op) (requests : List (SocketCall Socket)),
      machine.initial service → machine.run service requests = some final →
      (machine.Always OnePerSocket service requests ↔
        machine.Permitted (fun service request => service.failsToRegister request = false)
          service requests) := by
  refine ⟨fun service socket closed => ⟨?_, ?_⟩, ?_⟩
  · exact doOpen_traceless_iff closed
  · exact doAssign_traceless_iff closed
  · rintro service final requests ⟨world, rfl⟩ ran
    apply Transition.Machine.always_iff_permitted _ _ requests ran
      (consistent_initial world) (onePerSocket_initial world)
    · intro service request next consistent _ stepped
      cases stepped
      exact consistent.of_changes (service.call_changes request)
    · intro service request next consistent onePerSocket stepped
      cases stepped
      exact onePerSocket.survives consistent (service.call_changes request)

/-- `EPOLL_CTL_ADD` fails with `ENOSPC` for a closed socket: `do_open` and `do_assign` leave a
live `descriptor_state`, and no socket is open that it could belong to. -/
theorem not_failed_open_traceless :
    (¬ ∀ (service : SocketService Unit Unit Unit) (socket : Unit),
      (service.impl socket).isOpen = false → ∀ type created registered,
        (service.doOpen socket type created registered).1.failed = true →
          Traceless service (service.doOpen socket type created registered).2 socket) ∧
    (¬ ∀ (service : SocketService Unit Unit Unit) (socket : Unit),
      (service.impl socket).isOpen = false → ∀ type nativeSocket registered,
        (service.doAssign socket type nativeSocket registered).1.failed = true →
          Traceless service (service.doAssign socket type nativeSocket registered).2 socket) ∧
    ¬ ∀ (service final : SocketService Unit Unit Unit) (requests : List (SocketCall Unit)),
      machine.initial service → machine.run service requests = some final →
        final.OnePerSocket := by
  refine ⟨fun traceless => ?_, fun traceless => ?_, fun onePerSocket => ?_⟩
  · have kept := traceless ⟨.constructed (), fun _ => .constructed⟩ () rfl .stream (.ok 3)
      (some 28) rfl
    exact absurd kept.live.length_eq (by decide)
  · have kept := traceless ⟨.constructed (), fun _ => .constructed⟩ () rfl .stream 3 (some 28) rfl
    exact absurd kept.live.length_eq (by decide)
  · have kept := onePerSocket ⟨.constructed (), fun _ => .constructed⟩ _
      [.doOpen () .stream (.ok 3) (some 28)] ⟨(), rfl⟩ rfl
    obtain ⟨⟨⟩, isOpen, -⟩ := kept.owned 0 (by decide)
    contradiction

end SocketService

end Asio.Network
