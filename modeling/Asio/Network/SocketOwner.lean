import Asio.Lib.RefCount
import Asio.Network.SocketHolder

/-! # The owners of the descriptors

Every open descriptor is the user's, a socket's or an accept operation's, and only one of them has
it. What the functions on sockets and operations do keeps it so.
-/

namespace Asio.Network

open Reactor

variable {Socket Accept World Op : Type*}

/-! ## What the service does to its implementations -/

namespace SocketService

variable {service : SocketService Socket World Op}

theorem socket_eq_none_of_not_isOpen {socket : Socket}
    (closed : ¬ (service.impl socket).isOpen = true) : (service.impl socket).socket = none := by
  unfold SocketImplementation.isOpen at closed
  rwa [Option.not_isSome_iff_eq_none] at closed

variable [DecidableEq Socket]

/-- A descriptor is given to a closed socket, or there is an error. -/
def Takes (service : SocketService Socket World Op) (socket : Socket) (descriptor : Nat)
    (result : ErrorCode × SocketService Socket World Op) : Prop :=
  (result.1.failed = true ∧ result.2.impl = service.impl) ∨
    (result.1.failed = false ∧ (service.impl socket).socket = none ∧
      ∃ flags, result.2.impl = Function.update service.impl socket ⟨some descriptor, flags⟩)

theorem doAssign_takes (socket : Socket) (type : SocketType) (descriptor : Nat)
    (registered : Option ℕ+) :
    service.Takes socket descriptor (service.doAssign socket type descriptor registered) := by
  unfold doAssign
  split
  · exact .inl ⟨rfl, rfl⟩
  · rename_i closed
    split
    · exact .inl ⟨ErrorCode.ofErrno_failed _, rfl⟩
    · exact .inr ⟨rfl, socket_eq_none_of_not_isOpen closed, _, rfl⟩

theorem doOpen_takes (socket : Socket) (type : SocketType) (descriptor : Nat)
    (registered : Option ℕ+) :
    service.Takes socket descriptor
      (service.doOpen socket type (.ok descriptor) registered) := by
  unfold doOpen
  split
  · exact .inl ⟨rfl, rfl⟩
  · rename_i closed
    dsimp only
    split
    · exact .inl ⟨ErrorCode.ofErrno_failed _, rfl⟩
    · exact .inr ⟨rfl, socket_eq_none_of_not_isOpen closed, _, rfl⟩

theorem doOpen_error_impl (socket : Socket) (type : SocketType) (errno : ℕ+)
    (registered : Option ℕ+) :
    (service.doOpen socket type (.error errno) registered).2.impl = service.impl := by
  unfold doOpen
  split
  · rfl
  · rfl

theorem doOpen_isOpen_impl {socket : Socket} (isOpen : (service.impl socket).isOpen = true)
    (type : SocketType) (created : Except ℕ+ Nat) (registered : Option ℕ+) :
    (service.doOpen socket type created registered).2.impl = service.impl := by
  unfold doOpen
  rw [if_pos isOpen]

theorem close_impl (socket : Socket) (closed : ErrorCode) :
    (service.close socket closed).2.impl =
      Function.update service.impl socket .constructed := by
  unfold close
  split
  · rfl
  · rfl

theorem release_impl (socket : Socket) :
    (service.release socket).2.1 = (service.impl socket).socket ∧
      (service.release socket).2.2.impl =
        if (service.impl socket).isOpen = true then Function.update service.impl socket .constructed
        else service.impl := by
  unfold release
  split
  · exact ⟨rfl, rfl⟩
  · rename_i closed
    exact ⟨(socket_eq_none_of_not_isOpen closed).symm, rfl⟩

theorem baseDestroy_impl (socket : Socket) : (service.baseDestroy socket).impl = service.impl := by
  unfold baseDestroy
  split
  · rfl
  · rfl

theorem baseMove_impl (socket other : Socket) :
    (service.baseMove socket other).impl = Function.update
      (Function.update service.impl socket (service.impl other)) other .constructed := rfl

end SocketService

namespace SocketHolders

/-! ## Who refers to a descriptor -/

section Refers

variable {state next : SocketHolders Socket Accept World Op}

/-- The descriptor that an owner has. A socket that does not exist has none. -/
def refers (state : SocketHolders Socket Accept World Op) : SocketOwner Socket Accept → Option Nat
  | .user descriptor => if state.user descriptor = true then some descriptor else none
  | .socket socket =>
      if state.life socket = .absent then none else (state.service.impl socket).socket
  | .accept accept => (state.accepts accept).bind (·.newSocket)

theorem refers_accept {accept : Accept} {op : AcceptOp Socket}
    (found : state.accepts accept = some op) : state.refers (.accept accept) = op.newSocket := by
  change (state.accepts accept).bind _ = _
  rw [found]
  rfl

/-- One owner for each open descriptor, and nothing was closed that was not open. -/
structure Owned (state : SocketHolders Socket Accept World Op) : Prop where
  exclusive : RefCount.Exclusive state.refers state.opened
  proper : state.misused = false

/-- The peers of the operations that move are part of them, and no operation that waits has a
descriptor. -/
structure Embedded (state : SocketHolders Socket Accept World Op) : Prop where
  inside : ∀ accept op, state.accepts accept = some op → op.moves = true →
    state.life op.peer = .inside
  apart : ∀ first second op other, state.accepts first = some op →
    state.accepts second = some other → op.moves = true → other.moves = true →
    op.peer = other.peer → first = second
  idle : ∀ accept op, state.accepts accept = some op → op.waiting = true → op.newSocket = none

theorem Owned.congr (owned : state.Owned) (refers : next.refers = state.refers)
    (opened : next.opened = state.opened) (misused : next.misused = state.misused) :
    next.Owned where
  exclusive := by
    rw [refers, opened]
    exact owned.exclusive
  proper := misused.trans owned.proper

theorem refers_socket {socket : Socket} (exists_ : state.life socket ≠ .absent) :
    state.refers (.socket socket) = (state.service.impl socket).socket := if_neg exists_

theorem Owned.refers_eq_none (owned : state.Owned) {descriptor : Nat}
    (unused : state.opened descriptor = false) (owner : SocketOwner Socket Accept) :
    state.refers owner ≠ some descriptor := by
  intro holds
  have taken := (owned.exclusive.used_iff descriptor).mpr ⟨owner, holds⟩
  exact Bool.noConfusion (taken.symm.trans unused)

theorem refers_user_of_ne {descriptor : Nat}
    (other : state.refers (.user descriptor) ≠ some descriptor) :
    state.refers (.user descriptor) = none := by
  unfold refers at other ⊢
  dsimp only at other ⊢
  split at other
  · exact absurd rfl other
  · rename_i without
    exact if_neg without

variable [DecidableEq Socket] [DecidableEq Accept]

/-- Only one socket has changed. -/
theorem refers_eq_of_socket (socket : Socket) (user : next.user = state.user)
    (accepts : next.accepts = state.accepts)
    (others : ∀ other, other ≠ socket → next.life other = state.life other ∧
      next.service.impl other = state.service.impl other) :
    next.refers =
      Function.update state.refers (.socket socket) (next.refers (.socket socket)) := by
  funext owner
  by_cases own : owner = .socket socket
  · rw [own, Function.update_self]
  · rw [Function.update_of_ne own]
    cases owner with
    | user descriptor =>
        unfold refers
        rw [user]
    | accept accept =>
        unfold refers
        rw [accepts]
    | socket other =>
        have same := others other fun same => own (same ▸ rfl)
        unfold refers
        dsimp only
        rw [same.1, same.2]

/-- Only one accept operation has changed. -/
theorem refers_setAccept (accept : Accept) (op : Option (AcceptOp Socket)) :
    (state.setAccept accept op).refers =
      Function.update state.refers (.accept accept) (op.bind (·.newSocket)) := by
  funext owner
  by_cases own : owner = .accept accept
  · rw [own, Function.update_self]
    change (Function.update state.accepts accept op accept).bind _ = _
    rw [Function.update_self]
  · rw [Function.update_of_ne own]
    cases owner with
    | user descriptor => rfl
    | socket socket => rfl
    | accept other =>
        have apart : other ≠ accept := fun same => own (same ▸ rfl)
        change (Function.update state.accepts accept op other).bind _ = _
        rw [Function.update_of_ne apart]
        rfl

theorem refers_setUser (descriptor : Nat) (owns : Bool) :
    (state.setUser descriptor owns).refers = Function.update state.refers (.user descriptor)
      (if owns = true then some descriptor else none) := by
  funext owner
  by_cases own : owner = .user descriptor
  · rw [own, Function.update_self]
    change (if Function.update state.user descriptor owns descriptor = true then _ else _) = _
    rw [Function.update_self]
  · rw [Function.update_of_ne own]
    cases owner with
    | socket socket => rfl
    | accept accept => rfl
    | user other =>
        have apart : other ≠ descriptor := fun same => own (same ▸ rfl)
        change (if Function.update state.user descriptor owns other = true then _ else _) = _
        rw [Function.update_of_ne apart]
        rfl

/-! ## The steps of an owner -/

/-- An owner that had nothing gets a descriptor from the system. -/
theorem Owned.acquire (owned : state.Owned) {owner : SocketOwner Socket Accept} {descriptor : Nat}
    (nothing : state.refers owner = none) (unused : state.opened descriptor = false)
    (refers : next.refers = Function.update state.refers owner (some descriptor))
    (opened : next.opened = Function.update state.opened descriptor true)
    (misused : next.misused = state.misused) : next.Owned where
  exclusive := by
    rw [refers, opened]
    exact owned.exclusive.acquire nothing unused
  proper := misused.trans owned.proper

/-- An owner closes what it has. -/
theorem Owned.closeHeld (owned : state.Owned) {owner : SocketOwner Socket Accept}
    {held : Option Nat} (holds : state.refers owner = held) :
    RefCount.Exclusive (Function.update state.refers owner none) (state.closeHeld held).opened ∧
      (state.closeHeld held).misused = false := by
  cases held with
  | none =>
      have same : Function.update state.refers owner none = state.refers := by
        rw [← holds, Function.update_eq_self]
      rw [same]
      exact ⟨owned.exclusive, owned.proper⟩
  | some descriptor =>
      obtain ⟨taken, released⟩ := owned.exclusive.release holds
      refine ⟨released, ?_⟩
      change (state.misused || !state.opened descriptor) = false
      rw [taken, owned.proper]
      rfl

theorem Owned.handOver (owned : state.Owned) {owner other : SocketOwner Socket Accept}
    (nothing : state.refers owner = none) (apart : owner ≠ other)
    (refers : next.refers = Function.update
      (Function.update state.refers owner (state.refers other)) other none)
    (opened : next.opened = state.opened) (misused : next.misused = state.misused) :
    next.Owned where
  exclusive := by
    rw [refers, opened]
    exact owned.exclusive.handOver nothing apart
  proper := misused.trans owned.proper

end Refers

section Fields

variable {state : SocketHolders Socket Accept World Op} (held : Option Nat)

@[simp] theorem closeHeld_service : (state.closeHeld held).service = state.service := by
  cases held <;> rfl

@[simp] theorem closeHeld_life : (state.closeHeld held).life = state.life := by
  cases held <;> rfl

@[simp] theorem closeHeld_user : (state.closeHeld held).user = state.user := by
  cases held <;> rfl

@[simp] theorem closeHeld_accepts : (state.closeHeld held).accepts = state.accepts := by
  cases held <;> rfl

theorem closeHeld_refers : (state.closeHeld held).refers = state.refers := by
  cases held <;> rfl

/-- What is closed does not depend on the service. -/
theorem closeHeld_setService (service : SocketService Socket World Op) :
    ({ state with service := service }.closeHeld held).opened = (state.closeHeld held).opened ∧
      ({ state with service := service }.closeHeld held).misused =
        (state.closeHeld held).misused := by
  cases held with
  | none => exact ⟨rfl, rfl⟩
  | some descriptor => exact ⟨rfl, rfl⟩

end Fields

section Owners

variable [DecidableEq Socket] [DecidableEq Accept]
  {state next : SocketHolders Socket Accept World Op} {socket other : Socket}

/-! ## Sockets -/

/-- Taken over by one socket from another, the other is left with nothing. -/
theorem refers_baseMove (user : next.user = state.user) (accepts : next.accepts = state.accepts)
    (life : ∀ another, another ≠ socket → next.life another = state.life another)
    (here : next.life socket ≠ .absent) (there : state.life other ≠ .absent)
    (impl : next.service.impl = (state.service.baseMove socket other).impl) :
    next.refers = Function.update (Function.update state.refers (.socket socket)
      (state.refers (.socket other))) (.socket other) none := by
  rw [SocketService.baseMove_impl] at impl
  funext owner
  by_cases isOther : owner = .socket other
  · subst isOther
    rw [Function.update_self]
    unfold refers
    dsimp only
    rw [impl, Function.update_self]
    split
    · rfl
    · rfl
  · rw [Function.update_of_ne isOther]
    by_cases isSocket : owner = .socket socket
    · subst isSocket
      have apart : socket ≠ other := fun same => isOther (same ▸ rfl)
      rw [Function.update_self, refers_socket here, refers_socket there, impl,
        Function.update_of_ne apart, Function.update_self]
    · rw [Function.update_of_ne isSocket]
      cases owner with
      | user descriptor =>
          unfold refers
          rw [user]
      | accept accept =>
          unfold refers
          rw [accepts]
      | socket another =>
          have notSocket : another ≠ socket := fun same => isSocket (same ▸ rfl)
          have notOther : another ≠ other := fun same => isOther (same ▸ rfl)
          unfold refers
          dsimp only
          rw [impl, life another notSocket, Function.update_of_ne notOther,
            Function.update_of_ne notSocket]

/-- A socket that exists is closed and left with nothing. -/
theorem Owned.closed (owned : state.Owned) (present : state.life socket ≠ .absent)
    (user : next.user = state.user)
    (accepts : next.accepts = state.accepts)
    (others : ∀ other, other ≠ socket → next.life other = state.life other ∧
      next.service.impl other = state.service.impl other)
    (nothing : next.refers (.socket socket) = none)
    (closed : next.opened = (state.closeHeld (state.service.impl socket).socket).opened)
    (once : next.misused = (state.closeHeld (state.service.impl socket).socket).misused) :
    next.Owned := by
  obtain ⟨exclusive, proper⟩ := owned.closeHeld (refers_socket present)
  have refers := refers_eq_of_socket socket user accepts others
  rw [nothing] at refers
  refine ⟨?_, once.trans proper⟩
  rw [refers, closed]
  exact exclusive

theorem Owned.destroy (owned : state.Owned) (present : state.life socket ≠ .absent) :
    (state.destroy socket).Owned := by
  apply owned.closed present
  · exact closeHeld_user _
  · exact closeHeld_accepts _
  · intro other apart
    constructor
    · change Function.update (state.closeSocket socket).life socket .absent other = _
      rw [Function.update_of_ne apart]
      exact congrFun (closeHeld_life _) other
    · change (state.closeSocket socket).service.impl other = _
      unfold closeSocket
      rw [closeHeld_service]
      exact congrFun (SocketService.baseDestroy_impl socket) other
  · unfold refers
    exact if_pos (Function.update_self ..)
  · exact (closeHeld_setService ..).1
  · exact (closeHeld_setService ..).2

theorem Owned.close (owned : state.Owned) (present : state.life socket ≠ .absent)
    (closed : ErrorCode) : (state.close socket closed).Owned := by
  have impl : (state.close socket closed).service.impl =
      Function.update state.service.impl socket .constructed := by
    unfold SocketHolders.close
    rw [closeHeld_service]
    exact SocketService.close_impl socket closed
  apply owned.closed present
  · exact closeHeld_user _
  · exact closeHeld_accepts _
  · intro other apart
    rw [impl]
    exact ⟨congrFun (closeHeld_life _) other, Function.update_of_ne apart ..⟩
  · unfold refers
    dsimp only
    rw [impl, Function.update_self]
    split
    · rfl
    · rfl
  · exact (closeHeld_setService ..).1
  · exact (closeHeld_setService ..).2

theorem Owned.moveConstruct (owned : state.Owned) (fresh : state.life socket = .absent)
    (present : state.life other ≠ .absent) : (state.moveConstruct socket other).Owned := by
  have apart : socket ≠ other := fun same => present (same ▸ fresh)
  have nothing : state.refers (.socket socket) = none := if_pos fresh
  have different : (SocketOwner.socket socket : SocketOwner Socket Accept) ≠ .socket other :=
    fun same => apart (SocketOwner.socket.inj same)
  apply owned.handOver nothing different
  · refine refers_baseMove ?_ ?_ ?_ ?_ present ?_
    · rfl
    · rfl
    · exact fun another notSocket => Function.update_of_ne notSocket ..
    · change Function.update state.life socket .object socket ≠ _
      rw [Function.update_self]
      exact SocketLife.noConfusion
    · rfl
  · rfl
  · rfl

theorem Owned.moveAssign (owned : state.Owned) (present : state.life socket ≠ .absent)
    (available : state.life other ≠ .absent) : (state.moveAssign socket other).Owned := by
  obtain ⟨exclusive, proper⟩ := owned.closeHeld (refers_socket present)
  have effect := @closeHeld_setService _ _ _ _ state (state.service.impl socket).socket
    (state.service.baseDestroy socket)
  have impl : (state.closeSocket socket).service.impl = state.service.impl := by
    unfold closeSocket
    rw [closeHeld_service]
    exact SocketService.baseDestroy_impl socket
  have refers : (state.moveAssign socket other).refers = Function.update
      (Function.update state.refers (.socket socket) (state.refers (.socket other)))
        (.socket other) none := by
    apply refers_baseMove
    · exact closeHeld_user _
    · exact closeHeld_accepts _
    · exact fun another _ => congrFun (closeHeld_life _) another
    · rw [show (state.moveAssign socket other).life = state.life from closeHeld_life _]
      exact present
    · exact available
    · change ((state.closeSocket socket).service.baseMove socket other).impl = _
      rw [SocketService.baseMove_impl, SocketService.baseMove_impl, impl]
  refine ⟨?_, effect.2.trans proper⟩
  rw [refers, show (state.moveAssign socket other).opened = _ from effect.1]
  by_cases same : other = socket
  · subst same
    rw [Function.update_idem]
    exact exclusive
  · have different : (SocketOwner.socket other : SocketOwner Socket Accept) ≠ .socket socket :=
      fun equal => same (SocketOwner.socket.inj equal)
    have handed := exclusive.handOver (Function.update_self ..) different.symm
    rw [Function.update_idem, Function.update_of_ne different] at handed
    exact handed

/-- The owners after a socket was to take a descriptor. -/
theorem refers_takes (present : state.life socket ≠ .absent) {descriptor : Nat}
    {result : ErrorCode × SocketService Socket World Op}
    (takes : state.service.Takes socket descriptor result) :
    (result.1.failed = true ∧ { state with service := result.2 }.refers = state.refers) ∨
      (¬ result.1.failed = true ∧ state.refers (.socket socket) = none ∧
        { state with service := result.2 }.refers =
          Function.update state.refers (.socket socket) (some descriptor)) := by
  let taken : SocketHolders Socket Accept World Op := { state with service := result.2 }
  rcases takes with ⟨failed, impl⟩ | ⟨succeeded, empty, flags, impl⟩
  · refine .inl ⟨failed, ?_⟩
    have refers : taken.refers =
        Function.update state.refers (.socket socket) (taken.refers (.socket socket)) := by
      refine refers_eq_of_socket socket ?_ ?_ fun other _ => ⟨?_, congrFun impl other⟩
      · rfl
      · rfl
      · rfl
    have kept : taken.refers (.socket socket) = state.refers (.socket socket) := by
      have now : taken.life socket ≠ .absent := present
      rw [refers_socket now, refers_socket present]
      exact congrArg SocketImplementation.socket (congrFun impl socket)
    rwa [kept, Function.update_eq_self] at refers
  · refine .inr ⟨fun failed => ?_, (refers_socket present).trans empty, ?_⟩
    · exact Bool.noConfusion (failed.symm.trans succeeded)
    · have refers : taken.refers =
          Function.update state.refers (.socket socket) (taken.refers (.socket socket)) := by
        refine refers_eq_of_socket socket ?_ ?_ fun other apart => ⟨?_, ?_⟩
        · rfl
        · rfl
        · rfl
        · exact (congrFun impl other).trans (Function.update_of_ne apart ..)
      have gets : taken.refers (.socket socket) = some descriptor := by
        have now : taken.life socket ≠ .absent := present
        rw [refers_socket now]
        change (result.2.impl socket).socket = _
        rw [impl, Function.update_self]
      rwa [gets] at refers

/-- A descriptor from the system goes to a socket, or is closed again. -/
theorem Owned.openInto (owned : state.Owned) (present : state.life socket ≠ .absent)
    {descriptor : Nat} (unused : state.opened descriptor = false)
    {result : ErrorCode × SocketService Socket World Op}
    (takes : state.service.Takes socket descriptor result) :
    (if result.1.failed = true then
      ({ state with service := result.2 }.openDescriptor descriptor).closeDescriptor descriptor
    else { state with service := result.2 }.openDescriptor descriptor).Owned := by
  rcases refers_takes present takes with ⟨failed, refers⟩ | ⟨succeeded, nothing, refers⟩
  · rw [if_pos failed]
    refine owned.congr ?_ ?_ ?_
    · exact refers
    · change Function.update (Function.update state.opened descriptor true) descriptor false = _
      rw [Function.update_idem, ← unused, Function.update_eq_self]
    · change (state.misused || !Function.update state.opened descriptor true descriptor) = _
      rw [Function.update_self, Bool.not_true, Bool.or_false]
  · rw [if_neg succeeded]
    exact owned.acquire nothing unused refers rfl rfl

theorem Owned.construct (owned : state.Owned) (fresh : state.life socket = .absent)
    (life : SocketLife) : (state.construct socket life).Owned := by
  have refers : (state.construct socket life).refers = Function.update state.refers
      (.socket socket) ((state.construct socket life).refers (.socket socket)) := by
    refine refers_eq_of_socket socket ?_ ?_ fun other apart => ?_
    · rfl
    · rfl
    · exact ⟨Function.update_of_ne apart .., Function.update_of_ne apart ..⟩
  have nothing : (state.construct socket life).refers (.socket socket) =
      state.refers (.socket socket) := by
    have empty : ((state.construct socket life).service.impl socket).socket = none :=
      congrArg SocketImplementation.socket (SocketService.setImpl_impl_self ..)
    have before : state.refers (.socket socket) = none := if_pos fresh
    rw [before]
    unfold SocketHolders.refers
    dsimp only
    rw [empty]
    split
    · rfl
    · rfl
  rw [nothing, Function.update_eq_self] at refers
  exact owned.congr refers rfl rfl

theorem Owned.doOpen (owned : state.Owned) (present : state.life socket ≠ .absent)
    (type : SocketType) {created : Except ℕ+ Nat} (fresh : state.fresh created = true)
    (registered : Option ℕ+) : (state.doOpen socket type created registered).Owned := by
  have unchanged : ∀ {service : SocketService Socket World Op}, service.impl = state.service.impl →
      ({ state with service := service } : SocketHolders Socket Accept World Op).Owned := by
    intro service same
    refine owned.congr (funext fun owner => ?_) ?_ ?_
    · unfold SocketHolders.refers
      dsimp only
      rw [same]
    · rfl
    · rfl
  unfold SocketHolders.doOpen
  dsimp only
  split
  · rename_i isOpen
    exact unchanged (SocketService.doOpen_isOpen_impl isOpen type created registered)
  · split
    · exact unchanged (SocketService.doOpen_error_impl socket type _ registered)
    · rename_i sock
      have unused : state.opened sock = false := by
        simpa [SocketHolders.fresh] using fresh
      exact owned.openInto present unused
        (SocketService.doOpen_takes socket type sock registered)

theorem Owned.accept (owned : state.Owned) (present : state.life socket ≠ .absent)
    (type : SocketType) {accepted : Except ErrorCode Nat} (fresh : state.fresh accepted = true)
    (registered : Option ℕ+) : (state.accept socket type accepted registered).Owned := by
  unfold SocketHolders.accept
  split
  · exact owned
  · split
    · exact owned
    · rename_i sock
      have unused : state.opened sock = false := by
        simpa [SocketHolders.fresh] using fresh
      exact owned.openInto present unused
        (SocketService.doAssign_takes socket type sock registered)

/-! ## The user -/

theorem Owned.create (owned : state.Owned) {descriptor : Nat}
    (unused : state.opened descriptor = false) :
    ((state.openDescriptor descriptor).setUser descriptor true).Owned := by
  have nothing := refers_user_of_ne (owned.refers_eq_none unused (.user descriptor))
  exact owned.acquire nothing unused (refers_setUser descriptor true) rfl rfl

theorem Owned.dispose (owned : state.Owned) {descriptor : Nat}
    (owns : state.user descriptor = true) :
    ((state.setUser descriptor false).closeDescriptor descriptor).Owned := by
  have holds : state.refers (.user descriptor) = some descriptor := if_pos owns
  obtain ⟨exclusive, proper⟩ := owned.closeHeld holds
  refine ⟨?_, proper⟩
  have refers := @refers_setUser _ _ _ _ state _ _ descriptor false
  rw [if_neg Bool.false_ne_true] at refers
  rw [← refers] at exclusive
  exact exclusive

theorem Owned.doAssign (owned : state.Owned) (present : state.life socket ≠ .absent)
    (type : SocketType) {descriptor : Nat} (owns : state.user descriptor = true)
    (registered : Option ℕ+) :
    (if (state.assignHeld socket type descriptor registered).1.failed = true then
      (state.assignHeld socket type descriptor registered).2
    else (state.assignHeld socket type descriptor registered).2.setUser descriptor
      false).Owned := by
  have holds : state.refers (.user descriptor) = some descriptor := if_pos owns
  rcases refers_takes present (SocketService.doAssign_takes socket type descriptor registered) with
    ⟨failed, refers⟩ | ⟨succeeded, nothing, refers⟩
  · rw [if_pos (show (state.assignHeld socket type descriptor registered).1.failed = true from
      failed)]
    exact owned.congr refers rfl rfl
  · rw [if_neg (show ¬ (state.assignHeld socket type descriptor registered).1.failed = true from
      succeeded)]
    have different : (SocketOwner.socket socket : SocketOwner Socket Accept) ≠ .user descriptor :=
      nofun
    apply owned.handOver nothing different
    · have after : (state.assignHeld socket type descriptor registered).2.refers =
          Function.update state.refers (.socket socket) (some descriptor) := refers
      rw [refers_setUser, after, holds, if_neg Bool.false_ne_true]
    · rfl
    · rfl

theorem Owned.release (owned : state.Owned) (present : state.life socket ≠ .absent) :
    (state.release socket).Owned := by
  obtain ⟨returned, impl⟩ := @SocketService.release_impl _ _ _ state.service _ socket
  have holds := refers_socket present
  unfold SocketHolders.release
  dsimp only
  rw [returned]
  cases held : (state.service.impl socket).socket with
  | none =>
      have closed : ¬ (state.service.impl socket).isOpen = true := by
        unfold SocketImplementation.isOpen
        rw [held]
        exact Bool.false_ne_true
      rw [if_neg closed] at impl
      refine owned.congr (funext fun owner => ?_) ?_ ?_
      · unfold SocketHolders.refers
        dsimp only
        rw [impl]
      · rfl
      · rfl
  | some descriptor =>
      have isOpen : (state.service.impl socket).isOpen = true := by
        unfold SocketImplementation.isOpen
        rw [held]
        rfl
      rw [if_pos isOpen] at impl
      rw [held] at holds
      have notUser : state.refers (.user descriptor) ≠ some descriptor := by
        intro also
        cases owned.exclusive.unique holds also
      have nothing := refers_user_of_ne notUser
      have different : (SocketOwner.user descriptor : SocketOwner Socket Accept) ≠ .socket socket :=
        nofun
      let left : SocketHolders Socket Accept World Op :=
        { state with service := (state.service.release socket).2.2 }
      have refers : left.refers =
          Function.update state.refers (.socket socket) (left.refers (.socket socket)) := by
        refine refers_eq_of_socket socket ?_ ?_ fun other apart => ⟨?_, ?_⟩
        · rfl
        · rfl
        · rfl
        · exact (congrFun impl other).trans (Function.update_of_ne apart ..)
      have gone : left.refers (.socket socket) = none := by
        have now : left.life socket ≠ .absent := present
        rw [refers_socket now]
        exact congrArg SocketImplementation.socket
          ((congrFun impl socket).trans (Function.update_self ..))
      rw [gone] at refers
      refine owned.handOver nothing different ?_ ?_ ?_
      · rw [refers_setUser, refers, holds, if_pos rfl]
        exact Function.update_comm different.symm ..
      · rfl
      · rfl

/-! ## Accept operations -/

/-- An operation whose holder keeps what it has. -/
theorem Owned.setAccept (owned : state.Owned) {accept : Accept} {op : Option (AcceptOp Socket)}
    (keeps : op.bind (·.newSocket) = state.refers (.accept accept)) :
    (state.setAccept accept op).Owned := by
  have refers := @refers_setAccept _ _ _ _ state _ _ accept op
  rw [keeps, Function.update_eq_self] at refers
  exact owned.congr refers rfl rfl

/-- The holder of an operation gets a descriptor from the system. -/
theorem Owned.performed (owned : state.Owned) {accept : Accept} {op : AcceptOp Socket}
    (nothing : state.refers (.accept accept) = none) {descriptor : Nat}
    (unused : state.opened descriptor = false) (gets : op.newSocket = some descriptor) :
    ((state.openDescriptor descriptor).setAccept accept (some op)).Owned := by
  have refers := @refers_setAccept _ _ _ _ (state.openDescriptor descriptor) _ _ accept (some op)
  refine owned.acquire nothing unused ?_ ?_ ?_
  · rw [refers]
    exact congrArg (Function.update _ _) gets
  · rfl
  · rfl

theorem Owned.assignAccepted (owned : state.Owned) {accept : Accept} {op : AcceptOp Socket}
    (found : state.accepts accept = some op) (present : state.life op.peer ≠ .absent)
    (type : SocketType) (registered : Option ℕ+) :
    (state.assignAccepted accept op type registered).Owned := by
  have holds := refers_accept found
  unfold SocketHolders.assignAccepted
  split
  · exact owned
  · rename_i sock has
    rw [has] at holds
    rcases refers_takes present (SocketService.doAssign_takes op.peer type sock registered) with
      ⟨failed, refers⟩ | ⟨succeeded, nothing, refers⟩
    · have fails : (state.assignHeld op.peer type sock registered).1.failed = true := failed
      have same : (state.assignHeld op.peer type sock registered).2.refers = state.refers := refers
      have left := owned.congr same rfl rfl
      dsimp only
      rw [if_pos fails]
      apply left.setAccept
      rw [same, holds]
      rfl
    · have succeeds : ¬ (state.assignHeld op.peer type sock registered).1.failed = true := succeeded
      have after : (state.assignHeld op.peer type sock registered).2.refers =
          Function.update state.refers (.socket op.peer) (some sock) := refers
      have different : (SocketOwner.socket op.peer : SocketOwner Socket Accept) ≠ .accept accept :=
        nofun
      dsimp only
      rw [if_neg succeeds]
      refine owned.handOver nothing different ?_ ?_ ?_
      · rw [refers_setAccept, after, holds]
        rfl
      · rfl
      · rfl

theorem Owned.destroyAccept (owned : state.Owned) (embedded : state.Embedded) (accept : Accept) :
    (state.destroyAccept accept).Owned := by
  unfold SocketHolders.destroyAccept
  split
  · exact owned
  · rename_i op found
    have holds := refers_accept found
    have closed : ((state.setAccept accept none).closeHeld op.newSocket).Owned := by
      obtain ⟨exclusive, proper⟩ := owned.closeHeld holds
      have refers : ((state.setAccept accept none).closeHeld op.newSocket).refers =
          Function.update state.refers (.accept accept) none := by
        rw [closeHeld_refers]
        exact refers_setAccept accept none
      have opened : ((state.setAccept accept none).closeHeld op.newSocket).opened =
          (state.closeHeld op.newSocket).opened := by
        cases op.newSocket <;> rfl
      have misused : ((state.setAccept accept none).closeHeld op.newSocket).misused =
          (state.closeHeld op.newSocket).misused := by
        cases op.newSocket <;> rfl
      refine ⟨?_, misused.trans proper⟩
      rw [refers, opened]
      exact exclusive
    dsimp only
    split
    · rename_i moves
      apply closed.destroy
      rw [closeHeld_life]
      change state.life op.peer ≠ _
      rw [embedded.inside accept op found moves]
      exact SocketLife.noConfusion
    · exact closed

end Owners

end SocketHolders

end Asio.Network
