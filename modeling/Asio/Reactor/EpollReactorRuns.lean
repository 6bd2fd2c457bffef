import Asio.Reactor.EpollReactorSockets
import Asio.Reactor.StreamSocket
import Mathlib.Data.Fintype.Basic

/-! # Conservation of the operations of an epoll reactor

The one condition on the runs concerns `register_descriptor`: the object that it takes
must not be one that another socket still refers to. This holds until `shutdown`, which
frees every object and leaves the sockets as they are.
-/

namespace Asio.Reactor

namespace EpollReactor

variable {Socket World Op : Type*} {perform : Op → World → PerformStatus × World}
  {state after : EpollReactor Socket World Op} [DecidableEq Socket]

/-- `register_descriptor` takes an object that no other socket refers to. -/
def RecyclesUnreferenced (state : EpollReactor Socket World Op) :
    EpollReactorAction Socket World Op → Prop
  | .registerDescriptor socket _ => state.Unreferenced socket
  | _ => True

omit [DecidableEq Socket] in
theorem sound_constructed (world : World) :
    (constructed world : EpollReactor Socket World Op).Sound where
  pooled := {
    distinct := List.nodup_nil
    known := fun _ => iff_of_false List.not_mem_nil (Nat.not_lt_zero _)
    owned := fun _ absent => absurd absent (Nat.not_lt_zero _)
    owners := fun _ _ absent => absurd absent (Nat.not_lt_zero _)
    belongs := nofun
    separate := nofun
    closing := nofun }
  booked := {
    emptied := fun _ _ _ => rfl
    placed := nofun
    conserved := nofun
    finished := fun _ _ _ => rfl
    known := nofun
    numbered := rfl }
  logged := {
    owned := nofun
    exceptFirst := nofun
    ordered := List.Pairwise.nil
    behind := nofun
    bounded := nofun }

theorem Sound.step (sound : state.Sound) {action : EpollReactorAction Socket World Op}
    (recycles : state.RecyclesUnreferenced action)
    (stepped : EpollReactor.step perform state action = some after) : after.Sound := by
  cases action with
  | elapse next =>
      cases stepped
      exact ⟨sound.pooled.of_same rfl rfl rfl rfl rfl rfl (fun _ => rfl) fun _ => rfl,
        sound.booked.of_same rfl rfl rfl rfl (fun _ => rfl) (fun _ => rfl) fun _ => rfl,
        sound.logged.of_same rfl (Nat.le_refl _) fun _ => rfl⟩
  | registerDescriptor socket reply =>
      rw [EpollReactor.step] at stepped
      split at stepped
      · contradiction
      · next settled =>
        cases stepped
        exact sound.registerDescriptor settled recycles reply
  | startOp socket opType op allowSpeculative modified =>
      cases stepped
      exact sound.startOp socket opType op allowSpeculative modified
  | performIo object events =>
      rw [EpollReactor.step] at stepped
      split at stepped
      · next created =>
        cases stepped
        exact sound.performIo created events
      · contradiction
  | cancelOps socket =>
      cases stepped
      exact sound.cancelOps socket
  | deregisterDescriptor socket =>
      rw [EpollReactor.step] at stepped
      split at stepped
      · contradiction
      · next settled =>
        cases stepped
        exact sound.deregisterDescriptor settled
  | cleanupDescriptorData socket =>
      rw [EpollReactor.step] at stepped
      split at stepped
      · next isClosing =>
        cases stepped
        exact sound.cleanupDescriptorData isClosing
      · contradiction
  | moveDescriptor target source =>
      rw [EpollReactor.step] at stepped
      split at stepped
      · contradiction
      · next settled =>
        cases stepped
        rw [not_or] at settled
        exact sound.moveDescriptor settled.1 settled.2
  | shutdown =>
      rw [EpollReactor.step] at stepped
      split at stepped
      · next settled =>
        cases stepped
        exact sound.shutdown settled
      · contradiction

theorem sound_of_reachable
    (reachable : (machine perform).ReachableWhen
      (fun state action => state.RecyclesUnreferenced action) state) : state.Sound := by
  apply reachable.invariant
  · rintro state ⟨world, rfl⟩
    exact sound_constructed world
  · intro state action next _ sound recycles stepped
    exact sound.step recycles stepped

omit [DecidableEq Socket] in
/-- What is queued for a registration: the queue of the object that belongs to it. -/
def queuedOf (state : EpollReactor Socket World Op) (registration : Option Nat)
    (opType : EpollOpType) : List (StartedOp Op) :=
  match state.live.find? fun object => registration == some (state.objects object).owner with
  | none => []
  | some object => (state.objects object).opQueue opType

/-- The contract of the reactor towards its operations. -/
structure Conserves (state : EpollReactor Socket World Op) : Prop where
  /-- Operations are told apart by their numbers. -/
  numbered : state.started.map (·.sequence) = List.range state.started.length
  /-- Each was handed on or is queued, once, and in the order of starting. -/
  handedOnOnce : ∀ registration opType, state.startedOf registration opType =
    state.handedOf registration opType ++ state.queuedOf registration opType
  /-- Each is queued in an object of its descriptor. -/
  queued : ∀ object opType, ∀ op ∈ (state.objects object).opQueue opType,
    object ∈ state.live ∧ op.registration = some (state.objects object).owner ∧
      op.opType = opType
  /-- A descriptor has one object. -/
  oneObject : ∀ first ∈ state.live, ∀ second ∈ state.live,
    (state.objects first).owner = (state.objects second).owner → first = second
  /-- A socket refers to the object of its descriptor, which is in use or shut down. -/
  belongs : ∀ socket data, state.descriptorData socket = some data →
    (state.objects data.object).owner = data.registration ∧
      (data.object ∈ state.live ∨ (state.objects data.object).shutdown = true)
  /-- No operation is performed on behalf of another descriptor. -/
  performedForOwner : ∀ call ∈ state.calls, ∀ op ∈ call.attempts,
    op.registration = some call.owner
  /-- Operations of a type on a descriptor are performed in the order of starting. -/
  performedInOrder : state.attempts.Pairwise fun earlier later =>
    earlier.registration = later.registration → earlier.opType = later.opType →
      earlier.sequence ≤ later.sequence
  /-- A call performs nothing before an `except_op`. -/
  exceptFirst : ∀ call ∈ state.calls, call.attempts.Pairwise fun earlier later =>
    later.opType = .except → earlier.opType = .except

omit [DecidableEq Socket] in
theorem Sound.handedOnOnce (sound : state.Sound) (registration : Option Nat)
    (opType : EpollOpType) : state.startedOf registration opType =
      state.handedOf registration opType ++ state.queuedOf registration opType := by
  rw [queuedOf]
  cases found : state.live.find? fun object =>
      registration == some (state.objects object).owner with
  | none =>
      rw [List.append_nil]
      apply sound.booked.finished registration opType
      intro object isLive same
      exact List.find?_eq_none.mp found object isLive (beq_iff_eq.mpr same)
  | some object =>
      have chosen := List.find?_some found
      have own : registration = some (state.objects object).owner := eq_of_beq chosen
      rw [own]
      exact sound.booked.conserved object (List.mem_of_find?_eq_some found) opType

omit [DecidableEq Socket] in
theorem Sound.conserves (sound : state.Sound) : state.Conserves where
  numbered := sound.booked.numbered
  handedOnOnce := sound.handedOnOnce
  queued object opType op queued := by
    exact ⟨sound.booked.live_of_queued queued, sound.booked.placed object opType op queued⟩
  oneObject first isFirst second isSecond :=
    sound.pooled.owners first second (sound.pooled.lt_of_live isFirst)
      (sound.pooled.lt_of_live isSecond)
  belongs socket data refers := (sound.pooled.belongs socket data refers).2
  performedForOwner := sound.logged.owned
  performedInOrder := sound.logged.ordered
  exceptFirst := sound.logged.exceptFirst

/-- Two stream sockets, told apart by the descriptor of an operation. -/
def performOn : Bool × StreamOp → (Bool → StreamSocket) → PerformStatus × (Bool → StreamSocket)
  | (descriptor, op), sockets =>
      ((StreamSocket.perform op (sockets descriptor)).1,
        Function.update sockets descriptor (StreamSocket.perform op (sockets descriptor)).2)

instance [Fintype Socket] (action : EpollReactorAction Socket World Op) :
    Decidable (state.RecyclesUnreferenced action) :=
  match action with
  | .registerDescriptor socket _ =>
      inferInstanceAs (Decidable (∀ other, other ≠ socket →
        (state.descriptorData other).map (·.object) ≠ some state.allocated))
  | .elapse _ | .startOp .. | .performIo .. | .cancelOps _ | .deregisterDescriptor _
  | .cleanupDescriptorData _ | .moveDescriptor .. | .shutdown => isTrue trivial

/-- A socket with queued operations is closed, an event for it is dispatched to the owner
of its recycled object, the sockets are moved, and the reactor is shut down. -/
def someActions : List (EpollReactorAction Bool (Bool → StreamSocket) (Bool × StreamOp)) :=
  [.registerDescriptor false .added, .startOp false .read (false, .recv 4) true true,
    .startOp false .read (false, .recv 4) true true,
    .startOp false .except (false, .wait) false true,
    .elapse fun descriptor => if descriptor then ⟨0, false, 3⟩ else ⟨4, false, 0⟩,
    .performIo 0 fun flag => flag == .epollIn || flag == .epollErr,
    .deregisterDescriptor false, .cleanupDescriptorData false, .registerDescriptor true .added,
    .startOp true .write (true, .send 6) true true, .startOp true .read (true, .recv 7) true true,
    .performIo 0 (· == .epollIn), .moveDescriptor false true, .cancelOps false,
    .startOp false .read (true, .recv 9) true true, .startOp true .read (true, .recv 9) true true,
    .shutdown, .deregisterDescriptor false]

/-- Every socket refers to an object that is in use. -/
def InUse (state : EpollReactor Socket World Op) : Prop :=
  ∀ socket data, state.descriptorData socket = some data → data.object ∈ state.live

omit [DecidableEq Socket] in
theorem InUse.unreferenced (inUse : state.InUse) (pooled : state.Pooled) (socket : Socket) :
    state.Unreferenced socket := by
  intro other _ refers
  obtain ⟨data, refers, same⟩ := Option.map_eq_some_iff.mp refers
  exact pooled.allocated_not_live (same ▸ inUse other data refers)

omit [DecidableEq Socket] in
theorem startOpRegisters_sockets (state : EpollReactor Socket World Op) (object : Nat)
    (op : StartedOp Op) (modified : Bool) :
    (state.startOpRegisters object op modified).descriptorData = state.descriptorData ∧
      (state.startOpRegisters object op modified).live = state.live := by
  rw [startOpRegisters]
  split
  · exact ⟨rfl, rfl⟩
  · split
    · split <;> exact ⟨rfl, rfl⟩
    · exact ⟨rfl, rfl⟩

omit [DecidableEq Socket] in
theorem startOpOn_sockets (state : EpollReactor Socket World Op) (object : Nat) (op : StartedOp Op)
    (allowSpeculative modified : Bool) :
    (state.startOpOn perform object op allowSpeculative modified).descriptorData =
        state.descriptorData ∧
      (state.startOpOn perform object op allowSpeculative modified).live = state.live := by
  rw [startOpOn]
  split
  · split
    · split
      · rw [attempt]
        rcases perform op.op state.world with ⟨_ | _ | _, next⟩
        · exact startOpRegisters_sockets ..
        · exact ⟨rfl, rfl⟩
        · dsimp only
          split <;> exact ⟨rfl, rfl⟩
      · exact startOpRegisters_sockets ..
    · split
      · exact ⟨rfl, rfl⟩
      · split <;> exact ⟨rfl, rfl⟩
  · exact ⟨rfl, rfl⟩

omit [DecidableEq Socket] in
theorem startOp_sockets (perform : Op → World → PerformStatus × World)
    (state : EpollReactor Socket World Op) (socket : Socket) (opType : EpollOpType)
    (op : Op) (allowSpeculative modified : Bool) :
    (state.startOp perform socket opType op allowSpeculative modified).descriptorData =
        state.descriptorData ∧
      (state.startOp perform socket opType op allowSpeculative modified).live = state.live := by
  rw [startOp]
  split
  · exact ⟨rfl, rfl⟩
  · split
    · exact ⟨rfl, rfl⟩
    · exact startOpOn_sockets ..

omit [DecidableEq Socket] in
theorem InUse.of_same (inUse : state.InUse)
    (descriptorData : after.descriptorData = state.descriptorData)
    (live : after.live = state.live) : after.InUse := by
  intro socket data refers
  rw [descriptorData] at refers
  rw [live]
  exact inUse socket data refers

theorem InUse.clearData (inUse : state.InUse) (socket : Socket) :
    (state.clearData socket).InUse :=
  fun other data refers => inUse other data (clearData_descriptorData_iff.mp refers).2

theorem InUse.registerDescriptor (inUse : state.InUse) (socket : Socket) (reply : RegisterReply) :
    (state.registerDescriptor socket reply).InUse := by
  intro other data refers
  rcases registerDescriptor_descriptorData_iff.mp refers with ⟨-, rfl⟩ | ⟨-, old⟩
  · exact List.mem_cons_self
  · exact List.mem_cons_of_mem _ (inUse other data old)

theorem InUse.cleanupDescriptorData (inUse : state.InUse) (pooled : state.Pooled)
    (socket : Socket) : (state.cleanupDescriptorData socket).InUse := by
  rw [EpollReactor.cleanupDescriptorData]
  cases own : state.descriptorData socket with
  | none => exact inUse
  | some freed =>
      intro other data refers
      obtain ⟨different, old⟩ := clearData_descriptorData_iff.mp refers
      apply (List.mem_erase_of_ne _).mpr (inUse other data old)
      exact fun shared => different (pooled.separate other socket data freed old own shared)

theorem InUse.moveDescriptor (inUse : state.InUse) (target source : Socket) :
    (state.moveDescriptor target source).InUse :=
  fun _ data refers => inUse _ data (moveDescriptor_descriptorData_iff.mp refers).2

/-- Only `shutdown` frees an object that a socket refers to. -/
theorem InUse.step (inUse : state.InUse) (pooled : state.Pooled)
    {action : EpollReactorAction Socket World Op} (running : action ≠ .shutdown)
    (stepped : EpollReactor.step perform state action = some after) : after.InUse := by
  cases action with
  | elapse next =>
      cases stepped
      exact inUse
  | registerDescriptor socket reply =>
      rw [EpollReactor.step] at stepped
      split at stepped
      · contradiction
      · cases stepped
        exact inUse.registerDescriptor socket reply
  | startOp socket opType op allowSpeculative modified =>
      cases stepped
      have same := startOp_sockets perform state socket opType op allowSpeculative modified
      exact inUse.of_same same.1 same.2
  | performIo object events =>
      rw [EpollReactor.step] at stepped
      split at stepped
      · cases stepped
        exact inUse
      · contradiction
  | cancelOps socket =>
      cases stepped
      rw [cancelOps]
      split
      · exact inUse
      · exact inUse
  | deregisterDescriptor socket =>
      rw [EpollReactor.step] at stepped
      split at stepped
      · contradiction
      · cases stepped
        rw [deregisterDescriptor]
        split
        · exact inUse
        · split
          · exact inUse.clearData socket
          · exact inUse
  | cleanupDescriptorData socket =>
      rw [EpollReactor.step] at stepped
      split at stepped
      · cases stepped
        exact inUse.cleanupDescriptorData pooled socket
      · contradiction
  | moveDescriptor target source =>
      rw [EpollReactor.step] at stepped
      split at stepped
      · contradiction
      · cases stepped
        exact inUse.moveDescriptor target source
  | shutdown => exact absurd rfl running

/-- In a run without `shutdown`, `register_descriptor` finds no socket that refers to the
object it takes. -/
theorem unreferenced_of_running
    (reachable : (machine perform).ReachableWhen (fun _ action => action ≠ .shutdown) state)
    (socket : Socket) : state.Unreferenced socket := by
  have kept : state.Sound ∧ state.InUse := by
    apply reachable.invariant
    · rintro state ⟨world, rfl⟩
      exact ⟨sound_constructed world, fun _ _ absent => absurd absent (Option.some_ne_none _).symm⟩
    · rintro state action next - ⟨sound, inUse⟩ running stepped
      refine ⟨sound.step ?_ stepped, inUse.step sound.pooled running stepped⟩
      cases action with
      | registerDescriptor socket _ => exact inUse.unreferenced sound.pooled socket
      | _ => trivial
  exact kept.2.unreferenced kept.1.pooled socket

end EpollReactor

end Asio.Reactor
