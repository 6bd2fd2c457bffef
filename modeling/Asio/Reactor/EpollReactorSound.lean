import Asio.Reactor.EpollReactor

/-! # Objects, queues and their owners

Three invariants of the reactor: the pool and the sockets that refer to it, the books
(every operation that was started has been handed on or is in the queue of the object of
its registration), and the log of what was performed.
-/

namespace Asio.Reactor

variable {Socket World Op : Type*}

/-- The operation is of a registration and a type. -/
def StartedOp.of (op : StartedOp Op) (registration : Option Nat) (opType : EpollOpType) : Bool :=
  op.registration == registration && op.opType == opType

namespace EpollReactor

/-- What was started for a registration and a type. -/
def startedOf (state : EpollReactor Socket World Op) (registration : Option Nat)
    (opType : EpollOpType) : List (StartedOp Op) :=
  state.started.filter (·.of registration opType)

/-- What was handed on for a registration and a type. -/
def handedOf (state : EpollReactor Socket World Op) (registration : Option Nat)
    (opType : EpollOpType) : List (StartedOp Op) :=
  (state.handed.map Prod.snd).filter (·.of registration opType)

/-- What was performed. -/
def attempts (state : EpollReactor Socket World Op) : List (StartedOp Op) :=
  state.calls.flatMap (·.attempts)

/-- The pool, and the sockets that refer to it. -/
structure Pooled (state : EpollReactor Socket World Op) : Prop where
  distinct : (state.live ++ state.free).Nodup
  known : ∀ object, object ∈ state.live ++ state.free ↔ object < state.created
  owned : ∀ object < state.created, (state.objects object).owner < state.registrations
  owners : ∀ first second, first < state.created → second < state.created →
    (state.objects first).owner = (state.objects second).owner → first = second
  belongs : ∀ socket data, state.descriptorData socket = some data →
    data.object < state.created ∧ (state.objects data.object).owner = data.registration ∧
      (data.object ∈ state.live ∨ (state.objects data.object).shutdown = true)
  separate : ∀ first second data others, state.descriptorData first = some data →
    state.descriptorData second = some others → data.object = others.object → first = second
  closing : ∀ socket ∈ state.closing, ∃ data, state.descriptorData socket = some data ∧
    data.object ∈ state.live ∧ (state.objects data.object).shutdown = true

/-- Every operation is handed on or queued, in the order they were started. -/
structure Booked (state : EpollReactor Socket World Op) : Prop where
  emptied : ∀ object, object ∉ state.live ∨ (state.objects object).shutdown = true →
    ∀ opType, (state.objects object).opQueue opType = []
  placed : ∀ object opType, ∀ op ∈ (state.objects object).opQueue opType,
    op.registration = some (state.objects object).owner ∧ op.opType = opType
  conserved : ∀ object ∈ state.live, ∀ opType,
    state.startedOf (some (state.objects object).owner) opType =
      state.handedOf (some (state.objects object).owner) opType ++
        (state.objects object).opQueue opType
  finished : ∀ registration opType,
    (∀ object ∈ state.live, registration ≠ some (state.objects object).owner) →
      state.startedOf registration opType = state.handedOf registration opType
  known : ∀ op ∈ state.started, ∀ registration, op.registration = some registration →
    registration < state.registrations
  numbered : state.started.map (·.sequence) = List.range state.started.length

/-- What was performed was performed for its owner, in the order of starting, and
before what is queued. -/
structure Logged (state : EpollReactor Socket World Op) : Prop where
  owned : ∀ call ∈ state.calls, ∀ op ∈ call.attempts, op.registration = some call.owner
  exceptFirst : ∀ call ∈ state.calls, call.attempts.Pairwise fun earlier later =>
    later.opType = .except → earlier.opType = .except
  ordered : state.attempts.Pairwise fun earlier later =>
    earlier.registration = later.registration → earlier.opType = later.opType →
      earlier.sequence ≤ later.sequence
  behind : ∀ attempt ∈ state.attempts, ∀ object opType,
    ∀ op ∈ (state.objects object).opQueue opType, attempt.registration = op.registration →
      attempt.opType = op.opType → attempt.sequence ≤ op.sequence
  bounded : ∀ attempt ∈ state.attempts, attempt.sequence ≤ state.started.length

/-- The invariant of the reactor. -/
structure Sound (state : EpollReactor Socket World Op) : Prop where
  pooled : state.Pooled
  booked : state.Booked
  logged : state.Logged

variable {state after : EpollReactor Socket World Op}

theorem project_update {Value Part : Type*} (project : Value → Part) {objects : Nat → Value}
    {object : Nat} {value : Value} (same : project value = project (objects object))
    (other : Nat) :
    project (Function.update objects object value other) = project (objects other) := by
  by_cases own : other = object
  · rw [own, Function.update_self, same]
  · rw [Function.update_of_ne own]

/-! ## What does not matter -/

theorem Pooled.of_same (pooled : state.Pooled) (live : after.live = state.live)
    (free : after.free = state.free) (created : after.created = state.created)
    (descriptorData : after.descriptorData = state.descriptorData)
    (closing : after.closing = state.closing)
    (registrations : after.registrations = state.registrations)
    (owner : ∀ object, (after.objects object).owner = (state.objects object).owner)
    (shutdown : ∀ object, (after.objects object).shutdown = (state.objects object).shutdown) :
    after.Pooled where
  distinct := by
    rw [live, free]
    exact pooled.distinct
  known := by
    rw [live, free, created]
    exact pooled.known
  owned := by
    rw [created, registrations]
    intro object
    rw [owner]
    exact pooled.owned object
  owners := by
    rw [created]
    intro first second
    rw [owner, owner]
    exact pooled.owners first second
  belongs := by
    rw [live, created, descriptorData]
    intro socket data
    rw [owner, shutdown]
    exact pooled.belongs socket data
  separate := by
    rw [descriptorData]
    exact pooled.separate
  closing := by
    rw [live, descriptorData, closing]
    intro socket member
    obtain ⟨data, refers, isLive, isShutdown⟩ := pooled.closing socket member
    exact ⟨data, refers, isLive, (shutdown _).trans isShutdown⟩

theorem Booked.of_same (booked : state.Booked) (live : after.live = state.live)
    (registrations : after.registrations = state.registrations)
    (started : after.started = state.started) (handed : after.handed = state.handed)
    (owner : ∀ object, (after.objects object).owner = (state.objects object).owner)
    (shutdown : ∀ object, (after.objects object).shutdown = (state.objects object).shutdown)
    (opQueue : ∀ object, (after.objects object).opQueue = (state.objects object).opQueue) :
    after.Booked where
  emptied := by
    rw [live]
    intro object
    rw [shutdown, opQueue]
    exact booked.emptied object
  placed := by
    intro object
    rw [owner, opQueue]
    exact booked.placed object
  conserved := by
    rw [live]
    intro object isLive
    rw [owner, opQueue]
    unfold startedOf handedOf
    rw [started, handed]
    exact booked.conserved object isLive
  finished := by
    rw [live]
    intro registration opType unowned
    unfold startedOf handedOf
    rw [started, handed]
    apply booked.finished registration opType
    intro object isLive
    rw [← owner]
    exact unowned object isLive
  known := by
    rw [started, registrations]
    exact booked.known
  numbered := by
    rw [started]
    exact booked.numbered

theorem Logged.of_fewer (logged : state.Logged) (calls : after.calls = state.calls)
    (started : state.started.length ≤ after.started.length)
    (fewer : ∀ object opType, ∀ op ∈ (after.objects object).opQueue opType,
      op ∈ (state.objects object).opQueue opType) :
    after.Logged where
  owned := by
    rw [calls]
    exact logged.owned
  exceptFirst := by
    rw [calls]
    exact logged.exceptFirst
  ordered := by
    unfold attempts
    rw [calls]
    exact logged.ordered
  behind := by
    unfold attempts
    rw [calls]
    intro attempt member object opType op queued
    exact logged.behind attempt member object opType op (fewer object opType op queued)
  bounded := by
    unfold attempts
    rw [calls]
    intro attempt member
    exact Nat.le_trans (logged.bounded attempt member) started

theorem Logged.of_same (logged : state.Logged) (calls : after.calls = state.calls)
    (started : state.started.length ≤ after.started.length)
    (opQueue : ∀ object, (after.objects object).opQueue = (state.objects object).opQueue) :
    after.Logged := by
  apply logged.of_fewer calls started
  intro object opType op queued
  rwa [opQueue] at queued

/-! ## Numbers of operations -/

theorem Booked.pairwise_started (booked : state.Booked) :
    state.started.Pairwise fun earlier later => earlier.sequence < later.sequence := by
  rw [← List.pairwise_map, booked.numbered]
  exact List.pairwise_lt_range

theorem Booked.sequence_lt (booked : state.Booked) {op : StartedOp Op}
    (member : op ∈ state.started) : op.sequence < state.started.length := by
  have numbered := List.mem_map_of_mem (f := fun op : StartedOp Op => op.sequence) member
  rw [booked.numbered, List.mem_range] at numbered
  exact numbered

/-- A queue holds operations that were started, in that order. -/
theorem Booked.queue_sublist (booked : state.Booked) (object : Nat) (opType : EpollOpType) :
    List.Sublist ((state.objects object).opQueue opType) state.started := by
  by_cases isLive : object ∈ state.live
  · have last : List.Sublist ((state.objects object).opQueue opType)
        (state.startedOf (some (state.objects object).owner) opType) := by
      rw [booked.conserved object isLive opType]
      exact List.sublist_append_right _ _
    exact last.trans List.filter_sublist
  · rw [booked.emptied object (.inl isLive) opType]
    exact List.nil_sublist _

theorem Booked.ascending (booked : state.Booked) (object : Nat) (opType : EpollOpType) :
    ((state.objects object).opQueue opType).Pairwise fun earlier later =>
      earlier.sequence < later.sequence :=
  booked.pairwise_started.sublist (booked.queue_sublist object opType)

theorem Booked.queued_lt (booked : state.Booked) {object : Nat} {opType : EpollOpType}
    {op : StartedOp Op} (queued : op ∈ (state.objects object).opQueue opType) :
    op.sequence < state.started.length :=
  booked.sequence_lt ((booked.queue_sublist object opType).subset queued)

/-! ## Operations that leave their queues -/

theorem of_iff {op : StartedOp Op} {registration : Option Nat} {opType : EpollOpType} :
    op.of registration opType = true ↔ op.registration = registration ∧ op.opType = opType := by
  simp only [StartedOp.of, Bool.and_eq_true, beq_iff_eq]

theorem filter_flatMap_of {opTypes : List EpollOpType} (nodup : opTypes.Nodup)
    {ops : EpollOpType → List (StartedOp Op)} {owner : Nat}
    (placed : ∀ opType, ∀ op ∈ ops opType, op.registration = some owner ∧ op.opType = opType)
    (registration : Option Nat) (opType : EpollOpType) :
    (opTypes.flatMap ops).filter (·.of registration opType) =
      if registration = some owner ∧ opType ∈ opTypes then ops opType else [] := by
  induction opTypes with
  | nil => simp
  | cons first others ih =>
      obtain ⟨fresh, nodup⟩ := List.nodup_cons.mp nodup
      rw [List.flatMap_cons, List.filter_append, ih nodup]
      by_cases chosen : registration = some owner ∧ first = opType
      · obtain ⟨rfl, rfl⟩ := chosen
        have all : (ops first).filter (·.of (some owner) first) = ops first := by
          rw [List.filter_eq_self]
          intro op member
          exact of_iff.mpr (placed first op member)
        simp [all, fresh]
      · have nothing : (ops first).filter (·.of registration opType) = [] := by
          rw [List.filter_eq_nil_iff]
          intro op member isOf
          obtain ⟨own, kind⟩ := placed first op member
          obtain ⟨same, other⟩ := of_iff.mp isOf
          exact chosen ⟨same.symm.trans own, kind.symm.trans other⟩
        rw [nothing, List.nil_append]
        by_cases own : registration = some owner
        · have different : opType ≠ first := fun same => chosen ⟨own, same.symm⟩
          simp [own, different]
        · simp [own]

/-- Operations leave the front of the queues of an object, and are handed on. -/
theorem Booked.leave (booked : state.Booked) (pooled : state.Pooled) {object : Nat}
    {value : PooledDescriptorState Op} {exits : List (OpExit × StartedOp Op)}
    {opTypes : List EpollOpType} {left : EpollOpType → List (StartedOp Op)}
    (complete : ∀ opType, opType ∈ opTypes) (nodup : opTypes.Nodup)
    (queues : ∀ opType,
      left opType ++ value.opQueue opType = (state.objects object).opQueue opType)
    (owner : value.owner = (state.objects object).owner)
    (shutdown : value.shutdown = (state.objects object).shutdown)
    (exited : exits.map Prod.snd = opTypes.flatMap left)
    (objects : after.objects = Function.update state.objects object value)
    (live : after.live = state.live) (registrations : after.registrations = state.registrations)
    (started : after.started = state.started) (handed : after.handed = state.handed ++ exits) :
    after.Booked := by
  have member : ∀ opType, ∀ op ∈ left opType, op ∈ (state.objects object).opQueue opType := by
    intro opType op member
    rw [← queues opType]
    exact List.mem_append_left _ member
  have handedOf : ∀ registration opType, after.handedOf registration opType =
      state.handedOf registration opType ++
        if registration = some (state.objects object).owner then left opType else [] := by
    intro registration opType
    unfold EpollReactor.handedOf
    rw [handed, List.map_append, List.filter_append, exited,
      filter_flatMap_of nodup (fun kind op leaves => booked.placed object kind op
        (member kind op leaves))]
    simp only [complete opType, and_true]
  have startedOf : ∀ registration opType,
      after.startedOf registration opType = state.startedOf registration opType := by
    intro registration opType
    unfold EpollReactor.startedOf
    rw [started]
  have sameOwner : ∀ other, (after.objects other).owner = (state.objects other).owner := by
    rw [objects]
    exact project_update PooledDescriptorState.owner owner
  have sameShutdown :
      ∀ other, (after.objects other).shutdown = (state.objects other).shutdown := by
    rw [objects]
    exact project_update PooledDescriptorState.shutdown shutdown
  have own : (after.objects object).opQueue = value.opQueue := by
    rw [objects, Function.update_self]
  have others : ∀ other, other ≠ object →
      (after.objects other).opQueue = (state.objects other).opQueue := by
    intro other different
    rw [objects, Function.update_of_ne different]
  have nothing : object ∉ state.live → ∀ opType, left opType = [] := by
    intro isFree opType
    have empty := booked.emptied object (.inl isFree) opType
    rw [← queues opType, List.append_eq_nil_iff] at empty
    exact empty.1
  refine ⟨?_, ?_, ?_, ?_, ?_, ?_⟩
  · intro other unused opType
    rw [live, sameShutdown] at unused
    have empty := booked.emptied other unused opType
    by_cases same : other = object
    · subst same
      rw [← queues opType, List.append_eq_nil_iff] at empty
      rw [own]
      exact empty.2
    · rw [others other same]
      exact empty
  · intro other opType op queued
    rw [sameOwner]
    apply booked.placed other opType op
    by_cases same : other = object
    · subst same
      rw [own] at queued
      rw [← queues opType]
      exact List.mem_append_right _ queued
    · rwa [others other same] at queued
  · intro other isLive opType
    rw [live] at isLive
    rw [sameOwner, startedOf, handedOf, booked.conserved other isLive opType, List.append_assoc]
    congr 1
    by_cases same : other = object
    · subst same
      rw [if_pos rfl, own, queues opType]
    · rw [others other same]
      by_cases isUsed : object ∈ state.live
      · have different : (state.objects other).owner ≠ (state.objects object).owner := by
          intro shared
          have created := fun object member =>
            (pooled.known object).mp (List.mem_append_left _ member)
          exact same (pooled.owners _ _ (created _ isLive) (created _ isUsed) shared)
        rw [if_neg (fun shared => different (Option.some.inj shared)), List.nil_append]
      · rw [nothing isUsed opType, ite_self, List.nil_append]
  · intro registration opType unowned
    have before : ∀ other ∈ state.live, registration ≠ some (state.objects other).owner := by
      intro other isLive
      rw [← sameOwner]
      rw [← live] at isLive
      exact unowned other isLive
    rw [startedOf, handedOf, booked.finished registration opType before]
    by_cases same : registration = some (state.objects object).owner
    · have isFree : object ∉ state.live := fun isLive => before object isLive same
      rw [nothing isFree opType, ite_self, List.append_nil]
    · rw [if_neg same, List.append_nil]
  · rw [started, registrations]
    exact booked.known
  · rw [started]
    exact booked.numbered

end EpollReactor

end Asio.Reactor
