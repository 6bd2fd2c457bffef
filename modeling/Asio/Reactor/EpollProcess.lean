import Asio.Reactor.EpollReactorRuns
import Asio.Reactor.EpollSet

/-! # An epoll reactor in its process

The reactor with the epoll set and the open files of its process. `register_descriptor`
allocates and fills a `descriptor_state` before it adds the descriptor to the set, and keeps
it whatever `epoll_ctl` returns, so the live objects and the members of the set are not the
same.
-/

namespace Asio.Reactor

/-- The reactor in its process, with `descriptor_` of every object, where -1 is `none`.
The last registration of an object that is `refused` failed. -/
structure EpollProcess (Socket World Op : Type*) where
  reactor : EpollReactor Socket World Op
  descriptor : Nat → Option Nat
  refused : Nat → Bool
  set : EpollSet
  timerFd : Option Nat
  interrupter : Nat

/-- What the process does before it is forked. The last argument of `register_descriptor`
is an error of the kernel that is not about the descriptor. -/
inductive EpollProcessAction (Socket : Type*) where
  | openFile (descriptor : Nat) (kind : FileKind)
  | closeFile (descriptor : Nat)
  | registerDescriptor (socket : Socket) (descriptor : Nat) (exhausted : Option ℕ+)
  | deregisterDescriptor (socket : Socket) (descriptor : Nat) (closing : Bool)
  | cleanupDescriptorData (socket : Socket)

/-- The registration of the interrupter. -/
def interrupterMember (descriptor : Nat) : EpollMember :=
  ⟨descriptor, fun flag => flag == .epollIn || flag == .epollErr, true, .interrupter⟩

/-- The registration of the timer descriptor. -/
def timerMember (descriptor : Nat) : EpollMember :=
  ⟨descriptor, fun flag => flag == .epollIn || flag == .epollErr, false, .timer⟩

/-- A registration whose result is ignored. -/
def EpollSet.tryAdd (set : EpollSet) (member : EpollMember) : EpollSet :=
  match set.ctlAdd (some member.descriptor) member.events member.edgeTriggered member.pointer with
  | .error _ => set
  | .ok after => after

/-- The interrupter's and the timer descriptor are added. -/
def EpollSet.addInternal (set : EpollSet) (timerFd : Option Nat) (interrupter : Nat) : EpollSet :=
  match timerFd with
  | none => set.tryAdd (interrupterMember interrupter)
  | some timer => (set.tryAdd (interrupterMember interrupter)).tryAdd (timerMember timer)

namespace EpollProcess

variable {Socket World Op : Type*} [DecidableEq Socket]

/-- `register_descriptor`. -/
def registerDescriptor (process : EpollProcess Socket World Op) (socket : Socket)
    (descriptor : Nat) (exhausted : Option ℕ+) : EpollProcess Socket World Op :=
  let object := process.reactor.allocated
  let result : Except ℕ+ EpollSet :=
    match exhausted with
    | some errno => .error errno
    | none => process.set.ctlAdd (some descriptor) (fun flag => flag != .epollOut) true
        (.state object)
  let errno : Option ℕ+ :=
    match result with
    | .error errno => some errno
    | .ok _ => none
  { process with
    reactor := process.reactor.registerDescriptor socket (registerReply errno)
    descriptor := Function.update process.descriptor object (some descriptor)
    refused := Function.update process.refused object (registerReply errno == .failed)
    set := match result with
      | .error _ => process.set
      | .ok after => after }

/-- `deregister_descriptor`. -/
def deregisterDescriptor (process : EpollProcess Socket World Op) (socket : Socket)
    (descriptor : Nat) (closing : Bool) : EpollProcess Socket World Op :=
  match process.reactor.descriptorData socket with
  | none => process
  | some data =>
      if (process.reactor.objects data.object).shutdown then
        { process with reactor := process.reactor.deregisterDescriptor socket }
      else { process with
        reactor := process.reactor.deregisterDescriptor socket
        descriptor := Function.update process.descriptor data.object none
        set :=
          if closing || (process.reactor.objects data.object).registeredEvents.isZero then
            process.set
          else process.set.ctlDel descriptor }

/-- `cleanup_descriptor_data`. -/
def cleanupDescriptorData (process : EpollProcess Socket World Op) (socket : Socket) :
    EpollProcess Socket World Op :=
  { process with reactor := process.reactor.cleanupDescriptorData socket }

/-- Closing a descriptor takes no registration from the set that is in use. -/
def mayClose (process : EpollProcess Socket World Op) (descriptor : Nat) : Bool :=
  descriptor != process.set.epollFd && process.set.members.all fun member =>
    member.descriptor != descriptor ||
      match member.pointer with
      | .state object => (process.reactor.objects object).shutdown
      | _ => false

/-- A descriptor is deregistered that was registered without an error. -/
def mayDeregister (process : EpollProcess Socket World Op) (socket : Socket) (descriptor : Nat) :
    Bool :=
  (process.reactor.descriptorData socket).all fun data => !process.refused data.object &&
    ((process.reactor.objects data.object).shutdown ||
      process.descriptor data.object == some descriptor)

/-- The set no longer refers to the object: `EPOLL_CTL_DEL` or closing the descriptor has
taken it out. -/
def mayCleanup (process : EpollProcess Socket World Op) (socket : Socket) : Bool :=
  (process.reactor.descriptorData socket).all fun data =>
    process.set.members.all (·.pointer != .state data.object)

/-- One step. As the sockets do it, a descriptor is not closed while it is registered, only
one that was registered is deregistered, and with `closing` it is closed before it is
cleaned up. -/
def step (process : EpollProcess Socket World Op) :
    EpollProcessAction Socket → Option (EpollProcess Socket World Op)
  | .openFile descriptor kind =>
      if process.set.files descriptor = .closed then
        some { process with set := process.set.openFile descriptor kind }
      else none
  | .closeFile descriptor =>
      if process.mayClose descriptor then
        some { process with set := process.set.closeFile descriptor }
      else none
  | .registerDescriptor socket descriptor exhausted =>
      if socket ∈ process.reactor.closing then none
      else some (process.registerDescriptor socket descriptor exhausted)
  | .deregisterDescriptor socket descriptor closing =>
      if socket ∉ process.reactor.closing ∧ process.mayDeregister socket descriptor then
        some (process.deregisterDescriptor socket descriptor closing)
      else none
  | .cleanupDescriptorData socket =>
      if socket ∈ process.reactor.closing ∧ process.mayCleanup socket then
        some (process.cleanupDescriptorData socket)
      else none

/-- Three descriptors of the process, one of which may be missing. -/
def Apart (epollFd : Nat) (timerFd : Option Nat) (interrupter : Nat) : Prop :=
  timerFd ≠ some epollFd ∧ interrupter ≠ epollFd ∧ timerFd ≠ some interrupter

/-- The constructor has run. -/
def Constructed (process : EpollProcess Socket World Op) : Prop :=
  ∃ (world : World) (epollFd : Nat) (timerFd : Option Nat) (interrupter : Nat)
    (files : Nat → FileKind),
    Apart epollFd timerFd interrupter ∧ files epollFd = .pollable ∧
      files interrupter = .pollable ∧ (∀ timer, timerFd = some timer → files timer = .pollable) ∧
      process = ⟨.constructed world, fun _ => none, fun _ => false,
        EpollSet.addInternal ⟨epollFd, files, []⟩ timerFd interrupter, timerFd, interrupter⟩

/-- The process before it is forked, as a machine. -/
def machine : Transition.Machine (EpollProcess Socket World Op) (EpollProcessAction Socket) where
  initial := Constructed
  step := step

/-! ## The reactor's own registrations -/

/-- The interrupter and the timer descriptor, the last one first. -/
def internalMembers (timerFd : Option Nat) (interrupter : Nat) : List EpollMember :=
  (timerFd.map timerMember).toList ++ [interrupterMember interrupter]

theorem mem_internalMembers {timerFd : Option Nat} {interrupter : Nat} {member : EpollMember} :
    member ∈ internalMembers timerFd interrupter ↔
      (∃ timer, timerFd = some timer ∧ member = timerMember timer) ∨
        member = interrupterMember interrupter := by
  rw [internalMembers, List.mem_append, List.mem_singleton, Option.mem_toList,
    Option.map_eq_some_iff]
  simp only [eq_comm]

theorem tryAdd_eq {set : EpollSet} {member : EpollMember}
    (pollable : set.files member.descriptor = .pollable)
    (foreign : member.descriptor ≠ set.epollFd)
    (fresh : ∀ other ∈ set.members, other.descriptor ≠ member.descriptor) :
    set.tryAdd member = { set with members := member :: set.members } := by
  rw [EpollSet.tryAdd, EpollSet.ctlAdd_eq_ok_iff.mpr ⟨_, rfl, pollable, foreign, fresh, rfl⟩]

theorem addInternal_eq {epollFd interrupter : Nat} {timerFd : Option Nat} {files : Nat → FileKind}
    (apart : Apart epollFd timerFd interrupter) (interrupterOpen : files interrupter = .pollable)
    (timerOpen : ∀ timer, timerFd = some timer → files timer = .pollable) :
    EpollSet.addInternal ⟨epollFd, files, []⟩ timerFd interrupter =
      ⟨epollFd, files, internalMembers timerFd interrupter⟩ := by
  obtain ⟨timerEpoll, interrupterEpoll, timerInterrupter⟩ := apart
  have first : EpollSet.tryAdd ⟨epollFd, files, []⟩ (interrupterMember interrupter) =
      ⟨epollFd, files, [interrupterMember interrupter]⟩ := by
    apply tryAdd_eq interrupterOpen interrupterEpoll
    exact fun other absent => absurd absent List.not_mem_nil
  cases timerFd with
  | none => exact first
  | some timer =>
      rw [EpollSet.addInternal, first]
      apply tryAdd_eq (timerOpen timer rfl)
      · rintro rfl
        exact timerEpoll rfl
      · intro other isMember
        rw [List.mem_singleton.mp isMember]
        rintro rfl
        exact timerInterrupter rfl

theorem valid_internalMembers {epollFd interrupter : Nat} {timerFd : Option Nat}
    {files : Nat → FileKind} (apart : Apart epollFd timerFd interrupter)
    (interrupterOpen : files interrupter = .pollable)
    (timerOpen : ∀ timer, timerFd = some timer → files timer = .pollable) :
    EpollSet.Valid ⟨epollFd, files, internalMembers timerFd interrupter⟩ where
  distinct := by
    cases timerFd with
    | none => exact List.nodup_singleton _
    | some timer =>
        apply List.nodup_cons.mpr ⟨fun present => ?_, List.nodup_singleton _⟩
        apply apart.2.2
        exact congrArg some (List.mem_singleton.mp present)
  pollable := by
    intro member isMember
    rcases mem_internalMembers.mp isMember with ⟨timer, isTimer, rfl⟩ | rfl
    · exact timerOpen timer isTimer
    · exact interrupterOpen
  foreign := by
    intro member isMember
    rcases mem_internalMembers.mp isMember with ⟨timer, isTimer, rfl⟩ | rfl
    · intro same
      exact apart.1 (isTimer.trans (congrArg some same))
    · exact apart.2.1

/-! ## The set and the objects -/

/-- The object's descriptor was added to the set, and was not deregistered. -/
structure Registered (process : EpollProcess Socket World Op) (object : Nat) : Prop where
  accepted : process.refused object = false
  supported : (process.reactor.objects object).registeredEvents.isZero = false
  working : (process.reactor.objects object).shutdown = false

/-- What the members of the set have to do with the objects of the pool. -/
structure Tracked (process : EpollProcess Socket World Op) : Prop where
  sound : process.reactor.Sound
  inUse : process.reactor.InUse
  valid : process.set.Valid
  epollOpen : process.set.files process.set.epollFd = .pollable
  internal : ∀ member ∈ internalMembers process.timerFd process.interrupter,
    member ∈ process.set.members
  known : ∀ member ∈ process.set.members,
    member ∈ internalMembers process.timerFd process.interrupter ∨
      ∃ object ∈ process.reactor.live, member.pointer = .state object
  pointed : ∀ member ∈ process.set.members, ∀ object, member.pointer = .state object →
    process.refused object = false ∧
      (process.reactor.objects object).registeredEvents.isZero = false ∧
      ((process.reactor.objects object).shutdown = false →
        process.descriptor object = some member.descriptor)
  added : ∀ object ∈ process.reactor.live, process.Registered object →
    ∃ member ∈ process.set.members, member.pointer = .state object
  dropped : ∀ object ∈ process.reactor.live, (process.reactor.objects object).shutdown = true →
    process.descriptor object = none

variable {process after : EpollProcess Socket World Op}

omit [DecidableEq Socket] in
theorem Tracked.live_of_pointer (tracked : process.Tracked) {member : EpollMember}
    (isMember : member ∈ process.set.members) {object : Nat}
    (points : member.pointer = .state object) : object ∈ process.reactor.live := by
  rcases tracked.known member isMember with internal | ⟨other, isLive, same⟩
  · rcases mem_internalMembers.mp internal with ⟨timer, -, rfl⟩ | rfl
    · contradiction
    · contradiction
  · rw [points, EpollPointer.state.injEq] at same
    rwa [same]

omit [DecidableEq Socket] in
/-- The reactor's own descriptors are three different ones. -/
theorem Tracked.apart (tracked : process.Tracked) :
    Apart process.set.epollFd process.timerFd process.interrupter := by
  have interrupterMember := tracked.internal _ (mem_internalMembers.mpr (.inr rfl))
  refine ⟨fun same => ?_, tracked.valid.foreign _ interrupterMember, fun same => ?_⟩
  · exact tracked.valid.foreign _
      (tracked.internal _ (mem_internalMembers.mpr (.inl ⟨_, same, rfl⟩))) rfl
  · have timerMember := tracked.internal _ (mem_internalMembers.mpr (.inl ⟨_, same, rfl⟩))
    have both := tracked.valid.eq_of_descriptor interrupterMember timerMember rfl
    exact EpollPointer.noConfusion (congrArg EpollMember.pointer both)

omit [DecidableEq Socket] in
theorem tracked_constructed (constructed : process.Constructed) : process.Tracked := by
  obtain ⟨world, epollFd, timerFd, interrupter, files, apart, epollOpen, interrupterOpen,
    timerOpen, rfl⟩ := constructed
  rw [addInternal_eq apart interrupterOpen timerOpen]
  constructor
  · exact EpollReactor.sound_constructed world
  · exact fun _ _ absent => absurd absent (Option.some_ne_none _).symm
  · exact valid_internalMembers apart interrupterOpen timerOpen
  · exact epollOpen
  · exact fun _ isMember => isMember
  · exact fun _ isMember => .inl isMember
  · intro member isMember object points
    rcases mem_internalMembers.mp isMember with ⟨timer, -, rfl⟩ | rfl
    · contradiction
    · contradiction
  · exact fun _ absent => absurd absent List.not_mem_nil
  · exact fun _ absent => absurd absent List.not_mem_nil

omit [DecidableEq Socket] in
theorem Tracked.openFile (tracked : process.Tracked) {descriptor : Nat}
    (unused : process.set.files descriptor = .closed) (kind : FileKind) :
    ({ process with set := process.set.openFile descriptor kind } :
      EpollProcess Socket World Op).Tracked where
  sound := tracked.sound
  inUse := tracked.inUse
  valid := tracked.valid.openFile unused kind
  epollOpen := by
    have isOpen := tracked.epollOpen
    change Function.update process.set.files descriptor kind process.set.epollFd = _
    rw [Function.update_of_ne]
    · exact isOpen
    · intro same
      rw [same, unused] at isOpen
      contradiction
  internal := tracked.internal
  known := tracked.known
  pointed := tracked.pointed
  added object isLive registered := tracked.added object isLive
    ⟨registered.accepted, registered.supported, registered.working⟩
  dropped := tracked.dropped

omit [DecidableEq Socket] in
/-- A descriptor leaves the set that is neither the reactor's own nor the one of an object
that is in use. -/
theorem Tracked.ctlDel (tracked : process.Tracked) {descriptor : Nat}
    (unused : ∀ member ∈ process.set.members, member.descriptor = descriptor →
      ∃ object, member.pointer = .state object ∧
        (process.reactor.objects object).shutdown = true) :
    ({ process with set := process.set.ctlDel descriptor } :
      EpollProcess Socket World Op).Tracked where
  sound := tracked.sound
  inUse := tracked.inUse
  valid := tracked.valid.ctlDel descriptor
  epollOpen := tracked.epollOpen
  internal := by
    intro member internal
    apply EpollSet.mem_ctlDel.mpr ⟨tracked.internal member internal, fun same => ?_⟩
    obtain ⟨object, points, -⟩ := unused member (tracked.internal member internal) same
    rcases mem_internalMembers.mp internal with ⟨timer, -, rfl⟩ | rfl
    · contradiction
    · contradiction
  known member isMember := tracked.known member (EpollSet.mem_ctlDel.mp isMember).1
  pointed member isMember := tracked.pointed member (EpollSet.mem_ctlDel.mp isMember).1
  added := by
    intro object isLive registered
    obtain ⟨member, isMember, points⟩ := tracked.added object isLive
      ⟨registered.accepted, registered.supported, registered.working⟩
    refine ⟨member, EpollSet.mem_ctlDel.mpr ⟨isMember, fun same => ?_⟩, points⟩
    obtain ⟨other, points', isShutdown⟩ := unused member isMember same
    rw [points, EpollPointer.state.injEq] at points'
    have working : (process.reactor.objects object).shutdown = false := registered.working
    rw [points', isShutdown] at working
    contradiction
  dropped := tracked.dropped

omit [DecidableEq Socket] in
theorem Tracked.closeFile (tracked : process.Tracked) {descriptor : Nat}
    (unused : process.mayClose descriptor = true) :
    ({ process with set := process.set.closeFile descriptor } :
      EpollProcess Socket World Op).Tracked := by
  rw [mayClose, Bool.and_eq_true, bne_iff_ne, List.all_eq_true] at unused
  obtain ⟨notEpoll, unused⟩ := unused
  have shutDown : ∀ member ∈ process.set.members, member.descriptor = descriptor →
      ∃ object, member.pointer = .state object ∧
        (process.reactor.objects object).shutdown = true := by
    intro member isMember same
    have allowed := unused member isMember
    rw [same, bne_self_eq_false, Bool.false_or] at allowed
    cases points : member.pointer with
    | interrupter =>
        rw [points] at allowed
        contradiction
    | timer =>
        rw [points] at allowed
        contradiction
    | state object =>
        rw [points] at allowed
        exact ⟨object, rfl, allowed⟩
  have removed := tracked.ctlDel shutDown
  refine ⟨removed.sound, removed.inUse, tracked.valid.closeFile descriptor, ?_, removed.internal,
    removed.known, removed.pointed, ?_, removed.dropped⟩
  · change Function.update process.set.files descriptor .closed process.set.epollFd = _
    rw [Function.update_of_ne notEpoll.symm]
    exact tracked.epollOpen
  · intro object isLive registered
    exact removed.added object isLive
      ⟨registered.accepted, registered.supported, registered.working⟩

/-! ## `register_descriptor` -/

theorem isZero_registered (reply : RegisterReply) :
    EpollEvents.isZero (fun flag => flag != .epollOut && reply != .notPermitted) =
      (reply == .notPermitted) := by
  cases reply <;> decide

/-- What `register_descriptor` does to the set: it adds the descriptor, or nothing and
remembers that. -/
theorem registerDescriptor_set (process : EpollProcess Socket World Op) (socket : Socket)
    (descriptor : Nat) (exhausted : Option ℕ+) :
    (∃ set, process.set.ctlAdd (some descriptor) (fun flag => flag != .epollOut) true
        (.state process.reactor.allocated) = .ok set ∧
      process.registerDescriptor socket descriptor exhausted =
        { process with
          reactor := process.reactor.registerDescriptor socket .added
          descriptor := Function.update process.descriptor process.reactor.allocated
            (some descriptor)
          refused := Function.update process.refused process.reactor.allocated false
          set := set }) ∨
    ∃ reply, reply ≠ .added ∧
      process.registerDescriptor socket descriptor exhausted =
        { process with
          reactor := process.reactor.registerDescriptor socket reply
          descriptor := Function.update process.descriptor process.reactor.allocated
            (some descriptor)
          refused := Function.update process.refused process.reactor.allocated
            (reply == .failed) } := by
  have refusal : ∀ errno : ℕ+, registerReply (some errno) ≠ .added := by
    intro errno
    rw [registerReply]
    split <;> nofun
  unfold registerDescriptor
  cases exhausted with
  | some errno => exact .inr ⟨_, refusal errno, rfl⟩
  | none =>
      dsimp only
      cases process.set.ctlAdd (some descriptor) (fun flag => flag != .epollOut) true
          (.state process.reactor.allocated) with
      | error errno => exact .inr ⟨_, refusal errno, rfl⟩
      | ok set => exact .inl ⟨set, rfl, rfl⟩

/-- An object is allocated and the set is changed for it alone. -/
theorem Tracked.register (tracked : process.Tracked) {socket : Socket}
    (settled : socket ∉ process.reactor.closing) (reply : RegisterReply) {descriptor : Nat}
    {refused : Bool} {set : EpollSet} (valid : set.Valid)
    (epollOpen : set.files set.epollFd = .pollable)
    (kept : ∀ member ∈ process.set.members, member ∈ set.members)
    (fresh : ∀ member ∈ set.members, member ∉ process.set.members →
      member.descriptor = descriptor ∧ member.pointer = .state process.reactor.allocated ∧
        refused = false ∧ reply ≠ .notPermitted)
    (present : refused = false → reply ≠ .notPermitted →
      ∃ member ∈ set.members, member.pointer = .state process.reactor.allocated) :
    ({ process with
      reactor := process.reactor.registerDescriptor socket reply
      descriptor := Function.update process.descriptor process.reactor.allocated (some descriptor)
      refused := Function.update process.refused process.reactor.allocated refused
      set := set } : EpollProcess Socket World Op).Tracked := by
  have notLive := tracked.sound.pooled.allocated_not_live
  have own : ((process.reactor.registerDescriptor socket reply).objects
      process.reactor.allocated).registeredEvents.isZero = (reply == .notPermitted) ∧
      ((process.reactor.registerDescriptor socket reply).objects
        process.reactor.allocated).shutdown = false := by
    have same : (process.reactor.registerDescriptor socket reply).objects
        process.reactor.allocated = _ := Function.update_self ..
    rw [same]
    exact ⟨isZero_registered reply, rfl⟩
  have others : ∀ object, object ≠ process.reactor.allocated →
      (process.reactor.registerDescriptor socket reply).objects object =
        process.reactor.objects object :=
    fun object different => EpollReactor.registerDescriptor_objects_of_ne different socket reply
  have live : ∀ object ∈ process.reactor.live, object ≠ process.reactor.allocated := by
    rintro object isLive rfl
    exact notLive isLive
  constructor
  · exact tracked.sound.registerDescriptor settled
      (tracked.inUse.unreferenced tracked.sound.pooled socket) reply
  · exact tracked.inUse.registerDescriptor socket reply
  · exact valid
  · exact epollOpen
  · exact fun member internal => kept member (tracked.internal member internal)
  · intro member isMember
    by_cases before : member ∈ process.set.members
    · rcases tracked.known member before with internal | ⟨object, isLive, points⟩
      · exact .inl internal
      · exact .inr ⟨object, List.mem_cons_of_mem _ isLive, points⟩
    · exact .inr ⟨_, List.mem_cons_self, (fresh member isMember before).2.1⟩
  · intro member isMember object points
    by_cases before : member ∈ process.set.members
    · have different := live object (tracked.live_of_pointer before points)
      dsimp only
      rw [others object different, Function.update_of_ne different,
        Function.update_of_ne different]
      exact tracked.pointed member before object points
    · obtain ⟨same, points', accepted, supported⟩ := fresh member isMember before
      rw [points, EpollPointer.state.injEq] at points'
      dsimp only
      rw [points', Function.update_self, Function.update_self, own.1]
      exact ⟨accepted, beq_false_of_ne supported, fun _ => congrArg some same.symm⟩
  · intro object isLive registered
    obtain ⟨accepted, supported, working⟩ := registered
    dsimp only at accepted supported working
    by_cases same : object = process.reactor.allocated
    · rw [same, Function.update_self] at accepted
      rw [same, own.1] at supported
      rw [same]
      exact present accepted (beq_eq_false_iff_ne.mp supported)
    · rw [Function.update_of_ne same] at accepted
      rw [others object same] at supported working
      obtain ⟨member, isMember, points⟩ := tracked.added object
        ((List.mem_cons.mp isLive).resolve_left same) ⟨accepted, supported, working⟩
      exact ⟨member, kept member isMember, points⟩
  · intro object isLive isShutdown
    dsimp only at isShutdown ⊢
    by_cases same : object = process.reactor.allocated
    · rw [same, own.2] at isShutdown
      contradiction
    · rw [others object same] at isShutdown
      rw [Function.update_of_ne same]
      exact tracked.dropped object ((List.mem_cons.mp isLive).resolve_left same) isShutdown

theorem Tracked.registerDescriptor (tracked : process.Tracked) {socket : Socket}
    (settled : socket ∉ process.reactor.closing) (descriptor : Nat) (exhausted : Option ℕ+) :
    (process.registerDescriptor socket descriptor exhausted).Tracked := by
  rcases process.registerDescriptor_set socket descriptor exhausted with
    ⟨set, added, result⟩ | ⟨reply, refusal, result⟩
  · rw [result]
    have valid := tracked.valid.ctlAdd added
    obtain ⟨_, ⟨⟩, -, -, -, rfl⟩ := EpollSet.ctlAdd_eq_ok_iff.mp added
    apply tracked.register settled .added valid tracked.epollOpen
    · exact fun member before => List.mem_cons_of_mem _ before
    · intro member isMember isNew
      rw [(List.mem_cons.mp isMember).resolve_right isNew]
      exact ⟨rfl, rfl, rfl, nofun⟩
    · exact fun _ _ => ⟨_, List.mem_cons_self, rfl⟩
  · rw [result]
    apply tracked.register settled reply tracked.valid tracked.epollOpen
    · exact fun member before => before
    · exact fun member before isNew => absurd before isNew
    · intro accepted supported
      cases reply with
      | added => exact absurd rfl refusal
      | notPermitted => exact absurd rfl supported
      | failed => contradiction

/-! ## `deregister_descriptor` and `cleanup_descriptor_data` -/

theorem Tracked.clearData (tracked : process.Tracked) {socket : Socket}
    (settled : socket ∉ process.reactor.closing) :
    ({ process with reactor := process.reactor.clearData socket } :
      EpollProcess Socket World Op).Tracked where
  sound := tracked.sound.clearData settled
  inUse := tracked.inUse.clearData socket
  valid := tracked.valid
  epollOpen := tracked.epollOpen
  internal := tracked.internal
  known := tracked.known
  pointed := tracked.pointed
  added object isLive registered := tracked.added object isLive
    ⟨registered.accepted, registered.supported, registered.working⟩
  dropped := tracked.dropped

omit [DecidableEq Socket] in
/-- What a working object is after `deregister_descriptor`. -/
theorem deregistered_objects (reactor : EpollReactor Socket World Op) (object other : Nat) :
    (((reactor.takeOps object .aborted).setShutdown object).objects other).registeredEvents =
        (reactor.objects other).registeredEvents ∧
      (((reactor.takeOps object .aborted).setShutdown object).objects other).shutdown =
        if other = object then true else (reactor.objects other).shutdown := by
  dsimp only [EpollReactor.takeOps, EpollReactor.setShutdown, EpollReactor.setObject]
  by_cases own : other = object
  · rw [own, Function.update_self, Function.update_self, if_pos rfl]
    exact ⟨rfl, rfl⟩
  · rw [Function.update_of_ne own, Function.update_of_ne own, if_neg own]
    exact ⟨rfl, rfl⟩

omit [DecidableEq Socket] in
/-- The object is shut down, and its descriptor is -1; the set is as it was. -/
theorem Tracked.shutDown (tracked : process.Tracked) {socket : Socket} {data : PerDescriptorData}
    (refers : process.reactor.descriptorData socket = some data)
    (working : (process.reactor.objects data.object).shutdown = false) :
    ({ process with
      reactor := { (process.reactor.takeOps data.object .aborted).setShutdown data.object with
        closing := socket :: process.reactor.closing }
      descriptor := Function.update process.descriptor data.object none } :
      EpollProcess Socket World Op).Tracked := by
  have objects := deregistered_objects process.reactor data.object
  constructor
  · exact tracked.sound.deregistered refers working
  · exact tracked.inUse
  · exact tracked.valid
  · exact tracked.epollOpen
  · exact tracked.internal
  · exact tracked.known
  · intro member isMember object points
    obtain ⟨accepted, supported, tracks⟩ := tracked.pointed member isMember object points
    refine ⟨accepted, ?_, fun isOpen => ?_⟩
    · exact (congrArg EpollEvents.isZero (objects object).1).trans supported
    · rw [(objects object).2] at isOpen
      by_cases own : object = data.object
      · rw [if_pos own] at isOpen
        contradiction
      · rw [if_neg own] at isOpen
        dsimp only
        rw [Function.update_of_ne own]
        exact tracks isOpen
  · intro object isLive registered
    obtain ⟨accepted, supported, isOpen⟩ := registered
    dsimp only at accepted supported isOpen
    rw [(objects object).1] at supported
    rw [(objects object).2] at isOpen
    by_cases own : object = data.object
    · rw [if_pos own] at isOpen
      contradiction
    · rw [if_neg own] at isOpen
      exact tracked.added object isLive ⟨accepted, supported, isOpen⟩
  · intro object isLive isShutdown
    dsimp only at isShutdown ⊢
    rw [(objects object).2] at isShutdown
    by_cases own : object = data.object
    · rw [own, Function.update_self]
    · rw [if_neg own] at isShutdown
      rw [Function.update_of_ne own]
      exact tracked.dropped object isLive isShutdown

theorem Tracked.deregisterDescriptor (tracked : process.Tracked) {socket : Socket}
    (settled : socket ∉ process.reactor.closing) {descriptor : Nat}
    (allowed : process.mayDeregister socket descriptor = true) (closing : Bool) :
    (process.deregisterDescriptor socket descriptor closing).Tracked := by
  rw [EpollProcess.deregisterDescriptor]
  cases refers : process.reactor.descriptorData socket with
  | none => exact tracked
  | some data =>
      dsimp only
      rw [mayDeregister, refers, Option.all_some, Bool.and_eq_true, Bool.not_eq_true'] at allowed
      obtain ⟨accepted, own⟩ := allowed
      rw [EpollReactor.deregisterDescriptor, refers]
      dsimp only
      cases working : (process.reactor.objects data.object).shutdown with
      | true =>
          rw [if_pos rfl]
          exact tracked.clearData settled
      | false =>
          rw [if_neg Bool.false_ne_true, if_neg Bool.false_ne_true]
          rw [working, Bool.false_or, beq_iff_eq] at own
          have shutDown := tracked.shutDown refers working
          split
          · exact shutDown
          · next deleted =>
            rw [Bool.or_eq_true, not_or, Bool.not_eq_true, Bool.not_eq_true] at deleted
            apply shutDown.ctlDel
            intro member isMember same
            -- The descriptor is the one that was registered for the object.
            obtain ⟨added, isAdded, points⟩ := tracked.added data.object
              (tracked.inUse socket data refers) ⟨accepted, deleted.2, working⟩
            have tracks := (tracked.pointed added isAdded data.object points).2.2 working
            rw [own, Option.some.injEq] at tracks
            have registered := tracked.valid.eq_of_descriptor isMember isAdded (same.trans tracks)
            refine ⟨data.object, registered ▸ points, ?_⟩
            exact EpollReactor.setShutdown_shutdown _ data.object

theorem Tracked.cleanupDescriptorData (tracked : process.Tracked) {socket : Socket}
    (isClosing : socket ∈ process.reactor.closing) (allowed : process.mayCleanup socket = true) :
    (process.cleanupDescriptorData socket).Tracked := by
  obtain ⟨data, refers, isLive, -⟩ := tracked.sound.pooled.closing socket isClosing
  rw [mayCleanup, refers, Option.all_some, List.all_eq_true] at allowed
  have distinct := (List.nodup_append.mp tracked.sound.pooled.distinct).1
  have live : (process.reactor.cleanupDescriptorData socket).live =
      process.reactor.live.erase data.object := by
    rw [EpollReactor.cleanupDescriptorData_eq refers]
    rfl
  have objects : (process.reactor.cleanupDescriptorData socket).objects =
      process.reactor.objects := by
    rw [EpollReactor.cleanupDescriptorData_eq refers]
    rfl
  have remains : ∀ object ∈ (process.reactor.cleanupDescriptorData socket).live,
      object ∈ process.reactor.live := by
    intro object isLive
    rw [live] at isLive
    exact List.mem_of_mem_erase isLive
  constructor
  · exact tracked.sound.cleanupDescriptorData isClosing
  · exact tracked.inUse.cleanupDescriptorData tracked.sound.pooled socket
  · exact tracked.valid
  · exact tracked.epollOpen
  · exact tracked.internal
  · intro member isMember
    rcases tracked.known member isMember with internal | ⟨object, isLive, points⟩
    · exact .inl internal
    · refine .inr ⟨object, ?_, points⟩
      change object ∈ (process.reactor.cleanupDescriptorData socket).live
      rw [live, distinct.mem_erase_iff]
      refine ⟨fun same => ?_, isLive⟩
      have other := allowed member isMember
      rw [points, same, bne_self_eq_false] at other
      contradiction
  · intro member isMember object points
    dsimp only [EpollProcess.cleanupDescriptorData]
    rw [objects]
    exact tracked.pointed member isMember object points
  · intro object isLive registered
    obtain ⟨accepted, supported, working⟩ := registered
    dsimp only [EpollProcess.cleanupDescriptorData] at supported working
    rw [objects] at supported working
    exact tracked.added object (remains object isLive) ⟨accepted, supported, working⟩
  · intro object isLive isShutdown
    dsimp only [EpollProcess.cleanupDescriptorData] at isShutdown
    rw [objects] at isShutdown
    exact tracked.dropped object (remains object isLive) isShutdown

/-- Every step keeps the set and the objects together. -/
theorem Tracked.step (tracked : process.Tracked) {action : EpollProcessAction Socket}
    (stepped : process.step action = some after) : after.Tracked := by
  cases action with
  | openFile descriptor kind =>
      rw [EpollProcess.step] at stepped
      split at stepped
      · next unused =>
        cases stepped
        exact tracked.openFile unused kind
      · contradiction
  | closeFile descriptor =>
      rw [EpollProcess.step] at stepped
      split at stepped
      · next allowed =>
        cases stepped
        exact tracked.closeFile allowed
      · contradiction
  | registerDescriptor socket descriptor exhausted =>
      rw [EpollProcess.step] at stepped
      split at stepped
      · contradiction
      · next settled =>
        cases stepped
        exact tracked.registerDescriptor settled descriptor exhausted
  | deregisterDescriptor socket descriptor closing =>
      rw [EpollProcess.step] at stepped
      split at stepped
      · next allowed =>
        cases stepped
        exact tracked.deregisterDescriptor allowed.1 allowed.2 closing
      · contradiction
  | cleanupDescriptorData socket =>
      rw [EpollProcess.step] at stepped
      split at stepped
      · next allowed =>
        cases stepped
        exact tracked.cleanupDescriptorData allowed.1 allowed.2
      · contradiction

theorem tracked_of_reachable (reachable : machine.Reachable process) : process.Tracked := by
  apply reachable.invariant
  · exact fun process constructed => tracked_constructed constructed
  · exact fun process action next _ tracked _ stepped => tracked.step stepped

end EpollProcess

end Asio.Reactor
