import Asio.Reactor.EpollReactorStart

/-! # Objects that change hands

Objects are emptied, shut down, freed and allocated again. An object is freed when it is
shut down, and nothing is queued in it. What allocates it must find that no socket still
refers to it: `register_descriptor` does not check this.
-/

namespace Asio.Reactor

namespace EpollReactor

variable {Socket World Op : Type*} {state : EpollReactor Socket World Op}

/-! ## Operations that are cancelled -/

theorem Sound.takeOps (sound : state.Sound) (object : Nat) (reason : OpExit) :
    (state.takeOps object reason).Sound where
  pooled := sound.pooled.of_same rfl rfl rfl rfl rfl rfl
    (project_update PooledDescriptorState.owner rfl)
    (project_update PooledDescriptorState.shutdown rfl)
  booked := by
    have complete : ∀ opType, opType ∈ [EpollOpType.read, .write, .except] := by
      intro opType
      cases opType <;> decide
    have queues : ∀ opType, (state.objects object).opQueue opType ++
        ({ state.objects object with opQueue := fun _ => [] } :
          PooledDescriptorState Op).opQueue opType = (state.objects object).opQueue opType :=
      fun _ => List.append_nil _
    refine sound.booked.leave sound.pooled complete (by decide) queues rfl rfl ?_ rfl rfl rfl rfl
      rfl
    rw [List.map_map]
    exact List.map_id _
  logged := by
    refine sound.logged.of_fewer rfl (Nat.le_refl _) ?_
    intro other opType op queued
    change op ∈ (Function.update state.objects object _ other).opQueue opType at queued
    by_cases own : other = object
    · rw [own, Function.update_self] at queued
      contradiction
    · rwa [Function.update_of_ne own] at queued

theorem takeOps_opQueue (state : EpollReactor Socket World Op) (object : Nat) (reason : OpExit)
    (opType : EpollOpType) :
    ((state.takeOps object reason).objects object).opQueue opType = [] := by
  change (Function.update state.objects object _ object).opQueue opType = []
  rw [Function.update_self]

theorem Sound.cancelOps (sound : state.Sound) (socket : Socket) :
    (state.cancelOps socket).Sound := by
  rw [EpollReactor.cancelOps]
  split
  · exact sound
  · exact sound.takeOps _ _

theorem setShutdown_shutdown (state : EpollReactor Socket World Op) (object : Nat) :
    ((state.setShutdown object).objects object).shutdown = true := by
  change (Function.update state.objects object _ object).shutdown = true
  rw [Function.update_self]

/-- An object without operations is shut down. -/
theorem Sound.setShutdown (sound : state.Sound) {object : Nat}
    (empty : ∀ opType, (state.objects object).opQueue opType = []) :
    (state.setShutdown object).Sound := by
  have shutdown : ∀ other, ((state.setShutdown object).objects other).shutdown = true ↔
      other = object ∨ (state.objects other).shutdown = true := by
    intro other
    change (Function.update state.objects object _ other).shutdown = true ↔ _
    by_cases own : other = object
    · rw [own, Function.update_self]
      exact iff_of_true rfl (.inl rfl)
    · rw [Function.update_of_ne own]
      exact (or_iff_right own).symm
  have owner : ∀ other,
      ((state.setShutdown object).objects other).owner = (state.objects other).owner :=
    project_update PooledDescriptorState.owner rfl
  have opQueue : ∀ other,
      ((state.setShutdown object).objects other).opQueue = (state.objects other).opQueue :=
    project_update (fun value : PooledDescriptorState Op => value.opQueue) rfl
  constructor
  · refine ⟨sound.pooled.distinct, sound.pooled.known, ?_, ?_, ?_, sound.pooled.separate, ?_⟩
    · intro other
      rw [owner]
      exact sound.pooled.owned other
    · intro first second
      rw [owner, owner]
      exact sound.pooled.owners first second
    · intro socket data refers
      obtain ⟨created, own, inUse⟩ := sound.pooled.belongs socket data refers
      rw [owner, shutdown]
      exact ⟨created, own, inUse.imp_right .inr⟩
    · intro socket member
      obtain ⟨data, refers, isLive, isShutdown⟩ := sound.pooled.closing socket member
      exact ⟨data, refers, isLive, (shutdown _).mpr (.inr isShutdown)⟩
  · refine ⟨?_, ?_, ?_, ?_, sound.booked.known, sound.booked.numbered⟩
    · intro other unused opType
      rw [opQueue]
      rcases unused with isFree | isShutdown
      · exact sound.booked.emptied other (.inl isFree) opType
      · rcases (shutdown other).mp isShutdown with rfl | before
        · exact empty opType
        · exact sound.booked.emptied other (.inr before) opType
    · intro other
      rw [owner, opQueue]
      exact sound.booked.placed other
    · intro other isLive
      rw [owner, opQueue]
      exact sound.booked.conserved other isLive
    · intro registration opType unowned
      apply sound.booked.finished registration opType
      intro other isLive
      rw [← owner]
      exact unowned other isLive
  · exact sound.logged.of_same rfl (Nat.le_refl _) opQueue

/-- An object that is shut down is freed, when no socket is about to free it. -/
theorem Sound.freeDescriptorState (sound : state.Sound) {object : Nat}
    (isLive : object ∈ state.live) (isShutdown : (state.objects object).shutdown = true)
    (settled : ∀ socket ∈ state.closing, ∀ data, state.descriptorData socket = some data →
      data.object ≠ object) :
    (state.freeDescriptorState object).Sound := by
  have permuted : List.Perm (state.live.erase object ++ object :: state.free)
      (state.live ++ state.free) := by
    apply List.perm_middle.trans
    rw [← List.cons_append]
    exact (List.perm_cons_erase isLive).symm.append_right state.free
  constructor
  · refine ⟨permuted.nodup_iff.mpr sound.pooled.distinct, fun other => ?_, sound.pooled.owned,
      sound.pooled.owners, ?_, sound.pooled.separate, ?_⟩
    · exact permuted.mem_iff.trans (sound.pooled.known other)
    · intro socket data refers
      obtain ⟨created, own, inUse⟩ := sound.pooled.belongs socket data refers
      refine ⟨created, own, ?_⟩
      by_cases same : data.object = object
      · exact .inr (same ▸ isShutdown)
      · exact inUse.imp_left (List.mem_erase_of_ne same).mpr
    · intro socket member
      obtain ⟨data, refers, inUse, wasShutdown⟩ := sound.pooled.closing socket member
      exact ⟨data, refers, (List.mem_erase_of_ne (settled socket member data refers)).mpr inUse,
        wasShutdown⟩
  · refine ⟨?_, sound.booked.placed, ?_, ?_, sound.booked.known, sound.booked.numbered⟩
    · intro other unused opType
      by_cases same : other = object
      · exact sound.booked.emptied other (.inr (same ▸ isShutdown)) opType
      · apply sound.booked.emptied other _ opType
        exact unused.imp_left fun isFree isUsed => isFree ((List.mem_erase_of_ne same).mpr isUsed)
    · intro other inUse
      exact sound.booked.conserved other (List.mem_of_mem_erase inUse)
    · intro registration opType unowned
      by_cases same : registration = some (state.objects object).owner
      · have before := sound.booked.conserved object isLive opType
        rw [sound.booked.emptied object (.inr isShutdown), List.append_nil] at before
        rw [same]
        exact before
      · apply sound.booked.finished registration opType
        intro other inUse
        by_cases own : other = object
        · rwa [own]
        · exact unowned other ((List.mem_erase_of_ne own).mpr inUse)
  · exact sound.logged.of_same rfl (Nat.le_refl _) fun _ => rfl

/-- One turn of the loop of `shutdown`. -/
theorem Sound.shutdownObject (sound : state.Sound) {object : Nat} (isLive : object ∈ state.live)
    (settled : state.closing = []) : (state.shutdownObject object).Sound := by
  have taken := sound.takeOps object .abandoned
  have closed := taken.setShutdown (takeOps_opQueue state object .abandoned)
  apply closed.freeDescriptorState isLive
  · exact setShutdown_shutdown _ object
  · intro socket member
    change socket ∈ state.closing at member
    rw [settled] at member
    contradiction

theorem Sound.shutdownAll (objects : List Nat) (nodup : objects.Nodup) (sound : state.Sound)
    (live : ∀ object ∈ objects, object ∈ state.live) (settled : state.closing = []) :
    (objects.foldl EpollReactor.shutdownObject state).Sound := by
  induction objects generalizing state with
  | nil => exact sound
  | cons object objects ih =>
      obtain ⟨fresh, nodup⟩ := List.nodup_cons.mp nodup
      rw [List.foldl_cons]
      apply ih nodup (sound.shutdownObject (live object List.mem_cons_self) settled) _ settled
      intro other member
      apply (List.mem_erase_of_ne _).mpr (live other (List.mem_cons_of_mem _ member))
      rintro rfl
      exact fresh member

theorem Sound.shutdown (sound : state.Sound) (settled : state.closing = []) :
    state.shutdown.Sound :=
  .shutdownAll state.live (List.nodup_append.mp sound.pooled.distinct).1 sound (fun _ => id) settled

/-! ## `register_descriptor` -/

theorem Pooled.allocated_not_live (pooled : state.Pooled) : state.allocated ∉ state.live := by
  intro isLive
  cases free : state.free with
  | nil =>
      have created := pooled.lt_of_live isLive
      rw [allocated, free] at created
      exact Nat.lt_irrefl _ created
  | cons object others =>
      have distinct := pooled.distinct
      rw [free, List.nodup_append] at distinct
      rw [allocated, free] at isLive
      exact distinct.2.2 object isLive object List.mem_cons_self rfl

/-- The pool after `alloc`. -/
theorem Pooled.allocate (pooled : state.Pooled) :
    (state.allocateDescriptorState.live ++ state.allocateDescriptorState.free).Nodup ∧
      (∀ object, object ∈ state.allocateDescriptorState.live ++
        state.allocateDescriptorState.free ↔ object < state.allocateDescriptorState.created) ∧
      ∀ object, object < state.allocateDescriptorState.created ↔
        object = state.allocated ∨ object < state.created := by
  rw [allocateDescriptorState, allocated]
  have distinct := pooled.distinct
  have known := pooled.known
  cases free : state.free with
  | nil =>
      rw [free] at distinct known
      have fresh : state.created ∉ state.live ++ [] := fun member =>
        Nat.lt_irrefl _ ((known _).mp member)
      refine ⟨List.nodup_cons.mpr ⟨fresh, distinct⟩, fun object => ?_, fun object => ?_⟩
      · change object ∈ state.created :: (state.live ++ []) ↔ object < state.created + 1
        rw [List.mem_cons, known, Nat.lt_succ_iff_lt_or_eq]
        exact or_comm
      · change object < state.created + 1 ↔ _
        rw [Nat.lt_succ_iff_lt_or_eq]
        exact or_comm
  | cons taken others =>
      rw [free] at distinct known
      have permuted : List.Perm (taken :: state.live ++ others) (state.live ++ taken :: others) :=
        List.perm_middle.symm
      refine ⟨permuted.nodup_iff.mpr distinct, fun object => ?_, fun object => ?_⟩
      · exact permuted.mem_iff.trans (known object)
      · change object < state.created ↔ object = taken ∨ object < state.created
        refine (or_iff_right_of_imp ?_).symm
        rintro rfl
        exact (known object).mp (List.mem_append_right _ List.mem_cons_self)

variable [DecidableEq Socket]

/-- The object that the next `register_descriptor` takes is one that no other socket
refers to. -/
def Unreferenced (state : EpollReactor Socket World Op) (socket : Socket) : Prop :=
  ∀ other, other ≠ socket →
    (state.descriptorData other).map (·.object) ≠ some state.allocated

omit [DecidableEq Socket] in
theorem Unreferenced.ne {socket other : Socket} {data : PerDescriptorData}
    (unreferenced : state.Unreferenced socket) (different : other ≠ socket)
    (refers : state.descriptorData other = some data) : data.object ≠ state.allocated := by
  intro same
  apply unreferenced other different
  rw [refers, Option.map_some, same]

/-! ### What the sockets refer to -/

section DescriptorData

variable {socket other : Socket} {data : PerDescriptorData}

theorem clearData_descriptorData_iff :
    (state.clearData socket).descriptorData other = some data ↔
      other ≠ socket ∧ state.descriptorData other = some data := by
  change Function.update state.descriptorData socket none other = some data ↔ _
  by_cases own : other = socket
  · rw [own, Function.update_self]
    exact iff_of_false nofun fun referred => referred.1 rfl
  · rw [Function.update_of_ne own, and_iff_right own]

theorem registerDescriptor_descriptorData_iff {reply : RegisterReply} :
    (state.registerDescriptor socket reply).descriptorData other = some data ↔
      other = socket ∧ data = ⟨state.allocated, state.registrations⟩ ∨
        other ≠ socket ∧ state.descriptorData other = some data := by
  change Function.update state.descriptorData socket _ other = some data ↔ _
  by_cases own : other = socket
  · rw [own, Function.update_self, Option.some.injEq]
    constructor
    · exact fun same => .inl ⟨rfl, same.symm⟩
    · rintro (⟨-, same⟩ | ⟨different, -⟩)
      · exact same.symm
      · exact absurd rfl different
  · rw [Function.update_of_ne own]
    constructor
    · exact fun refers => .inr ⟨own, refers⟩
    · rintro (⟨same, -⟩ | ⟨-, refers⟩)
      · exact absurd same own
      · exact refers

theorem moveDescriptor_descriptorData_iff {target source : Socket} :
    (state.moveDescriptor target source).descriptorData other = some data ↔
      other ≠ source ∧
        state.descriptorData (if other = target then source else other) = some data := by
  change Function.update (Function.update state.descriptorData target
    (state.descriptorData source)) source none other = some data ↔ _
  by_cases isSource : other = source
  · rw [isSource, Function.update_self]
    exact iff_of_false nofun fun referred => referred.1 rfl
  · rw [Function.update_of_ne isSource, and_iff_right isSource]
    by_cases isTarget : other = target
    · rw [isTarget, Function.update_self, if_pos rfl]
    · rw [Function.update_of_ne isTarget, if_neg isTarget]

theorem registerDescriptor_owner (state : EpollReactor Socket World Op) (socket : Socket)
    (reply : RegisterReply) :
    ((state.registerDescriptor socket reply).objects state.allocated).owner =
      state.registrations := by
  change PooledDescriptorState.owner
    (Function.update state.objects state.allocated _ state.allocated) = _
  rw [Function.update_self]

theorem registerDescriptor_objects_of_ne {object : Nat} (different : object ≠ state.allocated)
    (socket : Socket) (reply : RegisterReply) :
    (state.registerDescriptor socket reply).objects object = state.objects object :=
  Function.update_of_ne different _ _

end DescriptorData

theorem Pooled.registerDescriptor (pooled : state.Pooled) {socket : Socket}
    (settled : socket ∉ state.closing) (unreferenced : state.Unreferenced socket)
    (reply : RegisterReply) : (state.registerDescriptor socket reply).Pooled := by
  obtain ⟨distinct, known, created⟩ := pooled.allocate
  have taken := registerDescriptor_owner state socket reply
  have others : ∀ object, object ≠ state.allocated →
      (state.registerDescriptor socket reply).objects object = state.objects object :=
    fun object different => registerDescriptor_objects_of_ne different socket reply
  have before : ∀ object, object ≠ state.allocated →
      object < (state.registerDescriptor socket reply).created → object < state.created :=
    fun object different known => ((created object).mp known).resolve_left different
  refine ⟨distinct, known, ?_, ?_, ?_, ?_, ?_⟩
  · intro object inPool
    change _ < state.registrations + 1
    by_cases own : object = state.allocated
    · rw [own, taken]
      exact Nat.lt_succ_self _
    · rw [others object own]
      exact Nat.lt_succ_of_lt (pooled.owned object (before object own inPool))
  · intro first second isFirst isSecond same
    by_cases firstTaken : first = state.allocated
    · by_cases secondTaken : second = state.allocated
      · rw [firstTaken, secondTaken]
      · rw [firstTaken, taken, others second secondTaken] at same
        have older := pooled.owned second (before second secondTaken isSecond)
        rw [← same] at older
        exact absurd older (Nat.lt_irrefl _)
    · rw [others first firstTaken] at same
      by_cases secondTaken : second = state.allocated
      · rw [secondTaken, taken] at same
        have older := pooled.owned first (before first firstTaken isFirst)
        rw [same] at older
        exact absurd older (Nat.lt_irrefl _)
      · rw [others second secondTaken] at same
        exact pooled.owners first second (before first firstTaken isFirst)
          (before second secondTaken isSecond) same
  · intro other data referred
    rcases registerDescriptor_descriptorData_iff.mp referred with ⟨-, rfl⟩ | ⟨different, old⟩
    · exact ⟨(created _).mpr (.inl rfl), taken, .inl List.mem_cons_self⟩
    · obtain ⟨inPool, owner, inUse⟩ := pooled.belongs other data old
      rw [others data.object (unreferenced.ne different old)]
      exact ⟨(created _).mpr (.inr inPool), owner, inUse.imp_left (List.mem_cons_of_mem _)⟩
  · intro first second data others' isFirst isSecond same
    rcases registerDescriptor_descriptorData_iff.mp isFirst with
      ⟨rfl, rfl⟩ | ⟨firstOther, firstOld⟩
    · rcases registerDescriptor_descriptorData_iff.mp isSecond with
        ⟨rfl, -⟩ | ⟨secondOther, secondOld⟩
      · rfl
      · exact absurd same.symm (unreferenced.ne secondOther secondOld)
    · rcases registerDescriptor_descriptorData_iff.mp isSecond with ⟨rfl, rfl⟩ | ⟨-, secondOld⟩
      · exact absurd same (unreferenced.ne firstOther firstOld)
      · exact pooled.separate first second data others' firstOld secondOld same
  · intro other member
    have different : other ≠ socket := by
      rintro rfl
      exact settled member
    obtain ⟨data, old, isLive, isShutdown⟩ := pooled.closing other member
    refine ⟨data, registerDescriptor_descriptorData_iff.mpr (.inr ⟨different, old⟩),
      List.mem_cons_of_mem _ isLive, ?_⟩
    rw [others data.object (unreferenced.ne different old)]
    exact isShutdown

theorem Booked.registerDescriptor (booked : state.Booked) (pooled : state.Pooled) (socket : Socket)
    (reply : RegisterReply) : (state.registerDescriptor socket reply).Booked := by
  have isFree := pooled.allocated_not_live
  have taken := registerDescriptor_owner state socket reply
  have others : ∀ object, object ≠ state.allocated →
      (state.registerDescriptor socket reply).objects object = state.objects object :=
    fun object different => registerDescriptor_objects_of_ne different socket reply
  have opQueue : ∀ object, ((state.registerDescriptor socket reply).objects object).opQueue =
      (state.objects object).opQueue :=
    project_update (fun value : PooledDescriptorState Op => value.opQueue) rfl
  have empty := booked.emptied state.allocated (.inl isFree)
  have old : ∀ object ∈ state.live, object ≠ state.allocated := by
    rintro object isLive rfl
    exact isFree isLive
  refine ⟨?_, ?_, ?_, ?_, ?_, booked.numbered⟩
  · intro object unused opType
    rw [opQueue]
    by_cases own : object = state.allocated
    · rw [own]
      exact empty opType
    · rw [others object own] at unused
      apply booked.emptied object _ opType
      exact unused.imp_left fun outside isLive => outside (List.mem_cons_of_mem _ isLive)
  · intro object opType op queued
    rw [opQueue] at queued
    by_cases own : object = state.allocated
    · rw [own, empty opType] at queued
      contradiction
    · rw [others object own]
      exact booked.placed object opType op queued
  · intro object inUse opType
    rcases List.mem_cons.mp inUse with rfl | isLive
    · have unowned : ∀ object ∈ state.live,
          some state.registrations ≠ some (state.objects object).owner := by
        intro object isLive same
        have older := pooled.owned object (pooled.lt_of_live isLive)
        rw [← Option.some.inj same] at older
        exact Nat.lt_irrefl _ older
      rw [taken, opQueue, empty opType, List.append_nil]
      exact booked.finished (some state.registrations) opType unowned
    · rw [others object (old object isLive)]
      exact booked.conserved object isLive opType
  · intro registration opType unowned
    apply booked.finished registration opType
    intro object isLive
    have different := unowned object (List.mem_cons_of_mem _ isLive)
    rwa [others object (old object isLive)] at different
  · intro op member registration own
    exact Nat.lt_succ_of_lt (booked.known op member registration own)

theorem Sound.registerDescriptor (sound : state.Sound) {socket : Socket}
    (settled : socket ∉ state.closing) (unreferenced : state.Unreferenced socket)
    (reply : RegisterReply) : (state.registerDescriptor socket reply).Sound where
  pooled := sound.pooled.registerDescriptor settled unreferenced reply
  booked := sound.booked.registerDescriptor sound.pooled socket reply
  logged := sound.logged.of_same rfl (Nat.le_refl _)
    (project_update (fun value : PooledDescriptorState Op => value.opQueue) rfl)

/-! ## Sockets that no longer refer to their object -/

/-- A socket forgets its object, and is not about to free it. -/
theorem Sound.forget (sound : state.Sound) (socket : Socket) :
    ({ state.clearData socket with closing := state.closing.filter (· ≠ socket) } :
      EpollReactor Socket World Op).Sound where
  pooled := by
    refine ⟨sound.pooled.distinct, sound.pooled.known, sound.pooled.owned, sound.pooled.owners,
      ?_, ?_, ?_⟩
    · intro other data refers
      exact sound.pooled.belongs other data (clearData_descriptorData_iff.mp refers).2
    · intro first second data others isFirst isSecond
      exact sound.pooled.separate first second data others
        (clearData_descriptorData_iff.mp isFirst).2 (clearData_descriptorData_iff.mp isSecond).2
    · intro other member
      obtain ⟨member, own⟩ := List.mem_filter.mp member
      obtain ⟨data, refers, inUse⟩ := sound.pooled.closing other member
      exact ⟨data, clearData_descriptorData_iff.mpr ⟨of_decide_eq_true own, refers⟩, inUse⟩
  booked := sound.booked.of_same rfl rfl rfl rfl (fun _ => rfl) (fun _ => rfl) fun _ => rfl
  logged := sound.logged.of_same rfl (Nat.le_refl _) fun _ => rfl

theorem Sound.clearData (sound : state.Sound) {socket : Socket} (settled : socket ∉ state.closing) :
    (state.clearData socket).Sound := by
  have forgotten := sound.forget socket
  have same : state.closing.filter (· ≠ socket) = state.closing := by
    rw [List.filter_eq_self]
    intro other member
    rw [decide_eq_true_eq]
    rintro rfl
    exact settled member
  rw [same] at forgotten
  exact forgotten

theorem cleanupDescriptorData_eq {socket : Socket} {data : PerDescriptorData}
    (refers : state.descriptorData socket = some data) :
    state.cleanupDescriptorData socket =
      { (state.freeDescriptorState data.object).clearData socket with
        closing := state.closing.filter (· ≠ socket) } := by
  rw [cleanupDescriptorData, refers]

theorem Sound.cleanupDescriptorData (sound : state.Sound) {socket : Socket}
    (isClosing : socket ∈ state.closing) : (state.cleanupDescriptorData socket).Sound := by
  obtain ⟨data, refers, isLive, isShutdown⟩ := sound.pooled.closing socket isClosing
  rw [cleanupDescriptorData_eq refers]
  apply (sound.forget socket).freeDescriptorState isLive isShutdown
  intro other member others referred same
  obtain ⟨different, old⟩ := clearData_descriptorData_iff.mp referred
  exact different (sound.pooled.separate other socket others data old refers same)

omit [DecidableEq Socket] in
theorem Sound.deregistered (sound : state.Sound) {socket : Socket} {data : PerDescriptorData}
    (refers : state.descriptorData socket = some data)
    (isOpen : (state.objects data.object).shutdown = false) :
    ({ (state.takeOps data.object .aborted).setShutdown data.object with
      closing := socket :: state.closing } : EpollReactor Socket World Op).Sound := by
  have closed := (sound.takeOps data.object .aborted).setShutdown
    (takeOps_opQueue state data.object .aborted)
  obtain ⟨created, owner, inUse⟩ := sound.pooled.belongs socket data refers
  have isLive : data.object ∈ state.live := by
    apply inUse.resolve_right
    rw [isOpen]
    exact Bool.false_ne_true
  refine ⟨⟨closed.pooled.distinct, closed.pooled.known, closed.pooled.owned, closed.pooled.owners,
    closed.pooled.belongs, closed.pooled.separate, ?_⟩,
    closed.booked.of_same rfl rfl rfl rfl (fun _ => rfl) (fun _ => rfl) fun _ => rfl,
    closed.logged.of_same rfl (Nat.le_refl _) fun _ => rfl⟩
  intro other member
  rcases List.mem_cons.mp member with rfl | before
  · exact ⟨data, refers, isLive, setShutdown_shutdown _ data.object⟩
  · exact closed.pooled.closing other before

theorem Sound.deregisterDescriptor (sound : state.Sound) {socket : Socket}
    (settled : socket ∉ state.closing) : (state.deregisterDescriptor socket).Sound := by
  rw [EpollReactor.deregisterDescriptor]
  cases refers : state.descriptorData socket with
  | none => exact sound
  | some data =>
      dsimp only
      split
      · exact sound.clearData settled
      · next isOpen => exact sound.deregistered refers (Bool.not_eq_true _ |>.mp isOpen)

theorem Sound.moveDescriptor (sound : state.Sound) {target source : Socket}
    (targetSettled : target ∉ state.closing) (sourceSettled : source ∉ state.closing) :
    (state.moveDescriptor target source).Sound where
  pooled := by
    refine ⟨sound.pooled.distinct, sound.pooled.known, sound.pooled.owned, sound.pooled.owners,
      ?_, ?_, ?_⟩
    · intro socket data refers
      exact sound.pooled.belongs _ data (moveDescriptor_descriptorData_iff.mp refers).2
    · intro first second data others isFirst isSecond same
      obtain ⟨notSource, isFirst⟩ := moveDescriptor_descriptorData_iff.mp isFirst
      obtain ⟨notSource', isSecond⟩ := moveDescriptor_descriptorData_iff.mp isSecond
      have origin := sound.pooled.separate _ _ data others isFirst isSecond same
      by_cases firstTarget : first = target
      · by_cases secondTarget : second = target
        · rw [firstTarget, secondTarget]
        · rw [if_pos firstTarget, if_neg secondTarget] at origin
          exact absurd origin.symm notSource'
      · rw [if_neg firstTarget] at origin
        by_cases secondTarget : second = target
        · rw [if_pos secondTarget] at origin
          exact absurd origin notSource
        · rwa [if_neg secondTarget] at origin
    · intro socket member
      obtain ⟨data, refers, inUse⟩ := sound.pooled.closing socket member
      have notTarget : socket ≠ target := by
        rintro rfl
        exact targetSettled member
      have notSource : socket ≠ source := by
        rintro rfl
        exact sourceSettled member
      refine ⟨data, moveDescriptor_descriptorData_iff.mpr ⟨notSource, ?_⟩, inUse⟩
      rw [if_neg notTarget]
      exact refers
  booked := sound.booked.of_same rfl rfl rfl rfl (fun _ => rfl) (fun _ => rfl) fun _ => rfl
  logged := sound.logged.of_same rfl (Nat.le_refl _) fun _ => rfl

end EpollReactor

end Asio.Reactor
