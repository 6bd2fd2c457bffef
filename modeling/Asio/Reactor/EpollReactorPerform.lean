import Asio.Reactor.EpollReactorSound

/-! # What `perform_io` performs

Each queue is performed from its front: what completed leaves, and at most one operation
that was attempted stays, at the front.
-/

namespace Asio.Reactor

variable {Socket World Op : Type*} (perform : Op → World → PerformStatus × World)

/-- The attempts on a queue, of which some completed, and what remains of it. -/
structure Served (queue attempts completed rest : List (StartedOp Op)) : Prop where
  split : completed ++ rest = queue
  attempted : attempts = completed ∨
    ∃ op others, rest = op :: others ∧ attempts = completed ++ [op]

theorem Served.nothing (queue : List (StartedOp Op)) : Served queue [] [] queue where
  split := rfl
  attempted := .inl rfl

theorem Served.isPrefix {queue attempts completed rest : List (StartedOp Op)}
    (served : Served queue attempts completed rest) : attempts <+: queue := by
  rw [← served.split]
  rcases served.attempted with rfl | ⟨op, others, rfl, rfl⟩
  · exact List.prefix_append _ _
  · rw [List.append_cons completed op others]
    exact List.prefix_append _ _

/-- What was attempted is not behind what remains. -/
theorem Served.behind {queue attempts completed rest : List (StartedOp Op)}
    (served : Served queue attempts completed rest)
    (ascending : queue.Pairwise fun earlier later => earlier.sequence < later.sequence)
    {attempt op : StartedOp Op} (attempted : attempt ∈ attempts) (remains : op ∈ rest) :
    attempt.sequence ≤ op.sequence := by
  rw [← served.split, List.pairwise_append] at ascending
  obtain ⟨-, ordered, before⟩ := ascending
  rcases served.attempted with rfl | ⟨first, others, rfl, rfl⟩
  · exact Nat.le_of_lt (before attempt attempted op remains)
  · rcases List.mem_append.mp attempted with completes | isFirst
    · exact Nat.le_of_lt (before attempt completes op remains)
    · rw [List.mem_singleton] at isFirst
      subst isFirst
      rcases List.mem_cons.mp remains with rfl | later
      · exact Nat.le_refl _
      · exact Nat.le_of_lt (List.rel_of_pairwise_cons ordered later)

theorem performQueue_served (queue : List (StartedOp Op)) (world : World) :
    Served queue (performQueue perform queue world).attempts
      (performQueue perform queue world).completed (performQueue perform queue world).queue := by
  induction queue generalizing world with
  | nil => exact .nothing []
  | cons op queue ih =>
      rw [performQueue]
      rcases perform op.op world with ⟨_ | _ | _, next⟩
      · exact ⟨rfl, .inr ⟨op, queue, rfl, rfl⟩⟩
      · obtain ⟨split, attempted⟩ := ih next
        refine ⟨congrArg (op :: ·) split, ?_⟩
        rcases attempted with same | ⟨first, others, remains, same⟩
        · exact .inl (congrArg (op :: ·) same)
        · exact .inr ⟨first, others, remains, congrArg (op :: ·) same⟩
      · exact ⟨rfl, .inl rfl⟩

/-- The loops of `perform_io` serve each queue once, in the order of the types. -/
theorem performTypes_served (events : EpollEvents) (opTypes : List EpollOpType)
    (nodup : opTypes.Nodup) (object : PooledDescriptorState Op) (world : World) :
    ∃ completed attempted : EpollOpType → List (StartedOp Op),
      (performTypes perform events opTypes object world).completed = opTypes.flatMap completed ∧
      (performTypes perform events opTypes object world).attempts = opTypes.flatMap attempted ∧
      (∀ opType ∈ opTypes, Served (object.opQueue opType) (attempted opType) (completed opType)
        ((performTypes perform events opTypes object world).object.opQueue opType)) ∧
      (∀ opType, opType ∉ opTypes →
        (performTypes perform events opTypes object world).object.opQueue opType =
          object.opQueue opType) ∧
      (performTypes perform events opTypes object world).object.owner = object.owner ∧
      (performTypes perform events opTypes object world).object.shutdown = object.shutdown := by
  induction opTypes generalizing object world with
  | nil => exact ⟨fun _ => [], fun _ => [], rfl, rfl, nofun, fun _ _ => rfl, rfl, rfl⟩
  | cons opType opTypes ih =>
      obtain ⟨fresh, nodup⟩ := List.nodup_cons.mp nodup
      have same : ∀ (ops : EpollOpType → List (StartedOp Op)) (own : List (StartedOp Op)),
          opTypes.flatMap (Function.update ops opType own) = opTypes.flatMap ops := by
        intro ops own
        apply List.flatMap_congr
        intro other member
        rw [Function.update_of_ne]
        rintro rfl
        exact fresh member
      rw [performTypes]
      split
      · have served := performQueue_served perform (object.opQueue opType) world
        generalize performQueue perform (object.opQueue opType) world = performed at served ⊢
        obtain ⟨completed, attempted, completes, attempts, serves, keeps, owner, shutdown⟩ :=
          ih nodup { object with
            opQueue := Function.update object.opQueue opType performed.queue
            trySpeculative :=
              Function.update object.trySpeculative opType !performed.exhausted }
            performed.world
        refine ⟨Function.update completed opType performed.completed,
          Function.update attempted opType performed.attempts, ?_, ?_, ?_, ?_, owner, shutdown⟩
        · rw [List.flatMap_cons, Function.update_self, same]
          exact congrArg (performed.completed ++ ·) completes
        · rw [List.flatMap_cons, Function.update_self, same]
          exact congrArg (performed.attempts ++ ·) attempts
        · intro other member
          by_cases own : other = opType
          · subst own
            have kept := keeps other fresh
            dsimp only at kept
            rw [Function.update_self] at kept
            rw [Function.update_self, Function.update_self]
            exact kept.symm ▸ served
          · have later := serves other ((List.mem_cons.mp member).resolve_left own)
            dsimp only at later
            rw [Function.update_of_ne own] at later
            rw [Function.update_of_ne own, Function.update_of_ne own]
            exact later
        · intro other outside
          rw [List.mem_cons, not_or] at outside
          have kept := keeps other outside.2
          dsimp only at kept
          rw [Function.update_of_ne outside.1] at kept
          exact kept
      · obtain ⟨completed, attempted, completes, attempts, serves, keeps, owner, shutdown⟩ :=
          ih nodup object world
        refine ⟨Function.update completed opType [], Function.update attempted opType [], ?_, ?_,
          ?_, ?_, owner, shutdown⟩
        · rw [List.flatMap_cons, Function.update_self, same, List.nil_append]
          exact completes
        · rw [List.flatMap_cons, Function.update_self, same, List.nil_append]
          exact attempts
        · intro other member
          by_cases own : other = opType
          · subst own
            rw [Function.update_self, Function.update_self, keeps other fresh]
            exact .nothing _
          · rw [Function.update_of_ne own, Function.update_of_ne own]
            exact serves other ((List.mem_cons.mp member).resolve_left own)
        · intro other outside
          rw [List.mem_cons, not_or] at outside
          exact keeps other outside.2

theorem performExits_ops (ops : List (StartedOp Op)) : (performExits ops).map Prod.snd = ops := by
  cases ops with
  | nil => rfl
  | cons first others =>
      rw [performExits, List.map_cons, List.map_map]
      exact congrArg (first :: ·) (List.map_id others)

namespace EpollReactor

variable {perform} {state after : EpollReactor Socket World Op}

theorem Pooled.lt_of_live (pooled : state.Pooled) {object : Nat} (isLive : object ∈ state.live) :
    object < state.created :=
  (pooled.known object).mp (List.mem_append_left _ isLive)

/-- An object with a queued operation is in use. -/
theorem Booked.live_of_queued (booked : state.Booked) {object : Nat} {opType : EpollOpType}
    {op : StartedOp Op} (queued : op ∈ (state.objects object).opQueue opType) :
    object ∈ state.live := by
  by_contra isFree
  rw [booked.emptied object (.inl isFree) opType] at queued
  exact List.not_mem_nil queued

/-- A call of `perform` is added to the log, and operations may leave their queues. -/
theorem Logged.add (logged : state.Logged) {call : PerformCall Op}
    (calls : after.calls = state.calls ++ [call]) (started : after.started = state.started)
    (fewer : ∀ object opType, ∀ op ∈ (after.objects object).opQueue opType,
      op ∈ (state.objects object).opQueue opType)
    (owned : ∀ op ∈ call.attempts, op.registration = some call.owner)
    (exceptFirst : call.attempts.Pairwise fun earlier later =>
      later.opType = .except → earlier.opType = .except)
    (ordered : call.attempts.Pairwise fun earlier later =>
      earlier.opType = later.opType → earlier.sequence ≤ later.sequence)
    (later : ∀ attempt ∈ state.attempts, ∀ op ∈ call.attempts,
      attempt.registration = op.registration → attempt.opType = op.opType →
        attempt.sequence ≤ op.sequence)
    (behind : ∀ attempt ∈ call.attempts, ∀ object opType,
      ∀ op ∈ (after.objects object).opQueue opType, attempt.registration = op.registration →
        attempt.opType = op.opType → attempt.sequence ≤ op.sequence)
    (bounded : ∀ attempt ∈ call.attempts, attempt.sequence ≤ state.started.length) :
    after.Logged := by
  have attempts : after.attempts = state.attempts ++ call.attempts := by
    unfold EpollReactor.attempts
    rw [calls, List.flatMap_append, List.flatMap_singleton]
  refine ⟨?_, ?_, ?_, ?_, ?_⟩
  · rw [calls]
    intro other member
    rcases List.mem_append.mp member with before | same
    · exact logged.owned other before
    · rw [List.mem_singleton.mp same]
      exact owned
  · rw [calls]
    intro other member
    rcases List.mem_append.mp member with before | same
    · exact logged.exceptFirst other before
    · rw [List.mem_singleton.mp same]
      exact exceptFirst
  · rw [attempts, List.pairwise_append]
    exact ⟨logged.ordered, ordered.imp (fun inOrder _ same => inOrder same), later⟩
  · rw [attempts]
    intro attempt member object opType op queued
    rcases List.mem_append.mp member with before | now
    · exact logged.behind attempt before object opType op (fewer object opType op queued)
    · exact behind attempt now object opType op queued
  · rw [attempts, started]
    intro attempt member
    rcases List.mem_append.mp member with before | now
    · exact logged.bounded attempt before
    · exact bounded attempt now

theorem Sound.performIo (sound : state.Sound) {object : Nat} (created : object < state.created)
    (events : EpollEvents) : (state.performIo perform object events).Sound := by
  obtain ⟨completed, attempted, completes, attempts, serves, -, owner, shutdown⟩ :=
    performTypes_served perform events [.except, .write, .read] (by decide)
      (state.objects object) state.world
  have complete : ∀ opType, opType ∈ [EpollOpType.except, .write, .read] := by
    intro opType
    cases opType <;> decide
  have served := fun opType => serves opType (complete opType)
  have queued : ∀ opType, ∀ op ∈ attempted opType,
      op ∈ (state.objects object).opQueue opType :=
    fun opType _ member => (served opType).isPrefix.subset member
  have kind : ∀ opType, ∀ op ∈ attempted opType, op.opType = opType :=
    fun opType op member => (sound.booked.placed object opType op (queued opType op member)).2
  constructor
  · refine sound.pooled.of_same rfl rfl rfl rfl rfl rfl ?_ ?_
    · exact project_update PooledDescriptorState.owner owner
    · exact project_update PooledDescriptorState.shutdown shutdown
  · refine sound.booked.leave sound.pooled complete (by decide)
      (fun opType => (served opType).split) owner shutdown ?_ rfl rfl rfl rfl rfl
    rw [performExits_ops, completes]
  · have each : ∀ op ∈ (performTypes perform events [.except, .write, .read]
        (state.objects object) state.world).attempts, op ∈ attempted op.opType := by
      rw [attempts]
      intro op member
      obtain ⟨opType, -, member⟩ := List.mem_flatMap.mp member
      rwa [kind opType op member]
    have fewer : ∀ opType, ∀ op ∈ (performTypes perform events [.except, .write, .read]
        (state.objects object) state.world).object.opQueue opType,
        op ∈ (state.objects object).opQueue opType := by
      intro opType op member
      rw [← (served opType).split]
      exact List.mem_append_right _ member
    refine sound.logged.add rfl rfl ?_ ?_ ?_ ?_ ?_ ?_ ?_
    · intro other opType op member
      change op ∈ (Function.update state.objects object _ other).opQueue opType at member
      by_cases own : other = object
      · subst own
        rw [Function.update_self] at member
        exact fewer opType op member
      · rwa [Function.update_of_ne own] at member
    · intro op member
      exact (sound.booked.placed object _ op (queued _ op (each op member))).1
    · dsimp only
      rw [attempts, List.pairwise_flatMap]
      have inOrder : [EpollOpType.except, .write, .read].Pairwise fun earlier later =>
          later = .except → earlier = .except := by decide
      refine ⟨fun opType _ => ?_, inOrder.imp ?_⟩
      · apply List.pairwise_of_forall_mem_list
        intro earlier isEarlier later isLater isExcept
        rw [kind opType earlier isEarlier, ← kind opType later isLater, isExcept]
      · intro first second ordered earlier isEarlier later isLater isExcept
        rw [kind second later isLater] at isExcept
        rw [kind first earlier isEarlier, ordered isExcept]
    · dsimp only
      rw [attempts, List.pairwise_flatMap]
      have distinct : [EpollOpType.except, .write, .read].Pairwise (· ≠ ·) := by decide
      refine ⟨fun opType _ => ?_, distinct.imp ?_⟩
      · have ascending := (sound.booked.ascending object opType).sublist
          (served opType).isPrefix.sublist
        apply ascending.imp
        intro earlier later before _
        exact Nat.le_of_lt before
      · intro first second different earlier isEarlier later isLater same
        rw [kind first earlier isEarlier, kind second later isLater] at same
        exact absurd same different
    · intro attempt before op member own same
      exact sound.logged.behind attempt before object _ op (queued _ op (each op member)) own same
    · intro attempt member other opType op remains own same
      change op ∈ (Function.update state.objects object _ other).opQueue opType at remains
      have isQueued := queued _ attempt (each attempt member)
      by_cases here : other = object
      · subst here
        rw [Function.update_self] at remains
        have placed := sound.booked.placed other opType op (fewer opType op remains)
        rw [placed.2] at same
        have attempting := each attempt member
        rw [same] at attempting
        exact (served opType).behind (sound.booked.ascending other opType) attempting remains
      · rw [Function.update_of_ne here] at remains
        rw [(sound.booked.placed object _ attempt isQueued).1,
          (sound.booked.placed other opType op remains).1, Option.some.injEq] at own
        have others := sound.pooled.lt_of_live (sound.booked.live_of_queued remains)
        exact absurd (sound.pooled.owners object other created others own).symm here
    · intro attempt member
      exact Nat.le_of_lt (sound.booked.queued_lt (queued _ attempt (each attempt member)))

end EpollReactor

end Asio.Reactor
