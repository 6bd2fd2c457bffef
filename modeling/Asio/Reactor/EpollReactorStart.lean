import Asio.Reactor.EpollReactorPerform

/-! # What `start_op` starts

An operation is handed on at once, or queued in the object of its descriptor behind what
is queued there. It is attempted only when nothing of its type is queued.
-/

namespace Asio.Reactor

namespace EpollReactor

variable {Socket World Op : Type*} {perform : Op → World → PerformStatus × World}
  {state after : EpollReactor Socket World Op}

/-- An object changes in what decides how it is served, not in what it holds. -/
theorem Sound.setObject (sound : state.Sound) {object : Nat} {value : PooledDescriptorState Op}
    (owner : value.owner = (state.objects object).owner)
    (shutdown : value.shutdown = (state.objects object).shutdown)
    (opQueue : value.opQueue = (state.objects object).opQueue) :
    (state.setObject object value).Sound where
  pooled := sound.pooled.of_same rfl rfl rfl rfl rfl rfl
    (project_update PooledDescriptorState.owner owner)
    (project_update PooledDescriptorState.shutdown shutdown)
  booked := sound.booked.of_same rfl rfl rfl rfl
    (project_update PooledDescriptorState.owner owner)
    (project_update PooledDescriptorState.shutdown shutdown)
    (project_update (fun value : PooledDescriptorState Op => value.opQueue) opQueue)
  logged := sound.logged.of_same rfl (Nat.le_refl _)
    (project_update (fun value : PooledDescriptorState Op => value.opQueue) opQueue)

/-- The next operation of `start_op`, of the owner of an object that is in use. -/
structure Requests (state : EpollReactor Socket World Op) (object : Nat) (op : StartedOp Op) :
    Prop where
  live : object ∈ state.live
  open_ : (state.objects object).shutdown = false
  registration : op.registration = some (state.objects object).owner
  sequence : op.sequence = state.started.length

theorem Booked.known_append (booked : state.Booked) {op : StartedOp Op}
    (known : ∀ registration, op.registration = some registration →
      registration < state.registrations) :
    ∀ other ∈ state.started ++ [op], ∀ registration, other.registration = some registration →
      registration < state.registrations := by
  intro other member
  rcases List.mem_append.mp member with before | same
  · exact booked.known other before
  · rw [List.mem_singleton.mp same]
    exact known

theorem Booked.numbered_append (booked : state.Booked) {op : StartedOp Op}
    (sequence : op.sequence = state.started.length) :
    (state.started ++ [op]).map (·.sequence) = List.range (state.started ++ [op]).length := by
  rw [List.map_append, booked.numbered, List.length_append, List.length_singleton,
    List.range_succ, List.map_singleton, sequence]

theorem filter_singleton_of (op : StartedOp Op) (registration : Option Nat)
    (opType : EpollOpType) : [op].filter (·.of registration opType) =
      if op.registration = registration ∧ op.opType = opType then [op] else [] := by
  simp only [List.filter_cons, List.filter_nil, of_iff]

theorem startedOf_append {op : StartedOp Op} (started : after.started = state.started ++ [op])
    (registration : Option Nat) (opType : EpollOpType) :
    after.startedOf registration opType = state.startedOf registration opType ++
      if op.registration = registration ∧ op.opType = opType then [op] else [] := by
  rw [startedOf, started, List.filter_append, filter_singleton_of, startedOf]

/-- An operation that is not queued is handed on at once, when none is queued before it. -/
theorem Sound.postImmediate (sound : state.Sound) {op : StartedOp Op} {reason : OpExit}
    (sequence : op.sequence = state.started.length)
    (known : ∀ registration, op.registration = some registration →
      registration < state.registrations)
    (first : ∀ object ∈ state.live, op.registration = some (state.objects object).owner →
      (state.objects object).opQueue op.opType = []) :
    (state.postImmediate op reason).Sound where
  pooled := sound.pooled.of_same rfl rfl rfl rfl rfl rfl (fun _ => rfl) fun _ => rfl
  booked := by
    have startedOf := startedOf_append (rfl : (state.postImmediate op reason).started = _)
    have handedOf : ∀ registration opType,
        (state.postImmediate op reason).handedOf registration opType =
          state.handedOf registration opType ++
            if op.registration = registration ∧ op.opType = opType then [op] else [] := by
      intro registration opType
      change ((state.handed ++ [(reason, op)]).map Prod.snd).filter _ = _
      rw [List.map_append, List.filter_append, List.map_singleton, filter_singleton_of,
        EpollReactor.handedOf]
    refine ⟨sound.booked.emptied, sound.booked.placed, ?_, ?_, sound.booked.known_append known,
      sound.booked.numbered_append sequence⟩
    · intro object isLive opType
      rw [startedOf, handedOf]
      change state.startedOf (some (state.objects object).owner) opType ++ _ =
        state.handedOf (some (state.objects object).owner) opType ++ _ ++
          (state.objects object).opQueue opType
      rw [sound.booked.conserved object isLive opType]
      by_cases own : op.registration = some (state.objects object).owner ∧ op.opType = opType
      · obtain ⟨registration, rfl⟩ := own
        rw [first object isLive registration, List.append_nil, List.append_nil]
      · change _ ++ (if op.registration = some (state.objects object).owner ∧ op.opType = opType
          then [op] else []) = _ ++ (if op.registration = some (state.objects object).owner ∧
            op.opType = opType then [op] else []) ++ _
        rw [if_neg own, List.append_nil, List.append_nil]
    · intro registration opType unowned
      rw [startedOf, handedOf, sound.booked.finished registration opType unowned]
  logged := by
    refine sound.logged.of_same rfl ?_ fun _ => rfl
    change state.started.length ≤ (state.started ++ [op]).length
    rw [List.length_append]
    exact Nat.le_add_right _ _

/-- An operation is queued behind what is queued for its owner. -/
theorem Sound.push (sound : state.Sound) {object : Nat} {op : StartedOp Op}
    (requests : state.Requests object op) : (state.push object op).Sound where
  pooled := sound.pooled.of_same rfl rfl rfl rfl rfl rfl
    (project_update PooledDescriptorState.owner rfl)
    (project_update PooledDescriptorState.shutdown rfl)
  booked := by
    have owner : ∀ other,
        ((state.push object op).objects other).owner = (state.objects other).owner :=
      project_update PooledDescriptorState.owner rfl
    have shutdown : ∀ other,
        ((state.push object op).objects other).shutdown = (state.objects other).shutdown :=
      project_update PooledDescriptorState.shutdown rfl
    have opQueue : ∀ other opType, ((state.push object op).objects other).opQueue opType =
        (state.objects other).opQueue opType ++
          if other = object ∧ opType = op.opType then [op] else [] := by
      intro other opType
      change (Function.update state.objects object _ other).opQueue opType = _
      by_cases own : other = object
      · subst own
        rw [Function.update_self]
        dsimp only
        by_cases kind : opType = op.opType
        · rw [kind, Function.update_self, if_pos ⟨rfl, rfl⟩]
        · rw [Function.update_of_ne kind, if_neg (fun both => kind both.2), List.append_nil]
      · rw [Function.update_of_ne own, if_neg (fun both => own both.1), List.append_nil]
    have startedOf := startedOf_append (rfl : (state.push object op).started = _)
    refine ⟨?_, ?_, ?_, ?_, ?_, sound.booked.numbered_append requests.sequence⟩
    · intro other unused opType
      rw [shutdown] at unused
      have different : ¬(other = object ∧ opType = op.opType) := by
        rintro ⟨rfl, -⟩
        rcases unused with isFree | isShutdown
        · exact isFree requests.live
        · rw [requests.open_] at isShutdown
          contradiction
      rw [opQueue, if_neg different, List.append_nil]
      exact sound.booked.emptied other unused opType
    · intro other opType queued member
      rw [owner]
      rw [opQueue] at member
      rcases List.mem_append.mp member with before | now
      · exact sound.booked.placed other opType queued before
      · split at now
        · next own =>
          obtain ⟨rfl, rfl⟩ := own
          rw [List.mem_singleton.mp now]
          exact ⟨requests.registration, rfl⟩
        · contradiction
    · intro other isLive opType
      rw [owner, startedOf, opQueue, ← List.append_assoc]
      change _ = state.handedOf (some (state.objects other).owner) opType ++ _ ++ _
      rw [sound.booked.conserved other isLive opType]
      congr 1
      have chosen : (op.registration = some (state.objects other).owner ∧ op.opType = opType) ↔
          (other = object ∧ opType = op.opType) := by
        constructor
        · rintro ⟨registration, kind⟩
          rw [requests.registration, Option.some.injEq] at registration
          exact ⟨(sound.pooled.owners object other (sound.pooled.lt_of_live requests.live)
            (sound.pooled.lt_of_live isLive) registration).symm, kind.symm⟩
        · rintro ⟨rfl, kind⟩
          exact ⟨requests.registration, kind.symm⟩
      simp only [chosen]
    · intro registration opType unowned
      have before : ∀ other ∈ state.live, registration ≠ some (state.objects other).owner := by
        intro other isLive
        rw [← owner]
        exact unowned other isLive
      have different : ¬(op.registration = registration ∧ op.opType = opType) := by
        rintro ⟨own, -⟩
        exact before object requests.live (own.symm.trans requests.registration)
      rw [startedOf, if_neg different, List.append_nil]
      exact sound.booked.finished registration opType before
    · apply sound.booked.known_append
      intro registration own
      rw [requests.registration, Option.some.injEq] at own
      rw [← own]
      exact sound.pooled.owned object (sound.pooled.lt_of_live requests.live)
  logged := by
    refine ⟨sound.logged.owned, sound.logged.exceptFirst, sound.logged.ordered, ?_, ?_⟩
    · intro attempt member other opType queued remains own same
      change queued ∈ (Function.update state.objects object _ other).opQueue opType at remains
      by_cases here : other = object
      · subst here
        rw [Function.update_self] at remains
        dsimp only at remains
        by_cases kind : opType = op.opType
        · subst kind
          rw [Function.update_self] at remains
          rcases List.mem_append.mp remains with before | now
          · exact sound.logged.behind attempt member other op.opType queued before own same
          · rw [List.mem_singleton.mp now, requests.sequence]
            exact sound.logged.bounded attempt member
        · rw [Function.update_of_ne kind] at remains
          exact sound.logged.behind attempt member other opType queued remains own same
      · rw [Function.update_of_ne here] at remains
        exact sound.logged.behind attempt member other opType queued remains own same
    · intro attempt member
      change attempt.sequence ≤ (state.started ++ [op]).length
      rw [List.length_append]
      exact Nat.le_trans (sound.logged.bounded attempt member) (Nat.le_add_right _ _)

/-- A speculative attempt is made when no operation of the type is queued. -/
theorem Sound.attempt (sound : state.Sound) {object : Nat} {op : StartedOp Op}
    (requests : state.Requests object op)
    (empty : (state.objects object).opQueue op.opType = []) :
    (state.attempt perform object op).2.Sound where
  pooled := sound.pooled.of_same rfl rfl rfl rfl rfl rfl (fun _ => rfl) fun _ => rfl
  booked := sound.booked.of_same rfl rfl rfl rfl (fun _ => rfl) (fun _ => rfl) fun _ => rfl
  logged := by
    refine sound.logged.add rfl rfl (fun _ _ _ member => member) ?_ (List.pairwise_singleton _ _)
      (List.pairwise_singleton _ _) ?_ ?_ ?_
    · intro other member
      rw [List.mem_singleton.mp member]
      exact requests.registration
    · intro attempt before other member _ _
      rw [List.mem_singleton.mp member, requests.sequence]
      exact sound.logged.bounded attempt before
    · intro attempt member other opType queued remains own same
      rw [List.mem_singleton.mp member] at own same
      change queued ∈ (state.objects other).opQueue opType at remains
      have placed := sound.booked.placed other opType queued remains
      rw [requests.registration, placed.1, Option.some.injEq] at own
      have here : object = other := sound.pooled.owners object other
        (sound.pooled.lt_of_live requests.live)
        (sound.pooled.lt_of_live (sound.booked.live_of_queued remains)) own
      rw [placed.2] at same
      rw [← here, ← same, empty] at remains
      contradiction
    · intro attempt member
      rw [List.mem_singleton.mp member]
      exact Nat.le_of_eq requests.sequence

theorem Requests.attempt {object : Nat} {op : StartedOp Op} (requests : state.Requests object op) :
    (state.attempt perform object op).2.Requests object op :=
  ⟨requests.live, requests.open_, requests.registration, requests.sequence⟩

/-- An operation of the owner of an object is completed at once when none of its type is
queued there. -/
theorem Sound.complete (sound : state.Sound) {object : Nat} {op : StartedOp Op} {reason : OpExit}
    (requests : state.Requests object op)
    (empty : (state.objects object).opQueue op.opType = []) :
    (state.postImmediate op reason).Sound := by
  apply sound.postImmediate requests.sequence
  · intro registration own
    rw [requests.registration, Option.some.injEq] at own
    rw [← own]
    exact sound.pooled.owned object (sound.pooled.lt_of_live requests.live)
  · intro other isLive own
    rw [requests.registration, Option.some.injEq] at own
    rw [← sound.pooled.owners object other (sound.pooled.lt_of_live requests.live)
      (sound.pooled.lt_of_live isLive) own]
    exact empty

theorem Sound.registerOut (sound : state.Sound) (object : Nat) :
    (state.registerOut object).Sound := sound.setObject rfl rfl rfl

theorem Requests.setObject {object : Nat} {op : StartedOp Op} {value : PooledDescriptorState Op}
    (requests : state.Requests object op) (owner : value.owner = (state.objects object).owner)
    (shutdown : value.shutdown = (state.objects object).shutdown) :
    (state.setObject object value).Requests object op where
  live := requests.live
  open_ := by
    change (Function.update state.objects object value object).shutdown = false
    rw [Function.update_self, shutdown]
    exact requests.open_
  registration := by
    change op.registration = some (Function.update state.objects object value object).owner
    rw [Function.update_self, owner]
    exact requests.registration
  sequence := requests.sequence

theorem Sound.startOpRegisters (sound : state.Sound) {object : Nat} {op : StartedOp Op}
    (requests : state.Requests object op)
    (empty : (state.objects object).opQueue op.opType = []) (modified : Bool) :
    (state.startOpRegisters object op modified).Sound := by
  rw [EpollReactor.startOpRegisters]
  split
  · exact sound.complete requests empty
  · split
    · cases modified with
      | true => exact (sound.registerOut object).push (requests.setObject rfl rfl)
      | false => exact sound.complete requests empty
    · exact sound.push requests

theorem Sound.startOpOn (sound : state.Sound) {object : Nat} {op : StartedOp Op}
    (requests : state.Requests object op) (allowSpeculative modified : Bool) :
    (state.startOpOn perform object op allowSpeculative modified).Sound := by
  rw [EpollReactor.startOpOn]
  split
  · next isEmpty =>
    have empty := List.isEmpty_iff.mp isEmpty
    split
    · split
      · have attempted : (state.attempt perform object op).2.Sound := sound.attempt requests empty
        have again : (state.attempt perform object op).2.Requests object op := requests.attempt
        have stillEmpty : ((state.attempt perform object op).2.objects object).opQueue op.opType =
          [] := empty
        generalize state.attempt perform object op = result at attempted again stillEmpty ⊢
        rcases result with ⟨_ | _ | _, next⟩
        · exact attempted.startOpRegisters again stillEmpty modified
        · exact attempted.complete again stillEmpty
        · dsimp only
          split
          · exact attempted.complete again stillEmpty
          · have cleared : (next.clearSpeculative object op.opType).Sound :=
              attempted.setObject rfl rfl rfl
            apply cleared.complete (again.setObject rfl rfl)
            change (Function.update next.objects object _ object).opQueue op.opType = []
            rw [Function.update_self]
            exact stillEmpty
      · exact sound.startOpRegisters requests empty modified
    · split
      · exact sound.complete requests empty
      · split
        · exact (sound.registerOut object).push (requests.setObject rfl rfl)
        · exact sound.push requests
  · exact sound.push requests

theorem Sound.startOp (sound : state.Sound) (socket : Socket) (opType : EpollOpType) (op : Op)
    (allowSpeculative modified : Bool) :
    (state.startOp perform socket opType op allowSpeculative modified).Sound := by
  rw [EpollReactor.startOp]
  cases refers : state.descriptorData socket with
  | none =>
      have registration : (state.request socket opType op).registration = none := by
        rw [request, refers, Option.map_none]
      apply sound.postImmediate rfl
      · rw [registration]
        nofun
      · rw [registration]
        nofun
  | some data =>
      obtain ⟨created, owner, inUse⟩ := sound.pooled.belongs socket data refers
      have registration : (state.request socket opType op).registration =
          some (state.objects data.object).owner := by
        rw [request, refers, owner, Option.map_some]
      dsimp only
      split
      · next isShutdown =>
        apply sound.postImmediate rfl
        · rw [registration]
          rintro _ ⟨⟩
          exact sound.pooled.owned data.object created
        · intro object isLive own
          rw [registration, Option.some.injEq] at own
          rw [← sound.pooled.owners _ _ created (sound.pooled.lt_of_live isLive) own]
          exact sound.booked.emptied data.object (.inr isShutdown) _
      · next isOpen =>
        exact sound.startOpOn ⟨inUse.resolve_right isOpen, Bool.not_eq_true _ |>.mp isOpen,
          registration, rfl⟩ allowSpeculative modified

end EpollReactor

end Asio.Reactor
