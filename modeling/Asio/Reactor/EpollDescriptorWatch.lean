import Asio.Reactor.StreamSocket

/-! # Events on their way

An operation waits only while its direction is not ready, or an event for it is on
its way. `try_speculative_` predicts this: it is false only where the last attempt
left nothing to do. An attempt that is done with nothing left to transfer but a
direction that stays ready, as at the end of a stream, makes the prediction wrong.
-/

namespace Asio.Reactor

/-- `perform_io` has an event for the type and has not passed it. -/
def DescriptorHolder.passes {Op : Type*} (holder : DescriptorHolder Op) (opType : EpollOpType) :
    Bool :=
  match holder with
  | .performing events opTypes _ => events.covers opType && decide (opType ∈ opTypes)
  | _ => false

/-- `start_op` is about to push an operation of the type. -/
def DescriptorHolder.starts {Op : Type*} (holder : DescriptorHolder Op) (opType : EpollOpType) :
    Bool :=
  match holder with
  | .starting started _ => started == opType
  | _ => false

namespace EpollDescriptor

variable {Kernel Op : Type*}

/-- An event for the type is on its way. -/
def OnItsWay (state : EpollDescriptor Kernel Op) (opType : EpollOpType) : Prop :=
  state.pending.covers opType = true ∨ state.fetched.any (·.covers opType) = true ∨
    state.taskResult.any (·.covers opType) = true ∨
    state.dequeued.any (·.covers opType) = true ∨ state.holder.passes opType = true

instance (state : EpollDescriptor Kernel Op) (opType : EpollOpType) :
    Decidable (state.OnItsWay opType) :=
  inferInstanceAs (Decidable (_ ∨ _ ∨ _ ∨ _ ∨ _))

/-- Something of the type relies on an event. -/
def Waits (state : EpollDescriptor Kernel Op) (opType : EpollOpType) : Prop :=
  state.data.opQueue opType ≠ [] ∨ state.data.trySpeculative opType = false ∨
    state.holder.starts opType = true

/-- `start_op` makes a speculative attempt. -/
def attempts (state : EpollDescriptor Kernel Op) (opType : EpollOpType) (allowSpeculative : Bool) :
    Bool :=
  (state.data.opQueue opType).isEmpty &&
    (allowSpeculative && (opType != .read || (state.data.opQueue .except).isEmpty)) &&
    state.data.trySpeculative opType

variable (device : Device Kernel Op)

/-- An attempt that is done for now leaves a direction that is not ready. -/
def concludes (state : EpollDescriptor Kernel Op) (opType : EpollOpType) (op : Op) : Bool :=
  match device.perform op state.kernel with
  | (.done, _) => true
  | (_, next) => !(device.ready next).covers opType

/-- Every attempt that the step makes, and that is not done, or done and exhausted,
leaves a direction that is not ready. -/
def conclusive (state : EpollDescriptor Kernel Op) : DescriptorAction Kernel Op → Bool
  | .startOp opType op allowSpeculative =>
      !state.attempts opType allowSpeculative || state.concludes device opType op
  | .performIoContinues =>
      match state.holder with
      | .performing _ (opType :: _) true =>
          match state.data.opQueue opType with
          | op :: _ => state.concludes device opType op
          | [] => true
      | _ => true
  | _ => true

/-- The first operation of the queue would be done now, and no event is on its way. -/
def stuck (state : EpollDescriptor Kernel Op) (opType : EpollOpType) : Bool :=
  match state.data.opQueue opType with
  | [] => false
  | op :: _ =>
      (device.perform op state.kernel).1 != .notDone && !decide (state.OnItsWay opType)

/-- What is ready in a registered direction and relied on is on its way. -/
structure Attended (state : EpollDescriptor Kernel Op) : Prop where
  always : ∀ flag, flag ≠ .epollOut → state.data.registeredEvents flag = true
  registered : ∀ opType, state.data.opQueue opType ≠ [] →
    state.data.registeredEvents opType.flag = true
  onItsWay : ∀ opType, state.Waits opType → state.data.registeredEvents opType.flag = true →
    (device.ready state.kernel).covers opType = true → state.OnItsWay opType
  entered : ∀ events opType opTypes,
    state.holder = .performing events (opType :: opTypes) true →
    state.data.trySpeculative opType = true ∧ events.covers opType = true

variable {device} {state next : EpollDescriptor Kernel Op}

@[simp] theorem push_opQueue (opType : EpollOpType) (op : Op) :
    (state.push opType op).data.opQueue =
      Function.update state.data.opQueue opType (state.data.opQueue opType ++ [op]) := rfl

@[simp] theorem setOpQueue_opQueue (opType : EpollOpType) (ops : List Op) :
    (state.setOpQueue opType ops).data.opQueue =
      Function.update state.data.opQueue opType ops := rfl

@[simp] theorem setTrySpeculative_trySpeculative (opType : EpollOpType) (try_ : Bool) :
    (state.setTrySpeculative opType try_).data.trySpeculative =
      Function.update state.data.trySpeculative opType try_ := rfl

theorem covers_mono {events more : EpollEvents} {opType : EpollOpType}
    (fewer : ∀ flag, events flag = true → more flag = true)
    (covered : events.covers opType = true) : more.covers opType = true := by
  simp only [EpollEvents.covers, Bool.or_eq_true] at covered ⊢
  rcases covered with (own | failed) | hungUp
  · exact .inl (.inl (fewer _ own))
  · exact .inl (.inr (fewer _ failed))
  · exact .inr (fewer _ hungUp)

/-- The kernel reports what newly arises in a registered direction. -/
theorem Attended.kernelMoves (attended : state.Attended device) (next : Kernel)
    (input : EpollEvents) : (state.kernelMoves device next input).Attended device := by
  refine ⟨attended.always, attended.registered, fun opType waits isRegistered isReady => ?_,
    attended.entered⟩
  by_cases before : (device.ready state.kernel).covers opType = true
  · rcases attended.onItsWay opType waits isRegistered before with pending | elsewhere
    · left
      apply covers_mono _ pending
      intro flag isPending
      change (state.pending flag || _) = true
      rw [isPending, Bool.true_or]
    · exact .inr elsewhere
  · left
    have arises : ∀ flag, state.data.registeredEvents flag = true →
        device.ready state.kernel flag = false → device.ready next flag = true →
        (state.kernelMoves device next input).pending flag = true := by
      intro flag known unready ready
      change (state.pending flag || state.data.registeredEvents flag && device.ready next flag &&
        (!device.ready state.kernel flag || input flag)) = true
      simp [known, unready, ready]
    change (device.ready next).covers opType = true at isReady
    simp only [EpollEvents.covers, Bool.or_eq_true, not_or, Bool.not_eq_true] at before isReady ⊢
    rcases isReady with (own | failed) | hungUp
    · exact .inl (.inl (arises _ isRegistered before.1.1 own))
    · exact .inl (.inr (arises _ (attended.always .epollErr (by decide)) before.1.2 failed))
    · exact .inr (arises _ (attended.always .epollHup (by decide)) before.2 hungUp)

/-- After `EPOLL_CTL_MOD` all that is ready in a registered direction is on its way. -/
theorem onItsWay_epollCtlMod {events : EpollEvents}
    (always : ∀ flag, flag ≠ .epollOut → events flag = true) {opType : EpollOpType}
    (isRegistered : events opType.flag = true)
    (isReady : (device.ready state.kernel).covers opType = true) :
    (state.epollCtlMod device events).OnItsWay opType := by
  left
  have reported : ∀ flag, events flag = true → device.ready state.kernel flag = true →
      (state.epollCtlMod device events).pending flag = true := by
    intro flag known ready
    change (state.pending flag || events flag && device.ready state.kernel flag) = true
    rw [known, ready, Bool.true_and, Bool.or_true]
  simp only [EpollEvents.covers, Bool.or_eq_true] at isReady ⊢
  rcases isReady with (own | failed) | hungUp
  · exact .inl (.inl (reported _ isRegistered own))
  · exact .inl (.inr (reported _ (always .epollErr (by decide)) failed))
  · exact .inr (reported _ (always .epollHup (by decide)) hungUp)

theorem Attended.epollCtlMod (attended : state.Attended device) {events : EpollEvents}
    (more : ∀ flag, state.data.registeredEvents flag = true → events flag = true) :
    (state.epollCtlMod device events).Attended device where
  always flag other := more flag (attended.always flag other)
  registered opType some := more _ (attended.registered opType some)
  onItsWay _ _ isRegistered isReady :=
    onItsWay_epollCtlMod (fun flag other => more flag (attended.always flag other)) isRegistered
      isReady
  entered := attended.entered

theorem OnItsWay.setHolder {opType : EpollOpType} {holder : DescriptorHolder Op}
    (onItsWay : state.OnItsWay opType)
    (passes : state.holder.passes opType = true → holder.passes opType = true) :
    ({ state with holder } : EpollDescriptor Kernel Op).OnItsWay opType := by
  rcases onItsWay with pending | fetched | queued | dequeued | passed
  · exact .inl pending
  · exact .inr (.inl fetched)
  · exact .inr (.inr (.inl queued))
  · exact .inr (.inr (.inr (.inl dequeued)))
  · exact .inr (.inr (.inr (.inr (passes passed))))

/-- The mutex changes hands: nothing new relies on an event, and no event is passed
that something relies on. -/
theorem Attended.setHolder (attended : state.Attended device) {holder : DescriptorHolder Op}
    (starts : ∀ opType, holder.starts opType = true →
      (device.ready state.kernel).covers opType = true → state.Waits opType)
    (passes : ∀ opType, state.Waits opType →
      (device.ready state.kernel).covers opType = true →
      state.holder.passes opType = true → holder.passes opType = true)
    (entered : ∀ events opType opTypes, holder = .performing events (opType :: opTypes) true →
      state.data.trySpeculative opType = true ∧ events.covers opType = true) :
    ({ state with holder } : EpollDescriptor Kernel Op).Attended device := by
  refine ⟨attended.always, attended.registered, fun opType waits known isReady => ?_, entered⟩
  have before : state.Waits opType := by
    rcases waits with some | quiet | isStarted
    · exact .inl some
    · exact .inr (.inl quiet)
    · exact starts opType isStarted isReady
  exact (attended.onItsWay opType before known isReady).setHolder (passes opType before isReady)

/-- The end of `start_op` leaves an operation that waits for an event. -/
theorem Attended.push (attended : state.Attended device) {opType : EpollOpType} {op : Op}
    (idle : ∀ other, state.holder.passes other = false)
    (isRegistered : state.data.registeredEvents opType.flag = true)
    (served : (device.ready state.kernel).covers opType = true → state.OnItsWay opType) :
    (state.push opType op).Attended device := by
  have stays : ∀ other, state.OnItsWay other → (state.push opType op).OnItsWay other := by
    intro other onItsWay
    apply onItsWay.setHolder
    intro passes
    rw [idle other] at passes
    contradiction
  refine ⟨attended.always, fun other some => ?_, fun other waits known isReady => ?_, nofun⟩
  · by_cases own : other = opType
    · exact own ▸ isRegistered
    · apply attended.registered other
      rwa [push_opQueue, Function.update_of_ne own] at some
  · by_cases own : other = opType
    · subst own
      exact stays other (served isReady)
    · apply stays other
      apply attended.onItsWay other _ known isReady
      rcases waits with some | quiet | starts
      · left
        rwa [push_opQueue, Function.update_of_ne own] at some
      · exact .inr (.inl quiet)
      · contradiction

/-- `perform_io` passes a type that no longer relies on its event. -/
theorem Attended.pass (attended : state.Attended device) {events : EpollEvents}
    {opType : EpollOpType} {opTypes : List EpollOpType} {entered : Bool}
    (here : state.holder = .performing events (opType :: opTypes) entered)
    (served : state.Waits opType → (device.ready state.kernel).covers opType = true →
      events.covers opType = false) :
    ({ state with holder := .performing events opTypes false } :
      EpollDescriptor Kernel Op).Attended device := by
  refine attended.setHolder (fun _ => nofun) ?_ fun _ _ _ => nofun
  intro other waits isReady passes
  rw [here] at passes
  simp only [DescriptorHolder.passes, Bool.and_eq_true, decide_eq_true_eq, List.mem_cons] at passes
  obtain ⟨covered, own | later⟩ := passes
  · subst own
    rw [served waits isReady] at covered
    contradiction
  · simp only [DescriptorHolder.passes, covered, later, decide_true, Bool.and_self]

/-- A change of what relies on events, for a type that does not rely on them. -/
theorem Attended.setTrySpeculative (attended : state.Attended device) {opType : EpollOpType}
    {try_ : Bool} (served : try_ = false → (device.ready state.kernel).covers opType = false)
    (outside : ∀ events opTypes, state.holder ≠ .performing events (opType :: opTypes) true) :
    (state.setTrySpeculative opType try_).Attended device := by
  refine ⟨attended.always, attended.registered, fun other waits known isReady => ?_, ?_⟩
  · by_cases own : other = opType
    · subst own
      apply attended.onItsWay other _ known isReady
      rcases waits with some | quiet | starts
      · exact .inl some
      · rw [setTrySpeculative_trySpeculative, Function.update_self] at quiet
        change (device.ready state.kernel).covers other = true at isReady
        rw [served quiet] at isReady
        contradiction
      · exact .inr (.inr starts)
    · apply attended.onItsWay other _ known isReady
      rcases waits with some | quiet | starts
      · exact .inl some
      · right; left
        rwa [setTrySpeculative_trySpeculative, Function.update_of_ne own] at quiet
      · exact .inr (.inr starts)
  · intro events other opTypes here
    have different : other ≠ opType := by
      rintro rfl
      exact outside events opTypes here
    obtain ⟨tries, covered⟩ := attended.entered events other opTypes here
    refine ⟨?_, covered⟩
    rw [setTrySpeculative_trySpeculative, Function.update_of_ne different]
    exact tries

theorem Attended.setOpQueue (attended : state.Attended device) {opType : EpollOpType}
    {ops : List Op} (fewer : ops ≠ [] → state.data.opQueue opType ≠ []) :
    (state.setOpQueue opType ops).Attended device := by
  have before : ∀ other, (state.setOpQueue opType ops).data.opQueue other ≠ [] →
      state.data.opQueue other ≠ [] := by
    intro other some
    by_cases own : other = opType
    · subst own
      rw [setOpQueue_opQueue, Function.update_self] at some
      exact fewer some
    · rwa [setOpQueue_opQueue, Function.update_of_ne own] at some
  refine ⟨attended.always, fun other some => attended.registered other (before other some),
    fun other waits known isReady => attended.onItsWay other ?_ known isReady, attended.entered⟩
  rcases waits with some | rest
  · exact .inl (before other some)
  · exact .inr rest

/-- `perform_io` has an event for a type, and tries again. -/
theorem Attended.enter (attended : state.Attended device) {events : EpollEvents}
    {opType : EpollOpType} {opTypes : List EpollOpType}
    (here : state.holder = .performing events (opType :: opTypes) false)
    (covered : events.covers opType = true) :
    ({ state.setTrySpeculative opType true with
      holder := .performing events (opType :: opTypes) true } :
        EpollDescriptor Kernel Op).Attended device := by
  have tried : (state.setTrySpeculative opType true).Attended device := by
    apply attended.setTrySpeculative
    · nofun
    · rw [here]
      nofun
  refine tried.setHolder (fun _ => nofun) ?_ ?_
  · intro other _ _ passes
    change state.holder.passes other = true at passes
    rw [here] at passes
    exact passes
  · intro _ _ _ same
    cases same
    refine ⟨?_, covered⟩
    rw [setTrySpeculative_trySpeculative, Function.update_self]

theorem concludes_iff {opType : EpollOpType} {op : Op} :
    state.concludes device opType op = true ↔
      (device.perform op state.kernel).1 = .done ∨
        (device.ready (device.perform op state.kernel).2).covers opType = false := by
  rw [concludes]
  rcases device.perform op state.kernel with ⟨_ | _ | _, next⟩
  · simp
  · simp
  · simp

/-- An attempt that was not done, or done and exhausted, concluded that nothing is ready. -/
theorem unready_of_concludes {opType : EpollOpType} {op : Op} {status : PerformStatus}
    (concludes : state.concludes device opType op = true)
    (performed : state.perform device op = (status, next)) (paused : status ≠ .done) :
    (device.ready next.kernel).covers opType = false := by
  obtain ⟨rfl, rfl⟩ := Prod.mk.inj performed
  exact (concludes_iff.mp concludes).resolve_left paused

theorem Attended.perform (attended : state.Attended device) {op : Op} {status : PerformStatus}
    (performed : state.perform device op = (status, next)) :
    next.Attended device ∧ next.data = state.data ∧ next.holder = state.holder := by
  obtain ⟨rfl, rfl⟩ := Prod.mk.inj performed
  exact ⟨attended.kernelMoves _ _, rfl, rfl⟩

/-- An operation that is being started relies on its event. -/
theorem Attended.starting (attended : state.Attended device) {opType : EpollOpType} {op : Op}
    (isFree : state.holder = .free)
    (served : state.data.trySpeculative opType = false ∨
      (device.ready state.kernel).covers opType = false) :
    ({ state with holder := .starting opType op } : EpollDescriptor Kernel Op).Attended device := by
  refine attended.setHolder ?_ ?_ fun _ _ _ => nofun
  · intro other starts isReady
    have own : opType = other := eq_of_beq starts
    subst own
    rcases served with quiet | unready
    · exact .inr (.inl quiet)
    · rw [unready] at isReady
      contradiction
  · intro other _ _ passes
    rw [isFree] at passes
    contradiction

/-- `start_op` without a speculative attempt has the kernel look at what is ready. -/
theorem Attended.register (attended : state.Attended device) {opType : EpollOpType} {op : Op}
    (idle : ∀ other, state.holder.passes other = false) :
    ((state.epollCtlMod device (if opType = .write then withOut state.data.registeredEvents
      else state.data.registeredEvents)).push opType op).Attended device := by
  have more : ∀ flag, state.data.registeredEvents flag = true →
      (if opType = .write then withOut state.data.registeredEvents
        else state.data.registeredEvents) flag = true := by
    intro flag known
    split
    · unfold withOut
      by_cases own : flag = .epollOut
      · rw [own, Function.update_self]
      · rw [Function.update_of_ne own]
        exact known
    · exact known
  have known : (if opType = .write then withOut state.data.registeredEvents
      else state.data.registeredEvents) opType.flag = true := by
    cases opType with
    | read => exact attended.always .epollIn (by decide)
    | write => rfl
    | except => exact attended.always .epollPri (by decide)
  apply (attended.epollCtlMod more).push idle known
  intro isReady
  change (device.ready state.kernel).covers opType = true at isReady
  exact onItsWay_epollCtlMod (fun flag other => more flag (attended.always flag other)) known
    isReady

theorem Attended.startOp (attended : state.Attended device) {opType : EpollOpType} {op : Op}
    {allowSpeculative : Bool} (isFree : state.holder = .free)
    (conclusive : state.conclusive device (.startOp opType op allowSpeculative) = true) :
    (state.startOp device opType op allowSpeculative).Attended device := by
  have idle : ∀ other, state.holder.passes other = false := by
    rw [isFree]
    exact fun _ => rfl
  rw [EpollDescriptor.startOp]
  cases empty : (state.data.opQueue opType).isEmpty with
  | false =>
      rw [List.isEmpty_eq_false_iff] at empty
      simp only [Bool.false_eq_true, ↓reduceIte]
      have known := attended.registered opType empty
      exact attended.push idle known (attended.onItsWay opType (.inl empty) known)
  | true =>
      simp only [↓reduceIte]
      cases allowed : allowSpeculative &&
          (opType != .read || (state.data.opQueue .except).isEmpty) with
      | true =>
          simp only [↓reduceIte]
          cases tries : state.data.trySpeculative opType with
          | true =>
              simp only [EpollDescriptor.conclusive, attempts, empty, allowed, tries,
                Bool.and_self, Bool.not_true, Bool.false_or] at conclusive
              simp only [↓reduceIte]
              cases performed : state.perform device op with
              | mk status next =>
                  obtain ⟨after, data, holder⟩ := attended.perform performed
                  have nextFree := holder.trans isFree
                  cases status with
                  | notDone =>
                      exact after.starting nextFree
                        (.inr (unready_of_concludes conclusive performed nofun))
                  | done => exact after
                  | doneAndExhausted =>
                      apply after.setTrySpeculative
                      · exact fun _ => unready_of_concludes conclusive performed nofun
                      · rw [nextFree]
                        nofun
          | false =>
              simp only [Bool.false_eq_true, ↓reduceIte]
              exact attended.starting isFree (.inl tries)
      | false =>
          simp only [Bool.false_eq_true, ↓reduceIte]
          exact attended.register idle

theorem Attended.startOpContinues (attended : state.Attended device) {opType : EpollOpType}
    {op : Op} (here : state.holder = .starting opType op) :
    (state.startOpContinues device opType op).Attended device := by
  have idle : ∀ other, state.holder.passes other = false := by
    rw [here]
    exact fun _ => rfl
  rw [EpollDescriptor.startOpContinues]
  split
  · next unregistered =>
    obtain ⟨rfl, -⟩ := unregistered
    exact (attended.register idle : ((state.epollCtlMod device _).push .write op).Attended device)
  · next registered =>
    have known : state.data.registeredEvents opType.flag = true := by
      by_cases isWrite : opType = .write
      · subst isWrite
        exact Bool.not_eq_false _ |>.mp fun unregistered => registered ⟨rfl, unregistered⟩
      · apply attended.always
        cases opType with
        | read => nofun
        | write => exact absurd rfl isWrite
        | except => nofun
    apply attended.push idle known
    apply attended.onItsWay opType _ known
    right; right
    rw [here]
    exact beq_self_eq_true opType

theorem Attended.performIoContinues (attended : state.Attended device) {events : EpollEvents}
    {opTypes : List EpollOpType} {entered : Bool}
    (here : state.holder = .performing events opTypes entered)
    (conclusive : state.conclusive device .performIoContinues = true) :
    (state.performIoContinues device events opTypes entered).Attended device := by
  cases opTypes with
  | nil =>
      refine attended.setHolder (fun _ => nofun) ?_ fun _ _ _ => nofun
      intro other _ _ passes
      rw [here] at passes
      simp [DescriptorHolder.passes] at passes
  | cons opType opTypes =>
      cases entered with
      | false =>
          rw [EpollDescriptor.performIoContinues]
          cases covered : events.covers opType with
          | true => exact attended.enter here covered
          | false => exact attended.pass here fun _ _ => covered
      | true =>
          obtain ⟨tries, covered⟩ := attended.entered events opType opTypes here
          rw [EpollDescriptor.performIoContinues]
          cases queued : state.data.opQueue opType with
          | nil =>
              apply attended.pass here
              rintro (some | quiet | starts) -
              · exact absurd queued some
              · rw [tries] at quiet
                contradiction
              · rw [here] at starts
                contradiction
          | cons op rest =>
              simp only [EpollDescriptor.conclusive, here, queued] at conclusive
              dsimp only
              cases performed : state.perform device op with
              | mk status next =>
                  obtain ⟨after, data, holder⟩ := attended.perform performed
                  have nextHere := holder.trans here
                  have shorter : (next.setOpQueue opType rest).Attended device := by
                    apply after.setOpQueue
                    rw [data, queued]
                    exact fun _ => List.cons_ne_nil op rest
                  cases status with
                  | notDone =>
                      have unready := unready_of_concludes conclusive performed nofun
                      apply after.pass nextHere
                      intro _ isReady
                      rw [unready] at isReady
                      contradiction
                  | done => exact shorter
                  | doneAndExhausted =>
                      have unready := unready_of_concludes conclusive performed nofun
                      have passed := shorter.pass nextHere fun _ isReady => by
                        change (device.ready next.kernel).covers opType = true at isReady
                        rw [unready] at isReady
                        contradiction
                      apply passed.setTrySpeculative
                      · exact fun _ => unready
                      · nofun

/-- What relies on events was already relied on, and every event is still on its way. -/
theorem Attended.of_data (attended : state.Attended device) {after : EpollDescriptor Kernel Op}
    (kernel : after.kernel = state.kernel) (data : after.data = state.data)
    (starts : ∀ opType, after.holder.starts opType = true → state.holder.starts opType = true)
    (stays : ∀ opType, state.OnItsWay opType → after.OnItsWay opType)
    (entered : ∀ events opType opTypes,
      after.holder = .performing events (opType :: opTypes) true →
      state.data.trySpeculative opType = true ∧ events.covers opType = true) :
    after.Attended device := by
  refine ⟨?_, ?_, fun opType waits known isReady => ?_, ?_⟩
  · rw [data]
    exact attended.always
  · rw [data]
    exact attended.registered
  · rw [data] at known
    rw [kernel] at isReady
    apply stays
    apply attended.onItsWay opType _ known isReady
    rcases waits with some | quiet | isStarted
    · rw [data] at some
      exact .inl some
    · rw [data] at quiet
      exact .inr (.inl quiet)
    · exact .inr (.inr (starts opType isStarted))
  · rw [data]
    exact entered

/-- `cancel_ops` leaves nothing queued. -/
theorem Attended.cancelOps (attended : state.Attended device) :
    ({ state with data := { state.data with opQueue := fun _ => [] } } :
      EpollDescriptor Kernel Op).Attended device := by
  refine ⟨attended.always, fun _ some => absurd rfl some, fun opType waits => ?_,
    attended.entered⟩
  apply attended.onItsWay opType
  rcases waits with some | rest
  · exact absurd rfl some
  · exact .inr rest

/-- `epoll_wait` hands pending events out. -/
theorem Attended.epollWait (attended : state.Attended device) (idle : state.fetched = none) :
    ({ state with fetched := some state.pending, pending := fun _ => false } :
      EpollDescriptor Kernel Op).Attended device := by
  refine attended.of_data rfl rfl (fun _ => id) ?_ attended.entered
  rintro opType (pending | fetched | elsewhere)
  · exact .inr (.inl pending)
  · rw [idle] at fetched
    contradiction
  · exact .inr (.inr elsewhere)

/-- `run` adds the events it was handed to those of the queued `descriptor_state`. -/
theorem Attended.dispatch (attended : state.Attended device) {events : EpollEvents}
    (handed : state.fetched = some events) :
    ({ state with
      fetched := none
      taskResult := match state.taskResult with
        | none => some events
        | some queued => some fun flag => queued flag || events flag } :
      EpollDescriptor Kernel Op).Attended device := by
  refine attended.of_data rfl rfl (fun _ => id) ?_ attended.entered
  rintro opType (pending | fetched | queued | elsewhere)
  · exact .inl pending
  · rw [handed] at fetched
    right; right; left
    cases before : state.taskResult with
    | none => exact fetched
    | some recorded =>
        change EpollEvents.covers (fun flag => recorded flag || events flag) opType = true
        apply covers_mono _ fetched
        intro flag isSet
        simp only [isSet, Bool.or_true]
  · right; right; left
    cases before : state.taskResult with
    | none =>
        rw [before] at queued
        contradiction
    | some recorded =>
        rw [before] at queued
        change EpollEvents.covers (fun flag => recorded flag || events flag) opType = true
        apply covers_mono _ queued
        intro flag isSet
        simp only [isSet, Bool.true_or]
  · exact .inr (.inr (.inr elsewhere))

/-- A thread takes the `descriptor_state` off the queue. -/
theorem Attended.dequeue (attended : state.Attended device) {events : EpollEvents}
    (queued : state.taskResult = some events) :
    ({ state with taskResult := none, dequeued := events :: state.dequeued } :
      EpollDescriptor Kernel Op).Attended device := by
  refine attended.of_data rfl rfl (fun _ => id) ?_ attended.entered
  rintro opType (pending | fetched | isQueued | dequeued | passes)
  · exact .inl pending
  · exact .inr (.inl fetched)
  · rw [queued] at isQueued
    right; right; right; left
    rw [List.any_cons, Bool.or_eq_true]
    exact .inl isQueued
  · right; right; right; left
    rw [List.any_cons, Bool.or_eq_true]
    exact .inr dequeued
  · exact .inr (.inr (.inr (.inr passes)))

/-- A thread locks the mutex in `perform_io` with the events it dequeued. -/
theorem Attended.performIo (attended : state.Attended device) {thread : Nat} {events : EpollEvents}
    (isFree : state.holder = .free) (taken : state.dequeued[thread]? = some events) :
    ({ state with
      dequeued := state.dequeued.eraseIdx thread
      holder := .performing events [.except, .write, .read] false } :
      EpollDescriptor Kernel Op).Attended device := by
  refine attended.of_data rfl rfl (fun _ => nofun) ?_ fun _ _ _ => nofun
  rintro opType (pending | fetched | queued | dequeued | passes)
  · exact .inl pending
  · exact .inr (.inl fetched)
  · exact .inr (.inr (.inl queued))
  · right; right; right
    rw [List.any_eq_true] at dequeued ⊢
    obtain ⟨others, member, covered⟩ := dequeued
    obtain ⟨index, found⟩ := List.mem_iff_getElem?.mp member
    by_cases own : index = thread
    · right
      rw [own, taken, Option.some.injEq] at found
      subst found
      cases opType <;> simp [DescriptorHolder.passes, covered]
    · left
      refine ⟨others, ?_, covered⟩
      rw [List.mem_eraseIdx_iff_getElem?]
      exact ⟨index, own, found⟩
  · rw [isFree] at passes
    contradiction

/-- Every step whose attempts conclude keeps what is relied on attended. -/
theorem Attended.step (attended : state.Attended device) {action : DescriptorAction Kernel Op}
    (conclusive : state.conclusive device action = true)
    (stepped : EpollDescriptor.step device state action = some next) : next.Attended device := by
  cases action with
  | kernelMoves kernel input =>
      cases stepped
      exact attended.kernelMoves kernel input
  | startOp opType op allowSpeculative =>
      rw [EpollDescriptor.step] at stepped
      split at stepped
      · next isFree =>
        cases stepped
        exact attended.startOp isFree conclusive
      · contradiction
  | startOpContinues =>
      rw [EpollDescriptor.step] at stepped
      split at stepped
      · next here =>
        cases stepped
        exact attended.startOpContinues here
      · contradiction
  | cancelOps =>
      rw [EpollDescriptor.step] at stepped
      split at stepped
      · cases stepped
        exact attended.cancelOps
      · contradiction
  | epollWait =>
      rw [EpollDescriptor.step] at stepped
      split at stepped
      · next idle =>
        cases stepped
        exact attended.epollWait idle
      · contradiction
  | dispatch =>
      rw [EpollDescriptor.step] at stepped
      split at stepped
      · contradiction
      · next handed =>
        cases stepped
        exact attended.dispatch handed
  | dequeue =>
      rw [EpollDescriptor.step] at stepped
      split at stepped
      · contradiction
      · next queued =>
        cases stepped
        exact attended.dequeue queued
  | performIo thread =>
      rw [EpollDescriptor.step] at stepped
      split at stepped
      · next isFree taken =>
        cases stepped
        exact attended.performIo isFree taken
      · contradiction
  | performIoContinues =>
      rw [EpollDescriptor.step] at stepped
      split at stepped
      · next here =>
        cases stepped
        exact attended.performIoContinues here conclusive
      · contradiction

/-- A newly registered descriptor: nothing waits. -/
theorem attended_registered (kernel : Kernel) :
    (registered device kernel : EpollDescriptor Kernel Op).Attended device := by
  refine ⟨fun flag other => bne_iff_ne.mpr other, fun _ some => absurd rfl some, ?_,
    fun _ _ _ => nofun⟩
  rintro opType (some | quiet | starts)
  · exact absurd rfl some
  · contradiction
  · contradiction

theorem attended_of_reachable
    (reachable : (machine device).ReachableWhen
      (fun state action => state.conclusive device action = true) state) :
    state.Attended device := by
  apply reachable.invariant
  · rintro state ⟨kernel, rfl⟩
    exact attended_registered kernel
  · intro state action next _ attended conclusive stepped
    exact attended.step conclusive stepped

/-- Two receives of eight bytes, of which the peer sends six in two pieces, the second
while `perform_io` has returned from the first receive. -/
def someActions : List (DescriptorAction StreamSocket StreamOp) :=
  [.startOp .read (.recv 8) true, .startOpContinues, .startOp .read (.recv 8) true,
    .startOp .write (.send 5) true, .kernelMoves ⟨4, false, 0⟩ (· == .epollIn), .epollWait,
    .dispatch, .dequeue, .performIo 0, .performIoContinues, .performIoContinues,
    .performIoContinues, .performIoContinues, .kernelMoves ⟨2, false, 0⟩ (· == .epollIn)]

/-- A receive concludes that its direction is not ready, unless it meets the end of the
stream. -/
theorem concludes_recv_iff (state : EpollDescriptor StreamSocket StreamOp) (size : ℕ+) :
    state.concludes StreamSocket.device .read (.recv size) = true ↔
      ¬(state.kernel.incoming = 0 ∧ state.kernel.ended = true) := by
  rw [concludes_iff, StreamSocket.device_perform_recv, StreamSocket.recv]
  by_cases empty : state.kernel.incoming = 0
  · cases ended : state.kernel.ended <;>
      simp [EpollEvents.covers, EpollOpType.flag, StreamSocket.device, StreamSocket.ready, empty,
        ended]
  · simp [empty]

/-- A send takes all the room there is, or is done. -/
theorem concludes_send (state : EpollDescriptor StreamSocket StreamOp) (size : ℕ+) :
    state.concludes StreamSocket.device .write (.send size) = true := by
  rw [concludes_iff, StreamSocket.device_perform_send, StreamSocket.send]
  by_cases full : state.kernel.room = 0
  · simp [EpollEvents.covers, EpollOpType.flag, StreamSocket.device, StreamSocket.ready, full]
  · by_cases partly : state.kernel.room < size <;>
      simp [EpollEvents.covers, EpollOpType.flag, StreamSocket.device, StreamSocket.ready, full,
        partly]

end EpollDescriptor

end Asio.Reactor
