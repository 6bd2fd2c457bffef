import Asio.Lib.RefCount
import Asio.Lib.Transition

/-! # The polymorphic executor

An `executor` points to an implementation, which all its copies share: the implementation counts
them in `ref_count_` and is deallocated by the last. The system executor has one implementation
that is not counted. An assignment destroys what the target points to before it clones or takes
what the other object points to, and threads that work on different objects may come in between.
-/

namespace Asio.Core

/-- The pointer `impl_`: null, the global implementation for the system executor, or one on the
heap. -/
inductive ImplPointer where
  | null
  | system
  | heap (address : Nat)
  deriving DecidableEq, Repr

/-- An `executor`; while an assignment has destroyed what `impl_` points to and not written it
yet, the pointer is stale. -/
structure Executor where
  impl : ImplPointer
  stale : Bool
  deriving DecidableEq, Repr

/-- An `executor::impl`: `ref_count_`, and `executor_` with its type. -/
structure Impl (Target : Type*) where
  refCount : Nat
  target : Target

/-- The `executor` objects, the implementations that are not deallocated, how many there have been,
and whether a deallocated one was used. -/
structure Executors (Object Target : Type*) where
  objects : Object → Option Executor
  impls : Nat → Option (Impl Target)
  created : Nat
  corrupted : Bool

/-- The members of `executor`; an assignment begins with `destroy` and ends with the rest. -/
inductive ExecutorCall (Object Target : Type*) where
  | constructNull (object : Object)
  | constructSystem (object : Object)
  | construct (object : Object) (target : Target)
  | copyConstruct (object other : Object)
  | moveConstruct (object other : Object)
  | beginAssign (object : Object)
  | copyAssign (object other : Object)
  | moveAssign (object other : Object)
  | nullAssign (object : Object)
  | destruct (object : Object)
  | useImpl (object : Object)
  deriving DecidableEq, Repr

namespace Executors

variable {Object Target : Type*} (state : Executors Object Target)

/-- No objects. -/
def new : Executors Object Target where
  objects _ := none
  impls _ := none
  created := 0
  corrupted := false

/-- An object between two calls. -/
def steady [DecidableEq Object] (state : Executors Object Target) (object : Object)
    (impl : ImplPointer) : Executors Object Target :=
  { state with objects := Function.update state.objects object (some ⟨impl, false⟩) }

/-- `impl_base::clone` of what is pointed to. -/
def clone : ImplPointer → Executors Object Target
  | .null => state
  | .system => state
  | .heap address => match state.impls address with
      | some impl => { state with
          impls := Function.update state.impls address
            (some { impl with refCount := impl.refCount + 1 }) }
      | none => { state with corrupted := true }

/-- `impl_base::destroy` of what is pointed to. -/
def destroy : ImplPointer → Executors Object Target
  | .null => state
  | .system => state
  | .heap address => match state.impls address with
      | some impl => { state with
          impls := Function.update state.impls address
            (if impl.refCount - 1 = 0 then none
            else some { impl with refCount := impl.refCount - 1 }) }
      | none => { state with corrupted := true }

/-- `get_impl()->…`, which throws `bad_executor` when there is none. -/
def touch : ImplPointer → Executors Object Target
  | .null => state
  | .system => state
  | .heap address => match state.impls address with
      | some _ => state
      | none => { state with corrupted := true }

/-- The end of a copy or a move assignment reads another object that is not being written, or
the one that is assigned to. -/
def readable [DecidableEq Object] (object other : Object) : Option ImplPointer :=
  match state.objects other with
  | some ⟨impl, stale⟩ => if stale = false ∨ other = object then some impl else none
  | none => none

/-- One step. -/
def step [DecidableEq Object] (state : Executors Object Target) :
    ExecutorCall Object Target → Option (Executors Object Target)
  | .constructNull object => match state.objects object with
      | none => some (state.steady object .null)
      | some _ => none
  | .constructSystem object => match state.objects object with
      | none => some (state.steady object .system)
      | some _ => none
  | .construct object target => match state.objects object with
      | none => some { state.steady object (.heap state.created) with
          impls := Function.update state.impls state.created (some ⟨1, target⟩)
          created := state.created + 1 }
      | some _ => none
  | .copyConstruct object other => match state.objects object, state.objects other with
      | none, some ⟨impl, false⟩ => some ((state.clone impl).steady object impl)
      | _, _ => none
  | .moveConstruct object other => match state.objects object, state.objects other with
      | none, some ⟨impl, false⟩ => some ((state.steady object impl).steady other .null)
      | _, _ => none
  | .beginAssign object => match state.objects object with
      | some ⟨impl, false⟩ =>
          let state := state.destroy impl
          some { state with
            objects := Function.update state.objects object (some ⟨impl, true⟩) }
      | _ => none
  | .copyAssign object other => match state.objects object, state.readable object other with
      | some ⟨_, true⟩, some impl => some ((state.clone impl).steady object impl)
      | _, _ => none
  | .moveAssign object other => match state.objects object, state.readable object other with
      | some ⟨_, true⟩, some impl => some ((state.steady object impl).steady other .null)
      | _, _ => none
  | .nullAssign object => match state.objects object with
      | some ⟨_, true⟩ => some (state.steady object .null)
      | _ => none
  | .destruct object => match state.objects object with
      | some ⟨impl, false⟩ =>
          let state := state.destroy impl
          some { state with objects := Function.update state.objects object none }
      | _ => none
  | .useImpl object => match state.objects object with
      | some ⟨impl, false⟩ => some (state.touch impl)
      | _ => none

end Executors

/-- The machine. -/
def executors {Object Target : Type*} [DecidableEq Object] :
    Transition.Machine (Executors Object Target) (ExecutorCall Object Target) where
  initial state := state = .new
  step := Executors.step

namespace Executors

variable {Object Target : Type*} {state next : Executors Object Target}

/-- The address of a counted implementation. -/
def address? : ImplPointer → Option Nat
  | .heap address => some address
  | _ => none

/-- The implementation that an executor refers to. -/
def referred : Option Executor → Option Nat
  | some ⟨impl, false⟩ => address? impl
  | _ => none

/-- What every object refers to. -/
def refers (state : Executors Object Target) (object : Object) : Option Nat :=
  referred (state.objects object)

/-- The `ref_count_` of an implementation, zero when it is deallocated. -/
def refCount (state : Executors Object Target) (address : Nat) : Nat :=
  match state.impls address with
  | some impl => impl.refCount
  | none => 0

/-- No deallocated implementation was used, every `ref_count_` is the number of objects that
refer to the implementation, and it lives while there are any. -/
structure Intact (state : Executors Object Target) : Prop where
  uncorrupted : state.corrupted = false
  exact : RefCount.Exact state.refers state.refCount
  lives : ∀ address, (state.impls address).isSome = true ↔
    ∃ object, state.refers object = some address

/-- Implementations are numbered in the order of their construction, and counted. -/
structure Counted (state : Executors Object Target) : Prop where
  fresh : ∀ address, state.created ≤ address → state.impls address = none
  positive : ∀ address impl, state.impls address = some impl → 0 < impl.refCount
  exact : RefCount.Exact state.refers state.refCount

theorem Counted.refCount_pos_iff (counted : state.Counted) (address : Nat) :
    0 < state.refCount address ↔ (state.impls address).isSome = true := by
  rw [refCount]
  cases found : state.impls address with
  | none => simp
  | some impl => simp [counted.positive address impl found]

theorem Counted.lives (counted : state.Counted) (address : Nat) :
    (state.impls address).isSome = true ↔ ∃ object, state.refers object = some address := by
  rw [← counted.exact.pos_iff, counted.refCount_pos_iff]

theorem Counted.intact (counted : state.Counted) (uncorrupted : state.corrupted = false) :
    state.Intact :=
  ⟨uncorrupted, counted.exact, counted.lives⟩

theorem counted_new : (new : Executors Object Target).Counted where
  fresh _ _ := rfl
  positive _ _ found := by cases found
  exact := RefCount.exact_none

/-! ## Pointers -/

/-- What a pointer points to has not been deallocated. -/
def Alive (state : Executors Object Target) (impl : ImplPointer) : Prop :=
  ∀ address, address? impl = some address → (state.impls address).isSome = true

/-- An object keeps what it refers to alive. -/
theorem Counted.alive (counted : state.Counted) {object : Object} {impl : ImplPointer}
    (found : state.objects object = some ⟨impl, false⟩) : state.Alive impl := by
  intro address points
  rw [counted.lives]
  refine ⟨object, ?_⟩
  rw [refers, found]
  exact points

/-- What `clone`, `destroy` and `touch` do to the implementations. -/
structure Adjusts (state next : Executors Object Target) : Prop where
  objects : next.objects = state.objects
  created : next.created = state.created
  corrupted : next.corrupted = state.corrupted
  fresh : ∀ address, state.created ≤ address → next.impls address = none
  positive : ∀ address impl, next.impls address = some impl → 0 < impl.refCount

theorem Counted.adjusts (counted : state.Counted) : Adjusts state state :=
  ⟨rfl, rfl, rfl, counted.fresh, counted.positive⟩

/-- The address of a live implementation. -/
theorem Counted.lt_created (counted : state.Counted) {address : Nat} {impl : Impl Target}
    (found : state.impls address = some impl) : address < state.created := by
  by_contra later
  rw [counted.fresh address (Nat.not_lt.mp later)] at found
  cases found

/-- An implementation is written. -/
theorem Counted.write (counted : state.Counted) {address : Nat} (before : address < state.created)
    (value : Option (Impl Target)) (positive : ∀ impl, value = some impl → 0 < impl.refCount) :
    Adjusts state { state with impls := Function.update state.impls address value } where
  objects := rfl
  created := rfl
  corrupted := rfl
  fresh other later := by
    have different : other ≠ address := by omega
    dsimp only
    rw [Function.update_of_ne different]
    exact counted.fresh other later
  positive other impl written := by
    dsimp only at written
    by_cases own : other = address
    · subst own
      rw [Function.update_self] at written
      exact positive impl written
    · rw [Function.update_of_ne own] at written
      exact counted.positive other impl written

theorem refCount_write (state : Executors Object Target) (address : Nat)
    (value : Option (Impl Target)) (other : Nat) :
    refCount { state with impls := Function.update state.impls address value } other =
      if other = address then (value.map Impl.refCount).getD 0 else state.refCount other := by
  by_cases own : other = address
  · subst own
    cases value <;> simp [refCount]
  · simp [refCount, own]

theorem Counted.clone (counted : state.Counted) {impl : ImplPointer} (alive : state.Alive impl) :
    Adjusts state (state.clone impl) ∧ ∀ address, (state.clone impl).refCount address =
      state.refCount address + if address? impl = some address then 1 else 0 := by
  cases impl with
  | null => exact ⟨counted.adjusts, fun _ => rfl⟩
  | system => exact ⟨counted.adjusts, fun _ => rfl⟩
  | heap address =>
      obtain ⟨impl, found⟩ := Option.isSome_iff_exists.mp (alive address rfl)
      simp only [Executors.clone, found]
      refine ⟨counted.write (counted.lt_created found) _ ?_, fun other => ?_⟩
      · intro written same
        rw [Option.some.injEq] at same
        rw [← same]
        exact Nat.succ_pos _
      · rw [refCount_write]
        by_cases own : other = address
        · subst own
          simp [refCount, address?, found]
        · simp [address?, own, Ne.symm own]

theorem Counted.destroy (counted : state.Counted) {impl : ImplPointer} (alive : state.Alive impl) :
    Adjusts state (state.destroy impl) ∧ ∀ address, (state.destroy impl).refCount address +
      (if address? impl = some address then 1 else 0) = state.refCount address := by
  cases impl with
  | null => exact ⟨counted.adjusts, fun _ => rfl⟩
  | system => exact ⟨counted.adjusts, fun _ => rfl⟩
  | heap address =>
      obtain ⟨impl, found⟩ := Option.isSome_iff_exists.mp (alive address rfl)
      have positive := counted.positive address impl found
      simp only [Executors.destroy, found]
      refine ⟨counted.write (counted.lt_created found) _ ?_, fun other => ?_⟩
      · intro written same
        split at same
        · cases same
        · next left =>
          rw [Option.some.injEq] at same
          rw [← same]
          exact Nat.pos_of_ne_zero left
      · rw [refCount_write]
        by_cases own : other = address
        · subst own
          by_cases last : impl.refCount - 1 = 0
          · simp only [refCount, address?, found, last, if_true, Option.map_none, Option.getD_none]
            omega
          · simp only [refCount, address?, found, last, if_true, if_false, Option.map_some,
              Option.getD_some]
            omega
        · simp [address?, own, Ne.symm own]

variable [DecidableEq Object]

theorem refers_update (objects : Object → Option Executor) (object : Object)
    (slot : Option Executor) : (fun other => referred (Function.update objects object slot other)) =
      Function.update (fun other => referred (objects other)) object (referred slot) := by
  funext other
  by_cases own : other = object
  · subst own
    rw [Function.update_self, Function.update_self]
  · rw [Function.update_of_ne own, Function.update_of_ne own]

/-- **An object turns to another implementation**, when the counts have been adjusted. -/
theorem Adjusts.counted {middle : Executors Object Target} (adjusts : Adjusts state middle)
    (counted : state.Counted) (object : Object) (slot : Option Executor)
    (balance : ∀ address,
      middle.refCount address + (if state.refers object = some address then 1 else 0) =
        state.refCount address + (if referred slot = some address then 1 else 0)) :
    Counted { middle with objects := Function.update state.objects object slot } where
  fresh address later := adjusts.fresh address (adjusts.created ▸ later)
  positive := adjusts.positive
  exact := by
    have turned : RefCount.Exact (Function.update (fun other => referred (state.objects other))
        object (referred slot)) middle.refCount :=
      counted.exact.update object (referred slot) balance
    rw [← refers_update] at turned
    exact turned

/-- An object that referred to nothing is given a pointer that has been cloned. -/
theorem Counted.attach (counted : state.Counted) {object : Object} (impl : ImplPointer)
    (nothing : state.refers object = none) (alive : state.Alive impl) :
    ((state.clone impl).steady object impl).Counted ∧
      ((state.clone impl).steady object impl).corrupted = state.corrupted := by
  obtain ⟨adjusts, counts⟩ := counted.clone alive
  refine ⟨?_, adjusts.corrupted⟩
  have turned := adjusts.counted counted object (some ⟨impl, false⟩) (fun address => by
    rw [counts, nothing]
    by_cases points : address? impl = some address <;> simp [referred, points])
  rw [← adjusts.objects] at turned
  exact turned

/-- An object gives up what it refers to. -/
theorem Counted.detach (counted : state.Counted) {object : Object} {impl : ImplPointer}
    (found : state.objects object = some ⟨impl, false⟩) (slot : Option Executor)
    (nothing : referred slot = none) :
    Counted { state.destroy impl with
      objects := Function.update (state.destroy impl).objects object slot } ∧
    (state.destroy impl).corrupted = state.corrupted := by
  obtain ⟨adjusts, counts⟩ := counted.destroy (counted.alive found)
  refine ⟨?_, adjusts.corrupted⟩
  have turned := adjusts.counted counted object slot (fun address => by
    rw [nothing, refers, found, ← counts address]
    by_cases points : address? impl = some address <;> simp [referred, points])
  rw [← adjusts.objects] at turned
  exact turned

/-- An object takes what another one refers to. -/
theorem Counted.take (counted : state.Counted) {object other : Object} {impl : ImplPointer}
    (nothing : state.refers object = none) (found : state.objects other = some ⟨impl, false⟩)
    (apart : object ≠ other) : ((state.steady object impl).steady other .null).Counted where
  fresh := counted.fresh
  positive := counted.positive
  exact := by
    have points : state.refers other = address? impl := by
      rw [refers, found]
      rfl
    have handed : RefCount.Exact (Function.update (Function.update
        (fun other => referred (state.objects other)) object (address? impl)) other none)
        state.refCount := by
      rw [← points]
      exact counted.exact.handOver nothing apart
    rw [show address? impl = referred (some ⟨impl, false⟩) from rfl, ← refers_update,
      show none = referred (some ⟨.null, false⟩) from rfl, ← refers_update] at handed
    exact handed

/-! ## Steps -/

/-- The end of a copy assignment of an object to itself finds what it refers to alive. -/
def ClonesLive (state : Executors Object Target) : ExecutorCall Object Target → Prop
  | .copyAssign object other => other = object →
      ∀ impl stale, state.objects object = some ⟨impl, stale⟩ → state.Alive impl
  | _ => True

omit [DecidableEq Object] in
/-- A pointer to a deallocated implementation is cloned. -/
theorem clone_corrupts {impl : ImplPointer} (dead : ¬ state.Alive impl) :
    (state.clone impl).corrupted = true := by
  cases impl with
  | null => exact absurd (fun _ points => by cases points) dead
  | system => exact absurd (fun _ points => by cases points) dead
  | heap address =>
      have none : state.impls address = none := by
        by_contra some
        apply dead
        intro other points
        cases points
        exact Option.isSome_iff_ne_none.mpr some
      rw [clone, none]

theorem readable_cases {object other : Object}
    {impl : ImplPointer} (read : state.readable object other = some impl) :
    (other ≠ object ∧ state.objects other = some ⟨impl, false⟩) ∨
    (other = object ∧ ∃ stale, state.objects object = some ⟨impl, stale⟩) := by
  unfold readable at read
  split at read
  · next pointer stale found =>
    split at read
    · next allowed =>
      rw [Option.some.injEq] at read
      subst read
      by_cases own : other = object
      · subst own
        exact .inr ⟨rfl, stale, found⟩
      · have steady := allowed.resolve_right own
        subst steady
        exact .inl ⟨own, found⟩
    · cases read
  · cases read

/-- A new implementation, for a new object. -/
theorem Counted.construct (counted : state.Counted) {object : Object}
    (nothing : state.refers object = none) (target : Target) :
    Counted { state.steady object (.heap state.created) with
      impls := Function.update state.impls state.created (some ⟨1, target⟩)
      created := state.created + 1 } := by
  have more : Counted { state with created := state.created + 1 } :=
    ⟨fun address later => counted.fresh address (Nat.le_of_succ_le later), counted.positive,
      counted.exact⟩
  have positive : ∀ impl : Impl Target, some ⟨1, target⟩ = some impl → 0 < impl.refCount := by
    intro impl same
    rw [Option.some.injEq] at same
    rw [← same]
    exact Nat.one_pos
  have written := more.write (Nat.lt_succ_self _) (some ⟨1, target⟩) positive
  refine written.counted more object (some ⟨.heap state.created, false⟩) fun address => ?_
  have before : state.refCount state.created = 0 := by
    rw [refCount, counted.fresh state.created (Nat.le_refl _)]
  have unreferred : refers { state with created := state.created + 1 } object = none := nothing
  rw [refCount_write, unreferred]
  by_cases own : address = state.created
  · subst own
    have same : refCount { state with created := state.created + 1 } state.created = 0 := before
    simp [referred, address?, same]
  · simp [referred, address?, own, Ne.symm own]

theorem Counted.step_iff {call : ExecutorCall Object Target} (counted : state.Counted)
    (uncorrupted : state.corrupted = false) (stepped : state.step call = some next) :
    (next.Counted ∧ next.corrupted = false) ∧ state.ClonesLive call ∨
      next.corrupted = true ∧ ¬ state.ClonesLive call := by
  have unreferred : ∀ {object : Object}, state.objects object = none →
      state.refers object = none := by
    intro object absent
    rw [refers, absent]
    rfl
  have released : ∀ {object : Object} {impl}, state.objects object = some ⟨impl, true⟩ →
      state.refers object = none := by
    intro object impl found
    rw [refers, found]
    rfl
  cases call with
  | constructNull object =>
      simp only [step] at stepped
      split at stepped
      · next absent =>
        cases stepped
        obtain ⟨next, same⟩ := counted.attach .null (unreferred absent)
          (fun _ points => by cases points)
        exact .inl ⟨⟨next, same.trans uncorrupted⟩, trivial⟩
      · cases stepped
  | constructSystem object =>
      simp only [step] at stepped
      split at stepped
      · next absent =>
        cases stepped
        obtain ⟨next, same⟩ := counted.attach .system (unreferred absent)
          (fun _ points => by cases points)
        exact .inl ⟨⟨next, same.trans uncorrupted⟩, trivial⟩
      · cases stepped
  | construct object target =>
      simp only [step] at stepped
      split at stepped
      · next absent =>
        cases stepped
        exact .inl ⟨⟨counted.construct (unreferred absent) target, uncorrupted⟩, trivial⟩
      · cases stepped
  | copyConstruct object other =>
      simp only [step] at stepped
      split at stepped
      · next impl absent found =>
        cases stepped
        obtain ⟨next, same⟩ := counted.attach impl (unreferred absent) (counted.alive found)
        exact .inl ⟨⟨next, same.trans uncorrupted⟩, trivial⟩
      · cases stepped
  | moveConstruct object other =>
      simp only [step] at stepped
      split at stepped
      · next impl absent found =>
        cases stepped
        have apart : object ≠ other := by
          intro same
          rw [← same, absent] at found
          cases found
        exact .inl ⟨⟨counted.take (unreferred absent) found apart, uncorrupted⟩, trivial⟩
      · cases stepped
  | beginAssign object =>
      simp only [step] at stepped
      split at stepped
      · next impl found =>
        cases stepped
        obtain ⟨next, same⟩ := counted.detach found (some ⟨impl, true⟩) rfl
        exact .inl ⟨⟨next, same.trans uncorrupted⟩, trivial⟩
      · cases stepped
  | copyAssign object other =>
      simp only [step] at stepped
      split at stepped
      · next old impl found read =>
        cases stepped
        rcases readable_cases read with ⟨apart, steady⟩ | ⟨rfl, stale, own⟩
        · obtain ⟨next, same⟩ := counted.attach impl (released found) (counted.alive steady)
          exact .inl ⟨⟨next, same.trans uncorrupted⟩, fun same => absurd same apart⟩
        · rw [found, Option.some.injEq, Executor.mk.injEq] at own
          obtain ⟨rfl, rfl⟩ := own
          by_cases alive : state.Alive old
          · obtain ⟨next, same⟩ := counted.attach old (released found) alive
            refine .inl ⟨⟨next, same.trans uncorrupted⟩, fun _ impl stale own => ?_⟩
            rw [found, Option.some.injEq, Executor.mk.injEq] at own
            exact own.1 ▸ alive
          · exact .inr ⟨clone_corrupts alive, fun live => alive (live rfl old true found)⟩
      · cases stepped
  | moveAssign object other =>
      simp only [step] at stepped
      split at stepped
      · next old impl found read =>
        cases stepped
        rcases readable_cases read with ⟨apart, steady⟩ | ⟨rfl, stale, own⟩
        · exact .inl ⟨⟨counted.take (released found) steady apart.symm, uncorrupted⟩, trivial⟩
        · obtain ⟨next, same⟩ := counted.attach .null (released found)
            (fun _ points => by cases points)
          refine .inl ⟨⟨?_, uncorrupted⟩, trivial⟩
          simp only [steady, Function.update_idem]
          exact next
      · cases stepped
  | nullAssign object =>
      simp only [step] at stepped
      split at stepped
      · next old found =>
        cases stepped
        obtain ⟨next, same⟩ := counted.attach .null (released found)
          (fun _ points => by cases points)
        exact .inl ⟨⟨next, same.trans uncorrupted⟩, trivial⟩
      · cases stepped
  | destruct object =>
      simp only [step] at stepped
      split at stepped
      · next impl found =>
        cases stepped
        obtain ⟨next, same⟩ := counted.detach found none rfl
        exact .inl ⟨⟨next, same.trans uncorrupted⟩, trivial⟩
      · cases stepped
  | useImpl object =>
      simp only [step] at stepped
      split at stepped
      · next impl found =>
        cases stepped
        have same : state.touch impl = state := by
          cases impl with
          | null => rfl
          | system => rfl
          | heap address =>
              obtain ⟨impl, lives⟩ := Option.isSome_iff_exists.mp (counted.alive found address rfl)
              rw [touch, lives]
        rw [same]
        exact .inl ⟨⟨counted, uncorrupted⟩, trivial⟩
      · cases stepped

/-- The counts are exact as long as nothing is corrupted. -/
def Sound (state : Executors Object Target) : Prop := state.corrupted = false → state.Counted

theorem Sound.step {call : ExecutorCall Object Target} (sound : state.Sound) (intact : state.Intact)
    (stepped : executors.step state call = some next) : next.Sound := by
  intro uncorrupted
  rcases (sound intact.uncorrupted).step_iff intact.uncorrupted stepped with
    ⟨⟨counted, -⟩, -⟩ | ⟨corrupted, -⟩
  · exact counted
  · rw [corrupted] at uncorrupted
    cases uncorrupted

theorem Sound.survives {call : ExecutorCall Object Target} (sound : state.Sound)
    (intact : state.Intact) (stepped : executors.step state call = some next) :
    next.Intact ↔ state.ClonesLive call := by
  rcases (sound intact.uncorrupted).step_iff intact.uncorrupted stepped with
    ⟨⟨counted, uncorrupted⟩, live⟩ | ⟨corrupted, dead⟩
  · exact iff_of_true (counted.intact uncorrupted) live
  · refine iff_of_false (fun remains => ?_) dead
    have uncorrupted := remains.uncorrupted
    rw [corrupted] at uncorrupted
    cases uncorrupted

end Executors

/-- **The implementations are counted exactly and never used after their end**, in every
interleaving, exactly if no object is copied to itself when it was the last to refer to its
implementation. Runs without an assignment of an object to itself are of this kind. -/
theorem executor_counts_iff {Object Target : Type*} [DecidableEq Object]
    {calls : List (ExecutorCall Object Target)} {final : Executors Object Target}
    (ran : executors.run .new calls = some final) :
    (executors.Always Executors.Intact .new calls ↔
      executors.Permitted Executors.ClonesLive .new calls) ∧
    ((∀ object, .copyAssign object object ∉ calls) →
      executors.Permitted Executors.ClonesLive .new calls) := by
  constructor
  · exact Transition.Machine.always_iff_permitted
      (fun _ _ _ sound intact stepped => Executors.Sound.step sound intact stepped)
      (fun _ _ _ sound intact stepped => Executors.Sound.survives sound intact stepped) calls ran
      (fun _ => Executors.counted_new) (Executors.counted_new.intact rfl)
  · intro apart
    apply Transition.Machine.Permitted.of_forall
    intro call member state
    cases call with
    | copyAssign object other =>
        intro same
        subst same
        exact absurd member (apart other)
    | _ => exact trivial

/-- Two objects share an implementation, and one is assigned to the other. -/
def someExecutorCalls : List (ExecutorCall Nat Nat) :=
  [.construct 0 7, .copyConstruct 1 0, .construct 2 8, .beginAssign 2, .useImpl 1, .copyAssign 2 1,
    .destruct 0, .beginAssign 1, .copyAssign 1 1, .destruct 1, .useImpl 2]

theorem executor_counts_iff_someExecutorCalls :
    executors.Always Executors.Intact .new someExecutorCalls := by
  have ran : executors.run .new someExecutorCalls =
      some ((executors.run .new someExecutorCalls).get rfl) := rfl
  apply (executor_counts_iff ran).1.mpr
  refine ⟨trivial, trivial, trivial, trivial, trivial, ?_, trivial, trivial, ?_, trivial, trivial,
    trivial⟩
  · intro same
    cases same
  · intro _ impl stale found address points
    cases found
    cases points
    rfl

/-- The only object that refers to an implementation is assigned to itself. -/
example : (executors.run (.new : Executors Nat Nat)
    [.construct 0 7, .beginAssign 0, .copyAssign 0 0]).any Executors.corrupted = true := rfl

end Asio.Core
