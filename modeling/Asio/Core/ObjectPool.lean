import Asio.Lib.Chain
import Asio.Lib.IntrusiveList
import Asio.Lib.Transition

/-! # The pool of objects

`object_pool` keeps its live objects in a doubly linked list and the freed ones in a singly
linked list, through the same links. The lists that the links spell are followed beside them.
-/

namespace Asio.Core

/-- `object_pool`, with the links that the objects hold. -/
structure ObjectPool (Object : Type*) where
  liveList : Option Object
  freeList : Option Object
  next : Object → Option Object
  prev : Object → Option Object

namespace ObjectPool

variable {Object : Type*} [DecidableEq Object] (pool : ObjectPool Object)

/-- The live list. -/
def links : IntrusiveList Object := ⟨pool.liveList, pool.next, pool.prev⟩

/-- Another live list. -/
def withLinks (links : IntrusiveList Object) : ObjectPool Object where
  liveList := links.head
  freeList := pool.freeList
  next := links.next
  prev := links.prev

/-- `first`. -/
def first : Option Object := pool.liveList

/-- The end of `alloc`, which puts an object in front of the live list. -/
def linkLive (o : Object) : ObjectPool Object := pool.withLinks (pool.links.pushFront o)

/-- `alloc`. An object is created when none is free, which may throw. -/
def alloc (created : Option Object) : Option Object × ObjectPool Object :=
  match pool.freeList with
  | some o => (some o, { pool with freeList := pool.next o }.linkLive o)
  | none =>
      match created with
      | some o => (some o, pool.linkLive o)
      | none => (none, pool)

/-- `free`. -/
def free (o : Object) : ObjectPool Object :=
  let links := { pool.links with
    head := if pool.liveList = some o then pool.next o else pool.liveList }
  let links := links.setNext (links.prev o) (links.next o)
  let links := links.setPrev (links.next o) (links.prev o)
  let links := links.setNext (some o) pool.freeList
  let links := links.setPrev (some o) none
  { pool.withLinks links with freeList := some o }

/-- The constructor; objects that are not created yet have any links. -/
def new (next prev : Object → Option Object) : ObjectPool Object := ⟨none, none, next, prev⟩

end ObjectPool

/-- A call of `alloc`, with the object that is created if one is, or of `free`. -/
inductive PoolCall (Object : Type*) where
  | alloc (created : Option Object)
  | free (o : Object)

/-- A pool, the objects that are allocated and not freed, those that are freed and not
allocated again, and all that were created. -/
structure PoolRun (Object : Type*) where
  pool : ObjectPool Object
  live : List Object
  freed : List Object
  created : List Object

namespace PoolRun

variable {Object : Type*} [DecidableEq Object]

/-- An object that `alloc` returned. -/
def allocated (run : PoolRun Object) (pool : ObjectPool Object) (o : Object) : PoolRun Object where
  pool := pool
  live := o :: run.live
  freed := run.freed.erase o
  created := if o ∈ run.created then run.created else o :: run.created

/-- A call. -/
def call (run : PoolRun Object) : PoolCall Object → PoolRun Object
  | .alloc created =>
      match run.pool.alloc created with
      | (some o, pool) => run.allocated pool o
      | (none, pool) => { run with pool := pool }
  | .free o =>
      { run with pool := run.pool.free o, live := run.live.erase o, freed := o :: run.freed }

/-- A created object is a new one, and a freed object is live. -/
def Obeys (run : PoolRun Object) : PoolCall Object → Prop
  | .alloc created => ∀ o, created = some o → o ∉ run.created
  | .free o => o ∈ run.live

/-- The runs of calls. -/
def machine : Transition.Machine (PoolRun Object) (PoolCall Object) where
  initial run := ∃ next prev, run = ⟨.new next prev, [], [], []⟩
  step run call := some (run.call call)

/-- The links spell the two lists, which share no object and hold all that were created. -/
structure WellFormed (run : PoolRun Object) : Prop where
  live : run.pool.links.Spells run.live
  freed : Chain run.pool.next run.pool.freeList run.freed none
  apart : ∀ o ∈ run.live, o ∉ run.freed
  created : run.created.Perm (run.live ++ run.freed)

/-- What the links tell: a walk from `first()` meets the live objects, and the loops of the
destructor delete the live objects and the freed ones. -/
structure Kept (run : PoolRun Object) : Prop where
  wellFormed : run.WellFormed
  nodup : run.created.Nodup
  walked : Loop.Returns (Chain.walk run.pool.next) (run.pool.first, []) run.live
  deleted : Loop.Returns (Chain.destroy run.pool.next) (run.pool.liveList, []) run.live ∧
    Loop.Returns (Chain.destroy run.pool.next) (run.pool.freeList, run.live)
      (run.live ++ run.freed)

variable {run next : PoolRun Object}

omit [DecidableEq Object] in
theorem WellFormed.freeList_eq (wellFormed : run.WellFormed) :
    run.pool.freeList = run.freed.head? := wellFormed.freed.head_eq

omit [DecidableEq Object] in
theorem wellFormed_new (next prev : Object → Option Object) :
    WellFormed (⟨.new next prev, [], [], []⟩ : PoolRun Object) where
  live := IntrusiveList.spells_nil next prev
  freed := rfl
  apart _ inside := absurd inside List.not_mem_nil
  created := .refl []

/-- Links that change at an object outside a chain only. -/
theorem chain_pushFront {links : IntrusiveList Object} {o : Object}
    {start : Option Object} {nodes : List Object} (chain : Chain links.next start nodes none)
    (outside : o ∉ nodes) : Chain (links.pushFront o).next start nodes none := by
  apply chain.congr
  intro node inside
  rw [IntrusiveList.pushFront_next, if_neg]
  rintro rfl
  exact outside inside

theorem call_alloc_some {o : Object} {created : Option Object} {pool : ObjectPool Object}
    (is : run.pool.alloc created = (some o, pool)) :
    run.call (.alloc created) = run.allocated pool o := by
  rw [call, is]

theorem call_alloc_none {created : Option Object} {pool : ObjectPool Object}
    (is : run.pool.alloc created = (none, pool)) :
    run.call (.alloc created) = { run with pool := pool } := by
  rw [call, is]

/-- A freed object is taken before one is created. -/
theorem WellFormed.reuse {o : Object} {freed : List Object} (wellFormed : run.WellFormed)
    (is : run.freed = o :: freed) (created : Option Object) :
    (run.call (.alloc created)).WellFormed := by
  have head := wellFormed.freeList_eq
  have chain := wellFormed.freed
  have nodup := chain.nodup
  have apart := wellFormed.apart
  have perm := wellFormed.created
  rw [is] at head chain nodup apart perm
  have absent : o ∉ run.live := fun inside => apart o inside List.mem_cons_self
  have known : o ∈ run.created :=
    perm.mem_iff.mpr (List.mem_append_right _ List.mem_cons_self)
  have alloc : run.pool.alloc created =
      (some o, { run.pool with freeList := run.pool.next o }.linkLive o) := by
    unfold ObjectPool.alloc
    rw [head]
    rfl
  have rest : run.freed.erase o = freed := by rw [is, List.erase_cons_head]
  rw [call_alloc_some alloc, allocated, rest, if_pos known]
  refine ⟨wellFormed.live.pushFront absent, ?_, ?_, ?_⟩
  · exact chain_pushFront chain.2 (List.nodup_cons.mp nodup).1
  · intro other inside
    rcases List.mem_cons.mp inside with rfl | inside
    · exact (List.nodup_cons.mp nodup).1
    · exact fun inside' => apart other inside (List.mem_cons_of_mem _ inside')
  · exact perm.trans List.perm_middle

/-- An object is created when none is free. -/
theorem WellFormed.create {o : Object} (wellFormed : run.WellFormed) (none : run.freed = [])
    (fresh : o ∉ run.created) : (run.call (.alloc (some o))).WellFormed := by
  have head := wellFormed.freeList_eq
  have chain := wellFormed.freed
  have perm := wellFormed.created
  rw [none] at head chain perm
  rw [List.append_nil] at perm
  have absent : o ∉ run.live := fun inside => fresh (perm.mem_iff.mpr inside)
  have alloc : run.pool.alloc (some o) = (some o, run.pool.linkLive o) := by
    unfold ObjectPool.alloc
    rw [head]
    rfl
  have rest : run.freed.erase o = [] := by rw [none, List.erase_nil]
  rw [call_alloc_some alloc, allocated, rest, if_neg fresh]
  refine ⟨wellFormed.live.pushFront absent, ?_, ?_, ?_⟩
  · exact chain_pushFront chain List.not_mem_nil
  · exact fun _ _ => List.not_mem_nil
  · dsimp only
    rw [List.append_nil]
    exact perm.cons o

/-- Nothing changes when the creation of an object throws. -/
theorem WellFormed.thrown (wellFormed : run.WellFormed) (none : run.freed = []) :
    (run.call (.alloc Option.none)).WellFormed := by
  have head := wellFormed.freeList_eq
  rw [none] at head
  have alloc : run.pool.alloc Option.none = (Option.none, run.pool) := by
    unfold ObjectPool.alloc
    rw [head]
    rfl
  rw [call_alloc_none alloc]
  exact wellFormed

theorem setNext_again (links : IntrusiveList Object) (o : Object) (value : Option Object) :
    (links.setNext (some o) value).setPrev (some o) none =
      ((links.setNext (some o) none).setPrev (some o) none).setNext (some o) value := by
  simp only [IntrusiveList.setNext, IntrusiveList.setPrev, Function.update_idem]

/-- An object is unlinked, and its link leads to the free list. -/
theorem free_links (pool : ObjectPool Object) (o : Object) :
    (pool.free o).links = (pool.links.unlink o).setNext (some o) pool.freeList := by
  rw [IntrusiveList.unlink, ← setNext_again]
  rfl

/-- A freed object leaves the live list at any position, and comes first in the other one. -/
theorem WellFormed.free {o : Object} (wellFormed : run.WellFormed) (isLive : o ∈ run.live) :
    WellFormed { run with
      pool := run.pool.free o, live := run.live.erase o, freed := o :: run.freed } := by
  have nodup := wellFormed.live.nodup
  obtain ⟨before, after, split⟩ := List.append_of_mem isLive
  have spells := wellFormed.live
  rw [split] at spells nodup
  have sides := spells.not_mem_sides
  have erased : run.live.erase o = before ++ after := by
    rw [split, List.erase_append_right _ sides.1, List.erase_cons_head]
  have outside : o ∉ before ++ after := fun inside =>
    (List.mem_append.mp inside).elim sides.1 sides.2
  have next_other (other : Object) (differs : other ≠ o) :
      (run.pool.free o).next other = (run.pool.links.unlink o).next other := by
    have links := congrArg (fun links => IntrusiveList.next links other) (free_links run.pool o)
    rw [IntrusiveList.setNext_next, if_neg fun same => differs (Option.some.inj same).symm] at links
    exact links
  refine ⟨?_, ?_, ?_, ?_⟩
  · rw [erased]
    change (run.pool.free o).links.Spells _
    rw [free_links]
    apply spells.unlink.congr
    · exact IntrusiveList.setNext_head _ _
    · intro node inside
      rw [IntrusiveList.setNext_next, if_neg]
      rintro same
      cases same
      exact outside inside
    · intro node inside
      rw [IntrusiveList.setNext_prev]
  · have here : (run.pool.free o).next o = run.pool.freeList := by
      have links := congrArg (fun links => IntrusiveList.next links o) (free_links run.pool o)
      rw [IntrusiveList.setNext_next, if_pos rfl] at links
      exact links
    refine ⟨rfl, ?_⟩
    dsimp only
    rw [here]
    apply wellFormed.freed.congr
    intro node inside
    have foreign : node ∉ before ++ o :: after := by
      rw [← split]
      exact fun isLive' => wellFormed.apart node isLive' inside
    have differs : node ≠ o := by
      rintro rfl
      exact foreign (List.mem_append_right _ List.mem_cons_self)
    rw [next_other node differs]
    exact (spells.unlink_other foreign).1
  · intro other inside
    dsimp only at inside ⊢
    rw [erased] at inside
    rw [List.mem_cons, not_or]
    refine ⟨?_, wellFormed.apart other (List.mem_of_mem_erase (erased ▸ inside))⟩
    rintro rfl
    exact outside inside
  · dsimp only
    have moved : (o :: (before ++ after)).Perm run.live := split ▸ List.perm_middle.symm
    rw [erased]
    exact wellFormed.created.trans
      ((moved.symm.append_right run.freed).trans List.perm_middle.symm)

theorem WellFormed.call (wellFormed : run.WellFormed) {call : PoolCall Object}
    (obeys : run.Obeys call) : (run.call call).WellFormed := by
  cases call with
  | alloc created =>
      cases is : run.freed with
      | cons o freed => exact wellFormed.reuse is created
      | nil =>
          cases created with
          | some o => exact wellFormed.create is (obeys o rfl)
          | none => exact wellFormed.thrown is
  | free o => exact wellFormed.free obeys

omit [DecidableEq Object] in
theorem WellFormed.nodup (wellFormed : run.WellFormed) : (run.live ++ run.freed).Nodup := by
  rw [List.nodup_append]
  refine ⟨wellFormed.live.nodup, wellFormed.freed.nodup, ?_⟩
  rintro o isLive _ isFreed rfl
  exact wellFormed.apart o isLive isFreed

theorem WellFormed.kept (wellFormed : run.WellFormed) : run.Kept where
  wellFormed := wellFormed
  nodup := wellFormed.created.nodup_iff.mpr wellFormed.nodup
  walked := Chain.returns_walk wellFormed.live.chain []
  deleted := by
    constructor
    · exact Chain.returns_destroy wellFormed.live.chain fun _ _ => List.not_mem_nil
    · exact Chain.returns_destroy wellFormed.freed fun o isFreed isLive =>
        wellFormed.apart o isLive isFreed

/-- After any calls the live list and the free list hold what they should, and the destructor
deletes every object once. -/
theorem lists_kept (reachable : machine.ReachableWhen Obeys run) : run.Kept := by
  apply WellFormed.kept
  apply reachable.invariant
  · rintro _ ⟨next, prev, rfl⟩
    exact wellFormed_new next prev
  · rintro run call _ - wellFormed obeys ⟨⟩
    exact wellFormed.call obeys

/-- Three objects are created; the one in the middle is freed and allocated again. -/
def middleCalls : List (PoolCall Nat) :=
  [.alloc (some 1), .alloc (some 2), .alloc (some 3), .free 2, .alloc none, .free 3]

theorem lists_kept_middle : ∃ run : PoolRun Nat,
    machine.run ⟨.new (fun _ => none) (fun _ => none), [], [], []⟩ middleCalls = some run ∧
      run.live = [2, 1] ∧ run.freed = [3] ∧ run.Kept := by
  refine ⟨_, rfl, rfl, rfl, lists_kept (.run (.initial ⟨fun _ => none, fun _ => none, rfl⟩)
    middleCalls rfl ⟨?_, ?_, ?_, ?_, ?_, ?_, trivial⟩)⟩
  · rintro _ ⟨⟩
    decide
  · rintro _ ⟨⟩
    decide
  · rintro _ ⟨⟩
    decide
  · exact List.mem_cons_of_mem _ List.mem_cons_self
  · rintro _ ⟨⟩
  · exact List.mem_cons_of_mem _ List.mem_cons_self

end PoolRun

end Asio.Core
