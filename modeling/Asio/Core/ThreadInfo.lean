import Asio.Lib.Transition
import Mathlib.Algebra.Group.Nat.Defs
import Mathlib.Data.List.Nodup
import Mathlib.Logic.Function.Basic

/-! # Memory that a thread uses again

`thread_info_base` keeps one freed block for each purpose. How many chunks a block has is
written into one of its bytes: the one after the requested size while it is in use, and the
first one while it is kept.
-/

namespace Asio.Core

/-- The tags `default_tag`, `awaitee_tag` and `executor_function_tag`. -/
inductive Purpose where
  | default
  | awaitee
  | executorFunction
  deriving DecidableEq, Repr

/-- `chunk_size`. -/
def chunkSize : Nat := 4

/-- `UCHAR_MAX`. -/
def ucharMax : Nat := 255

/-- `(size + chunk_size - 1) / chunk_size`. -/
def chunksOf (size : Nat) : Nat := (size + chunkSize - 1) % 2 ^ 64 / chunkSize

/-- What `operator new` returns: a number of bytes. -/
structure Block where
  capacity : Nat
  bytes : Nat → UInt8

/-- `mem[offset] = value`. -/
def Block.store (block : Block) (offset : Nat) (value : UInt8) : Block :=
  { block with bytes := Function.update block.bytes offset value }

/-- The chunks that a block has room for, besides its tag. -/
def Block.chunks (block : Block) : Nat := (block.capacity - 1) / chunkSize

/-- The blocks, by the call of `operator new` that returned them, and `reusable_memory_` of
every thread; the history: the size for which the user of a block has it, and the calls of
`operator delete`. -/
structure RecyclingHeap (Thread : Type*) where
  blocks : Nat → Block
  created : Nat
  reusableMemory : Thread × Purpose → Option Nat
  owned : Nat → Option Nat
  deleted : List Nat

/-- What threads and users do. `memory` is what is in the block that `operator new` would
return, if it does not throw. -/
inductive RecyclingAction (Thread : Type*) where
  | allocate (thisThread : Option Thread) (purpose : Purpose) (size : Nat)
      (memory : Option (Nat → UInt8))
  | deallocate (thisThread : Option Thread) (purpose : Purpose) (pointer size : Nat)
  | write (pointer offset : Nat) (value : UInt8)
  | destroyThread (thread : Thread)

namespace RecyclingHeap

variable {Thread : Type*} [DecidableEq Thread]

/-- A byte of a block is written. -/
def store (heap : RecyclingHeap Thread) (pointer offset : Nat) (value : UInt8) :
    RecyclingHeap Thread :=
  { heap with
    blocks := Function.update heap.blocks pointer ((heap.blocks pointer).store offset value) }

/-- `reusable_memory_[Purpose::mem_index] = pointer`. -/
def setReusable (heap : RecyclingHeap Thread) (slot : Thread × Purpose) (pointer : Option Nat) :
    RecyclingHeap Thread :=
  { heap with reusableMemory := Function.update heap.reusableMemory slot pointer }

/-- The user has, or no longer has, a block. -/
def setOwned (heap : RecyclingHeap Thread) (pointer : Nat) (size : Option Nat) :
    RecyclingHeap Thread :=
  { heap with owned := Function.update heap.owned pointer size }

/-- `::operator delete`. -/
def operatorDelete (heap : RecyclingHeap Thread) (pointer : Nat) : RecyclingHeap Thread :=
  { heap with deleted := pointer :: heap.deleted }

/-- `::operator new`, which returns the block `heap.created`. -/
def operatorNew (heap : RecyclingHeap Thread) (capacity : Nat) (bytes : Nat → UInt8) :
    RecyclingHeap Thread :=
  { heap with
    blocks := Function.update heap.blocks heap.created ⟨capacity, bytes⟩
    created := heap.created + 1 }

/-- The end of `allocate`; it returns nothing when `operator new` throws. -/
def allocateNew (heap : RecyclingHeap Thread) (size : Nat) (memory : Option (Nat → UInt8)) :
    Option Nat × RecyclingHeap Thread :=
  match memory with
  | none => (none, heap)
  | some bytes =>
      let tag := if chunksOf size ≤ ucharMax then UInt8.ofNat (chunksOf size) else 0
      (some heap.created,
        ((heap.operatorNew ((chunksOf size * chunkSize + 1) % 2 ^ 64) bytes).store heap.created
          size tag).setOwned heap.created (some size))

/-- `allocate`. -/
def allocate (heap : RecyclingHeap Thread) (thisThread : Option Thread) (purpose : Purpose)
    (size : Nat) (memory : Option (Nat → UInt8)) : Option Nat × RecyclingHeap Thread :=
  match thisThread with
  | none => heap.allocateNew size memory
  | some thread =>
      match heap.reusableMemory (thread, purpose) with
      | none => heap.allocateNew size memory
      | some pointer =>
          let taken := heap.setReusable (thread, purpose) none
          if chunksOf size ≤ ((heap.blocks pointer).bytes 0).toNat then
            (some pointer, (taken.store pointer size ((heap.blocks pointer).bytes 0)).setOwned
              pointer (some size))
          else (taken.operatorDelete pointer).allocateNew size memory

/-- `deallocate`. -/
def deallocate (heap : RecyclingHeap Thread) (thisThread : Option Thread) (purpose : Purpose)
    (pointer size : Nat) : RecyclingHeap Thread :=
  let given := heap.setOwned pointer none
  if size ≤ chunkSize * ucharMax then
    match thisThread with
    | none => given.operatorDelete pointer
    | some thread =>
        match heap.reusableMemory (thread, purpose) with
        | none => (given.store pointer 0 ((heap.blocks pointer).bytes size)).setReusable
            (thread, purpose) (some pointer)
        | some _ => given.operatorDelete pointer
  else given.operatorDelete pointer

/-- One turn of the loop of the destructor. -/
def destroySlot (heap : RecyclingHeap Thread) (slot : Thread × Purpose) : RecyclingHeap Thread :=
  match heap.reusableMemory slot with
  | none => heap
  | some pointer => (heap.operatorDelete pointer).setReusable slot none

/-- `~thread_info_base`. -/
def destroyThread (heap : RecyclingHeap Thread) (thread : Thread) : RecyclingHeap Thread :=
  ((heap.destroySlot (thread, .default)).destroySlot (thread, .awaitee)).destroySlot
    (thread, .executorFunction)

/-- One step. Sizes do not wrap when they are rounded up, a block is given back with the size
it was allocated with, and users write into what they asked for. -/
def step (heap : RecyclingHeap Thread) :
    RecyclingAction Thread → Option (RecyclingHeap Thread)
  | .allocate thisThread purpose size memory =>
      if size + 3 < 2 ^ 64 then some (heap.allocate thisThread purpose size memory).2
      else none
  | .deallocate thisThread purpose pointer size =>
      if heap.owned pointer = some size then
        some (heap.deallocate thisThread purpose pointer size)
      else none
  | .write pointer offset value =>
      if (heap.owned pointer).any (offset < ·) then some (heap.store pointer offset value)
      else none
  | .destroyThread thread => some (heap.destroyThread thread)

/-- No block was allocated. -/
def initial : RecyclingHeap Thread where
  blocks _ := ⟨0, fun _ => 0⟩
  created := 0
  reusableMemory _ := none
  owned _ := none
  deleted := []

variable (Thread) in
/-- The memory as a machine. -/
def machine : Transition.Machine (RecyclingHeap Thread) (RecyclingAction Thread) where
  initial heap := heap = initial
  step := step

/-! ## Sizes and tags -/

theorem chunksOf_eq {size : Nat} (fits : size + 3 < 2 ^ 64) : chunksOf size = (size + 3) / 4 :=
  congrArg (· / 4) (Nat.mod_eq_of_lt fits)

theorem lt_chunksOf {size : Nat} (fits : size + 3 < 2 ^ 64) :
    size < chunksOf size * chunkSize + 1 := by
  rw [chunksOf_eq fits, chunkSize]
  omega

/-- Rounding up does not overflow. -/
theorem capacity_eq {size : Nat} (fits : size + 3 < 2 ^ 64) :
    (chunksOf size * chunkSize + 1) % 2 ^ 64 = chunksOf size * chunkSize + 1 := by
  apply Nat.mod_eq_of_lt
  rw [chunksOf_eq fits, chunkSize]
  omega

/-- A tag does not say more than the capacity in chunks. -/
theorem tag_le_chunks {block : Block} {tag : UInt8}
    (honest : tag.toNat * chunkSize < block.capacity) : tag.toNat ≤ block.chunks := by
  rw [Block.chunks, Nat.le_div_iff_mul_le (by decide)]
  exact Nat.le_sub_one_of_lt honest

/-- The tag of a new block. -/
theorem newTag_honest {size : Nat} :
    (if chunksOf size ≤ ucharMax then UInt8.ofNat (chunksOf size) else 0).toNat * chunkSize <
      chunksOf size * chunkSize + 1 := by
  split
  · next small =>
    have exact : (UInt8.ofNat (chunksOf size)).toNat = chunksOf size :=
      Nat.mod_eq_of_lt (Nat.lt_of_le_of_lt small (by decide))
    rw [exact]
    exact Nat.lt_succ_self _
  · exact Nat.succ_pos _

/-! ## Where the blocks are -/

variable {heap after : RecyclingHeap Thread}

/-- A thread keeps the block. -/
def Cached (heap : RecyclingHeap Thread) (pointer : Nat) : Prop :=
  ∃ slot, heap.reusableMemory slot = some pointer

/-- A block has a user, is kept by a thread, or has been deleted. -/
inductive InOnePlace (heap : RecyclingHeap Thread) (pointer : Nat) : Prop where
  | owned : (∃ size, heap.owned pointer = some size) → ¬ heap.Cached pointer →
      pointer ∉ heap.deleted → InOnePlace heap pointer
  | cached : heap.owned pointer = none → heap.Cached pointer → pointer ∉ heap.deleted →
      InOnePlace heap pointer
  | deleted : heap.owned pointer = none → ¬ heap.Cached pointer → pointer ∈ heap.deleted →
      InOnePlace heap pointer

/-- Every block is in one place. -/
structure Placed (heap : RecyclingHeap Thread) : Prop where
  place : ∀ pointer < heap.created, heap.InOnePlace pointer
  unborn : ∀ pointer, heap.created ≤ pointer →
    heap.owned pointer = none ∧ ¬ heap.Cached pointer ∧ pointer ∉ heap.deleted
  single : ∀ first second pointer, heap.reusableMemory first = some pointer →
    heap.reusableMemory second = some pointer → first = second
  once : heap.deleted.Nodup

omit [DecidableEq Thread] in
theorem Placed.lt_of_owned (placed : heap.Placed) {pointer size : Nat}
    (owned : heap.owned pointer = some size) : pointer < heap.created := by
  by_contra unborn
  rw [(placed.unborn pointer (Nat.le_of_not_lt unborn)).1] at owned
  contradiction

omit [DecidableEq Thread] in
theorem Placed.lt_of_cached (placed : heap.Placed) {pointer : Nat} (cached : heap.Cached pointer) :
    pointer < heap.created := by
  by_contra unborn
  exact (placed.unborn pointer (Nat.le_of_not_lt unborn)).2.1 cached

omit [DecidableEq Thread] in
/-- A block with a user is neither kept nor deleted. -/
theorem Placed.of_owned (placed : heap.Placed) {pointer size : Nat}
    (owned : heap.owned pointer = some size) :
    ¬ heap.Cached pointer ∧ pointer ∉ heap.deleted := by
  rcases placed.place pointer (placed.lt_of_owned owned) with
    ⟨-, notCached, notDeleted⟩ | ⟨unowned, -, -⟩ | ⟨unowned, -, -⟩
  · exact ⟨notCached, notDeleted⟩
  · rw [unowned] at owned
    contradiction
  · rw [unowned] at owned
    contradiction

omit [DecidableEq Thread] in
/-- A block that is kept has no user and is not deleted. -/
theorem Placed.of_cached (placed : heap.Placed) {pointer : Nat} (cached : heap.Cached pointer) :
    heap.owned pointer = none ∧ pointer ∉ heap.deleted := by
  rcases placed.place pointer (placed.lt_of_cached cached) with
    ⟨-, notCached, -⟩ | ⟨unowned, -, notDeleted⟩ | ⟨-, notCached, -⟩
  · exact absurd cached notCached
  · exact ⟨unowned, notDeleted⟩
  · exact absurd cached notCached

omit [DecidableEq Thread] in
/-- One block changes its place. -/
theorem Placed.moved (placed : heap.Placed) {pointer : Nat} (isBlock : pointer < heap.created)
    (created : after.created = heap.created)
    (others : ∀ other ≠ pointer, after.owned other = heap.owned other ∧
      (after.Cached other ↔ heap.Cached other) ∧ (other ∈ after.deleted ↔ other ∈ heap.deleted))
    (place : after.InOnePlace pointer)
    (single : ∀ first second pointer, after.reusableMemory first = some pointer →
      after.reusableMemory second = some pointer → first = second)
    (once : after.deleted.Nodup) : after.Placed where
  place := by
    rw [created]
    intro other isOther
    by_cases own : other = pointer
    · rw [own]
      exact place
    · obtain ⟨owned, cached, deleted⟩ := others other own
      rcases placed.place other isOther with
        ⟨user, notCached, notDeleted⟩ | ⟨unowned, isCached, notDeleted⟩ |
          ⟨unowned, notCached, isDeleted⟩
      · rw [← owned] at user
        exact .owned user (notCached ∘ cached.mp) (notDeleted ∘ deleted.mp)
      · exact .cached (owned.trans unowned) (cached.mpr isCached) (notDeleted ∘ deleted.mp)
      · exact .deleted (owned.trans unowned) (notCached ∘ cached.mp) (deleted.mpr isDeleted)
  unborn := by
    rw [created]
    intro other unborn
    have different : other ≠ pointer := by
      rintro rfl
      exact Nat.not_lt_of_le unborn isBlock
    obtain ⟨owned, cached, deleted⟩ := others other different
    obtain ⟨unowned, notCached, notDeleted⟩ := placed.unborn other unborn
    exact ⟨owned.trans unowned, notCached ∘ cached.mp, notDeleted ∘ deleted.mp⟩
  single := single
  once := once

/-- A slot is emptied. -/
theorem cached_clear (placed : heap.Placed) {slot : Thread × Purpose} {pointer : Nat}
    (keeps : heap.reusableMemory slot = some pointer) (other : Nat) :
    (heap.setReusable slot none).Cached other ↔ other ≠ pointer ∧ heap.Cached other := by
  constructor
  · rintro ⟨place, found⟩
    change Function.update heap.reusableMemory slot none place = some other at found
    by_cases own : place = slot
    · rw [own, Function.update_self] at found
      contradiction
    · rw [Function.update_of_ne own] at found
      refine ⟨?_, place, found⟩
      rintro rfl
      exact own (placed.single _ _ _ found keeps)
  · rintro ⟨different, place, found⟩
    refine ⟨place, ?_⟩
    change Function.update heap.reusableMemory slot none place = some other
    rw [Function.update_of_ne]
    · exact found
    · rintro rfl
      exact different (Option.some.inj (found.symm.trans keeps))

/-- A block is put into an empty slot. -/
theorem cached_fill {slot : Thread × Purpose} (empty : heap.reusableMemory slot = none)
    (pointer other : Nat) :
    (heap.setReusable slot (some pointer)).Cached other ↔ other = pointer ∨ heap.Cached other := by
  constructor
  · rintro ⟨place, found⟩
    change Function.update heap.reusableMemory slot (some pointer) place = some other at found
    by_cases own : place = slot
    · rw [own, Function.update_self] at found
      exact .inl (Option.some.inj found).symm
    · rw [Function.update_of_ne own] at found
      exact .inr ⟨place, found⟩
  · rintro (rfl | ⟨place, found⟩)
    · exact ⟨slot, Function.update_self ..⟩
    · refine ⟨place, ?_⟩
      change Function.update heap.reusableMemory slot (some pointer) place = some other
      rw [Function.update_of_ne]
      · exact found
      · rintro rfl
        rw [empty] at found
        contradiction

theorem single_clear (placed : heap.Placed) (slot : Thread × Purpose)
    {first second : Thread × Purpose} {pointer : Nat}
    (isFirst : (heap.setReusable slot none).reusableMemory first = some pointer)
    (isSecond : (heap.setReusable slot none).reusableMemory second = some pointer) :
    first = second := by
  have before : ∀ place, (heap.setReusable slot none).reusableMemory place = some pointer →
      heap.reusableMemory place = some pointer := by
    intro place found
    change Function.update heap.reusableMemory slot none place = some pointer at found
    by_cases own : place = slot
    · rw [own, Function.update_self] at found
      contradiction
    · rwa [Function.update_of_ne own] at found
  exact placed.single first second pointer (before first isFirst) (before second isSecond)

omit [DecidableEq Thread] in
theorem Placed.of_same (placed : heap.Placed) (created : after.created = heap.created)
    (reusableMemory : after.reusableMemory = heap.reusableMemory)
    (owned : after.owned = heap.owned) (deleted : after.deleted = heap.deleted) :
    after.Placed := by
  have cached : ∀ pointer, after.Cached pointer ↔ heap.Cached pointer := by
    intro pointer
    rw [Cached, reusableMemory, Cached]
  constructor
  · rw [created]
    intro pointer isBlock
    rcases placed.place pointer isBlock with
      ⟨user, notCached, notDeleted⟩ | ⟨unowned, isCached, notDeleted⟩ |
        ⟨unowned, notCached, isDeleted⟩
    · exact .owned (owned ▸ user) (notCached ∘ (cached pointer).mp) (deleted ▸ notDeleted)
    · exact .cached (owned ▸ unowned) ((cached pointer).mpr isCached) (deleted ▸ notDeleted)
    · exact .deleted (owned ▸ unowned) (notCached ∘ (cached pointer).mp) (deleted ▸ isDeleted)
  · rw [created, owned, deleted]
    intro pointer unborn
    rw [cached]
    exact placed.unborn pointer unborn
  · rw [reusableMemory]
    exact placed.single
  · rw [deleted]
    exact placed.once

omit [DecidableEq Thread] in
/-- A new block is given to a user. -/
theorem Placed.new (placed : heap.Placed) (capacity size : Nat) (bytes : Nat → UInt8) :
    ((heap.operatorNew capacity bytes).setOwned heap.created (some size)).Placed := by
  obtain ⟨-, notCached, notDeleted⟩ := placed.unborn heap.created (Nat.le_refl _)
  constructor
  · intro pointer isBlock
    rcases Nat.lt_succ_iff_lt_or_eq.mp isBlock with older | rfl
    · have owned : ((heap.operatorNew capacity bytes).setOwned heap.created (some size)).owned
          pointer = heap.owned pointer := Function.update_of_ne (Nat.ne_of_lt older) ..
      rcases placed.place pointer older with
        ⟨user, notCached, notDeleted⟩ | ⟨unowned, isCached, notDeleted⟩ |
          ⟨unowned, notCached, isDeleted⟩
      · exact .owned (owned.symm ▸ user) notCached notDeleted
      · exact .cached (owned.trans unowned) isCached notDeleted
      · exact .deleted (owned.trans unowned) notCached isDeleted
    · exact .owned ⟨size, Function.update_self ..⟩ notCached notDeleted
  · intro pointer unborn
    have unborn' : heap.created ≤ pointer := Nat.le_of_succ_le unborn
    obtain ⟨unowned, others⟩ := placed.unborn pointer unborn'
    refine ⟨?_, others⟩
    have different : pointer ≠ heap.created := Nat.ne_of_gt unborn
    exact (Function.update_of_ne different ..).trans unowned
  · exact placed.single
  · exact placed.once

/-- A block that was kept is given to a user. -/
theorem Placed.take (placed : heap.Placed) {slot : Thread × Purpose} {pointer : Nat}
    (keeps : heap.reusableMemory slot = some pointer) (size : Nat) :
    ((heap.setReusable slot none).setOwned pointer (some size)).Placed := by
  have cached := cached_clear placed keeps
  apply placed.moved (placed.lt_of_cached ⟨slot, keeps⟩)
  · rfl
  · intro other different
    refine ⟨Function.update_of_ne different .., ?_, Iff.rfl⟩
    exact (cached other).trans (and_iff_right different)
  · refine .owned ⟨size, Function.update_self ..⟩ ?_ (placed.of_cached ⟨slot, keeps⟩).2
    exact fun isCached => ((cached pointer).mp isCached).1 rfl
  · exact fun first second other => single_clear placed slot
  · exact placed.once

/-- A block that was kept is deleted. -/
theorem Placed.drop (placed : heap.Placed) {slot : Thread × Purpose} {pointer : Nat}
    (keeps : heap.reusableMemory slot = some pointer) :
    ((heap.setReusable slot none).operatorDelete pointer).Placed := by
  have cached := cached_clear placed keeps
  obtain ⟨unowned, notDeleted⟩ := placed.of_cached ⟨slot, keeps⟩
  apply placed.moved (placed.lt_of_cached ⟨slot, keeps⟩)
  · rfl
  · intro other different
    refine ⟨rfl, (cached other).trans (and_iff_right different), ?_⟩
    exact List.mem_cons.trans (or_iff_right different)
  · refine .deleted unowned ?_ List.mem_cons_self
    exact fun isCached => ((cached pointer).mp isCached).1 rfl
  · exact fun first second other => single_clear placed slot
  · exact List.nodup_cons.mpr ⟨notDeleted, placed.once⟩

omit [DecidableEq Thread] in
/-- A block is given back and deleted. -/
theorem Placed.giveBack (placed : heap.Placed) {pointer size : Nat}
    (owned : heap.owned pointer = some size) :
    ((heap.setOwned pointer none).operatorDelete pointer).Placed := by
  obtain ⟨notCached, notDeleted⟩ := placed.of_owned owned
  apply placed.moved (placed.lt_of_owned owned)
  · rfl
  · intro other different
    refine ⟨Function.update_of_ne different .., Iff.rfl, ?_⟩
    exact List.mem_cons.trans (or_iff_right different)
  · exact .deleted (Function.update_self ..) notCached List.mem_cons_self
  · exact placed.single
  · exact List.nodup_cons.mpr ⟨notDeleted, placed.once⟩

/-- A block is given back and kept. -/
theorem Placed.keep (placed : heap.Placed) {slot : Thread × Purpose} {pointer size : Nat}
    (empty : heap.reusableMemory slot = none) (owned : heap.owned pointer = some size) :
    ((heap.setOwned pointer none).setReusable slot (some pointer)).Placed := by
  have cached := cached_fill empty pointer
  obtain ⟨notCached, notDeleted⟩ := placed.of_owned owned
  apply placed.moved (placed.lt_of_owned owned)
  · rfl
  · intro other different
    refine ⟨Function.update_of_ne different .., ?_, Iff.rfl⟩
    exact (cached other).trans (or_iff_right different)
  · exact .cached (Function.update_self ..) ((cached pointer).mpr (.inl rfl)) notDeleted
  · intro first second other isFirst isSecond
    change Function.update heap.reusableMemory slot (some pointer) first = some other at isFirst
    change Function.update heap.reusableMemory slot (some pointer) second = some other at isSecond
    by_cases firstOwn : first = slot
    · by_cases secondOwn : second = slot
      · rw [firstOwn, secondOwn]
      · rw [firstOwn, Function.update_self, Option.some.injEq] at isFirst
        rw [Function.update_of_ne secondOwn, ← isFirst] at isSecond
        exact absurd ⟨second, isSecond⟩ notCached
    · rw [Function.update_of_ne firstOwn] at isFirst
      by_cases secondOwn : second = slot
      · rw [secondOwn, Function.update_self, Option.some.injEq] at isSecond
        rw [← isSecond] at isFirst
        exact absurd ⟨first, isFirst⟩ notCached
      · rw [Function.update_of_ne secondOwn] at isSecond
        exact placed.single first second other isFirst isSecond
  · exact placed.once

end RecyclingHeap

end Asio.Core
