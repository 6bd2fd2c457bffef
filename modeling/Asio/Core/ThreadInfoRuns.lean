import Asio.Core.ThreadInfo
import Mathlib.Data.List.Range

/-! # Recycled blocks are large enough and not shared

A tag is at most the capacity of its block, in chunks, and stays so when the block is used
for less and less. With every block in one place it follows that what `allocate` returns has
room for the size and for the tag, and that no one else has it.
-/

namespace Asio.Core

namespace RecyclingHeap

variable {Thread : Type*} [DecidableEq Thread] {heap after : RecyclingHeap Thread}

/-! ## What the tags say -/

/-- A block has room for what its user asked for, and a tag is not too large. -/
structure Tagged (heap : RecyclingHeap Thread) : Prop where
  inUse : ∀ pointer size, heap.owned pointer = some size →
    size < (heap.blocks pointer).capacity ∧
      ((heap.blocks pointer).bytes size).toNat * chunkSize < (heap.blocks pointer).capacity
  kept : ∀ pointer, heap.Cached pointer →
    ((heap.blocks pointer).bytes 0).toNat * chunkSize < (heap.blocks pointer).capacity

/-- The invariant of the memory. -/
structure Sound (heap : RecyclingHeap Thread) : Prop where
  placed : heap.Placed
  tagged : heap.Tagged

omit [DecidableEq Thread] in
theorem store_self (heap : RecyclingHeap Thread) (pointer offset : Nat) (value : UInt8) :
    (heap.store pointer offset value).blocks pointer = (heap.blocks pointer).store offset value :=
  Function.update_self ..

omit [DecidableEq Thread] in
theorem store_of_ne (heap : RecyclingHeap Thread) {pointer other : Nat}
    (different : other ≠ pointer) (offset : Nat) (value : UInt8) :
    (heap.store pointer offset value).blocks other = heap.blocks other :=
  Function.update_of_ne different ..

theorem store_bytes_self (block : Block) (offset : Nat) (value : UInt8) :
    (block.store offset value).bytes offset = value :=
  Function.update_self ..

theorem store_bytes_of_ne (block : Block) {offset other : Nat} (different : other ≠ offset)
    (value : UInt8) : (block.store offset value).bytes other = block.bytes other :=
  Function.update_of_ne different ..

theorem store_capacity (block : Block) (offset : Nat) (value : UInt8) :
    (block.store offset value).capacity = block.capacity := rfl

omit [DecidableEq Thread] in
theorem setOwned_self (heap : RecyclingHeap Thread) (pointer : Nat) (size : Option Nat) :
    (heap.setOwned pointer size).owned pointer = size :=
  Function.update_self ..

omit [DecidableEq Thread] in
theorem setOwned_of_ne (heap : RecyclingHeap Thread) {pointer other : Nat}
    (different : other ≠ pointer) (size : Option Nat) :
    (heap.setOwned pointer size).owned other = heap.owned other :=
  Function.update_of_ne different ..

omit [DecidableEq Thread] in
/-- One block is given to a user with a tag, and the others are what they were. -/
theorem Tagged.given (tagged : heap.Tagged) {pointer size : Nat}
    (owned : after.owned = Function.update heap.owned pointer (some size))
    (blocks : ∀ other ≠ pointer, after.blocks other = heap.blocks other)
    (cached : ∀ other, after.Cached other → other ≠ pointer ∧ heap.Cached other)
    (room : size < (after.blocks pointer).capacity)
    (honest : ((after.blocks pointer).bytes size).toNat * chunkSize <
      (after.blocks pointer).capacity) : after.Tagged where
  inUse := by
    intro other size' user
    rw [owned] at user
    by_cases own : other = pointer
    · rw [own, Function.update_self, Option.some.injEq] at user
      rw [own, ← user]
      exact ⟨room, honest⟩
    · rw [Function.update_of_ne own] at user
      rw [blocks other own]
      exact tagged.inUse other size' user
  kept := by
    intro other isCached
    obtain ⟨different, before⟩ := cached other isCached
    rw [blocks other different]
    exact tagged.kept other before

omit [DecidableEq Thread] in
theorem Sound.new (sound : heap.Sound) {size : Nat} (fits : size + 3 < 2 ^ 64)
    (bytes : Nat → UInt8) {tag : UInt8} (honest : tag.toNat * chunkSize <
      chunksOf size * chunkSize + 1) :
    (((heap.operatorNew ((chunksOf size * chunkSize + 1) % 2 ^ 64) bytes).store heap.created size
      tag).setOwned heap.created (some size)).Sound where
  placed := (sound.placed.new 0 size bytes).of_same rfl rfl rfl rfl
  tagged := by
    have block : (((heap.operatorNew ((chunksOf size * chunkSize + 1) % 2 ^ 64) bytes).store
        heap.created size tag).setOwned heap.created (some size)).blocks heap.created =
        Block.store ⟨chunksOf size * chunkSize + 1, bytes⟩ size tag := by
      apply (store_self ..).trans
      rw [capacity_eq fits]
      exact congrArg (Block.store · size tag) (Function.update_self ..)
    apply sound.tagged.given
    · rfl
    · intro other different
      exact (store_of_ne _ different ..).trans (Function.update_of_ne different ..)
    · intro other isCached
      exact ⟨Nat.ne_of_lt (sound.placed.lt_of_cached isCached), isCached⟩
    · rw [block]
      exact lt_chunksOf fits
    · rw [block, store_bytes_self]
      exact honest

theorem Sound.take (sound : heap.Sound) {slot : Thread × Purpose} {pointer size : Nat}
    (keeps : heap.reusableMemory slot = some pointer) (fits : size + 3 < 2 ^ 64)
    (enough : chunksOf size ≤ ((heap.blocks pointer).bytes 0).toNat) :
    (((heap.setReusable slot none).store pointer size ((heap.blocks pointer).bytes 0)).setOwned
      pointer (some size)).Sound where
  placed := (sound.placed.take keeps size).of_same rfl rfl rfl rfl
  tagged := by
    have honest := sound.tagged.kept pointer ⟨slot, keeps⟩
    have block : (((heap.setReusable slot none).store pointer size
        ((heap.blocks pointer).bytes 0)).setOwned pointer (some size)).blocks pointer =
        (heap.blocks pointer).store size ((heap.blocks pointer).bytes 0) := store_self ..
    apply sound.tagged.given
    · rfl
    · exact fun other different => store_of_ne _ different ..
    · exact fun other isCached => (cached_clear sound.placed keeps other).mp isCached
    · rw [block, store_capacity]
      apply Nat.lt_of_le_of_lt _ honest
      apply (Nat.le_of_lt_succ (lt_chunksOf fits)).trans
      exact Nat.mul_le_mul_right _ enough
    · rw [block, store_bytes_self]
      exact honest

theorem Sound.drop (sound : heap.Sound) {slot : Thread × Purpose} {pointer : Nat}
    (keeps : heap.reusableMemory slot = some pointer) :
    ((heap.setReusable slot none).operatorDelete pointer).Sound where
  placed := sound.placed.drop keeps
  tagged := {
    inUse := sound.tagged.inUse
    kept := fun other isCached =>
      sound.tagged.kept other ((cached_clear sound.placed keeps other).mp isCached).2 }

omit [DecidableEq Thread] in
theorem owned_of_setOwned_none {pointer other size : Nat}
    (owned : (heap.setOwned pointer none).owned other = some size) :
    other ≠ pointer ∧ heap.owned other = some size := by
  by_cases own : other = pointer
  · rw [own, setOwned_self] at owned
    contradiction
  · rw [setOwned_of_ne heap own] at owned
    exact ⟨own, owned⟩

omit [DecidableEq Thread] in
theorem Sound.giveBack (sound : heap.Sound) {pointer size : Nat}
    (owned : heap.owned pointer = some size) :
    ((heap.setOwned pointer none).operatorDelete pointer).Sound where
  placed := sound.placed.giveBack owned
  tagged := {
    inUse := fun other size' user =>
      sound.tagged.inUse other size' (owned_of_setOwned_none user).2
    kept := sound.tagged.kept }

theorem Sound.keep (sound : heap.Sound) {slot : Thread × Purpose} {pointer size : Nat}
    (empty : heap.reusableMemory slot = none) (owned : heap.owned pointer = some size) :
    (((heap.setOwned pointer none).store pointer 0 ((heap.blocks pointer).bytes size)).setReusable
      slot (some pointer)).Sound where
  placed := (sound.placed.keep empty owned).of_same rfl rfl rfl rfl
  tagged := by
    constructor
    · intro other size' user
      obtain ⟨different, before⟩ := owned_of_setOwned_none user
      have same : (((heap.setOwned pointer none).store pointer 0
          ((heap.blocks pointer).bytes size)).setReusable slot (some pointer)).blocks other =
          heap.blocks other := store_of_ne _ different ..
      rw [same]
      exact sound.tagged.inUse other size' before
    · intro other isCached
      by_cases own : other = pointer
      · have block : (((heap.setOwned pointer none).store pointer 0
            ((heap.blocks pointer).bytes size)).setReusable slot (some pointer)).blocks pointer =
            (heap.blocks pointer).store 0 ((heap.blocks pointer).bytes size) := store_self ..
        rw [own, block, store_bytes_self]
        exact (sound.tagged.inUse pointer size owned).2
      · have same : (((heap.setOwned pointer none).store pointer 0
            ((heap.blocks pointer).bytes size)).setReusable slot (some pointer)).blocks other =
            heap.blocks other := store_of_ne _ own ..
        rw [same]
        have before := (cached_fill empty pointer other).mp isCached
        exact sound.tagged.kept other (before.resolve_left own)

omit [DecidableEq Thread] in
/-- A user writes into what it asked for. -/
theorem Sound.write (sound : heap.Sound) {pointer offset size : Nat}
    (owned : heap.owned pointer = some size) (within : offset < size) (value : UInt8) :
    (heap.store pointer offset value).Sound where
  placed := sound.placed.of_same rfl rfl rfl rfl
  tagged := by
    constructor
    · intro other size' user
      by_cases own : other = pointer
      · rw [own] at user
        obtain rfl : size = size' := Option.some.inj (owned.symm.trans user)
        rw [own, store_self, store_bytes_of_ne _ (Nat.ne_of_gt within)]
        exact sound.tagged.inUse pointer size owned
      · rw [store_of_ne heap own]
        exact sound.tagged.inUse other size' user
    · intro other isCached
      have different : other ≠ pointer := by
        rintro rfl
        exact (sound.placed.of_owned owned).1 isCached
      rw [store_of_ne heap different]
      exact sound.tagged.kept other isCached

/-! ## What the functions do -/

/-- What `allocate` does, and returns. -/
inductive Allocates (size : Nat) :
    RecyclingHeap Thread → Option Nat × RecyclingHeap Thread → Prop where
  | exhausted (heap : RecyclingHeap Thread) : Allocates size heap (none, heap)
  | fresh (heap : RecyclingHeap Thread) (bytes : Nat → UInt8) (tag : UInt8) :
      tag.toNat * chunkSize < chunksOf size * chunkSize + 1 →
      Allocates size heap (some heap.created,
        ((heap.operatorNew ((chunksOf size * chunkSize + 1) % 2 ^ 64) bytes).store heap.created
          size tag).setOwned heap.created (some size))
  | recycled (heap : RecyclingHeap Thread) (slot : Thread × Purpose) (pointer : Nat) :
      heap.reusableMemory slot = some pointer →
      chunksOf size ≤ ((heap.blocks pointer).bytes 0).toNat →
      Allocates size heap (some pointer,
        ((heap.setReusable slot none).store pointer size ((heap.blocks pointer).bytes 0)).setOwned
          pointer (some size))
  | dropped (heap : RecyclingHeap Thread) (slot : Thread × Purpose) (pointer : Nat)
      (result : Option Nat × RecyclingHeap Thread) :
      heap.reusableMemory slot = some pointer →
      Allocates size ((heap.setReusable slot none).operatorDelete pointer) result →
      Allocates size heap result

theorem allocateNew_allocates (heap : RecyclingHeap Thread) (size : Nat)
    (memory : Option (Nat → UInt8)) : Allocates size heap (heap.allocateNew size memory) := by
  cases memory with
  | none => exact .exhausted heap
  | some bytes => exact .fresh heap bytes _ newTag_honest

theorem allocate_allocates (heap : RecyclingHeap Thread) (thisThread : Option Thread)
    (purpose : Purpose) (size : Nat) (memory : Option (Nat → UInt8)) :
    Allocates size heap (heap.allocate thisThread purpose size memory) := by
  cases thisThread with
  | none => exact heap.allocateNew_allocates size memory
  | some thread =>
      unfold allocate
      dsimp only
      cases keeps : heap.reusableMemory (thread, purpose) with
      | none => exact heap.allocateNew_allocates size memory
      | some pointer =>
          dsimp only
          split
          · next enough => exact .recycled heap _ pointer keeps enough
          · exact .dropped heap _ pointer _ keeps (allocateNew_allocates _ size memory)

theorem Sound.of_allocates {size : Nat} {result : Option Nat × RecyclingHeap Thread}
    (allocates : Allocates size heap result) (sound : heap.Sound) (fits : size + 3 < 2 ^ 64) :
    result.2.Sound := by
  induction allocates with
  | exhausted heap => exact sound
  | fresh heap bytes tag honest => exact sound.new fits bytes honest
  | recycled heap slot pointer keeps enough => exact sound.take keeps fits enough
  | dropped heap slot pointer result keeps _ ih => exact ih (sound.drop keeps)

/-- `deallocate` keeps the block or deletes it. -/
theorem deallocate_cases (heap : RecyclingHeap Thread) (thisThread : Option Thread)
    (purpose : Purpose) (pointer size : Nat) :
    heap.deallocate thisThread purpose pointer size =
        (heap.setOwned pointer none).operatorDelete pointer ∨
      ∃ slot, heap.reusableMemory slot = none ∧
        heap.deallocate thisThread purpose pointer size =
          ((heap.setOwned pointer none).store pointer 0
            ((heap.blocks pointer).bytes size)).setReusable slot (some pointer) := by
  unfold deallocate
  dsimp only
  split
  · cases thisThread with
    | none => exact .inl rfl
    | some thread =>
        dsimp only
        cases keeps : heap.reusableMemory (thread, purpose) with
        | none => exact .inr ⟨_, keeps, rfl⟩
        | some other => exact .inl rfl
  · exact .inl rfl

theorem Sound.deallocate (sound : heap.Sound) {pointer size : Nat}
    (owned : heap.owned pointer = some size) (thisThread : Option Thread) (purpose : Purpose) :
    (heap.deallocate thisThread purpose pointer size).Sound := by
  rcases heap.deallocate_cases thisThread purpose pointer size with result | ⟨slot, empty, result⟩
  · rw [result]
    exact sound.giveBack owned
  · rw [result]
    exact sound.keep empty owned

theorem Sound.destroySlot (sound : heap.Sound) (slot : Thread × Purpose) :
    (heap.destroySlot slot).Sound := by
  rw [RecyclingHeap.destroySlot]
  cases keeps : heap.reusableMemory slot with
  | none => exact sound
  | some pointer => exact sound.drop keeps

theorem Sound.destroyThread (sound : heap.Sound) (thread : Thread) :
    (heap.destroyThread thread).Sound :=
  ((sound.destroySlot _).destroySlot _).destroySlot _

theorem Sound.step (sound : heap.Sound) {action : RecyclingAction Thread}
    (stepped : heap.step action = some after) : after.Sound := by
  cases action with
  | allocate thisThread purpose size memory =>
      rw [RecyclingHeap.step] at stepped
      split at stepped
      · next fits =>
        cases stepped
        exact sound.of_allocates (heap.allocate_allocates thisThread purpose size memory) fits
      · contradiction
  | deallocate thisThread purpose pointer size =>
      rw [RecyclingHeap.step] at stepped
      split at stepped
      · next owned =>
        cases stepped
        exact sound.deallocate owned thisThread purpose
      · contradiction
  | write pointer offset value =>
      rw [RecyclingHeap.step] at stepped
      split at stepped
      · next within =>
        cases stepped
        obtain ⟨size, owned, small⟩ := Option.any_eq_true _ _ |>.mp within
        exact sound.write owned (of_decide_eq_true small) value
      · contradiction
  | destroyThread thread =>
      cases stepped
      exact sound.destroyThread thread

omit [DecidableEq Thread] in
theorem sound_initial : (initial : RecyclingHeap Thread).Sound where
  placed := {
    place := fun _ impossible => absurd impossible (Nat.not_lt_zero _)
    unborn := fun _ _ =>
      ⟨rfl, fun cached => absurd cached.choose_spec (Option.some_ne_none _).symm, List.not_mem_nil⟩
    single := nofun
    once := List.nodup_nil }
  tagged := {
    inUse := nofun
    kept := fun _ cached => absurd cached.choose_spec (Option.some_ne_none _).symm }

theorem sound_of_reachable (reachable : (machine Thread).Reachable heap) : heap.Sound := by
  apply reachable.invariant
  · rintro _ rfl
    exact sound_initial
  · exact fun _ _ _ _ sound _ stepped => sound.step stepped

/-! ## What users rely on -/

/-- A block is given to a user that no one has, with room for the size and the tag. -/
structure Returned (heap after : RecyclingHeap Thread) (pointer size : Nat) : Prop where
  unowned : heap.owned pointer = none
  owned : after.owned pointer = some size
  room : size < (after.blocks pointer).capacity
  notCached : ¬ after.Cached pointer
  notDeleted : pointer ∉ after.deleted

/-- What users rely on: blocks are large enough and not shared, no tag overstates the capacity
of its block, a block that is kept has no user and is kept once, a block is deleted once, and
each one is deleted when no one has it any more. -/
structure Safe (heap : RecyclingHeap Thread) : Prop where
  allocated : ∀ thisThread purpose size memory pointer, size + 3 < 2 ^ 64 →
    (heap.allocate thisThread purpose size memory).1 = some pointer →
      heap.Returned (heap.allocate thisThread purpose size memory).2 pointer size
  inUse : ∀ pointer size, heap.owned pointer = some size →
    size < (heap.blocks pointer).capacity ∧
      ((heap.blocks pointer).bytes size).toNat ≤ (heap.blocks pointer).chunks
  kept : ∀ slot pointer, heap.reusableMemory slot = some pointer →
    ((heap.blocks pointer).bytes 0).toNat ≤ (heap.blocks pointer).chunks ∧
      heap.owned pointer = none ∧
        ∀ other, heap.reusableMemory other = some pointer → other = slot
  deletedOnce : heap.deleted.Nodup
  deletedLast : ∀ pointer ∈ heap.deleted, heap.owned pointer = none ∧ ¬ heap.Cached pointer
  drained : (∀ pointer, heap.owned pointer = none) → (∀ pointer, ¬ heap.Cached pointer) →
    heap.deleted.Perm (List.range heap.created)
  unaliased : ∀ action next, heap.step action = some next → ∀ pointer size,
    heap.owned pointer = some size → next.owned pointer = some size →
      (∀ offset value, action ≠ .write pointer offset value) →
        next.blocks pointer = heap.blocks pointer

theorem Allocates.returned {size pointer : Nat} {result : Option Nat × RecyclingHeap Thread}
    (allocates : Allocates size heap result) (sound : heap.Sound)
    (returns : result.1 = some pointer) :
    heap.owned pointer = none ∧ result.2.owned pointer = some size := by
  induction allocates with
  | exhausted heap => contradiction
  | fresh heap bytes tag honest =>
      obtain rfl : heap.created = pointer := Option.some.inj returns
      exact ⟨(sound.placed.unborn heap.created (Nat.le_refl _)).1, setOwned_self ..⟩
  | recycled heap slot other keeps enough =>
      obtain rfl : other = pointer := Option.some.inj returns
      exact ⟨(sound.placed.of_cached ⟨slot, keeps⟩).1, setOwned_self ..⟩
  | dropped heap slot other result keeps _ ih => exact ih (sound.drop keeps) returns

/-- `allocate` does not touch a block that has a user. -/
theorem Allocates.blocks {size pointer user : Nat} {result : Option Nat × RecyclingHeap Thread}
    (allocates : Allocates size heap result) (sound : heap.Sound)
    (owned : heap.owned pointer = some user) : result.2.blocks pointer = heap.blocks pointer := by
  induction allocates with
  | exhausted heap => rfl
  | fresh heap bytes tag honest =>
      have different := Nat.ne_of_lt (sound.placed.lt_of_owned owned)
      exact (store_of_ne _ different ..).trans (Function.update_of_ne different ..)
  | recycled heap slot other keeps enough =>
      apply store_of_ne
      rintro rfl
      exact (sound.placed.of_owned owned).1 ⟨slot, keeps⟩
  | dropped heap slot other result keeps _ ih => exact ih (sound.drop keeps) owned

theorem destroySlot_blocks (heap : RecyclingHeap Thread) (slot : Thread × Purpose) :
    (heap.destroySlot slot).blocks = heap.blocks := by
  rw [destroySlot]
  split <;> rfl

/-- A step touches a block that has a user only if the user writes into it, or gives it back. -/
theorem Sound.unaliased (sound : heap.Sound) {action : RecyclingAction Thread}
    (stepped : heap.step action = some after) {pointer size : Nat}
    (before : heap.owned pointer = some size) (owned : after.owned pointer = some size)
    (unwritten : ∀ offset value, action ≠ .write pointer offset value) :
    after.blocks pointer = heap.blocks pointer := by
  cases action with
  | allocate thisThread purpose requested memory =>
      rw [RecyclingHeap.step] at stepped
      split at stepped
      · cases stepped
        exact (heap.allocate_allocates thisThread purpose requested memory).blocks sound before
      · contradiction
  | deallocate thisThread purpose given requested =>
      rw [RecyclingHeap.step] at stepped
      split at stepped
      · cases stepped
        rcases heap.deallocate_cases thisThread purpose given requested with
          result | ⟨slot, empty, result⟩
        · rw [result]
          rfl
        · rw [result] at owned ⊢
          exact store_of_ne _ (owned_of_setOwned_none owned).1 ..
      · contradiction
  | write written offset value =>
      rw [RecyclingHeap.step] at stepped
      split at stepped
      · cases stepped
        apply store_of_ne
        rintro rfl
        exact unwritten offset value rfl
      · contradiction
  | destroyThread thread =>
      cases stepped
      change ((((heap.destroySlot _).destroySlot _).destroySlot _).blocks pointer) = _
      rw [destroySlot_blocks, destroySlot_blocks, destroySlot_blocks]

omit [DecidableEq Thread] in
/-- When no one has a block any more, every block has been deleted. -/
theorem Placed.drained (placed : heap.Placed) (unowned : ∀ pointer, heap.owned pointer = none)
    (notCached : ∀ pointer, ¬ heap.Cached pointer) :
    heap.deleted.Perm (List.range heap.created) := by
  apply (List.perm_ext_iff_of_nodup placed.once List.nodup_range).mpr
  intro pointer
  rw [List.mem_range]
  constructor
  · intro isDeleted
    by_contra unborn
    exact (placed.unborn pointer (Nat.le_of_not_lt unborn)).2.2 isDeleted
  · intro isBlock
    rcases placed.place pointer isBlock with ⟨user, -, -⟩ | ⟨-, isCached, -⟩ | ⟨-, -, isDeleted⟩
    · obtain ⟨size, owned⟩ := user
      rw [unowned] at owned
      contradiction
    · exact absurd isCached (notCached pointer)
    · exact isDeleted

/-- In every state that threads and users reach, the recycled memory is safe. -/
theorem recycling_safe (reachable : (machine Thread).Reachable heap) : heap.Safe := by
  have sound := sound_of_reachable reachable
  constructor
  · intro thisThread purpose size memory pointer fits returns
    have allocates := heap.allocate_allocates thisThread purpose size memory
    have after := sound.of_allocates allocates fits
    obtain ⟨unowned, owned⟩ := allocates.returned sound returns
    obtain ⟨notCached, notDeleted⟩ := after.placed.of_owned owned
    exact ⟨unowned, owned, (after.tagged.inUse pointer size owned).1, notCached, notDeleted⟩
  · intro pointer size owned
    obtain ⟨room, honest⟩ := sound.tagged.inUse pointer size owned
    exact ⟨room, tag_le_chunks honest⟩
  · intro slot pointer keeps
    refine ⟨tag_le_chunks (sound.tagged.kept pointer ⟨slot, keeps⟩),
      (sound.placed.of_cached ⟨slot, keeps⟩).1, fun other found => ?_⟩
    exact sound.placed.single other slot pointer found keeps
  · exact sound.placed.once
  · intro pointer isDeleted
    constructor
    · cases owned : heap.owned pointer with
      | none => rfl
      | some size => exact absurd isDeleted (sound.placed.of_owned owned).2
    · exact fun isCached => (sound.placed.of_cached isCached).2 isDeleted
  · exact sound.placed.drained
  · intro action next stepped pointer size before owned unwritten
    exact sound.unaliased stepped before owned unwritten

/-- A block of three chunks is used for two of them, and then for three. -/
def reuse : List (RecyclingAction Unit) :=
  [.allocate (some ()) .default 12 (some fun _ => 0), .write 0 11 7,
    .deallocate (some ()) .default 0 12, .allocate (some ()) .default 5 none,
    .deallocate (some ()) .default 0 5, .allocate (some ()) .default 10 none]

theorem recycling_safe_reuse :
    ∃ heap : RecyclingHeap Unit, (machine Unit).run initial reuse = some heap ∧
      heap.created = 1 ∧ heap.owned 0 = some 10 ∧ heap.Safe :=
  ⟨_, rfl, rfl, rfl, recycling_safe (.run (.initial rfl) reuse rfl)⟩

end RecyclingHeap

end Asio.Core
