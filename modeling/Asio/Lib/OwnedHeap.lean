import Mathlib.Data.List.Nodup
import Mathlib.Data.List.Perm.Subperm
import Mathlib.Data.List.Perm.Basic
import Mathlib.Logic.Function.Basic

/-! # Blocks of memory and who owns them

A heap gives every request for a block an answer: a block that was never given before, or
nothing. `Owns` lists what a heap holds, each block once and no other, in any order; what is
read, stored, allocated and freed is then read off the list. Cells are blocks that a link
leads to, one after the other, each with further blocks of its own.
-/

/-- What the blocks hold that are not freed, and how many were asked for. -/
structure OwnedHeap (Object : Type*) where
  object : Nat → Option Object
  asked : Nat

namespace OwnedHeap

variable {Object : Type*} {heap next : OwnedHeap Object} {objects others : List (Nat × Object)}
  {granted : Nat → Bool} {block : Nat} {object old : Object}

def empty : OwnedHeap Object := ⟨fun _ => none, 0⟩

/-- A request is granted, and the block holds an object. -/
def grant (object : Object) (heap : OwnedHeap Object) : OwnedHeap Object where
  object := Function.update heap.object heap.asked (some object)
  asked := heap.asked + 1

/-- A request is refused. -/
def refuse (heap : OwnedHeap Object) : OwnedHeap Object := { heap with asked := heap.asked + 1 }

/-- A block that holds an object, when this request is granted. -/
def alloc (granted : Nat → Bool) (object : Object) (heap : OwnedHeap Object) :
    Option Nat × OwnedHeap Object :=
  if granted heap.asked then (some heap.asked, heap.grant object) else (none, heap.refuse)

/-- A block holds another object. -/
def store (block : Nat) (object : Object) (heap : OwnedHeap Object) : OwnedHeap Object :=
  { heap with object := Function.update heap.object block (some object) }

/-- A null pointer may be freed, and a block that was not. -/
def free (block : Option Nat) (heap : OwnedHeap Object) : Option (OwnedHeap Object) :=
  match block with
  | none => some heap
  | some block =>
      match heap.object block with
      | none => none
      | some _ => some { heap with object := Function.update heap.object block none }

/-- The heap holds these objects and no others. -/
structure Owns (heap : OwnedHeap Object) (objects : List (Nat × Object)) : Prop where
  distinct : (objects.map Prod.fst).Nodup
  object_iff : ∀ block object, heap.object block = some object ↔ (block, object) ∈ objects
  given : ∀ held ∈ objects, held.1 < heap.asked

theorem owns_empty : (empty : OwnedHeap Object).Owns [] where
  distinct := List.nodup_nil
  object_iff := by
    intro block object
    exact iff_of_false (Option.some_ne_none _).symm List.not_mem_nil
  given := by
    intro held member
    cases member

/-- Some request was refused, between two states of the heap. -/
def Refused (granted : Nat → Bool) (heap next : OwnedHeap Object) : Prop :=
  ∃ request, heap.asked ≤ request ∧ request < next.asked ∧ granted request = false

theorem Refused.mono {before after : OwnedHeap Object} (refused : Refused granted heap next)
    (sooner : before.asked ≤ heap.asked) (later : next.asked ≤ after.asked) :
    Refused granted before after := by
  obtain ⟨request, least, most, denied⟩ := refused
  exact ⟨request, Nat.le_trans sooner least, Nat.lt_of_lt_of_le most later, denied⟩

theorem Refused.later (refused : Refused granted heap next) : heap.asked ≤ next.asked := by
  obtain ⟨request, least, most, -⟩ := refused
  exact Nat.le_trans least (Nat.le_of_lt most)

/-! ## One operation -/

theorem alloc_granted (given : granted heap.asked = true) (object : Object) :
    heap.alloc granted object = (some heap.asked, heap.grant object) := if_pos given

theorem alloc_refused (denied : granted heap.asked = false) (object : Object) :
    heap.alloc granted object = (none, heap.refuse) := by
  rw [alloc, denied]
  rfl

theorem refused_refuse (denied : granted heap.asked = false) : Refused granted heap heap.refuse :=
  ⟨heap.asked, Nat.le_refl _, Nat.lt_succ_self _, denied⟩

namespace Owns

theorem perm (owns : heap.Owns objects) (same : objects.Perm others) : heap.Owns others where
  distinct := (same.map Prod.fst).nodup_iff.mp owns.distinct
  object_iff block object := (owns.object_iff block object).trans same.mem_iff
  given held member := owns.given held (same.mem_iff.mpr member)

theorem read (owns : heap.Owns objects) (member : (block, object) ∈ objects) :
    heap.object block = some object := (owns.object_iff block object).mpr member

/-- The block of a request that was not made holds nothing. -/
theorem fresh (owns : heap.Owns objects) : ∀ held ∈ objects, held.1 ≠ heap.asked := by
  intro held member
  exact Nat.ne_of_lt (owns.given held member)

theorem grant (owns : heap.Owns objects) (object : Object) :
    (heap.grant object).Owns ((heap.asked, object) :: objects) where
  distinct := by
    refine List.nodup_cons.mpr ⟨?_, owns.distinct⟩
    intro member
    obtain ⟨held, inside, same⟩ := List.mem_map.mp member
    exact owns.fresh held inside same
  object_iff := by
    intro block other
    rw [List.mem_cons, Prod.mk.injEq, OwnedHeap.grant]
    by_cases same : block = heap.asked
    · subst same
      have outside : (heap.asked, other) ∉ objects := fun member => owns.fresh _ member rfl
      simp only [Function.update_self, Option.some.injEq, true_and, outside, or_false]
      exact eq_comm
    · simp only [Function.update_of_ne same, same, false_and, false_or]
      exact owns.object_iff block other
  given := by
    intro held member
    rcases List.mem_cons.mp member with rfl | inside
    · exact Nat.lt_succ_self _
    · exact Nat.lt_succ_of_lt (owns.given held inside)

theorem refuse (owns : heap.Owns objects) : heap.refuse.Owns objects where
  distinct := owns.distinct
  object_iff := owns.object_iff
  given held member := Nat.lt_succ_of_lt (owns.given held member)

/-- The other objects are not in the block of the first one. -/
theorem apart (owns : heap.Owns ((block, old) :: objects)) (object : Object) :
    (block, object) ∉ objects := by
  intro member
  exact (List.nodup_cons.mp owns.distinct).1 (List.mem_map.mpr ⟨_, member, rfl⟩)

theorem store (owns : heap.Owns ((block, old) :: objects)) (object : Object) :
    (heap.store block object).Owns ((block, object) :: objects) where
  distinct := owns.distinct
  object_iff := by
    intro other held
    rw [List.mem_cons, Prod.mk.injEq, OwnedHeap.store]
    by_cases same : other = block
    · subst same
      simp only [Function.update_self, Option.some.injEq, true_and, owns.apart held, or_false]
      exact eq_comm
    · simp only [Function.update_of_ne same, same, false_and, false_or]
      refine (owns.object_iff other held).trans ?_
      rw [List.mem_cons, Prod.mk.injEq]
      simp only [same, false_and, false_or]
  given := by
    intro held member
    rcases List.mem_cons.mp member with rfl | inside
    · exact owns.given (block, old) List.mem_cons_self
    · exact owns.given _ (List.mem_cons_of_mem _ inside)

theorem free (owns : heap.Owns ((block, object) :: objects)) :
    ∃ next, heap.free (some block) = some next ∧ next.Owns objects ∧ next.asked = heap.asked := by
  have held := owns.read List.mem_cons_self
  refine ⟨{ heap with object := Function.update heap.object block none }, ?_, ⟨?_, ?_, ?_⟩, rfl⟩
  · simp only [OwnedHeap.free, held]
  · exact (List.nodup_cons.mp owns.distinct).2
  · intro other value
    by_cases same : other = block
    · subst same
      simp only [Function.update_self, reduceCtorEq, owns.apart value]
    · simp only [Function.update_of_ne same]
      refine (owns.object_iff other value).trans ?_
      rw [List.mem_cons, Prod.mk.injEq]
      simp only [same, false_and, false_or]
  · exact fun held member => owns.given held (List.mem_cons_of_mem _ member)

/-- No more objects are held than blocks were asked for. -/
theorem length_le (owns : heap.Owns objects) : objects.length ≤ heap.asked := by
  have within : objects.map Prod.fst ⊆ List.range heap.asked := by
    intro block member
    obtain ⟨held, inside, rfl⟩ := List.mem_map.mp member
    exact List.mem_range.mpr (owns.given held inside)
  have most := (List.subperm_of_subset owns.distinct within).length_le
  rwa [List.length_map, List.length_range] at most

/-- A pointer that may be null is freed with what it points to. -/
theorem freeAll {pointer : Option (Nat × Object)} (owns : heap.Owns (pointer.toList ++ objects)) :
    ∃ next, heap.free (pointer.map Prod.fst) = some next ∧ next.Owns objects ∧
      next.asked = heap.asked := by
  cases pointer with
  | none => exact ⟨heap, rfl, owns, rfl⟩
  | some held => exact owns.free

end Owns

/-! ## Cells -/

/-- A block of which the object has a link, and the blocks that belong to it. -/
structure Cell (Object : Type*) where
  block : Nat
  node : Option Nat → Object
  owned : List (Nat × Object)

namespace Cell

variable (cell : Cell Object)

/-- The block of the cell linked to another, and the blocks that belong to it. -/
def blocks (link : Option Nat) : List (Nat × Object) := (cell.block, cell.node link) :: cell.owned

/-- Where the first of some cells is, or what the last of them is linked to. -/
def first (stop : Option Nat) : List (Cell Object) → Option Nat
  | [] => stop
  | cell :: _ => some cell.block

/-- All blocks of cells of which the last one is linked to `stop`. -/
def allBlocks (stop : Option Nat) : List (Cell Object) → List (Nat × Object)
  | [] => []
  | cell :: rest => cell.blocks (first stop rest) ++ allBlocks stop rest

variable {cell} {cells after : List (Cell Object)} {stop : Option Nat}

theorem first_append : first stop (cells ++ after) = first (first stop after) cells := by
  cases cells <;> rfl

theorem allBlocks_append : allBlocks stop (cells ++ after) =
    allBlocks (first stop after) cells ++ allBlocks stop after := by
  induction cells with
  | nil => rfl
  | cons cell cells ih =>
      simp only [List.cons_append, allBlocks, ih, first_append, List.append_assoc]

/-- What a cell in the middle of others holds is put in front. -/
theorem owns_middle_iff : heap.Owns (allBlocks stop (cells ++ cell :: after) ++ others) ↔
    heap.Owns (cell.blocks (first stop after) ++
      (allBlocks (some cell.block) cells ++ (allBlocks stop after ++ others))) := by
  have same : (allBlocks stop (cells ++ cell :: after) ++ others).Perm
      (cell.blocks (first stop after) ++
        (allBlocks (some cell.block) cells ++ (allBlocks stop after ++ others))) := by
    rw [allBlocks_append, allBlocks, first]
    simp only [← List.append_assoc]
    exact ((List.perm_append_comm.append_right _).append_right _)
  exact ⟨fun owns => owns.perm same, fun owns => owns.perm same.symm⟩

/-- There are no more cells than blocks were asked for. -/
theorem length_le (owns : heap.Owns (allBlocks stop cells ++ others)) :
    cells.length ≤ heap.asked := by
  have fewer : cells.length ≤ (allBlocks stop cells).length := by
    clear owns
    induction cells with
    | nil => exact Nat.le_refl 0
    | cons cell cells ih =>
        rw [allBlocks, List.length_append, blocks, List.length_cons, List.length_cons]
        omega
  have most := owns.length_le
  rw [List.length_append] at most
  omega

end Cell

end OwnedHeap
