import Mathlib.Data.List.Nodup
import Mathlib.Data.List.Perm.Basic
import Mathlib.Logic.Function.Basic

/-! # Items in one place at a time

Items are brought into a system once and then only move from place to place. Every item is in
exactly one place, once: a new one is put somewhere, and some places give up items that one
other place takes.
-/

namespace Custody

variable {Place Item : Type*}

/-- Every item that was brought in is in one place, once. -/
structure Kept (given : List Item) (contents : Place → List Item) : Prop where
  once : ∀ place, (contents place).Nodup
  apart : ∀ {first second item}, item ∈ contents first → item ∈ contents second → first = second
  covers : ∀ item, item ∈ given ↔ ∃ place, item ∈ contents place

variable {given : List Item} {contents after : Place → List Item}

theorem kept_nil : Kept [] (fun _ : Place => ([] : List Item)) where
  once _ := List.nodup_nil
  apart member := absurd member List.not_mem_nil
  covers _ := by
    constructor
    · exact fun member => absurd member List.not_mem_nil
    · exact fun ⟨_, member⟩ => absurd member List.not_mem_nil

/-- The order of a place does not matter. -/
theorem Kept.perm (kept : Kept given contents)
    (same : ∀ place, (after place).Perm (contents place)) : Kept given after where
  once place := (same place).nodup_iff.mpr (kept.once place)
  apart inFirst inSecond :=
    kept.apart ((same _).mem_iff.mp inFirst) ((same _).mem_iff.mp inSecond)
  covers item := by
    rw [kept.covers item]
    exact exists_congr fun place => (same place).mem_iff.symm

/-- **A new item** is put in one place. -/
theorem Kept.enter (kept : Kept given contents) (target : Place) {item : Item}
    (fresh : item ∉ given) (arrives : (after target).Perm (contents target ++ [item]))
    (stays : ∀ place, place ≠ target → after place = contents place) :
    Kept (given ++ [item]) after := by
  have absent : ∀ place, item ∉ contents place :=
    fun place inside => fresh ((kept.covers item).mpr ⟨place, inside⟩)
  have cases : ∀ other place, other ∈ after place ↔
      other ∈ contents place ∨ place = target ∧ other = item := by
    intro other place
    by_cases own : place = target
    · subst own
      rw [arrives.mem_iff, List.mem_append, List.mem_singleton]
      simp
    · rw [stays place own]
      simp [own]
  refine ⟨fun place => ?_, @fun first second other inFirst inSecond => ?_, fun other => ?_⟩
  · by_cases own : place = target
    · subst own
      rw [arrives.nodup_iff]
      exact List.nodup_append.mpr ⟨kept.once _, List.nodup_singleton item,
        fun other inside _ isItem same => absent _
          (List.mem_singleton.mp isItem ▸ same ▸ inside)⟩
    · rw [stays place own]
      exact kept.once place
  · rcases (cases other first).mp inFirst with before | ⟨rfl, rfl⟩
    · rcases (cases other second).mp inSecond with also | ⟨-, rfl⟩
      · exact kept.apart before also
      · exact absurd before (absent first)
    · rcases (cases other second).mp inSecond with also | ⟨same, -⟩
      · exact absurd also (absent second)
      · exact same.symm
  · rw [List.mem_append, List.mem_singleton, kept.covers other]
    constructor
    · intro known
      rcases known with ⟨place, inside⟩ | rfl
      · exact ⟨place, (cases other place).mpr (.inl inside)⟩
      · exact ⟨target, (cases other target).mpr (.inr ⟨rfl, rfl⟩)⟩
    · intro ⟨place, inside⟩
      rcases (cases other place).mp inside with before | ⟨-, same⟩
      · exact .inl ⟨place, before⟩
      · exact .inr same

/-- **Some places give up items** that another place takes. -/
theorem Kept.gather (kept : Kept given contents) (sources : List Place) (target : Place)
    (taken : Place → List Item) (distinct : sources.Nodup) (elsewhere : target ∉ sources)
    (leaves : ∀ place ∈ sources, (taken place ++ after place).Perm (contents place))
    (arrives : (after target).Perm (contents target ++ sources.flatMap taken))
    (stays : ∀ place, place ∉ sources → place ≠ target → after place = contents place) :
    Kept given after := by
  have was : ∀ place ∈ sources, ∀ item ∈ taken place, item ∈ contents place :=
    fun place source item inside => (leaves place source).subset (List.mem_append_left _ inside)
  have remains : ∀ place, place ≠ target → ∀ item ∈ after place, item ∈ contents place := by
    intro place other item inside
    by_cases source : place ∈ sources
    · exact (leaves place source).subset (List.mem_append_right _ inside)
    · rwa [stays place source other] at inside
  have gone : ∀ place ∈ sources, ∀ item ∈ taken place, item ∉ after place := by
    intro place source item inside also
    have nodup := (leaves place source).nodup_iff.mpr (kept.once place)
    exact (List.nodup_append.mp nodup).2.2 item inside item also rfl
  have origin : ∀ item ∈ after target,
      item ∈ contents target ∨ ∃ place ∈ sources, item ∈ taken place := by
    intro item inside
    rw [arrives.mem_iff, List.mem_append, List.mem_flatMap] at inside
    exact inside
  have own : ∀ place, place ≠ target → ∀ item ∈ after place, item ∉ after target := by
    intro place other item inside also
    have before := remains place other item inside
    rcases origin item also with stayed | ⟨source, isSource, moved⟩
    · exact other (kept.apart before stayed)
    · have same := kept.apart before (was source isSource item moved)
      exact gone source isSource item moved (same ▸ inside)
  refine ⟨fun place => ?_, @fun first second item inFirst inSecond => ?_, fun item => ?_⟩
  · by_cases isTarget : place = target
    · subst isTarget
      rw [arrives.nodup_iff, List.nodup_append, List.nodup_flatMap]
      refine ⟨kept.once place, ⟨fun source isSource => ?_, ?_⟩, ?_⟩
      · exact (List.nodup_append.mp ((leaves source isSource).nodup_iff.mpr (kept.once source))).1
      · apply distinct.imp_of_mem
        intro first second isFirst isSecond different item inFirst inSecond
        exact different (kept.apart (was first isFirst item inFirst)
          (was second isSecond item inSecond))
      · intro item inside other moved same
        obtain ⟨source, isSource, took⟩ := List.mem_flatMap.mp moved
        exact elsewhere (kept.apart inside (same ▸ was source isSource other took) ▸ isSource)
    · by_cases source : place ∈ sources
      · exact (List.nodup_append.mp ((leaves place source).nodup_iff.mpr (kept.once place))).2.1
      · rw [stays place source isTarget]
        exact kept.once place
  · by_cases firstTarget : first = target
    · subst firstTarget
      by_contra different
      exact own second (fun same => different same.symm) item inSecond inFirst
    · by_cases secondTarget : second = target
      · subst secondTarget
        exact absurd inSecond (own first firstTarget item inFirst)
      · exact kept.apart (remains first firstTarget item inFirst)
          (remains second secondTarget item inSecond)
  · rw [kept.covers item]
    constructor
    · intro ⟨place, inside⟩
      by_cases isTarget : place = target
      · subst isTarget
        exact ⟨place, arrives.mem_iff.mpr (List.mem_append_left _ inside)⟩
      · by_cases source : place ∈ sources
        · rcases List.mem_append.mp ((leaves place source).mem_iff.mpr inside) with moved | stayed
          · exact ⟨target, arrives.mem_iff.mpr
              (List.mem_append_right _ (List.mem_flatMap.mpr ⟨place, source, moved⟩))⟩
          · exact ⟨place, stayed⟩
        · exact ⟨place, (stays place source isTarget).symm ▸ inside⟩
    · intro ⟨place, inside⟩
      by_cases isTarget : place = target
      · subst isTarget
        rcases origin item inside with stayed | ⟨source, isSource, moved⟩
        · exact ⟨place, stayed⟩
        · exact ⟨source, was source isSource item moved⟩
      · exact ⟨place, remains place isTarget item inside⟩

/-- **One place gives up items** that another place takes. -/
theorem Kept.move (kept : Kept given contents) (source target : Place) (taken : List Item)
    (elsewhere : source ≠ target) (leaves : (taken ++ after source).Perm (contents source))
    (arrives : (after target).Perm (contents target ++ taken))
    (stays : ∀ place, place ≠ source → place ≠ target → after place = contents place) :
    Kept given after := by
  apply kept.gather [source] target (fun _ => taken) (List.nodup_singleton source)
  · exact fun inside => elsewhere (List.mem_singleton.mp inside).symm
  · intro place inside
    rw [List.mem_singleton.mp inside]
    exact leaves
  · rwa [List.flatMap_singleton]
  · intro place outside
    exact stays place fun same => outside (List.mem_singleton.mpr same)

/-- The contents where an item is put in one place. -/
def added [DecidableEq Place] (contents : Place → List Item) (target : Place) (item : Item) :
    Place → List Item :=
  fun place => contents place ++ if place = target then [item] else []

/-- **A new item**, wherever it is put. -/
theorem Kept.add [DecidableEq Place] (kept : Kept given contents) (target : Place) {item : Item}
    (fresh : item ∉ given) : Kept (given ++ [item]) (added contents target item) := by
  apply kept.enter target fresh
  · simp [added]
  · intro place other
    simp [added, other]

/-- **An item is put elsewhere**, or back where it was. -/
theorem Kept.relocate [DecidableEq Place] {source : Place} {item : Item}
    (kept : Kept given (added contents source item)) (target : Place) :
    Kept given (added contents target item) := by
  by_cases same : source = target
  · rwa [← same]
  · apply kept.move source target [item] same
    · simp only [added, same, if_true, if_false, List.append_nil]
      exact List.perm_append_comm
    · simp [added, Ne.symm same]
    · intro place notSource notTarget
      simp [added, notSource, notTarget]

end Custody
