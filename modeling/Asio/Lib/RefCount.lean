import Mathlib.Data.Set.Card

/-! # Reference counts

Holders refer to addresses, and every address has a count. The count is exact when it is the
number of holders that refer to the address, and an exact count stays exact when a holder turns
from one address to another and the counts follow.
-/

namespace RefCount

variable {Holder Address : Type*}

/-- The holders that refer to an address. -/
def holders (refers : Holder → Option Address) (address : Address) : Set Holder :=
  {holder | refers holder = some address}

/-- Every address is referred to as often as its count says. -/
structure Exact (refers : Holder → Option Address) (count : Address → Nat) : Prop where
  finite : ∀ address, (holders refers address).Finite
  exact : ∀ address, count address = (holders refers address).ncard

variable {refers : Holder → Option Address} {count after : Address → Nat}

theorem mem_holders {holder : Holder} {address : Address} :
    holder ∈ holders refers address ↔ refers holder = some address := Iff.rfl

theorem exact_none : Exact (fun _ : Holder => (none : Option Address)) fun _ => 0 where
  finite address := by
    have nobody : holders (fun _ : Holder => (none : Option Address)) address = ∅ := by
      ext holder
      simp [holders]
    rw [nobody]
    exact Set.finite_empty
  exact address := by
    have nobody : holders (fun _ : Holder => (none : Option Address)) address = ∅ := by
      ext holder
      simp [holders]
    rw [nobody, Set.ncard_empty]

/-- A count is positive when somebody refers to the address. -/
theorem Exact.pos_iff (exact : Exact refers count) (address : Address) :
    0 < count address ↔ ∃ holder, refers holder = some address := by
  rw [exact.exact address, Set.ncard_pos (exact.finite address)]
  exact Iff.rfl

variable [DecidableEq Holder] [DecidableEq Address]

theorem holders_update (holder : Holder) (target : Option Address) (address : Address) :
    holders (Function.update refers holder target) address =
      if target = some address then insert holder (holders refers address)
      else holders refers address \ {holder} := by
  ext other
  by_cases own : other = holder
  · subst own
    by_cases here : target = some address
    · simp [holders, here]
    · simp [holders, here]
  · by_cases here : target = some address
    · simp [holders, here, own]
    · simp [holders, here, own]

/-- The number of holders after one of them has turned to another address. -/
theorem ncard_holders_update
    {address : Address} (finite : (holders refers address).Finite) (holder : Holder)
    (target : Option Address) :
    (holders (Function.update refers holder target) address).ncard +
        (if refers holder = some address then 1 else 0) =
      (holders refers address).ncard + (if target = some address then 1 else 0) := by
  rw [holders_update]
  by_cases before : holder ∈ holders refers address
  · rw [if_pos (mem_holders.mp before)]
    by_cases here : target = some address
    · rw [if_pos here, if_pos here, Set.insert_eq_of_mem before]
    · rw [if_neg here, if_neg here]
      exact Set.ncard_sdiff_singleton_add_one before finite
  · rw [if_neg fun same => before (mem_holders.mpr same)]
    by_cases here : target = some address
    · rw [if_pos here, if_pos here, Set.ncard_insert_of_notMem before finite]
    · rw [if_neg here, if_neg here, Set.sdiff_singleton_eq_self before]

/-- **A holder turns to another address.** The count of the one goes down, that of the other
up. -/
theorem Exact.update (exact : Exact refers count) (holder : Holder)
    (target : Option Address)
    (balance : ∀ address, after address + (if refers holder = some address then 1 else 0) =
      count address + (if target = some address then 1 else 0)) :
    Exact (Function.update refers holder target) after where
  finite address := by
    rw [holders_update]
    split
    · exact (exact.finite address).insert holder
    · exact (exact.finite address).sdiff
  exact address := by
    have moved := ncard_holders_update (exact.finite address) holder target
    have counted := exact.exact address
    have balanced := balance address
    omega

/-- A holder hands over to one that referred to nothing. -/
theorem Exact.handOver (exact : Exact refers count) {holder other : Holder}
    (nothing : refers holder = none) (apart : holder ≠ other) :
    Exact (Function.update (Function.update refers holder (refers other)) other none) count := by
  let both : Address → Nat := fun address =>
    count address + if refers other = some address then 1 else 0
  have shared : Exact (Function.update refers holder (refers other)) both := by
    apply exact.update
    intro address
    rw [nothing]
    exact Nat.add_zero _
  apply shared.update
  intro address
  rw [Function.update_of_ne apart.symm]
  exact (Nat.add_zero _).symm

/-! ## One holder each -/

/-- The addresses in use have one holder each, and the others none. -/
def Exclusive (refers : Holder → Option Address) (used : Address → Bool) : Prop :=
  Exact refers fun address => if used address = true then 1 else 0

variable {used : Address → Bool}

omit [DecidableEq Holder] [DecidableEq Address] in
theorem exclusive_none : Exclusive (fun _ : Holder => (none : Option Address)) fun _ => false :=
  exact_none

omit [DecidableEq Holder] [DecidableEq Address] in
theorem Exclusive.used_iff (exclusive : Exclusive refers used) (address : Address) :
    used address = true ↔ ∃ holder, refers holder = some address := by
  rw [← exclusive.pos_iff address]
  by_cases taken : used address = true
  · simp [taken]
  · simp [taken]

omit [DecidableEq Holder] [DecidableEq Address] in
theorem Exclusive.unique (exclusive : Exclusive refers used) {address : Address}
    {first second : Holder} (isFirst : refers first = some address)
    (isSecond : refers second = some address) : first = second := by
  have counted := exclusive.exact address
  rw [if_pos ((exclusive.used_iff address).mpr ⟨first, isFirst⟩)] at counted
  obtain ⟨only, all⟩ := Set.ncard_eq_one.mp counted.symm
  have one : first ∈ holders refers address := isFirst
  have other : second ∈ holders refers address := isSecond
  rw [all] at one other
  exact one.trans other.symm

/-- A holder takes an address that was not in use. -/
theorem Exclusive.acquire (exclusive : Exclusive refers used) {holder : Holder} {target : Address}
    (nothing : refers holder = none) (unused : used target = false) :
    Exclusive (Function.update refers holder (some target)) (Function.update used target true) := by
  apply exclusive.update
  intro address
  rw [nothing]
  by_cases same : address = target
  · subst same
    simp [unused]
  · simp [same, Ne.symm same]

/-- A holder gives up its address, which was in use. -/
theorem Exclusive.release (exclusive : Exclusive refers used) {holder : Holder} {target : Address}
    (holds : refers holder = some target) :
    used target = true ∧
      Exclusive (Function.update refers holder none) (Function.update used target false) := by
  have taken := (exclusive.used_iff target).mpr ⟨holder, holds⟩
  refine ⟨taken, exclusive.update holder none fun address => ?_⟩
  rw [holds]
  by_cases same : address = target
  · subst same
    simp [taken]
  · simp [same, Ne.symm same]

/-- A holder hands its address to one that had none. -/
theorem Exclusive.handOver (exclusive : Exclusive refers used) {holder other : Holder}
    (nothing : refers holder = none) (apart : holder ≠ other) :
    Exclusive (Function.update (Function.update refers holder (refers other)) other none) used :=
  Exact.handOver exclusive nothing apart

end RefCount
