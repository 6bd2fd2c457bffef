import Asio.Timer.WaitDuration
import Mathlib.Data.List.Induction
import Mathlib.Data.List.Perm.Basic

/-! # The wait for a set of timer queues

`timer_queue_set` asks one queue after the other how long it may wait and gives
it the least wait so far as the cap. A queue whose timer is less than one unit
away answers one, whatever the cap is, so that a wait of nothing is forgotten.
-/

namespace Asio.Timer

/-- `timer_queue_base`: a timer queue of some clock, with the reading it makes. -/
structure TimerQueueBase where
  {Id Op Time : Type}
  [traits : PosixTraits Time]
  queue : TimerQueue Id Op Time
  now : Time

attribute [instance] TimerQueueBase.traits

namespace TimerQueueBase

def waitDurationMsec (p : TimerQueueBase) (maxDuration : Int) : Int :=
  p.queue.waitDurationMsec p.now maxDuration

def waitDurationUsec (p : TimerQueueBase) (maxDuration : Int) : Int :=
  p.queue.waitDurationUsec p.now maxDuration

/-- The wait in either unit. -/
def waitDuration (unit : WaitUnit) (p : TimerQueueBase) (maxDuration : Int) : Int :=
  match unit with
  | .msec => p.waitDurationMsec maxDuration
  | .usec => p.waitDurationUsec maxDuration

/-- The ticks to the earliest timer, and the duration in a unit. -/
def earliest (unit : WaitUnit) (p : TimerQueueBase) : Option (Int × Int) :=
  p.queue.heap[0]?.map fun root =>
    (PosixTraits.ticks root.time p.now, match unit with
      | .msec => PosixTraits.totalMilliseconds root.time p.now
      | .usec => PosixTraits.totalMicroseconds root.time p.now)

/-- The rounded wait of a queue alone. -/
def ownWait (unit : WaitUnit) (p : TimerQueueBase) : Option Int :=
  (p.earliest unit).map fun (ticks, units) =>
    if ticks ≤ 0 then 0 else if units = 0 then 1 else units

/-- The earliest timer is due. -/
def Due (unit : WaitUnit) (p : TimerQueueBase) : Prop := ∃ d ∈ p.earliest unit, d.1 ≤ 0

/-- The earliest timer is not due, but less than one unit away. -/
def SubUnit (unit : WaitUnit) (p : TimerQueueBase) : Prop :=
  ∃ d ∈ p.earliest unit, 0 < d.1 ∧ d.2 = 0

/-- How a queue answers: it has no timer, or one that is due, or less than one
unit away, or further away. -/
inductive Answers (unit : WaitUnit) (p : TimerQueueBase) : Prop where
  | empty (own : p.ownWait unit = none) (wait : ∀ cap, p.waitDuration unit cap = cap)
      (notDue : ¬ p.Due unit) (notSub : ¬ p.SubUnit unit)
  | due (own : p.ownWait unit = some 0) (wait : ∀ cap, p.waitDuration unit cap = 0)
      (isDue : p.Due unit) (notSub : ¬ p.SubUnit unit)
  | subUnit (own : p.ownWait unit = some 1) (wait : ∀ cap, p.waitDuration unit cap = 1)
      (notDue : ¬ p.Due unit) (isSub : p.SubUnit unit)
  | far (units : Int) (positive : 1 ≤ units) (own : p.ownWait unit = some units)
      (wait : ∀ cap, p.waitDuration unit cap = min cap units)
      (notDue : ¬ p.Due unit) (notSub : ¬ p.SubUnit unit)

/-- The wait, by the earliest timer. -/
theorem waitDuration_eq (unit : WaitUnit) (p : TimerQueueBase) (cap : Int) :
    p.waitDuration unit cap = match p.earliest unit with
      | none => cap
      | some (ticks, units) => toUsec ticks units cap := by
  cases unit <;>
    simp only [waitDuration, waitDurationMsec, waitDurationUsec, TimerQueue.waitDurationMsec,
      TimerQueue.waitDurationUsec, earliest] <;>
    cases p.queue.heap[0]? <;> rfl

theorem nonneg_of_earliest {unit : WaitUnit} {p : TimerQueueBase} {d : Int × Int}
    (found : p.earliest unit = some d) (positive : 0 < d.1) : 0 ≤ d.2 := by
  unfold earliest at found
  obtain ⟨root, -, rfl⟩ := Option.map_eq_some_iff.mp found
  cases unit with
  | msec => exact PosixTraits.totalMilliseconds_nonneg _ _ positive
  | usec => exact PosixTraits.totalMicroseconds_nonneg _ _ positive

theorem answers (unit : WaitUnit) (p : TimerQueueBase) : p.Answers unit := by
  have wait := p.waitDuration_eq unit
  cases found : p.earliest unit with
  | none =>
      simp only [found] at wait
      exact .empty (by simp [ownWait, found]) wait (by simp [Due, found]) (by simp [SubUnit, found])
  | some d =>
      obtain ⟨ticks, units⟩ := d
      simp only [found, toUsec] at wait
      by_cases isDue : ticks ≤ 0
      · simp only [isDue, ↓reduceIte] at wait
        refine .due (by simp [ownWait, found, isDue]) wait ⟨_, found, isDue⟩ ?_
        rintro ⟨d, other, positive, -⟩
        rw [found] at other
        cases other
        exact absurd isDue positive.not_ge
      · have notDue : ¬ p.Due unit := by
          rintro ⟨d, other, due⟩
          rw [found] at other
          cases other
          exact isDue due
        have nonneg : 0 ≤ units := nonneg_of_earliest found (not_le.mp isDue)
        by_cases none : units = 0
        · simp only [isDue, none, ↓reduceIte] at wait
          exact .subUnit (by simp [ownWait, found, isDue, none]) wait notDue
            ⟨_, found, not_le.mp isDue, none⟩
        · refine .far units (by omega) (by simp [ownWait, found, isDue, none]) ?_ notDue ?_
          · intro cap
            rw [wait, if_neg isDue, if_neg none]
            split <;> omega
          · rintro ⟨d, other, -, zero⟩
            rw [found] at other
            cases other
            exact none zero

end TimerQueueBase

/-- `timer_queue_set`: the queues in the order of the list, the one inserted last
at its front. -/
abbrev TimerQueueSet := List TimerQueueBase

namespace TimerQueueSet

def waitDurationMsec (set : TimerQueueSet) (maxDuration : Int) : Int :=
  set.foldl (fun minDuration p => p.waitDurationMsec minDuration) maxDuration

def waitDurationUsec (set : TimerQueueSet) (maxDuration : Int) : Int :=
  set.foldl (fun minDuration p => p.waitDurationUsec minDuration) maxDuration

/-- The wait in either unit. -/
def waitDuration (unit : WaitUnit) (set : TimerQueueSet) (maxDuration : Int) : Int :=
  match unit with
  | .msec => set.waitDurationMsec maxDuration
  | .usec => set.waitDurationUsec maxDuration

/-- The least of the cap and the rounded waits of the queues. -/
def combinedWait (unit : WaitUnit) (set : TimerQueueSet) (maxDuration : Int) : Int :=
  (set.filterMap (·.ownWait unit)).foldl min maxDuration

/-- What the set is for: the wait is the least of the cap and the rounded waits,
in whatever order the queues were inserted. -/
structure Combines (unit : WaitUnit) (set : TimerQueueSet) (maxDuration : Int) : Prop where
  minimum : set.waitDuration unit maxDuration = set.combinedWait unit maxDuration
  le_max : set.waitDuration unit maxDuration ≤ maxDuration
  due : (∃ p ∈ set, p.Due unit) → set.waitDuration unit maxDuration = 0
  order : ∀ other : TimerQueueSet, other.Perm set →
    other.waitDuration unit maxDuration = set.waitDuration unit maxDuration

variable {unit : WaitUnit} {set : TimerQueueSet} {p : TimerQueueBase} {maxDuration : Int}

theorem waitDuration_append : waitDuration unit (set ++ [p]) maxDuration =
    p.waitDuration unit (set.waitDuration unit maxDuration) := by
  cases unit <;> exact List.foldl_append

theorem combinedWait_append : combinedWait unit (set ++ [p]) maxDuration =
    match p.ownWait unit with
    | none => set.combinedWait unit maxDuration
    | some own => min (set.combinedWait unit maxDuration) own := by
  rw [combinedWait, List.filterMap_append, List.foldl_append]
  cases own : p.ownWait unit <;> simp [own, combinedWait]

/-- The minimum leaves something to wait for when the cap does and no queue is due. -/
theorem combinedWait_pos_iff :
    1 ≤ set.combinedWait unit maxDuration ↔ 0 < maxDuration ∧ ∀ p ∈ set, ¬ p.Due unit := by
  induction set using List.reverseRecOn with
  | nil => simp [combinedWait, Int.lt_iff_add_one_le]
  | append_singleton set p ih =>
      rw [combinedWait_append, List.forall_mem_append, List.forall_mem_singleton, ← and_assoc, ← ih]
      cases p.answers unit with
      | empty own _ notDue => simp only [own, notDue, not_false_eq_true, and_true]
      | due own _ isDue => simp [own, isDue]
      | subUnit own _ notDue => simp [own, notDue]
      | far units positive own _ notDue => simp [own, notDue, positive]

theorem combinedWait_nonneg (nonneg : 0 ≤ maxDuration) :
    0 ≤ set.combinedWait unit maxDuration := by
  induction set using List.reverseRecOn with
  | nil => exact nonneg
  | append_singleton set p ih =>
      rw [combinedWait_append]
      cases p.answers unit with
      | empty own => simpa only [own] using ih
      | due own => simpa only [own] using le_min ih le_rfl
      | subUnit own => simpa only [own] using le_min ih Int.one_nonneg
      | far units positive own => simpa only [own] using le_min ih (Int.one_nonneg.trans positive)

theorem combinedWait_le : set.combinedWait unit maxDuration ≤ maxDuration := by
  induction set using List.reverseRecOn with
  | nil => exact le_rfl
  | append_singleton set p ih =>
      rw [combinedWait_append]
      split
      · exact ih
      · exact (min_le_left _ _).trans ih

theorem combinedWait_le_own {own : Int} (member : p ∈ set) (owns : p.ownWait unit = some own) :
    set.combinedWait unit maxDuration ≤ own := by
  induction set using List.reverseRecOn with
  | nil => exact absurd member List.not_mem_nil
  | append_singleton set q ih =>
      rw [combinedWait_append]
      rcases List.mem_append.mp member with earlier | last
      · split
        · exact ih earlier
        · exact (min_le_left _ _).trans (ih earlier)
      · rw [← List.mem_singleton.mp last, owns]
        exact min_le_right _ _

/-- Where the queue that was added stands, or where one before it does. -/
theorem forall_split_append {set : TimerQueueSet}
    {holds : TimerQueueSet → TimerQueueBase → TimerQueueSet → Prop} :
    (∀ before q after, set ++ [p] = before ++ q :: after → holds before q after) ↔
      holds set p [] ∧ ∀ before q after, set = before ++ q :: after →
        holds before q (after ++ [p]) := by
  constructor
  · intro all
    refine ⟨all _ _ _ rfl, fun before q after split => all _ _ _ ?_⟩
    rw [split, List.append_assoc, List.cons_append]
  · rintro ⟨last, earlier⟩ before q after split
    obtain rfl | ⟨rest, other, rfl⟩ := after.eq_nil_or_concat
    · obtain ⟨rfl, same⟩ := List.append_inj' split rfl
      cases same
      exact last
    · rw [List.concat_eq_append, ← List.cons_append, ← List.append_assoc] at split
      obtain ⟨rfl, same⟩ := List.append_inj' split rfl
      cases same
      rw [List.concat_eq_append]
      exact earlier _ _ _ rfl

/-- **When the wait is the minimum**: a queue less than one unit away comes after
a minimum of nothing only if a queue that is due comes after it. Otherwise the
wait is one instead of nothing. -/
theorem waitDuration_eq_iff (nonneg : 0 ≤ maxDuration) :
    (set.waitDuration unit maxDuration = set.combinedWait unit maxDuration ↔
      ∀ before p after, set = before ++ p :: after → p.SubUnit unit →
        1 ≤ combinedWait unit before maxDuration ∨ ∃ q ∈ after, q.Due unit) ∧
    (set.waitDuration unit maxDuration = set.combinedWait unit maxDuration ∨
      set.combinedWait unit maxDuration = 0 ∧ set.waitDuration unit maxDuration = 1) := by
  induction set using List.reverseRecOn with
  | nil =>
      refine ⟨iff_of_true (by cases unit <;> rfl) ?_, .inl (by cases unit <;> rfl)⟩
      intro before p after split
      simp at split
  | append_singleton set q ih =>
      obtain ⟨exactly, either⟩ := ih
      have least := @combinedWait_nonneg unit set maxDuration nonneg
      rw [waitDuration_append, combinedWait_append, forall_split_append]
      cases q.answers unit with
      | empty own wait notDue notSub =>
          simp only [own, wait, notSub, false_implies, true_and, List.mem_append,
            List.mem_singleton, or_and_right, exists_or, exists_eq_left, notDue, or_false]
          exact ⟨exactly, either⟩
      | due own wait isDue notSub =>
          have zero : min (combinedWait unit set maxDuration) 0 = 0 := min_eq_right least
          simp only [own, wait, zero, true_iff, true_or, and_true]
          refine ⟨fun isSub => absurd isSub notSub, ?_⟩
          intro before p after _ _
          exact .inr ⟨q, List.mem_append_right _ List.mem_cons_self, isDue⟩
      | subUnit own wait notDue isSub =>
          have reaches : 1 = min (combinedWait unit set maxDuration) 1 ↔
              1 ≤ combinedWait unit set maxDuration := by omega
          have capped : 1 = min (combinedWait unit set maxDuration) 1 ∨
              min (combinedWait unit set maxDuration) 1 = 0 := by omega
          simp only [own, wait, and_true]
          refine ⟨reaches.trans ⟨fun positive => ⟨fun _ => .inl positive, ?_⟩, ?_⟩, capped⟩
          · intro before p after split _
            rw [combinedWait_pos_iff] at positive
            exact .inl (combinedWait_pos_iff.mpr
              ⟨positive.1, fun r member => positive.2 r (by simp [split, member])⟩)
          · rintro ⟨reached, -⟩
            exact (reached isSub).resolve_right (by simp)
      | far units positive own wait notDue notSub =>
          simp only [own, wait, notSub, false_implies, true_and, List.mem_append,
            List.mem_singleton, or_and_right, exists_or, exists_eq_left, notDue, or_false]
          rw [← exactly]
          obtain same | ⟨zero, one⟩ := either
          · exact ⟨iff_of_true (by rw [same]) same, .inl (by rw [same])⟩
          · rw [zero, one, min_eq_left positive, min_eq_left (Int.one_nonneg.trans positive)]
            exact ⟨Iff.rfl, .inr ⟨rfl, rfl⟩⟩

/-- The wait is not negative. -/
theorem waitDuration_nonneg (nonneg : 0 ≤ maxDuration) : 0 ≤ set.waitDuration unit maxDuration := by
  rcases (waitDuration_eq_iff nonneg).2 with same | ⟨-, one⟩
  · exact same ▸ combinedWait_nonneg nonneg
  · exact one ▸ Int.one_nonneg

/-- The wait is no longer than that of any queue alone, or one unit. -/
theorem waitDuration_le_own {own : Int} (nonneg : 0 ≤ maxDuration) (member : p ∈ set)
    (owns : p.ownWait unit = some own) : set.waitDuration unit maxDuration ≤ max own 1 := by
  rcases (waitDuration_eq_iff nonneg).2 with same | ⟨-, one⟩
  · rw [same]
    exact (combinedWait_le_own member owns).trans (le_max_left _ _)
  · rw [one]
    exact le_max_right _ _

/-- **What the set is for**, exactly when no queue is less than one unit away, or
the cap is not zero and no queue is due. -/
theorem combines_iff (unit : WaitUnit) (set : TimerQueueSet) (maxDuration : Int)
    (nonneg : 0 ≤ maxDuration) : set.Combines unit maxDuration ↔
      ((∃ p ∈ set, p.SubUnit unit) → 0 < maxDuration ∧ ∀ p ∈ set, ¬ p.Due unit) := by
  constructor
  · rintro combines ⟨p, member, isSub⟩
    obtain ⟨before, after, rfl⟩ := List.append_of_mem member
    rw [← combinedWait_pos_iff, ← combines.minimum,
      ← combines.order ((before ++ after) ++ [p])
        ((List.perm_append_singleton _ _).trans List.perm_middle.symm), waitDuration_append]
    cases p.answers unit with
    | subUnit _ wait => exact (wait _).ge
    | empty _ _ _ notSub | due _ _ _ notSub | far _ _ _ _ _ notSub => exact absurd isSub notSub
  · intro masked
    have minimum : ∀ other : TimerQueueSet, other.Perm set →
        other.waitDuration unit maxDuration = other.combinedWait unit maxDuration := by
      intro other perm
      refine (waitDuration_eq_iff nonneg).1.mpr fun before p after split isSub => .inl ?_
      obtain ⟨positive, later⟩ := masked ⟨p, perm.mem_iff.mp (by simp [split]), isSub⟩
      refine combinedWait_pos_iff.mpr ⟨positive, fun q member => later q (perm.mem_iff.mp ?_)⟩
      simp [split, member]
    have same : ∀ other : TimerQueueSet, other.Perm set →
        other.combinedWait unit maxDuration = set.combinedWait unit maxDuration :=
      fun other perm => (perm.filterMap _).foldl_eq _
    refine ⟨minimum set (.refl _), ?_, ?_, ?_⟩
    · rw [minimum set (.refl _)]
      exact combinedWait_le
    · rintro ⟨p, member, isDue⟩
      rw [minimum set (.refl _)]
      by_contra some
      have positive : 1 ≤ set.combinedWait unit maxDuration := by
        have := @combinedWait_nonneg unit set maxDuration nonneg
        omega
      exact (combinedWait_pos_iff.mp positive).2 p member isDue
    · intro other perm
      rw [minimum other perm, minimum set (.refl _), same other perm]

/-- A queue with one timer, so many nanoseconds away. -/
def oneTimer (nanoseconds : Ticks) : TimerQueueBase where
  queue := ((TimerQueue.empty : TimerQueue Nat Nat Ticks).enqueueTimer true nanoseconds 0
    ⟨0, .success⟩).1
  now := Ticks.epoch

/-- A queue that is due and one that is half a microsecond away. -/
def dueThenSoon : TimerQueueSet := [oneTimer Ticks.epoch, oneTimer ⟨500, by decide⟩]

theorem combines_iff_dueThenSoon :
    0 ≤ (1000 : Int) ∧ (dueThenSoon.Combines .usec 1000 ↔
      ((∃ p ∈ dueThenSoon, p.SubUnit .usec) →
        0 < (1000 : Int) ∧ ∀ p ∈ dueThenSoon, ¬ p.Due .usec)) :=
  ⟨by decide, combines_iff .usec dueThenSoon 1000 (by decide)⟩

theorem not_combines_dueThenSoon :
    ¬ ∀ (unit : WaitUnit) (set : TimerQueueSet) (maxDuration : Int), 0 ≤ maxDuration →
      set.Combines unit maxDuration := by
  intro claim
  have minimum := (claim .usec dueThenSoon 1000 (by decide)).minimum
  exact absurd minimum (by decide)

end TimerQueueSet

end Asio.Timer
