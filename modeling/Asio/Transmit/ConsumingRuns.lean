import Asio.Lib.Transition
import Asio.Transmit.Buffer

/-! # Runs of `consuming_buffers`

A transfer prepares some buffers and consumes a part of what it prepared, round
after round. In every such run each version of `consuming_buffers` walks the
flattened sequence, and the versions for one buffer and for an array of two walk
it as the version for a range does. No number that occurs is larger than the
total size of the sequence or the size asked for.
-/

namespace Asio.Transmit

/-- One round: the `max_size` given to `prepare`, and the size consumed. -/
structure Round where
  maxSize : Nat
  size : Nat
  deriving DecidableEq, Repr

/-- `consuming_buffers` as a machine whose actions are rounds that consume no
more than was prepared. -/
def consumption (sequence : BufferSequence) : Transition.Machine ConsumingBuffers Round where
  initial tmp := tmp = sequence.consuming
  step tmp round :=
    if round.size ≤ bufferSize (tmp.prepare round.maxSize) then some (tmp.consume round.size)
    else none

/-- The sequence as the version for a range takes it. -/
def BufferSequence.generic : BufferSequence → BufferSequence
  | .single b => .range [b]
  | .pair first second => .array [first, second]
  | .array buffers => .array buffers
  | .range buffers => .range buffers
  | .nullBuffers => .nullBuffers

namespace ConsumingBuffers

/-- What a version shows of the bytes left agrees with what another does. -/
structure Agrees (tmp other : ConsumingBuffers) : Prop where
  empty : tmp.empty = other.empty
  totalConsumed : tmp.totalConsumed = other.totalConsumed
  prepare : ∀ maxSize, flatten (tmp.prepare maxSize) = flatten (other.prepare maxSize)

/-- After some rounds, a version stands in the flattened sequence behind what the
rounds consumed, and offers what comes next. -/
structure Walks (tmp : ConsumingBuffers) (cells : List Nat) (rounds : List Round) : Prop where
  totalConsumed : tmp.totalConsumed = (rounds.map Round.size).sum
  within : tmp.totalConsumed ≤ cells.length
  empty : tmp.empty = true ↔ tmp.totalConsumed = cells.length
  follows : ∀ maxSize, flatten (tmp.prepare maxSize) <+: cells.drop tmp.totalConsumed
  atMost : ∀ maxSize, (flatten (tmp.prepare maxSize)).length ≤ maxSize
  few : ∀ maxSize, (tmp.prepare maxSize).length ≤ 16
  proceeds : ∀ maxSize, 0 < maxSize → tmp.totalConsumed < cells.length →
    flatten (tmp.prepare maxSize) ≠ []

end ConsumingBuffers

theorem preparedMaxBuffers_le (maxBuffers : Nat) : preparedMaxBuffers maxBuffers ≤ 16 := by
  unfold preparedMaxBuffers
  split <;> omega

namespace ConsumingRange

/-- The loop fills no more than the places left. -/
theorem length_prepareFrom_le {maxBuffers count : Nat} (room : count ≤ maxBuffers)
    (buffers : List Buffer) (offset maxSize : Nat) :
    (prepareFrom maxBuffers buffers offset maxSize count).length + count ≤ maxBuffers := by
  induction buffers generalizing offset maxSize count with
  | nil =>
      rw [prepareFrom, List.length_nil, Nat.zero_add]
      exact room
  | cons next rest ih =>
      rw [prepareFrom]
      split
      · rename_i proceeds
        dsimp only
        split
        · have further := @ih (count + 1) proceeds.2 0
            (maxSize - (buffer (next + offset) maxSize).size)
          rw [List.length_cons]
          omega
        · exact ih room 0 _
      · rw [List.length_nil, Nat.zero_add]
        exact room

/-- With a place for every buffer, nothing but the size asked for ends the loop. -/
theorem flatten_prepareFrom {maxBuffers count : Nat} {buffers : List Buffer} {offset maxSize : Nat}
    (inside : ∀ b ∈ buffers.head?, offset ≤ b.size) (room : buffers.length + count ≤ maxBuffers) :
    flatten (prepareFrom maxBuffers buffers offset maxSize count) =
      ((flatten buffers).drop offset).take maxSize := by
  induction buffers generalizing offset maxSize count with
  | nil => rw [prepareFrom, flatten_nil, List.drop_nil, List.take_nil]
  | cons next rest ih =>
      have within : offset ≤ next.cells.length := by
        simpa using inside next rfl
      rw [List.length_cons] at room
      have length : (next.cells.drop offset).length = (next + offset).size := by
        rw [List.length_drop, Buffer.length_cells, Buffer.size_add]
      rw [prepareFrom, flatten_cons, List.drop_append_of_le_length within, List.take_append, length]
      have left : maxSize - (buffer (next + offset) maxSize).size =
          maxSize - (next + offset).size := by
        rw [size_buffer]
        omega
      by_cases positive : 0 < maxSize
      · have below : count < maxBuffers := by omega
        simp only [positive, below, and_self, ↓reduceIte, left]
        split
        · rw [flatten_cons, cells_buffer, Buffer.cells_add,
            ih (fun _ _ => Nat.zero_le _) (by omega), List.drop_zero]
        · rename_i skipped
          have none : next.cells.drop offset = [] := by
            rw [← List.length_eq_zero_iff, length]
            rw [size_buffer] at skipped
            omega
          rw [none, List.take_nil, List.nil_append, ih (fun _ _ => Nat.zero_le _) (by omega),
            List.drop_zero]
      · have zero : maxSize = 0 := by omega
        subst zero
        simp only [Nat.lt_irrefl, false_and, ↓reduceIte, flatten_nil, Nat.zero_sub, List.take_zero,
          List.append_nil]

end ConsumingRange

namespace ConsumingBuffers

/-- The most buffers that a version prepares. -/
def maxBuffers : ConsumingBuffers → Nat
  | .single _ => 1
  | .pair _ => 2
  | .range tmp => tmp.maxBuffers
  | .nullBuffers => 0

/-- A version that prepares as many buffers as there are. -/
def Roomy : ConsumingBuffers → Prop
  | .single _ => True
  | .pair _ => True
  | .range tmp => tmp.buffers.length ≤ tmp.maxBuffers
  | .nullBuffers => False

theorem length_prepare_le_maxBuffers (tmp : ConsumingBuffers) (maxSize : Nat) :
    (tmp.prepare maxSize).length ≤ tmp.maxBuffers := by
  cases tmp with
  | single tmp => exact Nat.le_refl 1
  | pair tmp => exact Nat.le_refl 2
  | range tmp => exact ConsumingRange.length_prepareFrom_le (Nat.zero_le _) _ _ _
  | nullBuffers => exact Nat.le_refl 0

@[simp] theorem maxBuffers_consume (tmp : ConsumingBuffers) (size : Nat) :
    (tmp.consume size).maxBuffers = tmp.maxBuffers := by
  cases tmp <;> rfl

theorem Roomy.consume {tmp : ConsumingBuffers} (roomy : tmp.Roomy) (size : Nat) :
    (tmp.consume size).Roomy := by
  cases tmp with
  | single tmp => exact trivial
  | pair tmp => exact trivial
  | range tmp => exact roomy
  | nullBuffers => exact roomy

variable {tmp other : ConsumingBuffers} {cells : List Nat} {total : Nat}

/-- A roomy version offers all that the size allows. -/
theorem At.prepare_eq (at_ : tmp.At cells total) (roomy : tmp.Roomy) (maxSize : Nat) :
    flatten (tmp.prepare maxSize) = (cells.drop total).take maxSize := by
  cases tmp with
  | single tmp =>
      obtain ⟨rfl, rfl⟩ := at_
      simp only [prepare, ConsumingSingle.prepare, flatten_cons, flatten_nil, List.append_nil,
        cells_buffer, Buffer.cells_add]
  | pair tmp =>
      obtain ⟨rfl, rfl⟩ := at_
      exact flatten_prepare_pair tmp maxSize
  | range tmp =>
      rw [← at_.rest]
      apply ConsumingRange.flatten_prepareFrom at_.inside
      rw [List.length_drop, Nat.add_zero]
      exact Nat.le_trans (Nat.sub_le _ _) roomy
  | nullBuffers => exact at_.elim

/-- A round that consumes no more than was prepared moves the position on. -/
theorem At.round (at_ : tmp.At cells total) {round : Round} (inside : total ≤ cells.length)
    (available : round.size ≤ bufferSize (tmp.prepare round.maxSize)) :
    total + round.size ≤ cells.length ∧ (tmp.consume round.size).At cells (total + round.size) := by
  have offered := (at_.prepare_prefix round.maxSize).length_le
  rw [length_flatten, List.length_drop] at offered
  have enough : total + round.size ≤ cells.length := by omega
  exact ⟨enough, at_.consume enough⟩

/-- **Run of one version.** -/
theorem At.run {sequence : BufferSequence} (rounds : List Round) (at_ : tmp.At cells total)
    (inside : total ≤ cells.length) (ran : (consumption sequence).run tmp rounds = some other) :
    other.At cells (total + (rounds.map Round.size).sum) ∧
      total + (rounds.map Round.size).sum ≤ cells.length ∧ other.maxBuffers = tmp.maxBuffers := by
  induction rounds generalizing tmp total with
  | nil =>
      cases ran
      exact ⟨at_, inside, rfl⟩
  | cons round rounds ih =>
      obtain ⟨next, stepped, rest⟩ := Option.bind_eq_some_iff.mp ran
      simp only [consumption] at stepped
      split at stepped
      · rename_i available
        cases stepped
        obtain ⟨enough, moved⟩ := at_.round inside available
        have further := ih moved enough rest
        rw [maxBuffers_consume] at further
        rw [List.map_cons, List.sum_cons, ← Nat.add_assoc]
        exact further
      · contradiction

/-- What a position in the sequence shows. -/
theorem At.walks {rounds : List Round} (at_ : tmp.At cells (rounds.map Round.size).sum)
    (inside : (rounds.map Round.size).sum ≤ cells.length) (few : tmp.maxBuffers ≤ 16) :
    tmp.Walks cells rounds where
  totalConsumed := at_.totalConsumed
  within := at_.totalConsumed ▸ inside
  empty := by
    rw [at_.empty, at_.totalConsumed, decide_eq_true_eq]
    omega
  follows maxSize := at_.totalConsumed ▸ at_.prepare_prefix maxSize
  atMost := at_.length_prepare_le
  few maxSize := Nat.le_trans (tmp.length_prepare_le_maxBuffers maxSize) few
  proceeds _ positive short := at_.prepare_ne_nil positive (at_.totalConsumed ▸ short)

/-- Two roomy versions at one position show the same. -/
theorem At.agrees (at_ : tmp.At cells total) (otherAt : other.At cells total) (roomy : tmp.Roomy)
    (otherRoomy : other.Roomy) : tmp.Agrees other where
  empty := at_.empty.trans otherAt.empty.symm
  totalConsumed := at_.totalConsumed.trans otherAt.totalConsumed.symm
  prepare maxSize :=
    (at_.prepare_eq roomy maxSize).trans (otherAt.prepare_eq otherRoomy maxSize).symm

/-- **Runs of two versions.** What one of two roomy versions can be made to
consume, the other can, and they stay at the same position. -/
theorem At.run_agrees {sequence generic : BufferSequence} (rounds : List Round)
    (at_ : tmp.At cells total) (otherAt : other.At cells total) (roomy : tmp.Roomy)
    (otherRoomy : other.Roomy) (inside : total ≤ cells.length) :
    Option.Rel Agrees ((consumption sequence).run tmp rounds)
      ((consumption generic).run other rounds) := by
  induction rounds generalizing tmp other total with
  | nil => exact .some (at_.agrees otherAt roomy otherRoomy)
  | cons round rounds ih =>
      have same : bufferSize (tmp.prepare round.maxSize) =
          bufferSize (other.prepare round.maxSize) := by
        rw [← length_flatten, ← length_flatten,
          (at_.agrees otherAt roomy otherRoomy).prepare round.maxSize]
      simp only [Transition.Machine.run, consumption, same]
      split
      · rename_i available
        obtain ⟨enough, moved⟩ := otherAt.round inside available
        rw [← same] at available
        exact ih (at_.round inside available).2 moved (roomy.consume _) (otherRoomy.consume _)
          enough
      · exact .none

theorem Agrees.refl (tmp : ConsumingBuffers) : tmp.Agrees tmp := ⟨rfl, rfl, fun _ => rfl⟩

end ConsumingBuffers

/-- **`consuming_buffers`.** After any rounds of `prepare` and `consume`, every
version stands in the flattened sequence where the sizes consumed add up to, and
agrees with the version for a range. -/
theorem consuming_buffers_walk {sequence : BufferSequence} (real : sequence ≠ .nullBuffers)
    (rounds : List Round) :
    (∀ tmp, (consumption sequence).run sequence.consuming rounds = some tmp →
      tmp.Walks (flatten sequence.buffers) rounds) ∧
    Option.Rel ConsumingBuffers.Agrees ((consumption sequence).run sequence.consuming rounds)
      ((consumption sequence.generic).run sequence.generic.consuming rounds) := by
  have start := BufferSequence.at_consuming real
  have few : sequence.consuming.maxBuffers ≤ 16 := by
    cases sequence with
    | single => exact Nat.le_of_ble_eq_true rfl
    | pair => exact Nat.le_of_ble_eq_true rfl
    | array => exact preparedMaxBuffers_le _
    | range => exact Nat.le_refl 16
    | nullBuffers => exact Nat.zero_le _
  constructor
  · intro tmp ran
    obtain ⟨reached, inside, same⟩ := start.run rounds (Nat.zero_le _) ran
    rw [Nat.zero_add] at reached inside
    exact reached.walks inside (same ▸ few)
  · have itself : Option.Rel ConsumingBuffers.Agrees
        ((consumption sequence).run sequence.consuming rounds)
        ((consumption sequence).run sequence.consuming rounds) := by
      cases (consumption sequence).run sequence.consuming rounds with
      | none => exact .none
      | some tmp => exact .some (.refl tmp)
    cases sequence with
    | single b =>
        have genericStart := @BufferSequence.at_consuming (.range [b]) (by simp)
        exact start.run_agrees rounds genericStart trivial (Nat.succ_le_succ (Nat.zero_le 15))
          (Nat.zero_le _)
    | pair first second =>
        have genericStart := @BufferSequence.at_consuming (.array [first, second]) (by simp)
        exact start.run_agrees rounds genericStart trivial (Nat.le_refl 2) (Nat.zero_le _)
    | array buffers => exact itself
    | range buffers => exact itself
    | nullBuffers => exact itself

/-- Three buffers, one of them empty, prepared and consumed in part. -/
theorem consuming_buffers_walk_three :
    ∃ tmp, (consumption (.range [⟨0, 2⟩, ⟨9, 0⟩, ⟨20, 3⟩])).run
        (BufferSequence.range [⟨0, 2⟩, ⟨9, 0⟩, ⟨20, 3⟩]).consuming
        [⟨4, 2⟩, ⟨2, 1⟩, ⟨9, 2⟩] = some tmp ∧
      tmp.Walks [0, 1, 20, 21, 22] [⟨4, 2⟩, ⟨2, 1⟩, ⟨9, 2⟩] := by
  refine ⟨_, rfl, ?_⟩
  exact (@consuming_buffers_walk (.range [⟨0, 2⟩, ⟨9, 0⟩, ⟨20, 3⟩]) (by decide) _).1 _ rfl

end Asio.Transmit
