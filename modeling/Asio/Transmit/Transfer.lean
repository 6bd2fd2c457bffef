import Asio.Transmit.Composed

/-! # What a composed read or write transfers

The transfers of a read or write form a sequence that moves through the
flattened buffers without gap or overlap: each begins where the one before it
ended, is started only while the buffers are not full and the completion
condition asks for more, and stays within what the condition allows. The
sequence says which bytes are stored where, and how the three standard
conditions end it.
-/

namespace Asio.Transmit

open Loop

variable {Payload World : Type*}

/-- The transfers that bring a read or write of `cells` to an error and a total. -/
inductive Transfers (direction : Direction Payload World) (completionCondition : CompletionCondition)
    (cells : List Nat) : List (Transfer Payload) → ErrorCode → Nat → Prop where
  | nil : Transfers direction completionCondition cells [] .success 0
  | snoc {done : List (Transfer Payload)} {ec : ErrorCode} {total : Nat}
      (transfer : Transfer Payload) :
      Transfers direction completionCondition cells done ec total →
      total < cells.length →
      transfer.cells ≠ [] →
      transfer.cells <+: cells.drop total →
      transfer.cells.length ≤ checkForCompletion completionCondition ec total →
      direction.size transfer.payload ≤ transfer.cells.length →
      transfer.ec.failed = true ∨ 0 < direction.size transfer.payload →
      Transfers direction completionCondition cells (done ++ [transfer]) transfer.ec
        (total + direction.size transfer.payload)

/-- A read or write of a buffer sequence that ended: its transfers, the entries
of the script they took, and the reason it stopped. -/
structure Composed (direction : Direction Payload World) (completionCondition : CompletionCondition)
    (buffers : BufferSequence) (stream : Stream Payload) (outcome : Outcome Payload World)
    (done : List (Transfer Payload)) : Prop where
  recorded : outcome.stream.transfers = stream.transfers ++ done
  answered : ∃ answers, stream.script = answers ++ outcome.stream.script ∧
    List.Forall₂ (fun answer transfer => transfer = answer.transfer direction transfer.cells)
      answers done
  transfers : Transfers direction completionCondition (flatten buffers.buffers) done outcome.ec
    outcome.total
  stopped : outcome.total = bufferSize buffers.buffers ∨
    checkForCompletion completionCondition outcome.ec outcome.total = 0

namespace Transfers

variable {direction : Direction Payload World} {completionCondition : CompletionCondition}
  {cells : List Nat} {done : List (Transfer Payload)} {ec : ErrorCode} {total : Nat}

/-- The total never exceeds the size of the buffers. -/
theorem total_le (transfers : Transfers direction completionCondition cells done ec total) :
    total ≤ cells.length := by
  induction transfers with
  | nil => exact Nat.zero_le _
  | snoc transfer _ _ _ front _ fits _ _ =>
      have within := front.length_le
      rw [List.length_drop] at within
      omega

/-- The total is the sum of what was transferred. -/
theorem total_eq (transfers : Transfers direction completionCondition cells done ec total) :
    total = (done.map fun transfer => direction.size transfer.payload).sum := by
  induction transfers with
  | nil => rfl
  | snoc transfer _ _ _ _ _ _ _ ih =>
      rw [List.map_append, List.sum_append, ← ih]
      rfl

/-- What a read has stored: the bytes delivered, at the front of the buffers. -/
theorem stored {done : List (Transfer (List Byte))}
    (transfers : Transfers reading completionCondition cells done ec total)
    (memory : Nat → Byte) :
    done.foldl (fun memory transfer => reading.perform transfer.cells transfer.payload memory)
        memory =
      Memory.store memory (cells.take total) (done.flatMap Transfer.payload) := by
  induction transfers with
  | nil => rfl
  | @snoc done ec total transfer before _ _ front _ fits _ ih =>
      have lengths : (cells.take total).length = (done.flatMap Transfer.payload).length := by
        rw [List.length_take, Nat.min_eq_left before.total_le, List.length_flatMap,
          before.total_eq]
        rfl
      obtain ⟨rest, split⟩ := front
      have part : (cells.drop total).take transfer.payload.length =
          transfer.cells.take transfer.payload.length :=
        split ▸ List.take_append_of_le_length fits
      have more : cells.take (total + transfer.payload.length) =
          cells.take total ++ transfer.cells.take transfer.payload.length := by
        rw [List.take_add, part]
      rw [List.foldl_append, ih, List.flatMap_append]
      change Memory.store _ transfer.cells transfer.payload =
        Memory.store _ (cells.take (total + transfer.payload.length)) _
      rw [more, Memory.store_append _ _ _ lengths, ← Memory.store_take _ transfer.cells]
      simp only [List.flatMap_cons, List.flatMap_nil, List.append_nil]

/-- What a write has handed over: the front of the buffers. -/
theorem accepted {memory : Nat → Byte} {done : List (Transfer Nat)}
    (transfers : Transfers (writing memory) completionCondition cells done ec total) :
    done.foldl
        (fun accepted transfer =>
          (writing memory).perform transfer.cells transfer.payload accepted) [] =
      (cells.take total).map memory := by
  induction transfers with
  | nil => rfl
  | @snoc done ec total transfer _ _ _ front _ fits _ ih =>
      obtain ⟨rest, split⟩ := front
      have part : (cells.drop total).take transfer.payload =
          transfer.cells.take transfer.payload :=
        split ▸ List.take_append_of_le_length fits
      change _ = (cells.take (total + transfer.payload)).map memory
      rw [List.foldl_append, ih, List.take_add, part, List.map_append]
      rfl

end Transfers

/-! ## The loop makes these transfers -/

section Loop

variable {direction : Direction Payload World} {completionCondition : CompletionCondition}

/-- What a pass of the loop that goes round again has done. -/
theorem transferBufferSequence_again {state next : Progress Payload World}
    (passed : transferBufferSequence direction completionCondition state = .again next) :
    state.tmp.empty = false ∧
      checkForCompletion completionCondition state.ec state.tmp.totalConsumed ≠ 0 ∧
      ∃ transfer, state.stream.transferSome direction (flatten (state.tmp.prepare
          (checkForCompletion completionCondition state.ec state.tmp.totalConsumed))) =
            some (transfer, next.stream) ∧
        next.tmp = state.tmp.consume (direction.size transfer.payload) ∧
        next.ec = transfer.ec ∧
        next.world = direction.perform (flatten (state.tmp.prepare
          (checkForCompletion completionCondition state.ec state.tmp.totalConsumed)))
            transfer.payload state.world := by
  unfold transferBufferSequence at passed
  split at passed
  · cases passed
  · rename_i more
    dsimp only at passed
    split at passed
    · rename_i wanted
      split at passed
      · rename_i transfer stream answered
        cases passed
        exact ⟨Bool.eq_false_iff.mpr more, wanted, transfer, answered, rfl, rfl, rfl⟩
      · cases passed
    · cases passed

/-- When and how the loop leaves. -/
theorem transferBufferSequence_leave {state : Progress Payload World}
    {outcome : Outcome Payload World}
    (left : transferBufferSequence direction completionCondition state = .leave outcome) :
    outcome = state.outcome ∧ (state.tmp.empty = true ∨
      checkForCompletion completionCondition state.ec state.tmp.totalConsumed = 0) := by
  unfold transferBufferSequence at left
  split at left
  · rename_i full
    cases left
    exact ⟨rfl, .inl full⟩
  · dsimp only at left
    split at left
    · split at left
      · cases left
      · cases left
    · rename_i content
      cases left
      exact ⟨rfl, .inr (Decidable.not_not.mp content)⟩

/-- The loop has made transfers, at whose end the variables stand. -/
structure Made (direction : Direction Payload World) (completionCondition : CompletionCondition)
    (cells : List Nat) (stream : Stream Payload) (world : World) (state : Progress Payload World)
    (done : List (Transfer Payload)) : Prop where
  recorded : state.stream.transfers = stream.transfers ++ done
  answered : ∃ answers, stream.script = answers ++ state.stream.script ∧
    List.Forall₂ (fun answer transfer => transfer = answer.transfer direction transfer.cells)
      answers done
  reached : state.tmp.At cells state.tmp.totalConsumed
  transfers : Transfers direction completionCondition cells done state.ec state.tmp.totalConsumed
  performed : state.world = done.foldl
    (fun world transfer => direction.perform transfer.cells transfer.payload world) world

/-- At the head of the loop no transfer has been made. -/
theorem Made.start {buffers : BufferSequence} (real : buffers ≠ .nullBuffers)
    {stream : Stream Payload} {world : World} :
    Made direction completionCondition (flatten buffers.buffers) stream world
      (buffers.progress stream world) [] := by
  have start := BufferSequence.at_consuming real
  have zero : (buffers.progress stream world).tmp.totalConsumed = 0 := start.totalConsumed
  refine ⟨(List.append_nil _).symm, ⟨[], rfl, .nil⟩, ?_, ?_, rfl⟩
  · rwa [zero]
  · rw [zero]
    exact .nil

/-- A pass makes one more transfer. -/
theorem Made.again {cells : List Nat} {stream : Stream Payload} {world : World}
    {state next : Progress Payload World} {done : List (Transfer Payload)}
    (made : Made direction completionCondition cells stream world state done)
    (proceeds : ∀ answer ∈ stream.script, answer.Proceeds direction)
    (passed : transferBufferSequence direction completionCondition state = .again next) :
    ∃ transfer, Made direction completionCondition cells stream world next (done ++ [transfer]) := by
  obtain ⟨more, wanted, transfer, answered, consumed, error, performed⟩ :=
    transferBufferSequence_again passed
  have short : state.tmp.totalConsumed < cells.length := by
    rw [made.reached.empty, decide_eq_false_iff_not] at more
    exact Nat.lt_of_not_le more
  have room := made.reached.prepare_ne_nil (Nat.pos_of_ne_zero wanted) short
  obtain ⟨answer, script, rfl, recorded⟩ := Stream.transferSome_of_ne_nil room answered
  rw [Answer.transfer_ec] at error
  have fits := answer.size_transfer_le direction (flatten (state.tmp.prepare
    (checkForCompletion completionCondition state.ec state.tmp.totalConsumed)))
  have front := made.reached.prepare_prefix
    (checkForCompletion completionCondition state.ec state.tmp.totalConsumed)
  have bounded := made.reached.length_prepare_le
    (checkForCompletion completionCondition state.ec state.tmp.totalConsumed)
  generalize flatten (state.tmp.prepare
    (checkForCompletion completionCondition state.ec state.tmp.totalConsumed)) = asked at *
  have within := front.length_le
  rw [List.length_drop] at within
  have moved := made.reached.consume (show state.tmp.totalConsumed +
    direction.size (answer.transfer direction asked).payload ≤ cells.length by omega)
  rw [← consumed] at moved
  obtain ⟨answers, taken, pairs⟩ := made.answered
  refine ⟨answer.transfer direction asked, ?_, ?_, ?_, ?_, ?_⟩
  · rw [recorded, made.recorded, List.append_assoc]
  · refine ⟨answers ++ [answer], ?_, List.rel_append pairs (.cons rfl .nil)⟩
    rw [taken, script, List.append_assoc]
    rfl
  · rwa [moved.totalConsumed]
  · rw [moved.totalConsumed, error, ← Answer.transfer_ec direction answer asked]
    have member : answer ∈ stream.script := by
      rw [taken, script]
      exact List.mem_append_right _ List.mem_cons_self
    exact made.transfers.snoc _ short room front bounded fits
      ((proceeds answer member).of_room room)
  · rw [performed, made.performed, List.foldl_append]
    rfl

/-- On `null_buffers` the loop returns at once or not at all. -/
theorem nullBuffers_returns {stream : Stream Payload} {world : World}
    {outcome : Outcome Payload World}
    (returns : Returns (transferBufferSequence direction completionCondition)
      (BufferSequence.nullBuffers.progress stream world) outcome) :
    checkForCompletion completionCondition .success 0 = 0 ∧
      outcome = ⟨.success, 0, stream, world⟩ := by
  by_cases content : checkForCompletion completionCondition .success 0 = 0
  · refine ⟨content, returns.of_leave ?_⟩
    unfold transferBufferSequence
    exact (if_neg Bool.false_ne_true).trans (if_neg (not_not.mpr content))
  · refine (returns.invariant (fun state => state.tmp = .nullBuffers ∧ state.ec = .success)
      (fun _ => False) ⟨rfl, rfl⟩ ?_ ?_).elim
    · intro state next kept passed
      obtain ⟨-, -, transfer, answered, consumed, error, -⟩ := transferBufferSequence_again passed
      rw [kept.1] at answered consumed
      rw [show flatten (ConsumingBuffers.nullBuffers.prepare _) = [] from rfl,
        Stream.transferSome_nil, Option.some.injEq, Prod.mk.injEq] at answered
      exact ⟨consumed, by rw [error, ← answered.1]; rfl⟩
    · intro state outcome kept left
      obtain ⟨-, full | done⟩ := transferBufferSequence_leave left
      · rw [kept.1] at full
        cases full
      · rw [kept.1, kept.2] at done
        exact content done

/-- A read or write that returns has made the transfers of a composed operation. -/
theorem composed_of_returns {buffers : BufferSequence} {stream : Stream Payload} {world : World}
    {outcome : Outcome Payload World}
    (proceeds : ∀ answer ∈ stream.script, answer.Proceeds direction)
    (returns : Returns (transferBufferSequence direction completionCondition)
      (buffers.progress stream world) outcome) :
    ∃ done, Composed direction completionCondition buffers stream outcome done ∧
      outcome.world = done.foldl
        (fun world transfer => direction.perform transfer.cells transfer.payload world) world := by
  by_cases real : buffers = .nullBuffers
  · subst real
    obtain ⟨content, rfl⟩ := nullBuffers_returns returns
    exact ⟨[], ⟨(List.append_nil _).symm, ⟨[], rfl, .nil⟩, .nil, .inl rfl⟩, rfl⟩
  · refine returns.invariant
      (fun state => ∃ done, Made direction completionCondition (flatten buffers.buffers) stream
        world state done)
      (fun outcome => ∃ done, Composed direction completionCondition buffers stream outcome done ∧
        outcome.world = done.foldl
          (fun world transfer => direction.perform transfer.cells transfer.payload world) world)
      ?_ ?_ ?_
    · exact ⟨[], Made.start real⟩
    · rintro state next ⟨done, made⟩ passed
      obtain ⟨transfer, made⟩ := made.again proceeds passed
      exact ⟨_, made⟩
    · rintro state outcome ⟨done, made⟩ left
      obtain ⟨rfl, reason⟩ := transferBufferSequence_leave left
      refine ⟨done, ⟨made.recorded, made.answered, made.transfers, ?_⟩, made.performed⟩
      refine reason.imp_left fun full => ?_
      rw [made.reached.empty, decide_eq_true_eq] at full
      rw [← length_flatten]
      exact Nat.le_antisymm made.transfers.total_le full

end Loop

/-! ## The standard conditions -/

/-- The conditions of `completion_condition.hpp`. -/
inductive Standard : CompletionCondition → Prop where
  | all : Standard transferAll
  | atLeast (minimum : Nat) : Standard (transferAtLeast minimum)
  | exactly (size : Nat) : Standard (transferExactly size)

theorem checkForCompletion_transferAll (ec : ErrorCode) (total : Nat) :
    checkForCompletion transferAll ec total =
      if ec.failed then 0 else defaultMaxTransferSize := rfl

theorem checkForCompletion_transferAtLeast (minimum : Nat) (ec : ErrorCode) (total : Nat) :
    checkForCompletion (transferAtLeast minimum) ec total =
      if ec.failed ∨ total ≥ minimum then 0 else defaultMaxTransferSize := rfl

theorem checkForCompletion_transferExactly (size : Nat) (ec : ErrorCode) (total : Nat) :
    checkForCompletion (transferExactly size) ec total =
      if ec.failed ∨ total ≥ size then 0
      else min (size - total) defaultMaxTransferSize := by
  change (if _ then 0 else if _ then _ else _) = _
  split
  · rfl
  · split <;> omega

variable {completionCondition : CompletionCondition}

/-- The standard conditions are content with an error. -/
theorem Standard.content_of_failed (standard : Standard completionCondition) {ec : ErrorCode}
    (failed : ec.failed = true) (total : Nat) :
    checkForCompletion completionCondition ec total = 0 := by
  cases standard with
  | all => rw [checkForCompletion_transferAll, if_pos failed]
  | atLeast minimum => rw [checkForCompletion_transferAtLeast, if_pos (.inl failed)]
  | exactly size => rw [checkForCompletion_transferExactly, if_pos (.inl failed)]

/-- The standard conditions bound each transfer. -/
theorem Standard.bounded (standard : Standard completionCondition) (ec : ErrorCode)
    (total : Nat) : checkForCompletion completionCondition ec total ≤ defaultMaxTransferSize := by
  cases standard with
  | all =>
      rw [checkForCompletion_transferAll]
      split <;> simp
  | atLeast minimum =>
      rw [checkForCompletion_transferAtLeast]
      split <;> simp
  | exactly size =>
      rw [checkForCompletion_transferExactly]
      split
      · exact Nat.zero_le _
      · exact Nat.min_le_right _ _

namespace Transfers

variable {direction : Direction Payload World} {cells : List Nat}
  {done : List (Transfer Payload)} {ec : ErrorCode} {total : Nat}

/-- A transfer is only started where the condition asks for more. -/
theorem wanted_of_asked {transfer : Transfer Payload} {allowed : Nat}
    (room : transfer.cells ≠ []) (bounded : transfer.cells.length ≤ allowed) : 0 < allowed :=
  Nat.lt_of_lt_of_le (List.length_pos_of_ne_nil room) bounded

/-- Under a standard condition only the last transfer can report an error. -/
theorem failed_last (standard : Standard completionCondition)
    (transfers : Transfers direction completionCondition cells done ec total) :
    (∀ transfer ∈ done.dropLast, transfer.ec.failed = false) ∧
      (ec.failed = false → ∀ transfer ∈ done, transfer.ec.failed = false) := by
  induction transfers with
  | nil => exact ⟨fun _ member => absurd member List.not_mem_nil,
      fun _ _ member => absurd member List.not_mem_nil⟩
  | @snoc done ec total transfer _ _ room _ bounded _ _ ih =>
      have succeeded : ec.failed = false := by
        rw [Bool.eq_false_iff]
        intro failed
        rw [standard.content_of_failed failed] at bounded
        exact absurd (wanted_of_asked room bounded) (Nat.lt_irrefl 0)
      rw [List.dropLast_concat]
      refine ⟨ih.2 succeeded, fun last other member => ?_⟩
      rw [List.mem_append, List.mem_singleton] at member
      obtain earlier | rfl := member
      · exact ih.2 succeeded other earlier
      · exact last

/-- Without an error every transfer has moved something. -/
theorem length_le_total (standard : Standard completionCondition)
    (transfers : Transfers direction completionCondition cells done ec total)
    (succeeded : ec.failed = false) : done.length ≤ total := by
  have none := (transfers.failed_last standard).2 succeeded
  rw [transfers.total_eq]
  clear succeeded
  induction transfers with
  | nil => exact Nat.zero_le _
  | @snoc done ec total transfer before _ _ _ _ _ proceeds ih =>
      have moved := proceeds.resolve_left (by
        rw [none transfer (List.mem_append_right _ List.mem_cons_self)]
        exact Bool.false_ne_true)
      have rest := ih fun other member => none other (List.mem_append_left _ member)
      rw [List.length_append, List.map_append, List.sum_append]
      change _ + 1 ≤ _ + direction.size transfer.payload
      omega

/-- `transfer_exactly(n)` never moves more than `n` bytes. -/
theorem total_le_exactly {size : Nat}
    (transfers : Transfers direction (transferExactly size) cells done ec total) :
    total ≤ size := by
  induction transfers with
  | nil => exact Nat.zero_le _
  | @snoc done ec total transfer _ _ _ _ bounded fits _ ih =>
      rw [checkForCompletion_transferExactly] at bounded
      split at bounded
      · omega
      · have := Nat.le_trans bounded (Nat.min_le_left _ _)
        omega

end Transfers

/-- How the standard conditions end a read or write of so many bytes. -/
structure Ends (completionCondition : CompletionCondition) (size : Nat) (ec : ErrorCode)
    (total : Nat) : Prop where
  exactly : ∀ n, completionCondition = transferExactly n →
    total ≤ n ∧ (ec.failed = false → total = min n size)
  atLeast : ∀ n, completionCondition = transferAtLeast n → ec.failed = false → min n size ≤ total
  all : completionCondition = transferAll → ec.failed = false → total = size

/-- A total that stays within the size, and within what `transfer_exactly` asks
for, ends as the standard conditions say. -/
theorem Ends.of_stopped {size : Nat} {ec : ErrorCode} {total : Nat} (within : total ≤ size)
    (exact : ∀ n, completionCondition = transferExactly n → total ≤ n)
    (stopped : total = size ∨ checkForCompletion completionCondition ec total = 0) :
    Ends completionCondition size ec total where
  exactly := by
    rintro n rfl
    refine ⟨exact n rfl, fun succeeded => ?_⟩
    have bound := exact n rfl
    rw [checkForCompletion_transferExactly] at stopped
    simp only [succeeded, Bool.false_eq_true, false_or] at stopped
    obtain full | content := stopped
    · omega
    · split at content
      · omega
      · simp only [defaultMaxTransferSize] at content
        omega
  atLeast := by
    rintro n rfl succeeded
    rw [checkForCompletion_transferAtLeast] at stopped
    simp only [succeeded, Bool.false_eq_true, false_or] at stopped
    obtain full | content := stopped
    · omega
    · split at content
      · omega
      · cases content
  all := by
    rintro rfl succeeded
    rw [checkForCompletion_transferAll, succeeded] at stopped
    exact stopped.resolve_right (by decide)

/-! ## Enough answers end it -/

section Termination

variable {direction : Direction Payload World}

/-- What a pass that is blocked waits for. -/
theorem transferBufferSequence_blocked {state : Progress Payload World}
    (blocked : transferBufferSequence direction completionCondition state = .blocked) :
    state.tmp.empty = false ∧
      checkForCompletion completionCondition state.ec state.tmp.totalConsumed ≠ 0 ∧
      state.stream.script = [] := by
  unfold transferBufferSequence at blocked
  split at blocked
  · cases blocked
  · rename_i more
    dsimp only at blocked
    split at blocked
    · rename_i wanted
      split at blocked
      · cases blocked
      · rename_i unanswered
        exact ⟨Bool.eq_false_iff.mpr more, wanted, Stream.transferSome_eq_none unanswered⟩
    · cases blocked

/-- Each transfer has taken an entry of the script. -/
theorem Made.length_script {cells : List Nat} {stream : Stream Payload} {world : World}
    {state : Progress Payload World} {done : List (Transfer Payload)}
    (made : Made direction completionCondition cells stream world state done) :
    stream.script.length = done.length + state.stream.script.length := by
  obtain ⟨answers, taken, pairs⟩ := made.answered
  rw [taken, List.length_append, pairs.length_eq]

/-- Under a standard condition, a script with an entry for every byte of the
buffers is long enough for the read or write to return. -/
theorem returns_of_length_script {buffers : BufferSequence} (real : buffers ≠ .nullBuffers)
    {stream : Stream Payload} (world : World) (standard : Standard completionCondition)
    (proceeds : ∀ answer ∈ stream.script, answer.Proceeds direction)
    (enough : bufferSize buffers.buffers ≤ stream.script.length) :
    ∃ outcome, Returns (transferBufferSequence direction completionCondition)
      (buffers.progress stream world) outcome := by
  refine Returns.of_variant (fun state => ∃ done, Made direction completionCondition
    (flatten buffers.buffers) stream world state done)
    (fun state => state.stream.script.length) ?_ ?_
  · exact ⟨[], Made.start real⟩
  · rintro state ⟨done, made⟩
    cases passed : transferBufferSequence direction completionCondition state with
    | leave outcome => exact .inl ⟨outcome, rfl⟩
    | again next =>
        obtain ⟨transfer, more⟩ := made.again proceeds passed
        refine .inr ⟨next, rfl, ⟨_, more⟩, ?_⟩
        have before := made.length_script
        have after := more.length_script
        rw [List.length_append] at after
        change _ = _ + 1 + _ at after
        omega
    | blocked =>
        obtain ⟨more, wanted, ended⟩ := transferBufferSequence_blocked passed
        rw [made.reached.empty, decide_eq_false_iff_not, length_flatten] at more
        have succeeded : state.ec.failed = false := by
          rw [Bool.eq_false_iff]
          exact fun failed => wanted (standard.content_of_failed failed _)
        have moved := made.transfers.length_le_total standard succeeded
        have taken := made.length_script
        rw [ended] at taken
        change _ = _ + 0 at taken
        omega

end Termination

/-! ## Reads into a dynamic buffer -/

section Dynamic

open DynamicBuffer

variable {B : Type*} [DynamicBuffer B]

theorem sizeSub_of_le {first second : Nat} (le : second ≤ first) :
    sizeSub first second = first - second := if_pos le

/-- What a read asks for stays within the condition and the maximum size. -/
theorem bytesAvailable_le (b : B) (allowed : Nat) (within : size b ≤ DynamicBuffer.maxSize b) :
    bytesAvailable b allowed ≤ allowed ∧
      size b + bytesAvailable b allowed ≤ DynamicBuffer.maxSize b := by
  rw [bytesAvailable, sizeSub_of_le within]
  omega

/-- A read asks for nothing only when the condition is content or the buffer full. -/
theorem bytesAvailable_eq_zero {b : B} {allowed : Nat} (within : size b ≤ DynamicBuffer.maxSize b)
    (nothing : bytesAvailable b allowed = 0) :
    allowed = 0 ∨ size b = DynamicBuffer.maxSize b := by
  rw [bytesAvailable, sizeSub_of_le within] at nothing
  omega

/-- A prepared output sequence that bytes are stored in and committed. -/
theorem prepare_commit {b : B} {n : Nat} (room : size b + n ≤ DynamicBuffer.maxSize b) :
    ∃ prepared, prepare b n = .ok prepared ∧ ∀ bytes : List Byte, bytes.length ≤ n →
      data (commit (fill prepared bytes) bytes.length) = data b ++ bytes ∧
      DynamicBuffer.maxSize (commit (fill prepared bytes) bytes.length) =
        DynamicBuffer.maxSize b ∧
      size (commit (fill prepared bytes) bytes.length) = size b + bytes.length := by
  obtain ⟨prepared, made, committed⟩ := prepare_eq b n room
  refine ⟨prepared, made, fun bytes fits => ?_⟩
  obtain ⟨appended, kept⟩ := committed bytes fits
  refine ⟨appended, kept, ?_⟩
  rw [← length_data, appended, List.length_append, length_data]

/-- The room a dynamic buffer has, as cells of its storage. -/
def roomCells (b : B) : List Nat := outputCells b (DynamicBuffer.maxSize b - size b)

/-- A read into a dynamic buffer has made transfers, at whose end the variables
stand. -/
structure DynamicMade (completionCondition : CompletionCondition) (b : B)
    (stream : Stream (List Byte)) (state : DynamicRead B) (done : List (Transfer (List Byte))) :
    Prop where
  recorded : state.stream.transfers = stream.transfers ++ done
  answered : ∃ answers, stream.script = answers ++ state.stream.script ∧
    List.Forall₂ (fun answer transfer => transfer = answer.transfer (receiving B) transfer.cells)
      answers done
  appended : data state.b = data b ++ done.flatMap Transfer.payload
  grown : size state.b = size b + state.totalTransferred
  limit : DynamicBuffer.maxSize state.b = DynamicBuffer.maxSize b
  transfers : Transfers (receiving B) completionCondition (roomCells b) done state.ec
    state.totalTransferred
  available : state.bytesAvailable = bytesAvailable state.b
    (checkForCompletion completionCondition state.ec state.totalTransferred)

section Steps

variable {b : B} {stream : Stream (List Byte)} {state : DynamicRead B}
  {done : List (Transfer (List Byte))}

theorem length_roomCells : (roomCells b).length = DynamicBuffer.maxSize b - size b :=
  List.length_range'

theorem DynamicMade.within (made : DynamicMade completionCondition b stream state done)
    (initially : size b ≤ DynamicBuffer.maxSize b) :
    size state.b ≤ DynamicBuffer.maxSize state.b := by
  have bound := made.transfers.total_le
  rw [length_roomCells] at bound
  rw [made.grown, made.limit]
  omega

/-- At the head of the loop nothing has been read. -/
theorem DynamicMade.start (completionCondition : CompletionCondition) (b : B)
    (stream : Stream (List Byte)) :
    DynamicMade completionCondition b stream (dynamicRead completionCondition b stream) [] :=
  ⟨(List.append_nil _).symm, ⟨[], rfl, .nil⟩, (List.append_nil _).symm, rfl, rfl, .nil, rfl⟩

/-- A pass that is answered. -/
theorem readDynamic_again {prepared : B} {transfer : Transfer (List Byte)}
    {after : Stream (List Byte)} (something : 0 < state.bytesAvailable)
    (ready : prepare state.b state.bytesAvailable = .ok prepared)
    (answered : state.stream.transferSome (receiving B)
      (outputCells state.b state.bytesAvailable) = some (transfer, after)) :
    readDynamic completionCondition state = .again
      { b := commit (fill prepared transfer.payload) transfer.payload.length
        ec := transfer.ec
        totalTransferred := state.totalTransferred + transfer.payload.length
        bytesAvailable := bytesAvailable
          (commit (fill prepared transfer.payload) transfer.payload.length)
          (checkForCompletion completionCondition transfer.ec
            (state.totalTransferred + transfer.payload.length))
        stream := after } := by
  rw [readDynamic, if_pos something]
  simp only [ready, answered]

/-- A pass leaves when nothing is asked for; otherwise it is blocked, or makes
one more transfer. -/
theorem DynamicMade.pass (made : DynamicMade completionCondition b stream state done)
    (initially : size b ≤ DynamicBuffer.maxSize b)
    (proceeds : ∀ answer ∈ stream.script, answer.Proceeds (receiving B)) :
    (state.bytesAvailable = 0 ∧ readDynamic completionCondition state =
        .leave (.ok ⟨state.ec, state.totalTransferred, state.stream, state.b⟩)) ∨
      readDynamic completionCondition state = .blocked ∨
      ∃ next transfer, readDynamic completionCondition state = .again next ∧
        DynamicMade completionCondition b stream next (done ++ [transfer]) := by
  have within := made.within initially
  obtain ⟨allowed, inside⟩ := bytesAvailable_le state.b
    (checkForCompletion completionCondition state.ec state.totalTransferred) within
  rw [← made.available] at allowed inside
  obtain nothing | something := Nat.eq_zero_or_pos state.bytesAvailable
  · refine .inl ⟨nothing, ?_⟩
    rw [readDynamic, nothing, if_neg (Nat.lt_irrefl 0)]
  obtain ⟨prepared, ready, committed⟩ := prepare_commit inside
  cases answered : state.stream.transferSome (receiving B)
      (outputCells state.b state.bytesAvailable) with
  | none =>
      refine .inr (.inl ?_)
      rw [readDynamic, if_pos something]
      simp only [ready, answered]
  | some result =>
      obtain ⟨transfer, after⟩ := result
      have length : (outputCells state.b state.bytesAvailable).length = state.bytesAvailable :=
        List.length_range'
      have room : outputCells state.b state.bytesAvailable ≠ [] := by
        rw [← List.length_pos_iff, length]
        exact something
      obtain ⟨answer, script, rfl, recorded⟩ := Stream.transferSome_of_ne_nil room answered
      have fits := answer.size_transfer_le (receiving B)
        (outputCells state.b state.bytesAvailable)
      change (answer.transfer (receiving B) _).payload.length ≤ _ at fits
      rw [length] at fits
      obtain ⟨appended, kept, larger⟩ := committed _ fits
      refine .inr (.inr ⟨_, answer.transfer (receiving B)
        (outputCells state.b state.bytesAvailable),
        readDynamic_again something ready answered, ?_⟩)
      · obtain ⟨answers, taken, pairs⟩ := made.answered
        refine ⟨?_, ⟨answers ++ [answer], ?_, List.rel_append pairs (.cons rfl .nil)⟩, ?_, ?_, ?_,
          ?_, rfl⟩
        · rw [recorded, made.recorded, List.append_assoc]
        · rw [taken, script, List.append_assoc]
          rfl
        · rw [appended, made.appended, List.flatMap_append, List.append_assoc]
          simp only [List.flatMap_cons, List.flatMap_nil, List.append_nil]
        · rw [larger, made.grown, Nat.add_assoc]
        · rw [kept, made.limit]
        · have member : answer ∈ stream.script := by
            rw [taken, script]
            exact List.mem_append_right _ List.mem_cons_self
          have front : outputCells state.b state.bytesAvailable <+:
              (roomCells b).drop state.totalTransferred := by
            have cells : (roomCells b).drop state.totalTransferred =
                outputCells state.b (DynamicBuffer.maxSize b - size b - state.totalTransferred) := by
              rw [roomCells, outputCells, outputCells, List.drop_range', made.grown, Nat.mul_one]
            rw [cells, List.prefix_iff_eq_take, length, outputCells, outputCells,
              List.take_range'_of_length_ge]
            rw [made.grown, made.limit] at inside
            omega
          have more := front.length_le
          rw [length, List.length_drop] at more
          refine made.transfers.snoc _ (by omega) room front ?_ ?_
            ((proceeds answer member).of_room room)
          · rwa [Answer.transfer_cells, length]
          · rwa [Answer.transfer_cells, length]

end Steps

/-- A read into a dynamic buffer that returned: nothing was thrown, the bytes
delivered follow the initial contents, and the transfers are those of a composed
read of the room the buffer had. -/
structure DynamicComposed (completionCondition : CompletionCondition) (b : B)
    (stream : Stream (List Byte)) (outcome : Outcome (List Byte) B)
    (done : List (Transfer (List Byte))) : Prop where
  recorded : outcome.stream.transfers = stream.transfers ++ done
  answered : ∃ answers, stream.script = answers ++ outcome.stream.script ∧
    List.Forall₂ (fun answer transfer => transfer = answer.transfer (receiving B) transfer.cells)
      answers done
  transfers : Transfers (receiving B) completionCondition (roomCells b) done outcome.ec
    outcome.total
  stopped : outcome.total = DynamicBuffer.maxSize b - size b ∨
    checkForCompletion completionCondition outcome.ec outcome.total = 0
  appended : data outcome.world = data b ++ done.flatMap Transfer.payload

theorem dynamicComposed_of_returns {b : B} {stream : Stream (List Byte)}
    {result : Except LengthError (Outcome (List Byte) B)}
    (within : size b ≤ DynamicBuffer.maxSize b)
    (proceeds : ∀ answer ∈ stream.script, answer.Proceeds (receiving B))
    (returns : Returns (readDynamic completionCondition)
      (dynamicRead completionCondition b stream) result) :
    ∃ outcome done, result = .ok outcome ∧
      DynamicComposed completionCondition b stream outcome done := by
  refine returns.invariant
    (fun state => ∃ done, DynamicMade completionCondition b stream state done)
    (fun result => ∃ outcome done, result = .ok outcome ∧
      DynamicComposed completionCondition b stream outcome done)
    ⟨[], .start completionCondition b stream⟩ ?_ ?_
  · rintro state next ⟨done, made⟩ passed
    obtain ⟨-, left⟩ | blocked | ⟨other, transfer, went, more⟩ := made.pass within proceeds
    · rw [left] at passed
      cases passed
    · rw [blocked] at passed
      cases passed
    · rw [went] at passed
      cases passed
      exact ⟨_, more⟩
  · rintro state result ⟨done, made⟩ passed
    obtain ⟨nothing, left⟩ | blocked | ⟨other, transfer, went, more⟩ := made.pass within proceeds
    · rw [left] at passed
      cases passed
      refine ⟨_, done, rfl, made.recorded, made.answered, made.transfers, ?_, made.appended⟩
      rw [made.available] at nothing
      obtain content | full := bytesAvailable_eq_zero (made.within within) nothing
      · exact .inr content
      · left
        rw [made.grown, made.limit] at full
        change state.totalTransferred = _
        omega
    · rw [blocked] at passed
      cases passed
    · rw [went] at passed
      cases passed

end Dynamic

/-! ## The bytes transferred -/

/-- What a read of a buffer sequence that returned has done: the bytes delivered
are at the front of the flattened buffers, in order, and nothing else changed. -/
structure ReadExactly (completionCondition : CompletionCondition) (buffers : BufferSequence)
    (stream : Stream (List Byte)) (memory : Nat → Byte)
    (outcome : Outcome (List Byte) (Nat → Byte)) (done : List (Transfer (List Byte))) : Prop
    extends Composed reading completionCondition buffers stream outcome done where
  count : outcome.total = (done.flatMap Transfer.payload).length
  bounded : outcome.total ≤ bufferSize buffers.buffers
  stored : outcome.world = Memory.store memory ((flatten buffers.buffers).take outcome.total)
    (done.flatMap Transfer.payload)
  front : (flatten buffers.buffers).Nodup →
    ((flatten buffers.buffers).take outcome.total).map outcome.world =
      done.flatMap Transfer.payload
  elsewhere : ∀ cell, cell ∉ (flatten buffers.buffers).take outcome.total →
    outcome.world cell = memory cell
  ends : Ends completionCondition (bufferSize buffers.buffers) outcome.ec outcome.total
  onlyLastFails : Standard completionCondition →
    ∀ transfer ∈ done.dropLast, transfer.ec.failed = false

/-- What a write of a buffer sequence that returned has done: the bytes accepted
are the front of the flattened buffers. -/
structure WroteExactly (completionCondition : CompletionCondition) (buffers : BufferSequence)
    (stream : Stream Nat) (memory : Nat → Byte) (outcome : Outcome Nat (List Byte))
    (done : List (Transfer Nat)) : Prop
    extends Composed (writing memory) completionCondition buffers stream outcome done where
  bounded : outcome.total ≤ bufferSize buffers.buffers
  accepted : outcome.world = ((flatten buffers.buffers).take outcome.total).map memory
  ends : Ends completionCondition (bufferSize buffers.buffers) outcome.ec outcome.total
  onlyLastFails : Standard completionCondition →
    ∀ transfer ∈ done.dropLast, transfer.ec.failed = false

section Exact

variable {buffers : BufferSequence}

theorem readExactly_of_returns {stream : Stream (List Byte)} {memory : Nat → Byte}
    {outcome : Outcome (List Byte) (Nat → Byte)}
    (proceeds : ∀ answer ∈ stream.script, answer.Proceeds reading)
    (returns : Returns (readBufferSequence completionCondition) (buffers.progress stream memory)
      outcome) :
    ∃ done, ReadExactly completionCondition buffers stream memory outcome done := by
  obtain ⟨done, composed, performed⟩ := composed_of_returns proceeds returns
  have transfers := composed.transfers
  have stored := performed.trans (transfers.stored memory)
  have count : outcome.total = (done.flatMap Transfer.payload).length := by
    rw [transfers.total_eq, List.length_flatMap]
    rfl
  have bounded := transfers.total_le
  have lengths : ((flatten buffers.buffers).take outcome.total).length =
      (done.flatMap Transfer.payload).length := by
    rw [List.length_take, Nat.min_eq_left bounded, count]
  rw [length_flatten] at bounded
  refine ⟨done, composed, count, bounded, stored, ?_, ?_, ?_, ?_⟩
  · intro distinct
    rw [stored]
    exact Memory.map_store _ (distinct.sublist (List.take_sublist _ _)) lengths
  · intro cell outside
    rw [stored]
    exact Memory.store_of_notMem _ _ outside
  · refine .of_stopped bounded ?_ composed.stopped
    rintro n rfl
    exact transfers.total_le_exactly
  · exact fun standard => (transfers.failed_last standard).1

theorem wroteExactly_of_returns {stream : Stream Nat} {memory : Nat → Byte}
    {outcome : Outcome Nat (List Byte)}
    (proceeds : ∀ answer ∈ stream.script, answer.Proceeds (writing memory))
    (returns : Returns (writeBufferSequence memory completionCondition)
      (buffers.progress stream []) outcome) :
    ∃ done, WroteExactly completionCondition buffers stream memory outcome done := by
  obtain ⟨done, composed, performed⟩ := composed_of_returns proceeds returns
  have transfers := composed.transfers
  have bounded := transfers.total_le
  rw [length_flatten] at bounded
  refine ⟨done, composed, bounded, performed.trans transfers.accepted, ?_, ?_⟩
  · refine .of_stopped bounded ?_ composed.stopped
    rintro n rfl
    exact transfers.total_le_exactly
  · exact fun standard => (transfers.failed_last standard).1

end Exact

section DynamicExact

open DynamicBuffer

variable {B : Type*} [DynamicBuffer B]

/-- What a read into a dynamic buffer that returned has done. -/
structure DynamicReadExactly (completionCondition : CompletionCondition) (b : B)
    (stream : Stream (List Byte)) (outcome : Outcome (List Byte) B)
    (done : List (Transfer (List Byte))) : Prop
    extends DynamicComposed completionCondition b stream outcome done where
  count : outcome.total = (done.flatMap Transfer.payload).length
  bounded : outcome.total ≤ DynamicBuffer.maxSize b - size b
  ends : Ends completionCondition (DynamicBuffer.maxSize b - size b) outcome.ec outcome.total
  onlyLastFails : Standard completionCondition →
    ∀ transfer ∈ done.dropLast, transfer.ec.failed = false

theorem dynamicReadExactly_of_returns {b : B} {stream : Stream (List Byte)}
    {result : Except LengthError (Outcome (List Byte) B)}
    (within : size b ≤ DynamicBuffer.maxSize b)
    (proceeds : ∀ answer ∈ stream.script, answer.Proceeds (receiving B))
    (returns : Returns (readDynamic completionCondition)
      (dynamicRead completionCondition b stream) result) :
    ∃ outcome done, result = .ok outcome ∧
      DynamicReadExactly completionCondition b stream outcome done := by
  obtain ⟨outcome, done, rfl, composed⟩ := dynamicComposed_of_returns within proceeds returns
  have transfers := composed.transfers
  have bounded := transfers.total_le
  rw [length_roomCells] at bounded
  refine ⟨outcome, done, rfl, composed, ?_, bounded, ?_, ?_⟩
  · rw [transfers.total_eq, List.length_flatMap]
    rfl
  · refine .of_stopped bounded ?_ composed.stopped
    rintro n rfl
    exact transfers.total_le_exactly
  · exact fun standard => (transfers.failed_last standard).1

/-- The bytes of `data()`, read from the storage. -/
theorem map_dataMemory (b : B) : (flatten (dataBuffer b).buffers).map (dataMemory b) = data b := by
  apply List.ext_getElem
  · rw [List.length_map, length_flatten, length_data]
    rfl
  · intro index inside within
    have cells : flatten (dataBuffer b).buffers = List.range' 0 (size b) := List.append_nil _
    simp only [cells, List.getElem_map, List.getElem_range', Nat.zero_add, Nat.one_mul,
      dataMemory, List.getD_eq_getElem?_getD, List.getElem?_eq_getElem within, Option.getD_some]

/-- A write from a dynamic buffer hands over the front of its bytes and consumes
them. -/
theorem writeDynamic_exact {b : B} {stream : Stream Nat} {result : DynamicWritten B}
    (proceeds : ∀ answer ∈ stream.script, answer.Proceeds (writing (dataMemory b)))
    (returns : Returns (writeDynamic completionCondition b)
      ((dataBuffer b).progress stream []) result) :
    result.bytesTransferred ≤ size b ∧
      result.accepted = (data b).take result.bytesTransferred ∧
      data result.b = (data b).drop result.bytesTransferred ∧
      Ends completionCondition (size b) result.ec result.bytesTransferred := by
  obtain ⟨outcome, written, rfl⟩ := Returns.map_iff.mp returns
  obtain ⟨done, exact⟩ := wroteExactly_of_returns proceeds written
  have size : bufferSize (dataBuffer b).buffers = size b := Nat.add_zero _
  have bounded := exact.bounded
  have ends := exact.ends
  rw [size] at bounded ends
  refine ⟨bounded, ?_, data_consume _ _, ends⟩
  change outcome.world = (data b).take outcome.total
  rw [exact.accepted, List.map_take, map_dataMemory]

/-- **Composed reads and writes transfer exactly the right bytes.** On streams
that never report success with nothing transferred into room, a read that
returns has stored the bytes delivered, in order, at the front of the buffers
and nothing elsewhere; a write that returns has handed over the front of the
buffers; both stop exactly when the buffers are full or the condition is
content. Enough answers make a read or write with a standard condition return. -/
theorem read_write_exact (buffers : BufferSequence) (completionCondition : CompletionCondition)
    (b : B) :
    (∀ stream memory outcome, (∀ answer ∈ stream.script, answer.Proceeds reading) →
      Returns (readBufferSequence completionCondition) (buffers.progress stream memory) outcome →
      ∃ done, ReadExactly completionCondition buffers stream memory outcome done) ∧
    (∀ stream memory outcome, (∀ answer ∈ stream.script, answer.Proceeds (writing memory)) →
      Returns (writeBufferSequence memory completionCondition) (buffers.progress stream []) outcome →
      ∃ done, WroteExactly completionCondition buffers stream memory outcome done) ∧
    (Standard completionCondition → buffers ≠ .nullBuffers →
      (∀ stream memory, (∀ answer ∈ stream.script, answer.Proceeds reading) →
        bufferSize buffers.buffers ≤ stream.script.length →
        ∃ outcome, Returns (readBufferSequence completionCondition)
          (buffers.progress stream memory) outcome) ∧
      (∀ stream memory, (∀ answer ∈ stream.script, answer.Proceeds (writing memory)) →
        bufferSize buffers.buffers ≤ stream.script.length →
        ∃ outcome, Returns (writeBufferSequence memory completionCondition)
          (buffers.progress stream []) outcome)) ∧
    (∀ stream result, size b ≤ DynamicBuffer.maxSize b →
      (∀ answer ∈ stream.script, answer.Proceeds (receiving B)) →
      Returns (readDynamic completionCondition) (dynamicRead completionCondition b stream) result →
      ∃ outcome done, result = .ok outcome ∧
        DynamicReadExactly completionCondition b stream outcome done) ∧
    (∀ stream result, (∀ answer ∈ stream.script, answer.Proceeds (writing (dataMemory b))) →
      Returns (writeDynamic completionCondition b) ((dataBuffer b).progress stream []) result →
      result.bytesTransferred ≤ size b ∧
        result.accepted = (data b).take result.bytesTransferred ∧
        data result.b = (data b).drop result.bytesTransferred ∧
        Ends completionCondition (size b) result.ec result.bytesTransferred) := by
  refine ⟨?_, ?_, ?_, ?_, ?_⟩
  · exact fun stream memory outcome proceeds returns => readExactly_of_returns proceeds returns
  · exact fun stream memory outcome proceeds returns => wroteExactly_of_returns proceeds returns
  · refine fun standard real => ⟨?_, ?_⟩
    · exact fun stream memory => returns_of_length_script real memory standard
    · exact fun stream memory => returns_of_length_script real [] standard
  · exact fun stream result within => dynamicReadExactly_of_returns within
  · exact fun stream result => writeDynamic_exact

end DynamicExact

/-- Two buffers around an empty one. -/
def scatteredBuffers : BufferSequence := .range [⟨0, 2⟩, ⟨7, 0⟩, ⟨10, 3⟩]

/-- A string of one byte with room for three more. -/
def oneByteString : ContainerBuffer .string .exact := .adapt [9] 4

/-- Four bytes exactly, in two pieces, for all four operations. -/
theorem read_write_exact_fourBytes :
    (∃ outcome done, ReadExactly (transferExactly 4) scatteredBuffers
      ⟨[⟨.success, [1]⟩, ⟨.success, [2, 3, 4, 5]⟩], []⟩ (fun _ => 0) outcome done ∧
      outcome.total = 4 ∧ [0, 1, 10, 11, 12].map outcome.world = [1, 2, 3, 4, 0]) ∧
    (∃ outcome done, WroteExactly (transferExactly 4) scatteredBuffers
      ⟨[⟨.success, 3⟩, ⟨.success, 9⟩], []⟩ UInt8.ofNat outcome done ∧
      outcome.world = [0, 1, 10, 11]) ∧
    (∃ outcome, Returns (readBufferSequence (transferExactly 4)) (scatteredBuffers.progress
      ⟨List.replicate 5 ⟨.success, [1]⟩, []⟩ fun _ => 0) outcome) ∧
    (∃ outcome done, DynamicReadExactly (transferExactly 4) oneByteString
      ⟨[⟨.success, [1]⟩, ⟨.success, [2, 3, 4, 5]⟩], []⟩ outcome done ∧ outcome.total = 3) ∧
    (∃ result : DynamicWritten (ContainerBuffer .string .exact),
      result.accepted = (DynamicBuffer.data oneByteString).take result.bytesTransferred ∧
      result.bytesTransferred = 1) := by
  obtain ⟨outcome, returns, total⟩ : ∃ outcome, Returns (readBufferSequence (transferExactly 4))
      (scatteredBuffers.progress ⟨[⟨.success, [1]⟩, ⟨.success, [2, 3, 4, 5]⟩], []⟩ fun _ => 0)
      outcome ∧ decide (outcome.total = 4 ∧
        [0, 1, 10, 11, 12].map outcome.world = [1, 2, 3, 4, 0]) = true :=
    @Returns.exists_of_evaluate _ _ _ 3 _ _ (by decide)
  obtain ⟨written, writes, sent⟩ : ∃ outcome, Returns
      (writeBufferSequence UInt8.ofNat (transferExactly 4))
      (scatteredBuffers.progress ⟨[⟨.success, 3⟩, ⟨.success, 9⟩], []⟩ []) outcome ∧
        decide (outcome.world = [0, 1, 10, 11]) = true :=
    @Returns.exists_of_evaluate _ _ _ 3 _ _ (by decide)
  obtain ⟨result, received, three⟩ : ∃ result, Returns (readDynamic (transferExactly 4))
      (dynamicRead (transferExactly 4) oneByteString
        ⟨[⟨.success, [1]⟩, ⟨.success, [2, 3, 4, 5]⟩], []⟩) result ∧
      (result.toOption.any fun outcome => decide (outcome.total = 3)) = true :=
    @Returns.exists_of_evaluate _ _ _ 3 _ _ (by decide)
  obtain ⟨handed, gives, one⟩ : ∃ result, Returns (writeDynamic (transferExactly 4) oneByteString)
      ((dataBuffer oneByteString).progress ⟨[⟨.success, 1⟩], []⟩ []) result ∧
      decide (result.bytesTransferred = 1) = true :=
    @Returns.exists_of_evaluate _ _ _ 3 _ _ (by decide)
  obtain ⟨reads, writes', ends, receives, hands⟩ :=
    read_write_exact scatteredBuffers (transferExactly 4) oneByteString
  obtain ⟨done, exact⟩ := reads _ _ outcome (by decide) returns
  obtain ⟨sentDone, wrote⟩ := writes' _ _ written (by decide) writes
  obtain ⟨arrived, arrivedDone, rfl, stored⟩ := receives _ result (by decide) (by decide) received
  obtain ⟨-, front, -⟩ := hands _ handed (by decide) gives
  exact ⟨⟨outcome, done, exact, of_decide_eq_true total⟩,
    ⟨written, sentDone, wrote, of_decide_eq_true sent⟩,
    (ends (.exactly 4) (by decide)).1 _ _ (by decide) (by decide),
    ⟨arrived, arrivedDone, stored, of_decide_eq_true three⟩,
    ⟨handed, front, of_decide_eq_true one⟩⟩

end Asio.Transmit
