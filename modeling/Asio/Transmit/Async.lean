import Asio.Transmit.Transfer

/-! # Asynchronous reads and writes agree with the synchronous ones

Each completion of a composed operation corresponds to a pass of the loop: the
loop stands before a transfer exactly when the operation waits for one with the
same cells, and has nothing more to do exactly when the operation calls its
handler. Only at the start can they differ, where the operation starts a
transfer without room before it finds that there is nothing to do.
-/

namespace Asio.Transmit

open Loop

variable {Payload World : Type*} {direction : Direction Payload World}
  {completionCondition : CompletionCondition}

/-- The handler is called with what the call returns: the error and the total,
and the transfers with room, took the same entries of the script and left the
same world. -/
structure Same {Op : Type*} (matching : World → Op → Prop) (outcome : Outcome Payload World)
    (handled : Outcome Payload Op) : Prop where
  ec : handled.ec = outcome.ec
  total : handled.total = outcome.total
  script : handled.stream.script = outcome.stream.script
  withRoom : handled.stream.withRoom = outcome.stream.withRoom
  world : matching outcome.world handled.world

/-- The operation completes without an exception and in the same way. -/
def Completes {Op : Type*} (matching : World → Op → Prop) (outcome : Outcome Payload World)
    (result : Except LengthError (Outcome Payload Op)) : Prop :=
  ∃ handled, result = .ok handled ∧ Same matching outcome handled

/-- The loop has nothing more to do. -/
def Progress.Finished (completionCondition : CompletionCondition)
    (state : Progress Payload World) : Prop :=
  state.tmp.empty = true ∨
    checkForCompletion completionCondition state.ec state.tmp.totalConsumed = 0

/-- The transfer that comes next. -/
def Progress.asked (completionCondition : CompletionCondition) (state : Progress Payload World) :
    List Nat :=
  flatten (state.tmp.prepare
    (checkForCompletion completionCondition state.ec state.tmp.totalConsumed))

/-- The variables after a transfer. -/
def Progress.after (direction : Direction Payload World) (state : Progress Payload World)
    (transfer : Transfer Payload) (stream : Stream Payload) : Progress Payload World where
  tmp := state.tmp.consume (direction.size transfer.payload)
  ec := transfer.ec
  stream := stream
  world := direction.perform transfer.cells transfer.payload state.world

section Completion

variable {Op : Type*} {direction : Direction Payload Op} {resume : Op → ErrorCode → Nat → Call Op}
  {cells : List Nat} {op : Op} {stream : Stream Payload}

/-- The completion of a transfer that is answered. -/
theorem completion_answered {transfer : Transfer Payload} {after : Stream Payload}
    (answered : stream.transferSome direction cells = some (transfer, after)) :
    completion direction resume ⟨.transferSome cells op, stream⟩ =
      .again ⟨resume (direction.perform cells transfer.payload op) transfer.ec
        (direction.size transfer.payload), after⟩ := by
  simp only [completion, answered]

theorem completion_blocked (blocked : stream.transferSome direction cells = none) :
    completion direction resume ⟨.transferSome cells op, stream⟩ = .blocked := by
  simp only [completion, blocked]

end Completion

/-- How the operation in progress corresponds to the variables of the loop. -/
inductive Corresponds (direction : Direction Payload World)
    (completionCondition : CompletionCondition) :
    Progress Payload World → Pending Payload (TransferOp World) → Prop where
  | waiting {state : Progress Payload World} {cells : List Nat} :
      state.tmp.At cells state.tmp.totalConsumed →
      (∀ answer ∈ state.stream.script, answer.Proceeds direction) →
      ¬ state.Finished completionCondition →
      Corresponds direction completionCondition state
        ⟨.transferSome (state.asked completionCondition) ⟨state.tmp, state.world⟩, state.stream⟩
  | finished {state : Progress Payload World} :
      state.Finished completionCondition →
      Corresponds direction completionCondition state
        ⟨.handler state.ec state.tmp.totalConsumed ⟨state.tmp, state.world⟩, state.stream⟩
  | idle {state : Progress Payload World} :
      state.Finished completionCondition → state.ec = .success →
      (state.tmp.consume 0).totalConsumed = state.tmp.totalConsumed →
      Corresponds direction completionCondition state
        ⟨.transferSome [] ⟨state.tmp, state.world⟩, state.stream⟩

theorem transferBufferSequence_of_finished {state : Progress Payload World}
    (finished : state.Finished completionCondition) :
    transferBufferSequence direction completionCondition state = .leave state.outcome := by
  unfold transferBufferSequence
  obtain full | content := finished
  · exact if_pos full
  · split
    · rfl
    · exact if_neg (not_not.mpr content)

/-- Before the end a pass makes the transfer that comes next. -/
theorem transferBufferSequence_of_asked {state : Progress Payload World}
    (more : ¬ state.Finished completionCondition) :
    transferBufferSequence direction completionCondition state =
      match state.stream.transferSome direction (state.asked completionCondition) with
      | some (transfer, stream) => .again (state.after direction
          { transfer with cells := state.asked completionCondition } stream)
      | none => .blocked := by
  obtain ⟨room, wanted⟩ := not_or.mp more
  unfold transferBufferSequence
  rw [if_neg room]
  exact if_pos wanted

/-- A completed transfer that moved something or failed leaves the operation as
the loop's variables are. -/
theorem TransferOp.call_zero (state : Progress Payload World) (op : TransferOp World)
    {bytesTransferred : Nat} (moved : state.ec.failed = true ∨ 0 < bytesTransferred)
    (buffers : state.tmp = op.buffers.consume bytesTransferred) (world : state.world = op.world) :
    (state.Finished completionCondition ∧
        op.call completionCondition state.ec bytesTransferred 0 =
          .handler state.ec state.tmp.totalConsumed ⟨state.tmp, state.world⟩) ∨
      ¬ state.Finished completionCondition ∧
        op.call completionCondition state.ec bytesTransferred 0 =
          .transferSome (state.asked completionCondition) ⟨state.tmp, state.world⟩ := by
  have proceeds : (!state.ec.failed && bytesTransferred == 0) = false := by
    obtain failed | positive := moved
    · simp only [failed, Bool.not_true, Bool.false_and]
    · simp only [Nat.ne_of_gt positive, beq_eq_false_iff_ne.mpr, ne_eq, not_false_eq_true,
        Bool.and_false]
  rw [TransferOp.call, if_neg Nat.zero_ne_one]
  simp only [proceeds, Bool.false_or, ← buffers, ← world, Progress.Finished, Progress.asked]
  split
  · rename_i full
    exact .inl ⟨.inl full, rfl⟩
  · rename_i room
    split
    · rename_i wanted
      exact .inr ⟨not_or.mpr ⟨room, Nat.ne_of_gt wanted⟩, rfl⟩
    · rename_i content
      exact .inl ⟨.inr (Nat.eq_zero_of_not_pos content), rfl⟩

/-- A completion with nothing transferred ends the operation. -/
theorem TransferOp.call_idle (op : TransferOp World) :
    op.call completionCondition .success 0 0 =
      .handler .success (op.buffers.consume 0).totalConsumed
        { op with buffers := op.buffers.consume 0 } := by
  rw [TransferOp.call, if_neg Nat.zero_ne_one]
  exact if_pos rfl

/-- The operation and the loop pass in step. -/
theorem Corresponds.inStep {state : Progress Payload World}
    {pending : Pending Payload (TransferOp World)}
    (corresponds : Corresponds direction completionCondition state pending)
    (still : ∀ world, direction.perform [] direction.nothing world = world) :
    InStep (transferBufferSequence direction completionCondition)
      (transferOp direction completionCondition) (Corresponds direction completionCondition)
      (Completes fun world op => op.world = world) state pending := by
  cases corresponds with
  | @waiting cells reached proceeds more =>
      have loop := @transferBufferSequence_of_asked _ _ direction _ _ more
      cases answered : state.stream.transferSome direction (state.asked completionCondition) with
      | none =>
          rw [answered] at loop
          exact .blocked loop (completion_blocked answered)
      | some result =>
          obtain ⟨transfer, after⟩ := result
          rw [answered] at loop
          obtain ⟨room, wanted⟩ := not_or.mp more
          have short : state.tmp.totalConsumed < cells.length := by
            rw [reached.empty, decide_eq_true_eq] at room
            exact Nat.lt_of_not_le room
          have asked := reached.prepare_ne_nil (Nat.pos_of_ne_zero wanted) short
          obtain ⟨answer, script, rfl, -⟩ := Stream.transferSome_of_ne_nil asked answered
          have member : answer ∈ state.stream.script := script ▸ List.mem_cons_self
          have fits := answer.size_transfer_le direction (state.asked completionCondition)
          have front := (reached.prepare_prefix (checkForCompletion completionCondition state.ec
            state.tmp.totalConsumed)).length_le
          rw [List.length_drop] at front
          change (state.asked completionCondition).length ≤ _ at front
          refine .again _ _ loop (completion_answered answered) ?_
          obtain ⟨ended, called⟩ | ⟨goes, called⟩ := TransferOp.call_zero
            (state.after direction (answer.transfer direction (state.asked completionCondition))
              after)
            (direction.inOp.perform (state.asked completionCondition)
              (answer.transfer direction (state.asked completionCondition)).payload
              ⟨state.tmp, state.world⟩)
            ((proceeds answer member).of_room asked) rfl rfl
          · exact called ▸ .finished ended
          · have moved := reached.consume (show state.tmp.totalConsumed + direction.size
              (answer.transfer direction (state.asked completionCondition)).payload ≤
                cells.length by omega)
            refine called ▸ @Corresponds.waiting _ _ direction completionCondition _ cells ?_
              (fun other left => proceeds other (script ▸ List.mem_cons_of_mem _ left)) goes
            exact moved.totalConsumed.symm ▸ moved
  | finished ended =>
      exact .leave _ _ (.leave (transferBufferSequence_of_finished ended)) (.leave rfl)
        ⟨_, rfl, rfl, rfl, rfl, rfl, rfl⟩
  | idle ended succeeded same =>
      refine .leave _ (.ok ⟨.success, (state.tmp.consume 0).totalConsumed,
          { state.stream with
            transfers := state.stream.transfers ++ [Transfer.idle direction.inOp] },
          ⟨state.tmp.consume 0, _⟩⟩)
        (.leave (transferBufferSequence_of_finished ended))
        (.again (completion_answered Stream.transferSome_nil) (.leave ?_))
        ⟨_, rfl, succeeded.symm, same, rfl, Stream.withRoom_idle, still state.world⟩
      have nothing : direction.inOp.size (Transfer.idle direction.inOp).payload = 0 :=
        direction.size_nothing
      rw [nothing]
      exact congrArg (fun call => transferOp direction completionCondition ⟨call, _⟩)
        (TransferOp.call_idle _)

section Operations

variable {stream : Stream Payload} {world : World}

/-- An operation on a buffer sequence starts in correspondence with the loop. -/
theorem BufferSequence.corresponds {buffers : BufferSequence} (real : buffers ≠ .nullBuffers)
    (proceeds : ∀ answer ∈ stream.script, answer.Proceeds direction) :
    Corresponds direction completionCondition (buffers.progress stream world)
      (buffers.startOp completionCondition stream world) := by
  have start := BufferSequence.at_consuming real
  by_cases ended : (buffers.progress stream world).Finished completionCondition
  · have nothing : (buffers.progress stream world).asked completionCondition = [] := by
      obtain full | content := ended
      · have front := start.prepare_prefix (checkForCompletion completionCondition .success
          buffers.consuming.totalConsumed)
        change buffers.consuming.empty = true at full
        rw [start.empty, decide_eq_true_eq, Nat.le_zero, List.length_eq_zero_iff] at full
        rw [full, List.drop_nil, List.prefix_nil] at front
        exact front
      · have short := start.length_prepare_le (checkForCompletion completionCondition .success
          buffers.consuming.totalConsumed)
        change checkForCompletion completionCondition .success
          buffers.consuming.totalConsumed = 0 at content
        exact List.length_eq_zero_iff.mp (Nat.le_zero.mp (content ▸ short))
    have none := start.consume (show 0 + 0 ≤ (flatten buffers.buffers).length from Nat.zero_le _)
    rw [Nat.add_zero] at none
    have idle := @Corresponds.idle _ _ direction completionCondition _ ended rfl
      (none.totalConsumed.trans start.totalConsumed.symm)
    rw [← nothing] at idle
    exact idle
  · exact .waiting (start.totalConsumed.symm ▸ start) proceeds ended

/-- **Simulation.** The operation completes as the call returns. -/
theorem transferOp_agrees {buffers : BufferSequence} (real : buffers ≠ .nullBuffers)
    (still : ∀ world, direction.perform [] direction.nothing world = world)
    (proceeds : ∀ answer ∈ stream.script, answer.Proceeds direction) :
    Agrees (transferBufferSequence direction completionCondition)
      (transferOp direction completionCondition) (buffers.progress stream world)
      (buffers.startOp completionCondition stream world)
      (Completes fun world op => op.world = world) :=
  .of_inStep (fun _ _ corresponds => corresponds.inStep still)
    (BufferSequence.corresponds real proceeds)

/-- On `null_buffers`, whatever the call returns the operation completes with. -/
theorem transferOp_nullBuffers
    (still : ∀ world, direction.perform [] direction.nothing world = world)
    {outcome : Outcome Payload World}
    (returns : Returns (transferBufferSequence direction completionCondition)
      (BufferSequence.nullBuffers.progress stream world) outcome) :
    ∃ result, Returns (transferOp direction completionCondition)
        (BufferSequence.nullBuffers.startOp completionCondition stream world) result ∧
      Completes (fun world (op : TransferOp World) => op.world = world) outcome result := by
  obtain ⟨content, rfl⟩ := nullBuffers_returns returns
  have ended : (BufferSequence.nullBuffers.progress stream world).Finished completionCondition :=
    .inr content
  exact (Agrees.of_inStep (fun _ _ corresponds => Corresponds.inStep corresponds still)
    (Corresponds.idle ended rfl rfl)).forth _ returns

end Operations

/-! ## Dynamic buffers -/

section Dynamic

open DynamicBuffer

variable {B : Type*} [DynamicBuffer B]

/-- The operation leaves a dynamic buffer with the contents and size the call
leaves it with. -/
def SameContents (b : B) (op : ReadDynbufOp B) : Prop :=
  data op.buffers = data b ∧ size op.buffers = size b

theorem SameContents.of_data {b : B} {op : ReadDynbufOp B} (same : data op.buffers = data b) :
    SameContents b op :=
  ⟨same, by rw [← length_data, same, length_data]⟩

/-- How a `read_dynbuf_op` in progress corresponds to the variables of the loop. -/
inductive DynamicCorresponds (completionCondition : CompletionCondition) (b : B)
    (stream : Stream (List Byte)) :
    DynamicRead B → Pending (List Byte) (ReadDynbufOp B) → Prop where
  | waiting {state : DynamicRead B} {done : List (Transfer (List Byte))} {prepared : B} :
      DynamicMade completionCondition b stream state done →
      0 < state.bytesAvailable →
      prepare state.b state.bytesAvailable = .ok prepared →
      DynamicCorresponds completionCondition b stream state
        ⟨.transferSome (outputCells state.b state.bytesAvailable)
          ⟨prepared, state.totalTransferred⟩, state.stream⟩
  | finished {state : DynamicRead B} :
      state.bytesAvailable = 0 →
      DynamicCorresponds completionCondition b stream state
        ⟨.handler state.ec state.totalTransferred ⟨state.b, state.totalTransferred⟩, state.stream⟩
  | idle {state : DynamicRead B} {prepared : B} :
      state.bytesAvailable = 0 → state.ec = .success → state.totalTransferred = 0 →
      data (commit (fill prepared []) 0) = data state.b →
      DynamicCorresponds completionCondition b stream state
        ⟨.transferSome [] ⟨prepared, 0⟩, state.stream⟩

variable {b : B} {stream : Stream (List Byte)}

theorem readDynamic_of_nothing {state : DynamicRead B} (nothing : state.bytesAvailable = 0) :
    readDynamic completionCondition state =
      .leave (.ok ⟨state.ec, state.totalTransferred, state.stream, state.b⟩) := by
  rw [readDynamic, nothing, if_neg (Nat.lt_irrefl 0)]

/-- A completed read that delivered something or failed leaves the operation as
the loop's variables are. -/
theorem ReadDynbufOp.call_zero (state : DynamicRead B) (op : ReadDynbufOp B)
    {bytesTransferred : Nat} (moved : state.ec.failed = true ∨ 0 < bytesTransferred)
    (buffers : state.b = commit op.buffers bytesTransferred)
    (total : state.totalTransferred = op.totalTransferred + bytesTransferred)
    (available : state.bytesAvailable = bytesAvailable state.b
      (checkForCompletion completionCondition state.ec state.totalTransferred)) :
    op.call completionCondition state.ec bytesTransferred 0 =
      if state.bytesAvailable = 0 then
        .handler state.ec state.totalTransferred ⟨state.b, state.totalTransferred⟩
      else
        startRead state.b state.bytesAvailable fun b => ⟨b, state.totalTransferred⟩ := by
  have proceeds : (!state.ec.failed && bytesTransferred == 0) = false := by
    obtain failed | positive := moved
    · simp only [failed, Bool.not_true, Bool.false_and]
    · simp only [Nat.ne_of_gt positive, beq_eq_false_iff_ne.mpr, ne_eq, not_false_eq_true,
        Bool.and_false]
  rw [ReadDynbufOp.call, if_neg Nat.zero_ne_one]
  simp only [← buffers, ← total, ← available, proceeds, Bool.false_or, beq_iff_eq]

/-- A read that starts with room in the buffer is prepared. -/
theorem startRead_of_prepare {Op : Type*} {prepared : B} {n : Nat} {op : B → Op}
    (ready : prepare b n = .ok prepared) :
    startRead b n op = .transferSome (outputCells b n) (op prepared) := by
  rw [startRead, ready]

/-- A completion with nothing delivered ends the operation. -/
theorem ReadDynbufOp.call_idle (op : ReadDynbufOp B) :
    op.call completionCondition .success 0 0 =
      .handler .success op.totalTransferred ⟨commit op.buffers 0, op.totalTransferred⟩ := by
  rw [ReadDynbufOp.call, if_neg Nat.zero_ne_one]
  exact if_pos rfl

/-- Before a pass the operation has nothing more to do, or waits for the read
the pass makes. -/
theorem DynamicMade.corresponds {state : DynamicRead B} {done : List (Transfer (List Byte))}
    (made : DynamicMade completionCondition b stream state done)
    (within : size b ≤ DynamicBuffer.maxSize b) :
    DynamicCorresponds completionCondition b stream state
      ⟨if state.bytesAvailable = 0 then
          .handler state.ec state.totalTransferred ⟨state.b, state.totalTransferred⟩
        else
          startRead state.b state.bytesAvailable fun b => ⟨b, state.totalTransferred⟩,
        state.stream⟩ := by
  obtain ⟨-, inside⟩ := bytesAvailable_le state.b
    (checkForCompletion completionCondition state.ec state.totalTransferred) (made.within within)
  rw [← made.available] at inside
  obtain ⟨prepared, ready, -⟩ := prepare_commit inside
  by_cases nothing : state.bytesAvailable = 0
  · rw [if_pos nothing]
    exact .finished nothing
  · rw [if_neg nothing, startRead_of_prepare ready]
    exact .waiting made (Nat.pos_of_ne_zero nothing) ready

/-- The operation and the loop pass in step. -/
theorem DynamicCorresponds.inStep {state : DynamicRead B}
    {pending : Pending (List Byte) (ReadDynbufOp B)}
    (corresponds : DynamicCorresponds completionCondition b stream state pending)
    (within : size b ≤ DynamicBuffer.maxSize b)
    (proceeds : ∀ answer ∈ stream.script, answer.Proceeds (receiving B)) :
    InStep (readDynamic completionCondition) (readDynbufOp completionCondition)
      (DynamicCorresponds completionCondition b stream)
      (fun result result' => ∃ outcome, result = .ok outcome ∧
        Completes SameContents outcome result')
      state pending := by
  cases corresponds with
  | @waiting done prepared made something ready =>
      cases answered : state.stream.transferSome (receiving B)
          (outputCells state.b state.bytesAvailable) with
      | none =>
          refine .blocked ?_ (completion_blocked answered)
          rw [readDynamic, if_pos something]
          simp only [ready, answered]
      | some result =>
          obtain ⟨transfer, after⟩ := result
          have loop := @readDynamic_again completionCondition B _ state prepared transfer after
            something ready answered
          obtain ⟨nothing, -⟩ | blocked | ⟨next, last, went, more⟩ := made.pass within proceeds
          · omega
          · rw [loop] at blocked
            cases blocked
          rw [loop] at went
          cases went
          have room : outputCells state.b state.bytesAvailable ≠ [] := by
            rw [← List.length_pos_iff, outputCells, List.length_range']
            exact something
          obtain ⟨answer, script, rfl, -⟩ := Stream.transferSome_of_ne_nil room answered
          have member : answer ∈ stream.script := by
            obtain ⟨answers, taken, -⟩ := made.answered
            rw [taken, script]
            exact List.mem_append_right _ List.mem_cons_self
          have called := ReadDynbufOp.call_zero _
            ⟨fill prepared (answer.transfer (receiving B)
              (outputCells state.b state.bytesAvailable)).payload, state.totalTransferred⟩
            ((proceeds answer member).of_room room) rfl rfl more.available
          refine .again _ _ loop (completion_answered answered) ?_
          exact called ▸ more.corresponds within
  | finished nothing =>
      exact .leave _ _ (.leave (readDynamic_of_nothing nothing)) (.leave rfl)
        ⟨_, rfl, _, rfl, rfl, rfl, rfl, rfl, .of_data rfl⟩
  | @idle prepared nothing succeeded total same =>
      refine .leave _ (.ok ⟨.success, 0,
          { state.stream with
            transfers := state.stream.transfers ++ [Transfer.idle (receiving B)] },
          ⟨commit (fill prepared []) 0, 0⟩⟩)
        (.leave (readDynamic_of_nothing nothing))
        (.again (completion_answered Stream.transferSome_nil) (.leave ?_))
        ⟨_, rfl, _, rfl, succeeded.symm, total.symm, rfl, Stream.withRoom_idle, .of_data same⟩
      exact congrArg (fun call => readDynbufOp completionCondition ⟨call, _⟩)
        (ReadDynbufOp.call_idle _)

/-- **Simulation.** A `read_dynbuf_op` completes as the read into the dynamic
buffer returns. -/
theorem readDynbufOp_agrees (within : size b ≤ DynamicBuffer.maxSize b)
    (proceeds : ∀ answer ∈ stream.script, answer.Proceeds (receiving B)) :
    Agrees (readDynamic completionCondition) (readDynbufOp completionCondition)
      (dynamicRead completionCondition b stream) (startReadDynbufOp completionCondition b stream)
      (fun result result' => ∃ outcome, result = .ok outcome ∧
        Completes SameContents outcome result') := by
  refine .of_inStep (fun _ _ corresponds => DynamicCorresponds.inStep corresponds within proceeds) ?_
  have made := DynamicMade.start completionCondition b stream
  have start : (startReadDynbufOp completionCondition b stream).call =
      startRead b (dynamicRead completionCondition b stream).bytesAvailable fun b => ⟨b, 0⟩ := rfl
  by_cases nothing : (dynamicRead completionCondition b stream).bytesAvailable = 0
  · obtain ⟨prepared, ready, committed⟩ := prepare_commit (show size b + 0 ≤ _ from within)
    rw [nothing, startRead_of_prepare ready] at start
    have idle : DynamicCorresponds completionCondition b stream
        (dynamicRead completionCondition b stream) ⟨.transferSome [] ⟨prepared, 0⟩, stream⟩ :=
      .idle nothing rfl rfl ((committed [] (Nat.le_refl 0)).1.trans (List.append_nil _))
    have whole : startReadDynbufOp completionCondition b stream =
        ⟨.transferSome [] ⟨prepared, 0⟩, stream⟩ := congrArg (Pending.mk · stream) start
    rw [whole]
    exact idle
  · have waits := made.corresponds within
    rw [if_neg nothing] at waits
    exact waits

/-- A write from a dynamic buffer completes as the call returns: with the same
error and count after the same transfers with room, the same bytes handed over
and the same bytes left. -/
def CompletesWrite (written : DynamicWritten B) (result : Except LengthError (DynamicWritten B)) :
    Prop :=
  ∃ handled, result = .ok handled ∧ handled.ec = written.ec ∧
    handled.bytesTransferred = written.bytesTransferred ∧
    handled.stream.script = written.stream.script ∧
    handled.stream.withRoom = written.stream.withRoom ∧
    handled.accepted = written.accepted ∧ handled.b = written.b

/-- A `write_dynbuf_op` completes as the write from the dynamic buffer returns. -/
theorem writeDynbufOp_agrees {stream : Stream Nat}
    (proceeds : ∀ answer ∈ stream.script, answer.Proceeds (writing (dataMemory b))) :
    Agrees (writeDynamic completionCondition b) (writeDynbufOp completionCondition b)
      ((dataBuffer b).progress stream [])
      ((dataBuffer b).startOp completionCondition stream [])
      CompletesWrite := by
  refine (transferOp_agrees (by rintro ⟨⟩) List.append_nil proceeds).map ?_
  rintro outcome _ ⟨handled, rfl, same⟩
  refine ⟨_, rfl, same.ec, same.total, same.script, same.withRoom, same.world, ?_⟩
  exact congrArg (consume b) same.total

/-- **Asynchronous reads and writes agree with the synchronous ones.** On a
stream that never reports success with nothing transferred into room, an
operation completes exactly when the call returns: its handler is called with
the same error and total after the same transfers with room, and the same bytes
are at the same places. On `null_buffers`, where a call may go on for ever, the
operation completes with whatever the call returns. -/
theorem async_agrees (buffers : BufferSequence) (completionCondition : CompletionCondition) (b : B) :
    (∀ stream memory, buffers ≠ .nullBuffers →
      (∀ answer ∈ stream.script, answer.Proceeds reading) →
      Agrees (readBufferSequence completionCondition) (readOp completionCondition)
        (buffers.progress stream memory) (buffers.startOp completionCondition stream memory)
        (Completes fun memory op => op.world = memory)) ∧
    (∀ stream memory, buffers ≠ .nullBuffers →
      (∀ answer ∈ stream.script, answer.Proceeds (writing memory)) →
      Agrees (writeBufferSequence memory completionCondition) (writeOp memory completionCondition)
        (buffers.progress stream []) (buffers.startOp completionCondition stream [])
        (Completes fun accepted op => op.world = accepted)) ∧
    (∀ stream memory outcome, Returns (readBufferSequence completionCondition)
        (BufferSequence.nullBuffers.progress stream memory) outcome →
      ∃ result, Returns (readOp completionCondition)
          (BufferSequence.nullBuffers.startOp completionCondition stream memory) result ∧
        Completes (fun memory (op : TransferOp (Nat → Byte)) => op.world = memory) outcome
          result) ∧
    (∀ stream memory outcome, Returns (writeBufferSequence memory completionCondition)
        (BufferSequence.nullBuffers.progress stream []) outcome →
      ∃ result, Returns (writeOp memory completionCondition)
          (BufferSequence.nullBuffers.startOp completionCondition stream []) result ∧
        Completes (fun accepted (op : TransferOp (List Byte)) => op.world = accepted) outcome
          result) ∧
    (∀ stream, size b ≤ DynamicBuffer.maxSize b →
      (∀ answer ∈ stream.script, answer.Proceeds (receiving B)) →
      Agrees (readDynamic completionCondition) (readDynbufOp completionCondition)
        (dynamicRead completionCondition b stream) (startReadDynbufOp completionCondition b stream)
        (fun result result' => ∃ outcome, result = .ok outcome ∧
          Completes SameContents outcome result')) ∧
    (∀ stream, (∀ answer ∈ stream.script, answer.Proceeds (writing (dataMemory b))) →
      Agrees (writeDynamic completionCondition b) (writeDynbufOp completionCondition b)
        ((dataBuffer b).progress stream [])
        ((dataBuffer b).startOp completionCondition stream [])
        CompletesWrite) := by
  refine ⟨?_, ?_, ?_, ?_, ?_, ?_⟩
  · exact fun stream memory real proceeds => transferOp_agrees real (fun _ => rfl) proceeds
  · exact fun stream memory real proceeds => transferOp_agrees real List.append_nil proceeds
  · exact fun stream memory outcome returns => transferOp_nullBuffers (fun _ => rfl) returns
  · exact fun stream memory outcome returns => transferOp_nullBuffers List.append_nil returns
  · exact fun stream within proceeds => readDynbufOp_agrees within proceeds
  · exact fun stream proceeds => writeDynbufOp_agrees proceeds

end Dynamic

/-- A read of four bytes in two pieces, a write of nothing, and a read into a
full string. -/
theorem async_agrees_fourBytes :
    (∃ result, Returns (readOp (transferExactly 4)) (scatteredBuffers.startOp (transferExactly 4)
        ⟨[⟨.success, [1]⟩, ⟨.success, [2, 3, 4, 5]⟩], []⟩ fun _ => 0) result ∧
      ∃ handled, result = .ok handled ∧ handled.total = 4) ∧
    (∃ outcome, Returns (writeBufferSequence UInt8.ofNat (transferExactly 0))
        (scatteredBuffers.progress ⟨[], []⟩ []) outcome ∧ outcome.total = 0) ∧
    (∃ result, Returns (readOp (transferExactly 0)) (BufferSequence.nullBuffers.startOp
        (transferExactly 0) ⟨[], []⟩ fun _ => 0) result ∧
      ∃ handled, result = .ok handled ∧ handled.ec = .success) ∧
    (∃ result, Returns (readDynbufOp (transferExactly 4))
        (startReadDynbufOp (transferExactly 4) oneByteString
          ⟨[⟨.success, [1]⟩, ⟨.success, [2, 3, 4, 5]⟩], []⟩) result ∧
      ∃ handled, result = .ok handled ∧
        DynamicBuffer.data handled.world.buffers = [9, 1, 2, 3]) ∧
    (∃ result, Returns (writeDynbufOp (transferExactly 4) oneByteString)
        ((dataBuffer oneByteString).startOp (transferExactly 4) ⟨[⟨.success, 1⟩], []⟩ []) result ∧
      ∃ handled, result = .ok handled ∧ handled.accepted = [9]) := by
  obtain ⟨read, returned, four⟩ : ∃ outcome, Returns (readBufferSequence (transferExactly 4))
      (scatteredBuffers.progress ⟨[⟨.success, [1]⟩, ⟨.success, [2, 3, 4, 5]⟩], []⟩ fun _ => 0)
      outcome ∧ decide (outcome.total = 4) = true :=
    @Returns.exists_of_evaluate _ _ _ 3 _ _ (by decide)
  obtain ⟨wrote, written, none⟩ : ∃ result, Returns (writeOp UInt8.ofNat (transferExactly 0))
      (scatteredBuffers.startOp (transferExactly 0) ⟨[], []⟩ []) result ∧
      (result.toOption.any fun handled => decide (handled.total = 0)) = true :=
    @Returns.exists_of_evaluate _ _ _ 2 _ _ (by decide)
  obtain ⟨null, idle, succeeded⟩ : ∃ outcome, Returns (readBufferSequence (transferExactly 0))
      (BufferSequence.nullBuffers.progress ⟨[], []⟩ fun _ => 0) outcome ∧
      decide (outcome.ec = .success) = true :=
    @Returns.exists_of_evaluate _ _ _ 1 _ _ (by decide)
  obtain ⟨result, received, held⟩ : ∃ result, Returns (readDynamic (transferExactly 4))
      (dynamicRead (transferExactly 4) oneByteString
        ⟨[⟨.success, [1]⟩, ⟨.success, [2, 3, 4, 5]⟩], []⟩) result ∧
      (result.toOption.any fun outcome =>
        decide (DynamicBuffer.data outcome.world = [9, 1, 2, 3])) = true :=
    @Returns.exists_of_evaluate _ _ _ 3 _ _ (by decide)
  obtain ⟨handed, gives, nine⟩ : ∃ result, Returns (writeDynamic (transferExactly 4) oneByteString)
      ((dataBuffer oneByteString).progress ⟨[⟨.success, 1⟩], []⟩ []) result ∧
      decide (result.accepted = [9]) = true :=
    @Returns.exists_of_evaluate _ _ _ 3 _ _ (by decide)
  obtain ⟨reads, -, -, -, receives, hands⟩ :=
    async_agrees scatteredBuffers (transferExactly 4) oneByteString
  obtain ⟨-, writes, nulls, -, -, -⟩ :=
    async_agrees scatteredBuffers (transferExactly 0) oneByteString
  refine ⟨?_, ?_, ?_, ?_, ?_⟩
  · obtain ⟨result, ends, handled, rfl, same⟩ :=
      (reads _ _ (by decide) (by decide)).forth read returned
    exact ⟨_, ends, handled, rfl, same.total.trans (of_decide_eq_true four)⟩
  · obtain ⟨outcome, ends, handled, rfl, same⟩ :=
      (writes _ _ (by decide) (by decide)).back wrote written
    exact ⟨outcome, ends, same.total.symm.trans (of_decide_eq_true none)⟩
  · obtain ⟨result, ends, handled, rfl, same⟩ := nulls _ _ null idle
    exact ⟨_, ends, handled, rfl, same.ec.trans (of_decide_eq_true succeeded)⟩
  · obtain ⟨result, ends, outcome, rfl, handled, rfl, same⟩ :=
      (receives _ (by decide) (by decide)).forth result received
    exact ⟨_, ends, handled, rfl, same.world.1.trans (of_decide_eq_true held)⟩
  · obtain ⟨result, ends, handled, rfl, same⟩ := (hands _ (by decide)).forth handed gives
    exact ⟨_, ends, handled, rfl, same.2.2.2.2.1.trans (of_decide_eq_true nine)⟩

end Asio.Transmit
