import Asio.Transmit.Async
import Asio.Transmit.ReadUntil

/-! # `async_read_until` agrees with `read_until`

The three operations make the searches of the three functions. An operation
that waits for a read stands where the function is about to make it, with the
place of the next search in `search_position_`; the result is kept there until
the handler is called, which the operation does without a further read except at
the start, where it makes one without room.
-/

namespace Asio.Transmit

open Loop DynamicBuffer

variable {B : Type*} [DynamicBuffer B] {search : Search}

/-- The operation leaves the contents and size the function leaves. -/
def SameHeld (b : B) (op : ReadUntilOp B) : Prop :=
  data op.buffers = data b ∧ size op.buffers = size b

theorem SameHeld.of_data {b : B} {op : ReadUntilOp B} (same : data op.buffers = data b) :
    SameHeld b op :=
  ⟨same, by rw [← length_data, same, length_data]⟩

/-- The operation calls the handler with what the function returns. -/
def CompletesUntil (result : Except LengthError (Outcome (List Byte) B))
    (handled : Except LengthError (Outcome (List Byte) (ReadUntilOp B))) : Prop :=
  ∃ outcome, result = .ok outcome ∧ Completes SameHeld outcome handled

/-- The variables at the head of the loop: the buffer is within its limit, and
the script never reports success with nothing read into room. -/
structure ReadUntil.Ready (state : ReadUntil B) : Prop where
  within : size state.b ≤ DynamicBuffer.maxSize state.b
  proceeds : ∀ answer ∈ state.stream.script, answer.Proceeds (receiving B)

/-- How an operation in progress corresponds to the variables of the loop. -/
inductive UntilCorresponds (search : Search) :
    ReadUntil B → Pending (List Byte) (ReadUntilOp B) → Prop where
  | waiting {state : ReadUntil B} {next : Nat} {prepared : B} :
      state.Ready →
      search (data state.b) state.searchPosition = .resume next →
      size state.b ≠ DynamicBuffer.maxSize state.b →
      prepare state.b (bytesToRead state.b) = .ok prepared →
      UntilCorresponds search state
        ⟨.transferSome (outputCells state.b (bytesToRead state.b)) ⟨prepared, .at_ next⟩,
          state.stream⟩
  | finished {state : ReadUntil B} {ec : ErrorCode} {total : Nat}
      {searchPosition : SearchPosition} :
      readUntil search state = .leave (.ok ⟨ec, total, state.stream, state.b⟩) →
      UntilCorresponds search state
        ⟨.handler ec total ⟨state.b, searchPosition⟩, state.stream⟩
  | idle {state : ReadUntil B} {ec : ErrorCode} {total : Nat} {prepared : B}
      {searchPosition : SearchPosition} :
      readUntil search state = .leave (.ok ⟨ec, total, state.stream, state.b⟩) →
      data (commit (fill prepared []) 0) = data state.b →
      ReadUntilOp.finish ⟨commit (fill prepared []) 0, searchPosition⟩ .success =
        .handler ec total ⟨commit (fill prepared []) 0, searchPosition⟩ →
      UntilCorresponds search state
        ⟨.transferSome [] ⟨prepared, searchPosition⟩, state.stream⟩

/-- What the head of the loop makes of a search. -/
inductive Examined (search : Search) (state : ReadUntil B) : SearchPosition → Nat → Prop where
  | ended {ec : ErrorCode} {total : Nat} {searchPosition : SearchPosition} :
      readUntil search state = .leave (.ok ⟨ec, total, state.stream, state.b⟩) →
      (∀ b : B, ReadUntilOp.finish ⟨b, searchPosition⟩ .success =
        .handler ec total ⟨b, searchPosition⟩) →
      Examined search state searchPosition 0
  | more {next : Nat} :
      search (data state.b) state.searchPosition = .resume next →
      size state.b ≠ DynamicBuffer.maxSize state.b →
      Examined search state (.at_ next) (bytesToRead state.b)

/-- The operation examines what the function examines. -/
theorem ReadUntil.examined (search : Search) (state : ReadUntil B) :
    Examined search state
      (ReadUntilOp.examine search ⟨state.b, .at_ state.searchPosition⟩).1
      (ReadUntilOp.examine search ⟨state.b, .at_ state.searchPosition⟩).2 := by
  unfold ReadUntilOp.examine ReadUntilOp.start
  cases searched : search (data state.b) state.searchPosition with
  | match_ position =>
      refine @Examined.ended _ _ _ _ .success position _ ?_ fun b => rfl
      simp only [readUntil, searched]
  | resume next =>
      by_cases full : size state.b = DynamicBuffer.maxSize state.b
      · simp only [full, ↓reduceIte]
        refine @Examined.ended _ _ _ _ .notFound 0 _ ?_ fun b => rfl
        simp only [readUntil, searched, full, ↓reduceIte]
      · simp only [full, ↓reduceIte]
        exact .more searched full

theorem ReadUntilOp.examineAndRead_eq (op : ReadUntilOp B) (ec : ErrorCode) (start : Nat) :
    op.examineAndRead search ec start =
      if start = 0 ∧ (op.examine search).2 = 0 then
        ReadUntilOp.finish ⟨op.buffers, (op.examine search).1⟩ ec
      else
        startRead op.buffers (op.examine search).2 fun b => ⟨b, (op.examine search).1⟩ := rfl

/-- What the function asks for is prepared. -/
theorem ReadUntil.Ready.prepared {state : ReadUntil B} (ready : state.Ready) :
    ∃ prepared, prepare state.b (bytesToRead state.b) = .ok prepared :=
  let ⟨_, inside⟩ := bytesAvailable_le state.b defaultMaxTransferSize ready.within
  let ⟨prepared, made, _⟩ := prepare_commit inside
  ⟨prepared, made⟩

/-- After a read without an error the operation stands where the function does. -/
theorem ReadUntil.Ready.resumed {state : ReadUntil B} (ready : state.Ready) :
    UntilCorresponds search state
      ⟨ReadUntilOp.examineAndRead search ⟨state.b, .at_ state.searchPosition⟩ .success 0,
        state.stream⟩ := by
  have examined := state.examined search
  rw [ReadUntilOp.examineAndRead_eq]
  generalize (ReadUntilOp.examine search ⟨state.b, .at_ state.searchPosition⟩).1 = searchPosition
    at examined ⊢
  generalize (ReadUntilOp.examine search ⟨state.b, .at_ state.searchPosition⟩).2 = count
    at examined ⊢
  cases examined with
  | ended left finished =>
      rw [if_pos ⟨rfl, rfl⟩, finished]
      exact .finished left
  | more searched room =>
      obtain ⟨prepared, made⟩ := ready.prepared
      rw [if_neg fun nothing => absurd nothing.2
        (Nat.ne_of_gt (bytesToRead_pos ready.within room)), startRead_of_prepare made]
      exact .waiting ready searched room made

/-- The operation starts in correspondence with the function. -/
theorem ReadUntil.Ready.started {b : B} {stream : Stream (List Byte)}
    (ready : ReadUntil.Ready ⟨b, 0, stream⟩) :
    UntilCorresponds search ⟨b, 0, stream⟩ (startReadUntilOp search b stream) := by
  have examined := ReadUntil.examined search ⟨b, 0, stream⟩
  rw [startReadUntilOp, ReadUntilOp.call, if_pos rfl, ReadUntilOp.examineAndRead_eq]
  generalize (ReadUntilOp.examine search ⟨b, .at_ 0⟩).1 = searchPosition at examined ⊢
  generalize (ReadUntilOp.examine search ⟨b, .at_ 0⟩).2 = count at examined ⊢
  cases examined with
  | ended left finished =>
      obtain ⟨prepared, made, committed⟩ := prepare_commit (show size b + 0 ≤ _ from ready.within)
      rw [if_neg fun first => absurd first.1 (by decide), startRead_of_prepare made]
      exact .idle left ((committed [] (Nat.le_refl 0)).1.trans (List.append_nil _)) (finished _)
  | more searched room =>
      obtain ⟨prepared, made⟩ := ready.prepared
      rw [if_neg fun first => absurd first.1 (by decide), startRead_of_prepare made]
      exact .waiting ready searched room made

/-- A completion that delivered something or failed: after an error the handler
is called, and otherwise the next search is made. -/
theorem ReadUntilOp.call_zero (op : ReadUntilOp B) {ec : ErrorCode} {bytesTransferred : Nat}
    (moved : ec.failed = true ∨ 0 < bytesTransferred) :
    op.call search ec bytesTransferred 0 =
      if ec.failed then
        ReadUntilOp.finish ⟨commit op.buffers bytesTransferred, op.searchPosition⟩ ec
      else
        ReadUntilOp.examineAndRead search
          ⟨commit op.buffers bytesTransferred, op.searchPosition⟩ ec 0 := by
  rw [ReadUntilOp.call, if_neg Nat.zero_ne_one]
  by_cases failed : ec.failed = true
  · simp only [failed, Bool.true_or, ↓reduceIte]
  · have positive := moved.resolve_left failed
    simp only [Bool.not_eq_true] at failed
    simp only [failed, Bool.false_or, beq_iff_eq, Nat.ne_of_gt positive, Bool.false_eq_true,
      ↓reduceIte]

omit [DynamicBuffer B] in
/-- With an error the handler is called with it and a count of zero. -/
theorem ReadUntilOp.finish_failed {b : B} {position : Nat} {ec : ErrorCode}
    (failed : ec.failed = true) :
    ReadUntilOp.finish ⟨b, .at_ position⟩ ec = .handler ec 0 ⟨b, .at_ position⟩ := by
  simp only [ReadUntilOp.finish, failed, reduceCtorEq, ↓reduceIte, true_or]

/-- The completion of a read of the operation. -/
theorem readUntilOp_answered {cells : List Nat} {op : ReadUntilOp B}
    {stream after : Stream (List Byte)} {transfer : Transfer (List Byte)}
    (answered : stream.transferSome (receiving B) cells = some (transfer, after)) :
    readUntilOp search ⟨.transferSome cells op, stream⟩ =
      .again ⟨ReadUntilOp.call search { op with buffers := fill op.buffers transfer.payload }
        transfer.ec transfer.payload.length 0, after⟩ :=
  completion_answered answered

/-- A read of the function. -/
theorem readUntil_answered {state : ReadUntil B} {next : Nat} {prepared : B}
    {transfer : Transfer (List Byte)} {after : Stream (List Byte)}
    (searched : search (data state.b) state.searchPosition = .resume next)
    (room : size state.b ≠ DynamicBuffer.maxSize state.b)
    (made : prepare state.b (bytesToRead state.b) = .ok prepared)
    (answered : state.stream.transferSome (receiving B)
      (outputCells state.b (bytesToRead state.b)) = some (transfer, after)) :
    readUntil search state =
      if transfer.ec.failed then
        .leave (.ok ⟨transfer.ec, 0, after,
          commit (fill prepared transfer.payload) transfer.payload.length⟩)
      else
        .again ⟨commit (fill prepared transfer.payload) transfer.payload.length, next, after⟩ := by
  simp only [readUntil, searched, room, ↓reduceIte, made, answered]

/-- The operation and the function pass in step. -/
theorem UntilCorresponds.inStep {state : ReadUntil B}
    {pending : Pending (List Byte) (ReadUntilOp B)}
    (corresponds : UntilCorresponds search state pending) :
    InStep (readUntil search) (readUntilOp search) (UntilCorresponds search) CompletesUntil state
      pending := by
  cases corresponds with
  | @waiting next prepared ready searched room made =>
      have inside : size state.b + bytesToRead state.b ≤ DynamicBuffer.maxSize state.b :=
        (bytesAvailable_le state.b defaultMaxTransferSize ready.within).2
      obtain ⟨same, prepares, committed⟩ := prepare_commit inside
      obtain rfl : same = prepared := Except.ok.inj (prepares.symm.trans made)
      cases answered : state.stream.transferSome (receiving B)
          (outputCells state.b (bytesToRead state.b)) with
      | none =>
          refine .blocked ?_ (completion_blocked answered)
          simp only [readUntil, searched, room, ↓reduceIte, made, answered]
      | some read =>
          obtain ⟨transfer, after⟩ := read
          have length : (outputCells state.b (bytesToRead state.b)).length =
              bytesToRead state.b := List.length_range'
          have asked : outputCells state.b (bytesToRead state.b) ≠ [] := by
            rw [← List.length_pos_iff, length]
            exact bytesToRead_pos ready.within room
          obtain ⟨answer, script, rfl, -⟩ := Stream.transferSome_of_ne_nil asked answered
          have member : answer ∈ state.stream.script := script ▸ List.mem_cons_self
          have fits := answer.size_transfer_le (receiving B)
            (outputCells state.b (bytesToRead state.b))
          change (answer.transfer (receiving B) _).payload.length ≤ _ at fits
          obtain ⟨appended, limit, larger⟩ := committed _ (length ▸ fits)
          have moved : (answer.transfer (receiving B)
              (outputCells state.b (bytesToRead state.b))).ec.failed = true ∨
              0 < (answer.transfer (receiving B)
                (outputCells state.b (bytesToRead state.b))).payload.length :=
            (ready.proceeds answer member).of_room asked
          generalize answer.transfer (receiving B)
            (outputCells state.b (bytesToRead state.b)) = transfer at *
          have loop := readUntil_answered searched room made answered
          have completes := @readUntilOp_answered B _ search _ ⟨same, .at_ next⟩ _ _ _ answered
          rw [ReadUntilOp.call_zero _ moved] at completes
          by_cases failed : transfer.ec.failed = true
          · rw [if_pos failed] at loop completes
            refine .leave _ (.ok ⟨transfer.ec, 0, after, ⟨_, .at_ next⟩⟩) (.leave loop)
              (.again completes (.leave ?_)) ⟨_, rfl, _, rfl, rfl, rfl, rfl, rfl, .of_data rfl⟩
            exact congrArg (fun call => readUntilOp search ⟨call, after⟩)
              (ReadUntilOp.finish_failed failed)
          · rw [if_neg failed] at loop completes
            refine .again _ _ loop completes ?_
            rw [ErrorCode.eq_success (Bool.eq_false_iff.mpr failed)]
            refine ReadUntil.Ready.resumed ⟨?_, fun other left => ready.proceeds other
              (script ▸ List.mem_cons_of_mem _ left)⟩
            rw [length] at fits
            change size (commit _ _) ≤ DynamicBuffer.maxSize (commit _ _)
            rw [limit, larger]
            omega
  | finished left =>
      exact .leave _ _ (.leave left) (.leave rfl)
        ⟨_, rfl, _, rfl, rfl, rfl, rfl, rfl, .of_data rfl⟩
  | @idle ec total prepared searchPosition left same finished =>
      refine .leave _ (.ok ⟨ec, total,
          { state.stream with
            transfers := state.stream.transfers ++ [Transfer.idle (receiving B)] },
          ⟨commit (fill prepared []) 0, searchPosition⟩⟩)
        (.leave left)
        (.again (completion_answered Stream.transferSome_nil) (.leave ?_))
        ⟨_, rfl, _, rfl, rfl, rfl, rfl, Stream.withRoom_idle, .of_data same⟩
      exact congrArg (fun call => readUntilOp search ⟨call, _⟩) finished

/-- **Simulation.** An operation that makes the searches of a function calls its
handler exactly when the function returns. -/
theorem readUntilOp_agrees (search : Search) {b : B} {stream : Stream (List Byte)}
    (within : size b ≤ DynamicBuffer.maxSize b)
    (proceeds : ∀ answer ∈ stream.script, answer.Proceeds (receiving B)) :
    Agrees (readUntil search) (readUntilOp search) ⟨b, 0, stream⟩ (startReadUntilOp search b stream)
      CompletesUntil :=
  .of_inStep (fun _ _ corresponds => UntilCorresponds.inStep corresponds)
    (ReadUntil.Ready.started ⟨within, proceeds⟩)

/-- **`async_read_until` agrees with `read_until`** for a character, a string
and a match condition: the same error and count, the same contents, and the same
reads into room. -/
theorem async_readUntil_agrees (b : B) (stream : Stream (List Byte))
    (within : size b ≤ DynamicBuffer.maxSize b)
    (proceeds : ∀ answer ∈ stream.script, answer.Proceeds (receiving B)) :
    (∀ delim, Agrees (readUntilDelim delim) (readUntilDelimOp delim) ⟨b, 0, stream⟩
      (startReadUntilOp (searchDelim delim) b stream) CompletesUntil) ∧
    (∀ delim, Agrees (readUntilString delim) (readUntilDelimStringOp delim) ⟨b, 0, stream⟩
      (startReadUntilOp (searchString delim) b stream) CompletesUntil) ∧
    (∀ matchCondition, Agrees (readUntilMatch matchCondition) (readUntilMatchOp matchCondition)
      ⟨b, 0, stream⟩ (startReadUntilOp (searchCondition matchCondition) b stream)
      CompletesUntil) :=
  ⟨fun _ => readUntilOp_agrees _ within proceeds, fun _ => readUntilOp_agrees _ within proceeds,
    fun _ => readUntilOp_agrees _ within proceeds⟩

/-- A string that is found after two reads. -/
theorem async_readUntil_agrees_string :
    ∃ result, Returns (readUntilDelimStringOp [1, 2]) (startReadUntilOp (searchString [1, 2])
        oneByteString ⟨[⟨.success, [1]⟩, ⟨.success, [2]⟩], []⟩) result ∧
      ∃ handled, result = .ok handled ∧ handled.total = 3 := by
  obtain ⟨result, returns, three⟩ : ∃ result, Returns (readUntilString [1, 2])
      ⟨oneByteString, 0, ⟨[⟨.success, [1]⟩, ⟨.success, [2]⟩], []⟩⟩ result ∧
      (result.toOption.any fun outcome => decide (outcome.total = 3)) = true :=
    @Returns.exists_of_evaluate _ _ _ 3 _ _ (by decide)
  obtain ⟨-, strings, -⟩ := async_readUntil_agrees oneByteString
    ⟨[⟨.success, [1]⟩, ⟨.success, [2]⟩], []⟩ (by decide) (by decide)
  obtain ⟨handled, ends, outcome, rfl, called, rfl, same⟩ := (strings [1, 2]).forth result returns
  exact ⟨_, ends, called, rfl, same.total.trans (of_decide_eq_true three)⟩

end Asio.Transmit
