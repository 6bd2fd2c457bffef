import Asio.Transmit.ReadUntilAsync

/-! # Reads into over-full dynamic buffers

The contents that a dynamic buffer adapts may be larger than its maximum size. The reads
compute `max_size() - size()` all the same, and test whether the buffer is full by an
equality. They never wrap and never throw exactly when the contents are within the limit,
or when `read_until` finds its match without reading.
-/

namespace Asio.Transmit

open Loop DynamicBuffer

variable {B : Type*} [DynamicBuffer B]

/-! ## The subtractions that size a request -/

/-- `max_size() - size()`. -/
def remainingSize (b : B) : Nat × Nat := (DynamicBuffer.maxSize b, size b)

/-- What `bytes_available` was computed with, at the head of the loop. -/
def DynamicRead.subtractions (state : DynamicRead B) : List (Nat × Nat) := [remainingSize state.b]

/-- The subtraction of a call of `read_dynbuf_op::operator()`. -/
def ReadDynbufOp.subtractions (op : ReadDynbufOp B) (bytesTransferred start : Nat) :
    List (Nat × Nat) :=
  if start = 1 then [remainingSize op.buffers]
  else [remainingSize (commit op.buffers bytesTransferred)]

/-- The subtractions of a search that may be followed by a read. -/
def searchSubtractions (search : Search) (b : B) (position : Nat) : List (Nat × Nat) :=
  match search (data b) position with
  | .match_ _ => []
  | .resume _ => if size b = DynamicBuffer.maxSize b then [] else [remainingSize b]

/-- The subtractions of a pass of `read_until`. -/
def ReadUntil.subtractions (search : Search) (state : ReadUntil B) : List (Nat × Nat) :=
  searchSubtractions search state.b state.searchPosition

/-- The subtractions of a call of `operator()`. -/
def ReadUntilOp.subtractions (search : Search) (op : ReadUntilOp B) (ec : ErrorCode)
    (bytesTransferred start : Nat) : List (Nat × Nat) :=
  if start = 1 then searchSubtractions search op.buffers op.start
  else if ec.failed || bytesTransferred == 0 then []
  else searchSubtractions search (commit op.buffers bytesTransferred) op.start

/-- The subtractions of the call that completes the transfer which was started. -/
def Pending.subtractions {Op : Type*} (direction : Direction (List Byte) Op)
    (called : Op → ErrorCode → Nat → List (Nat × Nat)) (state : Pending (List Byte) Op) :
    List (Nat × Nat) :=
  match state.call with
  | .transferSome cells op =>
      match state.stream.transferSome direction cells with
      | some (transfer, _) => called (direction.perform cells transfer.payload op) transfer.ec
          (direction.size transfer.payload)
      | none => []
  | _ => []

/-- No subtraction wraps. -/
def Unwrapped (subtractions : List (Nat × Nat)) : Prop := ∀ pair ∈ subtractions, pair.2 ≤ pair.1

theorem unwrapped_remainingSize {b : B} :
    Unwrapped [remainingSize b] ↔ size b ≤ DynamicBuffer.maxSize b := by
  constructor
  · exact fun unwrapped => unwrapped _ List.mem_cons_self
  · intro within pair member
    rw [List.mem_singleton] at member
    subst member
    exact within

theorem unwrapped_searchSubtractions {b : B} (within : size b ≤ DynamicBuffer.maxSize b)
    (search : Search) (position : Nat) : Unwrapped (searchSubtractions search b position) := by
  rw [searchSubtractions]
  split
  · exact fun _ member => absurd member List.not_mem_nil
  · split
    · exact fun _ member => absurd member List.not_mem_nil
    · exact unwrapped_remainingSize.mpr within

/-! ## What is claimed of a read -/

/-- A loop that never wraps a size and never throws. -/
structure Guarded {State Result : Type*} (body : State → Pass State (Except LengthError Result))
    (subtractions : State → List (Nat × Nat)) (state : State) : Prop where
  unwrapped : ∀ next, Reaches body state next → Unwrapped (subtractions next)
  caught : ∀ error, ¬ Returns body state (.error error)

/-- `read` reports an over-full buffer, as nothing transferred. -/
structure ReadReported (completionCondition : CompletionCondition) (b : B)
    (stream : Stream (List Byte)) : Prop extends
    Guarded (readDynamic completionCondition) DynamicRead.subtractions
      (dynamicRead completionCondition b stream) where
  overfull : DynamicBuffer.maxSize b < size b → ∃ outcome,
    Returns (readDynamic completionCondition) (dynamicRead completionCondition b stream)
      (.ok outcome) ∧ outcome.total = 0

/-- `async_read` does. -/
structure ReadOpReported (completionCondition : CompletionCondition) (b : B)
    (stream : Stream (List Byte)) : Prop extends
    Guarded (readDynbufOp completionCondition)
      (Pending.subtractions (receivingOp fun bytes (op : ReadDynbufOp B) =>
          { op with buffers := fill op.buffers bytes })
        fun op _ bytesTransferred => op.subtractions bytesTransferred 0)
      (startReadDynbufOp completionCondition b stream) where
  started : Unwrapped (ReadDynbufOp.subtractions ⟨b, 0⟩ 0 1)
  overfull : DynamicBuffer.maxSize b < size b → ∃ outcome,
    Returns (readDynbufOp completionCondition) (startReadDynbufOp completionCondition b stream)
      (.ok outcome) ∧ outcome.total = 0

/-- `read_until` reports an over-full buffer without a match as `not_found`. -/
structure UntilReported (search : Search) (b : B) (stream : Stream (List Byte)) : Prop extends
    Guarded (readUntil search) (ReadUntil.subtractions search) ⟨b, 0, stream⟩ where
  overfull : DynamicBuffer.maxSize b < size b →
    (∀ position, search (data b) 0 ≠ .match_ position) → ∃ outcome,
      Returns (readUntil search) ⟨b, 0, stream⟩ (.ok outcome) ∧ outcome.ec = .notFound ∧
        outcome.total = 0

/-- `async_read_until` does. -/
structure UntilOpReported (search : Search) (b : B) (stream : Stream (List Byte)) : Prop extends
    Guarded (readUntilOp search)
      (Pending.subtractions (receivingOp fun bytes (op : ReadUntilOp B) =>
          { op with buffers := fill op.buffers bytes })
        fun op ec bytesTransferred => op.subtractions search ec bytesTransferred 0)
      (startReadUntilOp search b stream) where
  started : Unwrapped (ReadUntilOp.subtractions search ⟨b, .at_ 0⟩ .success 0 1)
  overfull : DynamicBuffer.maxSize b < size b →
    (∀ position, search (data b) 0 ≠ .match_ position) → ∃ outcome,
      Returns (readUntilOp search) (startReadUntilOp search b stream) (.ok outcome) ∧
        outcome.ec = .notFound ∧ outcome.total = 0

/-! ## Within the limit -/

section Rules

variable {State Result : Type*} {body : State → Pass State (Except LengthError Result)}
  {subtractions : State → List (Nat × Nat)}

/-- A loop whose passes keep its sizes within the limit is guarded. -/
theorem Guarded.of_passes (keeps : State → Prop) {state : State} (initially : keeps state)
    (unwrapped : ∀ state, keeps state → Unwrapped (subtractions state))
    (passes : ∀ state, keeps state → (∃ result, body state = .leave (.ok result)) ∨
      body state = .blocked ∨ ∃ next, body state = .again next ∧ keeps next) :
    Guarded body subtractions state := by
  have again : ∀ state next, keeps state → body state = .again next → keeps next := by
    intro state next kept passed
    rcases passes state kept with ⟨_, left⟩ | blocked | ⟨other, went, holds⟩
    · rw [left] at passed
      cases passed
    · rw [blocked] at passed
      cases passed
    · rw [went] at passed
      cases passed
      exact holds
  refine ⟨fun next reaches => unwrapped next (reaches.invariant keeps initially again), ?_⟩
  intro error returns
  have caught : ∀ other, Except.error error ≠ (.error other : Except LengthError Result) := by
    apply returns.invariant keeps (fun result => ∀ other, result ≠ .error other) initially again
    intro state result kept left
    rcases passes state kept with ⟨_, leaves⟩ | blocked | ⟨_, went, _⟩
    · rw [leaves] at left
      cases left
      exact fun _ thrown => by cases thrown
    · rw [blocked] at left
      cases left
    · rw [went] at left
      cases left
  exact caught error rfl

/-- A loop that computes an exception is not guarded. -/
theorem Guarded.caught_evaluate {state : State} (guarded : Guarded body subtractions state)
    (passes : Nat) : (evaluate body passes state).any (fun result => !result.isOk) = false := by
  cases computed : evaluate body passes state with
  | none => rfl
  | some result =>
      cases result with
      | ok _ => rfl
      | error error => exact absurd (Returns.of_evaluate computed) (guarded.caught error)

end Rules

theorem size_transferSome_le {Payload World : Type*} {direction : Direction Payload World}
    {cells : List Nat} {stream next : Stream Payload} {transfer : Transfer Payload}
    (answered : stream.transferSome direction cells = some (transfer, next)) :
    direction.size transfer.payload ≤ cells.length := by
  by_cases room : cells = []
  · subst room
    rw [Stream.transferSome_nil, Option.some.injEq, Prod.mk.injEq] at answered
    rw [← answered.1]
    exact Nat.le_of_eq direction.size_nothing
  · obtain ⟨answer, -, rfl, -⟩ := Stream.transferSome_of_ne_nil room answered
    exact answer.size_transfer_le direction cells

/-- What a read stores stays within the limit. -/
theorem committed_within {b prepared : B} {n : Nat} {bytes : List Byte}
    (room : size b + n ≤ DynamicBuffer.maxSize b) (made : prepare b n = .ok prepared)
    (fits : bytes.length ≤ n) :
    size (commit (fill prepared bytes) bytes.length) ≤
      DynamicBuffer.maxSize (commit (fill prepared bytes) bytes.length) := by
  obtain ⟨same, prepares, committed⟩ := prepare_commit room
  obtain rfl : same = prepared := Except.ok.inj (prepares.symm.trans made)
  obtain ⟨-, limit, larger⟩ := committed bytes fits
  rw [limit, larger]
  omega

theorem length_outputCells (b : B) (n : Nat) : (outputCells b n).length = n := List.length_range'

/-- There is room for what the loop is about to ask for. -/
def DynamicRead.Within (state : DynamicRead B) : Prop :=
  size state.b + state.bytesAvailable ≤ DynamicBuffer.maxSize state.b

theorem DynamicRead.Within.pass {completionCondition : CompletionCondition}
    {state : DynamicRead B} (within : state.Within) :
    (∃ result, readDynamic completionCondition state = .leave (.ok result)) ∨
      readDynamic completionCondition state = .blocked ∨
      ∃ next, readDynamic completionCondition state = .again next ∧ next.Within := by
  by_cases something : 0 < state.bytesAvailable
  · obtain ⟨prepared, made, -⟩ := prepare_commit within
    cases answered : state.stream.transferSome (receiving B)
        (outputCells state.b state.bytesAvailable) with
    | none =>
        right; left
        rw [readDynamic, if_pos something]
        simp only [made, answered]
    | some read =>
        obtain ⟨transfer, after⟩ := read
        have fits := size_transferSome_le answered
        rw [length_outputCells] at fits
        exact .inr (.inr ⟨_, readDynamic_again something made answered,
          (bytesAvailable_le _ _ (committed_within within made fits)).2⟩)
  · rw [readDynamic, if_neg something]
    exact .inl ⟨_, rfl⟩

theorem readReported_of_within (completionCondition : CompletionCondition) {b : B}
    (stream : Stream (List Byte)) (within : size b ≤ DynamicBuffer.maxSize b) :
    ReadReported completionCondition b stream where
  toGuarded := .of_passes DynamicRead.Within (bytesAvailable_le b _ within).2
    (fun _ kept => unwrapped_remainingSize.mpr (Nat.le_of_add_right_le kept))
    fun _ kept => kept.pass
  overfull beyond := absurd within (Nat.not_le_of_lt beyond)

theorem untilReported_of_within (search : Search) {b : B} (stream : Stream (List Byte))
    (within : size b ≤ DynamicBuffer.maxSize b) : UntilReported search b stream where
  toGuarded := by
    apply Guarded.of_passes (fun state => size state.b ≤ DynamicBuffer.maxSize state.b) within
    · exact fun state kept => unwrapped_searchSubtractions kept search _
    intro state kept
    cases searched : search (data state.b) state.searchPosition with
    | match_ position =>
        left
        simp only [readUntil, searched]
        exact ⟨_, rfl⟩
    | resume next =>
        by_cases full : size state.b = DynamicBuffer.maxSize state.b
        · left
          simp only [readUntil, searched, full, ↓reduceIte]
          exact ⟨_, rfl⟩
        · have room := (bytesAvailable_le state.b defaultMaxTransferSize kept).2
          obtain ⟨prepared, made, -⟩ := prepare_commit room
          cases answered : state.stream.transferSome (receiving B)
              (outputCells state.b (bytesToRead state.b)) with
          | none =>
              right; left
              simp only [readUntil, searched, full, ↓reduceIte]
              simp only [bytesToRead] at answered ⊢
              simp only [made, answered]
          | some read =>
              obtain ⟨transfer, after⟩ := read
              rw [readUntil_answered searched full made answered]
              have fits := size_transferSome_le answered
              rw [length_outputCells] at fits
              split
              · exact .inl ⟨_, rfl⟩
              · exact .inr (.inr ⟨_, rfl, committed_within room made fits⟩)
  overfull beyond := absurd within (Nat.not_le_of_lt beyond)

/-! ### Operations -/

section Operations

variable {Op : Type*} {buffers : Op → B}

/-- A transfer that was started has room. -/
inductive CallWithin (buffers : Op → B) : Call Op → Prop where
  | transferSome {b : B} {n : Nat} {op : Op} : size b + n ≤ DynamicBuffer.maxSize b →
      prepare b n = .ok (buffers op) → CallWithin buffers (.transferSome (outputCells b n) op)
  | handler {ec : ErrorCode} {bytesTransferred : Nat} {op : Op} :
      CallWithin buffers (.handler ec bytesTransferred op)

theorem startRead_within {b : B} {n : Nat} {op : B → Op}
    (room : size b + n ≤ DynamicBuffer.maxSize b)
    (kept : ∀ prepared, buffers (op prepared) = prepared) :
    CallWithin buffers (startRead b n op) := by
  obtain ⟨prepared, made, -⟩ := prepare_commit room
  rw [startRead_of_prepare made]
  apply CallWithin.transferSome room
  rw [made, kept]

/-- What an operation was started with has room, and so has what it starts. -/
theorem Guarded.of_completion {store : List Byte → Op → Op}
    {resume : Op → ErrorCode → Nat → Call Op} {called : Op → ErrorCode → Nat → List (Nat × Nat)}
    (stores : ∀ bytes op, buffers (store bytes op) = fill (buffers op) bytes)
    (resumes : ∀ op ec n,
      size (commit (buffers op) n) ≤ DynamicBuffer.maxSize (commit (buffers op) n) →
      CallWithin buffers (resume op ec n) ∧ Unwrapped (called op ec n))
    {state : Pending (List Byte) Op} (started : CallWithin buffers state.call) :
    Guarded (completion (receivingOp store) resume)
      (Pending.subtractions (receivingOp store) called) state := by
  have resumed : ∀ {cells : List Nat} {op : Op} {stream after : Stream (List Byte)}
      {transfer : Transfer (List Byte)}, CallWithin buffers (.transferSome cells op) →
      stream.transferSome (receivingOp store) cells = some (transfer, after) →
      size (commit (buffers (store transfer.payload op)) transfer.payload.length) ≤
        DynamicBuffer.maxSize (commit (buffers (store transfer.payload op))
          transfer.payload.length) := by
    intro cells op stream after transfer within answered
    cases within with
    | transferSome room made =>
        have fits := size_transferSome_le answered
        rw [length_outputCells] at fits
        rw [stores]
        exact committed_within room made fits
  refine .of_passes (fun state => CallWithin buffers state.call) started ?_ ?_
  · rintro ⟨call, stream⟩ within
    cases call with
    | transferSome cells op =>
        simp only [Pending.subtractions]
        split
        · next transfer _ answered => exact (resumes _ _ _ (resumed within answered)).2
        · exact fun _ member => absurd member List.not_mem_nil
    | handler _ _ _ => exact fun _ member => absurd member List.not_mem_nil
    | throws _ => cases within
  · rintro ⟨call, stream⟩ within
    cases call with
    | transferSome cells op =>
        cases answered : stream.transferSome (receivingOp store) cells with
        | none => exact .inr (.inl (completion_blocked answered))
        | some read =>
            obtain ⟨transfer, after⟩ := read
            exact .inr (.inr ⟨_, completion_answered answered,
              (resumes _ _ _ (resumed within answered)).1⟩)
    | handler _ _ _ => exact .inl ⟨_, rfl⟩
    | throws _ => cases within

end Operations

theorem ReadDynbufOp.call_within (completionCondition : CompletionCondition)
    (op : ReadDynbufOp B) (ec : ErrorCode) (bytesTransferred : Nat)
    (within : size (commit op.buffers bytesTransferred) ≤
      DynamicBuffer.maxSize (commit op.buffers bytesTransferred)) :
    CallWithin ReadDynbufOp.buffers (op.call completionCondition ec bytesTransferred 0) ∧
      Unwrapped (op.subtractions bytesTransferred 0) := by
  constructor
  · rw [call, if_neg Nat.zero_ne_one]
    dsimp only
    split
    · exact .handler
    · exact startRead_within (bytesAvailable_le _ _ within).2 fun _ => rfl
  · rw [subtractions, if_neg Nat.zero_ne_one]
    exact unwrapped_remainingSize.mpr within

theorem readOpReported_of_within (completionCondition : CompletionCondition) {b : B}
    (stream : Stream (List Byte)) (within : size b ≤ DynamicBuffer.maxSize b) :
    ReadOpReported completionCondition b stream where
  toGuarded := by
    apply Guarded.of_completion (fun _ _ => rfl)
      fun op ec bytesTransferred => op.call_within completionCondition ec bytesTransferred
    rw [startReadDynbufOp, ReadDynbufOp.call, if_pos rfl]
    exact startRead_within (bytesAvailable_le _ _ within).2 fun _ => rfl
  started := unwrapped_remainingSize.mpr within
  overfull beyond := absurd within (Nat.not_le_of_lt beyond)

/-- What a search asks for has room. -/
theorem ReadUntilOp.examineAndRead_within (search : Search) (op : ReadUntilOp B) (ec : ErrorCode)
    (start : Nat) (within : size op.buffers ≤ DynamicBuffer.maxSize op.buffers) :
    CallWithin ReadUntilOp.buffers (op.examineAndRead search ec start) := by
  have asked : size op.buffers + (op.examine search).2 ≤ DynamicBuffer.maxSize op.buffers := by
    rw [examine]
    split
    · exact within
    · split
      · exact within
      · exact (bytesAvailable_le _ _ within).2
  rw [examineAndRead_eq]
  split
  · exact .handler
  · exact startRead_within asked fun _ => rfl

theorem ReadUntilOp.call_within (search : Search) (op : ReadUntilOp B) (ec : ErrorCode)
    (bytesTransferred : Nat) (within : size (commit op.buffers bytesTransferred) ≤
      DynamicBuffer.maxSize (commit op.buffers bytesTransferred)) :
    CallWithin ReadUntilOp.buffers (op.call search ec bytesTransferred 0) ∧
      Unwrapped (op.subtractions search ec bytesTransferred 0) := by
  constructor
  · rw [call, if_neg Nat.zero_ne_one]
    dsimp only
    split
    · exact .handler
    · exact examineAndRead_within search _ ec 0 within
  · rw [subtractions, if_neg Nat.zero_ne_one]
    split
    · exact fun _ member => absurd member List.not_mem_nil
    · exact unwrapped_searchSubtractions within search _

theorem untilOpReported_of_within (search : Search) {b : B} (stream : Stream (List Byte))
    (within : size b ≤ DynamicBuffer.maxSize b) : UntilOpReported search b stream where
  toGuarded := by
    apply Guarded.of_completion (fun _ _ => rfl)
      fun op ec bytesTransferred => op.call_within search ec bytesTransferred
    rw [startReadUntilOp, ReadUntilOp.call, if_pos rfl]
    exact ReadUntilOp.examineAndRead_within search _ .success 1 within
  started := unwrapped_searchSubtractions within search 0
  overfull beyond := absurd within (Nat.not_le_of_lt beyond)

/-! ## Over the limit -/

/-- `read_until` returns a match that is there without a read. -/
theorem untilReported_of_match {search : Search} {b : B} (stream : Stream (List Byte))
    {position : Nat} (found : search (data b) 0 = .match_ position) :
    UntilReported search b stream := by
  have left : readUntil search ⟨b, 0, stream⟩ = .leave (.ok ⟨.success, position, stream, b⟩) := by
    simp only [readUntil, found]
  refine ⟨⟨fun next reaches => ?_, fun error returns => ?_⟩, fun _ absent => ?_⟩
  · rw [reaches.of_leave left, ReadUntil.subtractions, searchSubtractions, found]
    exact fun _ member => absurd member List.not_mem_nil
  · cases returns.of_leave left
  · exact absurd found (absent position)

/-- A search without a match that is not exactly full computes the size of a request. -/
theorem le_of_unwrapped {search : Search} {b : B}
    (absent : ∀ position, search (data b) 0 ≠ .match_ position)
    (unwrapped : Unwrapped (searchSubtractions search b 0)) :
    size b ≤ DynamicBuffer.maxSize b := by
  rw [searchSubtractions] at unwrapped
  split at unwrapped
  · next found => exact absurd found (absent _)
  · split at unwrapped
    · next full => exact Nat.le_of_eq full
    · exact unwrapped_remainingSize.mp unwrapped

theorem ContainerBuffer.prepare_overfull {container : Container} {growth : Growth}
    {b : ContainerBuffer container growth} (beyond : b.maxSize < b.size) (n : Nat) :
    b.prepare n = .error ⟨container.tooLong⟩ := if_pos (.inl beyond)

variable {container : Container} {growth : Growth}

/-- An operation prepares its first read also when it has found its match. -/
theorem untilOpReported_le {search : Search} {b : ContainerBuffer container growth}
    {stream : Stream (List Byte)} (reported : UntilOpReported search b stream) :
    b.size ≤ b.maxSize := by
  by_contra beyond
  have thrown : startReadUntilOp search b stream = ⟨.throws ⟨container.tooLong⟩, stream⟩ := by
    have prepared : prepare b (ReadUntilOp.examine search ⟨b, .at_ 0⟩).2 =
        .error ⟨container.tooLong⟩ := b.prepare_overfull (Nat.lt_of_not_le beyond) _
    rw [startReadUntilOp, ReadUntilOp.call, if_pos rfl, ReadUntilOp.examineAndRead_eq,
      if_neg fun first => absurd first.1 Nat.one_ne_zero, startRead]
    simp only [prepared]
  apply reported.caught ⟨container.tooLong⟩
  rw [thrown]
  exact .leave rfl

/-- **Over-full dynamic buffers.** A read neither wraps a size nor throws, and reports what
it should, exactly when the contents are within the limit; a `read_until` also when its
match is there from the start. -/
theorem overfull_reported_iff (b : ContainerBuffer container growth)
    (stream : Stream (List Byte)) :
    (∀ completionCondition, ReadReported completionCondition b stream ↔ b.size ≤ b.maxSize) ∧
    (∀ completionCondition, ReadOpReported completionCondition b stream ↔ b.size ≤ b.maxSize) ∧
    (∀ search, UntilReported search b stream ↔
      b.size ≤ b.maxSize ∨ ∃ position, search b.data 0 = .match_ position) ∧
    (∀ search, UntilOpReported search b stream ↔ b.size ≤ b.maxSize) := by
  refine ⟨fun completionCondition => ⟨?_, ?_⟩, fun completionCondition => ⟨?_, ?_⟩,
    fun search => ⟨?_, ?_⟩, fun search => ⟨?_, ?_⟩⟩
  · exact fun reported => unwrapped_remainingSize.mp (reported.unwrapped _ .start)
  · exact fun within => readReported_of_within completionCondition stream within
  · exact fun reported => unwrapped_remainingSize.mp reported.started
  · exact fun within => readOpReported_of_within completionCondition stream within
  · intro reported
    by_cases found : ∃ position, search b.data 0 = .match_ position
    · exact .inr found
    · left
      exact le_of_unwrapped (fun position same => found ⟨position, same⟩)
        (reported.unwrapped _ .start)
  · rintro (within | ⟨position, found⟩)
    · exact untilReported_of_within search stream within
    · exact untilReported_of_match stream found
  · exact untilOpReported_le
  · exact fun within => untilOpReported_of_within search stream within

/-- Three bytes in a string of at most two, and a character that is not among them: all
four reads throw. -/
theorem not_overfull_reported :
    let b : ContainerBuffer .string .exact := .adapt [1, 2, 3] 2
    ¬ ReadReported transferAll b ⟨[], []⟩ ∧ ¬ ReadOpReported transferAll b ⟨[], []⟩ ∧
      ¬ UntilReported (searchDelim 9) b ⟨[], []⟩ ∧
      ¬ UntilOpReported (searchDelim 9) b ⟨[], []⟩ := by
  refine ⟨fun reported => ?_, fun reported => ?_, fun reported => ?_, fun reported => ?_⟩
  · exact absurd (reported.caught_evaluate 1) (by decide)
  · exact absurd (reported.caught_evaluate 1) (by decide)
  · exact absurd (reported.caught_evaluate 1) (by decide)
  · exact absurd (reported.caught_evaluate 1) (by decide)

end Asio.Transmit
