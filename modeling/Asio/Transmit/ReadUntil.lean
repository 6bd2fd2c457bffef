import Asio.Lib.Occurrence
import Asio.Transmit.Transfer

/-! # `read_until`

The three forms of `read_until` read into a dynamic buffer until a search of its
contents finds a match. A search that finds none says where the next one has to
begin, so that the bytes before are not looked at again. The asynchronous
operations make the same searches; `search_position_` holds the position where
the next one begins, the result of the last one, or the mark that the buffer is
full.
-/

namespace Asio.Transmit

open Loop DynamicBuffer

/-! ## Searches -/

/-- What a search of the contents from a position ends in: a match that ends at
a position, or the position where the next search begins. -/
inductive SearchResult where
  | match_ (position : Nat)
  | resume (position : Nat)
  deriving DecidableEq, Repr

/-- A search of the contents of a buffer from a position. -/
abbrev Search := List Byte → Nat → SearchResult

/-- The search for a character, by `std::find`. -/
def searchDelim (delim : Byte) : Search := fun contents position =>
  let iter := position + (contents.drop position).findIdx (· == delim)
  if iter ≠ contents.length then .match_ (iter + 1) else .resume contents.length

/-- How the inner loop of `partial_search` ends. -/
inductive Comparison where
  | full
  | partly
  | differs
  deriving DecidableEq, Repr

/-- The inner loop of `partial_search`: `started` says that `test_iter2` has
left `first2`. -/
def compareFrom (started : Bool) : List Byte → List Byte → Comparison
  | _, [] => .full
  | [], _ :: _ => if started then .partly else .differs
  | test1 :: rest1, test2 :: rest2 =>
      if test1 ≠ test2 then .differs else compareFrom true rest1 rest2

/-- `partial_search`: the position in the first sequence, and whether the match
there is a full one. -/
def partialSearch : List Byte → List Byte → Nat × Bool
  | [], _ => (0, false)
  | iter1 :: rest1, second =>
      match compareFrom false (iter1 :: rest1) second with
      | .full => (0, true)
      | .partly => (0, false)
      | .differs =>
          let (position, found) := partialSearch rest1 second
          (position + 1, found)

/-- The search for a string. -/
def searchString (delim : List Byte) : Search := fun contents position =>
  let (first, second) := partialSearch (contents.drop position) delim
  if position + first ≠ contents.length then
    if second then .match_ (position + first + delim.length) else .resume (position + first)
  else
    .resume contents.length

/-- A match condition that depends on the range to be searched only: a position
in the range, and whether there is a match that ends there. -/
abbrev MatchCondition := List Byte → Nat × Bool

/-- The search by a match condition. -/
def searchCondition (matchCondition : MatchCondition) : Search := fun contents position =>
  let (first, second) := matchCondition (contents.drop position)
  if second then .match_ (position + first)
  else if position + first ≠ contents.length then .resume (position + first)
  else .resume contents.length

/-! ## The synchronous functions -/

variable {B : Type*} [DynamicBuffer B]

/-- The variables of `read_until`. -/
structure ReadUntil (B : Type*) where
  b : B
  searchPosition : Nat
  stream : Stream (List Byte)

/-- `bytes_to_read`. -/
def bytesToRead (b : B) : Nat := bytesAvailable b defaultMaxTransferSize

/-- The loop of `read_until`. -/
def readUntil (search : Search) (state : ReadUntil B) :
    Pass (ReadUntil B) (Except LengthError (Outcome (List Byte) B)) :=
  match search (data state.b) state.searchPosition with
  | .match_ position => .leave (.ok ⟨.success, position, state.stream, state.b⟩)
  | .resume searchPosition =>
      if size state.b = DynamicBuffer.maxSize state.b then
        .leave (.ok ⟨.notFound, 0, state.stream, state.b⟩)
      else
        match prepare state.b (bytesToRead state.b) with
        | .error error => .leave (.error error)
        | .ok prepared =>
            match state.stream.transferSome (receiving B)
                (outputCells state.b (bytesToRead state.b)) with
            | none => .blocked
            | some (transfer, stream) =>
                let b := commit (fill prepared transfer.payload) transfer.payload.length
                if transfer.ec.failed then
                  .leave (.ok ⟨transfer.ec, 0, stream, b⟩)
                else
                  .again ⟨b, searchPosition, stream⟩

/-- `read_until` for a character. -/
def readUntilDelim (delim : Byte) (state : ReadUntil B) := readUntil (searchDelim delim) state

/-- `read_until` for a string. -/
def readUntilString (delim : List Byte) (state : ReadUntil B) :=
  readUntil (searchString delim) state

/-- `read_until` for a match condition. -/
def readUntilMatch (matchCondition : MatchCondition) (state : ReadUntil B) :=
  readUntil (searchCondition matchCondition) state

/-! ## The asynchronous operations -/

/-- `search_position_`: a position, or `not_found`, the greatest value of type
`std::size_t`, which is no position in a buffer. -/
inductive SearchPosition where
  | at_ (position : Nat)
  | notFound
  deriving DecidableEq, Repr

/-- `read_until_delim_op`, `read_until_delim_string_op` and `read_until_match_op`. -/
structure ReadUntilOp (B : Type*) where
  buffers : B
  searchPosition : SearchPosition

namespace ReadUntilOp

/-- Where the next search begins. -/
def start (op : ReadUntilOp B) : Nat :=
  match op.searchPosition with
  | .at_ position => position
  | .notFound => 2 ^ 64 - 1

/-- The search at the head of the loop: the new `search_position_` and
`bytes_to_read`. -/
def examine (search : Search) (op : ReadUntilOp B) : SearchPosition × Nat :=
  match search (data op.buffers) op.start with
  | .match_ position => (.at_ position, 0)
  | .resume position =>
      if size op.buffers = DynamicBuffer.maxSize op.buffers then (.notFound, 0)
      else (.at_ position, bytesToRead op.buffers)

/-- What follows the loop. -/
def finish (op : ReadUntilOp B) (ec : ErrorCode) : Call (ReadUntilOp B) :=
  let resultEc := if op.searchPosition = .notFound then .notFound else ec
  let resultN := if ec.failed ∨ op.searchPosition = .notFound then 0 else op.start
  .handler resultEc resultN op

/-- The head of the loop, up to the read that is started. -/
def examineAndRead (search : Search) (op : ReadUntilOp B) (ec : ErrorCode) (start : Nat) :
    Call (ReadUntilOp B) :=
  let (searchPosition, bytesToRead) := op.examine search
  let op := { op with searchPosition := searchPosition }
  if start = 0 ∧ bytesToRead = 0 then
    op.finish ec
  else
    startRead op.buffers bytesToRead fun b => { op with buffers := b }

/-- `operator()`. -/
def call (search : Search) (op : ReadUntilOp B) (ec : ErrorCode) (bytesTransferred : Nat)
    (start : Nat) : Call (ReadUntilOp B) :=
  if start = 1 then
    op.examineAndRead search ec start
  else
    let op := { op with buffers := commit op.buffers bytesTransferred }
    if ec.failed || bytesTransferred == 0 then
      op.finish ec
    else
      op.examineAndRead search ec start

end ReadUntilOp

/-- The completions of an operation that searches. -/
def readUntilOp (search : Search) :=
  completion (receivingOp fun bytes (op : ReadUntilOp B) =>
      { op with buffers := fill op.buffers bytes })
    fun op ec bytesTransferred => op.call search ec bytesTransferred 0

/-- `async_read_until`. -/
def startReadUntilOp (search : Search) (b : B) (stream : Stream (List Byte)) :
    Pending (List Byte) (ReadUntilOp B) :=
  ⟨ReadUntilOp.call search ⟨b, .at_ 0⟩ .success 0 1, stream⟩

/-- The completions of a `read_until_delim_op`. -/
def readUntilDelimOp (delim : Byte) (state : Pending (List Byte) (ReadUntilOp B)) :=
  readUntilOp (searchDelim delim) state

/-- The completions of a `read_until_delim_string_op`. -/
def readUntilDelimStringOp (delim : List Byte) (state : Pending (List Byte) (ReadUntilOp B)) :=
  readUntilOp (searchString delim) state

/-- The completions of a `read_until_match_op`. -/
def readUntilMatchOp (matchCondition : MatchCondition)
    (state : Pending (List Byte) (ReadUntilOp B)) :=
  readUntilOp (searchCondition matchCondition) state

/-! ## What the searches find -/

section Searches

open Occurrence

/-- A search finds the first occurrence of a pattern, when no occurrence starts
before the position it begins at; it stops where none can start before. -/
def Search.Finds (search : Search) (pattern : List Byte) : Prop :=
  ∀ contents position, position ≤ contents.length → RuledOut pattern contents position →
    match search contents position with
    | .match_ final => FirstEnd pattern contents final
    | .resume next => next ≤ contents.length ∧ RuledOut pattern contents next ∧
        ¬ Occurs pattern contents

/-- **The search for a character** finds its first occurrence. -/
theorem searchDelim_finds (delim : Byte) : (searchDelim delim).Finds [delim] := by
  intro contents position inside ruledOut
  have bound : (contents.drop position).findIdx (· == delim) ≤ contents.length - position := by
    rw [← List.length_drop]
    exact List.findIdx_le_length
  -- no character before the one found is the delimiter
  have skipped : RuledOut [delim] contents
      (position + (contents.drop position).findIdx (· == delim)) := by
    intro earlier before more occurs
    obtain earlier' | later := Nat.lt_or_ge earlier position
    · exact ruledOut earlier earlier' more occurs
    · have within : earlier - position < (contents.drop position).findIdx (· == delim) := by omega
      have differs := List.not_of_lt_findIdx within
      rw [List.getElem_drop] at differs
      have index : earlier < contents.length := by omega
      have place : position + (earlier - position) = earlier := by omega
      simp only [place] at differs
      rw [At, List.drop_append_of_le_length index.le, List.drop_eq_getElem_cons index,
        List.cons_append, List.cons_prefix_cons] at occurs
      rw [← occurs.1, beq_self_eq_true] at differs
      cases differs
  unfold searchDelim
  by_cases found : position + (contents.drop position).findIdx (· == delim) = contents.length
  · simp only [found, ne_eq, not_true_eq_false, ↓reduceIte]
    rw [found] at skipped
    refine ⟨Nat.le_refl _, skipped, skipped.not_occurs ?_⟩
    rw [List.drop_length]
    exact Nat.succ_pos 0
  · simp only [ne_eq, found, not_false_eq_true, ↓reduceIte]
    refine skipped.firstEnd ?_
    have index : (contents.drop position).findIdx (· == delim) <
        (contents.drop position).length := by
      rw [List.length_drop]
      omega
    have same := List.findIdx_getElem (w := index)
    rw [beq_iff_eq] at same
    rw [At, ← List.drop_drop, List.drop_eq_getElem_cons index, same, List.cons_prefix_cons]
    exact ⟨rfl, List.nil_prefix⟩

/-- What the inner loop finds out about a text and a pattern. -/
def Comparison.Means (text pattern : List Byte) : Comparison → Prop
  | .full => pattern <+: text
  | .partly => text.length < pattern.length
  | .differs => ¬ pattern <+: text ∧ ¬ text <+: pattern

theorem Comparison.Means.cons {comparison : Comparison} {text pattern : List Byte}
    (means : comparison.Means text pattern) (head : Byte) :
    comparison.Means (head :: text) (head :: pattern) := by
  cases comparison with
  | full => exact List.cons_prefix_cons.mpr ⟨rfl, means⟩
  | partly => exact Nat.succ_lt_succ means
  | differs => exact ⟨fun front => means.1 (List.cons_prefix_cons.mp front).2,
      fun front => means.2 (List.cons_prefix_cons.mp front).2⟩

/-- Once the inner loop has advanced it tells the three cases apart. -/
theorem compareFrom_true (text pattern : List Byte) :
    (compareFrom true text pattern).Means text pattern := by
  induction text generalizing pattern with
  | nil =>
      cases pattern with
      | nil => exact List.prefix_rfl
      | cons y ys => exact Nat.succ_pos _
  | cons x xs ih =>
      cases pattern with
      | nil => exact List.nil_prefix
      | cons y ys =>
          rw [compareFrom]
          by_cases same : x = y
          · subst same
            simp only [ne_eq, not_true_eq_false, ↓reduceIte]
            exact (ih ys).cons x
          · simp only [ne_eq, same, not_false_eq_true, ↓reduceIte]
            exact ⟨fun front => same (List.cons_prefix_cons.mp front).1.symm,
              fun front => same (List.cons_prefix_cons.mp front).1⟩

theorem compareFrom_false_cons (x : Byte) (xs pattern : List Byte) :
    compareFrom false (x :: xs) pattern = compareFrom true (x :: xs) pattern := by
  cases pattern with
  | nil => rfl
  | cons y ys => rfl

/-- What `partial_search` from a position of the contents finds out: no
occurrence starts before where it stops, and either one starts there or what is
left is too short to hold one. -/
structure Stops (pattern contents : List Byte) (position : Nat) (found : Bool) : Prop where
  ruledOut : RuledOut pattern contents position
  inside : position ≤ contents.length
  full : found = true → position < contents.length ∧ At pattern contents position
  part : found = false → (contents.drop position).length < pattern.length

/-- **`partial_search`** stops at the first occurrence, or else at the first
position from which what is left of the text is too short to hold one. -/
theorem partialSearch_stops {pattern contents rest : List Byte} (ne : pattern ≠ [])
    {position : Nat} (left : contents.drop position = rest) (inside : position ≤ contents.length)
    (ruledOut : RuledOut pattern contents position) :
    Stops pattern contents (position + (partialSearch rest pattern).1)
      (partialSearch rest pattern).2 := by
  induction rest generalizing position with
  | nil =>
      refine ⟨ruledOut, inside, fun found => (nomatch found), fun _ => ?_⟩
      change (contents.drop position).length < pattern.length
      rw [left]
      exact List.length_pos_of_ne_nil ne
  | cons iter1 rest1 ih =>
      have index : position < contents.length := by
        have length := congrArg List.length left
        rw [List.length_drop, List.length_cons] at length
        omega
      have next : contents.drop (position + 1) = rest1 := by
        rw [← List.drop_drop, left]
        rfl
      have compared := compareFrom_true (iter1 :: rest1) pattern
      rw [← compareFrom_false_cons, ← left] at compared
      rw [partialSearch, ← left]
      cases verdict : compareFrom false (contents.drop position) pattern with
      | full =>
          rw [verdict] at compared
          exact ⟨ruledOut, inside, fun _ => ⟨index, compared⟩, fun found => (nomatch found)⟩
      | partly =>
          rw [verdict] at compared
          exact ⟨ruledOut, inside, fun found => (nomatch found), fun _ => compared⟩
      | differs =>
          rw [verdict] at compared
          have further := ih next index (ruledOut.succ inside compared.1 compared.2)
          rw [Nat.add_assoc, Nat.add_comm 1] at further
          exact further

/-- **The search for a string** finds its first occurrence. -/
theorem searchString_finds {delim : List Byte} (ne : delim ≠ []) :
    (searchString delim).Finds delim := by
  intro contents position inside ruledOut
  have stops := partialSearch_stops ne rfl inside ruledOut
  unfold searchString
  generalize partialSearch (contents.drop position) delim = result at stops
  obtain ⟨first, found⟩ := result
  cases found with
  | true =>
      obtain ⟨short, occurs⟩ := stops.full rfl
      simp only [ne_eq, Nat.ne_of_lt short, not_false_eq_true, ↓reduceIte]
      exact stops.ruledOut.firstEnd occurs
  | false =>
      have absent := stops.ruledOut.not_occurs (stops.part rfl)
      by_cases whole : position + first = contents.length
      · simp only [whole, ne_eq, not_true_eq_false, ↓reduceIte]
        exact ⟨Nat.le_refl _, whole ▸ stops.ruledOut, absent⟩
      · simp only [ne_eq, whole, not_false_eq_true, ↓reduceIte, Bool.false_eq_true]
        exact ⟨stops.inside, stops.ruledOut, absent⟩

end Searches

/-! ## What `read_until` reads -/

section Reads

open Occurrence

/-- The initial contents of a buffer followed by the bytes read. -/
def held (b : B) (done : List (Transfer (List Byte))) : List Byte :=
  data b ++ done.flatMap Transfer.payload

/-- No read reported an error. -/
def ErrorFree (done : List (Transfer (List Byte))) : Prop :=
  ∀ transfer ∈ done, transfer.ec.failed = false

/-- The reads made on behalf of a search: each follows reads without error,
after which the pattern does not occur, and asks for some room and no more than
the buffer has left. -/
inductive Reads (pattern : List Byte) (b : B) : List (Transfer (List Byte)) → Prop where
  | nil : Reads pattern b []
  | snoc {done : List (Transfer (List Byte))} (transfer : Transfer (List Byte)) :
      Reads pattern b done →
      ErrorFree done →
      ¬ Occurs pattern (held b done) →
      0 < transfer.cells.length →
      transfer.cells.length ≤ DynamicBuffer.maxSize b - (held b done).length →
      transfer.payload.length ≤ transfer.cells.length →
      Reads pattern b (done ++ [transfer])

/-- A buffer and a stream after the reads. -/
structure After (pattern : List Byte) (b : B) (stream : Stream (List Byte)) (buffers : B)
    (after : Stream (List Byte)) (done : List (Transfer (List Byte))) : Prop where
  recorded : after.transfers = stream.transfers ++ done
  answered : ∃ answers, stream.script = answers ++ after.script ∧
    List.Forall₂ (fun answer transfer => transfer = answer.transfer (receiving B) transfer.cells)
      answers done
  appended : data buffers = held b done
  limit : DynamicBuffer.maxSize buffers = DynamicBuffer.maxSize b
  within : size buffers ≤ DynamicBuffer.maxSize buffers
  reads : Reads pattern b done

/-- The head of the loop after the reads. -/
structure UntilMade (pattern : List Byte) (b : B) (stream : Stream (List Byte))
    (state : ReadUntil B) (done : List (Transfer (List Byte))) : Prop
    extends After pattern b stream state.b state.stream done where
  errorFree : ErrorFree done
  inside : state.searchPosition ≤ (data state.b).length
  ruledOut : RuledOut pattern (data state.b) state.searchPosition

variable {pattern : List Byte} {b : B} {stream : Stream (List Byte)} {state : ReadUntil B}
  {done : List (Transfer (List Byte))}

theorem UntilMade.start (within : size b ≤ DynamicBuffer.maxSize b) :
    UntilMade pattern b stream ⟨b, 0, stream⟩ [] :=
  ⟨⟨(List.append_nil _).symm, ⟨[], rfl, .nil⟩, (List.append_nil _).symm, rfl, within, .nil⟩,
    fun _ member => absurd member List.not_mem_nil, Nat.zero_le _, .zero⟩

/-- There is something to read while the buffer is not full. -/
theorem bytesToRead_pos (within : size b ≤ DynamicBuffer.maxSize b)
    (room : size b ≠ DynamicBuffer.maxSize b) : 0 < bytesToRead b := by
  refine Nat.pos_of_ne_zero fun nothing => ?_
  obtain zero | full := bytesAvailable_eq_zero within nothing
  · cases zero
  · exact room full

/-- One more read: it is prepared without an exception, and what it delivers
follows what is held. -/
theorem UntilMade.read (made : UntilMade pattern b stream state done)
    (absent : ¬ Occurs pattern (data state.b))
    (room : size state.b ≠ DynamicBuffer.maxSize state.b) :
    ∃ prepared, prepare state.b (bytesToRead state.b) = .ok prepared ∧
      ∀ transfer after, state.stream.transferSome (receiving B)
          (outputCells state.b (bytesToRead state.b)) = some (transfer, after) →
        After pattern b stream (commit (fill prepared transfer.payload) transfer.payload.length)
          after (done ++ [transfer]) := by
  obtain ⟨-, fits⟩ := bytesAvailable_le state.b defaultMaxTransferSize made.within
  change size state.b + bytesToRead state.b ≤ _ at fits
  obtain ⟨prepared, ready, committed⟩ := prepare_commit fits
  refine ⟨prepared, ready, fun transfer after answered => ?_⟩
  have length : (outputCells state.b (bytesToRead state.b)).length = bytesToRead state.b :=
    List.length_range'
  have some := bytesToRead_pos made.within room
  have asked : outputCells state.b (bytesToRead state.b) ≠ [] := by
    rwa [← List.length_pos_iff, length]
  obtain ⟨answer, script, rfl, recorded⟩ := Stream.transferSome_of_ne_nil asked answered
  have less := answer.size_transfer_le (receiving B) (outputCells state.b (bytesToRead state.b))
  change (answer.transfer (receiving B) _).payload.length ≤ _ at less
  obtain ⟨appended, limit, larger⟩ := committed _ (length ▸ less)
  obtain ⟨answers, taken, pairs⟩ := made.answered
  have sizes : size state.b = (held b done).length := by
    rw [← length_data, made.appended]
  refine ⟨?_, ⟨answers ++ [answer], ?_, List.rel_append pairs (.cons rfl .nil)⟩, ?_, ?_, ?_, ?_⟩
  · rw [recorded, made.recorded, List.append_assoc]
  · rw [taken, script, List.append_assoc]
    rfl
  · rw [appended, made.appended, held, held, List.flatMap_append, List.append_assoc]
    simp only [List.flatMap_cons, List.flatMap_nil, List.append_nil]
  · rw [limit, made.limit]
  · rw [limit, larger]
    rw [length] at less
    omega
  · refine made.reads.snoc _ made.errorFree (made.appended ▸ absent) ?_ ?_ less
    · rwa [Answer.transfer_cells, length]
    · rw [Answer.transfer_cells, length, ← sizes, ← made.limit]
      omega

/-- How `read_until` ends: with the end of the first occurrence, with a full
buffer, or with the error of the last read. -/
inductive Verdict (pattern : List Byte) (b : B) (done : List (Transfer (List Byte))) :
    ErrorCode → Nat → Prop where
  | found {final : Nat} : ErrorFree done → FirstEnd pattern (held b done) final →
      Verdict pattern b done .success final
  | full : ErrorFree done → ¬ Occurs pattern (held b done) →
      (held b done).length = DynamicBuffer.maxSize b → Verdict pattern b done .notFound 0
  | error {earlier : List (Transfer (List Byte))} {last : Transfer (List Byte)} :
      done = earlier ++ [last] → ErrorFree earlier → last.ec.failed = true →
      Verdict pattern b done last.ec 0

/-- A pass ends with a verdict, is blocked, or makes one more read. -/
theorem UntilMade.pass {search : Search} (finds : search.Finds pattern)
    (made : UntilMade pattern b stream state done) :
    (∃ outcome reads, readUntil search state = .leave (.ok outcome) ∧
        After pattern b stream outcome.world outcome.stream reads ∧
        Verdict pattern b reads outcome.ec outcome.total) ∨
      readUntil search state = .blocked ∨
      ∃ next transfer, readUntil search state = .again next ∧
        UntilMade pattern b stream next (done ++ [transfer]) := by
  have found := finds (data state.b) state.searchPosition made.inside made.ruledOut
  cases searched : search (data state.b) state.searchPosition with
  | match_ final =>
      rw [searched] at found
      refine .inl ⟨⟨.success, final, state.stream, state.b⟩, done, ?_, made.toAfter, ?_⟩
      · simp only [readUntil, searched]
      · exact .found made.errorFree (made.appended ▸ found)
  | resume next =>
      rw [searched] at found
      obtain ⟨inside, ruledOut, absent⟩ := found
      by_cases room : size state.b = DynamicBuffer.maxSize state.b
      · refine .inl ⟨⟨.notFound, 0, state.stream, state.b⟩, done, ?_, made.toAfter, ?_⟩
        · simp only [readUntil, searched, room, ↓reduceIte]
        · refine .full made.errorFree (made.appended ▸ absent) ?_
          rw [← made.appended, length_data, room, made.limit]
      obtain ⟨prepared, ready, reads⟩ := made.read absent room
      cases answered : state.stream.transferSome (receiving B)
          (outputCells state.b (bytesToRead state.b)) with
      | none =>
          refine .inr (.inl ?_)
          simp only [readUntil, searched, room, ↓reduceIte, ready, answered]
      | some read =>
          obtain ⟨transfer, after⟩ := read
          have more := reads transfer after answered
          by_cases failed : transfer.ec.failed = true
          · refine .inl ⟨⟨transfer.ec, 0, after, _⟩, done ++ [transfer], ?_, more, ?_⟩
            · simp only [readUntil, searched, room, ↓reduceIte, ready, answered, failed]
            · exact .error rfl made.errorFree failed
          · refine .inr (.inr ⟨⟨_, next, after⟩, transfer, ?_, more, ?_, ?_, ?_⟩)
            · simp only [readUntil, searched, room, ↓reduceIte, ready, answered, failed,
                Bool.false_eq_true]
            · intro other member
              rw [List.mem_append, List.mem_singleton] at member
              obtain earlier | rfl := member
              · exact made.errorFree other earlier
              · exact Bool.eq_false_iff.mpr failed
            · rw [more.appended, held, List.flatMap_append, ← List.append_assoc]
              rw [made.appended] at inside
              exact Nat.le_trans inside (by rw [List.length_append, held]; exact Nat.le_add_right _ _)
            · rw [more.appended, held, List.flatMap_append, ← List.append_assoc]
              rw [made.appended] at ruledOut
              exact ruledOut.append _

/-- **Run lemma.** A `read_until` that returns has thrown nothing, holds the
initial contents and the bytes read, and ends with one of the verdicts. -/
theorem readUntil_returns {search : Search} (finds : search.Finds pattern)
    (within : size b ≤ DynamicBuffer.maxSize b)
    {result : Except LengthError (Outcome (List Byte) B)}
    (returns : Returns (readUntil search) ⟨b, 0, stream⟩ result) :
    ∃ outcome done, result = .ok outcome ∧
      After pattern b stream outcome.world outcome.stream done ∧
      Verdict pattern b done outcome.ec outcome.total := by
  refine returns.invariant (fun state => ∃ done, UntilMade pattern b stream state done)
    (fun result => ∃ outcome done, result = .ok outcome ∧
      After pattern b stream outcome.world outcome.stream done ∧
      Verdict pattern b done outcome.ec outcome.total)
    ⟨[], .start within⟩ ?_ ?_
  · rintro state next ⟨done, made⟩ passed
    obtain ⟨_, _, left, -⟩ | blocked | ⟨other, transfer, went, more⟩ := made.pass finds
    · rw [left] at passed
      cases passed
    · rw [blocked] at passed
      cases passed
    · rw [went] at passed
      cases passed
      exact ⟨_, more⟩
  · rintro state result ⟨done, made⟩ passed
    obtain ⟨outcome, reads, left, after, verdict⟩ | blocked | ⟨_, _, went, -⟩ := made.pass finds
    · rw [left] at passed
      cases passed
      exact ⟨outcome, reads, rfl, after, verdict⟩
    · rw [blocked] at passed
      cases passed
    · rw [went] at passed
      cases passed

/-- No occurrence was complete before the last read. -/
theorem Reads.none_sooner (reads : Reads pattern b done) :
    ∀ count < done.length, ¬ Occurs pattern (held b (done.take count)) := by
  induction reads with
  | nil => exact fun _ before => absurd before (Nat.not_lt_zero _)
  | @snoc done transfer _ _ absent _ _ _ ih =>
      intro count before
      rw [List.length_append, List.length_singleton] at before
      obtain sooner | rfl := Nat.lt_or_eq_of_le (Nat.le_of_lt_succ before)
      · rw [List.take_append_of_le_length sooner.le]
        exact ih count sooner
      · rw [List.take_left]
        exact absent

/-- What `read_until` for a pattern reports, after the reads it has made. -/
structure FindsFirst (pattern : List Byte) (b : B) (stream : Stream (List Byte))
    (outcome : Outcome (List Byte) B) (done : List (Transfer (List Byte))) : Prop
    extends After pattern b stream outcome.world outcome.stream done where
  noneSooner : ∀ count < done.length, ¬ Occurs pattern (held b (done.take count))
  found : outcome.ec.failed = false ↔ ErrorFree done ∧ Occurs pattern (held b done)
  final : outcome.ec.failed = false →
    outcome.ec = .success ∧ FirstEnd pattern (data outcome.world) outcome.total
  full : ErrorFree done ∧ outcome.ec = .notFound ↔ ErrorFree done ∧
    ¬ Occurs pattern (held b done) ∧ (held b done).length = DynamicBuffer.maxSize b
  error : ∀ ec : ErrorCode, ec.failed = true →
    (¬ ErrorFree done ∧ outcome.ec = ec ↔ ∃ earlier last, done = earlier ++ [last] ∧
      last.ec = ec ∧ ErrorFree earlier ∧ ¬ Occurs pattern (held b earlier))
  nothing : outcome.ec.failed = true → outcome.total = 0

theorem ErrorFree.not_failed {earlier : List (Transfer (List Byte))}
    {last : Transfer (List Byte)} (errorFree : ErrorFree (earlier ++ [last])) :
    last.ec.failed = false :=
  errorFree last (List.mem_append_right _ List.mem_cons_self)

theorem Reads.before_last {earlier : List (Transfer (List Byte))}
    {last : Transfer (List Byte)} (reads : Reads pattern b (earlier ++ [last])) :
    ErrorFree earlier ∧ ¬ Occurs pattern (held b earlier) := by
  generalize whole : earlier ++ [last] = done at reads
  cases reads with
  | nil => exact absurd whole (List.append_ne_nil_of_right_ne_nil _ (List.cons_ne_nil _ _))
  | snoc transfer _ errorFree absent _ _ _ =>
      obtain ⟨rfl, -⟩ := List.append_inj' whole rfl
      exact ⟨errorFree, absent⟩

/-- Each verdict is reported in its own case only. -/
theorem Verdict.findsFirst {outcome : Outcome (List Byte) B}
    (verdict : Verdict pattern b done outcome.ec outcome.total)
    (after : After pattern b stream outcome.world outcome.stream done) :
    FindsFirst pattern b stream outcome done := by
  refine ⟨after, after.reads.none_sooner, ?_, ?_, ?_, ?_, ?_⟩
  all_goals generalize reported : outcome.ec = ec at verdict
  all_goals generalize outcome.total = total at verdict
  · cases verdict with
    | found errorFree first => exact ⟨fun _ => ⟨errorFree, first.occurs⟩, fun _ => rfl⟩
    | full _ absent _ => exact ⟨fun failed => (nomatch failed), fun found => absurd found.2 absent⟩
    | @error earlier last split _ failed =>
        subst split
        refine ⟨fun succeeded => absurd (failed.symm.trans succeeded) (by decide), fun found => ?_⟩
        exact absurd (failed.symm.trans found.1.not_failed) (by decide)
  · intro succeeded
    cases verdict with
    | found _ first => exact ⟨rfl, after.appended ▸ first⟩
    | full _ _ _ => cases succeeded
    | error _ _ failed => exact absurd (failed.symm.trans succeeded) (by decide)
  · cases verdict with
    | found _ first =>
        exact ⟨fun report => absurd report.2 (by decide),
          fun full => absurd first.occurs full.2.1⟩
    | full errorFree absent whole =>
        exact ⟨fun _ => ⟨errorFree, absent, whole⟩, fun _ => ⟨errorFree, rfl⟩⟩
    | @error earlier last split _ failed =>
        subst split
        exact ⟨fun report => absurd (failed.symm.trans report.1.not_failed) (by decide),
          fun full => absurd (failed.symm.trans full.1.not_failed) (by decide)⟩
  · intro error failing
    cases verdict with
    | found errorFree _ =>
        refine ⟨fun report => absurd errorFree report.1, ?_⟩
        rintro ⟨earlier, last, rfl, rfl, -⟩
        exact absurd (failing.symm.trans errorFree.not_failed) (by decide)
    | full errorFree _ _ =>
        refine ⟨fun report => absurd errorFree report.1, ?_⟩
        rintro ⟨earlier, last, rfl, rfl, -⟩
        exact absurd (failing.symm.trans errorFree.not_failed) (by decide)
    | @error earlier last split errorFree failed =>
        subst split
        constructor
        · rintro ⟨-, rfl⟩
          exact ⟨earlier, last, rfl, rfl, after.reads.before_last⟩
        · rintro ⟨other, final, same, rfl, -⟩
          obtain ⟨-, same⟩ := List.append_inj' same rfl
          obtain rfl := List.singleton_inj.mp same
          exact ⟨fun errorFree => absurd (failed.symm.trans errorFree.not_failed) (by decide), rfl⟩
  · intro failing
    cases verdict with
    | found _ _ => cases failing
    | full _ _ _ => rfl
    | error _ _ _ => rfl

end Reads

end Asio.Transmit
