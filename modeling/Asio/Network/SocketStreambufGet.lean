import Asio.Network.SocketStreambuf

/-! # The get area of a socket's stream buffer

`underflow` receives behind the first `putback_max` characters of the get buffer and lets
`eback()` point before them, but nothing puts characters there. The characters that are read
and put back are compared with the received stream at a cursor.
-/

namespace Asio.Network

open Transmit (Byte)

/-- `putback_max`. -/
def putbackMax : Nat := 8

/-- `get_buffer_`, and the pointers `gptr()` and `egptr()` into it; `eback()` is its first
character. -/
structure GetArea where
  getBuffer : List Byte
  gptr : Nat
  egptr : Nat
  gptr_le : gptr ≤ egptr
  putback_le : putbackMax ≤ egptr
  egptr_le : egptr ≤ getBuffer.length
  deriving Repr

namespace GetArea

/-- `setg` as in `init_buffers`. -/
def initBuffers (getBuffer : List Byte) (large : putbackMax ≤ getBuffer.length) : GetArea where
  getBuffer := getBuffer
  gptr := putbackMax
  egptr := putbackMax
  gptr_le := Nat.le_refl _
  putback_le := Nat.le_refl _
  egptr_le := large

/-- What `recv` writes into `get_buffer_ + putback_max`, and `setg` as in `underflow`. -/
def fill (area : GetArea) (bytes : List Byte)
    (fits : putbackMax + bytes.length ≤ area.getBuffer.length) : GetArea where
  getBuffer := area.getBuffer.take putbackMax ++ bytes ++
    area.getBuffer.drop (putbackMax + bytes.length)
  gptr := putbackMax
  egptr := putbackMax + bytes.length
  gptr_le := Nat.le_add_right _ _
  putback_le := Nat.le_add_right _ _
  egptr_le := by
    rw [List.append_assoc, List.length_append, List.length_append, List.length_take,
      List.length_drop, Nat.min_eq_left (Nat.le_of_add_right_le fits)]
    omega

/-- `++gptr()`. -/
def bump (area : GetArea) (inside : area.gptr < area.egptr) : GetArea :=
  { area with gptr := area.gptr + 1, gptr_le := inside }

/-- `--gptr()`. -/
def back (area : GetArea) : GetArea :=
  { area with gptr := area.gptr - 1, gptr_le := (Nat.sub_le _ _).trans area.gptr_le }

end GetArea

/-- One pass of the loop in `underflow`: the clock, what `recv` receives or leaves in `ec_`,
and what `poll_read` returns and leaves in `ec_`. -/
structure ReadAttempt where
  now : Int
  received : Except ErrorCode (List Byte)
  ready : Int
  pollEc : ErrorCode

/-- `basic_socket_streambuf`, as far as its input goes, and the history of its connection:
the bytes received, the cursor of the reader, and every character it has obtained with the
place in the stream where it stood. -/
structure SocketInput where
  area : GetArea
  ec : ErrorCode
  expiryTime : Int
  received : List Byte
  cursor : Int
  obtained : List (Int × Byte)

/-- The calls of the reader; those that may call `underflow` with the passes of its loop. -/
inductive InputAction where
  | sgetc (attempts : List ReadAttempt)
  | sbumpc (attempts : List ReadAttempt)
  | sungetc

namespace SocketInput

/-- A `recv` that succeeds. No more is received than there is room for. -/
def receive (input : SocketInput) (bytes : List Byte)
    (fits : putbackMax + bytes.length ≤ input.area.getBuffer.length) : SocketInput :=
  { input with
    area := input.area.fill bytes fits
    ec := .success
    received := input.received ++ bytes }

/-- The loop of `underflow`, when it returns. -/
def underflowLoop (input : SocketInput) : List ReadAttempt → Option (IntType × SocketInput)
  | [] => none
  | attempt :: attempts =>
      if input.expiryTime < attempt.now then some (none, { input with ec := .timedOut })
      else
        match attempt.received with
        | .ok [] => some (none, { input with ec := .eof })
        | .ok bytes =>
            if fits : putbackMax + bytes.length ≤ input.area.getBuffer.length then
              some ((input.receive bytes fits).area.getBuffer[putbackMax]?,
                input.receive bytes fits)
            else none
        | .error ec =>
            if ec ≠ .wouldBlock ∧ ec ≠ .tryAgain then some (none, { input with ec := ec })
            else if attempt.ready < 0 then some (none, { input with ec := attempt.pollEc })
            else underflowLoop { input with ec := attempt.pollEc } attempts

/-- `underflow`. -/
def underflow (input : SocketInput) (attempts : List ReadAttempt) :
    Option (IntType × SocketInput) :=
  if input.area.gptr ≠ input.area.egptr then some (none, input)
  else input.underflowLoop attempts

/-- A call has returned a character of the stream, or `eof()`. -/
def obtain (input : SocketInput) (place : Int) (c : IntType) : SocketInput :=
  { input with obtained := input.obtained ++ c.toList.map (place, ·) }

/-- `sgetc` of `std::streambuf`. -/
def sgetc (input : SocketInput) (attempts : List ReadAttempt) : Option (IntType × SocketInput) :=
  if input.area.gptr < input.area.egptr then
    some (input.area.getBuffer[input.area.gptr]?, input)
  else input.underflow attempts

/-- `*gptr()++`. -/
def next (input : SocketInput) : IntType × SocketInput :=
  if inside : input.area.gptr < input.area.egptr then
    (input.area.getBuffer[input.area.gptr]?,
      { input with area := input.area.bump inside, cursor := input.cursor + 1 })
  else (none, input)

/-- `sbumpc` of `std::streambuf`, with its `uflow`. -/
def sbumpc (input : SocketInput) (attempts : List ReadAttempt) : Option (IntType × SocketInput) :=
  if input.area.gptr < input.area.egptr then some input.next
  else
    match input.underflow attempts with
    | none => none
    | some (none, input) => some (none, input)
    | some (some _, input) => some input.next

/-- `sungetc` of `std::streambuf`, with its `pbackfail`. -/
def sungetc (input : SocketInput) : IntType × SocketInput :=
  if 0 < input.area.gptr then
    (input.area.getBuffer[input.area.gptr - 1]?,
      { input with area := input.area.back, cursor := input.cursor - 1 })
  else (none, input)

/-- One call, with the character it obtains. -/
def step (input : SocketInput) : InputAction → Option SocketInput
  | .sgetc attempts =>
      (input.sgetc attempts).map fun result => result.2.obtain result.2.cursor result.1
  | .sbumpc attempts =>
      -- The cursor has moved behind the character that is returned.
      (input.sbumpc attempts).map fun result => result.2.obtain (result.2.cursor - 1) result.1
  | .sungetc => some (input.sungetc.2.obtain input.sungetc.2.cursor input.sungetc.1)

/-- Just connected: `init_buffers` has run, and nothing has been written before
`get_buffer_ + putback_max` since the buffer was constructed. -/
def Connected (input : SocketInput) : Prop :=
  ∃ large : putbackMax ≤ input.area.getBuffer.length,
    input.area = .initBuffers input.area.getBuffer large ∧
      (∀ place < putbackMax, input.area.getBuffer[place]? = some 0) ∧
      input.received = [] ∧ input.cursor = 0 ∧ input.obtained = []

/-- The input of a connection as a machine. -/
def machine : Transition.Machine SocketInput InputAction where
  initial := Connected
  step := step

/-- The character at a place of the stream. -/
def characterAt (received : List Byte) : Int → Option Byte
  | .ofNat place => received[place]?
  | .negSucc _ => none

/-- Every character that was obtained is the one that the stream has at its place. -/
def Consistent (input : SocketInput) : Prop :=
  ∀ place c, (place, c) ∈ input.obtained → characterAt input.received place = some c

/-- A character is put back only if it is one of those last received, or a null character
was read at its place. -/
def PutsBackReceived (input : SocketInput) : InputAction → Prop
  | .sungetc => input.area.gptr = 0 ∨ putbackMax < input.area.gptr ∨
      characterAt input.received (input.cursor - 1) = some 0
  | _ => True

/-! ## The stream and the buffer -/

theorem characterAt_append {received bytes : List Byte} {place : Int} {c : Byte}
    (found : characterAt received place = some c) :
    characterAt (received ++ bytes) place = some c := by
  cases place with
  | ofNat place =>
      have inside : place < received.length := (List.getElem?_eq_some_iff.mp found).1
      exact (List.getElem?_append_left inside).trans found
  | negSucc place => contradiction

/-- The place in the stream of a place in the buffer. -/
def streamPlace (input : SocketInput) (place : Nat) : Int :=
  input.received.length - input.area.egptr + place

/-- What the buffer has to do with the stream. What was received last is in it, with nothing
but null characters before; if the reader has seen nothing else, it goes on reading the
stream. -/
structure Tracks (input : SocketInput) : Prop where
  cursor : input.cursor = input.streamPlace input.area.gptr
  blank : ∀ place < putbackMax, input.area.getBuffer[place]? = some 0
  filled : ∀ place, putbackMax ≤ place → place < input.area.egptr →
    input.area.getBuffer[place]? = characterAt input.received (input.streamPlace place)
  ahead : input.Consistent → ∀ place, input.area.gptr ≤ place → place < input.area.egptr →
    input.area.getBuffer[place]? = characterAt input.received (input.streamPlace place)

variable {input after : SocketInput}

theorem consistent_obtain {place : Int} {c : IntType} :
    (input.obtain place c).Consistent ↔
      input.Consistent ∧ ∀ ch, c = some ch → characterAt input.received place = some ch := by
  cases c with
  | none =>
      have same : input.obtain place none = input := by
        rw [obtain]
        simp only [Option.toList_none, List.map_nil, List.append_nil]
      rw [same]
      exact (and_iff_left (fun _ absent => nomatch absent)).symm
  | some ch =>
      constructor
      · intro consistent
        refine ⟨fun other c member => consistent other c (List.mem_append_left _ member), ?_⟩
        rintro _ ⟨⟩
        exact consistent place ch (List.mem_append_right _ List.mem_cons_self)
      · rintro ⟨consistent, found⟩ other c member
        rcases List.mem_append.mp member with before | new
        · exact consistent other c before
        · cases List.mem_singleton.mp new
          exact found ch rfl

theorem Tracks.obtain (tracks : input.Tracks) (place : Int) (c : IntType) :
    (input.obtain place c).Tracks where
  cursor := tracks.cursor
  blank := tracks.blank
  filled := tracks.filled
  ahead consistent := tracks.ahead (consistent_obtain.mp consistent).1

theorem Tracks.setEc (tracks : input.Tracks) (ec : ErrorCode) :
    ({ input with ec := ec } : SocketInput).Tracks where
  cursor := tracks.cursor
  blank := tracks.blank
  filled := tracks.filled
  ahead := tracks.ahead

theorem tracks_of_connected (connected : input.Connected) : input.Tracks := by
  obtain ⟨large, area, blank, received, cursor, -⟩ := connected
  have gptr : input.area.gptr = putbackMax := congrArg GetArea.gptr area
  have egptr : input.area.egptr = putbackMax := congrArg GetArea.egptr area
  have none_inside : ∀ place, putbackMax ≤ place → ¬ place < input.area.egptr := by
    intro place low
    rw [egptr]
    exact Nat.not_lt_of_le low
  constructor
  · rw [cursor, streamPlace, received, gptr, egptr]
    rfl
  · exact blank
  · exact fun place low high => absurd high (none_inside place low)
  · intro _ place low high
    rw [gptr] at low
    exact absurd high (none_inside place low)

theorem consistent_of_connected (connected : input.Connected) : input.Consistent := by
  obtain ⟨-, -, -, -, -, obtained⟩ := connected
  intro place c member
  rw [obtained] at member
  contradiction

/-! ## `underflow` -/

theorem getElem?_fill_front (area : GetArea) {bytes : List Byte}
    (fits : putbackMax + bytes.length ≤ area.getBuffer.length) {place : Nat}
    (front : place < putbackMax) :
    (area.fill bytes fits).getBuffer[place]? = area.getBuffer[place]? := by
  have long : place < (area.getBuffer.take putbackMax).length := by
    rw [List.length_take, Nat.min_eq_left (Nat.le_of_add_right_le fits)]
    exact front
  change (area.getBuffer.take putbackMax ++ bytes ++
    area.getBuffer.drop (putbackMax + bytes.length))[place]? = _
  rw [List.append_assoc, List.getElem?_append_left long, List.getElem?_take_of_lt front]

theorem getElem?_fill (area : GetArea) {bytes : List Byte}
    (fits : putbackMax + bytes.length ≤ area.getBuffer.length) {place : Nat}
    (inside : place < bytes.length) :
    (area.fill bytes fits).getBuffer[putbackMax + place]? = bytes[place]? := by
  have front : (area.getBuffer.take putbackMax).length = putbackMax := by
    rw [List.length_take, Nat.min_eq_left (Nat.le_of_add_right_le fits)]
  change (area.getBuffer.take putbackMax ++ bytes ++
    area.getBuffer.drop (putbackMax + bytes.length))[putbackMax + place]? = _
  rw [List.append_assoc, List.getElem?_append_right (front.le.trans (Nat.le_add_right _ _)),
    front, Nat.add_sub_cancel_left, List.getElem?_append_left inside]

/-- What is received continues the stream. -/
theorem Tracks.receive (tracks : input.Tracks) (exhausted : input.area.gptr = input.area.egptr)
    {bytes : List Byte} (fits : putbackMax + bytes.length ≤ input.area.getBuffer.length) :
    (input.receive bytes fits).Tracks := by
  have filled : ∀ place, putbackMax ≤ place → place < putbackMax + bytes.length →
      (input.area.fill bytes fits).getBuffer[place]? =
        characterAt (input.received ++ bytes)
          ((input.receive bytes fits).streamPlace place) := by
    intro place low high
    obtain ⟨offset, rfl⟩ := Nat.exists_eq_add_of_le low
    have inside : offset < bytes.length := Nat.lt_of_add_lt_add_left high
    have at_end : (input.receive bytes fits).streamPlace (putbackMax + offset) =
        ((input.received.length + offset : Nat) : Int) := by
      change ((input.received ++ bytes).length : Int) - ((putbackMax + bytes.length : Nat) : Int) +
        ((putbackMax + offset : Nat) : Int) = _
      rw [List.length_append]
      omega
    rw [getElem?_fill input.area fits inside, at_end]
    change _ = (input.received ++ bytes)[input.received.length + offset]?
    rw [List.getElem?_append_right (Nat.le_add_right _ _), Nat.add_sub_cancel_left]
  constructor
  · change input.cursor = ((input.received ++ bytes).length : Int) -
      ((putbackMax + bytes.length : Nat) : Int) + (putbackMax : Int)
    rw [tracks.cursor, streamPlace, exhausted, List.length_append]
    omega
  · intro place front
    exact (getElem?_fill_front input.area fits front).trans (tracks.blank place front)
  · exact filled
  · exact fun _ => filled

theorem Consistent.receive (consistent : input.Consistent) {bytes : List Byte}
    (fits : putbackMax + bytes.length ≤ input.area.getBuffer.length) :
    (input.receive bytes fits).Consistent :=
  fun place c member => characterAt_append (consistent place c member)

/-- What a call that reads leaves: the character that it returns is the next one. -/
structure Reads (c : IntType) (after : SocketInput) : Prop where
  tracks : after.Tracks
  consistent : after.Consistent
  next : ∀ ch, c = some ch → after.area.gptr < after.area.egptr ∧
    after.area.getBuffer[after.area.gptr]? = some ch

theorem reads_underflowLoop (attempts : List ReadAttempt) {c : IntType} (tracks : input.Tracks)
    (consistent : input.Consistent) (exhausted : input.area.gptr = input.area.egptr)
    (returned : input.underflowLoop attempts = some (c, after)) : Reads c after := by
  induction attempts generalizing input with
  | nil => contradiction
  | cons attempt attempts ih =>
      have failure : ∀ ec, Reads none { input with ec := ec } := fun ec =>
        ⟨tracks.setEc ec, consistent, fun _ absent => nomatch absent⟩
      rw [underflowLoop] at returned
      split at returned
      · cases returned
        exact failure _
      · split at returned
        · cases returned
          exact failure _
        · next bytes some_bytes received =>
          split at returned
          · next fits =>
            cases returned
            refine ⟨tracks.receive exhausted fits, consistent.receive fits, fun ch found => ?_⟩
            refine ⟨?_, found⟩
            apply Nat.lt_add_of_pos_right
            exact List.length_pos_of_ne_nil some_bytes
          · contradiction
        · split at returned
          · cases returned
            exact failure _
          · split at returned
            · cases returned
              exact failure _
            · exact ih (tracks.setEc attempt.pollEc) consistent exhausted returned

theorem reads_sgetc {attempts : List ReadAttempt} {c : IntType} (tracks : input.Tracks)
    (consistent : input.Consistent) (returned : input.sgetc attempts = some (c, after)) :
    Reads c after := by
  rw [sgetc] at returned
  split at returned
  · next inside =>
    cases returned
    exact ⟨tracks, consistent, fun ch found => ⟨inside, found⟩⟩
  · next outside =>
    have exhausted : input.area.gptr = input.area.egptr :=
      Nat.le_antisymm input.area.gptr_le (Nat.le_of_not_lt outside)
    rw [underflow, if_neg (not_not_intro exhausted)] at returned
    exact reads_underflowLoop attempts tracks consistent exhausted returned

/-- The next character of the buffer is the one at the cursor. -/
theorem Reads.at_cursor {c : IntType} (reads : Reads c after) {ch : Byte} (found : c = some ch) :
    characterAt after.received after.cursor = some ch := by
  obtain ⟨inside, buffered⟩ := reads.next ch found
  rw [reads.tracks.cursor, ← buffered]
  exact (reads.tracks.ahead reads.consistent _ (Nat.le_refl _) inside).symm

/-- `*gptr()++` leaves the buffer as it is, and moves the cursor. -/
theorem Tracks.next (tracks : input.Tracks) : input.next.2.Tracks := by
  rw [SocketInput.next]
  split
  · constructor
    · change input.cursor + 1 = (input.received.length : Int) - input.area.egptr +
        ((input.area.gptr + 1 : Nat) : Int)
      rw [tracks.cursor, streamPlace, Int.natCast_succ, Int.add_assoc]
    · exact tracks.blank
    · exact tracks.filled
    · intro consistent place low
      exact tracks.ahead consistent place (Nat.le_of_succ_le low)
  · exact tracks

/-! ## One call -/

theorem tracks_sgetc {attempts : List ReadAttempt} (tracks : input.Tracks)
    (consistent : input.Consistent) (stepped : input.step (.sgetc attempts) = some after) :
    after.Tracks ∧ after.Consistent := by
  obtain ⟨⟨c, read⟩, returned, rfl⟩ := Option.map_eq_some_iff.mp stepped
  have reads := reads_sgetc tracks consistent returned
  exact ⟨reads.tracks.obtain _ _,
    consistent_obtain.mpr ⟨reads.consistent, fun ch found => reads.at_cursor found⟩⟩

theorem next_consistent (tracks : input.Tracks) (consistent : input.Consistent) :
    (input.next.2.obtain (input.next.2.cursor - 1) input.next.1).Consistent := by
  rw [SocketInput.next]
  split
  · next inside =>
    refine consistent_obtain.mpr ⟨consistent, fun ch found => ?_⟩
    have place : input.cursor + 1 - 1 = input.streamPlace input.area.gptr := by
      rw [tracks.cursor]
      exact Int.add_sub_cancel _ _
    change characterAt input.received (input.cursor + 1 - 1) = some ch
    rw [place, ← found]
    exact (tracks.ahead consistent _ (Nat.le_refl _) inside).symm
  · exact consistent_obtain.mpr ⟨consistent, fun _ absent => nomatch absent⟩

/-- `sbumpc` moves the cursor over a character that `sgetc` would return. -/
theorem reads_sbumpc {attempts : List ReadAttempt} {c : IntType} (tracks : input.Tracks)
    (consistent : input.Consistent) (returned : input.sbumpc attempts = some (c, after)) :
    ∃ read : SocketInput, read.Tracks ∧ read.Consistent ∧
      ((c, after) = (none, read) ∨ (c, after) = read.next) := by
  rw [sbumpc] at returned
  split at returned
  · exact ⟨input, tracks, consistent, .inr (Option.some.inj returned).symm⟩
  · next outside =>
    have sgetc_eq : input.sgetc attempts = input.underflow attempts := by
      rw [sgetc, if_neg outside]
    rw [← sgetc_eq] at returned
    split at returned
    · contradiction
    · next read found =>
      have reads := reads_sgetc tracks consistent found
      exact ⟨read, reads.tracks, reads.consistent, .inl (Option.some.inj returned).symm⟩
    · next ch read found =>
      have reads := reads_sgetc tracks consistent found
      exact ⟨read, reads.tracks, reads.consistent, .inr (Option.some.inj returned).symm⟩

theorem tracks_sbumpc {attempts : List ReadAttempt} (tracks : input.Tracks)
    (consistent : input.Consistent) (stepped : input.step (.sbumpc attempts) = some after) :
    after.Tracks ∧ after.Consistent := by
  obtain ⟨⟨c, moved⟩, returned, rfl⟩ := Option.map_eq_some_iff.mp stepped
  obtain ⟨read, readTracks, readConsistent, failed | moves⟩ :=
    reads_sbumpc tracks consistent returned
  · cases failed
    exact ⟨readTracks.obtain _ _,
      consistent_obtain.mpr ⟨readConsistent, fun _ absent => nomatch absent⟩⟩
  · have exact := next_consistent readTracks readConsistent
    rw [← moves] at exact
    refine ⟨Tracks.obtain ?_ _ _, exact⟩
    have followed := readTracks.next
    rw [← moves] at followed
    exact followed

/-- The character before `gptr()` is the one before the cursor, or a null character. -/
theorem Tracks.before (tracks : input.Tracks) (positive : 0 < input.area.gptr) :
    (putbackMax < input.area.gptr ∧ input.area.getBuffer[input.area.gptr - 1]? =
        characterAt input.received (input.cursor - 1)) ∨
      input.area.gptr ≤ putbackMax ∧ input.area.getBuffer[input.area.gptr - 1]? = some 0 := by
  by_cases received : putbackMax < input.area.gptr
  · refine .inl ⟨received, ?_⟩
    have place : input.streamPlace (input.area.gptr - 1) = input.cursor - 1 := by
      rw [tracks.cursor, streamPlace, streamPlace]
      omega
    rw [← place]
    apply tracks.filled _ (Nat.le_sub_one_of_lt received)
    exact Nat.lt_of_lt_of_le (Nat.sub_lt positive Nat.one_pos) input.area.gptr_le
  · have low := Nat.le_of_not_lt received
    exact .inr ⟨low, tracks.blank _ (Nat.lt_of_lt_of_le (Nat.sub_lt positive Nat.one_pos) low)⟩

theorem step_sungetc_of_pos (positive : 0 < input.area.gptr) :
    input.step .sungetc = some (SocketInput.obtain
      { input with area := input.area.back, cursor := input.cursor - 1 } (input.cursor - 1)
      input.area.getBuffer[input.area.gptr - 1]?) := by
  rw [step, sungetc, if_pos positive]

theorem step_sungetc_of_zero (front : input.area.gptr = 0) :
    input.step .sungetc = some (input.obtain input.cursor none) := by
  rw [step, sungetc, if_neg (front ▸ Nat.lt_irrefl 0)]

theorem tracks_sungetc (tracks : input.Tracks) (stepped : input.step .sungetc = some after) :
    after.Tracks := by
  rcases Nat.eq_zero_or_pos input.area.gptr with front | positive
  · rw [step_sungetc_of_zero front] at stepped
    cases stepped
    exact tracks.obtain _ _
  · rw [step_sungetc_of_pos positive] at stepped
    cases stepped
    have back : input.streamPlace (input.area.gptr - 1) = input.cursor - 1 := by
      rw [tracks.cursor, streamPlace, streamPlace]
      omega
    constructor
    · exact back.symm
    · exact tracks.blank
    · exact tracks.filled
    · intro consistent place low high
      obtain ⟨before, obtained⟩ := consistent_obtain.mp consistent
      by_cases own : place = input.area.gptr - 1
      · subst own
        have inside : input.area.gptr - 1 < input.area.getBuffer.length :=
          Nat.lt_of_lt_of_le high input.area.egptr_le
        have found := List.getElem?_eq_getElem inside
        apply Eq.trans _ (congrArg (characterAt input.received) back).symm
        exact found.trans (obtained _ found).symm
      · apply tracks.ahead before place _ high
        have low' : input.area.gptr - 1 ≤ place := low
        omega

theorem consistent_sungetc_iff (tracks : input.Tracks) (consistent : input.Consistent)
    (stepped : input.step .sungetc = some after) :
    after.Consistent ↔ input.PutsBackReceived .sungetc := by
  rcases Nat.eq_zero_or_pos input.area.gptr with front | positive
  · rw [step_sungetc_of_zero front] at stepped
    cases stepped
    exact iff_of_true (consistent_obtain.mpr ⟨consistent, fun _ absent => nomatch absent⟩)
      (.inl front)
  · rw [step_sungetc_of_pos positive] at stepped
    cases stepped
    rcases tracks.before positive with ⟨received, buffered⟩ | ⟨front, blank⟩
    · refine iff_of_true (consistent_obtain.mpr ⟨consistent, fun ch found => ?_⟩)
        (.inr (.inl received))
      exact buffered.symm.trans found
    · rw [blank]
      constructor
      · intro obtained
        exact .inr (.inr ((consistent_obtain.mp obtained).2 0 rfl))
      · rintro (zero | received | null)
        · exact absurd zero positive.ne'
        · exact absurd received (Nat.not_lt_of_le front)
        · refine consistent_obtain.mpr ⟨consistent, ?_⟩
          rintro _ ⟨⟩
          exact null

/-- In every run on a connection, every character that is read or put back is the one that the
received stream has at the cursor, exactly when nothing is put back from before the place where
the last `recv` put its characters, except null characters that were read there. -/
theorem putback_consistent_iff (actions : List InputAction) {final : SocketInput}
    (connected : machine.initial input) (ran : machine.run input actions = some final) :
    machine.Always Consistent input actions ↔
      machine.Permitted PutsBackReceived input actions := by
  apply Transition.Machine.always_iff_permitted _ _ actions ran (tracks_of_connected connected)
    (consistent_of_connected connected)
  · intro input action after tracks consistent stepped
    cases action with
    | sgetc attempts => exact (tracks_sgetc tracks consistent stepped).1
    | sbumpc attempts => exact (tracks_sbumpc tracks consistent stepped).1
    | sungetc => exact tracks_sungetc tracks stepped
  · intro input action after tracks consistent stepped
    cases action with
    | sgetc attempts => exact iff_of_true (tracks_sgetc tracks consistent stepped).2 trivial
    | sbumpc attempts => exact iff_of_true (tracks_sbumpc tracks consistent stepped).2 trivial
    | sungetc => exact consistent_sungetc_iff tracks consistent stepped

/-- A connection before anything is read. -/
def justConnected : SocketInput where
  area := .initBuffers (List.replicate bufferSize 0) (List.length_replicate ▸ by decide)
  ec := .success
  expiryTime := maxExpiryTime
  received := []
  cursor := 0
  obtained := []

theorem justConnected_connected : justConnected.Connected := by
  refine ⟨List.length_replicate ▸ by decide, rfl, fun place front => ?_, rfl, rfl, rfl⟩
  apply List.getElem?_replicate_of_lt
  exact front.trans (by decide)

/-- `recv` receives some bytes. -/
def receiving (bytes : List Byte) : ReadAttempt := ⟨0, .ok bytes, 0, .success⟩

set_option maxRecDepth 16384 in
/-- Three characters are read, and the last two of them again. -/
theorem putback_consistent_iff_read_again :
    ∃ final, machine.run justConnected [.sbumpc [receiving [97, 98, 99]], .sbumpc [],
        .sbumpc [], .sungetc, .sungetc, .sbumpc [], .sgetc []] = some final ∧
      machine.Always Consistent justConnected [.sbumpc [receiving [97, 98, 99]], .sbumpc [],
        .sbumpc [], .sungetc, .sungetc, .sbumpc [], .sgetc []] := by
  refine ⟨_, rfl, (putback_consistent_iff _ justConnected_connected rfl).mpr ?_⟩
  exact ⟨trivial, trivial, trivial, .inr (.inl (by decide)), .inr (.inl (by decide)), trivial,
    trivial, trivial⟩

/-- Nothing has been received, and a character can be put back all the same. -/
theorem not_putback_consistent :
    ¬ ∀ (input final : SocketInput) (actions : List InputAction), machine.initial input →
      machine.run input actions = some final → machine.Always Consistent input actions := by
  intro consistent
  have always := consistent justConnected _ [.sungetc] justConnected_connected rfl
  have found : characterAt [] (-1) = some 0 := always.2 (-1) 0 List.mem_cons_self
  contradiction

end SocketInput

end Asio.Network
