import Asio.Error
import Asio.Lib.Transition
import Asio.Transmit.Stream
import Mathlib.Algebra.Ring.Int.Defs
import Mathlib.Algebra.Ring.Nat
import Mathlib.Logic.Function.Basic

/-! # The put area of a socket's stream buffer

`basic_socket_streambuf` collects the characters that are put into it and sends
them when its put area is full or when it is told to `sync`. The machine takes
one call of `send` at a time: between the calls of a flush, what is left to send
is in a local variable, and the put area is reset only after all of it has gone
out. One connection is followed through the stream buffers that own it in turn.
-/

namespace Asio.Network

open Transmit (Byte)

/-- `int_type`: a character, or `eof()`. -/
abbrev IntType := Option Byte

/-- `traits_type::not_eof`. -/
def notEof : IntType → IntType
  | some c => some c
  | none => some 0

/-- `put_buffer_`, and the pointers `pbase()`, `pptr()` and `epptr()` into it. -/
structure PutArea where
  putBuffer : List Byte
  pbase : Nat
  pptr : Nat
  epptr : Nat
  pbase_le : pbase ≤ pptr
  pptr_le : pptr ≤ epptr
  epptr_le : epptr ≤ putBuffer.length
  deriving DecidableEq, Repr

namespace PutArea

/-- `setp` to the whole of the buffer. -/
def whole (putBuffer : List Byte) : PutArea where
  putBuffer := putBuffer
  pbase := 0
  pptr := 0
  epptr := putBuffer.length
  pbase_le := Nat.le_refl 0
  pptr_le := Nat.zero_le _
  epptr_le := Nat.le_refl _

/-- `setp(other.pptr(), other.epptr())` after the buffers were swapped. -/
def takeOver (other : PutArea) : PutArea where
  putBuffer := other.putBuffer
  pbase := other.pptr
  pptr := other.pptr
  epptr := other.epptr
  pbase_le := Nat.le_refl _
  pptr_le := other.pptr_le
  epptr_le := other.epptr_le

/-- `*pptr() = c; pbump(1)`. -/
def push (area : PutArea) (c : Byte) (room : area.pptr < area.epptr) : PutArea where
  putBuffer := area.putBuffer.set area.pptr c
  pbase := area.pbase
  pptr := area.pptr + 1
  epptr := area.epptr
  pbase_le := Nat.le_succ_of_le area.pbase_le
  pptr_le := room
  epptr_le := by simpa only [List.length_set] using area.epptr_le

/-- The characters from `pbase()` to `pptr()`. -/
def pending (area : PutArea) : List Byte :=
  (area.putBuffer.drop area.pbase).take (area.pptr - area.pbase)

@[simp] theorem pending_whole (putBuffer : List Byte) : (whole putBuffer).pending = [] := by
  simp [pending, whole]

@[simp] theorem pending_takeOver (area : PutArea) : area.takeOver.pending = [] := by
  simp [pending, takeOver]

/-- A character is put behind those that are there. -/
@[simp] theorem pending_push (area : PutArea) (c : Byte) (room : area.pptr < area.epptr) :
    (area.push c room).pending = area.pending ++ [c] := by
  have inside : area.pptr < area.putBuffer.length := Nat.lt_of_lt_of_le room area.epptr_le
  have front : area.pptr + 1 - area.pbase = area.pptr - area.pbase + 1 :=
    Nat.succ_sub area.pbase_le
  have place : area.pbase + (area.pptr - area.pbase) = area.pptr :=
    Nat.add_sub_cancel' area.pbase_le
  rw [pending, pending, push, front, List.take_add_one, List.getElem?_drop, place,
    List.getElem?_set_self inside, List.drop_set, if_neg (Nat.not_lt.mpr area.pbase_le),
    List.take_set_of_le (Nat.le_refl _)]
  rfl

end PutArea

/-- `socket_streambuf_buffers::buffer_size`. -/
def bufferSize : Nat := 512

/-- `max_expiry_time()`, in nanoseconds. -/
def maxExpiryTime : Int := 2 ^ 63 - 1

/-- `basic_socket_streambuf`, as far as its output goes. -/
structure SocketStreambuf where
  area : PutArea
  ec : ErrorCode
  expiryTime : Int
  deriving DecidableEq, Repr

/-- One pass of the loop in `overflow`: the clock, what `send` returns and
leaves in `ec_`, and what `poll_write` returns and leaves in `ec_`. -/
structure Attempt where
  now : Int
  bytes : Int
  sendEc : ErrorCode
  ready : Int
  pollEc : ErrorCode
  deriving DecidableEq, Repr

/-- What the owner of the connection is doing: nothing, after a call of
`overflow` or another function, or flushing for a call of `overflow`. -/
inductive Phase where
  | quiet (returned : Option (IntType × IntType))
  | flushing (outputBuffer : List Byte) (c : IntType)
  deriving DecidableEq, Repr

namespace SocketStreambuf

/-- `overflow` up to its loop. -/
def overflow (streambuf : SocketStreambuf) (c : IntType) : Phase :=
  if streambuf.area.putBuffer.isEmpty then
    match c with
    | none => .quiet (some (c, notEof c))
    | some ch => .flushing [ch] c
  else
    .flushing streambuf.area.pending c

/-- What a pass of the loop in `overflow` leaves. -/
structure Attempted where
  streambuf : SocketStreambuf
  phase : Phase
  accepted : List Byte

/-- One pass of the loop in `overflow`. No more is accepted than is offered. -/
def attempt (streambuf : SocketStreambuf) (outputBuffer : List Byte) (c : IntType)
    (answer : Attempt) : Attempted :=
  if streambuf.expiryTime < answer.now then
    ⟨{ streambuf with ec := .timedOut }, .quiet (some (c, none)), []⟩
  else if answer.bytes > 0 then
    ⟨{ streambuf with ec := answer.sendEc },
      .flushing (outputBuffer.drop answer.bytes.toNat) c, outputBuffer.take answer.bytes.toNat⟩
  else if answer.sendEc ≠ .wouldBlock ∧ answer.sendEc ≠ .tryAgain then
    ⟨{ streambuf with ec := answer.sendEc }, .quiet (some (c, none)), []⟩
  else if answer.ready < 0 then
    ⟨{ streambuf with ec := answer.pollEc }, .quiet (some (c, none)), []⟩
  else
    ⟨{ streambuf with ec := answer.pollEc }, .flushing outputBuffer c, []⟩

/-- `overflow` from its loop on: the put area, and the value returned. -/
def overflowed (area : PutArea) (c : IntType) : PutArea × IntType :=
  if nonempty : 0 < area.putBuffer.length then
    match c with
    | none => (.whole area.putBuffer, notEof c)
    | some ch => ((PutArea.whole area.putBuffer).push ch nonempty, c)
  else
    (area, c)

/-- A stream buffer that was moved to. -/
def movedTo (other : SocketStreambuf) : SocketStreambuf :=
  { other with area := other.area.takeOver }

/-- What is left of a stream buffer that was moved from. -/
def movedFrom (putBuffer : List Byte) : SocketStreambuf where
  area := .whole putBuffer
  ec := .success
  expiryTime := maxExpiryTime

/-- The move constructor: the new stream buffer, and the other one. -/
def moveConstruct (other : SocketStreambuf) : SocketStreambuf × SocketStreambuf :=
  (other.movedTo, movedFrom (List.replicate bufferSize 0))

/-- `put_buffer_.resize(buffer_size)`. -/
def resize (putBuffer : List Byte) : List Byte :=
  putBuffer.take bufferSize ++ List.replicate (bufferSize - putBuffer.length) 0

/-- The move assignment. What `close()` does before it concerns the connection
that is given up, and the pointers it leaves are overwritten. -/
def moveAssign (streambuf other : SocketStreambuf) : SocketStreambuf × SocketStreambuf :=
  (other.movedTo, movedFrom (resize streambuf.area.putBuffer))

end SocketStreambuf

/-- The stream buffers by name, the one that owns the connection and what it is
doing, the bytes accepted by `send`, and the characters successfully put. -/
structure Output where
  streambufs : Nat → SocketStreambuf
  owner : Nat
  phase : Phase
  sent : List Byte
  put : List Byte

/-- The steps: calls on the stream buffer that owns the connection and moves of
it to the stream buffer of a name; and anything done to another one. -/
inductive OutputAction where
  | sputc (c : Byte)
  | sync
  | attempt (answer : Attempt)
  | finish
  | expiresAt (time : Int)
  | moveConstruct (name : Nat)
  | moveAssign (name : Nat)
  | other (name : Nat) (streambuf : SocketStreambuf)
  deriving DecidableEq, Repr

namespace Output

/-- The stream buffer that owns the connection. -/
def current (state : Output) : SocketStreambuf := state.streambufs state.owner

/-- The owner of the connection is changed. -/
def store (state : Output) (streambuf : SocketStreambuf) : Output :=
  { state with streambufs := Function.update state.streambufs state.owner streambuf }

/-- A pair of stream buffers after a move to a name. -/
def moved (state : Output) (name : Nat) (both : SocketStreambuf × SocketStreambuf) : Output :=
  { state with
    streambufs := Function.update (Function.update state.streambufs state.owner both.2) name both.1
    owner := name }

/-- `sputc` of `std::streambuf`. -/
def sputc (state : Output) (c : Byte) : Output :=
  if room : state.current.area.pptr < state.current.area.epptr then
    { state.store { state.current with area := state.current.area.push c room } with
      phase := .quiet none
      put := state.put ++ [c] }
  else
    { state with phase := state.current.overflow (some c) }

/-- The steps that are calls of the user. -/
def call (state : Output) : OutputAction → Option Output
  | .sputc c => some (state.sputc c)
  | .sync => some { state with phase := state.current.overflow none }
  | .expiresAt time => some (state.store { state.current with expiryTime := time })
  | .moveConstruct name =>
      if name = state.owner then none
      else some (state.moved name state.current.moveConstruct)
  | .moveAssign name =>
      if name = state.owner then none
      else some (state.moved name ((state.streambufs name).moveAssign state.current))
  | _ => none

/-- The steps of a flush. -/
def flush (state : Output) (outputBuffer : List Byte) (c : IntType) :
    OutputAction → Option Output
  | .attempt answer =>
      if outputBuffer.isEmpty then none
      else
        let attempted := state.current.attempt outputBuffer c answer
        some { state.store attempted.streambuf with
          phase := attempted.phase
          sent := state.sent ++ attempted.accepted }
  | .finish =>
      if outputBuffer.isEmpty then
        let (area, returned) := SocketStreambuf.overflowed state.current.area c
        some { state.store { state.current with area := area } with
          phase := .quiet (some (c, returned))
          put := state.put ++ c.toList }
      else none
  | _ => none

/-- One step. -/
def step (state : Output) (action : OutputAction) : Option Output :=
  match action with
  | .other name streambuf =>
      if name = state.owner then none
      else some { state with streambufs := Function.update state.streambufs name streambuf }
  | _ =>
      match state.phase with
      | .quiet _ => state.call action
      | .flushing outputBuffer c => state.flush outputBuffer c action

end Output

/-- The machine: a connection has just been made, with a buffer to collect
characters in. -/
def output : Transition.Machine Output OutputAction where
  initial state := state.current.area.putBuffer ≠ [] ∧
    state.current.area = .whole state.current.area.putBuffer ∧
    state.phase = .quiet none ∧ state.sent = [] ∧ state.put = []
  step := Output.step

/-! ## When output is lost or sent twice -/

namespace Output

/-- What has not been sent of the characters put: during a flush, what is left of
it. -/
def unsent (state : Output) : List Byte :=
  match state.phase with
  | .quiet _ => state.current.area.pending
  | .flushing outputBuffer _ => outputBuffer

/-- Output is neither lost nor duplicated nor reordered: what was sent and what
was not are the characters put, in order; the put area holds what was not sent;
and after a `sync` that succeeded everything was sent. -/
structure Lossless (state : Output) : Prop where
  accounted : state.sent ++ state.unsent = state.put
  held : state.unsent <:+ state.current.area.pending
  synced : ∀ returned, state.phase = .quiet (some (none, some returned)) →
    state.sent = state.put

/-- The stream buffer is not unbuffered. -/
def Buffered (state : Output) : Prop := 0 < state.current.area.putBuffer.length

end Output

/-- The pass ends the flush: the expiry time is over, `send` failed for good, or
the wait for the socket failed. -/
def Attempt.fails (answer : Attempt) (expiryTime : Int) : Bool :=
  decide (expiryTime < answer.now) || decide (answer.bytes ≤ 0) &&
    (decide (answer.sendEc ≠ .wouldBlock ∧ answer.sendEc ≠ .tryAgain) || decide (answer.ready < 0))

/-- A flush fails only before anything of it was accepted, and moves are made
only with an empty put area. -/
def Output.Whole (state : Output) : OutputAction → Prop
  | .attempt answer => answer.fails state.current.expiryTime = true →
      state.unsent = state.current.area.pending
  | .moveConstruct _ | .moveAssign _ => state.current.area.pending = []
  | _ => True

instance Output.Whole.decidable (state : Output) :
    (action : OutputAction) → Decidable (state.Whole action)
  | .attempt answer => inferInstanceAs (Decidable
      (answer.fails state.current.expiryTime = true → state.unsent = state.current.area.pending))
  | .moveConstruct _ | .moveAssign _ =>
      inferInstanceAs (Decidable (state.current.area.pending = []))
  | .sputc _ | .sync | .finish | .expiresAt _ | .other _ _ => isTrue trivial

namespace SocketStreambuf

theorem attempt_area (streambuf : SocketStreambuf) (outputBuffer : List Byte) (c : IntType)
    (answer : Attempt) :
    (streambuf.attempt outputBuffer c answer).streambuf.area = streambuf.area := by
  unfold attempt
  split_ifs <;> rfl

/-- A pass that fails returns `eof()` and has sent nothing. -/
theorem attempt_of_fails {streambuf : SocketStreambuf} {answer : Attempt}
    (fails : answer.fails streambuf.expiryTime = true) (outputBuffer : List Byte) (c : IntType) :
    (streambuf.attempt outputBuffer c answer).phase = .quiet (some (c, none)) ∧
      (streambuf.attempt outputBuffer c answer).accepted = [] := by
  simp only [Attempt.fails, Bool.or_eq_true, Bool.and_eq_true, decide_eq_true_eq] at fails
  unfold attempt
  split_ifs with expired sent failed unready
  · exact ⟨rfl, rfl⟩
  · omega
  · exact ⟨rfl, rfl⟩
  · exact ⟨rfl, rfl⟩
  · tauto

/-- A pass that does not fail splits what is to be sent. -/
theorem attempt_of_not_fails {streambuf : SocketStreambuf} {answer : Attempt}
    (proceeds : answer.fails streambuf.expiryTime = false) (outputBuffer : List Byte)
    (c : IntType) :
    ∃ rest, (streambuf.attempt outputBuffer c answer).phase = .flushing rest c ∧
      (streambuf.attempt outputBuffer c answer).accepted ++ rest = outputBuffer := by
  simp only [Attempt.fails, Bool.or_eq_false_iff, Bool.and_eq_false_iff,
    decide_eq_false_iff_not] at proceeds
  unfold attempt
  split_ifs with expired sent failed unready
  · exact absurd expired proceeds.1
  · exact ⟨_, rfl, List.take_append_drop _ _⟩
  · obtain ⟨-, positive | ⟨retried, -⟩⟩ := proceeds
    · omega
    · exact absurd failed retried
  · obtain ⟨-, positive | ⟨-, ready⟩⟩ := proceeds
    · omega
    · exact absurd unready ready
  · exact ⟨_, rfl, rfl⟩

/-- After a flush the put area holds the character it made room for. -/
theorem pending_overflowed {area : PutArea} (buffered : 0 < area.putBuffer.length) (c : IntType) :
    (overflowed area c).1.pending = c.toList ∧
      0 < (overflowed area c).1.putBuffer.length := by
  rw [overflowed, dif_pos buffered]
  cases c with
  | none => exact ⟨PutArea.pending_whole _, buffered⟩
  | some ch =>
      refine ⟨(PutArea.pending_push _ ch _).trans (by simp), ?_⟩
      simpa [PutArea.push, PutArea.whole] using buffered

end SocketStreambuf

namespace Output

@[simp] theorem current_store (state : Output) (streambuf : SocketStreambuf) :
    (state.store streambuf).current = streambuf := by
  simp [current, store]

@[simp] theorem current_moved (state : Output) (name : Nat)
    (both : SocketStreambuf × SocketStreambuf) : (state.moved name both).current = both.1 := by
  simp [current, moved]

variable {state : Output}

theorem unsent_of_quiet {returned : Option (IntType × IntType)}
    (quiet : state.phase = .quiet returned) : state.unsent = state.current.area.pending := by
  rw [unsent, quiet]

theorem unsent_of_flushing {outputBuffer : List Byte} {c : IntType}
    (flushing : state.phase = .flushing outputBuffer c) : state.unsent = outputBuffer := by
  rw [unsent, flushing]

/-- Only the put area of the owner counts. -/
theorem Lossless.congr {next : Output} (lossless : state.Lossless)
    (phase : next.phase = state.phase) (sent : next.sent = state.sent)
    (put : next.put = state.put) (area : next.current.area = state.current.area) :
    next.Lossless := by
  have unsent : next.unsent = state.unsent := by rw [Output.unsent, Output.unsent, phase, area]
  refine ⟨?_, ?_, ?_⟩
  · rw [sent, put, unsent, lossless.accounted]
  · rw [unsent, area]
    exact lossless.held
  · rw [phase, sent, put]
    exact lossless.synced

theorem lossless_quiet_iff {returned : Option (IntType × IntType)}
    (quiet : state.phase = .quiet returned) :
    state.Lossless ↔ state.sent ++ state.current.area.pending = state.put ∧
      ∀ result, returned = some (none, some result) → state.sent = state.put := by
  constructor
  · intro lossless
    refine ⟨unsent_of_quiet quiet ▸ lossless.accounted, fun result succeeded => ?_⟩
    exact lossless.synced result (by rw [quiet, succeeded])
  · rintro ⟨accounted, synced⟩
    refine ⟨(unsent_of_quiet quiet).symm ▸ accounted,
      (unsent_of_quiet quiet).symm ▸ List.suffix_refl _, fun result same => ?_⟩
    rw [quiet] at same
    cases same
    exact synced result rfl

theorem lossless_flushing_iff {outputBuffer : List Byte} {c : IntType}
    (flushing : state.phase = .flushing outputBuffer c) :
    state.Lossless ↔ state.sent ++ outputBuffer = state.put ∧
      outputBuffer <:+ state.current.area.pending := by
  constructor
  · intro lossless
    exact ⟨unsent_of_flushing flushing ▸ lossless.accounted,
      unsent_of_flushing flushing ▸ lossless.held⟩
  · rintro ⟨accounted, held⟩
    refine ⟨(unsent_of_flushing flushing).symm ▸ accounted,
      (unsent_of_flushing flushing).symm ▸ held, fun result same => ?_⟩
    rw [flushing] at same
    cases same

/-- With a buffer, a flush begins with all of the put area. -/
theorem overflow_phase (buffered : state.Buffered) (c : IntType) :
    state.current.overflow c = .flushing state.current.area.pending c := by
  have nonempty : ¬ state.current.area.putBuffer.isEmpty = true := by
    simpa using List.ne_nil_of_length_pos buffered
  unfold SocketStreambuf.overflow
  rw [if_neg nonempty]

section

variable {returned : Option (IntType × IntType)} {outputBuffer : List Byte} {c : IntType}

/-- A flush that begins leaves what there is to send where it is. -/
theorem Lossless.begin (lossless : state.Lossless) (buffered : state.Buffered)
    (quiet : state.phase = .quiet returned) (c : IntType) :
    Lossless { state with phase := state.current.overflow c } := by
  have accounted := ((lossless_quiet_iff quiet).mp lossless).1
  exact (lossless_flushing_iff (overflow_phase buffered c)).mpr ⟨accounted, List.suffix_refl _⟩

theorem Lossless.sputc (lossless : state.Lossless) (buffered : state.Buffered)
    (quiet : state.phase = .quiet returned) (c : Byte) : (state.sputc c).Lossless := by
  unfold Output.sputc
  split_ifs with room
  · have accounted := ((lossless_quiet_iff quiet).mp lossless).1
    refine (lossless_quiet_iff rfl).mpr ⟨?_, fun _ impossible => by cases impossible⟩
    change state.sent ++ (state.store _).current.area.pending = state.put ++ [c]
    rw [current_store, PutArea.pending_push, ← List.append_assoc, accounted]
  · exact lossless.begin buffered quiet (some c)

/-- A flush that ends has sent everything and makes room for the character it was
called with. -/
theorem Lossless.finish (lossless : state.Lossless) (buffered : state.Buffered)
    (flushing : state.phase = .flushing [] c) :
    Lossless { state.store { state.current with
        area := (SocketStreambuf.overflowed state.current.area c).1 } with
      phase := .quiet (some (c, (SocketStreambuf.overflowed state.current.area c).2))
      put := state.put ++ c.toList } := by
  have accounted := ((lossless_flushing_iff flushing).mp lossless).1
  rw [List.append_nil] at accounted
  have pending := (SocketStreambuf.pending_overflowed buffered c).1
  refine (lossless_quiet_iff rfl).mpr ⟨?_, ?_⟩
  · change state.sent ++ (state.store _).current.area.pending = state.put ++ c.toList
    rw [current_store, pending, accounted]
  · rintro result succeeded
    cases (Prod.mk.inj (Option.some.inj succeeded)).1
    exact accounted.trans (List.append_nil _).symm

/-- A pass keeps the output together, unless it fails after something of the put
area was accepted. -/
theorem lossless_attempt_iff (lossless : state.Lossless)
    (flushing : state.phase = .flushing outputBuffer c) (answer : Attempt) :
    Lossless { state.store (state.current.attempt outputBuffer c answer).streambuf with
      phase := (state.current.attempt outputBuffer c answer).phase
      sent := state.sent ++ (state.current.attempt outputBuffer c answer).accepted } ↔
    state.Whole (.attempt answer) := by
  obtain ⟨accounted, held⟩ := (lossless_flushing_iff flushing).mp lossless
  have area := state.current.attempt_area outputBuffer c answer
  rw [Whole, unsent_of_flushing flushing]
  cases failing : answer.fails state.current.expiryTime with
  | true =>
      obtain ⟨phase, accepted⟩ := SocketStreambuf.attempt_of_fails failing outputBuffer c
      rw [lossless_quiet_iff phase, accepted, List.append_nil]
      change state.sent ++ (state.store _).current.area.pending = state.put ∧ _ ↔ _
      rw [current_store, area, ← accounted, List.append_cancel_left_eq]
      constructor
      · exact fun same _ => same.1.symm
      · exact fun whole => ⟨(whole rfl).symm, fun _ impossible => by cases impossible⟩
  | false =>
      obtain ⟨rest, phase, split⟩ := SocketStreambuf.attempt_of_not_fails failing outputBuffer c
      rw [lossless_flushing_iff phase]
      refine iff_of_true ⟨?_, ?_⟩ (fun impossible => by cases impossible)
      · rw [List.append_assoc, split]
        exact accounted
      · change rest <:+ (state.store _).current.area.pending
        rw [current_store, area]
        exact (split ▸ List.suffix_append _ _).trans held

/-- A move loses what is in the put area. -/
theorem lossless_moved_iff (lossless : state.Lossless) (quiet : state.phase = .quiet returned)
    (name : Nat) (other : SocketStreambuf) :
    (state.moved name (state.current.movedTo, other)).Lossless ↔
      state.current.area.pending = [] := by
  obtain ⟨accounted, synced⟩ := (lossless_quiet_iff quiet).mp lossless
  have still : (state.moved name (state.current.movedTo, other)).phase = .quiet returned := quiet
  rw [lossless_quiet_iff still, current_moved]
  change state.sent ++ state.current.area.takeOver.pending = state.put ∧ _ ↔ _
  rw [PutArea.pending_takeOver]
  rw [← accounted, List.append_cancel_left_eq]
  constructor
  · exact fun same => same.1.symm
  · exact fun empty => ⟨empty.symm, synced⟩

end

/-- What is done to another stream buffer is not seen by the owner. -/
theorem current_other {name : Nat} (other : name ≠ state.owner) (streambuf : SocketStreambuf) :
    Output.current { state with streambufs := Function.update state.streambufs name streambuf } =
      state.current := by
  simp [current, Function.update_of_ne other.symm]

/-- A step is something done to another stream buffer, a call of the user or a
step of a flush. -/
theorem step_cases {action : OutputAction} {next : Output}
    (stepped : state.step action = some next) :
    (∃ name streambuf, action = .other name streambuf ∧ name ≠ state.owner ∧
      next = { state with streambufs := Function.update state.streambufs name streambuf }) ∨
    (∃ returned, state.phase = .quiet returned ∧ state.call action = some next) ∨
    (∃ outputBuffer c, state.phase = .flushing outputBuffer c ∧
      state.flush outputBuffer c action = some next) := by
  unfold step at stepped
  split at stepped
  · split_ifs at stepped with own
    cases stepped
    exact .inl ⟨_, _, rfl, own, rfl⟩
  · cases phase : state.phase with
    | quiet returned =>
        rw [phase] at stepped
        exact .inr (.inl ⟨returned, rfl, stepped⟩)
    | flushing outputBuffer c =>
        rw [phase] at stepped
        exact .inr (.inr ⟨outputBuffer, c, rfl, stepped⟩)

/-- The calls of the user. Both moves give the new owner what `movedTo` makes of the current
stream buffer. -/
theorem call_cases {action : OutputAction} {next : Output}
    (called : state.call action = some next) :
    (∃ c, action = .sputc c ∧ next = state.sputc c) ∨
    (action = .sync ∧ next = { state with phase := state.current.overflow none }) ∨
    (∃ time, action = .expiresAt time ∧
      next = state.store { state.current with expiryTime := time }) ∨
    ∃ name other, (action = .moveConstruct name ∨ action = .moveAssign name) ∧
      next = state.moved name (state.current.movedTo, other) := by
  cases action with
  | sputc c =>
      cases called
      exact .inl ⟨c, rfl, rfl⟩
  | sync =>
      cases called
      exact .inr (.inl ⟨rfl, rfl⟩)
  | expiresAt time =>
      cases called
      exact .inr (.inr (.inl ⟨time, rfl, rfl⟩))
  | moveConstruct name =>
      unfold call at called
      dsimp only at called
      split at called
      · cases called
      · cases called
        exact .inr (.inr (.inr ⟨name, _, .inl rfl, rfl⟩))
  | moveAssign name =>
      unfold call at called
      dsimp only at called
      split at called
      · cases called
      · cases called
        exact .inr (.inr (.inr ⟨name, _, .inr rfl, rfl⟩))
  | attempt answer => cases called
  | finish => cases called
  | other name streambuf => cases called

/-- The steps of a flush. -/
theorem flush_cases {outputBuffer : List Byte} {c : IntType} {action : OutputAction}
    {next : Output} (flushed : state.flush outputBuffer c action = some next) :
    (∃ answer, action = .attempt answer ∧
      next = { state.store (state.current.attempt outputBuffer c answer).streambuf with
        phase := (state.current.attempt outputBuffer c answer).phase
        sent := state.sent ++ (state.current.attempt outputBuffer c answer).accepted }) ∨
    (action = .finish ∧ outputBuffer = [] ∧
      next = { state.store { state.current with
          area := (SocketStreambuf.overflowed state.current.area c).1 } with
        phase := .quiet (some (c, (SocketStreambuf.overflowed state.current.area c).2))
        put := state.put ++ c.toList }) := by
  cases action with
  | attempt answer =>
      simp only [flush] at flushed
      split_ifs at flushed
      cases flushed
      exact .inl ⟨answer, rfl, rfl⟩
  | finish =>
      simp only [flush] at flushed
      split_ifs at flushed with done
      cases flushed
      exact .inr ⟨rfl, List.isEmpty_iff.mp done, rfl⟩
  | sputc c => cases flushed
  | sync => cases flushed
  | expiresAt time => cases flushed
  | moveConstruct name => cases flushed
  | moveAssign name => cases flushed
  | other name streambuf => cases flushed

theorem lossless_call_iff {returned : Option (IntType × IntType)} {action : OutputAction}
    {next : Output} (buffered : state.Buffered) (lossless : state.Lossless)
    (quiet : state.phase = .quiet returned) (called : state.call action = some next) :
    next.Lossless ↔ state.Whole action := by
  rcases call_cases called with
    ⟨c, rfl, rfl⟩ | ⟨rfl, rfl⟩ | ⟨time, rfl, rfl⟩ | ⟨name, other, rfl | rfl, rfl⟩
  · exact iff_of_true (lossless.sputc buffered quiet c) trivial
  · exact iff_of_true (lossless.begin buffered quiet none) trivial
  · refine iff_of_true (lossless.congr rfl rfl rfl ?_) trivial
    rw [current_store]
  · exact lossless_moved_iff lossless quiet name other
  · exact lossless_moved_iff lossless quiet name other

theorem lossless_flush_iff {outputBuffer : List Byte} {c : IntType} {action : OutputAction}
    {next : Output} (buffered : state.Buffered) (lossless : state.Lossless)
    (flushing : state.phase = .flushing outputBuffer c)
    (flushed : state.flush outputBuffer c action = some next) :
    next.Lossless ↔ state.Whole action := by
  rcases flush_cases flushed with ⟨answer, rfl, rfl⟩ | ⟨rfl, rfl, rfl⟩
  · exact lossless_attempt_iff lossless flushing answer
  · exact iff_of_true (lossless.finish buffered flushing) trivial

/-- **Step.** Output is still neither lost nor duplicated exactly when the step is
one of those allowed. -/
theorem lossless_step_iff {action : OutputAction} {next : Output} (buffered : state.Buffered)
    (lossless : state.Lossless) (stepped : state.step action = some next) :
    next.Lossless ↔ state.Whole action := by
  obtain ⟨name, streambuf, rfl, other, rfl⟩ | ⟨returned, quiet, called⟩ |
    ⟨outputBuffer, c, flushing, flushed⟩ := step_cases stepped
  · refine iff_of_true (lossless.congr rfl rfl rfl ?_) trivial
    rw [current_other other]
  · exact lossless_call_iff buffered lossless quiet called
  · exact lossless_flush_iff buffered lossless flushing flushed

/-- A buffer stays one. -/
theorem Buffered.step {action : OutputAction} {next : Output} (buffered : state.Buffered)
    (stepped : state.step action = some next) : next.Buffered := by
  obtain ⟨name, streambuf, rfl, other, rfl⟩ | ⟨returned, -, called⟩ |
    ⟨outputBuffer, c, -, flushed⟩ := step_cases stepped
  · rw [Buffered, current_other other]
    exact buffered
  · rcases call_cases called with
      ⟨c, rfl, rfl⟩ | ⟨rfl, rfl⟩ | ⟨time, rfl, rfl⟩ | ⟨name, other, -, rfl⟩
    · unfold Output.sputc
      split_ifs with room
      · change 0 < (state.store _).current.area.putBuffer.length
        rw [current_store]
        exact Nat.lt_of_lt_of_eq buffered List.length_set.symm
      · exact buffered
    · exact buffered
    · rw [Buffered, current_store]
      exact buffered
    · rw [Buffered, current_moved]
      exact buffered
  · rcases flush_cases flushed with ⟨answer, rfl, rfl⟩ | ⟨rfl, -, rfl⟩
    · change 0 < (state.store _).current.area.putBuffer.length
      rw [current_store, SocketStreambuf.attempt_area]
      exact buffered
    · change 0 < (state.store _).current.area.putBuffer.length
      rw [current_store]
      exact (SocketStreambuf.pending_overflowed buffered c).2

end Output

/-- **Output of a socket's stream buffer.** Along a run, what was sent and what is
left to send are always the characters put, in order, exactly when no flush
fails after a part of it was accepted and no move is made while the put area
holds characters. -/
theorem streambuf_lossless_iff {state final : Output} (connected : output.initial state)
    (actions : List OutputAction) (ran : output.run state actions = some final) :
    output.Always Output.Lossless state actions ↔
      output.Permitted Output.Whole state actions := by
  obtain ⟨nonempty, area, quiet, sent, put⟩ := connected
  refine Transition.Machine.always_iff_permitted (fun _ _ _ buffered _ => Output.Buffered.step buffered)
    (fun _ _ _ => Output.lossless_step_iff) actions ran ?_ ?_
  · exact List.length_pos_of_ne_nil nonempty
  · refine (Output.lossless_quiet_iff quiet).mpr ⟨?_, fun _ impossible => by cases impossible⟩
    rw [sent, put, area, PutArea.pending_whole]
    rfl

/-- A connection that has just been made. -/
def connectedOutput : Output where
  streambufs _ := SocketStreambuf.movedFrom (List.replicate bufferSize 0)
  owner := 0
  phase := .quiet none
  sent := []
  put := []

/-- A pass in which `send` accepts so many bytes. -/
def accepts (bytes : Int) : Attempt := ⟨0, bytes, .success, 0, .success⟩

/-- A pass after the expiry time of the tests. -/
def expires : Attempt := ⟨1, 0, .success, 0, .success⟩

/-- A flush in two pieces, with a wait in between, after a move that had nothing
to lose. -/
theorem streambuf_lossless_iff_twoPieces :
    output.Always Output.Lossless connectedOutput [.moveConstruct 1, .sputc 1, .sputc 2, .sputc 3,
      .sync, .attempt (accepts 1), .attempt ⟨0, -1, .wouldBlock, 1, .success⟩,
      .attempt (accepts 2), .finish] := by
  obtain ⟨final, ran, -⟩ : ∃ final, output.run connectedOutput [.moveConstruct 1, .sputc 1,
      .sputc 2, .sputc 3, .sync, .attempt (accepts 1),
      .attempt ⟨0, -1, .wouldBlock, 1, .success⟩, .attempt (accepts 2), .finish] = some final ∧
      decide (final.sent = [1, 2, 3]) = true :=
    Transition.Machine.exists_of_run (by decide +kernel)
  exact (streambuf_lossless_iff ⟨by decide, rfl, rfl, rfl, rfl⟩ _ ran).mpr (by decide +kernel)

/-- A flush that expires after its first byte sends that byte again when it is
repeated; and what is in the put area when the stream buffer is moved is never
sent, though `sync` succeeds. -/
theorem streambuf_duplicates_and_loses :
    (∃ final, output.run connectedOutput [.sputc 1, .sputc 2, .expiresAt 0, .sync,
        .attempt (accepts 1), .attempt expires, .expiresAt 9, .sync, .attempt (accepts 2),
        .finish] = some final ∧ final.sent = [1, 1, 2] ∧ final.put = [1, 2]) ∧
    (∃ final, output.run connectedOutput [.sputc 1, .moveConstruct 1, .sync, .finish] =
        some final ∧ final.phase = .quiet (some (none, some 0)) ∧ final.sent = [] ∧
        final.put = [1]) := by
  constructor
  · obtain ⟨final, ran, passed⟩ : ∃ final, output.run connectedOutput [.sputc 1, .sputc 2,
        .expiresAt 0, .sync, .attempt (accepts 1), .attempt expires, .expiresAt 9, .sync,
        .attempt (accepts 2), .finish] = some final ∧
        decide (final.sent = [1, 1, 2] ∧ final.put = [1, 2]) = true :=
      Transition.Machine.exists_of_run (by decide +kernel)
    exact ⟨final, ran, of_decide_eq_true passed⟩
  · obtain ⟨final, ran, passed⟩ : ∃ final, output.run connectedOutput [.sputc 1,
        .moveConstruct 1, .sync, .finish] = some final ∧
        decide (final.phase = .quiet (some (none, some 0)) ∧ final.sent = [] ∧
          final.put = [1]) = true :=
      Transition.Machine.exists_of_run (by decide +kernel)
    exact ⟨final, ran, of_decide_eq_true passed⟩

end Asio.Network
