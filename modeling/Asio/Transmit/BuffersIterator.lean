import Asio.Lib.Loop
import Asio.Lib.Transition
import Asio.Transmit.Buffer

/-! # Iterating over the bytes of a buffer sequence

`buffers_iterator`: a position in a sequence of buffers, some of which may be
empty. The iterators of the sequence are places in the list of its buffers. An
operation is none when an assertion fails, a place outside the list is read or a
loop goes astray.
-/

namespace Asio.Transmit

/-- `buffers_iterator`. -/
structure BuffersIterator where
  currentBuffer : Buffer := ⟨0, 0⟩
  currentBufferPosition : Nat := 0
  begin_ : Nat
  current : Nat
  end_ : Nat
  position : Nat := 0
  deriving DecidableEq, Repr

namespace BuffersIterator

variable (buffers : List Buffer)

/-- A pass of the loops that look for the next non-empty buffer. -/
def nextBody (iter : BuffersIterator) : Loop.Pass BuffersIterator BuffersIterator :=
  if iter.current = iter.end_ then .leave iter
  else match buffers[iter.current]? with
    | none => .blocked
    | some buffer =>
        let iter := { iter with currentBuffer := buffer }
        if 0 < buffer.size then .leave iter
        else .again { iter with current := iter.current + 1 }

/-- `begin`. -/
def buffersBegin : Option BuffersIterator :=
  Loop.evaluate (nextBody buffers) (buffers.length + 1)
    { begin_ := 0, current := 0, end_ := buffers.length }

/-- A pass of the loop of `end`. -/
def endBody (iter : BuffersIterator) : Loop.Pass BuffersIterator BuffersIterator :=
  if iter.current = iter.end_ then .leave iter
  else match buffers[iter.current]? with
    | none => .blocked
    | some buffer =>
        .again { iter with
          position := iter.position + buffer.size
          current := iter.current + 1 }

/-- `end`. -/
def buffersEnd : Option BuffersIterator :=
  Loop.evaluate (endBody buffers) (buffers.length + 1)
    { begin_ := 0, current := 0, end_ := buffers.length }

/-- `dereference`: the address of the byte. -/
def dereference (iter : BuffersIterator) : Nat :=
  iter.currentBuffer.data + iter.currentBufferPosition

/-- `equal`. -/
def equal (iter other : BuffersIterator) : Bool := iter.position == other.position

/-- `increment`. -/
def increment (iter : BuffersIterator) : Option BuffersIterator :=
  if iter.current = iter.end_ then none
  else
    let iter := { iter with
      position := iter.position + 1
      currentBufferPosition := iter.currentBufferPosition + 1 }
    if iter.currentBufferPosition ≠ iter.currentBuffer.size then some iter
    else Loop.evaluate (nextBody buffers) (buffers.length + 1)
      { iter with current := iter.current + 1, currentBufferPosition := 0 }

/-- A pass of the loops that look for the previous non-empty buffer. -/
def previousBody (begin_ iter : Nat) : Loop.Pass Nat (Option (Nat × Buffer)) :=
  if iter = begin_ then .leave none
  else match buffers[iter - 1]? with
    | none => .blocked
    | some buffer => if 0 < buffer.size then .leave (some (iter - 1, buffer)) else .again (iter - 1)

/-- The loop: the place of the buffer and the buffer, if there is one. -/
def previous (iter : BuffersIterator) : Option (Option (Nat × Buffer)) :=
  Loop.evaluate (previousBody buffers iter.begin_) (buffers.length + 1) iter.current

/-- `decrement`. -/
def decrement (iter : BuffersIterator) : Option BuffersIterator :=
  if iter.position = 0 then none
  else
    let iter := { iter with position := iter.position - 1 }
    if iter.currentBufferPosition ≠ 0 then
      some { iter with currentBufferPosition := iter.currentBufferPosition - 1 }
    else match iter.previous buffers with
      | none => none
      | some none => some iter
      | some (some (current, buffer)) => some { iter with
          current
          currentBuffer := buffer
          currentBufferPosition := buffer.size - 1 }

/-- A pass of the loop of `advance` for a positive distance, with what is left of it. -/
def forwardBody (state : BuffersIterator × Nat) :
    Loop.Pass (BuffersIterator × Nat) BuffersIterator :=
  let (iter, n) := state
  let balance := iter.currentBuffer.size - iter.currentBufferPosition
  if balance > n then
    .leave { iter with
      position := iter.position + n
      currentBufferPosition := iter.currentBufferPosition + n }
  else
    let iter := { iter with position := iter.position + balance, current := iter.current + 1 }
    if iter.current = iter.end_ then
      if n - balance = 0 then
        .leave { iter with currentBuffer := ⟨0, 0⟩, currentBufferPosition := 0 }
      else .blocked
    else match buffers[iter.current]? with
      | none => .blocked
      | some buffer =>
          .again ({ iter with currentBuffer := buffer, currentBufferPosition := 0 }, n - balance)

/-- A pass of the loop of `advance` for a negative distance: `absN` is left of it. -/
def backwardBody (state : BuffersIterator × Nat) :
    Loop.Pass (BuffersIterator × Nat) BuffersIterator :=
  let (iter, absN) := state
  if iter.currentBufferPosition ≥ absN then
    .leave { iter with
      position := iter.position - absN
      currentBufferPosition := iter.currentBufferPosition - absN }
  else
    let absN := absN - iter.currentBufferPosition
    let iter := { iter with position := iter.position - iter.currentBufferPosition }
    if iter.current = iter.begin_ then
      if absN = 0 then .leave { iter with currentBufferPosition := 0 } else .blocked
    else match iter.previous buffers with
      | none => .blocked
      | some none => .again (iter, absN)
      | some (some (current, buffer)) => .again ({ iter with
          current
          currentBuffer := buffer
          currentBufferPosition := buffer.size }, absN)

/-- `advance`. -/
def advance (iter : BuffersIterator) (n : Int) : Option BuffersIterator :=
  if 0 < n then
    if iter.current = iter.end_ then none
    else Loop.evaluate (forwardBody buffers) (buffers.length + 1) (iter, n.toNat)
  else if n < 0 then
    if iter.position ≥ (-n).toNat then
      Loop.evaluate (backwardBody buffers) (buffers.length + 1) (iter, (-n).toNat)
    else none
  else some iter

/-- `distance_to`. -/
def distanceTo (iter other : BuffersIterator) : Int := (other.position : Int) - iter.position

/-- `operator-` of two iterators. -/
def difference (iter other : BuffersIterator) : Int := other.distanceTo iter

/-- `operator!=`. -/
def notEqual (iter other : BuffersIterator) : Bool := !iter.equal other

/-- `operator<`. -/
def less (iter other : BuffersIterator) : Bool := decide (iter.distanceTo other > 0)

/-- `operator<=`. -/
def lessEqual (iter other : BuffersIterator) : Bool := !other.less iter

/-- `operator>`. -/
def greater (iter other : BuffersIterator) : Bool := other.less iter

/-- `operator>=`. -/
def greaterEqual (iter other : BuffersIterator) : Bool := !iter.less other

end BuffersIterator

/-- `++`, `--`, `+ n` and `- n`, the last two also as assignments. -/
inductive Move where
  | increment
  | decrement
  | add (n : Int)
  | subtract (n : Int)
  deriving DecidableEq, Repr

/-- By how much a move changes the index. -/
def Move.displacement : Move → Int
  | .increment => 1
  | .decrement => -1
  | .add n => n
  | .subtract n => -n

/-- The iterator after a move. -/
def BuffersIterator.move (buffers : List Buffer) (iter : BuffersIterator) :
    Move → Option BuffersIterator
  | .increment => iter.increment buffers
  | .decrement => iter.decrement buffers
  | .add n => iter.advance buffers n
  | .subtract n => iter.advance buffers (-n)

end Asio.Transmit
