import Asio.Lib.CString

/-! # The messages of the chat

Four bytes in front of a message tell how long its body is, as `atoi` reads them. The server hands
the bytes of a message on as they came, header and all, so that whoever reads them finds the same
bodies, one behind the other.
-/

namespace Asio.Chat

open CString

/-- `header_length`. -/
def headerLength : Nat := 4

/-- `max_body_length`. -/
def maxBodyLength : Nat := 512

/-- The `chat_message`. What the array holds at first is anything. -/
structure ChatMessage where
  data : Text
  bodyLength : Nat
  deriving DecidableEq

/-- The `size_t` that the number in a header is converted to. `strncat` copies no more of it than
stands before a NUL. -/
def headerNumber (header : Text) : Nat := (BitVec.ofInt 64 (atoi (terminated header))).toNat

namespace ChatMessage

/-- The constructor. -/
def constructed (data : Text) : ChatMessage := ⟨data, 0⟩

variable (msg : ChatMessage)

def length : Nat := headerLength + msg.bodyLength

/-- The bytes that are sent, those of `buffer(data(), length())`. -/
def bytes : Text := msg.data.take msg.length

/-- The bytes of `buffer(body(), body_length())`. -/
def body : Text := (msg.data.drop headerLength).take msg.bodyLength

/-- `decode_header`, and whether the message may be read on. -/
def decodeHeader : ChatMessage × Bool :=
  let bodyLength := headerNumber (msg.data.take headerLength)
  if maxBodyLength < bodyLength then ({ msg with bodyLength := 0 }, false)
  else ({ msg with bodyLength }, true)

/-- The setter `body_length`. -/
def setBodyLength (newLength : Nat) : ChatMessage :=
  if maxBodyLength < newLength then { msg with bodyLength := maxBodyLength }
  else { msg with bodyLength := newLength }

/-- `encode_header`, which prints the length by `"%4d"`. -/
def encodeHeader : ChatMessage :=
  let digits := numeral msg.bodyLength
  let header := List.replicate (headerLength - digits.length) 0x20#8 ++ digits
  { msg with data := header.take headerLength ++ msg.data.drop headerLength }

/-- Bytes are read to a place in the array. -/
def readAt (offset : Nat) (text : Text) : ChatMessage :=
  { msg with data := msg.data.take offset ++ text ++ msg.data.drop (offset + text.length) }

/-- The message that the client makes of a line. -/
def ofLine (data line : Text) : ChatMessage :=
  let msg := (constructed data).setBodyLength line.length
  (msg.readAt headerLength (line.take msg.bodyLength)).encodeHeader

/-- A message whose header says how long it is, and that is all there. -/
structure WellFormed (msg : ChatMessage) : Prop where
  whole : msg.length ≤ msg.data.length
  header : headerNumber (msg.data.take headerLength) = msg.bodyLength
  small : msg.bodyLength ≤ maxBodyLength

end ChatMessage

/-- The bytes of some messages, one behind the other. -/
def bytesOf (msgs : List ChatMessage) : Text := msgs.flatMap ChatMessage.bytes

/-- The bodies that the client prints of the bytes it gets, `do_read_header` and `do_read_body` in
turn until bytes are missing or a header is refused. -/
def bodiesOf (text : Text) : List Text :=
  if text.length < headerLength then []
  else
    let bodyLength := headerNumber (text.take headerLength)
    if maxBodyLength < bodyLength then []
    else if text.length < headerLength + bodyLength then []
    else (text.drop headerLength).take bodyLength ::
      bodiesOf (text.drop (headerLength + bodyLength))
termination_by text.length
decreasing_by
  rw [List.length_drop]
  have positive : 0 < headerLength := Nat.zero_lt_succ 3
  omega

/-! ## What is read of the bytes -/

theorem bodiesOf_short {text : Text} (short : text.length < headerLength) : bodiesOf text = [] := by
  rw [bodiesOf, if_pos short]

theorem bodiesOf_refused {text : Text}
    (refused : maxBodyLength < headerNumber (text.take headerLength)) : bodiesOf text = [] := by
  rw [bodiesOf]
  split
  · rfl
  · exact if_pos refused

/-- A body of which bytes are missing is not printed. -/
theorem bodiesOf_missing {text : Text}
    (missing : text.length < headerLength + headerNumber (text.take headerLength)) :
    bodiesOf text = [] := by
  rw [bodiesOf]
  dsimp only
  rw [if_pos missing]
  split
  · rfl
  · exact ite_self _

theorem ChatMessage.take_bytes {msg : ChatMessage} {count : Nat} (few : count ≤ msg.length) :
    msg.bytes.take count = msg.data.take count := by
  rw [bytes, List.take_take, Nat.min_eq_left few]

theorem ChatMessage.take_header (msg : ChatMessage) :
    msg.bytes.take headerLength = msg.data.take headerLength :=
  take_bytes (Nat.le_add_right _ _)

namespace ChatMessage.WellFormed

variable {msg : ChatMessage} (formed : msg.WellFormed)
include formed

theorem length_bytes : msg.bytes.length = msg.length := by
  rw [bytes, List.length_take, Nat.min_eq_left formed.whole]

/-- A well-formed message is printed, and what stands behind it is read on. -/
theorem bodiesOf_append (rest : Text) :
    bodiesOf (msg.bytes ++ rest) = msg.body :: bodiesOf rest := by
  have long : headerLength ≤ msg.bytes.length := by
    rw [formed.length_bytes]
    exact Nat.le_add_right _ _
  have head : (msg.bytes ++ rest).take headerLength = msg.data.take headerLength := by
    rw [List.take_append_of_le_length long, take_header]
  have enough : headerLength + msg.bodyLength ≤ (msg.bytes ++ rest).length := by
    rw [List.length_append, formed.length_bytes]
    exact Nat.le_add_right _ _
  have printed : ((msg.bytes ++ rest).drop headerLength).take msg.bodyLength = msg.body := by
    rw [List.drop_append_of_le_length long, List.take_append_of_le_length, bytes, List.drop_take,
      List.take_take, body]
    · congr 1
      rw [length]
      omega
    · rw [List.length_drop, formed.length_bytes, length]
      omega
  have behind : (msg.bytes ++ rest).drop (headerLength + msg.bodyLength) = rest :=
    List.drop_left' formed.length_bytes
  rw [bodiesOf, if_neg (by omega), head, formed.header]
  dsimp only
  rw [if_neg (Nat.not_lt.mpr formed.small), if_neg (Nat.not_lt.mpr enough), printed, behind]

/-- Of a message that is cut off nothing is printed. -/
theorem bodiesOf_take {count : Nat} (few : count < msg.length) :
    bodiesOf (msg.bytes.take count) = [] := by
  have long : (msg.bytes.take count).length = count := by
    rw [List.length_take, formed.length_bytes, Nat.min_eq_left few.le]
  by_cases short : count < headerLength
  · exact bodiesOf_short (long.trans_lt short)
  · apply bodiesOf_missing
    rw [long, List.take_take, Nat.min_eq_left (Nat.not_lt.mp short), take_header,
      formed.header]
    exact few

end ChatMessage.WellFormed

theorem bytesOf_concat (msgs : List ChatMessage) (msg : ChatMessage) :
    bytesOf (msgs ++ [msg]) = bytesOf msgs ++ msg.bytes := by
  rw [bytesOf, List.flatMap_append, List.flatMap_singleton]
  rfl

/-- Well-formed messages are printed one by one. -/
theorem bodiesOf_append {msgs : List ChatMessage} (formed : ∀ msg ∈ msgs, msg.WellFormed)
    (rest : Text) :
    bodiesOf (bytesOf msgs ++ rest) = msgs.map ChatMessage.body ++ bodiesOf rest := by
  induction msgs with
  | nil => rfl
  | cons msg msgs ih =>
      have others := ih fun other inside => formed other (List.mem_cons_of_mem _ inside)
      rw [bytesOf, List.flatMap_cons, List.append_assoc,
        (formed msg List.mem_cons_self).bodiesOf_append]
      exact congrArg (msg.body :: ·) others

theorem bodiesOf_bytesOf {msgs : List ChatMessage} (formed : ∀ msg ∈ msgs, msg.WellFormed) :
    bodiesOf (bytesOf msgs) = msgs.map ChatMessage.body := by
  have nothing : bodiesOf [] = [] := bodiesOf_short (Nat.zero_lt_succ 3)
  have all := bodiesOf_append formed []
  rw [nothing, List.append_nil, List.append_nil] at all
  exact all

/-! ## What is read into a message -/

namespace ChatMessage

variable (msg : ChatMessage)

theorem take_readAt_zero {text : Text} (long : text.length = headerLength) :
    (msg.readAt 0 text).data.take headerLength = text := by
  rw [readAt, List.take_zero, List.nil_append]
  exact List.take_left' long

theorem decodeHeader_eq :
    msg.decodeHeader =
      if maxBodyLength < headerNumber (msg.data.take headerLength)
      then ({ msg with bodyLength := 0 }, false)
      else ({ msg with bodyLength := headerNumber (msg.data.take headerLength) }, true) := rfl

/-- A message whose header was decoded and whose body was read is well formed. -/
theorem wellFormed_readAt {text : Text} (long : headerLength ≤ msg.data.length)
    (header : headerNumber (msg.data.take headerLength) = msg.bodyLength)
    (small : msg.bodyLength ≤ maxBodyLength) (read : text.length = msg.bodyLength) :
    (msg.readAt headerLength text).WellFormed := by
  have front : (msg.data.take headerLength).length = headerLength := by
    rw [List.length_take, Nat.min_eq_left long]
  refine ⟨?_, ?_, small⟩
  · rw [length, readAt, List.length_append, List.length_append, front, read]
    exact Nat.le_add_right _ _
  · rw [readAt, List.append_assoc, List.take_left' front]
    exact header

theorem bytes_readAt {text : Text} (long : headerLength ≤ msg.data.length)
    (read : text.length = msg.bodyLength) :
    (msg.readAt headerLength text).bytes = msg.data.take headerLength ++ text := by
  rw [bytes, readAt]
  apply List.take_left'
  rw [List.length_append, List.length_take, Nat.min_eq_left long, read]
  rfl

/-! ## What a client sends -/

theorem bodyLength_setBodyLength (newLength : Nat) :
    (msg.setBodyLength newLength).bodyLength = min maxBodyLength newLength := by
  rw [setBodyLength]
  split
  · rename_i long
    exact (Nat.min_eq_left long.le).symm
  · rename_i short
    exact (Nat.min_eq_right (Nat.not_lt.mp short)).symm

theorem data_setBodyLength (newLength : Nat) : (msg.setBodyLength newLength).data = msg.data := by
  rw [setBodyLength]
  split
  · rfl
  · rfl

/-- A length is printed in four bytes and read back. -/
theorem header_encodeHeader (small : msg.bodyLength ≤ maxBodyLength) :
    ∃ header : Text, header.length = headerLength ∧ headerNumber header = msg.bodyLength ∧
      msg.encodeHeader = { msg with data := header ++ msg.data.drop headerLength } := by
  have few : (numeral msg.bodyLength).length ≤ headerLength :=
    length_numeral_le (by decide) (small.trans_lt (by decide))
  have long : (List.replicate (headerLength - (numeral msg.bodyLength).length) 0x20#8 ++
      numeral msg.bodyLength).length = headerLength := by
    rw [List.length_append, List.length_replicate, Nat.sub_add_cancel few]
  refine ⟨_, long, ?_, ?_⟩
  · have plain : 0#8 ∉ List.replicate (headerLength - (numeral msg.bodyLength).length) 0x20#8 ++
        numeral msg.bodyLength := by
      intro inside
      rcases List.mem_append.mp inside with space | digit
      · exact absurd (List.eq_of_mem_replicate space) (by decide)
      · exact absurd (isDigit_of_mem_numeral digit) (by decide)
    have spaces := strtol_spaces (headerLength - (numeral msg.bodyLength).length)
      (numeral msg.bodyLength)
    rw [headerNumber, terminated_eq_self plain, atoi, spaces]
    have read := (ofInt_atoi_digits_iff fun char (inside : char ∈ numeral msg.bodyLength) =>
      isDigit_of_mem_numeral inside).mpr (by
        rw [value_numeral]
        exact .inl (small.trans_lt (by decide)))
    rw [value_numeral] at read
    exact read
  · rw [encodeHeader, List.take_of_length_le long.le]

/-- **A line is sent as a message.** Of a line of any length, what fits is the body. -/
theorem ofLine_wellFormed {data : Text} (size : data.length = headerLength + maxBodyLength)
    (line : Text) :
    (ofLine data line).WellFormed ∧ (ofLine data line).body = line.take maxBodyLength := by
  rw [ofLine, bodyLength_setBodyLength, ← List.take_take, List.take_length]
  have copied : (line.take maxBodyLength).length = min maxBodyLength line.length :=
    List.length_take
  have front : (data.take headerLength).length = headerLength := by
    rw [List.length_take, size]
    rfl
  generalize made : ((constructed data).setBodyLength line.length).readAt headerLength
    (line.take maxBodyLength) = msg
  have bodyLength : msg.bodyLength = min maxBodyLength line.length := by
    rw [← made]
    exact bodyLength_setBodyLength _ _
  have behind : msg.data.drop headerLength = line.take maxBodyLength ++
      data.drop (headerLength + (line.take maxBodyLength).length) := by
    rw [← made, readAt, data_setBodyLength, List.append_assoc]
    exact List.drop_left' front
  have small : msg.bodyLength ≤ maxBodyLength := bodyLength.trans_le (Nat.min_le_left _ _)
  obtain ⟨header, long, number, encoded⟩ := msg.header_encodeHeader small
  rw [encoded]
  refine ⟨⟨?_, ?_, small⟩, ?_⟩
  · rw [length]
    dsimp only
    rw [List.length_append, long, behind, List.length_append, copied, bodyLength]
    omega
  · dsimp only
    rw [List.take_left' long]
    exact number
  · rw [body]
    dsimp only
    rw [List.drop_left' long, behind, bodyLength]
    exact List.take_left' copied

end ChatMessage

/-- The lines that a client sends are what is read of its bytes, whatever the arrays of the messages
held before. -/
theorem bodiesOf_lines {lines : List (Text × Text)}
    (size : ∀ line ∈ lines, line.1.length = headerLength + maxBodyLength) :
    bodiesOf (bytesOf (lines.map fun line => ChatMessage.ofLine line.1 line.2)) =
      lines.map (·.2.take maxBodyLength) := by
  have formed : ∀ msg ∈ lines.map fun line => ChatMessage.ofLine line.1 line.2,
      msg.WellFormed := by
    intro msg inside
    obtain ⟨line, among, rfl⟩ := List.mem_map.mp inside
    exact (ChatMessage.ofLine_wellFormed (size line among) line.2).1
  rw [bodiesOf_bytesOf formed, List.map_map]
  exact List.map_congr_left fun line among =>
    (ChatMessage.ofLine_wellFormed (size line among) line.2).2

end Asio.Chat
