import Asio.Http.RequestParser

/-! # The text of a request

What the server takes for a request: a line with a method, a target, which may be empty, and a
version, and then headers, whose values may go on in lines that begin with blanks. Lines end in a
carriage return and a newline.
-/

namespace Asio.Http

/-! ## Characters of one kind -/

/-- Characters that are all allowed. -/
structure Chars (allowed : Character → Bool) where
  chars : List Character
  valid : ∀ c ∈ chars, allowed c = true

/-- At least one of them. -/
structure SomeChars (allowed : Character → Bool) extends Chars allowed where
  nonempty : chars ≠ []

section Chars

variable {allowed : Character → Bool}

def Chars.empty : Chars allowed := ⟨[], nofun⟩

/-- One more character. -/
def Chars.push (before : Chars allowed) (c : Character) (valid : allowed c = true) :
    Chars allowed where
  chars := before.chars ++ [c]
  valid last member := by
    rw [List.mem_append, List.mem_singleton] at member
    obtain there | rfl := member
    · exact before.valid last there
    · exact valid

def SomeChars.push (before : SomeChars allowed) (c : Character) (valid : allowed c = true) :
    SomeChars allowed where
  toChars := before.toChars.push c valid
  nonempty := List.concat_ne_nil c before.chars

def SomeChars.single (c : Character) (valid : allowed c = true) : SomeChars allowed where
  chars := [c]
  valid _ member := List.mem_singleton.mp member ▸ valid
  nonempty := List.cons_ne_nil c []

@[simp] theorem Chars.chars_empty : (empty : Chars allowed).chars = [] := rfl

@[simp] theorem Chars.chars_push (before : Chars allowed) (c : Character)
    (valid : allowed c = true) : (before.push c valid).chars = before.chars ++ [c] := rfl

end Chars

/-! ## Texts -/

/-- The characters of a target. -/
def isTarget (c : Character) : Bool := c != space && !isCtl c

/-- The characters of a value. -/
def isValue (c : Character) : Bool := !isCtl c

def isBlank (c : Character) : Bool := c == space || c == tab

/-- A line that continues a value; its blanks are not a part of that. -/
structure Continuation where
  blanks : SomeChars isBlank
  text : Chars isValue
  starts : ∀ c ∈ text.chars.head?, isBlank c = false

structure HeaderText where
  name : SomeChars isToken
  first : Chars isValue
  continuations : List Continuation

structure RequestText where
  method : SomeChars isToken
  target : Chars isTarget
  major : SomeChars isDigit
  minor : SomeChars isDigit
  headers : List HeaderText

def endOfLine : List Character := [carriageReturn, newline]

def Continuation.chars (continuation : Continuation) : List Character :=
  endOfLine ++ continuation.blanks.chars ++ continuation.text.chars

namespace HeaderText

variable (text : HeaderText)

/-- A header up to the end of its last line. -/
def unended : List Character :=
  text.name.chars ++ [colon, space] ++ text.first.chars ++
    text.continuations.flatMap Continuation.chars

def chars : List Character := text.unended ++ endOfLine

/-- The header it is. -/
def header : Header :=
  ⟨text.name.chars, text.first.chars ++ text.continuations.flatMap fun line => line.text.chars⟩

end HeaderText

/-- The number that digits are read as, after others. -/
def digitsValue (before : Nat) (chars : List Character) : Nat :=
  chars.foldl (fun value c => value * 10 + (c.toNat - 48)) before

/-- A number can be read: the parser adds the character for a digit before it subtracts the
character for zero. -/
def Fits (value : Nat) : Prop := value + 48 ≤ 2 ^ 31 - 1

namespace RequestText

/-- What comes before the version, without the letters. -/
def start (method : SomeChars isToken) (target : Chars isTarget) : List Character :=
  method.chars ++ [space] ++ target.chars ++ [space]

def httpSlash : List Character := [letterH, letterT, letterT, letterP, slash]

variable (text : RequestText)

/-- The first line, without its end. -/
def line : List Character :=
  start text.method text.target ++ httpSlash ++ text.major.chars ++ [dot] ++ text.minor.chars

/-- The lines that are not empty. -/
def lines : List Character :=
  text.line ++ endOfLine ++ text.headers.flatMap HeaderText.chars

def chars : List Character := text.lines ++ endOfLine

/-- Both numbers can be read. -/
def VersionFits : Prop :=
  Fits (digitsValue 0 text.major.chars) ∧ Fits (digitsValue 0 text.minor.chars)

/-- An input begins with a request, up to the end of a number that is too large to be read. -/
def Overflows (input : List Character) : Prop :=
  ¬ Fits (digitsValue 0 text.major.chars) ∧
      start text.method text.target ++ httpSlash ++ text.major.chars <+: input ∨
    Fits (digitsValue 0 text.major.chars) ∧ ¬ Fits (digitsValue 0 text.minor.chars) ∧
      text.line <+: input

/-- The request that it describes. -/
structure Describes (req : Request) : Prop where
  method : req.method = text.method.chars
  uri : req.uri = text.target.chars
  major : req.httpVersionMajor.1 = digitsValue 0 text.major.chars
  minor : req.httpVersionMinor.1 = digitsValue 0 text.minor.chars
  headers : req.headers = text.headers.map HeaderText.header

/-- One more header. -/
def add (header : HeaderText) : RequestText := { text with headers := text.headers ++ [header] }

variable {text} {header : HeaderText}

theorem Overflows.append {input : List Character} (overflows : text.Overflows input)
    (more : List Character) : text.Overflows (input ++ more) :=
  overflows.imp (fun ⟨large, part⟩ => ⟨large, part.trans (List.prefix_append _ _)⟩)
    fun ⟨fits, large, part⟩ => ⟨fits, large, part.trans (List.prefix_append _ _)⟩

theorem lines_add : (text.add header).lines = text.lines ++ header.unended ++ endOfLine := by
  simp only [lines, line, add, List.flatMap_append, List.flatMap_cons, List.flatMap_nil,
    List.append_nil, HeaderText.chars, List.append_assoc]

theorem Describes.unique {first second : Request} (describes : text.Describes first)
    (other : text.Describes second) : first = second := by
  obtain ⟨method, uri, major, minor, headers⟩ := first
  obtain ⟨rfl, rfl, majorValue, minorValue, rfl⟩ := describes
  obtain ⟨same, target, majorSame, minorSame, list⟩ := other
  have majors := Subtype.ext (majorValue.trans majorSame.symm)
  have minors := Subtype.ext (minorValue.trans minorSame.symm)
  obtain ⟨method, uri, otherMajor, otherMinor, headers⟩ := second
  cases same
  cases target
  cases list
  rw [show major = otherMajor from majors, show minor = otherMinor from minors]

theorem Describes.headers_add {req : Request} (describes : (text.add header).Describes req) :
    req.headers = text.headers.map HeaderText.header ++ [header.header] := by
  rw [describes.headers, add, List.map_append]
  rfl

theorem Describes.changeBack_ne_none {req : Request}
    (describes : (text.add header).Describes req) (change : Header → Header) :
    req.changeBack change ≠ none := by
  rw [Request.changeBack, describes.headers_add, List.getLast?_concat]
  nofun

/-- The last header changes. -/
theorem Describes.change {req : Request} (describes : (text.add header).Describes req)
    {change : Header → Header} {changed : HeaderText}
    (same : changed.header = change header.header) :
    ∃ after, req.changeBack change = some after ∧ (text.add changed).Describes after := by
  refine ⟨{ req with headers := text.headers.map HeaderText.header ++ [changed.header] }, ?_,
    describes.method, describes.uri, describes.major, describes.minor, ?_⟩
  · rw [Request.changeBack, describes.headers_add, List.getLast?_concat, List.dropLast_concat, same]
  · rw [add, List.map_append]
    rfl

end RequestText

namespace HeaderText

variable (header : HeaderText)

/-- A header of which there is only the name. -/
def named (name : SomeChars isToken) : HeaderText := ⟨name, .empty, []⟩

/-- The last line of the value may go on with any of its characters, blanks too. -/
def Open : Prop := ∀ line ∈ header.continuations.getLast?, line.text.chars ≠ []

theorem open_named (name : SomeChars isToken) : (named name).Open := by
  intro line member
  cases member

/-- One more line. -/
def addLine (line : Continuation) : HeaderText :=
  { header with continuations := header.continuations ++ [line] }

variable {header}

theorem unended_addLine (header : HeaderText) (line : Continuation) :
    (header.addLine line).unended = header.unended ++ line.chars := by
  simp only [unended, addLine, List.flatMap_append, List.flatMap_cons, List.flatMap_nil,
    List.append_nil, List.append_assoc]

theorem header_addLine (header : HeaderText) (line : Continuation) : (header.addLine line).header =
    { header.header with value := header.header.value ++ line.text.chars } := by
  simp only [HeaderText.header, addLine, List.flatMap_append, List.flatMap_cons, List.flatMap_nil,
    List.append_nil, List.append_assoc]

theorem open_addLine (header : HeaderText) {line : Continuation} (some : line.text.chars ≠ []) :
    (header.addLine line).Open := by
  intro last member
  rw [addLine, List.getLast?_concat] at member
  cases member
  exact some

/-- The last line goes on. -/
theorem Open.push (opened : header.Open) {c : Character} (valid : isValue c = true) :
    ∃ after : HeaderText, after.Open ∧ after.unended = header.unended ++ [c] ∧
      after.header = { header.header with value := header.header.value ++ [c] } := by
  obtain ⟨name, first, continuations⟩ := header
  obtain rfl | ⟨before, last, rfl⟩ := continuations.eq_nil_or_concat'
  · refine ⟨⟨name, first.push c valid, []⟩, nofun, ?_, ?_⟩
    · simp only [unended, Chars.push, List.flatMap_nil, List.append_nil, List.append_assoc]
    · simp only [HeaderText.header, Chars.push, List.flatMap_nil, List.append_nil]
  · have some : last.text.chars ≠ [] := opened last List.getLast?_concat
    have starts : ∀ d ∈ (last.text.push c valid).chars.head?, isBlank d = false := by
      rw [Chars.push, List.head?_append_of_ne_nil _ some]
      exact last.starts
    refine ⟨⟨name, first, before ++ [⟨last.blanks, last.text.push c valid, starts⟩]⟩, ?_, ?_, ?_⟩
    · exact open_addLine ⟨name, first, before⟩ (List.concat_ne_nil c _)
    · simp only [unended, Continuation.chars, Chars.push, List.flatMap_append, List.flatMap_cons,
        List.flatMap_nil, List.append_nil, List.append_assoc]
    · simp only [HeaderText.header, Chars.push, List.flatMap_append, List.flatMap_cons,
        List.flatMap_nil, List.append_nil, List.append_assoc]

end HeaderText

end Asio.Http
