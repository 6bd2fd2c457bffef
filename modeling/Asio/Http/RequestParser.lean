import Asio.Lib.CheckedInt
import Asio.Lib.Scanner
import Mathlib.Data.UInt

/-! # The request parser of the HTTP server

`request_parser::consume` is given one character at a time. What it has read of a request it puts
into the members of a `request`, which the connection keeps from one read to the next.
-/

namespace Asio.Http

open CheckedInt Scanner

/-- A `char`. None of the tests depends on whether it is signed. -/
abbrev Character := UInt8

/-- An `int`. -/
abbrev IntValue := Within (-2 ^ 31) (2 ^ 31 - 1)

def IntValue.zero : IntValue := ⟨0, by decide⟩

/-- `header`. -/
structure Header where
  name : List Character
  value : List Character
  deriving DecidableEq

/-- `request`. -/
structure Request where
  method : List Character
  uri : List Character
  httpVersionMajor : IntValue
  httpVersionMinor : IntValue
  headers : List Header
  deriving DecidableEq

/-- A `request` as it is constructed; its numbers are not initialised. -/
def Request.new (major minor : IntValue) : Request := ⟨[], [], major, minor, []⟩

/-! ## Characters -/

def space : Character := 32
def tab : Character := 9
def carriageReturn : Character := 13
def newline : Character := 10
def colon : Character := 58
def dot : Character := 46
def slash : Character := 47
def letterH : Character := 72
def letterT : Character := 84
def letterP : Character := 80

/-- `is_char`. -/
def isChar (c : Character) : Bool := decide (c ≤ 127)

/-- `is_ctl`. -/
def isCtl (c : Character) : Bool := decide (c ≤ 31) || c == 127

/-- The labels of the `switch` of `is_tspecial`: brackets and punctuation, the space and the tab. -/
def tspecials : List Character :=
  [40, 41, 60, 62, 64, 44, 59, colon, 92, 34, slash, 91, 93, 63, 61, 123, 125, space, tab]

/-- `is_tspecial`. -/
def isTspecial (c : Character) : Bool := decide (c ∈ tspecials)

/-- `is_digit`. -/
def isDigit (c : Character) : Bool := decide (48 ≤ c) && decide (c ≤ 57)

/-- The test of the characters of methods and names. -/
def isToken (c : Character) : Bool := !(!isChar c || isCtl c || isTspecial c)

/-! ## The parser -/

/-- `state`. -/
inductive State where
  | methodStart
  | method
  | uri
  | httpVersionH
  | httpVersionT1
  | httpVersionT2
  | httpVersionP
  | httpVersionSlash
  | httpVersionMajorStart
  | httpVersionMajor
  | httpVersionMinorStart
  | httpVersionMinor
  | expectingNewline1
  | headerLineStart
  | headerLws
  | headerName
  | spaceBeforeHeaderValue
  | headerValue
  | expectingNewline2
  | expectingNewline3
  deriving DecidableEq

/-- The parser, and the request it fills. -/
structure RequestParser where
  state : State
  req : Request

/-- `good` with the request or `bad`; or the arithmetic has overflowed, or a header was looked for
where there is none, and nothing is said about what happens. -/
inductive ParseResult where
  | good (req : Request)
  | bad
  | undefined
  deriving DecidableEq

/-- `version * 10 + input - '0'`. -/
def nextDigit (version : IntValue) (input : Character) : Option IntValue := do
  let tens ← mul version ⟨10, by decide⟩
  let sum ← add tens ⟨input.toNat, by have := input.toNat_lt; omega⟩
  sub sum ⟨48, by decide⟩

/-- `req.headers.back()` is changed. -/
def Request.changeBack (req : Request) (change : Header → Header) : Option Request :=
  match req.headers.getLast? with
  | some header => some { req with headers := req.headers.dropLast ++ [change header] }
  | none => none

/-- `req.headers.back().name.push_back`. -/
def Request.pushName (req : Request) (input : Character) : Option Request :=
  req.changeBack fun header => { header with name := header.name ++ [input] }

/-- `req.headers.back().value.push_back`. -/
def Request.pushValue (req : Request) (input : Character) : Option Request :=
  req.changeBack fun header => { header with value := header.value ++ [input] }

/-- The parser goes on, if the request is well defined. -/
def goOn (state : State) : Option Request → Verdict RequestParser ParseResult
  | some req => .more ⟨state, req⟩
  | none => .done .undefined

namespace RequestParser

variable (parser : RequestParser) (input : Character)

/-- A state in which one character is expected. -/
def expect (expected : Character) (next : State) : Verdict RequestParser ParseResult :=
  if input = expected then .more ⟨next, parser.req⟩ else .done .bad

/-- `consume`. -/
def consume : Verdict RequestParser ParseResult :=
  let req := parser.req
  match parser.state with
  | .methodStart =>
      if !isChar input || isCtl input || isTspecial input then .done .bad
      else .more ⟨.method, { req with method := req.method ++ [input] }⟩
  | .method =>
      if input = space then .more ⟨.uri, req⟩
      else if !isChar input || isCtl input || isTspecial input then .done .bad
      else .more ⟨.method, { req with method := req.method ++ [input] }⟩
  | .uri =>
      if input = space then .more ⟨.httpVersionH, req⟩
      else if isCtl input then .done .bad
      else .more ⟨.uri, { req with uri := req.uri ++ [input] }⟩
  | .httpVersionH => parser.expect input letterH .httpVersionT1
  | .httpVersionT1 => parser.expect input letterT .httpVersionT2
  | .httpVersionT2 => parser.expect input letterT .httpVersionP
  | .httpVersionP => parser.expect input letterP .httpVersionSlash
  | .httpVersionSlash =>
      if input = slash then
        .more ⟨.httpVersionMajorStart, { req with
          httpVersionMajor := IntValue.zero
          httpVersionMinor := IntValue.zero }⟩
      else .done .bad
  | .httpVersionMajorStart =>
      if isDigit input then
        goOn .httpVersionMajor ((nextDigit req.httpVersionMajor input).map fun version =>
          { req with httpVersionMajor := version })
      else .done .bad
  | .httpVersionMajor =>
      if input = dot then .more ⟨.httpVersionMinorStart, req⟩
      else if isDigit input then
        goOn .httpVersionMajor ((nextDigit req.httpVersionMajor input).map fun version =>
          { req with httpVersionMajor := version })
      else .done .bad
  | .httpVersionMinorStart =>
      if isDigit input then
        goOn .httpVersionMinor ((nextDigit req.httpVersionMinor input).map fun version =>
          { req with httpVersionMinor := version })
      else .done .bad
  | .httpVersionMinor =>
      if input = carriageReturn then .more ⟨.expectingNewline1, req⟩
      else if isDigit input then
        goOn .httpVersionMinor ((nextDigit req.httpVersionMinor input).map fun version =>
          { req with httpVersionMinor := version })
      else .done .bad
  | .expectingNewline1 => parser.expect input newline .headerLineStart
  | .headerLineStart =>
      if input = carriageReturn then .more ⟨.expectingNewline3, req⟩
      else if !req.headers.isEmpty && (input == space || input == tab) then .more ⟨.headerLws, req⟩
      else if !isChar input || isCtl input || isTspecial input then .done .bad
      else .more ⟨.headerName, { req with headers := req.headers ++ [⟨[input], []⟩] }⟩
  | .headerLws =>
      if input = carriageReturn then .more ⟨.expectingNewline2, req⟩
      else if input = space ∨ input = tab then .more ⟨.headerLws, req⟩
      else if isCtl input then .done .bad
      else goOn .headerValue (req.pushValue input)
  | .headerName =>
      if input = colon then .more ⟨.spaceBeforeHeaderValue, req⟩
      else if !isChar input || isCtl input || isTspecial input then .done .bad
      else goOn .headerName (req.pushName input)
  | .spaceBeforeHeaderValue => parser.expect input space .headerValue
  | .headerValue =>
      if input = carriageReturn then .more ⟨.expectingNewline2, req⟩
      else if isCtl input then .done .bad
      else goOn .headerValue (req.pushValue input)
  | .expectingNewline2 => parser.expect input newline .headerLineStart
  | .expectingNewline3 => if input = newline then .done (.good req) else .done .bad

end RequestParser

/-- `parse` of one piece of input, with what is left of it. -/
def parse (parser : RequestParser) (input : List Character) :
    Verdict RequestParser ParseResult × List Character :=
  scan RequestParser.consume parser input

/-! ## The connection -/

/-- What comes of a connection: the request is handled, or refused with a stock reply; there is no
saying; a read has failed, and the connection is stopped unless it was that already; or it still
reads. -/
inductive ConnectionEnd where
  | handleRequest (req : Request)
  | badRequest
  | undefined
  | stop
  | aborted
  | reading
  deriving DecidableEq

/-- `connection::do_read`, called again after every read that does not end the request; `aborted`
says of an error that it is `operation_aborted`. -/
def doRead {Error : Type*} (aborted : Error → Bool) : RequestParser →
    List (Except Error (List Character)) → ConnectionEnd
  | _, [] => .reading
  | parser, .ok bytes :: reads =>
      match parse parser bytes with
      | (.done (.good req), _) => .handleRequest req
      | (.done .bad, _) => .badRequest
      | (.done .undefined, _) => .undefined
      | (.more parser, _) => doRead aborted parser reads
  | _, .error ec :: _ => if aborted ec then .aborted else .stop

end Asio.Http
