import Asio.Http.RequestText

/-! # What the parser has read

In each of its states the parser has read a part of a request of a certain form. Each character that
it goes on with makes this part longer, and the last makes it a whole.
-/

namespace Asio.Http

open CheckedInt Scanner RequestText

/-- The method and the target have been read, and nothing after them. -/
structure Started (req : Request) (method : List Character) (target : List Character) : Prop where
  method : req.method = method
  uri : req.uri = target
  headers : req.headers = []

/-- What has been read in each state. -/
def Reached (parser : RequestParser) (read : List Character) : Prop :=
  match parser.state with
  | .methodStart => Started parser.req [] [] ∧ read = []
  | .method => ∃ method : SomeChars isToken, Started parser.req method.chars [] ∧
      read = method.chars
  | .uri => ∃ (method : SomeChars isToken) (target : Chars isTarget),
      Started parser.req method.chars target.chars ∧ read = method.chars ++ [space] ++ target.chars
  | .httpVersionH => ∃ (method : SomeChars isToken) (target : Chars isTarget),
      Started parser.req method.chars target.chars ∧ read = start method target
  | .httpVersionT1 => ∃ (method : SomeChars isToken) (target : Chars isTarget),
      Started parser.req method.chars target.chars ∧ read = start method target ++ [letterH]
  | .httpVersionT2 => ∃ (method : SomeChars isToken) (target : Chars isTarget),
      Started parser.req method.chars target.chars ∧
        read = start method target ++ [letterH, letterT]
  | .httpVersionP => ∃ (method : SomeChars isToken) (target : Chars isTarget),
      Started parser.req method.chars target.chars ∧
        read = start method target ++ [letterH, letterT, letterT]
  | .httpVersionSlash => ∃ (method : SomeChars isToken) (target : Chars isTarget),
      Started parser.req method.chars target.chars ∧
        read = start method target ++ [letterH, letterT, letterT, letterP]
  | .httpVersionMajorStart => ∃ (method : SomeChars isToken) (target : Chars isTarget),
      Started parser.req method.chars target.chars ∧ parser.req.httpVersionMajor.1 = 0 ∧
        parser.req.httpVersionMinor.1 = 0 ∧ read = start method target ++ httpSlash
  | .httpVersionMajor => ∃ (method : SomeChars isToken) (target : Chars isTarget)
      (major : SomeChars isDigit), Started parser.req method.chars target.chars ∧
        Fits (digitsValue 0 major.chars) ∧
        parser.req.httpVersionMajor.1 = digitsValue 0 major.chars ∧
        parser.req.httpVersionMinor.1 = 0 ∧ read = start method target ++ httpSlash ++ major.chars
  | .httpVersionMinorStart => ∃ (method : SomeChars isToken) (target : Chars isTarget)
      (major : SomeChars isDigit), Started parser.req method.chars target.chars ∧
        Fits (digitsValue 0 major.chars) ∧
        parser.req.httpVersionMajor.1 = digitsValue 0 major.chars ∧
        parser.req.httpVersionMinor.1 = 0 ∧
        read = start method target ++ httpSlash ++ major.chars ++ [dot]
  | .httpVersionMinor => ∃ text : RequestText, text.headers = [] ∧ text.VersionFits ∧
      text.Describes parser.req ∧ read = text.line
  | .expectingNewline1 => ∃ text : RequestText, text.headers = [] ∧ text.VersionFits ∧
      text.Describes parser.req ∧ read = text.line ++ [carriageReturn]
  | .headerLineStart => ∃ text : RequestText, text.VersionFits ∧ text.Describes parser.req ∧
      read = text.lines
  | .headerLws => ∃ (text : RequestText) (header : HeaderText) (blanks : SomeChars isBlank),
      text.VersionFits ∧ (text.add header).Describes parser.req ∧
        read = text.lines ++ header.unended ++ endOfLine ++ blanks.chars
  | .headerName => ∃ (text : RequestText) (name : SomeChars isToken), text.VersionFits ∧
      (text.add (.named name)).Describes parser.req ∧ read = text.lines ++ name.chars
  | .spaceBeforeHeaderValue => ∃ (text : RequestText) (name : SomeChars isToken),
      text.VersionFits ∧ (text.add (.named name)).Describes parser.req ∧
        read = text.lines ++ name.chars ++ [colon]
  | .headerValue => ∃ (text : RequestText) (header : HeaderText), text.VersionFits ∧
      (text.add header).Describes parser.req ∧ header.Open ∧ read = text.lines ++ header.unended
  | .expectingNewline2 => ∃ (text : RequestText) (header : HeaderText), text.VersionFits ∧
      (text.add header).Describes parser.req ∧
        read = text.lines ++ header.unended ++ [carriageReturn]
  | .expectingNewline3 => ∃ text : RequestText, text.VersionFits ∧ text.Describes parser.req ∧
      read = text.lines ++ [carriageReturn]

/-! ## Numbers -/

theorem digitsValue_concat (before : Nat) (chars : List Character) (c : Character) :
    digitsValue before (chars ++ [c]) = digitsValue before chars * 10 + (c.toNat - 48) := by
  rw [digitsValue, List.foldl_append]
  rfl

theorem isDigit_iff {c : Character} : isDigit c = true ↔ 48 ≤ c.toNat ∧ c.toNat ≤ 57 := by
  rw [isDigit, Bool.and_eq_true, decide_eq_true_eq, decide_eq_true_eq, UInt8.le_iff_toNat_le,
    UInt8.le_iff_toNat_le]
  exact Iff.rfl

/-- A digit is read if the number with it fits. -/
theorem nextDigit_of_fits {version : IntValue} {value : Nat} (same : version.1 = value)
    {c : Character} (digit : isDigit c = true) (fits : Fits (value * 10 + (c.toNat - 48))) :
    ∃ next, nextDigit version c = some next ∧ next.1 = (value * 10 + (c.toNat - 48) : Nat) := by
  have range := isDigit_iff.mp digit
  rw [Fits] at fits
  have product : -2 ^ 31 ≤ version.1 * 10 ∧ version.1 * 10 ≤ 2 ^ 31 - 1 := by omega
  have sum : -2 ^ 31 ≤ version.1 * 10 + c.toNat ∧ version.1 * 10 + c.toNat ≤ 2 ^ 31 - 1 := by omega
  have difference : -2 ^ 31 ≤ version.1 * 10 + c.toNat - 48 ∧
      version.1 * 10 + c.toNat - 48 ≤ 2 ^ 31 - 1 := by omega
  refine ⟨⟨_, difference⟩, ?_, ?_⟩
  · simp only [nextDigit, mul, exactly_of_within product, Option.bind_eq_bind, Option.bind_some,
      CheckedInt.add, exactly_of_within sum, sub, exactly_of_within difference]
  · change version.1 * 10 + c.toNat - 48 = _
    omega

/-- Else the sum overflows, or the product before it. -/
theorem nextDigit_of_not_fits {version : IntValue} {value : Nat} (same : version.1 = value)
    {c : Character} (digit : isDigit c = true) (large : ¬ Fits (value * 10 + (c.toNat - 48))) :
    nextDigit version c = none := by
  have range := isDigit_iff.mp digit
  rw [Fits] at large
  by_cases product : -2 ^ 31 ≤ version.1 * 10 ∧ version.1 * 10 ≤ 2 ^ 31 - 1
  · have sum : ¬ (-2 ^ 31 ≤ version.1 * 10 + c.toNat ∧
        version.1 * 10 + c.toNat ≤ 2 ^ 31 - 1) := by omega
    simp only [nextDigit, mul, exactly_of_within product, Option.bind_eq_bind, Option.bind_some,
      CheckedInt.add, exactly_eq_none.mpr sum, Option.bind_none]
  · simp only [nextDigit, mul, exactly_eq_none.mpr product, Option.bind_eq_bind, Option.bind_none]

/-! ## One character -/

theorem isToken_of {c : Character} (passes : ¬ (!isChar c || isCtl c || isTspecial c) = true) :
    isToken c = true := by
  rw [isToken, Bool.not_eq_true']
  exact Bool.eq_false_of_not_eq_true passes

theorem expect_more {parser next : RequestParser} {c expected : Character} {state : State}
    (stepped : parser.expect c expected state = .more next) :
    c = expected ∧ next = ⟨state, parser.req⟩ := by
  rw [RequestParser.expect] at stepped
  split at stepped
  · next same =>
    cases stepped
    exact ⟨same, rfl⟩
  · cases stepped

/-- A digit is read that the parser goes on with. -/
theorem goOn_nextDigit {state : State} {version : IntValue} (value : Nat)
    (same : version.1 = value) {c : Character} (digit : isDigit c = true)
    {change : IntValue → Request} {next : RequestParser}
    (stepped : goOn state ((nextDigit version c).map change) = .more next) :
    ∃ after, next = ⟨state, change after⟩ ∧ Fits (value * 10 + (c.toNat - 48)) ∧
      after.1 = (value * 10 + (c.toNat - 48) : Nat) := by
  by_cases fits : Fits (value * 10 + (c.toNat - 48))
  · obtain ⟨after, reads, value⟩ := nextDigit_of_fits same digit fits
    rw [reads] at stepped
    cases stepped
    exact ⟨after, rfl, fits, value⟩
  · rw [nextDigit_of_not_fits same digit fits] at stepped
    cases stepped

variable {parser next : RequestParser} {read : List Character} {c : Character}

/-! ### Headers -/

/-- The last header of the request changes as it does in the text. -/
theorem goOn_change {text : RequestText} {header changed : HeaderText} {req : Request}
    (describes : (text.add header).Describes req) {change : Header → Header}
    (same : changed.header = change header.header) {state : State}
    (stepped : goOn state (req.changeBack change) = .more next) :
    next.state = state ∧ (text.add changed).Describes next.req := by
  obtain ⟨after, changes, there⟩ := describes.change same
  rw [changes] at stepped
  cases stepped
  exact ⟨rfl, there⟩

theorem reached_headerLineStart {text : RequestText} {req : Request} (fits : text.VersionFits)
    (describes : text.Describes req)
    (stepped : RequestParser.consume ⟨.headerLineStart, req⟩ c = .more next) :
    Reached next (text.lines ++ [c]) := by
  simp only [RequestParser.consume] at stepped
  split at stepped
  · next ends =>
    cases stepped
    exact ⟨text, fits, describes, by rw [ends]⟩
  · split at stepped
    · next continues =>
      cases stepped
      rw [Bool.and_eq_true, Bool.not_eq_true'] at continues
      obtain ⟨some, blank⟩ := continues
      obtain none | ⟨before, header, same⟩ := text.headers.eq_nil_or_concat'
      · rw [describes.headers, none] at some
        cases some
      · have text_eq : text = RequestText.add { text with headers := before } header := by
          rw [RequestText.add, ← same]
        refine ⟨{ text with headers := before }, header, .single c blank, fits,
          text_eq ▸ describes, ?_⟩
        rw [text_eq, lines_add]
        rfl
    · split at stepped
      · cases stepped
      · next passes =>
        cases stepped
        refine ⟨text, .single c (isToken_of passes), fits,
          ⟨describes.method, describes.uri, describes.major, describes.minor, ?_⟩, rfl⟩
        rw [RequestText.add, List.map_append, describes.headers]
        rfl

theorem reached_headerLws {text : RequestText} {header : HeaderText} {blanks : SomeChars isBlank}
    {req : Request} (fits : text.VersionFits) (describes : (text.add header).Describes req)
    (stepped : RequestParser.consume ⟨.headerLws, req⟩ c = .more next) :
    Reached next (text.lines ++ header.unended ++ endOfLine ++ blanks.chars ++ [c]) := by
  simp only [RequestParser.consume] at stepped
  split at stepped
  · next ends =>
    cases stepped
    refine ⟨text, header.addLine ⟨blanks, .empty, nofun⟩, fits, ?_, ?_⟩
    · refine ⟨describes.method, describes.uri, describes.major, describes.minor, ?_⟩
      rw [describes.headers_add, RequestText.add, List.map_append, List.map_singleton,
        HeaderText.header_addLine, Chars.chars_empty, List.append_nil]
    · rw [ends, HeaderText.unended_addLine]
      simp only [Continuation.chars, Chars.chars_empty, List.append_nil, List.append_assoc]
  · split at stepped
    · next blank =>
      cases stepped
      have valid : isBlank c = true := by
        rw [isBlank, Bool.or_eq_true, beq_iff_eq, beq_iff_eq]
        exact blank
      exact ⟨text, header, blanks.push c valid, fits, describes, List.append_assoc _ _ _⟩
    · next visible =>
      split at stepped
      · cases stepped
      · next passes =>
        have valid : isValue c = true := by
          rw [isValue, Bool.not_eq_true']
          exact Bool.eq_false_of_not_eq_true passes
        have starts : ∀ d ∈ [c].head?, isBlank d = false := by
          intro d member
          cases member
          rw [isBlank, Bool.or_eq_false_iff, beq_eq_false_iff_ne, beq_eq_false_iff_ne]
          exact not_or.mp visible
        have longer := header.header_addLine
          ⟨blanks, Chars.push .empty c valid, starts⟩
        obtain ⟨there, described⟩ := goOn_change describes longer stepped
        rw [Reached, there]
        refine ⟨text, _, fits, described, header.open_addLine (List.concat_ne_nil c []), ?_⟩
        rw [HeaderText.unended_addLine]
        simp only [Continuation.chars, Chars.chars_push, Chars.chars_empty, List.nil_append,
          List.append_assoc]

theorem reached_headerName {text : RequestText} {name : SomeChars isToken} {req : Request}
    (fits : text.VersionFits) (describes : (text.add (.named name)).Describes req)
    (stepped : RequestParser.consume ⟨.headerName, req⟩ c = .more next) :
    Reached next (text.lines ++ name.chars ++ [c]) := by
  simp only [RequestParser.consume] at stepped
  split at stepped
  · next ends =>
    cases stepped
    exact ⟨text, name, fits, describes, by rw [ends]⟩
  · split at stepped
    · cases stepped
    · next passes =>
      have longer : (HeaderText.named (name.push c (isToken_of passes))).header =
          { (HeaderText.named name).header with
            name := (HeaderText.named name).header.name ++ [c] } := rfl
      obtain ⟨there, described⟩ := goOn_change describes longer stepped
      rw [Reached, there]
      exact ⟨text, _, fits, described, List.append_assoc _ _ _⟩

theorem reached_headerValue {text : RequestText} {header : HeaderText} {req : Request}
    (fits : text.VersionFits) (describes : (text.add header).Describes req) (opened : header.Open)
    (stepped : RequestParser.consume ⟨.headerValue, req⟩ c = .more next) :
    Reached next (text.lines ++ header.unended ++ [c]) := by
  simp only [RequestParser.consume] at stepped
  split at stepped
  · next ends =>
    cases stepped
    exact ⟨text, header, fits, describes, by rw [ends]⟩
  · split at stepped
    · cases stepped
    · next passes =>
      have valid : isValue c = true := by
        rw [isValue, Bool.not_eq_true']
        exact Bool.eq_false_of_not_eq_true passes
      obtain ⟨after, still, longer, same⟩ := opened.push valid
      obtain ⟨there, described⟩ := goOn_change describes same stepped
      rw [Reached, there]
      exact ⟨text, after, fits, described, still, by rw [longer, List.append_assoc]⟩

/-- The parser goes on with a longer part of a request. -/
theorem Reached.step (reached : Reached parser read) (stepped : parser.consume c = .more next) :
    Reached next (read ++ [c]) := by
  obtain ⟨state, req⟩ := parser
  cases state with
  | methodStart =>
      obtain ⟨⟨method, target, headers⟩, rfl⟩ := reached
      simp only [RequestParser.consume] at stepped
      split at stepped
      · cases stepped
      · next passes =>
        cases stepped
        exact ⟨.single c (isToken_of passes), ⟨congrArg (· ++ [c]) method, target, headers⟩, rfl⟩
  | method =>
      obtain ⟨method, ⟨same, target, headers⟩, rfl⟩ := reached
      simp only [RequestParser.consume] at stepped
      split at stepped
      · next blank =>
        cases stepped
        refine ⟨method, .empty, ⟨same, target, headers⟩, ?_⟩
        rw [blank]
        exact (List.append_nil _).symm
      · split at stepped
        · cases stepped
        · next passes =>
          cases stepped
          exact ⟨method.push c (isToken_of passes),
            ⟨congrArg (· ++ [c]) same, target, headers⟩, rfl⟩
  | uri =>
      obtain ⟨method, target, ⟨same, uri, headers⟩, rfl⟩ := reached
      simp only [RequestParser.consume] at stepped
      split at stepped
      · next blank =>
        cases stepped
        exact ⟨method, target, ⟨same, uri, headers⟩, by rw [blank, start]⟩
      · next visible =>
        split at stepped
        · cases stepped
        · next passes =>
          cases stepped
          have valid : isTarget c = true := by
            rw [isTarget, Bool.and_eq_true, bne_iff_ne, Bool.not_eq_true']
            exact ⟨visible, Bool.eq_false_of_not_eq_true passes⟩
          refine ⟨method, target.push c valid, ⟨same, congrArg (· ++ [c]) uri, headers⟩, ?_⟩
          exact List.append_assoc _ _ _
  | httpVersionH =>
      obtain ⟨method, target, started, rfl⟩ := reached
      obtain ⟨rfl, rfl⟩ := expect_more stepped
      exact ⟨method, target, started, rfl⟩
  | httpVersionT1 =>
      obtain ⟨method, target, started, rfl⟩ := reached
      obtain ⟨rfl, rfl⟩ := expect_more stepped
      exact ⟨method, target, started, List.append_assoc _ _ _⟩
  | httpVersionT2 =>
      obtain ⟨method, target, started, rfl⟩ := reached
      obtain ⟨rfl, rfl⟩ := expect_more stepped
      exact ⟨method, target, started, List.append_assoc _ _ _⟩
  | httpVersionP =>
      obtain ⟨method, target, started, rfl⟩ := reached
      obtain ⟨rfl, rfl⟩ := expect_more stepped
      exact ⟨method, target, started, List.append_assoc _ _ _⟩
  | httpVersionSlash =>
      obtain ⟨method, target, started, rfl⟩ := reached
      simp only [RequestParser.consume] at stepped
      split at stepped
      · next same =>
        cases stepped
        refine ⟨method, target, ⟨started.method, started.uri, started.headers⟩, rfl, rfl, ?_⟩
        rw [same, List.append_assoc]
        rfl
      · cases stepped
  | httpVersionMajorStart =>
      obtain ⟨method, target, started, major, minor, rfl⟩ := reached
      simp only [RequestParser.consume] at stepped
      split at stepped
      · next digit =>
        obtain ⟨version, rfl, fits, value⟩ := goOn_nextDigit 0 major digit stepped
        exact ⟨method, target, .single c digit,
          ⟨started.method, started.uri, started.headers⟩, fits, value, minor, rfl⟩
      · cases stepped
  | httpVersionMajor =>
      obtain ⟨method, target, major, started, fits, same, minor, rfl⟩ := reached
      simp only [RequestParser.consume] at stepped
      split at stepped
      · next ends =>
        cases stepped
        exact ⟨method, target, major, started, fits, same, minor, by rw [ends]⟩
      · split at stepped
        · next digit =>
          obtain ⟨version, rfl, more, value⟩ := goOn_nextDigit _ same digit stepped
          rw [← digitsValue_concat] at more value
          exact ⟨method, target, major.push c digit,
            ⟨started.method, started.uri, started.headers⟩, more, value, minor,
            List.append_assoc _ _ _⟩
        · cases stepped
  | httpVersionMinorStart =>
      obtain ⟨method, target, major, started, fits, same, minor, rfl⟩ := reached
      simp only [RequestParser.consume] at stepped
      split at stepped
      · next digit =>
        obtain ⟨version, rfl, more, value⟩ := goOn_nextDigit 0 minor digit stepped
        exact ⟨⟨method, target, major, .single c digit, []⟩, rfl, ⟨fits, more⟩,
          ⟨started.method, started.uri, same, value, started.headers⟩, rfl⟩
      · cases stepped
  | httpVersionMinor =>
      obtain ⟨text, none, fits, describes, rfl⟩ := reached
      simp only [RequestParser.consume] at stepped
      split at stepped
      · next ends =>
        cases stepped
        exact ⟨text, none, fits, describes, by rw [ends]⟩
      · split at stepped
        · next digit =>
          obtain ⟨version, rfl, more, value⟩ := goOn_nextDigit _ describes.minor digit stepped
          rw [← digitsValue_concat] at more value
          exact ⟨{ text with minor := text.minor.push c digit }, none, ⟨fits.1, more⟩,
            ⟨describes.method, describes.uri, describes.major, value, describes.headers⟩,
            List.append_assoc _ _ _⟩
        · cases stepped
  | expectingNewline1 =>
      obtain ⟨text, none, fits, describes, rfl⟩ := reached
      obtain ⟨rfl, rfl⟩ := expect_more stepped
      refine ⟨text, fits, describes, ?_⟩
      rw [lines, none, List.append_assoc]
      exact (List.append_nil _).symm
  | headerLineStart =>
      obtain ⟨text, fits, describes, rfl⟩ := reached
      exact reached_headerLineStart fits describes stepped
  | headerLws =>
      obtain ⟨text, header, blanks, fits, describes, rfl⟩ := reached
      exact reached_headerLws fits describes stepped
  | headerName =>
      obtain ⟨text, name, fits, describes, rfl⟩ := reached
      exact reached_headerName fits describes stepped
  | spaceBeforeHeaderValue =>
      obtain ⟨text, name, fits, describes, rfl⟩ := reached
      obtain ⟨rfl, rfl⟩ := expect_more stepped
      refine ⟨text, .named name, fits, describes, HeaderText.open_named name, ?_⟩
      simp only [HeaderText.unended, HeaderText.named, Chars.chars_empty, List.flatMap_nil,
        List.append_nil, List.append_assoc, List.cons_append, List.nil_append]
  | headerValue =>
      obtain ⟨text, header, fits, describes, opened, rfl⟩ := reached
      exact reached_headerValue fits describes opened stepped
  | expectingNewline2 =>
      obtain ⟨text, header, fits, describes, rfl⟩ := reached
      obtain ⟨rfl, rfl⟩ := expect_more stepped
      refine ⟨text.add header, fits, describes, ?_⟩
      rw [lines_add, List.append_assoc _ [carriageReturn]]
      rfl
  | expectingNewline3 =>
      simp only [RequestParser.consume] at stepped
      split at stepped <;> cases stepped

/-! ## The last character -/

theorem goOn_ne_good (state : State) (changed : Option Request) (req : Request) :
    goOn state changed ≠ .done (.good req) := by
  cases changed <;> nofun

theorem goOn_undefined {state : State} {changed : Option Request}
    (ends : goOn state changed = .done .undefined) : changed = none := by
  cases changed with
  | none => rfl
  | some req => cases ends

theorem consume_good {req : Request} (ends : parser.consume c = .done (.good req)) :
    parser.state = .expectingNewline3 ∧ c = newline ∧ req = parser.req := by
  obtain ⟨state, there⟩ := parser
  cases state <;> simp only [RequestParser.consume, RequestParser.expect] at ends <;>
    grind [goOn_ne_good]

/-- A whole request has been read. -/
theorem Reached.good (reached : Reached parser read) {req : Request}
    (ends : parser.consume c = .done (.good req)) :
    ∃ text : RequestText, text.VersionFits ∧ text.Describes req ∧ read ++ [c] = text.chars := by
  obtain ⟨state, rfl, rfl⟩ := consume_good ends
  rw [Reached, state] at reached
  obtain ⟨text, fits, describes, rfl⟩ := reached
  exact ⟨text, fits, describes, List.append_assoc _ _ _⟩

/-- Where nothing is said about what happens. -/
inductive Undefined (parser : RequestParser) (c : Character) : Prop where
  | major (state : parser.state = .httpVersionMajorStart ∨ parser.state = .httpVersionMajor)
      (digit : isDigit c = true) (overflows : nextDigit parser.req.httpVersionMajor c = none)
  | minor (state : parser.state = .httpVersionMinorStart ∨ parser.state = .httpVersionMinor)
      (digit : isDigit c = true) (overflows : nextDigit parser.req.httpVersionMinor c = none)
  | header (state : parser.state = .headerLws ∨ parser.state = .headerName ∨
      parser.state = .headerValue) (change : Header → Header)
      (missing : parser.req.changeBack change = none)

theorem consume_undefined (ends : parser.consume c = .done .undefined) : Undefined parser c := by
  obtain ⟨state, req⟩ := parser
  cases state <;> simp only [RequestParser.consume, RequestParser.expect] at ends
  case httpVersionMajorStart | httpVersionMajor =>
    have digit : isDigit c = true := by grind
    have overflows : nextDigit req.httpVersionMajor c = none := by
      grind [goOn_undefined, Option.map_eq_none_iff]
    exact .major (by grind) digit overflows
  case httpVersionMinorStart | httpVersionMinor =>
    have digit : isDigit c = true := by grind
    have overflows : nextDigit req.httpVersionMinor c = none := by
      grind [goOn_undefined, Option.map_eq_none_iff]
    exact .minor (by grind) digit overflows
  case headerLws | headerValue =>
    have missing : req.pushValue c = none := by grind [goOn_undefined]
    exact .header (by grind) _ missing
  case headerName =>
    have missing : req.pushName c = none := by grind [goOn_undefined]
    exact .header (by grind) _ missing
  all_goals grind

/-- A digit that makes a number too large. -/
theorem not_fits_of_overflows {version : IntValue} (chars : List Character)
    (same : version.1 = digitsValue 0 chars) (digit : isDigit c = true)
    (overflows : nextDigit version c = none) : ¬ Fits (digitsValue 0 (chars ++ [c])) := by
  intro fits
  rw [digitsValue_concat] at fits
  obtain ⟨next, reads, -⟩ := nextDigit_of_fits same digit fits
  rw [overflows] at reads
  cases reads

/-- Some digits, to go on with. -/
def someDigits : SomeChars isDigit := .single 48 rfl

/-- What has been read begins a request with a number that is too large. -/
theorem Reached.undefined (reached : Reached parser read)
    (ends : parser.consume c = .done .undefined) :
    ∃ text : RequestText, text.Overflows (read ++ [c]) := by
  cases consume_undefined ends with
  | major state digit overflows =>
      obtain state | state := state
      · rw [Reached, state] at reached
        obtain ⟨method, target, -, same, -, rfl⟩ := reached
        have large := not_fits_of_overflows [] same digit overflows
        exact ⟨⟨method, target, .single c digit, someDigits, []⟩, .inl ⟨large, List.prefix_rfl⟩⟩
      · rw [Reached, state] at reached
        obtain ⟨method, target, major, -, -, same, -, rfl⟩ := reached
        have large := not_fits_of_overflows major.chars same digit overflows
        exact ⟨⟨method, target, major.push c digit, someDigits, []⟩, .inl ⟨large, [],
          (List.append_nil _).trans (List.append_assoc _ _ _).symm⟩⟩
  | minor state digit overflows =>
      obtain state | state := state
      · rw [Reached, state] at reached
        obtain ⟨method, target, major, -, fits, -, same, rfl⟩ := reached
        have large := not_fits_of_overflows [] same digit overflows
        exact ⟨⟨method, target, major, .single c digit, []⟩, .inr ⟨fits, large, List.prefix_rfl⟩⟩
      · rw [Reached, state] at reached
        obtain ⟨text, -, fits, describes, rfl⟩ := reached
        have large := not_fits_of_overflows text.minor.chars describes.minor digit overflows
        exact ⟨{ text with minor := text.minor.push c digit }, .inr ⟨fits.1, large, [],
          (List.append_nil _).trans (List.append_assoc _ _ _).symm⟩⟩
  | header state change missing =>
      obtain state | state | state := state
      · rw [Reached, state] at reached
        obtain ⟨text, header, -, -, describes, -⟩ := reached
        exact absurd missing (describes.changeBack_ne_none change)
      · rw [Reached, state] at reached
        obtain ⟨text, name, -, describes, -⟩ := reached
        exact absurd missing (describes.changeBack_ne_none change)
      · rw [Reached, state] at reached
        obtain ⟨text, header, -, describes, -⟩ := reached
        exact absurd missing (describes.changeBack_ne_none change)

/-! ## What may follow -/

/-- Something is missing to make what has been read a request. -/
def Unfinished (read : List Character) : Prop :=
  ∃ (text : RequestText) (ending : List Character), text.VersionFits ∧ ending ≠ [] ∧
    read ++ ending = text.chars

theorem Unfinished.shorter {longer : List Character} (unfinished : Unfinished longer)
    (part : read <+: longer) : Unfinished read := by
  obtain ⟨text, ending, fits, more, whole⟩ := unfinished
  obtain ⟨rest, rfl⟩ := part
  exact ⟨text, rest ++ ending, fits, List.append_ne_nil_of_right_ne_nil rest more,
    (List.append_assoc _ _ _).symm.trans whole⟩

theorem unfinished_lines {text : RequestText} (fits : text.VersionFits) :
    Unfinished (text.lines ++ [carriageReturn]) :=
  ⟨text, [newline], fits, List.cons_ne_nil _ _, List.append_assoc _ _ _⟩

theorem unfinished_unended {text : RequestText} (header : HeaderText) (fits : text.VersionFits) :
    Unfinished (text.lines ++ header.unended ++ [carriageReturn]) := by
  have longer : (text.add header).VersionFits := fits
  refine (unfinished_lines longer).shorter ?_
  rw [lines_add]
  exact ⟨[newline, carriageReturn], by simp [endOfLine]⟩

theorem unfinished_line {text : RequestText} (fits : text.VersionFits) :
    Unfinished (text.line ++ [carriageReturn]) := by
  refine (unfinished_lines fits).shorter ⟨[newline] ++ text.headers.flatMap HeaderText.chars ++
    [carriageReturn], ?_⟩
  simp [lines, endOfLine]

theorem unfinished_major (method : SomeChars isToken) (target : Chars isTarget)
    {major : SomeChars isDigit} (fits : Fits (digitsValue 0 major.chars)) :
    Unfinished (start method target ++ httpSlash ++ major.chars ++ [dot]) := by
  have zero : Fits (digitsValue 0 someDigits.chars) := by
    rw [Fits]
    decide
  have text_fits : VersionFits ⟨method, target, major, someDigits, []⟩ := ⟨fits, zero⟩
  refine (unfinished_line text_fits).shorter ?_
  exact ⟨someDigits.chars ++ [carriageReturn], (List.append_assoc _ _ _).symm⟩

theorem unfinished_start (method : SomeChars isToken) (target : Chars isTarget) :
    Unfinished (start method target ++ httpSlash) := by
  have zero : Fits (digitsValue 0 someDigits.chars) := by
    rw [Fits]
    decide
  refine (unfinished_major method target zero).shorter ⟨someDigits.chars ++ [dot], ?_⟩
  exact (List.append_assoc _ _ _).symm

/-- As long as the parser goes on. -/
theorem Reached.unfinished (reached : Reached parser read) : Unfinished read := by
  obtain ⟨state, req⟩ := parser
  cases state with
  | methodStart =>
      obtain ⟨-, rfl⟩ := reached
      exact (unfinished_start (.single letterH rfl) .empty).shorter ⟨_, rfl⟩
  | method =>
      obtain ⟨method, -, rfl⟩ := reached
      refine (unfinished_start method .empty).shorter ?_
      exact ⟨[space] ++ [space] ++ httpSlash, by simp [start]⟩
  | uri =>
      obtain ⟨method, target, -, rfl⟩ := reached
      refine (unfinished_start method target).shorter ?_
      exact ⟨[space] ++ httpSlash, by simp [start]⟩
  | httpVersionH =>
      obtain ⟨method, target, -, rfl⟩ := reached
      exact (unfinished_start method target).shorter (List.prefix_append _ _)
  | httpVersionT1 =>
      obtain ⟨method, target, -, rfl⟩ := reached
      refine (unfinished_start method target).shorter ?_
      exact ⟨[letterT, letterT, letterP, slash], by simp [httpSlash]⟩
  | httpVersionT2 =>
      obtain ⟨method, target, -, rfl⟩ := reached
      refine (unfinished_start method target).shorter ?_
      exact ⟨[letterT, letterP, slash], by simp [httpSlash]⟩
  | httpVersionP =>
      obtain ⟨method, target, -, rfl⟩ := reached
      refine (unfinished_start method target).shorter ?_
      exact ⟨[letterP, slash], by simp [httpSlash]⟩
  | httpVersionSlash =>
      obtain ⟨method, target, -, rfl⟩ := reached
      refine (unfinished_start method target).shorter ?_
      exact ⟨[slash], by simp [httpSlash]⟩
  | httpVersionMajorStart =>
      obtain ⟨method, target, -, -, -, rfl⟩ := reached
      exact unfinished_start method target
  | httpVersionMajor =>
      obtain ⟨method, target, major, -, fits, -, -, rfl⟩ := reached
      exact (unfinished_major method target fits).shorter (List.prefix_append _ _)
  | httpVersionMinorStart =>
      obtain ⟨method, target, major, -, fits, -, -, rfl⟩ := reached
      exact unfinished_major method target fits
  | httpVersionMinor =>
      obtain ⟨text, -, fits, -, rfl⟩ := reached
      exact (unfinished_line fits).shorter (List.prefix_append _ _)
  | expectingNewline1 =>
      obtain ⟨text, -, fits, -, rfl⟩ := reached
      exact unfinished_line fits
  | headerLineStart =>
      obtain ⟨text, fits, -, rfl⟩ := reached
      exact (unfinished_lines fits).shorter (List.prefix_append _ _)
  | headerLws =>
      obtain ⟨text, header, blanks, fits, -, rfl⟩ := reached
      refine (unfinished_unended (header.addLine ⟨blanks, .empty, nofun⟩) fits).shorter ?_
      rw [HeaderText.unended_addLine, Continuation.chars]
      exact ⟨[carriageReturn], by simp [endOfLine]⟩
  | headerName =>
      obtain ⟨text, name, fits, -, rfl⟩ := reached
      refine (unfinished_unended (.named name) fits).shorter ?_
      exact ⟨[colon, space, carriageReturn], by simp [HeaderText.unended, HeaderText.named]⟩
  | spaceBeforeHeaderValue =>
      obtain ⟨text, name, fits, -, rfl⟩ := reached
      refine (unfinished_unended (.named name) fits).shorter ?_
      exact ⟨[space, carriageReturn], by simp [HeaderText.unended, HeaderText.named]⟩
  | headerValue =>
      obtain ⟨text, header, fits, -, -, rfl⟩ := reached
      exact (unfinished_unended header fits).shorter (List.prefix_append _ _)
  | expectingNewline2 =>
      obtain ⟨text, header, fits, -, rfl⟩ := reached
      exact unfinished_unended header fits
  | expectingNewline3 =>
      obtain ⟨text, fits, -, rfl⟩ := reached
      exact unfinished_lines fits

end Asio.Http
