import Asio.Http.RequestSound

/-! # Every request is read

The parser reads the text of a request to its end, unless a number of the version is too large.
-/

namespace Asio.Http

open Scanner RequestText

/-- The parser goes on from one state to another. -/
abbrev LeadsTo (parser : RequestParser) (read : List Character) (next : RequestParser) : Prop :=
  Leads RequestParser.consume parser read next

/-! ## Characters -/

theorem isToken_passes {c : Character} (token : isToken c = true) :
    (!isChar c || isCtl c || isTspecial c) = false := by
  rwa [isToken, Bool.not_eq_true'] at token

theorem ne_of_isToken {c d : Character} (token : isToken c = true) (other : isToken d = false) :
    c ≠ d := by
  rintro rfl
  rw [token] at other
  cases other

theorem isCtl_of_isValue {c : Character} (valid : isValue c = true) : isCtl c = false := by
  rwa [isValue, Bool.not_eq_true'] at valid

theorem ne_of_isValue {c d : Character} (valid : isValue c = true) (control : isCtl d = true) :
    c ≠ d := by
  rintro rfl
  rw [isCtl_of_isValue valid] at control
  cases control

variable (req : Request)

/-! ## The first line -/

/-- The parser in the midst of a request. -/
abbrev midst (state : State) (req : Request) : RequestParser := ⟨state, req⟩

theorem leads_method (method : SomeChars isToken) (nothing : req.method = []) :
    LeadsTo (midst .methodStart req) method.chars
      (midst .method { req with method := method.chars }) := by
  obtain ⟨⟨chars, valid⟩, nonempty⟩ := method
  cases chars with
  | nil => exact absurd rfl nonempty
  | cons c chars =>
      have first := isToken_passes (valid c List.mem_cons_self)
      have stepped : (midst .methodStart req).consume c =
          .more (midst .method { req with method := [c] }) := by
        simp only [RequestParser.consume, first, Bool.false_eq_true, if_false, nothing,
          List.nil_append]
      refine .cons stepped ?_
      refine Leads.each (fun read => midst .method { req with method := read }) ?_ [c]
      intro read d member
      have token := valid d (.tail _ member)
      simp only [RequestParser.consume, isToken_passes token, Bool.false_eq_true, if_false,
        if_neg (ne_of_isToken token (show isToken space = false by decide))]

theorem leads_target (target : Chars isTarget) (nothing : req.uri = []) :
    LeadsTo (midst .method req) ([space] ++ target.chars ++ [space])
      (midst .httpVersionH { req with uri := target.chars }) := by
  have begins : LeadsTo (midst .method req) [space] (midst .uri { req with uri := [] }) := by
    obtain ⟨method, uri, major, minor, headers⟩ := req
    cases nothing
    rfl
  have collects : LeadsTo (midst .uri { req with uri := [] }) target.chars
      (midst .uri { req with uri := target.chars }) := by
    refine Leads.each (fun read => midst .uri { req with uri := read }) ?_ []
    intro read c member
    have valid := target.valid c member
    rw [isTarget, Bool.and_eq_true, bne_iff_ne, Bool.not_eq_true'] at valid
    simp only [RequestParser.consume, if_neg valid.1, valid.2, Bool.false_eq_true, if_false]
  have ends : LeadsTo (midst .uri { req with uri := target.chars }) [space]
      (midst .httpVersionH { req with uri := target.chars }) := rfl
  exact (begins.append collects).append ends

theorem leads_httpSlash : LeadsTo (midst .httpVersionH req) httpSlash
    (midst .httpVersionMajorStart { req with
      httpVersionMajor := IntValue.zero
      httpVersionMinor := IntValue.zero }) := rfl

/-! ## Numbers -/

theorem le_digitsValue (before : Nat) (chars : List Character) :
    before ≤ digitsValue before chars := by
  induction chars generalizing before with
  | nil => exact le_rfl
  | cons c chars ih => exact le_trans (by omega) (ih (before * 10 + (c.toNat - 48)))

section Digits

variable {reading : IntValue → RequestParser} {chars : List Character} {version : IntValue}
  {before : Nat}

/-- A state in which digits are read. -/
def ReadsDigits (reading : IntValue → RequestParser) (parser : RequestParser)
    (version : IntValue) : Prop :=
  ∀ c, isDigit c = true → parser.consume c = match nextDigit version c with
    | some next => .more (reading next)
    | none => .done .undefined

/-- Digits are read into a number that fits. -/
theorem leads_digits (reads : ∀ version, ReadsDigits reading (reading version) version)
    (digits : ∀ c ∈ chars, isDigit c = true) (same : version.1 = before)
    (fits : Fits (digitsValue before chars)) :
    ∃ last : IntValue, last.1 = digitsValue before chars ∧
      LeadsTo (reading version) chars (reading last) := by
  induction chars generalizing version before with
  | nil => exact ⟨version, same, .nil⟩
  | cons c chars ih =>
      have small : Fits (before * 10 + (c.toNat - 48)) :=
        (Nat.add_le_add_right (le_digitsValue _ chars) 48).trans fits
      have digit := digits c List.mem_cons_self
      obtain ⟨next, steps, value⟩ := nextDigit_of_fits same digit small
      obtain ⟨last, ends, leads⟩ := ih (fun d member => digits d (.tail _ member)) value fits
      refine ⟨last, ends, .cons ?_ leads⟩
      rw [reads version c digit, steps]

/-- Or there are too many of them. -/
theorem scan_digits_undefined (reads : ∀ version, ReadsDigits reading (reading version) version)
    (digits : ∀ c ∈ chars, isDigit c = true) (same : version.1 = before) (some : chars ≠ [])
    (large : ¬ Fits (digitsValue before chars)) :
    ∃ left, scan RequestParser.consume (reading version) chars = (.done .undefined, left) := by
  induction chars generalizing version before with
  | nil => exact absurd rfl some
  | cons c chars ih =>
      have digit := digits c List.mem_cons_self
      have reads_c := reads version c digit
      by_cases small : Fits (before * 10 + (c.toNat - 48))
      · obtain ⟨next, steps, value⟩ := nextDigit_of_fits same digit small
        rw [steps] at reads_c
        have more : chars ≠ [] := by
          rintro rfl
          exact large small
        obtain ⟨left, scanned⟩ := ih (fun d member => digits d (.tail _ member)) value more large
        exact ⟨left, (scan_more reads_c).trans scanned⟩
      · rw [nextDigit_of_not_fits same digit small] at reads_c
        exact ⟨chars, scan_done reads_c⟩

variable {parser : RequestParser}

/-- The first digit is read in a state of its own. -/
theorem scan_digits_start (starts : ReadsDigits reading parser version)
    (reads : ReadsDigits reading (reading version) version) (digits : SomeChars isDigit) :
    scan RequestParser.consume parser digits.chars =
      scan RequestParser.consume (reading version) digits.chars := by
  obtain ⟨⟨chars, valid⟩, nonempty⟩ := digits
  cases chars with
  | nil => exact absurd rfl nonempty
  | cons c chars =>
      have digit := valid c List.mem_cons_self
      rw [scan, scan, starts c digit, reads c digit]

theorem leads_number (starts : ReadsDigits reading parser version)
    (reads : ∀ version, ReadsDigits reading (reading version) version) (zero : version.1 = 0)
    (digits : SomeChars isDigit) (fits : Fits (digitsValue 0 digits.chars)) :
    ∃ last : IntValue, last.1 = digitsValue 0 digits.chars ∧
      LeadsTo parser digits.chars (reading last) := by
  obtain ⟨last, value, leads⟩ := leads_digits reads digits.valid zero fits
  exact ⟨last, value, (scan_digits_start starts (reads version) digits).trans leads⟩

theorem scan_number_undefined (starts : ReadsDigits reading parser version)
    (reads : ∀ version, ReadsDigits reading (reading version) version) (zero : version.1 = 0)
    (digits : SomeChars isDigit) (large : ¬ Fits (digitsValue 0 digits.chars)) :
    ∃ left, scan RequestParser.consume parser digits.chars = (.done .undefined, left) := by
  obtain ⟨left, scanned⟩ := scan_digits_undefined reads digits.valid zero digits.nonempty large
  exact ⟨left, (scan_digits_start starts (reads version) digits).trans scanned⟩

end Digits

theorem readsDigits_major (version : IntValue) :
    ReadsDigits (fun version => midst .httpVersionMajor { req with httpVersionMajor := version })
      (midst .httpVersionMajor { req with httpVersionMajor := version }) version := by
  intro c digit
  have notDot : c ≠ dot := by
    rintro rfl
    cases digit
  simp only [RequestParser.consume, if_neg notDot, if_pos digit]
  cases nextDigit version c <;> rfl

theorem readsDigits_majorStart :
    ReadsDigits (fun version => midst .httpVersionMajor { req with httpVersionMajor := version })
      (midst .httpVersionMajorStart req) req.httpVersionMajor := by
  intro c digit
  simp only [RequestParser.consume, if_pos digit]
  cases nextDigit req.httpVersionMajor c <;> rfl

theorem readsDigits_minor (version : IntValue) :
    ReadsDigits (fun version => midst .httpVersionMinor { req with httpVersionMinor := version })
      (midst .httpVersionMinor { req with httpVersionMinor := version }) version := by
  intro c digit
  have notReturn : c ≠ carriageReturn := by
    rintro rfl
    cases digit
  simp only [RequestParser.consume, if_neg notReturn, if_pos digit]
  cases nextDigit version c <;> rfl

theorem readsDigits_minorStart :
    ReadsDigits (fun version => midst .httpVersionMinor { req with httpVersionMinor := version })
      (midst .httpVersionMinorStart req) req.httpVersionMinor := by
  intro c digit
  simp only [RequestParser.consume, if_pos digit]
  cases nextDigit req.httpVersionMinor c <;> rfl

/-! ## Headers -/

/-- The last header of a request, after others. -/
abbrev withBack (req : Request) (before : List Header) (header : Header) : Request :=
  { req with headers := before ++ [header] }

theorem pushName_withBack (before : List Header) (header : Header) (c : Character) :
    (withBack req before header).pushName c =
      some (withBack req before { header with name := header.name ++ [c] }) := by
  rw [Request.pushName, Request.changeBack]
  simp only [List.getLast?_concat, List.dropLast_concat]

theorem pushValue_withBack (before : List Header) (header : Header) (c : Character) :
    (withBack req before header).pushValue c =
      some (withBack req before { header with value := header.value ++ [c] }) := by
  rw [Request.pushValue, Request.changeBack]
  simp only [List.getLast?_concat, List.dropLast_concat]

theorem leads_name (name : SomeChars isToken) :
    LeadsTo (midst .headerLineStart req) name.chars
      (midst .headerName (withBack req req.headers ⟨name.chars, []⟩)) := by
  obtain ⟨⟨chars, valid⟩, nonempty⟩ := name
  cases chars with
  | nil => exact absurd rfl nonempty
  | cons c chars =>
      have token := valid c List.mem_cons_self
      have notReturn := ne_of_isToken token (show isToken carriageReturn = false by decide)
      have notSpace := ne_of_isToken token (show isToken space = false by decide)
      have notTab := ne_of_isToken token (show isToken tab = false by decide)
      have stepped : (midst .headerLineStart req).consume c =
          .more (midst .headerName (withBack req req.headers ⟨[c], []⟩)) := by
        simp only [RequestParser.consume, if_neg notReturn, beq_false_of_ne notSpace,
          beq_false_of_ne notTab, Bool.or_self, Bool.and_false, Bool.false_eq_true, if_false,
          isToken_passes token]
      refine .cons stepped ?_
      refine Leads.each (fun read => midst .headerName (withBack req req.headers ⟨read, []⟩)) ?_ [c]
      intro read d member
      have token := valid d (.tail _ member)
      have notColon := ne_of_isToken token (show isToken colon = false by decide)
      simp only [RequestParser.consume, if_neg notColon, isToken_passes token, Bool.false_eq_true,
        if_false, pushName_withBack, goOn]

theorem leads_value (before : List Header) (name read : List Character) {chars : List Character}
    (valid : ∀ c ∈ chars, isValue c = true) :
    LeadsTo (midst .headerValue (withBack req before ⟨name, read⟩)) chars
      (midst .headerValue (withBack req before ⟨name, read ++ chars⟩)) := by
  refine Leads.each (fun read => midst .headerValue (withBack req before ⟨name, read⟩)) ?_ read
  intro read c member
  have notReturn := ne_of_isValue (valid c member) (show isCtl carriageReturn = true by decide)
  simp only [RequestParser.consume, if_neg notReturn, isCtl_of_isValue (valid c member),
    Bool.false_eq_true, if_false, pushValue_withBack, goOn]

/-- The states in which a line of a value may end. -/
def EndsLine (state : State) : Prop := state = .headerValue ∨ state = .headerLws

theorem leads_endOfLine {state : State} (ends : EndsLine state) :
    LeadsTo (midst state req) endOfLine (midst .headerLineStart req) := by
  obtain rfl | rfl := ends
  · rfl
  · rfl

theorem isBlank_iff {c : Character} : isBlank c = true ↔ c = space ∨ c = tab := by
  rw [isBlank, Bool.or_eq_true, beq_iff_eq, beq_iff_eq]

theorem ne_carriageReturn_of_isBlank {c : Character} (blank : isBlank c = true) :
    c ≠ carriageReturn := by
  rintro rfl
  cases blank

theorem leads_blanks (blanks : SomeChars isBlank) (some : req.headers.isEmpty = false) :
    LeadsTo (midst .headerLineStart req) blanks.chars (midst .headerLws req) := by
  obtain ⟨⟨chars, valid⟩, nonempty⟩ := blanks
  cases chars with
  | nil => exact absurd rfl nonempty
  | cons c chars =>
      have blank : (c == space || c == tab) = true := valid c List.mem_cons_self
      have stepped : (midst .headerLineStart req).consume c = .more (midst .headerLws req) := by
        simp only [RequestParser.consume, if_neg (ne_carriageReturn_of_isBlank blank), some,
          Bool.not_false, blank, Bool.and_self, if_true]
      refine .cons stepped ?_
      refine Leads.each (fun _ => midst .headerLws req) ?_ []
      intro read d member
      have blank := valid d (.tail _ member)
      simp only [RequestParser.consume, if_neg (ne_carriageReturn_of_isBlank blank),
        if_pos (isBlank_iff.mp blank)]

/-- A value goes on in another line. -/
theorem leads_continuation {state : State} (ends : EndsLine state) (before : List Header)
    (name read : List Character) (line : Continuation) : ∃ after, EndsLine after ∧
      LeadsTo (midst state (withBack req before ⟨name, read⟩)) line.chars
        (midst after (withBack req before ⟨name, read ++ line.text.chars⟩)) := by
  have some : (withBack req before ⟨name, read⟩).headers.isEmpty = false := by
    rw [List.isEmpty_eq_false_iff]
    exact List.concat_ne_nil _ _
  have begins := (leads_endOfLine _ ends).append (leads_blanks _ line.blanks some)
  obtain ⟨blanks, ⟨chars, valid⟩, starts⟩ := line
  cases chars with
  | nil =>
      refine ⟨.headerLws, .inr rfl, ?_⟩
      rw [Continuation.chars, List.append_nil, List.append_nil]
      exact begins
  | cons c chars =>
      have visible : ¬ (c = space ∨ c = tab) := by
        rw [← isBlank_iff, Bool.not_eq_true]
        exact starts c rfl
      have value := valid c List.mem_cons_self
      have notReturn := ne_of_isValue value (show isCtl carriageReturn = true by decide)
      have stepped : (midst .headerLws (withBack req before ⟨name, read⟩)).consume c =
          .more (midst .headerValue (withBack req before ⟨name, read ++ [c]⟩)) := by
        simp only [RequestParser.consume, if_neg notReturn, if_neg visible, isCtl_of_isValue value,
          Bool.false_eq_true, if_false, pushValue_withBack, goOn]
      have rest := leads_value req before name (read ++ [c]) fun d member =>
        valid d (.tail c member)
      rw [List.append_assoc] at rest
      exact ⟨.headerValue, .inl rfl, begins.append (.cons stepped rest)⟩

theorem leads_continuations {state : State} (ends : EndsLine state) (before : List Header)
    (name read : List Character) (lines : List Continuation) : ∃ after, EndsLine after ∧
      LeadsTo (midst state (withBack req before ⟨name, read⟩)) (lines.flatMap Continuation.chars)
        (midst after (withBack req before
          ⟨name, read ++ lines.flatMap fun line => line.text.chars⟩)) := by
  induction lines generalizing state read with
  | nil =>
      refine ⟨state, ends, ?_⟩
      rw [List.flatMap_nil, List.flatMap_nil, List.append_nil]
      exact .nil
  | cons line lines ih =>
      obtain ⟨middle, again, first⟩ := leads_continuation req ends before name read line
      obtain ⟨after, still, rest⟩ := ih again (read ++ line.text.chars)
      rw [List.append_assoc] at rest
      exact ⟨after, still, first.append rest⟩

theorem leads_header (header : HeaderText) :
    LeadsTo (midst .headerLineStart req) header.chars
      (midst .headerLineStart (withBack req req.headers header.header)) := by
  have name := leads_name req header.name
  have separator : LeadsTo (midst .headerName (withBack req req.headers ⟨header.name.chars, []⟩))
      [colon, space]
      (midst .headerValue (withBack req req.headers ⟨header.name.chars, []⟩)) := rfl
  have first := leads_value req req.headers header.name.chars [] header.first.valid
  obtain ⟨after, ends, rest⟩ := leads_continuations req (.inl rfl) req.headers
    header.name.chars header.first.chars header.continuations
  exact (((name.append separator).append first).append rest).append (leads_endOfLine _ ends)

theorem leads_headers (headers : List HeaderText) :
    LeadsTo (midst .headerLineStart req) (headers.flatMap HeaderText.chars)
      (midst .headerLineStart { req with
        headers := req.headers ++ headers.map HeaderText.header }) := by
  induction headers generalizing req with
  | nil =>
      rw [List.map_nil, List.append_nil]
      exact .nil
  | cons header headers ih =>
      have rest := ih (withBack req req.headers header.header)
      rw [List.append_assoc] at rest
      exact (leads_header req header).append rest

/-! ## Requests -/

namespace RequestText

variable {req} (text : RequestText)

/-- A request of which the method and the target have been read. -/
abbrev started (req : Request) : Request := { req with
  method := text.method.chars
  uri := text.target.chars
  httpVersionMajor := IntValue.zero
  httpVersionMinor := IntValue.zero }

/-- The first line up to the version. -/
theorem leads_start (fresh : Started req [] []) :
    LeadsTo (midst .methodStart req) (start text.method text.target ++ httpSlash)
      (midst .httpVersionMajorStart (text.started req)) := by
  have method := leads_method req text.method fresh.method
  have target := leads_target { req with method := text.method.chars } text.target fresh.uri
  have split : start text.method text.target =
      text.method.chars ++ ([space] ++ text.target.chars ++ [space]) := by
    simp only [start, List.append_assoc]
  rw [split]
  exact (method.append target).append (leads_httpSlash _)

/-- The major version, if it fits. -/
theorem leads_major (fresh : Started req [] []) (fits : Fits (digitsValue 0 text.major.chars)) :
    ∃ major : IntValue, major.1 = digitsValue 0 text.major.chars ∧
      LeadsTo (midst .methodStart req)
        (start text.method text.target ++ httpSlash ++ text.major.chars ++ [dot])
        (midst .httpVersionMinorStart { text.started req with httpVersionMajor := major }) := by
  obtain ⟨major, value, leads⟩ := leads_number (readsDigits_majorStart (text.started req))
    (readsDigits_major _) rfl text.major fits
  have point : LeadsTo
      (midst .httpVersionMajor { text.started req with httpVersionMajor := major }) [dot]
      (midst .httpVersionMinorStart { text.started req with httpVersionMajor := major }) := rfl
  exact ⟨major, value, ((text.leads_start fresh).append leads).append point⟩

/-- The first line. -/
theorem leads_line (fresh : Started req [] []) (fits : text.VersionFits) :
    ∃ major minor : IntValue, major.1 = digitsValue 0 text.major.chars ∧
      minor.1 = digitsValue 0 text.minor.chars ∧
      LeadsTo (midst .methodStart req) (text.line ++ endOfLine)
        (midst .headerLineStart { text.started req with
          httpVersionMajor := major
          httpVersionMinor := minor }) := by
  obtain ⟨major, majorValue, begins⟩ := text.leads_major fresh fits.1
  obtain ⟨minor, minorValue, leads⟩ := leads_number
    (readsDigits_minorStart { text.started req with httpVersionMajor := major })
    (readsDigits_minor _) rfl text.minor fits.2
  have ends : LeadsTo (midst .httpVersionMinor { text.started req with
      httpVersionMajor := major
      httpVersionMinor := minor }) endOfLine
    (midst .headerLineStart { text.started req with
      httpVersionMajor := major
      httpVersionMinor := minor }) := rfl
  exact ⟨major, minor, majorValue, minorValue, (begins.append leads).append ends⟩

/-- A request is read to its end. -/
theorem scan_chars (fresh : Started req [] []) (fits : text.VersionFits) :
    ∃ last, text.Describes last ∧
      parse (midst .methodStart req) text.chars = (.done (.good last), []) := by
  obtain ⟨major, minor, majorValue, minorValue, line⟩ := text.leads_line fresh fits
  have headers := leads_headers { text.started req with
    httpVersionMajor := major
    httpVersionMinor := minor } text.headers
  refine ⟨{ text.started req with
    httpVersionMajor := major
    httpVersionMinor := minor
    headers := req.headers ++ text.headers.map HeaderText.header }, ?_, ?_⟩
  · refine ⟨rfl, rfl, majorValue, minorValue, ?_⟩
    rw [fresh.headers, List.nil_append]
  · rw [chars, lines, parse, (line.append headers).scan_append]
    rfl

/-- Unless a number is too large. -/
theorem scan_overflows (fresh : Started req [] []) {input : List Character}
    (overflows : text.Overflows input) :
    ∃ left, parse (midst .methodStart req) input = (.done .undefined, left) := by
  obtain ⟨large, rest, rfl⟩ | ⟨fits, large, rest, rfl⟩ := overflows
  · obtain ⟨left, scanned⟩ := scan_number_undefined (readsDigits_majorStart (text.started req))
      (readsDigits_major _) rfl text.major large
    rw [parse, List.append_assoc, (text.leads_start fresh).scan_append]
    exact ⟨_, scan_append_of_done scanned rest⟩
  · obtain ⟨major, -, begins⟩ := text.leads_major fresh fits
    obtain ⟨left, scanned⟩ := scan_number_undefined
      (readsDigits_minorStart { text.started req with httpVersionMajor := major })
      (readsDigits_minor _) rfl text.minor large
    rw [parse, line, List.append_assoc, begins.scan_append]
    exact ⟨_, scan_append_of_done scanned rest⟩

end RequestText

end Asio.Http
