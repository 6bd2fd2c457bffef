import Asio.Http.RequestComplete

/-! # What a connection answers

The reads of a connection cut what the client sends anywhere. It answers as if all had been read at
once: it handles a request where the client has sent one, refuses what no request begins with, and
reads on in between.
-/

namespace Asio.Http

open Scanner RequestText

variable {Error : Type*} (aborted : Error → Bool)

/-- What has been read before an error. -/
def received : List (Except Error (List Character)) → List Character
  | .ok bytes :: reads => bytes ++ received reads
  | .error _ :: _ => []
  | [] => []

/-- Where the reads end that do not end a request. -/
def readsEnd : List (Except Error (List Character)) → ConnectionEnd
  | .ok _ :: reads => readsEnd reads
  | .error ec :: _ => if aborted ec then .aborted else .stop
  | [] => .reading

/-- What the connection does with a verdict. -/
def connectionEnd (waiting : ConnectionEnd) : Verdict RequestParser ParseResult → ConnectionEnd
  | .more _ => waiting
  | .done (.good req) => .handleRequest req
  | .done .bad => .badRequest
  | .done .undefined => .undefined

variable {aborted}

/-- It does not matter how what is sent is cut. -/
theorem doRead_eq (parser : RequestParser) (reads : List (Except Error (List Character))) :
    doRead aborted parser reads =
      connectionEnd (readsEnd aborted reads) (parse parser (received reads)).1 := by
  induction reads generalizing parser with
  | nil => rfl
  | cons read reads ih =>
      cases read with
      | error ec => rfl
      | ok bytes =>
          rcases scanned : parse parser bytes with ⟨next | result, left⟩
          · have leads : LeadsTo parser bytes next := by
              rw [LeadsTo, Leads, ← parse, scanned, left_of_more scanned]
            rw [doRead, scanned, received, parse, leads.scan_append]
            exact ih next
          · rw [doRead, scanned, received, parse, scan_append_of_done scanned]
            cases result <;> rfl

/-! ## The verdicts of the parser -/

section Verdicts

variable {req : Request} (fresh : Started req [] []) {input : List Character}

include fresh

theorem parse_good {text : RequestText} (fits : text.VersionFits) (begins : text.chars <+: input) :
    ∃ last left, text.Describes last ∧
      parse (midst .methodStart req) input = (.done (.good last), left) := by
  obtain ⟨last, describes, scanned⟩ := text.scan_chars fresh fits
  obtain ⟨rest, rfl⟩ := begins
  exact ⟨last, rest, describes, scan_append_of_done scanned rest⟩

theorem parse_more (unfinished : Unfinished input) :
    ∃ next, parse (midst .methodStart req) input = (.more next, []) := by
  obtain ⟨text, ending, fits, some, whole⟩ := unfinished
  obtain ⟨last, -, scanned⟩ := text.scan_chars fresh fits
  obtain ⟨next, leads⟩ | ⟨result, left, found⟩ :=
    scan_cases RequestParser.consume (midst .methodStart req) input
  · exact ⟨next, leads⟩
  · rw [← whole, parse, scan_append_of_done found, Prod.mk.injEq] at scanned
    exact absurd (List.append_eq_nil_iff.mp scanned.2).2 some

variable (input)

/-- What the parser has found if it does not refuse the input. -/
theorem parse_cases : (∃ next, parse (midst .methodStart req) input = (.more next, []) ∧
      Unfinished input) ∨
    (∃ last left text, parse (midst .methodStart req) input = (.done (.good last), left) ∧
      VersionFits text ∧ text.Describes last ∧ text.chars <+: input) ∨
    (∃ left text, parse (midst .methodStart req) input = (.done .undefined, left) ∧
      Overflows text input) ∨
    ∃ left, parse (midst .methodStart req) input = (.done .bad, left) := by
  have start : Reached (midst .methodStart req) [] := ⟨fresh, rfl⟩
  have step : ∀ parser read c next, Reached parser read →
      RequestParser.consume parser c = .more next → Reached next (read ++ [c]) :=
    fun _ _ _ _ reached stepped => reached.step stepped
  obtain ⟨next, leads⟩ | ⟨result, left, found⟩ :=
    scan_cases RequestParser.consume (midst .methodStart req) input
  · exact .inl ⟨next, leads, (leads.invariant step start).unfinished⟩
  · obtain ⟨before, middle, c, rfl, leads, ends⟩ := exists_of_done found
    have reached := leads.invariant step start
    have whole : before ++ c :: left = [] ++ before ++ [c] ++ left := by simp
    cases result with
    | good last =>
        obtain ⟨text, fits, describes, same⟩ := reached.good ends
        refine .inr (.inl ⟨last, left, text, found, fits, describes, left, ?_⟩)
        rw [whole, same]
    | undefined =>
        obtain ⟨text, overflows⟩ := reached.undefined ends
        refine .inr (.inr (.inl ⟨left, text, found, ?_⟩))
        rw [whole]
        exact overflows.append left
    | bad => exact .inr (.inr (.inr ⟨left, found⟩))

theorem parse_good_iff {last : Request} :
    (parse (midst .methodStart req) input).1 = .done (.good last) ↔ ∃ text : RequestText,
      text.VersionFits ∧ text.Describes last ∧ text.chars <+: input := by
  constructor
  · intro good
    obtain ⟨next, found, -⟩ | ⟨other, left, text, found, fits, describes, begins⟩ |
      ⟨left, text, found, -⟩ | ⟨left, found⟩ := parse_cases fresh input
    · rw [found] at good
      cases good
    · rw [found] at good
      cases good
      exact ⟨text, fits, describes, begins⟩
    · rw [found] at good
      cases good
    · rw [found] at good
      cases good
  · rintro ⟨text, fits, describes, begins⟩
    obtain ⟨other, left, described, found⟩ := parse_good fresh fits begins
    rw [found, describes.unique described]

theorem parse_more_iff :
    (∃ next, (parse (midst .methodStart req) input).1 = .more next) ↔ Unfinished input := by
  constructor
  · rintro ⟨next, more⟩
    obtain ⟨next, found, unfinished⟩ | ⟨other, left, text, found, -⟩ | ⟨left, text, found, -⟩ |
      ⟨left, found⟩ := parse_cases fresh input
    · exact unfinished
    · rw [found] at more
      cases more
    · rw [found] at more
      cases more
    · rw [found] at more
      cases more
  · intro unfinished
    obtain ⟨next, found⟩ := parse_more fresh unfinished
    exact ⟨next, congrArg Prod.fst found⟩

theorem parse_undefined_iff : (parse (midst .methodStart req) input).1 = .done .undefined ↔
    ∃ text : RequestText, text.Overflows input := by
  constructor
  · intro undefined
    obtain ⟨next, found, -⟩ | ⟨other, left, text, found, -⟩ | ⟨left, text, found, overflows⟩ |
      ⟨left, found⟩ := parse_cases fresh input
    · rw [found] at undefined
      cases undefined
    · rw [found] at undefined
      cases undefined
    · exact ⟨text, overflows⟩
    · rw [found] at undefined
      cases undefined
  · rintro ⟨text, overflows⟩
    obtain ⟨left, found⟩ := text.scan_overflows fresh overflows
    exact congrArg Prod.fst found

theorem parse_bad_iff : (parse (midst .methodStart req) input).1 = .done .bad ↔
    ¬ Unfinished input ∧ ∀ text : RequestText, ¬ text.Overflows input ∧
      (text.VersionFits → ¬ text.chars <+: input) := by
  constructor
  · intro bad
    refine ⟨fun unfinished => ?_, fun text => ⟨fun overflows => ?_, fun fits begins => ?_⟩⟩
    · obtain ⟨next, found⟩ := parse_more fresh unfinished
      rw [found] at bad
      cases bad
    · obtain ⟨left, found⟩ := text.scan_overflows fresh overflows
      rw [found] at bad
      cases bad
    · obtain ⟨last, left, -, found⟩ := parse_good fresh fits begins
      rw [found] at bad
      cases bad
  · rintro ⟨finished, none⟩
    obtain ⟨next, -, unfinished⟩ | ⟨other, left, text, -, fits, -, begins⟩ |
      ⟨left, text, -, overflows⟩ | ⟨left, found⟩ := parse_cases fresh input
    · exact absurd unfinished finished
    · exact absurd begins ((none text).2 fits)
    · exact absurd overflows (none text).1
    · exact congrArg Prod.fst found

end Verdicts

/-! ## The answer -/

/-- Reads that come to no verdict end in one of three ways. -/
theorem readsEnd_cases (aborted : Error → Bool) (reads : List (Except Error (List Character))) :
    readsEnd aborted reads = .reading ∨ readsEnd aborted reads = .aborted ∨
      readsEnd aborted reads = .stop := by
  induction reads with
  | nil => exact .inl rfl
  | cons read reads ih =>
      cases read with
      | ok bytes => exact ih
      | error ec =>
          rw [readsEnd]
          split
          · exact .inr (.inl rfl)
          · exact .inr (.inr rfl)

theorem connectionEnd_iff {waiting : ConnectionEnd} (goesOn : waiting = .reading ∨
      waiting = .aborted ∨ waiting = .stop) (verdict : Verdict RequestParser ParseResult) :
    (∀ req, connectionEnd waiting verdict = .handleRequest req ↔ verdict = .done (.good req)) ∧
    (connectionEnd waiting verdict = waiting ↔ ∃ next, verdict = .more next) ∧
    (connectionEnd waiting verdict = .undefined ↔ verdict = .done .undefined) ∧
    (connectionEnd waiting verdict = .badRequest ↔ verdict = .done .bad) := by
  obtain rfl | rfl | rfl := goesOn <;> cases verdict with
  | more next => simp [connectionEnd]
  | done result => cases result <;> simp [connectionEnd]

/-- **The answer of a connection**, however what it receives is cut: it handles a request exactly
if one has come that can be read, it reads on exactly as long as some may still come, it refuses
what no request can begin with, and nothing is said only of a version that is too large. -/
theorem connection_answers (aborted : Error → Bool) (major minor : IntValue)
    (reads : List (Except Error (List Character))) :
    (∀ req, doRead aborted ⟨.methodStart, .new major minor⟩ reads = .handleRequest req ↔
      ∃ text : RequestText, text.VersionFits ∧ text.Describes req ∧
        text.chars <+: received reads) ∧
    (doRead aborted ⟨.methodStart, .new major minor⟩ reads = readsEnd aborted reads ↔
      Unfinished (received reads)) ∧
    (doRead aborted ⟨.methodStart, .new major minor⟩ reads = .undefined ↔
      ∃ text : RequestText, text.Overflows (received reads)) ∧
    (doRead aborted ⟨.methodStart, .new major minor⟩ reads = .badRequest ↔
      ¬ Unfinished (received reads) ∧ ∀ text : RequestText, ¬ text.Overflows (received reads) ∧
        (text.VersionFits → ¬ text.chars <+: received reads)) := by
  have fresh : Started (.new major minor) [] [] := ⟨rfl, rfl, rfl⟩
  rw [doRead_eq]
  obtain ⟨handles, waits, undefined, refuses⟩ := connectionEnd_iff (readsEnd_cases aborted reads)
    (parse (midst .methodStart (.new major minor)) (received reads)).1
  exact ⟨fun req => (handles req).trans (parse_good_iff fresh _),
    waits.trans (parse_more_iff fresh _), undefined.trans (parse_undefined_iff fresh _),
    refuses.trans (parse_bad_iff fresh _)⟩

/-- A request without headers, cut in the version. -/
example : doRead (fun _ : Unit => false) ⟨.methodStart, .new ⟨7, by decide⟩ ⟨8, by decide⟩⟩
    [.ok [71, space, slash, space, letterH, letterT, letterT, letterP, slash, 49],
      .ok [dot, 48, carriageReturn, newline, carriageReturn, newline]] =
    .handleRequest ⟨[71], [slash], ⟨1, by decide⟩, IntValue.zero, []⟩ := rfl

end Asio.Http
