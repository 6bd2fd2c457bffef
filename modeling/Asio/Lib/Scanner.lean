import Mathlib.Data.List.Basic

/-! # Scanners

A scanner is given one symbol at a time and goes on, or comes to a verdict and looks at no more.
What it has seen of a longer input decides the rest, and what holds of every state it goes on to is
proved once for each symbol.
-/

namespace Scanner

/-- What a scanner does with a symbol. -/
inductive Verdict (State Result : Type*) where
  | more (state : State)
  | done (result : Result)

variable {State Result Symbol : Type*} (consume : State → Symbol → Verdict State Result)

/-- The verdict on an input, and what is left of it. -/
def scan : State → List Symbol → Verdict State Result × List Symbol
  | state, [] => (.more state, [])
  | state, input :: inputs =>
      match consume state input with
      | .more next => scan next inputs
      | .done result => (.done result, inputs)

/-- A scanner goes on from one state to another. -/
def Leads (state : State) (inputs : List Symbol) (next : State) : Prop :=
  scan consume state inputs = (.more next, [])

variable {consume} {state next last : State} {first second inputs left : List Symbol}
  {result : Result}

theorem scan_more (stepped : consume state input = .more next) :
    scan consume state (input :: inputs) = scan consume next inputs := by
  rw [scan, stepped]

theorem scan_done (stepped : consume state input = .done result) :
    scan consume state (input :: inputs) = (.done result, inputs) := by
  rw [scan, stepped]

/-- Nothing is left as long as there is no verdict. -/
theorem left_of_more (scanned : scan consume state inputs = (.more next, left)) : left = [] := by
  induction inputs generalizing state with
  | nil =>
      cases scanned
      rfl
  | cons input inputs ih =>
      rw [scan] at scanned
      split at scanned
      · exact ih scanned
      · cases scanned

theorem Leads.scan_append (leads : Leads consume state first next) (second : List Symbol) :
    scan consume state (first ++ second) = scan consume next second := by
  induction first generalizing state with
  | nil =>
      cases leads
      rfl
  | cons input inputs ih =>
      rw [Leads, scan] at leads
      rw [List.cons_append, scan]
      split at leads
      · next stepped => exact ih leads
      · cases leads

/-- What follows a verdict is left. -/
theorem scan_append_of_done (scanned : scan consume state first = (.done result, left))
    (second : List Symbol) :
    scan consume state (first ++ second) = (.done result, left ++ second) := by
  induction first generalizing state with
  | nil => cases scanned
  | cons input inputs ih =>
      rw [scan] at scanned
      rw [List.cons_append, scan]
      split at scanned
      · exact ih scanned
      · cases scanned
        rfl

theorem scan_cases (consume : State → Symbol → Verdict State Result) (state : State)
    (inputs : List Symbol) : (∃ next, Leads consume state inputs next) ∨
      ∃ result left, scan consume state inputs = (.done result, left) := by
  rcases scanned : scan consume state inputs with ⟨next | result, left⟩
  · exact .inl ⟨next, by rw [Leads, scanned, left_of_more scanned]⟩
  · exact .inr ⟨result, left, rfl⟩

namespace Leads

theorem nil : Leads consume state [] state := rfl

theorem single {input : Symbol} (stepped : consume state input = .more next) :
    Leads consume state [input] next := by
  rw [Leads, scan, stepped]
  rfl

theorem append (begins : Leads consume state first next) (ends : Leads consume next second last) :
    Leads consume state (first ++ second) last :=
  (begins.scan_append second).trans ends

theorem cons {input : Symbol} (stepped : consume state input = .more next)
    (ends : Leads consume next second last) : Leads consume state (input :: second) last :=
  (single stepped).append ends

/-- Symbols that are collected. -/
theorem each (collecting : List Symbol → State)
    (stepped : ∀ collected, ∀ input ∈ inputs, consume (collecting collected) input =
      .more (collecting (collected ++ [input]))) (collected : List Symbol) :
    Leads consume (collecting collected) inputs (collecting (collected ++ inputs)) := by
  induction inputs generalizing collected with
  | nil =>
      rw [List.append_nil]
      exact nil
  | cons input inputs ih =>
      have rest := ih (fun collected other member => stepped collected other (.tail _ member))
        (collected ++ [input])
      rw [List.append_assoc] at rest
      exact cons (stepped collected input List.mem_cons_self) rest

/-- What holds of a state and what has led to it. -/
theorem invariant {reached : State → List Symbol → Prop}
    (preserved : ∀ state before input next, reached state before →
      consume state input = .more next → reached next (before ++ [input]))
    {before : List Symbol} (holds : reached state before)
    (leads : Leads consume state inputs next) :
    reached next (before ++ inputs) := by
  induction inputs generalizing state before with
  | nil =>
      cases leads
      rwa [List.append_nil]
  | cons input inputs ih =>
      rw [Leads, scan] at leads
      split at leads
      · next middle stepped =>
        have rest := ih (preserved _ _ _ _ holds stepped) leads
        rwa [List.append_assoc] at rest
      · cases leads

end Leads

/-- The symbol on which the verdict is come to. -/
theorem exists_of_done (scanned : scan consume state inputs = (.done result, left)) :
    ∃ before middle input, inputs = before ++ input :: left ∧
      Leads consume state before middle ∧ consume middle input = .done result := by
  induction inputs generalizing state with
  | nil => cases scanned
  | cons input inputs ih =>
      rw [scan] at scanned
      split at scanned
      · next next stepped =>
        obtain ⟨before, middle, last, same, leads, ends⟩ := ih scanned
        exact ⟨input :: before, middle, last, congrArg (input :: ·) same, .cons stepped leads,
          ends⟩
      · next found stepped =>
        cases scanned
        exact ⟨[], state, input, rfl, .nil, stepped⟩

end Scanner
