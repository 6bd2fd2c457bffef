import Mathlib.Logic.Basic

/-! # Loops that may not return

The body of a loop is a function: one pass goes round again with a new state,
leaves with a result, or is blocked on an environment that has nothing more to
say. `Returns body state result` says that the loop started in `state` leaves
with `result`; nothing is said of loops that go on for ever. The rules are those
of a while loop: an invariant, a variant, and the comparison of two loops that
pass in step until both are about to leave.
-/

namespace Loop

/-- What one pass through the body of a loop ends in. -/
inductive Pass (State Result : Type*) where
  | again (state : State)
  | leave (result : Result)
  | blocked
  deriving DecidableEq, Repr

variable {State Result : Type*}

/-- The loop started in a state leaves with a result. -/
inductive Returns (body : State → Pass State Result) : State → Result → Prop where
  | leave {state : State} {result : Result} :
      body state = .leave result → Returns body state result
  | again {state next : State} {result : Result} :
      body state = .again next → Returns body next result → Returns body state result

/-- The result of a loop that leaves within so many passes. -/
def evaluate (body : State → Pass State Result) : Nat → State → Option Result
  | 0, _ => none
  | passes + 1, state => match body state with
      | .again next => evaluate body passes next
      | .leave result => some result
      | .blocked => none

/-- A pass whose result is put through a function when the loop leaves. -/
def Pass.map {Other : Type*} (finish : Result → Other) : Pass State Result → Pass State Other
  | .again next => .again next
  | .leave result => .leave (finish result)
  | .blocked => .blocked

variable {body : State → Pass State Result}

/-- **Total rule.** A loop whose passes keep an invariant and decrease a measure,
and which leaves only with what is ensured, computes such a result in more passes
than the measure says. -/
theorem evaluate_of_variant (keeps : State → Prop) (ensures : Result → Prop)
    (measure : State → Nat)
    (proceeds : ∀ state, keeps state →
      (∃ result, body state = .leave result ∧ ensures result) ∨
      ∃ next, body state = .again next ∧ keeps next ∧ measure next < measure state)
    {passes : Nat} {state : State} (enough : measure state < passes) (initially : keeps state) :
    ∃ result, evaluate body passes state = some result ∧ ensures result := by
  induction passes generalizing state with
  | zero => exact absurd enough (Nat.not_lt_zero _)
  | succ passes ih =>
      rw [evaluate]
      rcases proceeds state initially with ⟨result, left, ensured⟩ | ⟨next, passed, kept, less⟩
      · rw [left]
        exact ⟨result, rfl, ensured⟩
      · rw [passed]
        apply ih _ kept
        omega

namespace Returns

/-- A pass that goes round again decides nothing about the result. -/
theorem of_again {state next : State} {result : Result} (passed : body state = .again next)
    (returns : Returns body state result) : Returns body next result := by
  cases returns with
  | leave left => rw [passed] at left; cases left
  | again other rest =>
      rw [passed] at other
      cases other
      exact rest

theorem of_leave {state : State} {result other : Result} (left : body state = .leave other)
    (returns : Returns body state result) : result = other := by
  cases returns with
  | leave same =>
      rw [left] at same
      cases same
      rfl
  | again passed _ => rw [left] at passed; cases passed

/-- A loop can be entered at any state that passes in the same way. -/
theorem of_eq {state other : State} {result : Result} (returns : Returns body state result)
    (same : body other = body state) : Returns body other result := by
  cases returns with
  | leave left => exact .leave (same.trans left)
  | again passed rest => exact .again (same.trans passed) rest

/-- A loop leaves with one result at most. -/
theorem unique {state : State} {result other : Result} (returns : Returns body state result)
    (others : Returns body state other) : result = other := by
  induction returns with
  | leave left => exact (others.of_leave left).symm
  | again passed _ ih => exact ih (others.of_again passed)

/-- What is true of some results of two loops is true of the results they have. -/
theorem exists_both_iff {State' Result' : Type*} {body' : State' → Pass State' Result'}
    {related : Result → Result' → Prop} {state : State} {state' : State'} {result : Result}
    {result' : Result'} (returns : Returns body state result)
    (returns' : Returns body' state' result') :
    (∃ first second, Returns body state first ∧ Returns body' state' second ∧
      related first second) ↔ related result result' := by
  constructor
  · rintro ⟨first, second, ends, ends', holds⟩
    rw [returns.unique ends, returns'.unique ends']
    exact holds
  · exact fun holds => ⟨result, result', returns, returns', holds⟩

/-- **Invariant rule.** What every pass keeps, and what a leaving pass makes of
it, holds of the result. -/
theorem invariant (keeps : State → Prop) (ensures : Result → Prop) {state : State}
    {result : Result} (returns : Returns body state result) (initially : keeps state)
    (again : ∀ state next, keeps state → body state = .again next → keeps next)
    (leave : ∀ state result, keeps state → body state = .leave result → ensures result) :
    ensures result := by
  induction returns with
  | leave left => exact leave _ _ initially left
  | again passed _ ih => exact ih (again _ _ initially passed)

/-- **Variant rule.** A loop that is never blocked, and whose passes decrease a
measure, leaves. -/
theorem of_variant (keeps : State → Prop) (measure : State → Nat) {state : State}
    (initially : keeps state)
    (proceeds : ∀ state, keeps state → (∃ result, body state = .leave result) ∨
      ∃ next, body state = .again next ∧ keeps next ∧ measure next < measure state) :
    ∃ result, Returns body state result := by
  induction bound : measure state using Nat.strongRecOn generalizing state with
  | _ size ih =>
      obtain ⟨result, left⟩ | ⟨next, passed, kept, less⟩ := proceeds state initially
      · exact ⟨result, .leave left⟩
      · obtain ⟨result, returns⟩ := ih (measure next) (bound ▸ less) kept rfl
        exact ⟨result, .again passed returns⟩

/-- The results of a loop that ends in a function of the result. -/
theorem map_iff {Other : Type*} {finish : Result → Other} {state : State} {other : Other} :
    Returns (fun state => (body state).map finish) state other ↔
      ∃ result, Returns body state result ∧ other = finish result := by
  constructor
  · intro returns
    induction returns with
    | @leave state other left =>
        cases passed : body state with
        | again next =>
            rw [passed] at left
            cases left
        | leave result =>
            rw [passed] at left
            cases left
            exact ⟨result, .leave passed, rfl⟩
        | blocked =>
            rw [passed] at left
            cases left
    | @again state next other went _ ih =>
        cases passed : body state with
        | again middle =>
            rw [passed] at went
            cases went
            obtain ⟨result, returns, same⟩ := ih
            exact ⟨result, .again passed returns, same⟩
        | leave result =>
            rw [passed] at went
            cases went
        | blocked =>
            rw [passed] at went
            cases went
  · rintro ⟨result, returns, rfl⟩
    induction returns with
    | leave left => exact .leave (by rw [left, Pass.map])
    | again passed _ ih => exact .again (by rw [passed, Pass.map]) ih

/-- A computed result is the result. -/
theorem of_evaluate {passes : Nat} {state : State} {result : Result}
    (computed : evaluate body passes state = some result) : Returns body state result := by
  induction passes generalizing state with
  | zero => cases computed
  | succ passes ih =>
      rw [evaluate] at computed
      cases passed : body state with
      | again next =>
          rw [passed] at computed
          exact .again passed (ih computed)
      | leave other =>
          rw [passed] at computed
          cases computed
          exact .leave passed
      | blocked =>
          rw [passed] at computed
          cases computed

/-- A test that the computed result passes. -/
theorem exists_of_evaluate {passes : Nat} {state : State} {test : Result → Bool}
    (computed : (evaluate body passes state).any test = true) :
    ∃ result, Returns body state result ∧ test result = true := by
  obtain ⟨result, evaluated, passed⟩ := (Option.any_eq_true _ _).mp computed
  exact ⟨result, of_evaluate evaluated, passed⟩

end Returns

/-- The states at the head of the loop, from a state on. -/
inductive Reaches (body : State → Pass State Result) (state : State) : State → Prop where
  | start : Reaches body state state
  | again {middle next : State} : Reaches body state middle → body middle = .again next →
      Reaches body state next

/-- What every pass keeps holds at the head of the loop. -/
theorem Reaches.invariant (keeps : State → Prop) {state next : State}
    (reaches : Reaches body state next) (initially : keeps state)
    (again : ∀ state next, keeps state → body state = .again next → keeps next) : keeps next := by
  induction reaches with
  | start => exact initially
  | again _ passed ih => exact again _ _ ih passed

/-- A loop that leaves at once is at its head once. -/
theorem Reaches.of_leave {state next : State} {result : Result} (left : body state = .leave result)
    (reaches : Reaches body state next) : next = state := by
  induction reaches with
  | start => rfl
  | again _ passed ih =>
      subst ih
      rw [left] at passed
      cases passed

section Compare

variable {State' Result' : Type*} {body' : State' → Pass State' Result'}

/-- Two loops agree up to a relation of their results: whenever one of them
leaves, so does the other. -/
structure Agrees (body : State → Pass State Result) (body' : State' → Pass State' Result')
    (state : State) (state' : State') (matching : Result → Result' → Prop) : Prop where
  forth : ∀ result, Returns body state result →
    ∃ result', Returns body' state' result' ∧ matching result result'
  back : ∀ result', Returns body' state' result' →
    ∃ result, Returns body state result ∧ matching result result'

/-- How two loops pass in step: both go round again, or both are about to leave,
in however many passes each, or both are blocked. -/
inductive InStep (body : State → Pass State Result) (body' : State' → Pass State' Result')
    (related : State → State' → Prop) (matching : Result → Result' → Prop)
    (state : State) (state' : State') : Prop where
  | again (next : State) (next' : State') :
      body state = .again next → body' state' = .again next' → related next next' →
      InStep body body' related matching state state'
  | leave (result : Result) (result' : Result') :
      Returns body state result → Returns body' state' result' → matching result result' →
      InStep body body' related matching state state'
  | blocked : body state = .blocked → body' state' = .blocked →
      InStep body body' related matching state state'

/-- **Comparison rule.** Loops that pass in step agree. -/
theorem Agrees.of_inStep {related : State → State' → Prop} {matching : Result → Result' → Prop}
    (passes : ∀ state state', related state state' →
      InStep body body' related matching state state')
    {state : State} {state' : State'} (initially : related state state') :
    Agrees body body' state state' matching where
  forth result returns := by
    induction returns generalizing state' with
    | leave left =>
        cases passes _ _ initially with
        | again _ _ passed => rw [left] at passed; cases passed
        | leave other result' ends ends' same =>
            cases ends.of_leave left
            exact ⟨result', ends', same⟩
        | blocked blocked => rw [left] at blocked; cases blocked
    | again passed rest ih =>
        cases passes _ _ initially with
        | again next next' passed' other still =>
            rw [passed] at passed'
            cases passed'
            obtain ⟨result', ends', same⟩ := ih still
            exact ⟨result', .again other ends', same⟩
        | leave _ result' ends ends' same =>
            exact ⟨result', ends', (ends.of_again passed).unique rest ▸ same⟩
        | blocked blocked => rw [passed] at blocked; cases blocked
  back result' returns := by
    induction returns generalizing state with
    | leave left =>
        cases passes _ _ initially with
        | again _ _ _ passed => rw [left] at passed; cases passed
        | leave result other ends ends' same =>
            cases ends'.of_leave left
            exact ⟨result, ends, same⟩
        | blocked _ blocked => rw [left] at blocked; cases blocked
    | again passed rest ih =>
        cases passes _ _ initially with
        | again next next' other passed' still =>
            rw [passed] at passed'
            cases passed'
            obtain ⟨result, ends, same⟩ := ih still
            exact ⟨result, .again other ends, same⟩
        | leave result _ ends ends' same =>
            exact ⟨result, ends, (ends'.of_again passed).unique rest ▸ same⟩
        | blocked _ blocked => rw [passed] at blocked; cases blocked

/-- Loops that agree still do when their results are put through functions. -/
theorem Agrees.map {Other Other' : Type*} {finish : Result → Other} {finish' : Result' → Other'}
    {matching : Result → Result' → Prop} {related : Other → Other' → Prop}
    {state : State} {state' : State'} (agrees : Agrees body body' state state' matching)
    (finished : ∀ result result', matching result result' →
      related (finish result) (finish' result')) :
    Agrees (fun state => (body state).map finish) (fun state => (body' state).map finish')
      state state' related where
  forth other returns := by
    obtain ⟨result, ends, rfl⟩ := Returns.map_iff.mp returns
    obtain ⟨result', ends', same⟩ := agrees.forth result ends
    exact ⟨_, Returns.map_iff.mpr ⟨result', ends', rfl⟩, finished _ _ same⟩
  back other returns := by
    obtain ⟨result', ends', rfl⟩ := Returns.map_iff.mp returns
    obtain ⟨result, ends, same⟩ := agrees.back result' ends'
    exact ⟨_, Returns.map_iff.mpr ⟨result, ends, rfl⟩, finished _ _ same⟩

end Compare

end Loop
