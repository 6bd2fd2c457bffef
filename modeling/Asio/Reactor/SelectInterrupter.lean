import Asio.Lib.Simulation
import Asio.Reactor.SelectReactor
import Asio.Reactor.EpollSet

/-! # The select reactor with its interrupter

`eventfd_select_interrupter` writes to an eventfd or, where there is none, to a pipe, and empties it
with as many reads as that takes. The select reactor does so without its lock, while other threads
may interrupt it again. Seen from outside this is a flag that is set and cleared at once.
-/

namespace Asio.Reactor

open Timer (DurationTraits)

/-- The descriptors of the interrupter: one eventfd with its counter, or the two ends of a pipe
with the bytes in it. -/
inductive Interrupter where
  | eventfd (counter : Nat)
  | pipe (bytes : Nat)
  deriving DecidableEq, Repr

namespace Interrupter

/-- `open_descriptors`, with the answers of `eventfd` with flags, of `eventfd` without, and of
`pipe`. -/
def openDescriptors (flagged plain piped : Option ℕ+) : Except ErrorCode Interrupter :=
  let opensPipe := match piped with
    | none => .ok (.pipe 0)
    | some errno => .error (.ofErrno errno)
  match flagged with
  | none => .ok (.eventfd 0)
  | some errno =>
      if errno = einval then
        match plain with
        | none => .ok (.eventfd 0)
        | some _ => opensPipe
      else opensPipe

/-- The largest value of an eventfd. -/
def maxCounter : Nat := 2 ^ 64 - 2

/-- `sizeof(uint64_t)`. -/
def wordSize : Nat := 8

/-- The size of the buffer that `reset` reads a pipe into. -/
def bufferSize : Nat := 1024

/-- `interrupt`. A write that does not fit fails. -/
def interrupt (capacity : Nat) : Interrupter → Interrupter
  | .eventfd counter =>
      if counter + 1 ≤ maxCounter then .eventfd (counter + 1) else .eventfd counter
  | .pipe bytes => if bytes + wordSize ≤ capacity then .pipe (bytes + wordSize) else .pipe bytes

/-- The read descriptor is readable. -/
def readable : Interrupter → Bool
  | .eventfd counter => decide (0 < counter)
  | .pipe bytes => decide (0 < bytes)

/-- A `read` of `reset` that is not interrupted by a signal. -/
def read : Interrupter → Interrupter
  | .eventfd _ => .eventfd 0
  | .pipe bytes => .pipe (bytes - bufferSize)

/-- A `read` that has filled the buffer; there may be more. -/
def fillsBuffer : Interrupter → Bool
  | .eventfd _ => false
  | .pipe bytes => decide (bufferSize ≤ bytes)

theorem readable_interrupt {capacity : Nat} (roomy : wordSize ≤ capacity)
    (interrupter : Interrupter) : (interrupter.interrupt capacity).readable = true := by
  cases interrupter with
  | eventfd counter =>
      by_cases fits : counter + 1 ≤ maxCounter
      · simp [interrupt, readable, fits]
      · have large : 0 < counter := by
          rw [maxCounter] at fits
          omega
        simp [interrupt, readable, fits, large]
  | pipe bytes =>
      by_cases fits : bytes + wordSize ≤ capacity
      · have some : 0 < bytes + wordSize := Nat.add_pos_right bytes (Nat.succ_pos 7)
        simp [interrupt, readable, fits, some]
      · have some : 0 < bytes := by omega
        simp [interrupt, readable, fits, some]

theorem readable_openDescriptors {flagged plain piped : Option ℕ+} {interrupter : Interrupter}
    (opened : openDescriptors flagged plain piped = .ok interrupter) :
    interrupter.readable = false := by
  have opens : interrupter = .eventfd 0 ∨ interrupter = .pipe 0 := by
    unfold openDescriptors at opened
    cases flagged with
    | none =>
        cases opened
        exact .inl rfl
    | some errno =>
        cases plain <;> cases piped <;> grind
  obtain rfl | rfl := opens
  · rfl
  · rfl

theorem readable_read {interrupter : Interrupter} (last : interrupter.fillsBuffer = false) :
    interrupter.read.readable = false := by
  cases interrupter with
  | eventfd counter => rfl
  | pipe bytes =>
      have short : ¬ bufferSize ≤ bytes := of_decide_eq_false last
      have nothing : ¬ 0 < bytes - bufferSize := by omega
      simp only [read, readable, nothing, decide_false]

end Interrupter

/-- A `reset` in progress, for this result of `select`: it has still to read something, or has
filled its buffer and reads on. -/
inductive InterrupterReset where
  | begun (result : Option (OpType → Finset Nat))
  | draining (result : Option (OpType → Finset Nat))

/-- What `select` has returned. -/
def InterrupterReset.result : InterrupterReset → Option (OpType → Finset Nat)
  | begun result => result
  | draining result => result

/-- The reactor, whose own flag is not used, the interrupter, and the `reset` that the thread in
`run` is in. -/
structure InterruptedReactor (Service Id Op Time : Type*) where
  reactor : SelectReactor Service Id Op Time
  interrupter : Interrupter
  reset : Option InterrupterReset

/-- A call, or a part of `run` but for the return of `select`; that return; and a read of `reset`,
which a signal may interrupt. -/
inductive InterruptedAction (Service Id Op Time : Type*) where
  | call (action : SelectAction Service Id Op Time)
  | select (result : Option (OpType → Finset Nat))
  | resetRead (interrupted : Bool)

namespace InterruptedReactor

variable {Service Id Op Time : Type*} [DecidableEq Service] [DecidableEq Id] [DecidableEq Op]
  [DurationTraits Time] (capacity : Nat) (setting : Setting Service Id)
  (state : InterruptedReactor Service Id Op Time)

/-- The constructor, once the descriptors are open. -/
def new (interrupter : Interrupter) : InterruptedReactor Service Id Op Time where
  reactor := .new
  interrupter := interrupter
  reset := none

/-- A call that interrupts the reactor writes to the interrupter. -/
def call (action : SelectAction Service Id Op Time) :
    Option (InterruptedReactor Service Id Op Time) :=
  (SelectReactor.step setting { state.reactor with interrupted := false } action).map fun next =>
    { state with
      reactor := { next with interrupted := false }
      interrupter := if next.interrupted = true then state.interrupter.interrupt capacity
        else state.interrupter }

/-- `select` has found that the interrupter is to be reset. -/
def resets (result : Option (OpType → Finset Nat)) : Bool :=
  let (fdSets, retval) := state.reactor.afterSelect result
  decide (0 < retval) && (fdSets .read).isSet setting.readDescriptor

/-- `run` goes on to take the lock. -/
def goesOn (ops : List (ReactorOp Op)) (result : Option (OpType → Finset Nat)) :
    InterruptedReactor Service Id Op Time :=
  { state with
    reactor := state.reactor.returnFromSelect setting ops result
    reset := none }

/-- What the reactor sees as its flag: that the interrupter is readable, or that there was
something to read in a `reset` that goes on. -/
def flag : Bool :=
  match state.reset with
  | some (.draining _) => true
  | some (.begun _) => state.interrupter.readable
  | none => state.interrupter.readable

/-- The reactor with this flag. -/
def abstract : SelectReactor Service Id Op Time := { state.reactor with interrupted := state.flag }

/-- One step. -/
def step : InterruptedAction Service Id Op Time → Option (InterruptedReactor Service Id Op Time)
  | .call action =>
      match action with
      | .select _ => none
      | _ => state.call capacity setting action
  | .select result =>
      match state.reset, state.reactor.run with
      | none, .blocked _ _ _ ops =>
          if { state.reactor with interrupted := state.interrupter.readable }.Selects setting result
          then
            if state.resets setting result = true then
              some { state with reset := some (.begun result) }
            else some (state.goesOn setting ops result)
          else none
      | _, _ => none
  | .resetRead interrupted =>
      match state.reset, state.reactor.run with
      | some (.begun result), .blocked _ _ _ ops =>
          if interrupted = true then some state
          else
            let emptied := { state with interrupter := state.interrupter.read }
            if state.interrupter.fillsBuffer = true then
              some { emptied with reset := some (.draining result) }
            else some (emptied.goesOn setting ops result)
      | some (.draining result), .blocked _ _ _ ops =>
          if interrupted = true then some (state.goesOn setting ops result)
          else
            let emptied := { state with interrupter := state.interrupter.read }
            if state.interrupter.fillsBuffer = true then some emptied
            else some (emptied.goesOn setting ops result)
      | _, _ => none

/-- The steps of the reactor with a flag: the flag is cleared, and `select` returns, when `reset`
reads for the last time; if a signal has made it leave something in the pipe, the flag is set
again. -/
def view : InterruptedAction Service Id Op Time → List (SelectAction Service Id Op Time)
  | .call action => [action]
  | .select result => if state.resets setting result = true then [] else [.select result]
  | .resetRead interrupted =>
      match state.reset with
      | some (.begun result) =>
          if interrupted = true ∨ state.interrupter.fillsBuffer = true then [] else [.select result]
      | some (.draining result) =>
          if interrupted = true then
            if state.interrupter.readable = true then [.select result, .interrupt]
            else [.select result]
          else if state.interrupter.fillsBuffer = true then [] else [.select result]
      | none => []

/-! ## The flag that others see -/

variable {capacity setting} (reactor : SelectReactor Service Id Op Time)

omit [DecidableEq Service] [DecidableEq Id] [DecidableEq Op] in
theorem beginRun_interrupted (usec : Int) (now : Service → Time) (interrupted : Bool) :
    { reactor with interrupted := interrupted }.beginRun setting usec now =
      { reactor.beginRun setting usec now with interrupted := interrupted } := by
  have same : { reactor with interrupted := interrupted }.setUp setting = reactor.setUp setting :=
    rfl
  unfold SelectReactor.beginRun
  simp only [same]
  split
  · rfl
  · rfl

/-- What others do sets the flag or leaves it, whatever it is. -/
theorem step_interrupted {action : SelectAction Service Id Op Time}
    (notSelect : ∀ result, action ≠ .select result) (interrupted : Bool) :
    SelectReactor.step setting { reactor with interrupted := interrupted } action =
      (SelectReactor.step setting { reactor with interrupted := false } action).map
        fun next => { next with interrupted := interrupted || next.interrupted } := by
  cases action with
  | startOp opType descriptor op =>
      simp only [SelectReactor.step, SelectReactor.startOp, Option.map_some]
      split <;> simp
  | registerInternalDescriptor opType descriptor op =>
      simp [SelectReactor.step, SelectReactor.registerInternalDescriptor]
  | cancelOps descriptor => simp [SelectReactor.step, SelectReactor.cancelOpsUnlocked]
  | deregisterDescriptor descriptor => simp [SelectReactor.step, SelectReactor.cancelOpsUnlocked]
  | deregisterInternalDescriptor descriptor =>
      simp [SelectReactor.step, SelectReactor.deregisterInternalDescriptor]
  | scheduleTimer time timer op =>
      simp only [SelectReactor.step, SelectReactor.scheduleTimer]
      split
      · simp
      · split
        · rfl
        · simp
  | cancelTimer timer maxCancelled => simp [SelectReactor.step, SelectReactor.cancelTimer]
  | interrupt => simp [SelectReactor.step]
  | shutdown => simp [SelectReactor.step]
  | run usec now =>
      simp only [SelectReactor.step]
      split
      · simp [beginRun_interrupted]
      · rfl
  | select result => exact absurd rfl (notSelect result)
  | dispatch perform now =>
      simp only [SelectReactor.step]
      split
      · simp [SelectReactor.dispatch]
      · rfl

variable {reactor} {state}

/-- A thread in `reset` is in `run`, `select` has returned this result, and there is something to
read, or was when the reads began. -/
def Resetting (setting : Setting Service Id) (state : InterruptedReactor Service Id Op Time) :
    Prop :=
  ∀ reset, state.reset = some reset → ∃ nfds timeout now ops,
    state.reactor.run = .blocked nfds timeout now ops ∧
      state.resets setting reset.result = true ∧ state.flag = true ∧
        state.abstract.Selects setting reset.result

/-- The reactor with a flag that the reactor with an interrupter is seen as. -/
structure SeenAs (setting : Setting Service Id) (state : InterruptedReactor Service Id Op Time)
    (spec : SelectReactor Service Id Op Time) : Prop where
  same : spec = state.abstract
  unused : state.reactor.interrupted = false
  resetting : state.Resetting setting

/-- While `run` is blocked, others leave it and its sets alone. -/
theorem step_blocked {next : SelectReactor Service Id Op Time}
    {action : SelectAction Service Id Op Time} (notSelect : ∀ result, action ≠ .select result)
    {nfds : Nat} {timeout : Int} {now : Service → Time} {ops : List (ReactorOp Op)}
    (blocked : reactor.run = .blocked nfds timeout now ops)
    (stepped : SelectReactor.step setting reactor action = some next) :
    next.run = reactor.run ∧ next.fdSets = reactor.fdSets := by
  cases action with
  | startOp opType descriptor op =>
      simp only [SelectReactor.step, SelectReactor.startOp] at stepped
      split at stepped <;> cases stepped <;> exact ⟨rfl, rfl⟩
  | scheduleTimer time timer op =>
      simp only [SelectReactor.step, SelectReactor.scheduleTimer] at stepped
      split at stepped
      · cases stepped
        exact ⟨rfl, rfl⟩
      · split at stepped
        · cases stepped
        · cases stepped
          exact ⟨rfl, rfl⟩
  | run usec reading =>
      simp only [SelectReactor.step, blocked] at stepped
      cases stepped
  | select result => exact absurd rfl (notSelect result)
  | dispatch perform reading =>
      simp only [SelectReactor.step, blocked] at stepped
      cases stepped
  | _ =>
      cases stepped
      exact ⟨rfl, rfl⟩

variable {after : InterruptedReactor Service Id Op Time}

omit [DecidableEq Service] [DecidableEq Id] [DecidableEq Op] [DurationTraits Time] in
theorem flag_interrupt (state : InterruptedReactor Service Id Op Time)
    (roomy : Interrupter.wordSize ≤ capacity)
    (next : SelectReactor Service Id Op Time) (interrupts : Bool) :
    InterruptedReactor.flag { state with
      reactor := next
      interrupter := if interrupts = true then state.interrupter.interrupt capacity
        else state.interrupter } = (state.flag || interrupts) := by
  obtain ⟨reactor, interrupter, reset⟩ := state
  have readable := Interrupter.readable_interrupt roomy interrupter
  match reset, interrupts with
  | none, true => simpa [flag] using readable
  | some (.begun result), true => simpa [flag] using readable
  | some (.draining result), true => rfl
  | none, false => simp [flag]
  | some (.begun result), false => simp [flag]
  | some (.draining result), false => rfl

/-- A call of the reactor with an interrupter is one of the reactor with a flag. -/
theorem call_abstract (roomy : Interrupter.wordSize ≤ capacity)
    {action : SelectAction Service Id Op Time} (notSelect : ∀ result, action ≠ .select result)
    (called : state.call capacity setting action = some after) :
    SelectReactor.step setting state.abstract action = some after.abstract := by
  obtain ⟨next, stepped, rfl⟩ := Option.map_eq_some_iff.mp called
  have seen := @step_interrupted _ _ _ _ _ _ _ _ setting state.reactor _ notSelect state.flag
  rw [stepped, Option.map_some,
    ← flag_interrupt state roomy { next with interrupted := false } next.interrupted] at seen
  exact seen

omit [DecidableEq Service] [DecidableEq Id] [DecidableEq Op] [DurationTraits Time] in
theorem Selects.of_interrupted {next : SelectReactor Service Id Op Time}
    {result : Option (OpType → Finset Nat)} (selects : reactor.Selects setting result)
    (fdSets : next.fdSets = reactor.fdSets) (interrupted : next.interrupted = true) :
    next.Selects setting result := by
  cases result with
  | none => trivial
  | some ready => exact ⟨fun i member => fdSets ▸ selects.1 i member, fun _ => interrupted⟩

theorem Resetting.call (resetting : state.Resetting setting)
    (roomy : Interrupter.wordSize ≤ capacity) {action : SelectAction Service Id Op Time}
    (notSelect : ∀ result, action ≠ .select result)
    (called : state.call capacity setting action = some after) : after.Resetting setting := by
  obtain ⟨next, stepped, rfl⟩ := Option.map_eq_some_iff.mp called
  intro reset there
  obtain ⟨nfds, timeout, now, ops, blocked, resets, flag, selects⟩ := resetting reset there
  obtain ⟨run, fdSets⟩ := step_blocked notSelect (blocked : { state.reactor with
    interrupted := false }.run = _) stepped
  have raised := (flag_interrupt state roomy { next with interrupted := false }
    next.interrupted).trans (congrArg (· || next.interrupted) flag)
  refine ⟨nfds, timeout, now, ops, run.trans blocked, ?_, raised, ?_⟩
  · unfold InterruptedReactor.resets SelectReactor.afterSelect at resets ⊢
    simpa only [fdSets] using resets
  · exact Selects.of_interrupted selects fdSets raised

omit [DecidableEq Service] [DecidableEq Id] [DecidableEq Op] [DurationTraits Time] in
/-- The return of `select` clears the flag that it resets. -/
theorem returnFromSelect_abstract (setting : Setting Service Id)
    (state : InterruptedReactor Service Id Op Time) (ops : List (ReactorOp Op))
    (result : Option (OpType → Finset Nat)) :
    state.abstract.returnFromSelect setting ops result =
      { state.reactor.returnFromSelect setting ops result with
        interrupted := state.flag && !state.resets setting result } := by
  have sets : state.abstract.afterSelect result = state.reactor.afterSelect result := rfl
  unfold SelectReactor.returnFromSelect resets
  rw [sets]
  by_cases positive : 0 < (state.reactor.afterSelect result).2
  · by_cases isSet :
        ((state.reactor.afterSelect result).1 .read).isSet setting.readDescriptor = true
    · simp [positive, isSet, abstract]
    · simp [positive, isSet, abstract]
  · simp [positive, abstract]

omit [DecidableEq Service] [DecidableEq Id] [DecidableEq Op] [DurationTraits Time] in
theorem returnFromSelect_interrupted (unused : reactor.interrupted = false)
    (ops : List (ReactorOp Op)) (result : Option (OpType → Finset Nat)) :
    (reactor.returnFromSelect setting ops result).interrupted = false := by
  unfold SelectReactor.returnFromSelect
  split
  split
  · rfl
  · exact unused

omit [DecidableEq Service] [DecidableEq Id] [DecidableEq Op] [DurationTraits Time] in
theorem seen_goesOn (state : InterruptedReactor Service Id Op Time)
    (unused : state.reactor.interrupted = false) (ops : List (ReactorOp Op))
    (result : Option (OpType → Finset Nat)) :
    SeenAs setting (state.goesOn setting ops result)
      (state.goesOn setting ops result).abstract where
  same := rfl
  unused := returnFromSelect_interrupted unused ops result
  resetting _ there := nomatch there

/-- The reactor with a flag returns from `select`. -/
theorem step_select (spec : SelectReactor Service Id Op Time) {nfds : Nat} {timeout : Int}
    {now : Service → Time} {ops : List (ReactorOp Op)} {result : Option (OpType → Finset Nat)}
    (blocked : spec.run = .blocked nfds timeout now ops) (selects : spec.Selects setting result) :
    (selectReactor setting).step spec (.select result) =
      some (spec.returnFromSelect setting ops result) := by
  simp only [selectReactor, SelectReactor.step, blocked, if_pos selects]

/-- The last read of a `reset`: `select` is seen to return, and what is left to read to interrupt
again. -/
theorem seen_resetEnds {reset : InterrupterReset} (resetting : state.Resetting setting)
    (there : state.reset = some reset) {nfds : Nat} {timeout : Int} {now : Service → Time}
    {ops : List (ReactorOp Op)} (blocked : state.reactor.run = .blocked nfds timeout now ops)
    (left : Interrupter) :
    (selectReactor setting).run state.abstract (if left.readable = true
        then [.select reset.result, .interrupt] else [.select reset.result]) =
      some ({ state with interrupter := left }.goesOn setting ops reset.result).abstract := by
  obtain ⟨_, _, _, _, _, resets, flag, selects⟩ := resetting reset there
  have returns := step_select state.abstract blocked selects
  rw [returnFromSelect_abstract, resets, Bool.not_true, Bool.and_false] at returns
  by_cases readable : left.readable = true
  · rw [if_pos readable, Transition.Machine.run, returns]
    simp only [abstract, goesOn, InterruptedReactor.flag, readable]
    rfl
  · rw [if_neg readable, Transition.Machine.run, returns]
    simp only [abstract, goesOn, InterruptedReactor.flag, Bool.eq_false_of_not_eq_true readable]
    rfl

omit [DecidableEq Service] [DecidableEq Id] [DecidableEq Op] [DurationTraits Time] in
/-- A read that has filled its buffer is not seen. -/
theorem Resetting.drains {reset : InterrupterReset} (resetting : state.Resetting setting)
    (there : state.reset = some reset) (unused : state.reactor.interrupted = false)
    (result : Option (OpType → Finset Nat)) (same : reset.result = result) :
    SeenAs setting { state with
      interrupter := state.interrupter.read
      reset := some (.draining result) } state.abstract := by
  obtain ⟨nfds, timeout, now, ops, blocked, resets, flag, selects⟩ := resetting reset there
  have kept : abstract { state with
      interrupter := state.interrupter.read
      reset := some (.draining result) } = state.abstract := by
    rw [abstract, abstract, flag]
    rfl
  refine ⟨kept.symm, unused, ?_⟩
  intro again there
  cases there
  exact ⟨nfds, timeout, now, ops, blocked, same ▸ resets, rfl, kept ▸ same ▸ selects⟩

omit [DecidableEq Service] [DecidableEq Id] [DecidableEq Op] [DurationTraits Time] in
theorem flag_of_resets {result : Option (OpType → Finset Nat)}
    (selects : state.abstract.Selects setting result)
    (resets : state.resets setting result = true) : state.flag = true := by
  cases result with
  | none => cases resets
  | some ready =>
      have isSet : decide (setting.readDescriptor ∈ ready .read) = true :=
        (Bool.and_eq_true_iff.mp resets).2
      exact selects.2 (of_decide_eq_true isSet)

/-- One step of the reactor with an interrupter is what is seen of it. -/
theorem SeenAs.step {spec : SelectReactor Service Id Op Time} (seen : SeenAs setting state spec)
    (roomy : Interrupter.wordSize ≤ capacity) {action : InterruptedAction Service Id Op Time}
    (stepped : state.step capacity setting action = some after) :
    ∃ next, (selectReactor setting).run spec (state.view setting action) = some next ∧
      SeenAs setting after next := by
  obtain ⟨rfl, unused, resetting⟩ := seen
  cases action with
  | call action =>
      by_cases notSelect : ∀ result, action ≠ .select result
      · have called : state.call capacity setting action = some after := by
          cases action with
          | select result => exact absurd rfl (notSelect result)
          | _ => exact stepped
        refine ⟨after.abstract, ?_, rfl, ?_, resetting.call roomy notSelect called⟩
        · exact (congrArg (Option.bind · some) (call_abstract roomy notSelect called))
        · obtain ⟨next, _, rfl⟩ := Option.map_eq_some_iff.mp called
          rfl
      · push Not at notSelect
        obtain ⟨result, rfl⟩ := notSelect
        cases stepped
  | select result =>
      simp only [InterruptedReactor.step] at stepped
      split at stepped
      case h_2 => cases stepped
      case h_1 nfds timeout now ops idle blocked =>
        have unset : state.flag = state.interrupter.readable := by rw [flag, idle]
        split at stepped
        case isFalse => cases stepped
        case isTrue allowed =>
          have selects : state.abstract.Selects setting result := by
            rw [abstract, unset]
            exact allowed
          split at stepped
          case isTrue resets =>
            cases stepped
            have same : abstract { state with reset := some (.begun result) } = state.abstract := by
              simp only [abstract, flag, idle]
            rw [view, if_pos resets]
            refine ⟨state.abstract, rfl, same.symm, unused, ?_⟩
            intro reset there
            cases there
            exact ⟨nfds, timeout, now, ops, blocked, resets,
              (congrArg SelectReactor.interrupted same).trans (flag_of_resets selects resets),
              same ▸ selects⟩
          case isFalse resets =>
            cases stepped
            have kept := returnFromSelect_abstract setting state ops result
            rw [Bool.eq_false_of_not_eq_true resets, Bool.not_false, Bool.and_true, unset] at kept
            rw [view, if_neg resets]
            refine ⟨_, ?_, seen_goesOn state unused ops result⟩
            rw [Transition.Machine.run, step_select state.abstract blocked selects, kept]
            rfl
  | resetRead interrupted =>
      simp only [InterruptedReactor.step] at stepped
      split at stepped
      case h_3 => cases stepped
      case h_1 result nfds timeout now ops reset blocked =>
        split at stepped
        case isTrue again =>
          cases stepped
          refine ⟨_, ?_, rfl, unused, resetting⟩
          rw [view, reset]
          simp only [again, true_or, if_true]
          rfl
        case isFalse reads =>
          split at stepped
          case isTrue fills =>
            cases stepped
            rw [view, reset]
            simp only [fills, or_true, if_true]
            exact ⟨state.abstract, rfl, resetting.drains reset unused result rfl⟩
          case isFalse last =>
            cases stepped
            have empty := Interrupter.readable_read (Bool.eq_false_of_not_eq_true last)
            have ends := seen_resetEnds resetting reset blocked state.interrupter.read
            rw [if_neg (by rw [empty]; exact Bool.false_ne_true)] at ends
            refine ⟨_, ?_, seen_goesOn { state with
              interrupter := state.interrupter.read } unused ops result⟩
            rw [view, reset]
            simp only [reads, last, Bool.false_eq_true, or_self, if_false]
            exact ends
      case h_2 result nfds timeout now ops reset blocked =>
        split at stepped
        case isTrue interrupted =>
          cases stepped
          refine ⟨_, ?_, seen_goesOn state unused ops result⟩
          rw [view, reset]
          simp only [interrupted, if_true]
          exact seen_resetEnds resetting reset blocked state.interrupter
        case isFalse reads =>
          split at stepped
          case isTrue fills =>
            cases stepped
            rw [view, reset]
            simp only [reads, fills, Bool.false_eq_true, if_true, if_false]
            exact ⟨state.abstract, rfl, resetting.drains reset unused result rfl⟩
          case isFalse last =>
            cases stepped
            have empty := Interrupter.readable_read (Bool.eq_false_of_not_eq_true last)
            have ends := seen_resetEnds resetting reset blocked state.interrupter.read
            rw [if_neg (by rw [empty]; exact Bool.false_ne_true)] at ends
            refine ⟨_, ?_, seen_goesOn { state with
              interrupter := state.interrupter.read } unused ops result⟩
            rw [view, reset]
            simp only [reads, last, Bool.false_eq_true, if_false]
            exact ends

end InterruptedReactor

/-- The machine. -/
def interruptedReactor {Service Id Op Time : Type*} [DecidableEq Service] [DecidableEq Id]
    [DecidableEq Op] [DurationTraits Time] (capacity : Nat) (setting : Setting Service Id) :
    Transition.Machine (InterruptedReactor Service Id Op Time)
      (InterruptedAction Service Id Op Time) where
  initial state := ∃ flagged plain piped interrupter,
    Interrupter.openDescriptors flagged plain piped = .ok interrupter ∧ state = .new interrupter
  step state action := state.step capacity setting action

section Refinement

variable {Service Id Op Time : Type*} [DecidableEq Service] [DecidableEq Id] [DecidableEq Op]
  [DurationTraits Time] {capacity : Nat} {setting : Setting Service Id}

omit [DecidableEq Service] [DecidableEq Id] [DecidableEq Op] [DurationTraits Time] in
theorem InterruptedReactor.seenAs_new {flagged plain piped : Option ℕ+} {interrupter : Interrupter}
    (opened : Interrupter.openDescriptors flagged plain piped = .ok interrupter) :
    SeenAs setting (.new interrupter : InterruptedReactor Service Id Op Time) .new where
  same := by
    have fresh := Interrupter.readable_openDescriptors opened
    simp only [abstract, flag, InterruptedReactor.new, fresh]
    rfl
  unused := rfl
  resetting _ there := nomatch there

/-- The reactor with an interrupter is seen as the reactor with a flag. -/
theorem interruptedReactor_simulates (Op Time : Type*) [DecidableEq Op] [DurationTraits Time]
    (setting : Setting Service Id) (roomy : Interrupter.wordSize ≤ capacity) :
    (@interruptedReactor Service Id Op Time _ _ _ _ capacity setting).Simulates
      (selectReactor setting) (InterruptedReactor.view setting)
      (InterruptedReactor.SeenAs setting) where
  initial := by
    rintro _ ⟨flagged, plain, piped, interrupter, opened, rfl⟩
    exact ⟨.new, rfl, InterruptedReactor.seenAs_new opened⟩
  step _ _ _ _ seen stepped := seen.step roomy stepped

/-- **Refinement.** A run of the reactor with an interrupter, an eventfd or a pipe that has room for
a word, is a run of the reactor with a flag: a `reset` of many reads, some interrupted by signals
and others overtaken by an interrupt, is one return of `select` that clears the flag. -/
theorem select_interrupter_refines (roomy : Interrupter.wordSize ≤ capacity)
    {state final : InterruptedReactor Service Id Op Time}
    (initial : (interruptedReactor capacity setting).initial state)
    {actions : List (InterruptedAction Service Id Op Time)}
    (ran : (interruptedReactor capacity setting).run state actions = some final) :
    (selectReactor setting).run .new ((interruptedReactor capacity setting).seen
      (InterruptedReactor.view setting) state actions) = some final.abstract := by
  have simulates := interruptedReactor_simulates Op Time setting roomy
  obtain ⟨spec, rfl, related⟩ := simulates.initial state initial
  obtain ⟨after, follows, seen⟩ := simulates.run related ran
  rw [follows, seen.same]

end Refinement

/-- An interrupter with a small descriptor, and one timer queue. -/
def interruptedSetting : Setting Unit Nat where
  readDescriptor := 3
  services := [()]
  home _ := ()

/-- The pipe is written to so often that two reads are needed to empty it; between them the reactor
is interrupted, and a signal arrives in the place of the second. -/
def someInterruptedActions : List (InterruptedAction Unit Nat Nat Timer.Ticks) :=
  List.replicate 128 (.call .interrupt) ++
    [.call (.run (-1) fun _ => .epoch),
      .select (some fun i => if i = .read then {3} else ∅), .resetRead true, .resetRead false,
      .call .interrupt, .resetRead true, .call (.dispatch (fun _ => none) fun _ => .epoch)]

set_option maxRecDepth 4000 in
theorem select_interrupter_refines_someInterruptedActions : ∃ final,
    (interruptedReactor 4096 interruptedSetting).run (.new (.pipe 0)) someInterruptedActions =
        some final ∧ final.interrupter = .pipe 8 ∧
      (selectReactor interruptedSetting).run .new ((interruptedReactor 4096 interruptedSetting).seen
        (InterruptedReactor.view interruptedSetting) (.new (.pipe 0)) someInterruptedActions) =
        some final.abstract := by
  have ran : ∃ final, (interruptedReactor 4096 interruptedSetting).run (.new (.pipe 0))
      someInterruptedActions = some final ∧ final.interrupter = .pipe 8 := ⟨_, rfl, rfl⟩
  obtain ⟨final, ran, left⟩ := ran
  exact ⟨final, ran, left, select_interrupter_refines (by decide)
    ⟨some 38, none, none, .pipe 0, rfl, rfl⟩ ran⟩

end Asio.Reactor
