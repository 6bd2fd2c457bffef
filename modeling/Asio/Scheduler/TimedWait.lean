import Asio.Scheduler.Model

/-! # Timed waits

`run_one_until` waits in rounds of at most a second; each ends in
`posix_event::wait_for_usec`, which turns the microseconds of the round into an
absolute time for `pthread_cond_timedwait`. The nanoseconds of the reading are
overwritten instead of added to, so the wait ends that much too early.
-/

namespace Asio.Scheduler

/-- `timespec`. -/
structure Timespec where
  sec : Int
  nsec : Int
  deriving DecidableEq, Repr

namespace Timespec

/-- A time in nanoseconds. -/
def nanoseconds (ts : Timespec) : Int := ts.sec * 1000000000 + ts.nsec

/-- The nanoseconds are less than a second. -/
def Normal (ts : Timespec) : Prop := 0 ≤ ts.nsec ∧ ts.nsec < 1000000000

/-- The assignments of `wait_for_usec` to what `clock_gettime` has read. -/
def addUsec (ts : Timespec) (usec : Int) : Timespec :=
  let ts := { ts with sec := ts.sec + usec.tdiv 1000000 }
  let ts := { ts with nsec := usec.tmod 1000000 * 1000 }
  let ts := { ts with sec := ts.sec + ts.nsec.tdiv 1000000000 }
  { ts with nsec := ts.nsec.tmod 1000000000 }

end Timespec

/-- `wait_for_usec`: the absolute time given to `pthread_cond_timedwait`, if the
event is not signalled. -/
def Event.waitForUsec (event : Event) (reading : Timespec) (usec : Int) : Option Timespec :=
  if event.signalled then none else some (reading.addUsec usec)

/-- When the wait of `do_wait_one` on an empty queue ends, without a signal. -/
def doWaitOneUntil (event : Event) (reading : Timespec) (usec : Int) : Option Timespec :=
  event.clear.waitForUsec reading usec

/-- A round of `run_one_until` with a clock of nanoseconds: the microseconds it
gives to `wait_one`, while the time is not reached. -/
def runOneUntilUsec (absTime now : Int) : Option Int :=
  if now < absTime then
    let relTime := absTime - now
    let relTime := if relTime > 1000000000 then 1000000000 else relTime
    some (relTime.tdiv 1000)
  else none

variable {event : Event} {reading : Timespec} {usec : Int}

/-- A wait without a signal ends so many microseconds after the reading, and its
end is a proper `timespec`. -/
def SleepsFor (event : Event) (reading : Timespec) (usec : Int) : Prop :=
  ∃ deadline, doWaitOneUntil event reading usec = some deadline ∧ deadline.Normal ∧
    deadline.nanoseconds = reading.nanoseconds + usec * 1000

theorem normal_addUsec (nonneg : 0 ≤ usec) : (reading.addUsec usec).Normal := by
  have part := Int.tmod_nonneg 1000000 nonneg
  have scaled : 0 ≤ usec.tmod 1000000 * 1000 := Int.mul_nonneg part (by decide)
  exact ⟨Int.tmod_nonneg _ scaled, Int.tmod_lt_of_pos _ (by decide)⟩

/-- The wait ends too early by the nanoseconds of the reading. -/
theorem nanoseconds_addUsec (reading : Timespec) (usec : Int) :
    (reading.addUsec usec).nanoseconds = reading.nanoseconds + usec * 1000 - reading.nsec := by
  have whole := Int.mul_tdiv_add_tmod usec 1000000
  have carried := Int.mul_tdiv_add_tmod (usec.tmod 1000000 * 1000) 1000000000
  simp only [Timespec.addUsec, Timespec.nanoseconds]
  omega

/-- A round of `run_one_until` asks for a second, or for the time that is left
but for less than a microsecond. -/
theorem runOneUntilUsec_spec {absTime now : Int} (waits : runOneUntilUsec absTime now = some usec) :
    0 ≤ usec ∧ usec ≤ 1000000 ∧ usec * 1000 ≤ absTime - now ∧
      (usec = 1000000 ∨ absTime - now < usec * 1000 + 1000) := by
  unfold runOneUntilUsec at waits
  split at waits
  · next later =>
    simp only [Option.some.injEq] at waits
    rw [← waits]
    split
    · next far =>
      have second : Int.tdiv 1000000000 1000 = 1000000 := by decide
      rw [second]
      omega
    · have exact := Int.mul_tdiv_add_tmod (absTime - now) 1000
      have part := Int.tmod_nonneg 1000 (show 0 ≤ absTime - now by omega)
      have below := Int.tmod_lt_of_pos (absTime - now) (show (0 : Int) < 1000 by decide)
      omega
  · contradiction

/-- **When a timed wait is the one asked for**: when the clock reads a whole second. -/
theorem sleepsFor_iff (event : Event) (reading : Timespec) (usec : Int) (nonneg : 0 ≤ usec) :
    SleepsFor event reading usec ↔ reading.nsec = 0 := by
  have early := nanoseconds_addUsec reading usec
  constructor
  · rintro ⟨deadline, ends, -, exactly⟩
    cases ends
    omega
  · intro whole
    exact ⟨_, rfl, normal_addUsec nonneg, by rw [early, whole, Int.sub_zero]⟩

theorem sleepsFor_iff_second :
    (0 : Int) ≤ 1000000 ∧ (SleepsFor ⟨false, 0⟩ ⟨7, 0⟩ 1000000 ↔ (⟨7, 0⟩ : Timespec).nsec = 0) :=
  ⟨by decide, sleepsFor_iff ⟨false, 0⟩ ⟨7, 0⟩ 1000000 (by decide)⟩

/-- Half a second from 7.9 seconds on is over at 7.5 seconds. -/
theorem not_sleepsFor_halfSecond :
    ¬ ∀ (event : Event) (reading : Timespec) (usec : Int), reading.Normal → 0 ≤ usec →
      SleepsFor event reading usec := by
  intro claim
  obtain ⟨deadline, ends, -, exactly⟩ :=
    claim ⟨false, 0⟩ ⟨7, 900000000⟩ 500000 ⟨by decide, by decide⟩ (by decide)
  cases ends
  exact absurd exactly (by decide)

end Asio.Scheduler
