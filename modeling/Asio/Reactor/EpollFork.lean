import Asio.Core.ServiceRegistry
import Asio.Reactor.EpollProcess

/-! # An epoll reactor that is forked

`notify_fork` makes a new epoll set in the child and adds the descriptor of every live
`descriptor_state` to it, and so relies on each of them being in the old one.
-/

namespace Asio.Reactor

open Asio.Core

/-- The descriptors that the child opens for the reactor. -/
structure ForkDescriptors where
  epollFd : Nat
  timerFd : Option Nat
  interrupter : Nat

/-- The files after one is closed. -/
def closeBefore (files : Nat → FileKind) : Option Nat → Nat → FileKind
  | none => files
  | some descriptor => Function.update files descriptor .closed

/-- The files after one is closed and another one is opened. -/
def reopen (files : Nat → FileKind) (before after : Option Nat) : Nat → FileKind :=
  match after with
  | none => closeBefore files before
  | some descriptor => Function.update (closeBefore files before) descriptor .pollable

namespace EpollProcess

variable {Socket World Op : Type*} {process : EpollProcess Socket World Op}
 

/-- `registered_events_` of a supported descriptor includes `EPOLLET`. -/
def stateMember (process : EpollProcess Socket World Op) (object descriptor : Nat) : EpollMember :=
  ⟨descriptor, (process.reactor.objects object).registeredEvents,
    !(process.reactor.objects object).registeredEvents.isZero, .state object⟩

/-- The loop of `notify_fork` over `registered_descriptors_`, with the error it throws. -/
def reregister (process : EpollProcess Socket World Op) :
    List Nat → EpollSet → Option ℕ+ × EpollSet
  | [], set => (none, set)
  | object :: objects, set =>
      match set.ctlAdd (process.descriptor object)
          (process.reactor.objects object).registeredEvents
          (!(process.reactor.objects object).registeredEvents.isZero) (.state object) with
      | .error errno => (some errno, set)
      | .ok after => reregister process objects after

/-- The files after the child has closed and opened the epoll instance, the timer and the
interrupter, in this order. -/
def forkFiles (process : EpollProcess Socket World Op) (fork : ForkDescriptors) :
    Nat → FileKind :=
  let files := reopen process.set.files (some process.set.epollFd) (some fork.epollFd)
  let files := reopen files process.timerFd fork.timerFd
  reopen files (some process.interrupter) (some fork.interrupter)

/-- `notify_fork`, with the error it throws. -/
def notifyFork (process : EpollProcess Socket World Op) (event : ForkEvent)
    (fork : ForkDescriptors) : Option ℕ+ × EpollProcess Socket World Op :=
  match event with
  | .forkChild =>
      let set := EpollSet.addInternal ⟨fork.epollFd, process.forkFiles fork, []⟩
        fork.timerFd fork.interrupter
      let result := process.reregister process.reactor.live set
      (result.1, { process with
        set := result.2
        timerFd := fork.timerFd
        interrupter := fork.interrupter })
  | _ => (none, process)

/-! ## Files of the child -/

/-- What is opened is not open yet. -/
def Unused (files : Nat → FileKind) (before after : Option Nat) : Prop :=
  ∀ descriptor, after = some descriptor → closeBefore files before descriptor = .closed

/-- What the kernel returns to the child is not open when it is returned. -/
structure Fresh (process : EpollProcess Socket World Op) (fork : ForkDescriptors) : Prop where
  epollFd : Unused process.set.files (some process.set.epollFd) (some fork.epollFd)
  timerFd : Unused (reopen process.set.files (some process.set.epollFd) (some fork.epollFd))
    process.timerFd fork.timerFd
  interrupter : Unused (reopen (reopen process.set.files (some process.set.epollFd)
    (some fork.epollFd)) process.timerFd fork.timerFd) (some process.interrupter)
    (some fork.interrupter)

theorem closeBefore_of_ne {files : Nat → FileKind} {before : Option Nat} {descriptor : Nat}
    (different : before ≠ some descriptor) :
    closeBefore files before descriptor = files descriptor := by
  cases before with
  | none => rfl
  | some closed =>
      apply Function.update_of_ne
      rintro rfl
      exact different rfl

/-- A file that is open stays open, and its descriptor is not given out again. -/
theorem reopen_of_open {files : Nat → FileKind} {before after : Option Nat}
    (unused : Unused files before after) {descriptor : Nat}
    (isOpen : files descriptor = .pollable) (different : before ≠ some descriptor) :
    reopen files before after descriptor = .pollable ∧ after ≠ some descriptor := by
  have stays : closeBefore files before descriptor = .pollable :=
    (closeBefore_of_ne different).trans isOpen
  have other : after ≠ some descriptor := by
    intro same
    have closed := unused descriptor same
    rw [stays] at closed
    contradiction
  refine ⟨?_, other⟩
  cases after with
  | none => exact stays
  | some opened =>
      rw [reopen, Function.update_of_ne]
      · exact stays
      · rintro rfl
        exact other rfl

theorem reopen_self (files : Nat → FileKind) (before : Option Nat) (descriptor : Nat) :
    reopen files before (some descriptor) descriptor = .pollable :=
  Function.update_self ..

/-- A file of the process that is not one of the reactor's own is still open in the child,
and the reactor's new files have other descriptors. -/
theorem forkFiles_of_open (fresh : process.Fresh fork) {descriptor : Nat}
    (isOpen : process.set.files descriptor = .pollable)
    (notEpoll : descriptor ≠ process.set.epollFd) (notTimer : process.timerFd ≠ some descriptor)
    (notInterrupter : descriptor ≠ process.interrupter) :
    process.forkFiles fork descriptor = .pollable ∧ descriptor ≠ fork.epollFd ∧
      fork.timerFd ≠ some descriptor ∧ descriptor ≠ fork.interrupter := by
  obtain ⟨first, newEpoll⟩ := reopen_of_open fresh.epollFd isOpen
    fun same => notEpoll (Option.some.inj same).symm
  obtain ⟨second, newTimer⟩ := reopen_of_open fresh.timerFd first notTimer
  obtain ⟨third, newInterrupter⟩ := reopen_of_open fresh.interrupter second
    fun same => notInterrupter (Option.some.inj same).symm
  refine ⟨third, ?_, newTimer, ?_⟩
  · rintro rfl
    exact newEpoll rfl
  · rintro rfl
    exact newInterrupter rfl

/-- The reactor's new files. -/
theorem forkFiles_own (fresh : process.Fresh fork)
    (apart : Apart process.set.epollFd process.timerFd process.interrupter)
    (timerOpen : ∀ timer, process.timerFd = some timer → process.set.files timer = .pollable)
    (interrupterOpen : process.set.files process.interrupter = .pollable) :
    Apart fork.epollFd fork.timerFd fork.interrupter ∧
      process.forkFiles fork fork.epollFd = .pollable ∧
      process.forkFiles fork fork.interrupter = .pollable ∧
      ∀ timer, fork.timerFd = some timer → process.forkFiles fork timer = .pollable := by
  obtain ⟨timerEpoll, interrupterEpoll, timerInterrupter⟩ := apart
  -- The old interrupter is open until the new epoll instance and the new timer are.
  obtain ⟨interrupterFirst, interrupterNotEpoll⟩ := reopen_of_open fresh.epollFd interrupterOpen
    fun same => interrupterEpoll (Option.some.inj same).symm
  obtain ⟨-, timerNotInterrupter⟩ :=
    reopen_of_open fresh.timerFd interrupterFirst timerInterrupter
  have timerNotEpoll : process.timerFd ≠ some fork.epollFd := by
    intro same
    have stays := reopen_of_open fresh.epollFd (timerOpen _ same)
      fun own => timerEpoll (same.trans own.symm)
    exact stays.2 rfl
  obtain ⟨epollSecond, newTimerNotEpoll⟩ := reopen_of_open fresh.timerFd
    (reopen_self process.set.files (some process.set.epollFd) fork.epollFd) timerNotEpoll
  obtain ⟨epollThird, newInterrupterNotEpoll⟩ := reopen_of_open fresh.interrupter epollSecond
    fun same => interrupterNotEpoll same.symm
  have newTimer : ∀ timer, fork.timerFd = some timer →
      process.forkFiles fork timer = .pollable ∧ some fork.interrupter ≠ some timer := by
    intro timer same
    have opened : reopen (reopen process.set.files (some process.set.epollFd)
        (some fork.epollFd)) process.timerFd fork.timerFd timer = .pollable := by
      rw [same]
      exact reopen_self ..
    exact reopen_of_open fresh.interrupter opened
      fun own => timerNotInterrupter (same.trans own.symm)
  refine ⟨⟨newTimerNotEpoll, ?_, ?_⟩, epollThird, reopen_self .., ?_⟩
  · exact fun same => newInterrupterNotEpoll (congrArg some same)
  · exact fun same => (newTimer fork.interrupter same).2 rfl
  · exact fun timer same => (newTimer timer same).1

/-! ## `notify_fork` -/

theorem reregister_cons_of_ok {object : Nat} {objects : List Nat} {set next : EpollSet}
    (added : set.ctlAdd (process.descriptor object)
      (process.reactor.objects object).registeredEvents
      (!(process.reactor.objects object).registeredEvents.isZero) (.state object) = .ok next) :
    process.reregister (object :: objects) set = process.reregister objects next := by
  rw [reregister, added]

/-- When the loop ends, it has added every object, and nothing else. -/
theorem reregister_members {objects : List Nat} {set : EpollSet} (valid : set.Valid)
    (returned : (process.reregister objects set).1 = none) :
    (process.reregister objects set).2.Valid ∧
      (∀ object ∈ objects, ∃ descriptor, process.descriptor object = some descriptor) ∧
      ∀ member, member ∈ (process.reregister objects set).2.members ↔
        member ∈ set.members ∨ ∃ object ∈ objects, ∃ descriptor,
          process.descriptor object = some descriptor ∧
            member = process.stateMember object descriptor := by
  induction objects generalizing set with
  | nil =>
      refine ⟨valid, fun _ absent => absurd absent List.not_mem_nil, fun member => ?_⟩
      refine ⟨.inl, fun present => present.resolve_right ?_⟩
      rintro ⟨object, absent, -⟩
      exact absurd absent List.not_mem_nil
  | cons object objects ih =>
      cases added : set.ctlAdd (process.descriptor object)
          (process.reactor.objects object).registeredEvents
          (!(process.reactor.objects object).registeredEvents.isZero) (.state object) with
      | error errno =>
          rw [reregister, added] at returned
          contradiction
      | ok next =>
          rw [reregister_cons_of_ok added] at returned ⊢
          obtain ⟨valid', others, members⟩ := ih (valid.ctlAdd added) returned
          obtain ⟨descriptor, own, -, -, -, rfl⟩ := EpollSet.ctlAdd_eq_ok_iff.mp added
          refine ⟨valid', ?_, fun member => ?_⟩
          · intro other isMember
            rcases List.mem_cons.mp isMember with rfl | isMember
            · exact ⟨descriptor, own⟩
            · exact others other isMember
          · rw [members]
            constructor
            · rintro (present | ⟨other, isMember, found⟩)
              · rcases List.mem_cons.mp present with rfl | before
                · exact .inr ⟨object, List.mem_cons_self, descriptor, own, rfl⟩
                · exact .inl before
              · exact .inr ⟨other, List.mem_cons_of_mem _ isMember, found⟩
            · rintro (before | ⟨other, isMember, found, same, rfl⟩)
              · exact .inl (List.mem_cons_of_mem _ before)
              · rcases List.mem_cons.mp isMember with rfl | isMember
                · rw [own, Option.some.injEq] at same
                  rw [← same]
                  exact .inl List.mem_cons_self
                · exact .inr ⟨other, isMember, found, same, rfl⟩

/-- The loop ends when every object has a descriptor of its own that can be added. -/
theorem reregister_returns {objects : List Nat} {set : EpollSet}
    (separate : objects.Pairwise fun first second =>
      process.descriptor first ≠ process.descriptor second)
    (addable : ∀ object ∈ objects, ∃ descriptor, process.descriptor object = some descriptor ∧
      set.files descriptor = .pollable ∧ descriptor ≠ set.epollFd ∧
        ∀ member ∈ set.members, member.descriptor ≠ descriptor) :
    (process.reregister objects set).1 = none := by
  induction objects generalizing set with
  | nil => rfl
  | cons object objects ih =>
      obtain ⟨different, separate⟩ := List.pairwise_cons.mp separate
      obtain ⟨descriptor, own, pollable, foreign, fresh⟩ := addable object List.mem_cons_self
      rw [reregister_cons_of_ok
        (EpollSet.ctlAdd_eq_ok_iff.mpr ⟨descriptor, own, pollable, foreign, fresh, rfl⟩)]
      apply ih separate
      intro other isMember
      obtain ⟨added, own', pollable', foreign', fresh'⟩ :=
        addable other (List.mem_cons_of_mem _ isMember)
      refine ⟨added, own', pollable', foreign', fun member present => ?_⟩
      rcases List.mem_cons.mp present with rfl | before
      · intro same
        apply different other isMember
        rw [own, own']
        exact congrArg some same
      · exact fresh' member before

/-- What `notify_fork` is to do in the child: it does not throw, and the new set has the
descriptors of the old one with their `registered_events_` and their own objects, and the
reactor's two. -/
structure Reregistered (process : EpollProcess Socket World Op) (fork : ForkDescriptors)
    (result : Option ℕ+ × EpollProcess Socket World Op) : Prop where
  returned : result.1 = none
  valid : result.2.set.Valid
  same : ∀ descriptor object,
    (∃ member ∈ result.2.set.members,
      member.descriptor = descriptor ∧ member.pointer = .state object) ↔
    ∃ member ∈ process.set.members,
      member.descriptor = descriptor ∧ member.pointer = .state object
  recorded : ∀ member ∈ result.2.set.members, ∀ object, member.pointer = .state object →
    process.descriptor object = some member.descriptor ∧
      member = process.stateMember object member.descriptor
  internal : ∀ member, (∀ object, member.pointer ≠ .state object) →
    (member ∈ result.2.set.members ↔ member ∈ internalMembers fork.timerFd fork.interrupter)

/-- A member that points to an object is not one of the reactor's own. -/
theorem Tracked.not_internal (tracked : process.Tracked) {member : EpollMember}
    (isMember : member ∈ process.set.members) {object : Nat}
    (points : member.pointer = .state object) :
    process.timerFd ≠ some member.descriptor ∧ member.descriptor ≠ process.interrupter := by
  constructor
  · intro same
    have timer := tracked.internal _ (mem_internalMembers.mpr (.inl ⟨_, same, rfl⟩))
    rw [tracked.valid.eq_of_descriptor isMember timer rfl] at points
    contradiction
  · intro same
    have interrupter := tracked.internal _ (mem_internalMembers.mpr (.inr rfl))
    rw [tracked.valid.eq_of_descriptor isMember interrupter same] at points
    contradiction

/-- The child's set before the loop. -/
theorem Tracked.fork_set (tracked : process.Tracked) (fresh : process.Fresh fork) :
    EpollSet.addInternal ⟨fork.epollFd, process.forkFiles fork, []⟩ fork.timerFd fork.interrupter =
        ⟨fork.epollFd, process.forkFiles fork, internalMembers fork.timerFd fork.interrupter⟩ ∧
      EpollSet.Valid
        ⟨fork.epollFd, process.forkFiles fork, internalMembers fork.timerFd fork.interrupter⟩ := by
  have timerOpen : ∀ timer, process.timerFd = some timer →
      process.set.files timer = .pollable := by
    intro timer same
    exact tracked.valid.pollable _ (tracked.internal _ (mem_internalMembers.mpr
      (.inl ⟨timer, same, rfl⟩)))
  have interrupterOpen : process.set.files process.interrupter = .pollable :=
    tracked.valid.pollable _ (tracked.internal _ (mem_internalMembers.mpr (.inr rfl)))
  obtain ⟨apart, -, newInterrupter, newTimer⟩ :=
    forkFiles_own fresh tracked.apart timerOpen interrupterOpen
  exact ⟨addInternal_eq apart newInterrupter newTimer,
    valid_internalMembers apart newInterrupter newTimer⟩

/-- A registered object can be added to the child's set. -/
theorem Tracked.addable (tracked : process.Tracked) (fresh : process.Fresh fork) {object : Nat}
    (isLive : object ∈ process.reactor.live) (registered : process.Registered object) :
    ∃ descriptor, process.descriptor object = some descriptor ∧
      process.forkFiles fork descriptor = .pollable ∧ descriptor ≠ fork.epollFd ∧
        ∀ member ∈ internalMembers fork.timerFd fork.interrupter,
          member.descriptor ≠ descriptor := by
  obtain ⟨member, isMember, points⟩ := tracked.added object isLive registered
  have own := (tracked.pointed member isMember object points).2.2 registered.working
  obtain ⟨notTimer, notInterrupter⟩ := tracked.not_internal isMember points
  obtain ⟨isOpen, notEpoll, newTimer, newInterrupter⟩ := forkFiles_of_open fresh
    (tracked.valid.pollable member isMember) (tracked.valid.foreign member isMember) notTimer
    notInterrupter
  refine ⟨member.descriptor, own, isOpen, notEpoll, fun other internal => ?_⟩
  rcases mem_internalMembers.mp internal with ⟨timer, isTimer, rfl⟩ | rfl
  · intro same
    exact newTimer (isTimer.trans (congrArg some same))
  · exact newInterrupter.symm

/-- Registered objects have different descriptors. -/
theorem Tracked.eq_of_descriptor (tracked : process.Tracked) {first second : Nat}
    (firstLive : first ∈ process.reactor.live) (secondLive : second ∈ process.reactor.live)
    (isFirst : process.Registered first) (isSecond : process.Registered second)
    (same : process.descriptor first = process.descriptor second) : first = second := by
  obtain ⟨member, isMember, points⟩ := tracked.added first firstLive isFirst
  obtain ⟨other, isOther, points'⟩ := tracked.added second secondLive isSecond
  rw [(tracked.pointed member isMember first points).2.2 isFirst.working,
    (tracked.pointed other isOther second points').2.2 isSecond.working, Option.some.injEq] at same
  rw [tracked.valid.eq_of_descriptor isMember isOther same, points',
    EpollPointer.state.injEq] at points
  exact points.symm

theorem Tracked.reregistered (tracked : process.Tracked) (fresh : process.Fresh fork)
    (registered : ∀ object ∈ process.reactor.live, process.Registered object) :
    process.Reregistered fork (process.notifyFork .forkChild fork) := by
  obtain ⟨start, valid⟩ := tracked.fork_set fresh
  have returned : (process.reregister process.reactor.live
      ⟨fork.epollFd, process.forkFiles fork,
        internalMembers fork.timerFd fork.interrupter⟩).1 = none := by
    apply reregister_returns
    · apply List.Pairwise.imp_of_mem _ (List.nodup_append.mp tracked.sound.pooled.distinct).1
      intro first second isFirst isSecond different same
      exact different (tracked.eq_of_descriptor isFirst isSecond (registered first isFirst)
        (registered second isSecond) same)
    · exact fun object isLive => tracked.addable fresh isLive (registered object isLive)
  obtain ⟨valid', -, members⟩ := reregister_members valid returned
  have others : ∀ member ∈ internalMembers fork.timerFd fork.interrupter, ∀ object,
      member.pointer ≠ .state object := by
    intro member internal object points
    rcases mem_internalMembers.mp internal with ⟨timer, -, rfl⟩ | rfl
    · contradiction
    · contradiction
  rw [notifyFork, start]
  refine ⟨returned, valid', fun descriptor object => ?_, fun member isMember object points => ?_,
    fun member foreign => ?_⟩
  · constructor
    · rintro ⟨member, isMember, rfl, points⟩
      rcases (members member).mp isMember with internal | ⟨other, isLive, found, own, rfl⟩
      · exact absurd points (others member internal object)
      · obtain ⟨before, isBefore, points'⟩ := tracked.added other isLive (registered other isLive)
        have tracks := (tracked.pointed before isBefore other points').2.2
          (registered other isLive).working
        rw [own, Option.some.injEq] at tracks
        exact ⟨before, isBefore, tracks.symm, points'.trans points⟩
    · rintro ⟨member, isMember, rfl, points⟩
      have isLive := tracked.live_of_pointer isMember points
      have own := (tracked.pointed member isMember object points).2.2
        (registered object isLive).working
      exact ⟨process.stateMember object member.descriptor,
        (members _).mpr (.inr ⟨object, isLive, member.descriptor, own, rfl⟩), rfl, rfl⟩
  · rcases (members member).mp isMember with internal | ⟨other, isLive, found, own, rfl⟩
    · exact absurd points (others member internal object)
    · obtain rfl : other = object := EpollPointer.state.inj points
      exact ⟨own, rfl⟩
  · refine (members member).trans ⟨fun present => present.resolve_right ?_, .inl⟩
    rintro ⟨object, -, descriptor, -, rfl⟩
    exact foreign object rfl

theorem Tracked.registered_of_reregistered (tracked : process.Tracked)
    (fresh : process.Fresh fork)
    (reregistered : process.Reregistered fork (process.notifyFork .forkChild fork)) {object : Nat}
    (isLive : object ∈ process.reactor.live) : process.Registered object := by
  obtain ⟨start, valid⟩ := tracked.fork_set fresh
  have returned := reregistered.returned
  have same := reregistered.same
  rw [notifyFork, start] at returned same
  obtain ⟨-, known, members⟩ := reregister_members valid returned
  obtain ⟨descriptor, own⟩ := known object isLive
  have isNew := (members _).mpr (.inr ⟨object, isLive, descriptor, own, rfl⟩)
  obtain ⟨member, isMember, -, points⟩ := (same descriptor object).mp ⟨_, isNew, rfl, rfl⟩
  obtain ⟨accepted, supported, -⟩ := tracked.pointed member isMember object points
  refine ⟨accepted, supported, Bool.eq_false_iff.mpr fun isShutdown => ?_⟩
  rw [tracked.dropped object isLive isShutdown] at own
  contradiction

/-- After every history, `notify_fork` registers in the child exactly what was registered
exactly when every live `descriptor_state` is one that `EPOLL_CTL_ADD` took, and that was not
deregistered since. -/
theorem notifyFork_reregisters_iff [DecidableEq Socket] (reachable : machine.Reachable process)
    (fresh : process.Fresh fork) :
    process.Reregistered fork (process.notifyFork .forkChild fork) ↔
      ∀ object ∈ process.reactor.live, process.Registered object := by
  have tracked := tracked_of_reachable reachable
  constructor
  · intro reregistered object isLive
    exact tracked.registered_of_reregistered fresh reregistered isLive
  · exact fun registered => tracked.reregistered fresh registered

/-- A reactor with two open files of its process: a socket, and a regular file. -/
def withSocketAndFile : EpollProcess Unit Unit Unit :=
  ⟨.constructed (), fun _ => none, fun _ => false,
    EpollSet.addInternal
      ⟨3, fun descriptor =>
        if descriptor ∈ [3, 4, 5, 6] then .pollable
        else if descriptor = 7 then .notPermitted
        else .closed, []⟩ (some 4) 5, some 4, 5⟩

theorem withSocketAndFile_constructed : withSocketAndFile.Constructed :=
  ⟨(), 3, some 4, 5, _, ⟨by decide, by decide, by decide⟩, rfl, rfl,
    fun timer same => Option.some.inj same ▸ rfl, rfl⟩

/-- The child opens the reactor's descriptors under their old numbers. -/
def sameNumbers : ForkDescriptors := ⟨3, some 4, 5⟩

theorem notifyFork_reregisters_iff_socket :
    ((withSocketAndFile.registerDescriptor () 6 none).notifyFork .forkChild sameNumbers).1 =
        none ∧
      Reregistered (withSocketAndFile.registerDescriptor () 6 none) sameNumbers
        ((withSocketAndFile.registerDescriptor () 6 none).notifyFork .forkChild sameNumbers) := by
  refine ⟨rfl, (notifyFork_reregisters_iff ?_ ⟨?_, ?_, ?_⟩).mpr ?_⟩
  · exact .run (.initial withSocketAndFile_constructed) [.registerDescriptor () 6 none] rfl
  · rintro _ ⟨⟩
    rfl
  · rintro _ ⟨⟩
    rfl
  · rintro _ ⟨⟩
    rfl
  · intro object isLive
    rw [List.mem_singleton.mp isLive]
    exact ⟨rfl, rfl, rfl⟩

/-- A regular file is registered, which `register_descriptor` allows: `notify_fork` throws the
`EPERM` that registering it again gives. -/
theorem not_notifyFork_reregisters :
    ¬ ∀ (process : EpollProcess Unit Unit Unit) (fork : ForkDescriptors),
      machine.Reachable process → process.Fresh fork →
        process.Reregistered fork (process.notifyFork .forkChild fork) := by
  intro reregisters
  have reached : machine.Reachable (withSocketAndFile.registerDescriptor () 7 none) :=
    .run (.initial withSocketAndFile_constructed) [.registerDescriptor () 7 none] rfl
  have returned := (reregisters _ sameNumbers reached ⟨?_, ?_, ?_⟩).returned
  · have thrown : ((withSocketAndFile.registerDescriptor () 7 none).notifyFork .forkChild
        sameNumbers).1 = some eperm := rfl
    rw [thrown] at returned
    contradiction
  · rintro _ ⟨⟩
    rfl
  · rintro _ ⟨⟩
    rfl
  · rintro _ ⟨⟩
    rfl

end EpollProcess

end Asio.Reactor
