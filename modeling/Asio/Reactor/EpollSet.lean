import Asio.Reactor.EpollReactor
import Mathlib.Data.List.Nodup
import Mathlib.Data.PNat.Defs

/-! # The interest set of an epoll instance

The open files of a process and the set that `epoll_ctl` changes. A file has one
descriptor, so that closing the descriptor takes it out of the set.
-/

namespace Asio.Reactor

/-- `EPERM`. -/
def eperm : ℕ+ := ⟨1, Nat.one_pos⟩

/-- What `register_descriptor` makes of the `errno` of `EPOLL_CTL_ADD`. -/
def registerReply : Option ℕ+ → RegisterReply
  | none => .added
  | some errno => if errno = eperm then .notPermitted else .failed

/-- What `register_descriptor` returns. -/
def registerError : Option ℕ+ → Option ℕ+
  | none => none
  | some errno => if errno = eperm then none else some errno

/-- `EBADF`. -/
def ebadf : ℕ+ := ⟨9, by decide⟩

/-- `EEXIST`. -/
def eexist : ℕ+ := ⟨17, by decide⟩

/-- `EINVAL`. -/
def einval : ℕ+ := ⟨22, by decide⟩

/-- A descriptor number of the process: not open, or open on a file that `epoll` takes or
refuses with `EPERM`. -/
inductive FileKind where
  | closed
  | pollable
  | notPermitted
  deriving DecidableEq, Repr

/-- What `epoll_event::data.ptr` points to. -/
inductive EpollPointer where
  | interrupter
  | timer
  | state (object : Nat)
  deriving DecidableEq, Repr

/-- A descriptor of the set with its `epoll_event`; `edgeTriggered` is `EPOLLET`. -/
structure EpollMember where
  descriptor : Nat
  events : EpollEvents
  edgeTriggered : Bool
  pointer : EpollPointer

/-- The epoll instance and the files of its process. -/
structure EpollSet where
  epollFd : Nat
  files : Nat → FileKind
  members : List EpollMember

namespace EpollSet

/-- `EPOLL_CTL_ADD`, for a descriptor that may be -1. -/
def ctlAdd (set : EpollSet) (descriptor : Option Nat) (events : EpollEvents)
    (edgeTriggered : Bool) (pointer : EpollPointer) : Except ℕ+ EpollSet :=
  match descriptor with
  | none => .error ebadf
  | some descriptor =>
      match set.files descriptor with
      | .closed => .error ebadf
      | .notPermitted => .error eperm
      | .pollable =>
          if descriptor = set.epollFd then .error einval
          else if set.members.any (·.descriptor == descriptor) then .error eexist
          else .ok { set with
            members := ⟨descriptor, events, edgeTriggered, pointer⟩ :: set.members }

/-- `EPOLL_CTL_DEL`. -/
def ctlDel (set : EpollSet) (descriptor : Nat) : EpollSet :=
  { set with members := set.members.filter (·.descriptor != descriptor) }

/-- A file is opened. -/
def openFile (set : EpollSet) (descriptor : Nat) (kind : FileKind) : EpollSet :=
  { set with files := Function.update set.files descriptor kind }

/-- `::close`. -/
def closeFile (set : EpollSet) (descriptor : Nat) : EpollSet :=
  { set.ctlDel descriptor with files := Function.update set.files descriptor .closed }

/-- The members have descriptors of their own, open on files that `epoll` takes. -/
structure Valid (set : EpollSet) : Prop where
  distinct : (set.members.map (·.descriptor)).Nodup
  pollable : ∀ member ∈ set.members, set.files member.descriptor = .pollable
  foreign : ∀ member ∈ set.members, member.descriptor ≠ set.epollFd

variable {set after : EpollSet}

/-- What `EPOLL_CTL_ADD` requires, and what it does. -/
theorem ctlAdd_eq_ok_iff {descriptor : Option Nat} {events : EpollEvents} {edgeTriggered : Bool}
    {pointer : EpollPointer} :
    set.ctlAdd descriptor events edgeTriggered pointer = .ok after ↔
      ∃ added, descriptor = some added ∧ set.files added = .pollable ∧ added ≠ set.epollFd ∧
        (∀ member ∈ set.members, member.descriptor ≠ added) ∧
        after = { set with members := ⟨added, events, edgeTriggered, pointer⟩ :: set.members } := by
  unfold ctlAdd
  cases descriptor with
  | none =>
      apply iff_of_false
      · exact fun refused => nomatch refused
      · rintro ⟨added, absent, -⟩
        contradiction
  | some descriptor =>
      dsimp only
      cases kind : set.files descriptor with
      | closed =>
          apply iff_of_false
          · exact fun refused => nomatch refused
          · rintro ⟨added, ⟨⟩, pollable, -⟩
            rw [kind] at pollable
            contradiction
      | notPermitted =>
          apply iff_of_false
          · exact fun refused => nomatch refused
          · rintro ⟨added, ⟨⟩, pollable, -⟩
            rw [kind] at pollable
            contradiction
      | pollable =>
          dsimp only
          by_cases self : descriptor = set.epollFd
          · rw [if_pos self]
            apply iff_of_false
            · exact fun refused => nomatch refused
            · rintro ⟨added, ⟨⟩, -, foreign, -⟩
              exact foreign self
          · rw [if_neg self]
            by_cases present : set.members.any (·.descriptor == descriptor) = true
            · rw [if_pos present]
              obtain ⟨member, isMember, same⟩ := List.any_eq_true.mp present
              apply iff_of_false
              · exact fun refused => nomatch refused
              · rintro ⟨added, ⟨⟩, -, -, fresh, -⟩
                exact fresh member isMember (beq_iff_eq.mp same)
            · rw [if_neg present]
              constructor
              · rintro ⟨⟩
                refine ⟨descriptor, rfl, kind, self, fun member isMember same => ?_, rfl⟩
                exact present (List.any_eq_true.mpr ⟨member, isMember, beq_iff_eq.mpr same⟩)
              · rintro ⟨added, ⟨⟩, -, -, -, rfl⟩
                rfl

/-- `EPOLL_CTL_ADD` keeps the set valid. -/
theorem Valid.ctlAdd (valid : set.Valid) {descriptor : Option Nat} {events : EpollEvents}
    {edgeTriggered : Bool} {pointer : EpollPointer}
    (added : set.ctlAdd descriptor events edgeTriggered pointer = .ok after) : after.Valid := by
  obtain ⟨added, rfl, pollable, foreign, fresh, rfl⟩ := ctlAdd_eq_ok_iff.mp added
  constructor
  · rw [List.map_cons, List.nodup_cons]
    refine ⟨fun present => ?_, valid.distinct⟩
    obtain ⟨member, isMember, same⟩ := List.mem_map.mp present
    exact fresh member isMember same
  · intro member isMember
    rcases List.mem_cons.mp isMember with rfl | before
    · exact pollable
    · exact valid.pollable member before
  · intro member isMember
    rcases List.mem_cons.mp isMember with rfl | before
    · exact foreign
    · exact valid.foreign member before

theorem mem_ctlDel {descriptor : Nat} {member : EpollMember} :
    member ∈ (set.ctlDel descriptor).members ↔
      member ∈ set.members ∧ member.descriptor ≠ descriptor := by
  change member ∈ set.members.filter _ ↔ _
  rw [List.mem_filter, bne_iff_ne]

theorem Valid.ctlDel (valid : set.Valid) (descriptor : Nat) : (set.ctlDel descriptor).Valid where
  distinct := valid.distinct.sublist (List.filter_sublist.map _)
  pollable member isMember := valid.pollable member (mem_ctlDel.mp isMember).1
  foreign member isMember := valid.foreign member (mem_ctlDel.mp isMember).1

theorem Valid.openFile (valid : set.Valid) {descriptor : Nat}
    (unused : set.files descriptor = .closed) (kind : FileKind) :
    (set.openFile descriptor kind).Valid where
  distinct := valid.distinct
  pollable := by
    intro member isMember
    have isOpen := valid.pollable member isMember
    change Function.update set.files descriptor kind member.descriptor = _
    rw [Function.update_of_ne]
    · exact isOpen
    · intro same
      rw [same, unused] at isOpen
      contradiction
  foreign := valid.foreign

theorem Valid.closeFile (valid : set.Valid) (descriptor : Nat) :
    (set.closeFile descriptor).Valid where
  distinct := (valid.ctlDel descriptor).distinct
  pollable := by
    intro member isMember
    obtain ⟨before, different⟩ := mem_ctlDel.mp isMember
    change Function.update set.files descriptor .closed member.descriptor = _
    rw [Function.update_of_ne different]
    exact valid.pollable member before
  foreign := (valid.ctlDel descriptor).foreign

/-- A member is told by its descriptor. -/
theorem Valid.eq_of_descriptor (valid : set.Valid) {first second : EpollMember}
    (isFirst : first ∈ set.members) (isSecond : second ∈ set.members)
    (same : first.descriptor = second.descriptor) : first = second :=
  List.inj_on_of_nodup_map valid.distinct isFirst isSecond same

end EpollSet

end Asio.Reactor
