import Asio.Network.SocketOwner

/-! # A descriptor has one owner, in every run

An operation that moves is itself the peer that it accepts into, and nobody else uses that socket.
So each descriptor is closed once at most, and none stays open that nobody has.
-/

namespace Asio.Network

open Reactor

variable {Socket Accept World Op : Type*}

namespace SocketHolders

/-! ## The operations and their peers -/

section Peers

variable {state next : SocketHolders Socket Accept World Op} {socket : Socket} {accept : Accept}
  {op : AcceptOp Socket}

theorem Embedded.congr (embedded : state.Embedded) (accepts : next.accepts = state.accepts)
    (life : ∀ socket, state.life socket = .inside → next.life socket = .inside) :
    next.Embedded where
  inside accept op found moves := life _ (embedded.inside accept op (accepts ▸ found) moves)
  apart first second op other isFirst isSecond :=
    embedded.apart first second op other (accepts ▸ isFirst) (accepts ▸ isSecond)
  idle accept op found := embedded.idle accept op (accepts ▸ found)

/-- An object of the user comes or goes. -/
theorem Embedded.setLife [DecidableEq Socket] (embedded : state.Embedded)
    (notInside : state.life socket ≠ .inside) (life : SocketLife)
    (accepts : next.accepts = state.accepts)
    (changed : next.life = Function.update state.life socket life) : next.Embedded := by
  apply embedded.congr accepts
  intro other inside
  rw [changed, Function.update_of_ne]
  · exact inside
  · exact fun same => notInside (same ▸ inside)

theorem destroy_life [DecidableEq Socket] (socket : Socket) :
    (state.destroy socket).life = Function.update state.life socket .absent := by
  change Function.update (state.closeSocket socket).life socket .absent = _
  unfold closeSocket
  rw [closeHeld_life]

variable [DecidableEq Accept]

theorem accepts_setAccept {other : Accept} {after : Option (AcceptOp Socket)}
    {current : AcceptOp Socket}
    (found : (state.setAccept accept after).accepts other = some current) :
    other = accept ∧ after = some current ∨
      other ≠ accept ∧ state.accepts other = some current := by
  change Function.update state.accepts accept after other = some current at found
  by_cases own : other = accept
  · subst own
    rw [Function.update_self] at found
    exact .inl ⟨rfl, found⟩
  · rw [Function.update_of_ne own] at found
    exact .inr ⟨own, found⟩

/-- An operation goes on with its peer. -/
theorem Embedded.setAccept (embedded : state.Embedded) {after : AcceptOp Socket}
    (found : state.accepts accept = some op) (peer : after.peer = op.peer)
    (moves : after.moves = op.moves) (idle : after.waiting = true → after.newSocket = none) :
    (state.setAccept accept (some after)).Embedded := by
  have continues : ∀ {other : Accept} {current : AcceptOp Socket},
      (state.setAccept accept (some after)).accepts other = some current →
      ∃ before, state.accepts other = some before ∧ current.peer = before.peer ∧
        current.moves = before.moves ∧ (current.waiting = true → current.newSocket = none) := by
    intro other current found'
    rcases accepts_setAccept found' with ⟨rfl, same⟩ | ⟨-, was⟩
    · cases same
      exact ⟨op, found, peer, moves, idle⟩
    · exact ⟨current, was, rfl, rfl, embedded.idle other current was⟩
  refine ⟨fun other current found' moves' => ?_, ?_, fun other current found' => ?_⟩
  · obtain ⟨before, was, samePeer, sameMoves, -⟩ := continues found'
    rw [samePeer]
    exact embedded.inside other before was (sameMoves ▸ moves')
  · intro first second current other isFirst isSecond currentMoves otherMoves same
    obtain ⟨one, was, peer, moves, -⟩ := continues isFirst
    obtain ⟨another, wasToo, peer', moves', -⟩ := continues isSecond
    exact embedded.apart first second one another was wasToo (moves ▸ currentMoves)
      (moves' ▸ otherMoves) (peer ▸ peer' ▸ same)
  · obtain ⟨-, -, -, -, idle⟩ := continues found'
    exact idle

/-- A new operation; if it is itself the peer, no other is. -/
theorem Embedded.start (embedded : state.Embedded)
    (inside : op.moves = true → state.life op.peer = .inside ∧
      ∀ other current, state.accepts other = some current → current.moves = true →
        current.peer ≠ op.peer)
    (nothing : op.newSocket = none) : (state.setAccept accept (some op)).Embedded := by
  refine ⟨fun other current found moves => ?_, ?_, fun other current found waits => ?_⟩
  · rcases accepts_setAccept found with ⟨-, same⟩ | ⟨-, was⟩
    · cases same
      exact (inside moves).1
    · exact embedded.inside other current was moves
  · intro first second current other isFirst isSecond moves otherMoves same
    rcases accepts_setAccept isFirst with ⟨rfl, new⟩ | ⟨-, was⟩
    · cases new
      rcases accepts_setAccept isSecond with ⟨rfl, -⟩ | ⟨-, wasToo⟩
      · rfl
      · exact absurd same.symm ((inside moves).2 second other wasToo otherMoves)
    · rcases accepts_setAccept isSecond with ⟨rfl, new⟩ | ⟨-, wasToo⟩
      · cases new
        exact absurd same ((inside otherMoves).2 first current was moves)
      · exact embedded.apart first second current other was wasToo moves otherMoves same
  · rcases accepts_setAccept found with ⟨-, same⟩ | ⟨-, was⟩
    · cases same
      exact nothing
    · exact embedded.idle other current was waits

theorem Embedded.destroyAccept [DecidableEq Socket] (embedded : state.Embedded) (accept : Accept) :
    (state.destroyAccept accept).Embedded := by
  unfold SocketHolders.destroyAccept
  split
  · exact embedded
  · rename_i op found
    let closed := (state.setAccept accept none).closeHeld op.newSocket
    have removed : ∀ {other : Accept} {current : AcceptOp Socket},
        closed.accepts other = some current →
        other ≠ accept ∧ state.accepts other = some current := by
      intro other current found'
      rw [closeHeld_accepts] at found'
      rcases accepts_setAccept found' with ⟨-, impossible⟩ | was
      · cases impossible
      · exact was
    have left : closed.Embedded := by
      refine ⟨fun other current found' moves => ?_, ?_, fun other current found' => ?_⟩
      · rw [closeHeld_life]
        exact embedded.inside other current (removed found').2 moves
      · intro first second current other isFirst isSecond
        exact embedded.apart first second current other (removed isFirst).2 (removed isSecond).2
      · exact embedded.idle other current (removed found').2
    dsimp only
    split
    · rename_i moves
      have accepts : (closed.destroy op.peer).accepts = closed.accepts := closeHeld_accepts _
      have life := @destroy_life _ _ _ _ closed _ op.peer
      refine ⟨fun other current found' moves' => ?_, ?_, ?_⟩
      · have found'' : closed.accepts other = some current := accepts ▸ found'
        have apart : current.peer ≠ op.peer := fun same => (removed found'').1
          (embedded.apart other accept current op (removed found'').2 found moves' moves same)
        rw [show ((state.setAccept accept none).closeHeld op.newSocket).destroy op.peer =
          closed.destroy op.peer from rfl, life, Function.update_of_ne apart]
        exact left.inside other current found'' moves'
      · rw [accepts]
        exact left.apart
      · rw [accepts]
        exact left.idle
    · exact left

end Peers

/-! ## Runs -/

section Runs

variable [DecidableEq Socket] {state next : SocketHolders Socket Accept World Op}

theorem accept_keeps (peer : Socket) (type : SocketType) (accepted : Except ErrorCode Nat)
    (registered : Option ℕ+) :
    (state.accept peer type accepted registered).accepts = state.accepts ∧
      (state.accept peer type accepted registered).life = state.life := by
  unfold SocketHolders.accept
  split
  · exact ⟨rfl, rfl⟩
  · split
    · exact ⟨rfl, rfl⟩
    · dsimp only
      split
      · exact ⟨rfl, rfl⟩
      · exact ⟨rfl, rfl⟩

theorem doOpen_keeps (socket : Socket) (type : SocketType) (created : Except ℕ+ Nat)
    (registered : Option ℕ+) :
    (state.doOpen socket type created registered).accepts = state.accepts ∧
      (state.doOpen socket type created registered).life = state.life := by
  unfold SocketHolders.doOpen
  dsimp only
  split
  · exact ⟨rfl, rfl⟩
  · split
    · exact ⟨rfl, rfl⟩
    · split
      · exact ⟨rfl, rfl⟩
      · exact ⟨rfl, rfl⟩

theorem release_keeps (socket : Socket) :
    (state.release socket).accepts = state.accepts ∧ (state.release socket).life = state.life := by
  unfold SocketHolders.release
  dsimp only
  split
  · exact ⟨rfl, rfl⟩
  · exact ⟨rfl, rfl⟩

variable [DecidableEq Accept]

theorem assignAccepted_keeps {accept : Accept} {op : AcceptOp Socket} (type : SocketType)
    (registered : Option ℕ+) (embedded : state.Embedded)
    (found : state.accepts accept = some op) (ready : op.waiting = false) :
    (state.assignAccepted accept op type registered).Embedded ∧
      (state.assignAccepted accept op type registered).life = state.life := by
  unfold SocketHolders.assignAccepted
  split
  · exact ⟨embedded, rfl⟩
  · have assigned : ∀ service, ({ state with service := service } :
        SocketHolders Socket Accept World Op).Embedded :=
      fun service => embedded.congr rfl fun _ inside => inside
    refine ⟨(assigned _).setAccept found rfl rfl fun waits => ?_, rfl⟩
    exact Bool.noConfusion (waits.symm.trans ready)

/-- The invariant of the runs. -/
structure Sound (state : SocketHolders Socket Accept World Op) : Prop where
  owned : state.Owned
  embedded : state.Embedded

theorem Sound.step {action : HolderAction Socket Accept} (sound : state.Sound)
    (stepped : state.step action = some next) : next.Sound := by
  obtain ⟨owned, embedded⟩ := sound
  have present : ∀ {socket : Socket}, state.life socket = .object → state.life socket ≠ .absent :=
    fun object absent => SocketLife.noConfusion (object.symm.trans absent)
  have outside : ∀ {socket : Socket}, state.life socket = .object → state.life socket ≠ .inside :=
    fun object inside => SocketLife.noConfusion (object.symm.trans inside)
  have new : ∀ {socket : Socket}, state.life socket = .absent → state.life socket ≠ .inside :=
    fun absent inside => SocketLife.noConfusion (absent.symm.trans inside)
  cases action with
  | create descriptor =>
      simp only [SocketHolders.step, Option.ite_none_right_eq_some] at stepped
      obtain ⟨unused, taken⟩ := stepped
      cases taken
      exact ⟨owned.create unused, embedded.congr rfl fun _ inside => inside⟩
  | dispose descriptor =>
      simp only [SocketHolders.step, Option.ite_none_right_eq_some] at stepped
      obtain ⟨owns, taken⟩ := stepped
      cases taken
      exact ⟨owned.dispose owns, embedded.congr rfl fun _ inside => inside⟩
  | construct socket =>
      simp only [SocketHolders.step, Option.ite_none_right_eq_some] at stepped
      obtain ⟨fresh, taken⟩ := stepped
      cases taken
      exact ⟨owned.construct fresh .object, embedded.setLife (new fresh) .object rfl rfl⟩
  | doOpen socket type created registered =>
      simp only [SocketHolders.step, Option.ite_none_right_eq_some] at stepped
      obtain ⟨⟨object, fresh⟩, taken⟩ := stepped
      cases taken
      obtain ⟨accepts, life⟩ := @doOpen_keeps _ _ _ _ _ state socket type created registered
      exact ⟨owned.doOpen (present object) type fresh registered,
        embedded.congr accepts fun _ inside => life ▸ inside⟩
  | doAssign socket type descriptor registered =>
      simp only [SocketHolders.step, Option.ite_none_right_eq_some] at stepped
      obtain ⟨⟨object, owns⟩, taken⟩ := stepped
      cases taken
      refine ⟨owned.doAssign (present object) type owns registered, ?_⟩
      split
      · exact embedded.congr rfl fun _ inside => inside
      · exact embedded.congr rfl fun _ inside => inside
  | close socket closed =>
      simp only [SocketHolders.step, Option.ite_none_right_eq_some] at stepped
      obtain ⟨object, taken⟩ := stepped
      cases taken
      refine ⟨owned.close (present object) closed, embedded.congr (closeHeld_accepts _) ?_⟩
      exact fun _ inside => (congrFun (closeHeld_life _) _).trans inside
  | release socket =>
      simp only [SocketHolders.step, Option.ite_none_right_eq_some] at stepped
      obtain ⟨object, taken⟩ := stepped
      cases taken
      obtain ⟨accepts, life⟩ := @release_keeps _ _ _ _ _ state socket
      exact ⟨owned.release (present object), embedded.congr accepts fun _ inside => life ▸ inside⟩
  | moveConstruct socket other =>
      simp only [SocketHolders.step, Option.ite_none_right_eq_some] at stepped
      obtain ⟨⟨fresh, object⟩, taken⟩ := stepped
      cases taken
      exact ⟨owned.moveConstruct fresh (present object),
        embedded.setLife (new fresh) .object rfl rfl⟩
  | moveAssign socket other =>
      simp only [SocketHolders.step, Option.ite_none_right_eq_some] at stepped
      obtain ⟨⟨object, available⟩, taken⟩ := stepped
      cases taken
      refine ⟨owned.moveAssign (present object) (present available),
        embedded.congr (closeHeld_accepts _) ?_⟩
      exact fun _ inside => (congrFun (closeHeld_life _) _).trans inside
  | destroy socket =>
      simp only [SocketHolders.step, Option.ite_none_right_eq_some] at stepped
      obtain ⟨object, taken⟩ := stepped
      cases taken
      exact ⟨owned.destroy (present object), embedded.setLife (outside object) .absent
        (closeHeld_accepts _) (destroy_life socket)⟩
  | accept peer type accepted registered =>
      simp only [SocketHolders.step, Option.ite_none_right_eq_some] at stepped
      obtain ⟨⟨object, fresh⟩, taken⟩ := stepped
      cases taken
      obtain ⟨accepts, life⟩ := @accept_keeps _ _ _ _ _ state peer type accepted registered
      exact ⟨owned.accept (present object) type fresh registered,
        embedded.congr accepts fun _ inside => life ▸ inside⟩
  | acceptNew peer type accepted registered =>
      simp only [SocketHolders.step, Option.ite_none_right_eq_some] at stepped
      obtain ⟨⟨absent, fresh⟩, taken⟩ := stepped
      cases taken
      have made := owned.construct absent .object
      have inPlace : (state.construct peer .object).Embedded :=
        embedded.setLife (new absent) .object rfl rfl
      have here : (state.construct peer .object).life peer ≠ .absent := by
        change Function.update state.life peer .object peer ≠ _
        rw [Function.update_self]
        exact SocketLife.noConfusion
      obtain ⟨accepts, life⟩ := @accept_keeps _ _ _ _ _ (state.construct peer .object) peer type
        accepted registered
      exact ⟨made.accept here type fresh registered,
        inPlace.congr accepts fun _ inside => life ▸ inside⟩
  | asyncAccept accept peer notStarted =>
      simp only [SocketHolders.step] at stepped
      split at stepped
      · cases stepped
      · rename_i absent
        simp only [Option.ite_none_right_eq_some] at stepped
        obtain ⟨object, taken⟩ := stepped
        cases taken
        refine ⟨owned.setAccept ?_, embedded.start (fun moves => Bool.noConfusion moves) rfl⟩
        change none = (state.accepts accept).bind _
        rw [absent]
        rfl
  | asyncMoveAccept accept peer notStarted =>
      simp only [SocketHolders.step] at stepped
      split at stepped
      · cases stepped
      · rename_i free
        simp only [Option.ite_none_right_eq_some] at stepped
        obtain ⟨absent, taken⟩ := stepped
        cases taken
        have made := owned.construct absent .inside
        have inPlace : (state.construct peer .inside).Embedded :=
          embedded.setLife (new absent) .inside rfl rfl
        refine ⟨made.setAccept ?_, inPlace.start (fun _ => ⟨?_, ?_⟩) rfl⟩
        · change none = (state.accepts accept).bind _
          rw [free]
          rfl
        · exact Function.update_self ..
        · intro other current found moves same
          have peers : current.peer = peer := same
          exact new absent (peers ▸ embedded.inside other current found moves)
  | perform accept accepted =>
      simp only [SocketHolders.step] at stepped
      split at stepped
      · cases stepped
      · rename_i op found
        simp only [Option.ite_none_right_eq_some] at stepped
        obtain ⟨waits, taken⟩ := stepped
        have nothing := embedded.idle accept op found waits
        have holds := (refers_accept found).trans nothing
        rw [nothing] at taken
        cases accepted with
        | none =>
            cases taken
            exact ⟨owned.setAccept holds.symm, embedded.setAccept found rfl rfl fun _ => rfl⟩
        | some result =>
            cases result with
            | error ec =>
                cases taken
                exact ⟨owned.setAccept holds.symm,
                  embedded.setAccept found rfl rfl fun waits => Bool.noConfusion waits⟩
            | ok sock =>
                simp only [Option.ite_none_right_eq_some] at taken
                obtain ⟨unused, taken⟩ := taken
                cases taken
                have opened : (state.openDescriptor sock).Embedded :=
                  embedded.congr rfl fun _ inside => inside
                exact ⟨owned.performed holds unused rfl,
                  opened.setAccept found rfl rfl fun waits => Bool.noConfusion waits⟩
  | cancel accept =>
      simp only [SocketHolders.step] at stepped
      split at stepped
      · cases stepped
      · rename_i op found
        simp only [Option.ite_none_right_eq_some] at stepped
        obtain ⟨waits, taken⟩ := stepped
        cases taken
        exact ⟨owned.setAccept (refers_accept found).symm,
          embedded.setAccept found rfl rfl fun waits => Bool.noConfusion waits⟩
  | complete accept type registered bound =>
      simp only [SocketHolders.step] at stepped
      split at stepped
      · cases stepped
      · rename_i op found
        simp only [Option.ite_none_right_eq_some] at stepped
        obtain ⟨⟨ready, sockets⟩, taken⟩ := stepped
        cases taken
        have here : state.life op.peer ≠ .absent := by
          by_cases moves : op.moves = true
          · rw [embedded.inside accept op found moves]
            exact SocketLife.noConfusion
          · rw [if_neg moves] at sockets
            exact present sockets
        have assigned := owned.assignAccepted found here type registered
        obtain ⟨kept, life⟩ := assignAccepted_keeps type registered embedded found ready
        split
        · rename_i moves
          rw [if_pos moves] at sockets
          have handed := assigned.moveConstruct (life ▸ sockets) (life ▸ here)
          have inPlace : ((state.assignAccepted accept op type registered).moveConstruct bound
              op.peer).Embedded := kept.setLife (life ▸ new sockets) .object rfl rfl
          exact ⟨handed.destroyAccept inPlace accept, inPlace.destroyAccept accept⟩
        · exact ⟨assigned.destroyAccept kept accept, kept.destroyAccept accept⟩
  | abandon accept =>
      simp only [SocketHolders.step] at stepped
      split at stepped
      · cases stepped
      · cases stepped
        exact ⟨owned.destroyAccept embedded accept, embedded.destroyAccept accept⟩

omit [DecidableEq Socket] [DecidableEq Accept] in
theorem sound_new (world : World) : (.new world : SocketHolders Socket Accept World Op).Sound where
  owned := by
    refine ⟨?_, rfl⟩
    have nothing : (.new world : SocketHolders Socket Accept World Op).refers = fun _ => none := by
      funext owner
      cases owner <;> rfl
    rw [nothing]
    exact RefCount.exclusive_none
  embedded := by
    constructor
    · intro accept op found
      cases found
    · intro first second op other found
      cases found
    · intro accept op found
      cases found

end Runs

end SocketHolders

/-- **Every open descriptor has one owner**, the user, a socket or an accept operation, and no
descriptor is closed that is not open: none is lost, and none is closed twice. -/
theorem descriptors_owned_once [DecidableEq Socket] [DecidableEq Accept]
    {state : SocketHolders Socket Accept World Op} (reachable : socketHolders.Reachable state) :
    state.misused = false ∧
      ∀ descriptor, (state.opened descriptor = true ↔
        ∃ owner, state.refers owner = some descriptor) ∧
        ∀ first second, state.refers first = some descriptor →
          state.refers second = some descriptor → first = second := by
  have sound : state.Sound := by
    apply reachable.invariant
    · rintro state ⟨world, rfl⟩
      exact SocketHolders.sound_new world
    · exact fun state action next _ sound _ stepped => sound.step stepped
  refine ⟨sound.owned.proper, fun descriptor => ⟨?_, fun first second => ?_⟩⟩
  · exact sound.owned.exclusive.used_iff descriptor
  · exact sound.owned.exclusive.unique

/-- A connection is accepted into a socket that has been opened meanwhile, another by an operation
that is abandoned, and a third moves on to the user. -/
def someHolderActions : List (HolderAction Nat Nat) :=
  [.construct 0, .construct 1, .doOpen 0 .stream (.ok 3) none, .asyncAccept 0 1 none,
    .perform 0 (some (.ok 4)), .doOpen 1 .stream (.ok 5) none, .complete 0 .stream none 9,
    .asyncMoveAccept 1 2 none, .perform 1 (some (.ok 4)), .abandon 1, .moveAssign 1 1,
    .asyncMoveAccept 1 2 none, .perform 1 (some (.ok 6)), .complete 1 .stream none 3,
    .release 3, .moveAssign 0 3]

theorem descriptors_owned_once_someHolderActions :
    ∃ state : SocketHolders Nat Nat Unit Unit,
      socketHolders.run (.new ()) someHolderActions = some state ∧ state.misused = false := by
  let start : SocketHolders Nat Nat Unit Unit := .new ()
  have ran : socketHolders.run start someHolderActions =
      some ((socketHolders.run start someHolderActions).get rfl) := rfl
  have begins : socketHolders.Reachable start := .initial ⟨(), rfl⟩
  exact ⟨_, ran, (descriptors_owned_once (begins.run someHolderActions ran)).1⟩

end Asio.Network
