import Asio.Chat.ChatServer

/-! # What the chat server relays

A session that joins the room is owed the last hundred messages and then all that follow until it
leaves, in the order in which the room was given them. What has been written to it and what still
waits in its queue are these, whatever the order of the completions and however a write fails.
-/

namespace Asio.Chat

open CString Transition

namespace ChatSession

variable (session : ChatSession) (log : List (Nat × ChatMessage))

/-- The messages that a session is owed. -/
def owed : List ChatMessage :=
  ((log.take (session.left.getD log.length)).drop (session.joined - maxRecentMsgs)).map Prod.snd

/-- What the bytes read so far are, where some messages were given to the room. -/
def Received (own : List ChatMessage) : Prop :=
  match session.readOp with
  | .header => session.input = bytesOf own
  | .body =>
      session.input = bytesOf own ++ session.readMsg.data.take headerLength ∧
      headerLength ≤ session.readMsg.data.length ∧
      headerNumber (session.readMsg.data.take headerLength) = session.readMsg.bodyLength ∧
      session.readMsg.bodyLength ≤ maxBodyLength
  | .ended => ∃ part, session.input = bytesOf own ++ part ∧ bodiesOf part = []

/-- Where some messages were written, one write is in flight when more are queued, and none
otherwise. After a write that failed there is no other. -/
def Wrote (sent : List ChatMessage) : Prop :=
  (session.writes = (if session.writeMsgs = [] then 0 else 1) ∧ session.output = bytesOf sent) ∨
  (session.writes = 0 ∧ session.left ≠ none ∧ session.writeMsgs ≠ [] ∧
    ∃ part, session.output = bytesOf sent ++ part ∧ bodiesOf part = [])

/-- The session has written and queued what it is owed. -/
structure Queues : Prop where
  joined_le : session.joined ≤ log.length
  left_le : ∀ count, session.left = some count → count ≤ log.length
  sent : ∃ sent, sent ++ session.writeMsgs = session.owed log ∧ session.Wrote sent

end ChatSession

/-- The messages that a session gave to the room. -/
def ownMsgs (log : List (Nat × ChatMessage)) (id : Nat) : List ChatMessage :=
  (log.filter (·.1 = id)).map Prod.snd

/-- The room has the last messages, its participants are the sessions that have not left, and all
sessions have read and written what the log says. -/
structure ChatServer.Sound (server : ChatServer) : Prop where
  formed : ∀ entry ∈ server.log, entry.2.WellFormed
  senders : ∀ entry ∈ server.log, entry.1 < server.sessions.length
  recent : server.recentMsgs =
    (server.log.drop (server.log.length - maxRecentMsgs)).map Prod.snd
  nodup : server.participants.Nodup
  known : ∀ id ∈ server.participants, id < server.sessions.length
  inside : ∀ (id : Nat) (session : ChatSession), server.sessions[id]? = some session →
    (id ∈ server.participants ↔ session.left = none)
  received : ∀ (id : Nat) (session : ChatSession), server.sessions[id]? = some session →
    session.Received (ownMsgs server.log id)
  queues : ∀ (id : Nat) (session : ChatSession), server.sessions[id]? = some session →
    session.Queues server.log

/-! ## What a session does -/

namespace ChatSession

variable {session : ChatSession} {log : List (Nat × ChatMessage)}

theorem deliver_eq (msg : ChatMessage) :
    session.deliver msg =
      { session with
        writeMsgs := session.writeMsgs ++ [msg]
        writes := if session.writeMsgs = [] then session.writes + 1 else session.writes } := by
  rw [deliver]
  cases waiting : session.writeMsgs with
  | nil => rfl
  | cons front rest => rfl

theorem Wrote.deliver {sent : List ChatMessage} (wrote : session.Wrote sent)
    (stays : session.left = none) (msg : ChatMessage) : (session.deliver msg).Wrote sent := by
  rcases wrote with ⟨writes, output⟩ | ⟨-, left, -⟩
  · rw [deliver_eq]
    refine .inl ⟨?_, output⟩
    dsimp only
    rw [writes, if_neg (List.append_ne_nil_of_right_ne_nil _ (List.cons_ne_nil _ _))]
    split
    · rfl
    · rfl
  · exact absurd stays left

/-- By induction on the messages that are delivered. -/
theorem foldl_deliver {sent : List ChatMessage} (msgs : List ChatMessage)
    (wrote : session.Wrote sent) (stays : session.left = none) :
    ∃ writes, msgs.foldl deliver session =
        { session with writeMsgs := session.writeMsgs ++ msgs, writes } ∧
      (msgs.foldl deliver session).Wrote sent := by
  induction msgs generalizing session with
  | nil => exact ⟨session.writes, by rw [List.append_nil, List.foldl_nil], wrote⟩
  | cons msg msgs ih =>
      have now := wrote.deliver stays msg
      have still : (session.deliver msg).left = none := by
        rw [deliver_eq]
        exact stays
      obtain ⟨writes, same, after⟩ := ih now still
      refine ⟨writes, ?_, after⟩
      rw [List.foldl_cons, same, deliver_eq]
      dsimp only
      rw [List.append_assoc, List.singleton_append]

theorem owed_append_of_none (stays : session.left = none) (entry : Nat × ChatMessage)
    (joined_le : session.joined ≤ log.length) :
    session.owed (log ++ [entry]) = session.owed log ++ [entry.2] := by
  rw [owed, owed, stays, Option.getD_none, Option.getD_none, List.take_length, List.take_length,
    List.drop_append_of_le_length (by omega), List.map_append, List.map_singleton]

theorem owed_append_of_some {count : Nat} (left : session.left = some count)
    (entry : Nat × ChatMessage) (left_le : count ≤ log.length) :
    session.owed (log ++ [entry]) = session.owed log := by
  rw [owed, owed, left, Option.getD_some, Option.getD_some,
    List.take_append_of_le_length left_le]

/-- A message is delivered to a session in the room. -/
theorem Queues.deliver (queues : session.Queues log) (stays : session.left = none)
    (entry : Nat × ChatMessage) : (session.deliver entry.2).Queues (log ++ [entry]) := by
  obtain ⟨sent, all, wrote⟩ := queues.sent
  have later := wrote.deliver stays entry.2
  have owed := owed_append_of_none stays entry queues.joined_le
  rw [deliver_eq] at later ⊢
  refine ⟨?_, ?_, sent, ?_, later⟩
  · rw [List.length_append]
    exact queues.joined_le.trans (Nat.le_add_right _ _)
  · intro count left
    exact absurd (stays.symm.trans left) (Option.some_ne_none count).symm
  · rw [← List.append_assoc, all]
    exact owed.symm

/-- The others get nothing, and are owed nothing. -/
theorem Queues.skip (queues : session.Queues log) (gone : session.left ≠ none)
    (entry : Nat × ChatMessage) : session.Queues (log ++ [entry]) := by
  obtain ⟨count, left⟩ := Option.ne_none_iff_exists'.mp gone
  obtain ⟨sent, all, wrote⟩ := queues.sent
  have left_le := queues.left_le count left
  refine ⟨?_, ?_, sent, ?_, wrote⟩
  · rw [List.length_append]
    exact queues.joined_le.trans (Nat.le_add_right _ _)
  · intro other same
    rw [List.length_append]
    exact (queues.left_le other same).trans (Nat.le_add_right _ _)
  · rw [owed_append_of_some left entry left_le]
    exact all

/-- A message that the room is given is delivered to a session that is in the room. -/
theorem Queues.relay {room : Prop} [Decidable room] (queues : session.Queues log)
    (inside : room ↔ session.left = none) (entry : Nat × ChatMessage) :
    (if room then session.deliver entry.2 else session).Queues (log ++ [entry]) := by
  split
  · rename_i here
    exact queues.deliver (inside.mp here) entry
  · rename_i away
    exact queues.skip (mt inside.mpr away) entry

theorem left_relay {room : Prop} [Decidable room] (msg : ChatMessage) :
    (if room then session.deliver msg else session).left = session.left := by
  split
  · rw [deliver_eq]
  · rfl

theorem Received.relay {room : Prop} [Decidable room] {own : List ChatMessage}
    (received : session.Received own) (msg : ChatMessage) :
    (if room then session.deliver msg else session).Received own := by
  split
  · rw [deliver_eq]
    exact received
  · exact received

theorem input_relay {room : Prop} [Decidable room] (msg : ChatMessage) :
    (if room then session.deliver msg else session).input = session.input := by
  split
  · rw [deliver_eq]
  · rfl

theorem owed_letGo : (session.letGo log.length).owed log = session.owed log := by
  rw [owed, owed, letGo]
  cases session.left with
  | none => rfl
  | some count => rfl

theorem left_letGo_ne_none (count : Nat) : (session.letGo count).left ≠ none := by
  rw [letGo]
  cases session.left with
  | none => exact Option.some_ne_none _
  | some count => exact Option.some_ne_none _

theorem left_letGo_le (left_le : ∀ count, session.left = some count → count ≤ log.length)
    (count : Nat) (left : (session.letGo log.length).left = some count) : count ≤ log.length := by
  rw [letGo] at left
  cases before : session.left with
  | none =>
      rw [before] at left
      exact (Option.some.inj left).ge
  | some earlier =>
      rw [before] at left
      exact left_le count (before.trans left)

/-- What a session has read does not matter for what it writes. -/
theorem Queues.reading (queues : session.Queues log) (readMsg : ChatMessage) (readOp : ReadOp)
    (input : Text) : { session with readMsg, readOp, input }.Queues log :=
  ⟨queues.joined_le, queues.left_le, queues.sent⟩

theorem Queues.letGo (queues : session.Queues log) : (session.letGo log.length).Queues log := by
  obtain ⟨sent, all, wrote⟩ := queues.sent
  refine ⟨queues.joined_le, left_letGo_le queues.left_le, sent, ?_, ?_⟩
  · rw [owed_letGo]
    exact all
  · rcases wrote with first | ⟨writes, -, waiting, part⟩
    · exact .inl first
    · exact .inr ⟨writes, left_letGo_ne_none _, waiting, part⟩

/-- A write of the front message ends, and the next one starts. -/
theorem Queues.written (queues : session.Queues log) (inFlight : 0 < session.writes) :
    session.written.Queues log := by
  obtain ⟨sent, all, wrote⟩ := queues.sent
  obtain ⟨writes, output⟩ := wrote.resolve_right fun broken => inFlight.ne' broken.1
  cases waiting : session.writeMsgs with
  | nil =>
      rw [waiting, if_pos rfl] at writes
      exact absurd writes inFlight.ne'
  | cons front rest =>
      rw [waiting, if_neg (List.cons_ne_nil _ _)] at writes
      rw [waiting] at all
      have moved : session.output ++ front.bytes = bytesOf (sent ++ [front]) := by
        rw [output, bytesOf_concat]
      have kept : (sent ++ [front]) ++ rest = session.owed log := by
        rw [List.append_assoc]
        exact all
      rw [ChatSession.written, waiting]
      dsimp only
      rw [writes]
      cases rest with
      | nil => exact ⟨queues.joined_le, queues.left_le, _, kept, .inl ⟨rfl, moved⟩⟩
      | cons next rest => exact ⟨queues.joined_le, queues.left_le, _, kept, .inl ⟨rfl, moved⟩⟩

/-- The end of a write changes only what is queued, in flight and written. -/
theorem written_eq (session : ChatSession) :
    ∃ writeMsgs writes output,
      session.written = { session with writeMsgs, writes, output } := by
  rw [written]
  split
  · exact ⟨session.writeMsgs, session.writes, session.output, rfl⟩
  · dsimp only
    split
    · exact ⟨_, _, _, rfl⟩
    · exact ⟨_, _, _, rfl⟩

/-- A write of the front message fails, and the session leaves. -/
theorem Queues.writtenPart (queues : session.Queues log)
    (formed : ∀ entry ∈ log, entry.2.WellFormed) (inFlight : 0 < session.writes)
    {front : ChatMessage} {rest : List ChatMessage} (waiting : session.writeMsgs = front :: rest)
    {transferred : Nat} (short : transferred < front.length) :
    ((session.writtenPart transferred).letGo log.length).Queues log := by
  obtain ⟨sent, all, wrote⟩ := queues.sent
  obtain ⟨writes, output⟩ := wrote.resolve_right fun broken => inFlight.ne' broken.1
  rw [waiting, if_neg (List.cons_ne_nil _ _)] at writes
  have whole : front.WellFormed := by
    have owed : front ∈ session.owed log := by
      rw [← all, waiting]
      exact List.mem_append_right _ List.mem_cons_self
    obtain ⟨entry, inside, rfl⟩ := List.mem_map.mp owed
    exact formed entry (List.mem_of_mem_take (List.mem_of_mem_drop inside))
  have unread := whole.bodiesOf_take short
  rw [waiting] at all
  rw [ChatSession.writtenPart, waiting]
  dsimp only
  rw [writes]
  refine ⟨queues.joined_le, left_letGo_le queues.left_le, sent, ?_,
    .inr ⟨rfl, left_letGo_ne_none _, ?_, _, congrArg (· ++ _) output, unread⟩⟩
  · rw [owed_letGo]
    exact all
  · exact List.cons_ne_nil _ _

end ChatSession

theorem ownMsgs_concat_self (log : List (Nat × ChatMessage)) (id : Nat) (msg : ChatMessage) :
    ownMsgs (log ++ [(id, msg)]) id = ownMsgs log id ++ [msg] := by
  rw [ownMsgs, List.filter_append, List.map_append, List.filter_singleton, decide_eq_true rfl]
  rfl

theorem ownMsgs_concat_other (log : List (Nat × ChatMessage)) {id other : Nat}
    (away : other ≠ id) (msg : ChatMessage) :
    ownMsgs (log ++ [(id, msg)]) other = ownMsgs log other := by
  rw [ownMsgs, List.filter_append, List.filter_singleton, decide_eq_false (Ne.symm away),
    cond_false, List.append_nil]
  rfl

/-! ## What happens to the sessions -/

namespace ChatServer

variable {server : ChatServer}

/-- By induction on the messages, the oldest of which are dropped. -/
theorem keepRecent_eq (msgs : List ChatMessage) :
    keepRecent msgs = msgs.drop (msgs.length - maxRecentMsgs) := by
  induction msgs with
  | nil => rfl
  | cons oldest msgs ih =>
      rw [keepRecent]
      split
      · rename_i more
        have fewer : msgs.length + 1 - maxRecentMsgs = (msgs.length - maxRecentMsgs) + 1 :=
          Nat.succ_sub (Nat.le_of_lt_succ more)
        rw [ih, List.length_cons, fewer, List.drop_succ_cons]
      · rename_i few
        rw [Nat.sub_eq_zero_of_le (Nat.not_lt.mp few), List.drop_zero]

/-- The last messages before and one more have the last messages after among them. -/
theorem keepRecent_append {log : List (Nat × ChatMessage)} {recent : List ChatMessage}
    (last : recent = (log.drop (log.length - maxRecentMsgs)).map Prod.snd)
    (entry : Nat × ChatMessage) :
    keepRecent (recent ++ [entry.2]) =
      ((log ++ [entry]).drop ((log ++ [entry]).length - maxRecentMsgs)).map Prod.snd := by
  have shift : recent ++ [entry.2] =
      ((log ++ [entry]).drop (log.length - maxRecentMsgs)).map Prod.snd := by
    rw [List.drop_append_of_le_length (Nat.sub_le _ _), List.map_append, last]
    rfl
  have enough : log.length - maxRecentMsgs +
      ((log ++ [entry]).length - (log.length - maxRecentMsgs) - maxRecentMsgs) =
      (log ++ [entry]).length - maxRecentMsgs := by
    rw [List.length_append, List.length_singleton]
    omega
  rw [keepRecent_eq, shift, ← List.map_drop, List.drop_drop, List.length_map, List.length_drop,
    enough]

theorem modify_sessions (id : Nat) (change : ChatSession → ChatSession) (other : Nat) :
    (server.modify id change).sessions[other]? =
      server.sessions[other]?.map fun session =>
        if id = other then change session else session := by
  rw [modify, List.getElem?_modify]
  rfl

theorem length_modify (id : Nat) (change : ChatSession → ChatSession) :
    (server.modify id change).sessions.length = server.sessions.length :=
  List.length_modify _ _ _

theorem modify_modify (id : Nat) (change again : ChatSession → ChatSession) :
    (server.modify id change).modify id again = server.modify id (again ∘ change) := by
  rw [modify, modify, modify]
  congr 1
  exact List.modify_modify_eq _ _ _ _

/-- A session that is there after a change was there before. -/
theorem modify_present {id other : Nat} {change : ChatSession → ChatSession}
    {session : ChatSession} (present : (server.modify id change).sessions[other]? = some session) :
    (other = id ∧ ∃ before, server.sessions[id]? = some before ∧ change before = session) ∨
    (other ≠ id ∧ server.sessions[other]? = some session) := by
  rw [modify_sessions, Option.map_eq_some_iff] at present
  obtain ⟨before, there, changed⟩ := present
  by_cases same : id = other
  · subst same
    exact .inl ⟨rfl, before, there, (if_pos rfl).symm.trans changed⟩
  · rw [if_neg same] at changed
    exact .inr ⟨Ne.symm same, there.trans (congrArg some changed)⟩

/-- By induction on the sessions before the last one. -/
theorem modify_last (change : ChatSession → ChatSession) (sessions : List ChatSession)
    (session : ChatSession) :
    (sessions ++ [session]).modify sessions.length change = sessions ++ [change session] := by
  induction sessions with
  | nil => rfl
  | cons first rest ih => exact congrArg (first :: ·) ih

/-- By induction on the messages that are delivered to a session. -/
theorem foldl_recent (id : Nat) (msgs : List ChatMessage) :
    msgs.foldl (fun server msg => server.modify id (·.deliver msg)) server =
      server.modify id fun session => msgs.foldl ChatSession.deliver session := by
  induction msgs generalizing server with
  | nil =>
      rw [List.foldl_nil, modify]
      exact congrArg (fun sessions => { server with sessions })
        (List.modify_id id server.sessions).symm
  | cons msg msgs ih =>
      rw [List.foldl_cons, ih, modify_modify]
      rfl

/-- By induction on the participants, each of which gets the message once. -/
theorem foldl_participants (server : ChatServer) (msg : ChatMessage) {ids : List Nat}
    (nodup : ids.Nodup) :
    ∃ sessions, ids.foldl (fun server id => server.modify id (·.deliver msg)) server =
        { server with sessions } ∧
      sessions.length = server.sessions.length ∧
      ∀ other, sessions[other]? = server.sessions[other]?.map fun session =>
        if other ∈ ids then session.deliver msg else session := by
  induction ids generalizing server with
  | nil =>
      refine ⟨server.sessions, rfl, rfl, fun other => ?_⟩
      cases server.sessions[other]? with
      | none => rfl
      | some session => rw [Option.map_some, if_neg List.not_mem_nil]
  | cons id ids ih =>
      obtain ⟨absent, others⟩ := List.nodup_cons.mp nodup
      obtain ⟨sessions, same, long, now⟩ := ih (server.modify id (·.deliver msg)) others
      refine ⟨sessions, same, long.trans (length_modify _ _), fun other => ?_⟩
      rw [now, modify_sessions, Option.map_map]
      congr 1
      funext session
      rw [Function.comp_apply]
      by_cases here : id = other
      · subst here
        rw [if_neg absent, if_pos rfl, if_pos List.mem_cons_self]
      · rw [if_neg here]
        congr 1
        rw [List.mem_cons, or_iff_right (Ne.symm here)]

/-- A session that has just started, with some writes in flight. -/
def started (server : ChatServer) (data : Text) (writes : Nat) : ChatSession where
  readMsg := .constructed data
  writeMsgs := server.recentMsgs
  readOp := .header
  writes := writes
  input := []
  output := []
  joined := server.log.length
  left := none

/-- What the server is when a session has started. -/
theorem start_eq (data : Text) (absent : server.sessions.length ∉ server.participants) :
    ∃ writes, (server.started data writes).Wrote [] ∧
      server.start data =
        { server with
          participants := server.sessions.length :: server.participants
          sessions := server.sessions ++ [server.started data writes] } := by
  let made : ChatSession := ⟨.constructed data, [], .ended, 0, [], [], server.log.length, none⟩
  have idle : made.Wrote [] := .inl ⟨rfl, rfl⟩
  obtain ⟨writes, same, wrote⟩ := ChatSession.foldl_deliver server.recentMsgs idle rfl
  rw [same] at wrote
  refine ⟨writes, wrote, ?_⟩
  rw [start, join, foldl_recent, modify_modify, modify, List.insert_of_not_mem absent]
  dsimp only
  rw [modify_last]
  exact congrArg (fun session : ChatSession => ({ server with
    participants := server.sessions.length :: server.participants
    sessions := server.sessions ++ [session.doReadHeader] } : ChatServer)) same

/-- What the server is when a session has read a message. The sender reads on, and the others are
there as before, but for the message. -/
theorem bodyRead_eq {id : Nat} {session : ChatSession} (nodup : server.participants.Nodup)
    (present : server.sessions[id]? = some session) (received : ChatSession) :
    ∃ sessions, server.bodyRead id received =
        { server with
          recentMsgs := keepRecent (server.recentMsgs ++ [received.readMsg])
          sessions
          log := server.log ++ [(id, received.readMsg)] } ∧
      sessions.length = server.sessions.length ∧
      ∀ {other : Nat} {after : ChatSession}, sessions[other]? = some after →
        (other = id ∧ after = (if id ∈ server.participants then received.deliver received.readMsg
          else received).doReadHeader) ∨
        (other ≠ id ∧ ∃ before, server.sessions[other]? = some before ∧
          after = if other ∈ server.participants then before.deliver received.readMsg
            else before) := by
  let base : ChatServer :=
    { server.modify id (fun _ => received) with
      recentMsgs := keepRecent (server.recentMsgs ++ [received.readMsg])
      log := server.log ++ [(id, received.readMsg)] }
  obtain ⟨sessions, same, long, now⟩ := foldl_participants base received.readMsg nodup
  refine ⟨_, congrArg (fun server : ChatServer => server.modify id (·.doReadHeader)) same, ?_, ?_⟩
  · rw [List.length_modify]
    exact long.trans (length_modify _ _)
  · intro other after found
    have there : (({ base with sessions } : ChatServer).modify id
        (·.doReadHeader)).sessions[other]? = some after := found
    obtain ⟨rfl, before, was, rfl⟩ | ⟨away, was⟩ := modify_present there
    · have changed : base.sessions[other]? = some received := by
        refine (modify_sessions other (fun _ => received) other).trans ?_
        rw [present, Option.map_some, if_pos rfl]
      rw [now, changed] at was
      exact .inl ⟨rfl, congrArg ChatSession.doReadHeader (Option.some.inj was).symm⟩
    · have kept : base.sessions[other]? = server.sessions[other]? := by
        refine (modify_sessions id (fun _ => received) other).trans ?_
        cases server.sessions[other]? with
        | none => rfl
        | some before => rw [Option.map_some, if_neg (Ne.symm away)]
      rw [now, kept, Option.map_eq_some_iff] at was
      obtain ⟨before, earlier, changed⟩ := was
      exact .inr ⟨away, before, earlier, changed.symm⟩

/-! ## What the server keeps -/

namespace Sound

theorem new : ChatServer.new.Sound where
  formed _ inside := absurd inside List.not_mem_nil
  senders _ inside := absurd inside List.not_mem_nil
  recent := rfl
  nodup := List.nodup_nil
  known _ inside := absurd inside List.not_mem_nil
  inside _ _ present := absurd present (Option.some_ne_none _).symm
  received _ _ present := absurd present (Option.some_ne_none _).symm
  queues _ _ present := absurd present (Option.some_ne_none _).symm

/-- A session changes that stays where it is. -/
theorem modify (sound : server.Sound) {id : Nat} {change : ChatSession → ChatSession}
    (kept : ∀ session, server.sessions[id]? = some session →
      (change session).left = session.left ∧
      (change session).Received (ownMsgs server.log id) ∧
      (change session).Queues server.log) :
    (server.modify id change).Sound where
  formed := sound.formed
  senders entry inside := by
    rw [length_modify]
    exact sound.senders entry inside
  recent := sound.recent
  nodup := sound.nodup
  known other inside := by
    rw [length_modify]
    exact sound.known other inside
  inside other session present := by
    obtain ⟨rfl, before, there, rfl⟩ | ⟨-, there⟩ := modify_present present
    · rw [(kept before there).1]
      exact sound.inside other before there
    · exact sound.inside other session there
  received other session present := by
    obtain ⟨rfl, before, there, rfl⟩ | ⟨-, there⟩ := modify_present present
    · exact (kept before there).2.1
    · exact sound.received other session there
  queues other session present := by
    obtain ⟨rfl, before, there, rfl⟩ | ⟨-, there⟩ := modify_present present
    · exact (kept before there).2.2
    · exact sound.queues other session there

/-- A session changes and leaves. -/
theorem leave (sound : server.Sound) {id : Nat} {change : ChatSession → ChatSession}
    (kept : ∀ session, server.sessions[id]? = some session →
      (change session).Received (ownMsgs server.log id) ∧
      ((change session).letGo server.log.length).Queues server.log) :
    ((server.modify id change).leave id).Sound := by
  have left : (server.modify id change).leave id =
      { server.modify id ((·.letGo server.log.length) ∘ change) with
        participants := server.participants.erase id } := by
    rw [← modify_modify]
    rfl
  rw [left]
  refine ⟨sound.formed, ?_, sound.recent, sound.nodup.erase id, ?_, ?_, ?_, ?_⟩
  · intro entry inside
    exact (sound.senders entry inside).trans_eq (length_modify _ _).symm
  · intro other inside
    exact (sound.known other (List.mem_of_mem_erase inside)).trans_eq (length_modify _ _).symm
  · intro other session present
    obtain ⟨rfl, before, there, rfl⟩ | ⟨away, there⟩ := modify_present present
    · exact iff_of_false sound.nodup.not_mem_erase (ChatSession.left_letGo_ne_none _)
    · exact (List.mem_erase_of_ne away).trans (sound.inside other session there)
  · intro other session present
    obtain ⟨rfl, before, there, rfl⟩ | ⟨-, there⟩ := modify_present present
    · exact (kept before there).1
    · exact sound.received other session there
  · intro other session present
    obtain ⟨rfl, before, there, rfl⟩ | ⟨-, there⟩ := modify_present present
    · exact (kept before there).2
    · exact sound.queues other session there

/-- A session that gives no message to the room was given none by the log. -/
theorem ownMsgs_eq_nil (sound : server.Sound) : ownMsgs server.log server.sessions.length = [] := by
  rw [ownMsgs, List.map_eq_nil_iff, List.filter_eq_nil_iff]
  intro entry inside same
  exact (sound.senders entry inside).ne (of_decide_eq_true same)

/-- A session starts. -/
theorem start (sound : server.Sound) (data : Text) : (server.start data).Sound := by
  have absent : server.sessions.length ∉ server.participants := fun inside =>
    (sound.known _ inside).ne rfl
  obtain ⟨writes, wrote, same⟩ := start_eq data absent
  -- The session that is made is the last one, and the others are there as before.
  have present {other : Nat} {session : ChatSession}
      (there : (server.sessions ++ [server.started data writes])[other]? = some session) :
      (other = server.sessions.length ∧ session = server.started data writes) ∨
      (other ≠ server.sessions.length ∧ server.sessions[other]? = some session) := by
    by_cases last : other = server.sessions.length
    · rw [last, List.getElem?_concat_length] at there
      exact .inl ⟨last, (Option.some.inj there).symm⟩
    · have within := (List.getElem?_eq_some_iff.mp there).1
      rw [List.length_append, List.length_singleton] at within
      rw [List.getElem?_append_left (by omega)] at there
      exact .inr ⟨last, there⟩
  rw [same]
  refine ⟨sound.formed, ?_, sound.recent, List.nodup_cons.mpr ⟨absent, sound.nodup⟩, ?_, ?_, ?_, ?_⟩
  · intro entry inside
    rw [List.length_append]
    exact Nat.lt_succ_of_lt (sound.senders entry inside)
  · intro other inside
    rw [List.length_append]
    rcases List.mem_cons.mp inside with rfl | inside
    · exact Nat.lt_succ_self _
    · exact Nat.lt_succ_of_lt (sound.known other inside)
  · intro other session there
    obtain ⟨rfl, rfl⟩ | ⟨away, there⟩ := present there
    · exact iff_of_true List.mem_cons_self rfl
    · rw [List.mem_cons, or_iff_right away]
      exact sound.inside other session there
  · intro other session there
    obtain ⟨rfl, rfl⟩ | ⟨away, there⟩ := present there
    · rw [sound.ownMsgs_eq_nil]
      rfl
    · exact sound.received other session there
  · intro other session there
    obtain ⟨rfl, rfl⟩ | ⟨away, there⟩ := present there
    · refine ⟨le_rfl, fun _ left => absurd left (Option.some_ne_none _).symm, [], ?_, wrote⟩
      rw [ChatSession.owed, started, Option.getD_none, List.take_length, List.nil_append]
      exact sound.recent
    · exact sound.queues other session there

variable {id : Nat} {session : ChatSession}

/-- A header was read. It is refused, or the body is read. -/
theorem headerRead (sound : server.Sound) (present : server.sessions[id]? = some session)
    (reading : session.readOp = .header) {text : Text} (whole : text.length = headerLength) :
    (server.headerRead id (session.receive text)).Sound := by
  have before := sound.received id session present
  rw [ChatSession.Received, reading] at before
  have placed : session.offset = 0 := by
    rw [ChatSession.offset, reading]
  have header : (session.receive text).readMsg.data.take headerLength = text := by
    rw [ChatSession.receive, placed]
    exact session.readMsg.take_readAt_zero whole
  have long : text.length ≤ (session.receive text).readMsg.data.length := by
    have taken := congrArg List.length header
    rw [List.length_take] at taken
    exact taken.ge.trans (Nat.min_le_right _ _)
  have input : (session.receive text).input = bytesOf (ownMsgs server.log id) ++ text :=
    congrArg (· ++ text) before
  have queues := sound.queues id session present
  rw [ChatServer.headerRead, ChatMessage.decodeHeader_eq, header]
  by_cases refused : maxBodyLength < headerNumber text
  · rw [if_pos refused]
    dsimp only
    rw [if_neg Bool.false_ne_true, modify_modify]
    refine sound.leave fun other there => ⟨⟨text, input, bodiesOf_refused ?_⟩, ?_⟩
    · rw [List.take_of_length_le whole.le]
      exact refused
    · exact (queues.reading _ _ _).letGo
  · rw [if_neg refused]
    dsimp only
    rw [if_pos rfl, modify_modify]
    refine sound.modify fun other there => ⟨?_, ⟨?_, ?_, ?_, ?_⟩, queues.reading _ _ _⟩
    · obtain rfl := Option.some.inj (there.symm.trans present)
      rfl
    · exact input.trans (congrArg _ header.symm)
    · exact whole.ge.trans long
    · exact congrArg headerNumber header
    · exact Nat.not_lt.mp refused

/-- The room is given a message that a session in it, or one that left, has read. -/
theorem relayed (sound : server.Sound) (present : server.sessions[id]? = some session)
    {received : ChatSession} (formed : received.readMsg.WellFormed)
    (bytes : received.input = bytesOf (ownMsgs server.log id ++ [received.readMsg]))
    (queues : received.Queues server.log)
    (inside : id ∈ server.participants ↔ received.left = none) :
    (server.bodyRead id received).Sound := by
  obtain ⟨sessions, same, count, there⟩ := bodyRead_eq sound.nodup present received
  have within : id < server.sessions.length := (List.getElem?_eq_some_iff.mp present).1
  rw [same]
  have recent := keepRecent_append sound.recent (id, received.readMsg)
  refine ⟨?_, ?_, recent, sound.nodup, ?_, ?_, ?_, ?_⟩
  · intro entry inside
    rcases List.mem_append.mp inside with earlier | last
    · exact sound.formed entry earlier
    · rw [List.mem_singleton.mp last]
      exact formed
  · intro entry inside
    rw [count]
    rcases List.mem_append.mp inside with earlier | last
    · exact sound.senders entry earlier
    · rw [List.mem_singleton.mp last]
      exact within
  · intro other inside
    rw [count]
    exact sound.known other inside
  · intro other after found
    obtain ⟨rfl, rfl⟩ | ⟨-, before, was, rfl⟩ := there found
    · exact inside.trans (by rw [ChatSession.doReadHeader, ChatSession.left_relay])
    · rw [ChatSession.left_relay]
      exact sound.inside other before was
  · intro other after found
    obtain ⟨rfl, rfl⟩ | ⟨away, before, was, rfl⟩ := there found
    · rw [ownMsgs_concat_self]
      exact (ChatSession.input_relay _).trans bytes
    · rw [ownMsgs_concat_other _ away]
      exact (sound.received other before was).relay _
  · intro other after found
    obtain ⟨rfl, rfl⟩ | ⟨away, before, was, rfl⟩ := there found
    · exact (queues.relay inside (_, received.readMsg)).reading _ _ _
    · exact (sound.queues other before was).relay (sound.inside other before was)
        (id, received.readMsg)

/-- A body was read, and all who are in the room get the message. -/
theorem bodyRead (sound : server.Sound) (present : server.sessions[id]? = some session)
    (reading : session.readOp = .body) {text : Text}
    (whole : text.length = session.readMsg.bodyLength) :
    (server.bodyRead id (session.receive text)).Sound := by
  have before := sound.received id session present
  rw [ChatSession.Received, reading] at before
  obtain ⟨input, long, header, small⟩ := before
  have placed : session.offset = headerLength := by
    rw [ChatSession.offset, reading]
  have message : (session.receive text).readMsg = session.readMsg.readAt headerLength text := by
    rw [ChatSession.receive, placed]
  have formed : (session.receive text).readMsg.WellFormed := by
    rw [message]
    exact session.readMsg.wellFormed_readAt long header small whole
  have bytes : (session.receive text).input =
      bytesOf (ownMsgs server.log id ++ [(session.receive text).readMsg]) := by
    rw [bytesOf_concat, message, session.readMsg.bytes_readAt long whole, ← List.append_assoc,
      ← input]
    rfl
  have queues : (session.receive text).Queues server.log :=
    (sound.queues id session present).reading _ _ _
  have inside : id ∈ server.participants ↔ (session.receive text).left = none :=
    sound.inside id session present
  generalize session.receive text = received at formed bytes queues inside
  exact sound.relayed present formed bytes queues inside

/-- A read fails. What was read of the message is given to nobody. -/
theorem readFailed (sound : server.Sound) (present : server.sessions[id]? = some session)
    {text : Text} (short : text.length < session.wanted) :
    ((server.modify id fun _ =>
      { session.receive text with readOp := .ended }).leave id).Sound := by
  have before := sound.received id session present
  refine sound.leave fun other there =>
    ⟨?_, ((sound.queues id session present).reading _ _ _).letGo⟩
  rw [ChatSession.wanted] at short
  cases reading : session.readOp with
  | header =>
      rw [reading] at short
      rw [ChatSession.Received, reading] at before
      exact ⟨text, congrArg (· ++ text) before, bodiesOf_short short⟩
  | body =>
      rw [reading] at short
      rw [ChatSession.Received, reading] at before
      obtain ⟨input, long, header, -⟩ := before
      have front : (session.readMsg.data.take headerLength).length = headerLength := by
        rw [List.length_take, Nat.min_eq_left long]
      refine ⟨session.readMsg.data.take headerLength ++ text, ?_, bodiesOf_missing ?_⟩
      · rw [← List.append_assoc, ← input]
        rfl
      · rw [List.take_left' front, header, List.length_append, front]
        exact Nat.add_lt_add_left short _
  | ended =>
      rw [reading] at short
      exact absurd short (Nat.not_lt_zero _)

/-- What a step does keeps what the server keeps. -/
theorem step (sound : server.Sound) {action : ChatAction} {next : ChatServer}
    (stepped : server.step action = some next) : next.Sound := by
  cases action with
  | accept data =>
      cases stepped
      exact sound.start data
  | acceptFailed =>
      cases stepped
      exact sound
  | read id text =>
      obtain ⟨session, present, done⟩ := Option.bind_eq_some_iff.mp stepped
      split at done
      · rename_i whole
        rw [ChatSession.wanted] at whole
        cases reading : session.readOp with
        | header =>
            rw [reading] at done whole
            cases done
            exact sound.headerRead present reading whole
        | body =>
            rw [reading] at done whole
            cases done
            exact sound.bodyRead present reading whole
        | ended =>
            rw [reading] at done
            cases done
      · cases done
  | readFailed id text =>
      obtain ⟨session, present, done⟩ := Option.bind_eq_some_iff.mp stepped
      split at done
      · rename_i short
        cases done
        exact sound.readFailed present short
      · cases done
  | write id =>
      obtain ⟨session, present, done⟩ := Option.bind_eq_some_iff.mp stepped
      split at done
      · rename_i inFlight
        cases done
        refine sound.modify fun other there => ?_
        obtain rfl := Option.some.inj (there.symm.trans present)
        have queues := (sound.queues id other there).written inFlight
        have received := sound.received id other there
        obtain ⟨writeMsgs, writes, output, same⟩ := other.written_eq
        rw [same] at queues ⊢
        exact ⟨rfl, received, queues⟩
      · cases done
  | writeFailed id transferred =>
      obtain ⟨session, present, done⟩ := Option.bind_eq_some_iff.mp stepped
      cases waiting : session.writeMsgs with
      | nil =>
          rw [waiting] at done
          cases done
      | cons front rest =>
          rw [waiting] at done
          dsimp only at done
          split at done
          · rename_i possible
            cases done
            refine sound.leave fun other there => ?_
            obtain rfl := Option.some.inj (there.symm.trans present)
            have received := sound.received id other there
            refine ⟨?_, (sound.queues id other there).writtenPart sound.formed possible.1 waiting
              possible.2⟩
            rw [ChatSession.writtenPart, waiting]
            exact received
          · cases done

end Sound

theorem sound_of_reachable {server : ChatServer} (reached : machine.Reachable server) :
    server.Sound :=
  reached.invariant (fun _ start => start ▸ Sound.new)
    fun _ _ _ _ sound _ stepped => sound.step stepped

end ChatServer

/-! ## What is relayed -/

/-- **The chat server relays.** Whatever connects, completes and fails in whatever order: what a
client finds in the bytes written to it, and then the queue of its session, are the bodies of the
last hundred messages that the room had when the session joined and of all it was given until the
session left, in this order, none twice and none left out. The room is given exactly the messages
that stand in the bytes read: when a client sends its lines, these lines. A session in the room has
one write in flight when its queue is not empty, and otherwise none; no session ever has two. -/
theorem chat_server_relays {server : ChatServer} (reached : ChatServer.machine.Reachable server)
    {id : Nat} {session : ChatSession} (present : server.sessions[id]? = some session) :
    bodiesOf session.output ++ session.writeMsgs.map ChatMessage.body =
      (session.owed server.log).map ChatMessage.body ∧
    (session.readOp ≠ .body →
      bodiesOf session.input = (ownMsgs server.log id).map ChatMessage.body) ∧
    (∀ lines : List (Text × Text),
      (∀ line ∈ lines, line.1.length = headerLength + maxBodyLength) → session.readOp ≠ .body →
      session.input = bytesOf (lines.map fun line => ChatMessage.ofLine line.1 line.2) →
      (ownMsgs server.log id).map ChatMessage.body = lines.map (·.2.take maxBodyLength)) ∧
    (id ∈ server.participants ↔ session.left = none) ∧
    (session.left = none → session.writes = if session.writeMsgs = [] then 0 else 1) ∧
    session.writes ≤ 1 := by
  have sound := ChatServer.sound_of_reachable reached
  obtain ⟨sent, all, wrote⟩ := (sound.queues id session present).sent
  have received := sound.received id session present
  have owed_formed : ∀ msg ∈ sent ++ session.writeMsgs, msg.WellFormed := by
    rw [all]
    intro msg inside
    obtain ⟨entry, among, rfl⟩ := List.mem_map.mp inside
    exact sound.formed entry (List.mem_of_mem_take (List.mem_of_mem_drop among))
  have sent_formed : ∀ msg ∈ sent, msg.WellFormed := fun msg inside =>
    owed_formed msg (List.mem_append_left _ inside)
  have own_formed : ∀ msg ∈ ownMsgs server.log id, msg.WellFormed := by
    intro msg inside
    obtain ⟨entry, among, rfl⟩ := List.mem_map.mp inside
    exact sound.formed entry (List.mem_of_mem_filter among)
  have printed : bodiesOf session.output = sent.map ChatMessage.body := by
    obtain ⟨-, output⟩ | ⟨-, -, -, part, output, unread⟩ := wrote
    · rw [output, bodiesOf_bytesOf sent_formed]
    · rw [output, bodiesOf_append sent_formed, unread, List.append_nil]
  have given (between : session.readOp ≠ .body) :
      bodiesOf session.input = (ownMsgs server.log id).map ChatMessage.body := by
    rw [ChatSession.Received] at received
    cases reading : session.readOp with
    | header =>
        rw [reading] at received
        rw [received, bodiesOf_bytesOf own_formed]
    | body => exact absurd reading between
    | ended =>
        rw [reading] at received
        obtain ⟨part, input, unread⟩ := received
        rw [input, bodiesOf_append own_formed, unread, List.append_nil]
  refine ⟨?_, given, ?_, sound.inside id session present, ?_, ?_⟩
  · rw [printed, ← List.map_append, all]
  · intro lines size between input
    rw [← given between, input, bodiesOf_lines size]
  · intro stays
    obtain ⟨writes, -⟩ | ⟨-, left, -⟩ := wrote
    · exact writes
    · exact absurd stays left
  · obtain ⟨writes, -⟩ | ⟨writes, -⟩ := wrote
    · rw [writes]
      split
      · exact Nat.zero_le 1
      · exact le_rfl
    · rw [writes]
      exact Nat.zero_le 1

/-- Two clients connect, the first sends a greeting, and the second has got it. -/
def greeting : List ChatAction :=
  [.accept [], .accept [], .read 0 (ofChars ['0', '0', '0', '2']),
    .read 0 (ofChars ['h', 'i']), .write 1]

theorem chat_server_relays_greeting :
    ∃ server session, ChatServer.machine.run .new greeting = some server ∧
      server.sessions[1]? = some session ∧
      session.output = ofChars ['0', '0', '0', '2', 'h', 'i'] ∧
      bodiesOf session.output ++ session.writeMsgs.map ChatMessage.body =
        (session.owed server.log).map ChatMessage.body := by
  have ran : ∃ server session, ChatServer.machine.run .new greeting = some server ∧
      server.sessions[1]? = some session ∧
      session.output = ofChars ['0', '0', '0', '2', 'h', 'i'] := ⟨_, _, rfl, rfl, rfl⟩
  obtain ⟨server, session, ran, present, output⟩ := ran
  have reached : ChatServer.machine.Reachable server :=
    Machine.Reachable.run (.initial rfl) greeting ran
  exact ⟨server, session, ran, present, output, (chat_server_relays reached present).1⟩

end Asio.Chat
