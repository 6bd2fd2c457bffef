import Asio.Chat.ChatMessage
import Asio.Lib.Transition

/-! # The chat server

A session reads one message after the other and gives them to the room, which keeps the last
hundred and delivers each to all who are in it. A session writes the messages delivered to it, one
at a time, from a queue. What happens next is up to the network: who connects, which read or write
completes, and which fails.
-/

namespace Asio.Chat

open CString Transition

/-- `max_recent_msgs`. -/
def maxRecentMsgs : Nat := 100

/-- The read of a session that is in flight. -/
inductive ReadOp where
  | header
  | body
  | ended
  deriving DecidableEq

/-- The `chat_session`, with the read in flight and the number of writes in flight. The members
behind them are none of the source: the bytes that its reads and writes have moved, and how many
messages the room had been given when it joined and when it left. -/
structure ChatSession where
  readMsg : ChatMessage
  writeMsgs : List ChatMessage
  readOp : ReadOp
  writes : Nat
  input : Text
  output : Text
  joined : Nat
  left : Option Nat
  deriving DecidableEq

/-- The `chat_server` with its room and its sessions, in the order in which they were accepted.
The `log` is not of the source: all messages given to the room, and by which session. -/
structure ChatServer where
  participants : List Nat
  recentMsgs : List ChatMessage
  sessions : List ChatSession
  log : List (Nat × ChatMessage)
  deriving DecidableEq

/-- What the network does. A read or a write that fails has moved some of its bytes. -/
inductive ChatAction where
  | accept (data : Text)
  | acceptFailed
  | read (session : Nat) (text : Text)
  | readFailed (session : Nat) (text : Text)
  | write (session : Nat)
  | writeFailed (session : Nat) (transferred : Nat)
  deriving DecidableEq

namespace ChatSession

variable (session : ChatSession)

def doReadHeader : ChatSession := { session with readOp := .header }

def doReadBody : ChatSession := { session with readOp := .body }

def doWrite : ChatSession := { session with writes := session.writes + 1 }

/-- `deliver`. -/
def deliver (msg : ChatMessage) : ChatSession :=
  let writeInProgress := !session.writeMsgs.isEmpty
  let queued := { session with writeMsgs := session.writeMsgs ++ [msg] }
  if writeInProgress then queued else queued.doWrite

/-- How many bytes the read in flight asks for. -/
def wanted : Nat :=
  match session.readOp with
  | .header => headerLength
  | .body => session.readMsg.bodyLength
  | .ended => 0

/-- Where the read in flight puts them. -/
def offset : Nat :=
  match session.readOp with
  | .body => headerLength
  | _ => 0

/-- A read has moved some bytes. -/
def receive (text : Text) : ChatSession :=
  { session with
    readMsg := session.readMsg.readAt session.offset text
    input := session.input ++ text }

/-- A write of the front message ends without an error. -/
def written : ChatSession :=
  match session.writeMsgs with
  | [] => session
  | front :: rest =>
      let popped := { session with
        writeMsgs := rest
        writes := session.writes - 1
        output := session.output ++ front.bytes }
      if rest.isEmpty then popped else popped.doWrite

/-- A write of the front message ends with an error. -/
def writtenPart (transferred : Nat) : ChatSession :=
  match session.writeMsgs with
  | [] => session
  | front :: _ =>
      { session with
        writes := session.writes - 1
        output := session.output ++ front.bytes.take transferred }

/-- The room lets the session go, if it has not before. -/
def letGo (count : Nat) : ChatSession :=
  { session with left := session.left.or (some count) }

end ChatSession

/-- The loop of `deliver` that drops the oldest messages. -/
def keepRecent : List ChatMessage → List ChatMessage
  | [] => []
  | oldest :: msgs =>
      if maxRecentMsgs < (oldest :: msgs).length then keepRecent msgs else oldest :: msgs

namespace ChatServer

variable (server : ChatServer)

def new : ChatServer := ⟨[], [], [], []⟩

def modify (id : Nat) (change : ChatSession → ChatSession) : ChatServer :=
  { server with sessions := server.sessions.modify id change }

/-- `chat_room::join`. The set holds a participant once. -/
def join (id : Nat) : ChatServer :=
  server.recentMsgs.foldl (fun server msg => server.modify id (·.deliver msg))
    { server with participants := server.participants.insert id }

/-- `chat_room::leave`. -/
def leave (id : Nat) : ChatServer :=
  { server.modify id (·.letGo server.log.length) with
    participants := server.participants.erase id }

/-- `chat_room::deliver`. -/
def deliver (sender : Nat) (msg : ChatMessage) : ChatServer :=
  server.participants.foldl (fun server id => server.modify id (·.deliver msg))
    { server with
      recentMsgs := keepRecent (server.recentMsgs ++ [msg])
      log := server.log ++ [(sender, msg)] }

/-- `chat_session::start` of a session that is made for a connection. -/
def start (data : Text) : ChatServer :=
  let id := server.sessions.length
  let made : ChatSession := ⟨.constructed data, [], .ended, 0, [], [], server.log.length, none⟩
  ({ server with sessions := server.sessions ++ [made] }.join id).modify id (·.doReadHeader)

/-- The handler of a header that was read. -/
def headerRead (id : Nat) (session : ChatSession) : ChatServer :=
  let decoded := session.readMsg.decodeHeader
  let server := server.modify id fun _ => { session with readMsg := decoded.1 }
  if decoded.2 then server.modify id (·.doReadBody)
  else (server.modify id fun session => { session with readOp := .ended }).leave id

/-- The handler of a body that was read. -/
def bodyRead (id : Nat) (session : ChatSession) : ChatServer :=
  ((server.modify id fun _ => session).deliver id session.readMsg).modify id (·.doReadHeader)

/-- A read or a write completes that is in flight. A read that fails has not all its bytes, and a
write that fails has not written all of the message. -/
def step : ChatAction → Option ChatServer
  | .accept data => some (server.start data)
  | .acceptFailed => some server
  | .read id text => server.sessions[id]?.bind fun session =>
      if text.length = session.wanted then
        match session.readOp with
        | .header => some (server.headerRead id (session.receive text))
        | .body => some (server.bodyRead id (session.receive text))
        | .ended => none
      else none
  | .readFailed id text => server.sessions[id]?.bind fun session =>
      if text.length < session.wanted then
        some ((server.modify id fun _ =>
          { session.receive text with readOp := .ended }).leave id)
      else none
  | .write id => server.sessions[id]?.bind fun session =>
      if 0 < session.writes then some (server.modify id (·.written)) else none
  | .writeFailed id transferred => server.sessions[id]?.bind fun session =>
      match session.writeMsgs with
      | [] => none
      | front :: _ =>
          if 0 < session.writes ∧ transferred < front.length then
            some ((server.modify id (·.writtenPart transferred)).leave id)
          else none

def machine : Machine ChatServer ChatAction where
  initial server := server = new
  step := step

end ChatServer

end Asio.Chat
