import Asio.Error
import Asio.Lib.Loop
import Mathlib.Data.List.Infix

/-! # Connecting to one of several endpoints

`connect` tries the endpoints of a sequence in a loop; `async_connect` is an
operation that is called again with the result of each attempt. The operation
takes a socket that is no longer open for a sign that it was cancelled. A socket
is also not open when no socket could be opened for the protocol of the
endpoint, and there the two differ.
-/

namespace Asio.Transmit

open Loop

variable {Endpoint Protocol : Type*}

/-! ## Sockets -/

/-- What the host answers: the error of opening a socket for a protocol, and the
error of connecting it to an endpoint. -/
structure Host (Endpoint Protocol : Type*) where
  protocol : Endpoint → Protocol
  openError : Protocol → ErrorCode
  connectError : Endpoint → ErrorCode

/-- The error of opening a socket for the protocol of an endpoint. -/
def Host.openingError (host : Host Endpoint Protocol) (endpoint : Endpoint) : ErrorCode :=
  host.openError (host.protocol endpoint)

/-- `basic_socket`: whether it is open, the endpoint it is connected to, and the
endpoints it was asked to connect to. -/
structure Socket (Endpoint : Type*) where
  isOpen : Bool
  peer : Option Endpoint
  tried : List Endpoint
  deriving DecidableEq, Repr

/-- `basic_socket::close`. The error it may end with is overwritten by the
attempt to connect that follows. -/
def Socket.close (socket : Socket Endpoint) : Socket Endpoint :=
  { socket with isOpen := false, peer := none }

/-- The connect of an open socket. -/
def Socket.connectOpen (host : Host Endpoint Protocol) (endpoint : Endpoint)
    (socket : Socket Endpoint) : ErrorCode × Socket Endpoint :=
  let ec := host.connectError endpoint
  (ec, if ec.failed then socket else { socket with peer := some endpoint })

/-- `basic_socket::connect`. -/
def Socket.connect (host : Host Endpoint Protocol) (endpoint : Endpoint)
    (socket : Socket Endpoint) : ErrorCode × Socket Endpoint :=
  let socket := { socket with tried := socket.tried ++ [endpoint] }
  if !socket.isOpen then
    let ec := host.openingError endpoint
    if ec.failed then
      (ec, socket)
    else
      { socket with isOpen := true }.connectOpen host endpoint
  else
    socket.connectOpen host endpoint

/-- `basic_socket::async_connect`: the error its handler will be called with. An
error of opening the socket is posted. -/
def Socket.asyncConnect (host : Host Endpoint Protocol) (endpoint : Endpoint)
    (socket : Socket Endpoint) : ErrorCode × Socket Endpoint :=
  socket.connect host endpoint

/-! ## Synchronous connect -/

/-- A connect condition that depends on the last error and the next endpoint only. -/
abbrev ConnectCondition (Endpoint : Type*) := ErrorCode → Endpoint → Bool

/-- `default_connect_condition`. -/
def defaultConnectCondition : ConnectCondition Endpoint := fun _ _ => true

/-- `call_connect_condition`: the first endpoint that is accepted, and those
after it. An iterator is what lies between it and the end. -/
def callConnectCondition (connectCondition : ConnectCondition Endpoint) (ec : ErrorCode) :
    (next : List Endpoint) → List Endpoint
  | [] => []
  | next :: rest =>
      if connectCondition ec next then next :: rest
      else callConnectCondition connectCondition ec rest

/-- What a connect ends with. -/
structure Connected (Endpoint Result : Type*) where
  ec : ErrorCode
  result : Result
  socket : Socket Endpoint
  deriving DecidableEq, Repr

/-- The variables of `connect`. -/
structure Connecting (Endpoint : Type*) where
  iter : List Endpoint
  ec : ErrorCode
  socket : Socket Endpoint

/-- The variables at the head of the loop. -/
def connecting (endpoints : List Endpoint) (socket : Socket Endpoint) : Connecting Endpoint :=
  ⟨endpoints, .success, socket⟩

/-- The loop of `connect`. -/
def connect (host : Host Endpoint Protocol) (connectCondition : ConnectCondition Endpoint)
    (state : Connecting Endpoint) :
    Pass (Connecting Endpoint) (Connected Endpoint (List Endpoint)) :=
  match callConnectCondition connectCondition state.ec state.iter with
  | endpoint :: rest =>
      let (ec, socket) := state.socket.close.connect host endpoint
      if !ec.failed then
        .leave ⟨ec, endpoint :: rest, socket⟩
      else
        .again ⟨rest, ec, socket⟩
  | [] => -- both the condition of the loop and the `break` in it lead here
      .leave ⟨if !state.ec.failed then .notFound else state.ec, [], state.socket⟩

section

variable [Inhabited Endpoint]

/-- `deref_connect_result`. -/
def derefConnectResult (iter : List Endpoint) (ec : ErrorCode) : Endpoint :=
  if ec.failed then default else iter.headD default

/-- The endpoint instead of the iterator. -/
def Connected.deref (connected : Connected Endpoint (List Endpoint)) :
    Connected Endpoint Endpoint :=
  ⟨connected.ec, derefConnectResult connected.result connected.ec, connected.socket⟩

/-- `connect` for an endpoint sequence. -/
def connectRange (host : Host Endpoint Protocol) (connectCondition : ConnectCondition Endpoint)
    (state : Connecting Endpoint) :
    Pass (Connecting Endpoint) (Connected Endpoint Endpoint) :=
  (connect host connectCondition state).map Connected.deref

end

/-! ## Asynchronous connect -/

/-- What a call of a connect operation ends in: the operation is to be called
with an error, as the handler of an attempt or by `post`, or the user's handler
is called. -/
inductive ConnectCall (Endpoint Op Result : Type*) where
  | resume (ec : ErrorCode) (op : Op)
  | handler (ec : ErrorCode) (result : Result) (socket : Socket Endpoint)

/-- The members of `range_connect_op` and `iterator_connect_op` that differ: how
the operation is stored when it is at an endpoint, and what the user's handler
is called with. -/
structure ConnectOp (Endpoint Op Result : Type*) where
  store : List Endpoint → Socket Endpoint → Op
  result : ErrorCode → List Endpoint → Result

section

variable {Op Result : Type*} (host : Host Endpoint Protocol)
  (connectCondition : ConnectCondition Endpoint) (op : ConnectOp Endpoint Op Result)

/-- The loop of `operator()` from its head to the next `return` or `break`. -/
def ConnectOp.check (iter : List Endpoint) (socket : Socket Endpoint) (ec : ErrorCode)
    (start : Nat) : ConnectCall Endpoint Op Result :=
  match callConnectCondition connectCondition ec iter with
  | endpoint :: rest =>
      let (ec, socket) := socket.close.asyncConnect host endpoint
      .resume ec (op.store (endpoint :: rest) socket)
  | [] =>
      if start ≠ 0 then
        .resume .notFound (op.store [] socket)
      else
        .handler ec (op.result ec []) socket

/-- `operator()`. -/
def ConnectOp.call (iter : List Endpoint) (socket : Socket Endpoint) (ec : ErrorCode)
    (start : Nat) : ConnectCall Endpoint Op Result :=
  if start = 1 then
    op.check host connectCondition iter socket ec start
  else if iter = [] then
    .handler ec (op.result ec iter) socket
  else if !socket.isOpen then
    .handler .operationAborted (op.result .operationAborted iter) socket
  else if !ec.failed then
    .handler ec (op.result ec iter) socket
  else
    op.check host connectCondition iter.tail socket ec start

end

/-- One call of the operation: nobody else uses the socket in between. -/
def resumption {Op Result : Type*} (call : Op → ErrorCode → Nat → ConnectCall Endpoint Op Result) :
    ConnectCall Endpoint Op Result →
      Pass (ConnectCall Endpoint Op Result) (Connected Endpoint Result)
  | .resume ec op => .again (call op ec 0)
  | .handler ec result socket => .leave ⟨ec, result, socket⟩

/-- `iterator_connect_op`, for the end of the sequence. -/
structure IteratorConnectOp (Endpoint : Type*) where
  socket : Socket Endpoint
  iter : List Endpoint

/-- `iterator_connect_op::operator()`. -/
def IteratorConnectOp.call (host : Host Endpoint Protocol)
    (connectCondition : ConnectCondition Endpoint) (op : IteratorConnectOp Endpoint)
    (ec : ErrorCode) (start : Nat) :
    ConnectCall Endpoint (IteratorConnectOp Endpoint) (List Endpoint) :=
  ConnectOp.call host connectCondition ⟨fun iter socket => ⟨socket, iter⟩, fun _ iter => iter⟩
    op.iter op.socket ec start

/-- The calls of an `iterator_connect_op`. -/
def iteratorConnectOp (host : Host Endpoint Protocol)
    (connectCondition : ConnectCondition Endpoint) :=
  resumption (IteratorConnectOp.call host connectCondition)

/-- `async_connect` for a pair of iterators. -/
def startIteratorConnectOp (host : Host Endpoint Protocol)
    (connectCondition : ConnectCondition Endpoint) (endpoints : List Endpoint)
    (socket : Socket Endpoint) :=
  IteratorConnectOp.call host connectCondition ⟨socket, endpoints⟩ .success 1

/-- `range_connect_op`. -/
structure RangeConnectOp (Endpoint : Type*) where
  socket : Socket Endpoint
  endpoints : List Endpoint
  index : Nat

section

variable [Inhabited Endpoint]

/-- `range_connect_op::operator()`. -/
def RangeConnectOp.call (host : Host Endpoint Protocol)
    (connectCondition : ConnectCondition Endpoint) (op : RangeConnectOp Endpoint)
    (ec : ErrorCode) (start : Nat) :
    ConnectCall Endpoint (RangeConnectOp Endpoint) Endpoint :=
  ConnectOp.call host connectCondition
    ⟨fun iter socket => ⟨socket, op.endpoints, op.endpoints.length - iter.length⟩,
      fun ec iter => if ec.failed || iter.isEmpty then default else iter.headD default⟩
    (op.endpoints.drop op.index) op.socket ec start

/-- The calls of a `range_connect_op`. -/
def rangeConnectOp (host : Host Endpoint Protocol)
    (connectCondition : ConnectCondition Endpoint) :=
  resumption (RangeConnectOp.call host connectCondition)

/-- `async_connect` for an endpoint sequence. -/
def startRangeConnectOp (host : Host Endpoint Protocol)
    (connectCondition : ConnectCondition Endpoint) (endpoints : List Endpoint)
    (socket : Socket Endpoint) :=
  RangeConnectOp.call host connectCondition ⟨socket, endpoints, 0⟩ .success 1

end

/-! ## The attempts -/

section

variable {host : Host Endpoint Protocol} {connectCondition : ConnectCondition Endpoint}

/-- No socket can be opened for the endpoint, and the socket stays closed. -/
theorem Socket.connect_unopenable {endpoint : Endpoint} (socket : Socket Endpoint)
    (unopenable : (host.openingError endpoint).failed = true) :
    socket.close.connect host endpoint =
      (host.openingError endpoint, ⟨false, none, socket.tried ++ [endpoint]⟩) := by
  simp [Socket.connect, Socket.close, unopenable]

/-- The attempt is made with an open socket. -/
theorem Socket.connect_opened {endpoint : Endpoint} (socket : Socket Endpoint)
    (opened : (host.openingError endpoint).failed = false) :
    socket.close.connect host endpoint =
      (host.connectError endpoint,
        ⟨true, if (host.connectError endpoint).failed then none else some endpoint,
          socket.tried ++ [endpoint]⟩) := by
  cases failed : (host.connectError endpoint).failed <;>
    simp [Socket.connect, Socket.close, Socket.connectOpen, opened, failed]

theorem Socket.connect_tried (endpoint : Endpoint) (socket : Socket Endpoint) :
    (socket.close.connect host endpoint).2.tried = socket.tried ++ [endpoint] := by
  cases opened : (host.openingError endpoint).failed with
  | true => rw [socket.connect_unopenable opened]
  | false => rw [socket.connect_opened opened]

variable (host connectCondition)

/-- What `connect` ends with. -/
def connected : List Endpoint → ErrorCode → Socket Endpoint →
    Connected Endpoint (List Endpoint)
  | [], ec, socket => ⟨if !ec.failed then .notFound else ec, [], socket⟩
  | endpoint :: rest, ec, socket =>
      if connectCondition ec endpoint then
        let (ec, socket) := socket.close.connect host endpoint
        if !ec.failed then ⟨ec, endpoint :: rest, socket⟩ else connected rest ec socket
      else
        connected rest ec socket

/-- What `async_connect` ends with: a socket that is not open ends it. -/
def asyncConnected : List Endpoint → ErrorCode → Socket Endpoint →
    Connected Endpoint (List Endpoint)
  | [], ec, socket => ⟨if !ec.failed then .notFound else ec, [], socket⟩
  | endpoint :: rest, ec, socket =>
      if connectCondition ec endpoint then
        let (ec, socket) := socket.close.asyncConnect host endpoint
        if !socket.isOpen then ⟨.operationAborted, endpoint :: rest, socket⟩
        else if !ec.failed then ⟨ec, endpoint :: rest, socket⟩
        else asyncConnected rest ec socket
      else
        asyncConnected rest ec socket

variable {host connectCondition}

/-- An endpoint that is not accepted is passed over. -/
theorem connect_of_rejected {endpoint : Endpoint} {rest : List Endpoint} {ec : ErrorCode}
    {socket : Socket Endpoint} (rejected : connectCondition ec endpoint = false) :
    connect host connectCondition ⟨endpoint :: rest, ec, socket⟩ =
      connect host connectCondition ⟨rest, ec, socket⟩ := by
  simp only [connect, callConnectCondition, rejected, Bool.false_eq_true, if_false]

/-- **Synchronous connect.** The loop returns. -/
theorem connect_returns (endpoints : List Endpoint) (ec : ErrorCode) (socket : Socket Endpoint) :
    Returns (connect host connectCondition) ⟨endpoints, ec, socket⟩
      (connected host connectCondition endpoints ec socket) := by
  induction endpoints generalizing ec socket with
  | nil => exact .leave rfl
  | cons endpoint rest ih =>
      rw [connected]
      cases accepted : connectCondition ec endpoint with
      | false =>
          exact (ih ec socket).of_eq (connect_of_rejected accepted)
      | true =>
          have pass : connect host connectCondition ⟨endpoint :: rest, ec, socket⟩ =
              if !(socket.close.connect host endpoint).1.failed then
                .leave ⟨(socket.close.connect host endpoint).1, endpoint :: rest,
                  (socket.close.connect host endpoint).2⟩
              else
                .again ⟨rest, (socket.close.connect host endpoint).1,
                  (socket.close.connect host endpoint).2⟩ := by
            simp only [connect, callConnectCondition, accepted, if_true]
          rw [if_pos rfl]
          by_cases succeeded : (!(socket.close.connect host endpoint).1.failed) = true
          · rw [if_pos succeeded] at pass
            simp only [if_pos succeeded]
            exact .leave pass
          · rw [if_neg succeeded] at pass
            simp only [if_neg succeeded]
            exact .again pass (ih _ _)

/-- What the user's handler is called with, instead of the iterator. -/
def Connected.report {Result : Type*} (result : ErrorCode → List Endpoint → Result)
    (connected : Connected Endpoint (List Endpoint)) : Connected Endpoint Result :=
  ⟨connected.ec, result connected.ec connected.result, connected.socket⟩

section

variable {Op Result : Type*} {op : ConnectOp Endpoint Op Result}
  {call : Op → ErrorCode → Nat → ConnectCall Endpoint Op Result} {endpoints : List Endpoint}

/-- The operation calls the user's handler. From the first check on, the error is
that of the last attempt: there is none only while the operation is started. -/
theorem ConnectOp.check_returns
    (calls : ∀ iter socket ec, iter <:+ endpoints →
      call (op.store iter socket) ec 0 = op.call host connectCondition iter socket ec 0)
    {iter : List Endpoint} (within : iter <:+ endpoints) {ec : ErrorCode}
    {socket : Socket Endpoint} {start : Nat} (started : start ≠ 0 ↔ ec.failed = false) :
    Returns (resumption call) (op.check host connectCondition iter socket ec start)
      ((asyncConnected host connectCondition iter ec socket).report op.result) := by
  induction iter generalizing ec socket start with
  | nil =>
      rw [ConnectOp.check, callConnectCondition, asyncConnected]
      cases failed : ec.failed with
      | false =>
          rw [if_pos (started.mpr failed)]
          refine .again rfl (.leave ?_)
          rw [calls _ _ _ within]
          rfl
      | true =>
          rw [if_neg fun fresh => by rw [started.mp fresh] at failed; cases failed]
          exact .leave rfl
  | cons endpoint rest ih =>
      have later : rest <:+ endpoints := (List.suffix_cons endpoint rest).trans within
      cases accepted : connectCondition ec endpoint with
      | false =>
          have passed : op.check host connectCondition (endpoint :: rest) socket ec start =
              op.check host connectCondition rest socket ec start := by
            simp only [ConnectOp.check, callConnectCondition, accepted, Bool.false_eq_true, if_false]
          rw [passed, asyncConnected, accepted, if_neg Bool.false_ne_true]
          exact ih later started
      | true =>
          have attempt : op.check host connectCondition (endpoint :: rest) socket ec start =
              .resume (socket.close.asyncConnect host endpoint).1
                (op.store (endpoint :: rest) (socket.close.asyncConnect host endpoint).2) := by
            simp only [ConnectOp.check, callConnectCondition, accepted, if_true]
          rw [attempt, asyncConnected, accepted, if_pos rfl]
          generalize socket.close.asyncConnect host endpoint = answer
          obtain ⟨ec, socket⟩ := answer
          refine .again rfl ?_
          rw [calls _ _ _ within, ConnectOp.call, if_neg Nat.zero_ne_one,
            if_neg (List.cons_ne_nil _ _)]
          dsimp only
          cases socket.isOpen with
          | false => exact .leave rfl
          | true =>
              cases failed : ec.failed with
              | false => exact .leave rfl
              | true => exact ih later (by simp [failed])

end

/-- How the operation is first called. -/
theorem started_success : (1 : Nat) ≠ 0 ↔ ErrorCode.success.failed = false := by simp

/-- **Asynchronous connect, for iterators.** -/
theorem iteratorConnectOp_returns (endpoints : List Endpoint) (socket : Socket Endpoint) :
    Returns (iteratorConnectOp host connectCondition)
      (startIteratorConnectOp host connectCondition endpoints socket)
      (asyncConnected host connectCondition endpoints .success socket) :=
  ConnectOp.check_returns (fun _ _ _ _ => rfl) (List.suffix_refl endpoints)
    started_success

/-- **Asynchronous connect, for a sequence.** -/
theorem rangeConnectOp_returns [Inhabited Endpoint] (endpoints : List Endpoint)
    (socket : Socket Endpoint) :
    Returns (rangeConnectOp host connectCondition)
      (startRangeConnectOp host connectCondition endpoints socket)
      ((asyncConnected host connectCondition endpoints .success socket).report fun ec iter =>
        if ec.failed || iter.isEmpty then default else iter.headD default) := by
  refine ConnectOp.check_returns ?_ (List.suffix_refl endpoints) started_success
  rintro iter socket ec ⟨before, rfl⟩
  have at_iter : (before ++ iter).drop ((before ++ iter).length - iter.length) = iter := by
    rw [List.length_append, Nat.add_sub_cancel, List.drop_left]
  simp only [RangeConnectOp.call, at_iter]

/-! ## When they agree -/

/-- The connects end in the same way: with the same error, after the same
attempts, connected to the same endpoint, which they report. -/
structure SameConnection {Result : Type*} (returned handled : Connected Endpoint Result) : Prop where
  ec : handled.ec = returned.ec
  tried : handled.socket.tried = returned.socket.tried
  peer : handled.socket.peer = returned.socket.peer
  result : returned.ec.failed = false → handled.result = returned.result

variable (host connectCondition) in
/-- A socket can be opened for every endpoint that is accepted with the error of
the last attempt, up to the first that can be connected to. (Or the failure to
open one is itself `operation_aborted`, and no later endpoint is accepted.) -/
def OpensAll : List Endpoint → ErrorCode → Prop
  | [], _ => True
  | endpoint :: rest, ec =>
      if connectCondition ec endpoint then
        if (host.openingError endpoint).failed then
          host.openingError endpoint = .operationAborted ∧
            ∀ later ∈ rest, connectCondition .operationAborted later = false
        else
          (host.connectError endpoint).failed → OpensAll rest (host.connectError endpoint)
      else
        OpensAll rest ec

/-- With every endpoint rejected, nothing is attempted. -/
theorem connected_of_rejected {endpoints : List Endpoint} {ec : ErrorCode}
    (rejected : ∀ endpoint ∈ endpoints, connectCondition ec endpoint = false)
    (socket : Socket Endpoint) :
    connected host connectCondition endpoints ec socket =
      ⟨if !ec.failed then .notFound else ec, [], socket⟩ := by
  induction endpoints with
  | nil => rfl
  | cons endpoint rest ih =>
      rw [connected, rejected endpoint List.mem_cons_self, if_neg Bool.false_ne_true]
      exact ih fun later member => rejected later (List.mem_cons_of_mem _ member)

/-- The attempts grow at their end. -/
theorem connected_tried (endpoints : List Endpoint) (ec : ErrorCode) (socket : Socket Endpoint) :
    socket.tried <+: (connected host connectCondition endpoints ec socket).socket.tried := by
  induction endpoints generalizing ec socket with
  | nil => exact List.prefix_refl _
  | cons endpoint rest ih =>
      rw [connected]
      have attempted : socket.tried <+: (socket.close.connect host endpoint).2.tried :=
        socket.connect_tried endpoint ▸ List.prefix_append _ _
      generalize socket.close.connect host endpoint = answer at attempted ⊢
      obtain ⟨answered, next⟩ := answer
      dsimp only at attempted ⊢
      cases connectCondition ec endpoint with
      | false => exact ih ec socket
      | true =>
          cases answered.failed with
          | false => exact attempted
          | true => exact attempted.trans (ih _ next)

/-- An endpoint that is accepted is attempted. -/
theorem connected_tries {endpoints : List Endpoint} {ec : ErrorCode} {accepted : Endpoint}
    (member : accepted ∈ endpoints) (accepts : connectCondition ec accepted = true)
    (socket : Socket Endpoint) :
    (connected host connectCondition endpoints ec socket).socket.tried ≠ socket.tried := by
  induction endpoints with
  | nil => cases member
  | cons endpoint rest ih =>
      rw [connected]
      cases attempted : connectCondition ec endpoint with
      | false =>
          rw [if_neg Bool.false_ne_true]
          refine ih ((List.mem_cons.mp member).resolve_left ?_)
          rintro rfl
          rw [attempted] at accepts
          cases accepts
      | true =>
          rw [if_pos rfl]
          have tried : (socket.close.connect host endpoint).2.tried =
              socket.tried ++ [endpoint] := socket.connect_tried endpoint
          generalize socket.close.connect host endpoint = answer at tried ⊢
          obtain ⟨answered, next⟩ := answer
          dsimp only at tried ⊢
          have longer : socket.tried.length < next.tried.length := by
            rw [tried, List.length_append]
            exact Nat.lt_succ_self _
          cases answered.failed with
          | false => exact fun same => absurd (congrArg List.length same) longer.ne'
          | true =>
              have later : next.tried <+:
                  (connected host connectCondition rest answered next).socket.tried :=
                connected_tried rest answered next
              exact fun same =>
                absurd (congrArg List.length same) (longer.trans_le later.length_le).ne'

section

variable {Result : Type*} (returns handles : ErrorCode → List Endpoint → Result)

/-- Where `async_connect` gives up, `connect` goes on to the next endpoint that is
accepted. -/
theorem sameConnection_unopenable {rest iter : List Endpoint} {ec : ErrorCode}
    {socket : Socket Endpoint} (failed : ec.failed = true) :
    SameConnection ((connected host connectCondition rest ec socket).report returns)
      (Connected.report handles ⟨.operationAborted, iter, socket⟩) ↔
    ec = .operationAborted ∧
      ∀ later ∈ rest, connectCondition .operationAborted later = false := by
  constructor
  · intro same
    have rejected : ∀ later ∈ rest, connectCondition ec later = false := by
      intro later member
      by_contra accepts
      exact connected_tries member (by simpa using accepts) socket same.tried.symm
    have ended : ErrorCode.operationAborted = ec := by
      simpa [connected_of_rejected rejected, Connected.report, failed] using same.ec
    exact ⟨ended.symm, ended ▸ rejected⟩
  · rintro ⟨rfl, rejected⟩
    rw [connected_of_rejected rejected]
    exact ⟨rfl, rfl, rfl, fun succeeded => by cases succeeded⟩

/-- The connects that `connect` and `async_connect` come to are the same exactly
when every endpoint on the way can be opened. -/
theorem sameConnection_iff
    (reports : ∀ ec iter, ec.failed = false → handles ec iter = returns ec iter)
    (endpoints : List Endpoint) (ec : ErrorCode) (socket : Socket Endpoint) :
    SameConnection ((connected host connectCondition endpoints ec socket).report returns)
      ((asyncConnected host connectCondition endpoints ec socket).report handles) ↔
    OpensAll host connectCondition endpoints ec := by
  induction endpoints generalizing ec socket with
  | nil => exact ⟨fun _ => trivial, fun _ => ⟨rfl, rfl, rfl, reports _ _⟩⟩
  | cons endpoint rest ih =>
      rw [connected, asyncConnected, OpensAll, Socket.asyncConnect]
      cases connectCondition ec endpoint with
      | false => exact ih ec socket
      | true =>
          simp only [if_true]
          cases opening : (host.openingError endpoint).failed with
          | true =>
              rw [socket.connect_unopenable opening]
              simp only [opening, Bool.not_true, Bool.not_false, Bool.false_eq_true, if_false,
                if_true]
              exact sameConnection_unopenable returns handles opening
          | false =>
              rw [socket.connect_opened opening]
              cases failing : (host.connectError endpoint).failed with
              | false =>
                  simp only [Bool.not_true, Bool.not_false, Bool.false_eq_true, if_false, if_true,
                    false_imp_iff, iff_true]
                  exact ⟨rfl, rfl, rfl, reports _ _⟩
              | true => simpa [failing] using ih _ _

end

variable (host connectCondition) in
/-- **`async_connect` against `connect`.** Both always end. They try the same
endpoints, connect to the same one and report the same error exactly when a
socket can be opened for every endpoint that is accepted on the way. -/
theorem async_connect_agrees [Inhabited Endpoint] (endpoints : List Endpoint)
    (socket : Socket Endpoint) :
    ((∃ returned handled,
        Returns (connectRange host connectCondition) (connecting endpoints socket) returned ∧
        Returns (rangeConnectOp host connectCondition)
          (startRangeConnectOp host connectCondition endpoints socket) handled ∧
        SameConnection returned handled) ↔
      OpensAll host connectCondition endpoints .success) ∧
    ((∃ returned handled,
        Returns (connect host connectCondition) (connecting endpoints socket) returned ∧
        Returns (iteratorConnectOp host connectCondition)
          (startIteratorConnectOp host connectCondition endpoints socket) handled ∧
        SameConnection returned handled) ↔
      OpensAll host connectCondition endpoints .success) := by
  have returns : Returns (connect host connectCondition) (connecting endpoints socket) _ :=
    connect_returns endpoints .success socket
  have returnsRange : Returns (connectRange host connectCondition)
      (connecting endpoints socket) _ := Returns.map_iff.mpr ⟨_, returns, rfl⟩
  have handles : Returns (iteratorConnectOp host connectCondition) _ _ :=
    iteratorConnectOp_returns endpoints socket
  have handlesRange : Returns (rangeConnectOp host connectCondition) _ _ :=
    rangeConnectOp_returns endpoints socket
  constructor
  · rw [returnsRange.exists_both_iff handlesRange]
    refine sameConnection_iff (fun ec iter => derefConnectResult iter ec)
      (fun ec iter => if ec.failed || iter.isEmpty then default else iter.headD default)
      (fun ec iter succeeded => ?_) endpoints .success socket
    cases iter <;> simp [derefConnectResult, succeeded]
  · rw [returns.exists_both_iff handles]
    exact sameConnection_iff (fun _ iter => iter) (fun _ iter => iter) (fun _ _ _ => rfl)
      endpoints .success socket

/-- A host without IPv6, where an endpoint is the version of its protocol. -/
def noIpv6 : Host Nat Nat where
  protocol endpoint := endpoint
  openError protocol := if protocol = 6 then ⟨97, .system, by decide⟩ else .success
  connectError _ := .success

/-- `connect` goes on from the IPv6 endpoint to the IPv4 endpoint; `async_connect`
reports that it was cancelled. -/
theorem async_connect_stops :
    (∃ returned handled,
      Returns (connectRange noIpv6 defaultConnectCondition)
        (connecting [6, 4] ⟨false, none, []⟩) returned ∧
      Returns (rangeConnectOp noIpv6 defaultConnectCondition)
        (startRangeConnectOp noIpv6 defaultConnectCondition [6, 4] ⟨false, none, []⟩) handled ∧
      returned.ec = .success ∧ returned.result = 4 ∧ returned.socket.tried = [6, 4] ∧
      handled.ec = .operationAborted ∧ handled.socket.tried = [6]) ∧
    (∃ returned handled,
      Returns (connect noIpv6 defaultConnectCondition)
        (connecting [6, 4] ⟨false, none, []⟩) returned ∧
      Returns (iteratorConnectOp noIpv6 defaultConnectCondition)
        (startIteratorConnectOp noIpv6 defaultConnectCondition [6, 4] ⟨false, none, []⟩) handled ∧
      returned.ec = .success ∧ returned.result = [4] ∧ returned.socket.tried = [6, 4] ∧
      handled.ec = .operationAborted ∧ handled.socket.tried = [6]) := by
  constructor
  · refine ⟨⟨.success, 4, ⟨true, some 4, [6, 4]⟩⟩, ⟨.operationAborted, 0, ⟨false, none, [6]⟩⟩,
      @Returns.of_evaluate _ _ _ 3 _ _ (by decide),
      @Returns.of_evaluate _ _ _ 3 _ _ (by decide), ?_⟩
    exact ⟨rfl, rfl, rfl, rfl, rfl⟩
  · refine ⟨⟨.success, [4], ⟨true, some 4, [6, 4]⟩⟩, ⟨.operationAborted, [6, 4], ⟨false, none, [6]⟩⟩,
      @Returns.of_evaluate _ _ _ 3 _ _ (by decide),
      @Returns.of_evaluate _ _ _ 3 _ _ (by decide), ?_⟩
    exact ⟨rfl, rfl, rfl, rfl, rfl⟩

end

end Asio.Transmit
