import Asio.Ip.AddressText
import Asio.Ip.Endpoint
import Asio.Lib.Loop
import Asio.Lib.OwnedHeap

/-! # The records of the emulated `getaddrinfo`

Where the system has no `getaddrinfo`, `socket_ops` makes the list of records itself. A record
points to its address, to a name and to the next record, and any of the blocks may be refused.
What touches a block that is not there has no result.
-/

namespace Asio

namespace ErrorCode

/-- `error::host_not_found`, `HOST_NOT_FOUND`. -/
def hostNotFound : ErrorCode where
  value := 1
  category := .netdb

/-- `error::host_not_found_try_again`, `TRY_AGAIN`. -/
def hostNotFoundTryAgain : ErrorCode where
  value := 2
  category := .netdb

/-- `error::no_recovery`, `NO_RECOVERY`. -/
def noRecovery : ErrorCode where
  value := 3
  category := .netdb

/-- `error::no_data`, `NO_DATA`. -/
def noData : ErrorCode where
  value := 4
  category := .netdb

end ErrorCode

namespace Network

open CString Ip

/-- The errors `EAI_...` that are answered; no error is zero. -/
inductive Eai where
  | again
  | fail
  | family
  | memory
  | noname
  | service
  | socktype
  deriving DecidableEq

/-- `AF_UNSPEC`, `AF_INET`, `AF_INET6` and the families that are not handled. -/
inductive Family where
  | unspec
  | inet
  | inet6
  | other (af : Nat)
  deriving DecidableEq

/-- The bytes that are copied from what an address of the family points to. -/
abbrev Family.Addr : Family → Type
  | .inet => BitVec 32
  | .inet6 => In6Addr
  | _ => Unit

/-- `SOCK_STREAM` and `SOCK_DGRAM`; zero is no type. -/
def sockStream : Int := 1
def sockDgram : Int := 2

/-- `AI_PASSIVE` and the other flags of hints, and the one that is put on records. -/
def aiPassive : BitVec 32 := 1#32
def aiCanonname : BitVec 32 := 2#32
def aiV4mapped : BitVec 32 := 8#32
def aiAll : BitVec 32 := 16#32
def aiNumericserv : BitVec 32 := 0x400#32
def gaiCloneFlag : BitVec 32 := 1#32 <<< 30

/-- The members of an `addrinfo` that are read of hints. -/
structure Hints where
  aiFlags : BitVec 32
  aiFamily : Family
  aiSocktype : Int
  aiProtocol : Int
  deriving DecidableEq

/-- `addrinfo_type`. -/
structure AddrInfo where
  aiFlags : BitVec 32
  aiFamily : Family
  aiSocktype : Int
  aiProtocol : Int
  aiAddrlen : Nat
  aiAddr : Option Nat
  aiCanonname : Option Nat
  aiNext : Option Nat

/-- What a block holds that a `sockaddr` pointer leads to: the members that are not left zero, and
nothing when it has no size. -/
inductive SockAddr where
  | in4 (sinPort : BitVec 16) (sinAddr : BitVec 32)
  | in6 (sin6Port : BitVec 16) (sin6Addr : In6Addr)
  | nothing

/-- What a block holds. -/
inductive Object where
  | info (info : AddrInfo)
  | addr (addr : SockAddr)
  | name (name : Text)

abbrev Heap := OwnedHeap Object

/-- A pointer to a record is followed. -/
def readInfo (heap : Heap) (ai : Nat) : Option AddrInfo :=
  match heap.object ai with
  | some (.info info) => some info
  | _ => none

/-- A pointer to an address is followed. -/
def readAddr (heap : Heap) (addr : Option Nat) : Option SockAddr := do
  match heap.object (← addr) with
  | some (.addr addr) => some addr
  | _ => none

/-- `memcpy` from an address. None is read of no size. -/
def copyAddr (heap : Heap) (addr : Option Nat) (size : Nat) : Option SockAddr :=
  if size = 0 then some .nothing else readAddr heap addr

/-- `sizeof` the address of a family that is handled. -/
def Family.addrlen : Family → Nat
  | .inet => 16
  | .inet6 => 28
  | _ => 0

/-- The address of a family that is handled, without a port. -/
def Family.sockAddr : (family : Family) → family.Addr → Option SockAddr
  | .inet, addr => some (.in4 0#16 addr)
  | .inet6, addr => some (.in6 0#16 addr)
  | .unspec, _ => none
  | .other _, _ => none

/-- `sin_port = port`, or `sin6_port = port`, where the family says which it is. -/
def SockAddr.setPort (port : BitVec 16) : SockAddr → SockAddr
  | .in4 _ addr => .in4 port addr
  | .in6 _ addr => .in6 port addr
  | .nothing => .nothing

/-- Whether an entry of the family has a port. -/
def Family.hasPort : Family → Bool
  | .inet => true
  | .inet6 => true
  | _ => false

/-! ## Making records -/

/-- Where the next record is linked in: `aihead`, or the `ai_next` of a record. -/
inductive Slot where
  | head
  | next (ai : Nat)
  deriving DecidableEq

/-- The variables of `getaddrinfo_emulation` that its loops change, and the heap. -/
structure Gathering where
  aihead : Option Nat
  ainext : Slot
  canon : Option Nat
  heap : Heap

/-- `**next = ai`, and `*next = &ai->ai_next`. -/
def Gathering.link (gathering : Gathering) (ai : Nat) : Option Gathering :=
  match gathering.ainext with
  | .head => some { gathering with aihead := some ai, ainext := .next ai }
  | .next last => do
      let info ← readInfo gathering.heap last
      return { gathering with
        ainext := .next ai
        heap := gathering.heap.store last (.info { info with aiNext := some ai }) }

variable (granted : Nat → Bool)

/-- The record of an address, which it does not point to yet. -/
def Hints.info (hints : Hints) (family : Family) : AddrInfo where
  aiFlags := if hints.aiSocktype = 0 then gaiCloneFlag else 0#32
  aiFamily := family
  aiSocktype := hints.aiSocktype
  aiProtocol := hints.aiProtocol
  aiAddrlen := 0
  aiAddr := none
  aiCanonname := none
  aiNext := none

/-- The `switch` of `gai_aistruct`. -/
def attachAddr (family : Family) (addr : family.Addr) (ai : Nat) (gathering : Gathering) :
    Option (Option Eai × Gathering) :=
  match family.sockAddr addr with
  | none => some (none, gathering)
  | some sock =>
      match gathering.heap.alloc granted (.addr sock) with
      | (none, heap) => some (some .memory, { gathering with heap })
      | (some ptr, heap) => do
          let info ← readInfo heap ai
          return (none, { gathering with
            heap := heap.store ai (.info { info with
              aiAddr := some ptr
              aiAddrlen := family.addrlen }) })

/-- `gai_aistruct`. -/
def gaiAistruct (hints : Hints) (family : Family) (addr : family.Addr) (gathering : Gathering) :
    Option (Option Eai × Gathering) :=
  match gathering.heap.alloc granted (.info (hints.info family)) with
  | (none, heap) => some (some .memory, { gathering with heap })
  | (some ai, heap) => do
      let gathering ← { gathering with heap }.link ai
      attachAddr granted family addr ai gathering

/-- The address of a copy. The block is written to whether it was granted or not. -/
def cloneAddr (info : AddrInfo) (newAi : Nat) (heap : Heap) : Option (Option Nat × Heap) := do
  let addr ← copyAddr heap info.aiAddr info.aiAddrlen
  match heap.alloc granted (.addr addr) with
  | (none, heap) => if info.aiAddrlen = 0 then return (some newAi, heap) else none
  | (some ptr, heap) =>
      let newInfo ← readInfo heap newAi
      return (some newAi, heap.store newAi (.info { newInfo with aiAddr := some ptr }))

/-- `gai_clone`. -/
def gaiClone (ai : Nat) (heap : Heap) : Option (Option Nat × Heap) := do
  let info ← readInfo heap ai
  match heap.alloc granted (.info { info with
      aiFlags := 0#32
      aiAddr := none
      aiCanonname := none }) with
  | (none, heap) => return (none, heap)
  | (some newAi, heap) =>
      let heap := heap.store ai (.info { info with aiNext := some newAi })
      cloneAddr granted info newAi heap

/-! ## The services -/

/-- `ai_socktype = socktype`, and the port of the address. -/
def setPort (port : BitVec 16) (socktype : Int) (ai : Nat) (heap : Heap) : Option Heap := do
  let info ← readInfo heap ai
  let heap := heap.store ai (.info { info with aiSocktype := socktype })
  if info.aiFamily.hasPort then
    let ptr ← info.aiAddr
    let addr ← readAddr heap (some ptr)
    return heap.store ptr (.addr (addr.setPort port))
  else return heap

/-- The entry that `ai` points to gets its port, and counts when it has one. -/
def portEntry (port : BitVec 16) (socktype : Int) (family : Family) (ai : Nat) (heap : Heap) :
    Option (Option (Nat × Bool) × Heap) := do
  let heap ← setPort port socktype ai heap
  return (some (ai, family.hasPort), heap)

/-- What `gai_port` does to one record: where the loop goes on, and whether a port was set. -/
def portRecord (port : BitVec 16) (socktype : Int) (ai : Nat) (heap : Heap) :
    Option (Option (Nat × Bool) × Heap) := do
  let info ← readInfo heap ai
  if info.aiFlags &&& gaiCloneFlag ≠ 0#32 then
    if info.aiSocktype ≠ 0 then
      match ← gaiClone granted ai heap with
      | (none, heap) => return (none, heap)
      -- ai now points to newly cloned entry.
      | (some newAi, heap) => portEntry port socktype info.aiFamily newAi heap
    else portEntry port socktype info.aiFamily ai heap
  -- Ignore if mismatch on socket type.
  else if info.aiSocktype ≠ socktype then return (some (ai, false), heap)
  else portEntry port socktype info.aiFamily ai heap

/-- A pass of `gai_port`, which counts the ports. -/
def gaiPortPass (port : BitVec 16) (socktype : Int) :
    Option Nat × Nat × Heap → Loop.Pass (Option Nat × Nat × Heap) (Option Nat × Heap)
  | (none, numFound, heap) => .leave (some numFound, heap)
  | (some ai, numFound, heap) =>
      match portRecord granted port socktype ai heap with
      | none => .blocked
      | some (none, heap) => .leave (none, heap)
      | some (some (ai, found), heap) =>
          match readInfo heap ai with
          | none => .blocked
          | some info => .again (info.aiNext, numFound + found.toNat, heap)

/-- `gai_port`, with none for the answer -1. No more records are passed than blocks were asked
for. -/
def gaiPort (aihead : Option Nat) (port : BitVec 16) (socktype : Int) (heap : Heap) :
    Option (Option Nat × Heap) :=
  Loop.evaluate (gaiPortPass granted port socktype) (heap.asked + 1) (aihead, 0, heap)

/-- `gai_port` once for each port and type, `EAI_MEMORY` if it fails; `num_found` adds up. -/
def gaiPorts (aihead : Option Nat) :
    List (BitVec 16 × Int) → Nat → Heap → Option (Except Eai Nat × Heap)
  | [], numFound, heap => some (.ok numFound, heap)
  | (port, socktype) :: ports, numFound, heap => do
      match ← gaiPort granted aihead port socktype heap with
      | (none, heap) => return (.error .memory, heap)
      | (some rc, heap) => gaiPorts aihead ports (numFound + rc) heap

/-- The names of the protocols that services are looked up for. -/
inductive Proto where
  | tcp
  | udp

/-- `hostent`, of addresses that its family says how to read. -/
structure Hostent where
  hName : Option Text
  hAddrtype : Family
  hAddrList : List hAddrtype.Addr

/-- What `gethostbyname_r` stores as the error. -/
inductive NetdbError where
  | hostNotFound
  | tryAgain
  | noRecovery
  | noData
  | other

/-- The databases of names; an answer of `gethostbyname_r` comes with its error and `errno`. -/
structure NetDb where
  os : Os
  gethostbynameR : Text → Option Hostent × Option NetdbError × Option ℕ+
  getservbyname : Text → Proto → Option (BitVec 32)

/-- `isdigit` of the first byte, which may be the NUL. -/
def startsNumeric (serv : Text) : Bool := serv.head?.any isDigit

/-- `gai_serv` up to the records: the ports and types that are set, in order. -/
def servicePorts (db : NetDb) (hints : Hints) (serv : Text) : List (BitVec 16 × Int) :=
  if hints.aiFlags &&& aiNumericserv ≠ 0#32 ∨ startsNumeric serv = true then
    let port := hostToNetworkShort (BitVec.ofInt 16 (atoi serv))
    if hints.aiSocktype ≠ 0 then [(port, hints.aiSocktype)]
    else [(port, sockStream), (port, sockDgram)]
  else
    (if hints.aiSocktype = 0 ∨ hints.aiSocktype = sockStream then
      ((db.getservbyname serv .tcp).map fun port => (port.setWidth 16, sockStream)).toList
    else []) ++
    (if hints.aiSocktype = 0 ∨ hints.aiSocktype = sockDgram then
      ((db.getservbyname serv .udp).map fun port => (port.setWidth 16, sockDgram)).toList
    else [])

/-- `gai_serv`. -/
def gaiServ (db : NetDb) (aihead : Option Nat) (hints : Hints) (serv : Text) (heap : Heap) :
    Option (Option Eai × Heap) := do
  match ← gaiPorts granted aihead (servicePorts db hints serv) 0 heap with
  | (.error rc, heap) => return (some rc, heap)
  | (.ok numFound, heap) =>
      if numFound = 0 then
        if hints.aiSocktype = 0 then return (some .noname, heap) else return (some .service, heap)
      else return (none, heap)

/-! ## Freeing records -/

/-- A pass of `freeaddrinfo_emulation`. -/
def freePass : Option Nat × Heap → Loop.Pass (Option Nat × Heap) Heap
  | (none, heap) => .leave heap
  | (some ai, heap) =>
      match readInfo heap ai with
      | none => .blocked
      | some info =>
          match (heap.free info.aiAddr).bind fun heap =>
              (heap.free info.aiCanonname).bind fun heap => heap.free (some ai) with
          | none => .blocked
          | some heap => .again (info.aiNext, heap)

/-- `freeaddrinfo_emulation`. No more records are passed than blocks were asked for. -/
def freeaddrinfoEmulation (aihead : Option Nat) (heap : Heap) : Option Heap :=
  Loop.evaluate freePass (heap.asked + 1) (aihead, heap)

end Network

end Asio
