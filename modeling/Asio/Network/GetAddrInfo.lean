import Asio.Network.AddrInfoPorts

/-! # The emulated `getaddrinfo`

The host is searched for in the families that the hints admit, each address becomes a record,
and each record is offered for each port of the service. `resolve` says which records those
are, of no memory at all. The emulation answers with such a list and has no other blocks left,
or with an error and no blocks.
-/

namespace Asio.Network

open CString Ip OwnedHeap

/-- `text != 0 && text[0] != '\0'`. -/
def present (text : Option Text) : Bool := text.any fun text => !text.isEmpty

/-- The searches for a host in the families of the hints, IPv6 first. -/
def searchFamilies (hints : Hints) (host6 host4 : Text) : List (Text × Family) :=
  match hints.aiFamily with
  | .inet => [(host4, .inet)]
  | .inet6 => [(host6, .inet6)]
  | .unspec => [(host6, .inet6), (host4, .inet)]
  | .other _ => []

/-- `gai_nsearch`. -/
def gaiNsearch (host : Option Text) (hints : Hints) : List (Text × Family) :=
  if present host then searchFamilies hints (host.getD []) (host.getD [])
  -- No host and AI_PASSIVE implies wildcard bind.
  else if hints.aiFlags &&& aiPassive ≠ 0#32 then
    searchFamilies hints (ofChars "0::0".toList) (ofChars "0.0.0.0".toList)
  -- No host and not AI_PASSIVE means connect to local host.
  else searchFamilies hints (ofChars "localhost".toList) (ofChars "localhost".toList)

/-- `gai_echeck`. -/
def gaiEcheck (host service : Option Text) (hints : Hints) : Option Eai :=
  if present host = false ∧ present service = false then some .noname
  else match hints.aiFamily with
    | .unspec => none
    | .other _ => some .family
    | _ =>
        if present service = true ∧ hints.aiSocktype ≠ 0 ∧ hints.aiSocktype ≠ sockStream ∧
          hints.aiSocktype ≠ sockDgram then some .socktype
        else none

/-- `translate_netdb_error`, where the assertion is compiled out. -/
def translateNetdbError : NetdbError → ErrorCode
  | .hostNotFound => .hostNotFound
  | .tryAgain => .hostNotFoundTryAgain
  | .noRecovery => .noRecovery
  | .noData => .noData
  | .other => .invalidArgument

/-- `error::address_family_not_supported`, the system's `EAFNOSUPPORT`. -/
def addressFamilyNotSupported : ErrorCode := .ofErrno 97

/-- `socket_ops::gethostbyname`. -/
def NetDb.gethostbyname (db : NetDb) (name : Text) (af : Family) : Option Hostent × ErrorCode :=
  if af ≠ .inet then (none, addressFamilyNotSupported)
  else
    match db.gethostbynameR name with
    | (retval, some error, _) => (retval, translateNetdbError error)
    | (retval, none, some errno) => (retval, .ofErrno errno)
    | (retval, none, none) => (retval, .success)

/-- The error for a host that was not found. -/
def lookupError (ec : ErrorCode) : Eai :=
  if ec = .hostNotFound then .noname
  else if ec = .hostNotFoundTryAgain then .again
  else if ec = .noRecovery then .fail
  else if ec = .noData then .noname
  else .noname

/-- The hints ask for another family. -/
def Hints.mismatch (hints : Hints) (family : Family) : Prop :=
  hints.aiFamily ≠ .unspec ∧ hints.aiFamily ≠ family

instance (hints : Hints) (family : Family) : Decidable (hints.mismatch family) :=
  inferInstanceAs (Decidable (_ ∧ _))

/-- A canonical name is asked for. -/
def wantsName (host : Option Text) (hints : Hints) : Prop :=
  present host = true ∧ hints.aiFlags &&& aiCanonname ≠ 0#32

instance (host : Option Text) (hints : Hints) : Decidable (wantsName host hints) :=
  inferInstanceAs (Decidable (_ ∧ _))

/-! ## The emulation -/

/-- What follows a step: nothing where there is no result, or when the emulation has returned. -/
def andThen (result : Option (Except (Eai × Heap) Gathering))
    (next : Gathering → Option (Except (Eai × Heap) Gathering)) :
    Option (Except (Eai × Heap) Gathering) :=
  match result with
  | none => none
  | some (.error returned) => some (.error returned)
  | some (.ok gathering) => next gathering

/-- The records and the name are freed, and an error is returned. -/
def Gathering.fail (gathering : Gathering) (rc : Eai) :
    Option (Except (Eai × Heap) Gathering) := do
  let heap ← freeaddrinfoEmulation gathering.aihead gathering.heap
  let heap ← heap.free gathering.canon
  return .error (rc, heap)

variable (granted : Nat → Bool) (db : NetDb) (host : Option Text) (hints : Hints)

/-- The host is the text of an address. -/
def addNumeric (searched family : Family) (addr : family.Addr) (gathering : Gathering) :
    Option (Except (Eai × Heap) Gathering) :=
  if hints.mismatch family then gathering.fail .family
  else if searched = family then
    match gaiAistruct granted hints family addr gathering with
    | none => none
    | some (none, gathering) => some (.ok gathering)
    | some (some rc, gathering) => gathering.fail rc
  else some (.ok gathering)

/-- The canonical name is saved the first time. -/
def saveCanon (hName : Option Text) (gathering : Gathering) :
    Option (Except (Eai × Heap) Gathering) :=
  if wantsName host hints ∧ present hName = true ∧ gathering.canon = none then
    match gathering.heap.alloc granted (.name (hName.getD [])) with
    | (none, heap) => Gathering.fail { gathering with heap } .memory
    | (some canon, heap) => some (.ok { gathering with canon := some canon, heap })
  else some (.ok gathering)

/-- A record for each address of a host. That there is no memory is taken for the family. -/
def addHosts (family : Family) :
    List family.Addr → Gathering → Option (Except (Eai × Heap) Gathering)
  | [], gathering => some (.ok gathering)
  | addr :: addrs, gathering =>
      match gaiAistruct granted hints family addr gathering with
      | none => none
      | some (none, gathering) => addHosts family addrs gathering
      | some (some _, gathering) => gathering.fail .family

/-- The host is looked up by its name. -/
def addLookedUp (searchCount : Nat) (text : Text) (searched : Family) (gathering : Gathering) :
    Option (Except (Eai × Heap) Gathering) :=
  match db.gethostbyname text searched with
  | (none, ec) =>
      -- Failure is OK if there are multiple searches.
      if searchCount = 2 then some (.ok gathering) else gathering.fail (lookupError ec)
  | (some hent, _) =>
      if hints.mismatch hent.hAddrtype then gathering.fail .family
      else andThen (saveCanon granted host hints hent.hName gathering)
        (addHosts granted hints hent.hAddrtype hent.hAddrList)

/-- One search. -/
def searchHost (searchCount : Nat) (search : Text × Family) (gathering : Gathering) :
    Option (Except (Eai × Heap) Gathering) :=
  match db.os.inetPton4 search.1 with
  | .ok inaddr => addNumeric granted hints search.2 .inet inaddr gathering
  | .error _ =>
      match db.os.inetPton search.1 with
      | .ok (in6addr, _) => addNumeric granted hints search.2 .inet6 in6addr gathering
      | .error _ => addLookedUp granted db host hints searchCount search.1 search.2 gathering

/-- The loop through the searches. -/
def searchHosts (searchCount : Nat) :
    List (Text × Family) → Gathering → Option (Except (Eai × Heap) Gathering)
  | [], gathering => some (.ok gathering)
  | search :: searches, gathering =>
      andThen (searchHost granted db host hints searchCount search gathering)
        (searchHosts searchCount searches)

/-- The canonical name is put into the first record, the name of the host when none was saved. -/
def nameFirst (searches : List (Text × Family)) (gathering : Gathering) :
    Option (Except (Eai × Heap) Gathering) :=
  match gathering.aihead with
  | none => do
      let heap ← gathering.heap.free gathering.canon
      return .error (.noname, heap)
  | some aihead =>
      if wantsName host hints then do
        let info ← readInfo gathering.heap aihead
        match gathering.canon with
        | some canon =>
            return .ok { gathering with
              canon := none
              heap := gathering.heap.store aihead (.info { info with aiCanonname := some canon }) }
        | none => do
            let search ← searches.head?
            match gathering.heap.alloc granted (.name search.1) with
            | (none, heap) => Gathering.fail { gathering with heap } .memory
            | (some name, heap) =>
                return .ok { gathering with
                  heap := heap.store aihead (.info { info with aiCanonname := some name }) }
      else do
        let heap ← gathering.heap.free gathering.canon
        return .ok { gathering with canon := none, heap }

/-- The AI_V4MAPPED and AI_ALL flags are removed if the resolution is not for AF_INET6. -/
def Hints.adjusted : Hints :=
  if hints.aiFamily ≠ .inet6 then
    { hints with aiFlags := hints.aiFlags &&& ~~~aiV4mapped &&& ~~~aiAll }
  else hints

/-- The default hints. -/
def defaultHints : Hints := ⟨0#32, .unspec, 0, 0⟩

/-- `getaddrinfo_emulation`: an error or the first record, and the heap. -/
def getaddrinfoEmulation (service : Option Text) (hintsp : Option Hints) (heap : Heap) :
    Option (Except Eai (Option Nat) × Heap) :=
  let hints := (hintsp.getD defaultHints).adjusted
  match gaiEcheck host service hints with
  | some rc => some (.error rc, heap)
  | none =>
      let searches := gaiNsearch host hints
      match andThen (searchHosts granted db host hints searches.length searches
          ⟨none, .head, none, heap⟩) (nameFirst granted host hints searches) with
      | none => none
      | some (.error (rc, heap)) => some (.error rc, heap)
      | some (.ok gathering) =>
          if present service = true then do
            match ← gaiServ granted db gathering.aihead hints (service.getD []) gathering.heap with
            | (some rc, heap) =>
                let heap ← freeaddrinfoEmulation gathering.aihead heap
                return (.error rc, heap)
            | (none, heap) => return (.ok gathering.aihead, heap)
          else some (.ok gathering.aihead, gathering.heap)

end Asio.Network
