import Asio.Network.AddrInfo

/-! # What the list of records stands for

A record with its pointers followed is a value; a placed record knows its blocks as well. The
loops over the records are described by what they make of the values, whatever requests for
memory are refused.
-/

namespace Asio.Network

open CString Ip OwnedHeap

/-- An `addrinfo` of which the pointers have been followed. -/
structure Record where
  aiFlags : BitVec 32
  aiFamily : Family
  aiSocktype : Int
  aiProtocol : Int
  aiAddrlen : Nat
  addr : Option SockAddr
  canonname : Option Text

namespace Record

variable (record : Record)

/-- There is no address when its size is zero and only then, and it has no port. -/
structure Sound : Prop where
  addrlen_iff : record.aiAddrlen = 0 ↔ record.addr = none
  hasPort : record.aiFamily.hasPort = true → record.addr ≠ none

/-- What `gai_clone` makes. -/
def cloned : Record := { record with aiFlags := 0#32, canonname := none }

/-- The record for a port and a type. -/
def ported (port : BitVec 16) (socktype : Int) : Record := { record with
  aiSocktype := socktype
  addr := if record.aiFamily.hasPort then record.addr.map (SockAddr.setPort port) else record.addr }

/-- Whether the record may be cloned. -/
def flagged : Bool := record.aiFlags &&& gaiCloneFlag != 0#32

/-- What `gai_port` makes of the record. -/
def port (port : BitVec 16) (socktype : Int) : List Record :=
  if record.flagged then
    if record.aiSocktype ≠ 0 then [record, record.cloned.ported port socktype]
    else [record.ported port socktype]
  else if record.aiSocktype ≠ socktype then [record]
  else [record.ported port socktype]

/-- How many ports `gai_port` sets. -/
def ports (socktype : Int) : Nat :=
  if record.flagged = true ∨ record.aiSocktype = socktype then record.aiFamily.hasPort.toNat else 0

/-- What `gai_aistruct` makes of an address. -/
def new (hints : Hints) (family : Family) (addr : family.Addr) : Record where
  aiFlags := (hints.info family).aiFlags
  aiFamily := family
  aiSocktype := hints.aiSocktype
  aiProtocol := hints.aiProtocol
  aiAddrlen := family.addrlen
  addr := family.sockAddr addr
  canonname := none

theorem sound_new (hints : Hints) (family : Family) (addr : family.Addr) :
    (new hints family addr).Sound := by
  cases family with
  | unspec => exact ⟨iff_of_true rfl rfl, fun port => absurd port Bool.false_ne_true⟩
  | inet => exact ⟨iff_of_false (Nat.succ_ne_zero _) (Option.some_ne_none _),
      fun _ => Option.some_ne_none _⟩
  | inet6 => exact ⟨iff_of_false (Nat.succ_ne_zero _) (Option.some_ne_none _),
      fun _ => Option.some_ne_none _⟩
  | other af => exact ⟨iff_of_true rfl rfl, fun port => absurd port Bool.false_ne_true⟩

variable {record} {number : BitVec 16} {socktype : Int}

theorem ported_addr_eq_none_iff :
    (record.ported number socktype).addr = none ↔ record.addr = none := by
  simp only [ported]
  split
  · exact Option.map_eq_none_iff
  · exact Iff.rfl

theorem Sound.ported (sound : record.Sound) : (record.ported number socktype).Sound where
  addrlen_iff := sound.addrlen_iff.trans ported_addr_eq_none_iff.symm
  hasPort port := ported_addr_eq_none_iff.not.mpr (sound.hasPort port)

theorem Sound.cloned (sound : record.Sound) : record.cloned.Sound := ⟨sound.1, sound.2⟩

theorem Sound.port (sound : record.Sound) :
    ∀ made ∈ record.port number socktype, made.Sound := by
  intro made member
  simp only [Record.port] at member
  split at member
  · split at member
    · rcases List.mem_pair.mp member with rfl | rfl
      · exact sound
      · exact sound.cloned.ported
    · rw [List.mem_singleton.mp member]
      exact sound.ported
  · split at member
    · rw [List.mem_singleton.mp member]
      exact sound
    · rw [List.mem_singleton.mp member]
      exact sound.ported

end Record

/-- A record and the blocks it is kept in. The last two are used when there is something to keep
in them, and the one for the address also when it is hollow, which has no size. -/
structure Placed where
  ai : Nat
  ptr : Nat
  name : Nat
  hollow : Bool
  record : Record

namespace Placed

variable (placed : Placed)

/-- The pointer to the address and what it leads to. -/
def addr : Option (Nat × Object) :=
  match placed.record.addr with
  | some addr => some (placed.ptr, .addr addr)
  | none => if placed.hollow then some (placed.ptr, .addr .nothing) else none

/-- The pointer to the name and what it leads to. -/
def canonname : Option (Nat × Object) :=
  placed.record.canonname.map fun name => (placed.name, .name name)

/-- The block of the record itself. -/
def info (link : Option Nat) : AddrInfo where
  aiFlags := placed.record.aiFlags
  aiFamily := placed.record.aiFamily
  aiSocktype := placed.record.aiSocktype
  aiProtocol := placed.record.aiProtocol
  aiAddrlen := placed.record.aiAddrlen
  aiAddr := placed.addr.map Prod.fst
  aiCanonname := placed.canonname.map Prod.fst
  aiNext := link

def cell : Cell Object where
  block := placed.ai
  node link := .info (placed.info link)
  owned := placed.addr.toList ++ placed.canonname.toList

end Placed

/-- The heap holds the records, linked to a list, and other objects. -/
def Lists (heap : Heap) (list : List Placed) (others : List (Nat × Object)) : Prop :=
  heap.Owns (Cell.allBlocks none (list.map Placed.cell) ++ others)

/-- The first record of a list. -/
def headOf (list : List Placed) : Option Nat := Cell.first none (list.map Placed.cell)

/-- The blocks of the records before and after one in the middle, and the other blocks. -/
def besides (before : List Placed) (placed : Placed) (after : List Placed)
    (others : List (Nat × Object)) : List (Nat × Object) :=
  Cell.allBlocks (some placed.ai) (before.map Placed.cell) ++
    (Cell.allBlocks none (after.map Placed.cell) ++ others)

variable {heap : Heap} {before after list : List Placed} {placed other : Placed}
  {others : List (Nat × Object)} {granted : Nat → Bool}

theorem lists_middle_iff : Lists heap (before ++ placed :: after) others ↔
    heap.Owns ((placed.ai, .info (placed.info (headOf after))) ::
      (placed.addr.toList ++ placed.canonname.toList) ++
      besides before placed after others) := by
  rw [Lists, List.map_append, List.map_cons, Cell.owns_middle_iff]
  rfl

theorem readInfo_of_owns {ai : Nat} {info : AddrInfo} {objects : List (Nat × Object)}
    (owns : heap.Owns ((ai, .info info) :: objects)) : readInfo heap ai = some info := by
  rw [readInfo, owns.read List.mem_cons_self]

theorem readInfo_of_lists (lists : Lists heap (before ++ placed :: after) others) :
    readInfo heap placed.ai = some (placed.info (headOf after)) :=
  readInfo_of_owns (lists_middle_iff.mp lists)

theorem length_le_of_lists (lists : Lists heap list others) : list.length ≤ heap.asked := by
  have most := Cell.length_le lists
  rwa [List.length_map] at most

/-! ## Freeing -/

/-- A record is freed before the one it is linked to. -/
theorem freePass_cons (lists : Lists heap (placed :: list) others) :
    ∃ next, freePass (some placed.ai, heap) = .again (headOf list, next) ∧
      Lists next list others ∧ next.asked = heap.asked := by
  have owns := lists_middle_iff.mp (show Lists heap ([] ++ placed :: list) others from lists)
  have read := readInfo_of_owns owns
  have behind : heap.Owns (placed.addr.toList ++ (placed.canonname.toList ++
      ((placed.ai, .info (placed.info (headOf list))) :: besides [] placed list others))) := by
    refine owns.perm ?_
    rw [List.cons_append, ← List.append_assoc]
    exact List.perm_middle.symm
  obtain ⟨first, freed, owns, asked⟩ := behind.freeAll
  obtain ⟨second, freed', owns, asked'⟩ := owns.freeAll
  obtain ⟨third, freed'', owns, asked''⟩ := owns.free
  refine ⟨third, ?_, owns, asked''.trans (asked'.trans asked)⟩
  simp only [freePass, read, Placed.info, freed, freed', freed'', Option.bind_some]

theorem evaluate_freePass {passes : Nat} (lists : Lists heap list others)
    (enough : list.length < passes) :
    ∃ next, Loop.evaluate freePass passes (headOf list, heap) = some next ∧ next.Owns others ∧
      next.asked = heap.asked := by
  induction list generalizing heap passes with
  | nil =>
      obtain ⟨passes, rfl⟩ := Nat.exists_eq_succ_of_ne_zero (Nat.ne_of_gt enough)
      exact ⟨heap, rfl, lists, rfl⟩
  | cons placed list ih =>
      obtain ⟨passes, rfl⟩ := Nat.exists_eq_succ_of_ne_zero (Nat.ne_zero_of_lt enough)
      obtain ⟨next, passed, lists, asked⟩ := freePass_cons lists
      obtain ⟨last, left, owns, same⟩ := ih lists (Nat.lt_of_succ_lt_succ enough)
      refine ⟨last, ?_, owns, same.trans asked⟩
      rw [Loop.evaluate, show headOf (placed :: list) = some placed.ai from rfl, passed]
      exact left

/-- The blocks of the records are freed, each once, and no others. -/
theorem freeaddrinfoEmulation_of_lists (lists : Lists heap list others) :
    ∃ next, freeaddrinfoEmulation (headOf list) heap = some next ∧ next.Owns others ∧
      next.asked = heap.asked :=
  evaluate_freePass lists (Nat.lt_succ_of_le (length_le_of_lists lists))

/-! ## Making records -/

/-- Where the next record is linked in behind a list. -/
def slotOf (list : List Placed) : Slot :=
  match list.getLast? with
  | none => .head
  | some last => .next last.ai

/-- The variables are at the end of the list. -/
structure Gathering.Lists (gathering : Gathering) (list : List Placed)
    (others : List (Nat × Object)) : Prop where
  lists : Network.Lists gathering.heap list others
  aihead : gathering.aihead = headOf list
  ainext : gathering.ainext = slotOf list

namespace Gathering

variable {gathering : Gathering}

/-- What is allocated beside a list may be given to its records. -/
theorem lists_push {held : Nat × Object}
    (owns : heap.Owns (held :: (Cell.allBlocks none (list.map Placed.cell) ++ others))) :
    Network.Lists heap list (held :: others) := owns.perm List.perm_middle.symm

/-- A record that is linked in is the last one of the list. -/
theorem link_of_lists (lists : gathering.Lists list ((placed.ai, .info (placed.info none)) ::
      (placed.addr.toList ++ placed.canonname.toList) ++ others)) :
    ∃ next, gathering.link placed.ai = some next ∧ next.Lists (list ++ [placed]) others ∧
      next.heap.asked = gathering.heap.asked ∧ next.canon = gathering.canon := by
  have slot : slotOf (list ++ [placed]) = .next placed.ai := by
    rw [slotOf, List.getLast?_concat]
  rcases List.eq_nil_or_concat' list with rfl | ⟨initial, last, rfl⟩
  · refine ⟨{ gathering with aihead := some placed.ai, ainext := .next placed.ai }, ?_,
      ⟨?_, rfl, slot.symm⟩, rfl, rfl⟩
    · rw [link, lists.ainext]
      rfl
    · refine lists.lists.perm (.of_eq ?_)
      simp only [List.map_nil, Cell.allBlocks, List.nil_append, List.map_cons, Cell.blocks,
        List.append_nil]
      rfl
  · have owns := lists_middle_iff.mp lists.lists
    have read := readInfo_of_owns owns
    refine ⟨{ gathering with
        ainext := .next placed.ai
        heap := gathering.heap.store last.ai (.info (last.info (some placed.ai))) }, ?_,
      ⟨?_, ?_, slot.symm⟩, rfl, rfl⟩
    · have behind : gathering.ainext = .next last.ai := by
        rw [lists.ainext, slotOf, List.getLast?_concat]
      rw [link, behind]
      simp only [read, Option.bind_eq_bind, Option.bind_some]
      rfl
    · rw [List.append_assoc, List.singleton_append]
      refine lists_middle_iff.mpr ((owns.store _).perm (.of_eq ?_))
      simp only [besides, List.map_nil, Cell.allBlocks, List.map_cons, Cell.blocks,
        List.append_nil, List.nil_append]
      rfl
    · rw [lists.aihead]
      cases initial <;> rfl

/-- A record without an address gets one. -/
theorem lists_addr {ptr : Nat} {sock : SockAddr}
    (lists : Network.Lists heap (before ++ [placed]) ((ptr, .addr sock) :: others))
    (missing : placed.addr = none) (size : Nat) :
    Network.Lists (heap.store placed.ai (.info { placed.info none with
        aiAddr := some ptr
        aiAddrlen := size }))
      (before ++ [{ placed with
        ptr
        record := { placed.record with aiAddrlen := size, addr := some sock } }]) others := by
  have owns := lists_middle_iff.mp lists
  refine lists_middle_iff.mpr ((owns.store _).perm ?_)
  rw [missing, List.cons_append]
  apply List.Perm.cons
  change (placed.canonname.toList ++ (Cell.allBlocks (some placed.ai) (before.map Placed.cell) ++
    (ptr, .addr sock) :: others)).Perm ((ptr, .addr sock) :: (placed.canonname.toList ++
      (Cell.allBlocks (some placed.ai) (before.map Placed.cell) ++ others)))
  rw [← List.append_assoc, ← List.append_assoc]
  exact List.perm_middle

variable (granted) in
/-- The last record gets the address that its family has, or the request was refused. -/
theorem attachAddr_of_lists {hints : Hints} {family : Family} {addr : family.Addr}
    (lists : gathering.Lists (before ++ [placed]) others) (solid : placed.hollow = false)
    (bare : placed.record = { Record.new hints family addr with aiAddrlen := 0, addr := none }) :
    ∃ rc next made, attachAddr granted family addr placed.ai gathering = some (rc, next) ∧
      next.Lists (before ++ [made]) others ∧ next.canon = gathering.canon ∧
      gathering.heap.asked ≤ next.heap.asked ∧
      (rc = none ∧ made.record = .new hints family addr ∨
        rc = some .memory ∧ Refused granted gathering.heap next.heap) := by
  unfold attachAddr
  cases sockAddr : family.sockAddr addr with
  | none =>
      refine ⟨none, gathering, placed, rfl, lists, rfl, Nat.le_refl _, .inl ⟨rfl, ?_⟩⟩
      rw [bare, Record.new, sockAddr]
      cases family with
      | inet => cases sockAddr
      | inet6 => cases sockAddr
      | unspec => rfl
      | other af => rfl
  | some sock =>
      cases given : granted gathering.heap.asked with
      | false =>
          refine ⟨some .memory, { gathering with heap := gathering.heap.refuse }, placed, ?_,
            ⟨lists.lists.refuse, lists.aihead, lists.ainext⟩, rfl, Nat.le_succ _,
            .inr ⟨rfl, refused_refuse given⟩⟩
          simp only [alloc_refused given]
      | true =>
          have grown := lists_push (lists.lists.grant (.addr sock))
          have read := readInfo_of_lists grown
          have missing : placed.addr = none := by
            rw [Placed.addr, bare, solid]
            rfl
          refine ⟨none, { gathering with
              heap := (gathering.heap.grant (.addr sock)).store placed.ai (.info {
                placed.info none with
                aiAddr := some gathering.heap.asked
                aiAddrlen := family.addrlen }) }, _, ?_,
            ⟨lists_addr grown missing family.addrlen, ?_, ?_⟩, rfl, Nat.le_succ _,
            .inl ⟨rfl, ?_⟩⟩
          · simp only [alloc_granted given, read, Option.bind_eq_bind, Option.bind_some]
            rfl
          · rw [lists.aihead]
            cases before <;> rfl
          · rw [lists.ainext, slotOf, slotOf, List.getLast?_concat, List.getLast?_concat]
          · rw [bare, Record.new, sockAddr]

end Gathering

/-- `gai_aistruct` puts one record behind the list, or a request was refused. -/
theorem gaiAistruct_of_lists {gathering : Gathering} (lists : gathering.Lists list others)
    (hints : Hints) (family : Family) (addr : family.Addr) :
    ∃ rc next made, gaiAistruct granted hints family addr gathering = some (rc, next) ∧
      next.Lists made others ∧ next.canon = gathering.canon ∧
      gathering.heap.asked ≤ next.heap.asked ∧
      (rc = none ∧ made.map Placed.record = list.map Placed.record ++ [.new hints family addr] ∨
        rc = some .memory ∧ Refused granted gathering.heap next.heap) := by
  unfold gaiAistruct
  cases given : granted gathering.heap.asked with
  | false =>
      refine ⟨some .memory, { gathering with heap := gathering.heap.refuse }, list, ?_,
        ⟨lists.lists.refuse, lists.aihead, lists.ainext⟩, rfl, Nat.le_succ _,
        .inr ⟨rfl, refused_refuse given⟩⟩
      rw [alloc_refused given]
  | true =>
      have grown := Gathering.lists_push (lists.lists.grant (.info (hints.info family)))
      let bare : Placed := ⟨gathering.heap.asked, 0, 0, false,
        { Record.new hints family addr with aiAddrlen := 0, addr := none }⟩
      have beside : ({ gathering with heap := gathering.heap.grant (.info (hints.info family)) } :
          Gathering).Lists list ((bare.ai, .info (bare.info none)) ::
            (bare.addr.toList ++ bare.canonname.toList) ++ others) :=
        ⟨grown, lists.aihead, lists.ainext⟩
      obtain ⟨linked, link, lists, asked, canon⟩ := Gathering.link_of_lists beside
      obtain ⟨rc, next, made, attached, lists, canon', asked', outcome⟩ :=
        Gathering.attachAddr_of_lists granted lists rfl (show bare.record = _ from rfl)
      have later : gathering.heap.asked ≤ linked.heap.asked := by
        rw [asked]
        exact Nat.le_succ _
      refine ⟨rc, next, list ++ [made], ?_, lists, canon'.trans canon, later.trans asked', ?_⟩
      · rw [alloc_granted given]
        dsimp only
        rw [link]
        exact attached
      · refine outcome.imp (And.imp_right fun same => ?_) (And.imp_right fun refused => ?_)
        · rw [List.map_append, List.map_singleton, same]
        · exact refused.mono later (Nat.le_refl _)

end Asio.Network
