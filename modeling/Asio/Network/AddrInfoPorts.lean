import Asio.Network.AddrInfoList

/-! # Ports for the records

`gai_port` goes through the list and puts a copy of a record behind it that already has a port.
The copy is not met again. It goes wrong in one way only, when the record of a copy is granted
and its address is refused.
-/

namespace Asio.Network

open CString Ip OwnedHeap

variable {granted : Nat → Bool} {heap : Heap} {before after list : List Placed}
  {placed : Placed} {others : List (Nat × Object)} {number : BitVec 16} {socktype : Int}

/-- The record of a copy is granted, and its address is not. -/
def HalfGranted (granted : Nat → Bool) (heap : Heap) : Prop :=
  ∃ request, heap.asked ≤ request ∧ granted request = true ∧ granted (request + 1) = false

theorem HalfGranted.mono {next : Heap} (half : HalfGranted granted next)
    (later : heap.asked ≤ next.asked) : HalfGranted granted heap := by
  obtain ⟨request, least, given, denied⟩ := half
  exact ⟨request, later.trans least, given, denied⟩

namespace Placed

variable (placed)

/-- The placed record for a port and a type. -/
def ported (number : BitVec 16) (socktype : Int) : Placed :=
  { placed with record := placed.record.ported number socktype }

theorem addr_ported_of_hasPort {sock : SockAddr} (port : placed.record.aiFamily.hasPort = true)
    (there : placed.record.addr = some sock) :
    (placed.ported number socktype).addr = some (placed.ptr, .addr (sock.setPort number)) := by
  simp only [addr, ported, Record.ported, port, if_true, there, Option.map_some]

theorem addr_ported_of_not_hasPort (port : ¬ placed.record.aiFamily.hasPort = true) :
    (placed.ported number socktype).addr = placed.addr := by
  simp only [addr, ported, Record.ported, port, if_false, Bool.false_eq_true]

/-- The pointer to the address is the same. -/
theorem info_ported (number : BitVec 16) (link : Option Nat) : (placed.ported number socktype).info link =
    { placed.info link with aiSocktype := socktype } := by
  have pointer : (placed.ported number socktype).addr.map Prod.fst = placed.addr.map Prod.fst := by
    by_cases port : placed.record.aiFamily.hasPort = true
    · cases there : placed.record.addr with
      | none => simp only [addr, ported, Record.ported, port, if_true, there, Option.map_none]
      | some addr =>
          rw [placed.addr_ported_of_hasPort port there, Placed.addr, there]
          rfl
    · rw [placed.addr_ported_of_not_hasPort port]
  rw [info, pointer]
  rfl

end Placed

theorem setPort_of_lists (lists : Lists heap (before ++ placed :: after) others)
    (sound : placed.record.Sound) :
    ∃ next, setPort number socktype placed.ai heap = some next ∧ next.asked = heap.asked ∧
      Lists next (before ++ placed.ported number socktype :: after) others := by
  have owns := lists_middle_iff.mp lists
  have read := readInfo_of_owns owns
  have typed := owns.store (.info ((placed.ported number socktype).info (headOf after)))
  rw [setPort, read]
  simp only [Option.bind_eq_bind, Option.bind_some]
  rw [← placed.info_ported number]
  by_cases port : placed.record.aiFamily.hasPort = true
  · obtain ⟨addr, there⟩ := Option.ne_none_iff_exists'.mp (sound.hasPort port)
    have pointer : placed.addr = some (placed.ptr, .addr addr) := by rw [Placed.addr, there]
    have leads : (placed.info (headOf after)).aiAddr = some placed.ptr := by
      rw [Placed.info, pointer, Option.map_some]
    rw [pointer] at typed
    have followed := typed.read (List.mem_cons_of_mem _ List.mem_cons_self)
    have stored := (typed.perm (List.Perm.swap _ _ _)).store (.addr (addr.setPort number))
    refine ⟨_, ?_, ?_, lists_middle_iff.mpr ((stored.perm (List.Perm.swap _ _ _)).perm ?_)⟩
    · rw [if_pos (show (placed.info (headOf after)).aiFamily.hasPort = true from port), leads]
      simp only [Option.bind_some, readAddr, Option.bind_eq_bind, followed]
      rfl
    · rfl
    · rw [placed.addr_ported_of_hasPort port there]
      exact .of_eq rfl
  · refine ⟨_, if_neg port, rfl, lists_middle_iff.mpr (typed.perm ?_)⟩
    rw [placed.addr_ported_of_not_hasPort port]
    exact .of_eq rfl

/-! ## Copies -/

/-- A record that stands behind the one it is a copy of is in the list. -/
theorem lists_insert {made : Placed}
    (owns : heap.Owns ((placed.ai, .info (placed.info (some made.ai))) ::
      (made.ai, .info (made.info (headOf after))) :: (made.addr.toList ++
        made.canonname.toList) ++ ((placed.addr.toList ++ placed.canonname.toList) ++
          besides before placed after others))) :
    Lists heap (before ++ placed :: made :: after) others := by
  refine lists_middle_iff.mpr (owns.perm (List.Perm.cons _ ?_))
  refine List.perm_append_comm_assoc .. |>.trans (List.Perm.append_left _ ?_)
  refine List.perm_append_comm_assoc .. |>.trans (.of_eq ?_)
  simp only [besides, List.map_cons, Cell.allBlocks, Cell.blocks, List.append_assoc]
  rfl

/-- What is copied from the address of a record. -/
def Placed.copied (placed : Placed) : SockAddr := placed.record.addr.getD .nothing

/-- The block of a copy before it has an address. -/
def Placed.bareCopy (placed : Placed) (link : Option Nat) : AddrInfo :=
  { placed.info link with
    aiFlags := 0#32
    aiAddr := none
    aiCanonname := none }

theorem copyAddr_of_owns {objects : List (Nat × Object)} (sound : placed.record.Sound)
    (owns : heap.Owns objects) (held : placed.addr.toList ⊆ objects) (link : Option Nat) :
    copyAddr heap (placed.info link).aiAddr (placed.info link).aiAddrlen =
      some placed.copied := by
  rw [copyAddr, Placed.copied]
  by_cases size : (placed.info link).aiAddrlen = 0
  · rw [if_pos size, sound.addrlen_iff.mp size]
    rfl
  · obtain ⟨sock, there⟩ := Option.ne_none_iff_exists'.mp (mt sound.addrlen_iff.mpr size)
    have pointer : placed.addr = some (placed.ptr, .addr sock) := by rw [Placed.addr, there]
    have followed := owns.read (held (by rw [pointer]; exact List.mem_singleton_self _))
    have leads : (placed.info link).aiAddr = some placed.ptr := by
      rw [Placed.info, pointer, Option.map_some]
    rw [if_neg size, leads, there, readAddr, Option.bind_eq_bind, Option.bind_some, followed]
    rfl

variable (granted) in
/-- The copy of a record, of which the block is linked in but has no address, gets one. -/
theorem cloneAddr_of_owns {newAi : Nat} (sound : placed.record.Sound)
    (owns : heap.Owns ((placed.ai, .info (placed.info (some newAi))) ::
      (newAi, .info (placed.bareCopy (headOf after))) ::
        ((placed.addr.toList ++ placed.canonname.toList) ++
          besides before placed after others))) :
    match cloneAddr granted (placed.info (headOf after)) newAi heap with
    | none => granted heap.asked = false
    | some (none, _) => False
    | some (some ai, next) => heap.asked ≤ next.asked ∧ ∃ made : Placed, made.ai = ai ∧
        made.record = placed.record.cloned ∧
        Lists next (before ++ placed :: made :: after) others := by
  have held : placed.addr.toList ⊆ (placed.ai, .info (placed.info (some newAi))) ::
      (newAi, .info (placed.bareCopy (headOf after))) ::
        ((placed.addr.toList ++ placed.canonname.toList) ++
          besides before placed after others) := by
    intro object member
    exact List.mem_cons_of_mem _ (List.mem_cons_of_mem _
      (List.mem_append_left _ (List.mem_append_left _ member)))
  rw [cloneAddr, copyAddr_of_owns sound owns held, Option.bind_eq_bind, Option.bind_some]
  cases given : granted heap.asked with
  | false =>
      rw [alloc_refused given]
      by_cases size : (placed.info (headOf after)).aiAddrlen = 0
      · dsimp only
        rw [if_pos size]
        have missing := sound.addrlen_iff.mp size
        refine ⟨Nat.le_succ _, ⟨newAi, 0, 0, false, placed.record.cloned⟩, rfl, rfl, ?_⟩
        refine lists_insert (owns.refuse.perm (.of_eq ?_))
        simp only [Placed.info, Placed.addr, Placed.canonname, Record.cloned, missing]
        rfl
      · dsimp only
        rw [if_neg size]
  | true =>
      rw [alloc_granted given]
      have grown := (owns.grant (.addr placed.copied)).perm
        ((List.Perm.swap _ _ _).trans ((List.Perm.swap _ _ _).cons _))
      have read : readInfo (heap.grant (.addr placed.copied)) newAi =
          some (placed.bareCopy (headOf after)) :=
        readInfo_of_owns (grown.perm (List.Perm.swap _ _ _))
      have stored := ((grown.perm (List.Perm.swap _ _ _)).store
        (.info { placed.bareCopy (headOf after) with aiAddr := some heap.asked })).perm
        (List.Perm.swap _ _ _)
      dsimp only
      rw [read, Option.bind_eq_bind, Option.bind_some]
      refine ⟨Nat.le_succ _, ⟨newAi, heap.asked, 0, true, placed.record.cloned⟩, rfl, rfl, ?_⟩
      refine lists_insert (stored.perm (.of_eq ?_))
      cases there : placed.record.addr with
      | none =>
          simp only [Placed.info, Placed.addr, Placed.canonname, Record.cloned, there,
            Placed.copied]
          rfl
      | some sock =>
          simp only [Placed.info, Placed.addr, Placed.canonname, Record.cloned, there,
            Placed.copied]
          rfl

variable (granted) in
/-- `gai_clone` puts a copy behind a record, or a request was refused. There is no result when
that is the request for the address. -/
theorem gaiClone_of_lists (lists : Lists heap (before ++ placed :: after) others)
    (sound : placed.record.Sound) :
    match gaiClone granted placed.ai heap with
    | none => HalfGranted granted heap
    | some (none, next) => Refused granted heap next ∧
        Lists next (before ++ placed :: after) others
    | some (some newAi, next) => heap.asked ≤ next.asked ∧ ∃ made : Placed, made.ai = newAi ∧
        made.record = placed.record.cloned ∧
        Lists next (before ++ placed :: made :: after) others := by
  have owns := lists_middle_iff.mp lists
  have read := readInfo_of_owns owns
  cases given : granted heap.asked with
  | false =>
      rw [gaiClone, read, Option.bind_eq_bind, Option.bind_some, alloc_refused given]
      exact ⟨refused_refuse given, lists.refuse⟩
  | true =>
      have linked := ((owns.grant (.info (placed.bareCopy (headOf after)))).perm
        (List.Perm.swap _ _ _)).store (.info (placed.info (some heap.asked)))
      have copied := cloneAddr_of_owns granted sound linked
      have told : gaiClone granted placed.ai heap =
          cloneAddr granted (placed.info (headOf after)) heap.asked
            ((heap.grant (.info (placed.bareCopy (headOf after)))).store placed.ai
              (.info (placed.info (some heap.asked)))) := by
        rw [gaiClone, read, Option.bind_eq_bind, Option.bind_some, alloc_granted given]
        rfl
      rcases result : cloneAddr granted (placed.info (headOf after)) heap.asked
          ((heap.grant (.info (placed.bareCopy (headOf after)))).store placed.ai
            (.info (placed.info (some heap.asked)))) with _ | ⟨_ | newAi, next⟩
      · rw [result] at copied
        rw [told, result]
        exact ⟨heap.asked, Nat.le_refl _, given, copied⟩
      · rw [result] at copied
        exact copied.elim
      · rw [result] at copied
        rw [told, result]
        exact ⟨(Nat.le_succ _).trans copied.1, copied.2⟩

/-! ## `gai_port` -/

/-- A pass has given a record its port, or the copy behind it, and goes on behind both. -/
def PassedOn (number : BitVec 16) (socktype : Int) (before : List Placed) (placed : Placed)
    (after : List Placed) (others : List (Nat × Object)) (heap : Heap) (ai : Nat) (found : Bool)
    (next : Heap) : Prop :=
  heap.asked ≤ next.asked ∧ ∃ front last,
    Lists next (before ++ (front ++ last :: after)) others ∧ ai = last.ai ∧
    found.toNat = placed.record.ports socktype ∧
    (front ++ [last]).map Placed.record = placed.record.port number socktype ∧
    headOf (front ++ [last]) = some placed.ai

variable (number socktype) in
theorem portEntry_of_lists (lists : Lists heap (before ++ placed :: after) others)
    (sound : placed.record.Sound) (family : Family) :
    ∃ next, portEntry number socktype family placed.ai heap =
        some (some (placed.ai, family.hasPort), next) ∧ next.asked = heap.asked ∧
      Lists next (before ++ placed.ported number socktype :: after) others := by
  obtain ⟨next, set, asked, lists⟩ := setPort_of_lists lists sound
  refine ⟨next, ?_, asked, lists⟩
  rw [portEntry, set]
  rfl

/-- A record that is not cloned gets the port itself. -/
theorem passedOn_alone (lists : Lists heap (before ++ placed :: after) others)
    (sound : placed.record.Sound)
    (counted : placed.record.flagged = true ∨ placed.record.aiSocktype = socktype)
    (alone : placed.record.port number socktype = [placed.record.ported number socktype]) :
    ∃ next, portEntry number socktype placed.record.aiFamily placed.ai heap =
        some (some (placed.ai, placed.record.aiFamily.hasPort), next) ∧
      PassedOn number socktype before placed after others heap placed.ai
        placed.record.aiFamily.hasPort next := by
  obtain ⟨next, entered, asked, lists⟩ :=
    portEntry_of_lists number socktype lists sound placed.record.aiFamily
  refine ⟨next, entered, Nat.le_of_eq asked.symm, [], placed.ported number socktype, lists, rfl,
    ?_, alone.symm, rfl⟩
  rw [Record.ports, if_pos counted]

variable (granted number socktype) in
/-- One record, of which a copy may be put behind it, gets a port and a type. -/
theorem portRecord_of_lists (lists : Lists heap (before ++ placed :: after) others)
    (sound : placed.record.Sound) :
    match portRecord granted number socktype placed.ai heap with
    | none => placed.record.flagged = true ∧ placed.record.aiSocktype ≠ 0 ∧
        HalfGranted granted heap
    | some (none, next) => Refused granted heap next ∧
        Lists next (before ++ placed :: after) others
    | some (some (ai, found), next) =>
        PassedOn number socktype before placed after others heap ai found next := by
  have read := readInfo_of_lists lists
  have family : (placed.info (headOf after)).aiFamily = placed.record.aiFamily := rfl
  rw [portRecord, read]
  simp only [Option.bind_eq_bind, Option.bind_some, family]
  by_cases flagged : placed.record.flagged = true
  · have flag : (placed.info (headOf after)).aiFlags &&& gaiCloneFlag ≠ 0#32 :=
      bne_iff_ne.mp flagged
    rw [if_pos flag]
    by_cases typed : placed.record.aiSocktype ≠ 0
    · rw [if_pos (show (placed.info (headOf after)).aiSocktype ≠ 0 from typed)]
      have copied := gaiClone_of_lists granted lists sound
      rcases result : gaiClone granted placed.ai heap with _ | ⟨_ | newAi, next⟩
      · rw [result] at copied
        exact ⟨flagged, typed, copied⟩
      · rw [result] at copied
        exact copied
      · rw [result] at copied
        obtain ⟨later, made, rfl, cloned, lists⟩ := copied
        rw [List.append_cons] at lists
        have soundMade : made.record.Sound := by
          rw [cloned]
          exact sound.cloned
        obtain ⟨last, entered, asked, lists⟩ :=
          portEntry_of_lists number socktype lists soundMade placed.record.aiFamily
        dsimp only [Option.bind_some]
        rw [entered]
        refine ⟨later.trans (Nat.le_of_eq asked.symm), [placed],
          made.ported number socktype, ?_, rfl, ?_, ?_, rfl⟩
        · rw [← List.append_cons] at lists
          exact lists
        · rw [Record.ports, if_pos (.inl flagged)]
        · rw [Record.port, if_pos flagged, if_pos typed, ← cloned]
          rfl
    · rw [if_neg (show ¬ (placed.info (headOf after)).aiSocktype ≠ 0 from typed)]
      have alone : placed.record.port number socktype = [placed.record.ported number socktype] := by
        rw [Record.port, if_pos flagged, if_neg typed]
      obtain ⟨next, entered, passed⟩ := passedOn_alone lists sound (.inl flagged) alone
      rw [entered]
      exact passed
  · have flag : ¬ (placed.info (headOf after)).aiFlags &&& gaiCloneFlag ≠ 0#32 :=
      fun set => flagged (bne_iff_ne.mpr set)
    rw [if_neg flag]
    by_cases typed : placed.record.aiSocktype ≠ socktype
    · rw [if_pos (show (placed.info (headOf after)).aiSocktype ≠ socktype from typed)]
      refine ⟨Nat.le_refl _, [], placed, lists, rfl, ?_, ?_, rfl⟩
      · rw [Record.ports, if_neg (not_or.mpr ⟨flagged, typed⟩)]
        rfl
      · rw [Record.port, if_neg flagged, if_pos typed]
        rfl
    · rw [if_neg (show ¬ (placed.info (headOf after)).aiSocktype ≠ socktype from typed)]
      have alone : placed.record.port number socktype = [placed.record.ported number socktype] := by
        rw [Record.port, if_neg flagged, if_neg typed]
      obtain ⟨next, entered, passed⟩ :=
        passedOn_alone lists sound (.inr (not_not.mp typed)) alone
      rw [entered]
      exact passed

/-- The copies of some records would be made, so one of them may be half granted. -/
def Clones (records : List Record) : Prop :=
  ∃ record ∈ records, record.flagged = true ∧ record.aiSocktype ≠ 0

/-- What `gai_port` makes of the records. -/
def portAll (number : BitVec 16) (socktype : Int) (records : List Record) : List Record :=
  records.flatMap fun record => record.port number socktype

/-- How many ports `gai_port` sets. -/
def countPorts (socktype : Int) (records : List Record) : Nat :=
  (records.map fun record => record.ports socktype).sum

variable (granted number socktype) in
/-- The records from some record on get their ports, unless a request is refused. -/
theorem evaluate_gaiPortPass {passes : Nat} (found : Nat) (lists : Lists heap (before ++ list) others)
    (sound : ∀ placed ∈ list, placed.record.Sound) (enough : list.length < passes) :
    match Loop.evaluate (gaiPortPass granted number socktype) passes
        (headOf list, found, heap) with
    | none => Clones (list.map Placed.record) ∧ HalfGranted granted heap
    | some (rc, next) => heap.asked ≤ next.asked ∧ ∃ made, Lists next (before ++ made) others ∧
        headOf made = headOf list ∧
        (rc = none ∧ Refused granted heap next ∨
          rc = some (found + countPorts socktype (list.map Placed.record)) ∧
          made.map Placed.record = portAll number socktype (list.map Placed.record)) := by
  induction list generalizing before heap found passes with
  | nil =>
      obtain ⟨passes, rfl⟩ := Nat.exists_eq_succ_of_ne_zero (Nat.ne_of_gt enough)
      exact ⟨Nat.le_refl _, [], lists, rfl, .inr ⟨rfl, rfl⟩⟩
  | cons placed list ih =>
      obtain ⟨passes, rfl⟩ := Nat.exists_eq_succ_of_ne_zero (Nat.ne_zero_of_lt enough)
      have head : headOf (placed :: list) = some placed.ai := rfl
      have entered := portRecord_of_lists granted number socktype lists
        (sound placed List.mem_cons_self)
      rw [Loop.evaluate, head, gaiPortPass]
      rcases result : portRecord granted number socktype placed.ai heap with
        _ | ⟨_ | ⟨ai, counted⟩, next⟩
      · rw [result] at entered
        exact ⟨⟨placed.record, List.mem_cons_self, entered.1, entered.2.1⟩, entered.2.2⟩
      · rw [result] at entered
        obtain ⟨refused, lists⟩ := entered
        exact ⟨refused.later, placed :: list, lists, rfl, .inl ⟨rfl, refused⟩⟩
      · rw [result] at entered
        obtain ⟨later, front, last, lists, rfl, counts, records, first⟩ := entered
        rw [← List.append_assoc] at lists
        have read := readInfo_of_lists lists
        rw [List.append_cons] at lists
        dsimp only
        rw [read]
        have rest := ih (found + counted.toNat) lists
          (fun placed member => sound placed (List.mem_cons_of_mem _ member))
          (Nat.lt_of_succ_lt_succ enough)
        dsimp only [Placed.info]
        rcases ended : Loop.evaluate (gaiPortPass granted number socktype) passes
            (headOf list, found + counted.toNat, next) with _ | ⟨rc, final⟩
        · rw [ended] at rest
          obtain ⟨⟨record, member, clones⟩, half⟩ := rest
          exact ⟨⟨record, List.mem_cons_of_mem _ member, clones⟩, half.mono later⟩
        · rw [ended] at rest
          obtain ⟨later', made, lists, -, outcome⟩ := rest
          refine ⟨later.trans later', front ++ [last] ++ made, ?_, ?_,
            outcome.imp (And.imp_right fun refused => refused.mono later (Nat.le_refl _)) ?_⟩
          · rw [List.append_assoc before] at lists
            rwa [List.append_assoc before] at lists
          · rw [← first]
            cases front <;> rfl
          · rintro ⟨rfl, same⟩
            refine ⟨?_, ?_⟩
            · rw [List.map_cons, countPorts, countPorts, List.map_cons, List.sum_cons, counts,
                Nat.add_assoc]
            · rw [List.map_append, records, same]
              rfl

variable (granted number socktype) in
/-- `gai_port` gives all records their ports, unless a request is refused. -/
theorem gaiPort_of_lists (lists : Lists heap list others)
    (sound : ∀ placed ∈ list, placed.record.Sound) :
    match gaiPort granted (headOf list) number socktype heap with
    | none => Clones (list.map Placed.record) ∧ HalfGranted granted heap
    | some (rc, next) => heap.asked ≤ next.asked ∧ ∃ made, Lists next made others ∧
        headOf made = headOf list ∧
        (rc = none ∧ Refused granted heap next ∨
          rc = some (countPorts socktype (list.map Placed.record)) ∧
          made.map Placed.record = portAll number socktype (list.map Placed.record)) := by
  have ended := evaluate_gaiPortPass granted number socktype 0
    (show Lists heap ([] ++ list) others from lists) sound
    (Nat.lt_succ_of_le (length_le_of_lists lists))
  rw [Nat.zero_add] at ended
  exact ended

/-! ## Several ports -/

/-- What `gai_port` makes of the records when it is called for each port. -/
def portsAll (records : List Record) (ports : List (BitVec 16 × Int)) : List Record :=
  ports.foldl (fun records port => portAll port.1 port.2 records) records

/-- How many ports are set when `gai_port` is called for each port. -/
def countAll : List Record → List (BitVec 16 × Int) → Nat
  | _, [] => 0
  | records, port :: ports =>
      countPorts port.2 records + countAll (portAll port.1 port.2 records) ports

theorem sound_portAll {records : List Record} (sound : ∀ record ∈ records, record.Sound) :
    ∀ record ∈ portAll number socktype records, record.Sound := by
  intro made member
  obtain ⟨record, inside, made⟩ := List.mem_flatMap.mp member
  exact (sound record inside).port _ made

variable (granted) in
/-- The records get all ports, unless a request is refused. -/
theorem gaiPorts_of_lists (ports : List (BitVec 16 × Int)) (found : Nat)
    (lists : Lists heap list others)
    (sound : ∀ record ∈ list.map Placed.record, record.Sound) :
    match gaiPorts granted (headOf list) ports found heap with
    | none => HalfGranted granted heap ∧ ∃ front port back, ports = front ++ port :: back ∧
        Clones (portsAll (list.map Placed.record) front)
    | some (rc, next) => heap.asked ≤ next.asked ∧ ∃ made, Lists next made others ∧
        headOf made = headOf list ∧
        (rc = .error .memory ∧ Refused granted heap next ∨
          rc = .ok (found + countAll (list.map Placed.record) ports) ∧
          made.map Placed.record = portsAll (list.map Placed.record) ports) := by
  induction ports generalizing heap list found with
  | nil => exact ⟨Nat.le_refl _, list, lists, rfl, .inr ⟨rfl, rfl⟩⟩
  | cons port ports ih =>
      have ported := gaiPort_of_lists granted port.1 port.2 lists
        fun placed member => sound _ (List.mem_map_of_mem member)
      rw [gaiPorts]
      rcases result : gaiPort granted (headOf list) port.1 port.2 heap with _ | ⟨_ | rc, next⟩
      · rw [result] at ported
        exact ⟨ported.2, [], port, ports, rfl, ported.1⟩
      · rw [result] at ported
        obtain ⟨later, made, lists, head, ⟨-, refused⟩ | ⟨absurd, -⟩⟩ := ported
        · exact ⟨later, made, lists, head, .inl ⟨rfl, refused⟩⟩
        · cases absurd
      · rw [result] at ported
        obtain ⟨later, made, lists, head, ⟨absurd, -⟩ | ⟨counted, records⟩⟩ := ported
        · cases absurd
        · cases counted
          have rest := ih (found + countPorts port.2 (list.map Placed.record)) lists (by
            rw [records]
            exact sound_portAll sound)
          rw [head, records] at rest
          simp only [Option.bind_eq_bind, Option.bind_some]
          rcases ended : gaiPorts granted (headOf list) ports
              (found + countPorts port.2 (list.map Placed.record)) next with _ | ⟨rc, final⟩
          · rw [ended] at rest
            obtain ⟨half, front, other, back, rfl, clones⟩ := rest
            exact ⟨half.mono later, port :: front, other, back, rfl, clones⟩
          · rw [ended] at rest
            obtain ⟨later', final, lists, head', outcome⟩ := rest
            refine ⟨later.trans later', final, lists, head', outcome.imp
              (And.imp_right fun refused => refused.mono later (Nat.le_refl _)) ?_⟩
            rw [Nat.add_assoc]
            exact id

end Asio.Network
