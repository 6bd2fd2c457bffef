import Asio.Network.AddrInfoOffers
import Asio.Network.GetAddrInfo

/-! # What the emulated `getaddrinfo` answers

`resolve` is the answer in values: what each search finds is gathered, the first record takes the
canonical name, and every record is offered for every port. The emulation makes that list, or
returns that error, unless a request for memory is refused; what it returns with an error has
been freed.
-/

namespace Asio.Network

open CString Ip OwnedHeap

/-- What a search finds: addresses, and the name that a host goes by. -/
structure Answer where
  found : List ((family : Family) × family.Addr)
  name : Option Text

/-- The answer for the text of an address, which is of no use to a search for the other family. -/
def numericAnswer (hints : Hints) (searched family : Family) (addr : family.Addr) :
    Except Eai Answer :=
  if hints.mismatch family then .error .family
  else .ok ⟨if searched = family then [⟨family, addr⟩] else [], none⟩

/-- The answer for a name. -/
def nameAnswer (db : NetDb) (hints : Hints) (searchCount : Nat) (search : Text × Family) :
    Except Eai Answer :=
  match db.gethostbyname search.1 search.2 with
  | (none, ec) => if searchCount = 2 then .ok ⟨[], none⟩ else .error (lookupError ec)
  | (some hent, _) =>
      if hints.mismatch hent.hAddrtype then .error .family
      else .ok ⟨hent.hAddrList.map fun addr => ⟨hent.hAddrtype, addr⟩,
        hent.hName.filter fun name => !name.isEmpty⟩

/-- What one search finds. -/
def answer (db : NetDb) (hints : Hints) (searchCount : Nat) (search : Text × Family) :
    Except Eai Answer :=
  match db.os.inetPton4 search.1 with
  | .ok inaddr => numericAnswer hints search.2 .inet inaddr
  | .error _ =>
      match db.os.inetPton search.1 with
      | .ok (in6addr, _) => numericAnswer hints search.2 .inet6 in6addr
      | .error _ => nameAnswer db hints searchCount search

/-- What the searches have found: a record for each address, and a name. -/
structure Gathered where
  records : List Record
  canon : Option Text

/-- What one more search adds. Only the first name counts, when one is asked for. -/
def Gathered.add (gathered : Gathered) (host : Option Text) (hints : Hints) (answer : Answer) :
    Gathered where
  records := gathered.records ++ answer.found.map fun found => .new hints found.1 found.2
  canon := if wantsName host hints then gathered.canon.or answer.name else gathered.canon

/-- What all searches find. -/
def gather (db : NetDb) (host : Option Text) (hints : Hints) (searchCount : Nat) :
    Gathered → List (Text × Family) → Except Eai Gathered
  | gathered, [] => .ok gathered
  | gathered, search :: searches =>
      match answer db hints searchCount search with
      | .error rc => .error rc
      | .ok answer => gather db host hints searchCount (gathered.add host hints answer) searches

/-- The records, the first one with the canonical name or the name of the host. -/
def Gathered.named (gathered : Gathered) (host : Option Text) (hints : Hints)
    (searches : List (Text × Family)) : Except Eai (List Record) :=
  match gathered.records with
  | [] => .error .noname
  | first :: records =>
      if wantsName host hints then
        .ok ({ first with canonname := gathered.canon.or (searches.head?.map Prod.fst) } :: records)
      else .ok (first :: records)

/-- The records for the service. -/
def serve (db : NetDb) (hints : Hints) (service : Option Text) (records : List Record) :
    Except Eai (List Record) :=
  if present service = true then
    let ports := servicePorts db hints (service.getD [])
    if ports = [] ∨ ∀ record ∈ records, record.aiFamily.hasPort = false then
      .error (if hints.aiSocktype = 0 then .noname else .service)
    else .ok (records.flatMap fun record => record.offers ports)
  else .ok records

/-- The records for the host. -/
def recordsFor (db : NetDb) (host : Option Text) (hints : Hints) : Except Eai (List Record) :=
  (gather db host hints (gaiNsearch host hints).length ⟨[], none⟩ (gaiNsearch host hints)).bind
    fun gathered => gathered.named host hints (gaiNsearch host hints)

/-- What `getaddrinfo` answers. -/
def resolve (db : NetDb) (host service : Option Text) (hintsp : Option Hints) :
    Except Eai (List Record) :=
  let hints := (hintsp.getD defaultHints).adjusted
  match gaiEcheck host service hints with
  | some rc => .error rc
  | none => (recordsFor db host hints).bind (serve db hints service)

/-! ## Steps that may be refused memory -/

/-- What a refused request is taken for. -/
def Blamed (rc : Eai) : Prop := rc = .memory ∨ rc = .family

/-- The variables and the heap hold what was gathered, and other objects. -/
def Gathering.Holds (gathering : Gathering) (gathered : Gathered) (others : List (Nat × Object)) :
    Prop :=
  ∃ (list : List Placed) (held : Option (Nat × Text)),
    gathering.Lists list ((held.map fun held => (held.1, Object.name held.2)).toList ++ others) ∧
    list.map Placed.record = gathered.records ∧ gathering.canon = held.map Prod.fst ∧
    gathered.canon = held.map Prod.snd

/-- A step ends as it should, or a request was refused and everything has been freed. -/
def Meets (granted : Nat → Bool) (others : List (Nat × Object)) (start : Heap)
    (result : Option (Except (Eai × Heap) Gathering)) (spec : Except Eai Gathered) : Prop :=
  match result with
  | none => False
  | some (.error (rc, heap)) => heap.Owns others ∧
      (spec = .error rc ∨ Blamed rc ∧ Refused granted start heap)
  | some (.ok gathering) => start.asked ≤ gathering.heap.asked ∧ ∃ gathered, spec = .ok gathered ∧
      gathering.Holds gathered others

variable {granted : Nat → Bool} {others : List (Nat × Object)} {start : Heap}
  {gathering : Gathering} {gathered : Gathered} {spec : Except Eai Gathered}

namespace Meets

theorem ok (later : start.asked ≤ gathering.heap.asked) (holds : gathering.Holds gathered others) :
    Meets granted others start (some (.ok gathering)) (.ok gathered) :=
  ⟨later, gathered, rfl, holds⟩

theorem mono {earlier : Heap} {result : Option (Except (Eai × Heap) Gathering)}
    (meets : Meets granted others start result spec) (sooner : earlier.asked ≤ start.asked) :
    Meets granted others earlier result spec := by
  rcases result with _ | ⟨rc, heap⟩ | gathering
  · exact meets
  · exact ⟨meets.1, meets.2.imp id (And.imp_right fun refused =>
      refused.mono sooner (Nat.le_refl _))⟩
  · exact ⟨sooner.trans meets.1, meets.2⟩

/-- A step that follows another one. -/
theorem andThen {first : Option (Except (Eai × Heap) Gathering)}
    {next : Gathering → Option (Except (Eai × Heap) Gathering)}
    (following : Gathered → Except Eai Gathered)
    (meets : Meets granted others start first spec)
    (onward : ∀ gathering gathered, gathering.Holds gathered others → spec = .ok gathered →
      Meets granted others gathering.heap (next gathering) (following gathered)) :
    Meets granted others start (Network.andThen first next) (spec.bind following) := by
  rcases first with _ | ⟨rc, heap⟩ | gathering
  · exact meets
  · refine ⟨meets.1, meets.2.imp_left ?_⟩
    rintro rfl
    rfl
  · obtain ⟨later, gathered, rfl, holds⟩ := meets
    exact (onward gathering gathered holds rfl).mono later

end Meets

/-- A request that is refused changes nothing of what is held. -/
theorem Gathering.Holds.refuse (holds : gathering.Holds gathered others) :
    ({ gathering with heap := gathering.heap.refuse } : Gathering).Holds gathered others := by
  obtain ⟨list, held, lists, records, canon, text⟩ := holds
  exact ⟨list, held, ⟨lists.lists.refuse, lists.aihead, lists.ainext⟩, records, canon, text⟩

/-- A name that was saved is freed. -/
theorem free_canon {heap : Heap} {held : Option (Nat × Text)} {objects : List (Nat × Object)}
    (owns : heap.Owns ((held.map fun held => (held.1, Object.name held.2)).toList ++ objects)) :
    ∃ next, heap.free (held.map Prod.fst) = some next ∧ next.Owns objects ∧
      next.asked = heap.asked := by
  obtain ⟨next, freed, owns, asked⟩ := owns.freeAll
  rw [Option.map_map] at freed
  exact ⟨next, freed, owns, asked⟩

/-- What is freed when an error is returned is all but the other objects. -/
theorem Gathering.Holds.fail (holds : gathering.Holds gathered others) (rc : Eai) :
    ∃ next, gathering.fail rc = some (.error (rc, next)) ∧ next.Owns others ∧
      next.asked = gathering.heap.asked := by
  obtain ⟨list, held, lists, -, canon, -⟩ := holds
  obtain ⟨middle, freed, owns, asked⟩ := freeaddrinfoEmulation_of_lists lists.lists
  obtain ⟨next, freed', owns, asked'⟩ := free_canon owns
  refine ⟨next, ?_, owns, asked'.trans asked⟩
  rw [Gathering.fail, lists.aihead, freed, canon]
  simp only [Option.bind_eq_bind, Option.bind_some, freed']
  rfl

namespace Meets

theorem fail (holds : gathering.Holds gathered others) (rc : Eai) :
    Meets granted others start (gathering.fail rc) (.error rc) := by
  obtain ⟨next, failed, owns, -⟩ := holds.fail rc
  rw [failed]
  exact ⟨owns, .inl rfl⟩

theorem refused {rc : Eai} (holds : gathering.Holds gathered others) (blamed : Blamed rc)
    (refused : Refused granted start gathering.heap) :
    Meets granted others start (gathering.fail rc) spec := by
  obtain ⟨next, failed, owns, asked⟩ := holds.fail rc
  rw [failed]
  exact ⟨owns, .inr ⟨blamed, refused.mono (Nat.le_refl _) (Nat.le_of_eq asked.symm)⟩⟩

end Meets

/-! ## The searches -/

variable (granted) (db : NetDb) (host : Option Text) (hints : Hints)

/-- One more record is gathered, or a request was refused. -/
theorem gaiAistruct_of_holds (holds : gathering.Holds gathered others) (family : Family)
    (addr : family.Addr) :
    ∃ rc next, gaiAistruct granted hints family addr gathering = some (rc, next) ∧
      gathering.heap.asked ≤ next.heap.asked ∧
      (rc = none ∧ next.Holds ⟨gathered.records ++ [.new hints family addr], gathered.canon⟩
          others ∨
        rc = some .memory ∧ Refused granted gathering.heap next.heap ∧
          ∃ gathered, next.Holds gathered others) := by
  obtain ⟨list, held, lists, records, canon, text⟩ := holds
  obtain ⟨rc, next, made, entered, lists, same, later, outcome⟩ :=
    gaiAistruct_of_lists lists hints family addr
  refine ⟨rc, next, entered, later, outcome.imp (And.imp_right fun added => ?_)
    (And.imp_right fun refused => ⟨refused, ?_⟩)⟩
  · exact ⟨made, held, lists, added.trans (by rw [records]), same.trans canon, text⟩
  · exact ⟨⟨made.map Placed.record, gathered.canon⟩, made, held, lists, rfl, same.trans canon, text⟩

theorem Gathered.add_nameless (found : List ((family : Family) × family.Addr)) :
    gathered.add host hints ⟨found, none⟩ =
      ⟨gathered.records ++ found.map fun found => .new hints found.1 found.2, gathered.canon⟩ := by
  rw [Gathered.add, Option.or_none, ite_self]

theorem addNumeric_meets (holds : gathering.Holds gathered others) (searched family : Family)
    (addr : family.Addr) :
    Meets granted others gathering.heap (addNumeric granted hints searched family addr gathering)
      ((numericAnswer hints searched family addr).map (gathered.add host hints)) := by
  rw [addNumeric, numericAnswer]
  by_cases mismatch : hints.mismatch family
  · rw [if_pos mismatch, if_pos mismatch]
    exact .fail holds _
  · rw [if_neg mismatch, if_neg mismatch, Except.map, Gathered.add_nameless]
    by_cases same : searched = family
    · rw [if_pos same, if_pos same]
      obtain ⟨rc, next, entered, later, outcome⟩ :=
        gaiAistruct_of_holds granted hints holds family addr
      rw [entered]
      rcases outcome with ⟨rfl, holds⟩ | ⟨rfl, refused, _, holds⟩
      · exact .ok later holds
      · exact .refused holds (.inl rfl) refused
    · rw [if_neg same, if_neg same]
      refine .ok (Nat.le_refl _) ?_
      rw [List.map_nil, List.append_nil]
      exact holds

theorem addHosts_meets {family : Family} (addrs : List family.Addr)
    (holds : gathering.Holds gathered others) :
    Meets granted others gathering.heap (addHosts granted hints family addrs gathering)
      (.ok ⟨gathered.records ++ addrs.map (Record.new hints family), gathered.canon⟩) := by
  induction addrs generalizing gathering gathered with
  | nil =>
      refine .ok (Nat.le_refl _) ?_
      rw [List.map_nil, List.append_nil]
      exact holds
  | cons addr addrs ih =>
      obtain ⟨rc, next, entered, later, outcome⟩ :=
        gaiAistruct_of_holds granted hints holds family addr
      rw [addHosts, entered]
      rcases outcome with ⟨rfl, holds⟩ | ⟨rfl, refused, _, holds⟩
      · have rest := (ih holds).mono later
        rw [List.append_assoc] at rest
        exact rest
      · exact .refused holds (.inr rfl) refused

/-- What a name is saved as. -/
def saved (gathered : Gathered) (hName : Option Text) : Option Text :=
  if wantsName host hints then gathered.canon.or (hName.filter fun name => !name.isEmpty)
  else gathered.canon

theorem saveCanon_meets (holds : gathering.Holds gathered others) (hName : Option Text) :
    Meets granted others gathering.heap (saveCanon granted host hints hName gathering)
      (.ok ⟨gathered.records, saved host hints gathered hName⟩) := by
  have kept := holds
  obtain ⟨list, held, lists, records, canon, text⟩ := holds
  rw [saveCanon, saved]
  by_cases saves : wantsName host hints ∧ present hName = true ∧ gathering.canon = none
  · obtain ⟨wants, there, missing⟩ := saves
    rw [if_pos ⟨wants, there, missing⟩, if_pos wants]
    obtain rfl : held = none := Option.map_eq_none_iff.mp (canon.symm.trans missing)
    cases hName with
    | none => cases there
    | some name =>
        cases given : granted gathering.heap.asked with
        | false =>
            rw [alloc_refused given]
            exact .refused kept.refuse (.inl rfl) (refused_refuse given)
        | true =>
            rw [alloc_granted given]
            have saved : gathered.canon.or (some name |>.filter fun name => !name.isEmpty) =
                some name := by
              rw [text, Option.map_none, Option.none_or, Option.filter_some,
                if_pos (show (!name.isEmpty) = true from there)]
            have grown := Gathering.lists_push (lists.lists.grant (.name name))
            rw [saved]
            exact .ok (Nat.le_succ _) ⟨list, some (gathering.heap.asked, name),
              ⟨grown, lists.aihead, lists.ainext⟩, records, rfl, rfl⟩
  · rw [if_neg saves]
    have same : (if wantsName host hints then
        gathered.canon.or (hName.filter fun name => !name.isEmpty) else gathered.canon) =
        gathered.canon := by
      by_cases wants : wantsName host hints
      · rw [if_pos wants]
        cases held with
        | some held => rw [text, Option.map_some, Option.some_or]
        | none =>
            cases hName with
            | none => rw [Option.filter_none, Option.or_none]
            | some name =>
                have absent : ¬ (!name.isEmpty) = true := fun there => saves ⟨wants, there, canon⟩
                rw [Option.filter_some, if_neg absent, Option.or_none]
      · rw [if_neg wants]
    rw [same]
    exact .ok (Nat.le_refl _) kept

theorem addLookedUp_meets (holds : gathering.Holds gathered others) (searchCount : Nat)
    (search : Text × Family) :
    Meets granted others gathering.heap
      (addLookedUp granted db host hints searchCount search.1 search.2 gathering)
      ((nameAnswer db hints searchCount search).map (gathered.add host hints)) := by
  rw [addLookedUp, nameAnswer]
  rcases db.gethostbyname search.1 search.2 with ⟨_ | hent, ec⟩
  · dsimp only
    by_cases two : searchCount = 2
    · rw [if_pos two, if_pos two, Except.map, Gathered.add_nameless]
      refine .ok (Nat.le_refl _) ?_
      rw [List.map_nil, List.append_nil]
      exact holds
    · rw [if_neg two, if_neg two]
      exact .fail holds _
  · dsimp only
    by_cases mismatch : hints.mismatch hent.hAddrtype
    · rw [if_pos mismatch, if_pos mismatch]
      exact .fail holds _
    · rw [if_neg mismatch, if_neg mismatch]
      have stepped := Meets.andThen (fun gathered => .ok ⟨gathered.records ++
          hent.hAddrList.map (Record.new hints hent.hAddrtype), gathered.canon⟩)
        (saveCanon_meets granted host hints holds hent.hName) fun gathering gathered holds _ => addHosts_meets granted hints hent.hAddrList holds
      refine Eq.mp (congrArg _ ?_) stepped
      rw [Except.map, Gathered.add, List.map_map]
      rfl

theorem searchHost_meets (holds : gathering.Holds gathered others) (searchCount : Nat)
    (search : Text × Family) :
    Meets granted others gathering.heap
      (searchHost granted db host hints searchCount search gathering)
      ((answer db hints searchCount search).map (gathered.add host hints)) := by
  rw [searchHost, answer]
  cases db.os.inetPton4 search.1 with
  | ok inaddr => exact addNumeric_meets granted host hints holds search.2 .inet inaddr
  | error _ =>
      dsimp only
      cases db.os.inetPton search.1 with
      | ok in6addr => exact addNumeric_meets granted host hints holds search.2 .inet6 in6addr.1
      | error _ => exact addLookedUp_meets granted db host hints holds searchCount search

theorem searchHosts_meets (searchCount : Nat) (searches : List (Text × Family))
    (holds : gathering.Holds gathered others) :
    Meets granted others gathering.heap
      (searchHosts granted db host hints searchCount searches gathering)
      (gather db host hints searchCount gathered searches) := by
  induction searches generalizing gathering gathered with
  | nil => exact .ok (Nat.le_refl _) holds
  | cons search searches ih =>
      have stepped := Meets.andThen
        (fun gathered => gather db host hints searchCount gathered searches)
        (searchHost_meets granted db host hints holds searchCount search) fun gathering gathered holds _ => ih holds
      rw [searchHosts, gather]
      cases found : answer db hints searchCount search with
      | error rc =>
          rw [found] at stepped
          exact stepped
      | ok answer =>
          rw [found] at stepped
          exact stepped

/-! ## The first record and the service -/

/-- The first record gets a name. -/
theorem lists_name {heap : Heap} {placed : Placed} {list : List Placed} {name : Nat} {text : Text}
    (lists : Lists heap (placed :: list) ((name, .name text) :: others))
    (nameless : placed.record.canonname = none) :
    Lists (heap.store placed.ai (.info { placed.info (headOf list) with aiCanonname := some name }))
      ({ placed with
        name
        record := { placed.record with canonname := some text } } :: list) others := by
  have owns := lists_middle_iff.mp (show Lists heap ([] ++ placed :: list) _ from lists)
  let changed : Placed := { placed with
    name
    record := { placed.record with canonname := some text } }
  change Lists _ ([] ++ changed :: list) others
  refine lists_middle_iff.mpr
    ((owns.store (.info (changed.info (headOf list)))).perm (List.Perm.cons _ ?_))
  have missing : placed.canonname = none := by rw [Placed.canonname, nameless]; rfl
  rw [missing]
  change ((placed.addr.toList ++ []) ++ (Cell.allBlocks none (list.map Placed.cell) ++
    (name, Object.name text) :: others)).Perm (placed.addr.toList ++ [(name, Object.name text)] ++
      (Cell.allBlocks none (list.map Placed.cell) ++ others))
  rw [List.append_nil, List.append_assoc placed.addr.toList]
  exact (List.perm_middle).append_left _

/-- The next record is linked in where it would be. -/
theorem slotOf_cons {made placed : Placed} (list : List Placed) (same : made.ai = placed.ai) :
    slotOf (made :: list) = slotOf (placed :: list) := by
  cases list with
  | nil =>
      rw [slotOf, slotOf, List.getLast?_singleton, List.getLast?_singleton]
      exact congrArg Slot.next same
  | cons other list => rw [slotOf, slotOf, List.getLast?_cons_cons, List.getLast?_cons_cons]

/-- All records are as they were made. -/
def Fresh (records : List Record) : Prop :=
  ∀ record ∈ records, record.Of hints ∧ record.canonname = none

theorem fresh_gather (searchCount : Nat) (searches : List (Text × Family)) {final : Gathered}
    (fresh : Fresh hints gathered.records)
    (found : gather db host hints searchCount gathered searches = .ok final) :
    Fresh hints final.records := by
  induction searches generalizing gathered with
  | nil =>
      cases found
      exact fresh
  | cons search searches ih =>
      rw [gather] at found
      split at found
      · cases found
      · refine ih ?_ found
        intro record member
        rcases List.mem_append.mp member with before | added
        · exact fresh record before
        · obtain ⟨one, -, rfl⟩ := List.mem_map.mp added
          exact ⟨Record.of_new hints one.1 one.2, rfl⟩

/-- A host that passes the checks is searched for. -/
theorem gaiNsearch_ne_nil {service : Option Text} (checked : gaiEcheck host service hints = none) :
    gaiNsearch host hints ≠ [] := by
  have handled : ∀ host6 host4, searchFamilies hints host6 host4 ≠ [] := by
    intro host6 host4
    rw [gaiEcheck] at checked
    rw [searchFamilies]
    cases family : hints.aiFamily with
    | unspec => exact List.cons_ne_nil _ _
    | inet => exact List.cons_ne_nil _ _
    | inet6 => exact List.cons_ne_nil _ _
    | other af =>
        rw [family] at checked
        split at checked <;> cases checked
  rw [gaiNsearch]
  split
  · exact handled _ _
  · split
    · exact handled _ _
    · exact handled _ _

theorem nameFirst_meets {searches : List (Text × Family)} (some_search : searches ≠ [])
    (holds : gathering.Holds gathered others) (fresh : Fresh hints gathered.records) :
    Meets granted others gathering.heap (nameFirst granted host hints searches gathering)
      ((gathered.named host hints searches).map fun records => ⟨records, none⟩) := by
  have kept := holds
  obtain ⟨list, held, lists, records, canon, text⟩ := holds
  cases list with
  | nil =>
      obtain ⟨next, freed, owns, -⟩ := free_canon lists.lists
      have head : gathering.aihead = none := lists.aihead
      rw [nameFirst, head, canon, Gathered.named, ← records]
      simp only [freed, Option.bind_eq_bind, Option.bind_some]
      exact ⟨owns, .inl rfl⟩
  | cons placed list =>
      have head : gathering.aihead = some placed.ai := lists.aihead
      have opened : gathered.records = placed.record :: list.map Placed.record := records.symm
      have nameless := (fresh placed.record (by rw [opened]; exact List.mem_cons_self)).2
      have read := readInfo_of_lists
        (show Lists gathering.heap ([] ++ placed :: list) _ from lists.lists)
      rw [nameFirst, head, Gathered.named, opened]
      dsimp only
      by_cases wants : wantsName host hints
      · rw [if_pos wants, if_pos wants, read]
        simp only [Option.bind_eq_bind, Option.bind_some]
        cases held with
        | some held =>
            rw [show gathering.canon = some held.1 from canon, text]
            have named := lists_name lists.lists nameless
            exact .ok (Nat.le_refl _)
              ⟨_, none, ⟨named, rfl, lists.ainext.trans (slotOf_cons list rfl)⟩, rfl, rfl, rfl⟩
        | none =>
            obtain ⟨search, searches, rfl⟩ := List.exists_cons_of_ne_nil some_search
            rw [show gathering.canon = none from canon, text]
            simp only [List.head?_cons, Option.bind_some]
            cases given : granted gathering.heap.asked with
            | false =>
                rw [alloc_refused given]
                have holds : ({ gathering with
                    aihead := some placed.ai
                    canon := none
                    heap := gathering.heap.refuse } : Gathering).Holds gathered others :=
                  ⟨placed :: list, none, ⟨lists.lists.refuse, rfl, lists.ainext⟩, records, rfl,
                    text⟩
                exact .refused holds (.inl rfl) (refused_refuse given)
            | true =>
                rw [alloc_granted given]
                have named := lists_name
                  (Gathering.lists_push (lists.lists.grant (.name search.1))) nameless
                exact .ok (Nat.le_succ _)
                  ⟨_, none, ⟨named, rfl, lists.ainext.trans (slotOf_cons list rfl)⟩, rfl, rfl, rfl⟩
      · rw [if_neg wants, if_neg wants]
        obtain ⟨next, freed, owns, asked⟩ :=
          free_canon (lists.lists.perm (List.perm_append_comm_assoc ..))
        rw [canon, freed]
        exact .ok (Nat.le_of_eq asked.symm)
          ⟨placed :: list, none, ⟨owns, rfl, lists.ainext⟩, rfl, rfl, rfl⟩

variable {host hints}

/-- A name makes no difference to the ports. -/
theorem of_named {searches : List (Text × Family)} {records : List Record}
    (fresh : Fresh hints gathered.records)
    (named : gathered.named host hints searches = .ok records) :
    ∀ record ∈ records, record.Of hints := by
  rw [Gathered.named] at named
  split at named
  · cases named
  · rename_i first rest opened
    rw [opened] at fresh
    have of := (fresh first List.mem_cons_self).1
    split at named
    · cases named
      intro record member
      rcases List.mem_cons.mp member with rfl | inside
      · exact ⟨of.aiFlags, of.aiSocktype, ⟨of.sound.addrlen_iff, of.sound.hasPort⟩⟩
      · exact (fresh record (List.mem_cons_of_mem _ inside)).1
    · cases named
      exact fun record member => (fresh record member).1

/-- The records get the ports of a service, or a request was refused. -/
theorem gaiServ_of_lists {heap : Heap} {list : List Placed} {service : Option Text}
    (lists : Lists heap list others) (of : ∀ record ∈ list.map Placed.record, record.Of hints)
    (asked : present service = true) :
    match gaiServ granted db (headOf list) hints (service.getD []) heap with
    | none => HalfGranted granted heap ∧ 2 ≤ (servicePorts db hints (service.getD [])).length
    | some (rc, next) => heap.asked ≤ next.asked ∧ ∃ made, Lists next made others ∧
        headOf made = headOf list ∧
        match rc with
        | none => serve db hints service (list.map Placed.record) = .ok (made.map Placed.record)
        | some rc => serve db hints service (list.map Placed.record) = .error rc ∨
            Blamed rc ∧ Refused granted heap next := by
  have fits := fitPorts_servicePorts db hints (service.getD [])
  have ported := gaiPorts_of_lists granted (servicePorts db hints (service.getD [])) 0 lists
    fun record member => (of record member).sound
  rw [gaiServ, serve, if_pos asked]
  rcases result : gaiPorts granted (headOf list) (servicePorts db hints (service.getD [])) 0 heap
    with _ | ⟨rc, next⟩
  · rw [result] at ported
    obtain ⟨half, front, port, back, split, clones⟩ := ported
    exact ⟨half, two_ports_of_clones of split clones⟩
  · rw [result] at ported
    obtain ⟨later, made, lists, head, ⟨rfl, refused⟩ | ⟨rfl, records⟩⟩ := ported
    · exact ⟨later, made, lists, head, .inr ⟨.inl rfl, refused⟩⟩
    · have zero_iff := countAll_eq_zero_iff of fits
      rw [portsAll_eq of fits] at records
      rw [Nat.zero_add, Option.bind_eq_bind, Option.bind_some]
      dsimp only
      by_cases none : countAll (list.map Placed.record)
          (servicePorts db hints (service.getD [])) = 0
      · rw [if_pos none, if_pos (zero_iff.mp none)]
        by_cases zero : hints.aiSocktype = 0
        · rw [if_pos zero, if_pos zero]
          exact ⟨later, made, lists, head, .inl rfl⟩
        · rw [if_neg zero, if_neg zero]
          exact ⟨later, made, lists, head, .inl rfl⟩
      · rw [if_neg none, if_neg (mt zero_iff.mpr none)]
        exact ⟨later, made, lists, head, congrArg Except.ok records.symm⟩

/-- The ports that are asked for. -/
def portsOf (db : NetDb) (service : Option Text) (hintsp : Option Hints) :
    List (BitVec 16 × Int) :=
  servicePorts db (hintsp.getD defaultHints).adjusted (service.getD [])

theorem of_recordsFor {records : List Record} (made : recordsFor db host hints = .ok records) :
    ∀ record ∈ records, record.Of hints := by
  rw [recordsFor] at made
  cases found : gather db host hints (gaiNsearch host hints).length ⟨[], none⟩
      (gaiNsearch host hints) with
  | error rc =>
      rw [found] at made
      cases made
  | ok gathered =>
      rw [found] at made
      have none_yet : Fresh hints (Gathered.records ⟨[], none⟩) := by
        intro record member
        cases member
      exact of_named (fresh_gather db host hints _ _ none_yet found) made

/-- The records for the host are made, and the first one is named. -/
theorem recordsFor_meets {service : Option Text} {heap : Heap} (owns : heap.Owns others)
    (checked : gaiEcheck host service hints = none) :
    Meets granted others heap
      (andThen (searchHosts granted db host hints (gaiNsearch host hints).length
        (gaiNsearch host hints) ⟨none, .head, none, heap⟩)
        (nameFirst granted host hints (gaiNsearch host hints)))
      ((recordsFor db host hints).map fun records => ⟨records, none⟩) := by
  have start : (⟨none, .head, none, heap⟩ : Gathering).Holds ⟨[], none⟩ others :=
    ⟨[], none, ⟨owns, rfl, rfl⟩, rfl, rfl, rfl⟩
  have none_yet : Fresh hints (Gathered.records ⟨[], none⟩) := by
    intro record member
    cases member
  have ended := Meets.andThen
    (fun gathered => (gathered.named host hints (gaiNsearch host hints)).map
      fun records => ⟨records, none⟩)
    (searchHosts_meets granted db host hints (gaiNsearch host hints).length
      (gaiNsearch host hints) start)
    fun gathering gathered holds found => nameFirst_meets granted host hints
      (gaiNsearch_ne_nil host hints checked) holds (fresh_gather db host hints _ _ none_yet found)
  rw [recordsFor]
  cases found : gather db host hints (gaiNsearch host hints).length ⟨[], none⟩
      (gaiNsearch host hints) with
  | error rc =>
      rw [found] at ended
      exact ended
  | ok gathered =>
      rw [found] at ended
      exact ended

/-- Databases that know one host, and a service of both types. -/
def someNetDb : NetDb where
  os := {
    inetPton4 := fun _ => .error none
    inetNtop4 := fun _ => .error none
    inetPton6 := fun _ => .error none
    inetNtop6 := fun _ => .error none
    ifNametoindex := fun _ => 0#32
    ifIndextoname := fun _ => none }
  gethostbynameR _ := (some ⟨some (ofChars ['h']), .inet, [1#32]⟩, none, none)
  getservbyname _ _ := some 80#32

end Asio.Network
