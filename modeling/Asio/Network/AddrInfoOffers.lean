import Asio.Network.AddrInfoPorts

/-! # The records that a service makes

The ports of a service are two at most, and two only when the hints leave the type open. What
`gai_port` makes of fresh records, called once for each port, is then each record with the first
port and a copy of it with the second.
-/

namespace Asio.Network

open CString Ip

namespace Record

variable (record : Record)

/-- A record is offered with the first port itself and with the others as a copy. -/
def offers : List (BitVec 16 × Int) → List Record
  | [] => [record]
  | port :: ports => record.ported port.1 port.2 ::
      ports.map fun port => record.cloned.ported port.1 port.2

/-- The record is as `gai_aistruct` leaves it. -/
structure Of (hints : Hints) : Prop where
  aiFlags : record.aiFlags = (hints.info record.aiFamily).aiFlags
  aiSocktype : record.aiSocktype = hints.aiSocktype
  sound : record.Sound

theorem of_new (hints : Hints) (family : Family) (addr : family.Addr) :
    (new hints family addr).Of hints := ⟨rfl, rfl, sound_new hints family addr⟩

variable {record} {hints : Hints} {number other : BitVec 16} {socktype othertype : Int}

/-- The records that may be cloned are those of hints that leave the type open. -/
theorem Of.flagged_iff (of : record.Of hints) :
    record.flagged = true ↔ hints.aiSocktype = 0 := by
  have set : (gaiCloneFlag &&& gaiCloneFlag != 0#32) = true := by decide
  have unset : ¬ (0#32 &&& gaiCloneFlag != 0#32) = true := by decide
  rw [flagged, of.aiFlags, Hints.info]
  by_cases zero : hints.aiSocktype = 0
  · rw [if_pos zero]
    exact iff_of_true set zero
  · rw [if_neg zero]
    exact iff_of_false unset zero

theorem Of.not_clones (of : record.Of hints) :
    ¬ (record.flagged = true ∧ record.aiSocktype ≠ 0) := by
  rintro ⟨flagged, typed⟩
  exact typed (of.aiSocktype.trans (of.flagged_iff.mp flagged))

/-- The first port is given to the record itself. -/
theorem Of.port_eq (of : record.Of hints)
    (fits : hints.aiSocktype ≠ 0 → socktype = hints.aiSocktype) :
    record.port number socktype = [record.ported number socktype] := by
  rw [port]
  by_cases zero : hints.aiSocktype = 0
  · rw [if_pos (of.flagged_iff.mpr zero), if_neg (not_not.mpr (of.aiSocktype.trans zero))]
  · rw [if_neg (mt of.flagged_iff.mp zero),
      if_neg (not_not.mpr (of.aiSocktype.trans (fits zero).symm))]

theorem Of.ports_eq (of : record.Of hints)
    (fits : hints.aiSocktype ≠ 0 → socktype = hints.aiSocktype) :
    record.ports socktype = record.aiFamily.hasPort.toNat := by
  rw [ports, if_pos]
  by_cases zero : hints.aiSocktype = 0
  · exact .inl (of.flagged_iff.mpr zero)
  · exact .inr (of.aiSocktype.trans (fits zero).symm)

/-- A port that was set before makes no difference to a copy. -/
theorem cloned_ported_ported :
    (record.ported number socktype).cloned.ported other othertype =
      record.cloned.ported other othertype := by
  have again (addr : SockAddr) : (addr.setPort number).setPort other = addr.setPort other := by
    cases addr <;> rfl
  cases port : record.aiFamily.hasPort with
  | false => simp only [ported, cloned, port, Bool.false_eq_true, if_false]
  | true =>
      simp only [ported, cloned, port, if_true, Option.map_map]
      congr 2
      funext addr
      exact again addr

/-- The second port is given to a copy. -/
theorem Of.port_ported (of : record.Of hints) (zero : hints.aiSocktype = 0)
    (typed : socktype ≠ 0) : (record.ported number socktype).port other othertype =
      [record.ported number socktype, record.cloned.ported other othertype] := by
  have flagged : (record.ported number socktype).flagged = true := of.flagged_iff.mpr zero
  rw [port, if_pos flagged, if_pos (show (record.ported number socktype).aiSocktype ≠ 0 from typed),
    cloned_ported_ported]

/-- The family stays the same. -/
theorem aiFamily_of_mem_port {made : Record} (member : made ∈ record.port number socktype) :
    made.aiFamily = record.aiFamily := by
  simp only [port] at member
  split at member
  · split at member
    · rcases List.mem_pair.mp member with rfl | rfl <;> rfl
    · rw [List.mem_singleton.mp member]
      rfl
  · split at member
    · rw [List.mem_singleton.mp member]
    · rw [List.mem_singleton.mp member]
      rfl

theorem ports_of_portless (portless : record.aiFamily.hasPort = false) :
    record.ports socktype = 0 := by
  rw [ports, portless]
  exact ite_self 0

end Record

/-- Ports as a service has them: a type that the hints name, or two at most. -/
structure FitPorts (hints : Hints) (ports : List (BitVec 16 × Int)) : Prop where
  typed : ∀ port ∈ ports, port.2 ≠ 0
  two : ports.length ≤ 2
  named : hints.aiSocktype ≠ 0 → ports.length ≤ 1 ∧ ∀ port ∈ ports, port.2 = hints.aiSocktype

/-- What is looked up is one port of the type, if it is looked up at all. -/
theorem lookedUp_one (asked : Prop) [Decidable asked] (answer : Option (BitVec 32))
    (socktype : Int) :
    (if asked then (answer.map fun port => (port.setWidth 16, socktype)).toList
      else ([] : List (BitVec 16 × Int))).length ≤ 1 ∧
    ∀ port ∈ (if asked then (answer.map fun port => (port.setWidth 16, socktype)).toList
      else ([] : List (BitVec 16 × Int))), port.2 = socktype ∧ asked := by
  by_cases holds : asked
  · rw [if_pos holds]
    cases answer with
    | none => exact ⟨Nat.zero_le _, by simp⟩
    | some number => exact ⟨Nat.le_refl _, by simp [holds]⟩
  · rw [if_neg holds]
    exact ⟨Nat.zero_le _, by simp⟩

theorem fitPorts_servicePorts (db : NetDb) (hints : Hints) (serv : Text) :
    FitPorts hints (servicePorts db hints serv) := by
  have stream : sockStream ≠ 0 := Int.one_ne_zero
  have dgram : sockDgram ≠ 0 := two_ne_zero
  rw [servicePorts]
  split
  · split
    · rename_i typed
      exact ⟨by simpa using typed, by simp, fun _ => by simp⟩
    · rename_i zero
      exact ⟨by simp [stream, dgram], by simp, fun typed => absurd typed zero⟩
  · have tcp := lookedUp_one (hints.aiSocktype = 0 ∨ hints.aiSocktype = sockStream)
      (db.getservbyname serv .tcp) sockStream
    have udp := lookedUp_one (hints.aiSocktype = 0 ∨ hints.aiSocktype = sockDgram)
      (db.getservbyname serv .udp) sockDgram
    revert tcp udp
    generalize (if hints.aiSocktype = 0 ∨ hints.aiSocktype = sockStream then
      ((db.getservbyname serv .tcp).map fun port => (port.setWidth 16, sockStream)).toList
      else []) = first
    generalize (if hints.aiSocktype = 0 ∨ hints.aiSocktype = sockDgram then
      ((db.getservbyname serv .udp).map fun port => (port.setWidth 16, sockDgram)).toList
      else []) = second
    intro tcp udp
    refine ⟨?_, ?_, fun typed => ⟨?_, ?_⟩⟩
    · intro port member
      rcases List.mem_append.mp member with inside | inside
      · rw [(tcp.2 port inside).1]
        exact stream
      · rw [(udp.2 port inside).1]
        exact dgram
    · rw [List.length_append]
      omega
    · rw [List.length_append]
      rcases List.eq_nil_or_concat' first with rfl | ⟨_, port, rfl⟩
      · rw [List.length_nil, Nat.zero_add]
        exact udp.1
      · rcases List.eq_nil_or_concat' second with rfl | ⟨_, other, rfl⟩
        · exact tcp.1
        · have named := (tcp.2 port (by simp)).2.resolve_left typed
          have other_named := (udp.2 other (by simp)).2.resolve_left typed
          exact absurd (named.symm.trans other_named) (by decide)
    · intro port member
      rcases List.mem_append.mp member with inside | inside
      · rw [(tcp.2 port inside).1, (tcp.2 port inside).2.resolve_left typed]
      · rw [(udp.2 port inside).1, (udp.2 port inside).2.resolve_left typed]

variable {hints : Hints} {records : List Record} {ports : List (BitVec 16 × Int)}

/-- A service offers each record for each of its ports. -/
theorem portsAll_eq (of : ∀ record ∈ records, record.Of hints) (fits : FitPorts hints ports) :
    portsAll records ports = records.flatMap fun record => record.offers ports := by
  have first {port : BitVec 16 × Int}
      (named : hints.aiSocktype ≠ 0 → port.2 = hints.aiSocktype) :
      portAll port.1 port.2 records = records.flatMap fun record =>
        [record.ported port.1 port.2] :=
    List.flatMap_congr fun record member => (of record member).port_eq named
  match ports, fits with
  | [], _ => exact (List.flatMap_singleton' records).symm
  | [port], fits =>
      exact first fun typed => (fits.named typed).2 port (List.mem_singleton_self _)
  | [port, other], fits =>
      have zero : hints.aiSocktype = 0 := by
        by_contra typed
        exact absurd (fits.named typed).1 (by simp)
      have named : hints.aiSocktype ≠ 0 → port.2 = hints.aiSocktype :=
        fun typed => absurd zero typed
      rw [portsAll, List.foldl_cons, List.foldl_cons, List.foldl_nil, first named, portAll,
        List.flatMap_assoc]
      refine List.flatMap_congr fun record member => ?_
      rw [List.flatMap_singleton, (of record member).port_ported zero
        (fits.typed port List.mem_cons_self)]
      rfl
  | _ :: _ :: _ :: _, fits => exact absurd fits.two (by simp)

/-- Records without a port have none set, whatever the ports are. -/
theorem countAll_of_portless (portless : ∀ record ∈ records, record.aiFamily.hasPort = false) :
    countAll records ports = 0 := by
  induction ports generalizing records with
  | nil => rfl
  | cons port ports ih =>
      have none : countPorts port.2 records = 0 := by
        rw [countPorts, List.sum_eq_zero_iff_forall_eq_nat]
        intro count member
        obtain ⟨record, inside, rfl⟩ := List.mem_map.mp member
        exact Record.ports_of_portless (portless record inside)
      rw [countAll, none, Nat.zero_add]
      apply ih
      intro made member
      obtain ⟨record, inside, made⟩ := List.mem_flatMap.mp member
      rw [Record.aiFamily_of_mem_port made]
      exact portless record inside

/-- No port is set when there is none, or nothing to set it in. -/
theorem countAll_eq_zero_iff (of : ∀ record ∈ records, record.Of hints)
    (fits : FitPorts hints ports) : countAll records ports = 0 ↔
      ports = [] ∨ ∀ record ∈ records, record.aiFamily.hasPort = false := by
  constructor
  · intro none
    cases ports with
    | nil => exact .inl rfl
    | cons port ports =>
        rw [countAll] at none
        have first := List.sum_eq_zero_iff_forall_eq_nat.mp (Nat.eq_zero_of_add_eq_zero_right none)
        refine .inr fun record member => ?_
        have zero := first _ (List.mem_map_of_mem member)
        rw [(of record member).ports_eq fun typed =>
          (fits.named typed).2 port List.mem_cons_self] at zero
        cases port : record.aiFamily.hasPort with
        | false => rfl
        | true =>
            rw [port] at zero
            cases zero
  · rintro (rfl | portless)
    · rfl
    · exact countAll_of_portless portless

/-- A copy is made for a second port only. -/
theorem two_ports_of_clones (of : ∀ record ∈ records, record.Of hints)
    {front back : List (BitVec 16 × Int)} {port : BitVec 16 × Int}
    (split : ports = front ++ port :: back) (clones : Clones (portsAll records front)) :
    2 ≤ ports.length := by
  cases front with
  | nil =>
      obtain ⟨record, member, made⟩ := clones
      exact absurd made (of record member).not_clones
  | cons first front =>
      rw [split, List.length_append, List.length_cons, List.length_cons]
      omega

end Asio.Network
