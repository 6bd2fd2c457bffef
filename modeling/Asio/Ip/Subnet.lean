import Asio.Ip.Netmask
import Asio.Ip.NetworkV6
import Asio.Lib.Cylinder

/-! # Subnets

A network covers the addresses that agree with its address in the bits of the prefix. One
network is a subnet of another when it covers some of those addresses, not all of them; the
code compares the canonical networks of the shorter prefix.
-/

namespace Asio.Ip

open BigEndian (leadingMask leadingBits bitAt)

namespace Network

variable {Address Kind : Type} {bits : Nat}

/-- `operator==`. -/
def equals [BEq Address] (a b : Network Address bits) : Bool :=
  a.address == b.address && a.prefixLength == b.prefixLength

/-- `is_subnet_of`, with `canonical` of the family. -/
def isSubnetOf [BEq Address]
    (canonical : Network Address bits → Except Exception (Network Address bits))
    (net other : Network Address bits) : Except Exception Bool :=
  if other.prefixLength ≥ net.prefixLength then .ok false
  else do
    let me ← (make bits net.address other.prefixLength).mapError .outOfRange
    let canonicalOther ← canonical other
    let canonicalMe ← canonical me
    return canonicalOther.equals canonicalMe

/-- The addresses that a network covers. -/
def covered (reading : Reading Address Kind bits) (net : Network Address bits) : Set Address :=
  reading.cylinder net.prefixLength net.address

/-- A network address has the bits of the prefix, and none behind it. -/
structure Clears (reading : Reading Address Kind bits)
    (network : Network Address bits → Address) : Prop where
  kind : ∀ net, reading.kind (network net) = reading.kind net.address
  bit : ∀ net, ∀ place < bits, reading.bit (network net) place =
    (reading.bit net.address place && decide (place < net.prefixLength))

/-- The network with the network address. -/
def onNetwork (network : Network Address bits → Address) (net : Network Address bits) :
    Network Address bits where
  address := network net
  prefixLength := net.prefixLength
  prefixLength_le := net.prefixLength_le

/-- What a family of networks answers of the addresses that they cover. -/
structure Exact (reading : Reading Address Kind bits) (network : Network Address bits → Address)
    (canonical : Network Address bits → Except Exception (Network Address bits))
    (isSubnetOf : Network Address bits → Network Address bits → Except Exception Bool) :
    Prop where
  clears : Clears reading network
  canonical_exact : ∀ net, ∃ canon, canonical net = .ok canon ∧ canonical canon = .ok canon ∧
    covered reading canon = covered reading net
  isSubnetOf_exact : ∀ net other, ∃ answer, isSubnetOf net other = .ok answer ∧
    (answer = true ↔ covered reading net ⊆ covered reading other ∧
      covered reading net ≠ covered reading other)

variable {reading : Reading Address Kind bits} {network : Network Address bits → Address}
  {canonical : Network Address bits → Except Exception (Network Address bits)}

theorem make_eq_ok (net : Network Address bits) :
    make bits net.address net.prefixLength = .ok net :=
  make_eq_ok_iff.mpr ⟨rfl, rfl⟩

theorem Clears.agree (clears : Clears reading network) (net : Network Address bits) :
    reading.Agree net.prefixLength (network net) net.address := by
  refine ⟨clears.kind net, ?_⟩
  intro place leads
  rw [clears.bit net place (leads.trans_le net.prefixLength_le), decide_eq_true leads,
    Bool.and_true]

/-- Two networks of one prefix length have the same network address when they cover the same
addresses. -/
theorem Clears.network_eq_iff (clears : Clears reading network) {net other : Network Address bits}
    (same : net.prefixLength = other.prefixLength) :
    network net = network other ↔ reading.Agree net.prefixLength net.address other.address := by
  constructor
  · intro equal
    have agree := (clears.agree net).symm
    rw [equal] at agree
    have agree' := clears.agree other
    rw [← same] at agree'
    exact agree.trans agree'
  · rintro ⟨kind, agree⟩
    apply reading.ext
    · rw [clears.kind, clears.kind, kind]
    · intro place inside
      rw [clears.bit net place inside, clears.bit other place inside, same]
      by_cases leads : place < other.prefixLength
      · rw [agree place (same ▸ leads)]
      · rw [decide_eq_false leads, Bool.and_false, Bool.and_false]

theorem Clears.network_onNetwork (clears : Clears reading network) (net : Network Address bits) :
    network (onNetwork network net) = network net := by
  have same : (onNetwork network net).prefixLength = net.prefixLength := rfl
  exact (clears.network_eq_iff same).mpr (clears.agree net)

theorem Clears.canonical_exact (clears : Clears reading network)
    (is_canonical : ∀ net, canonical net = .ok (onNetwork network net))
    (net : Network Address bits) :
    ∃ canon, canonical net = .ok canon ∧ canonical canon = .ok canon ∧
      covered reading canon = covered reading net := by
  refine ⟨onNetwork network net, is_canonical net, ?_, ?_⟩
  · rw [is_canonical, onNetwork, clears.network_onNetwork]
    rfl
  · exact Reading.cylinder_eq (clears.agree net)

/-- The canonical networks of the shorter prefix are compared. -/
theorem isSubnetOf_of_lt [BEq Address]
    (is_canonical : ∀ net, canonical net = .ok (onNetwork network net))
    {net other : Network Address bits} (less : other.prefixLength < net.prefixLength) :
    isSubnetOf canonical net other = .ok ((onNetwork network other).equals
      (onNetwork network ⟨net.address, other.prefixLength, other.prefixLength_le⟩)) := by
  have made := make_eq_ok ⟨net.address, other.prefixLength, other.prefixLength_le⟩
  dsimp only at made
  unfold isSubnetOf
  rw [if_neg (Nat.not_le.mpr less), made, is_canonical]
  change Except.bind (canonical _) _ = _
  rw [is_canonical]
  rfl

theorem Clears.isSubnetOf_exact [BEq Address] [LawfulBEq Address]
    (clears : Clears reading network)
    (is_canonical : ∀ net, canonical net = .ok (onNetwork network net))
    (net other : Network Address bits) :
    ∃ answer, isSubnetOf canonical net other = .ok answer ∧
      (answer = true ↔ covered reading net ⊆ covered reading other ∧
        covered reading net ≠ covered reading other) := by
  rw [covered, covered, Reading.cylinder_proper_iff net.prefixLength_le]
  by_cases less : other.prefixLength < net.prefixLength
  · refine ⟨_, isSubnetOf_of_lt is_canonical less, ?_⟩
    have same : (other.prefixLength == other.prefixLength) = true := beq_iff_eq.mpr rfl
    rw [and_iff_right less, equals, Bool.and_eq_true, beq_iff_eq]
    exact (and_iff_left same).trans (eq_comm.trans (clears.network_eq_iff rfl))
  · have not_subnet : isSubnetOf canonical net other = .ok false := if_pos (Nat.not_lt.mp less)
    refine ⟨false, not_subnet, ?_⟩
    exact iff_of_false Bool.false_ne_true fun proper => less proper.1

/-- A family whose network addresses are cleared, and whose canonical networks have them, is
exact. -/
theorem Clears.exact [BEq Address] [LawfulBEq Address] (clears : Clears reading network)
    (is_canonical : ∀ net, canonical net = .ok (onNetwork network net)) :
    Exact reading network canonical (isSubnetOf canonical) where
  clears := clears
  canonical_exact := clears.canonical_exact is_canonical
  isSubnetOf_exact := clears.isSubnetOf_exact is_canonical

end Network

/-- The bits of an IPv4 address. -/
def AddressV4.reading : Reading AddressV4 Unit 32 where
  kind _ := ()
  bit addr place := addr.toUint.getMsbD place
  ext {addr other} _ same := by
    cases addr
    cases other
    exact congrArg _ (BitVec.eq_of_getMsbD_eq same)
  flip addr place inside := by
    refine ⟨⟨BigEndian.flipAt addr.toUint place⟩, rfl, ?_, ?_⟩
    · rw [BigEndian.getMsbD_flipAt _ inside (Nat.le_refl _), decide_eq_true rfl]
      cases addr.toUint.getMsbD place <;> decide
    · intro before less
      rw [BigEndian.getMsbD_flipAt _ inside less.le, decide_eq_false less.ne, Bool.xor_false]

/-- The scope of an IPv6 address, and its bits. -/
def AddressV6.reading : Reading AddressV6 (BitVec 64) 128 where
  kind addr := addr.scopeId
  bit addr place := bitAt addr.bytes place
  ext {addr other} scope same := by
    have bytes : addr.bytes = other.bytes := by
      apply BigEndian.bitAt_ext
      · rw [addr.length_bytes, other.length_bytes]
      · rw [addr.length_bytes]
        exact same
    cases addr
    cases other
    dsimp only at scope bytes
    subst scope bytes
    rfl
  flip addr place inside := by
    have fits : place < 8 * addr.bytes.length := by
      rw [addr.length_bytes]
      exact inside
    obtain ⟨bytes, length, differs, before⟩ := BigEndian.exists_bitAt_flip addr.bytes fits
    exact ⟨⟨bytes, length.trans addr.length_bytes, addr.scopeId⟩, rfl, differs, before⟩

namespace NetworkV4

/-- `canonical`. -/
def canonical (net : NetworkV4) : Except Exception NetworkV4 := ofMask net.network net.netmask

/-- `is_subnet_of`. -/
def isSubnetOf (net other : NetworkV4) : Except Exception Bool :=
  Network.isSubnetOf canonical net other

theorem clears : Network.Clears AddressV4.reading network where
  kind _ := rfl
  bit net place _ := by
    change (net.address.toUint &&& (netmask net).toUint).getMsbD place = _
    rw [netmask_eq, BitVec.getMsbD_and, BigEndian.getMsbD_leadingMask net.prefixLength_le]
    rfl

theorem canonical_eq (net : NetworkV4) :
    net.canonical = .ok (Network.onNetwork network net) :=
  ofMask_eq_ok_iff.mpr ⟨rfl, rfl⟩

/-- The broadcast address has the bits of the prefix, and all behind it. -/
theorem bit_broadcast (net : NetworkV4) {place : Nat} (inside : place < 32) :
    AddressV4.reading.bit net.broadcast place =
      (AddressV4.reading.bit net.address place || decide (net.prefixLength ≤ place)) := by
  have complement (mask : BitVec 32) : mask ^^^ 0xFFFFFFFF#32 = ~~~mask := BitVec.xor_allOnes
  have behind : decide (net.prefixLength ≤ place) = !decide (place < net.prefixLength) := by
    rw [← decide_not, decide_eq_decide, Nat.not_lt]
  change net.broadcast.toUint.getMsbD place = (net.address.toUint.getMsbD place || _)
  rw [broadcast, network, complement, netmask_eq, BigEndian.and_or_not, BitVec.getMsbD_or,
    BitVec.getMsbD_not, BigEndian.getMsbD_leadingMask net.prefixLength_le, decide_eq_true inside,
    Bool.true_and, behind]

/-- The masks whose ones lead are those of a prefix length. -/
theorem exists_netmask_iff {mask : AddressV4} :
    (∃ net : NetworkV4, net.netmask = mask) ↔ ∃ bits ≤ 32, ∀ place < 32,
      AddressV4.reading.bit mask place = decide (place < bits) := by
  constructor
  · rintro ⟨net, rfl⟩
    refine ⟨net.prefixLength, net.prefixLength_le, ?_⟩
    intro place _
    change net.netmask.toUint.getMsbD place = _
    rw [netmask_eq, BigEndian.getMsbD_leadingMask net.prefixLength_le]
  · rintro ⟨bits, within, leads⟩
    refine ⟨⟨mask, bits, within⟩, ?_⟩
    refine AddressV4.reading.ext (Eq.refl ()) ?_
    intro place inside
    rw [leads place inside]
    change (netmask ⟨mask, bits, within⟩).toUint.getMsbD place = _
    rw [netmask_eq, BigEndian.getMsbD_leadingMask within]

/-- The constructor takes the masks whose ones lead, and no other. -/
theorem exists_ofMask_eq_ok_iff {addr mask : AddressV4} :
    (∃ net, ofMask addr mask = .ok net) ↔ ∃ bits ≤ 32, ∀ place < 32,
      AddressV4.reading.bit mask place = decide (place < bits) := by
  rw [← exists_netmask_iff]
  constructor
  · rintro ⟨net, made⟩
    exact ⟨net, (ofMask_eq_ok_iff.mp made).2⟩
  · rintro ⟨net, is⟩
    exact ⟨⟨addr, net.prefixLength, net.prefixLength_le⟩, ofMask_eq_ok_iff.mpr ⟨rfl, is⟩⟩

end NetworkV4

namespace NetworkV6

/-- `canonical`. -/
def canonical (net : NetworkV6) : Except Exception NetworkV6 :=
  (Network.make 128 net.network net.prefixLength).mapError .outOfRange

/-- `is_subnet_of`. -/
def isSubnetOf (net other : NetworkV6) : Except Exception Bool :=
  Network.isSubnetOf canonical net other

theorem clears : Network.Clears AddressV6.reading network where
  kind _ := rfl
  bit net place inside := by
    have fits : place < 8 * net.address.bytes.length := by
      rw [net.address.length_bytes]
      exact inside
    change bitAt (net.address.bytes.mapIdx (clearByte net.prefixLength)) place = _
    have few : leadingBits 8 net.prefixLength (place / 8) ≤ 8 := Nat.min_le_left _ _
    rw [BigEndian.bitAt_mapIdx fits, clearByte_eq, BitVec.getMsbD_and,
      BigEndian.getMsbD_leadingMask few,
      decide_eq_decide.mpr (BigEndian.lt_leadingBits_iff (Nat.succ_pos 7))]
    rfl

theorem canonical_eq (net : NetworkV6) :
    net.canonical = .ok (Network.onNetwork network net) := by
  have made := Network.make_eq_ok (Network.onNetwork network net)
  rw [canonical]
  exact congrArg _ made

end NetworkV6

/-- A network is a subnet of another exactly when it covers some of the addresses of the other
and no further ones. The network address clears the bits behind the prefix, the broadcast
address sets them, canonical networks stay what they are and cover the same addresses, and the
masks are those of a prefix length. -/
theorem subnets_exact :
    Network.Exact AddressV4.reading NetworkV4.network NetworkV4.canonical NetworkV4.isSubnetOf ∧
      Network.Exact AddressV6.reading NetworkV6.network NetworkV6.canonical
        NetworkV6.isSubnetOf ∧
      (∀ net : NetworkV4, ∀ place < 32, AddressV4.reading.bit net.broadcast place =
        (AddressV4.reading.bit net.address place || decide (net.prefixLength ≤ place))) ∧
      (∀ addr mask, (∃ net, NetworkV4.ofMask addr mask = .ok net) ↔ ∃ bits ≤ 32, ∀ place < 32,
        AddressV4.reading.bit mask place = decide (place < bits)) ∧
      ∀ addr mask, ∀ net : NetworkV4, NetworkV4.ofMask addr mask = .ok net ↔
        net.address = addr ∧ net.netmask = mask := by
  refine ⟨NetworkV4.clears.exact NetworkV4.canonical_eq,
    NetworkV6.clears.exact NetworkV6.canonical_eq, ?_, ?_, ?_⟩
  · exact fun net place inside => NetworkV4.bit_broadcast net inside
  · exact fun addr mask => NetworkV4.exists_ofMask_eq_ok_iff
  · exact fun addr mask net => NetworkV4.ofMask_eq_ok_iff

end Asio.Ip
