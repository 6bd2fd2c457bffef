import Asio.Ip.Network
import Asio.Lib.BigEndian

/-! # IPv6 addresses and networks -/

namespace Asio.Ip

open BigEndian (keepLeading leadingMask leadingBits)

/-- `address_v6`. -/
structure AddressV6 where
  bytes : List (BitVec 8)
  length_bytes : bytes.length = 16
  scopeId : BitVec 64
  deriving Repr

namespace AddressV6

/-- `memcmp` of the bytes. -/
def memcmp (a1 a2 : AddressV6) : Ordering := BigEndian.compareDigits a1.bytes a2.bytes

/-- `operator==`. -/
instance : BEq AddressV6 := ⟨fun a1 a2 => memcmp a1 a2 == .eq && a1.scopeId == a2.scopeId⟩

/-- `operator<`. -/
def less (a1 a2 : AddressV6) : Bool :=
  match memcmp a1 a2 with
  | .lt => true
  | .gt => false
  | .eq => a1.scopeId < a2.scopeId

instance : LT AddressV6 := ⟨fun a1 a2 => less a1 a2 = true⟩

/-- `operator<=`. -/
instance : LE AddressV6 := ⟨fun a1 a2 => ¬ a2 < a1⟩

instance : DecidableLT AddressV6 := fun a1 a2 => inferInstanceAs (Decidable (less a1 a2 = true))

instance : DecidableLE AddressV6 := fun a1 a2 => inferInstanceAs (Decidable (¬ a2 < a1))

/-- `basic_address_iterator<address_v6>::operator++`. -/
def increment (addr : AddressV6) : AddressV6 where
  bytes := BigEndian.incrementBefore 16 addr.bytes
  length_bytes := by
    rw [← addr.length_bytes]
    exact BigEndian.length_increment addr.bytes
  scopeId := addr.scopeId

/-- The number of the bytes of an address. -/
def value (addr : AddressV6) : Nat := BigEndian.value addr.bytes

/-- The last address of a scope. -/
def highest (scopeId : BitVec 64) : AddressV6 where
  bytes := List.replicate 16 0xFF#8
  length_bytes := List.length_replicate
  scopeId := scopeId

/-- The addresses of a scope. -/
def InScope (scopeId : BitVec 64) (addr : AddressV6) : Prop := addr.scopeId = scopeId

theorem value_lt (addr : AddressV6) : addr.value < 2 ^ 128 := by
  have bound := BigEndian.value_lt addr.bytes
  rw [addr.length_bytes] at bound
  exact bound

theorem value_highest (scopeId : BitVec 64) : (highest scopeId).value + 1 = 2 ^ 128 := by
  have bytes : BigEndian.value (List.replicate 16 0xFF#8) + 1 = 2 ^ 128 := by decide
  exact bytes

theorem value_injective {addr other : AddressV6} (scope : addr.scopeId = other.scopeId)
    (same : addr.value = other.value) : addr = other := by
  have bytes : addr.bytes = other.bytes := by
    apply BigEndian.value_injective _ same
    rw [addr.length_bytes, other.length_bytes]
  cases addr
  cases other
  dsimp only at scope bytes
  subst scope bytes
  rfl

theorem value_increment (addr : AddressV6) :
    addr.increment.value = (addr.value + 1) % 2 ^ 128 := by
  have next := BigEndian.value_increment addr.bytes
  rw [BigEndian.increment, addr.length_bytes] at next
  exact next

theorem memcmp_eq (a1 a2 : AddressV6) : memcmp a1 a2 = compare a1.value a2.value := by
  apply BigEndian.compareDigits_eq
  rw [a1.length_bytes, a2.length_bytes]

instance : LawfulBEq AddressV6 where
  rfl {addr} := by
    change (memcmp addr addr == .eq && addr.scopeId == addr.scopeId) = true
    rw [memcmp_eq, Nat.compare_eq_eq.mpr rfl, beq_self_eq_true, beq_self_eq_true, Bool.and_self]
  eq_of_beq {a1 a2} equal := by
    have both : memcmp a1 a2 = .eq ∧ a1.scopeId = a2.scopeId := by
      change (memcmp a1 a2 == .eq && a1.scopeId == a2.scopeId) = true at equal
      rw [Bool.and_eq_true, beq_iff_eq, beq_iff_eq] at equal
      exact equal
    rw [memcmp_eq, Nat.compare_eq_eq] at both
    exact value_injective both.2 both.1

theorem lt_iff {a1 a2 : AddressV6} (scope : a1.scopeId = a2.scopeId) :
    a1 < a2 ↔ a1.value < a2.value := by
  change less a1 a2 = true ↔ _
  unfold less
  rw [memcmp_eq, scope]
  rcases Nat.lt_trichotomy a1.value a2.value with before | same | behind
  · rw [Nat.compare_eq_lt.mpr before]
    exact iff_of_true rfl before
  · rw [Nat.compare_eq_eq.mpr same, same]
    simp
  · rw [Nat.compare_eq_gt.mpr behind]
    exact iff_of_false Bool.false_ne_true (Nat.lt_asymm behind)

theorem comparesBy (scopeId : BitVec 64) :
    AddressRange.ComparesBy (InScope scopeId) value where
  le_iff a1 a2 scope scope' := by
    change ¬ a2 < a1 ↔ _
    rw [lt_iff (scope'.trans scope.symm), Nat.not_lt]
  lt_iff a1 a2 scope scope' := lt_iff (scope.trans scope'.symm)

/-- The addresses of a scope are a counter. -/
theorem cyclic (scopeId : BitVec 64) :
    Counting.Cyclic (2 ^ 128) (InScope scopeId) value increment where
  value_lt addr _ := addr.value_lt
  injective _ _ scope scope' := value_injective (scope.trans scope'.symm)
  increment_among _ scope := scope
  value_increment addr _ := addr.value_increment

end AddressV6

/-- `address_v6_range`. -/
abbrev AddressV6Range := AddressRange AddressV6

/-- `empty`. -/
def AddressV6Range.empty (range : AddressV6Range) : Bool := range.first == range.last

/-- `network_v6`. -/
abbrev NetworkV6 := Network AddressV6 128

namespace NetworkV6

/-- A pass of the loop that clears the bits behind the prefix. -/
def clearByte (prefixLength i : Nat) (byte : BitVec 8) : BitVec 8 :=
  if prefixLength ≤ i * 8 then 0#8
  else if prefixLength < (i + 1) * 8 then
    byte &&& BitVec.ofNat 8 (0xFF00 >>> (prefixLength % 8))
  else byte

/-- A pass of the loop that sets the bits behind the prefix. -/
def setByte (prefixLength i : Nat) (byte : BitVec 8) : BitVec 8 :=
  if prefixLength ≤ i * 8 then 0xFF#8
  else if prefixLength < (i + 1) * 8 then
    byte ||| BitVec.ofNat 8 (0xFF >>> (prefixLength % 8))
  else byte

variable (net : NetworkV6)

/-- `network`. -/
def network : AddressV6 where
  bytes := net.address.bytes.mapIdx (clearByte net.prefixLength)
  length_bytes := List.length_mapIdx.trans net.address.length_bytes
  scopeId := net.address.scopeId

/-- The address whose bits behind the prefix are set. -/
def highest : AddressV6 where
  bytes := net.address.bytes.mapIdx (setByte net.prefixLength)
  length_bytes := List.length_mapIdx.trans net.address.length_bytes
  scopeId := net.address.scopeId

/-- `hosts`; the bytes of its begin are computed as in `network`. -/
def hosts : AddressV6Range := ⟨net.network, net.highest.increment⟩

/-- The masks of `clearByte`, and their complements in `setByte`. -/
theorem mask_eq {bits : Nat} (within : bits < 8) :
    BitVec.ofNat 8 (0xFF00 >>> bits) = leadingMask 8 bits ∧
      BitVec.ofNat 8 (0xFF >>> bits) = ~~~leadingMask 8 bits := by
  revert bits
  decide

/-- A byte before the prefix ends, where it ends, or behind it. -/
theorem byte_cases (prefixLength i : Nat) :
    (prefixLength ≤ i * 8 ∧ leadingBits 8 prefixLength i = 0) ∨
    (¬ prefixLength ≤ i * 8 ∧ prefixLength < (i + 1) * 8 ∧
      leadingBits 8 prefixLength i = prefixLength % 8) ∨
    ¬ prefixLength ≤ i * 8 ∧ ¬ prefixLength < (i + 1) * 8 ∧
      leadingBits 8 prefixLength i = 8 := by
  rw [leadingBits]
  omega

theorem clearByte_eq (prefixLength i : Nat) (byte : BitVec 8) :
    clearByte prefixLength i byte = byte &&& leadingMask 8 (leadingBits 8 prefixLength i) := by
  rw [clearByte]
  rcases byte_cases prefixLength i with ⟨behind, is⟩ | ⟨before, here, is⟩ | ⟨before, beyond, is⟩
  · rw [if_pos behind, is]
    exact BitVec.and_zero.symm
  · rw [if_neg before, if_pos here, is, (mask_eq (Nat.mod_lt _ (by decide))).1]
  · rw [if_neg before, if_neg beyond, is]
    exact BitVec.and_allOnes.symm

theorem setByte_eq (prefixLength i : Nat) (byte : BitVec 8) :
    setByte prefixLength i byte = byte ||| ~~~leadingMask 8 (leadingBits 8 prefixLength i) := by
  rw [setByte]
  rcases byte_cases prefixLength i with ⟨behind, is⟩ | ⟨before, here, is⟩ | ⟨before, beyond, is⟩
  · rw [if_pos behind, is]
    exact BitVec.or_allOnes.symm
  · rw [if_neg before, if_pos here, is, (mask_eq (Nat.mod_lt _ (by decide))).2]
  · rw [if_neg before, if_neg beyond, is]
    exact BitVec.or_zero.symm

theorem toNat_clearByte (prefixLength i : Nat) (byte : BitVec 8) :
    (clearByte prefixLength i byte).toNat =
      keepLeading 0 8 (leadingBits 8 prefixLength i) byte.toNat := by
  rw [clearByte_eq, BigEndian.toNat_and_leadingMask]

theorem toNat_setByte (prefixLength i : Nat) (byte : BitVec 8) :
    (setByte prefixLength i byte).toNat =
      keepLeading 1 8 (leadingBits 8 prefixLength i) byte.toNat := by
  rw [setByte_eq, BigEndian.toNat_or_not_leadingMask]

theorem prefixLength_le_bits : net.prefixLength ≤ 8 * net.address.bytes.length := by
  rw [net.address.length_bytes]
  exact net.prefixLength_le

theorem value_network :
    net.network.value = keepLeading 0 128 net.prefixLength net.address.value := by
  have cleared := BigEndian.value_mapIdx_keepLeading (toNat_clearByte net.prefixLength)
    (prefixLength_le_bits net)
  rw [net.address.length_bytes] at cleared
  exact cleared

theorem value_highest :
    net.highest.value = keepLeading 1 128 net.prefixLength net.address.value := by
  have set := BigEndian.value_mapIdx_keepLeading (toNat_setByte net.prefixLength)
    (prefixLength_le_bits net)
  rw [net.address.length_bytes] at set
  exact set

end NetworkV6

end Asio.Ip
