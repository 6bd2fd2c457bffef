import Asio.Ip.Network
import Asio.Lib.BigEndian

/-! # IPv4 addresses and networks -/

namespace Asio.Ip

open BigEndian (keepLeading leadingMask)

/-- `address_v4`, in host byte order. -/
structure AddressV4 where
  toUint : BitVec 32
  deriving DecidableEq, Repr

namespace AddressV4

instance : LT AddressV4 := ⟨fun a1 a2 => a1.toUint < a2.toUint⟩

instance : LE AddressV4 := ⟨fun a1 a2 => a1.toUint ≤ a2.toUint⟩

instance : DecidableLT AddressV4 := fun a1 a2 => inferInstanceAs (Decidable (a1.toUint < a2.toUint))

instance : DecidableLE AddressV4 := fun a1 a2 => inferInstanceAs (Decidable (a1.toUint ≤ a2.toUint))

/-- `address_v4::broadcast`. -/
def broadcast : AddressV4 := ⟨0xFFFFFFFF#32⟩

/-- `basic_address_iterator<address_v4>::operator++`. -/
def increment (addr : AddressV4) : AddressV4 := ⟨(addr.toUint + 1#32) &&& 0xFFFFFFFF#32⟩

/-- Any address. -/
def Any (_ : AddressV4) : Prop := True

/-- The number of an address. -/
def value (addr : AddressV4) : Nat := addr.toUint.toNat

theorem value_lt (addr : AddressV4) : addr.value < 2 ^ 32 := addr.toUint.isLt

theorem value_injective {addr other : AddressV4} (same : addr.value = other.value) :
    addr = other := by
  cases addr
  cases other
  exact congrArg _ (BitVec.eq_of_toNat_eq same)

theorem value_add_one (word : BitVec 32) :
    (AddressV4.mk (word + 1#32)).value = (word.toNat + 1) % 2 ^ 32 :=
  BitVec.toNat_add _ _

theorem value_increment (addr : AddressV4) : addr.increment.value = (addr.value + 1) % 2 ^ 32 := by
  have all : increment addr = ⟨addr.toUint + 1#32⟩ := congrArg _ BitVec.and_allOnes
  rw [all, value_add_one]
  rfl

/-- The addresses are a counter. -/
theorem cyclic : Counting.Cyclic (2 ^ 32) Any value increment where
  value_lt addr _ := addr.value_lt
  injective _ _ _ _ := value_injective
  increment_among _ _ := trivial
  value_increment addr _ := addr.value_increment

theorem comparesBy : AddressRange.ComparesBy Any value where
  le_iff _ _ _ _ := BitVec.le_def
  lt_iff _ _ _ _ := BitVec.lt_def

end AddressV4

/-- `address_v4_range`. -/
abbrev AddressV4Range := AddressRange AddressV4

namespace AddressV4Range

/-- `size`, a subtraction of 32 bits. -/
def size (range : AddressV4Range) : Nat := (range.last.toUint - range.first.toUint).toNat

/-- `empty`. -/
def empty (range : AddressV4Range) : Bool := range.size == 0

theorem size_eq {range : AddressV4Range} (le : range.first.value ≤ range.last.value) :
    range.size = range.last.value - range.first.value :=
  BitVec.toNat_sub_of_le le

end AddressV4Range

/-- `network_v4`. -/
abbrev NetworkV4 := Network AddressV4 32

namespace NetworkV4

variable (net : NetworkV4)

/-- `netmask`. -/
def netmask : AddressV4 :=
  if net.prefixLength = 0 then ⟨0#32⟩ else ⟨0xFFFFFFFF#32 <<< (32 - net.prefixLength)⟩

/-- `network`. -/
def network : AddressV4 := ⟨net.address.toUint &&& net.netmask.toUint⟩

/-- `broadcast`. -/
def broadcast : AddressV4 := ⟨net.network.toUint ||| (net.netmask.toUint ^^^ 0xFFFFFFFF#32)⟩

/-- `hosts`. -/
def hosts : AddressV4Range :=
  if net.isHost then ⟨net.address, ⟨net.address.toUint + 1#32⟩⟩
  else ⟨⟨net.network.toUint + 1#32⟩, net.broadcast⟩

theorem netmask_eq : net.netmask.toUint = leadingMask 32 net.prefixLength := by
  rw [netmask, leadingMask]
  split
  · rename_i zero
    rw [zero]
    decide
  · rfl

theorem value_network :
    net.network.value = keepLeading 0 32 net.prefixLength net.address.value := by
  rw [AddressV4.value, network, netmask_eq]
  exact BigEndian.toNat_and_leadingMask _ _

theorem value_broadcast :
    net.broadcast.value = keepLeading 1 32 net.prefixLength net.address.value := by
  have complement (mask : BitVec 32) : mask ^^^ 0xFFFFFFFF#32 = ~~~mask := BitVec.xor_allOnes
  rw [AddressV4.value, broadcast, network, complement, netmask_eq, BigEndian.and_or_not]
  exact BigEndian.toNat_or_not_leadingMask _ _

end NetworkV4

end Asio.Ip
