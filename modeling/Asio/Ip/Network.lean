import Asio.Lib.Counting

/-! # Networks and ranges of addresses

What `network_v4` and `network_v6` share. `basic_address_range` is half open, and so is the
comparison in `find`; an iteration only looks for the end. The two tell the same unless the
end has wrapped past the last address.
-/

namespace Asio.Ip

/-- `network_v4` or `network_v6`, with the number of bits of its addresses. -/
structure Network (Address : Type*) (bits : Nat) where
  address : Address
  prefixLength : Nat
  prefixLength_le : prefixLength ≤ bits
  deriving DecidableEq, Repr

namespace Network

variable {Address : Type*} {bits : Nat}

/-- The constructor from an address and a prefix length, and the text of what it throws. -/
def make (bits : Nat) (addr : Address) (prefixLen : Nat) : Except String (Network Address bits) :=
  if tooLarge : prefixLen > bits then .error "prefix length too large"
  else .ok ⟨addr, prefixLen, Nat.not_lt.mp tooLarge⟩

theorem make_eq_ok_iff {addr : Address} {prefixLen : Nat} {net : Network Address bits} :
    make bits addr prefixLen = .ok net ↔ net.address = addr ∧ net.prefixLength = prefixLen := by
  rw [make]
  split
  · rename_i tooLarge
    constructor
    · intro made
      cases made
    · rintro ⟨-, rfl⟩
      exact absurd net.prefixLength_le (Nat.not_le.mpr tooLarge)
  · constructor
    · intro made
      cases made
      exact ⟨rfl, rfl⟩
    · rintro ⟨rfl, rfl⟩
      rfl

/-- `is_host`. -/
def isHost (net : Network Address bits) : Bool := net.prefixLength == bits

end Network

/-- `basic_address_range`. A `basic_address_iterator` is the address that it points to. -/
structure AddressRange (Address : Type*) where
  first : Address
  last : Address
  deriving Repr

namespace AddressRange

variable {Address : Type*} [LE Address] [LT Address]

/-- `find`. -/
def find [DecidableLE Address] [DecidableLT Address] (range : AddressRange Address)
    (addr : Address) : Address :=
  if addr ≥ range.first ∧ addr < range.last then addr else range.last

/-- What a range answers is what the iteration from `begin()` to `end()` finds: the hosts,
each of them once and in increasing order. -/
structure Agrees [DecidableLE Address] [DecidableLT Address] [BEq Address]
    (increment : Address → Address) (Among Host : Address → Prop) (range : AddressRange Address)
    (empty : Bool) (visited : List Address) : Prop where
  returns : Loop.Returns (Counting.visit increment range.last) (range.first, []) visited
  mem_iff : ∀ addr, addr ∈ visited ↔ Host addr
  increasing : visited.Pairwise (· < ·)
  nodup : visited.Nodup
  find_iff : ∀ addr, Among addr → ((range.find addr != range.last) = true ↔ addr ∈ visited)
  empty_iff : empty = true ↔ visited = []

/-- Among some addresses, they compare as their numbers. -/
structure ComparesBy (Among : Address → Prop) (value : Address → Nat) : Prop where
  le_iff : ∀ addr other, Among addr → Among other → (addr ≤ other ↔ value addr ≤ value other)
  lt_iff : ∀ addr other, Among addr → Among other → (addr < other ↔ value addr < value other)

variable [DecidableLE Address] [DecidableLT Address] [BEq Address] [LawfulBEq Address]
  {Among Host : Address → Prop} {value : Address → Nat} {increment : Address → Address}
  {range : AddressRange Address} {empty : Bool}

theorem find_ne_last_iff (compares : ComparesBy Among value) {addr : Address}
    (among : Among addr) (last_among : Among range.last) :
    (range.find addr != range.last) = true ↔ addr ≥ range.first ∧ addr < range.last := by
  rw [bne_iff_ne, find]
  constructor
  · intro found
    by_contra outside
    exact found (if_neg outside)
  · intro inside same
    rw [if_pos inside] at same
    have less := (compares.lt_iff _ _ among last_among).mp inside.2
    rw [same] at less
    exact Nat.lt_irrefl _ less

/-- A range whose end has not wrapped agrees with the iteration. -/
theorem exists_agrees {bound : Nat} (cyclic : Counting.Cyclic bound Among value increment)
    (compares : ComparesBy Among value) (first_among : Among range.first)
    (last_among : Among range.last) (le : value range.first ≤ value range.last)
    (host_iff : ∀ addr, Host addr ↔
      Among addr ∧ value range.first ≤ value addr ∧ value addr < value range.last)
    (empty_iff : empty = true ↔ value range.first = value range.last) :
    ∃ visited, Agrees increment Among Host range empty visited ∧
      value range.first + visited.length = value range.last := by
  obtain ⟨visited, returns, enumerates⟩ := cyclic.visits first_among last_among le
  have increasing : visited.Pairwise (· < ·) := by
    apply enumerates.increasing.imp_of_mem
    intro addr other inside inside' less
    exact (compares.lt_iff _ _ ((enumerates.mem_iff _).mp inside).1
      ((enumerates.mem_iff _).mp inside').1).mpr less
  refine ⟨visited, ⟨returns, ?_, increasing, ?_, ?_, ?_⟩, enumerates.length_eq⟩
  · intro addr
    rw [enumerates.mem_iff, host_iff]
  · apply enumerates.increasing.imp
    rintro addr _ less rfl
    exact Nat.lt_irrefl _ less
  · intro addr among
    rw [find_ne_last_iff compares among last_among, enumerates.mem_iff, ge_iff_le,
      compares.le_iff _ _ first_among among, compares.lt_iff _ _ among last_among]
    exact (and_iff_right among).symm
  · rw [empty_iff, ← List.length_eq_zero_iff]
    have length := enumerates.length_eq
    omega

/-- A range whose first address is a host does not agree when its end has wrapped. -/
theorem Agrees.first_lt_last (compares : ComparesBy Among value) {visited : List Address}
    (agrees : Agrees increment Among Host range empty visited) (first_among : Among range.first)
    (last_among : Among range.last) (host : Host range.first) :
    value range.first < value range.last := by
  have found := (agrees.find_iff _ first_among).mpr ((agrees.mem_iff _).mpr host)
  have inside := (find_ne_last_iff compares first_among last_among).mp found
  exact (compares.lt_iff _ _ first_among last_among).mp inside.2

end AddressRange

end Asio.Ip
