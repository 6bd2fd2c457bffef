import Asio.Ip.NetworkV4
import Asio.Ip.NetworkV6

/-! # The hosts of a network

`hosts` computes an end one past the last host, which wraps to zero when the last host is the
last of all addresses. An iteration gets there all the same, but `find` compares with it, and
the range of the network of all IPv6 addresses is empty.
-/

namespace Asio.Ip

open BigEndian (keepLeading)

namespace NetworkV4

variable (net : NetworkV4)

/-- The hosts of the network. -/
def HasHost (addr : AddressV4) : Prop :=
  if net.isHost then addr = net.address else net.network < addr ∧ addr < net.broadcast

/-- What `hosts` answers is what an iteration finds. -/
def HostsAgree : Prop :=
  ∃ visited,
    net.hosts.Agrees AddressV4.increment AddressV4.Any net.HasHost net.hosts.empty visited ∧
      net.hosts.size = visited.length

variable {net}

theorem hostsAgree_of_le (le : net.hosts.first.value ≤ net.hosts.last.value)
    (host_iff : ∀ addr, net.HasHost addr ↔
      net.hosts.first.value ≤ addr.value ∧ addr.value < net.hosts.last.value) :
    net.HostsAgree := by
  have size := AddressV4Range.size_eq le
  have empty_iff : net.hosts.empty = true ↔ net.hosts.first.value = net.hosts.last.value := by
    rw [AddressV4Range.empty, beq_iff_eq, size]
    omega
  obtain ⟨visited, agrees, length⟩ := AddressRange.exists_agrees AddressV4.cyclic
    AddressV4.comparesBy trivial trivial le
    (fun addr => (host_iff addr).trans (and_iff_right trivial).symm) empty_iff
  refine ⟨visited, agrees, ?_⟩
  rw [size]
  omega

theorem hosts_of_isHost (host : net.isHost = true) :
    net.hosts = ⟨net.address, ⟨net.address.toUint + 1#32⟩⟩ := if_pos host

theorem hosts_of_not_isHost (subnet : ¬ net.isHost = true) :
    net.hosts = ⟨⟨net.network.toUint + 1#32⟩, net.broadcast⟩ := if_neg subnet

/-- A host bit at least is cleared in the network address, and set in the broadcast
address. -/
theorem network_lt_broadcast (subnet : ¬ net.isHost = true) :
    net.network.value < net.broadcast.value := by
  have prefixed : net.prefixLength < 32 := by
    apply Nat.lt_of_le_of_ne net.prefixLength_le
    exact fun full => subnet (beq_iff_eq.mpr full)
  have two : 2 ^ 1 ≤ 2 ^ (32 - net.prefixLength) := Nat.pow_le_pow_right Nat.two_pos (by omega)
  rw [value_network, value_broadcast, keepLeading, keepLeading]
  omega

theorem value_first_of_not_isHost (subnet : ¬ net.isHost = true) :
    net.hosts.first.value = net.network.value + 1 := by
  rw [hosts_of_not_isHost subnet, AddressV4.value_add_one, Nat.mod_eq_of_lt]
  · rfl
  · exact Nat.lt_of_le_of_lt (network_lt_broadcast subnet) net.broadcast.value_lt

theorem hostsAgree_of_not_isHost (subnet : ¬ net.isHost = true) : net.HostsAgree := by
  have last : net.hosts.last = net.broadcast := by rw [hosts_of_not_isHost subnet]
  apply hostsAgree_of_le
  · rw [value_first_of_not_isHost subnet, last]
    exact network_lt_broadcast subnet
  · intro addr
    rw [HasHost, if_neg subnet, value_first_of_not_isHost subnet, last]
    exact Iff.rfl

theorem value_last_of_isHost (host : net.isHost = true) :
    net.hosts.last.value = (net.address.value + 1) % 2 ^ 32 := by
  rw [hosts_of_isHost host, AddressV4.value_add_one]
  rfl

theorem value_add_one_lt_iff {addr : AddressV4} :
    addr.value + 1 < 2 ^ 32 ↔ addr ≠ AddressV4.broadcast := by
  have bound := addr.value_lt
  have top : AddressV4.broadcast.value + 1 = 2 ^ 32 := rfl
  constructor
  · rintro less rfl
    omega
  · intro other
    by_contra not_less
    apply other
    apply AddressV4.value_injective
    omega

theorem hostsAgree_of_isHost (host : net.isHost = true)
    (other : net.address ≠ AddressV4.broadcast) : net.HostsAgree := by
  have last := value_last_of_isHost host
  rw [Nat.mod_eq_of_lt (value_add_one_lt_iff.mpr other)] at last
  have first : net.hosts.first = net.address := by rw [hosts_of_isHost host]
  apply hostsAgree_of_le
  · rw [first, last]
    exact Nat.le_succ _
  · intro addr
    rw [HasHost, if_pos host, first, last]
    constructor
    · rintro rfl
      exact ⟨Nat.le_refl _, Nat.lt_succ_self _⟩
    · rintro ⟨from_first, before⟩
      exact AddressV4.value_injective (Nat.le_antisymm (Nat.lt_succ_iff.mp before) from_first)

theorem not_hostsAgree_broadcast (host : net.isHost = true)
    (same : net.address = AddressV4.broadcast) : ¬ net.HostsAgree := by
  rintro ⟨visited, agrees, -⟩
  have first : net.hosts.first = net.address := by rw [hosts_of_isHost host]
  have last : net.hosts.last.value = 0 := by
    rw [value_last_of_isHost host, same]
    rfl
  have less := agrees.first_lt_last AddressV4.comparesBy trivial trivial
    ((if_pos host).mpr first)
  rw [last] at less
  exact Nat.not_lt_zero _ less

/-- Only the network of the last address alone does not agree. -/
theorem hostsAgree_iff :
    net.HostsAgree ↔ ¬ (net.isHost = true ∧ net.address = AddressV4.broadcast) := by
  constructor
  · rintro agree ⟨host, same⟩
    exact not_hostsAgree_broadcast host same agree
  · intro not_last
    by_cases host : net.isHost = true
    · exact hostsAgree_of_isHost host fun same => not_last ⟨host, same⟩
    · exact hostsAgree_of_not_isHost host

end NetworkV4

namespace NetworkV6

variable (net : NetworkV6)

/-- The addresses of the network. -/
def HasHost (addr : AddressV6) : Prop :=
  addr.scopeId = net.address.scopeId ∧
    addr.value / 2 ^ (128 - net.prefixLength) = net.address.value / 2 ^ (128 - net.prefixLength)

/-- What `hosts` answers is what an iteration finds. -/
def HostsAgree : Prop :=
  ∃ visited, net.hosts.Agrees AddressV6.increment (AddressV6.InScope net.address.scopeId)
    net.HasHost net.hosts.empty visited

variable {net}

theorem hasHost_iff {addr : AddressV6} : net.HasHost addr ↔
    addr.scopeId = net.address.scopeId ∧
      net.network.value ≤ addr.value ∧ addr.value ≤ net.highest.value := by
  rw [value_network, value_highest, BigEndian.keepLeading_between_iff, HasHost]

theorem network_le_highest : net.network.value ≤ net.highest.value := by
  rw [value_network, value_highest, keepLeading, keepLeading, Nat.zero_mul]
  exact Nat.add_le_add_left (Nat.zero_le _) _

theorem value_last : net.hosts.last.value = (net.highest.value + 1) % 2 ^ 128 :=
  AddressV6.value_increment _

theorem hasHost_highest_iff : net.HasHost (AddressV6.highest net.address.scopeId) ↔
    net.highest.value + 1 = 2 ^ 128 := by
  have top := AddressV6.value_highest net.address.scopeId
  have bound := net.highest.value_lt
  have start := net.network.value_lt
  have same_scope : (AddressV6.highest net.address.scopeId).scopeId = net.address.scopeId := rfl
  rw [hasHost_iff, and_iff_right same_scope]
  omega

theorem hostsAgree_of_not_hasHost_highest
    (not_last : ¬ net.HasHost (AddressV6.highest net.address.scopeId)) : net.HostsAgree := by
  have fits : net.highest.value + 1 < 2 ^ 128 := by
    have bound := net.highest.value_lt
    rw [hasHost_highest_iff] at not_last
    omega
  have last : net.hosts.last.value = net.highest.value + 1 := by
    rw [value_last, Nat.mod_eq_of_lt fits]
  have less : net.hosts.first.value < net.hosts.last.value := by
    rw [last]
    exact Nat.lt_succ_of_le network_le_highest
  have not_empty : ¬ net.hosts.empty = true := by
    intro same
    rw [AddressV6Range.empty, beq_iff_eq] at same
    rw [same] at less
    exact Nat.lt_irrefl _ less
  have host_iff (addr : AddressV6) : net.HasHost addr ↔
      AddressV6.InScope net.address.scopeId addr ∧
        net.hosts.first.value ≤ addr.value ∧ addr.value < net.hosts.last.value := by
    rw [hasHost_iff, last, Nat.lt_succ_iff]
    rfl
  have first_scope : AddressV6.InScope net.address.scopeId net.hosts.first := rfl
  have last_scope : AddressV6.InScope net.address.scopeId net.hosts.last := rfl
  obtain ⟨visited, agrees, -⟩ := AddressRange.exists_agrees
    (AddressV6.cyclic net.address.scopeId) (AddressV6.comparesBy net.address.scopeId)
    first_scope last_scope less.le host_iff (iff_of_false not_empty less.ne)
  exact ⟨visited, agrees⟩

theorem not_hostsAgree_of_hasHost_highest
    (last_host : net.HasHost (AddressV6.highest net.address.scopeId)) : ¬ net.HostsAgree := by
  rintro ⟨visited, agrees⟩
  have last : net.hosts.last.value = 0 := by
    rw [value_last, hasHost_highest_iff.mp last_host, Nat.mod_self]
  have less := agrees.first_lt_last (AddressV6.comparesBy net.address.scopeId) rfl rfl
    (hasHost_iff.mpr ⟨rfl, Nat.le_refl _, network_le_highest⟩)
  rw [last] at less
  exact Nat.not_lt_zero _ less

/-- Only the networks of the last address do not agree. -/
theorem hostsAgree_iff :
    net.HostsAgree ↔ ¬ net.HasHost (AddressV6.highest net.address.scopeId) := by
  constructor
  · exact fun agree last_host => not_hostsAgree_of_hasHost_highest last_host agree
  · exact hostsAgree_of_not_hasHost_highest

end NetworkV6

/-- The range of hosts tells the same as its iteration unless the last of all addresses is
one of the hosts: for IPv4 this is the network of that address alone. -/
theorem hosts_agree_iff (netV4 : NetworkV4) (netV6 : NetworkV6) :
    (netV4.HostsAgree ↔ ¬ (netV4.isHost = true ∧ netV4.address = AddressV4.broadcast)) ∧
      (netV6.HostsAgree ↔ ¬ netV6.HasHost (AddressV6.highest netV6.address.scopeId)) :=
  ⟨NetworkV4.hostsAgree_iff, NetworkV6.hostsAgree_iff⟩

/-- The networks 255.255.255.255/32 and ::/0. -/
theorem not_hosts_agree :
    ¬ NetworkV4.HostsAgree ⟨AddressV4.broadcast, 32, Nat.le_refl _⟩ ∧
      ¬ NetworkV6.HostsAgree ⟨⟨List.replicate 16 0#8, List.length_replicate, 0#64⟩, 0,
        Nat.zero_le _⟩ := by
  constructor
  · exact NetworkV4.not_hostsAgree_broadcast rfl rfl
  · apply NetworkV6.not_hostsAgree_of_hasHost_highest
    exact ⟨rfl, by decide⟩

end Asio.Ip
