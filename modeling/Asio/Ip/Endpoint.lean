import Asio.Ip.AddressText

/-! # Endpoints

`ip::detail::endpoint`, a union of the socket addresses of the two families. A port is kept in
network byte order; the field for a scope has 32 bits.
-/

namespace Asio.Ip

/-- `ip::address`. -/
inductive Address where
  | v4 (addr : AddressV4)
  | v6 (addr : AddressV6)
  deriving Repr

/-- `host_to_network_short`, and `network_to_host_short`, of a little-endian host. -/
def hostToNetworkShort (short : BitVec 16) : BitVec 16 := short <<< 8 ||| short >>> 8

/-- `endpoint::data_`, with the fields of `sockaddr_in` or of `sockaddr_in6`. -/
inductive Endpoint where
  | v4 (sinPort : BitVec 16) (sinAddr : BitVec 32)
  | v6 (sin6Port : BitVec 16) (sin6Flowinfo : BitVec 32) (sin6Addr : In6Addr)
      (sin6ScopeId : BitVec 32)
  deriving Repr

namespace Endpoint

/-- The constructor from an address and a port. An address of IPv4 is kept in host byte
order. -/
def ofAddress (addr : Address) (portNum : BitVec 16) : Endpoint :=
  match addr with
  | .v4 addr => .v4 (hostToNetworkShort portNum) addr.toUint
  | .v6 addr => .v6 (hostToNetworkShort portNum) 0#32 addr.addr (addr.scopeId.setWidth 32)

/-- `port`. -/
def port : Endpoint → BitVec 16
  | .v4 sinPort _ => hostToNetworkShort sinPort
  | .v6 sin6Port _ _ _ => hostToNetworkShort sin6Port

/-- `address`. -/
def address : Endpoint → Address
  | .v4 _ sinAddr => .v4 ⟨sinAddr⟩
  | .v6 _ _ sin6Addr sin6ScopeId => .v6 (sin6Addr.withScope (sin6ScopeId.setWidth 64))

theorem hostToNetworkShort_self (short : BitVec 16) :
    hostToNetworkShort (hostToNetworkShort short) = short := by
  apply BitVec.eq_of_getLsbD_eq
  intro place inside
  have beyond : short.getLsbD (8 + (8 + place)) = false := BitVec.getLsbD_of_ge _ _ (by omega)
  simp only [hostToNetworkShort, BitVec.getLsbD_or, BitVec.getLsbD_shiftLeft,
    BitVec.getLsbD_ushiftRight]
  by_cases low : place < 8
  · have within : 8 + place < 16 := by omega
    simp [low, inside, within, beyond]
  · have behind : place - 8 < 8 := by omega
    have back : 8 + (place - 8) = place := by omega
    have outside : ¬ 8 + place < 16 := by omega
    simp [low, inside, behind, back, outside, beyond]

theorem port_ofAddress (addr : Address) (portNum : BitVec 16) :
    (ofAddress addr portNum).port = portNum := by
  cases addr <;> exact hostToNetworkShort_self portNum

theorem withScope_setWidth_iff {addr : AddressV6} :
    addr.addr.withScope ((addr.scopeId.setWidth 32).setWidth 64) = addr ↔
      addr.scopeId.toNat < 2 ^ 32 := by
  constructor
  · intro same
    have scope := congrArg (fun other : AddressV6 => other.scopeId.toNat) same
    have low : (addr.scopeId.setWidth 32).toNat = addr.scopeId.toNat := by
      rw [← scope]
      exact (BitVec.toNat_setWidth_of_le (by decide)).symm
    rw [← low]
    exact (addr.scopeId.setWidth 32).isLt
  · intro small
    have scope : (addr.scopeId.setWidth 32).setWidth 64 = addr.scopeId := by
      apply BitVec.eq_of_toNat_eq
      rw [BitVec.toNat_setWidth_of_le (by decide), BitVec.toNat_setWidth, Nat.mod_eq_of_lt small]
    rw [scope]
    rfl

/-- A scope is kept when it fits the field. -/
theorem address_ofAddress_iff {addr : AddressV6} {portNum : BitVec 16} :
    (ofAddress (.v6 addr) portNum).address = .v6 addr ↔ addr.scopeId.toNat < 2 ^ 32 := by
  rw [← withScope_setWidth_iff]
  exact ⟨Address.v6.inj, congrArg Address.v6⟩

end Endpoint

end Asio.Ip
