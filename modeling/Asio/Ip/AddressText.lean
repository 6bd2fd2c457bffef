import Asio.Error
import Asio.Ip.NetworkV4
import Asio.Ip.NetworkV6
import Asio.Lib.CString

/-! # Addresses as text

The system's `inet_ntop` and `inet_pton` know nothing of scopes, which `socket_ops` writes
behind a percent sign: the name of an interface for an address of the link, and otherwise a
decimal number. It reads whatever stands there by `if_nametoindex`, and by `atoi` when that
finds no interface.
-/

namespace Asio.Ip

open CString

/-- `in6_addr`. -/
structure In6Addr where
  s6Addr : List (BitVec 8)
  length_s6Addr : s6Addr.length = 16
  deriving Repr

/-- The system's functions for addresses and interfaces. A failed conversion has an `errno`, or
none when the text is no address; the index of an unknown interface is zero. -/
structure Os where
  inetPton4 : Text → Except (Option ℕ+) (BitVec 32)
  inetNtop4 : BitVec 32 → Except (Option ℕ+) Text
  inetPton6 : Text → Except (Option ℕ+) In6Addr
  inetNtop6 : In6Addr → Except (Option ℕ+) Text
  ifNametoindex : Text → BitVec 32
  ifIndextoname : BitVec 32 → Option Text

/-- `error_wrapper`, behind which an error without an `errno` is an invalid argument. -/
def wrapError : Option ℕ+ → ErrorCode
  | none => .invalidArgument
  | some errno => .ofErrno errno

/-- `max_addr_v6_str_len`: `INET6_ADDRSTRLEN`, one, and `IF_NAMESIZE`. -/
def maxAddrV6StrLen : Nat := 46 + 1 + 16

/-- The percent sign before a scope. -/
abbrev percent : BitVec 8 := 0x25#8

/-- The slash before a prefix length. -/
abbrev slash : BitVec 8 := 0x2F#8

namespace In6Addr

variable (addr : In6Addr)

/-- `is_link_local`. -/
def isLinkLocal : Bool :=
  addr.s6Addr.getD 0 0#8 == 0xFE#8 && addr.s6Addr.getD 1 0#8 &&& 0xC0#8 == 0x80#8

/-- `is_multicast_link_local`. -/
def isMulticastLinkLocal : Bool :=
  addr.s6Addr.getD 0 0#8 == 0xFF#8 && addr.s6Addr.getD 1 0#8 &&& 0x0F#8 == 0x02#8

/-- Whether the scope is an interface. -/
def isOfLink : Bool := addr.isLinkLocal || addr.isMulticastLinkLocal

/-- The constructor of `address_v6` from bytes and a scope. -/
def withScope (scopeId : BitVec 64) : AddressV6 where
  bytes := addr.s6Addr
  length_bytes := addr.length_s6Addr
  scopeId := scopeId

end In6Addr

/-- The bytes of an IPv6 address. -/
def AddressV6.addr (addr : AddressV6) : In6Addr where
  s6Addr := addr.bytes
  length_s6Addr := addr.length_bytes

namespace Os

variable (os : Os)

/-- What is written behind the percent sign. The name has 32 bits of the scope for an index. -/
def scopeText (addr : In6Addr) (scopeId : BitVec 64) : Text :=
  if addr.isOfLink then
    match os.ifIndextoname (scopeId.setWidth 32) with
    | some name => name
    | none => numeral scopeId.toNat
  else numeral scopeId.toNat

/-- `socket_ops::inet_ntop` of an IPv6 address. -/
def inetNtop (addr : In6Addr) (scopeId : BitVec 64) : Except ErrorCode Text := do
  let dest ← (os.inetNtop6 addr).mapError wrapError
  if scopeId ≠ 0#64 then return dest ++ percent :: os.scopeText addr scopeId
  else return dest

/-- How what stands behind the percent sign is read. -/
def readScope (addr : In6Addr) (ifName : Text) : BitVec 64 :=
  let scopeId := if addr.isOfLink then (os.ifNametoindex ifName).setWidth 64 else 0#64
  if scopeId = 0#64 then BitVec.ofInt 64 (atoi ifName) else scopeId

/-- `socket_ops::inet_pton` of an IPv6 address. -/
def inetPton (src : Text) : Except ErrorCode (In6Addr × BitVec 64) :=
  match src.findIdx? (· == percent) with
  | none => do
      let addr ← (os.inetPton6 src).mapError wrapError
      return (addr, 0#64)
  | some ifName =>
      if ifName > maxAddrV6StrLen then .error .invalidArgument
      else do
        let addr ← (os.inetPton6 (src.take ifName)).mapError wrapError
        return (addr, os.readScope addr (src.drop (ifName + 1)))

/-- `make_address_v4` of a text that a NUL ends. -/
def makeAddressV4 (str : Text) : Except ErrorCode AddressV4 := do
  let bytes ← (os.inetPton4 str).mapError wrapError
  return ⟨bytes⟩

/-- `make_address_v6` of a text that a NUL ends. -/
def makeAddressV6 (str : Text) : Except ErrorCode AddressV6 := do
  let (bytes, scopeId) ← os.inetPton str
  return bytes.withScope scopeId

/-- `address_v4::to_string`. -/
def toStringV4 (addr : AddressV4) : Except ErrorCode Text :=
  (os.inetNtop4 addr.toUint).mapError wrapError

/-- `address_v6::to_string`. -/
def toStringV6 (addr : AddressV6) : Except ErrorCode Text := os.inetNtop addr.addr addr.scopeId

/-- The text of an address has no byte that something else reads. -/
structure Plain (text : Text) : Prop where
  nul : 0#8 ∉ text
  percent : percent ∉ text
  slash : slash ∉ text

/-- The documented behaviour of the system: `inet_pton` inverts `inet_ntop`, whose text fits
`INET6_ADDRSTRLEN`, and `if_nametoindex` inverts `if_indextoname`. -/
structure Inverts : Prop where
  ntop4 : ∀ addr, ∃ text, os.inetNtop4 addr = .ok text ∧ os.inetPton4 text = .ok addr ∧ Plain text
  ntop6 : ∀ addr, ∃ text, os.inetNtop6 addr = .ok text ∧ os.inetPton6 text = .ok addr ∧
    Plain text ∧ text.length < 46
  indextoname : ∀ index name, os.ifIndextoname index = some name →
    index ≠ 0#32 ∧ os.ifNametoindex name = index ∧ 0#8 ∉ name

variable {os} {addr : In6Addr} {scopeId : BitVec 64} {host ifName : Text}

/-! ## What is read -/

theorem inetPton_of_not_mem (absent : percent ∉ host) :
    os.inetPton host =
      (os.inetPton6 host).mapError wrapError >>= fun addr => return (addr, 0#64) := by
  rw [inetPton, findIdx?_eq_none absent]

/-- The part before the first percent sign is the address. -/
theorem inetPton_append (absent : percent ∉ host) :
    os.inetPton (host ++ percent :: ifName) =
      if host.length > maxAddrV6StrLen then .error .invalidArgument
      else (os.inetPton6 host).mapError wrapError >>= fun addr =>
        return (addr, os.readScope addr ifName) := by
  rw [inetPton, findIdx?_append_cons absent]
  dsimp only
  rw [List.take_left, drop_behind]

/-- An address with a scope is read when the part before the percent sign is. -/
theorem makeAddressV6_eq_ok_iff (absent : percent ∉ host) {made : AddressV6} :
    os.makeAddressV6 (host ++ percent :: ifName) = .ok made ↔
      host.length ≤ maxAddrV6StrLen ∧ ∃ addr, os.inetPton6 host = .ok addr ∧
        addr.withScope (os.readScope addr ifName) = made := by
  rw [makeAddressV6, inetPton_append absent]
  by_cases long : host.length > maxAddrV6StrLen
  · rw [if_pos long]
    constructor
    · intro failed
      cases failed
    · rintro ⟨fits, -⟩
      exact absurd long (Nat.not_lt.mpr fits)
  · rw [if_neg long, and_iff_right (Nat.not_lt.mp long)]
    cases os.inetPton6 host with
    | error errno =>
        constructor
        · intro failed
          cases failed
        · rintro ⟨addr, failed, -⟩
          cases failed
    | ok addr =>
        constructor
        · intro read
          exact ⟨addr, rfl, Except.ok.inj read⟩
        · rintro ⟨addr', read, is⟩
          cases read
          exact congrArg Except.ok is

theorem readScope_of_index (link : addr.isOfLink = true) (known : os.ifNametoindex ifName ≠ 0#32) :
    os.readScope addr ifName = (os.ifNametoindex ifName).setWidth 64 := by
  have nonzero : (os.ifNametoindex ifName).setWidth 64 ≠ 0#64 := by
    intro zero
    apply known
    apply BitVec.eq_of_toNat_eq
    have wide := congrArg BitVec.toNat zero
    rw [BitVec.toNat_setWidth_of_le (by decide)] at wide
    exact wide
  rw [readScope, if_pos link]
  exact if_neg nonzero

theorem readScope_of_number (unknown : ¬ (addr.isOfLink = true ∧ os.ifNametoindex ifName ≠ 0#32)) :
    os.readScope addr ifName = BitVec.ofInt 64 (atoi ifName) := by
  have zero : (if addr.isOfLink then (os.ifNametoindex ifName).setWidth 64 else 0#64) = 0#64 := by
    split
    · rename_i link
      have none : os.ifNametoindex ifName = 0#32 := by
        by_contra known
        exact unknown ⟨link, known⟩
      rw [none]
      rfl
    · rfl
  rw [readScope]
  exact if_pos zero

theorem toStringV6_eq {text : Text} {addr : AddressV6}
    (written : os.inetNtop6 addr.addr = .ok text) :
    os.toStringV6 addr = .ok (if addr.scopeId ≠ 0#64 then
      text ++ percent :: os.scopeText addr.addr addr.scopeId else text) := by
  rw [toStringV6, inetNtop, written]
  split <;> rfl

theorem makeAddressV6_of_not_mem (absent : percent ∉ host) (read : os.inetPton6 host = .ok addr) :
    os.makeAddressV6 host = .ok (addr.withScope 0#64) := by
  rw [makeAddressV6, inetPton_of_not_mem absent, read]
  rfl

end Os

end Asio.Ip
