import Asio.Ip.Endpoint
import Asio.Ip.SpelledOut

/-! # Scopes as text

`atoi` cannot say that a text is no number. What stands behind the percent sign of an address
is never refused: a text that is no number is read as zero or as the number it begins with, and
a number that does not fit an `int` as another one. A scope of such a number is not read back
from its own text either.
-/

namespace Asio.Ip

open CString

namespace Os

variable (os : Os)

/-- The text names an interface, and the address is one of the link. -/
def IsInterface (addr : In6Addr) (ifName : Text) : Prop :=
  addr.isOfLink = true ∧ os.ifNametoindex ifName ≠ 0#32

/-- A number that `atoi` hands on as it is. -/
def Fits (number : Nat) : Prop := number < 2 ^ 31 ∨ number = 2 ^ 64 - 1

/-- An address that is made of a text has the scope that stands behind the percent sign. -/
def ScopeIsRead (str : Text) : Prop :=
  ∀ made, os.makeAddressV6 str = .ok made →
    ∃ host ifName addr, str = host ++ percent :: ifName ∧ percent ∉ host ∧
      os.inetPton6 host = .ok addr ∧ made.addr = addr ∧
      (os.IsInterface addr ifName ∧ made.scopeId = (os.ifNametoindex ifName).setWidth 64 ∨
        IsNumber ifName ∧ made.scopeId.toNat = value ifName)

/-- No address is read before the percent sign, or what stands behind it is an interface or a
number that fits. -/
def ScopeIsSound (str : Text) : Prop :=
  ∀ host ifName addr, str = host ++ percent :: ifName → percent ∉ host →
    host.length ≤ maxAddrV6StrLen → os.inetPton6 host = .ok addr →
      os.IsInterface addr ifName ∨ IsNumber ifName ∧ Fits (value ifName)

variable {os} {addr : In6Addr} {scopeId : BitVec 64} {host ifName : Text}

/-- A number is read as it is when it fits. -/
theorem toNat_readScope_iff (unknown : ¬ os.IsInterface addr ifName)
    (all : ∀ char ∈ ifName, isDigit char = true) :
    (os.readScope addr ifName).toNat = value ifName ↔ Fits (value ifName) := by
  rw [readScope_of_number unknown]
  exact ofInt_atoi_digits_iff all

theorem scopeIsRead_append_iff (absent : percent ∉ host) (short : host.length ≤ maxAddrV6StrLen)
    (read : os.inetPton6 host = .ok addr) :
    os.ScopeIsRead (host ++ percent :: ifName) ↔
      os.IsInterface addr ifName ∨ IsNumber ifName ∧ Fits (value ifName) := by
  constructor
  · intro is_read
    obtain ⟨host', ifName', addr', same, absent', read', rfl, scope⟩ := is_read _
      ((makeAddressV6_eq_ok_iff absent).mpr ⟨short, addr, read, rfl⟩)
    obtain ⟨rfl, rfl⟩ := split_unique absent absent' same
    by_cases known : os.IsInterface addr ifName
    · exact .inl known
    · rcases scope with ⟨known', -⟩ | ⟨number, is⟩
      · exact .inl known'
      · exact .inr ⟨number, (toNat_readScope_iff known number.2).mp is⟩
  · intro sound made is_made
    obtain ⟨-, addr', read', rfl⟩ := (makeAddressV6_eq_ok_iff absent).mp is_made
    cases read.symm.trans read'
    refine ⟨host, ifName, addr, rfl, absent, read, rfl, ?_⟩
    by_cases known : os.IsInterface addr ifName
    · exact .inl ⟨known, readScope_of_index known.1 known.2⟩
    · obtain ⟨number, fits⟩ := sound.resolve_left known
      exact .inr ⟨number, (toNat_readScope_iff known number.2).mpr fits⟩

/-- What stands behind the percent sign is kept only when it is an interface or a number that
fits: nothing else is refused. -/
theorem scopeIsRead_iff {str : Text} (present : percent ∈ str) :
    os.ScopeIsRead str ↔ os.ScopeIsSound str := by
  constructor
  · rintro is_read host ifName addr rfl absent short read
    exact (scopeIsRead_append_iff absent short read).mp is_read
  · intro sound
    obtain ⟨host, ifName, rfl, absent⟩ := List.eq_append_cons_of_mem present
    intro made is_made
    obtain ⟨short, addr, read, -⟩ := (makeAddressV6_eq_ok_iff absent).mp is_made
    have known := sound host ifName addr rfl absent short read
    exact (scopeIsRead_append_iff absent short read).mpr known made is_made

/-- The interface of an address of the link is read. -/
theorem scopeIsRead_interface : SpelledOut.os.ScopeIsRead
    (SpelledOut.inetNtop6 SpelledOut.linkAddr ++ percent :: SpelledOut.ifName) := by
  apply (scopeIsRead_iff (List.mem_append_right _ List.mem_cons_self)).mpr
  intro host ifName addr same absent short read
  have plain := SpelledOut.plain_inetNtop6 SpelledOut.linkAddr
  obtain ⟨rfl, rfl⟩ := split_unique plain.percent absent same
  cases (SpelledOut.inetPton6_inetNtop6 SpelledOut.linkAddr).symm.trans read
  exact .inl ⟨rfl, by decide⟩

/-- The suffix `zzz` of an address of the link is taken for the scope zero. -/
theorem not_scopeIsRead :
    ¬ ∀ (os : Os) (str : Text), 0#8 ∉ str → percent ∈ str → os.ScopeIsRead str := by
  intro always
  have plain := SpelledOut.plain_inetNtop6 SpelledOut.linkAddr
  have nul : 0#8 ∉ SpelledOut.inetNtop6 SpelledOut.linkAddr ++
      percent :: ofChars ['z', 'z', 'z'] := by
    rw [List.mem_append, not_or]
    exact ⟨plain.nul, by decide⟩
  have is_read := always SpelledOut.os _ nul (List.mem_append_right _ List.mem_cons_self)
  have read : SpelledOut.os.inetPton6 (SpelledOut.inetNtop6 SpelledOut.linkAddr) =
      .ok SpelledOut.linkAddr := SpelledOut.inetPton6_inetNtop6 SpelledOut.linkAddr
  rw [scopeIsRead_append_iff plain.percent (SpelledOut.length_inetNtop6_le _) read] at is_read
  rcases is_read with ⟨-, known⟩ | ⟨⟨-, all⟩, -⟩
  · exact known rfl
  · cases all _ List.mem_cons_self

/-! ## What is written and read again -/

/-- The scope is written as the name of an interface. -/
def IsNamed (os : Os) (addr : In6Addr) (scopeId : BitVec 64) : Prop :=
  addr.isOfLink = true ∧ (os.ifIndextoname (scopeId.setWidth 32)).isSome = true

instance : Decidable (os.IsNamed addr scopeId) := inferInstanceAs (Decidable (_ ∧ _))

instance : Decidable (os.IsInterface addr ifName) := inferInstanceAs (Decidable (_ ∧ _))

/-- A scope that is read from its own text. A scope with a name has 32 bits. A scope that is
written as a number is read as one, unless the number is the name of an interface. -/
def ScopeIsKept (os : Os) (addr : In6Addr) (scopeId : BitVec 64) : Prop :=
  scopeId = 0#64 ∨
    if os.IsNamed addr scopeId then scopeId.toNat < 2 ^ 32
    else if os.IsInterface addr (numeral scopeId.toNat) then
      (os.ifNametoindex (numeral scopeId.toNat)).toNat = scopeId.toNat
    else Fits scopeId.toNat

/-- An address comes back from its text, and with a port from an endpoint. -/
structure RoundTrips (os : Os) (addr : AddressV6) (portNum : BitVec 16) : Prop where
  text : ∃ str, os.toStringV6 addr = .ok str ∧ os.makeAddressV6 (terminated str) = .ok addr
  address : (Endpoint.ofAddress (.v6 addr) portNum).address = .v6 addr
  port : (Endpoint.ofAddress (.v6 addr) portNum).port = portNum

theorem scopeText_of_named (named : os.IsNamed addr scopeId) :
    os.ifIndextoname (scopeId.setWidth 32) = some (os.scopeText addr scopeId) := by
  obtain ⟨name, is⟩ := Option.isSome_iff_exists.mp named.2
  rw [scopeText, if_pos named.1, is]

theorem scopeText_of_not_named (unnamed : ¬ os.IsNamed addr scopeId) :
    os.scopeText addr scopeId = numeral scopeId.toNat := by
  rw [scopeText]
  split
  · rename_i link
    cases is : os.ifIndextoname (scopeId.setWidth 32) with
    | none => rfl
    | some name => exact absurd ⟨link, Option.isSome_iff_exists.mpr ⟨name, is⟩⟩ unnamed
  · rfl

theorem toNat_index (index : BitVec 32) : (index.setWidth 64).toNat = index.toNat :=
  BitVec.toNat_setWidth_of_le (by decide)

/-- What is read of the text of a scope. -/
theorem readScope_scopeText_iff (inverts : os.Inverts) :
    os.readScope addr (os.scopeText addr scopeId) = scopeId ↔
      if os.IsNamed addr scopeId then scopeId.toNat < 2 ^ 32
      else if os.IsInterface addr (numeral scopeId.toNat) then
        (os.ifNametoindex (numeral scopeId.toNat)).toNat = scopeId.toNat
      else Fits scopeId.toNat := by
  rw [← BitVec.toNat_inj]
  split
  · rename_i named
    obtain ⟨positive, index, -⟩ := inverts.indextoname _ _ (scopeText_of_named named)
    have known : os.ifNametoindex (os.scopeText addr scopeId) ≠ 0#32 := index ▸ positive
    rw [readScope_of_index named.1 known, index, toNat_index, BitVec.toNat_setWidth]
    omega
  · rename_i unnamed
    rw [scopeText_of_not_named unnamed]
    split
    · rename_i known
      rw [readScope_of_index known.1 known.2, toNat_index]
    · rename_i unknown
      have read := toNat_readScope_iff unknown fun char inside => isDigit_of_mem_numeral inside
      rw [value_numeral] at read
      exact read

theorem nul_not_mem_scopeText (inverts : os.Inverts) : 0#8 ∉ os.scopeText addr scopeId := by
  by_cases named : os.IsNamed addr scopeId
  · exact (inverts.indextoname _ _ (scopeText_of_named named)).2.2
  · rw [scopeText_of_not_named named]
    intro inside
    cases isDigit_of_mem_numeral inside

/-- The text of an address gives it back when its scope is kept. -/
theorem text_iff (inverts : os.Inverts) {addr : AddressV6} :
    (∃ str, os.toStringV6 addr = .ok str ∧ os.makeAddressV6 (terminated str) = .ok addr) ↔
      os.ScopeIsKept addr.addr addr.scopeId := by
  obtain ⟨text, written, read, plain, short⟩ := inverts.ntop6 addr.addr
  rw [toStringV6_eq written, ScopeIsKept]
  by_cases zero : addr.scopeId = 0#64
  · refine iff_of_true ⟨_, rfl, ?_⟩ (.inl zero)
    rw [if_neg (not_not.mpr zero), terminated_eq_self plain.nul,
      makeAddressV6_of_not_mem plain.percent read, ← zero]
    rfl
  · rw [if_pos zero, or_iff_right zero, ← readScope_scopeText_iff inverts]
    have whole : 0#8 ∉ text ++ percent :: os.scopeText addr.addr addr.scopeId := by
      rw [List.mem_append, List.mem_cons, not_or, not_or]
      exact ⟨plain.nul, by decide, nul_not_mem_scopeText inverts⟩
    have fits : text.length ≤ maxAddrV6StrLen := short.le.trans (by decide)
    constructor
    · rintro ⟨str, is, made⟩
      cases is
      rw [terminated_eq_self whole, makeAddressV6_eq_ok_iff plain.percent] at made
      obtain ⟨-, addr', read', is⟩ := made
      cases read.symm.trans read'
      exact congrArg AddressV6.scopeId is
    · intro same
      refine ⟨_, rfl, ?_⟩
      rw [terminated_eq_self whole, makeAddressV6_eq_ok_iff plain.percent]
      refine ⟨fits, addr.addr, read, ?_⟩
      rw [same]
      rfl

/-- An address comes back when its scope fits the field of the endpoint and is read from its
own text. -/
theorem roundTrips_iff (inverts : os.Inverts) {addr : AddressV6} {portNum : BitVec 16} :
    os.RoundTrips addr portNum ↔
      os.ScopeIsKept addr.addr addr.scopeId ∧ addr.scopeId.toNat < 2 ^ 32 := by
  have address_iff : (Endpoint.ofAddress (.v6 addr) portNum).address = .v6 addr ↔
      addr.scopeId.toNat < 2 ^ 32 := Endpoint.address_ofAddress_iff
  rw [← text_iff inverts, ← address_iff]
  constructor
  · rintro ⟨text, address, -⟩
    exact ⟨text, address⟩
  · rintro ⟨text, address⟩
    exact ⟨text, address, Endpoint.port_ofAddress _ _⟩

/-- The interface of an address of the link is written and read. -/
theorem roundTrips_interface :
    SpelledOut.os.RoundTrips (SpelledOut.linkAddr.withScope 2#64) 80#16 := by
  apply (roundTrips_iff SpelledOut.inverts).mpr
  refine ⟨.inr ?_, by decide⟩
  have named : SpelledOut.os.IsNamed SpelledOut.linkAddr 2#64 := ⟨rfl, rfl⟩
  exact (if_pos named).mpr (by decide)

/-- The scope 2147483648 of an address that is not of the link is read as a negative number. -/
theorem not_roundTrips : ¬ ∀ os : Os, os.Inverts → ∀ addr portNum, os.RoundTrips addr portNum := by
  intro always
  have trips := always SpelledOut.os SpelledOut.inverts
    (SpelledOut.globalAddr.withScope 0x80000000#64) 0#16
  have kept := (text_iff SpelledOut.inverts).mp trips.text
  have unnamed : ¬ SpelledOut.os.IsNamed SpelledOut.globalAddr 0x80000000#64 :=
    fun named => Bool.false_ne_true named.1
  have unknown : ¬ SpelledOut.os.IsInterface SpelledOut.globalAddr (numeral 0x80000000) :=
    fun known => Bool.false_ne_true known.1
  rcases kept with zero | number
  · exact absurd zero (by decide)
  · have fits : Fits 0x80000000 := (if_neg unknown).mp ((if_neg unnamed).mp number)
    exact absurd fits (by unfold Fits; decide)

end Os

end Asio.Ip
