import Asio.Ip.SpelledOut

/-! # Networks as text

`make_network_v4` and `make_network_v6` look at the whole of a string for a slash and for what
is no digit, and hand what stands before and behind the slash to functions that stop at a NUL
or keep the low half of a number. A NUL before the slash hides what follows it, and a prefix
length of more than 32 bits may be taken for a short one.
-/

namespace Asio.Ip

open CString

namespace Network

variable {Address : Type} {bits : Nat}

/-- `to_string`, with that of the address. -/
def toString (toStringAddress : Address → Except ErrorCode Text) (net : Network Address bits) :
    Except ErrorCode Text := do
  let addr ← toStringAddress net.address
  return addr ++ slash :: numeral net.prefixLength

/-- The network of a prefix length that was read. -/
def ofPrefixLen (bits : Nat) (addr : Address) (prefixLen : Int) :
    Except ErrorCode (Network Address bits) :=
  if outside : prefixLen < 0 ∨ prefixLen > bits then .error .invalidArgument
  else .ok ⟨addr, prefixLen.toNat, by omega⟩

/-- The parser of both families, with `make_address` of the family. -/
def parse (bits : Nat) (makeAddress : Text → Except ErrorCode Address) (str : Text) :
    Except ErrorCode (Network Address bits) :=
  match str.findIdx? (· == slash) with
  | none => .error .invalidArgument
  | some pos =>
      if pos = str.length - 1 then .error .invalidArgument
      else if (str.drop (pos + 1)).any (!isDigit ·) then .error .invalidArgument
      else do
        let addr ← makeAddress (terminated (str.take pos))
        ofPrefixLen bits addr (atoi (terminated (str.drop (pos + 1))))

variable {makeAddress : Text → Except ErrorCode Address} {str host digits : Text}
  {net : Network Address bits}

/-- A text is an address, a slash, and the number of a prefix length. -/
def Spells (makeAddress : Text → Except ErrorCode Address) (str : Text)
    (net : Network Address bits) : Prop :=
  ∃ host digits, str = host ++ slash :: digits ∧ slash ∉ host ∧ 0#8 ∉ host ∧
    makeAddress host = .ok net.address ∧ IsNumber digits ∧ value digits = net.prefixLength

/-- A text whose address ends in a NUL before the slash does, or whose number is too large for
a prefix length and wraps to one. -/
def Misread (bits : Nat) (makeAddress : Text → Except ErrorCode Address) (str : Text) : Prop :=
  ∃ host digits addr, str = host ++ slash :: digits ∧ slash ∉ host ∧ IsNumber digits ∧
    makeAddress (terminated host) = .ok addr ∧
    value digits < 2 ^ 63 ∧ value digits % 2 ^ 32 ≤ bits ∧ (0#8 ∈ host ∨ bits < value digits)

theorem ofPrefixLen_eq_ok_iff {addr : Address} {prefixLen : Int} :
    ofPrefixLen bits addr prefixLen = .ok net ↔
      addr = net.address ∧ prefixLen = net.prefixLength := by
  have within := net.prefixLength_le
  rw [ofPrefixLen]
  split
  · rename_i outside
    constructor
    · intro failed
      cases failed
    · rintro ⟨-, is⟩
      omega
  · rename_i inside
    constructor
    · intro made
      cases made
      exact ⟨rfl, (Int.toNat_of_nonneg (by omega)).symm⟩
    · rintro ⟨rfl, rfl⟩
      rfl

theorem parse_append (absent : slash ∉ host) : parse bits makeAddress (host ++ slash :: digits) =
    if digits = [] then .error .invalidArgument
    else if digits.any (!isDigit ·) then .error .invalidArgument
    else makeAddress (terminated host) >>= fun addr =>
      ofPrefixLen bits addr (atoi (terminated digits)) := by
  have ends : host.length = (host ++ slash :: digits).length - 1 ↔ digits = [] := by
    rw [List.length_append, List.length_cons, ← List.length_eq_zero_iff]
    omega
  unfold parse
  rw [findIdx?_append_cons absent]
  dsimp only
  rw [List.take_left, drop_behind]
  simp only [ends]

/-- A text with a number behind its first slash. -/
theorem parse_number_eq_ok_iff (small : bits < 2 ^ 31) (absent : slash ∉ host)
    (number : IsNumber digits) :
    parse bits makeAddress (host ++ slash :: digits) = .ok net ↔
      makeAddress (terminated host) = .ok net.address ∧ value digits < 2 ^ 63 ∧
        value digits % 2 ^ 32 = net.prefixLength := by
  have no_other : ¬ digits.any (!isDigit ·) = true := by
    rw [List.any_eq_true]
    rintro ⟨char, inside, other⟩
    rw [number.2 char inside] at other
    cases other
  have read := atoi_digits_iff number.2 small
  rw [parse_append absent, if_neg number.1, if_neg no_other, terminated_digits number.2]
  cases makeAddress (terminated host) with
  | error ec =>
      constructor
      · intro failed
        cases failed
      · rintro ⟨failed, -⟩
        cases failed
  | ok addr =>
      change ofPrefixLen bits addr (atoi digits) = _ ↔ _
      rw [ofPrefixLen_eq_ok_iff, Except.ok.injEq]
      apply and_congr_right
      rintro -
      have within := net.prefixLength_le
      constructor
      · intro is
        obtain ⟨fits, wraps⟩ := read.mp (by omega)
        have is' := atoi_digits_eq number.2 fits (wraps.trans_lt small)
        exact ⟨fits, by omega⟩
      · rintro ⟨fits, wraps⟩
        have is := atoi_digits_eq number.2 fits (by omega)
        rw [is, wraps]

/-- What the parser takes. -/
theorem parse_eq_ok_iff (small : bits < 2 ^ 31) :
    parse bits makeAddress str = .ok net ↔
      ∃ host digits, str = host ++ slash :: digits ∧ slash ∉ host ∧ IsNumber digits ∧
        makeAddress (terminated host) = .ok net.address ∧ value digits < 2 ^ 63 ∧
          value digits % 2 ^ 32 = net.prefixLength := by
  constructor
  · intro parsed
    have present : slash ∈ str := by
      by_contra absent
      rw [parse, findIdx?_eq_none absent] at parsed
      cases parsed
    obtain ⟨host, digits, rfl, absent⟩ := List.eq_append_cons_of_mem present
    have number : IsNumber digits := by
      rw [parse_append absent] at parsed
      split at parsed
      · cases parsed
      · rename_i some_digit
        split at parsed
        · cases parsed
        · rename_i no_other
          refine ⟨some_digit, fun char inside => ?_⟩
          by_contra other
          apply no_other
          rw [List.any_eq_true]
          exact ⟨char, inside, by rw [Bool.not_eq_true] at other; rw [other]; rfl⟩
    exact ⟨host, digits, rfl, absent, number,
      (parse_number_eq_ok_iff small absent number).mp parsed⟩
  · rintro ⟨host, digits, rfl, absent, number, parsed⟩
    exact (parse_number_eq_ok_iff small absent number).mpr parsed

theorem parse_of_spells (small : bits < 2 ^ 31) (spells : Spells makeAddress str net) :
    parse bits makeAddress str = .ok net := by
  obtain ⟨host, digits, rfl, absent, plain, read, number, is⟩ := spells
  have within := net.prefixLength_le
  rw [parse_number_eq_ok_iff small absent number, terminated_eq_self plain]
  refine ⟨read, ?_, ?_⟩ <;> omega

/-- The parser takes what it should unless the text is misread. -/
theorem parse_iff_spells_iff (small : bits < 2 ^ 31) :
    (∀ net : Network Address bits,
      parse bits makeAddress str = .ok net ↔ Spells makeAddress str net) ↔
      ¬ Misread bits makeAddress str := by
  constructor
  · rintro exact_on ⟨host, digits, addr, rfl, absent, number, read, fits, wraps, mistaken⟩
    have parsed : parse bits makeAddress (host ++ slash :: digits) =
        .ok ⟨addr, value digits % 2 ^ 32, wraps⟩ :=
      (parse_number_eq_ok_iff small absent number).mpr ⟨read, fits, rfl⟩
    obtain ⟨host', digits', same, absent', plain, -, -, is⟩ := (exact_on _).mp parsed
    obtain ⟨rfl, rfl⟩ := split_unique absent absent' same
    rcases mistaken with nul | large
    · exact plain nul
    · dsimp only at is
      omega
  · intro not_misread net
    refine ⟨fun parsed => ?_, parse_of_spells small⟩
    obtain ⟨host, digits, rfl, absent, number, read, fits, is⟩ := (parse_eq_ok_iff small).mp parsed
    have within := net.prefixLength_le
    have not_mistaken : ¬ (0#8 ∈ host ∨ bits < value digits) := fun mistaken =>
      not_misread ⟨host, digits, net.address, rfl, absent, number, read, fits,
        is.le.trans within, mistaken⟩
    rw [not_or] at not_mistaken
    rw [terminated_eq_self not_mistaken.1] at read
    exact ⟨host, digits, rfl, absent, not_mistaken.1, read, number, by omega⟩

/-- A network is read from its own text when its address is. -/
theorem parse_toString (small : bits < 2 ^ 31)
    {toStringAddress : Address → Except ErrorCode Text} {text : Text}
    (written : toStringAddress net.address = .ok text) (plain : Os.Plain text)
    (read : makeAddress text = .ok net.address) :
    ∃ str, net.toString toStringAddress = .ok str ∧ parse bits makeAddress str = .ok net := by
  refine ⟨text ++ slash :: numeral net.prefixLength, ?_, ?_⟩
  · rw [toString, written]
    rfl
  · exact parse_of_spells small ⟨text, _, rfl, plain.slash, plain.nul, read, isNumber_numeral _,
      value_numeral _⟩

end Network

namespace Os

variable (os : Os)

/-- `make_network_v4`. -/
def makeNetworkV4 (str : Text) : Except ErrorCode NetworkV4 := Network.parse 32 os.makeAddressV4 str

/-- `make_network_v6`. -/
def makeNetworkV6 (str : Text) : Except ErrorCode NetworkV6 :=
  Network.parse 128 os.makeAddressV6 str

/-- `network_v4::to_string`. -/
def networkV4ToString (net : NetworkV4) : Except ErrorCode Text := net.toString os.toStringV4

/-- `network_v6::to_string`. -/
def networkV6ToString (net : NetworkV6) : Except ErrorCode Text := net.toString os.toStringV6

variable {os}

theorem makeNetworkV4_toString (inverts : os.Inverts) (net : NetworkV4) :
    ∃ str, os.networkV4ToString net = .ok str ∧ os.makeNetworkV4 str = .ok net := by
  obtain ⟨text, written, read, plain⟩ := inverts.ntop4 net.address.toUint
  apply Network.parse_toString (by decide) _ plain
  · rw [makeAddressV4, read]
    rfl
  · rw [toStringV4, written]
    rfl

theorem makeNetworkV6_toString (inverts : os.Inverts) (net : NetworkV6)
    (unscoped : net.address.scopeId = 0#64) :
    ∃ str, os.networkV6ToString net = .ok str ∧ os.makeNetworkV6 str = .ok net := by
  obtain ⟨text, written, read, plain, -⟩ := inverts.ntop6 net.address.addr
  apply Network.parse_toString (by decide) _ plain
  · rw [makeAddressV6_of_not_mem plain.percent read, ← unscoped]
    rfl
  · rw [toStringV6_eq written, if_neg (not_not.mpr unscoped)]

/-- The parsers take exactly the texts of an address, a slash and a prefix length, unless a
text is misread. A network without a scope is read from its own text. -/
theorem makeNetwork_exact_iff (inverts : os.Inverts) :
    (∀ str, (∀ net, os.makeNetworkV4 str = .ok net ↔ Network.Spells os.makeAddressV4 str net) ↔
      ¬ Network.Misread 32 os.makeAddressV4 str) ∧
    (∀ str, (∀ net, os.makeNetworkV6 str = .ok net ↔ Network.Spells os.makeAddressV6 str net) ↔
      ¬ Network.Misread 128 os.makeAddressV6 str) ∧
    (∀ net, ∃ str, os.networkV4ToString net = .ok str ∧ os.makeNetworkV4 str = .ok net) ∧
    ∀ net, net.address.scopeId = 0#64 →
      ∃ str, os.networkV6ToString net = .ok str ∧ os.makeNetworkV6 str = .ok net := by
  refine ⟨fun str => Network.parse_iff_spells_iff (by decide),
    fun str => Network.parse_iff_spells_iff (by decide), ?_, ?_⟩
  · exact makeNetworkV4_toString inverts
  · exact makeNetworkV6_toString inverts

/-- The network 2001:1111:2222:3333:4444:5555:6666:7777/64. -/
theorem makeNetwork_exact_spelledOut : ∃ str,
    SpelledOut.os.networkV6ToString ⟨SpelledOut.globalAddr.withScope 0#64, 64, by decide⟩ =
        .ok str ∧
      SpelledOut.os.makeNetworkV6 str =
        .ok ⟨SpelledOut.globalAddr.withScope 0#64, 64, by decide⟩ :=
  (makeNetwork_exact_iff SpelledOut.inverts).2.2.2 _ rfl

/-- The text 192.168.100.200/4294967304 is taken for a prefix length of eight. -/
theorem not_makeNetwork_exact : ¬ ∀ os : Os, os.Inverts → ∀ str net,
    os.makeNetworkV4 str = .ok net ↔ Network.Spells os.makeAddressV4 str net := by
  intro always
  have plain := SpelledOut.plain_inetNtop4 0xC0A864C8#32
  have read : SpelledOut.os.inetPton4 (SpelledOut.inetNtop4 0xC0A864C8#32) =
      .ok 0xC0A864C8#32 := SpelledOut.inetPton4_inetNtop4 0xC0A864C8#32
  have made : SpelledOut.os.makeAddressV4 (SpelledOut.inetNtop4 0xC0A864C8#32) =
      .ok ⟨0xC0A864C8#32⟩ := by
    rw [makeAddressV4, read]
    rfl
  refine (Network.parse_iff_spells_iff (by decide)).mp
    (always SpelledOut.os SpelledOut.inverts (SpelledOut.inetNtop4 0xC0A864C8#32 ++
      slash :: numeral 4294967304)) ⟨_, _, ⟨0xC0A864C8#32⟩, rfl, plain.slash,
        isNumber_numeral _, ?_, ?_⟩
  · rw [terminated_eq_self plain.nul]
    exact made
  · rw [value_numeral]
    decide

end Os

end Asio.Ip
