import Asio.Ip.NetworkV4

/-! # The networks of a netmask

The constructor from a mask reads the bytes of it from the first on. It adds up the leading
ones until a byte ends them, and then takes nothing but zeros.
-/

namespace Asio.Ip

open BigEndian (leadingMask leadingMasks)

/-- What a constructor throws, with its text. -/
inductive Exception where
  | outOfRange (what : String)
  | invalidArgument (what : String)
  deriving DecidableEq, Repr

/-- `to_bytes`. -/
def AddressV4.toBytes (addr : AddressV4) : List (BitVec 8) :=
  [addr.toUint.extractLsb' 24 8, addr.toUint.extractLsb' 16 8, addr.toUint.extractLsb' 8 8,
    addr.toUint.extractLsb' 0 8]

namespace NetworkV4

/-- The labels of the switch behind that of 255. Each of them adds one and falls through to
the next; the last one adds nothing. -/
def maskLabels : List (BitVec 8) := [254#8, 252#8, 248#8, 240#8, 224#8, 192#8, 128#8, 0#8]

/-- The switch: what a byte of the mask adds to the prefix length, and whether the mask is
finished with it. -/
def maskByte (byte : BitVec 8) : Option (Nat × Bool) :=
  if byte = 255#8 then some (8, false)
  else match maskLabels.dropWhile (· != byte) with
    | [] => none
    | _ :: below => some (below.length, true)

/-- The loop through the bytes of the mask. -/
def scanMask : List (BitVec 8) → Bool → Nat → Except Exception Nat
  | [], _, prefixLength => .ok prefixLength
  | byte :: bytes, true, prefixLength =>
      if byte ≠ 0#8 then .error (.invalidArgument "non-contiguous netmask")
      else scanMask bytes true prefixLength
  | byte :: bytes, false, prefixLength =>
      match maskByte byte with
      | none => .error (.outOfRange "non-contiguous netmask")
      | some (adds, finished) => scanMask bytes finished (prefixLength + adds)

theorem maskByte_leadingMask :
    ∀ adds < 9, maskByte (leadingMask 8 adds) = some (adds, decide (adds < 8)) := by
  decide

theorem exists_leadingMask :
    ∀ byte, (maskByte byte).isSome = true → ∃ adds < 9, byte = leadingMask 8 adds := by
  decide

/-- The switch knows the bytes that are masks. -/
theorem maskByte_eq_some {byte : BitVec 8} {adds : Nat} {finished : Bool}
    (known : maskByte byte = some (adds, finished)) :
    byte = leadingMask 8 adds ∧ adds ≤ 8 ∧ finished = decide (adds < 8) := by
  obtain ⟨bits, within, rfl⟩ := exists_leadingMask byte (by rw [known]; rfl)
  rw [maskByte_leadingMask bits within] at known
  cases known
  exact ⟨rfl, Nat.lt_succ_iff.mp within, rfl⟩

theorem leadingMask_injective {adds adds' : Nat} (within : adds ≤ 8) (within' : adds' ≤ 8)
    (same : leadingMask 8 adds = leadingMask 8 adds') : adds = adds' := by
  have known := maskByte_leadingMask adds (Nat.lt_succ_iff.mpr within)
  rw [same, maskByte_leadingMask adds' (Nat.lt_succ_iff.mpr within')] at known
  cases known
  rfl

theorem scanMask_finished_eq_ok_iff {bytes : List (BitVec 8)} {prefixLength total : Nat} :
    scanMask bytes true prefixLength = .ok total ↔
      total = prefixLength ∧ bytes = leadingMasks 8 bytes.length 0 := by
  induction bytes with
  | nil =>
      rw [scanMask, Except.ok.injEq]
      exact ⟨fun same => ⟨same.symm, rfl⟩, fun same => same.1.symm⟩
  | cons byte bytes ih =>
      have zero : leadingMask 8 (min 8 0) = 0#8 := by decide
      rw [scanMask, List.length_cons, leadingMasks, zero, List.cons.injEq]
      split
      · rename_i other
        constructor
        · intro failed
          cases failed
        · rintro ⟨-, same, -⟩
          exact absurd same other
      · rename_i same
        rw [ih, and_iff_right (not_not.mp same)]

/-- By induction on the bytes; a byte that ends the ones leaves the rest to
`scanMask_finished_eq_ok_iff`. -/
theorem scanMask_eq_ok_iff {bytes : List (BitVec 8)} {prefixLength total : Nat} :
    scanMask bytes false prefixLength = .ok total ↔
      ∃ bits ≤ 8 * bytes.length,
        total = prefixLength + bits ∧ bytes = leadingMasks 8 bytes.length bits := by
  induction bytes generalizing prefixLength with
  | nil =>
      rw [scanMask, Except.ok.injEq]
      constructor
      · rintro rfl
        exact ⟨0, Nat.le_refl _, rfl, rfl⟩
      · rintro ⟨bits, none, rfl, -⟩
        rw [Nat.le_zero.mp none, Nat.add_zero]
  | cons byte bytes ih =>
      have heads {bits : Nat} (same : byte :: bytes = leadingMasks 8 (bytes.length + 1) bits) :
          byte = leadingMask 8 (min 8 bits) ∧ bytes = leadingMasks 8 bytes.length (bits - 8) :=
        List.cons.inj same
      rw [scanMask, List.length_cons]
      cases known : maskByte byte with
      | none =>
          constructor
          · intro failed
            cases failed
          · rintro ⟨bits, -, -, same⟩
            rw [(heads same).1, maskByte_leadingMask _ (by omega)] at known
            cases known
      | some read =>
          obtain ⟨adds, finished⟩ := read
          obtain ⟨rfl, within, rfl⟩ := maskByte_eq_some known
          have adds_eq {bits : Nat}
              (same : leadingMask 8 adds :: bytes = leadingMasks 8 (bytes.length + 1) bits) :
              adds = min 8 bits :=
            leadingMask_injective within (Nat.min_le_left _ _) (heads same).1
          by_cases ends : adds < 8
          · rw [decide_eq_true ends]
            dsimp only
            rw [scanMask_finished_eq_ok_iff]
            constructor
            · rintro ⟨rfl, rest⟩
              refine ⟨adds, by omega, rfl, ?_⟩
              rw [leadingMasks, Nat.min_eq_right within, Nat.sub_eq_zero_of_le within, ← rest]
            · rintro ⟨bits, -, rfl, same⟩
              have is := adds_eq same
              obtain rfl : adds = bits := by omega
              have rest := (heads same).2
              rw [Nat.sub_eq_zero_of_le within] at rest
              exact ⟨rfl, rest⟩
          · obtain rfl : adds = 8 := by omega
            rw [decide_eq_false ends]
            dsimp only
            rw [ih]
            constructor
            · rintro ⟨bits, fits, rfl, rest⟩
              refine ⟨bits + 8, by omega, by omega, ?_⟩
              rw [leadingMasks, Nat.min_eq_left (Nat.le_add_left _ _), Nat.add_sub_cancel, ← rest]
            · rintro ⟨bits, fits, rfl, same⟩
              have is := adds_eq same
              exact ⟨bits - 8, by omega, by omega, (heads same).2⟩

theorem scanMask_le {mask : AddressV4} {prefixLength : Nat}
    (scanned : scanMask mask.toBytes false 0 = .ok prefixLength) : prefixLength ≤ 32 := by
  obtain ⟨bits, within, rfl, -⟩ := scanMask_eq_ok_iff.mp scanned
  rw [Nat.zero_add]
  exact within

/-- The constructor from an address and a mask. -/
def ofMask (addr mask : AddressV4) : Except Exception NetworkV4 :=
  match scanned : scanMask mask.toBytes false 0 with
  | .error thrown => .error thrown
  | .ok prefixLength => .ok ⟨addr, prefixLength, scanMask_le scanned⟩

theorem toBytes_injective {addr other : AddressV4} (same : addr.toBytes = other.toBytes) :
    addr = other := by
  simp only [AddressV4.toBytes, List.cons.injEq, ← BitVec.toNat_inj, BitVec.extractLsb'_toNat,
    Nat.shiftRight_eq_div_pow] at same
  apply AddressV4.value_injective
  have bound := addr.value_lt
  have bound' := other.value_lt
  rw [AddressV4.value, AddressV4.value] at *
  omega

theorem toBytes_leadingMask : ∀ bits < 33,
    AddressV4.toBytes ⟨leadingMask 32 bits⟩ = leadingMasks 8 4 bits := by
  decide

theorem toBytes_netmask (net : NetworkV4) :
    net.netmask.toBytes = leadingMasks 8 4 net.prefixLength := by
  rw [← toBytes_leadingMask _ (Nat.lt_succ_iff.mpr net.prefixLength_le), ← netmask_eq]

/-- The constructor answers the network whose netmask is the mask. -/
theorem ofMask_eq_ok_iff {addr mask : AddressV4} {net : NetworkV4} :
    ofMask addr mask = .ok net ↔ net.address = addr ∧ net.netmask = mask := by
  have scan_iff : scanMask mask.toBytes false 0 = .ok net.prefixLength ↔ net.netmask = mask := by
    rw [scanMask_eq_ok_iff]
    constructor
    · rintro ⟨bits, -, is, same⟩
      rw [Nat.zero_add] at is
      apply toBytes_injective
      rw [toBytes_netmask, is]
      exact same.symm
    · rintro rfl
      exact ⟨net.prefixLength, net.prefixLength_le, (Nat.zero_add _).symm, toBytes_netmask net⟩
  rw [← scan_iff]
  unfold ofMask
  split
  · rename_i failed
    rw [failed]
    constructor
    · intro made
      cases made
    · rintro ⟨-, scanned⟩
      cases scanned
  · rename_i prefixLength scanned
    constructor
    · intro made
      cases made
      exact ⟨rfl, scanned⟩
    · rintro ⟨rfl, scanned'⟩
      obtain rfl : prefixLength = net.prefixLength :=
        Except.ok.inj (scanned.symm.trans scanned')
      rfl

end NetworkV4

end Asio.Ip
