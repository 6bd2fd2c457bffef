import Asio.Ip.AddressText
import Asio.Ip.Netmask

/-! # A system that spells addresses out

The IPv4 addresses are written as the C library does, the IPv6 addresses without leaving out
zeros, which is how the C library writes those whose groups all have four digits. There is one
interface. It shows that the documented behaviour of a system can be met.
-/

namespace Asio.Ip

open CString

namespace SpelledOut

def dot : BitVec 8 := 0x2E#8

def colon : BitVec 8 := 0x3A#8

def inetNtop4 (addr : BitVec 32) : Text :=
  [dot].intercalate ((AddressV4.toBytes ⟨addr⟩).map fun byte => numeral byte.toNat)

def inetPton4 (text : Text) : Except (Option ℕ+) (BitVec 32) :=
  match (text.splitOn dot).map value with
  | [byte1, byte2, byte3, byte4] =>
      .ok (BitVec.ofNat 32 (((byte1 * 256 + byte2) * 256 + byte3) * 256 + byte4))
  | _ => .error none

def hexDigit (digit : Nat) : BitVec 8 :=
  if digit < 10 then BitVec.ofNat 8 (0x30 + digit) else BitVec.ofNat 8 (0x57 + digit)

def hexValue (char : BitVec 8) : Nat :=
  if char < 0x57#8 then char.toNat - 0x30 else char.toNat - 0x57

def writeByte (byte : BitVec 8) : Text := [hexDigit (byte.toNat / 16), hexDigit (byte.toNat % 16)]

def readByte (high low : BitVec 8) : BitVec 8 :=
  BitVec.ofNat 8 (hexValue high * 16 + hexValue low)

def writeGroups : List (BitVec 8) → List Text
  | byte1 :: byte2 :: bytes => (writeByte byte1 ++ writeByte byte2) :: writeGroups bytes
  | _ => []

def readGroup : Text → List (BitVec 8)
  | [char1, char2, char3, char4] => [readByte char1 char2, readByte char3 char4]
  | _ => []

def inetNtop6 (addr : In6Addr) : Text := [colon].intercalate (writeGroups addr.s6Addr)

def inetPton6 (text : Text) : Except (Option ℕ+) In6Addr :=
  if length : ((text.splitOn colon).flatMap readGroup).length = 16 then .ok ⟨_, length⟩
  else .error none

/-- The name of the interface. -/
def ifName : Text := ofChars ['e', 't', 'h', '0']

/-- The system. -/
def os : Os where
  inetPton4 := inetPton4
  inetNtop4 addr := .ok (inetNtop4 addr)
  inetPton6 := inetPton6
  inetNtop6 addr := .ok (inetNtop6 addr)
  ifNametoindex name := if name = ifName then 2#32 else 0#32
  ifIndextoname index := if index = 2#32 then some ifName else none

/-- The address fe80:1111:2222:3333:4444:5555:6666:7777. -/
def linkAddr : In6Addr where
  s6Addr := [0xFE#8, 0x80#8, 0x11#8, 0x11#8, 0x22#8, 0x22#8, 0x33#8, 0x33#8,
    0x44#8, 0x44#8, 0x55#8, 0x55#8, 0x66#8, 0x66#8, 0x77#8, 0x77#8]
  length_s6Addr := rfl

/-- The address 2001:1111:2222:3333:4444:5555:6666:7777. -/
def globalAddr : In6Addr where
  s6Addr := [0x20#8, 0x01#8, 0x11#8, 0x11#8, 0x22#8, 0x22#8, 0x33#8, 0x33#8,
    0x44#8, 0x44#8, 0x55#8, 0x55#8, 0x66#8, 0x66#8, 0x77#8, 0x77#8]
  length_s6Addr := rfl

/-! ## It is as documented -/

theorem mem_intercalate {Char : Type*} {sep : Char} {texts : List (List Char)} {char : Char}
    (inside : char ∈ [sep].intercalate texts) : char = sep ∨ ∃ text ∈ texts, char ∈ text := by
  induction texts with
  | nil => cases inside
  | cons text texts ih =>
      cases texts with
      | nil =>
          rw [List.intercalate_singleton] at inside
          exact .inr ⟨text, List.mem_singleton_self _, inside⟩
      | cons next texts =>
          rw [List.intercalate_cons_cons, List.mem_append, List.mem_append,
            List.mem_singleton] at inside
          rcases inside with (front | is_sep) | back
          · exact .inr ⟨text, List.mem_cons_self, front⟩
          · exact .inl is_sep
          · rcases ih back with is_sep | ⟨other, among, within⟩
            · exact .inl is_sep
            · exact .inr ⟨other, List.mem_cons_of_mem _ among, within⟩

theorem length_intercalate_le {Char : Type*} {sep : Char} {texts : List (List Char)} {size : Nat}
    (sizes : ∀ text ∈ texts, text.length = size) :
    ([sep].intercalate texts).length ≤ (size + 1) * texts.length := by
  induction texts with
  | nil => exact Nat.zero_le _
  | cons text texts ih =>
      have behind := ih fun other inside => sizes other (List.mem_cons_of_mem _ inside)
      have here := sizes text List.mem_cons_self
      rw [List.length_cons, Nat.mul_succ]
      cases texts with
      | nil =>
          rw [List.intercalate_singleton]
          omega
      | cons next texts =>
          rw [List.intercalate_cons_cons, List.length_append, List.length_append,
            List.length_singleton]
          omega

theorem dot_not_mem_numeral (number : Nat) : dot ∉ numeral number := fun inside =>
  Bool.false_ne_true (isDigit_of_mem_numeral inside)

theorem inetPton4_inetNtop4 (addr : BitVec 32) : inetPton4 (inetNtop4 addr) = .ok addr := by
  have split : (inetNtop4 addr).splitOn dot =
      (AddressV4.toBytes ⟨addr⟩).map fun byte => numeral byte.toNat := by
    apply List.splitOn_intercalate
    · intro text inside
      obtain ⟨byte, -, rfl⟩ := List.mem_map.mp inside
      exact dot_not_mem_numeral _
    · exact List.cons_ne_nil _ _
  rw [inetPton4, split, List.map_map]
  simp only [AddressV4.toBytes, List.map_cons, List.map_nil, Function.comp_apply, value_numeral]
  apply congrArg Except.ok
  apply BitVec.eq_of_toNat_eq
  have bound := addr.isLt
  simp only [BitVec.toNat_ofNat, BitVec.extractLsb'_toNat, Nat.shiftRight_eq_div_pow]
  omega

/-- The bytes that an address is written with. -/
def Written (char : BitVec 8) : Prop := char ≠ 0#8 ∧ char ≠ percent ∧ char ≠ slash

theorem plain_of_written {text : Text} (written : ∀ char ∈ text, Written char) : Os.Plain text where
  nul inside := (written _ inside).1 rfl
  percent inside := (written _ inside).2.1 rfl
  slash inside := (written _ inside).2.2 rfl

theorem plain_inetNtop4 (addr : BitVec 32) : Os.Plain (inetNtop4 addr) := by
  apply plain_of_written
  intro char inside
  rcases mem_intercalate inside with rfl | ⟨text, among, within⟩
  · exact ⟨by decide, by decide, by decide⟩
  · obtain ⟨byte, -, rfl⟩ := List.mem_map.mp among
    have digit := isDigit_of_mem_numeral within
    refine ⟨?_, ?_, ?_⟩ <;>
      · rintro rfl
        cases digit

theorem readByte_writeByte : ∀ byte : BitVec 8,
    readByte (hexDigit (byte.toNat / 16)) (hexDigit (byte.toNat % 16)) = byte := by
  decide

theorem written_hexDigit : ∀ digit < 16, hexDigit digit ≠ colon ∧ hexDigit digit ≠ 0#8 ∧
    hexDigit digit ≠ percent ∧ hexDigit digit ≠ slash := by
  decide

theorem mem_writeGroups {bytes : List (BitVec 8)} {text : Text}
    (inside : text ∈ writeGroups bytes) :
    text.length = 4 ∧ colon ∉ text ∧ ∀ char ∈ text, Written char := by
  induction bytes using writeGroups.induct with
  | case1 byte1 byte2 bytes ih =>
      rcases List.mem_cons.mp inside with rfl | behind
      · have known (char : BitVec 8) (among : char ∈ writeByte byte1 ++ writeByte byte2) :
            char ≠ colon ∧ Written char := by
          have bound := byte1.isLt
          have bound' := byte2.isLt
          simp only [writeByte, List.cons_append, List.nil_append, List.mem_cons,
            List.not_mem_nil, or_false] at among
          rcases among with rfl | rfl | rfl | rfl <;> exact written_hexDigit _ (by omega)
        exact ⟨rfl, fun within => (known _ within).1 rfl, fun char within => (known _ within).2⟩
      · exact ih behind
  | case2 bytes none =>
      rw [writeGroups] at inside
      · cases inside
      · exact none

theorem flatMap_readGroup {bytes : List (BitVec 8)} (even : bytes.length % 2 = 0) :
    (writeGroups bytes).flatMap readGroup = bytes := by
  induction bytes using writeGroups.induct with
  | case1 byte1 byte2 bytes ih =>
      have rest : bytes.length % 2 = 0 := by
        rw [List.length_cons, List.length_cons] at even
        omega
      have group : readGroup (writeByte byte1 ++ writeByte byte2) = [byte1, byte2] := by
        change [readByte (hexDigit (byte1.toNat / 16)) (hexDigit (byte1.toNat % 16)),
          readByte (hexDigit (byte2.toNat / 16)) (hexDigit (byte2.toNat % 16))] = _
        rw [readByte_writeByte, readByte_writeByte]
      rw [writeGroups, List.flatMap_cons, group, ih rest]
      rfl
  | case2 bytes none =>
      cases bytes with
      | nil => rfl
      | cons byte bytes =>
          cases bytes with
          | nil => cases even
          | cons byte' bytes => exact absurd rfl (none byte byte' bytes)

theorem length_writeGroups (bytes : List (BitVec 8)) :
    (writeGroups bytes).length = bytes.length / 2 := by
  induction bytes using writeGroups.induct with
  | case1 byte1 byte2 bytes ih =>
      rw [writeGroups, List.length_cons, ih, List.length_cons, List.length_cons]
      omega
  | case2 bytes none =>
      cases bytes with
      | nil => rfl
      | cons byte bytes =>
          cases bytes with
          | nil => simp [writeGroups]
          | cons byte' bytes => exact absurd rfl (none byte byte' bytes)

theorem inetPton6_inetNtop6 (addr : In6Addr) : inetPton6 (inetNtop6 addr) = .ok addr := by
  have split : (inetNtop6 addr).splitOn colon = writeGroups addr.s6Addr := by
    apply List.splitOn_intercalate
    · exact fun text inside => (mem_writeGroups inside).2.1
    · intro empty
      have length := length_writeGroups addr.s6Addr
      rw [empty, addr.length_s6Addr] at length
      cases length
  have read : ((inetNtop6 addr).splitOn colon).flatMap readGroup = addr.s6Addr := by
    rw [split, flatMap_readGroup]
    rw [addr.length_s6Addr]
  rw [inetPton6, dif_pos (read ▸ addr.length_s6Addr)]
  obtain ⟨bytes, length⟩ := addr
  congr 2

theorem plain_inetNtop6 (addr : In6Addr) : Os.Plain (inetNtop6 addr) := by
  apply plain_of_written
  intro char inside
  rcases mem_intercalate inside with rfl | ⟨text, among, within⟩
  · exact ⟨by decide, by decide, by decide⟩
  · exact (mem_writeGroups among).2.2 char within

theorem length_inetNtop6 (addr : In6Addr) : (inetNtop6 addr).length < 46 := by
  have sizes (text : Text) (inside : text ∈ writeGroups addr.s6Addr) : text.length = 4 :=
    (mem_writeGroups inside).1
  have bound : (inetNtop6 addr).length ≤ (4 + 1) * (writeGroups addr.s6Addr).length :=
    length_intercalate_le sizes
  rw [length_writeGroups, addr.length_s6Addr] at bound
  exact Nat.lt_of_le_of_lt bound (by decide)

theorem length_inetNtop6_le (addr : In6Addr) : (inetNtop6 addr).length ≤ maxAddrV6StrLen :=
  (length_inetNtop6 addr).le.trans (by decide)

theorem inverts : os.Inverts where
  ntop4 addr := ⟨_, rfl, inetPton4_inetNtop4 addr, plain_inetNtop4 addr⟩
  ntop6 addr := ⟨_, rfl, inetPton6_inetNtop6 addr, plain_inetNtop6 addr, length_inetNtop6 addr⟩
  indextoname index name known := by
    change (if index = 2#32 then some ifName else none) = some name at known
    split at known
    · rename_i same
      cases known
      rw [same]
      exact ⟨by decide, rfl, by decide⟩
    · cases known

end SpelledOut

end Asio.Ip
