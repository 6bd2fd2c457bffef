import Mathlib.Algebra.Group.Nat.Defs
import Mathlib.Data.List.Basic
import Mathlib.Data.List.TakeWhile
import Mathlib.Data.Nat.Digits.Lemmas

/-! # Texts of the C library

Texts of bytes: what a C function reads of one, where a byte is first found in it, how a
number is printed, and what `strtol` and `atoi` make of any text. A number of too many digits
is the greatest `long`, and an `int` keeps the low half of it.
-/

namespace CString

/-- A text is any bytes. -/
abbrev Text := List (BitVec 8)

/-- The text of some characters. -/
def ofChars (chars : List Char) : Text := chars.map fun char => BitVec.ofNat 8 char.toNat

/-- What a C function reads of a text, the bytes before the first NUL. -/
def terminated (text : Text) : Text := text.takeWhile (· != 0#8)

theorem terminated_eq_self {text : Text} (plain : 0#8 ∉ text) : terminated text = text := by
  rw [terminated, List.takeWhile_eq_self_iff]
  intro char inside
  rw [bne_iff_ne]
  rintro rfl
  exact plain inside

/-! ## Where a byte is first found -/

section Find

variable {Char : Type*} [BEq Char] [LawfulBEq Char] {sep : Char} {text : List Char}

theorem findIdx?_eq_none (absent : sep ∉ text) : text.findIdx? (· == sep) = none := by
  rw [List.findIdx?_eq_none_iff]
  intro char inside
  rw [beq_eq_false_iff_ne]
  rintro rfl
  exact absent inside

/-- What stands before the first separator tells where it is found. -/
theorem findIdx?_append_cons {front back : List Char} (absent : sep ∉ front) :
    (front ++ sep :: back).findIdx? (· == sep) = some front.length := by
  rw [List.findIdx?_append, findIdx?_eq_none absent, List.findIdx?_cons, beq_self_eq_true]
  exact congrArg some (Nat.zero_add _)

/-- A text is split at its first separator in one way only. -/
theorem split_unique {front back front' back' : List Char} (absent : sep ∉ front)
    (absent' : sep ∉ front') (same : front ++ sep :: back = front' ++ sep :: back') :
    front = front' ∧ back = back' := by
  have found : (front ++ sep :: back).findIdx? (· == sep) = some front.length :=
    findIdx?_append_cons absent
  rw [same, findIdx?_append_cons absent'] at found
  obtain ⟨rfl, rest⟩ := List.append_inj same (Option.some.inj found).symm
  exact ⟨rfl, (List.cons.inj rest).2⟩

omit [BEq Char] [LawfulBEq Char] in
theorem drop_behind (front back : List Char) (sep : Char) :
    (front ++ sep :: back).drop (front.length + 1) = back := by
  rw [← List.drop_drop, List.drop_left]
  rfl

end Find

/-! ## Decimal numbers -/

/-- `isdigit`. -/
def isDigit (char : BitVec 8) : Bool := 0x30#8 ≤ char && char ≤ 0x39#8

/-- `isspace`. -/
def isSpace (char : BitVec 8) : Bool := char == 0x20#8 || (0x09#8 ≤ char && char ≤ 0x0D#8)

/-- A text of digits. -/
def IsNumber (text : Text) : Prop := text ≠ [] ∧ ∀ char ∈ text, isDigit char = true

/-- The number of some digits. -/
def value (digits : Text) : Nat :=
  digits.foldl (fun total char => total * 10 + (char.toNat - 0x30)) 0

/-- How a number is printed. -/
def numeral (number : Nat) : Text :=
  if number = 0 then [0x30#8]
  else (Nat.digits 10 number).reverse.map fun digit => BitVec.ofNat 8 (0x30 + digit)

theorem isDigit_iff {char : BitVec 8} :
    isDigit char = true ↔ 0x30 ≤ char.toNat ∧ char.toNat ≤ 0x39 := by
  rw [isDigit, Bool.and_eq_true, decide_eq_true_iff, decide_eq_true_iff, BitVec.le_def,
    BitVec.le_def]
  rfl

theorem toNat_digit {digit : Nat} (less : digit < 10) :
    (BitVec.ofNat 8 (0x30 + digit)).toNat = 0x30 + digit := by
  rw [BitVec.toNat_ofNat]
  exact Nat.mod_eq_of_lt (by omega)

theorem value_concat (digits : Text) (char : BitVec 8) :
    value (digits ++ [char]) = value digits * 10 + (char.toNat - 0x30) := by
  rw [value, List.foldl_append]
  rfl

/-- By induction on the digits from the least significant one on. -/
theorem value_map_digits {digits : List Nat} (less : ∀ digit ∈ digits, digit < 10) :
    value (digits.reverse.map fun digit => BitVec.ofNat 8 (0x30 + digit)) =
      Nat.ofDigits 10 digits := by
  induction digits with
  | nil => rfl
  | cons digit digits ih =>
      have rest := ih fun other inside => less other (List.mem_cons_of_mem _ inside)
      rw [List.reverse_cons, List.map_append, List.map_singleton, value_concat, rest,
        toNat_digit (less digit List.mem_cons_self), Nat.ofDigits_cons]
      omega

theorem value_numeral (number : Nat) : value (numeral number) = number := by
  rw [numeral]
  split
  · rename_i zero
    rw [zero]
    rfl
  · have less (digit : Nat) (inside : digit ∈ Nat.digits 10 number) : digit < 10 :=
      Nat.digits_lt_base (by decide) inside
    rw [value_map_digits less, Nat.ofDigits_digits]

theorem numeral_ne_nil (number : Nat) : numeral number ≠ [] := by
  rw [numeral]
  split
  · exact List.cons_ne_nil _ _
  · rename_i positive
    intro empty
    rw [List.map_eq_nil_iff, List.reverse_eq_nil_iff, Nat.digits_eq_nil_iff_eq_zero] at empty
    exact positive empty

theorem isDigit_of_mem_numeral {number : Nat} {char : BitVec 8} (inside : char ∈ numeral number) :
    isDigit char = true := by
  rw [numeral] at inside
  split at inside
  · rw [List.mem_singleton.mp inside]
    rfl
  · obtain ⟨digit, among, rfl⟩ := List.mem_map.mp inside
    have less : digit < 10 := Nat.digits_lt_base (by decide) (List.mem_reverse.mp among)
    rw [isDigit_iff, toNat_digit less]
    omega

/-- A number has few digits. -/
theorem length_numeral_le {number count : Nat} (positive : 0 < count)
    (small : number < 10 ^ count) : (numeral number).length ≤ count := by
  rw [numeral]
  split
  · exact positive
  · rw [List.length_map, List.length_reverse]
    exact (Nat.digits_length_le_iff (Nat.one_lt_succ_succ 8) number).mpr small

theorem isNumber_numeral (number : Nat) : IsNumber (numeral number) :=
  ⟨numeral_ne_nil number, fun _ inside => isDigit_of_mem_numeral inside⟩

theorem terminated_digits {digits : Text} (all : ∀ char ∈ digits, isDigit char = true) :
    terminated digits = digits :=
  terminated_eq_self fun inside => Bool.false_ne_true (all _ inside)

/-! ## Conversions -/

/-- `strtol` in base ten, whose `long` has 64 bits. -/
def strtol (text : Text) : Int :=
  match text.dropWhile isSpace with
  | [] => 0
  | char :: rest =>
      if char = 0x2D#8 then max (-2 ^ 63) (-value (rest.takeWhile isDigit) : Int)
      else if char = 0x2B#8 then min (2 ^ 63 - 1) (value (rest.takeWhile isDigit) : Int)
      else min (2 ^ 63 - 1) (value ((char :: rest).takeWhile isDigit) : Int)

/-- `atoi`, what `strtol` answers as an `int` of 32 bits. -/
def atoi (text : Text) : Int := (strtol text).bmod (2 ^ 32)

/-- What `strtol` answers is negative for a sign only. -/
theorem strtol_digits {digits : Text} (all : ∀ char ∈ digits, isDigit char = true) :
    strtol digits = min (2 ^ 63 - 1) (value digits : Int) := by
  cases digits with
  | nil => rfl
  | cons char rest =>
      have digit := isDigit_iff.mp (all char List.mem_cons_self)
      have not_space : ¬ isSpace char = true := by
        rw [isSpace, Bool.or_eq_true, Bool.and_eq_true, beq_iff_eq, decide_eq_true_iff,
          decide_eq_true_iff, BitVec.le_def, BitVec.le_def]
        rintro (rfl | ⟨-, low⟩)
        · exact absurd digit (by decide)
        · exact absurd (digit.1.trans low) (by decide)
      have not_minus : char ≠ 0x2D#8 := by
        rintro rfl
        exact absurd digit (by decide)
      have not_plus : char ≠ 0x2B#8 := by
        rintro rfl
        exact absurd digit (by decide)
      rw [strtol, List.dropWhile_cons_of_neg not_space]
      dsimp only
      rw [if_neg not_minus, if_neg not_plus, List.takeWhile_eq_self_iff.mpr all]

/-- Spaces in front of a number are skipped. -/
theorem strtol_spaces (count : Nat) (text : Text) :
    strtol (List.replicate count 0x20#8 ++ text) = strtol text := by
  have skipped : (List.replicate count 0x20#8 ++ text).dropWhile isSpace =
      text.dropWhile isSpace := by
    apply List.dropWhile_append_of_pos
    intro char inside
    rw [List.eq_of_mem_replicate inside]
    rfl
  rw [strtol, skipped]
  rfl

/-- Some digits are read as a number up to a bound when they wrap to it. -/
theorem atoi_digits_iff {digits : Text} (all : ∀ char ∈ digits, isDigit char = true)
    {bound : Nat} (small : bound < 2 ^ 31) :
    0 ≤ atoi digits ∧ atoi digits ≤ bound ↔
      value digits < 2 ^ 63 ∧ value digits % 2 ^ 32 ≤ bound := by
  rw [atoi, strtol_digits all, Int.bmod_def]
  split <;> omega

theorem atoi_digits_eq {digits : Text} (all : ∀ char ∈ digits, isDigit char = true)
    (small : value digits < 2 ^ 63) (wraps : value digits % 2 ^ 32 < 2 ^ 31) :
    atoi digits = (value digits % 2 ^ 32 : Nat) := by
  rw [atoi, strtol_digits all, Int.bmod_def]
  split <;> omega

/-- An `int` that is read from digits and goes on as an `unsigned long` is the number when the
number fits the `int`; the greatest `long` goes on as the greatest `unsigned long`. -/
theorem ofInt_atoi_digits_iff {digits : Text} (all : ∀ char ∈ digits, isDigit char = true) :
    (BitVec.ofInt 64 (atoi digits)).toNat = value digits ↔
      value digits < 2 ^ 31 ∨ value digits = 2 ^ 64 - 1 := by
  rw [BitVec.toNat_ofInt, atoi, strtol_digits all, Int.bmod_def]
  split <;> omega

end CString
