import Mathlib.Data.List.Basic
import Mathlib.Data.List.GetD
import Mathlib.Data.List.Induction
import Mathlib.Data.Nat.ModEq
import Mathlib.Tactic.Ring

/-! # Numbers written in digits of some bits, the most significant digit first

The order of two numbers is the order of their first different digits, one is added from the
last digit on, and the bits behind a leading block are cleared or set digit by digit.
-/

namespace BigEndian

variable {w : Nat}

/-- The number that digits stand for. -/
def value : List (BitVec w) → Nat
  | [] => 0
  | digit :: digits => digit.toNat * 2 ^ (w * digits.length) + value digits

@[simp] theorem value_nil : value ([] : List (BitVec w)) = 0 := rfl

theorem value_cons (digit : BitVec w) (digits : List (BitVec w)) :
    value (digit :: digits) = digit.toNat * 2 ^ (w * digits.length) + value digits := rfl

theorem pow_succ_length (count : Nat) : 2 ^ (w * (count + 1)) = 2 ^ w * 2 ^ (w * count) := by
  rw [Nat.mul_succ, Nat.pow_add, Nat.mul_comm]

theorem value_lt (digits : List (BitVec w)) : value digits < 2 ^ (w * digits.length) := by
  induction digits with
  | nil => exact Nat.one_pos
  | cons digit digits ih =>
      rw [value_cons, List.length_cons, pow_succ_length]
      calc digit.toNat * 2 ^ (w * digits.length) + value digits
          < (digit.toNat + 1) * 2 ^ (w * digits.length) := by rw [Nat.succ_mul]; omega
        _ ≤ 2 ^ w * 2 ^ (w * digits.length) := Nat.mul_le_mul_right _ digit.isLt

theorem value_append (front back : List (BitVec w)) :
    value (front ++ back) = value front * 2 ^ (w * back.length) + value back := by
  induction front with
  | nil => rw [List.nil_append, value_nil, Nat.zero_mul, Nat.zero_add]
  | cons digit front ih =>
      rw [List.cons_append, value_cons, value_cons, ih, List.length_append, Nat.mul_add,
        Nat.pow_add]
      ring

theorem value_concat (front : List (BitVec w)) (digit : BitVec w) :
    value (front ++ [digit]) = value front * 2 ^ w + digit.toNat := by
  rw [value_append, value_cons]
  simp

/-! ## The order -/

/-- The first digit decides. -/
theorem value_cons_lt_cons {digit other : BitVec w} {digits others : List (BitVec w)}
    (same : digits.length = others.length) (less : digit < other) :
    value (digit :: digits) < value (other :: others) := by
  have bound := value_lt digits
  rw [value_cons, value_cons]
  rw [same] at bound ⊢
  calc digit.toNat * 2 ^ (w * others.length) + value digits
      < (digit.toNat + 1) * 2 ^ (w * others.length) := by rw [Nat.succ_mul]; omega
    _ ≤ other.toNat * 2 ^ (w * others.length) := Nat.mul_le_mul_right _ less
    _ ≤ _ := Nat.le_add_right _ _

theorem value_injective {digits others : List (BitVec w)} (same : digits.length = others.length)
    (equal : value digits = value others) : digits = others := by
  induction digits generalizing others with
  | nil => exact (List.eq_nil_of_length_eq_zero same.symm).symm
  | cons digit digits ih =>
      cases others with
      | nil => cases same
      | cons other others =>
          have tails : digits.length = others.length := Nat.succ.inj same
          have heads : digit = other := by
            rcases BitVec.lt_trichotomy digit other with less | heads | greater
            · exact absurd equal (value_cons_lt_cons tails less).ne
            · exact heads
            · exact absurd equal (value_cons_lt_cons tails.symm greater).ne'
          rw [value_cons, value_cons, heads, tails] at equal
          rw [heads, ih tails (Nat.add_left_cancel equal)]

/-- How the first different digits compare. -/
def compareDigits : List (BitVec w) → List (BitVec w) → Ordering
  | digit :: digits, other :: others =>
      if digit < other then .lt else if other < digit then .gt else compareDigits digits others
  | _, _ => .eq

theorem compareDigits_eq {digits others : List (BitVec w)} (same : digits.length = others.length) :
    compareDigits digits others = compare (value digits) (value others) := by
  induction digits generalizing others with
  | nil =>
      rw [List.eq_nil_of_length_eq_zero same.symm]
      rfl
  | cons digit digits ih =>
      cases others with
      | nil => cases same
      | cons other others =>
          have tails : digits.length = others.length := Nat.succ.inj same
          rw [compareDigits]
          split_ifs with less greater
          · exact (Nat.compare_eq_lt.mpr (value_cons_lt_cons tails less)).symm
          · exact (Nat.compare_eq_gt.mpr (value_cons_lt_cons tails.symm greater)).symm
          · have heads : digit = other := BitVec.le_antisymm (BitVec.not_lt.mp greater)
              (BitVec.not_lt.mp less)
            rw [ih tails, value_cons, value_cons, heads, tails, Nat.compare_eq_ite_lt,
              Nat.compare_eq_ite_lt]
            simp only [Nat.add_lt_add_iff_left]

/-! ## Adding one -/

/-- One is added to the digits before a place, the last of them first: a digit that is at
its greatest becomes zero, and the digit before it is next. -/
def incrementBefore : Nat → List (BitVec w) → List (BitVec w)
  | 0, digits => digits
  | place + 1, digits =>
      if digits.getD place 0#w < BitVec.allOnes w then
        digits.set place (digits.getD place 0#w + 1#w)
      else incrementBefore place (digits.set place 0#w)

theorem toNat_add_one {digit : BitVec w} (less : digit < BitVec.allOnes w) :
    (digit + 1#w).toNat = digit.toNat + 1 := by
  have lt : digit.toNat < (BitVec.allOnes w).toNat := less
  rw [BitVec.toNat_allOnes] at lt
  rw [BitVec.toNat_add, BitVec.toNat_ofNat, Nat.add_mod_mod, Nat.mod_eq_of_lt (by omega)]

theorem toNat_of_not_lt {digit : BitVec w} (not_less : ¬ digit < BitVec.allOnes w) :
    digit.toNat + 1 = 2 ^ w := by
  have not_lt : ¬ digit.toNat < (BitVec.allOnes w).toNat := not_less
  have bound := digit.isLt
  rw [BitVec.toNat_allOnes] at not_lt
  omega

/-- By induction on the digits before the place; what stands behind them stays. -/
theorem incrementBefore_append (front back : List (BitVec w)) :
    ∃ next, incrementBefore front.length (front ++ back) = next ++ back ∧
      next.length = front.length ∧ value next = (value front + 1) % 2 ^ (w * front.length) := by
  induction front using List.reverseRecOn generalizing back with
  | nil => exact ⟨[], rfl, rfl, by simp⟩
  | append_singleton front digit ih =>
      have here : (front ++ [digit] ++ back).getD front.length 0#w = digit := by simp
      have puts (other : BitVec w) :
          (front ++ [digit] ++ back).set front.length other = front ++ [other] ++ back := by simp
      rw [List.length_append, List.length_singleton, incrementBefore, here, puts, puts,
        value_concat, pow_succ_length, Nat.add_assoc]
      by_cases less : digit < BitVec.allOnes w
      · refine ⟨front ++ [digit + 1#w], if_pos less, by simp, ?_⟩
        have bound := value_lt (front ++ [digit + 1#w])
        rw [value_concat, toNat_add_one less] at bound ⊢
        rw [List.length_append, List.length_singleton, pow_succ_length] at bound
        exact (Nat.mod_eq_of_lt bound).symm
      · obtain ⟨next, ends, length, is⟩ := ih (0#w :: back)
        refine ⟨next ++ [0#w], ?_, by simp [length], ?_⟩
        · rw [if_neg less, List.append_assoc]
          simpa using ends
        · rw [value_concat, is, toNat_of_not_lt less, BitVec.toNat_ofNat, Nat.zero_mod,
            Nat.add_zero, ← Nat.succ_mul, Nat.mul_comm (2 ^ w), Nat.mul_mod_mul_right]

/-- The digits of the next number; zero comes after the last one. -/
def increment (digits : List (BitVec w)) : List (BitVec w) :=
  incrementBefore digits.length digits

@[simp] theorem length_increment (digits : List (BitVec w)) :
    (increment digits).length = digits.length := by
  obtain ⟨next, is, length, -⟩ := incrementBefore_append digits []
  rw [List.append_nil, List.append_nil] at is
  rw [increment, is, length]

theorem value_increment (digits : List (BitVec w)) :
    value (increment digits) = (value digits + 1) % 2 ^ (w * digits.length) := by
  obtain ⟨next, is, -, equal⟩ := incrementBefore_append digits []
  rw [List.append_nil, List.append_nil] at is
  rw [increment, is, equal]

/-! ## Clearing and setting what is behind a leading block of bits -/

/-- How many of the leading bits are in the digit at a place. -/
def leadingBits (w bits place : Nat) : Nat := min w (bits - w * place)

theorem leadingBits_succ (bits place : Nat) :
    leadingBits w bits (place + 1) = leadingBits w (bits - w) place := by
  rw [leadingBits, leadingBits, Nat.mul_succ, Nat.add_comm, Nat.sub_add_eq]

theorem leadingBits_zero (bits : Nat) : leadingBits w bits 0 = min w bits := by
  rw [leadingBits, Nat.mul_zero, Nat.sub_zero]

/-- What clears the bits of a number behind the leading ones, and sets them to ones when
`ones` is one. -/
def keepLeading (ones size bits number : Nat) : Nat :=
  number / 2 ^ (size - bits) * 2 ^ (size - bits) + ones * (2 ^ (size - bits) - 1)

@[simp] theorem keepLeading_self (ones size number : Nat) :
    keepLeading ones size size number = number := by
  simp [keepLeading]

/-- The numbers with the same leading bits are those from the one whose other bits are
cleared to the one whose other bits are set. -/
theorem keepLeading_between_iff {size bits number other : Nat} :
    keepLeading 0 size bits number ≤ other ∧ other ≤ keepLeading 1 size bits number ↔
      other / 2 ^ (size - bits) = number / 2 ^ (size - bits) := by
  have pos := Nat.two_pow_pos (size - bits)
  rw [keepLeading, keepLeading, Nat.zero_mul, Nat.add_zero, Nat.one_mul, Nat.div_eq_iff pos,
    Nat.mul_comm]
  omega

/-- A block of leading bits that ends in the first digit. -/
theorem keepLeading_cons_of_le (ones : Nat) {bits count digit rest : Nat} (within : bits ≤ w)
    (bound : rest < 2 ^ (w * count)) :
    keepLeading ones w bits digit * 2 ^ (w * count) + keepLeading ones (w * count) 0 rest =
      keepLeading ones (w * (count + 1)) bits (digit * 2 ^ (w * count) + rest) := by
  have size : w * (count + 1) - bits = w * count + (w - bits) := by
    rw [Nat.mul_succ]
    omega
  have low : rest / 2 ^ (w * count) = 0 := Nat.div_eq_of_lt bound
  have high : (digit * 2 ^ (w * count) + rest) / 2 ^ (w * count) = digit := by
    rw [Nat.add_comm, Nat.add_mul_div_right _ _ (Nat.two_pow_pos _), low, Nat.zero_add]
  have pos := Nat.two_pow_pos (w * count)
  have pos' := Nat.two_pow_pos (w - bits)
  rw [keepLeading, keepLeading, keepLeading, size, Nat.sub_zero, low, Nat.zero_mul, Nat.zero_add,
    Nat.pow_add, ← Nat.div_div_eq_div_mul, high]
  obtain ⟨block, is⟩ := Nat.exists_eq_add_of_lt pos
  obtain ⟨inner, is'⟩ := Nat.exists_eq_add_of_lt pos'
  rw [is, is']
  simp only [Nat.zero_add, Nat.add_sub_cancel]
  have product : (block + 1) * (inner + 1) - 1 = inner * (block + 1) + block := by
    rw [Nat.mul_succ, Nat.mul_comm]
    omega
  rw [product]
  ring

/-- A block of leading bits that goes on behind the first digit. -/
theorem keepLeading_cons_of_ge (ones : Nat) {bits count digit rest : Nat} (beyond : w ≤ bits)
    (ends : bits ≤ w * (count + 1)) :
    digit * 2 ^ (w * count) + keepLeading ones (w * count) (bits - w) rest =
      keepLeading ones (w * (count + 1)) bits (digit * 2 ^ (w * count) + rest) := by
  have size : w * (count + 1) - bits = w * count - (bits - w) := by
    rw [Nat.mul_succ] at ends ⊢
    omega
  have split : 2 ^ (w * count) =
      2 ^ (bits - w) * 2 ^ (w * count - (bits - w)) := by
    rw [← Nat.pow_add]
    congr 1
    rw [Nat.mul_succ] at ends
    omega
  rw [keepLeading, keepLeading, size, split, ← Nat.mul_assoc, Nat.add_comm (_ * _) rest,
    Nat.add_mul_div_right _ _ (Nat.two_pow_pos _), Nat.add_mul]
  ring

/-- What keeps the leading bits of every digit keeps those of the number. -/
theorem value_mapIdx_keepLeading {ones bits : Nat} {keep : Nat → BitVec w → BitVec w}
    {digits : List (BitVec w)}
    (keeps : ∀ place digit,
      (keep place digit).toNat = keepLeading ones w (leadingBits w bits place) digit.toNat)
    (ends : bits ≤ w * digits.length) :
    value (digits.mapIdx keep) = keepLeading ones (w * digits.length) bits (value digits) := by
  induction digits generalizing bits keep with
  | nil =>
      obtain rfl : bits = 0 := Nat.le_zero.mp ends
      simp [keepLeading]
  | cons digit digits ih =>
      have behind (place : Nat) (other : BitVec w) : (keep (place + 1) other).toNat =
          keepLeading ones w (leadingBits w (bits - w) place) other.toNat := by
        rw [keeps, leadingBits_succ]
      rw [List.length_cons] at ends ⊢
      rw [List.mapIdx_cons, value_cons, value_cons, List.length_mapIdx, keeps, leadingBits_zero,
        ih behind]
      · rcases Nat.le_total bits w with within | beyond
        · rw [Nat.min_eq_right within, Nat.sub_eq_zero_of_le within,
            keepLeading_cons_of_le ones within (value_lt digits)]
        · rw [Nat.min_eq_left beyond, keepLeading_self, keepLeading_cons_of_ge ones beyond ends]
      · rw [Nat.mul_succ] at ends
        omega

/-! ## Masks -/

/-- A mask of leading ones. -/
def leadingMask (w bits : Nat) : BitVec w := BitVec.allOnes w <<< (w - bits)

/-- The mask clears the bits behind the leading ones. -/
theorem toNat_and_leadingMask (word : BitVec w) (bits : Nat) :
    (word &&& leadingMask w bits).toNat = keepLeading 0 w bits word.toNat := by
  rw [leadingMask, keepLeading, Nat.zero_mul, Nat.add_zero]
  generalize w - bits = low
  have shifted : word &&& BitVec.allOnes w <<< low = word >>> low <<< low := by
    apply BitVec.eq_of_getLsbD_eq
    intro place inside
    simp only [BitVec.getLsbD_and, BitVec.getLsbD_shiftLeft, BitVec.getLsbD_ushiftRight,
      BitVec.getLsbD_allOnes, inside, decide_true, Bool.true_and]
    by_cases below : place < low
    · simp [below]
    · have back : low + (place - low) = place := by omega
      have fits : place - low < w := by omega
      simp [below, back, fits]
  rw [shifted, BitVec.toNat_shiftLeft, BitVec.toNat_ushiftRight, Nat.shiftLeft_eq,
    Nat.shiftRight_eq_div_pow, Nat.mod_eq_of_lt]
  exact (Nat.div_mul_le_self _ _).trans_lt word.isLt

theorem toNat_not_leadingMask (bits : Nat) :
    (~~~leadingMask w bits).toNat = 2 ^ (w - bits) - 1 := by
  have less : 2 ^ (w - bits) ≤ 2 ^ w := Nat.pow_le_pow_right Nat.two_pos (Nat.sub_le _ _)
  have pos := Nat.two_pow_pos (w - bits)
  have product : (2 ^ w - 1) * 2 ^ (w - bits) =
      (2 ^ (w - bits) - 1) * 2 ^ w + (2 ^ w - 2 ^ (w - bits)) := by
    rw [Nat.sub_mul, Nat.sub_mul, Nat.one_mul, Nat.one_mul, Nat.mul_comm]
    have grows : 2 ^ w ≤ 2 ^ (w - bits) * 2 ^ w := Nat.le_mul_of_pos_left _ pos
    omega
  have mask : (leadingMask w bits).toNat = 2 ^ w - 2 ^ (w - bits) := by
    rw [leadingMask, BitVec.toNat_shiftLeft, BitVec.toNat_allOnes, Nat.shiftLeft_eq, product,
      Nat.mul_add_mod_of_lt (by omega)]
  rw [BitVec.toNat_not, mask]
  omega

theorem getMsbD_leadingMask {bits : Nat} (fits : bits ≤ w) (place : Nat) :
    (leadingMask w bits).getMsbD place = decide (place < bits) := by
  rw [leadingMask, BitVec.getMsbD_shiftLeft, BitVec.getMsbD_allOnes]
  by_cases leads : place < bits
  · rw [decide_eq_true leads, decide_eq_true (by omega)]
  · rw [decide_eq_false leads, decide_eq_false (by omega)]

/-- The digits of a mask of so many digits. -/
def leadingMasks (w : Nat) : Nat → Nat → List (BitVec w)
  | 0, _ => []
  | count + 1, bits => leadingMask w (min w bits) :: leadingMasks w count (bits - w)

theorem and_or_not (word mask : BitVec w) : word &&& mask ||| ~~~mask = word ||| ~~~mask := by
  apply BitVec.eq_of_getLsbD_eq
  intro place inside
  rw [BitVec.getLsbD_or, BitVec.getLsbD_or, BitVec.getLsbD_and, BitVec.getLsbD_not,
    decide_eq_true inside, Bool.true_and]
  cases word.getLsbD place <;> cases mask.getLsbD place <;> rfl

/-- The complement of the mask sets the bits behind the leading ones. -/
theorem toNat_or_not_leadingMask (word : BitVec w) (bits : Nat) :
    (word ||| ~~~leadingMask w bits).toNat = keepLeading 1 w bits word.toNat := by
  have apart : word &&& leadingMask w bits &&& ~~~leadingMask w bits = 0#w := by
    rw [BitVec.and_assoc, BitVec.and_not_self]
    exact BitVec.and_zero
  rw [← and_or_not, ← BitVec.add_eq_or_of_and_eq_zero _ _ apart,
    BitVec.toNat_add_of_and_eq_zero apart, toNat_and_leadingMask, toNat_not_leadingMask,
    keepLeading, keepLeading, Nat.zero_mul, Nat.add_zero, Nat.one_mul]

/-! ## Bits -/

/-- A bit of the digits, counted from the most significant one. -/
def bitAt (digits : List (BitVec w)) (place : Nat) : Bool :=
  (digits.getD (place / w) 0#w).getMsbD (place % w)

theorem bitAt_of_lt {digits : List (BitVec w)} {place rest : Nat} (inside : rest < w) :
    bitAt digits (w * place + rest) = (digits.getD place 0#w).getMsbD rest := by
  have pos : 0 < w := Nat.zero_lt_of_lt inside
  rw [bitAt, Nat.mul_add_div pos, Nat.div_eq_of_lt inside, Nat.add_zero, Nat.mul_add_mod,
    Nat.mod_eq_of_lt inside]

theorem bitAt_ext {digits others : List (BitVec w)} (same : digits.length = others.length)
    (bits : ∀ place < w * digits.length, bitAt digits place = bitAt others place) :
    digits = others := by
  apply List.ext_getElem same
  intro place inside inside'
  apply BitVec.eq_of_getMsbD_eq
  intro rest within
  have fits : w * place + rest < w * digits.length := by
    calc w * place + rest < w * place + w := Nat.add_lt_add_left within _
      _ = w * (place + 1) := (Nat.mul_succ _ _).symm
      _ ≤ w * digits.length := Nat.mul_le_mul_left _ inside
  have equal := bits _ fits
  rw [bitAt_of_lt within, bitAt_of_lt within, List.getD_eq_getElem _ _ inside,
    List.getD_eq_getElem _ _ inside'] at equal
  exact equal

/-- What keeps some leading bits of every digit. -/
theorem bitAt_mapIdx {keep : Nat → BitVec w → BitVec w} {digits : List (BitVec w)} {place : Nat}
    (inside : place < w * digits.length) :
    bitAt (digits.mapIdx keep) place =
      (keep (place / w) (digits.getD (place / w) 0#w)).getMsbD (place % w) := by
  have digit : place / w < digits.length := Nat.div_lt_of_lt_mul inside
  rw [bitAt, List.getD_eq_getElem _ _ (by rwa [List.length_mapIdx]), List.getElem_mapIdx,
    List.getD_eq_getElem _ _ digit]

theorem lt_leadingBits_iff {bits place : Nat} (pos : 0 < w) :
    place % w < leadingBits w bits (place / w) ↔ place < bits := by
  have parts := Nat.div_add_mod place w
  have less := Nat.mod_lt place pos
  rw [leadingBits]
  omega

/-- The word whose bit at a place is the other way. -/
def flipAt (word : BitVec w) (place : Nat) : BitVec w := word ^^^ BitVec.twoPow w (w - 1 - place)

theorem getMsbD_flipAt {place other : Nat} (word : BitVec w) (inside : place < w)
    (before : other ≤ place) :
    (flipAt word place).getMsbD other = (word.getMsbD other ^^ decide (other = place)) := by
  rw [flipAt, BitVec.getMsbD_xor, BitVec.getMsbD_twoPow]
  congr 1
  by_cases same : other = place
  · subst same
    simp
    omega
  · simp [same]
    omega

/-- Any bit of the digits can be the other way, with the bits before it as they were. -/
theorem exists_bitAt_flip (digits : List (BitVec w)) {place : Nat}
    (inside : place < w * digits.length) :
    ∃ others : List (BitVec w), others.length = digits.length ∧
      bitAt others place ≠ bitAt digits place ∧
      ∀ before < place, bitAt others before = bitAt digits before := by
  have digit : place / w < digits.length := Nat.div_lt_of_lt_mul inside
  have pos : 0 < w := Nat.pos_of_lt_mul_right inside
  have within := Nat.mod_lt place pos
  refine ⟨digits.set (place / w) (flipAt (digits.getD (place / w) 0#w) (place % w)),
    List.length_set, ?_, ?_⟩
  · rw [bitAt, bitAt, List.getD_eq_getElem _ _ (by rwa [List.length_set]), List.getElem_set_self,
      getMsbD_flipAt _ within (Nat.le_refl _), decide_eq_true rfl]
    cases (digits.getD (place / w) 0#w).getMsbD (place % w) <;> decide
  · intro before less
    have order : before / w ≤ place / w := Nat.div_le_div_right less.le
    rw [bitAt, bitAt]
    by_cases same : before / w = place / w
    · have behind : before % w < place % w := by
        have parts := Nat.div_add_mod place w
        have parts' := Nat.div_add_mod before w
        rw [same] at parts'
        omega
      rw [same, List.getD_eq_getElem _ _ (by rwa [List.length_set]), List.getElem_set_self,
        getMsbD_flipAt _ within behind.le, decide_eq_false behind.ne, Bool.xor_false]
    · have unset : digits.length > before / w := order.trans_lt digit
      rw [List.getD_eq_getElem _ _ (by rwa [List.length_set]), List.getElem_set_ne (Ne.symm same),
        List.getD_eq_getElem _ _ unset]

end BigEndian
