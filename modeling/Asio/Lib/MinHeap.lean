import Mathlib.Order.Lattice

/-! # Binary min-heaps in an array

The order half of the two sifts of an array heap. `UpOrder` and `DownOrder` say
that only the edge above, or only the edges below, one index can be out of
order; each is kept by the swap its sift makes and ends in a heap when the sift
stops. A sift that also maintains other data along its swaps uses these lemmas
one swap at a time.
-/

namespace MinHeap

variable {α K : Type*} [LinearOrder K] {key : α → K} {a : Array α}

/-- The index of the parent of a non-root index. -/
def parent (i : Nat) : Nat := (i - 1) / 2

theorem parent_lt {i : Nat} (positive : 0 < i) : parent i < i := by
  unfold parent
  omega

/-- The children of an index are the two after its double. -/
theorem parent_eq_iff {i c : Nat} (positive : 0 < c) :
    parent c = i ↔ c = 2 * i + 1 ∨ c = 2 * i + 2 := by
  unfold parent
  omega

/-- No entry is before its parent. -/
def IsMinHeap (key : α → K) (a : Array α) : Prop :=
  ∀ i (_ : i < a.size) (_ : 0 < i) (_ : parent i < a.size), key a[parent i] ≤ key a[i]

/-- Every edge is in order except possibly the one above `i`, and the children
of `i` are in order with the parent of `i`. -/
structure UpOrder (key : α → K) (a : Array α) (i : Nat) : Prop where
  except : ∀ c (_ : c < a.size) (_ : 0 < c) (_ : parent c < a.size), c ≠ i →
    key a[parent c] ≤ key a[c]
  grand : ∀ c (_ : c < a.size) (_ : 0 < c) (_ : parent i < a.size), parent c = i → 0 < i →
    key a[parent i] ≤ key a[c]

/-- Every edge is in order except possibly those below `i`, and the children of
`i` are in order with the parent of `i`. -/
structure DownOrder (key : α → K) (a : Array α) (i : Nat) : Prop where
  except : ∀ c (_ : c < a.size) (_ : 0 < c) (_ : parent c < a.size), parent c ≠ i →
    key a[parent c] ≤ key a[c]
  grand : ∀ c (_ : c < a.size) (_ : 0 < c) (_ : parent i < a.size), parent c = i → 0 < i →
    key a[parent i] ≤ key a[c]

theorem isMinHeap_empty : IsMinHeap key (#[] : Array α) := by
  intro i inside
  simp at inside

/-- The root of a heap is not after any entry. -/
theorem IsMinHeap.root_le (heap : IsMinHeap key a) (nonempty : 0 < a.size) (i : Nat)
    (inside : i < a.size) : key a[0] ≤ key a[i] := by
  induction i using Nat.strongRecOn with
  | ind i ih =>
      rcases Nat.eq_zero_or_pos i with rfl | positive
      · exact le_rfl
      · have below := parent_lt positive
        exact (ih (parent i) below (by omega)).trans (heap i inside positive (by omega))

/-- A sift up stops when the entry is not before its parent. -/
theorem UpOrder.isMinHeap {i : Nat} (order : UpOrder key a i)
    (stop : ∀ (_ : i < a.size) (_ : parent i < a.size), 0 < i → key a[parent i] ≤ key a[i]) :
    IsMinHeap key a := by
  intro c inside positive parentInside
  by_cases same : c = i
  · subst same
    exact stop inside parentInside positive
  · exact order.except c inside positive parentInside same

/-- One swap of a sift up moves the possibly wrong edge to the parent. -/
theorem UpOrder.swap {i : Nat} (order : UpOrder key a i) (inside : i < a.size) (positive : 0 < i)
    (parentInside : parent i < a.size) (before : key a[i] < key a[parent i]) :
    UpOrder key (a.swap i (parent i)) (parent i) := by
  have below := parent_lt positive
  constructor
  · intro c cInside cPositive cParentInside different
    simp only [Array.size_swap] at cInside cParentInside
    have cBelow := parent_lt cPositive
    by_cases same : c = i
    · subst same
      simp only [Array.getElem_swap, ↓reduceIte, if_neg (show parent c ≠ c by omega)]
      exact before.le
    · simp only [Array.getElem_swap, if_neg same, if_neg different]
      by_cases child : parent c = i
      · simp only [child, ↓reduceIte]
        exact order.grand c cInside cPositive parentInside child positive
      · rw [if_neg child]
        split
        · next sibling =>
            have above := order.except c cInside cPositive cParentInside same
            simp only [sibling] at above
            exact before.le.trans above
        · exact order.except c cInside cPositive cParentInside same
  · intro c cInside cPositive grandInside child parentPositive
    simp only [Array.size_swap] at cInside grandInside
    have grandBelow := parent_lt parentPositive
    have upper := order.except (parent i) parentInside parentPositive grandInside (by omega)
    simp only [Array.getElem_swap, if_neg (show parent (parent i) ≠ i by omega),
      if_neg (show parent (parent i) ≠ parent i by omega)]
    by_cases same : c = i
    · simp only [same, ↓reduceIte]
      exact upper
    · have cBelow := parent_lt cPositive
      rw [if_neg same, if_neg (show c ≠ parent i by omega)]
      have lower := order.except c cInside cPositive (by omega) same
      simp only [child] at lower
      exact upper.trans lower

/-- A sift down stops when the entry is not after any of its children. -/
theorem DownOrder.isMinHeap {i : Nat} (order : DownOrder key a i)
    (stop : ∀ c (_ : c < a.size) (_ : i < a.size), 0 < c → parent c = i → key a[i] ≤ key a[c]) :
    IsMinHeap key a := by
  intro c inside positive parentInside
  by_cases child : parent c = i
  · simp only [child]
    exact stop c inside (child ▸ parentInside) positive child
  · exact order.except c inside positive parentInside child

/-- One swap of a sift down, with a child that is not after its sibling, moves
the possibly wrong edges to that child. -/
theorem DownOrder.swap {i m : Nat} (order : DownOrder key a i) (inside : i < a.size)
    (mInside : m < a.size) (mPositive : 0 < m) (child : parent m = i)
    (least : ∀ c (_ : c < a.size), 0 < c → parent c = i → key a[m] ≤ key a[c])
    (notBefore : key a[m] ≤ key a[i]) :
    DownOrder key (a.swap i m) m := by
  have below := parent_lt mPositive
  constructor
  · intro c cInside cPositive cParentInside different
    simp only [Array.size_swap] at cInside cParentInside
    have cBelow := parent_lt cPositive
    simp only [Array.getElem_swap, if_neg different]
    by_cases same : c = i
    · subst same
      simp only [↓reduceIte, if_neg (show parent c ≠ c by omega)]
      exact order.grand m mInside mPositive (by omega) child cPositive
    · rw [if_neg same]
      by_cases sibling : parent c = i
      · simp only [sibling, ↓reduceIte]
        split
        · exact notBefore
        · exact least c cInside cPositive sibling
      · rw [if_neg sibling, if_neg (show c ≠ m by rintro rfl; exact sibling child)]
        exact order.except c cInside cPositive cParentInside sibling
  · intro c cInside cPositive parentInside grandchild _
    simp only [Array.size_swap] at cInside parentInside
    have cBelow := parent_lt cPositive
    simp only [Array.getElem_swap, child, ↓reduceIte, if_neg (show c ≠ i by omega),
      if_neg (show c ≠ m by omega)]
    have lower := order.except c cInside cPositive (by omega) (by omega)
    simp only [grandchild] at lower
    exact lower

/-- An entry appended to a heap can only be before its parent. -/
theorem IsMinHeap.push (heap : IsMinHeap key a) (x : α) : UpOrder key (a.push x) a.size := by
  constructor
  · intro c inside positive parentInside different
    have below := parent_lt positive
    simp only [Array.size_push] at inside
    rw [Array.getElem_push_lt (by omega), Array.getElem_push_lt (by omega)]
    exact heap c (by omega) positive (by omega)
  · intro c inside positive _ child _
    have below := parent_lt positive
    simp only [Array.size_push] at inside
    omega

theorem IsMinHeap.pop (heap : IsMinHeap key a) : IsMinHeap key a.pop := by
  intro i inside positive parentInside
  simp only [Array.size_pop] at inside parentInside
  simp only [Array.getElem_pop]
  exact heap i (by omega) positive (by omega)

/-- The last entry of a heap, moved over the entry at `i`, is in order with all
but its neighbours: a sift up or a sift down repairs the heap. -/
theorem IsMinHeap.replace (heap : IsMinHeap key a) (i : Nat) (inside : i < a.size)
    (lastInside : a.size - 1 < a.size) :
    (∀ c (_ : c < (a.swap i (a.size - 1)).pop.size) (_ : 0 < c)
        (_ : parent c < (a.swap i (a.size - 1)).pop.size), c ≠ i → parent c ≠ i →
      key (a.swap i (a.size - 1)).pop[parent c] ≤ key (a.swap i (a.size - 1)).pop[c]) ∧
    ∀ c (_ : c < (a.swap i (a.size - 1)).pop.size) (_ : 0 < c)
        (_ : parent i < (a.swap i (a.size - 1)).pop.size), parent c = i → 0 < i →
      key (a.swap i (a.size - 1)).pop[parent i] ≤ key (a.swap i (a.size - 1)).pop[c] := by
  constructor
  · intro c cInside positive cParentInside different notChild
    simp only [Array.size_pop, Array.size_swap] at cInside cParentInside
    simp only [Array.getElem_pop, Array.getElem_swap, if_neg different, if_neg notChild,
      if_neg (show c ≠ a.size - 1 by omega), if_neg (show parent c ≠ a.size - 1 by omega)]
    exact heap c (by omega) positive (by omega)
  · intro c cInside positive grandInside child iPositive
    simp only [Array.size_pop, Array.size_swap] at cInside grandInside
    have below := parent_lt positive
    have upperBelow := parent_lt iPositive
    simp only [Array.getElem_pop, Array.getElem_swap, if_neg (show c ≠ i by omega),
      if_neg (show c ≠ a.size - 1 by omega), if_neg (show parent i ≠ i by omega),
      if_neg (show parent i ≠ a.size - 1 by omega)]
    have upper := heap i inside iPositive (by omega)
    have lower := heap c (by omega) positive (by omega)
    simp only [child] at lower
    exact upper.trans lower

end MinHeap
