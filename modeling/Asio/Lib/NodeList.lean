import Mathlib.Data.List.Basic
import Mathlib.Data.List.TakeWhile

/-! # Linked lists through iterators

A doubly linked list of nodes, as `std::list` presents it: an iterator is a node
or the end, which closes the list to a ring, and insertion is before an iterator.
A range of a list is a stretch of neighbouring nodes, given by its first and its
last node, that holds exactly the nodes with some property. Ranges of other
properties survive an insertion or a removal that does not fall between two nodes
of theirs.
-/

namespace NodeList

variable {Node : Type*} [DecidableEq Node]

/-- The nodes before an iterator. -/
def before (nodes : List Node) (it : Option Node) : List Node :=
  nodes.takeWhile fun node => some node ≠ it

/-- The nodes from an iterator on. -/
def onward (nodes : List Node) (it : Option Node) : List Node :=
  nodes.dropWhile fun node => some node ≠ it

/-- `++it`. -/
def next (nodes : List Node) : Option Node → Option Node
  | none => nodes.head?
  | some node => (onward nodes (some node)).tail.head?

/-- `--it`. -/
def prev (nodes : List Node) (it : Option Node) : Option Node := (before nodes it).getLast?

/-- A node put before an iterator. -/
def insert (nodes : List Node) (it : Option Node) (node : Node) : List Node :=
  before nodes it ++ node :: onward nodes it

section Splits

variable {left right nodes : List Node} {node : Node}

omit [DecidableEq Node] in
theorem ne_head (nodup : (left ++ right).Nodup) {other : Node} (member : other ∈ left) :
    some other ≠ right.head? := by
  intro same
  have apart := (List.nodup_append.mp nodup).2.2
  exact apart other member other (List.mem_of_mem_head? same.symm) rfl

theorem before_split (nodup : (left ++ right).Nodup) :
    before (left ++ right) right.head? = left := by
  unfold before
  rw [List.takeWhile_append_of_pos fun other member => by simpa using ne_head nodup member]
  cases right with
  | nil => simp
  | cons head rest => simp

theorem onward_split (nodup : (left ++ right).Nodup) :
    onward (left ++ right) right.head? = right := by
  unfold onward
  rw [List.dropWhile_append_of_pos fun other member => by simpa using ne_head nodup member]
  cases right with
  | nil => rfl
  | cons head rest => simp

theorem next_split (nodup : (left ++ node :: right).Nodup) :
    next (left ++ node :: right) (some node) = right.head? := by
  have rest := onward_split nodup
  simp only [List.head?_cons] at rest
  simp only [next, rest, List.tail_cons]

theorem prev_split (nodup : (left ++ right).Nodup) :
    prev (left ++ right) right.head? = left.getLast? := by
  rw [prev, before_split nodup]

theorem insert_split (nodup : (left ++ right).Nodup) :
    insert (left ++ right) right.head? node = left ++ node :: right := by
  rw [insert, before_split nodup, onward_split nodup]

theorem erase_split (nodup : (left ++ node :: right).Nodup) :
    (left ++ node :: right).erase node = left ++ right := by
  have absent : node ∉ left := fun member =>
    (List.nodup_append.mp nodup).2.2 node member node List.mem_cons_self rfl
  rw [List.erase_append_right _ absent, List.erase_cons_head]

end Splits

/-- The nodes of a list with some property are the stretch from `first` to `last`. -/
def Range (nodes : List Node) (property : Node → Prop) (first last : Option Node) : Prop :=
  ∃ left entries right, nodes = left ++ (entries ++ right) ∧ (∀ node ∈ entries, property node) ∧
    (∀ node ∈ left, ¬ property node) ∧ (∀ node ∈ right, ¬ property node) ∧
    first = entries.head? ∧ last = entries.getLast?

namespace Range

variable {nodes : List Node} {property : Node → Prop} {first last : Option Node} {node : Node}

omit [DecidableEq Node] in
/-- No node has the property. -/
theorem empty (none : ∀ node ∈ nodes, ¬ property node) :
    Range nodes property Option.none Option.none :=
  ⟨nodes, [], [], by simp, nofun, none, nofun, rfl, rfl⟩

omit [DecidableEq Node] in
/-- The property matters on the nodes of the list only. -/
theorem congr {other : Node → Prop} (range : Range nodes property first last)
    (same : ∀ node ∈ nodes, (other node ↔ property node)) : Range nodes other first last := by
  obtain ⟨left, entries, right, rfl, inside, outLeft, outRight, isFirst, isLast⟩ := range
  refine ⟨left, entries, right, rfl, fun node member => ?_, fun node member => ?_,
    fun node member => ?_, isFirst, isLast⟩
  · exact (same node (by simp [member])).mpr (inside node member)
  · exact fun holds => outLeft node member ((same node (by simp [member])).mp holds)
  · exact fun holds => outRight node member ((same node (by simp [member])).mp holds)

omit [DecidableEq Node] in
theorem none_of_first (range : Range nodes property none last) :
    last = none ∧ ∀ node ∈ nodes, ¬ property node := by
  obtain ⟨left, entries, right, rfl, -, outLeft, outRight, isFirst, rfl⟩ := range
  cases entries with
  | cons head rest => cases isFirst
  | nil =>
      refine ⟨rfl, fun node member => ?_⟩
      rcases List.mem_append.mp member with member | member
      · exact outLeft node member
      · exact outRight node member

omit [DecidableEq Node] in
/-- A range survives an insertion that is not between two of its nodes. -/
theorem insert_elsewhere {left right : List Node}
    (range : Range (left ++ right) property first last)
    (other : ¬ property node)
    (cut : right = [] ∨ ∃ neighbour, left.getLast? = some neighbour ∧ ¬ property neighbour) :
    Range (left ++ node :: right) property first last := by
  obtain ⟨before, entries, after, split, inside, outBefore, outAfter, isFirst, isLast⟩ := range
  have widen : ∀ {front back : List Node}, (∀ entry ∈ front ++ back, ¬ property entry) →
      ∀ entry ∈ front ++ node :: back, ¬ property entry := by
    intro front back out entry member
    simp only [List.mem_append, List.mem_cons] at member out
    rcases member with member | rfl | member
    · exact out entry (Or.inl member)
    · exact other
    · exact out entry (Or.inr member)
  rcases List.append_eq_append_iff.mp split with ⟨a, rfl, rfl⟩ | ⟨a, rfl, joined⟩
  · exact ⟨left ++ node :: a, entries, after, by simp, inside, widen outBefore, outAfter, isFirst,
      isLast⟩
  · rcases List.append_eq_append_iff.mp joined with ⟨b, rfl, rfl⟩ | ⟨b, rfl, rfl⟩
    · exact ⟨before, entries, b ++ node :: right, by simp, inside, outBefore, widen outAfter, isFirst,
        isLast⟩
    · -- The cut falls into the stretch `a ++ b`, so it must be at one of its ends.
      cases b with
      | nil =>
          refine ⟨before, a, node :: after, by simp, by simpa using inside, outBefore, ?_, by simpa
            using isFirst, by simpa using isLast⟩
          exact @widen [] after outAfter
      | cons head rest =>
          obtain impossible | ⟨neighbour, isNeighbour, out⟩ := cut
          · cases impossible
          · rw [List.getLast?_append] at isNeighbour
            cases final : a.getLast? with
            | none =>
                rw [List.getLast?_eq_none_iff] at final
                subst final
                refine ⟨before ++ [node], head :: rest, after, by simp, inside, ?_, outAfter, isFirst,
                  isLast⟩
                exact @widen before [] (by simpa using outBefore)
            | some last =>
                rw [final] at isNeighbour
                cases isNeighbour
                exact absurd (inside neighbour (List.mem_append_left _ (List.mem_of_getLast? final))) out

omit [DecidableEq Node] in
/-- The first node with the property, at the end of the list. -/
theorem insert_first (own : property node) (none : ∀ other ∈ nodes, ¬ property other) :
    Range (nodes ++ [node]) property (some node) (some node) :=
  ⟨nodes, [node], [], by simp, by simpa using own, none, nofun, rfl, rfl⟩

/-- A node with the property right behind the last one: the place is before the
successor of the last one, also when more nodes follow the list. -/
theorem insert_last {head final : Node} (rest : List Node)
    (range : Range nodes property (some head) (some final)) (nodup : (nodes ++ rest).Nodup)
    (own : property node) :
    ∃ left right, nodes = left ++ right ∧ left.getLast? = some final ∧ property final ∧
      next (nodes ++ rest) (some final) = (right ++ rest).head? ∧
      Range (left ++ node :: right) property (some head) (some node) := by
  obtain ⟨left, entries, right, rfl, inside, outLeft, outRight, isFirst, isLast⟩ := range
  obtain ⟨initial, rfl⟩ := List.getLast?_eq_some_iff.mp isLast.symm
  refine ⟨left ++ (initial ++ [final]), right, by simp, by simp, inside final (by simp), ?_,
    left, initial ++ [final, node], right, by simp, ?_, outLeft, outRight, ?_, by simp⟩
  · have split : left ++ (initial ++ [final] ++ right) ++ rest =
        (left ++ initial) ++ final :: (right ++ rest) := by simp
    rw [split] at nodup ⊢
    exact next_split nodup
  · intro entry member
    simp only [List.mem_append, List.mem_cons, List.not_mem_nil, or_false] at member inside
    rcases member with member | rfl | rfl
    · exact inside entry (Or.inl member)
    · exact inside entry (Or.inr rfl)
    · exact own
  · rw [isFirst]
    cases initial <;> rfl

omit [DecidableEq Node] in
/-- A range survives the removal of a node without the property. -/
theorem erase_elsewhere {left right : List Node}
    (range : Range (left ++ node :: right) property first last) (other : ¬ property node) :
    Range (left ++ right) property first last := by
  obtain ⟨before, entries, after, split, inside, outBefore, outAfter, isFirst, isLast⟩ := range
  rcases List.append_eq_append_iff.mp split with ⟨a, rfl, rest⟩ | ⟨a, rfl, rest⟩
  · rcases List.cons_eq_append_iff.mp rest with ⟨rfl, none⟩ | ⟨b, rfl, rfl⟩
    · rcases List.append_eq_cons_iff.mp none with ⟨rfl, rfl⟩ | ⟨c, rfl, rfl⟩
      · exact ⟨left, [], right, by simp, nofun, by simpa using outBefore,
          fun entry member => outAfter entry (List.mem_cons_of_mem _ member), isFirst, isLast⟩
      · exact absurd (inside node List.mem_cons_self) other
    · refine ⟨left ++ b, entries, after, by simp, inside, fun entry member => ?_, outAfter, isFirst,
        isLast⟩
      apply outBefore
      simp only [List.mem_append, List.mem_cons] at member ⊢
      exact member.imp id Or.inr
  · rcases List.append_eq_append_iff.mp rest with ⟨b, rfl, rfl⟩ | ⟨b, rfl, others⟩
    · refine ⟨before, entries, b ++ right, by simp, inside, outBefore, fun entry member => ?_, isFirst,
        isLast⟩
      apply outAfter
      simp only [List.mem_append, List.mem_cons] at member ⊢
      exact member.imp id Or.inr
    · rcases List.cons_eq_append_iff.mp others with ⟨rfl, rfl⟩ | ⟨c, rfl, rfl⟩
      · exact ⟨before, a, right, by simp, by simpa using inside, outBefore,
          fun entry member => outAfter entry (List.mem_cons_of_mem _ member), by simpa using isFirst,
          by simpa using isLast⟩
      · exact absurd (inside node (by simp)) other

/-- A range after the removal of one of its nodes. -/
theorem erase_own {left right : List Node}
    (range : Range (left ++ node :: right) property first last)
    (nodup : (left ++ node :: right).Nodup) (own : property node) :
    Range (left ++ right) property
      (if first = some node then
        if last = some node then none else next (left ++ node :: right) (some node)
      else first)
      (if last = some node then
        if first = some node then none else prev (left ++ node :: right) (some node)
      else last) := by
  obtain ⟨before, entries, after, split, inside, outBefore, outAfter, rfl, rfl⟩ := range
  have member : node ∈ entries := by
    have member : node ∈ before ++ (entries ++ after) := by
      rw [← split]
      simp
    rw [List.mem_append, List.mem_append] at member
    obtain member | member | member := member
    · exact absurd own (outBefore node member)
    · exact member
    · exact absurd own (outAfter node member)
  obtain ⟨initial, final, rfl⟩ := List.append_of_mem member
  have same : left ++ node :: right = (before ++ initial) ++ node :: (final ++ after) := by
    rw [split]
    simp
  have absent : node ∉ left ∧ node ∉ right := by
    refine ⟨fun inLeft => ?_, (List.nodup_cons.mp (List.nodup_append.mp nodup).2.1).1⟩
    exact (List.nodup_append.mp nodup).2.2 node inLeft node List.mem_cons_self rfl
  obtain ⟨rfl, -, rfl⟩ := (List.append_cons_inj_of_notMem absent.1 absent.2).mp same
  have ahead := next_split nodup
  have behind := prev_split nodup
  rw [List.head?_cons] at behind
  rw [List.mem_append, List.mem_append, not_or, not_or] at absent
  have isFirst : (initial ++ node :: final).head? = some node ↔ initial = [] := by
    cases initial with
    | nil => simp
    | cons head rest =>
        simp only [List.cons_append, List.head?_cons, Option.some.injEq, reduceCtorEq, iff_false]
        exact fun same => absent.1.2 (same ▸ List.mem_cons_self)
  have isLast : (initial ++ node :: final).getLast? = some node ↔ final = [] := by
    cases final with
    | nil => simp
    | cons head rest =>
        rw [List.getLast?_append_cons, List.getLast?_cons_cons]
        simp only [reduceCtorEq, iff_false]
        exact fun same => absent.2.1 (List.mem_of_getLast? same)
  simp only [isFirst, isLast, ahead, behind]
  refine ⟨before, initial ++ final, after, by simp, ?_, outBefore, outAfter, ?_, ?_⟩
  · intro entry member
    apply inside
    simp only [List.mem_append, List.mem_cons] at member ⊢
    exact member.imp id Or.inr
  · cases initial with
    | nil => cases final <;> simp
    | cons head rest => simp
  · cases final with
    | nil =>
        cases initial with
        | nil => simp
        | cons head rest => simp [List.getLast?_append, List.getLast?_cons]
    | cons head rest => simp [List.getLast?_append, List.getLast?_cons_cons]

end Range

end NodeList
