import Asio.Lib.Chain
import Mathlib.Data.List.Basic
import Mathlib.Data.List.Nodup
import Mathlib.Logic.Function.Basic

/-! # Intrusive doubly linked lists

The nodes of an intrusive list carry their own links: a memory maps each node to
its successor and its predecessor, and the list is known by its head. `Spells`
relates such links to the list of nodes met when walking from the head. The
three updates (a new head, the removal of a node, a node put in another's
place) are shown to change the spelled list as a list edit and to leave the
links of every other node alone.
-/

/-- The links of intrusive nodes and the head of one list. -/
structure IntrusiveList (Node : Type*) where
  head : Option Node
  next : Node → Option Node
  prev : Node → Option Node

namespace IntrusiveList

variable {Node : Type*}

/-- The links of a list spell its nodes: each node's successor and predecessor
are its neighbours, no node occurs twice, and the head is the first node. -/
structure Spells (links : IntrusiveList Node) (nodes : List Node) : Prop where
  nodup : nodes.Nodup
  head_eq : links.head = nodes.head?
  next_eq : ∀ before node after, nodes = before ++ node :: after → links.next node = after.head?
  prev_eq : ∀ before node after, nodes = before ++ node :: after →
    links.prev node = before.getLast?

/-- A node that no list holds has no links. -/
def Detached (links : IntrusiveList Node) (node : Node) : Prop :=
  links.next node = none ∧ links.prev node = none

theorem spells_nil (next prev : Node → Option Node) : Spells ⟨none, next, prev⟩ [] where
  nodup := List.nodup_nil
  head_eq := rfl
  next_eq := by intro before node after split; simp at split
  prev_eq := by intro before node after split; simp at split

/-- A node of the list is its head or has a predecessor. -/
theorem Spells.mem_iff {links : IntrusiveList Node} {nodes : List Node}
    (spells : links.Spells nodes) {node : Node} (detached : node ∉ nodes → links.prev node = none) :
    (links.prev node ≠ none ∨ links.head = some node) ↔ node ∈ nodes := by
  constructor
  · intro linked
    by_contra absent
    rcases linked with preceded | first
    · exact preceded (detached absent)
    · rw [spells.head_eq] at first
      exact absent (List.mem_of_mem_head? first)
  · intro member
    obtain ⟨before, after, split⟩ := List.append_of_mem member
    rw [spells.prev_eq before node after split, spells.head_eq, split]
    rcases List.eq_nil_or_concat before with rfl | ⟨initial, last, rfl⟩
    · exact Or.inr rfl
    · exact Or.inl (by simp)

/-- Links are read at the head and at the nodes of a list only. -/
theorem Spells.congr {links next : IntrusiveList Node} {nodes : List Node}
    (spells : links.Spells nodes) (headEq : next.head = links.head)
    (nextEq : ∀ node ∈ nodes, next.next node = links.next node)
    (prevEq : ∀ node ∈ nodes, next.prev node = links.prev node) : next.Spells nodes where
  nodup := spells.nodup
  head_eq := headEq.trans spells.head_eq
  next_eq before node after split := by
    rw [nextEq node (by simp [split]), spells.next_eq before node after split]
  prev_eq before node after split := by
    rw [prevEq node (by simp [split]), spells.prev_eq before node after split]

/-- A walk from the head meets the spelled nodes. -/
theorem Spells.chain {links : IntrusiveList Node} {nodes : List Node}
    (spells : links.Spells nodes) : Chain links.next links.head nodes none := by
  have onward (before after : List Node) (split : nodes = before ++ after) :
      Chain links.next after.head? after none := by
    induction after generalizing before with
    | nil => rfl
    | cons node after ih =>
        refine ⟨rfl, ?_⟩
        rw [spells.next_eq before node after split]
        apply ih (before ++ [node])
        rw [split, List.append_assoc]
        rfl
  rw [spells.head_eq]
  exact onward [] nodes rfl

section Updates

variable [DecidableEq Node]

/-- Write the successor of the node a possibly null link leads to. -/
def setNext (links : IntrusiveList Node) : Option Node → Option Node → IntrusiveList Node
  | some node, value => { links with next := Function.update links.next node value }
  | none, _ => links

/-- Write the predecessor of the node a possibly null link leads to. -/
def setPrev (links : IntrusiveList Node) : Option Node → Option Node → IntrusiveList Node
  | some node, value => { links with prev := Function.update links.prev node value }
  | none, _ => links

/-- Insert a node in front of the list. -/
def pushFront (links : IntrusiveList Node) (node : Node) : IntrusiveList Node :=
  let links := links.setNext (some node) links.head
  let links := links.setPrev (some node) none
  let links := links.setPrev links.head (some node)
  { links with head := some node }

/-- Remove a node from the list. -/
def unlink (links : IntrusiveList Node) (node : Node) : IntrusiveList Node :=
  let links := { links with
    head := if links.head = some node then links.next node else links.head }
  let links := links.setNext (links.prev node) (links.next node)
  let links := links.setPrev (links.next node) (links.prev node)
  let links := links.setNext (some node) none
  links.setPrev (some node) none

/-- Put the node `target` in the place of the node `source`. -/
def replace (links : IntrusiveList Node) (target source : Node) : IntrusiveList Node :=
  let links := { links with
    head := if links.head = some source then some target else links.head }
  let links := links.setNext (links.prev source) (some target)
  let links := links.setPrev (links.next source) (some target)
  let links := links.setNext (some target) (links.next source)
  let links := links.setPrev (some target) (links.prev source)
  let links := links.setNext (some source) none
  links.setPrev (some source) none

variable {links : IntrusiveList Node} {nodes : List Node} {node other : Node}

@[simp] theorem setNext_head (place value : Option Node) :
    (links.setNext place value).head = links.head := by
  cases place <;> rfl

@[simp] theorem setNext_prev (place value : Option Node) :
    (links.setNext place value).prev = links.prev := by
  cases place <;> rfl

@[simp] theorem setNext_next (place value : Option Node) :
    (links.setNext place value).next other =
      if place = some other then value else links.next other := by
  cases place <;> simp [setNext, Function.update_apply, eq_comm]

@[simp] theorem setPrev_head (place value : Option Node) :
    (links.setPrev place value).head = links.head := by
  cases place <;> rfl

@[simp] theorem setPrev_next (place value : Option Node) :
    (links.setPrev place value).next = links.next := by
  cases place <;> rfl

@[simp] theorem setPrev_prev (place value : Option Node) :
    (links.setPrev place value).prev other =
      if place = some other then value else links.prev other := by
  cases place <;> simp [setPrev, Function.update_apply, eq_comm]

theorem pushFront_next : (links.pushFront node).next other =
    if node = other then links.head else links.next other := by
  simp [pushFront]

theorem pushFront_prev : (links.pushFront node).prev other =
    if links.head = some other then some node
    else if node = other then none else links.prev other := by
  simp [pushFront]

theorem unlink_head : (links.unlink node).head =
    if links.head = some node then links.next node else links.head := by
  simp [unlink]

/-- The successors after removing a node that is not its own neighbour. -/
theorem unlink_next (apart : links.prev node ≠ some node) : (links.unlink node).next other =
    if node = other then none
    else if links.prev node = some other then links.next node else links.next other := by
  simp [unlink, apart]

/-- The predecessors after removing a node that is not its own neighbour. -/
theorem unlink_prev (apart : links.prev node ≠ some node) : (links.unlink node).prev other =
    if node = other then none
    else if links.next node = some other then links.prev node else links.prev other := by
  simp [unlink, apart]

omit [DecidableEq Node] in
/-- A spelled node occurs on neither side of its own place. -/
theorem Spells.not_mem_sides {before after : List Node}
    (spells : links.Spells (before ++ node :: after)) : node ∉ before ∧ node ∉ after := by
  have nodup := spells.nodup
  simp only [List.nodup_append, List.nodup_cons, List.mem_cons, ne_eq] at nodup
  exact ⟨fun inside => nodup.2.2 node inside node (Or.inl rfl) rfl, nodup.2.1.1⟩

omit [DecidableEq Node] in
/-- The neighbours of a spelled node are other nodes. -/
theorem Spells.neighbours_ne {before after : List Node}
    (spells : links.Spells (before ++ node :: after)) :
    links.prev node ≠ some node ∧ links.next node ≠ some node := by
  have absent := spells.not_mem_sides
  rw [spells.prev_eq before node after rfl, spells.next_eq before node after rfl]
  exact ⟨fun same => absent.1 (List.mem_of_getLast? same),
    fun same => absent.2 (List.mem_of_mem_head? same)⟩

/-- A new node pushed in front is spelled first. -/
theorem Spells.pushFront (spells : links.Spells nodes) (absent : node ∉ nodes) :
    (links.pushFront node).Spells (node :: nodes) where
  nodup := List.nodup_cons.mpr ⟨absent, spells.nodup⟩
  head_eq := rfl
  next_eq := by
    intro before other after split
    rw [pushFront_next]
    cases before with
    | nil =>
        obtain ⟨rfl, rfl⟩ := List.cons.inj split
        simp only [↓reduceIte, spells.head_eq]
    | cons _ before =>
        obtain ⟨rfl, rest⟩ := List.cons.inj split
        have different : node ≠ other := by
          rintro rfl
          exact absent (rest ▸ by simp)
        rw [if_neg different, spells.next_eq before other after rest]
  prev_eq := by
    intro before other after split
    rw [pushFront_prev, spells.head_eq]
    cases before with
    | nil =>
        obtain ⟨rfl, rfl⟩ := List.cons.inj split
        have notHead : nodes.head? ≠ some node := fun first =>
          absent (List.mem_of_mem_head? first)
        simp [notHead]
    | cons _ before =>
        obtain ⟨rfl, rest⟩ := List.cons.inj split
        have different : node ≠ other := by
          rintro rfl
          exact absent (rest ▸ by simp)
        have kept := spells.prev_eq before other after rest
        subst rest
        cases before with
        | nil => simp
        | cons first before =>
            have notHead : first ≠ other := by
              rintro rfl
              exact spells.not_mem_sides.1 (by simp)
            simp [notHead, different, kept]

omit [DecidableEq Node] in
/-- A place in two joined lists is a place in one of them. -/
theorem split_append {before after left right : List Node}
    (split : before ++ after = left ++ other :: right) :
    (∃ middle, before = left ++ other :: middle ∧ right = middle ++ after) ∨
      ∃ middle, left = before ++ middle ∧ after = middle ++ other :: right := by
  obtain ⟨middle, rfl, rfl⟩ | ⟨middle, rfl, rest⟩ := List.append_eq_append_iff.mp split
  · exact Or.inr ⟨middle, rfl, rfl⟩
  · cases middle with
    | nil => exact Or.inr ⟨[], by simp, by simpa using rest.symm⟩
    | cons first middle =>
        obtain ⟨rfl, rfl⟩ := List.cons.inj rest
        exact Or.inl ⟨middle, rfl, rfl⟩

omit [DecidableEq Node] in
/-- A node with another one behind it is not the last one. -/
theorem getLast?_ne {first : Node} {left middle : List Node}
    (nodup : (left ++ other :: first :: middle).Nodup) :
    (left ++ other :: first :: middle).getLast? ≠ some other := by
  intro last
  rw [List.getLast?_append_of_ne_nil _ (by simp), List.getLast?_cons_cons] at last
  exact (List.nodup_cons.mp (List.nodup_append.mp nodup).2.1).1 (List.mem_of_getLast? last)

/-- Removing a spelled node removes it from the spelled list. -/
theorem Spells.unlink {before after : List Node} (spells : links.Spells (before ++ node :: after)) :
    (links.unlink node).Spells (before ++ after) := by
  have apart := spells.neighbours_ne.1
  have absent := spells.not_mem_sides
  have nodup := spells.nodup
  have nextNode := spells.next_eq before node after rfl
  have prevNode := spells.prev_eq before node after rfl
  refine ⟨nodup.sublist (List.Sublist.append_left (List.sublist_cons_self _ _) _), ?_, ?_, ?_⟩
  · rw [unlink_head, spells.head_eq, nextNode]
    cases before with
    | nil => simp
    | cons first before =>
        have different : first ≠ node := by
          rintro rfl
          exact absent.1 (by simp)
        simp [different]
  · intro left other right split
    rw [unlink_next apart, prevNode, nextNode]
    obtain ⟨middle, rfl, rfl⟩ | ⟨middle, rfl, rfl⟩ := split_append split
    · have kept := spells.next_eq left other (middle ++ node :: after) (by simp)
      have different : node ≠ other := by
        rintro rfl
        exact absent.1 (by simp)
      cases middle with
      | nil => simp [different]
      | cons first middle =>
          have notLast := getLast?_ne (List.nodup_append.mp nodup).1
          rw [if_neg different, if_neg notLast, kept]
          simp
    · have kept := spells.next_eq (before ++ node :: middle) other right (by simp)
      have different : node ≠ other := by
        rintro rfl
        exact absent.2 (by simp)
      have notLast : before.getLast? ≠ some other := by
        intro last
        simp only [List.nodup_append] at nodup
        exact nodup.2.2 other (List.mem_of_getLast? last) other (by simp) rfl
      rw [if_neg different, if_neg notLast, kept]
  · intro left other right split
    rw [unlink_prev apart, prevNode, nextNode]
    obtain ⟨middle, rfl, rfl⟩ | ⟨middle, rfl, rfl⟩ := split_append split
    · have kept := spells.prev_eq left other (middle ++ node :: after) (by simp)
      have different : node ≠ other := by
        rintro rfl
        exact absent.1 (by simp)
      have notFirst : after.head? ≠ some other := by
        intro first
        simp only [List.nodup_append] at nodup
        exact nodup.2.2 other (by simp) other (by simp [List.mem_of_mem_head? first]) rfl
      rw [if_neg different, if_neg notFirst, kept]
    · have kept := spells.prev_eq (before ++ node :: middle) other right (by simp)
      have different : node ≠ other := by
        rintro rfl
        exact absent.2 (by simp)
      cases middle with
      | nil => simp [different]
      | cons first middle =>
          have notFirst : first ≠ other := by
            rintro rfl
            simp [List.nodup_append] at nodup
          rw [if_neg different, kept]
          simp [notFirst, List.getLast?_append]

theorem replace_head : (links.replace node other).head =
    if links.head = some other then some node else links.head := by
  simp [replace]

section Replace

variable {target source : Node}

/-- The successors after putting one node in the place of another. -/
theorem replace_next (apart : links.prev source ≠ some source) :
    (links.replace target source).next other =
      if source = other then none
      else if target = other then links.next source
      else if links.prev source = some other then some target else links.next other := by
  simp [replace, apart]

/-- The predecessors after putting one node in the place of another. -/
theorem replace_prev (apart : links.prev source ≠ some source)
    (apart' : links.next source ≠ some source) :
    (links.replace target source).prev other =
      if source = other then none
      else if target = other then links.prev source
      else if links.next source = some other then some target else links.prev other := by
  simp [replace, apart, apart']

/-- A new node put in the place of a spelled one takes its place in the list. -/
theorem Spells.replace {before after : List Node}
    (spells : links.Spells (before ++ source :: after))
    (absent : target ∉ before ++ source :: after) :
    (links.replace target source).Spells (before ++ target :: after) := by
  have apart := spells.neighbours_ne
  have gone := spells.not_mem_sides
  have nodup := spells.nodup
  have nextSource := spells.next_eq before source after rfl
  have prevSource := spells.prev_eq before source after rfl
  simp only [List.mem_append, List.mem_cons, not_or] at absent
  have different := absent.2.1
  simp only [List.nodup_append, List.nodup_cons, List.mem_cons, ne_eq] at nodup
  refine ⟨?_, ?_, ?_, ?_⟩
  · simp only [List.nodup_append, List.nodup_cons, List.mem_cons, ne_eq]
    refine ⟨nodup.1, ⟨absent.2.2, nodup.2.1.2⟩, fun first inside second member => ?_⟩
    rcases member with rfl | member
    · rintro rfl
      exact absent.1 inside
    · exact nodup.2.2 first inside second (Or.inr member)
  · rw [replace_head, spells.head_eq]
    cases before with
    | nil => simp
    | cons first before =>
        have notFirst : first ≠ source := by
          rintro rfl
          exact gone.1 (by simp)
        simp [notFirst]
  · intro left other right split
    rw [replace_next apart.1, prevSource, nextSource]
    obtain ⟨middle, rfl, rfl⟩ | ⟨middle, rfl, rest⟩ := split_append split
    · have kept := spells.next_eq left other (middle ++ source :: after) (by simp)
      have notSource : source ≠ other := by
        rintro rfl
        exact gone.1 (by simp)
      have notTarget : target ≠ other := by
        rintro rfl
        exact absent.1 (by simp)
      cases middle with
      | nil => simp [notSource, notTarget]
      | cons first middle =>
          have notLast := getLast?_ne (List.nodup_append.mp spells.nodup).1
          rw [if_neg notSource, if_neg notTarget, if_neg notLast, kept]
          simp
    · cases middle with
      | nil =>
          obtain ⟨rfl, rfl⟩ := List.cons.inj rest
          simp [Ne.symm different]
      | cons first middle =>
          obtain ⟨rfl, rfl⟩ := List.cons.inj rest
          have kept := spells.next_eq (before ++ source :: middle) other right (by simp)
          have notSource : source ≠ other := by
            rintro rfl
            exact gone.2 (by simp)
          have notTarget : target ≠ other := by
            rintro rfl
            exact absent.2.2 (by simp)
          have notLast : before.getLast? ≠ some other := fun last =>
            nodup.2.2 other (List.mem_of_getLast? last) other (Or.inr (by simp)) rfl
          rw [if_neg notSource, if_neg notTarget, if_neg notLast, kept]
  · intro left other right split
    rw [replace_prev apart.1 apart.2, prevSource, nextSource]
    obtain ⟨middle, rfl, rfl⟩ | ⟨middle, rfl, rest⟩ := split_append split
    · have kept := spells.prev_eq left other (middle ++ source :: after) (by simp)
      have notSource : source ≠ other := by
        rintro rfl
        exact gone.1 (by simp)
      have notTarget : target ≠ other := by
        rintro rfl
        exact absent.1 (by simp)
      have notFirst : after.head? ≠ some other := fun first =>
        nodup.2.2 other (by simp) other (Or.inr (List.mem_of_mem_head? first)) rfl
      rw [if_neg notSource, if_neg notTarget, if_neg notFirst, kept]
    · cases middle with
      | nil =>
          obtain ⟨rfl, rfl⟩ := List.cons.inj rest
          simp [Ne.symm different]
      | cons first middle =>
          obtain ⟨rfl, rfl⟩ := List.cons.inj rest
          have kept := spells.prev_eq (before ++ source :: middle) other right (by simp)
          have notSource : source ≠ other := by
            rintro rfl
            exact gone.2 (by simp)
          have notTarget : target ≠ other := by
            rintro rfl
            exact absent.2.2 (by simp)
          cases middle with
          | nil => simp [notSource, notTarget]
          | cons second middle =>
              have notFirst : second ≠ other := by
                rintro rfl
                simp at nodup
              rw [if_neg notSource, if_neg notTarget, kept]
              simp [notFirst, List.getLast?_append]

end Replace

/-! Nodes outside the list keep their links. -/

theorem Spells.pushFront_other (spells : links.Spells nodes) (outside : other ∉ node :: nodes) :
    (links.pushFront node).next other = links.next other ∧
      (links.pushFront node).prev other = links.prev other := by
  simp only [List.mem_cons, not_or] at outside
  rw [pushFront_next, pushFront_prev, spells.head_eq]
  have notHead : nodes.head? ≠ some other := fun first =>
    outside.2 (List.mem_of_mem_head? first)
  simp [notHead, Ne.symm outside.1]

theorem Spells.unlink_other {before after : List Node}
    (spells : links.Spells (before ++ node :: after))
    (outside : other ∉ before ++ node :: after) :
    (links.unlink node).next other = links.next other ∧
      (links.unlink node).prev other = links.prev other := by
  simp only [List.mem_append, List.mem_cons, not_or] at outside
  have apart := spells.neighbours_ne.1
  rw [unlink_next apart, unlink_prev apart, spells.next_eq before node after rfl,
    spells.prev_eq before node after rfl]
  have notFirst : after.head? ≠ some other := fun first =>
    outside.2.2 (List.mem_of_mem_head? first)
  have notLast : before.getLast? ≠ some other := fun last =>
    outside.1 (List.mem_of_getLast? last)
  simp [notFirst, notLast, Ne.symm outside.2.1]

theorem Spells.replace_other {before after : List Node} {target source : Node}
    (spells : links.Spells (before ++ source :: after))
    (outside : other ∉ before ++ source :: after) (notTarget : target ≠ other) :
    (links.replace target source).next other = links.next other ∧
      (links.replace target source).prev other = links.prev other := by
  simp only [List.mem_append, List.mem_cons, not_or] at outside
  have apart := spells.neighbours_ne
  rw [replace_next apart.1, replace_prev apart.1 apart.2,
    spells.next_eq before source after rfl, spells.prev_eq before source after rfl]
  have notFirst : after.head? ≠ some other := fun first =>
    outside.2.2 (List.mem_of_mem_head? first)
  have notLast : before.getLast? ≠ some other := fun last =>
    outside.1 (List.mem_of_getLast? last)
  simp [notFirst, notLast, notTarget, Ne.symm outside.2.1]

/-- Removed nodes are detached. -/
theorem unlink_detached (apart : links.prev node ≠ some node) :
    (links.unlink node).Detached node := by
  simp [Detached, unlink_next apart, unlink_prev apart]

/-- Putting a detached node in the place of another detached one does nothing. -/
theorem replace_detached {target source : Node} (links : IntrusiveList Node)
    (sourceDetached : links.Detached source) (targetDetached : links.Detached target)
    (notHead : links.head ≠ some source) : links.replace target source = links := by
  have nextEq : Function.update (Function.update links.next target none) source none =
      links.next := by
    rw [← targetDetached.1, Function.update_eq_self, targetDetached.1, ← sourceDetached.1,
      Function.update_eq_self]
  have prevEq : Function.update (Function.update links.prev target none) source none =
      links.prev := by
    rw [← targetDetached.2, Function.update_eq_self, targetDetached.2, ← sourceDetached.2,
      Function.update_eq_self]
  simp only [replace, setNext, setPrev, sourceDetached.1, sourceDetached.2, notHead, ↓reduceIte,
    nextEq, prevEq]

end Updates

end IntrusiveList
