import Asio.Lib.Loop
import Mathlib.Data.List.Nodup
import Mathlib.Logic.Function.Basic

/-! # Chains of links

A memory maps each node to the next one. `Chain next start nodes stop` says that the links
lead from `start` through the nodes to `stop`. A chain that stops at null has no node twice,
and a walk along it meets its nodes in order.
-/

/-- The links lead through the nodes. -/
def Chain {Node : Type*} (next : Node → Option Node) :
    Option Node → List Node → Option Node → Prop
  | start, [], stop => start = stop
  | start, node :: nodes, stop => start = some node ∧ Chain next (next node) nodes stop

namespace Chain

variable {Node : Type*} {next links : Node → Option Node} {start middle stop : Option Node}
  {nodes others : List Node} {node : Node}

theorem append_iff : Chain next start (nodes ++ node :: others) stop ↔
    Chain next start nodes (some node) ∧ Chain next (next node) others stop := by
  induction nodes generalizing start with
  | nil => exact Iff.rfl
  | cons first nodes ih =>
      rw [List.cons_append, Chain, Chain, ih, and_assoc]

theorem concat_iff : Chain next start (nodes ++ [node]) stop ↔
    Chain next start nodes (some node) ∧ next node = stop := append_iff

/-- Chains are joined. -/
theorem append (chain : Chain next start nodes middle) (onward : Chain next middle others stop) :
    Chain next start (nodes ++ others) stop := by
  induction nodes generalizing start with
  | nil =>
      obtain rfl : start = middle := chain
      exact onward
  | cons first nodes ih => exact ⟨chain.1, ih chain.2⟩

/-- Links are read at the nodes of a chain only. -/
theorem congr (chain : Chain next start nodes stop)
    (same : ∀ node ∈ nodes, links node = next node) : Chain links start nodes stop := by
  induction nodes generalizing start with
  | nil => exact chain
  | cons first nodes ih =>
      refine ⟨chain.1, ?_⟩
      rw [same first List.mem_cons_self]
      exact ih chain.2 fun node inside => same node (List.mem_cons_of_mem _ inside)

theorem head_eq (chain : Chain next start nodes none) : start = nodes.head? := by
  cases nodes with
  | nil => exact chain
  | cons first nodes => exact chain.1

/-- The links decide about the nodes. -/
theorem unique (chain : Chain next start nodes none) (chain' : Chain next start others none) :
    nodes = others := by
  induction nodes generalizing start others with
  | nil =>
      cases others with
      | nil => rfl
      | cons first others => cases (chain : start = none).symm.trans chain'.1
  | cons first nodes ih =>
      cases others with
      | nil => cases chain.1.symm.trans chain'
      | cons first' others =>
          cases chain.1.symm.trans chain'.1
          rw [ih chain.2 chain'.2]

/-- A node that was met before would be followed by the same nodes again. -/
theorem nodup (chain : Chain next start nodes none) : nodes.Nodup := by
  induction nodes generalizing start with
  | nil => exact List.nodup_nil
  | cons first nodes ih =>
      refine List.nodup_cons.mpr ⟨?_, ih chain.2⟩
      intro inside
      obtain ⟨before, after, rfl⟩ := List.append_of_mem inside
      have same := congrArg List.length (unique chain.2 (append_iff.mp chain.2).2)
      rw [List.length_append, List.length_cons] at same
      omega

/-- A node leads to the one behind it. -/
theorem next_eq {before after : List Node}
    (chain : Chain next start (before ++ node :: after) none) : next node = after.head? :=
  (append_iff.mp chain).2.head_eq

/-- A node of a chain is the last one or has a link. -/
theorem mem_iff (chain : Chain next start nodes none) (unlinked : node ∉ nodes → next node = none) :
    next node ≠ none ∨ nodes.getLast? = some node ↔ node ∈ nodes := by
  constructor
  · rintro (linked | last)
    · by_contra absent
      exact linked (unlinked absent)
    · exact List.mem_of_getLast? last
  · intro inside
    obtain ⟨before, after, rfl⟩ := List.append_of_mem inside
    rw [next_eq chain]
    cases after with
    | nil => exact .inr (List.getLast?_concat ..)
    | cons following after => exact .inl (Option.some_ne_none _)

/-! ## Chains that are joined -/

section

variable [DecidableEq Node]

/-- Links whose last node, if there is one, leads on to another node. -/
def lead (links : Node → Option Node) (last : Option Node) (first : Node) : Node → Option Node :=
  match last with
  | some last => Function.update links last (some first)
  | none => links

theorem lead_of_not_mem (outside : node ∉ nodes) (first : Node) :
    lead links nodes.getLast? first node = links node := by
  cases last : nodes.getLast? with
  | none => rfl
  | some other =>
      apply Function.update_of_ne
      rintro rfl
      exact outside (List.mem_of_getLast? last)

/-- The last node of a chain leads on to the first one of another chain. -/
theorem join {first : Node} (chain : Chain next start nodes none)
    (same : ∀ node ∈ nodes, links node = next node) (onward : Chain links (some first) others none)
    (apart : ∀ node ∈ nodes, node ∉ others) :
    Chain (lead links nodes.getLast? first) (start.or (some first)) (nodes ++ others) none := by
  rcases List.eq_nil_or_concat' nodes with rfl | ⟨initial, last, rfl⟩
  · obtain rfl : start = none := chain
    exact onward
  · have nodup := chain.nodup
    have started : start.or (some first) = start := by
      rw [chain.head_eq]
      cases initial <;> rfl
    have kept : Chain links start (initial ++ [last]) none := chain.congr same
    rw [started, List.getLast?_concat]
    apply append
    · refine concat_iff.mpr ⟨(concat_iff.mp kept).1.congr ?_, Function.update_self _ _ _⟩
      intro node inside
      apply Function.update_of_ne
      rintro rfl
      exact (List.nodup_append.mp nodup).2.2 node inside node (List.mem_singleton_self _) rfl
    · apply onward.congr
      intro node inside
      apply Function.update_of_ne
      rintro rfl
      exact apart node (List.mem_append_right _ (List.mem_singleton_self _)) inside

end

/-! ## Walks -/

/-- A step of a walk, which remembers the nodes that it met. -/
def walk (next : Node → Option Node) :
    Option Node × List Node → Loop.Pass (Option Node × List Node) (List Node)
  | (none, met) => .leave met
  | (some node, met) => .again (next node, met ++ [node])

/-- A walk along a chain meets its nodes in order. -/
theorem returns_walk (chain : Chain next start nodes none) (met : List Node) :
    Loop.Returns (walk next) (start, met) (met ++ nodes) := by
  induction nodes generalizing start met with
  | nil =>
      obtain rfl : start = none := chain
      rw [List.append_nil]
      exact .leave rfl
  | cons node nodes ih =>
      obtain ⟨rfl, onward⟩ := chain
      have rest := ih onward (met ++ [node])
      rw [List.append_assoc] at rest
      exact .again rfl rest

/-- A step of a walk that destroys the nodes: the link of a node is read before it is
destroyed, and no destroyed node is read. -/
def destroy [DecidableEq Node] (next : Node → Option Node) :
    Option Node × List Node → Loop.Pass (Option Node × List Node) (List Node)
  | (none, destroyed) => .leave destroyed
  | (some node, destroyed) =>
      if node ∈ destroyed then .blocked else .again (next node, destroyed ++ [node])

/-- The nodes of a chain are destroyed in order, when none of them was before. -/
theorem returns_destroy [DecidableEq Node] (chain : Chain next start nodes none)
    {destroyed : List Node} (apart : ∀ node ∈ nodes, node ∉ destroyed) :
    Loop.Returns (destroy next) (start, destroyed) (destroyed ++ nodes) := by
  induction nodes generalizing start destroyed with
  | nil =>
      obtain rfl : start = none := chain
      rw [List.append_nil]
      exact .leave rfl
  | cons node nodes ih =>
      have absent := (List.nodup_cons.mp chain.nodup).1
      obtain ⟨rfl, onward⟩ := chain
      have passed : destroy next (some node, destroyed) =
          .again (next node, destroyed ++ [node]) := if_neg (apart node List.mem_cons_self)
      have rest : Loop.Returns (destroy next) (next node, destroyed ++ [node])
          (destroyed ++ [node] ++ nodes) := by
        apply ih onward
        intro other inside
        rw [List.mem_append, List.mem_singleton, not_or]
        refine ⟨apart other (List.mem_cons_of_mem _ inside), ?_⟩
        rintro rfl
        exact absent inside
      rw [List.append_assoc] at rest
      exact .again passed rest

end Chain
