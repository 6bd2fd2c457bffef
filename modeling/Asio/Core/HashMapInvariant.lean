import Asio.Core.HashMap

/-! # The buckets of the hash map

In every state of a `hash_map` the entries of a bucket are a range of `values_`.
An insertion and a pass of `rehash` do the same to the ranges: a node is put
behind the last entry of its bucket, or at the end of the list.
-/

namespace Asio.Core.HashMap

variable {Node K V : Type*} [DecidableEq Node]

open NodeList (Range)

/-- Each bucket is the range of the nodes that belong to it. -/
def Ranges (bucket : Node → Nat) (nodes : List Node) (buckets : Nat → Bucket Node) : Prop :=
  ∀ b, Range nodes (fun node => bucket node = b) (buckets b).first (buckets b).last

namespace Ranges

variable {bucket : Node → Nat} {nodes : List Node} {buckets : Nat → Bucket Node} {node : Node}

omit [DecidableEq Node] in
theorem empty (bucket : Node → Nat) : Ranges bucket [] fun _ => .empty :=
  fun _ => .empty nofun

omit [DecidableEq Node] in
theorem congr {other : Node → Nat} (ranges : Ranges bucket nodes buckets)
    (same : ∀ node ∈ nodes, other node = bucket node) : Ranges other nodes buckets := by
  intro b
  refine (ranges b).congr fun node member => ?_
  simp only [same node member]

omit [DecidableEq Node] in
/-- The first entry of a bucket goes to the end of the list. -/
theorem place_first (ranges : Ranges bucket nodes buckets)
    (none : ∀ other ∈ nodes, bucket other ≠ bucket node) :
    Ranges bucket (nodes ++ [node])
      (Function.update buckets (bucket node) ⟨some node, some node⟩) := by
  intro b
  by_cases own : b = bucket node
  · subst own
    rw [Function.update_self]
    exact .insert_first rfl none
  · rw [Function.update_of_ne own]
    have before : Range (nodes ++ []) (fun node => bucket node = b) (buckets b).first
        (buckets b).last := by
      rw [List.append_nil]
      exact ranges b
    exact before.insert_elsewhere (Ne.symm own) (Or.inl rfl)

/-- A later entry goes behind the last one of its bucket. -/
theorem place_last {final : Node} (rest : List Node) (ranges : Ranges bucket nodes buckets)
    (last : (buckets (bucket node)).last = some final) (nodup : (nodes ++ rest).Nodup) :
    ∃ left right, nodes = left ++ right ∧
      NodeList.next (nodes ++ rest) (some final) = (right ++ rest).head? ∧
      Ranges bucket (left ++ node :: right)
        (Function.update buckets (bucket node) { buckets (bucket node) with last := some node }) := by
  have own := ranges (bucket node)
  rw [last] at own
  cases first : (buckets (bucket node)).first with
  | none =>
      rw [first] at own
      cases own.none_of_first.1
  | some head =>
      rw [first] at own
      obtain ⟨left, right, rfl, neighbour, isOwn, behind, placed⟩ := own.insert_last rest nodup rfl
      refine ⟨left, right, rfl, behind, fun b => ?_⟩
      by_cases same : b = bucket node
      · subst same
        rw [Function.update_self]
        rw [first]
        exact placed
      · rw [Function.update_of_ne same]
        refine (ranges b).insert_elsewhere (Ne.symm same) (Or.inr ⟨final, neighbour, ?_⟩)
        rw [isOwn]
        exact Ne.symm same

end Ranges

variable [DecidableEq K] [HashValue K]

/-- The invariant of the hash map. -/
structure Valid (map : HashMap Node K V) : Prop where
  nodup : (map.values ++ map.spares).Nodup
  size_eq : map.size = map.values.length
  distinct : ∀ node ∈ map.values, ∀ other ∈ map.values, map.key node = map.key other → node = other
  ranges : Ranges (fun node => map.bucketOf (map.key node)) map.values map.buckets
  hashed : map.numBuckets = 0 → map.values = []

/-- The node with a key. -/
def entry (map : HashMap Node K V) (k : K) : Option Node :=
  map.values.find? fun node => map.key node = k

variable {map : HashMap Node K V} {k : K}

omit [HashValue K] [DecidableEq Node] in
theorem entry_eq_none : map.entry k = none ↔ ∀ node ∈ map.values, map.key node ≠ k := by
  simp [entry]

omit [DecidableEq Node] in
theorem Valid.entry_eq_some (valid : map.Valid) {node : Node} :
    map.entry k = some node ↔ node ∈ map.values ∧ map.key node = k := by
  constructor
  · intro found
    exact ⟨List.mem_of_find?_eq_some found, by simpa using List.find?_some found⟩
  · rintro ⟨member, rfl⟩
    cases found : map.entry (map.key node) with
    | none => exact absurd rfl (entry_eq_none.mp found node member)
    | some other =>
        have same : map.key other = map.key node := by simpa using List.find?_some found
        rw [valid.distinct other (List.mem_of_find?_eq_some found) node member same]

omit [DecidableEq Node] [DecidableEq K] in
theorem Valid.values_nodup (valid : map.Valid) : map.values.Nodup :=
  (List.nodup_append.mp valid.nodup).1

/-! ### Looking for a key -/

omit [HashValue K] in
/-- The loop passes a stretch of nodes up to the first with the key. -/
theorem evaluate_scanBody {left entries right : List Node}
    (split : map.values = left ++ (entries ++ right)) (nodup : map.values.Nodup) (k : K)
    {passes : Nat} (enough : entries.length < passes) :
    Loop.evaluate (map.scanBody k right.head?) passes (entries ++ right).head? =
      some (entries.find? fun node => map.key node = k) := by
  obtain ⟨fuel, rfl⟩ : ∃ fuel, passes = fuel + 1 := ⟨passes - 1, by omega⟩
  induction entries generalizing left fuel with
  | nil => simp [Loop.evaluate, scanBody]
  | cons node rest ih =>
      have apart : some node ≠ right.head? := by
        have ends : ((left ++ node :: rest) ++ right).Nodup := by
          rw [split] at nodup
          simpa using nodup
        exact NodeList.ne_head ends (by simp)
      have following : NodeList.next map.values (some node) = (rest ++ right).head? := by
        have here : map.values = left ++ node :: (rest ++ right) := split
        rw [here] at nodup ⊢
        exact NodeList.next_split nodup
      rw [Loop.evaluate]
      simp only [List.cons_append, List.head?_cons, scanBody, apart, ↓reduceIte]
      by_cases found : map.key node = k
      · simp [found]
      · obtain ⟨fuel, rfl⟩ : ∃ more, fuel = more + 1 := ⟨fuel - 1, by simp at enough; omega⟩
        simp only [found, ↓reduceIte, following, decide_false, List.find?_cons_of_neg,
          Bool.false_eq_true, not_false_eq_true]
        have further : map.values = (left ++ [node]) ++ (rest ++ right) := by simp [split]
        exact ih further fuel (by simp at enough; omega)

omit [DecidableEq Node] [DecidableEq K] in
/-- A key with a node is in the range of its bucket, which is not empty. -/
theorem Valid.first_eq_none (valid : map.Valid)
    (vacant : (map.buckets (map.bucketOf k)).first = none) :
    ∀ node ∈ map.values, map.key node ≠ k := by
  have range := valid.ranges (map.bucketOf k)
  rw [vacant] at range
  intro node member same
  exact range.none_of_first.2 node member (congrArg map.bucketOf same)

/-- The loop over the range of a key's bucket finds the node with the key. -/
theorem Valid.scan_eq (valid : map.Valid)
    (occupied : (map.buckets (map.bucketOf k)).first ≠ none) :
    map.scan k (NodeList.next map.values (map.buckets (map.bucketOf k)).last)
      (map.buckets (map.bucketOf k)).first = some (map.entry k) := by
  obtain ⟨left, entries, right, split, inside, outLeft, outRight, isFirst, isLast⟩ :=
    valid.ranges (map.bucketOf k)
  cases last : (map.buckets (map.bucketOf k)).last with
  | none =>
      rw [last] at isLast
      rw [List.getLast?_eq_none_iff.mp isLast.symm] at isFirst
      exact absurd isFirst occupied
  | some final =>
      rw [last] at isLast
      obtain ⟨initial, rfl⟩ := List.getLast?_eq_some_iff.mp isLast.symm
      have nodup := valid.values_nodup
      have behind : NodeList.next map.values (some final) = right.head? := by
        have here : map.values = (left ++ initial) ++ final :: right := by
          rw [split]
          simp
        rw [here] at nodup ⊢
        exact NodeList.next_split nodup
      have head : (map.buckets (map.bucketOf k)).first = (initial ++ [final] ++ right).head? := by
        rw [isFirst]
        cases initial <;> rfl
      have short : (initial ++ [final]).length < map.values.length + 1 := by
        rw [split]
        simp only [List.length_append]
        omega
      have elsewhere : ∀ {nodes : List Node},
          (∀ node ∈ nodes, ¬ map.bucketOf (map.key node) = map.bucketOf k) →
          nodes.find? (fun node => map.key node = k) = none := by
        intro nodes out
        rw [List.find?_eq_none]
        intro node member
        simpa using fun same => out node member (congrArg map.bucketOf same)
      have whole : map.entry k = (initial ++ [final]).find? fun node => map.key node = k := by
        rw [entry, split, List.find?_append, elsewhere outLeft, Option.none_or, List.find?_append,
          elsewhere outRight, Option.or_none]
      rw [behind, head, scan, evaluate_scanBody split nodup k short, whole]

/-- **`find`.** -/
theorem Valid.find_eq (valid : map.Valid) (k : K) : map.find k = some (map.entry k) := by
  unfold find
  split
  · by_cases vacant : (map.buckets (map.bucketOf k)).first = none
    · simp only [vacant, ↓reduceIte, entry_eq_none.mpr (valid.first_eq_none vacant)]
    · simp only [vacant, ↓reduceIte, valid.scan_eq vacant]
  · next unhashed =>
    rw [Decidable.not_not] at unhashed
    simp [entry, valid.hashed unhashed]

/-! ### Insertion -/

/-- The node that an insertion uses. -/
def taken (map : HashMap Node K V) (allocated : Node) : Node := map.spares.headD allocated

/-- The value that an insertion leaves in its node. -/
def stored [Copying V] (map : HashMap Node K V) (v : V) : V :=
  match map.spares with
  | [] => Copying.copy v
  | spare :: _ => Copying.assign (map.value spare) v

/-- What the allocator returns is not in use. -/
def Fresh (map : HashMap Node K V) (allocated : Node) : Prop :=
  map.spares = [] → allocated ∉ map.values

omit [DecidableEq Node] [DecidableEq K] in
theorem Valid.taken_not_mem (valid : map.Valid) {allocated : Node} (fresh : map.Fresh allocated) :
    map.taken allocated ∉ map.values := by
  have apart := (List.nodup_append.mp valid.nodup).2.2
  unfold taken
  cases spare : map.spares with
  | nil => exact fresh spare
  | cons head rest =>
      intro member
      exact apart head member head (by simp [spare]) rfl

/-- The map with a node more in its list. -/
def withNode [Copying V] (map : HashMap Node K V) (values : List Node) (node : Node) (v : K × V) :
    HashMap Node K V :=
  { map with
    values
    spares := map.spares.tail
    key := Function.update map.key node v.1
    value := Function.update map.value node (map.stored v.2) }

omit [DecidableEq K] [HashValue K] in
/-- **`values_insert`.** -/
theorem valuesInsert_eq [Copying V] {allocated : Node} {left right : List Node} {v : K × V}
    (split : map.values = left ++ right) (nodup : map.values.Nodup)
    (absent : map.taken allocated ∉ map.values) :
    map.valuesInsert allocated right.head? v =
      (map.withNode (left ++ map.taken allocated :: right) (map.taken allocated) v,
        some (map.taken allocated)) := by
  have placed : ∀ node, NodeList.insert map.values right.head? node = left ++ node :: right := by
    intro node
    rw [split] at nodup ⊢
    exact NodeList.insert_split nodup
  unfold valuesInsert withNode stored
  unfold taken at absent ⊢
  cases spare : map.spares with
  | nil => simp only [placed, List.headD_nil, List.tail_nil]
  | cons head rest =>
      rw [spare, List.headD_cons] at absent
      have grown : ((left ++ [head]) ++ right).Nodup := by
        rw [split] at nodup absent
        rw [List.append_assoc, List.singleton_append]
        exact (List.nodup_middle.mpr (List.nodup_cons.mpr ⟨absent, nodup⟩))
      have back := NodeList.prev_split grown
      rw [List.append_assoc, List.singleton_append, List.getLast?_concat] at back
      simp only [placed, back, List.headD_cons, List.tail_cons]

/-- What an insertion makes of the list and of the contents of its nodes. -/
structure Inserted [Copying V] (map next : HashMap Node K V) (node : Node) (v : K × V) : Prop where
  values_eq : ∃ left right, map.values = left ++ right ∧ next.values = left ++ node :: right
  spares_eq : next.spares = map.spares.tail
  key_eq : next.key = Function.update map.key node v.1
  value_eq : next.value = Function.update map.value node (map.stored v.2)
  hashed : next.numBuckets ≠ 0

omit [DecidableEq Node] [DecidableEq K] in
theorem Valid.nodup_insert (valid : map.Valid) {allocated : Node} (fresh : map.Fresh allocated)
    {left right : List Node} (split : map.values = left ++ right) :
    (left ++ map.taken allocated :: right ++ map.spares.tail).Nodup := by
  have absent := valid.taken_not_mem fresh
  have nodup := valid.nodup
  unfold taken at absent ⊢
  cases spare : map.spares with
  | nil =>
      rw [spare, List.headD_nil, split] at absent
      rw [spare, List.append_nil, split] at nodup
      rw [List.headD_nil, List.tail_nil, List.append_nil]
      exact List.nodup_middle.mpr (List.nodup_cons.mpr ⟨absent, nodup⟩)
  | cons head rest =>
      rw [spare, split, List.nodup_middle, List.append_assoc] at nodup
      rw [List.headD_cons, List.tail_cons, List.append_assoc, List.cons_append]
      exact List.nodup_middle.mpr nodup

omit [DecidableEq K] in
/-- A node in its place leads to a valid map. -/
theorem Inserted.valid [DecidableEq K] [Copying V] {next : HashMap Node K V} {allocated : Node}
    {v : K × V} (inserted : map.Inserted next (map.taken allocated) v) (valid : map.Valid)
    (fresh : map.Fresh allocated) (absent : map.entry v.1 = none)
    (size_eq : next.size = map.size + 1) (sameHash : next.numBuckets = map.numBuckets)
    (ranges : Ranges (fun node => map.bucketOf (next.key node)) next.values next.buckets) :
    next.Valid where
  nodup := by
    obtain ⟨left, right, split, placed⟩ := inserted.values_eq
    rw [placed, inserted.spares_eq]
    exact valid.nodup_insert fresh split
  size_eq := by
    obtain ⟨left, right, split, placed⟩ := inserted.values_eq
    rw [size_eq, valid.size_eq, split, placed]
    simp only [List.length_append, List.length_cons]
    omega
  distinct := by
    obtain ⟨left, right, split, placed⟩ := inserted.values_eq
    have different := entry_eq_none.mp absent
    have notTaken : ∀ node ∈ map.values, node ≠ map.taken allocated := fun node member same =>
      valid.taken_not_mem fresh (same ▸ member)
    have either : ∀ node ∈ next.values, node = map.taken allocated ∨ node ∈ map.values := by
      intro node member
      rw [placed, List.mem_append, List.mem_cons] at member
      rw [split, List.mem_append]
      tauto
    intro node member other otherMember same
    rw [inserted.key_eq] at same
    rcases either node member with rfl | inside
    · rcases either other otherMember with rfl | otherInside
      · rfl
      · rw [Function.update_self, Function.update_of_ne (notTaken other otherInside)] at same
        exact absurd same.symm (different other otherInside)
    · rw [Function.update_of_ne (notTaken node inside)] at same
      rcases either other otherMember with rfl | otherInside
      · rw [Function.update_self] at same
        exact absurd same (different node inside)
      · rw [Function.update_of_ne (notTaken other otherInside)] at same
        exact valid.distinct node inside other otherInside same
  ranges := by
    unfold bucketOf at ranges ⊢
    rw [sameHash]
    exact ranges
  hashed none := absurd none inserted.hashed

/-- **`insert`** of a key that is there. -/
theorem Valid.insertHashed_present [Copying V] (valid : map.Valid) {allocated node : Node}
    {v : K × V} (found : map.entry v.1 = some node) :
    map.insertHashed allocated v = some (map, some node, false) := by
  have occupied : (map.buckets (map.bucketOf v.1)).first ≠ none := by
    intro vacant
    rw [entry_eq_none.mpr (valid.first_eq_none vacant)] at found
    cases found
  simp only [insertHashed, occupied, ↓reduceIte, valid.scan_eq occupied, found]

/-- **`insert`** of a new key. -/
theorem Valid.insertHashed_absent [Copying V] (valid : map.Valid) (hashed : map.numBuckets ≠ 0)
    {allocated : Node} (fresh : map.Fresh allocated) {v : K × V} (absent : map.entry v.1 = none) :
    ∃ next, map.insertHashed allocated v = some (next, some (map.taken allocated), true) ∧
      map.Inserted next (map.taken allocated) v ∧ next.Valid := by
  have notTaken : ∀ node ∈ map.values, node ≠ map.taken allocated := fun node member same =>
    valid.taken_not_mem fresh (same ▸ member)
  -- The buckets with the key of the new node in its place.
  let key := Function.update map.key (map.taken allocated) v.1
  have old : ∀ node ∈ map.values, map.bucketOf (key node) = map.bucketOf (map.key node) := by
    intro node member
    simp only [key, Function.update_of_ne (notTaken node member)]
  have own : map.bucketOf (key (map.taken allocated)) = map.bucketOf v.1 := by
    simp only [key, Function.update_self]
  have ranges : Ranges (fun node => map.bucketOf (key node)) map.values map.buckets :=
    valid.ranges.congr old
  unfold insertHashed
  by_cases vacant : (map.buckets (map.bucketOf v.1)).first = none
  · have atEnd := @valuesInsert_eq _ _ _ _ map _ allocated map.values [] v (by simp)
      valid.values_nodup (valid.taken_not_mem fresh)
    rw [List.head?_nil] at atEnd
    simp only [vacant, ↓reduceIte, atEnd]
    have inserted : map.Inserted
        { (map.withNode (map.values ++ [map.taken allocated]) (map.taken allocated) v).setBucket
            (map.bucketOf v.1) ⟨some (map.taken allocated), some (map.taken allocated)⟩ with
          size := map.size + 1 } (map.taken allocated) v :=
      ⟨⟨map.values, [], by simp, rfl⟩, rfl, rfl, rfl, hashed⟩
    refine ⟨_, rfl, inserted, inserted.valid valid fresh absent rfl rfl ?_⟩
    have range := valid.ranges (map.bucketOf v.1)
    rw [vacant] at range
    have away : ∀ other ∈ map.values,
        map.bucketOf (key other) ≠ map.bucketOf (key (map.taken allocated)) := by
      intro other member
      rw [own, old other member]
      exact range.none_of_first.2 other member
    have placed := ranges.place_first away
    simp only [own] at placed
    exact placed
  · simp only [vacant, ↓reduceIte, valid.scan_eq vacant, absent]
    cases last : (map.buckets (map.bucketOf v.1)).last with
    | none =>
        have range := valid.ranges (map.bucketOf v.1)
        obtain ⟨_, entries, _, -, -, -, -, isFirst, isLast⟩ := range
        rw [last] at isLast
        rw [List.getLast?_eq_none_iff.mp isLast.symm] at isFirst
        exact absurd isFirst vacant
    | some final =>
        have isLast :
            (map.buckets (map.bucketOf (key (map.taken allocated)))).last = some final := by
          rw [own]
          exact last
        obtain ⟨left, right, split, behind, placed⟩ := ranges.place_last [] isLast (by
          rw [List.append_nil]
          exact valid.values_nodup)
        rw [List.append_nil, List.append_nil] at behind
        rw [behind, valuesInsert_eq split valid.values_nodup (valid.taken_not_mem fresh)]
        have inserted : map.Inserted
            { (map.withNode (left ++ map.taken allocated :: right) (map.taken allocated) v).setBucket
                (map.bucketOf v.1)
                { map.buckets (map.bucketOf v.1) with last := some (map.taken allocated) } with
              size := map.size + 1 } (map.taken allocated) v :=
          ⟨⟨left, right, split, rfl⟩, rfl, rfl, rfl, hashed⟩
        refine ⟨_, rfl, inserted, inserted.valid valid fresh absent rfl rfl ?_⟩
        simp only [own] at placed
        exact placed

/-! ### Rehashing -/

/-- The same entries over as many buckets. -/
structure Rehashed (map next : HashMap Node K V) (numBuckets : Nat) : Prop where
  perm : next.values.Perm map.values
  spares_eq : next.spares = map.spares
  key_eq : next.key = map.key
  value_eq : next.value = map.value
  size_eq : next.size = map.size
  numBuckets_eq : next.numBuckets = numBuckets
  ranges : Ranges (fun node => next.bucketOf (next.key node)) next.values next.buckets

omit [DecidableEq K] in
/-- The loop of `rehash` with the nodes `done` put back: one pass puts the next
node behind the last one of its bucket, or leaves it behind all of them. -/
theorem rehashBody_again {done rest : List Node} {node : Node}
    (split : map.values = done ++ node :: rest) (nodup : map.values.Nodup)
    (ranges : Ranges (fun node => map.bucketOf (map.key node)) done map.buckets) :
    ∃ left right buckets, done = left ++ right ∧
      rehashBody (map, some node) = .again
        ({ map with values := (left ++ node :: right) ++ rest, buckets }, rest.head?) ∧
      Ranges (fun node => map.bucketOf (map.key node)) (left ++ node :: right) buckets := by
  have following : NodeList.next map.values (some node) = rest.head? := by
    rw [split] at nodup ⊢
    exact NodeList.next_split nodup
  have joined : (done ++ (node :: rest)).Nodup := split ▸ nodup
  cases last : (map.buckets (map.bucketOf (map.key node))).last with
  | none =>
      have first : (map.buckets (map.bucketOf (map.key node))).first = none ∧
          ∀ other ∈ done, map.bucketOf (map.key other) ≠ map.bucketOf (map.key node) := by
        obtain ⟨left, entries, right, rfl, -, outLeft, outRight, isFirst, isLast⟩ :=
          ranges (map.bucketOf (map.key node))
        rw [last] at isLast
        rw [List.getLast?_eq_none_iff.mp isLast.symm] at isFirst ⊢
        refine ⟨isFirst, fun other member => ?_⟩
        rcases List.mem_append.mp member with member | member
        · exact outLeft other member
        · exact outRight other member
      refine ⟨done, [], _, by simp, ?_, ranges.place_first first.2⟩
      have same : map.values = (done ++ [node]) ++ rest := by rw [split]; simp
      simp only [rehashBody, last, ↓reduceIte, following, setBucket, ← same]
  | some final =>
      obtain ⟨left, right, rfl, behind, placed⟩ := ranges.place_last (node :: rest) last joined
      refine ⟨left, right, _, rfl, ?_, placed⟩
      rw [← split] at behind
      cases right with
      | nil =>
          have same : map.values = (left ++ [node]) ++ rest := by rw [split]; simp
          simp only [rehashBody, last, reduceCtorEq, ↓reduceIte, behind, List.nil_append,
            List.head?_cons, following, setBucket, ← same]
      | cons head others =>
          have different : some head ≠ some node := by
            intro same
            cases same
            exact (List.nodup_append.mp joined).2.2 node (by simp) node (by simp) rfl
          have removed : map.values.erase node = left ++ (head :: others ++ rest) := by
            rw [split] at nodup ⊢
            rw [NodeList.erase_split nodup, List.append_assoc]
          have without : (left ++ (head :: others ++ rest)).Nodup := by
            rw [← removed]
            exact nodup.erase node
          have placedAt := @NodeList.insert_split _ _ left (head :: others ++ rest) node without
          rw [List.cons_append, List.head?_cons, ← List.cons_append] at placedAt
          have grown : ((left ++ [node]) ++ (head :: others ++ rest)).Nodup := by
            rw [List.append_assoc, List.singleton_append]
            refine List.nodup_middle.mpr (List.nodup_cons.mpr ⟨?_, without⟩)
            rw [← removed]
            exact fun member => (nodup.mem_erase_iff.mp member).1 rfl
          have back := NodeList.prev_split grown
          rw [List.append_assoc, List.singleton_append, List.getLast?_concat, List.cons_append,
            List.head?_cons, ← List.cons_append] at back
          simp only [rehashBody, last, reduceCtorEq, ↓reduceIte, behind, List.cons_append,
            List.head?_cons, different, removed, following, setBucket]
          rw [← List.cons_append, placedAt, back]
          simp

omit [DecidableEq K] in
/-- The loop of `rehash` returns, with the ranges of all nodes. -/
theorem evaluate_rehashBody (rest : List Node) {done : List Node} {passes : Nat}
    (split : map.values = done ++ rest) (nodup : map.values.Nodup)
    (ranges : Ranges (fun node => map.bucketOf (map.key node)) done map.buckets)
    (enough : rest.length < passes) :
    ∃ next, Loop.evaluate rehashBody passes (map, rest.head?) = some next ∧
      map.Rehashed next map.numBuckets := by
  obtain ⟨fuel, rfl⟩ : ∃ fuel, passes = fuel + 1 := ⟨passes - 1, by omega⟩
  induction rest generalizing map done fuel with
  | nil =>
      rw [List.append_nil] at split
      refine ⟨map, rfl, .refl _, rfl, rfl, rfl, rfl, rfl, ?_⟩
      rw [split]
      exact ranges
  | cons node rest ih =>
      obtain ⟨left, right, buckets, rfl, again, placed⟩ := rehashBody_again split nodup ranges
      obtain ⟨fuel, rfl⟩ : ∃ more, fuel = more + 1 := ⟨fuel - 1, by simp at enough; omega⟩
      have moved : ((left ++ node :: right) ++ rest).Perm map.values := by
        rw [split]
        simpa using (List.perm_middle.symm.append_left left : _)
      rw [List.head?_cons, Loop.evaluate, again]
      obtain ⟨next, returns, rehashed⟩ := @ih
        { map with values := (left ++ node :: right) ++ rest, buckets } (left ++ node :: right) rfl
        (moved.nodup_iff.mpr nodup) placed fuel (by simp at enough; omega)
      exact ⟨next, returns, rehashed.perm.trans moved, rehashed.spares_eq, rehashed.key_eq,
        rehashed.value_eq, rehashed.size_eq, rehashed.numBuckets_eq, rehashed.ranges⟩

omit [DecidableEq K] in
/-- **`rehash`.** -/
theorem Valid.rehash_eq (valid : map.Valid) {numBuckets : Nat} (positive : numBuckets ≠ 0) :
    ∃ next, map.rehash numBuckets = some next ∧ map.Rehashed next numBuckets := by
  unfold rehash
  by_cases same : numBuckets = map.numBuckets
  · subst same
    exact ⟨map, by simp, .refl _, rfl, rfl, rfl, rfl, rfl, valid.ranges⟩
  · simp only [same, ↓reduceIte, positive]
    obtain ⟨next, returns, rehashed⟩ := @evaluate_rehashBody _ _ _ _ _
      { map with numBuckets, buckets := fun _ => .empty } map.values [] _ rfl valid.values_nodup
      (.empty _) (Nat.lt_succ_self _)
    exact ⟨next, returns, rehashed.perm, rehashed.spares_eq, rehashed.key_eq, rehashed.value_eq,
      rehashed.size_eq, rehashed.numBuckets_eq, rehashed.ranges⟩

omit [DecidableEq Node] [DecidableEq K] in
theorem Rehashed.valid {next : HashMap Node K V} {numBuckets : Nat}
    (rehashed : map.Rehashed next numBuckets) (valid : map.Valid) (positive : numBuckets ≠ 0) :
    next.Valid where
  nodup := by
    rw [rehashed.spares_eq]
    exact (rehashed.perm.append_right _).nodup_iff.mpr valid.nodup
  size_eq := by rw [rehashed.size_eq, rehashed.perm.length_eq, valid.size_eq]
  distinct node member other otherMember := by
    rw [rehashed.key_eq]
    exact valid.distinct node (rehashed.perm.mem_iff.mp member) other
      (rehashed.perm.mem_iff.mp otherMember)
  ranges := rehashed.ranges
  hashed none := absurd (rehashed.numBuckets_eq.symm.trans none) positive

omit [DecidableEq Node] in
theorem Rehashed.entry_eq {next : HashMap Node K V} {numBuckets : Nat}
    (rehashed : map.Rehashed next numBuckets) (valid : map.Valid) (positive : numBuckets ≠ 0) :
    next.entry k = map.entry k := by
  apply Option.ext
  intro node
  rw [(rehashed.valid valid positive).entry_eq_some, valid.entry_eq_some, rehashed.perm.mem_iff,
    rehashed.key_eq]

theorem hashSizeFrom_pos {numElems size : Nat} {rest : List Nat} (positive : size ≠ 0)
    (others : ∀ other ∈ rest, other ≠ 0) : hashSizeFrom numElems size rest ≠ 0 := by
  induction rest generalizing size with
  | nil => exact positive
  | cons next rest ih =>
      rw [hashSizeFrom]
      split
      · exact positive
      · exact ih (others next List.mem_cons_self) fun other member =>
          others other (List.mem_cons_of_mem _ member)

theorem hashSize_pos (numElems : Nat) : hashSize numElems ≠ 0 :=
  hashSizeFrom_pos (by decide) (by decide)

/-- The map that an insertion works on: as many buckets as the entries need. -/
theorem Valid.insert_eq [Copying V] (valid : map.Valid) (allocated : Node) (v : K × V) :
    ∃ middle, map.insert allocated v = middle.insertHashed allocated v ∧
      map.Rehashed middle middle.numBuckets ∧ middle.numBuckets ≠ 0 := by
  unfold insert
  split
  · obtain ⟨middle, returns, rehashed⟩ := valid.rehash_eq (hashSize_pos (map.size + 1))
    refine ⟨middle, by rw [returns, Option.bind_some], rehashed.numBuckets_eq ▸ rehashed, ?_⟩
    rw [rehashed.numBuckets_eq]
    exact hashSize_pos _
  · next enough =>
    exact ⟨map, rfl, ⟨.refl _, rfl, rfl, rfl, rfl, rfl, valid.ranges⟩, by omega⟩

/-! ### Removal -/

/-- What an erasure makes of the list and of the contents of its nodes. -/
structure Erased [Inhabited K] [Copying V] (map next : HashMap Node K V) (node : Node) : Prop where
  values_eq : next.values = map.values.erase node
  spares_eq : next.spares = node :: map.spares
  key_eq : next.key = Function.update map.key node default
  value_eq : next.value =
    Function.update map.value node (Copying.assign (map.value node) Copying.default)

/-- The ranges without a node, as `erase` writes them. -/
theorem Ranges.erase {bucket : Node → Nat} {left right : List Node} {buckets : Nat → Bucket Node}
    {node : Node} (ranges : Ranges bucket (left ++ node :: right) buckets)
    (nodup : (left ++ node :: right).Nodup) :
    let range := buckets (bucket node)
    Ranges bucket (left ++ right) (Function.update buckets (bucket node)
      (if some node = range.first ∧ some node = range.last then .empty
        else if some node = range.first then
          { range with first := NodeList.next (left ++ node :: right) range.first }
        else if some node = range.last then
          { range with last := NodeList.prev (left ++ node :: right) range.last }
        else range)) := by
  intro range b
  by_cases own : b = bucket node
  · subst own
    have erased := (ranges (bucket node)).erase_own nodup rfl
    rw [Function.update_self]
    by_cases isFirst : some node = range.first
    · by_cases isLast : some node = range.last
      · rw [if_pos isLast.symm, if_pos isFirst.symm, if_pos isFirst.symm,
          if_pos isLast.symm] at erased
        rw [if_pos ⟨isFirst, isLast⟩]
        exact erased
      · rw [if_pos isFirst.symm, if_neg (Ne.symm isLast), if_neg (Ne.symm isLast)] at erased
        rw [if_neg fun both => isLast both.2, if_pos isFirst, ← isFirst]
        exact erased
    · rw [if_neg fun both => isFirst both.1, if_neg isFirst]
      rw [if_neg (Ne.symm isFirst)] at erased
      by_cases isLast : some node = range.last
      · rw [if_pos isLast.symm, if_neg (Ne.symm isFirst)] at erased
        rw [if_pos isLast, ← isLast]
        exact erased
      · rw [if_neg (Ne.symm isLast)] at erased
        rw [if_neg isLast]
        exact erased
  · rw [Function.update_of_ne own]
    exact (ranges b).erase_elsewhere (Ne.symm own)

omit [DecidableEq K] in
/-- **`erase`.** -/
theorem Valid.eraseIt_eq [Inhabited K] [Copying V] (valid : map.Valid) {node : Node}
    (member : node ∈ map.values) :
    ∃ next, map.eraseIt (some node) = some next ∧ map.Erased next node ∧ next.Valid := by
  have hashed : map.numBuckets ≠ 0 := fun none => by
    rw [valid.hashed none] at member
    cases member
  have nodup := valid.values_nodup
  obtain ⟨left, right, split⟩ := List.append_of_mem member
  have removed : map.values.erase node = left ++ right := by
    rw [split] at nodup ⊢
    exact NodeList.erase_split nodup
  have others : ∀ other ∈ map.values.erase node, other ≠ node ∧ other ∈ map.values :=
    fun other inside => nodup.mem_erase_iff.mp inside
  have ranges := valid.ranges
  rw [split] at ranges nodup
  have erased := ranges.erase nodup
  simp only [eraseIt, hashed, ↓reduceIte]
  refine ⟨_, rfl, ⟨rfl, rfl, rfl, rfl⟩, ?_⟩
  constructor
  · have moved : (map.values.erase node ++ node :: map.spares).Perm (map.values ++ map.spares) := by
      rw [removed, split, List.append_assoc, List.append_assoc, List.cons_append]
      exact List.perm_middle.append_left left |>.trans (.refl _)
    exact moved.nodup_iff.mpr valid.nodup
  · change map.size - 1 = (map.values.erase node).length
    rw [List.length_erase_of_mem member, valid.size_eq]
  · intro first firstMember second secondMember same
    obtain ⟨firstOther, firstInside⟩ := others first firstMember
    obtain ⟨secondOther, secondInside⟩ := others second secondMember
    simp only [valuesErase, setBucket, Function.update_of_ne firstOther,
      Function.update_of_ne secondOther] at same
    exact valid.distinct first firstInside second secondInside same
  · rw [← split, ← removed] at erased
    refine erased.congr fun other inside => ?_
    simp only [valuesErase, setBucket, Function.update_of_ne (others other inside).1]
    rfl
  · exact fun none => absurd none hashed

omit [DecidableEq K] in
/-- The values of the entries do not matter to the lists and the buckets. -/
theorem Valid.write (valid : map.Valid) (node : Node) (value : V) : (map.write node value).Valid :=
  ⟨valid.nodup, valid.size_eq, valid.distinct, valid.ranges, valid.hashed⟩

omit [DecidableEq Node] [DecidableEq K] in
/-- **`clear`.** -/
theorem Valid.clear (valid : map.Valid) : map.clear.Valid where
  nodup := (List.nodup_append.mp valid.nodup).2.1
  size_eq := rfl
  distinct := nofun
  ranges := .empty _
  hashed _ := rfl

omit [DecidableEq Node] [DecidableEq K] in
theorem valid_new (key : Node → K) (value : Node → V) : (new key value).Valid where
  nodup := List.nodup_nil
  size_eq := rfl
  distinct := nofun
  ranges := .empty _
  hashed _ := rfl

end Asio.Core.HashMap
