import Asio.Core.HashMapInvariant
import Asio.Lib.Transition

/-! # Runs of the hash map

The hash map as a machine whose actions are the calls on it, next to the finite
map it stands for: which entry was inserted for a key and not erased since. The
answers of the calls are those of the finite map.
-/

namespace Asio.Core

/-- A call on a hash map: `allocated` is the node that `std::list` gets when it
needs one, and an erasure is by key or by iterator. -/
inductive HashCall (Node K V : Type*) where
  | insert (allocated : Node) (v : K × V)
  | eraseKey (k : K)
  | erase (node : Node)
  | find (k : K)
  | clear

/-- The result of a call: an iterator, and for an insertion whether the entry is
new. -/
inductive HashAnswer (Node : Type*) where
  | inserted (it : Option Node) (isNew : Bool)
  | found (it : Option Node)
  | done

/-- A finite map: the node and the value of each key. -/
abbrev Entries (Node K V : Type*) := K → Option (Node × V)

variable {Node K V : Type*}

namespace Entries

/-- A finite map after a call with its answer. -/
def after [DecidableEq Node] [DecidableEq K] (entries : Entries Node K V) :
    HashCall Node K V → HashAnswer Node → Entries Node K V
  | .insert _ v, .inserted (some node) true => Function.update entries v.1 (some (node, v.2))
  | .eraseKey k, _ => Function.update entries k none
  | .erase node, _ => fun k => (entries k).filter fun entry => entry.1 ≠ node
  | .clear, _ => fun _ => none
  | _, _ => entries

/-- The answer of a finite map: an insertion adds an entry with a node of its own
when the key has none, and otherwise answers with the entry that is there. -/
def Answers (entries : Entries Node K V) : HashCall Node K V → HashAnswer Node → Prop
  | .insert _ v, answer =>
      (∃ node, answer = .inserted (some node) true ∧ entries v.1 = none ∧
        ∀ k value, entries k ≠ some (node, value)) ∨
      ∃ node value, answer = .inserted (some node) false ∧ entries v.1 = some (node, value)
  | .find k, answer => answer = .found ((entries k).map Prod.fst)
  | .eraseKey _, answer => answer = .done
  | .erase _, answer => answer = .done
  | .clear, answer => answer = .done

end Entries

namespace HashMap

variable [DecidableEq Node] [DecidableEq K] [HashValue K] [Inhabited K]

/-- Make a call: none when an assertion fails or a loop goes astray. -/
def call [Copying V] (map : HashMap Node K V) :
    HashCall Node K V → Option (HashMap Node K V × HashAnswer Node)
  | .insert allocated v =>
      (map.insert allocated v).map fun (map, it, isNew) => (map, .inserted it isNew)
  | .eraseKey k => (map.eraseKey k).map fun map => (map, .done)
  | .erase node => (map.eraseIt (some node)).map fun map => (map, .done)
  | .find k => (map.find k).map fun it => (map, .found it)
  | .clear => some (map.clear, .done)

/-- A call that may be made: the allocator returns a node that is not in use, and
an iterator refers to an entry. -/
def Admits (map : HashMap Node K V) : HashCall Node K V → Prop
  | .insert allocated _ => map.Fresh allocated
  | .erase node => node ∈ map.values
  | .eraseKey _ => True
  | .find _ => True
  | .clear => True

instance (map : HashMap Node K V) (allocated : Node) : Decidable (map.Fresh allocated) :=
  inferInstanceAs (Decidable (map.spares = [] → allocated ∉ map.values))

instance (map : HashMap Node K V) : (call : HashCall Node K V) → Decidable (map.Admits call)
  | .insert allocated _ => inferInstanceAs (Decidable (map.Fresh allocated))
  | .erase node => inferInstanceAs (Decidable (node ∈ map.values))
  | .eraseKey _ => isTrue trivial
  | .find _ => isTrue trivial
  | .clear => isTrue trivial

/-- A hash map stands for a finite map: iteration visits every entry exactly
once, the nodes are all different, the entries of each bucket are its range, and
rehashing keeps the entries. -/
structure StandsFor (map : HashMap Node K V) (entries : Entries Node K V) : Prop where
  visited : ∀ k node value, entries k = some (node, value) ↔
    node ∈ map.iterate ∧ map.key node = k ∧ map.value node = value
  once : map.iterate.Nodup
  iterate_eq : map.iterate = map.values
  size_eq : map.size = map.values.length
  nodes : (map.values ++ map.spares).Nodup
  ranges : ∀ bucket, NodeList.Range map.values
    (fun node => map.bucketOf (map.key node) = bucket) (map.buckets bucket).first
    (map.buckets bucket).last
  covered : ∀ node ∈ map.values, map.bucketOf (map.key node) < map.numBuckets
  rehashed : ∀ numBuckets, numBuckets ≠ 0 → ∃ next, map.rehash numBuckets = some next ∧
    map.Rehashed next numBuckets

/-! ### The finite map of a hash map -/

/-- The finite map that the entries of a hash map make up. -/
def contents (map : HashMap Node K V) : Entries Node K V :=
  fun k => (map.entry k).map fun node => (node, map.value node)

variable {map next : HashMap Node K V} {k : K} {node : Node} {value : V}

omit [DecidableEq Node] [Inhabited K] in
theorem Valid.contents_eq_some (valid : map.Valid) : map.contents k = some (node, value) ↔
    node ∈ map.values ∧ map.key node = k ∧ map.value node = value := by
  simp only [contents, Option.map_eq_some_iff, valid.entry_eq_some, Prod.mk.injEq]
  constructor
  · rintro ⟨_, ⟨member, rfl⟩, rfl, rfl⟩
    exact ⟨member, rfl, rfl⟩
  · rintro ⟨member, rfl, rfl⟩
    exact ⟨node, ⟨member, rfl⟩, rfl, rfl⟩

omit [DecidableEq Node] [HashValue K] [Inhabited K] in
theorem contents_map_fst : (map.contents k).map Prod.fst = map.entry k := by
  simp only [contents, Option.map_map]
  exact Option.map_id'

omit [DecidableEq Node] [Inhabited K] in
theorem Rehashed.contents_eq {numBuckets : Nat} (rehashed : map.Rehashed next numBuckets)
    (valid : map.Valid) (positive : numBuckets ≠ 0) : next.contents = map.contents := by
  funext k
  simp only [contents, rehashed.entry_eq valid positive, rehashed.value_eq]

omit [Inhabited K] in
theorem Inserted.contents_eq [Copying V] {v : K × V} (inserted : map.Inserted next node v)
    (valid : map.Valid) (after : next.Valid) (fresh : node ∉ map.values)
    (absent : map.entry v.1 = none) :
    next.contents = Function.update map.contents v.1 (some (node, map.stored v.2)) := by
  obtain ⟨left, right, split, placed⟩ := inserted.values_eq
  have member : ∀ other, other ∈ next.values ↔ other = node ∨ other ∈ map.values := by
    intro other
    rw [placed, split]
    simp only [List.mem_append, List.mem_cons]
    tauto
  have different := entry_eq_none.mp absent
  funext k
  apply Option.ext
  rintro ⟨other, value⟩
  rw [after.contents_eq_some, member, inserted.key_eq, inserted.value_eq]
  by_cases isNode : other = node
  · subst isNode
    simp only [Function.update_self, true_or, true_and]
    by_cases sameKey : k = v.1
    · subst sameKey
      simp
    · rw [Function.update_of_ne sameKey, valid.contents_eq_some]
      simp [fresh, Ne.symm sameKey]
  · simp only [Function.update_of_ne isNode, isNode, false_or]
    by_cases sameKey : k = v.1
    · subst sameKey
      rw [Function.update_self]
      constructor
      · rintro ⟨inside, same, -⟩
        exact absurd same (different other inside)
      · rintro same
        cases same
        exact absurd rfl isNode
    · rw [Function.update_of_ne sameKey, valid.contents_eq_some]

theorem Erased.contents_eq [Copying V] (erased : map.Erased next node) (valid : map.Valid)
    (after : next.Valid) (member : node ∈ map.values) :
    next.contents = Function.update map.contents (map.key node) none := by
  funext k
  apply Option.ext
  rintro ⟨other, value⟩
  rw [after.contents_eq_some, erased.values_eq, valid.values_nodup.mem_erase_iff, erased.key_eq,
    erased.value_eq]
  by_cases sameKey : k = map.key node
  · subst sameKey
    rw [Function.update_self]
    constructor
    · rintro ⟨⟨different, inside⟩, same, -⟩
      rw [Function.update_of_ne different] at same
      exact absurd (valid.distinct other inside node member same) different
    · nofun
  · rw [Function.update_of_ne sameKey, valid.contents_eq_some]
    constructor
    · rintro ⟨⟨different, inside⟩, same, stored⟩
      rw [Function.update_of_ne different] at same stored
      exact ⟨inside, same, stored⟩
    · rintro ⟨inside, same, stored⟩
      have different : other ≠ node := by
        rintro rfl
        exact sameKey same.symm
      rw [Function.update_of_ne different, Function.update_of_ne different]
      exact ⟨⟨different, inside⟩, same, stored⟩

omit [Inhabited K] in
theorem Valid.contents_write (valid : map.Valid) (member : node ∈ map.values) (value : V) :
    (map.write node value).contents =
      Function.update map.contents (map.key node) (some (node, value)) := by
  funext k
  apply Option.ext
  rintro ⟨other, stored⟩
  rw [(valid.write node value).contents_eq_some]
  change other ∈ map.values ∧ map.key other = k ∧
    Function.update map.value node value other = stored ↔ _
  by_cases sameKey : k = map.key node
  · subst sameKey
    rw [Function.update_self, Option.some.injEq, Prod.mk.injEq]
    constructor
    · rintro ⟨inside, same, isStored⟩
      have isNode := valid.distinct other inside node member same
      subst isNode
      rw [Function.update_self] at isStored
      exact ⟨rfl, isStored⟩
    · rintro ⟨rfl, rfl⟩
      exact ⟨member, rfl, Function.update_self _ _ _⟩
  · rw [Function.update_of_ne sameKey, valid.contents_eq_some]
    have different : map.key other = k → other ≠ node := by
      rintro rfl rfl
      exact sameKey rfl
    constructor
    · rintro ⟨inside, same, isStored⟩
      rw [Function.update_of_ne (different same)] at isStored
      exact ⟨inside, same, isStored⟩
    · rintro ⟨inside, same, isStored⟩
      rw [Function.update_of_ne (different same)]
      exact ⟨inside, same, isStored⟩

omit [Inhabited K] in
/-- The entry without the key of a node is the entry without the node. -/
theorem Valid.update_contents (valid : map.Valid) (member : node ∈ map.values) :
    Function.update map.contents (map.key node) none =
      fun k => (map.contents k).filter fun entry => entry.1 ≠ node := by
  funext k
  by_cases same : k = map.key node
  · subst same
    have found : map.contents (map.key node) = some (node, map.value node) :=
      valid.contents_eq_some.mpr ⟨member, rfl, rfl⟩
    simp [found, Option.filter]
  · rw [Function.update_of_ne same]
    cases found : map.contents k with
    | none => rfl
    | some entry =>
        obtain ⟨-, key_eq, -⟩ := valid.contents_eq_some.mp found
        have different : entry.1 ≠ node := by
          rintro rfl
          exact same key_eq.symm
        simp [Option.filter, different]

omit [DecidableEq K] [HashValue K] [Inhabited K] in
/-- Going on from a node of the list visits the rest of it. -/
theorem iterateFrom_eq {left right : List Node} {steps : Nat} (split : map.values = left ++ right)
    (nodup : map.values.Nodup) (enough : right.length ≤ steps) :
    map.iterateFrom steps right.head? = right := by
  induction right generalizing left steps with
  | nil => cases steps <;> rfl
  | cons node rest ih =>
      have following : NodeList.next map.values (some node) = rest.head? := by
        rw [split] at nodup ⊢
        exact NodeList.next_split nodup
      obtain ⟨fewer, rfl⟩ : ∃ fewer, steps = fewer + 1 := ⟨steps - 1, by simp at enough; omega⟩
      rw [List.head?_cons, iterateFrom, following]
      congr 1
      exact ih (by simp [split] : map.values = (left ++ [node]) ++ rest) (by simpa using enough)

omit [DecidableEq K] [Inhabited K] in
theorem Valid.iterate_eq (valid : map.Valid) : map.iterate = map.values :=
  iterateFrom_eq (List.nil_append _).symm valid.values_nodup (Nat.le_refl _)

omit [Inhabited K] in
/-- A valid map stands for its contents. -/
theorem Valid.standsFor (valid : map.Valid) : map.StandsFor map.contents where
  visited k node value := by
    rw [valid.iterate_eq]
    exact valid.contents_eq_some
  once := by
    rw [valid.iterate_eq]
    exact valid.values_nodup
  iterate_eq := valid.iterate_eq
  size_eq := valid.size_eq
  nodes := valid.nodup
  ranges := valid.ranges
  covered node member := by
    apply Nat.mod_lt
    rw [Nat.pos_iff_ne_zero]
    intro none
    rw [valid.hashed none] at member
    cases member
  rehashed _ positive := valid.rehash_eq positive

/-! ### The calls -/

/-- What a call makes of a valid map. -/
theorem Valid.call [Pod V] (valid : map.Valid) {call : HashCall Node K V}
    (admits : map.Admits call) :
    ∃ next answer, map.call call = some (next, answer) ∧ map.contents.Answers call answer ∧
      next.Valid ∧ next.contents = map.contents.after call answer := by
  cases call with
  | insert allocated v =>
      obtain ⟨middle, same, rehashed, positive⟩ := valid.insert_eq allocated v
      have between := rehashed.valid valid positive
      have fresh : middle.Fresh allocated := by
        intro none member
        rw [rehashed.spares_eq] at none
        exact admits none (rehashed.perm.mem_iff.mp member)
      rw [← rehashed.contents_eq valid positive]
      simp only [HashMap.call, same]
      cases found : middle.entry v.1 with
      | some node =>
          rw [between.insertHashed_present found]
          exact ⟨middle, _, rfl, Or.inr ⟨node, middle.value node, rfl, by simp [contents, found]⟩,
            between, rfl⟩
      | none =>
          obtain ⟨next, inserts, inserted, after⟩ :=
            between.insertHashed_absent positive fresh found
          have notTaken := between.taken_not_mem fresh
          rw [inserts]
          refine ⟨next, _, rfl, Or.inl ⟨middle.taken allocated, rfl, by simp [contents, found], ?_⟩,
            after, ?_⟩
          · intro k value same
            exact notTaken (between.contents_eq_some.mp same).1
          · rw [inserted.contents_eq between after notTaken found]
            have stored : middle.stored v.2 = v.2 := by
              unfold HashMap.stored
              split
              · exact Pod.copy_eq v.2
              · exact Pod.assign_eq _ v.2
            rw [stored]
            rfl
  | eraseKey k =>
      simp only [HashMap.call, HashMap.eraseKey, valid.find_eq]
      cases found : map.entry k with
      | none =>
          refine ⟨map, .done, rfl, rfl, valid, ?_⟩
          have absent : map.contents k = none := by simp [contents, found]
          change map.contents = Function.update map.contents k none
          rw [← absent, Function.update_eq_self]
      | some node =>
          obtain ⟨member, rfl⟩ := valid.entry_eq_some.mp found
          obtain ⟨next, erases, erased, after⟩ := valid.eraseIt_eq member
          simp only [erases]
          exact ⟨next, .done, rfl, rfl, after, erased.contents_eq valid after member⟩
  | erase node =>
      obtain ⟨next, erases, erased, after⟩ := valid.eraseIt_eq admits
      simp only [HashMap.call, erases]
      refine ⟨next, .done, rfl, rfl, after, ?_⟩
      rw [erased.contents_eq valid after admits]
      exact valid.update_contents admits
  | find k =>
      simp only [HashMap.call, valid.find_eq]
      exact ⟨map, _, rfl, by rw [← contents_map_fst]; rfl, valid, rfl⟩
  | clear => exact ⟨map.clear, .done, rfl, rfl, valid.clear, rfl⟩

end HashMap

/-- A hash map with the finite map that its calls have built. -/
structure HashRun (Node K V : Type*) where
  map : HashMap Node K V
  entries : Entries Node K V

namespace HashRun

variable [DecidableEq Node] [DecidableEq K] [HashValue K] [Inhabited K]

/-- The hash map as a machine. -/
def machine [Copying V] : Transition.Machine (HashRun Node K V) (HashCall Node K V) where
  initial state := ∃ key value, state = ⟨.new key value, fun _ => none⟩
  step state call :=
    if state.map.Admits call then
      (state.map.call call).map fun (map, answer) => ⟨map, state.entries.after call answer⟩
    else none

/-- The invariant of the runs. -/
def Valid (state : HashRun Node K V) : Prop :=
  state.map.Valid ∧ state.entries = state.map.contents

variable {state next : HashRun Node K V}

theorem Valid.step [Pod V] {call : HashCall Node K V} (valid : state.Valid)
    (stepped : machine.step state call = some next) : next.Valid := by
  simp only [machine] at stepped
  split at stepped
  · next admits =>
    obtain ⟨after, answer, answered, -, stillValid, contents⟩ := valid.1.call admits
    rw [answered] at stepped
    cases stepped
    exact ⟨stillValid, by rw [contents, ← valid.2]⟩
  · contradiction

theorem valid_of_reachable [Pod V] (reachable : machine.Reachable state) : state.Valid := by
  refine reachable.invariant ?_ fun _ _ _ _ valid _ stepped => valid.step stepped
  rintro _ ⟨key, value, rfl⟩
  exact ⟨HashMap.valid_new key value, rfl⟩

/-- **The hash map is a finite map.** After any calls it stands for the entries
that were inserted and not erased since, and answers every further call as the
finite map of these entries does. -/
theorem hash_map_refines [Pod V] (key : Node → K) (value : Node → V)
    (calls : List (HashCall Node K V))
    (ran : machine.run ⟨.new key value, fun _ => none⟩ calls = some state) :
    state.map.StandsFor state.entries ∧
    ∀ call, state.map.Admits call → ∃ map answer, state.map.call call = some (map, answer) ∧
      state.entries.Answers call answer := by
  have start : machine.Reachable (⟨.new key value, fun _ => none⟩ : HashRun Node K V) :=
    .initial ⟨key, value, rfl⟩
  obtain ⟨valid, same⟩ := valid_of_reachable (start.run calls ran)
  rw [same]
  refine ⟨valid.standsFor, fun call admits => ?_⟩
  obtain ⟨map, answer, answered, right, -⟩ := valid.call admits
  exact ⟨map, answer, answered, right⟩

/-- Negative keys and keys of one bucket, a growth, an erasure by key and one by
iterator, a spare node used again, and a key inserted twice. -/
def someCalls : List (HashCall Nat Int32 Nat) :=
  [.insert 1 (5, 50), .insert 2 (-8, 80), .insert 3 (18, 18), .insert 4 (-8, 81), .eraseKey 5,
    .insert 5 (-21, 21), .find (-21), .erase 2, .insert 6 (31, 31)]

theorem hash_map_refines_someCalls :
    ∃ state, machine.run ⟨.new (fun _ => 0) fun _ => 0, fun _ => none⟩ someCalls = some state ∧
      state.map.StandsFor state.entries := by
  refine ⟨_, rfl, ?_⟩
  exact (hash_map_refines (fun _ => 0) (fun _ => 0) someCalls rfl).1

end HashRun

end Asio.Core
