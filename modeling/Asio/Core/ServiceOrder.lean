import Asio.Core.ServiceRegistry

/-! # The order of the services

A service is put in front of every service that was obtained while it was being
constructed, since those are in the list by then. The list only grows at the
front, so the order stays, and the services are shut down and destroyed before
those they obtained.
-/

namespace Asio.Core

namespace Registry

variable {Thread TypeInfo Id : Type*} {state : Registry Thread TypeInfo Id}

/-! ## Where the objects are -/

/-- The services that are or were in the list, those destroyed first. -/
def entries (state : Registry Thread TypeInfo Id) : List (Entry TypeInfo Id) :=
  state.destroyed ++ state.services

/-- Their names. -/
def names (state : Registry Thread TypeInfo Id) : List Nat := state.entries.map Entry.name

/-- Every object is in one place. -/
structure Placed (state : Registry Thread TypeInfo Id) : Prop where
  constructed : ∀ thread, ∀ construction ∈ state.threads thread,
    state.place construction.service.name = .constructed thread
  nested : ∀ thread, ((state.threads thread).map fun construction =>
    construction.service.name).Nodup
  owned : ∀ service ∈ state.owned, state.place service.name = .owned
  registered : ∀ name ∈ state.names, state.place name = .registered
  nodup : state.names.Nodup
  unborn : ∀ name, state.allocated ≤ name → state.place name = .unborn

/-- An object that is nowhere: no constructor of it runs, and neither the user
nor the list has it. -/
structure Loose (state : Registry Thread TypeInfo Id) (name : Nat) : Prop where
  constructed : ∀ thread, ∀ construction ∈ state.threads thread,
    construction.service.name ≠ name
  owned : ∀ service ∈ state.owned, service.name ≠ name
  registered : name ∉ state.names
  born : name < state.allocated

/-- Destroying a service does not change what is or was in the list. -/
theorem entries_destroy {next : Registry Thread TypeInfo Id}
    (destroyed : state.destroy = some next) : next.entries = state.entries := by
  unfold Registry.destroy at destroyed
  split at destroyed
  · cases destroyed
  · next services =>
    cases destroyed
    simp [entries, services]

theorem names_register {service : Service} {key : Key TypeInfo Id} (first : state.destroyed = []) :
    (state.register key service).names = service.name :: state.names := by
  simp [names, entries, register, first, Entry.name]

namespace Placed

section

variable {name : Nat} {place : Place Thread}

theorem lt_of_born (placed : state.Placed) (born : state.place name ≠ .unborn) :
    name < state.allocated := by
  by_contra later
  exact born (placed.unborn name (Nat.le_of_not_lt later))

/-- An object that is nowhere can go anywhere. -/
theorem update (placed : state.Placed) (loose : state.Loose name) :
    Placed { state with place := Function.update state.place name place } where
  constructed thread construction member :=
    (Function.update_of_ne (loose.constructed thread construction member) _ _).trans
      (placed.constructed thread construction member)
  nested := placed.nested
  owned service member :=
    (Function.update_of_ne (loose.owned service member) _ _).trans (placed.owned service member)
  registered other member := by
    refine (Function.update_of_ne ?_ _ _).trans (placed.registered other member)
    rintro rfl
    exact loose.registered member
  nodup := placed.nodup
  unborn other bound :=
    (Function.update_of_ne (Nat.ne_of_gt (Nat.lt_of_lt_of_le loose.born bound)) _ _).trans
      (placed.unborn other bound)

end

theorem discard {name : Nat} (placed : state.Placed) (loose : state.Loose name) :
    (state.discard name).Placed := placed.update loose

theorem keep {service : Service} (placed : state.Placed) (loose : state.Loose service.name) :
    (state.keep service).Placed where
  constructed := (placed.update loose).constructed
  nested := placed.nested
  owned other member := by
    obtain rfl | member := List.mem_cons.mp member
    · exact Function.update_self _ _ _
    · exact (placed.update loose).owned other member
  registered := (placed.update loose).registered
  nodup := placed.nodup
  unborn := (placed.update loose).unborn

theorem register {service : Service} {key : Key TypeInfo Id} (placed : state.Placed)
    (loose : state.Loose service.name) (first : state.destroyed = []) :
    (state.register key service).Placed where
  constructed := (placed.update loose).constructed
  nested := placed.nested
  owned := (placed.update loose).owned
  registered other member := by
    rw [names_register first] at member
    obtain rfl | member := List.mem_cons.mp member
    · exact Function.update_self _ _ _
    · exact (placed.update loose).registered other member
  nodup := names_register first ▸ List.nodup_cons.mpr ⟨loose.registered, placed.nodup⟩
  unborn := (placed.update loose).unborn

theorem destroy {next : Registry Thread TypeInfo Id} (placed : state.Placed)
    (destroyed : state.destroy = some next) : next.Placed := by
  have same : next.names = state.names := congrArg (List.map Entry.name) (entries_destroy destroyed)
  unfold Registry.destroy at destroyed
  split at destroyed
  · cases destroyed
  · cases destroyed
    exact {
      constructed := placed.constructed
      nested := placed.nested
      owned := placed.owned
      registered := fun name member => placed.registered name (same ▸ member)
      nodup := same ▸ placed.nodup
      unborn := placed.unborn }

/-- The user hands a service over. -/
theorem disown (placed : state.Placed) {service : Service} (member : service ∈ state.owned) :
    Placed { state with
      owned := state.owned.filter fun other => other.name ≠ service.name } ∧
    Loose { state with
      owned := state.owned.filter fun other => other.name ≠ service.name } service.name := by
  have owned := placed.owned service member
  refine ⟨⟨placed.constructed, placed.nested, ?_, placed.registered, placed.nodup, placed.unborn⟩,
    ⟨?_, ?_, ?_, ?_⟩⟩
  · exact fun other kept => placed.owned other (List.mem_filter.mp kept).1
  · intro thread construction running same
    have place := placed.constructed thread construction running
    rw [same, owned] at place
    cases place
  · exact fun other kept => of_decide_eq_true (List.mem_filter.mp kept).2
  · intro listed
    have place := placed.registered _ listed
    rw [owned] at place
    cases place
  · exact placed.lt_of_born (by rw [owned]; exact nofun)

variable [DecidableEq Thread]

/-- Other constructors of a thread, whose objects are where they should be. -/
theorem rethread (placed : state.Placed) {thread : Thread}
    {constructions : List (Construction TypeInfo Id)}
    (constructed : ∀ construction ∈ constructions,
      state.place construction.service.name = .constructed thread)
    (nested : (constructions.map fun construction => construction.service.name).Nodup) :
    Placed { state with threads := Function.update state.threads thread constructions } where
  constructed other construction member := by
    by_cases own : other = thread
    · subst own
      exact constructed construction (by simpa using member)
    · exact placed.constructed other construction (by simpa [own] using member)
  nested other := by
    by_cases own : other = thread
    · subst own
      simpa using nested
    · simpa [own] using placed.nested other
  owned := placed.owned
  registered := placed.registered
  nodup := placed.nodup
  unborn := placed.unborn

theorem leave (placed : state.Placed) (thread : Thread) : (state.leave thread).Placed := by
  refine placed.rethread ?_ ?_
  · exact fun construction member =>
      placed.constructed thread construction (List.mem_of_mem_tail member)
  · rw [List.map_tail]
    exact (placed.nested thread).tail

theorem deliver (placed : state.Placed) (thread : Thread) (key : Key TypeInfo Id) (name : Nat) :
    (state.deliver thread key name).Placed := by
  have delivered : Placed { state with
      threads := Function.update state.threads thread
        ((state.threads thread).map (Construction.obtain name)) } := placed.rethread ?_ ?_
  · exact ⟨delivered.constructed, delivered.nested, placed.owned, placed.registered,
      placed.nodup, placed.unborn⟩
  · intro construction member
    obtain ⟨before, running, rfl⟩ := List.mem_map.mp member
    exact placed.constructed thread before running
  · rw [List.map_map]
    exact placed.nested thread

/-- The object whose constructor has ended is nowhere yet. -/
theorem loose_leave (placed : state.Placed) {thread : Thread}
    {construction : Construction TypeInfo Id} {outer : List (Construction TypeInfo Id)}
    (inside : state.threads thread = construction :: outer) :
    (state.leave thread).Loose construction.service.name := by
  have place : state.place construction.service.name = .constructed thread :=
    placed.constructed thread construction (inside ▸ List.mem_cons_self)
  refine ⟨?_, ?_, ?_, ?_⟩
  · intro other running member same
    have at_other := (placed.leave thread).constructed other running member
    rw [same] at at_other
    obtain rfl : thread = other := Place.constructed.inj (place.symm.trans at_other)
    have nested := placed.nested thread
    rw [inside, List.map_cons, List.nodup_cons] at nested
    refine nested.1 (List.mem_map.mpr ⟨running, ?_, same⟩)
    simpa [Registry.leave, inside] using member
  · intro service member same
    have owned := placed.owned service member
    rw [same, place] at owned
    cases owned
  · intro member
    have registered := placed.registered _ member
    rw [place] at registered
    cases registered
  · exact placed.lt_of_born (by rw [place]; exact nofun)

theorem enter (placed : state.Placed) (thread : Thread) (request : Option (Key TypeInfo Id))
    (owner : Nat) : (state.enter thread request owner).Placed := by
  have older : ∀ {name : Nat} {place : Place Thread}, state.place name = place →
      place ≠ .unborn → (state.enter thread request owner).place name = place := by
    rintro name _ rfl born
    exact Function.update_of_ne (Nat.ne_of_lt (placed.lt_of_born born)) _ _
  exact {
    constructed := by
      intro other construction member
      by_cases own : other = thread
      · subst own
        have member : construction = ⟨request, ⟨state.allocated, owner, []⟩⟩ ∨
            construction ∈ state.threads other := by
          simpa [Registry.enter] using member
        obtain rfl | running := member
        · exact Function.update_self _ _ _
        · exact older (placed.constructed other construction running) nofun
      · have running : construction ∈ state.threads other := by
          simpa [Registry.enter, own] using member
        exact older (placed.constructed other construction running) nofun
    nested := by
      intro other
      by_cases own : other = thread
      · subst own
        suffices fresh : ∀ construction ∈ state.threads other,
            construction.service.name ≠ state.allocated by
          simpa [Registry.enter, placed.nested other] using fresh
        intro construction running
        have place := placed.constructed other construction running
        exact Nat.ne_of_lt (placed.lt_of_born (by rw [place]; exact nofun))
      · simpa [Registry.enter, own] using placed.nested other
    owned := fun service member => older (placed.owned service member) nofun
    registered := fun name member => older (placed.registered name member) nofun
    nodup := placed.nodup
    unborn := by
      intro name bound
      exact (Function.update_of_ne (Nat.ne_of_gt bound) _ _).trans
        (placed.unborn name (Nat.le_of_succ_le bound)) }

end Placed

/-! ## In which order they are -/

/-- Every service is in front of those it obtained while it was constructed. -/
def Behind : List (Entry TypeInfo Id) → Prop
  | [] => True
  | entry :: later => (∀ name ∈ entry.service.obtained, name ∈ later.map Entry.name) ∧ Behind later

theorem Behind.of_append {before after : List (Entry TypeInfo Id)} {entry : Entry TypeInfo Id}
    (behind : Behind (before ++ entry :: after)) :
    ∀ name ∈ entry.service.obtained, name ∈ after.map Entry.name := by
  induction before with
  | nil => exact behind.1
  | cons _ _ ih => exact ih behind.2

/-- Whatever was obtained is in the list, and behind those who obtained it; no key
is there twice; and what was returned for a key is the service with that key. -/
structure Ordered (state : Registry Thread TypeInfo Id) : Prop where
  constructed : ∀ thread, ∀ construction ∈ state.threads thread,
    construction.service.obtained ⊆ state.names
  owned : ∀ service ∈ state.owned, service.obtained ⊆ state.names
  behind : Behind state.entries
  distinct : (state.entries.map Entry.key).Nodup
  returned : ∀ key name, (key, name) ∈ state.returned →
    ∃ entry ∈ state.entries, entry.key = key ∧ entry.name = name
  intact : state.destroying = false → state.destroyed = []

namespace Ordered

theorem discard (ordered : state.Ordered) (name : Nat) : (state.discard name).Ordered :=
  ⟨ordered.constructed, ordered.owned, ordered.behind, ordered.distinct, ordered.returned,
    ordered.intact⟩

theorem keep {service : Service} (ordered : state.Ordered)
    (obtained : service.obtained ⊆ state.names) : (state.keep service).Ordered where
  constructed := ordered.constructed
  owned other member := by
    obtain rfl | member := List.mem_cons.mp member
    · exact obtained
    · exact ordered.owned other member
  behind := ordered.behind
  distinct := ordered.distinct
  returned := ordered.returned
  intact := ordered.intact

theorem disown (ordered : state.Ordered) (kept : Service → Bool) :
    Ordered { state with owned := state.owned.filter kept } :=
  ⟨ordered.constructed, fun service member =>
      ordered.owned service (List.mem_filter.mp member).1,
    ordered.behind, ordered.distinct, ordered.returned, ordered.intact⟩

/-- A service with a new key goes in front of all those it obtained. -/
theorem register {service : Service} {key : Key TypeInfo Id} (ordered : state.Ordered)
    (obtained : service.obtained ⊆ state.names) (fresh : key ∉ state.entries.map Entry.key)
    (first : state.destroyed = []) : (state.register key service).Ordered := by
  have entries : (state.register key service).entries = ⟨key, service⟩ :: state.entries := by
    simp [Registry.entries, Registry.register, first]
  have names : (state.register key service).names = service.name :: state.names :=
    names_register first
  have grown : state.names ⊆ (state.register key service).names := by
    rw [names]
    exact List.subset_cons_self _ _
  exact {
    constructed := fun thread construction member =>
      List.Subset.trans (ordered.constructed thread construction member) grown
    owned := fun other member => List.Subset.trans (ordered.owned other member) grown
    behind := entries ▸ ⟨fun _ member => obtained member, ordered.behind⟩
    distinct := by
      rw [entries]
      exact List.nodup_cons.mpr ⟨fresh, ordered.distinct⟩
    returned := by
      intro other name member
      obtain ⟨entry, listed, same⟩ := ordered.returned other name member
      exact ⟨entry, entries ▸ List.mem_cons_of_mem _ listed, same⟩
    intact := fun _ => first }

theorem destroy {next : Registry Thread TypeInfo Id} (ordered : state.Ordered)
    (destroyed : state.destroy = some next) : next.Ordered := by
  have entries : next.entries = state.entries := entries_destroy destroyed
  have names : next.names = state.names := congrArg (List.map Entry.name) entries
  unfold Registry.destroy at destroyed
  split at destroyed
  · cases destroyed
  · cases destroyed
    exact {
      constructed := fun thread construction member =>
        names ▸ ordered.constructed thread construction member
      owned := fun service member => names ▸ ordered.owned service member
      behind := entries ▸ ordered.behind
      distinct := entries ▸ ordered.distinct
      returned := fun key name member => entries ▸ ordered.returned key name member
      intact := nofun }

variable [DecidableEq Thread]

/-- Other constructors of a thread, which have obtained services of the list. -/
theorem rethread (ordered : state.Ordered) {thread : Thread}
    {constructions : List (Construction TypeInfo Id)}
    (constructed : ∀ construction ∈ constructions, construction.service.obtained ⊆ state.names) :
    Ordered { state with threads := Function.update state.threads thread constructions } where
  constructed other construction member := by
    by_cases own : other = thread
    · subst own
      exact constructed construction (by simpa using member)
    · exact ordered.constructed other construction (by simpa [own] using member)
  owned := ordered.owned
  behind := ordered.behind
  distinct := ordered.distinct
  returned := ordered.returned
  intact := ordered.intact

theorem enter (ordered : state.Ordered) (thread : Thread) (request : Option (Key TypeInfo Id))
    (owner : Nat) : (state.enter thread request owner).Ordered := by
  have entered : Ordered { state with
      threads := Function.update state.threads thread
        (⟨request, ⟨state.allocated, owner, []⟩⟩ :: state.threads thread) } := by
    refine ordered.rethread fun construction member => ?_
    obtain rfl | running := List.mem_cons.mp member
    · exact List.nil_subset _
    · exact ordered.constructed thread construction running
  exact ⟨entered.constructed, ordered.owned, ordered.behind, ordered.distinct, ordered.returned,
    ordered.intact⟩

theorem leave (ordered : state.Ordered) (thread : Thread) : (state.leave thread).Ordered :=
  ordered.rethread fun construction member =>
    ordered.constructed thread construction (List.mem_of_mem_tail member)

/-- A service of the list is returned. -/
theorem deliver (ordered : state.Ordered) {entry : Entry TypeInfo Id}
    (listed : entry ∈ state.entries) (thread : Thread) :
    (state.deliver thread entry.key entry.name).Ordered := by
  have named : entry.name ∈ state.names := List.mem_map_of_mem listed
  have obtained : Ordered { state with
      threads := Function.update state.threads thread
        ((state.threads thread).map (Construction.obtain entry.name)) } := by
    refine ordered.rethread fun construction member => ?_
    obtain ⟨before, running, rfl⟩ := List.mem_map.mp member
    exact List.append_subset.mpr ⟨ordered.constructed thread before running, by simpa using named⟩
  refine ⟨obtained.constructed, ordered.owned, ordered.behind, ordered.distinct, ?_,
    ordered.intact⟩
  intro key name member
  obtain same | member := List.mem_cons.mp member
  · cases same
    exact ⟨entry, listed, rfl, rfl⟩
  · exact ordered.returned key name member

end Ordered

/-! ## Steps and runs -/

section

variable [DecidableEq TypeInfo] [DecidableEq Id] {key : Key TypeInfo Id}
  {services : List (Entry TypeInfo Id)}

theorem mem_of_findService {entry : Entry TypeInfo Id}
    (found : findService key services = some entry) : entry ∈ services ∧ entry.key = key := by
  unfold findService at found
  have matching : keysMatch entry.key key = true := by simpa using List.find?_some found
  exact ⟨List.mem_of_find?_eq_some found, keysMatch_iff.mp matching⟩

theorem findService_eq_none (absent : findService key services = none) :
    key ∉ services.map Entry.key := by
  intro member
  obtain ⟨entry, listed, rfl⟩ := List.mem_map.mp member
  exact List.find?_eq_none.mp absent entry listed (keysMatch_iff.mpr rfl)

theorem findService_isSome : (findService key services).isSome = true ↔
    ∃ entry ∈ services, entry.key = key := by
  simp [findService]

end

/-- A context that is being destroyed only goes on with that. -/
theorem step_cases [DecidableEq Thread] [DecidableEq TypeInfo] [DecidableEq Id] {context : Nat}
    {action : RegistryAction Thread TypeInfo Id} {next : Registry Thread TypeInfo Id}
    (stepped : Registry.step context state action = some next) :
    (action = .destroy ∧ state.destroy = some next) ∨
      (state.destroying = false ∧ state.act context action = some next) := by
  unfold Registry.step at stepped
  split at stepped
  · exact .inl ⟨rfl, stepped⟩
  · cases stepped
  · next alive => exact .inr ⟨alive, stepped⟩

/-- What every step keeps. -/
structure Sound (state : Registry Thread TypeInfo Id) : Prop where
  placed : state.Placed
  ordered : state.Ordered

namespace Sound

theorem entries_eq (sound : state.Sound) (alive : state.destroying = false) :
    state.entries = state.services := by
  rw [entries, sound.ordered.intact alive, List.nil_append]

/-- A service that is nowhere is put into the list, unless its key is there. -/
theorem register [DecidableEq TypeInfo] [DecidableEq Id] {key : Key TypeInfo Id}
    {service : Service} (sound : state.Sound) (alive : state.destroying = false)
    (loose : state.Loose service.name) (obtained : service.obtained ⊆ state.names)
    (absent : findService key state.services = none) :
    (state.register key service).Sound ∧
      ⟨key, service⟩ ∈ (state.register key service).entries := by
  have first := sound.ordered.intact alive
  refine ⟨⟨sound.placed.register loose first, ?_⟩, ?_⟩
  · refine sound.ordered.register obtained ?_ first
    rw [sound.entries_eq alive]
    exact findService_eq_none absent
  · simp [entries, Registry.register]

theorem destroy {next : Registry Thread TypeInfo Id} (sound : state.Sound)
    (destroyed : state.destroy = some next) : next.Sound :=
  ⟨sound.placed.destroy destroyed, sound.ordered.destroy destroyed⟩

section

variable [DecidableEq Thread]

theorem enter (sound : state.Sound) (thread : Thread) (request : Option (Key TypeInfo Id))
    (owner : Nat) : (state.enter thread request owner).Sound :=
  ⟨sound.placed.enter thread request owner, sound.ordered.enter thread request owner⟩

theorem leave (sound : state.Sound) (thread : Thread) : (state.leave thread).Sound :=
  ⟨sound.placed.leave thread, sound.ordered.leave thread⟩

theorem deliver {entry : Entry TypeInfo Id} (sound : state.Sound)
    (listed : entry ∈ state.entries) (thread : Thread) :
    (state.deliver thread entry.key entry.name).Sound :=
  ⟨sound.placed.deliver thread _ _, sound.ordered.deliver listed thread⟩

variable [DecidableEq TypeInfo] [DecidableEq Id]

theorem useService (sound : state.Sound) (context : Nat) (thread : Thread)
    (key : Key TypeInfo Id) : (state.useService context thread key).Sound := by
  unfold Registry.useService
  split
  · next entry found =>
    obtain ⟨listed, rfl⟩ := mem_of_findService found
    exact sound.deliver (List.mem_append_right _ listed) thread
  · exact sound.enter thread (some key) context

theorem finish {next : Registry Thread TypeInfo Id} (sound : state.Sound)
    (alive : state.destroying = false) {thread : Thread}
    (finished : state.finish thread = some next) : next.Sound := by
  have left := sound.leave thread
  unfold Registry.finish at finished
  split at finished
  · cases finished
  · next service outer inside =>
    cases finished
    have loose := sound.placed.loose_leave inside
    have obtained := sound.ordered.constructed thread _ (inside ▸ List.mem_cons_self)
    exact ⟨left.placed.keep loose, left.ordered.keep obtained⟩
  · next key service outer inside =>
    have loose := sound.placed.loose_leave inside
    have obtained := sound.ordered.constructed thread _ (inside ▸ List.mem_cons_self)
    split at finished
    · next entry found =>
      cases finished
      obtain ⟨listed, rfl⟩ := mem_of_findService found
      have discarded : ((state.leave thread).discard service.name).Sound :=
        ⟨left.placed.discard loose, left.ordered.discard _⟩
      exact discarded.deliver (List.mem_append_right _ listed) thread
    · next absent =>
      cases finished
      obtain ⟨registered, listed⟩ := left.register alive loose obtained absent
      exact registered.deliver listed thread

omit [DecidableEq TypeInfo] [DecidableEq Id] in
theorem throw {next : Registry Thread TypeInfo Id} (sound : state.Sound) {thread : Thread}
    (thrown : state.throw thread = some next) : next.Sound := by
  have left := sound.leave thread
  unfold Registry.throw at thrown
  split at thrown
  · cases thrown
  · next construction outer inside =>
    cases thrown
    exact ⟨left.placed.discard (sound.placed.loose_leave inside), left.ordered.discard _⟩

omit [DecidableEq Thread] in
theorem addService {next : Registry Thread TypeInfo Id} (sound : state.Sound)
    (alive : state.destroying = false) {context : Nat} {key : Key TypeInfo Id} {service : Service}
    (member : service ∈ state.owned) (added : state.addService context key service = .ok next) :
    next.Sound := by
  unfold Registry.addService at added
  split_ifs at added
  split at added
  · cases added
  · next absent =>
    cases added
    obtain ⟨placed, loose⟩ := sound.placed.disown member
    have disowned : Sound { state with
        owned := state.owned.filter fun other => other.name ≠ service.name } :=
      ⟨placed, sound.ordered.disown _⟩
    exact (disowned.register alive loose (sound.ordered.owned service member) absent).1

theorem act {context : Nat} {action : RegistryAction Thread TypeInfo Id}
    {next : Registry Thread TypeInfo Id} (sound : state.Sound)
    (alive : state.destroying = false) (acted : state.act context action = some next) :
    next.Sound := by
  cases action with
  | useService thread key =>
      cases acted
      exact sound.useService context thread key
  | construct thread owner =>
      cases acted
      exact sound.enter thread none owner
  | finish thread => exact sound.finish alive acted
  | throw thread => exact sound.throw acted
  | addService key name =>
      obtain ⟨service, found, rfl⟩ := Option.map_eq_some_iff.mp acted
      split
      · next added => exact sound.addService alive (List.mem_of_find?_eq_some found) added
      · exact sound
  | hasService key =>
      cases acted
      exact sound
  | destroy => exact sound.destroy acted

/-- **Step.** -/
theorem step {context : Nat} {action : RegistryAction Thread TypeInfo Id}
    {next : Registry Thread TypeInfo Id} (sound : state.Sound)
    (stepped : Registry.step context state action = some next) : next.Sound := by
  obtain ⟨-, destroyed⟩ | ⟨alive, acted⟩ := step_cases stepped
  · exact sound.destroy destroyed
  · exact sound.act alive acted

end

end Sound

/-- **Runs.** -/
theorem sound_of_reachable [DecidableEq Thread] [DecidableEq TypeInfo] [DecidableEq Id]
    {context : Nat} (reached : (registry Thread TypeInfo Id context).Reachable state) :
    state.Sound := by
  refine reached.invariant ?_ fun _ _ _ _ sound _ stepped => sound.step stepped
  rintro _ rfl
  refine ⟨⟨nofun, fun _ => List.nodup_nil, nofun, nofun, List.nodup_nil, fun _ _ => rfl⟩,
    ⟨nofun, nofun, trivial, List.nodup_nil, nofun, fun _ => rfl⟩⟩

end Registry

/-! ## Fork events -/

theorem visitUp_eq (services : List Nat) (left i : Nat) (bound : i + left = services.length) :
    visitUp services left i = services.drop i := by
  induction left generalizing i with
  | zero => exact (List.drop_of_length_le (Nat.le_of_eq bound.symm)).symm
  | succ left ih =>
      have inside : i < services.length := by omega
      rw [visitUp, ih (i + 1) (by omega), List.getElem?_eq_getElem inside, Option.toList_some,
        List.singleton_append, List.drop_eq_getElem_cons inside]

theorem visitDown_eq (services : List Nat) (i : Nat) (bound : i ≤ services.length) :
    visitDown services i = (services.take i).reverse := by
  induction i with
  | zero => rfl
  | succ i ih =>
      rw [visitDown, ih (Nat.le_of_succ_le bound), List.getElem?_eq_getElem bound,
        Option.toList_some, List.singleton_append, List.take_succ_eq_append_getElem bound,
        List.reverse_append, List.reverse_singleton, List.singleton_append]

variable {Thread TypeInfo Id : Type*}

/-- The services are called in the order of the list before a fork, and in the
reverse order after it. -/
theorem notifyFork_eq (services : List (Entry TypeInfo Id)) :
    notifyFork .forkPrepare services = services.map Entry.name ∧
      notifyFork .forkParent services = (services.map Entry.name).reverse ∧
      notifyFork .forkChild services = (services.map Entry.name).reverse := by
  have down := visitDown_eq (services.map Entry.name) _ (Nat.le_refl _)
  rw [List.take_length] at down
  exact ⟨visitUp_eq _ _ 0 (Nat.zero_add _), down, down⟩

theorem shutdownServices_eq (services : List (Entry TypeInfo Id)) :
    shutdownServices services = services.map Entry.name := by
  induction services with
  | nil => rfl
  | cons first next ih => rw [shutdownServices, ih, List.map_cons]

section

variable [DecidableEq Thread] [DecidableEq TypeInfo] [DecidableEq Id]

namespace Registry

variable {state : Registry Thread TypeInfo Id}

omit [DecidableEq Thread] in
/-- A service with another owner, or with a key that is there, is not added. -/
theorem addService_of_refused {context : Nat} {key : Key TypeInfo Id} {service : Service}
    (refused : service.owner ≠ context ∨
      ∃ entry ∈ state.services, keysMatch entry.key key = true) :
    ∃ error, state.addService context key service = .error error := by
  unfold addService
  split_ifs with other
  · exact ⟨_, rfl⟩
  · obtain ⟨entry, listed, matching⟩ := refused.resolve_left fun wrong => other wrong.symm
    have present := findService_isSome.mpr ⟨entry, listed, keysMatch_iff.mp matching⟩
    obtain ⟨found, same⟩ := Option.isSome_iff_exists.mp present
    rw [same]
    exact ⟨_, rfl⟩

end Registry

end

end Asio.Core
