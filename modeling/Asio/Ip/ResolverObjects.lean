import Asio.Ip.ResolverResults

/-! # Results that are copied, moved and swapped

Any number of results objects over a run of operations. What an object stands for is followed
beside it: a list of entries and a place in it. An object agrees with what it stands for
unless it was made of records without an address of the two families.
-/

namespace Asio.Ip

variable {Endpoint : Type}

/-- The results objects, what they stand for, and the vectors that were allocated. -/
structure ResolverObjects (Endpoint : Type) where
  results : Nat → ResolverIterator Endpoint
  held : Nat → ResolverRange Endpoint
  allocated : Nat

/-- An operation on results objects. -/
inductive ResolverCall (Endpoint : Type) where
  | construct (target : Nat)
  | createFromList (target : Nat) (records : List (AddrInfo Endpoint))
      (hostName serviceName : String)
  | createFromEndpoint (target : Nat) (endpoint : Endpoint) (hostName serviceName : String)
  | createFromRange (target : Nat) (endpoints : List Endpoint) (hostName serviceName : String)
  | copy (target source : Nat)
  | move (target source : Nat)
  | swap (this that : Nat)
  | increment (target : Nat)

namespace ResolverObjects

variable (objects : ResolverObjects Endpoint)

/-- An object that becomes other results, which stand for a range. -/
def assign (target : Nat) (results : ResolverIterator Endpoint) (range : ResolverRange Endpoint) :
    ResolverObjects Endpoint where
  results := Function.update objects.results target results
  held := Function.update objects.held target range
  allocated := objects.allocated

@[simp] theorem assign_results_self (target : Nat) (results : ResolverIterator Endpoint)
    (range : ResolverRange Endpoint) :
    (objects.assign target results range).results target = results :=
  Function.update_self _ _ _

@[simp] theorem assign_held_self (target : Nat) (results : ResolverIterator Endpoint)
    (range : ResolverRange Endpoint) : (objects.assign target results range).held target = range :=
  Function.update_self _ _ _

theorem assign_results_of_ne {target object : Nat} (other : object ≠ target)
    (results : ResolverIterator Endpoint) (range : ResolverRange Endpoint) :
    (objects.assign target results range).results object = objects.results object :=
  Function.update_of_ne other _ _

theorem assign_held_of_ne {target object : Nat} (other : object ≠ target)
    (results : ResolverIterator Endpoint) (range : ResolverRange Endpoint) :
    (objects.assign target results range).held object = objects.held object :=
  Function.update_of_ne other _ _

/-- A vector more is allocated. -/
def allocate : ResolverObjects Endpoint := { objects with allocated := objects.allocated + 1 }

/-- An operation. `create` may throw, a move onto itself does nothing, and an object that is
incremented must point to an entry. -/
def call (objects : ResolverObjects Endpoint) :
    ResolverCall Endpoint → Option (ResolverObjects Endpoint)
  | .construct target => some (objects.assign target .ending .none)
  | .createFromList target records hostName serviceName =>
      match ResolverIterator.createFromList objects.allocated records hostName serviceName with
      | .error _ => some objects
      | .ok created => some (objects.allocate.assign target created
          (.all (AddrInfo.listed records (AddrInfo.actualHostName records hostName) serviceName)))
  | .createFromEndpoint target endpoint hostName serviceName =>
      some (objects.allocate.assign target
        (.createFromEndpoint objects.allocated endpoint hostName serviceName)
        (.all [⟨endpoint, hostName, serviceName⟩]))
  | .createFromRange target endpoints hostName serviceName =>
      some (objects.allocate.assign target
        (.createFromRange objects.allocated endpoints hostName serviceName)
        (.all (endpoints.map fun endpoint => ⟨endpoint, hostName, serviceName⟩)))
  | .copy target source =>
      some (objects.assign target (objects.results source) (objects.held source))
  | .move target source =>
      if target = source then some objects
      else some ((objects.assign target (objects.results source) (objects.held source)).assign
        source .ending .none)
  | .swap this that =>
      if this = that then some objects
      else some ((objects.assign this (objects.results that) (objects.held that)).assign
        that (objects.results this) (objects.held this))
  | .increment target =>
      if (objects.results target).dereference.isSome then
        some (objects.assign target (objects.results target).increment
          (objects.held target).advance)
      else none

/-- No object is constructed yet. -/
def new : ResolverObjects Endpoint := ⟨fun _ => .ending, fun _ => .none, 0⟩

/-- The runs of operations. -/
def machine : Transition.Machine (ResolverObjects Endpoint) (ResolverCall Endpoint) where
  initial objects := objects = new
  step := call

/-- Every object agrees with what it stands for. -/
def Agree : Prop := ∀ object, (objects.results object).Agrees (objects.held object).entries

/-- Every object stands for a range. -/
def Hold : Prop := ∀ object, (objects.results object).Holds (objects.held object)

/-- No object is without an entry in its values. -/
def Full : Prop := ∀ object, ¬ (objects.results object).Hollow

/-- No list of records is without an address of the two families, unless it is empty. -/
def Inet : ResolverCall Endpoint → Prop
  | .createFromList _ records _ _ => records = [] ∨ ∃ info ∈ records, info.isInet = true
  | _ => True

variable {objects : ResolverObjects Endpoint} {next : ResolverObjects Endpoint}

theorem Hold.agree_iff (hold : objects.Hold) : objects.Agree ↔ objects.Full :=
  forall_congr' fun object => (hold object).agrees_iff

theorem hold_new : (new : ResolverObjects Endpoint).Hold := fun _ =>
  ResolverIterator.holds_ending

theorem full_new : (new : ResolverObjects Endpoint).Full := fun _ =>
  ResolverIterator.not_hollow_ending

theorem Hold.assign {results : ResolverIterator Endpoint} {range : ResolverRange Endpoint}
    (hold : objects.Hold) (holds : results.Holds range) (target : Nat) :
    (objects.assign target results range).Hold := by
  intro object
  by_cases same : object = target
  · subst same
    rw [assign_results_self, assign_held_self]
    exact holds
  · rw [assign_results_of_ne objects same, assign_held_of_ne objects same]
    exact hold object

theorem Full.assign_iff {results : ResolverIterator Endpoint} {range : ResolverRange Endpoint}
    (full : objects.Full) (target : Nat) :
    (objects.assign target results range).Full ↔ ¬ results.Hollow := by
  constructor
  · intro all
    have here := all target
    rw [assign_results_self] at here
    exact here
  · intro not_hollow object
    by_cases same : object = target
    · subst same
      rw [assign_results_self]
      exact not_hollow
    · rw [assign_results_of_ne objects same]
      exact full object

theorem Full.assign {results : ResolverIterator Endpoint} {range : ResolverRange Endpoint}
    (full : objects.Full) (not_hollow : ¬ results.Hollow) (target : Nat) :
    (objects.assign target results range).Full :=
  (full.assign_iff target).mpr not_hollow

/-- Objects go on standing for ranges. -/
theorem Hold.call (hold : objects.Hold) {call : ResolverCall Endpoint}
    (called : objects.call call = some next) : next.Hold := by
  have allocated : objects.allocate.Hold := hold
  cases call with
  | construct target =>
      cases called
      exact hold.assign ResolverIterator.holds_ending target
  | createFromList target records hostName serviceName =>
      rw [ResolverObjects.call] at called
      split at called
      · cases called
        exact hold
      · rename_i created is
        cases called
        exact allocated.assign (ResolverIterator.holds_createFromList is).1 target
  | createFromEndpoint target endpoint hostName serviceName =>
      cases called
      exact allocated.assign (ResolverIterator.holds_createFromEndpoint _ _ _ _).1 target
  | createFromRange target endpoints hostName serviceName =>
      cases called
      exact allocated.assign (ResolverIterator.holds_createFromRange _ _ _ _).1 target
  | copy target source =>
      cases called
      exact hold.assign (hold source) target
  | move target source =>
      rw [ResolverObjects.call] at called
      split at called
      · cases called
        exact hold
      · cases called
        exact (hold.assign (hold source) target).assign ResolverIterator.holds_ending source
  | swap this that =>
      rw [ResolverObjects.call] at called
      split at called
      · cases called
        exact hold
      · cases called
        exact (hold.assign (hold that) this).assign (hold this) that
  | increment target =>
      rw [ResolverObjects.call] at called
      split at called
      · rename_i points
        cases called
        exact hold.assign ((hold target).increment points) target
      · cases called

/-- Only `create` makes an object without an entry in its values. -/
theorem Full.call_iff (full : objects.Full) {call : ResolverCall Endpoint}
    (called : objects.call call = some next) : next.Full ↔ Inet call := by
  have allocated : objects.allocate.Full := full
  cases call with
  | construct target =>
      cases called
      exact iff_of_true (full.assign ResolverIterator.not_hollow_ending target) trivial
  | createFromList target records hostName serviceName =>
      have exact_on : ¬ (records ≠ [] ∧ ∀ info ∈ records, ¬ info.isInet = true) ↔
          records = [] ∨ ∃ info ∈ records, info.isInet = true := by
        rw [not_and_or, not_not]
        push Not
        rfl
      rw [ResolverObjects.call] at called
      rw [Inet, ← exact_on]
      split at called
      · rename_i ec thrown
        cases called
        refine iff_of_true full ?_
        rintro ⟨-, other⟩
        obtain ⟨created, is⟩ := ResolverIterator.createFromList_of_no_inet other
        rw [is] at thrown
        cases thrown
      · rename_i created is
        cases called
        rw [allocated.assign_iff, (ResolverIterator.holds_createFromList is).2]
  | createFromEndpoint target endpoint hostName serviceName =>
      cases called
      exact iff_of_true
        (allocated.assign (ResolverIterator.holds_createFromEndpoint _ _ _ _).2 target) trivial
  | createFromRange target endpoints hostName serviceName =>
      cases called
      exact iff_of_true
        (allocated.assign (ResolverIterator.holds_createFromRange _ _ _ _).2 target) trivial
  | copy target source =>
      cases called
      exact iff_of_true (full.assign (full source) target) trivial
  | move target source =>
      refine iff_of_true ?_ trivial
      rw [ResolverObjects.call] at called
      split at called
      · cases called
        exact full
      · cases called
        exact (full.assign (full source) target).assign ResolverIterator.not_hollow_ending source
  | swap this that =>
      refine iff_of_true ?_ trivial
      rw [ResolverObjects.call] at called
      split at called
      · cases called
        exact full
      · cases called
        exact (full.assign (full that) this).assign (full this) that
  | increment target =>
      refine iff_of_true ?_ trivial
      rw [ResolverObjects.call] at called
      split at called
      · cases called
        exact full.assign (ResolverIterator.not_hollow_increment (full target)) target
      · cases called

/-- Objects agree with what they stand for throughout a run exactly when no list of records is
without an address of the two families. -/
theorem always_agree_iff {calls : List (ResolverCall Endpoint)} {final : ResolverObjects Endpoint}
    (ran : machine.run new calls = some final) :
    machine.Always Agree new calls ↔ machine.Permitted (fun _ call => Inet call) new calls := by
  apply Transition.Machine.always_iff_permitted _ _ calls ran hold_new
    (hold_new.agree_iff.mpr full_new)
  · intro objects call next hold _ called
    exact Hold.call hold called
  · intro objects call next hold agree called
    rw [(Hold.call hold called).agree_iff]
    exact (hold.agree_iff.mp agree).call_iff called

/-- A record of `AF_UNIX`. -/
def unixRecord : AddrInfo Unit := ⟨1, 110, (), none⟩

/-- A record of `AF_INET`. -/
def inetRecord : AddrInfo Unit := ⟨2, 16, (), some "localhost"⟩

/-- A copy is incremented, and swapped with what it was copied from. -/
theorem always_agree_inet : machine.Always Agree new
    [.createFromList 0 [inetRecord, unixRecord] "host" "80", .copy 1 0, .increment 1, .swap 0 1] := by
  refine (always_agree_iff rfl).mpr (.of_forall ?_ _)
  intro call inside _
  simp only [List.mem_cons, List.not_mem_nil, or_false] at inside
  rcases inside with rfl | rfl | rfl | rfl
  · exact .inr ⟨inetRecord, List.mem_cons_self, rfl⟩
  · exact trivial
  · exact trivial
  · exact trivial

/-- The results of a record of `AF_UNIX` are empty, and begin before their end. -/
theorem not_always_agree : ¬ ∀ (calls : List (ResolverCall Unit)) (final : ResolverObjects Unit),
    machine.run new calls = some final → machine.Always Agree new calls := by
  intro always
  have agree := (always [.createFromList 0 [unixRecord] "host" "80"] _ rfl).2
  have hollow : (⟨some ⟨0, []⟩, 0⟩ : ResolverIterator Unit).Hollow := ⟨_, rfl, rfl⟩
  exact ResolverIterator.not_agrees_of_hollow hollow _ (agree 0)

end ResolverObjects

end Asio.Ip
