import Asio.Error
import Asio.Lib.Loop
import Asio.Lib.Transition
import Mathlib.Logic.Function.Basic

/-! # The results of a resolver

`basic_resolver_results` is an iterator whose `begin()` starts again. Its end is an iterator
without values, which `increment` becomes when it hits the size. The results of a list of
records without an address of the two families have values, but none to hit the size of.
-/

namespace Asio.Ip

/-- `addrinfo`, with the address that is copied from `ai_addr`. -/
structure AddrInfo (Endpoint : Type) where
  aiFamily : Int
  aiAddrlen : Nat
  aiAddr : Endpoint
  aiCanonname : Option String
  deriving Repr

/-- `basic_resolver_entry`. -/
structure ResolverEntry (Endpoint : Type) where
  endpoint : Endpoint
  hostName : String
  serviceName : String
  deriving DecidableEq, Repr

/-- A vector of entries, which a shared pointer points to. -/
structure ResolverValues (Endpoint : Type) where
  allocation : Nat
  entries : List (ResolverEntry Endpoint)
  deriving Repr

/-- `basic_resolver_iterator`, and `basic_resolver_results`, which adds nothing to it. -/
structure ResolverIterator (Endpoint : Type) where
  values : Option (ResolverValues Endpoint)
  index : Nat
  deriving Repr

variable {Endpoint : Type}

namespace AddrInfo

/-- The test of the family, `AF_INET` or `AF_INET6`. -/
def isInet (info : AddrInfo Endpoint) : Bool := info.aiFamily == 2 || info.aiFamily == 10

/-- The size of `sockaddr_storage`. -/
def storageSize : Nat := 128

/-- The loop through the records. `resize` throws for a record that is too long. -/
def pushRecords (hostName serviceName : String) :
    List (AddrInfo Endpoint) → List (ResolverEntry Endpoint) →
      Except ErrorCode (List (ResolverEntry Endpoint))
  | [], entries => .ok entries
  | info :: rest, entries =>
      if info.isInet then
        if info.aiAddrlen > storageSize then .error .invalidArgument
        else pushRecords hostName serviceName rest
          (entries ++ [⟨info.aiAddr, hostName, serviceName⟩])
      else pushRecords hostName serviceName rest entries

/-- The entries that a list of records stands for. -/
def listed (records : List (AddrInfo Endpoint)) (hostName serviceName : String) :
    List (ResolverEntry Endpoint) :=
  (records.filter isInet).map fun info => ⟨info.aiAddr, hostName, serviceName⟩

/-- The canonical name of the first record, when it has one. -/
def actualHostName (records : List (AddrInfo Endpoint)) (hostName : String) : String :=
  (records.head?.bind aiCanonname).getD hostName

theorem pushRecords_eq_ok {hostName serviceName : String} {records : List (AddrInfo Endpoint)}
    {entries pushed : List (ResolverEntry Endpoint)}
    (done : pushRecords hostName serviceName records entries = .ok pushed) :
    pushed = entries ++ listed records hostName serviceName := by
  induction records generalizing entries with
  | nil =>
      cases done
      exact (List.append_nil _).symm
  | cons info rest ih =>
      rw [pushRecords] at done
      split at done
      · rename_i inet
        split at done
        · cases done
        · rw [ih done, listed, listed, List.filter_cons_of_pos inet, List.map_cons,
            List.append_assoc]
          rfl
      · rename_i other
        rw [ih done, listed, listed, List.filter_cons_of_neg other]

theorem pushRecords_of_no_inet {hostName serviceName : String}
    {records : List (AddrInfo Endpoint)} {entries : List (ResolverEntry Endpoint)}
    (none : ∀ info ∈ records, ¬ info.isInet = true) :
    pushRecords hostName serviceName records entries = .ok entries := by
  induction records with
  | nil => rfl
  | cons info rest ih =>
      rw [pushRecords, if_neg (none info List.mem_cons_self)]
      exact ih fun other inside => none other (List.mem_cons_of_mem _ inside)

theorem listed_eq_nil_iff {records : List (AddrInfo Endpoint)} {hostName serviceName : String} :
    listed records hostName serviceName = [] ↔ ∀ info ∈ records, ¬ info.isInet = true := by
  rw [listed, List.map_eq_nil_iff, List.filter_eq_nil_iff]

end AddrInfo

namespace ResolverIterator

/-- The default constructor, and `end()`. -/
def ending : ResolverIterator Endpoint := ⟨none, 0⟩

variable (results it other : ResolverIterator Endpoint)

/-- `increment`, of an iterator that has values. -/
def increment : ResolverIterator Endpoint :=
  match it.values with
  | none => it
  | some values =>
      if it.index + 1 = values.entries.length then ending else { it with index := it.index + 1 }

/-- `equal`, which compares the pointers. -/
def equal : Bool :=
  match it.values, other.values with
  | none, none => true
  | some values, some values' =>
      values.allocation == values'.allocation && it.index == other.index
  | _, _ => false

/-- `dereference`, of an iterator that points to an entry. -/
def dereference : Option (ResolverEntry Endpoint) :=
  it.values.bind fun values => values.entries[it.index]?

/-- `size`. -/
def size : Nat :=
  match results.values with
  | some values => values.entries.length
  | none => 0

/-- `empty`. -/
def empty : Bool :=
  match results.values with
  | some values => values.entries.isEmpty
  | none => true

/-- `begin`, a copy that starts again. -/
def begin : ResolverIterator Endpoint := { results with index := 0 }

/-- `create` from a list of records. -/
def createFromList (allocation : Nat) (records : List (AddrInfo Endpoint))
    (hostName serviceName : String) : Except ErrorCode (ResolverIterator Endpoint) :=
  if records.isEmpty then .ok ending
  else do
    let entries ← AddrInfo.pushRecords (AddrInfo.actualHostName records hostName) serviceName
      records []
    return ⟨some ⟨allocation, entries⟩, 0⟩

/-- `create` from an endpoint. -/
def createFromEndpoint (allocation : Nat) (endpoint : Endpoint) (hostName serviceName : String) :
    ResolverIterator Endpoint :=
  ⟨some ⟨allocation, [⟨endpoint, hostName, serviceName⟩]⟩, 0⟩

/-- `create` from a sequence of endpoints. -/
def createFromRange (allocation : Nat) (endpoints : List Endpoint)
    (hostName serviceName : String) : ResolverIterator Endpoint :=
  if endpoints.isEmpty then ending
  else ⟨some ⟨allocation, endpoints.map fun endpoint => ⟨endpoint, hostName, serviceName⟩⟩, 0⟩

/-- A pass of the loop from `begin()` to `end()` that collects the entries. A dereferenced
iterator must point to an entry. -/
def visit : ResolverIterator Endpoint × List (ResolverEntry Endpoint) →
    Loop.Pass (ResolverIterator Endpoint × List (ResolverEntry Endpoint))
      (List (ResolverEntry Endpoint))
  | (it, visited) =>
      if it.equal ending then .leave visited
      else match it.dereference with
        | none => .blocked
        | some entry => .again (it.increment, visited ++ [entry])

/-- What results answer is what the loop finds, the entries in their order. -/
structure Agrees (entries : List (ResolverEntry Endpoint)) : Prop where
  returns : Loop.Returns visit (results.begin, []) entries
  size_eq : results.size = entries.length
  empty_iff : results.empty = true ↔ results.begin.equal ending = true

/-- Values without an entry. -/
def Hollow : Prop := ∃ values, results.values = some values ∧ values.entries = []

variable {results it other}

theorem equal_ending_iff : it.equal ending = true ↔ it.values = none := by
  unfold equal ending
  cases it.values with
  | none => exact iff_of_true rfl rfl
  | some values => exact iff_of_false Bool.false_ne_true (Option.some_ne_none _)

theorem visit_ending (index : Nat) (visited : List (ResolverEntry Endpoint)) :
    visit (⟨none, index⟩, visited) = .leave visited := by
  rw [visit, if_pos (equal_ending_iff.mpr rfl)]

/-- By induction on the entries that are left. -/
theorem returns_visit {values : ResolverValues Endpoint} {index : Nat}
    (inside : index < values.entries.length) :
    Loop.Returns visit (⟨some values, index⟩, values.entries.take index) values.entries := by
  induction left : values.entries.length - index generalizing index with
  | zero => omega
  | succ left ih =>
      have entry : (⟨some values, index⟩ : ResolverIterator Endpoint).dereference =
          some values.entries[index] := List.getElem?_eq_getElem inside
      have not_end : ¬ (⟨some values, index⟩ : ResolverIterator Endpoint).equal ending = true := by
        rw [equal_ending_iff]
        exact Option.some_ne_none _
      have passed : visit (⟨some values, index⟩, values.entries.take index) =
          .again ((⟨some values, index⟩ : ResolverIterator Endpoint).increment,
            values.entries.take (index + 1)) := by
        rw [visit, if_neg not_end, entry, List.take_succ_eq_append_getElem inside]
      apply Loop.Returns.again passed
      rw [increment]
      dsimp only
      split
      · rename_i last
        apply Loop.Returns.leave
        rw [ending, visit_ending, last, List.take_length]
      · exact ih (by omega) (by omega)

theorem agrees_of_not_hollow {values : ResolverValues Endpoint} (index : Nat)
    (full : values.entries ≠ []) :
    (⟨some values, index⟩ : ResolverIterator Endpoint).Agrees values.entries where
  returns := returns_visit (List.length_pos_of_ne_nil full)
  size_eq := rfl
  empty_iff := by
    rw [equal_ending_iff]
    exact iff_of_false (fun empty => full (List.isEmpty_iff.mp empty)) (Option.some_ne_none _)

theorem agrees_ending (index : Nat) :
    (⟨none, index⟩ : ResolverIterator Endpoint).Agrees [] where
  returns := .leave (visit_ending 0 [])
  size_eq := rfl
  empty_iff := iff_of_true rfl (equal_ending_iff.mpr rfl)

/-- The loop dereferences an iterator that points behind the last entry. -/
theorem not_agrees_of_hollow (hollow : results.Hollow) (entries : List (ResolverEntry Endpoint)) :
    ¬ results.Agrees entries := by
  obtain ⟨values, is, none⟩ := hollow
  intro agrees
  have empty : results.empty = true := by
    rw [ResolverIterator.empty, is]
    exact List.isEmpty_iff.mpr none
  have at_end := equal_ending_iff.mp (agrees.empty_iff.mp empty)
  rw [begin, is] at at_end
  cases at_end

/-! ## What an object stands for -/

end ResolverIterator

/-- A list of entries, and a place in it. -/
structure ResolverRange (Endpoint : Type) where
  entries : List (ResolverEntry Endpoint)
  place : Nat

namespace ResolverRange

/-- The range of no entries. -/
def none : ResolverRange Endpoint := ⟨[], 0⟩

/-- The place behind the last one is the end. -/
def advance (range : ResolverRange Endpoint) : ResolverRange Endpoint :=
  if range.place + 1 = range.entries.length then none
  else { range with place := range.place + 1 }

/-- A range of all entries of a list. -/
def all (entries : List (ResolverEntry Endpoint)) : ResolverRange Endpoint := ⟨entries, 0⟩

end ResolverRange

namespace ResolverIterator

variable {it : ResolverIterator Endpoint} {range : ResolverRange Endpoint}

/-- An object stands for a range. -/
def Holds (it : ResolverIterator Endpoint) (range : ResolverRange Endpoint) : Prop :=
  match it.values with
  | none => range = .none
  | some values => range = ⟨values.entries, it.index⟩ ∧
      (it.index < values.entries.length ∨ values.entries = [])

theorem Holds.agrees_iff (holds : it.Holds range) : it.Agrees range.entries ↔ ¬ it.Hollow := by
  constructor
  · exact fun agrees hollow => not_agrees_of_hollow hollow _ agrees
  · intro full
    obtain ⟨values, index⟩ := it
    cases values with
    | none =>
        obtain rfl : range = .none := holds
        exact agrees_ending index
    | some values =>
        obtain ⟨rfl, -⟩ := holds
        exact agrees_of_not_hollow index fun empty => full ⟨values, rfl, empty⟩

theorem holds_ending : (ending : ResolverIterator Endpoint).Holds .none := rfl

theorem not_hollow_ending : ¬ (ending : ResolverIterator Endpoint).Hollow := by
  rintro ⟨values, is, -⟩
  cases is

theorem Holds.increment (holds : it.Holds range) (points : it.dereference.isSome = true) :
    it.increment.Holds range.advance := by
  obtain ⟨values, index⟩ := it
  cases values with
  | none => cases points
  | some values =>
      obtain ⟨rfl, -⟩ := holds
      have inside : index < values.entries.length := by
        rw [dereference] at points
        dsimp only [Option.bind_some] at points
        by_contra outside
        rw [List.getElem?_eq_none (Nat.not_lt.mp outside)] at points
        cases points
      rw [ResolverIterator.increment, ResolverRange.advance]
      dsimp only
      split
      · exact holds_ending
      · exact ⟨rfl, .inl (by dsimp only; omega)⟩

theorem not_hollow_increment (full : ¬ it.Hollow) : ¬ it.increment.Hollow := by
  obtain ⟨values, index⟩ := it
  cases values with
  | none => exact full
  | some values =>
      rw [increment]
      dsimp only
      split
      · exact not_hollow_ending
      · rintro ⟨values', same, empty⟩
        exact full ⟨values', same, empty⟩

theorem holds_createFromList {allocation : Nat} {records : List (AddrInfo Endpoint)}
    {hostName serviceName : String}
    (created : createFromList allocation records hostName serviceName = .ok it) :
    it.Holds (.all (AddrInfo.listed records (AddrInfo.actualHostName records hostName)
      serviceName)) ∧ (it.Hollow ↔ records ≠ [] ∧ ∀ info ∈ records, ¬ info.isInet = true) := by
  rw [createFromList] at created
  split at created
  · rename_i empty
    cases created
    rw [List.isEmpty_iff.mp empty]
    exact ⟨holds_ending, iff_of_false not_hollow_ending fun some => some.1 rfl⟩
  · rename_i nonempty
    cases pushed : AddrInfo.pushRecords (AddrInfo.actualHostName records hostName) serviceName
        records [] with
    | error ec =>
        rw [pushed] at created
        cases created
    | ok entries =>
        rw [pushed] at created
        cases created
        have is : entries = AddrInfo.listed records (AddrInfo.actualHostName records hostName)
            serviceName := AddrInfo.pushRecords_eq_ok pushed
        refine ⟨⟨by rw [is]; rfl, ?_⟩, ?_⟩
        · dsimp only
          rw [or_comm, ← List.length_eq_zero_iff]
          omega
        · rw [and_iff_right fun empty => nonempty (List.isEmpty_iff.mpr empty),
            ← AddrInfo.listed_eq_nil_iff, ← is]
          constructor
          · rintro ⟨values, same, empty⟩
            cases same
            exact empty
          · exact fun empty => ⟨_, rfl, empty⟩

/-- Records of other families do not make `create` throw. -/
theorem createFromList_of_no_inet {allocation : Nat} {records : List (AddrInfo Endpoint)}
    {hostName serviceName : String} (none : ∀ info ∈ records, ¬ info.isInet = true) :
    ∃ created, createFromList allocation records hostName serviceName = .ok created := by
  rw [createFromList]
  split
  · exact ⟨_, rfl⟩
  · rw [AddrInfo.pushRecords_of_no_inet none]
    exact ⟨_, rfl⟩

theorem holds_createFromEndpoint (allocation : Nat) (endpoint : Endpoint)
    (hostName serviceName : String) :
    (createFromEndpoint allocation endpoint hostName serviceName).Holds
        (.all [⟨endpoint, hostName, serviceName⟩]) ∧
      ¬ (createFromEndpoint allocation endpoint hostName serviceName).Hollow := by
  refine ⟨⟨rfl, .inl Nat.one_pos⟩, ?_⟩
  rintro ⟨values, same, empty⟩
  cases same
  cases empty

theorem holds_createFromRange (allocation : Nat) (endpoints : List Endpoint)
    (hostName serviceName : String) :
    (createFromRange allocation endpoints hostName serviceName).Holds
        (.all (endpoints.map fun endpoint => ⟨endpoint, hostName, serviceName⟩)) ∧
      ¬ (createFromRange allocation endpoints hostName serviceName).Hollow := by
  rw [createFromRange]
  split
  · rename_i empty
    rw [List.isEmpty_iff.mp empty]
    exact ⟨holds_ending, not_hollow_ending⟩
  · rename_i nonempty
    have some : endpoints ≠ [] := fun empty => nonempty (List.isEmpty_iff.mpr empty)
    refine ⟨⟨rfl, .inl ?_⟩, ?_⟩
    · dsimp only
      rw [List.length_map]
      exact List.length_pos_of_ne_nil some
    · rintro ⟨values, same, empty⟩
      cases same
      exact some (List.map_eq_nil_iff.mp empty)

end ResolverIterator

end Asio.Ip
