import Asio.Lib.Transition
import Mathlib.Data.List.Nodup
import Mathlib.Logic.Function.Basic

/-! # The service registry

A context keeps its services in a list, the latest first. `do_use_service` looks
for a service while it holds the mutex, creates one without it, and looks again
before it adds what it created: the constructor of a service may ask for other
services, and another thread may have been faster. Each part that holds the
mutex is one step of the machine; the constructors a thread is inside of are a
stack.
-/

namespace Asio.Core

variable {Thread TypeInfo Id : Type*}

/-! ## Keys -/

/-- `service::key`, as `init_key` makes it: either the type or the id is there. -/
structure Key (TypeInfo Id : Type*) where
  typeInfo : Option TypeInfo
  id : Option Id
  exclusive : typeInfo.isSome = !id.isSome
  deriving DecidableEq, Repr

/-- `init_key`, for a service whose id is a `service_id`. -/
def Key.ofType (typeInfo : TypeInfo) : Key TypeInfo Id := ⟨some typeInfo, none, rfl⟩

/-- `init_key_from_id`. -/
def Key.ofId (id : Id) : Key TypeInfo Id := ⟨none, some id, rfl⟩

section

variable [DecidableEq TypeInfo] [DecidableEq Id]

/-- `keys_match`. -/
def keysMatch (key1 key2 : Key TypeInfo Id) : Bool :=
  if key1.id.isSome && key2.id.isSome && key1.id == key2.id then true
  else if key1.typeInfo.isSome && key2.typeInfo.isSome && key1.typeInfo == key2.typeInfo then true
  else false

/-- Keys match when they are the same. -/
@[simp] theorem keysMatch_iff {key1 key2 : Key TypeInfo Id} :
    keysMatch key1 key2 = true ↔ key1 = key2 := by
  obtain ⟨_ | type1, _ | id1, exclusive1⟩ := key1 <;> cases exclusive1 <;>
    obtain ⟨_ | type2, _ | id2, exclusive2⟩ := key2 <;> cases exclusive2 <;>
      simp [keysMatch]

end

/-! ## Services -/

/-- `execution_context::service`: the object, its owner, and the services
obtained while its constructor was running. -/
structure Service where
  name : Nat
  owner : Nat
  obtained : List Nat := []
  deriving DecidableEq, Repr

/-- A service in the list, with its `key_`. -/
structure Entry (TypeInfo Id : Type*) where
  key : Key TypeInfo Id
  service : Service
  deriving DecidableEq, Repr

/-- The name of the object. -/
def Entry.name (entry : Entry TypeInfo Id) : Nat := entry.service.name

/-- A constructor that is running: of a service that `do_use_service` creates for
a key, or that the user creates to add it. -/
structure Construction (TypeInfo Id : Type*) where
  request : Option (Key TypeInfo Id)
  service : Service
  deriving DecidableEq, Repr

/-- A service is obtained while the constructor runs. -/
def Construction.obtain (name : Nat) (construction : Construction TypeInfo Id) :
    Construction TypeInfo Id :=
  { construction with
    service := { construction.service with obtained := construction.service.obtained ++ [name] } }

/-- Where an object is. -/
inductive Place (Thread : Type*) where
  | unborn
  | constructed (thread : Thread)
  | owned
  | registered
  | gone
  deriving DecidableEq, Repr

/-- `fork_event`. -/
inductive ForkEvent where
  | forkPrepare
  | forkParent
  | forkChild
  deriving DecidableEq, Repr

section Visits

/-- The loop `for (i = 0; i < num_services; ++i)`, from `i` on. -/
def visitUp (services : List Nat) : (left i : Nat) → List Nat
  | 0, _ => []
  | left + 1, i => (services[i]?).toList ++ visitUp services left (i + 1)

/-- The loop `for (i = num_services; i > 0; --i)`. -/
def visitDown (services : List Nat) : (i : Nat) → List Nat
  | 0 => []
  | i + 1 => (services[i]?).toList ++ visitDown services i

/-- `notify_fork`: the services it calls, in order. -/
def notifyFork (event : ForkEvent) (first : List (Entry TypeInfo Id)) : List Nat :=
  let services := first.map Entry.name
  match event with
  | .forkPrepare => visitUp services services.length 0
  | .forkParent | .forkChild => visitDown services services.length

/-- `shutdown_services`: the services it calls, in order. -/
def shutdownServices : (service : List (Entry TypeInfo Id)) → List Nat
  | [] => []
  | service :: next => service.name :: shutdownServices next

end Visits

/-! ## The registry -/

/-- What is wrong with a service that is added. -/
inductive AddError where
  | invalidServiceOwner
  | serviceAlreadyExists
  deriving DecidableEq, Repr

/-- The registry and the threads that use it: the list, the constructors each
thread is inside of, the services the user has created and not handed over, and
the number of objects so far. For the properties it keeps where each object is,
what every `use_service` returned, and the services destroyed with the context. -/
structure Registry (Thread TypeInfo Id : Type*) where
  services : List (Entry TypeInfo Id)
  threads : Thread → List (Construction TypeInfo Id)
  owned : List Service
  allocated : Nat
  place : Nat → Place Thread
  returned : List (Key TypeInfo Id × Nat)
  destroying : Bool
  destroyed : List (Entry TypeInfo Id)

/-- The steps. -/
inductive RegistryAction (Thread TypeInfo Id : Type*) where
  | useService (thread : Thread) (key : Key TypeInfo Id)
  | construct (thread : Thread) (owner : Nat)
  | finish (thread : Thread)
  | throw (thread : Thread)
  | addService (key : Key TypeInfo Id) (name : Nat)
  | hasService (key : Key TypeInfo Id)
  | destroy
  deriving DecidableEq, Repr

namespace Registry

variable [DecidableEq Thread]

/-- A constructor begins to run. -/
def enter (state : Registry Thread TypeInfo Id) (thread : Thread)
    (request : Option (Key TypeInfo Id)) (owner : Nat) : Registry Thread TypeInfo Id :=
  { state with
    threads := Function.update state.threads thread
      (⟨request, ⟨state.allocated, owner, []⟩⟩ :: state.threads thread)
    allocated := state.allocated + 1
    place := Function.update state.place state.allocated (.constructed thread) }

/-- The innermost constructor of a thread ends. -/
def leave (state : Registry Thread TypeInfo Id) (thread : Thread) : Registry Thread TypeInfo Id :=
  { state with threads := Function.update state.threads thread (state.threads thread).tail }

omit [DecidableEq Thread] in
/-- An object is destroyed without having been in the list. -/
def discard (state : Registry Thread TypeInfo Id) (name : Nat) : Registry Thread TypeInfo Id :=
  { state with place := Function.update state.place name .gone }

omit [DecidableEq Thread] in
/-- The user owns a service. -/
def keep (state : Registry Thread TypeInfo Id) (service : Service) : Registry Thread TypeInfo Id :=
  { state with
    owned := service :: state.owned
    place := Function.update state.place service.name .owned }

omit [DecidableEq Thread] in
/-- A service becomes the first of the list. -/
def register (state : Registry Thread TypeInfo Id) (key : Key TypeInfo Id) (service : Service) :
    Registry Thread TypeInfo Id :=
  { state with
    services := ⟨key, service⟩ :: state.services
    place := Function.update state.place service.name .registered }

/-- A service is returned to a thread: it is obtained inside every constructor
that the thread is inside of. -/
def deliver (state : Registry Thread TypeInfo Id) (thread : Thread) (key : Key TypeInfo Id)
    (name : Nat) : Registry Thread TypeInfo Id :=
  { state with
    returned := (key, name) :: state.returned
    threads := Function.update state.threads thread
      ((state.threads thread).map (Construction.obtain name)) }

variable [DecidableEq TypeInfo] [DecidableEq Id]

/-- The loop over the list that each function begins with. -/
def findService (key : Key TypeInfo Id) (services : List (Entry TypeInfo Id)) :
    Option (Entry TypeInfo Id) :=
  services.find? fun service => keysMatch service.key key

/-- `do_use_service` up to the call of the factory. -/
def useService (context : Nat) (state : Registry Thread TypeInfo Id) (thread : Thread)
    (key : Key TypeInfo Id) : Registry Thread TypeInfo Id :=
  match findService key state.services with
  | some service => state.deliver thread key service.name
  | none => state.enter thread (some key) context

/-- `do_use_service` from the return of the factory on; or the user has created a
service. -/
def finish (state : Registry Thread TypeInfo Id) (thread : Thread) :
    Option (Registry Thread TypeInfo Id) :=
  match state.threads thread with
  | [] => none
  | ⟨none, service⟩ :: _ => some ((state.leave thread).keep service)
  | ⟨some key, newService⟩ :: _ =>
      match findService key state.services with
      | some service =>
          some (((state.leave thread).discard newService.name).deliver thread key service.name)
      | none =>
          some (((state.leave thread).register key newService).deliver thread key newService.name)

/-- The innermost constructor of a thread throws. -/
def throw (state : Registry Thread TypeInfo Id) (thread : Thread) :
    Option (Registry Thread TypeInfo Id) :=
  match state.threads thread with
  | [] => none
  | construction :: _ => some ((state.leave thread).discard construction.service.name)

omit [DecidableEq Thread] in
/-- `do_add_service`. -/
def addService (context : Nat) (state : Registry Thread TypeInfo Id) (key : Key TypeInfo Id)
    (newService : Service) : Except AddError (Registry Thread TypeInfo Id) :=
  if context ≠ newService.owner then
    .error .invalidServiceOwner
  else
    match findService key state.services with
    | some _ => .error .serviceAlreadyExists
    | none => .ok ({ state with
        owned := state.owned.filter fun service => service.name ≠ newService.name }.register key
          newService)

omit [DecidableEq Thread] in
/-- `do_has_service`. -/
def hasService (state : Registry Thread TypeInfo Id) (key : Key TypeInfo Id) : Bool :=
  (findService key state.services).isSome

omit [DecidableEq Thread] [DecidableEq TypeInfo] [DecidableEq Id] in
/-- One pass of the loop in `destroy_services`. -/
def destroy (state : Registry Thread TypeInfo Id) : Option (Registry Thread TypeInfo Id) :=
  match state.services with
  | [] => none
  | service :: nextService => some { state with
      services := nextService
      destroying := true
      destroyed := state.destroyed ++ [service] }

/-- The steps before the context is destroyed. -/
def act (context : Nat) (state : Registry Thread TypeInfo Id) :
    RegistryAction Thread TypeInfo Id → Option (Registry Thread TypeInfo Id)
  | .useService thread key => some (state.useService context thread key)
  | .construct thread owner => some (state.enter thread none owner)
  | .finish thread => state.finish thread
  | .throw thread => state.throw thread
  | .addService key name =>
      (state.owned.find? fun service => decide (service.name = name)).map fun service =>
        match state.addService context key service with
        | .ok next => next
        | .error _ => state
  | .hasService _ => some state
  | .destroy => state.destroy

/-- One step. Nobody uses a context that is being destroyed. -/
def step (context : Nat) (state : Registry Thread TypeInfo Id)
    (action : RegistryAction Thread TypeInfo Id) : Option (Registry Thread TypeInfo Id) :=
  match state.destroying, action with
  | true, .destroy => state.destroy
  | true, _ => none
  | false, action => state.act context action

end Registry

/-- The machine of a context's registry. -/
def registry (Thread TypeInfo Id : Type*) [DecidableEq Thread] [DecidableEq TypeInfo]
    [DecidableEq Id] (context : Nat) :
    Transition.Machine (Registry Thread TypeInfo Id) (RegistryAction Thread TypeInfo Id) where
  initial state := state = ⟨[], fun _ => [], [], 0, fun _ => .unborn, [], false, []⟩
  step := Registry.step context

end Asio.Core
