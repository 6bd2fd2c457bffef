import Asio.Core.ServiceRegistry
import Asio.Lib.MutexStacks

/-! # The mutex of the service registry

The functions of the registry step by step, with the `scoped_lock` of each, and the code of the
services that they call: constructors, destructors and `notify_fork`. That code may call the
registry again. What a service obtains while it is constructed is not followed here.
-/

namespace Asio.Core

/-- The code of a service. -/
inductive ServiceCode where
  | constructor
  | destructor
  | notifyFork (event : ForkEvent)
  deriving DecidableEq, Repr

/-- Where `do_use_service` is. The factory runs at `create`, and the destructor of
`auto_service_ptr` at `dispose`, when another service is returned than the new one. -/
inductive UsePoint where
  | lock
  | search
  | unlock
  | create
  | lockAgain (newService : Service)
  | searchAgain (newService : Service)
  | dispose (service : Nat)
  | leave (service : Nat)
  deriving DecidableEq, Repr

/-- Where `do_add_service` is. -/
inductive AddPoint where
  | check
  | lock
  | search
  | leave (error : Option AddError)
  deriving DecidableEq, Repr

/-- Where `do_has_service` is. -/
inductive HasPoint where
  | lock
  | search
  | leave (found : Bool)
  deriving DecidableEq, Repr

/-- Where `notify_fork` is, with the services that it has still to call. -/
inductive ForkPoint where
  | lock
  | copy
  | unlock (services : List Nat)
  | visit (services : List Nat)
  deriving DecidableEq, Repr

/-- What a thread is inside of. -/
inductive RegistryFrame (TypeInfo Id : Type*) where
  | useService (key : Key TypeInfo Id) (point : UsePoint)
  | addService (key : Key TypeInfo Id) (newService : Service) (point : AddPoint)
  | hasService (key : Key TypeInfo Id) (point : HasPoint)
  | notifyFork (event : ForkEvent) (point : ForkPoint)
  | service (code : ServiceCode) (name : Nat)
  deriving DecidableEq, Repr

/-- A function of the registry is called. -/
inductive RegistryCall (TypeInfo Id : Type*) where
  | useService (key : Key TypeInfo Id)
  | addService (key : Key TypeInfo Id) (newService : Service)
  | hasService (key : Key TypeInfo Id)
  | notifyFork (event : ForkEvent)
  deriving DecidableEq, Repr

/-- The mutex, the list of the services and what the threads are inside of. The number of
objects so far names the next one. -/
structure RegistryThreads (Thread TypeInfo Id : Type*) where
  calls : MutexStacks Thread (RegistryFrame TypeInfo Id)
  services : List (Entry TypeInfo Id)
  allocated : Nat

/-- The steps of a thread. User code and the code of services call the registry, run the code
of a service by themselves, and end or throw; the functions of the registry proceed. -/
inductive ThreadAction (TypeInfo Id : Type*) where
  | call (call : RegistryCall TypeInfo Id)
  | execute (code : ServiceCode) (name : Nat)
  | proceed
  | finish
  | throw
  deriving DecidableEq, Repr

section

variable {Thread TypeInfo Id : Type*}

/-- Whether the `scoped_lock` is locked. -/
def UsePoint.locks : UsePoint → Bool
  | .lock | .create | .lockAgain _ => false
  | .search | .unlock | .searchAgain _ | .dispose _ | .leave _ => true

def AddPoint.locks : AddPoint → Bool
  | .check | .lock => false
  | .search | .leave _ => true

def HasPoint.locks : HasPoint → Bool
  | .lock => false
  | .search | .leave _ => true

def ForkPoint.locks : ForkPoint → Bool
  | .lock | .visit _ => false
  | .copy | .unlock _ => true

namespace RegistryFrame

def locks : RegistryFrame TypeInfo Id → Bool
  | .useService _ point => point.locks
  | .addService _ _ point => point.locks
  | .hasService _ point => point.locks
  | .notifyFork _ point => point.locks
  | .service _ _ => false

/-- Whether the frame waits for the mutex. -/
def waits : RegistryFrame TypeInfo Id → Bool
  | .useService _ .lock | .useService _ (.lockAgain _) | .addService _ _ .lock
  | .hasService _ .lock | .notifyFork _ .lock => true
  | _ => false

/-- Whether the frame is code of a service. -/
def isService : RegistryFrame TypeInfo Id → Bool
  | .service _ _ => true
  | _ => false

theorem locks_of_isService {frame : RegistryFrame TypeInfo Id} (service : frame.isService = true) :
    frame.locks = false := by
  unfold isService at service
  split at service
  · rfl
  · cases service

theorem locks_of_waits {frame : RegistryFrame TypeInfo Id} (waits : frame.waits = true) :
    frame.locks = false := by
  unfold RegistryFrame.waits at waits
  split at waits
  iterate 5 rfl
  cases waits

end RegistryFrame

/-- A function of the registry begins. -/
def RegistryCall.frame : RegistryCall TypeInfo Id → RegistryFrame TypeInfo Id
  | .useService key => .useService key .lock
  | .addService key newService => .addService key newService .check
  | .hasService key => .hasService key .lock
  | .notifyFork event => .notifyFork event .lock

namespace RegistryThreads

variable [DecidableEq Thread]

/-- A thread is inside of something else. -/
def move (state : RegistryThreads Thread TypeInfo Id) (thread : Thread)
    (stack : List (RegistryFrame TypeInfo Id)) : RegistryThreads Thread TypeInfo Id :=
  { state with calls := state.calls.move thread stack }

def lock (state : RegistryThreads Thread TypeInfo Id) (thread : Thread)
    (stack : List (RegistryFrame TypeInfo Id)) : Option (RegistryThreads Thread TypeInfo Id) :=
  (state.calls.lock thread stack).map fun calls => { state with calls := calls }

def unlock (state : RegistryThreads Thread TypeInfo Id) (thread : Thread)
    (stack : List (RegistryFrame TypeInfo Id)) : RegistryThreads Thread TypeInfo Id :=
  { state with calls := state.calls.unlock thread stack }

/-- A service becomes the first of the list. -/
def register (state : RegistryThreads Thread TypeInfo Id) (key : Key TypeInfo Id)
    (service : Service) : RegistryThreads Thread TypeInfo Id :=
  { state with services := ⟨key, service⟩ :: state.services }

/-- User code or the code of a service enters something else. -/
def enter (state : RegistryThreads Thread TypeInfo Id) (thread : Thread)
    (frame : RegistryFrame TypeInfo Id) : Option (RegistryThreads Thread TypeInfo Id) :=
  match state.calls.stackOf thread with
  | [] => some (state.move thread [frame])
  | .service code name :: rest => some (state.move thread (frame :: .service code name :: rest))
  | _ => none

/-- The code of a service ends, and who called it goes on. -/
def finish (context : Nat) (state : RegistryThreads Thread TypeInfo Id) (thread : Thread) :
    Option (RegistryThreads Thread TypeInfo Id) :=
  match state.calls.stackOf thread with
  | .service _ name :: .useService key .create :: rest =>
      some (state.move thread (.useService key (.lockAgain ⟨name, context, []⟩) :: rest))
  | .service _ _ :: .useService key (.dispose service) :: rest =>
      some (state.move thread (.useService key (.leave service) :: rest))
  | .service _ _ :: rest => some (state.move thread rest)
  | _ => none

/-- The code of a service throws, which no destructor does, and the function of the registry that
called it is left; no `scoped_lock` is locked there. The copy of the services may throw too. -/
def throw (state : RegistryThreads Thread TypeInfo Id) (thread : Thread) :
    Option (RegistryThreads Thread TypeInfo Id) :=
  match state.calls.stackOf thread with
  | .service .destructor _ :: _ => none
  | .service _ _ :: .useService _ .create :: rest => some (state.move thread rest)
  | .service _ _ :: .notifyFork _ (.visit _) :: rest => some (state.move thread rest)
  | .service _ _ :: rest => some (state.move thread rest)
  | .notifyFork _ .copy :: rest => some (state.unlock thread rest)
  | _ => none

variable [DecidableEq TypeInfo] [DecidableEq Id]

/-- The next step of `do_use_service`. -/
def useService (state : RegistryThreads Thread TypeInfo Id) (thread : Thread)
    (key : Key TypeInfo Id) (rest : List (RegistryFrame TypeInfo Id)) :
    UsePoint → Option (RegistryThreads Thread TypeInfo Id)
  | .lock => state.lock thread (.useService key .search :: rest)
  | .search =>
      match Registry.findService key state.services with
      | some service => some (state.move thread (.useService key (.leave service.name) :: rest))
      | none => some (state.move thread (.useService key .unlock :: rest))
  | .unlock => some { state.unlock thread
      (.service .constructor state.allocated :: .useService key .create :: rest) with
      allocated := state.allocated + 1 }
  | .create => none
  | .lockAgain newService => state.lock thread (.useService key (.searchAgain newService) :: rest)
  | .searchAgain newService =>
      match Registry.findService key state.services with
      | some service => some (state.move thread (.service .destructor newService.name ::
          .useService key (.dispose service.name) :: rest))
      | none => some ((state.move thread
          (.useService key (.leave newService.name) :: rest)).register key newService)
  | .dispose _ => none
  | .leave _ => some (state.unlock thread rest)

/-- The next step of `do_add_service`. -/
def addService (context : Nat) (state : RegistryThreads Thread TypeInfo Id) (thread : Thread)
    (key : Key TypeInfo Id) (newService : Service) (rest : List (RegistryFrame TypeInfo Id)) :
    AddPoint → Option (RegistryThreads Thread TypeInfo Id)
  | .check =>
      if context ≠ newService.owner then some (state.move thread rest)
      else some (state.move thread (.addService key newService .lock :: rest))
  | .lock => state.lock thread (.addService key newService .search :: rest)
  | .search =>
      match Registry.findService key state.services with
      | some _ => some (state.move thread
          (.addService key newService (.leave (some .serviceAlreadyExists)) :: rest))
      | none => some ((state.move thread
          (.addService key newService (.leave none) :: rest)).register key newService)
  | .leave _ => some (state.unlock thread rest)

/-- The next step of `do_has_service`. -/
def hasService (state : RegistryThreads Thread TypeInfo Id) (thread : Thread)
    (key : Key TypeInfo Id) (rest : List (RegistryFrame TypeInfo Id)) :
    HasPoint → Option (RegistryThreads Thread TypeInfo Id)
  | .lock => state.lock thread (.hasService key .search :: rest)
  | .search => some (state.move thread (.hasService key
      (.leave (Registry.findService key state.services).isSome) :: rest))
  | .leave _ => some (state.unlock thread rest)

omit [DecidableEq TypeInfo] [DecidableEq Id] in
/-- The next step of `notify_fork`. -/
def notifyFork (state : RegistryThreads Thread TypeInfo Id) (thread : Thread)
    (event : ForkEvent) (rest : List (RegistryFrame TypeInfo Id)) :
    ForkPoint → Option (RegistryThreads Thread TypeInfo Id)
  | .lock => state.lock thread (.notifyFork event .copy :: rest)
  | .copy => some (state.move thread
      (.notifyFork event (.unlock (Core.notifyFork event state.services)) :: rest))
  | .unlock services => some (state.unlock thread (.notifyFork event (.visit services) :: rest))
  | .visit [] => some (state.move thread rest)
  | .visit (service :: services) => some (state.move thread
      (.service (.notifyFork event) service :: .notifyFork event (.visit services) :: rest))

/-- The innermost function of the registry takes its next step. -/
def proceed (context : Nat) (state : RegistryThreads Thread TypeInfo Id) (thread : Thread) :
    Option (RegistryThreads Thread TypeInfo Id) :=
  match state.calls.stackOf thread with
  | .useService key point :: rest => state.useService thread key rest point
  | .addService key newService point :: rest =>
      state.addService context thread key newService rest point
  | .hasService key point :: rest => state.hasService thread key rest point
  | .notifyFork event point :: rest => state.notifyFork thread event rest point
  | _ => none

/-- A step of a thread. -/
def step (context : Nat) (state : RegistryThreads Thread TypeInfo Id) :
    Thread × ThreadAction TypeInfo Id → Option (RegistryThreads Thread TypeInfo Id)
  | (thread, .call call) => state.enter thread call.frame
  | (thread, .execute code name) => state.enter thread (.service code name)
  | (thread, .proceed) => state.proceed context thread
  | (thread, .finish) => state.finish context thread
  | (thread, .throw) => state.throw thread

/-- The threads that use the registry of a context. -/
def machine (context : Nat) : Transition.Machine (RegistryThreads Thread TypeInfo Id)
    (Thread × ThreadAction TypeInfo Id) where
  initial state := state = ⟨⟨none, fun _ => []⟩, [], 0⟩
  step := step context

/-- No thread executes code of a service while it holds the mutex, and none waits for the mutex
that it holds itself. -/
structure CalledUnlocked (state : RegistryThreads Thread TypeInfo Id) : Prop where
  unlocked : ∀ thread frame rest, state.calls.stackOf thread = frame :: rest →
    frame.isService = true → state.calls.mutex ≠ some thread
  unblocked : ∀ thread frame rest, state.calls.stackOf thread = frame :: rest →
    frame.waits = true → state.calls.mutex ≠ some thread

/-- Whether the second search of `do_use_service` finds a service, which was registered while
the factory ran: the new service is a duplicate. -/
def findsDuplicate (state : RegistryThreads Thread TypeInfo Id) :
    Thread × ThreadAction TypeInfo Id → Bool
  | (thread, .proceed) =>
      match state.calls.stackOf thread with
      | .useService key (.searchAgain _) :: _ => (Registry.findService key state.services).isSome
      | _ => false
  | _ => false

end RegistryThreads

end

end Asio.Core
