import CaseSuite.Collaborator.Clocks
import CaseSuite.Collaborator.Files
import CaseSuite.Collaborator.Graphql
/-!
The registry of plugins: what builds services, requests and initializers of the environment, under
the names that configurations use. A name is taken once for each kind of plugin.
-/
set_option autoImplicit false

namespace CaseSuite

abbrev ServiceFactory (m : Type → Type) := ServiceContext → Value → Except Error (Service m)

abbrev RequestFactory (ρ : Type) := Value → RequestDefaults → Except Error ρ

abbrev InitializerFactory (m : Type → Type) := Value → Except Error (Action m Unit)

structure Registry (m : Type → Type) (ρ : Type) where
  services : Entries (ServiceFactory m)
  requesters : Entries (RequestFactory ρ)
  initializers : Entries (InitializerFactory m)

namespace Registry

variable {m : Type → Type} {ρ : Type}

def empty : Registry m ρ := ⟨[], [], []⟩

/-- Adds a factory under a name that is still free. -/
def addFactory {α : Type} (kind : PluginKind) (factories : Entries α) (name : String)
    (factory : α) : Except Error (Entries α) :=
  if factories.has name then .error (.config (.alreadyRegistered kind name))
  else .ok (factories.insert name factory)

variable (r : Registry m ρ)

def registerService (type : String) (factory : ServiceFactory m) : Except Error (Registry m ρ) := do
  return { r with services := ← addFactory .service r.services type factory }

def registerRequester (type : String) (factory : RequestFactory ρ) :
    Except Error (Registry m ρ) := do
  return { r with requesters := ← addFactory .requester r.requesters type factory }

def registerInitializer (name : String) (factory : InitializerFactory m) :
    Except Error (Registry m ρ) := do
  return { r with initializers := ← addFactory .environment r.initializers name factory }

def service (context : ServiceContext) (type : String) (params : Value) :
    Except Error (Service m) :=
  match r.services.find? type with
  | some factory => factory context params
  | none => .error (.unknownServiceType type)

def requestFactory (type : String) : Except Error (RequestFactory ρ) :=
  match r.requesters.find? type with
  | some factory => .ok factory
  | none => .error (.unknownRequesterType type)

def initializer (name : String) (params : Value) : Except Error (Action m Unit) :=
  match r.initializers.find? name with
  | some factory => factory params
  | none => .error (.unknownInitializer name)

/-- The names of one kind in rising order. -/
def names : PluginKind → List String
  | .service => r.services.sort.names
  | .requester => r.requesters.sort.names
  | .environment => r.initializers.sort.names

/-- The registry with everything that is always there; `graphql` makes requests of the registry's
type out of graph queries. -/
def builtin [Monad m] [Storage m] (graphql : GraphqlRequest → ρ) : Registry m ρ where
  services := [("filesystem", fun context params =>
    (FileService.read context params).map fun s => s.service)]
  requesters := [("graphql", fun request defaults =>
    (GraphqlRequest.read request defaults).map graphql)]
  initializers := [("clocks", fun params => (PinnedClock.read params).map fun _ => pure ())]

end Registry

structure PluginInfo where
  name : String
  kind : PluginKind
  description : String

def PluginInfo.builtin : List PluginInfo :=
  [⟨"graphql", .requester, "Sends GraphQL queries over HTTP"⟩,
    ⟨"filesystem", .service, "Prepares and checks files under a host directory"⟩,
    ⟨"clocks", .environment, "Pins the application clock to a fixed instant"⟩]

end CaseSuite
