import ClusterPackages.Catalog.Resolve
import ClusterPackages.Cluster.Services

namespace ClusterPackages

open Text

/-!
# The package manager

* `Manager` — the services, the keys of the catalog and the values of the platform.
* `Manager.packages`, `Manager.package`, `Manager.definition` — what the catalog offers.
* `Manager.frameworks`, `Manager.teardown` — the frameworks of the resource manager.
-/

/-- What the package manager works with. -/
structure Manager (σ : Type) where
  /-- The services that it drives. -/
  services : Services σ
  /-- The keys of the catalog. -/
  keyspace : Keyspace
  /-- The values of the platform. -/
  platform : Platform

namespace Manager

variable {σ : Type} (m : Manager σ)

/-- All repositories of the catalog. -/
def repositories : Action σ (List Repository) := listRepositories m.services.store m.keyspace

/-- The packages of the catalog. -/
def packages : Action σ (List Package) := listPackages m.services.store m.keyspace

/-- The package with the given name, if there is one. -/
def find? (name : String) : Action σ (Option Package) :=
  findPackage m.services.store m.keyspace name

/-- The package with the given name. -/
def package (name : String) : Action σ Package := do
  match ← m.find? name with
  | some p => pure p
  | none => Action.fail (.unlistedPackage (trim name))

/-- The files of a release. -/
def compose (package release : String) : Action σ Overlay :=
  composeRelease m.services.store m.keyspace package release

/-- The definition of the release that a name and a version denote. -/
def definition (name : String) (version : Option String) (config : Json.Object) :
    Action σ Definition :=
  resolveDefinition m.services.store m.keyspace name version config m.platform

/-! ### Frameworks -/

/-- The registered frameworks, and those that have finished if asked for. -/
def frameworks (withCompleted : Bool) : Action σ (List FrameworkSummary) := do
  let state ← m.services.resources.state
  pure ((state.active ++ if withCompleted then state.completed else []).map
    FrameworkSummary.ofFramework)

/-- Shuts down the framework with the given id. -/
def teardown (id : String) : Action σ Unit :=
  if allBlank id then Action.fail (.missingField "frameworkId")
  else m.services.resources.teardown (trim id)

end Manager

end ClusterPackages
