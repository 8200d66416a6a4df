import ClusterPackages.Catalog.Keyspace
import ClusterPackages.Text.Affix

namespace ClusterPackages

open Text

/-!
# Settings

Where the services are, who asks them, and how the queue is polled.

* `Settings` — all settings.
* `Settings.standard` — the settings where nothing is said.
* `Settings.keyspace`, `Settings.ensembleHosts`, `Settings.pollSeconds` — what follows from them.
-/

/-- The form of log lines. -/
inductive LogFormat where
  /-- Lines to be read by people. -/
  | text
  /-- One object a line. -/
  | json
deriving DecidableEq, Repr

/-- Where the scheduler is, and who asks it. -/
structure SchedulerSettings where
  /-- The address. -/
  url : Option String
  /-- The user. -/
  user : Option String
  /-- The password. -/
  password : Option String
deriving DecidableEq, Repr

/-- Where the resource manager is, and who asks it. -/
structure ResourceSettings where
  /-- The address. -/
  url : Option String
  /-- The principal. -/
  principal : Option String
  /-- The secret. -/
  secret : Option String
  /-- The file that holds secrets. -/
  secretPath : Option String
deriving DecidableEq, Repr

/-- All settings. -/
structure Settings where
  /-- The address of the store. -/
  store : String
  /-- Where the catalog lies in the store. -/
  repositoryRoot : String
  /-- Where the queue lies in the store. -/
  appsRoot : String
  /-- The scheduler. -/
  scheduler : SchedulerSettings
  /-- The resource manager. -/
  resources : ResourceSettings
  /-- The servers of the coordination service. -/
  ensemble : List String
  /-- The seconds between two polls of the queue. -/
  refreshSeconds : Nat
  /-- Whether certificates are trusted unseen. -/
  acceptInvalidCerts : Bool
  /-- Which log lines are written. -/
  logLevel : String
  /-- The form of log lines. -/
  logFormat : LogFormat
deriving DecidableEq, Repr

namespace Settings

/-- The settings where nothing is said. -/
def standard : Settings where
  store := "http://localhost:8500"
  repositoryRoot := Keyspace.defaultRepositories
  appsRoot := Keyspace.defaultApps
  scheduler := ⟨none, none, none⟩
  resources := ⟨none, none, none, none⟩
  ensemble := []
  refreshSeconds := 10
  acceptInvalidCerts := false
  logLevel := "info"
  logFormat := .text

/-- The keys of the catalog. -/
def keyspace (s : Settings) : Keyspace := Keyspace.ofRoots s.repositoryRoot s.appsRoot

/-- The seconds between two polls of the queue, at least one. -/
def pollSeconds (s : Settings) : Nat := max s.refreshSeconds 1

/-- The servers of the coordination service as one text, if any are given. -/
def ensembleHosts (s : Settings) : Option String :=
  if s.ensemble.isEmpty then none else some (join "," s.ensemble)

end Settings

end ClusterPackages
