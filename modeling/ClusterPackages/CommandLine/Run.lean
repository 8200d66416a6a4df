import ClusterPackages.CommandLine.Invocation
import ClusterPackages.CommandLine.Page
import ClusterPackages.Cluster.Ensemble
import ClusterPackages.Deploy.Discovery
import ClusterPackages.Deploy.Queue
import ClusterPackages.Deploy.Uninstall
import ClusterPackages.Remote.Resources
import ClusterPackages.Remote.Scheduler
import ClusterPackages.Remote.Store
import ClusterPackages.Settings.Secret
import ClusterPackages.Text.Visible

namespace ClusterPackages.CommandLine

/-!
# Running a command

* `Surroundings` — what a command finds around it.
* `RunError` — why a command failed.
* `openManager` — the package manager for settings.
* `Invocation.run` — does what a command line asks for.
* `Invocation.openWatch` — opens the package manager that polls the queue again and again.
* `run` — the outcome of a command line: an exit code, and what is written.
-/

/-- What a command finds around it. -/
structure Surroundings (σ : Type) where
  /-- The files. -/
  files : Files
  /-- The file of settings that is read when none is named, if it exists. -/
  standardPath : Option String
  /-- The variables. -/
  environment : String → Option String
  /-- How servers are reached. -/
  transport : Http.Transport σ
  /-- How a session with servers of the coordination service is opened. -/
  session : String → Coordinator σ

/-- Why a command failed. -/
inductive RunError where
  /-- Settings cannot be had. -/
  | settings (e : SettingsError)
  /-- The address of the store is none. -/
  | store (address : String) (e : Error)
  /-- It cannot be found out whether frameworks have to identify themselves. -/
  | discovery (e : Error)
  /-- Something else failed. -/
  | failed (e : Error)
deriving DecidableEq, Repr

namespace RunError

/-- The wording of an error. -/
def message : RunError → String
  | settings e => e.message
  | store address e => "Failed to configure Consul at " ++ address ++ ": " ++ e.message
  | discovery e => "Failed to read cluster authentication state: " ++ e.message
  | failed e => e.message

/-- The exit code for the class of an error. -/
def codeOf : ErrorKind → Nat
  | .validation => 2
  | .notFound => 3
  | .conflict | .alreadyInstalled => 4
  | .elsewhere => 1

/-- The exit code for an error. -/
def code : RunError → Nat
  | settings _ => 1
  | store _ e | discovery e | failed e => codeOf e.kind

end RunError

/-- A computation on a state that ends with a value or with the error of a command. -/
abbrev Run (σ α : Type) : Type := ExceptT RunError (StateM σ) α

namespace Run

variable {σ α ε : Type}

/-- Ends with an outcome, its error wrapped. -/
def ofExcept (wrap : ε → RunError) (r : Except ε α) : Run σ α := ExceptT.mk (pure (r.mapError wrap))

/-- Does an action, its error wrapped. -/
def ofAction (wrap : Error → RunError) (x : Action σ α) : Run σ α :=
  ExceptT.mk fun s => let (r, s') := x s; (r.mapError wrap, s')

end Run

variable {σ : Type}

/-- The address of the scheduler when none is given. -/
def standardScheduler : String := "http://localhost:8080"

/-- The address of the resource manager when none is given. -/
def standardResources : String := "http://localhost:5050"

/-- The store that settings name. -/
def openStore (around : Surroundings σ) (s : Settings) : Run σ (Store σ) := do
  let base ← .ofExcept (.store s.store) (Url.ofAddress s.store)
  pure (Remote.store around.transport base)

/-- The package manager for settings. -/
def openManager (around : Surroundings σ) (s : Settings) : Run σ (Manager σ) := do
  let scheduler ← .ofExcept .failed
    (Http.Endpoint.ofAddress (s.scheduler.url.getD standardScheduler) s.scheduler.user
      s.scheduler.password)
  let credentials ← .ofExcept .settings (s.credentials around.files)
  let resources ← .ofExcept .failed
    (Http.Endpoint.ofAddress (s.resources.url.getD standardResources) (some credentials.principal)
      (some credentials.secret))
  let resources := Remote.resources around.transport resources
  let platform ← .ofAction .discovery (Platform.discover resources credentials s.ensembleHosts)
  let store ← openStore around s
  let services : Services σ :=
    ⟨store, Remote.scheduler around.transport scheduler, resources,
      Ensemble.coordinator around.session s.ensemble⟩
  pure ⟨services, s.keyspace, platform⟩

/-- Opens the package manager and has it do something. -/
def managed {α : Type} (around : Surroundings σ) (s : Settings) (f : Manager σ → Action σ α) :
    Run σ α := do
  let m ← openManager around s
  .ofAction .failed (f m)

/-- Opens the store and looks something up in the catalog. -/
def looked {α : Type} (around : Surroundings σ) (s : Settings)
    (f : Store σ → Keyspace → Action σ α) : Run σ α := do
  let store ← openStore around s
  .ofAction .failed (f store s.keyspace)

/-- The request for an installation. -/
def installRequest (name : String) (version id config : Option String) :
    Except Error Request :=
  match config with
  | none => .ok ⟨name, version, id, none, none⟩
  | some text =>
    match Json.parseObject? text with
    | some config => .ok ⟨name, version, id, some config, none⟩
    | none => .error (.unreadable "config")

/-- Does what a command asks for; its answer, if it has one.  The queue is polled once. -/
def Command.run (around : Surroundings σ) (s : Settings) : Command → Run σ (Option Json)
  | repositories => do
    let l ← looked around s listRepositories
    pure (some (.arr (l.map Repository.toJson)))
  | packages => do
    let l ← looked around s listPackages
    pure (some (.arr (l.map Package.toJson)))
  | package name => do
    match ← looked around s fun store keyspace => findPackage store keyspace name with
    | some p => pure (some p.toJson)
    | none => throw (.failed (.unlistedPackage name))
  | install name version id config => do
    let r ← .ofExcept .failed (installRequest name version id config)
    let report ← managed around s fun m => m.install r
    pure (some report.toJson)
  | uninstall name id => do
    let report ← managed around s fun m => m.uninstall ⟨name, none, id, none, none⟩
    pure (some report.toJson)
  | installed => do
    let l ← managed around s fun m => m.installed
    pure (some (.arr (l.map App.toJson)))
  | frameworks completed => do
    let l ← managed around s fun m => m.frameworks completed
    pure (some (.arr (l.map FrameworkSummary.toJson)))
  | teardown id => do
    managed around s fun m => m.teardown id
    pure none
  | watch => do
    let _ ← managed around s fun m => m.poll.attempt
    pure none

/-- Does what an invocation asks for. -/
def Invocation.run (around : Surroundings σ) (i : Invocation) : Run σ (Option Json) := do
  let s ← .ofExcept .settings (i.settings around.files around.standardPath)
  i.command.run around s

/-- The package manager that polls the queue, and the seconds between two polls. -/
def Invocation.openWatch (around : Surroundings σ) (i : Invocation) : Run σ (Manager σ × Nat) := do
  let s ← .ofExcept .settings (i.settings around.files around.standardPath)
  let m ← openManager around s
  pure (m, s.pollSeconds)

/-- The outcome of a command line. -/
structure Outcome where
  /-- The exit code. -/
  code : Nat
  /-- What is written as output. -/
  output : String
  /-- What is written as a message. -/
  message : String
deriving DecidableEq, Repr

namespace Outcome

/-- The outcome when there is nothing to run. -/
def ofStop (environment : String → Option String) : Stop → Outcome
  | .misuse => ⟨2, "", programPage environment⟩
  | .help none => ⟨0, Text.visible (programPage environment), ""⟩
  | .help (some f) => ⟨0, Text.visible (formPage environment f), ""⟩
  | .helpOnHelp => ⟨0, helpPage, ""⟩

/-- The outcome of a command. -/
def ofResult : Except RunError (Option Json) → Outcome
  | .ok (some v) => ⟨0, v.pretty ++ "\n", ""⟩
  | .ok none => ⟨0, "", ""⟩
  | .error e => ⟨e.code, "", "Error: " ++ e.message ++ "\n"⟩

end Outcome

/-- The outcome of a command line. -/
def run (around : Surroundings σ) (args : List String) : StateM σ Outcome :=
  match Invocation.read around.environment args with
  | .error stop => pure (.ofStop around.environment stop)
  | .ok i => do
    let r ← (i.run around).run
    pure (.ofResult r)

end ClusterPackages.CommandLine
