import ClusterPackages.CommandLine.Read
import ClusterPackages.Settings.Read

namespace ClusterPackages.CommandLine

open Text

/-!
# What a command line asks for

* `Command` — a command with its arguments.
* `Invocation` — a command and the settings that the line gives.
* `Invocation.read` — what a line asks for.
* `Invocation.settings` — the settings of the file, with those of the line in their place.
* `Invocation.paths` — the files that are read.
* `standardPath?` — the file of settings that is read when none is named.
-/

/-- A command. -/
inductive Command where
  /-- To list the repositories. -/
  | repositories
  /-- To list the packages. -/
  | packages
  /-- To show a package. -/
  | package (name : String)
  /-- To install a package. -/
  | install (name : String) (version id config : Option String)
  /-- To uninstall a package. -/
  | uninstall (name : String) (id : Option String)
  /-- To list the installed packages. -/
  | installed
  /-- To list the frameworks. -/
  | frameworks (completed : Bool)
  /-- To shut down a framework. -/
  | teardown (id : String)
  /-- To poll the queue. -/
  | watch
deriving DecidableEq, Repr

/-- The value of an option of the command itself. -/
def Line.ownText? (line : Line) (name : String) : Option String :=
  (line.own? name).bind (·.head?)

/-- The argument of the command. -/
def Line.argument (line : Line) : String := line.after.argument.getD ""

/-- The command of a line. -/
def Line.command? (line : Line) : Option Command :=
  match line.form.name with
  | "repositories" => some .repositories
  | "packages" => some .packages
  | "package" => some (.package line.argument)
  | "install" =>
    some (.install line.argument (line.ownText? "version") (line.ownText? "id")
      (line.ownText? "config"))
  | "uninstall" => some (.uninstall line.argument (line.ownText? "id"))
  | "installed" => some .installed
  | "frameworks" => some (.frameworks (line.own? "completed").isSome)
  | "teardown" => some (.teardown line.argument)
  | "watch" => some .watch
  | _ => none

/-- A command, and the settings that the line gives. -/
structure Invocation where
  /-- The command. -/
  command : Command
  /-- The file of settings. -/
  settingsPath : Option String
  /-- The address of the store. -/
  store : Option String
  /-- The address of the scheduler. -/
  scheduler : Option String
  /-- The address of the resource manager. -/
  resources : Option String
  /-- The servers of the coordination service; none are given when there are none. -/
  ensemble : List String
  /-- Which log lines are written. -/
  logLevel : Option String
  /-- Whether log lines are objects. -/
  logJson : Bool
deriving DecidableEq, Repr

namespace Invocation

/-- What a line asks for. -/
def ofLine? (line : Line) : Option Invocation := do
  let command ← line.command?
  let values := fun (name : String) =>
    (globalFlags.find? fun f => f.name == name).bind line.shared?
  let text := fun (name : String) => (values name).bind (·.head?)
  some {
    command
    settingsPath := text "config"
    store := text "consul"
    scheduler := text "marathon"
    resources := text "mesos"
    ensemble := (values "zookeeper").getD []
    logLevel := text "log-level"
    logJson := (values "log-json").isSome }

/-- What a line asks for. -/
def read (environment : String → Option String) (args : List String) : Except Stop Invocation := do
  let line ← Line.read environment args
  match ofLine? line with
  | some i => .ok i
  | none => .error .misuse

/-- The settings with those of the line in their place. -/
def override (i : Invocation) (s : Settings) : Settings :=
  { s with
    store := i.store.getD s.store
    scheduler := { s.scheduler with url := i.scheduler <|> s.scheduler.url }
    resources := { s.resources with url := i.resources <|> s.resources.url }
    ensemble := if i.ensemble.isEmpty then s.ensemble else i.ensemble
    logLevel := i.logLevel.getD s.logLevel
    logFormat := if i.logJson then .json else s.logFormat }

/-- The settings of the file that the line names, or else of the standard one if it exists, with
    those of the line in their place. -/
def settings (i : Invocation) (files : Files) (standardPath : Option String) :
    Except SettingsError Settings := do
  let standard := standardPath.filter fun path => (files path).isSome
  let s ←
    match i.settingsPath <|> standard with
    | some path => Settings.load files path
    | none => .ok .standard
  .ok (i.override s)

/-- The paths of the files that are read, as far as the files that are known tell. -/
def paths (i : Invocation) (files : Files) (standardPath : Option String) : List String :=
  (i.settingsPath <|> standardPath).toList
    ++ (match i.settings files standardPath with
      | .ok s => s.resources.secretPath.toList
      | .error _ => [])

end Invocation

/-- The file of settings that is read when none is named.  It lies below the directory in which a
    user keeps settings. -/
def standardPath? (environment : String → Option String) : Option String :=
  let directory :=
    (environment "XDG_CONFIG_HOME").filter (startsWith "/")
      <|> (environment "HOME").map (· ++ "/.config")
  directory.map (· ++ "/harbor/harbor.toml")

end ClusterPackages.CommandLine
