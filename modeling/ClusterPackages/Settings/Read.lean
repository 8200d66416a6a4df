import ClusterPackages.Settings.Basic
import ClusterPackages.Text.Utf8
import ClusterPackages.Toml.Record

namespace ClusterPackages

open Text

/-!
# Reading settings

* `SettingsError` — why settings, or the secrets that they point to, cannot be had.
* `Settings.parse` — the settings that a document spells; what it does not say is as in the
  standard settings, and what it says beyond them does not count.
* `Settings.load` — the settings of a file.
-/

/-- Why settings cannot be had. -/
inductive SettingsError where
  /-- The document has not the expected form. -/
  | malformed
  /-- The file is missing, or it is no text. -/
  | unreadable (path : String)
  /-- The document in the file has not the expected form. -/
  | malformedFile (path : String)
  /-- The file of secrets is missing, or it is no text. -/
  | unreadableSecrets (path : String)
  /-- The file of secrets has none for the principal. -/
  | noSecret (principal path : String)
deriving DecidableEq, Repr

/-- The wording of an error. -/
def SettingsError.message : SettingsError → String
  | malformed => "Invalid settings TOML"
  | unreadable path => "Failed to read settings file: " ++ path
  | malformedFile path => "Failed to parse settings file: " ++ path
  | unreadableSecrets path => "Failed to read credentials file: " ++ path
  | noSecret principal path => "No secret for " ++ principal ++ " in " ++ path

/-- The files that can be read, by their paths. -/
abbrev Files : Type := String → Option Bytes

/-- The text of a file, if there is one. -/
def Files.text? (files : Files) (path : String) : Option String := (files path).bind Utf8.text?

/-- The form of log lines that a word stands for. -/
def LogFormat.ofWord? (s : String) : Option LogFormat :=
  if s = "text" then some .text else if s = "json" then some .json else none

/-- A text that may be missing. -/
def optionalText? (v : Option Toml) : Option (Option String) :=
  Toml.absent none (fun v => v.text?.map some) v

/-- The settings of the scheduler. -/
def SchedulerSettings.ofToml? (v : Toml) : Option SchedulerSettings :=
  match Toml.record? ["url", "user", "password"] v with
  | some [url, user, password] => do
    let url ← optionalText? url
    let user ← optionalText? user
    let password ← optionalText? password
    some ⟨url, user, password⟩
  | _ => none

/-- The settings of the resource manager. -/
def ResourceSettings.ofToml? (v : Toml) : Option ResourceSettings :=
  match Toml.record? ["url", "principal", "secret", "secret_path"] v with
  | some [url, principal, secret, secretPath] => do
    let url ← optionalText? url
    let principal ← optionalText? principal
    let secret ← optionalText? secret
    let secretPath ← optionalText? secretPath
    some ⟨url, principal, secret, secretPath⟩
  | _ => none

namespace Settings

/-- The settings in the table of a document. -/
def ofFields? (fields : Entries Toml) : Option Settings := do
  let get := fun k => Entries.find? k fields
  let store ← Toml.absent standard.store Toml.text? (get "consul")
  let repositoryRoot ← Toml.absent standard.repositoryRoot Toml.text? (get "repository_root")
  let appsRoot ← Toml.absent standard.appsRoot Toml.text? (get "apps_root")
  let scheduler ← Toml.absent standard.scheduler SchedulerSettings.ofToml? (get "marathon")
  let resources ← Toml.absent standard.resources ResourceSettings.ofToml? (get "mesos")
  let ensemble ← Toml.absent standard.ensemble (Toml.list? Toml.text?) (get "zookeeper")
  let refresh ← Toml.absent standard.refreshSeconds Toml.count? (get "refresh_interval_secs")
  let accept ← Toml.absent standard.acceptInvalidCerts Toml.truth? (get "accept_invalid_certs")
  let logLevel ← Toml.absent standard.logLevel Toml.text? (get "log_level")
  let logFormat ← Toml.absent standard.logFormat (Toml.word? LogFormat.ofWord?) (get "log_format")
  some ⟨store, repositoryRoot, appsRoot, scheduler, resources, ensemble, refresh, accept, logLevel,
    logFormat⟩

/-- The settings that a document spells. -/
def parse (s : String) : Except SettingsError Settings :=
  match (Toml.read? s).bind ofFields? with
  | some settings => .ok settings
  | none => .error .malformed

/-- The settings of a file. -/
def load (files : Files) (path : String) : Except SettingsError Settings :=
  match files.text? path with
  | none => .error (.unreadable path)
  | some s => (parse s).mapError fun _ => .malformedFile path

end Settings

end ClusterPackages
