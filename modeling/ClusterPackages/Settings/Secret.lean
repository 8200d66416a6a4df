import ClusterPackages.Config.Platform
import ClusterPackages.Settings.Read
import ClusterPackages.Text.Blank

namespace ClusterPackages

open Text

/-!
# Secrets

A file of secrets has a principal and its secret on each line, with white space between them.

* `Secrets.read` — the secrets of a file.
* `Settings.credentials` — who asks the resource manager.  A secret in the settings is taken before
  the one in the file, and without a principal the file does not count.
-/

/-- The secrets by their principals; of several lines for a principal the last one counts. -/
def Secrets.read (s : String) : Table String :=
  Table.ofList ((segments '\n' s).filterMap fun line =>
    match words line with
    | principal :: secret :: _ => some (principal, secret)
    | _ => none)

namespace Settings

/-- The secret of a principal in a file of secrets. -/
def secretIn (files : Files) (principal path : String) : Except SettingsError String :=
  match files.text? path with
  | none => .error (.unreadableSecrets path)
  | some s =>
    match (Secrets.read s).find? principal with
    | some secret => .ok secret
    | none => .error (.noSecret principal path)

/-- The secret of a principal. -/
def secret (s : Settings) (files : Files) (principal : String) : Except SettingsError String :=
  match s.resources.secret.filter (!·.isEmpty), s.resources.secretPath with
  | some secret, _ => .ok secret
  | none, some path => if principal.isEmpty then .ok "" else secretIn files principal path
  | none, none => .ok ""

/-- Who asks the resource manager. -/
def credentials (s : Settings) (files : Files) : Except SettingsError Credentials := do
  let principal := s.resources.principal.getD ""
  let secret ← s.secret files principal
  .ok ⟨principal, secret, s.resources.secretPath.getD ""⟩

end Settings

end ClusterPackages
