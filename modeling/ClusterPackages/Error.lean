import ClusterPackages.Template.Node
import ClusterPackages.Text.Affix

namespace ClusterPackages

/-!
# Errors

* `Reason` — why a call to another service, or the reading of something stored there, failed.
* `Error` — every way in which an operation of the package manager can fail.
* `Error.kind` — the coarse class of an error.
* `Error.message` — its wording.
-/

/-- Why a call, or the use of its answer, failed. -/
inductive Reason where
  /-- The service answered with this status, and possibly with a text. -/
  | status (code : Nat) (body : Option String)
  /-- The service answered with this status, which is reported with its standard phrase. -/
  | statusLine (code : Nat) (phrase : String)
  /-- No answer came. -/
  | unreachable
  /-- What came, or what was stored, has not the expected form. -/
  | malformed
  /-- The template has a fault. -/
  | template (e : TemplateError)
  /-- There is no such node. -/
  | noNode
  /-- The node still has children. -/
  | nodeNotEmpty
  /-- There is no session with the coordination service; the servers it was configured with. -/
  | noSession (servers : List String)
deriving DecidableEq, Repr

/-- The wording of a reason. -/
def Reason.message : Reason → String
  | .status code none => "HTTP " ++ toString code
  | .status code (some body) => "HTTP " ++ toString code ++ ": " ++ body
  | .statusLine code phrase => "HTTP " ++ toString code ++ " " ++ phrase
  | .unreachable => "connection refused"
  | .malformed => "malformed content"
  | .template e => e.message
  | .noNode => "no node"
  | .nodeNotEmpty => "node not empty"
  | .noSession servers => "no coordination session for [" ++ Text.join "," servers ++ "]"

/-- Why an operation failed. -/
inductive Error where
  /-- A request lacks this field. -/
  | missingField (field : String)
  /-- A part of a request cannot be read. -/
  | unreadable (field : String)
  /-- No server of the coordination service is configured. -/
  | noServers
  /-- No package of this name can be resolved for an installation. -/
  | unknownPackage (name : String)
  /-- The package has no version that could be installed. -/
  | noVersion (name : String)
  /-- No package of this name is listed. -/
  | unlistedPackage (name : String)
  /-- The package is not installed, or not under the given app id. -/
  | notInstalled (name : String) (id : Option String)
  /-- The package is installed as several apps, and none was named. -/
  | ambiguousApp (name : String) (ids : List String)
  /-- Several frameworks are registered under the name. -/
  | ambiguousFramework (count : Nat) (name : String)
  /-- The scheduler already runs an app with this id. -/
  | alreadyInstalled (id : String)
  /-- A call failed, or what it brought could not be used. -/
  | failed (operation context : String) (reason : Reason)
deriving DecidableEq, Repr

/-- The class of an error. -/
inductive ErrorKind where
  /-- The request is at fault. -/
  | validation
  /-- Something does not exist. -/
  | notFound
  /-- Several things exist where one is needed. -/
  | conflict
  /-- An app with the id exists. -/
  | alreadyInstalled
  /-- Another service, or something stored, is at fault. -/
  | elsewhere
deriving DecidableEq, Repr

namespace Error

/-- The class of an error. -/
def kind : Error → ErrorKind
  | .missingField _ | .unreadable _ | .noServers => .validation
  | .unknownPackage _ | .noVersion _ | .unlistedPackage _ | .notInstalled _ _ => .notFound
  | .ambiguousApp _ _ | .ambiguousFramework _ _ => .conflict
  | .alreadyInstalled _ => .alreadyInstalled
  | .failed _ _ _ => .elsewhere

/-- The wording of an error. -/
def message : Error → String
  | .missingField field => "invalid " ++ field ++ ": is required"
  | .unreadable field => "invalid " ++ field ++ ": malformed content"
  | .noServers => "invalid zookeeper: no servers configured"
  | .unknownPackage name => "could not find " ++ name ++ " package"
  | .noVersion name => "could not find installable version for " ++ name
  | .unlistedPackage name => "package " ++ name ++ " not found"
  | .notInstalled name none => "package " ++ name ++ " is not installed"
  | .notInstalled name (some id) =>
    "package " ++ name ++ " with id " ++ id ++ " is not installed"
  | .ambiguousApp name ids =>
    "package " ++ name ++ " is installed as multiple apps (" ++ Text.join ", " ids
      ++ "); specify an id"
  | .ambiguousFramework count name =>
    toString count ++ " frameworks are registered as " ++ name ++ "; none were torn down"
  | .alreadyInstalled id => id ++ " is already installed"
  | .failed operation context reason =>
    operation ++ " failed for " ++ context ++ ": " ++ reason.message

end Error

end ClusterPackages
