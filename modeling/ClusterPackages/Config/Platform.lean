import ClusterPackages.Json.Basic
import ClusterPackages.Text.Blank

namespace ClusterPackages

open Text

/-!
# Platform values

What the cluster itself contributes to every configuration, above everything the user says.

* `Credentials` — how this process identifies itself to the resource manager.
* `Platform` — the values, as fields of a configuration.
* `Platform.ofCredentials` — the values for given credentials and coordination servers.
-/

/-- How this process identifies itself to the resource manager. -/
structure Credentials where
  /-- The name it uses. -/
  principal : String
  /-- The secret for that name. -/
  secret : String
  /-- The file from which the secret may be read. -/
  secretPath : String
deriving DecidableEq, Repr, Inhabited

/-- The values that the cluster contributes to every configuration. -/
structure Platform where
  /-- The values, as fields of a configuration. -/
  values : Json.Object

namespace Platform

/-- The platform that contributes nothing. -/
def empty : Platform := ⟨∅⟩

/-- The values for given credentials.  The coordination servers are left out when the list of
    them is missing or blank. -/
def ofCredentials (c : Credentials) (authentication : Bool) (hosts : Option String) : Platform :=
  let resources := ((((∅ : Json.Object).insert "authentication-enabled" (.bool authentication)
    trivial).insertText "principal" c.principal).insertText "secret" c.secret).insertText
    "secret-path" c.secretPath
  let services := (∅ : Json.Object).insertObject "mesos" resources
  ⟨(∅ : Json.Object).insertObject "mantl" <|
    match hosts with
    | none => services
    | some h =>
      if allBlank h then services
      else services.insertObject "zookeeper" ((∅ : Json.Object).insertText "hosts" h)⟩

/-- The values as one object. -/
def toJson (p : Platform) : Json := p.values.toJson

/-- Whether nothing is contributed. -/
def isEmpty (p : Platform) : Bool := p.values.isEmpty

end Platform

end ClusterPackages
