import ClusterPackages.Error
import ClusterPackages.Json.Record
import ClusterPackages.Json.Write
import ClusterPackages.Text.Blank

namespace ClusterPackages

open Text Json

/-!
# Requests

A request asks for the installation or the removal of a package.  It comes from a caller or waits
in the queue as a document.

* `Request.parse` — reads and validates a document; a blank one fails for want of a name.
* `Request.validate` — the name must not be blank.
* `Request.toJson` — the document of a request.
-/

/-- A request to install or to remove a package. -/
structure Request where
  /-- The name of the package. -/
  name : String
  /-- The version that is asked for. -/
  version : Option String
  /-- The id of the app. -/
  appId : Option String
  /-- The configuration that is asked for. -/
  config : Option Json.Object
  /-- Options of a removal. -/
  uninstallOptions : Option Json.Object

namespace Request

/-- The request that says nothing but the name of a package. -/
def named (name : String) : Request := ⟨name, none, none, none, none⟩

/-- The names of the fields of a request, in their order. -/
def fieldNames : List String := ["name", "version", "id", "config", "uninstallOptions"]

/-- The fields of an object inside a request. -/
def object? : Document → Option Json.Object := Document.object? (nesting - 1)

/-- The request that a document spells. -/
def ofDocument? (d : Document) : Option Request :=
  match Document.record? fieldNames d with
  | some [name, version, id, config, options] => do
    let name ← Document.absent "" Document.string? name
    let version ← Document.absent none (Document.nullable Document.string?) version
    let id ← Document.absent none (Document.nullable Document.string?) id
    let config ← Document.absent none (Document.nullable object?) config
    let options ← Document.absent none (Document.nullable object?) options
    some ⟨name, version, id, config, options⟩
  | _ => none

/-- Whether the request can be dealt with: the name must not be blank. -/
def validate (r : Request) : Except Error Unit :=
  if allBlank r.name then .error (.missingField "name") else .ok ()

/-- The valid request in a document. -/
def parse (raw : Bytes) : Except Error Request := do
  let r ←
    if raw.all isAsciiBlank then .ok (named "")
    else
      match (Document.read? (Utf8.decode raw)).bind ofDocument? with
      | some r => .ok r
      | none => .error (.unreadable "body")
  r.validate
  .ok r

/-- A text that is not blank. -/
def given (s : Option String) : Option String := s.filter fun s => !allBlank s

/-- The version that is asked for, unless it is blank. -/
def requestedVersion (r : Request) : Option String := given r.version

/-- The id that is asked for, unless it is blank. -/
def requestedId (r : Request) : Option String := given r.appId

/-- The document of a request; what is not said is left out. -/
def toJson (r : Request) : Json :=
  .obj ([("name", .str r.name)] ++ (r.version.map fun v => ("version", Json.str v)).toList
    ++ (r.appId.map fun v => ("id", Json.str v)).toList
    ++ (r.config.map fun v => ("config", v.toJson)).toList
    ++ (r.uninstallOptions.map fun v => ("uninstallOptions", v.toJson)).toList)

end Request

end ClusterPackages
