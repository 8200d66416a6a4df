import ClusterPackages.Config.Merge
import ClusterPackages.Error
import ClusterPackages.Json.Record
import ClusterPackages.Text.Blank

namespace ClusterPackages

open Text Json

/-!
# Configuration schemas

* `Schema` — the declaration of a value and of the properties below it.
* `Schema.parse` — reads the schema file of a release; a blank file declares nothing.
* `Schema.defaults` — the configuration that the declared defaults make up.
-/

/-- The declaration of a configuration value. -/
structure Schema where
  /-- What the value is for. -/
  description : String
  /-- The declared type, such as `object` or `integer`. -/
  type : String
  /-- Whether properties that are not declared are allowed. -/
  additionalProperties : Bool
  /-- The declared properties, in ascending order of their names. -/
  properties : List (String × Schema)
  /-- The names of the properties that must be given. -/
  required : List String
  /-- The least value. -/
  minimum : Option Json
  /-- The value to use when none is given. -/
  default : Option Json
deriving Inhabited

namespace Schema

/-- The schema that declares nothing. -/
def blank : Schema := ⟨"", "", false, [], [], none, none⟩

/-- The names of the fields of a schema, in their order. -/
def fieldNames : List String :=
  ["description", "type", "additionalProperties", "properties", "required", "minimum", "default"]

/-- The schema that a document spells, in which at most `depth` arrays and objects enclose one
    another. -/
def ofDocument? : (depth : Nat) → Document → Option Schema
  | 0, _ => none
  | depth + 1, d =>
    match Document.record? fieldNames d with
    | some [description, type, additional, properties, required, minimum, default] => do
      let description ← Document.absent "" Document.string? description
      let type ← Document.absent "" Document.string? type
      let additional ← Document.absent false Document.bool? additional
      let properties ← Document.absent Table.empty
        (fun v => match depth with
          | 0 => none
          | inner + 1 => Document.table? (ofDocument? inner) v) properties
      let required ← Document.absent []
        (fun v => if depth = 0 then none else Document.list? Document.string? v) required
      let minimum ← Document.absent none (Document.nullable (Document.json? depth)) minimum
      let default ← Document.absent none (Document.nullable (Document.json? depth)) default
      some ⟨description, type, additional, properties.entries, required, minimum, default⟩
    | _ => none

/-- The schema in a file. -/
def parse (raw : Bytes) : Except Error Schema :=
  if raw.all isAsciiBlank then .ok blank
  else
    match (Document.read? (Utf8.decode raw)).bind (ofDocument? nesting) with
    | some s => .ok s
    | none => .error (.failed "parse config schema" "config.json" .malformed)

mutual

/-- The configuration that the defaults of the properties make up. -/
def defaults : Schema → Entries Json
  | ⟨_, _, _, properties, _, _, _⟩ => defaultsOf properties

/-- The default of a property, in the form of its type; an object without a default of its own
    has those of its properties. -/
def default? : Schema → Option Json
  | ⟨_, type, _, _, _, _, some v⟩ => some (Config.coerce type v)
  | ⟨_, type, _, properties, _, _, none⟩ =>
    if type = "object" then some (.obj (defaultsOf properties)) else none

/-- The defaults of named properties; a property without one is left out. -/
def defaultsOf : List (String × Schema) → Entries Json
  | [] => []
  | (name, s) :: rest =>
    match s.default? with
    | some v => (name, v) :: defaultsOf rest
    | none => defaultsOf rest

end

end Schema

end ClusterPackages
