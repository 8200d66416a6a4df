import ClusterPackages.Catalog.Package
import ClusterPackages.Error
import ClusterPackages.Json.Record
import ClusterPackages.Json.Write

namespace ClusterPackages

open Text Json

/-!
# Package indexes

The index of a repository is a document that lists its packages, either as an array or as the
`packages` of an object.

* `IndexEntry` — what an index says about a package.
* `IndexEntry.parse` — the entries of an index.
* `Package.ofEntry` — the package of an entry, with no version supported.
-/

/-- What an index says about a package. -/
structure IndexEntry where
  /-- The name of the package. -/
  name : String
  /-- What it is for. -/
  description : String
  /-- Whether it is a framework. -/
  framework : Bool
  /-- The version that is installed when none is asked for. -/
  currentVersion : String
  /-- Its tags. -/
  tags : List String
  /-- The release of each version. -/
  versions : Table String

namespace IndexEntry

/-- The release that a value denotes: texts and numbers do, anything else is left out. -/
def release? : Json → Option String
  | .str s => some s
  | .number n => some (String.ofList (writeNumber n))
  | _ => none

/-- The releases of the versions of an entry. -/
def releases? (depth : Nat) (d : Document) : Option (Table String) := do
  let values ← Document.nullable (Document.table? (Document.json? depth)) d
  some (Table.ofList ((values.getD ∅).entries.filterMap fun e => (release? e.2).map (e.1, ·)))

/-- The names of the fields of an entry, in their order. -/
def fieldNames : List String :=
  ["name", "description", "framework", "currentVersion", "tags", "versions"]

/-- The entry that a document spells. -/
def ofDocument? (d : Document) : Option IndexEntry :=
  match Document.record? fieldNames d with
  | some [name, description, framework, current, tags, versions] => do
    let name ← Document.required Document.string? name
    let description ← Document.absent "" Document.string? description
    let framework ← Document.absent false Document.bool? framework
    let current ← Document.absent "" Document.string? current
    let tags ← Document.absent [] (Document.list? Document.string?) tags
    let versions ← Document.absent ∅ (releases? nesting) versions
    some ⟨name, description, framework, current, tags, versions⟩
  | _ => none

/-- The entries in the `packages` of an object. -/
def wrapped? (d : Document) : Option (List IndexEntry) :=
  match Document.objectRecord? ["packages"] d with
  | some [packages] => Document.required (Document.list? ofDocument?) packages
  | _ => none

/-- The entries of a document all of whose numerals and strings can be read. -/
def listOf? (d : Document) : Option (List IndexEntry) :=
  (d.json? nesting).bind fun _ => wrapped? d <|> Document.list? ofDocument? d

/-- The entries of an index that is stored at the key `context`. -/
def parse (raw : Bytes) (context : String) : Except Error (List IndexEntry) :=
  match (Document.read? (Utf8.decode raw)).bind listOf? with
  | some entries => .ok entries
  | none => .error (.failed "parse package index" context .malformed)

end IndexEntry

/-- The package of an index entry, with no version supported. -/
def Package.ofEntry (e : IndexEntry) : Package where
  name := e.name
  description := e.description
  framework := e.framework
  currentVersion := e.currentVersion
  supported := false
  tags := e.tags
  versions := e.versions.mapEntries fun (name, release) => ⟨name, release, false⟩

end ClusterPackages
