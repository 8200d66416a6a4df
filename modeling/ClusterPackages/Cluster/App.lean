import ClusterPackages.Error
import ClusterPackages.Json.Record
import ClusterPackages.Json.Write

namespace ClusterPackages

open Text Json

/-!
# Apps

An app of the scheduler is described by its manifest, an object of which only the id and the
labels mean something here; all other fields are carried along.

* `App` — the parts of a manifest.
* `App.toJson` — the manifest: id, labels unless there are none, then the other fields.
* `App.ofManifest` — reads a manifest.
-/

/-- An app of the scheduler. -/
structure App where
  /-- Its id. -/
  id : String
  /-- Its labels. -/
  labels : Table String
  /-- The other fields of its manifest. -/
  rest : Table Json

namespace App

/-- The value of a label. -/
def label? (a : App) (name : String) : Option String := a.labels.find? name

/-- The labels as a value. -/
def labelsJson (labels : Table String) : Json := .obj (labels.mapEntries (.str ·.2)).entries

/-- The manifest. -/
def toJson (a : App) : Json :=
  .obj (("id", .str a.id)
    :: (if a.labels.isEmpty then [] else [("labels", labelsJson a.labels)]) ++ a.rest.entries)

/-- The fields of a manifest that mean something. -/
def knownFields : List String := ["id", "labels"]

/-- The other fields of a manifest, read in full. -/
def rest? (depth : Nat) (fields : List (String × Document)) : Option (Table Json) := do
  let others := fields.filter fun f => !knownFields.contains f.1
  let values ← others.mapM fun f => (f.2.json? depth).map (f.1, ·)
  some (Table.ofList values)

/-- The app of a manifest in which at most `depth` arrays and objects enclose one another. -/
def ofDocument? : (depth : Nat) → Document → Option App
  | depth + 1, .obj fields => do
    let fields ← Document.named? fields
    let id ← Document.field? "id" fields
    let labels ← Document.field? "labels" fields
    let id ← Document.absent "" Document.string? id
    let labels ← Document.absent ∅ (Document.table? Document.string?) labels
    let rest ← rest? depth fields
    some ⟨id, labels, rest⟩
  | _, _ => none

/-- The app of a manifest. -/
def ofManifest (manifest : String) : Except Error App :=
  match (Document.read? (Utf8.symbols manifest)).bind (ofDocument? nesting) with
  | some a => .ok a
  | none => .error (.failed "parse app manifest" "marathon.json" .malformed)

end App

end ClusterPackages
