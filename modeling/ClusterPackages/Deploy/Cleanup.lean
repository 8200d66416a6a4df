import ClusterPackages.Deploy.Provenance

namespace ClusterPackages

open Text Json

/-!
# Cleanup steps

What a package wants to be done in the coordination service after its app has been removed.

* `CleanupSpec.parse` — reads the rendered steps; a blank text has none.
* `CleanupSpec.decodeLabel` — reads the steps that an installed app carries.
* `CleanupSpec.always` — the nodes that are to be removed in any case.
-/

/-- A node that a package names. -/
structure CleanupNode where
  /-- Its path. -/
  path : String
  /-- Whether it is to be removed in any case. -/
  always : Bool
deriving DecidableEq, Repr

/-- What is to be done after a removal. -/
structure CleanupSpec where
  /-- The nodes of the coordination service that are named, if it is mentioned at all. -/
  nodes : Option (List CleanupNode)
deriving DecidableEq, Repr

namespace CleanupSpec

/-- Nothing is to be done. -/
def none : CleanupSpec := ⟨Option.none⟩

/-- The node that a document spells. -/
def node? (d : Document) : Option CleanupNode :=
  match Document.record? ["path", "always"] d with
  | some [path, always] => do
    let path ← Document.required Document.string? path
    let always ← Document.absent false Document.bool? always
    some ⟨path, always⟩
  | _ => Option.none

/-- The nodes that a document names. -/
def nodes? (d : Document) : Option (List CleanupNode) :=
  match Document.record? ["delete"] d with
  | some [delete] => Document.absent [] (Document.list? node?) delete
  | _ => Option.none

/-- The steps that a document spells. -/
def ofDocument? (d : Document) : Option CleanupSpec :=
  match Document.record? ["zookeeper"] d with
  | some [nodes] => (Document.absent Option.none (Document.nullable nodes?) nodes).map mk
  | _ => Option.none

/-- The steps in a rendered text. -/
def parse (rendered : String) : Except Error CleanupSpec :=
  if allBlank rendered then .ok none
  else
    match (Document.read? (Utf8.symbols rendered)).bind ofDocument? with
    | some spec => .ok spec
    | Option.none =>
      .error (.failed "parse uninstall spec" ArtifactKind.uninstall.fileName .malformed)

/-- The steps in a label. -/
def decodeLabel (encoded : String) : Except Error CleanupSpec :=
  match (Base64.decode? (trim encoded)).bind Utf8.text? with
  | some rendered => parse rendered
  | Option.none => .error (.failed "decode uninstall label" Label.cleanup .malformed)

/-- The paths of the nodes that are to be removed in any case, in their order. -/
def always (s : CleanupSpec) : List String := ((s.nodes.getD []).filter (·.always)).map (·.path)

end CleanupSpec

end ClusterPackages
