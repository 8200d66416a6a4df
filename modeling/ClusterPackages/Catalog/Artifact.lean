import ClusterPackages.Text.Utf8

namespace ClusterPackages

open Text

/-!
# Artifacts of a release

A release consists of up to six files.  A repository layer may replace any of them, each on its
own.

* `ArtifactKind` — the six files, in their fixed order.
* `Overlay` — for each file the content that has won so far, and where it came from.
* `Overlay.offer` — offers a layer's copy of a file.
-/

/-- A file of a release. -/
inductive ArtifactKind where
  /-- The command-line description. -/
  | command
  /-- The configuration schema. -/
  | config
  /-- The template of the app manifest. -/
  | manifest
  /-- The description of the package. -/
  | package
  /-- The template of the options; its presence in a layer marks the release as supported. -/
  | options
  /-- The template of the steps that follow an uninstallation. -/
  | uninstall
deriving DecidableEq, Repr

namespace ArtifactKind

/-- The six files in their order. -/
def all : List ArtifactKind := [command, config, manifest, package, options, uninstall]

/-- The name of the file. -/
def fileName : ArtifactKind → String
  | command => "command.json"
  | config => "config.json"
  | manifest => "marathon.json"
  | package => "package.json"
  | options => "mantl.json"
  | uninstall => "uninstall.json"

end ArtifactKind

/-- Where the content of a file came from. -/
structure ArtifactSource where
  /-- The name of the repository. -/
  repository : String
  /-- The index of the repository. -/
  index : Nat
deriving DecidableEq, Repr

/-- The content of a file, with its source. -/
structure Layered where
  /-- Where the content came from. -/
  source : ArtifactSource
  /-- The bytes of the file, of which there is at least one. -/
  content : Bytes
deriving DecidableEq, Repr

/-- For each file the content that has won so far. -/
abbrev Overlay := ArtifactKind → Option Layered

namespace Overlay

/-- The overlay to which nothing has been offered. -/
def empty : Overlay := fun _ => none

/-- Whether an offer for a file is taken: it is not empty, and the content so far did not come from
    a layer with a greater index. -/
def takes (o : Overlay) (kind : ArtifactKind) (offered : Layered) : Bool :=
  !offered.content.isEmpty && (o kind).all fun held => held.source.index ≤ offered.source.index

/-- The overlay after an offer for a file. -/
def offer (o : Overlay) (kind : ArtifactKind) (offered : Layered) : Overlay :=
  if o.takes kind offered then fun k => if k = kind then some offered else o k else o

/-- The content of a file, empty when no layer has supplied it. -/
def content (o : Overlay) (kind : ArtifactKind) : Bytes := ((o kind).map Layered.content).getD []

end Overlay

end ClusterPackages
