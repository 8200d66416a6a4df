import ClusterPackages.Catalog.Index
import ClusterPackages.Catalog.Repository
import ClusterPackages.Config.Definition

namespace ClusterPackages

open Text

/-!
# Resolving packages

* `listPackages` — the packages of the base's index.  Each layer in turn settles anew which
  versions are supported, so the last layer decides.
* `findPackage` — the package with a name, up to blanks and the case of ASCII letters.
* `composeRelease` — the files of a release, each from the last repository that has it.
* `resolveDefinition` — the definition of the release that a name and a version denote.
-/

variable {σ : Type} (store : Store σ) (k : Keyspace)

/-! ### Support -/

/-- For each version, whether a layer marks its release as supported. -/
def readMarks (layer : Nat) (package : String) :
    List (String × Version) → Action σ (Entries Bool)
  | [] => pure []
  | (name, v) :: rest => do
    let marked ← store.contains (k.supportMarker layer package v.release)
    let others ← readMarks layer package rest
    pure ((name, marked) :: others)

/-- The package with its versions supported as marked. -/
def Package.mark (p : Package) (marks : Entries Bool) : Package :=
  { p with versions := p.versions.mapEntries fun (name, v) =>
      { v with supported := (Entries.find? name marks).getD v.supported } }

/-- The packages with their versions supported as one layer says. -/
def markPackages (layer : Nat) : List Package → Action σ (List Package)
  | [] => pure []
  | p :: rest => do
    let marks ← readMarks store k layer p.name p.versions.entries
    let others ← markPackages layer rest
    pure (p.mark marks :: others)

/-- The packages with their versions supported as the last of the layers says. -/
def applyLayers : List Repository → List Package → Action σ (List Package)
  | [], packages => pure packages
  | layer :: rest, packages => do
    let marked ← markPackages store k layer.index packages
    applyLayers rest marked

/-! ### Packages -/

/-- The packages of the catalog; there are none without a base that has an index. -/
def listPackages : Action σ (List Package) := do
  let repositories ← listRepositories store k
  match baseRepository? repositories with
  | none => pure []
  | some base =>
    match ← store.get (k.packageIndex base.index) with
    | none => pure []
    | some raw =>
      let entries ← Action.ofExcept (IndexEntry.parse raw (k.packageIndex base.index))
      let packages ← applyLayers store k (layerRepositories repositories)
        (entries.map Package.ofEntry)
      pure (packages.map Package.refreshSupport)

/-- The first package with the given name. -/
def findPackage (name : String) : Action σ (Option Package) := do
  let packages ← listPackages store k
  pure (packages.find? fun p => sameIgnoringCase p.name (trim name))

/-! ### Releases -/

/-- Offers a repository's copies of the given files of a release. -/
def offerFiles (repository : Repository) (package release : String) (o : Overlay) :
    List ArtifactKind → Action σ Overlay
  | [] => pure o
  | kind :: rest => do
    match ← store.get (k.artifact repository.index package release kind) with
    | some content =>
      let layered : Layered := ⟨⟨repository.name, repository.index⟩, content⟩
      offerFiles repository package release (o.offer kind layered) rest
    | none => offerFiles repository package release o rest

/-- Offers the copies of a release's files, one repository after another. -/
def offerRelease (package release : String) (o : Overlay) : List Repository → Action σ Overlay
  | [] => pure o
  | r :: rest => do
    let o ← offerFiles store k r package release o ArtifactKind.all
    offerRelease package release o rest

/-- The files of a release. -/
def composeRelease (package release : String) : Action σ Overlay := do
  let repositories ← listRepositories store k
  offerRelease store k package release Overlay.empty repositories

/-- The definition of the release that a name and a version denote, with the user's configuration
    and the platform's values. -/
def resolveDefinition (name : String) (version : Option String) (userConfig : Json.Object)
    (platform : Platform) : Action σ Definition := do
  match ← findPackage store k name with
  | none => Action.fail (.unknownPackage name)
  | some package =>
    match package.find? version with
    | none => Action.fail (.noVersion name)
    | some v =>
      let overlay ← composeRelease store k package.name v.release
      let d : Definition :=
        ⟨package.name, v.name, v.release, package.framework, none, overlay.content, userConfig,
          platform⟩
      let config ← Action.ofExcept d.mergedConfig
      pure { d with frameworkName := d.configuredFrameworkName config }

end ClusterPackages
