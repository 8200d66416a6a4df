import ClusterPackages.Json.Basic
import ClusterPackages.Table
import ClusterPackages.Text.Affix
import ClusterPackages.Text.Blank

namespace ClusterPackages

open Text

/-!
# Packages and their versions

* `Package` — a package with its versions, by their names.
* `Package.byRecency` — the versions from the most recent release to the oldest.  Releases are
  ordered as texts, so `9` is more recent than `10`.
* `Package.find?` — the version that an installation without further advice would take.
* `Package.refreshSupport` — settles whether the package is supported and what its current version
  is, once it is known which versions are supported.
-/

/-- A version of a package. -/
structure Version where
  /-- Its name. -/
  name : String
  /-- The release that holds its files. -/
  release : String
  /-- Whether it is supported. -/
  supported : Bool
deriving DecidableEq, Repr

/-- A package of the catalog. -/
structure Package where
  /-- Its name. -/
  name : String
  /-- What it is for. -/
  description : String
  /-- Whether it is a framework. -/
  framework : Bool
  /-- The version that is installed when none is asked for. -/
  currentVersion : String
  /-- Whether one of its versions is supported. -/
  supported : Bool
  /-- Its tags. -/
  tags : List String
  /-- Its versions by their names. -/
  versions : Table Version

namespace Version

/-- The version as a value. -/
def toJson (v : Version) : Json :=
  .obj [("version", .str v.name), ("index", .str v.release), ("supported", .bool v.supported)]

/-- Whether the release of `v` is at least as recent as that of `w`. -/
def noOlder (v w : Version) : Bool := w.release ≤ v.release

end Version

namespace Package

variable (p : Package)

/-- The package as a value. -/
def toJson : Json :=
  .obj [("name", .str p.name), ("description", .str p.description),
    ("framework", .bool p.framework), ("currentVersion", .str p.currentVersion),
    ("supported", .bool p.supported), ("tags", Json.ofTexts p.tags),
    ("versions", .obj (p.versions.mapEntries (·.2.toJson)).entries)]

/-- The versions from the most recent release to the oldest; versions of one release stay in the
    order of their names. -/
def byRecency : List Version := p.versions.values.mergeSort Version.noOlder

/-- The supported versions, in the order of their names. -/
def supportedVersions : List Version := p.versions.values.filter (·.supported)

/-- Whether a version is supported. -/
def hasSupported : Bool := !p.supportedVersions.isEmpty

/-- The first version with the given name, up to blanks around it and the case of ASCII
    letters. -/
def version? (name : String) : Option Version :=
  p.versions.values.find? fun v => sameIgnoringCase v.name (trim name)

/-- The most recent version. -/
def latest? : Option Version := p.byRecency.head?

/-- The most recent supported version. -/
def latestSupported? : Option Version := p.byRecency.find? (·.supported)

/-- The version to install: the requested one, else the current one, else the most recent
    supported one, else the most recent one. -/
def find? (requested : Option String) : Option Version :=
  (requested.bind p.version?) <|> p.version? p.currentVersion <|> p.latestSupported? <|> p.latest?

/-- The package with its own support settled; the current version gives way to the most recent
    supported one unless it is supported itself. -/
def refreshSupport : Package :=
  let p := { p with supported := p.hasSupported }
  if p.supported && !(p.version? p.currentVersion).any (·.supported) then
    match p.latestSupported? with
    | some v => { p with currentVersion := v.name }
    | none => p
  else p

end Package

end ClusterPackages
