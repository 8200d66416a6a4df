import ClusterPackages.Catalog.Artifact
import ClusterPackages.Text.Affix
import ClusterPackages.Text.Case

namespace ClusterPackages

open Text

/-!
# Keys of the catalog

The catalog lives in a key-value store, below two roots:

* `<repositories>/<index>/name` and `<repositories>/<index>/updated` — name and last
  synchronisation of a repository;
* `<repositories>/<index>/repo/meta/index.json` — its package index;
* `<repositories>/<index>/repo/packages/<bucket>/<package>/<release>/<file>` — the files of a
  release, where the bucket is the capital form of the first letter of the package's name;
* `<apps>/<id>` — the pending installations.
-/

/-- The two roots of a catalog.  `Keyspace.ofRoots` sees to it that neither ends in a slash. -/
structure Keyspace where
  /-- Where the repositories are. -/
  repositoryRoot : String
  /-- Where the pending installations are. -/
  appsRoot : String
deriving DecidableEq, Repr

/-- The directory of a package's name: the capital form of its first letter. -/
def bucket (name : String) : String :=
  match name.toList with
  | [] => ""
  | c :: _ => String.ofList (capital c)

namespace Keyspace

/-- The keyspace with the given roots; slashes at their ends do not count. -/
def ofRoots (repositories apps : String) : Keyspace :=
  ⟨dropTrailing '/' repositories, dropTrailing '/' apps⟩

/-- Where repositories are unless something else is said. -/
def defaultRepositories : String := "mantl-install/repository"

/-- Where pending installations are unless something else is said. -/
def defaultApps : String := "mantl-install/apps"

/-- The keyspace with the default roots. -/
def standard : Keyspace := ofRoots defaultRepositories defaultApps

variable (k : Keyspace)

/-- What every key of a repository starts with. -/
def repositoriesPrefix : String := k.repositoryRoot ++ "/"

/-- The directory of a repository. -/
def repository (index : Nat) : String := k.repositoriesPrefix ++ toString index

/-- The key of a repository's name. -/
def name (index : Nat) : String := k.repository index ++ "/name"

/-- The key of a repository's last synchronisation. -/
def updated (index : Nat) : String := k.repository index ++ "/updated"

/-- The key of a repository's package index. -/
def packageIndex (index : Nat) : String := k.repository index ++ "/repo/meta/index.json"

/-- The directory of a repository's packages. -/
def packages (index : Nat) : String := k.repository index ++ "/repo/packages"

/-- The directory of a release. -/
def release (index : Nat) (package release : String) : String :=
  k.packages index ++ "/" ++ bucket package ++ "/" ++ package ++ "/" ++ release

/-- The key of a release's file with the given name. -/
def file (index : Nat) (package release name : String) : String :=
  k.release index package release ++ "/" ++ name

/-- The key of one of the six files of a release. -/
def artifact (index : Nat) (package release : String) (kind : ArtifactKind) : String :=
  k.file index package release kind.fileName

/-- The key whose presence marks a release as supported. -/
def supportMarker (index : Nat) (package release : String) : String :=
  k.artifact index package release .options

/-- What the key of every pending installation starts with. -/
def pendingPrefix : String := k.appsRoot ++ "/"

end Keyspace

end ClusterPackages
