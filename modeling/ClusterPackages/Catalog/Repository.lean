import ClusterPackages.Catalog.Keyspace
import ClusterPackages.Cluster.Services
import ClusterPackages.Text.Blank
import ClusterPackages.Time.Read

namespace ClusterPackages

open Text

/-!
# Repositories

A catalog consists of numbered repositories.  Number 0 is the base, the others are layers over it.

* `Repository` — a repository with a name; one without a name is left out everywhere.
* `repositoryIndex?` — the number of a repository, from a directory below the root.
* `Keyspace.listRepositories` — the repositories in ascending order of their numbers.
-/

/-- A repository of the catalog. -/
structure Repository where
  /-- Its name. -/
  name : String
  /-- Its number. -/
  index : Nat
  /-- When it was last synchronised, if that is known. -/
  updated : Option Instant
deriving DecidableEq, Repr

namespace Repository

/-- Whether the repository is the base. -/
def isBase (r : Repository) : Bool := r.index == 0

/-- The repository as a value. -/
def toJson (r : Repository) : Json :=
  .obj ([("name", .str r.name), ("index", Json.int r.index)]
    ++ (r.updated.map fun i => ("updated", Json.str i.zuluText)).toList)

end Repository

/-- The base among the repositories. -/
def baseRepository? (l : List Repository) : Option Repository := l.find? (·.isBase)

/-- The layers among the repositories. -/
def layerRepositories (l : List Repository) : List Repository := l.filter fun r => !r.isBase

/-! ### Numbers -/

/-- The number that decimal digits spell, possibly after a plus sign; it must fit 32 bits. -/
def parseIndex? (s : List Char) : Option Nat :=
  let ds := match s with
    | '+' :: r => r
    | _ => s
  let n := Nat.ofDigitChars 10 ds 0
  if !ds.isEmpty && ds.all isDigit && n < Nat.pow 2 32 then some n else none

/-- The number of a repository's directory: its last name, with slashes at the end not counted. -/
def repositoryIndex? (key : String) : Option Nat :=
  ((segments '/' (dropTrailing '/' key)).getLast?).bind fun s => parseIndex? s.toList

/-- The numbers with `n` among them, in ascending order. -/
def insertIndex (n : Nat) : List Nat → List Nat
  | [] => [n]
  | m :: r => if n < m then n :: m :: r else if n = m then m :: r else m :: insertIndex n r

/-- The numbers in ascending order, each once. -/
def ascendingIndexes (l : List Nat) : List Nat := l.foldr insertIndex []

/-! ### Reading -/

variable {σ : Type} (store : Store σ) (k : Keyspace)

/-- The repository with a number, if it has a name. -/
def readRepository (index : Nat) : Action σ (Option Repository) := do
  match ← store.get (k.name index) with
  | none => pure none
  | some name =>
    let updated ← store.get (k.updated index)
    pure (some ⟨trim (Utf8.lossy name), index,
      updated.bind fun raw => Instant.read? (Utf8.lossy raw)⟩)

/-- The repositories with the given numbers, in that order. -/
def readRepositories : List Nat → Action σ (List Repository)
  | [] => pure []
  | index :: rest => do
    let first ← readRepository store k index
    let others ← readRepositories rest
    pure (first.toList ++ others)

/-- All repositories, in ascending order of their numbers. -/
def listRepositories : Action σ (List Repository) := do
  let directories ← store.keys k.repositoriesPrefix (some "/")
  readRepositories store k (ascendingIndexes (directories.filterMap repositoryIndex?))

end ClusterPackages
