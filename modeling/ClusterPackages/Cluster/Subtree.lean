import ClusterPackages.Cluster.NodeTree
import ClusterPackages.Cluster.Services

namespace ClusterPackages

open Text

/-!
# Removing subtrees

* `Coordinator.below` — the paths of all nodes below a node, each before the ones below it.
* `Coordinator.deleteEach` — removes nodes one after another, whatever becomes of each.
* `Coordinator.removeTree` — removes a node with everything below it, from the bottom up.  Nothing
  is removed unless the whole subtree could be listed.
-/

/-- What became of the nodes that were to be removed. -/
structure Removal where
  /-- The paths that were removed, in order. -/
  deleted : List String
  /-- The paths that could not be removed, in order. -/
  failed : List String
deriving DecidableEq, Repr

namespace Removal

/-- Nothing was to be removed. -/
def none : Removal := ⟨[], []⟩

/-- One removal after another. -/
def append (r s : Removal) : Removal := ⟨r.deleted ++ s.deleted, r.failed ++ s.failed⟩

/-- Whether everything was removed. -/
def isClean (r : Removal) : Bool := r.failed.isEmpty

end Removal

namespace Coordinator

variable {σ : Type} (c : Coordinator σ)

/-- Each of the names below a path, followed by what `visit` finds below it. -/
def belowEach (visit : String → Action σ (List String)) (path : String) :
    List String → Action σ (List String)
  | [] => pure []
  | name :: rest => do
    let child := childPath path name
    let inner ← visit child
    let others ← belowEach visit path rest
    pure (child :: inner ++ others)

/-- The paths below a node, down to a depth, in ascending order of the names. -/
def below : (depth : Nat) → (path : String) → Action σ (List String)
  | 0, _ => pure []
  | depth + 1, path => do
    let names ← c.children path
    belowEach (below depth) path (names.mergeSort (· ≤ ·))

/-- Removes the nodes with the given paths, one after another. -/
def deleteEach : List String → Action σ Removal
  | [] => pure .none
  | path :: rest => do
    let outcome ← (c.delete path).attempt
    let others ← deleteEach rest
    match outcome with
    | .ok _ => pure (.append ⟨[path], []⟩ others)
    | .error _ => pure (.append ⟨[], [path]⟩ others)

/-- The path of a node without the name of the service in front of it. -/
def rootPath (path : String) : String := (stripPrefix? "zk:" path).getD path

/-- Removes a node with everything below it. -/
def removeTree (path : String) : Action σ Removal := do
  let s ← Action.get
  let nodes ← c.below (c.depth s) (rootPath path)
  c.deleteEach (nodes.reverse ++ [rootPath path])

end Coordinator

end ClusterPackages
