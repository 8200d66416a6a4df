import ClusterPackages.Table
import ClusterPackages.Text.Affix

namespace ClusterPackages

open Text

/-!
# Trees of nodes

The nodes of the coordination service, by their paths.

* `NodeTree.insertPath` — adds a node and all nodes above it.
* `NodeTree.children?` — the names right below a node.
* `NodeTree.delete` — removes a node that has nothing below it.
-/

/-- The path of a node right below another one. -/
def childPath (parent child : String) : String :=
  if parent.toList.getLast? = some '/' then parent ++ child else parent ++ "/" ++ child

/-- Nodes, by their paths. -/
structure NodeTree where
  /-- The paths of the nodes. -/
  nodes : Table Unit

/-- Why a node cannot be removed. -/
inductive NodeFault where
  /-- There is no such node. -/
  | missing
  /-- There are nodes below it. -/
  | occupied
deriving DecidableEq, Repr

namespace NodeTree

/-- The tree without nodes. -/
def empty : NodeTree := ⟨∅⟩

/-- Whether there is a node with the path. -/
def contains (t : NodeTree) (path : String) : Bool := t.nodes.contains path

/-- Adds the node at each of the names in turn, below the node before it. -/
def insertBelow (t : NodeTree) (parent : String) : List String → NodeTree
  | [] => t
  | name :: rest =>
    let path := parent ++ "/" ++ name
    insertBelow ⟨t.nodes.insert path ()⟩ path rest

/-- The tree with a node at the path and at every path above it; empty names do not count. -/
def insertPath (t : NodeTree) (path : String) : NodeTree :=
  t.insertBelow "" ((segments '/' path).filter fun name => !name.isEmpty)

/-- The tree with nodes at the paths and at every path above them. -/
def ofPaths (paths : List String) : NodeTree := paths.foldl insertPath empty

/-- Whether a path below a node is the name of a node right below it. -/
def isName (rest : String) : Bool := !rest.isEmpty && !rest.toList.contains '/'

/-- The names right below a path, in ascending order. -/
def below (t : NodeTree) (path : String) : List String :=
  (t.nodes.keys.filterMap (stripPrefix? (childPath path ""))).filter isName

/-- The names right below a node.  The root is always there. -/
def children? (t : NodeTree) (path : String) : Option (List String) :=
  if path = "/" || t.contains path then some (t.below path) else none

/-- The tree without a node, which must have nothing below it. -/
def delete (t : NodeTree) (path : String) : Except NodeFault NodeTree :=
  if !t.contains path then .error .missing
  else if (t.below path).isEmpty then .ok ⟨t.nodes.erase path⟩
  else .error .occupied

end NodeTree

end ClusterPackages
