import ClusterPackages.Action
import ClusterPackages.Cluster.App
import ClusterPackages.Cluster.State

namespace ClusterPackages

open Text

/-!
# Services

The four services that the package manager drives.  Each is a record of actions on a state `σ`,
so what the manager does is defined once for every way of reaching them.

* `Store` — the key-value store.
* `Scheduler` — runs apps.
* `Resources` — the resource manager, with which frameworks register.
* `Coordinator` — a tree of nodes.
-/

/-- The key-value store. -/
structure Store (σ : Type) where
  /-- The value at a key, if there is one. -/
  get : String → Action σ (Option Bytes)
  /-- Sets the value at a key. -/
  put : String → Bytes → Action σ Unit
  /-- The keys that start with a text.  With a separator, a key is cut after the first one that
      follows the text, and equal results count once. -/
  keys : String → Option String → Action σ (List String)
  /-- The keys that start with a text, with their values. -/
  list : String → Action σ (List (String × Bytes))
  /-- Removes a key. -/
  delete : String → Action σ Unit

/-- Whether there is a value at a key. -/
def Store.contains {σ : Type} (s : Store σ) (key : String) : Action σ Bool := do
  let value ← s.get key
  pure value.isSome

/-- The scheduler. -/
structure Scheduler (σ : Type) where
  /-- All its apps. -/
  apps : Action σ (List App)
  /-- Submits a new app; the answer of the scheduler. -/
  create : App → Action σ String
  /-- Removes the app with an id; the answer of the scheduler. -/
  destroy : String → Action σ String

/-- The resource manager. -/
structure Resources (σ : Type) where
  /-- Its state. -/
  state : Action σ ClusterState
  /-- Shuts down the framework with an id. -/
  teardown : String → Action σ Unit

/-- The coordination service. -/
structure Coordinator (σ : Type) where
  /-- The names of the nodes right below a path. -/
  children : String → Action σ (List String)
  /-- Removes a node that has nothing below it. -/
  delete : String → Action σ Unit
  /-- A bound on the length of a chain of nodes, each right below the one before. -/
  depth : σ → Nat

/-- All four services. -/
structure Services (σ : Type) where
  /-- The key-value store. -/
  store : Store σ
  /-- The scheduler. -/
  scheduler : Scheduler σ
  /-- The resource manager. -/
  resources : Resources σ
  /-- The coordination service. -/
  coordinator : Coordinator σ

end ClusterPackages
