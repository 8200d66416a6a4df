import ClusterPackages.Cluster.Subtree
import ClusterPackages.Proofs.Action

namespace ClusterPackages.Coordinator

/-!
# What removing subtrees keeps

The removal of a subtree is composed from the two calls to the coordination service, and from a
bound on the depth of the tree.
-/

variable {σ : Type} {c : Coordinator σ}

section

variable {P : ∀ ⦃α : Type⦄, Action σ α → Prop} (hP : Action.Closed P)

include hP

/-- What is composed of visits to the children has every closed property of the visits. -/
theorem belowEach_closed {visit : String → Action σ (List String)} (hvisit : ∀ path, P (visit path))
    (path : String) (names : List String) : P (belowEach visit path names) := by
  induction names with
  | nil => exact hP.pure _
  | cons name rest ih => exact hP.bind (hvisit _) fun _ => hP.bind ih fun _ => hP.pure _

/-- The walk through a subtree has every closed property of the listings. -/
theorem below_closed (hchildren : ∀ path, P (c.children path)) (depth : Nat) (path : String) :
    P (c.below depth path) := by
  induction depth generalizing path with
  | zero => exact hP.pure _
  | succ depth ih => exact hP.bind (hchildren path) fun _ => belowEach_closed hP ih path _

/-- Deleting nodes one after another has every closed property of one deletion. -/
theorem deleteEach_closed (hdelete : ∀ path, P (c.delete path)) (paths : List String) :
    P (c.deleteEach paths) := by
  induction paths with
  | nil => exact hP.pure _
  | cons path rest ih =>
    refine hP.bind (hP.attempt (hdelete path)) fun outcome => hP.bind ih fun others => ?_
    cases outcome with
    | ok _ => exact hP.pure _
    | error _ => exact hP.pure _

end

variable {R : σ → σ → Prop}

/-- The removal of a subtree moves the state only as its listings and its deletions do. -/
theorem removeTree_moves (hR : Action.Closed (Action.Moves R)) (hrefl : ∀ s, R s s)
    (hchildren : ∀ path, Action.Moves R (c.children path))
    (hdelete : ∀ path, Action.Moves R (c.delete path)) (path : String) :
    Action.Moves R (c.removeTree path) :=
  hR.bind hrefl fun _ =>
    hR.bind (below_closed hR hchildren _ _) fun _ => deleteEach_closed hR hdelete _

/-- The removal of a subtree cannot tell states apart that neither its listings nor its deletions
    can. -/
theorem removeTree_respects (hdepth : ∀ s t, R s t → c.depth s = c.depth t)
    (hchildren : ∀ path, Action.Respects R (c.children path))
    (hdelete : ∀ path, Action.Respects R (c.delete path)) (path : String) :
    Action.Respects R (c.removeTree path) := by
  have hR : Action.Closed (Action.Respects R) := Action.closed_respects R
  refine Action.get_respects ?_ fun s => ?_
  · intro s t h
    rw [hdepth s t h]
  · exact hR.bind (below_closed hR hchildren _ _) fun _ => deleteEach_closed hR hdelete _

end ClusterPackages.Coordinator
