import ClusterPackages.Deploy.Uninstall
import ClusterPackages.Proofs.Catalog.Reads
import ClusterPackages.Proofs.Cluster.Subtree
import ClusterPackages.Proofs.Cluster.World

namespace ClusterPackages

/-!
# Clearing nodes

What happens in the coordination service after an app has been removed.

* `Manager.removeTrees_cons` — subtrees are removed one after another, and what becomes of each is
  reported (`Removal.ofOutcome`).
* `Manager.cleanUp_closed` — clearing is composed from reads of the store and removals of subtrees.
* `Manager.cleanUp_succeeds` — it never ends with an error.
* `Manager.cleanUp_cleared` — in a world in memory, nothing but nodes is removed.
* `World.ClearsAlike` — worlds that clearing cannot tell apart: store and nodes are the same, and
  calls fail alike from now on, those to the resource manager aside.
* `Manager.cleanUp_alike` — in such worlds the same nodes are removed, in the same order.
-/

/-- What is reported when the removal of the subtree at a path has ended: the path itself stands for
    a subtree that could not be listed. -/
def Removal.ofOutcome (path : String) : Except Error Removal → Removal
  | .ok removal => removal
  | .error _ => ⟨[], [path]⟩

namespace Manager

variable {σ : Type} {m : Manager σ}

/-- The first path is cleared before the others, which are cleared whatever becomes of it. -/
theorem removeTrees_cons (path : String) (rest : List String) :
    m.removeTrees (path :: rest) = (do
      let outcome ← (m.services.coordinator.removeTree path).attempt
      let others ← m.removeTrees rest
      pure ((Removal.ofOutcome path outcome).append others)) := by
  rw [removeTrees]
  congr 1
  funext outcome
  cases outcome with
  | ok removal => rfl
  | error e => rfl

section

variable {P : ∀ ⦃α : Type⦄, Action σ α → Prop} (hP : Action.Closed P)
  (hget : ∀ key, P (m.services.store.get key))
  (hkeys : ∀ start separator, P (m.services.store.keys start separator))
  (htree : ∀ path, P (m.services.coordinator.removeTree path))

include hP

include hget hkeys in
/-- Reading the steps again from the catalog has every closed property of the store's reads. -/
theorem recomputeCleanup_closed (name : String) (version : Option String) :
    P (m.recomputeCleanup name version) :=
  hP.bind (resolveDefinition_closed hP hget hkeys _ _ _ _ _) fun _ =>
    hP.bind (hP.ofExcept _) fun _ => hP.ofExcept _

include hget hkeys in
/-- Finding the steps of an app has every closed property of the store's reads. -/
theorem cleanupSpec_closed (a : App) : P (m.cleanupSpec a) := by
  rw [cleanupSpec]
  split
  · split
    · exact hP.pure _
    · exact hP.pure _
  · split
    · exact hP.pure _
    · exact hP.bind (hP.attempt (recomputeCleanup_closed hP hget hkeys _ _)) fun _ => hP.pure _

include htree in
theorem removeTrees_closed (paths : List String) : P (m.removeTrees paths) := by
  induction paths with
  | nil => exact hP.pure _
  | cons path rest ih =>
    rw [removeTrees_cons]
    exact hP.bind (hP.attempt (htree path)) fun _ => hP.bind ih fun _ => hP.pure _

include hget hkeys htree in
/-- Cleaning up after an app has every closed property of the reads and of the removals it is made
    of. -/
theorem cleanUp_closed (a : App) : P (m.cleanUp a) := by
  refine hP.bind (cleanupSpec_closed hP hget hkeys a) fun spec => ?_
  cases spec with
  | none => exact hP.pure _
  | some spec => exact removeTrees_closed hP htree _

end

/-! ### Clearing never fails -/

/-- Finding the steps of an app never fails; if they cannot be found, there are none. -/
theorem cleanupSpec_succeeds (a : App) (s : σ) : Action.Succeeds (m.cleanupSpec a) s := by
  rw [cleanupSpec]
  split
  · split
    · exact Action.succeeds_pure _ s
    · exact Action.succeeds_pure _ s
  · split
    · exact Action.succeeds_pure _ s
    · exact (Action.succeeds_attempt _ s).bind fun _ => Action.succeeds_pure _ _

/-- Clearing paths never fails; what could not be cleared is part of the report. -/
theorem removeTrees_succeeds (paths : List String) (s : σ) :
    Action.Succeeds (m.removeTrees paths) s := by
  induction paths generalizing s with
  | nil => exact Action.succeeds_pure _ s
  | cons path rest ih =>
    rw [removeTrees_cons]
    exact (Action.succeeds_attempt _ s).bind fun _ => (ih _).bind fun _ => Action.succeeds_pure _ _

/-- What cannot be listed or removed is reported, and is no error. -/
theorem cleanUp_succeeds (a : App) (s : σ) : Action.Succeeds (m.cleanUp a) s := by
  refine (cleanupSpec_succeeds a s).bind fun spec => ?_
  cases spec with
  | none => exact Action.succeeds_pure _ _
  | some spec => exact removeTrees_succeeds _ _

end Manager

/-! ### In a world in memory -/

/-- Whether a call goes to the resource manager. -/
def Call.toResources : Call → Bool
  | .state | .teardown _ => true
  | _ => false

namespace World

variable {α : Type} {w v : World}

/-- Worlds that clearing cannot tell apart: store and nodes are the same, and from now on calls
    fail alike, those to the resource manager aside. -/
structure ClearsAlike (w v : World) : Prop where
  /-- The stores are the same. -/
  store : w.store = v.store
  /-- The nodes are the same. -/
  coordination : w.coordination = v.coordination
  /-- A later call fails in both or in neither. -/
  fails : ∀ (later : List Call) (c : Call), (∀ d ∈ c :: later, d.toResources = false) →
    w.fails (w.calls ++ later) c = v.fails (v.calls ++ later) c

/-- Worlds stay alike for clearing when the same call is put on record in both. -/
theorem ClearsAlike.logged {c : Call} (h : ClearsAlike w v) (hc : c.toResources = false) :
    ClearsAlike (w.logged c) (v.logged c) where
  store := h.store
  coordination := h.coordination
  fails later d hd := by
    -- The call that is now on record is one more of those that come later.
    have hlater : ∀ e ∈ d :: c :: later, e.toResources = false := by
      intro e he
      rcases List.mem_cons.mp he with rfl | he
      · exact hd e List.mem_cons_self
      · rcases List.mem_cons.mp he with rfl | he
        · exact hc
        · exact hd e (List.mem_cons_of_mem d he)
    have hfails := h.fails (c :: later) d hlater
    show w.fails (w.calls ++ [c] ++ later) d = v.fails (v.calls ++ [c] ++ later) d
    simpa only [List.append_assoc, List.singleton_append] using hfails

/-- Worlds that clearing cannot tell apart, and from which the same nodes have been removed since
    their records of changes were `e` and `f`. -/
def AlikeSince (e f : List Event) (w v : World) : Prop :=
  ClearsAlike w v ∧ ∃ paths : List String,
    w.events = e ++ paths.map .nodeDeleted ∧ v.events = f ++ paths.map .nodeDeleted

variable {e f : List Event}

/-- A call goes alike in such worlds if its answer does and it is not one to the resource
    manager. -/
theorem guarded_alike {c : Call} {act : Action World α} (hc : c.toResources = false)
    (hact : Action.Respects (AlikeSince e f) act) :
    Action.Respects (AlikeSince e f) (guarded c act) := by
  refine respects_guarded ?_ ?_ hact
  · intro w v h
    simpa only [List.append_nil] using h.1.fails [] c (by simpa using hc)
  · intro w v h
    exact ⟨h.1.logged hc, h.2⟩

/-- Reading a key goes alike in such worlds, as they have one store. -/
theorem get_alike (key : String) : Action.Respects (AlikeSince e f) (storeService.get key) :=
  guarded_alike rfl fun _ _ h => ⟨by rw [h.1.store], h⟩

theorem keys_alike (start : String) (separator : Option String) :
    Action.Respects (AlikeSince e f) (storeService.keys start separator) :=
  guarded_alike rfl fun _ _ h => ⟨by rw [h.1.store], h⟩

/-- The names right below a path are the same in such worlds. -/
theorem childNames_alike (path : String) :
    Action.Respects (AlikeSince e f) (childNames path) := by
  intro w v h
  have hnodes := h.1.coordination
  cases hw : w.coordination with
  | offline servers =>
    simp only [childNames, hw, hnodes ▸ hw]
    exact ⟨rfl, h⟩
  | tree nodes =>
    simp only [childNames, hw, hnodes ▸ hw]
    cases nodes.children? path with
    | none => exact ⟨rfl, h⟩
    | some names => exact ⟨rfl, h⟩

/-- The removal of a node goes alike in such worlds and leaves them alike. -/
theorem deleteNode_alike (path : String) :
    Action.Respects (AlikeSince e f) (deleteNode path) := by
  intro w v h
  have hnodes := h.1.coordination
  cases hw : w.coordination with
  | offline servers =>
    simp only [deleteNode, hw, hnodes ▸ hw]
    exact ⟨rfl, h⟩
  | tree nodes =>
    simp only [deleteNode, hw, hnodes ▸ hw]
    cases nodes.delete path with
    | error fault => exact ⟨rfl, h⟩
    | ok rest =>
      -- The same nodes are left in both, and both records grow by the same path.
      obtain ⟨halike, paths, hwe, hve⟩ := h
      refine ⟨rfl, ⟨halike.store, rfl, halike.fails⟩, paths ++ [path], ?_, ?_⟩
      · simp [record, hwe]
      · simp [record, hve]

/-- The removal of a subtree goes alike in such worlds and leaves them alike. -/
theorem removeTree_alike (path : String) :
    Action.Respects (AlikeSince e f) (coordinatorService.removeTree path) := by
  refine Coordinator.removeTree_respects ?_ ?_ ?_ path
  · intro w v h
    simp only [coordinatorService, h.1.coordination]
  · exact fun path => guarded_alike rfl (childNames_alike path)
  · exact fun path => guarded_alike rfl (deleteNode_alike path)

/-- The removal of a subtree changes nothing but nodes and the record of calls. -/
theorem removeTree_cleared (path : String) :
    Action.Moves Cleared (coordinatorService.removeTree path) :=
  Coordinator.removeTree_moves closed_cleared Cleared.refl
    (fun path w => (children_unchanged path w).cleared) delete_cleared path

end World

namespace Manager

variable (k : Keyspace) (p : Platform) (a : App)

/-- Clearing removes nodes and changes nothing else. -/
theorem cleanUp_cleared : Action.Moves World.Cleared ((World.manager k p).cleanUp a) :=
  cleanUp_closed World.closed_cleared (fun key w => (World.get_unchanged key w).cleared)
    (fun start separator w => (World.keys_unchanged start separator w).cleared)
    World.removeTree_cleared a

/-- In worlds that clearing cannot tell apart it removes the same nodes. -/
theorem cleanUp_alike (e f : List Event) :
    Action.Respects (World.AlikeSince e f) ((World.manager k p).cleanUp a) :=
  cleanUp_closed (Action.closed_respects _) World.get_alike World.keys_alike
    World.removeTree_alike a

end Manager

end ClusterPackages
