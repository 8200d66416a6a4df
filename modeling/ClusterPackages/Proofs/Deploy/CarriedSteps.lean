import ClusterPackages.Proofs.Deploy.Recomputation

namespace ClusterPackages

/-!
# The cleanup steps that an app carries

The steps are rendered when the app is built, and are read again when it is removed.  Between the
two the store, the platform and the catalog may have become anything.

* `Manager.clearPath`, `Manager.removeTrees_eq` — subtrees are removed one by one, and all that is
  reported about them is put together.
* `Call.toStore`, `World.StoreAside` — the calls to the store, and that there are none among those
  that a run makes.
* `Manager.teardownFramework_closed` — the framework step is composed from two calls to the resource
  manager.
* `Manager.uninstallApp_carried` — an app that was built takes with it what the steps name that were
  rendered then.
-/

/-- Whether a call goes to the key-value store. -/
def Call.toStore : Call → Bool
  | .get _ | .put _ | .keys _ | .list _ | .delete _ => true
  | _ => false

namespace World

variable {α : Type} {w v u : World}

/-- The store is the same, and no call was made to it. -/
def StoreAside (w v : World) : Prop :=
  v.store = w.store ∧ ∃ later, v.calls = w.calls ++ later ∧ ∀ c ∈ later, c.toStore = false

theorem StoreAside.refl (w : World) : StoreAside w w := ⟨rfl, [], by simp⟩

/-- If neither of two actions turns to the store, the two together do not. -/
theorem StoreAside.trans (h : StoreAside w v) (h' : StoreAside v u) : StoreAside w u := by
  obtain ⟨hstore, later, hcalls, hlater⟩ := h
  obtain ⟨hstore', later', hcalls', hlater'⟩ := h'
  refine ⟨hstore'.trans hstore, later ++ later', by rw [hcalls', hcalls, List.append_assoc], ?_⟩
  exact List.forall_mem_append.2 ⟨hlater, hlater'⟩

/-- What is composed of actions that leave the store aside leaves it aside. -/
theorem closed_storeAside : Action.Closed (Action.Moves StoreAside) :=
  Action.closed_moves StoreAside.refl fun _ _ _ => StoreAside.trans

/-- A call to another service leaves the store aside. -/
theorem StoreAside.logged {c : Call} (hc : c.toStore = false) (w : World) :
    StoreAside w (w.logged c) :=
  ⟨rfl, [c], rfl, by simpa using hc⟩

/-- A call to another service leaves the store aside if it changes neither store nor calls. -/
theorem guarded_storeAside {c : Call} {act : Action World α} (hc : c.toStore = false)
    (hact : ∀ w, (act w).2.store = w.store ∧ (act w).2.calls = w.calls) :
    Action.Moves StoreAside (guarded c act) := by
  refine moves_guarded (StoreAside.logged hc) fun w => (StoreAside.logged hc w).trans ?_
  exact ⟨(hact _).1, [], by rw [(hact _).2, List.append_nil], by simp⟩

/-- Destroying an app leaves the store aside. -/
theorem destroy_storeAside (id : String) :
    Action.Moves StoreAside (schedulerService.destroy id) :=
  guarded_storeAside rfl fun w => by
    split
    · exact ⟨rfl, rfl⟩
    · exact ⟨rfl, rfl⟩

theorem children_storeAside (path : String) :
    Action.Moves StoreAside (coordinatorService.children path) :=
  guarded_storeAside rfl fun w => by
    rw [childNames]
    split
    · exact ⟨rfl, rfl⟩
    · split
      · exact ⟨rfl, rfl⟩
      · exact ⟨rfl, rfl⟩

theorem delete_storeAside (path : String) :
    Action.Moves StoreAside (coordinatorService.delete path) :=
  guarded_storeAside rfl fun w => by
    rw [deleteNode]
    split
    · exact ⟨rfl, rfl⟩
    · split
      · exact ⟨rfl, rfl⟩
      · exact ⟨rfl, rfl⟩

end World

namespace Manager

variable {σ : Type} {m m' : Manager σ} {a : App} {d : Definition}

/-! ### What removing an app is composed from -/

/-- Removes the subtree at a path, and ends with what is reported about it. -/
def clearPath (m : Manager σ) (path : String) : Action σ Removal := do
  let outcome ← (m.services.coordinator.removeTree path).attempt
  pure (Removal.ofOutcome path outcome)

/-- Clearing paths is clearing each of them and putting the reports one after another. -/
theorem removeTrees_eq (m : Manager σ) (paths : List String) :
    m.removeTrees paths = (do
      let removals ← paths.mapM m.clearPath
      pure ⟨removals.flatMap (·.deleted), removals.flatMap (·.failed)⟩) := by
  induction paths with
  | nil => rfl
  | cons path rest ih =>
    rw [removeTrees_cons, ih]
    simp only [List.mapM_cons, clearPath, bind_assoc, pure_bind]
    rfl

/-- The framework step hangs on the resource manager only. -/
theorem teardownFramework_congr (h : m.services.resources = m'.services.resources) (a : App) :
    m.teardownFramework a = m'.teardownFramework a := by
  unfold teardownFramework
  rw [h]

/-- What clears a path is the coordination service alone. -/
theorem clearPath_congr (h : m.services.coordinator = m'.services.coordinator) :
    m.clearPath = m'.clearPath := by
  unfold clearPath
  rw [h]

/-- The shutdown of a framework has every closed property of the resource manager's calls. -/
theorem teardownFramework_closed {P : ∀ ⦃α : Type⦄, Action σ α → Prop} (hP : Action.Closed P)
    (hstate : P m.services.resources.state)
    (hteardown : ∀ id, P (m.services.resources.teardown id)) (a : App) :
    P (m.teardownFramework a) := by
  unfold teardownFramework
  split
  · exact hP.pure _
  · refine hP.bind hstate fun state => ?_
    split
    · exact hP.pure _
    · exact hP.bind (hteardown _) fun _ => hP.pure _
    · exact hP.fail _

/-! ### Removing an app that was built -/

/-- After the removal of a labelled app, the paths of its release are cleared, and nothing is asked
    of the store for that. -/
theorem cleanUp_eq (h : a.Carries d) (m : Manager σ) : m.cleanUp a = m.removeTrees d.clearedPaths :=
  funext (cleanUp_carried h)

/-- The removal of an app that carries the steps of a release, when they name the paths. -/
theorem uninstallApp_eq {steps : String} (h : a.Carries d) (hsteps : d.uninstall = .ok steps)
    (m : Manager σ) :
    m.uninstallApp a = (do
      let _ ← m.services.scheduler.destroy a.id
      let outcome ← (m.teardownFramework a).attempt
      let removals ← (CleanupSpec.paths (CleanupSpec.parse steps).toOption).mapM m.clearPath
      let framework ← Action.ofExcept outcome
      pure ⟨a.id, framework, removals.flatMap (·.deleted), removals.flatMap (·.failed)⟩) := by
  rw [uninstallApp, cleanUp_eq h, removeTrees_eq, Definition.clearedPaths_eq hsteps]
  simp only [bind_assoc, pure_bind]

/-- The removal of a labelled app leaves the store aside. -/
theorem uninstallApp_storeAside (h : a.Carries d) (k : Keyspace) (p : Platform) :
    Action.Moves World.StoreAside ((World.manager k p).uninstallApp a) := by
  have hR := World.closed_storeAside
  rw [uninstallApp, cleanUp_eq h]
  refine hR.bind (World.destroy_storeAside _) fun _ => hR.bind (hR.attempt ?_) fun _ =>
    hR.bind (removeTrees_closed hR ?_ _) fun _ => hR.bind (hR.ofExcept _) fun _ => hR.pure _
  · exact teardownFramework_closed hR (World.guarded_storeAside rfl fun _ => ⟨rfl, rfl⟩)
      (fun _ => World.guarded_storeAside rfl fun _ => ⟨rfl, rfl⟩) a
  · exact Coordinator.removeTree_moves hR World.StoreAside.refl World.children_storeAside
      World.delete_storeAside

/-- **The cleanup steps that an app carries.**  Let an app be built for a request, from any store
    and for any platform.  Its release renders to some steps.  Whenever and wherever the app is
    removed, the subtrees at the paths that these steps name are removed in their order, after the
    app and its framework; none are if the steps cannot be read.  So neither the store nor the keys
    nor the platform of that time have a say, and in a world in memory no call is made to the
    store. -/
theorem uninstallApp_carried {m₀ : Manager σ} {s₀ : σ} {r : Request}
    (hbuild : (m₀.buildApp r s₀).1 = .ok (d, a)) :
    ∃ steps, d.uninstall = .ok steps ∧
      let paths := match CleanupSpec.parse steps with
        | .ok spec => spec.always
        | .error _ => []
      (∀ {τ : Type} (m : Manager τ), m.uninstallApp a = (do
        let _ ← m.services.scheduler.destroy a.id
        let outcome ← (m.teardownFramework a).attempt
        let removals ← paths.mapM m.clearPath
        let framework ← Action.ofExcept outcome
        pure ⟨a.id, framework, removals.flatMap (·.deleted), removals.flatMap (·.failed)⟩)) ∧
      (∀ {τ : Type} (m m' : Manager τ), m.services.scheduler = m'.services.scheduler →
        m.services.resources = m'.services.resources →
        m.services.coordinator = m'.services.coordinator → m.uninstallApp a = m'.uninstallApp a) ∧
      ∀ (k : Keyspace) (p : Platform) (w : World),
        w.StoreAside ((World.manager k p).uninstallApp a w).2 := by
  have hcarries : a.Carries d := Definition.app_carries (app_of_buildApp hbuild)
  obtain ⟨steps, hsteps, -⟩ := hcarries.cleanup
  -- No steps that can be read are no paths, on either side.
  have hpaths : CleanupSpec.paths (CleanupSpec.parse steps).toOption =
      match CleanupSpec.parse steps with
        | .ok spec => spec.always
        | .error _ => [] := by
    cases CleanupSpec.parse steps with
    | ok spec => rfl
    | error e => rfl
  refine ⟨steps, hsteps, fun m => ?_, fun m m' hscheduler hresources hcoordinator => ?_,
    fun k p w => uninstallApp_storeAside hcarries k p w⟩
  · rw [uninstallApp_eq hcarries hsteps, hpaths]
  · rw [uninstallApp_eq hcarries hsteps, uninstallApp_eq hcarries hsteps, hscheduler,
      teardownFramework_congr hresources, clearPath_congr hcoordinator]

/-- An app is removed when the store is empty and can be reached no more. -/
theorem uninstallApp_carried_broker :
    let m := World.manager ⟨"r", "a"⟩ .empty
    ∃ d a, (m.buildApp requestBroker brokerWorld).1 = .ok (d, a) ∧
      let w := { brokerWorld with store := ∅, apps := [a], fails := fun _ c => c.toStore }
      w.StoreAside (m.uninstallApp a w).2 ∧
        (m.uninstallApp a w).1 = .ok ⟨"/k", .notAFramework, ["/kafka/brokers", "/kafka"], []⟩ := by
  intro m
  have hany : (m.buildApp requestBroker brokerWorld).1.toOption.any (fun built =>
      (m.uninstallApp built.2 { brokerWorld with
        store := ∅, apps := [built.2], fails := fun _ c => c.toStore }).1.toOption.any
        (· == ⟨"/k", .notAFramework, ["/kafka/brokers", "/kafka"], []⟩)) = true := by
    decide +kernel
  obtain ⟨⟨d, a⟩, hbuild, hremoved⟩ := Action.exists_ok_of_any hany
  obtain ⟨report, hreport, hexpected⟩ := Action.exists_ok_of_any hremoved
  obtain ⟨steps, -, -, -, haside⟩ := uninstallApp_carried hbuild
  rw [beq_iff_eq.1 hexpected] at hreport
  exact ⟨d, a, hbuild, haside _ _ _, hreport⟩

end Manager

end ClusterPackages
