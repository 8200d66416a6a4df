import ClusterPackages.Cluster.World
import ClusterPackages.Deploy.Manager
import ClusterPackages.Proofs.Action

namespace ClusterPackages

/-!
# What calls do to a world in memory

* `World.manager` — the package manager over worlds in memory.
* `World.holding` — the world with nothing in it but a store.
* `World.logged`, `World.asked`, `World.without` — the world after a call, after several calls, and
  after the removal of an app.
* `guarded_ok`, `guarded_error` — a call takes place unless the plan makes it fail; then nothing
  but the record of calls changes.
* `Unchanged` — nothing but the record of calls differs; `Asked` — it has grown.
* `Cleared` — besides, nodes were removed.
* `moves_guarded`, `respects_guarded` — what a call keeps if its answer keeps it.
-/

/-- The key that a call asks to remove. -/
def Call.deletedKey? : Call → Option String
  | .delete key => some key
  | _ => none

namespace World

variable {α : Type} {w w' v v' : World}

/-- The package manager over worlds in memory. -/
abbrev manager (k : Keyspace) (p : Platform) : Manager World := ⟨services, k, p⟩

/-- The world with nothing in it but a store, in which no call fails. -/
def holding (store : Table Text.Bytes) : World where
  store := store
  apps := []
  state := .empty
  coordination := .tree .empty
  fails := fun _ _ => false
  calls := []
  events := []

/-- The world with one more call on record. -/
def logged (c : Call) (w : World) : World := { w with calls := w.calls ++ [c] }

/-- The world with several more calls on record. -/
def asked (calls : List Call) (w : World) : World := { w with calls := w.calls ++ calls }

/-- The world after the apps with the id have been removed. -/
def without (id : String) (w : World) : World :=
  record (.destroyed id) { w with apps := w.apps.filter (·.id != id) }

/-! ### One call -/

/-- A call that does not fail takes place, with the call on record. -/
theorem guarded_ok {c : Call} (act : Action World α) (h : w.fails w.calls c = false) :
    guarded c act w = act (w.logged c) := by
  simp only [guarded, h]
  rfl

/-- A call that fails changes nothing but the record of calls. -/
theorem guarded_error {c : Call} (act : Action World α) (h : w.fails w.calls c = true) :
    guarded c act w = (.error (c.error (.status 503 none)), w.logged c) := by
  simp only [guarded, h]
  rfl

/-- A listing that does not fail gives all entries whose keys start with the text. -/
theorem list_ok {start : String} (h : w.fails w.calls (.list start) = false) :
    storeService.list start w =
      (.ok (w.store.entries.filter fun e => Text.startsWith start e.1), w.logged (.list start)) := by
  simp only [storeService, guarded, h]
  rfl

/-- A listing that fails gives nothing and is on record. -/
theorem list_error {start : String} (h : w.fails w.calls (.list start) = true) :
    storeService.list start w =
      (.error ((Call.list start).error (.status 503 none)), w.logged (.list start)) := by
  simp only [storeService, guarded, h]
  rfl

/-- The apps are listed if the call does not fail. -/
theorem apps_ok (h : w.fails w.calls .apps = false) :
    schedulerService.apps w = (.ok w.apps, w.logged .apps) := by
  simp only [schedulerService, guarded, h]
  rfl

/-- A listing of the apps that fails is on record. -/
theorem apps_error (h : w.fails w.calls .apps = true) :
    schedulerService.apps w = (.error (Call.apps.error (.status 503 none)), w.logged .apps) := by
  simp only [schedulerService, guarded, h]
  rfl

/-- The world after an app has been submitted. -/
def withApp (a : App) (w : World) : World :=
  record (.created a) { w with apps := w.apps ++ [a] }

/-- An app is submitted, or the call fails, or there is an app with its id. -/
theorem create_cases (a : App) (w : World) :
    (∃ answer, schedulerService.create a w = (.ok answer, (w.logged (.create a.id)).withApp a) ∧
      w.apps.any (·.id == a.id) = false) ∨
    ∃ e, schedulerService.create a w = (.error e, w.logged (.create a.id)) ∧
      (w.fails w.calls (.create a.id) = true ∨ w.apps.any (·.id == a.id) = true) := by
  cases hfails : w.fails w.calls (.create a.id) with
  | true =>
    refine .inr ⟨(Call.create a.id).error (.status 503 none), ?_, .inl rfl⟩
    simp only [schedulerService, guarded, hfails]
    rfl
  | false =>
    cases hany : w.apps.any (·.id == a.id) with
    | true =>
      refine .inr ⟨.alreadyInstalled a.id, ?_, .inr rfl⟩
      simp only [schedulerService, guarded, hfails, hany]
      rfl
    | false =>
      refine .inl ⟨"created " ++ a.id, ?_, rfl⟩
      simp only [schedulerService, guarded, hfails, hany]
      rfl

/-- Destroying an app that is there removes it if the call does not fail. -/
theorem destroy_ok {id : String} (h : w.fails w.calls (.destroy id) = false)
    (hthere : ∃ a ∈ w.apps, a.id = id) :
    schedulerService.destroy id w = (.ok "\x7b\x7d", (w.logged (.destroy id)).without id) := by
  obtain ⟨a, ha, rfl⟩ := hthere
  have hany : (w.logged (.destroy a.id)).apps.any (·.id == a.id) = true :=
    List.any_eq_true.mpr ⟨a, ha, beq_self_eq_true a.id⟩
  simp only [schedulerService, guarded, h]
  exact if_pos hany

/-- Destroying an app that is not there fails with status 404 and changes nothing. -/
theorem destroy_absent {id : String} (h : w.fails w.calls (.destroy id) = false)
    (habsent : ∀ a ∈ w.apps, a.id ≠ id) :
    schedulerService.destroy id w =
      (.error ((Call.destroy id).error (.status 404 none)), w.logged (.destroy id)) := by
  have hany : ¬ (w.logged (.destroy id)).apps.any (·.id == id) = true := by
    simpa [logged] using habsent
  simp only [schedulerService, guarded, h]
  exact if_neg hany

/-- A destruction that fails leaves the apps as they are. -/
theorem destroy_error {id : String} (h : w.fails w.calls (.destroy id) = true) :
    schedulerService.destroy id w =
      (.error ((Call.destroy id).error (.status 503 none)), w.logged (.destroy id)) := by
  simp only [schedulerService, guarded, h]
  rfl

/-- The state of the cluster is given if the call does not fail. -/
theorem state_ok (h : w.fails w.calls .state = false) :
    resourcesService.state w = (.ok w.state, w.logged .state) := by
  simp only [resourcesService, guarded, h]
  rfl

/-- A call for the state that fails is on record. -/
theorem state_error (h : w.fails w.calls .state = true) :
    resourcesService.state w =
      (.error (Call.state.error (.status 503 none)), w.logged .state) := by
  simp only [resourcesService, guarded, h]
  rfl

/-- A framework is shut down if the call does not fail, whether or not it is known. -/
theorem teardown_ok {id : String} (h : w.fails w.calls (.teardown id) = false) :
    resourcesService.teardown id w =
      (.ok (), record (.tornDown id) (w.logged (.teardown id))) := by
  simp only [resourcesService, guarded, h]
  rfl

/-- A shutdown that fails changes nothing but the record of calls. -/
theorem teardown_error {id : String} (h : w.fails w.calls (.teardown id) = true) :
    resourcesService.teardown id w =
      (.error ((Call.teardown id).error (.status 503 none)), w.logged (.teardown id)) := by
  simp only [resourcesService, guarded, h]
  rfl

/-! ### Relations between worlds -/

/-- Nothing but the record of calls differs. -/
def Unchanged (w w' : World) : Prop := ∃ calls, w' = { w with calls := calls }

theorem Unchanged.refl (w : World) : Unchanged w w := ⟨w.calls, rfl⟩

/-- A call on record leaves everything else unchanged. -/
theorem Unchanged.logged (c : Call) (w : World) : Unchanged w (w.logged c) := ⟨_, rfl⟩

theorem Unchanged.trans (h : Unchanged w v) (h' : Unchanged v w') : Unchanged w w' := by
  obtain ⟨calls, rfl⟩ := h
  obtain ⟨calls', rfl⟩ := h'
  exact ⟨calls', rfl⟩

/-- Nothing has happened but more calls, none of which asks for the removal of a key. -/
def Asked (w w' : World) : Prop :=
  ∃ later, later.filterMap Call.deletedKey? = [] ∧ w' = { w with calls := w.calls ++ later }

theorem Asked.refl (w : World) : Asked w w := ⟨[], rfl, by rw [List.append_nil]⟩

/-- A call that removes no key is one more call on record and nothing else. -/
theorem Asked.logged {c : Call} (hc : c.deletedKey? = none) (w : World) : Asked w (w.logged c) :=
  ⟨[c], List.filterMap_cons_none hc, rfl⟩

theorem Asked.trans (h : Asked w v) (h' : Asked v w') : Asked w w' := by
  obtain ⟨later, hlater, rfl⟩ := h
  obtain ⟨later', hlater', rfl⟩ := h'
  refine ⟨later ++ later', ?_, by rw [List.append_assoc]⟩
  rw [List.filterMap_append, hlater, hlater']
  rfl

/-- More calls on record leave everything else unchanged. -/
theorem Asked.unchanged (h : Asked w w') : Unchanged w w' := by
  obtain ⟨later, -, rfl⟩ := h
  exact ⟨w.calls ++ later, rfl⟩

/-- Nothing differs but the nodes of the coordination service, the nodes at `paths` having been
    removed in that order, and the record of calls. -/
def ClearedOf (paths : List String) (w w' : World) : Prop :=
  ∃ calls nodes, w' = { w with
    calls := calls, coordination := nodes, events := w.events ++ paths.map .nodeDeleted }

/-- Nothing differs but the nodes of the coordination service, some having been removed, and the
    record of calls. -/
def Cleared (w w' : World) : Prop := ∃ paths, ClearedOf paths w w'

/-- Where nothing has changed, no node has been removed. -/
theorem Unchanged.cleared (h : Unchanged w w') : Cleared w w' := by
  obtain ⟨calls, rfl⟩ := h
  exact ⟨[], calls, w.coordination, by simp⟩

theorem Cleared.refl (w : World) : Cleared w w := (Unchanged.refl w).cleared

theorem Cleared.trans (h : Cleared w v) (h' : Cleared v w') : Cleared w w' := by
  obtain ⟨paths, calls, nodes, rfl⟩ := h
  obtain ⟨paths', calls', nodes', rfl⟩ := h'
  exact ⟨paths ++ paths', calls', nodes', by simp⟩

/-- What is composed of actions that only ask is an action that only asks. -/
theorem closed_asked : Action.Closed (Action.Moves Asked) :=
  Action.closed_moves Asked.refl fun _ _ _ => Asked.trans

/-- What is composed of actions that only remove nodes is such an action. -/
theorem closed_cleared : Action.Closed (Action.Moves Cleared) :=
  Action.closed_moves Cleared.refl fun _ _ _ => Cleared.trans

/-! ### What a call keeps -/

/-- What holds of every call on record, and of what happens once the call is on record, holds of
    the call. -/
theorem moves_guarded {R : World → World → Prop} {c : Call} {act : Action World α}
    (hlogged : ∀ w, R w (w.logged c)) (hact : ∀ w, R w (act (w.logged c)).2) :
    Action.Moves R (guarded c act) := by
  intro w
  cases h : w.fails w.calls c with
  | true =>
    rw [guarded_error _ h]
    exact hlogged w
  | false =>
    rw [guarded_ok _ h]
    exact hact w

/-- A call goes alike in two related worlds if it fails in both or in neither, and goes on
    alike. -/
theorem respects_guarded {R : World → World → Prop} {c : Call} {act : Action World α}
    (hfails : ∀ w v, R w v → w.fails w.calls c = v.fails v.calls c)
    (hlogged : ∀ w v, R w v → R (w.logged c) (v.logged c)) (hact : Action.Respects R act) :
    Action.Respects R (guarded c act) := by
  intro w v hR
  cases h : w.fails w.calls c with
  | true =>
    rw [guarded_error _ h, guarded_error _ (hfails w v hR ▸ h)]
    exact ⟨rfl, hlogged w v hR⟩
  | false =>
    rw [guarded_ok _ h, guarded_ok _ (hfails w v hR ▸ h)]
    exact hact _ _ (hlogged w v hR)

/-- Reading a key only asks. -/
theorem get_asked (key : String) : Action.Moves Asked (storeService.get key) :=
  moves_guarded (Asked.logged rfl) (Asked.logged rfl)

/-- Listing keys only asks. -/
theorem keys_asked (start : String) (separator : Option String) :
    Action.Moves Asked (storeService.keys start separator) :=
  moves_guarded (Asked.logged rfl) (Asked.logged rfl)

/-- Reading a key changes nothing. -/
theorem get_unchanged (key : String) : Action.Moves Unchanged (storeService.get key) :=
  fun w => (get_asked key w).unchanged

/-- Listing keys changes nothing. -/
theorem keys_unchanged (start : String) (separator : Option String) :
    Action.Moves Unchanged (storeService.keys start separator) :=
  fun w => (keys_asked start separator w).unchanged

/-- The names right below a path are found without a change, with or without a service that can be
    reached. -/
theorem childNames_unchanged (path : String) : Action.Moves Unchanged (childNames path) := by
  intro w
  rw [childNames]
  split
  · exact Unchanged.refl w
  · split
    · exact Unchanged.refl w
    · exact Unchanged.refl w

/-- Listing children changes nothing. -/
theorem children_unchanged (path : String) :
    Action.Moves Unchanged (coordinatorService.children path) :=
  moves_guarded (Unchanged.logged _) fun w =>
    (Unchanged.logged _ w).trans (childNames_unchanged path _)

/-- The removal of a node changes nothing but that node. -/
theorem deleteNode_cleared (path : String) : Action.Moves Cleared (deleteNode path) := by
  intro w
  rw [deleteNode]
  split
  · exact Cleared.refl w
  · split
    · exact ⟨[path], w.calls, _, rfl⟩
    · exact Cleared.refl w

/-- A call to remove a node changes nothing but that node and the record of calls. -/
theorem delete_cleared (path : String) : Action.Moves Cleared (coordinatorService.delete path) :=
  moves_guarded (fun w => (Unchanged.logged _ w).cleared) fun w =>
    (Unchanged.logged _ w).cleared.trans (deleteNode_cleared path _)

end World

end ClusterPackages
