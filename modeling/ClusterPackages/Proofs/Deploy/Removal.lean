import ClusterPackages.Proofs.Deploy.Clearing
import ClusterPackages.Proofs.Deploy.Frameworks

namespace ClusterPackages

/-!
# The course of a removal

In a world in memory with any plan of failing calls.

* `Request.Removes` — the request removes the app: all that has to go well before and while the
  app is removed.
* `App.Stops` — the framework is shut down after the app has been removed.
* `World.SameButResources` — worlds that differ in the resource manager only.
* `Manager.uninstall_course` — what a removal changes, in order, and when it succeeds.
-/

open ClusterPackages.Action (Succeeds)

/-- Whether the request denotes the app: the name is the app's label, and the id, if one is given,
    is the app's. -/
def Request.denotes (r : Request) (a : App) : Bool :=
  a.label? Label.packageName == some r.name && r.requestedId.all fun id => a.id == normalizeId id

/-- The request removes the app from the world. -/
structure Request.Removes (r : Request) (w : World) (a : App) : Prop where
  /-- The request is valid. -/
  valid : r.validate = .ok ()
  /-- The apps can be listed. -/
  listed : w.fails w.calls .apps = false
  /-- The app is the only one that the request denotes. -/
  only : w.apps.filter r.denotes = [a]
  /-- The scheduler can remove it. -/
  removed : w.fails (w.calls ++ [.apps]) (.destroy a.id) = false

/-- The framework is shut down when the app has been removed from the world. -/
structure App.Stops (a : App) (w : World) (f : Framework) : Prop where
  /-- The state of the resource manager can be read. -/
  read : w.fails w.calls .state = false
  /-- The app names the framework, and it is the only one of that name at any stage of life. -/
  only : ∃ name, a.frameworkName? = some name ∧
    (w.state.active ++ w.state.completed ++ w.state.unregistered).filter (·.name == name) = [f]
  /-- The resource manager can shut it down. -/
  stopped : w.fails (w.calls ++ [.state]) (.teardown f.id) = false

/-- At most one framework is shut down with an app. -/
theorem App.Stops.unique {a : App} {w : World} {f g : Framework} (hf : a.Stops w f)
    (hg : a.Stops w g) : f = g := by
  obtain ⟨name, hsome, honly⟩ := hf.only
  obtain ⟨name', hsome', honly'⟩ := hg.only
  cases hsome.symm.trans hsome'
  cases honly.symm.trans honly'
  rfl

namespace World

/-- The world after an app has been found and removed. -/
def afterRemoval (a : App) (w : World) : World :=
  ((w.logged .apps).logged (.destroy a.id)).without a.id

/-- Worlds that differ in the resource manager only: its state, and which of its calls fail.  The
    other calls fail alike, and whatever became of calls to the resource manager before. -/
structure SameButResources (w v : World) : Prop where
  /-- The stores are the same. -/
  store : w.store = v.store
  /-- The apps are the same. -/
  apps : w.apps = v.apps
  /-- The nodes are the same. -/
  coordination : w.coordination = v.coordination
  /-- The same calls have been made. -/
  calls : w.calls = v.calls
  /-- A call to another service fails in both or in neither. -/
  fails : ∀ (before before' : List Call) (c : Call), c.toResources = false →
    before.filter (!·.toResources) = before'.filter (!·.toResources) →
    w.fails before c = v.fails before' c

/-- Nothing differs but the record of calls and of changes: calls to the resource manager were
    made, and the frameworks with the ids were shut down. -/
def StoppedOf (ids : List String) (w w' : World) : Prop :=
  ∃ later, (∀ c ∈ later, c.toResources = true) ∧
    w' = { w with calls := w.calls ++ later, events := w.events ++ ids.map .tornDown }

end World

namespace Manager

/-! ### Up to the removal of the app -/

/-- The apps that are selected for a request are those that it denotes. -/
theorem selected_eq (r : Request) (apps : List App) :
    selected r.name r.requestedId apps = apps.filter r.denotes := by
  unfold selected Request.denotes
  cases r.requestedId with
  | none =>
    refine List.filter_congr fun a _ => ?_
    simp [App.isOfPackage]
  | some id =>
    refine List.filter_filter.trans (List.filter_congr fun a _ => ?_)
    simp [App.isOfPackage, App.hasId, Bool.and_comm]

variable (k : Keyspace) (p : Platform) (r : Request) (w : World)

/-- If the apps can be listed, those are found that the request denotes. -/
theorem findInstalled_ok (h : w.fails w.calls .apps = false) :
    (World.manager k p).findInstalled r w = (.ok (w.apps.filter r.denotes), w.logged .apps) := by
  rw [← selected_eq]
  exact Action.bind_of_ok (World.apps_ok h)

/-- If the apps cannot be listed, nothing is found and nothing else is called. -/
theorem findInstalled_error (h : w.fails w.calls .apps = true) :
    ∃ e, (World.manager k p).findInstalled r w = (.error e, w.logged .apps) :=
  ⟨_, Action.bind_of_error (World.apps_error h)⟩

/-- If the app cannot be destroyed, its removal ends there. -/
theorem uninstallApp_error (a : App) (h : w.fails w.calls (.destroy a.id) = true) :
    ∃ e, (World.manager k p).uninstallApp a w = (.error e, w.logged (.destroy a.id)) :=
  ⟨_, Action.bind_of_error (World.destroy_error h)⟩

/-- Either the request removes an app, or it ends with an error and has changed nothing. -/
theorem uninstall_cases :
    let m := World.manager k p
    (∃ a, r.Removes w a ∧ m.uninstall r w = m.uninstallApp a (w.logged .apps)) ∨
      (¬ ∃ a, r.Removes w a) ∧ (∃ e, (m.uninstall r w).1 = .error e) ∧
        w.Unchanged (m.uninstall r w).2 := by
  intro m
  cases hvalid : r.validate with
  | error e =>
    -- An invalid request is refused before any call is made.
    have hrun : m.uninstall r w = (.error e, w) :=
      Action.bind_of_error (by rw [hvalid]; rfl)
    refine .inr ⟨?_, ⟨e, by rw [hrun]⟩, by rw [hrun]; exact .refl w⟩
    rintro ⟨a, ha⟩
    cases hvalid.symm.trans ha.valid
  | ok u =>
    have hrun : m.uninstall r w = _ :=
      Action.bind_of_ok (x := Action.ofExcept r.validate) (by rw [hvalid]; rfl)
    cases hlist : w.fails w.calls .apps with
    | true =>
      obtain ⟨e, he⟩ := findInstalled_error k p r w hlist
      have hrun : m.uninstall r w = (.error e, w.logged .apps) :=
        hrun.trans (Action.bind_of_error he)
      refine .inr ⟨?_, ⟨e, by rw [hrun]⟩, by rw [hrun]; exact .logged _ w⟩
      rintro ⟨a, ha⟩
      cases hlist.symm.trans ha.listed
    | false =>
      rw [Action.bind_of_ok (findInstalled_ok k p r w hlist)] at hrun
      -- The apps are listed: none, one or several are denoted.
      cases hfilter : w.apps.filter r.denotes with
      | nil =>
        rw [hfilter] at hrun
        refine .inr ⟨?_, ⟨_, by rw [hrun]; rfl⟩, by rw [hrun]; exact .logged _ w⟩
        rintro ⟨a, ha⟩
        cases hfilter.symm.trans ha.only
      | cons a rest =>
        rw [hfilter] at hrun
        cases rest with
        | cons b rest =>
          refine .inr ⟨?_, ⟨_, by rw [hrun]; rfl⟩, by rw [hrun]; exact .logged _ w⟩
          rintro ⟨a', ha⟩
          cases hfilter.symm.trans ha.only
        | nil =>
          cases hdestroy : w.fails (w.calls ++ [.apps]) (.destroy a.id) with
          | false => exact .inl ⟨a, ⟨hvalid, hlist, hfilter, hdestroy⟩, hrun⟩
          | true =>
            obtain ⟨e, he⟩ := uninstallApp_error k p (w.logged .apps) a hdestroy
            replace hrun := hrun.trans he
            refine .inr ⟨?_, ⟨e, by rw [hrun]⟩, ?_⟩
            · rintro ⟨a', ha⟩
              cases hfilter.symm.trans ha.only
              cases hdestroy.symm.trans ha.removed
            · rw [hrun]
              exact (World.Unchanged.logged _ w).trans (.logged _ _)

/-! ### After the removal of the app -/

/-- Either the framework step shuts down the framework that the app stops, or the app stops none
    and nothing but the record of calls has changed. -/
theorem teardownFramework_cases (a : App) :
    let m := World.manager k p
    (∃ f, a.Stops w f ∧ (m.teardownFramework a w).2 =
      World.record (.tornDown f.id) ((w.logged .state).logged (.teardown f.id))) ∨
      (¬ ∃ f, a.Stops w f) ∧ w.StoppedOf [] (m.teardownFramework a w).2 := by
  intro m
  cases hname : a.frameworkName? with
  | none =>
    refine .inr ⟨?_, [], by decide, by rw [m.teardownFramework_none hname]; simp⟩
    rintro ⟨f, hf⟩
    obtain ⟨name, hsome, -⟩ := hf.only
    cases hname.symm.trans hsome
  | some name =>
    -- A framework that is stopped has the name that the app gives.
    have honly : ∀ f, a.Stops w f → w.state.named name = [f] := by
      intro f hf
      obtain ⟨name', hsome, honly⟩ := hf.only
      cases hname.symm.trans hsome
      exact honly
    cases hread : w.fails w.calls .state with
    | true =>
      have he := m.teardownFramework_unread hname (World.state_error hread)
      refine .inr ⟨?_, [.state], by decide, by rw [he]; simp [World.logged]⟩
      rintro ⟨f, hf⟩
      cases hread.symm.trans hf.read
    | false =>
      have hrun := m.teardownFramework_read hname (World.state_ok hread)
      cases hnamed : w.state.named name with
      | nil =>
        rw [hnamed] at hrun
        refine .inr ⟨?_, [.state], by decide, by rw [hrun]; simp [World.logged, Action.pure_apply]⟩
        rintro ⟨f, hf⟩
        cases hnamed.symm.trans (honly f hf)
      | cons f rest =>
        rw [hnamed] at hrun
        cases rest with
        | cons g rest =>
          refine .inr ⟨?_, [.state], by decide, by rw [hrun]; simp [World.logged, Action.fail]⟩
          rintro ⟨f', hf⟩
          cases hnamed.symm.trans (honly f' hf)
        | nil =>
          cases hstop : w.fails (w.calls ++ [.state]) (.teardown f.id) with
          | true =>
            replace hrun := hrun.trans
              (Action.bind_of_error (World.teardown_error (w := w.logged .state) hstop))
            refine .inr ⟨?_, [.state, .teardown f.id], by simp [Call.toResources],
              by rw [hrun]; simp [World.logged]⟩
            rintro ⟨f', hf⟩
            cases hnamed.symm.trans (honly f' hf)
            cases hstop.symm.trans hf.stopped
          | false =>
            replace hrun := hrun.trans
              (Action.bind_of_ok (World.teardown_ok (w := w.logged .state) hstop))
            exact .inl ⟨f, ⟨hread, ⟨name, hname, hnamed⟩, hstop⟩, by rw [hrun]; rfl⟩

/-- The ids of the frameworks that the framework step shuts down: one or none. -/
theorem teardownFramework_stops (a : App) :
    let m := World.manager k p
    ∃ ids, w.StoppedOf ids (m.teardownFramework a w).2 ∧ ids.length ≤ 1 ∧
      ∀ id, id ∈ ids ↔ ∃ f, a.Stops w f ∧ f.id = id := by
  intro m
  rcases teardownFramework_cases k p w a with ⟨f, hf, hrun⟩ | ⟨hno, hstopped⟩
  · refine ⟨[f.id], ⟨[.state, .teardown f.id], by simp [Call.toResources], ?_⟩, Nat.le_refl 1,
      fun id => ?_⟩
    · rw [hrun]
      simp [World.logged, World.record]
    · rw [List.mem_singleton]
      constructor
      · rintro rfl
        exact ⟨f, hf, rfl⟩
      · rintro ⟨g, hg, rfl⟩
        rw [hf.unique hg]
  · refine ⟨[], hstopped, Nat.zero_le 1, fun id => ?_⟩
    constructor
    · intro hid
      cases hid
    · rintro ⟨f, hf, -⟩
      exact absurd ⟨f, hf⟩ hno

/-- Once the app is gone, the nodes are cleared after the framework step, and the outcome is that
    of the framework step. -/
theorem uninstallApp_ok (a : App) (h : w.fails w.calls (.destroy a.id) = false)
    (hthere : ∃ b ∈ w.apps, b.id = a.id) :
    let m := World.manager k p
    let step := m.teardownFramework a ((w.logged (.destroy a.id)).without a.id)
    ∃ removal, (m.cleanUp a step.2).1 = .ok removal ∧ m.uninstallApp a w =
      (step.1.map fun outcome => ⟨a.id, outcome, removal.deleted, removal.failed⟩,
        (m.cleanUp a step.2).2) := by
  intro m step
  obtain ⟨removal, hremoval⟩ := cleanUp_succeeds (m := m) a step.2
  refine ⟨removal, hremoval, ?_⟩
  have hrun : m.uninstallApp a w = (m.cleanUp a >>= fun removal => do
      let framework ← Action.ofExcept step.1
      pure ⟨a.id, framework, removal.deleted, removal.failed⟩) step.2 :=
    Action.bind_of_ok (World.destroy_ok h hthere)
  rw [hrun, Action.bind_apply_ok hremoval]
  -- Only now does the outcome of the framework step count.
  cases step.1 with
  | ok outcome => rfl
  | error e => rfl

/-! ### The whole removal -/

variable {w}

/-- Clearing cannot tell which frameworks were shut down in two worlds that differ in the resource
    manager only. -/
theorem clearsAlike_of_stopped {a : App} {v w' v' : World} {ids ids' : List String}
    (h : w.SameButResources v) (hw : (w.afterRemoval a).StoppedOf ids w')
    (hv : (v.afterRemoval a).StoppedOf ids' v') : w'.ClearsAlike v' := by
  obtain ⟨later, hlater, rfl⟩ := hw
  obtain ⟨later', hlater', rfl⟩ := hv
  refine ⟨h.store, h.coordination, fun rest c hc => ?_⟩
  refine h.fails _ _ c (hc c List.mem_cons_self) ?_
  -- Only calls to the resource manager can tell the two records apart.
  have hnone : ∀ l : List Call, (∀ c ∈ l, c.toResources = true) →
      l.filter (!·.toResources) = [] := by
    intro l hl
    refine List.filter_eq_nil_iff.mpr fun c hc => ?_
    simp [hl c hc]
  have hcalls : (w.afterRemoval a).calls = (v.afterRemoval a).calls := by
    show w.calls ++ [.apps] ++ [.destroy a.id] = v.calls ++ [.apps] ++ [.destroy a.id]
    rw [h.calls]
  simp only [List.filter_append, hcalls, hnone later hlater, hnone later' hlater']

/-- Which app a request removes does not depend on the resource manager. -/
theorem removes_of_same {a : App} {v : World} (h : w.SameButResources v) (ha : r.Removes w a) :
    r.Removes v a where
  valid := ha.valid
  listed := by
    rw [← h.fails w.calls v.calls .apps rfl (by rw [h.calls])]
    exact ha.listed
  only := h.apps ▸ ha.only
  removed := by
    rw [← h.fails (w.calls ++ [Call.apps]) (v.calls ++ [Call.apps]) (.destroy a.id) rfl
      (by rw [h.calls])]
    exact ha.removed

/-- The removed app, the stopped frameworks and the removed nodes, in that order. -/
theorem uninstall_of_removes {a : App} (ha : r.Removes w a) :
    let m := World.manager k p
    let step := m.teardownFramework a (w.afterRemoval a)
    ∃ removal, (m.cleanUp a step.2).1 = .ok removal ∧ m.uninstall r w =
      (step.1.map fun outcome => ⟨a.id, outcome, removal.deleted, removal.failed⟩,
        (m.cleanUp a step.2).2) := by
  intro m step
  have hmem : a ∈ w.apps.filter r.denotes := ha.only ▸ List.mem_singleton_self a
  rcases uninstall_cases k p r w with ⟨a', ha', hrun⟩ | ⟨hno, -, -⟩
  · cases ha.only.symm.trans ha'.only
    obtain ⟨removal, hremoval, happ⟩ := uninstallApp_ok k p (w.logged .apps) a ha.removed
      ⟨a, (List.mem_filter.mp hmem).1, rfl⟩
    exact ⟨removal, hremoval, hrun.trans happ⟩
  · exact absurd ⟨a, ha⟩ hno

/-- Clearing removes the same nodes from worlds that it cannot tell apart. -/
theorem cleanUp_nodes {a : App} {v : World} {nodes : List String} (h : w.ClearsAlike v)
    (hnodes : ((World.manager k p).cleanUp a w).2.events =
      w.events ++ nodes.map .nodeDeleted) :
    ((World.manager k p).cleanUp a v).2.events =
      v.events ++ nodes.map .nodeDeleted := by
  obtain ⟨-, -, paths, hw, hv⟩ :=
    cleanUp_alike k p a w.events v.events w v ⟨h, [], by simp, by simp⟩
  have hpaths : paths.map Event.nodeDeleted = nodes.map Event.nodeDeleted :=
    List.append_cancel_left (hw.symm.trans hnodes)
  rw [hv, hpaths]

/-- The changes of a removal: the app goes first, then frameworks, then nodes. -/
theorem changes_of_cleared {a : App} {s t : World} {ids nodes : List String}
    (hs : (w.afterRemoval a).StoppedOf ids s) (ht : s.ClearedOf nodes t) :
    t.events = w.events ++ .destroyed a.id :: (ids.map .tornDown ++ nodes.map .nodeDeleted) ∧
      t.store = w.store ∧ t.apps = w.apps.filter (·.id != a.id) := by
  obtain ⟨later, -, rfl⟩ := hs
  obtain ⟨calls, coordination, rfl⟩ := ht
  refine ⟨?_, rfl, rfl⟩
  show w.events ++ [.destroyed a.id] ++ ids.map .tornDown ++ nodes.map .nodeDeleted = _
  simp only [List.append_assoc, List.cons_append, List.nil_append]

/-- A removal changes the apps, then what the framework step changes, and then nodes. -/
theorem uninstall_changes {a : App} (ha : r.Removes w a) :
    let m := World.manager k p
    let stopped := (m.teardownFramework a (w.afterRemoval a)).2
    ∃ ids nodes : List String,
      ((m.uninstall r w).2.events = w.events ++
        .destroyed a.id :: (ids.map .tornDown ++ nodes.map .nodeDeleted) ∧
          (m.uninstall r w).2.store = w.store ∧
          (m.uninstall r w).2.apps = w.apps.filter (·.id != a.id)) ∧
      (w.afterRemoval a).StoppedOf ids stopped ∧
      (m.cleanUp a stopped).2.events = stopped.events ++ nodes.map .nodeDeleted ∧
      ids.length ≤ 1 ∧ ∀ id, id ∈ ids ↔ ∃ f, a.Stops (w.afterRemoval a) f ∧ f.id = id := by
  intro m stopped
  obtain ⟨ids, hstopped, hlength, hids⟩ := teardownFramework_stops k p (w.afterRemoval a) a
  obtain ⟨nodes, hcleared⟩ := cleanUp_cleared k p a stopped
  obtain ⟨removal, -, hrun⟩ := uninstall_of_removes k p r ha
  have hevents : (m.cleanUp a stopped).2.events = stopped.events ++ nodes.map .nodeDeleted := by
    obtain ⟨calls, coordination, ht⟩ := hcleared
    rw [ht]
  refine ⟨ids, nodes, ?_, hstopped, hevents, hlength, hids⟩
  rw [hrun]
  exact changes_of_cleared hstopped hcleared

/-- What a removal changes, in order, and when it succeeds.  Whether the app is removed hangs on
    what comes before; without that nothing changes.  What becomes of the framework has no effect
    on the nodes: they are those that would be removed from any world that clearing cannot tell
    apart, and those that are removed when nothing but the resource manager differs. -/
theorem uninstall_course (k : Keyspace) (p : Platform) (r : Request) (w : World) :
    let m := World.manager k p
    let after := (m.uninstall r w).2
    ∃ trace, after.events = w.events ++ trace ∧ after.store = w.store ∧
      (∀ id, .destroyed id ∈ trace ↔ ∃ a, r.Removes w a ∧ a.id = id) ∧
      ((¬ ∃ a, r.Removes w a) →
        trace = [] ∧ w.Unchanged after ∧ ∃ e, (m.uninstall r w).1 = .error e) ∧
      ∀ a, r.Removes w a →
        let removed := w.afterRemoval a
        let stopped := (m.teardownFramework a removed).2
        ∃ frameworks nodes : List String,
          trace = .destroyed a.id :: (frameworks.map .tornDown ++ nodes.map .nodeDeleted) ∧
          after.apps = w.apps.filter (·.id != a.id) ∧
          frameworks.length ≤ 1 ∧ (∀ id, id ∈ frameworks ↔ ∃ f, a.Stops removed f ∧ f.id = id) ∧
          (∀ v, stopped.ClearsAlike v →
            (m.cleanUp a v).2.events = v.events ++ nodes.map .nodeDeleted) ∧
          (∀ v, w.SameButResources v → ∃ frameworks' : List String,
            (m.uninstall r v).2.events = v.events ++
              .destroyed a.id :: (frameworks'.map .tornDown ++ nodes.map .nodeDeleted)) ∧
          (Succeeds (m.uninstall r) w ↔ Succeeds (m.teardownFramework a) removed) := by
  intro m after
  -- Either an app is removed, and the phases after it follow, or nothing has changed.
  rcases uninstall_cases k p r w with ⟨a, ha, -⟩ | ⟨hno, herror, hunchanged⟩
  · obtain ⟨ids, nodes, ⟨hevents, hstore, happs⟩, hstopped, hnodes, hlength, hids⟩ :=
      uninstall_changes k p r ha
    refine ⟨_, hevents, hstore, fun id => ?_, fun hno => absurd ⟨a, ha⟩ hno, fun a' ha' => ?_⟩
    · have hid : Event.destroyed id ∈ Event.destroyed a.id ::
          (ids.map .tornDown ++ nodes.map .nodeDeleted) ↔ id = a.id := by
        simp
      rw [hid]
      constructor
      · rintro rfl
        exact ⟨a, ha, rfl⟩
      · rintro ⟨a', ha', rfl⟩
        cases ha.only.symm.trans ha'.only
        rfl
    · cases ha.only.symm.trans ha'.only
      refine ⟨ids, nodes, rfl, happs, hlength, hids, fun v hv => cleanUp_nodes k p hv hnodes,
        fun v hv => ?_, ?_⟩
      · -- The same app is removed, and after that clearing cannot tell the worlds apart.
        obtain ⟨ids', nodes', ⟨hevents', -, -⟩, hstopped', hnodes', -, -⟩ :=
          uninstall_changes k p r (removes_of_same r hv ha)
        have hsame : nodes'.map Event.nodeDeleted = nodes.map Event.nodeDeleted :=
          List.append_cancel_left (hnodes'.symm.trans
            (cleanUp_nodes k p (clearsAlike_of_stopped hv hstopped hstopped') hnodes))
        exact ⟨ids', by rw [hevents', hsame]⟩
      · obtain ⟨removal, -, hrun⟩ := uninstall_of_removes k p r ha
        unfold Succeeds
        rw [hrun]
        cases (m.teardownFramework a (w.afterRemoval a)).1 with
        | ok outcome => simp [Except.map]
        | error e => simp [Except.map]
  · obtain ⟨calls, hcalls⟩ := hunchanged
    refine ⟨[], ?_, ?_, fun id => ?_, fun _ => ⟨rfl, ⟨calls, hcalls⟩, herror⟩, fun a ha => ?_⟩
    · simp only [after, m, hcalls, List.append_nil]
    · simp only [after, m, hcalls]
    · constructor
      · intro h
        cases h
      · rintro ⟨a, ha, -⟩
        exact absurd ⟨a, ha⟩ hno
    · exact absurd ⟨a, ha⟩ hno

end Manager

end ClusterPackages
