import ClusterPackages.Proofs.Catalog.Addressing
import ClusterPackages.Proofs.Deploy.Installation
import ClusterPackages.Proofs.Deploy.Removal
import ClusterPackages.Proofs.Text.Base64

namespace ClusterPackages

open Text

/-!
# Cleanup steps, carried or recomputed

An installed app carries the cleanup steps of its release.  For an app without that label they are
read from the catalog once more, by the name and the version that its other labels give.

* `CleanupSpec.decodeLabel_encode` — the steps in a label are the steps that were put there.
* `Definition.clearedPaths` — the nodes that are cleared for a release.
* `Manager.cleanUp_labelled` — an app with the label has the nodes cleared that the label names.
* `Manager.cleanUp_carried`, `Manager.cleanUp_recomputed` — they are cleared for an app that carries
  the steps of the release, and for one whose name and version denote the release.
* `Manager.uninstallApp_alike` — apps for which the same is cleared are removed alike.
* `Manager.uninstallApp_clears` — what a report on an app with the label says about nodes.
* `Manager.uninstallApp_recomputed` — an app that has lost the label is removed as if it had it.
-/

open ClusterPackages.Action (Answers answers_ofExcept)

/-! ### The nodes of a release -/

/-- The steps that were put into a label are read from it again. -/
theorem CleanupSpec.decodeLabel_encode (steps : String) :
    CleanupSpec.decodeLabel (Base64.encode (Utf8.encode steps)) = CleanupSpec.parse steps := by
  have hread : (Base64.decode? (trim (Base64.encode (Utf8.encode steps)))).bind Utf8.text? =
      some steps := by
    rw [Base64.trim_encode, Base64.decode?_encode, Option.bind_some, Utf8.text?_encode]
  simp only [decodeLabel, hread]

/-- The nodes that are cleared by given steps; none if there are no steps. -/
def CleanupSpec.paths (spec : Option CleanupSpec) : List String := (spec.map always).getD []

/-- The nodes that are cleared for a release; none if its steps cannot be read. -/
def Definition.clearedPaths (d : Definition) : List String :=
  CleanupSpec.paths (d.uninstall >>= CleanupSpec.parse).toOption

/-- The paths that are cleared for a release are those of its steps, if they can be read. -/
theorem Definition.clearedPaths_eq {d : Definition} {steps : String} (h : d.uninstall = .ok steps) :
    d.clearedPaths = CleanupSpec.paths (CleanupSpec.parse steps).toOption := by
  rw [clearedPaths, h]
  rfl

namespace Manager

section

variable {σ : Type} {m : Manager σ} {a : App} {d : Definition}

/-- Once the steps of an app are found, its paths are cleared. -/
theorem cleanUp_of_spec {spec : Option CleanupSpec} {s s' : σ}
    (h : m.cleanupSpec a s = (.ok spec, s')) :
    m.cleanUp a s = m.removeTrees (CleanupSpec.paths spec) s' := by
  rw [cleanUp, Action.bind_of_ok h]
  cases spec with
  | none => rfl
  | some spec => rfl

/-- For an app with the label, nothing is read to clear its nodes. -/
theorem cleanUp_labelled {encoded : String} (h : a.label? Label.cleanup = some encoded) (s : σ) :
    m.cleanUp a s =
      m.removeTrees (CleanupSpec.paths (CleanupSpec.decodeLabel encoded).toOption) s := by
  by_cases hempty : encoded = ""
  · -- An empty label counts as no steps, and no steps clear nothing.
    subst hempty
    have hspec : m.cleanupSpec a s = (.ok none, s) := by
      rw [cleanupSpec, h]
      rfl
    have hnone : CleanupSpec.decodeLabel "" = .ok .none := rfl
    rw [cleanUp_of_spec hspec, hnone]
    rfl
  · have hspec : m.cleanupSpec a s = (.ok (CleanupSpec.decodeLabel encoded).toOption, s) := by
      rw [cleanupSpec, h]
      simp only [String.isEmpty_iff, hempty, if_false]
      rfl
    exact cleanUp_of_spec hspec

/-- For an app that carries the steps of a release, the nodes of the release are cleared. -/
theorem cleanUp_carried (h : a.Carries d) (s : σ) :
    m.cleanUp a s = m.removeTrees d.clearedPaths s := by
  obtain ⟨steps, hsteps, hlabel⟩ := h.cleanup
  rw [cleanUp_labelled hlabel, CleanupSpec.decodeLabel_encode, Definition.clearedPaths_eq hsteps]

/-- Reading the steps again is reading off the store what the definition's steps are. -/
theorem recomputeCleanup_answers {I : σ → Prop} {faulty : Prop} {t : Table Bytes}
    (hs : m.services.store.Serves I faulty t) (name : String) (version : Option String) :
    Answers I faulty (m.recomputeCleanup name version)
      ((m.keyspace.definitionIn t name version ∅ m.platform).bind fun d =>
        d.uninstall.bind CleanupSpec.parse) :=
  (resolveDefinition_answers hs m.keyspace name version ∅ m.platform).bind fun _ _ =>
    (answers_ofExcept _).bind fun _ _ => answers_ofExcept _

end

variable {k : Keyspace} {p : Platform} {w v : World} {a b : App} {d : Definition}

/-- For an app without the label, the nodes of the release that it came from are cleared after the
    catalog has been read. -/
theorem cleanUp_recomputed (hlabel : a.label? Label.cleanup = none)
    (hname : a.label? Label.packageName = some d.name)
    (hversion : a.label? Label.packageVersion = some d.version)
    (hd : k.definitionIn w.store d.name (some d.version) ∅ p = .ok d)
    (hworks : ∀ calls c, w.fails calls c = false) :
    ∃ w', w.Unchanged w' ∧ (World.manager k p).cleanUp a w =
      (World.manager k p).removeTrees d.clearedPaths w' := by
  have hanswers := recomputeCleanup_answers (m := World.manager k p) (World.serves w) d.name
    (some d.version)
  obtain ⟨hunchanged, -⟩ := hanswers w (.refl w)
  have hout := hanswers.outcome (.refl w) (World.not_faulty hworks)
  simp only [hd] at hout
  rcases hrun : (World.manager k p).recomputeCleanup d.name (some d.version) w with ⟨out, w'⟩
  rw [hrun] at hunchanged hout
  have hsteps : out = (d.uninstall >>= CleanupSpec.parse) := hout
  -- Whether the steps can be read or not, the attempt ends well.
  have hattempt : ((World.manager k p).recomputeCleanup d.name (some d.version)).attempt w =
      (.ok out, w') := by
    unfold Action.attempt
    rw [hrun]
  have hspec : (World.manager k p).cleanupSpec a w =
      (.ok (d.uninstall >>= CleanupSpec.parse).toOption, w') := by
    rw [cleanupSpec, hlabel, hname, hversion, ← hsteps]
    exact Action.bind_of_ok hattempt
  exact ⟨w', hunchanged, cleanUp_of_spec hspec⟩

/-! ### Clearing and removing alike -/

/-- Clearing goes alike in worlds that differ in the record of calls, if no call fails. -/
theorem removeTrees_unchanged (hworks : ∀ calls c, w.fails calls c = false) (h : w.Unchanged v)
    (paths : List String) :
    let m := World.manager k p
    (m.removeTrees paths w).1 = (m.removeTrees paths v).1 ∧
      (m.removeTrees paths w).2.Unchanged (m.removeTrees paths v).2 := by
  intro m
  obtain ⟨calls, rfl⟩ := h
  have hsame : World.ClearsAlike w { w with calls := calls } :=
    ⟨rfl, rfl, fun later c _ => (hworks _ _).trans (hworks _ _).symm⟩
  have halike : Action.Respects (World.AlikeSince w.events w.events) (m.removeTrees paths) :=
    removeTrees_closed (Action.closed_respects _) World.removeTree_alike paths
  have hmoves : Action.Moves World.Cleared (m.removeTrees paths) :=
    removeTrees_closed World.closed_cleared World.removeTree_cleared paths
  obtain ⟨hout, ⟨-, hnodes, -⟩, removed, hevents, hevents'⟩ :=
    halike w { w with calls := calls } ⟨hsame, [], by simp, by simp⟩
  refine ⟨hout, ?_⟩
  -- Nothing but nodes is removed, and those are the same in both worlds.
  obtain ⟨paths, later, nodes, hend⟩ := hmoves w
  obtain ⟨paths', later', nodes', hend'⟩ := hmoves { w with calls := calls }
  rw [hend] at hnodes hevents ⊢
  rw [hend'] at hnodes hevents' ⊢
  refine ⟨later', ?_⟩
  dsimp only at hnodes hevents hevents'
  rw [hevents, hevents', hnodes]

/-- What is left when app and framework are gone: the store, the nodes and the plan of failing calls
    are what they were. -/
theorem teardownFramework_keeps (a : App) (w : World) :
    let stopped := ((World.manager k p).teardownFramework a
      ((w.logged (.destroy a.id)).without a.id)).2
    stopped.store = w.store ∧ stopped.coordination = w.coordination ∧ stopped.fails = w.fails := by
  intro stopped
  obtain ⟨ids, ⟨later, -, hstopped⟩, -⟩ :=
    teardownFramework_stops k p ((w.logged (.destroy a.id)).without a.id) a
  rw [show stopped = _ from hstopped]
  exact ⟨rfl, rfl, rfl⟩

/-- The removal of an app that is not there ends with status 404, and nothing is cleared. -/
theorem uninstallApp_absent (a : App) (h : w.fails w.calls (.destroy a.id) = false)
    (habsent : ∀ c ∈ w.apps, c.id ≠ a.id) :
    (World.manager k p).uninstallApp a w =
      (.error ((Call.destroy a.id).error (.status 404 none)), w.logged (.destroy a.id)) :=
  Action.bind_of_error (World.destroy_absent h habsent)

/-- Apps with the same id and framework, for which clearing goes alike, are removed alike. -/
theorem uninstallApp_alike (hid : b.id = a.id) (hframework : b.frameworkName? = a.frameworkName?)
    (hworks : ∀ calls c, w.fails calls c = false)
    (hclear : ∀ v : World, v.store = w.store → (∀ calls c, v.fails calls c = false) →
      ((World.manager k p).cleanUp a v).1 = ((World.manager k p).cleanUp b v).1 ∧
        ((World.manager k p).cleanUp a v).2.Unchanged ((World.manager k p).cleanUp b v).2) :
    let m := World.manager k p
    (m.uninstallApp a w).1 = (m.uninstallApp b w).1 ∧
      (m.uninstallApp a w).2.Unchanged (m.uninstallApp b w).2 := by
  intro m
  by_cases hthere : ∃ c ∈ w.apps, c.id = a.id
  · have hsame : m.teardownFramework b = m.teardownFramework a := by
      unfold teardownFramework
      rw [hframework]
    -- The framework step is the same, and it leaves what clearing goes by.
    obtain ⟨hstore, -, hfails⟩ := teardownFramework_keeps (k := k) (p := p) a w
    obtain ⟨hout, hunchanged⟩ := hclear _ hstore (by rw [hfails]; exact hworks)
    obtain ⟨removal, hremoval, hrun⟩ := uninstallApp_ok k p w a (hworks _ _) hthere
    obtain ⟨removal', hremoval', hrun'⟩ := uninstallApp_ok k p w b (hworks _ _) (hid ▸ hthere)
    rw [hsame, hid] at hremoval' hrun'
    cases hremoval.symm.trans (hout.trans hremoval')
    rw [hrun, hrun']
    exact ⟨rfl, hunchanged⟩
  · -- There is no app to remove, so that both removals end with the same error.
    have habsent : ∀ c ∈ w.apps, c.id ≠ a.id := fun c hc hcid => hthere ⟨c, hc, hcid⟩
    have hrun : m.uninstallApp a w = _ := uninstallApp_absent a (hworks _ _) habsent
    have hrun' : m.uninstallApp b w = _ := uninstallApp_absent b (hworks _ _) (hid ▸ habsent)
    rw [hrun, hrun', hid]
    exact ⟨rfl, .refl _⟩

/-- The report on an app that carries the steps of a release is about the nodes that they clear. -/
theorem uninstallApp_clears (hcarries : a.Carries d) (hworks : ∀ calls c, w.fails calls c = false)
    {report : UninstallReport} (h : ((World.manager k p).uninstallApp a w).1 = .ok report) :
    ∃ u : World, u.coordination = w.coordination ∧ u.fails = w.fails ∧
      ((World.manager k p).removeTrees d.clearedPaths u).1 =
        .ok ⟨report.cleanupDeleted, report.cleanupFailed⟩ := by
  by_cases hthere : ∃ c ∈ w.apps, c.id = a.id
  · obtain ⟨-, hnodes, hfails⟩ := teardownFramework_keeps (k := k) (p := p) a w
    obtain ⟨removal, hremoval, hrun⟩ := uninstallApp_ok k p w a (hworks _ _) hthere
    rw [cleanUp_carried hcarries] at hremoval
    rw [hrun] at h
    -- There is a report only if the framework step ends well.
    cases hstep : ((World.manager k p).teardownFramework a
        ((w.logged (.destroy a.id)).without a.id)).1 with
    | error e =>
      rw [hstep] at h
      cases h
    | ok outcome =>
      rw [hstep] at h
      cases h
      exact ⟨_, hnodes, hfails, hremoval⟩
  · have habsent : ∀ c ∈ w.apps, c.id ≠ a.id := fun c hc hcid => hthere ⟨c, hc, hcid⟩
    rw [uninstallApp_absent a (hworks _ _) habsent] at h
    cases h

/-- **An app that has lost its cleanup steps.**  Let an app be built for a request without
    configuration whose version the package has.  In any world with the same store in which no call
    fails, that app without the label of the cleanup steps is removed with the same outcome as the
    app with the label, and the two removals change the same: apps, frameworks, nodes and the record
    of changes agree, and nothing but the calls that were made can tell the worlds apart.  What a
    report says about nodes is what becomes of those that the steps of the release clear. -/
theorem uninstallApp_recomputed {r : Request} {version : String} {package : Package}
    (hbuild : ((World.manager k p).buildApp r w).1 = .ok (d, a)) (hconfig : r.config = none)
    (hversion : r.requestedVersion = some version)
    (hpackage : ((World.manager k p).find? r.name w).1 = .ok (some package))
    (hfound : (package.version? version).isSome = true) (hstore : v.store = w.store)
    (hworks : ∀ calls c, v.fails calls c = false) :
    let m := World.manager k p
    let bare := a.withoutLabel Label.cleanup
    (m.uninstallApp bare v).1 = (m.uninstallApp a v).1 ∧
      (m.uninstallApp a v).2.Unchanged (m.uninstallApp bare v).2 ∧
      ∀ report, (m.uninstallApp a v).1 = .ok report →
        ∃ u : World, u.coordination = v.coordination ∧ u.fails = v.fails ∧
          (m.removeTrees d.clearedPaths u).1 =
            .ok ⟨report.cleanupDeleted, report.cleanupFailed⟩ := by
  intro m bare
  have happ : k.appIn p w.store r = .ok (d, a) :=
    (buildApp_answers (m := World.manager k p) (World.serves w) r).eq_of_ok (.refl w) hbuild
  have hpackageIn : k.packageIn w.store r.name = .ok (some package) :=
    (findPackage_answers (World.serves w) k r.name).eq_of_ok (.refl w) hpackage
  obtain ⟨hd, hbuilt⟩ := Keyspace.definitionIn_of_appIn happ
  rw [hversion, hconfig, Option.getD_none] at hd
  have hagain : k.definitionIn w.store d.name (some d.version) ∅ p = .ok d :=
    Keyspace.definitionIn_found hd hpackageIn hfound
  have hcarries : a.Carries d := Definition.app_carries hbuilt
  have hname : (a.withoutLabel Label.cleanup).label? Label.packageName = some d.name := by
    rw [App.label?_withoutLabel_of_ne (by decide), hcarries.name]
  have hlabel : (a.withoutLabel Label.cleanup).label? Label.packageVersion = some d.version := by
    rw [App.label?_withoutLabel_of_ne (by decide), hcarries.version]
  have hframework : (a.withoutLabel Label.cleanup).frameworkName? = a.frameworkName? :=
    App.frameworkName?_withoutLabel (by decide) (by decide)
  have hclear : ∀ u : World, u.store = v.store → (∀ calls c, u.fails calls c = false) →
      (m.cleanUp a u).1 = (m.cleanUp bare u).1 ∧
        (m.cleanUp a u).2.Unchanged (m.cleanUp bare u).2 := by
    intro u hu hworks'
    rw [← hstore, ← hu] at hagain
    obtain ⟨u', hunchanged, hrun⟩ :=
      cleanUp_recomputed (App.label?_withoutLabel_self _) hname hlabel hagain hworks'
    -- The same nodes are cleared, at once or after the catalog has been read.
    rw [cleanUp_carried hcarries, show m.cleanUp bare u = _ from hrun]
    exact removeTrees_unchanged hworks' hunchanged _
  have hid : bare.id = a.id := App.withoutLabel_id Label.cleanup
  obtain ⟨hout, hstates⟩ := uninstallApp_alike (a := a) (b := bare) hid hframework hworks hclear
  exact ⟨hout.symm, hstates, fun report hreport => uninstallApp_clears hcarries hworks hreport⟩

/-! ### A release with cleanup steps -/

/-- A world whose catalog has a package with cleanup steps, and in which the node to be cleared has
    a node below it. -/
def brokerWorld : World :=
  { World.holding (Table.ofList [
      ("r/0/name", Utf8.encode "base"),
      ("r/0/repo/meta/index.json", Utf8.encode
        "[\x7b\"name\":\"kafka\",\"versions\":\x7b\"1\":\"0\"\x7d\x7d]"),
      ("r/0/repo/packages/K/kafka/0/marathon.json", Utf8.encode "\x7b\x7d"),
      ("r/0/repo/packages/K/kafka/0/uninstall.json", Utf8.encode <|
        "\x7b\"zookeeper\":\x7b\"delete\":[" ++
        "\x7b\"path\":\"/kafka\",\"always\":true\x7d]\x7d\x7d")]) with
    coordination := .tree (NodeTree.ofPaths ["/kafka/brokers"]) }

/-- A request for an app with the id `k`, in which the name is spelled in another way. -/
def requestBroker : Request :=
  { Request.named " Kafka" with version := some "1", appId := some "k" }

/-- The app that has lost the label takes its nodes with it. -/
theorem uninstallApp_recomputed_broker :
    let m := World.manager ⟨"r", "a"⟩ .empty
    ∃ d a, (m.buildApp requestBroker brokerWorld).1 = .ok (d, a) ∧
      (m.uninstallApp (a.withoutLabel Label.cleanup) { brokerWorld with apps := [a] }).1 =
        .ok ⟨"/k", .notAFramework, ["/kafka/brokers", "/kafka"], []⟩ := by
  intro m
  have hany : (m.buildApp requestBroker brokerWorld).1.toOption.any (fun built =>
      (m.uninstallApp built.2 { brokerWorld with apps := [built.2] }).1.toOption.any
        (· == ⟨"/k", .notAFramework, ["/kafka/brokers", "/kafka"], []⟩)) = true := by
    decide +kernel
  have hlisted : (m.find? requestBroker.name brokerWorld).1.toOption.any (fun found =>
      found.any fun package => (package.version? "1").isSome) = true := by decide +kernel
  obtain ⟨⟨d, a⟩, hbuild, hremoved⟩ := Action.exists_ok_of_any hany
  obtain ⟨report, hreport, hexpected⟩ := Action.exists_ok_of_any hremoved
  obtain ⟨found, hfind, hversion⟩ := Action.exists_ok_of_any hlisted
  obtain ⟨package, rfl, hversion⟩ := (Option.any_eq_true _ _).1 hversion
  obtain ⟨hout, -⟩ := uninstallApp_recomputed (v := { brokerWorld with apps := [a] }) hbuild rfl
    (by decide +kernel) hfind hversion rfl fun _ _ => rfl
  rw [hreport, beq_iff_eq.1 hexpected] at hout
  exact ⟨d, a, hbuild, hout⟩

end Manager

end ClusterPackages
