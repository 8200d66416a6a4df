import ClusterPackages.Proofs.Deploy.Installation
import ClusterPackages.Proofs.Deploy.Removal

namespace ClusterPackages

open Text

/-!
# From installing to removing

* `Manager.denotes_installed` — which apps a request denotes that repeats the name of an
  installation, with its id.
* `Manager.removes_of_added` — such a request removes the installed app.
* `Manager.findInstalled_of_install` — it denotes the installed app if the name is spelled as the
  catalog spells it, and no app otherwise.
* `Manager.uninstall_undoes_install` — a request with the name and the id that an installation
  reports takes the installed app away again.
-/

namespace Manager

/-- A request with the id of an installed app denotes no app with another id. -/
theorem denotes_installed {r q : Request} {d : Definition} {a : App} (hid : r.requestedId ≠ none)
    (happ : d.app r.requestedId = .ok a) (hq : q.appId = some a.id ∨ q.appId = r.appId) (b : App) :
    q.denotes b = (b.label? Label.packageName == some q.name && b.id == a.id) := by
  cases hr : r.requestedId with
  | none => exact absurd hr hid
  | some id =>
    rw [hr] at happ
    have ha : a.id = normalizeId id := Definition.app_id happ
    -- Both ids have the same form for the scheduler, with or without the slash.
    have hasked : ∃ asked, q.requestedId = some asked ∧ normalizeId asked = a.id := by
      rcases hq with hq | hq
      · refine ⟨a.id, ?_, by rw [ha, normalizeId_idem]⟩
        simp [Request.requestedId, Request.given, hq, ha, allBlank_normalizeId]
      · refine ⟨id, ?_, ha.symm⟩
        rw [← hr, Request.requestedId, hq]
        rfl
    obtain ⟨asked, hasked, hnormal⟩ := hasked
    simp [Request.denotes, hasked, hnormal]

variable {r q : Request} {d : Definition} {a : App} {w after : World}

/-- Whether a request is valid depends on its name only. -/
theorem validate_of_name (h : q.name = r.name) : q.validate = r.validate := by
  rw [Request.validate, Request.validate, h]

/-- Among the apps after an installation, the installed one is denoted or none. -/
theorem filter_denotes_installed (hid : r.requestedId ≠ none) (happ : d.app r.requestedId = .ok a)
    (hq : q.appId = some a.id ∨ q.appId = r.appId) (hfresh : ∀ b ∈ w.apps, b.id ≠ a.id) :
    (w.apps ++ [a]).filter q.denotes = if q.name = d.name then [a] else [] := by
  -- No other app has the id, so the name decides about the new app alone.
  have hothers : w.apps.filter q.denotes = [] := by
    refine List.filter_eq_nil_iff.mpr fun b hb => ?_
    rw [denotes_installed hid happ hq]
    simp [hfresh b hb]
  have hthis : q.denotes a = decide (q.name = d.name) := by
    rw [denotes_installed hid happ hq, Definition.app_packageName happ]
    simp only [beq_self_eq_true, Bool.and_true]
    exact decide_eq_decide.mpr ⟨fun h => by simpa using h.symm, fun h => by simpa using h.symm⟩
  rw [List.filter_append, hothers, List.nil_append, List.filter_cons, List.filter_nil, hthis]
  simp

/-- Taking an app away after it was added leaves the apps that were there, if none had its id. -/
theorem filter_ids (hfresh : ∀ b ∈ w.apps, b.id ≠ a.id) :
    (w.apps ++ [a]).filter (·.id != a.id) = w.apps := by
  have hothers : w.apps.filter (·.id != a.id) = w.apps :=
    List.filter_eq_self.mpr fun b hb => by simpa using hfresh b hb
  rw [List.filter_append, hothers]
  simp

/-- Among the apps after an installation, the installed one is removed by a request with its name
    and its id. -/
theorem removes_of_added (hvalid : q.validate = .ok ()) (hid : r.requestedId ≠ none)
    (happ : d.app r.requestedId = .ok a) (hname : q.name = d.name)
    (hq : q.appId = some a.id ∨ q.appId = r.appId) (hfresh : ∀ b ∈ w.apps, b.id ≠ a.id)
    (happs : after.apps = w.apps ++ [a]) (hlist : after.fails after.calls .apps = false)
    (hdestroy : after.fails (after.calls ++ [.apps]) (.destroy a.id) = false) :
    q.Removes after a where
  valid := hvalid
  listed := hlist
  only := by rw [happs, filter_denotes_installed hid happ hq hfresh, if_pos hname]
  removed := hdestroy

/-- What a request finds and removes in a world to which an app has been added. -/
theorem findInstalled_of_added (k : Keyspace) (p : Platform)
    (hworks : ∀ calls c, after.fails calls c = false) (hvalid : q.validate = .ok ())
    (hid : r.requestedId ≠ none) (happ : d.app r.requestedId = .ok a)
    (hq : q.appId = some a.id ∨ q.appId = r.appId) (hfresh : ∀ b ∈ w.apps, b.id ≠ a.id)
    (happs : after.apps = w.apps ++ [a]) :
    let m := World.manager k p
    (m.findInstalled q after).1 = .ok (if q.name = d.name then [a] else []) ∧
      (q.name = d.name → (m.uninstall q after).2.apps = w.apps) := by
  refine ⟨?_, fun hname => ?_⟩
  · rw [findInstalled_ok k p q after (hworks _ _), happs,
      filter_denotes_installed hid happ hq hfresh]
  · have hremoves : q.Removes after a := removes_of_added hvalid hid happ hname hq hfresh happs
      (hworks _ _) (hworks _ _)
    obtain ⟨ids, nodes, ⟨-, -, hremoved⟩, -⟩ := uninstall_changes k p q hremoves
    rw [hremoved, happs, filter_ids hfresh]

/-- A request that repeats the name of an installation, with the id that was reported or asked for,
    denotes the installed app if the name is that of the package, and no app otherwise.  In the
    first case it removes that app. -/
theorem findInstalled_of_install {k : Keyspace} {p : Platform} {r q : Request} {w : World}
    {report : InstallReport} (hworks : ∀ calls c, w.fails calls c = false)
    (hid : r.requestedId ≠ none)
    (hinstall : ((World.manager k p).install r w).1 = .ok report)
    (hname : q.name = r.name) (hq : q.appId = some report.appId ∨ q.appId = r.appId) :
    let m := World.manager k p
    let after := (m.install r w).2
    sameIgnoringCase report.package (trim r.name) = true ∧
      ∃ a, after.apps = w.apps ++ [a] ∧ a.id = report.appId ∧
        (m.findInstalled q after).1 = .ok (if r.name = report.package then [a] else []) ∧
        (r.name = report.package → (m.uninstall q after).2.apps = w.apps) := by
  obtain ⟨d, a, calls, hvalid, happ, hsame, hrid, hrname, hfresh, hafter⟩ :=
    install_ok k p r hinstall
  have happs := congrArg World.apps hafter
  have hworksAfter := fun calls c =>
    (congrArg (fun w' : World => w'.fails calls c) hafter).trans (hworks calls c)
  have hvalidAgain : q.validate = .ok () := (validate_of_name hname).trans hvalid
  rw [hrid] at hq ⊢
  rw [hrname, ← hname]
  exact ⟨hname ▸ hsame, a, happs, rfl,
    findInstalled_of_added k p hworksAfter hvalidAgain hid happ hq hfresh happs⟩

/-- The name that an installation reports is not blank, since the one that was asked for is not. -/
theorem validate_of_reported (hvalid : r.validate = .ok ())
    (hsame : sameIgnoringCase d.name (trim r.name) = true) (hname : q.name = d.name) :
    q.validate = .ok () := by
  have hblank : allBlank q.name = allBlank r.name := by
    rw [hname, allBlank_congr hsame, allBlank_trim]
  rw [Request.validate, hblank]
  exact hvalid

/-- **Removing what was installed.**  When an installation has ended well, a request with the name
    and the id that it reports finds the new app and no other, and takes it away, so that the apps
    are those from before the installation, in whatever world they are by then.  Nothing but the
    list of apps and the removal has to succeed: what becomes of the framework and the nodes has no
    effect on the apps.  The ids of the other apps need not be distinct. -/
theorem uninstall_undoes_install {k : Keyspace} {p : Platform} {r q : Request} {w v : World}
    {report : InstallReport} (hid : r.requestedId ≠ none)
    (hinstall : ((World.manager k p).install r w).1 = .ok report)
    (hname : q.name = report.package) (hq : q.appId = some report.appId)
    (happs : v.apps = ((World.manager k p).install r w).2.apps)
    (hlist : v.fails v.calls .apps = false)
    (hdestroy : v.fails (v.calls ++ [.apps]) (.destroy report.appId) = false) :
    let m := World.manager k p
    let after := (m.install r w).2
    ∃ a, a.id = report.appId ∧ after.events = w.events ++ [.created a] ∧
      after.apps = w.apps ++ [a] ∧ (m.findInstalled q v).1 = .ok [a] ∧
      (∃ frameworks nodes : List String, (m.uninstall q v).2.events = v.events ++
        .destroyed a.id :: (frameworks.map .tornDown ++ nodes.map .nodeDeleted)) ∧
      (m.uninstall q v).2.apps = w.apps := by
  intro m after
  obtain ⟨d, a, calls, hvalid, happ, hsame, hrid, hrname, hfresh, hafter⟩ :=
    install_ok k p r hinstall
  have hadded : after.apps = w.apps ++ [a] := congrArg World.apps hafter
  have hcreated : after.events = w.events ++ [.created a] := congrArg World.events hafter
  rw [hrname] at hname
  rw [hrid] at hq hdestroy ⊢
  have hremoves : q.Removes v a := removes_of_added (validate_of_reported hvalid hsame hname) hid
    happ hname (.inl hq) hfresh (happs.trans hadded) hlist hdestroy
  obtain ⟨frameworks, nodes, ⟨hevents, -, hleft⟩, -⟩ := uninstall_changes k p q hremoves
  refine ⟨a, rfl, hcreated, hadded, ?_, ⟨frameworks, nodes, hevents⟩, ?_⟩
  · rw [findInstalled_ok k p q v hlist, hremoves.only]
  · -- The removal spares the apps with other ids, and those are the apps from before.
    rw [hleft, happs.trans hadded, filter_ids hfresh]

/-! ### A catalog with one package -/

/-- A world whose catalog has the package `kafka`, and in which no call fails. -/
def kafkaWorld : World where
  store := Table.ofList [
    ("r/0/name", Utf8.encode "base"),
    ("r/0/repo/meta/index.json", Utf8.encode
      "[\x7b\"name\":\"kafka\",\"versions\":\x7b\"1\":\"0\"\x7d\x7d]"),
    ("r/0/repo/packages/K/kafka/0/marathon.json", Utf8.encode "\x7b\x7d")]
  apps := []
  state := .empty
  coordination := .tree .empty
  fails := fun _ _ => false
  calls := []
  events := []

/-- The keys of its catalog. -/
def kafkaKeyspace : Keyspace := ⟨"r", "a"⟩

/-- A request for an app with the id `k`. -/
def requestK (name : String) : Request := { Request.named name with appId := some "k" }

theorem eq_ok_of_toOption {α : Type} {out : Except Error α} {x : α} (h : out.toOption = some x) :
    out = .ok x := by
  cases out with
  | ok y => exact congrArg Except.ok (Option.some.inj h)
  | error e => cases h

/-- The app that was installed as `kafka` is found and removed under that name. -/
theorem findInstalled_of_install_kafka :
    let m := World.manager kafkaKeyspace .empty
    let after := (m.install (requestK "kafka") kafkaWorld).2
    (m.install (requestK "kafka") kafkaWorld).1 = .ok ⟨"/k", "kafka", "1", "0", "created /k"⟩ ∧
      ∃ a, after.apps = [a] ∧ a.id = "/k" ∧
        (m.findInstalled { requestK "kafka" with appId := some "/k" } after).1 = .ok [a] ∧
        (m.uninstall { requestK "kafka" with appId := some "/k" } after).2.apps = [] := by
  have hinstall : ((World.manager kafkaKeyspace .empty).install (requestK "kafka") kafkaWorld).1 =
      .ok ⟨"/k", "kafka", "1", "0", "created /k"⟩ := eq_ok_of_toOption (by decide +kernel)
  have hid : (requestK "kafka").requestedId ≠ none := by decide +kernel
  obtain ⟨-, a, happs, ha, hfound, hremoved⟩ := findInstalled_of_install (fun _ _ => rfl) hid
    hinstall (q := { requestK "kafka" with appId := some "/k" }) rfl (.inl rfl)
  exact ⟨hinstall, a, happs, ha, hfound, hremoved rfl⟩

/-- The same world with two apps that have one id. -/
def crowdedWorld : World := { kafkaWorld with apps := [⟨"/a", ∅, ∅⟩, ⟨"/a", ∅, ∅⟩] }

/-- What was installed as `Kafka` is taken away again under the name that is reported. -/
theorem uninstall_undoes_install_crowded :
    let m := World.manager kafkaKeyspace .empty
    let after := (m.install (requestK "Kafka") crowdedWorld).2
    let q := { Request.named "kafka" with appId := some "/k" }
    (m.install (requestK "Kafka") crowdedWorld).1 = .ok ⟨"/k", "kafka", "1", "0", "created /k"⟩ ∧
      ∃ a, after.apps = crowdedWorld.apps ++ [a] ∧ (m.findInstalled q after).1 = .ok [a] ∧
        (m.uninstall q after).2.apps = crowdedWorld.apps := by
  have hinstall : ((World.manager kafkaKeyspace .empty).install (requestK "Kafka")
      crowdedWorld).1 = .ok ⟨"/k", "kafka", "1", "0", "created /k"⟩ :=
    eq_ok_of_toOption (by decide +kernel)
  have hid : (requestK "Kafka").requestedId ≠ none := by decide +kernel
  have hworks : ((World.manager kafkaKeyspace .empty).install (requestK "Kafka")
      crowdedWorld).2.fails = fun _ _ => false := by
    obtain ⟨d, a, calls, -, -, -, -, -, -, hafter⟩ := install_ok kafkaKeyspace .empty _ hinstall
    rw [hafter]
    rfl
  obtain ⟨a, -, -, hadded, hfound, -, hleft⟩ := uninstall_undoes_install hid hinstall
    (q := { Request.named "kafka" with appId := some "/k" }) rfl rfl rfl (by rw [hworks])
    (by rw [hworks])
  exact ⟨hinstall, a, hadded, hfound, hleft⟩

/-- Under another spelling of its name, which the catalog accepts, the installed app is not
    found. -/
theorem not_findInstalled_of_install :
    ¬ ∀ (k : Keyspace) (p : Platform) (r : Request) (w : World) (report : InstallReport),
      (∀ calls c, w.fails calls c = false) → r.requestedId ≠ none →
      ((World.manager k p).install r w).1 = .ok report →
      ∃ a found, ((World.manager k p).install r w).2.apps = w.apps ++ [a] ∧
        ((World.manager k p).findInstalled { r with appId := some report.appId }
          ((World.manager k p).install r w).2).1 = .ok found ∧ a ∈ found := by
  intro hall
  have hinstall : ((World.manager kafkaKeyspace .empty).install (requestK "Kafka") kafkaWorld).1 =
      .ok ⟨"/k", "kafka", "1", "0", "created /k"⟩ := eq_ok_of_toOption (by decide +kernel)
  have hnone : ((World.manager kafkaKeyspace .empty).findInstalled
      { requestK "Kafka" with appId := some "/k" }
      ((World.manager kafkaKeyspace .empty).install (requestK "Kafka") kafkaWorld).2).1.toOption.map
        List.length = some 0 := by decide +kernel
  obtain ⟨a, found, -, hfound, ha⟩ := hall kafkaKeyspace .empty (requestK "Kafka") kafkaWorld _
    (fun _ _ => rfl) (by decide +kernel) hinstall
  rw [hfound] at hnone
  have hlength : found.length = 0 := Option.some.inj hnone
  rw [List.eq_nil_of_length_eq_zero hlength] at ha
  cases ha

end Manager

end ClusterPackages
