import ClusterPackages.Proofs.Deploy.Installation

namespace ClusterPackages

open Text

/-!
# What an installation announces

An app is what its manifest says, but for its id and some labels; and installing it changes nothing
but the apps.

* `App.Announces` — how the app that is built differs from the one in the manifest.
* `Definition.app_announces` — every app that is built differs from its manifest so.
* `Call.isRead`, `World.Consulted` — the calls that read the store, and that there are no others.
* `Manager.install_runs` — an installation reads the catalog and then submits one app, if any.
* `Manager.install_announced` — both together.
-/

/-- The labels that may be set when an app is built. -/
def Label.announced : List String := ofRelease ++ [frameworkName, exposed]

/-- The app is the plain one of a manifest, with an id that is asked for and the labels of its
    provenance. -/
structure App.Announces (a plain : App) (d : Definition) (r : Request) : Prop where
  /-- The other fields are those of the manifest. -/
  rest : a.rest = plain.rest
  /-- The id is the one that is asked for, unless that is blank. -/
  id : a.id = match r.appId with
    | some id => if Text.allBlank id then plain.id else normalizeId id
    | none => plain.id
  /-- Name, version, release, kind and cleanup steps are those of the definition. -/
  release : a.Carries d
  /-- The name of the framework: the foreign label of the manifest wins over the configuration, and
      this over the manifest's own label. -/
  frameworkName : a.label? Label.frameworkName = (plain.label? Label.foreignFrameworkName <|>
    d.frameworkName <|> plain.label? Label.frameworkName)
  /-- It can always be told how the app is reached, and the label says so. -/
  exposed : ∃ exposure, d.loadBalancer = .ok exposure ∧
    a.label? Label.exposed = some (boolLabel (exposure == "external"))
  /-- All other labels are those of the manifest. -/
  others : ∀ name, name ∉ Label.announced → a.label? name = plain.label? name

namespace App

variable {a b : App} {d : Definition}

/-- The app is reached from outside exactly if the label says `true`. -/
theorem Announces.external {plain : App} {r : Request} (h : a.Announces plain d r) :
    a.label? Label.exposed = some "true" ↔ d.loadBalancer = .ok "external" := by
  obtain ⟨exposure, hexposure, hlabel⟩ := h.exposed
  rw [hlabel, hexposure]
  by_cases hexternal : exposure = "external"
  · simp [hexternal, boolLabel]
  · simp [hexternal, boolLabel]

@[simp]
theorem withRelease_rest (a : App) (d : Definition) (steps : String) :
    (a.withRelease d steps).rest = a.rest := rfl

/-- The labels do not depend on the id that is asked for. -/
theorem label?_withRequestedId (a : App) (id : Option String) (name : String) :
    (a.withRequestedId id).label? name = a.label? name := by
  cases id with
  | none => rfl
  | some id => rfl

theorem withRequestedId_rest (a : App) (id : Option String) :
    (a.withRequestedId id).rest = a.rest := by
  cases id with
  | none => rfl
  | some id => rfl

/-- The id of an app is the one that is asked for, in its normal form, or else the one of its
    manifest. -/
theorem withRequestedId_id (a : App) (r : Request) :
    (a.withRequestedId r.requestedId).id = match r.appId with
      | some id => if Text.allBlank id then a.id else normalizeId id
      | none => a.id := by
  unfold withRequestedId Request.requestedId Request.given
  cases r.appId with
  | none => rfl
  | some id =>
    cases hblank : Text.allBlank id with
    | true => simp [Option.filter, hblank]
    | false => simp [Option.filter, hblank]

end App

/-- Every app that is built differs from its manifest by what is announced. -/
theorem Definition.app_announces {d : Definition} {a : App} {r : Request}
    (h : d.app r.requestedId = .ok a) : ∃ manifest plain, d.manifest = .ok manifest ∧
      App.ofManifest manifest = .ok plain ∧ a.Announces plain d r := by
  have hcarries := app_carries h
  obtain ⟨manifest, plain, hmanifest, hplain, hlabelled⟩ := app_eq_ok h
  have hid := App.attachProvenance_id hlabelled
  obtain ⟨steps, exposure, -, hexposure, rfl⟩ := App.attachProvenance_eq hlabelled
  refine ⟨manifest, plain, hmanifest, hplain, ?_⟩
  constructor
  case release => exact hcarries
  case id => rw [hid, App.withRequestedId_id]
  case rest => simp [App.withRequestedId_rest]
  case exposed => exact ⟨exposure, hexposure, App.label?_withLabel_self _ _⟩
  case frameworkName =>
    rw [App.label?_frameworkName_attachProvenance hlabelled, App.label?_withRequestedId,
      App.label?_withRequestedId]
  case others =>
    intro name hname
    have hrelease : name ∉ Label.ofRelease := fun hmem => hname (List.mem_append_left _ hmem)
    have hframework : name ≠ Label.frameworkName := fun heq => hname (heq ▸ by decide)
    have hexposed : name ≠ Label.exposed := fun heq => hname (heq ▸ by decide)
    rw [App.label?_withLabel_of_ne hexposed, App.label?_withLabel?_of_ne hframework,
      App.label?_withLabel?_of_ne hframework, App.label?_withRelease_of_not_mem hrelease,
      App.label?_withRequestedId]

/-! ### Calls -/

/-- Whether a call reads keys of the store. -/
def Call.isRead : Call → Bool
  | .get _ | .keys _ => true
  | _ => false

namespace World

/-- Nothing has happened but reads of the store. -/
def Consulted (w v : World) : Prop :=
  ∃ reads, (∀ c ∈ reads, c.isRead = true) ∧ v = w.asked reads

theorem Consulted.refl (w : World) : Consulted w w := ⟨[], by simp, by simp [asked]⟩

/-- Reads after reads are reads. -/
theorem Consulted.trans {w v u : World} (h : Consulted w v) (h' : Consulted v u) :
    Consulted w u := by
  obtain ⟨reads, hreads, rfl⟩ := h
  obtain ⟨reads', hreads', rfl⟩ := h'
  exact ⟨reads ++ reads', List.forall_mem_append.2 ⟨hreads, hreads'⟩, by simp [asked]⟩

theorem Consulted.logged {c : Call} (hc : c.isRead = true) (w : World) : Consulted w (w.logged c) :=
  ⟨[c], by simpa using hc, rfl⟩

/-- What is composed of actions that only read the store only reads the store. -/
theorem closed_consulted : Action.Closed (Action.Moves Consulted) :=
  Action.closed_moves Consulted.refl fun _ _ _ => Consulted.trans

end World

namespace Manager

variable (k : Keyspace) (p : Platform) (r : Request)

/-- To build an app only reads the store. -/
theorem buildApp_consulted : Action.Moves World.Consulted ((World.manager k p).buildApp r) :=
  buildApp_closed World.closed_consulted
    (fun _ => World.moves_guarded (.logged rfl) (.logged rfl))
    (fun _ _ => World.moves_guarded (.logged rfl) (.logged rfl)) r

/-- An installation reads the catalog.  If the app can be built, one call submits it, and that may
    fail. -/
theorem install_runs (v : World) :
    let m := World.manager k p
    ∃ reads, (∀ c ∈ reads, c.isRead = true) ∧
      ((∃ e, (m.buildApp r v).1 = .error e ∧ m.install r v = (.error e, v.asked reads)) ∨
        ∃ d a, (m.buildApp r v).1 = .ok (d, a) ∧
          let after := v.asked (reads ++ [.create a.id])
          ((∃ e, m.install r v = (.error e, after)) ∨
            ∃ answer, m.install r v =
              (.ok ⟨a.id, d.name, d.version, d.release, answer⟩, after.withApp a))) := by
  intro m
  obtain ⟨reads, hreads, hafter⟩ := buildApp_consulted k p r v
  refine ⟨reads, hreads, ?_⟩
  -- Either no app can be built, or one call is left to make.
  rcases hbuild : m.buildApp r v with ⟨e | ⟨d, a⟩, u⟩
  · obtain rfl : u = _ := (congrArg Prod.snd hbuild).symm.trans hafter
    exact .inl ⟨e, rfl, Action.bind_of_error hbuild⟩
  · obtain rfl : u = _ := (congrArg Prod.snd hbuild).symm.trans hafter
    have hrun : m.install r v = _ := Action.bind_of_ok hbuild
    have hlogged : (v.asked reads).logged (.create a.id) = v.asked (reads ++ [.create a.id]) := by
      simp [World.logged, World.asked]
    refine .inr ⟨d, a, rfl, ?_⟩
    rcases World.create_cases a (v.asked reads) with ⟨answer, hcreate, -⟩ | ⟨e, hcreate, -⟩
    · rw [hlogged] at hcreate
      exact .inr ⟨answer, hrun.trans (Action.bind_of_ok hcreate)⟩
    · rw [hlogged] at hcreate
      exact .inl ⟨e, hrun.trans (Action.bind_of_error hcreate)⟩

variable {k p r} {w : World} {d : Definition} {a : App}

/-- **What an installation announces.**  An app that is built for a request is the one in its
    manifest, but for its id, if one is asked for, and for the labels of its provenance; these are
    set whatever the manifest says.  To install it in any world the catalog is read, and at most one
    app is submitted: the one that is built in that world, which is the same if the store is.  With
    an error nothing has changed but the record of calls.  A report gives the id of the app that was
    added, and the release that its labels name. -/
theorem install_announced (hbuild : ((World.manager k p).buildApp r w).1 = .ok (d, a)) :
    let m := World.manager k p
    (∃ manifest plain, d.manifest = .ok manifest ∧ App.ofManifest manifest = .ok plain ∧
      a.Announces plain d r ∧
      (a.label? Label.exposed = some "true" ↔ d.loadBalancer = .ok "external")) ∧
    ∀ v : World, ∃ reads, (∀ c ∈ reads, c.isRead = true) ∧
      ((∃ e, (m.buildApp r v).1 = .error e ∧ m.install r v = (.error e, v.asked reads)) ∨
        ∃ d' b, (m.buildApp r v).1 = .ok (d', b) ∧ (v.store = w.store → d' = d ∧ b = a) ∧
          let after := v.asked (reads ++ [.create b.id])
          ((∃ e, m.install r v = (.error e, after)) ∨
            ∃ report, m.install r v = (.ok report, after.withApp b) ∧ report.appId = b.id ∧
              b.label? Label.packageName = some report.package ∧
              b.label? Label.packageVersion = some report.version ∧
              b.label? Label.packageRelease = some report.release)) := by
  intro m
  obtain ⟨manifest, plain, hmanifest, hplain, hannounces⟩ :=
    Definition.app_announces (app_of_buildApp hbuild)
  refine ⟨⟨manifest, plain, hmanifest, hplain, hannounces, hannounces.external⟩, fun v => ?_⟩
  obtain ⟨reads, hreads, hcases⟩ := install_runs k p r v
  refine ⟨reads, hreads, hcases.imp id ?_⟩
  rintro ⟨d', b, hbuild', hsubmitted⟩
  refine ⟨d', b, hbuild', fun hstore => ?_, hsubmitted.imp id ?_⟩
  · -- The app that is built is told by the store.
    have hw := (buildApp_answers (m := m) (World.serves w) r).eq_of_ok (.refl w) hbuild
    have hv := (buildApp_answers (m := m) (World.serves v) r).eq_of_ok (.refl v) hbuild'
    rw [hstore] at hv
    cases hv.symm.trans hw
    exact ⟨rfl, rfl⟩
  · rintro ⟨answer, hrun⟩
    have hcarries := Definition.app_carries (app_of_buildApp hbuild')
    exact ⟨_, hrun, rfl, hcarries.name, hcarries.version, hcarries.release⟩

/-- A world whose catalog has a package with a manifest that sets labels of the provenance. -/
def pretendingWorld : World :=
  World.holding <| Table.ofList [
    ("r/0/name", Utf8.encode "base"),
    ("r/0/repo/meta/index.json", Utf8.encode
      "[\x7b\"name\":\"kafka\",\"versions\":\x7b\"1\":\"0\"\x7d\x7d]"),
    ("r/0/repo/packages/K/kafka/0/marathon.json", Utf8.encode <|
      "\x7b\"id\":\"/m\",\"labels\":\x7b\"MANTL_PACKAGE_NAME\":\"other\"," ++
      "\"DCOS_PACKAGE_FRAMEWORK_NAME\":\"kafka-prod\"\x7d\x7d")]

/-- The labels of the provenance are set in spite of the manifest, and the app with them is the one
    that is submitted. -/
theorem install_announced_pretending :
    let m := World.manager ⟨"r", "a"⟩ .empty
    let r := Request.named "kafka"
    ∃ d a plain, (m.buildApp r pretendingWorld).1 = .ok (d, a) ∧ a.Announces plain d r ∧
      plain.label? Label.packageName = some "other" ∧ a.label? Label.packageName = some d.name ∧
      a.label? Label.frameworkName = some "kafka-prod" ∧ a.id = "/m" ∧
      (m.install r pretendingWorld).2.apps = [a] := by
  intro m r
  have hany : (m.buildApp r pretendingWorld).1.toOption.any (fun built =>
      built.1.manifest.toOption.any fun manifest =>
        (App.ofManifest manifest).toOption.any fun plain =>
          plain.label? Label.packageName == some "other" && plain.id == "/m" &&
            plain.label? Label.foreignFrameworkName == some "kafka-prod") = true := by
    decide +kernel
  obtain ⟨⟨d, a⟩, hbuild, hmanifest⟩ := Action.exists_ok_of_any hany
  obtain ⟨manifest, hmanifest, hplain⟩ := Action.exists_ok_of_any hmanifest
  obtain ⟨plain, hplain, hlabels⟩ := Action.exists_ok_of_any hplain
  simp only [Bool.and_eq_true, beq_iff_eq] at hlabels
  obtain ⟨⟨hother, hid⟩, hforeign⟩ := hlabels
  obtain ⟨⟨manifest', plain', hmanifest', hplain', hannounces, -⟩, -⟩ := install_announced hbuild
  cases hmanifest.symm.trans hmanifest'
  cases hplain.symm.trans hplain'
  refine ⟨d, a, plain, hbuild, hannounces, hother, hannounces.release.name, ?_,
    hannounces.id.trans hid, ?_⟩
  · rw [hannounces.frameworkName, hforeign]
    rfl
  · -- No call fails and there is no other app, so the app is added.
    have happ :=
      (buildApp_answers (m := m) (World.serves pretendingWorld) r).eq_of_ok (.refl _) hbuild
    obtain ⟨-, happs, -⟩ := install_works ⟨"r", "a"⟩ .empty r (w := pretendingWorld) fun _ _ => rfl
    have hnone : pretendingWorld.apps = [] := rfl
    rw [happs, Keyspace.newApp?_of_appIn happ, hnone, List.any_nil, if_neg Bool.false_ne_true,
      Option.toList_some, List.nil_append]

end Manager

end ClusterPackages
