import ClusterPackages.Deploy.Install
import ClusterPackages.Proofs.Catalog.Extent
import ClusterPackages.Proofs.Catalog.Reads
import ClusterPackages.Proofs.Deploy.Provenance

namespace ClusterPackages

open Text

/-!
# The course of an installation

What is in the store and which apps there are decide on the app that a request adds; failing calls
can keep it from being added, and do nothing else.

* `Definition.app_id`, `Definition.app_carries` — the app has the id that was asked for, and its
  labels name the release of the definition.
* `Keyspace.appIn` — the app that a request asks for, as a table has it.
* `Keyspace.newApp?` — the app that a request adds to given apps.
* `Manager.install_cases` — an installation adds that app, or ends with an error and adds none.
* `Manager.install_ok` — an installation that ends well adds the one app, and changes nothing else.
-/

open ClusterPackages.Action (Answers answers_pure answers_ofExcept)

namespace Definition

variable {d : Definition} {a : App}

/-- The app is that of the rendered manifest, under the id that is asked for, and labelled. -/
theorem app_eq_ok {id : Option String} (h : d.app id = .ok a) :
    ∃ manifest plain, d.manifest = .ok manifest ∧ App.ofManifest manifest = .ok plain ∧
      (plain.withRequestedId id).attachProvenance d = .ok a := by
  obtain ⟨manifest, hmanifest, h⟩ := Action.except_bind_eq_ok.1 h
  obtain ⟨plain, hplain, h⟩ := Action.except_bind_eq_ok.1 h
  exact ⟨manifest, plain, hmanifest, hplain, h⟩

/-- An app has the id that was asked for, in its normal form. -/
theorem app_id {id : String} (h : d.app (some id) = .ok a) : a.id = normalizeId id := by
  obtain ⟨manifest, plain, -, -, hlabels⟩ := app_eq_ok h
  rw [App.attachProvenance_id hlabels, App.withRequestedId]

/-- An app that was made from a definition is labelled with its release. -/
theorem app_carries {id : Option String} (h : d.app id = .ok a) : a.Carries d := by
  obtain ⟨manifest, plain, -, -, hlabels⟩ := app_eq_ok h
  exact App.attachProvenance_carries hlabels

theorem app_packageName {id : Option String} (h : d.app id = .ok a) :
    a.label? Label.packageName = some d.name := (app_carries h).name

end Definition

/-! ### The app that a request asks for -/

namespace Keyspace

/-- The definition that a request denotes and the labelled app that it asks for, as a table has
    them. -/
def appIn (k : Keyspace) (p : Platform) (t : Table Bytes) (r : Request) :
    Except Error (Definition × App) := do
  r.validate
  let d ← k.definitionIn t r.name r.requestedVersion (r.config.getD ∅) p
  let app ← d.app r.requestedId
  .ok (d, app)

/-- The app that a request adds to the apps: there must be none with its id. -/
def newApp? (k : Keyspace) (p : Platform) (t : Table Bytes) (apps : List App) (r : Request) :
    Option App :=
  match k.appIn p t r with
  | .ok (_, a) => if apps.any (·.id == a.id) then none else some a
  | .error _ => none

variable {k : Keyspace} {p : Platform} {t t' : Table Bytes} {apps : List App} {r : Request}
  {d : Definition} {a : App}

/-- The app is that of the definition that the request denotes. -/
theorem definitionIn_of_appIn (h : k.appIn p t r = .ok (d, a)) :
    k.definitionIn t r.name r.requestedVersion (r.config.getD ∅) p = .ok d ∧
      d.app r.requestedId = .ok a := by
  obtain ⟨_, -, h⟩ := Action.except_bind_eq_ok.1 h
  obtain ⟨d', hdefinition, h⟩ := Action.except_bind_eq_ok.1 h
  obtain ⟨a', happ, h⟩ := Action.except_bind_eq_ok.1 h
  cases h
  exact ⟨hdefinition, happ⟩

/-- A request that leads to an app is valid and denotes a package by its name, up to case. -/
theorem appIn_eq_ok (h : k.appIn p t r = .ok (d, a)) :
    r.validate = .ok () ∧ d.app r.requestedId = .ok a ∧
      sameIgnoringCase d.name (trim r.name) = true := by
  obtain ⟨hdefinition, happ⟩ := definitionIn_of_appIn h
  obtain ⟨_, hvalid, -⟩ := Action.except_bind_eq_ok.1 h
  obtain ⟨package, v, hpackage, -, hname, -⟩ := definitionIn_eq_ok hdefinition
  obtain ⟨packages, -, hfound⟩ := Action.except_bind_eq_ok.1 hpackage
  have hsame := List.find?_some (Except.ok.inj hfound)
  exact ⟨hvalid, happ, hname ▸ hsame⟩

/-- A request adds the app that it leads to, unless there is one with its id. -/
theorem newApp?_of_appIn (h : k.appIn p t r = .ok (d, a)) :
    k.newApp? p t apps r = if apps.any (·.id == a.id) then none else some a := by
  simp only [newApp?, h]

/-- An app that a request adds is the one that it leads to, and no other app has its id. -/
theorem newApp?_eq_some (h : k.newApp? p t apps r = some a) :
    (∃ d, k.appIn p t r = .ok (d, a)) ∧ ∀ b ∈ apps, b.id ≠ a.id := by
  cases happ : k.appIn p t r with
  | error e =>
    simp only [newApp?, happ, reduceCtorEq] at h
  | ok built =>
    obtain ⟨d, b⟩ := built
    rw [newApp?_of_appIn happ] at h
    split at h
    · cases h
    · rename_i hany
      cases h
      exact ⟨⟨d, rfl⟩, by simpa using hany⟩

/-- The app that a request adds is labelled with the release that the request denotes. -/
theorem carries_of_newApp? (h : k.newApp? p t apps r = some a) :
    ∃ d, a.Carries d ∧ sameIgnoringCase d.name (trim r.name) = true := by
  obtain ⟨⟨d, happ⟩, -⟩ := newApp?_eq_some h
  obtain ⟨-, hbuilt, hname⟩ := appIn_eq_ok happ
  exact ⟨d, Definition.app_carries hbuilt, hname⟩

/-- A request leads to the same app in tables with one catalog. -/
theorem appIn_congr (h : k.SameCatalog t t') : k.appIn p t r = k.appIn p t' r := by
  unfold appIn
  rw [definitionIn_congr h]

theorem newApp?_congr (h : k.SameCatalog t t') :
    k.newApp? p t apps r = k.newApp? p t' apps r := by
  unfold newApp?
  rw [appIn_congr h]

end Keyspace

/-! ### Installations -/

/-- To build an app is to read off the store what the request leads to. -/
theorem buildApp_answers {σ : Type} {m : Manager σ} {I : σ → Prop} {faulty : Prop}
    {t : Table Bytes} (hs : m.services.store.Serves I faulty t) (r : Request) :
    Answers I faulty (m.buildApp r) (m.keyspace.appIn m.platform t r) :=
  (answers_ofExcept _).bind fun _ _ =>
    (resolveDefinition_answers hs m.keyspace _ _ _ _).bind fun _ _ =>
      (answers_ofExcept _).bind fun _ _ => answers_pure _

namespace Manager

/-- The app that is built is that of the definition. -/
theorem app_of_buildApp {σ : Type} {m : Manager σ} {r : Request} {s : σ} {d : Definition} {a : App}
    (h : (m.buildApp r s).1 = .ok (d, a)) : d.app r.requestedId = .ok a := by
  obtain ⟨_, -, h⟩ := Action.bind_eq_ok h
  obtain ⟨d', -, h⟩ := Action.bind_eq_ok h
  obtain ⟨a', happ, h⟩ := Action.bind_eq_ok h
  cases h
  exact happ

/-- An app is built by reading the catalog. -/
theorem buildApp_closed {σ : Type} {m : Manager σ} {P : ∀ ⦃α : Type⦄, Action σ α → Prop}
    (hP : Action.Closed P) (hget : ∀ key, P (m.services.store.get key))
    (hkeys : ∀ start separator, P (m.services.store.keys start separator)) (r : Request) :
    P (m.buildApp r) :=
  hP.bind (hP.ofExcept _) fun _ =>
    hP.bind (resolveDefinition_closed hP hget hkeys m.keyspace _ _ _ _)
      fun _ => hP.bind (hP.ofExcept _) fun _ => hP.pure _

variable (k : Keyspace) (p : Platform) (r : Request)

/-- Building the app that a request asks for changes nothing; only calls are made. -/
theorem buildApp_asked : Action.Moves World.Asked ((World.manager k p).buildApp r) :=
  buildApp_closed World.closed_asked World.get_asked World.keys_asked r

/-- Either the app that the request asks for is new and has been added, or the installation has
    ended with an error and nothing is added.  If no call fails, there is no new app then. -/
theorem install_cases (w : World) :
    let out := (World.manager k p).install r w
    (∃ report d a, out.1 = .ok report ∧ k.appIn p w.store r = .ok (d, a) ∧
      k.newApp? p w.store w.apps r = some a ∧ report.appId = a.id ∧ report.package = d.name ∧
      (w.withApp a).Asked out.2) ∨
    (∃ e, out.1 = .error e) ∧ w.Asked out.2 ∧
      ((∀ calls c, w.fails calls c = false) → k.newApp? p w.store w.apps r = none) := by
  intro out
  have hanswers := buildApp_answers (m := World.manager k p) (World.serves w) r
  have hasked := buildApp_asked k p r w
  rcases hbuild : (World.manager k p).buildApp r w with ⟨e | ⟨d, a⟩, v⟩
  · -- The app cannot be built.
    have hout : out = (.error e, v) := Action.bind_of_error hbuild
    rw [hbuild] at hasked
    refine .inr ⟨⟨e, by rw [hout]⟩, by rw [hout]; exact hasked, fun hworks => ?_⟩
    have happ := hanswers.outcome (.refl w) (World.not_faulty hworks)
    rw [hbuild] at happ
    rw [Keyspace.newApp?, ← show Except.error e = k.appIn p w.store r from happ]
  · have happ : k.appIn p w.store r = .ok (d, a) :=
      hanswers.eq_of_ok (.refl w) (by rw [hbuild])
    have hnew : k.newApp? p w.store w.apps r = _ := Keyspace.newApp?_of_appIn happ
    rw [hbuild] at hasked
    obtain ⟨later, hlater, rfl⟩ := hasked
    have hrun : out = _ := Action.bind_of_ok hbuild
    rcases World.create_cases a { w with calls := w.calls ++ later } with
      ⟨answer, hcreate, hfresh⟩ | ⟨e, hcreate, hrefused⟩
    · have hout := hrun.trans (Action.bind_of_ok hcreate)
      rw [if_neg (by rw [hfresh]; decide)] at hnew
      refine .inl ⟨⟨a.id, d.name, d.version, d.release, answer⟩, d, a, by rw [hout]; rfl, happ,
        hnew, rfl, rfl, ?_⟩
      rw [hout]
      refine ⟨later ++ [.create a.id], ?_, by rw [← List.append_assoc]; rfl⟩
      rw [List.filterMap_append, hlater]
      rfl
    · have hout := hrun.trans (Action.bind_of_error hcreate)
      refine .inr ⟨⟨e, by rw [hout]⟩, ?_, fun hworks => ?_⟩
      · rw [hout]
        exact World.Asked.trans ⟨later, hlater, rfl⟩ (.logged rfl _)
      · -- The call does not fail, so there is an app with the id.
        have hany : w.apps.any (·.id == a.id) = true :=
          hrefused.resolve_left (by rw [hworks]; decide)
        rw [hnew, if_pos hany]

/-- Where no call fails, an installation ends well exactly if the request adds an app, which it then
    has added. -/
theorem install_works {w : World} (hworks : ∀ calls c, w.fails calls c = false) :
    let out := (World.manager k p).install r w
    let created := k.newApp? p w.store w.apps r
    out.1.toBool = created.isSome ∧ out.2.apps = w.apps ++ created.toList ∧
      out.2.store = w.store ∧ out.2.fails = w.fails := by
  intro out created
  rcases install_cases k p r w with
    ⟨report, d, a, hreport, -, hnew, -, -, later, -, hafter⟩ |
    ⟨⟨e, he⟩, ⟨later, -, hafter⟩, hnone⟩
  · have hcreated : created = some a := hnew
    rw [show out.1 = _ from hreport, show out.2 = _ from hafter, hcreated]
    exact ⟨rfl, rfl, rfl, rfl⟩
  · have hcreated : created = none := hnone hworks
    rw [show out.1 = _ from he, show out.2 = _ from hafter, hcreated]
    exact ⟨rfl, (List.append_nil _).symm, rfl, rfl⟩

/-- An installation that ends well adds the one app, whose id no other app has, and changes nothing
    else. -/
theorem install_ok {w : World} {report : InstallReport}
    (h : ((World.manager k p).install r w).1 = .ok report) :
    ∃ (d : Definition) (a : App) (calls : List Call),
      r.validate = .ok () ∧ d.app r.requestedId = .ok a ∧
      sameIgnoringCase d.name (trim r.name) = true ∧
      report.appId = a.id ∧ report.package = d.name ∧ (∀ b ∈ w.apps, b.id ≠ a.id) ∧
      ((World.manager k p).install r w).2 = { w.withApp a with calls := calls } := by
  rcases install_cases k p r w with
    ⟨report', d, a, hreport, happ, hnew, hid, hpackage, later, -, hafter⟩ | ⟨⟨e, he⟩, -⟩
  · cases hreport.symm.trans h
    obtain ⟨hvalid, hbuilt, hname⟩ := Keyspace.appIn_eq_ok happ
    exact ⟨d, a, _, hvalid, hbuilt, hname, hid, hpackage, (Keyspace.newApp?_eq_some hnew).2, hafter⟩
  · cases he.symm.trans h

end Manager

end ClusterPackages
