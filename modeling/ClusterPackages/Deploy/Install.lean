import ClusterPackages.Deploy.Manager
import ClusterPackages.Deploy.Provenance
import ClusterPackages.Deploy.Request

namespace ClusterPackages

/-!
# Installing

* `Manager.buildApp` — the labelled app that a request asks for; only the catalog is read.
* `Manager.install` — submits that app to the scheduler.
-/

/-- What was installed. -/
structure InstallReport where
  /-- The id of the app. -/
  appId : String
  /-- The name of the package. -/
  package : String
  /-- The version. -/
  version : String
  /-- The release. -/
  release : String
  /-- The answer of the scheduler. -/
  response : String
deriving DecidableEq, Repr

/-- The report as a value. -/
def InstallReport.toJson (r : InstallReport) : Json :=
  .obj [("app_id", .str r.appId), ("package", .str r.package), ("version", .str r.version),
    ("release", .str r.release), ("response", .str r.response)]

/-- The app with the id that a request asks for, if it asks for one. -/
def App.withRequestedId (a : App) (id : Option String) : App :=
  match id with
  | some id => { a with id := normalizeId id }
  | none => a

/-- The labelled app of a definition, under the id that is asked for. -/
def Definition.app (d : Definition) (id : Option String) : Except Error App := do
  let manifest ← d.manifest
  let app ← App.ofManifest manifest
  (app.withRequestedId id).attachProvenance d

namespace Manager

variable {σ : Type} (m : Manager σ)

/-- The definition that a request denotes and the labelled app that it asks for. -/
def buildApp (r : Request) : Action σ (Definition × App) := do
  Action.ofExcept r.validate
  let d ← m.definition r.name r.requestedVersion (r.config.getD ∅)
  let app ← Action.ofExcept (d.app r.requestedId)
  pure (d, app)

/-- Installs what a request asks for. -/
def install (r : Request) : Action σ InstallReport := do
  let (d, app) ← m.buildApp r
  let response ← m.services.scheduler.create app
  pure ⟨app.id, d.name, d.version, d.release, response⟩

end Manager

end ClusterPackages
