import ClusterPackages.Cluster.Subtree
import ClusterPackages.Deploy.Cleanup
import ClusterPackages.Deploy.Manager
import ClusterPackages.Deploy.Request

namespace ClusterPackages

/-!
# Removing

* `Manager.findInstalled` — the apps that a request denotes.
* `Manager.uninstall` — removes the one app that a request denotes.
* `Manager.uninstallApp` — removes an app: first from the scheduler, then its framework from the
  resource manager, then its nodes from the coordination service.  Once the app is gone the nodes
  are cleared whatever becomes of the framework.
-/

/-- What became of the framework of a removed app. -/
inductive FrameworkOutcome where
  /-- The app registers no framework. -/
  | notAFramework
  /-- No framework is registered under the name. -/
  | notRegistered (name : String)
  /-- The framework with the id was shut down. -/
  | tornDown (name id : String)
deriving DecidableEq, Repr

/-- The outcome as a value. -/
def FrameworkOutcome.toJson : FrameworkOutcome → Json
  | .notAFramework => .obj [("status", .str "not_a_framework")]
  | .notRegistered name => .obj [("status", .str "not_registered"), ("name", .str name)]
  | .tornDown name id => .obj [("status", .str "torn_down"), ("name", .str name), ("id", .str id)]

/-- What was removed. -/
structure UninstallReport where
  /-- The id of the app. -/
  appId : String
  /-- What became of its framework. -/
  framework : FrameworkOutcome
  /-- The nodes that were removed. -/
  cleanupDeleted : List String
  /-- The nodes that could not be removed. -/
  cleanupFailed : List String
deriving DecidableEq, Repr

/-- The report as a value. -/
def UninstallReport.toJson (r : UninstallReport) : Json :=
  .obj [("app_id", .str r.appId), ("framework", r.framework.toJson),
    ("cleanup_deleted", Json.ofTexts r.cleanupDeleted),
    ("cleanup_failed", Json.ofTexts r.cleanupFailed)]

namespace Manager

variable {σ : Type} (m : Manager σ)

/-- Every app that came from the catalog. -/
def installed : Action σ (List App) := do
  let apps ← m.services.scheduler.apps
  pure (apps.filter App.isPackage)

/-- The apps that came from a package, narrowed to those with an id if one is asked for. -/
def selected (name : String) (id : Option String) (apps : List App) : List App :=
  let ofPackage := apps.filter (App.isOfPackage name)
  match id with
  | some id => ofPackage.filter (App.hasId id)
  | none => ofPackage

/-- The apps that a request denotes. -/
def findInstalled (r : Request) : Action σ (List App) := do
  let apps ← m.services.scheduler.apps
  pure (selected r.name r.requestedId apps)

/-! ### The framework -/

/-- Shuts down the framework that an app registers.  Nothing is shut down when several frameworks
    have its name, finished ones among them. -/
def teardownFramework (a : App) : Action σ FrameworkOutcome := do
  match a.frameworkName? with
  | none => pure .notAFramework
  | some name =>
    let state ← m.services.resources.state
    match state.named name with
    | [] => pure (.notRegistered name)
    | [f] =>
      m.services.resources.teardown f.id
      pure (.tornDown name f.id)
    | several => Action.fail (.ambiguousFramework several.length name)

/-! ### The nodes -/

/-- The cleanup steps of the release that an app's labels denote. -/
def recomputeCleanup (name : String) (version : Option String) : Action σ CleanupSpec := do
  let d ← m.definition name version ∅
  let rendered ← Action.ofExcept d.uninstall
  Action.ofExcept (CleanupSpec.parse rendered)

/-- The cleanup steps of an app: those that it carries, or, if it carries none, those that its
    release would have now.  Unreadable steps are no steps. -/
def cleanupSpec (a : App) : Action σ (Option CleanupSpec) := do
  match a.label? Label.cleanup with
  | some encoded =>
    if encoded.isEmpty then pure none else pure (CleanupSpec.decodeLabel encoded).toOption
  | none =>
    match a.label? Label.packageName with
    | none => pure none
    | some name =>
      let outcome ← (m.recomputeCleanup name (a.label? Label.packageVersion)).attempt
      pure outcome.toOption

/-- Removes subtrees one after another; one that cannot be listed is reported as not removed. -/
def removeTrees : List String → Action σ Removal
  | [] => pure .none
  | path :: rest => do
    let outcome ← (m.services.coordinator.removeTree path).attempt
    let others ← removeTrees rest
    match outcome with
    | .ok removal => pure (removal.append others)
    | .error _ => pure (.append ⟨[], [path]⟩ others)

/-- Clears the nodes that an app's cleanup steps name. -/
def cleanUp (a : App) : Action σ Removal := do
  match ← m.cleanupSpec a with
  | none => pure .none
  | some spec => m.removeTrees spec.always

/-! ### The app -/

/-- Removes an app with all that belongs to it. -/
def uninstallApp (a : App) : Action σ UninstallReport := do
  let _ ← m.services.scheduler.destroy a.id
  let outcome ← (m.teardownFramework a).attempt
  let removal ← m.cleanUp a
  let framework ← Action.ofExcept outcome
  pure ⟨a.id, framework, removal.deleted, removal.failed⟩

/-- Removes the one app that a request denotes. -/
def uninstall (r : Request) : Action σ UninstallReport := do
  Action.ofExcept r.validate
  match ← m.findInstalled r with
  | [] => Action.fail (.notInstalled r.name r.requestedId)
  | [app] => m.uninstallApp app
  | several => Action.fail (.ambiguousApp r.name (several.map (·.id)))

end Manager

end ClusterPackages
