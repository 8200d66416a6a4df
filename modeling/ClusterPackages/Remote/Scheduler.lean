import ClusterPackages.Cluster.Call
import ClusterPackages.Cluster.Services
import ClusterPackages.Http.Endpoint

namespace ClusterPackages.Remote

open Text Json Http

/-!
# The scheduler over HTTP

Apps are listed and submitted at `v2/apps`, and removed at the path of their id below it.

* `scheduler` — the scheduler.
-/

/-- The path of the apps. -/
def appsPath : String := "v2/apps"

/-- The path of an app; slashes at the front of its id do not count. -/
def appPath (id : String) : String := appsPath ++ "/" ++ dropLeading '/' id

/-- The apps of a listing. -/
def appsOf? (d : Document) : Option (List App) :=
  match Document.record? ["apps"] d with
  | some [apps] => Document.absent [] (Document.list? (App.ofDocument? (nesting - 2))) apps
  | _ => none

/-- The apps of the listing that a text spells. -/
def readApps (s : String) : Except Error (List App) :=
  match (Document.read? (Utf8.symbols s)).bind appsOf? with
  | some apps => .ok apps
  | none => .error (Call.error .apps .malformed)

/-- The text of an answer, if it tells of success. -/
def textOf (c : Call) (r : Reply) : Except Error String :=
  if r.isSuccess then .ok r.text else .error (c.error (.status r.status (some r.text)))

/-- The text of the answer to a submission.  A conflict means that the scheduler has the app. -/
def created (id : String) (r : Reply) : Except Error String :=
  if r.status = 409 then .error (.alreadyInstalled id) else textOf (.create id) r

/-- The scheduler at an endpoint. -/
def scheduler {σ : Type} (t : Transport σ) (e : Endpoint) : Scheduler σ where
  apps := do
    let reply ← e.send t .get appsPath .none
    let text ← Action.ofExcept (textOf .apps reply)
    Action.ofExcept (readApps text)
  create app := do
    let body := Utf8.encode app.toJson.compact
    let reply ← e.send t .post appsPath ⟨some "application/json", body⟩
    Action.ofExcept (created app.id reply)
  destroy id := do
    let reply ← e.send t .delete (appPath id) .none
    Action.ofExcept (textOf (.destroy id) reply)

end ClusterPackages.Remote
