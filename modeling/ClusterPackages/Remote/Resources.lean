import ClusterPackages.Cluster.Call
import ClusterPackages.Cluster.Services
import ClusterPackages.Http.Endpoint
import ClusterPackages.Http.Form

namespace ClusterPackages.Remote

open Text Http

/-!
# The resource manager over HTTP

* `resources` — the resource manager.
-/

/-- The state in an answer. -/
def stateOf (r : Reply) : Except Error ClusterState :=
  if r.isSuccess then ClusterState.parse r.text
  else .error (Call.error .state (.status r.status none))

/-- Nothing, if the answer to the shutdown of a framework tells of success. -/
def tornDown (id : String) (r : Reply) : Except Error Unit :=
  if r.isSuccess then .ok ()
  else .error (Call.error (.teardown id) (.status r.status (some r.text)))

/-- The form that names a framework. -/
def frameworkForm (id : String) : Payload :=
  ⟨some "application/x-www-form-urlencoded", Utf8.encode (Form.toText [("frameworkId", id)])⟩

/-- The resource manager at an endpoint. -/
def resources {σ : Type} (t : Transport σ) (e : Endpoint) : Resources σ where
  state := do
    let reply ← e.send t .get "master/state.json" .none
    Action.ofExcept (stateOf reply)
  teardown id := do
    let reply ← e.send t .post "master/teardown" (frameworkForm id)
    Action.ofExcept (tornDown id reply)

end ClusterPackages.Remote
