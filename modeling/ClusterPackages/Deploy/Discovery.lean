import ClusterPackages.Cluster.Services
import ClusterPackages.Config.Platform

namespace ClusterPackages.Platform

/-!
# What the cluster contributes

* `ofState` — the values for credentials and a state of the resource manager.
* `discover` — the values for credentials and the current state of the resource manager.
-/

/-- The values for credentials, the state of the resource manager, and the coordination servers. -/
def ofState (c : Credentials) (hosts : Option String) (s : ClusterState) : Platform :=
  ofCredentials c s.requiresAuthentication hosts

/-- The values for credentials and coordination servers, as the resource manager now is. -/
def discover {σ : Type} (r : Resources σ) (c : Credentials) (hosts : Option String) :
    Action σ Platform := do
  let state ← r.state
  pure (ofState c hosts state)

end ClusterPackages.Platform
