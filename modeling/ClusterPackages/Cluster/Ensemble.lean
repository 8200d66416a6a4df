import ClusterPackages.Cluster.Call
import ClusterPackages.Cluster.Services
import ClusterPackages.Text.Blank

namespace ClusterPackages

open Text

/-!
# The servers of the coordination service

* `Ensemble.connectString` — the configured servers as one text; blank ones do not count.
* `Ensemble.offline` — the coordination service when no server is configured: every call fails.
* `Ensemble.unreachable` — the coordination service when none of its servers can be reached.
* `Ensemble.coordinator` — the coordination service for the configured servers.
-/

namespace Ensemble

/-- The servers that are not blank, without the blanks around them. -/
def hosts (servers : List String) : List String :=
  (servers.map trim).filter fun s => !s.isEmpty

/-- The servers to connect to, as one text; there must be one. -/
def connectString (servers : List String) : Except Error String :=
  if (hosts servers).isEmpty then .error .noServers else .ok (join "," (hosts servers))

/-- The coordination service when no server is configured. -/
def offline {σ : Type} (servers : List String) : Coordinator σ where
  children path := .fail (Call.error (.children path) (.noSession servers))
  delete path := .fail (Call.error (.deleteNode path) (.noSession servers))
  depth _ := 1

/-- The coordination service when none of its servers can be reached. -/
def unreachable {σ : Type} (servers : String) : Coordinator σ where
  children _ := .fail (.failed "zookeeper connect" servers .unreachable)
  delete _ := .fail (.failed "zookeeper connect" servers .unreachable)
  depth _ := 1

/-- The coordination service for the configured servers, given a way to open a session with
    them. -/
def coordinator {σ : Type} (session : String → Coordinator σ) (servers : List String) :
    Coordinator σ :=
  match connectString servers with
  | .ok text => session text
  | .error _ => offline servers

end Ensemble

end ClusterPackages
