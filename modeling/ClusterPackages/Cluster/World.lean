import ClusterPackages.Cluster.Call
import ClusterPackages.Cluster.Ensemble
import ClusterPackages.Cluster.NodeTree
import ClusterPackages.Cluster.Services

namespace ClusterPackages

open Text

/-!
# A world in memory

All four services over plain data, with calls that fail on demand.

* `World` — the data, the plan of failing calls, the calls made so far and what they changed.
* `World.guarded` — makes a call: it is put on record, and fails with status 503 if the plan says
  so, before anything else is looked at.
* `World.services` — the services.
-/

/-- A change that a call has made. -/
inductive Event where
  /-- The app was submitted. -/
  | created (app : App)
  /-- The apps with the id were removed. -/
  | destroyed (id : String)
  /-- The framework with the id was shut down. -/
  | tornDown (id : String)
  /-- The node was removed. -/
  | nodeDeleted (path : String)
  /-- The key was removed. -/
  | keyDeleted (key : String)

/-- The data of the coordination service. -/
inductive Coordination where
  /-- The nodes of a service that can be reached. -/
  | tree (nodes : NodeTree)
  /-- A service with none but blank servers, which cannot be reached. -/
  | offline (servers : List String)

/-- All services over plain data. -/
structure World where
  /-- The keys of the store with their values. -/
  store : Table Bytes
  /-- The apps of the scheduler. -/
  apps : List App
  /-- The state of the resource manager. -/
  state : ClusterState
  /-- The data of the coordination service. -/
  coordination : Coordination
  /-- Which call fails, given all calls before it. -/
  fails : List Call → Call → Bool
  /-- All calls made so far, in order. -/
  calls : List Call
  /-- All changes made so far, in order. -/
  events : List Event

namespace World

/-- Makes a call. -/
def guarded {α : Type} (c : Call) (act : Action World α) : Action World α := fun w =>
  let after := { w with calls := w.calls ++ [c] }
  if w.fails w.calls c then (.error (c.error (.status 503 none)), after) else act after

/-- Puts a change on record. -/
def record (e : Event) (w : World) : World := { w with events := w.events ++ [e] }

/-! ### The key-value store -/

/-- The keys that start with a text, in ascending order. -/
def keysFrom (store : Table Bytes) (start : String) : List String :=
  store.keys.filter (startsWith start)

/-- A key, cut after the first separator that follows `start`. -/
def rollUp (start : String) (separator : Option String) (key : String) : String :=
  match separator.bind fun sep => (stripPrefix? start key).bind (cutAt? sep) with
  | some rest => start ++ rest
  | none => key

/-- The texts in ascending order, each once. -/
def distinct (l : List String) : List String := (Table.ofList (l.map (·, ()))).keys

/-- The key-value store. -/
def storeService : Store World where
  get key := guarded (.get key) fun w => (.ok (w.store.find? key), w)
  put key value := guarded (.put key) fun w =>
    (.ok (), { w with store := w.store.insert key value })
  keys start separator := guarded (.keys start) fun w =>
    (.ok (distinct ((keysFrom w.store start).map (rollUp start separator))), w)
  list start := guarded (.list start) fun w =>
    (.ok (w.store.entries.filter fun e => startsWith start e.1), w)
  delete key := guarded (.delete key) fun w =>
    (.ok (), record (.keyDeleted key) { w with store := w.store.erase key })

/-! ### The other services -/

/-- The scheduler.  It refuses an app with an id that exists, and to remove what does not. -/
def schedulerService : Scheduler World where
  apps := guarded .apps fun w => (.ok w.apps, w)
  create app := guarded (.create app.id) fun w =>
    if w.apps.any (·.id == app.id) then (.error (.alreadyInstalled app.id), w)
    else (.ok ("created " ++ app.id), record (.created app) { w with apps := w.apps ++ [app] })
  destroy id := guarded (.destroy id) fun w =>
    if w.apps.any (·.id == id) then
      (.ok "\x7b\x7d", record (.destroyed id) { w with apps := w.apps.filter (·.id != id) })
    else (.error (Call.error (.destroy id) (.status 404 none)), w)

/-- The resource manager. -/
def resourcesService : Resources World where
  state := guarded .state fun w => (.ok w.state, w)
  teardown id := guarded (.teardown id) fun w => (.ok (), record (.tornDown id) w)

/-- The names of the nodes right below a path. -/
def childNames (path : String) : Action World (List String) := fun w =>
  match w.coordination with
  | .offline servers => (Ensemble.offline servers).children path w
  | .tree nodes =>
    match nodes.children? path with
    | some names => (.ok names, w)
    | none => (.error (Call.error (.children path) .noNode), w)

/-- Why a node cannot be removed, as a reason. -/
def nodeReason : NodeFault → Reason
  | .missing => .noNode
  | .occupied => .nodeNotEmpty

/-- Removes a node. -/
def deleteNode (path : String) : Action World Unit := fun w =>
  match w.coordination with
  | .offline servers => (Ensemble.offline servers).delete path w
  | .tree nodes =>
    match nodes.delete path with
    | .ok rest => (.ok (), record (.nodeDeleted path) { w with coordination := .tree rest })
    | .error fault => (.error (Call.error (.deleteNode path) (nodeReason fault)), w)

/-- The coordination service. -/
def coordinatorService : Coordinator World where
  children path := guarded (.children path) (childNames path)
  delete path := guarded (.deleteNode path) (deleteNode path)
  depth w :=
    match w.coordination with
    | .offline _ => 1
    | .tree nodes => nodes.nodes.size + 2

/-- All four services. -/
def services : Services World :=
  ⟨storeService, schedulerService, resourcesService, coordinatorService⟩

end World

end ClusterPackages
