import ClusterPackages.Error

namespace ClusterPackages

/-!
# Calls

A call to one of the services, as it is named when it fails.

* `Call` — what is asked of which service.
* `Call.error` — the error of a call that failed for a reason.
-/

/-- What is asked of a service. -/
inductive Call where
  /-- The value at a key. -/
  | get (key : String)
  /-- To set the value at a key. -/
  | put (key : String)
  /-- The keys that start with a text. -/
  | keys (start : String)
  /-- The keys that start with a text, with their values. -/
  | list (start : String)
  /-- To remove a key. -/
  | delete (key : String)
  /-- The apps of the scheduler. -/
  | apps
  /-- To submit the app with an id. -/
  | create (id : String)
  /-- To remove the app with an id. -/
  | destroy (id : String)
  /-- The state of the resource manager. -/
  | state
  /-- To shut down the framework with an id. -/
  | teardown (id : String)
  /-- The names of the nodes right below a path. -/
  | children (path : String)
  /-- To remove a node. -/
  | deleteNode (path : String)
deriving DecidableEq, Repr

namespace Call

/-- What is done, in words. -/
def operation : Call → String
  | get _ => "kv get"
  | put _ => "kv put"
  | keys _ => "kv keys"
  | list _ => "kv list"
  | delete _ => "kv delete"
  | apps => "list apps"
  | create _ => "create app"
  | destroy _ => "destroy app"
  | state => "read cluster state"
  | teardown _ => "teardown framework"
  | children _ => "list children"
  | deleteNode _ => "delete node"

/-- What it is done to. -/
def context : Call → String
  | get key | put key | delete key => key
  | keys start | list start => start
  | apps => "v2/apps"
  | create id | destroy id | teardown id => id
  | state => "master/state.json"
  | children path | deleteNode path => path

/-- The error of a call that failed for the given reason. -/
def error (c : Call) (reason : Reason) : Error := .failed c.operation c.context reason

end Call

end ClusterPackages
