import ClusterPackages.Error
import ClusterPackages.Json.Record
import ClusterPackages.Time.Instant

namespace ClusterPackages

open Text Json

/-!
# The state of the cluster

What the resource manager tells about itself and about the frameworks that are registered with it.

* `Framework` — a registered framework.
* `ClusterState` — the frameworks by their stage of life, and the settings of the resource manager.
* `ClusterState.parse` — reads a state.  An entry of the lists of frameworks that is no readable
  object is left out.
* `ClusterState.named` — the frameworks with a name, in all stages of life.
* `FrameworkSummary` — what is shown of a framework.
-/

/-- A framework that is or was registered. -/
structure Framework where
  /-- Its name. -/
  name : String
  /-- Its id. -/
  id : String
  /-- Whether it is active. -/
  active : Bool
  /-- Where its scheduler runs. -/
  hostname : String
  /-- The user as whom its tasks run. -/
  user : String
  /-- When it was registered, in seconds since 1970. -/
  registeredTime : Binary64
  /-- When it was last registered again, in seconds since 1970. -/
  reregisteredTime : Binary64
  /-- Its tasks. -/
  tasks : List Json

namespace Framework

/-- A field of an object, read by `f`; a default when it is missing. -/
def read? {α : Type} (default : α) (f : Json → Option α) (name : String) (v : Json) : Option α :=
  match v.get? name with
  | none => some default
  | some x => f x

/-- A truth value. -/
def bool? : Json → Option Bool
  | .bool b => some b
  | _ => none

/-- A number. -/
def number? : Json → Option Binary64
  | .number n => some n.toBinary64
  | _ => none

/-- The items of an array. -/
def items? : Json → Option (List Json)
  | .arr items => some items
  | _ => none

/-- The framework that an object describes, if every field that it gives has the right form. -/
def ofJson? (v : Json) : Option Framework :=
  if v.isObject then do
    let name ← read? "" str? "name" v
    let id ← read? "" str? "id" v
    let active ← read? false bool? "active" v
    let hostname ← read? "" str? "hostname" v
    let user ← read? "" str? "user" v
    let registered ← read? (Binary64.zero false) number? "registered_time" v
    let reregistered ← read? (Binary64.zero false) number? "reregistered_time" v
    let tasks ← read? [] items? "tasks" v
    some ⟨name, id, active, hostname, user, registered, reregistered, tasks⟩
  else none

/-- The framework as a value. -/
def toJson (f : Framework) : Json :=
  .obj [("name", .str f.name), ("id", .str f.id), ("active", .bool f.active),
    ("hostname", .str f.hostname), ("user", .str f.user),
    ("registered_time", .number (.float f.registeredTime)),
    ("reregistered_time", .number (.float f.reregisteredTime)), ("tasks", .arr f.tasks)]

end Framework

/-- What the resource manager tells about itself. -/
structure ClusterState where
  /-- The frameworks that are registered. -/
  active : List Framework
  /-- The frameworks that have finished. -/
  completed : List Framework
  /-- The frameworks that have not registered again. -/
  unregistered : List Framework
  /-- The settings of the resource manager. -/
  flags : Table Json

namespace ClusterState

/-- The state in which nothing is registered. -/
def empty : ClusterState := ⟨[], [], [], ∅⟩

/-- The names of the fields of a state, in their order. -/
def fieldNames : List String :=
  ["frameworks", "completed_frameworks", "unregistered_frameworks", "flags"]

/-- The frameworks in a list, without the entries that are none. -/
def frameworks? (d : Document) : Option (List Framework) := do
  let values ← Document.nullable (Document.list? (Document.json? (nesting - 2))) d
  some ((values.getD []).filterMap Framework.ofJson?)

/-- The state that a document spells. -/
def ofDocument? (d : Document) : Option ClusterState :=
  match Document.record? fieldNames d with
  | some [active, completed, unregistered, flags] => do
    let active ← Document.absent [] frameworks? active
    let completed ← Document.absent [] frameworks? completed
    let unregistered ← Document.absent [] frameworks? unregistered
    let flags ← Document.absent ∅ (Document.table? (Document.json? (nesting - 2))) flags
    some ⟨active, completed, unregistered, flags⟩
  | _ => none

/-- The state that a text spells. -/
def parse (s : String) : Except Error ClusterState :=
  match (Document.read? (Utf8.symbols s)).bind ofDocument? with
  | some state => .ok state
  | none => .error (.failed "read cluster state" "master/state.json" .malformed)

/-- The state as a value. -/
def toJson (s : ClusterState) : Json :=
  .obj [("frameworks", .arr (s.active.map Framework.toJson)),
    ("completed_frameworks", .arr (s.completed.map Framework.toJson)),
    ("unregistered_frameworks", .arr (s.unregistered.map Framework.toJson)),
    ("flags", .obj s.flags.entries)]

/-- The frameworks in all stages of life. -/
def all (s : ClusterState) : List Framework := s.active ++ s.completed ++ s.unregistered

/-- The frameworks with the given name, in all stages of life. -/
def named (s : ClusterState) (name : String) : List Framework := s.all.filter (·.name == name)

/-- Whether the resource manager asks frameworks to identify themselves. -/
def requiresAuthentication (s : ClusterState) : Bool :=
  ((s.flags.find? "authenticate").bind str?).any (sameIgnoringCase · "true")

end ClusterState

/-! ### Summaries -/

/-- What is shown of a framework. -/
structure FrameworkSummary where
  /-- Its name. -/
  name : String
  /-- Its id. -/
  id : String
  /-- Whether it is active. -/
  active : Bool
  /-- Where its scheduler runs. -/
  hostname : String
  /-- The user as whom its tasks run. -/
  user : String
  /-- When it was registered. -/
  registered : Option Instant
  /-- When it was last registered again. -/
  reregistered : Option Instant
  /-- How many tasks it has. -/
  activeTasks : Nat

namespace FrameworkSummary

/-- The summary of a framework. -/
def ofFramework (f : Framework) : FrameworkSummary where
  name := f.name
  id := f.id
  active := f.active
  hostname := f.hostname
  user := f.user
  registered := Instant.ofEpoch? f.registeredTime
  reregistered := Instant.ofEpoch? f.reregisteredTime
  activeTasks := f.tasks.length

/-- The summary as a value. -/
def toJson (s : FrameworkSummary) : Json :=
  .obj [("name", .str s.name), ("id", .str s.id), ("active", .bool s.active),
    ("hostname", .str s.hostname), ("user", .str s.user),
    ("registered_time", ofText? (s.registered.map Instant.zuluText)),
    ("reregistered_time", ofText? (s.reregistered.map Instant.zuluText)),
    ("active_tasks", int s.activeTasks)]

end FrameworkSummary

end ClusterPackages
