import ClusterPackages.Toml.Basic

namespace ClusterPackages.Toml

/-!
# Building tables

A table is built up by headers and by keys with values.  No key is set twice, and what is complete
is not extended.

* `enter?` — changes the table at the path of a header.
* `openTable?`, `openItem?` — opens a table, or one more table of an array.
* `put?` — sets the value of a key with one or more parts.
-/

/-- The last table of an array of tables, and the tables before it. -/
def cutLastTable (list : List (Entries Toml)) : List (Entries Toml) × Entries Toml :=
  (list.dropLast, list.getLast?.getD [])

/-- Changes the table at a path from the given table.  Tables on the way come about if they are
    missing, and of an array of tables the last one counts. -/
def enter? (change : Entries Toml → Option (Entries Toml)) :
    (path : List String) → Entries Toml → Option (Entries Toml)
  | [], fields => change fields
  | k :: path, fields =>
    match Entries.find? k fields with
    | none => (enter? change path []).map fun sub => Entries.insert k (.table .implied sub) fields
    | some (.table .inline _) => none
    | some (.table origin sub) =>
      (enter? change path sub).map fun sub => Entries.insert k (.table origin sub) fields
    | some (.tables list) =>
      let (front, last) := cutLastTable list
      (enter? change path last).map fun last => Entries.insert k (.tables (front ++ [last])) fields
    | some _ => none

/-- Opens the table of a key, which must be missing or merely implied. -/
def openField? (k : String) (fields : Entries Toml) : Option (Entries Toml) :=
  match Entries.find? k fields with
  | none => some (Entries.insert k (.table .header []) fields)
  | some (.table .implied sub) => some (Entries.insert k (.table .header sub) fields)
  | some _ => none

/-- Adds a table to the array of tables of a key, which may be missing. -/
def extendField? (k : String) (fields : Entries Toml) : Option (Entries Toml) :=
  match Entries.find? k fields with
  | none => some (Entries.insert k (.tables [[]]) fields)
  | some (.tables list) => some (Entries.insert k (.tables (list ++ [[]])) fields)
  | some _ => none

/-- Does something with the last part of a path in the table at the parts before it. -/
def atLast? (change : String → Entries Toml → Option (Entries Toml)) (path : List String)
    (fields : Entries Toml) : Option (Entries Toml) :=
  path.getLast?.bind fun k => enter? (change k) path.dropLast fields

/-- Opens the table at a path. -/
def openTable? : List String → Entries Toml → Option (Entries Toml) := atLast? openField?

/-- Opens one more table of the array at a path. -/
def openItem? : List String → Entries Toml → Option (Entries Toml) := atLast? extendField?

/-- Sets the value of a key.  Its parts before the last one name tables that such keys have brought
    about, which `ready` says of the given table. -/
def put? (v : Toml) : (ready : Bool) → List String → Entries Toml → Option (Entries Toml)
  | _, [], _ => none
  | ready, [k], fields =>
    if ready && (Entries.find? k fields).isNone then some (Entries.insert k v fields) else none
  | _, k :: l :: path, fields =>
    match Entries.find? k fields with
    | none =>
      (put? v true (l :: path) []).map fun sub => Entries.insert k (.table .dotted sub) fields
    | some (.table .dotted sub) =>
      (put? v true (l :: path) sub).map fun sub => Entries.insert k (.table .dotted sub) fields
    | some (.table .implied sub) =>
      (put? v false (l :: path) sub).map fun sub => Entries.insert k (.table .implied sub) fields
    | some (.tables list) =>
      let (front, last) := cutLastTable list
      (put? v false (l :: path) last).map fun last =>
        Entries.insert k (.tables (front ++ [last])) fields
    | some _ => none

/-- Sets the values of several keys, one after another. -/
def putAll? : List (List String × Toml) → Entries Toml → Option (Entries Toml)
  | [], fields => some fields
  | (path, v) :: rest, fields => (put? v true path fields).bind (putAll? rest)

end ClusterPackages.Toml
