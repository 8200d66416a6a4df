import ClusterPackages.Json.Read

namespace ClusterPackages.Json

/-!
# Records

Documents of a known shape are read field by field.  `Document.record?` picks the fields of a
structure out of a document, in the structure's own order:

* from an object by name — a known name may stand there once only, and what stands under an
  unknown name is not looked at;
* from an array by position — there may be fewer items than fields, but not more.

The remaining functions read the value of a field.  Each takes the number of arrays and objects
that may still enclose one another, and `absent` and `nullable` add a default.
-/

namespace Document

/-- The value under a name, if it stands in the object once; `none` inside when it is missing. -/
def field? (name : String) : List (String × Document) → Option (Option Document)
  | [] => some none
  | (k, v) :: r =>
    if k = name then (if r.any (·.1 = name) then none else some (some v)) else field? name r

/-- The fields of an object with their names as texts. -/
def named? : List (Quoted × Document) → Option (List (String × Document))
  | [] => some []
  | (q, v) :: r => do
    let k ← Quoted.text? q
    let rest ← named? r
    some ((k, v) :: rest)

/-- The items of an array by position, for so many fields. -/
def positional? : (count : Nat) → List Document → Option (List (Option Document))
  | 0, [] => some []
  | 0, _ :: _ => none
  | n + 1, [] => (positional? n []).map (none :: ·)
  | n + 1, v :: r => (positional? n r).map (some v :: ·)

/-- The fields with the given names, in that order. -/
def record? (names : List String) : Document → Option (List (Option Document))
  | .obj fields => (named? fields).bind fun l => names.mapM (field? · l)
  | .arr items => positional? names.length items
  | _ => none

/-- The fields with the given names, from an object only. -/
def objectRecord? (names : List String) : Document → Option (List (Option Document))
  | .obj fields => (named? fields).bind fun l => names.mapM (field? · l)
  | _ => none

/-! ### Values of fields -/

/-- A text. -/
def string? : Document → Option String
  | .str q => Quoted.text? q
  | _ => none

/-- A truth value. -/
def bool? : Document → Option Bool
  | .bool b => some b
  | _ => none

/-- The items of an array, each read by `f`. -/
def list? {α : Type} (f : Document → Option α) : Document → Option (List α)
  | .arr items => items.mapM f
  | _ => none

/-- The fields of an object, each value read by `f`; a later field replaces an earlier one. -/
def table? {α : Type} (f : Document → Option α) : Document → Option (Table α)
  | .obj fields => do
    let l ← named? fields
    let read ← l.mapM fun (k, v) => (f v).map (k, ·)
    some (Table.ofList read)
  | _ => none

/-- A value, or nothing for `null`. -/
def nullable {α : Type} (f : Document → Option α) : Document → Option (Option α)
  | .null => some none
  | v => (f v).map some

/-- The value of a field that may be missing. -/
def absent {α : Type} (default : α) (f : Document → Option α) : Option Document → Option α
  | none => some default
  | some v => f v

/-- The value of a field that must be present. -/
def required {α : Type} (f : Document → Option α) : Option Document → Option α
  | none => none
  | some v => f v

end Document

end ClusterPackages.Json
