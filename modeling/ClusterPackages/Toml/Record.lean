import ClusterPackages.Toml.Read

namespace ClusterPackages.Toml

/-!
# Records

A table of a known shape is read field by field, in the order of a structure's fields.

* `record?` — the fields with the given names.  An array gives them by position, and what it has
  beyond them does not count; a moment has none of them.
* `text?`, `truth?`, `count?`, `list?`, `word?` — the values of fields.
* `absent` — adds a default.
-/

/-- The fields with the given names. -/
def record? (names : List String) : Toml → Option (List (Option Toml))
  | .table _ fields => some (names.map fun n => Entries.find? n fields)
  | .array items => some ((List.range names.length).map fun i => items[i]?)
  | .tables list =>
    some ((List.range names.length).map fun i => list[i]?.map (Toml.table .header))
  | .moment _ => some (names.map fun _ => none)
  | _ => none

/-- A text. -/
def text? : Toml → Option String
  | .text s => some s
  | _ => none

/-- A truth value. -/
def truth? : Toml → Option Bool
  | .boolean b => some b
  | _ => none

/-- A whole number that is not negative. -/
def count? : Toml → Option Nat
  | .integer n => if 0 ≤ n then some n.toNat else none
  | _ => none

/-- The items of an array, each read by `f`. -/
def list? {α : Type} (f : Toml → Option α) : Toml → Option (List α)
  | .array items => items.mapM f
  | .tables list => list.mapM fun fields => f (.table .header fields)
  | _ => none

/-- Whether there is nothing in an array or a table. -/
def isHollow : Toml → Bool
  | .array items => items.isEmpty
  | .table _ fields => fields.isEmpty
  | _ => false

/-- One of several words, written as a text or as the only key of a table, with nothing in it. -/
def word? {α : Type} (f : String → Option α) : Toml → Option α
  | .text s => f s
  | .table _ [(k, v)] => if v.isHollow then f k else none
  | _ => none

/-- The value of a field that may be missing. -/
def absent {α : Type} (default : α) (f : Toml → Option α) : Option Toml → Option α
  | none => some default
  | some v => f v

end ClusterPackages.Toml
