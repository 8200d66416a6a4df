import ClusterPackages.Table

namespace ClusterPackages

/-!
# Values of a settings document

A TOML document is a table.  Whether a table may be extended further down in the document depends
on how it came about, so each table remembers that.

* `Toml.Origin` — how a table came about.
* `Toml` — a value.
-/

/-- How a table came about. -/
inductive Toml.Origin where
  /-- Written between braces, and complete. -/
  | inline
  /-- Opened by a header of its own. -/
  | header
  /-- Named on the way to a table that a header opens. -/
  | implied
  /-- Named on the way to a key with several parts. -/
  | dotted
deriving DecidableEq, Repr

/-- A value. -/
inductive Toml where
  /-- A text. -/
  | text (s : String)
  /-- A whole number. -/
  | integer (n : Int)
  /-- Another number, as written. -/
  | float (s : String)
  /-- A truth value. -/
  | boolean (b : Bool)
  /-- A date, a time of day or both, as written. -/
  | moment (s : String)
  /-- An array. -/
  | array (items : List Toml)
  /-- A table, its keys in ascending order. -/
  | table (origin : Toml.Origin) (fields : List (String × Toml))
  /-- An array of tables, each opened by a header of its own. -/
  | tables (list : List (List (String × Toml)))

end ClusterPackages
