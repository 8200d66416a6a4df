import ClusterPackages.Toml.Number
import ClusterPackages.Toml.Tree

namespace ClusterPackages.Toml

open Text

/-!
# Reading a settings document

* `value?` — a value; arrays and tables between braces nest at most `nesting` deep.
* `Statement` — a header, or a key with its value.
* `read?` — the table that a document spells.
-/

/-! ### Values -/

/-- Scans one of the values that do not hold others. -/
def simple? (cs : List Char) : Option (Toml × List Char) :=
  match cs with
  | 't' :: 'r' :: 'u' :: 'e' :: r => some (.boolean true, r)
  | 'f' :: 'a' :: 'l' :: 's' :: 'e' :: r => some (.boolean false, r)
  | cs =>
    (scanText? cs).map (fun (s, r) => (.text s, r))
      <|> (moment? cs).map (fun (s, r) => (.moment s, r))
      <|> (float? cs).map (fun (s, r) => (.float s, r))
      <|> (integer? cs).map (fun (n, r) => (.integer n, r))

/-- The rest after the sign between a key and its value. -/
def afterEquals? (cs : List Char) : Option (List Char) := (after? '=' cs).map skipSpace

mutual

/-- Scans a value in which at most `depth` arrays and tables enclose one another. -/
def value? : (fuel depth : Nat) → List Char → Option (Toml × List Char)
  | 0, _, _ => none
  | fuel + 1, depth, cs =>
    match depth, cs with
    | depth + 1, '[' :: r => (items? fuel depth (skipGap false r)).map fun (l, r) => (.array l, r)
    | 0, '[' :: _ => none
    | depth + 1, '\x7b' :: r => do
      let (pairs, r) ← fields? fuel depth (skipSpace r)
      let fields ← putAll? pairs []
      some (.table .inline fields, r)
    | 0, '\x7b' :: _ => none
    | _, cs => simple? cs

/-- Scans the items of an array up to its closing bracket. -/
def items? : (fuel depth : Nat) → List Char → Option (List Toml × List Char)
  | 0, _, _ => none
  | _, _, ']' :: r => some ([], r)
  | fuel + 1, depth, cs => do
    let (v, r) ← value? fuel depth cs
    match skipGap false r with
    | ',' :: r => (items? fuel depth (skipGap false r)).map fun (l, r) => (v :: l, r)
    | ']' :: r => some ([v], r)
    | _ => none

/-- Scans the fields of a table up to its closing brace. -/
def fields? : (fuel depth : Nat) → List Char → Option (List (List String × Toml) × List Char)
  | 0, _, _ => none
  | _, _, '\x7d' :: r => some ([], r)
  | fuel + 1, depth, cs => moreFields? fuel depth cs

/-- Scans the fields of a table of which at least one is left. -/
def moreFields? : (fuel depth : Nat) → List Char → Option (List (List String × Toml) × List Char)
  | 0, _, _ => none
  | fuel + 1, depth, cs => do
    let (path, r) ← key? cs
    let r ← afterEquals? r
    let (v, r) ← value? fuel depth r
    match skipSpace r with
    | ',' :: r => (moreFields? fuel depth r).map fun (l, r) => ((path, v) :: l, r)
    | '\x7d' :: r => some ([(path, v)], r)
    | _ => none

end

/-! ### Documents -/

/-- What stands on a line. -/
inductive Statement where
  /-- The header of a table. -/
  | table (path : List String)
  /-- The header of one more table of an array. -/
  | item (path : List String)
  /-- A key with its value. -/
  | pair (path : List String) (value : Toml)

/-- Scans the header of a table up to its closing brackets. -/
def header? : List Char → Option (Statement × List Char)
  | '[' :: r => do
    let (path, r) ← key? r
    let r ← (after? ']' r).bind (after? ']')
    some (.item path, r)
  | cs => do
    let (path, r) ← key? cs
    let r ← after? ']' r
    some (.table path, r)

/-- Scans a key with its value. -/
def pair? (cs : List Char) : Option (Statement × List Char) := do
  let (path, r) ← key? cs
  let r ← afterEquals? r
  let (v, r) ← value? (4 * r.length + 4) nesting r
  some (.pair path v, r)

/-- Scans a statement. -/
def statement? : List Char → Option (Statement × List Char)
  | '[' :: r => header? r
  | cs => pair? cs

/-- The statements of the lines; there are at most so many. -/
def statements? : (most : Nat) → List Char → Option (List Statement)
  | 0, _ => none
  | most + 1, cs =>
    match skipGap false cs with
    | [] => some []
    | rest => do
      let (s, r) ← statement? rest
      let r ← lineEnd? r
      let more ← statements? most r
      some (s :: more)

/-- The table after a statement, and the path of the table that a header has opened last. -/
def step? (state : Entries Toml × List String) : Statement → Option (Entries Toml × List String)
  | .table path => (openTable? path state.1).map (·, path)
  | .item path => (openItem? path state.1).map (·, path)
  | .pair path v => (enter? (put? v true path) state.2 state.1).map (·, state.2)

/-- The characters of a document without the mark that may stand in front of them. -/
def withoutMark : List Char → List Char
  | c :: r => if c.toNat = 0xFEFF then r else c :: r
  | [] => []

/-- The table that a document spells. -/
def read? (s : String) : Option (Entries Toml) := do
  let cs := withoutMark s.toList
  let lines ← statements? (cs.length + 1) cs
  let (fields, _) ← lines.foldlM step? ([], [])
  some fields

end ClusterPackages.Toml
