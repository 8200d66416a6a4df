import ClusterPackages.Json.Numeral
import ClusterPackages.Text.Digit
import ClusterPackages.Text.Utf8

namespace ClusterPackages.Json

open Text

/-!
# Documents

A `Document` is a JSON text whose syntax has been checked, and whose numerals and strings still
stand as written.  A reader that does not want a part of a document never looks at what its
numerals and strings mean.

* `Quoted` — the contents of a string, as written.
* `Document` — a value, with the fields of objects in the order of the document.
* `Document.read?` — reads a sequence of symbols; damaged symbols may stand inside strings only.
-/

/-- One item of a string as written. -/
inductive Glyph where
  /-- A character, written as itself or by a letter after a backslash. -/
  | char (c : Char)
  /-- A stretch of bytes that is no character. -/
  | damaged
  /-- A 16-bit unit, written by its four hexadecimal digits. -/
  | unit (n : Nat)
deriving DecidableEq, Repr

/-- The contents of a string, as written. -/
abbrev Quoted := List Glyph

/-- A value as written. -/
inductive Document where
  /-- The word `null`. -/
  | null
  /-- The word `true` or `false`. -/
  | bool (b : Bool)
  /-- A numeral. -/
  | number (n : Numeral)
  /-- A string. -/
  | str (q : Quoted)
  /-- An array. -/
  | arr (items : List Document)
  /-- An object, its fields in the order of the document. -/
  | obj (fields : List (Quoted × Document))

/-! ### Strings -/

/-- The value of four hexadecimal digits. -/
def hex4? (a b c d : Char) : Option Nat := do
  let w ← hexDigit? a
  let x ← hexDigit? b
  let y ← hexDigit? c
  let z ← hexDigit? d
  some (w * 0x1000 + x * 0x100 + y * 0x10 + z)

/-- The character that a letter after a backslash stands for. -/
def unescape? (c : Char) : Option Char :=
  if c = '"' || c = '\\' || c = '/' then some c
  else if c = 'b' then some (Char.ofNat 0x08)
  else if c = 'f' then some (Char.ofNat 0x0C)
  else if c = 'n' then some '\n'
  else if c = 'r' then some '\r'
  else if c = 't' then some '\t'
  else none

/-- Puts a glyph in front of what was scanned. -/
def push (g : Glyph) : Option (Quoted × List Sym) → Option (Quoted × List Sym)
  | some (q, rest) => some (g :: q, rest)
  | none => none

/-- Scans a string from after its opening quote, up to and with its closing quote. -/
def scanQuoted : List Sym → Option (Quoted × List Sym)
  | [] => none
  | none :: r => push .damaged (scanQuoted r)
  | some c :: r =>
    if c = '"' then some ([], r)
    else if c = '\\' then
      match r with
      | some e :: r' =>
        if e = 'u' then
          match r' with
          | some w :: some x :: some y :: some z :: r'' =>
            match hex4? w x y z with
            | some n => push (.unit n) (scanQuoted r'')
            | none => none
          | _ => none
        else
          match unescape? e with
          | some c' => push (.char c') (scanQuoted r')
          | none => none
      | _ => none
    else if c.toNat < 0x20 then none
    else push (.char c) (scanQuoted r)

/-! ### Numerals -/

/-- Splits off the digits at the front. -/
def scanDigits : List Sym → List Char × List Sym
  | some c :: r =>
    if isDigit c then let (ds, rest) := scanDigits r; (c :: ds, rest) else ([], some c :: r)
  | s => ([], s)

/-- Scans integer digits: a zero alone, or digits that do not start with zero. -/
def scanWhole (s : List Sym) : Option (List Char × List Sym) :=
  match scanDigits s with
  | ([], _) => none
  | ('0' :: _ :: _, _) => none
  | found => some found

/-- Scans the point and the digits after it, if a point comes next. -/
def scanFraction : List Sym → Option (Option (List Char) × List Sym)
  | some '.' :: r =>
    match scanDigits r with
    | ([], _) => none
    | (ds, rest) => some (some ds, rest)
  | s => some (none, s)

/-- Splits off the sign of an exponent, if one comes next; `true` is minus. -/
def scanSign : List Sym → Bool × List Sym
  | some '+' :: r => (false, r)
  | some '-' :: r => (true, r)
  | s => (false, s)

/-- Scans the exponent, if its letter comes next. -/
def scanExponent : List Sym → Option (Option (Bool × List Char) × List Sym)
  | some c :: r =>
    if c = 'e' || c = 'E' then
      let (down, r') := scanSign r
      match scanDigits r' with
      | ([], _) => none
      | (ds, rest) => some (some (down, ds), rest)
    else some (none, some c :: r)
  | s => some (none, s)

/-- Scans a numeral whose sign has been read. -/
def scanNumeral (negative : Bool) (s : List Sym) : Option (Numeral × List Sym) := do
  let (whole, s₁) ← scanWhole s
  let (fraction, s₂) ← scanFraction s₁
  let (exponent, s₃) ← scanExponent s₂
  some (⟨negative, whole, fraction, exponent⟩, s₃)

/-! ### Values -/

/-- Whether the symbol is a space, tab, line feed or carriage return. -/
def isSpace (s : Sym) : Bool :=
  s == some ' ' || s == some '\t' || s == some '\n' || s == some '\r'

/-- The symbols without the white space at their front. -/
def skipSpace (s : List Sym) : List Sym := s.dropWhile isSpace

/-- Scans a word whose letters are given, for the value that it stands for. -/
def scanWord (word : List Char) (v : Document) (s : List Sym) : Option (Document × List Sym) :=
  if word.map some <+: s then some (v, s.drop word.length) else none

mutual

/-- Scans a value; `fuel` bounds the number of steps. -/
def scanValue : (fuel : Nat) → List Sym → Option (Document × List Sym)
  | 0, _ => none
  | fuel + 1, s =>
    match skipSpace s with
    | some '"' :: r => (scanQuoted r).map fun (q, rest) => (.str q, rest)
    | some '[' :: r =>
      match skipSpace r with
      | some ']' :: rest => some (.arr [], rest)
      | r' => (scanItems fuel r').map fun (items, rest) => (.arr items, rest)
    | some '{' :: r =>
      match skipSpace r with
      | some '}' :: rest => some (.obj [], rest)
      | r' => (scanFields fuel r').map fun (fields, rest) => (.obj fields, rest)
    | some '-' :: r => (scanNumeral true r).map fun (n, rest) => (.number n, rest)
    | some 'n' :: r => scanWord ['u', 'l', 'l'] .null r
    | some 't' :: r => scanWord ['r', 'u', 'e'] (.bool true) r
    | some 'f' :: r => scanWord ['a', 'l', 's', 'e'] (.bool false) r
    | s' => (scanNumeral false s').map fun (n, rest) => (.number n, rest)

/-- Scans the items of an array that has any, up to and with its closing bracket. -/
def scanItems : (fuel : Nat) → List Sym → Option (List Document × List Sym)
  | 0, _ => none
  | fuel + 1, s =>
    match scanValue fuel s with
    | none => none
    | some (v, r) =>
      match skipSpace r with
      | some ']' :: rest => some ([v], rest)
      | some ',' :: r' => (scanItems fuel r').map fun (items, rest) => (v :: items, rest)
      | _ => none

/-- Scans the fields of an object that has any, up to and with its closing brace. -/
def scanFields : (fuel : Nat) → List Sym → Option (List (Quoted × Document) × List Sym)
  | 0, _ => none
  | fuel + 1, s =>
    match skipSpace s with
    | some '"' :: r =>
      match scanQuoted r with
      | none => none
      | some (k, r₁) =>
        match skipSpace r₁ with
        | some ':' :: r₂ =>
          match scanValue fuel r₂ with
          | none => none
          | some (v, r₃) =>
            match skipSpace r₃ with
            | some '}' :: rest => some ([(k, v)], rest)
            | some ',' :: r₄ =>
              (scanFields fuel r₄).map fun (fields, rest) => ((k, v) :: fields, rest)
            | _ => none
        | _ => none
    | _ => none

end

/-- The document that the symbols spell, with nothing but white space after it.  Every step but
    two per value consumes a symbol, which bounds the number of steps. -/
def Document.read? (s : List Sym) : Option Document :=
  match scanValue (2 * s.length + 2) s with
  | some (v, rest) => if (skipSpace rest).isEmpty then some v else none
  | none => none

end ClusterPackages.Json
