import ClusterPackages.Decimal.Text
import ClusterPackages.Json.Basic
import ClusterPackages.Text.Digit

namespace ClusterPackages.Json

open Text

/-!
# Writing values

* `Json.compact` — the text without white space.  Quote, backslash and the characters below U+0020
  are escaped; every other character stands for itself.
* `Json.pretty` — the text with one field or item a line, indented by two spaces a level.

The fields of an object are written in the order in which they are held.
-/

/-- A character as it stands inside a string. -/
def escapeChar (c : Char) : List Char :=
  if c = '"' then ['\\', '"']
  else if c = '\\' then ['\\', '\\']
  else if c = '\n' then ['\\', 'n']
  else if c = '\r' then ['\\', 'r']
  else if c = '\t' then ['\\', 't']
  else if c.toNat = 0x08 then ['\\', 'b']
  else if c.toNat = 0x0C then ['\\', 'f']
  else if c.toNat < 0x20 then
    ['\\', 'u', '0', '0', hexChar (c.toNat / 16), hexChar (c.toNat % 16)]
  else [c]

/-- A text as a string of a document. -/
def quote (s : String) : List Char := '"' :: s.toList.flatMap escapeChar ++ ['"']

/-- The decimal digits of an integer, after its sign. -/
def writeInt (n : Int) : List Char :=
  if n < 0 then '-' :: Nat.toDigits 10 n.natAbs else Nat.toDigits 10 n.natAbs

/-- A number as it stands in a document. -/
def writeNumber : Number → List Char
  | .int n => writeInt n
  | .float x => x.documentText

/-- The word for a truth value. -/
def writeBool (b : Bool) : List Char :=
  if b then ['t', 'r', 'u', 'e'] else ['f', 'a', 'l', 's', 'e']

mutual

/-- A value without white space. -/
def write : Json → List Char
  | .null => ['n', 'u', 'l', 'l']
  | .bool b => writeBool b
  | .number n => writeNumber n
  | .str s => quote s
  | .arr [] => ['[', ']']
  | .arr (v :: rest) => '[' :: write v ++ writeItems rest
  | .obj [] => ['\x7b', '\x7d']
  | .obj ((k, v) :: rest) => '\x7b' :: quote k ++ ':' :: write v ++ writeFields rest

/-- The items after the first one, up to and with the closing bracket. -/
def writeItems : List Json → List Char
  | [] => [']']
  | v :: rest => ',' :: write v ++ writeItems rest

/-- The fields after the first one, up to and with the closing brace. -/
def writeFields : List (String × Json) → List Char
  | [] => ['\x7d']
  | (k, v) :: rest => ',' :: quote k ++ ':' :: write v ++ writeFields rest

end

/-- The text of a value, without white space. -/
def compact (v : Json) : String := String.ofList (write v)

/-! ### Indented text -/

/-- A line break and the indentation of the given level. -/
def newline (level : Nat) : List Char := '\n' :: List.replicate (2 * level) ' '

mutual

/-- A value whose lines after the first are indented by the given level. -/
def writeIndented (level : Nat) : Json → List Char
  | .null => ['n', 'u', 'l', 'l']
  | .bool b => writeBool b
  | .number n => writeNumber n
  | .str s => quote s
  | .arr [] => ['[', ']']
  | .arr (v :: rest) =>
    '[' :: newline (level + 1) ++ writeIndented (level + 1) v ++ indentedItems level rest
  | .obj [] => ['\x7b', '\x7d']
  | .obj ((k, v) :: rest) =>
    '\x7b' :: newline (level + 1) ++ quote k ++ [':', ' '] ++ writeIndented (level + 1) v
      ++ indentedFields level rest

/-- The items after the first one, up to and with the closing bracket. -/
def indentedItems (level : Nat) : List Json → List Char
  | [] => newline level ++ [']']
  | v :: rest =>
    ',' :: newline (level + 1) ++ writeIndented (level + 1) v ++ indentedItems level rest

/-- The fields after the first one, up to and with the closing brace. -/
def indentedFields (level : Nat) : List (String × Json) → List Char
  | [] => newline level ++ ['\x7d']
  | (k, v) :: rest =>
    ',' :: newline (level + 1) ++ quote k ++ [':', ' '] ++ writeIndented (level + 1) v
      ++ indentedFields level rest

end

/-- The text of a value, one field or item a line. -/
def pretty (v : Json) : String := String.ofList (writeIndented 0 v)

end ClusterPackages.Json
