import ClusterPackages.Text.Digit
import ClusterPackages.Text.Utf8

namespace ClusterPackages.Url.Percent

open Text

/-!
# Percent encoding

A character that may not stand in a part of a URL is written as its UTF-8 bytes, each one as a
percent sign with two hexadecimal digits.

* `controls`, `inFragment`, `inPath`, `inUserinfo`, `inQuery`, `inSpecialQuery` — the characters
  that are encoded in a part; characters beyond ASCII are encoded everywhere.
* `encode` — a text with those characters encoded.
* `decode` — the bytes that an encoded text stands for.
-/

/-- The control characters, and all characters beyond ASCII. -/
def controls (c : Char) : Bool := c.toNat < 0x20 || 0x7F ≤ c.toNat

/-- The characters that are encoded in a fragment. -/
def inFragment (c : Char) : Bool :=
  controls c || c == ' ' || c == '"' || c == '<' || c == '>' || c == '\x60'

/-- The characters that are encoded in a path. -/
def inPath (c : Char) : Bool :=
  inFragment c || c == '#' || c == '?' || c == '\x7b' || c == '\x7d'

/-- The characters that are encoded in a name or a password. -/
def inUserinfo (c : Char) : Bool :=
  inPath c || c == '/' || c == ':' || c == ';' || c == '=' || c == '@' || c == '[' || c == '\\'
    || c == ']' || c == '^' || c == '|'

/-- The characters that are encoded in a query. -/
def inQuery (c : Char) : Bool :=
  controls c || c == ' ' || c == '"' || c == '#' || c == '<' || c == '>'

/-- The characters that are encoded in the query of a special scheme. -/
def inSpecialQuery (c : Char) : Bool := inQuery c || c == '\''

/-- A byte as a percent sign and two digits. -/
def encodeByte (b : UInt8) : List Char :=
  ['%', hexCapital (b.toNat / 16), hexCapital (b.toNat % 16)]

/-- The characters, with those of the set encoded. -/
def encodeChars (set : Char → Bool) (cs : List Char) : List Char :=
  cs.flatMap fun c => if set c then (Utf8.encodeChar c).flatMap encodeByte else [c]

/-- The characters as a text, with those of the set encoded. -/
def encode (set : Char → Bool) (cs : List Char) : String := String.ofList (encodeChars set cs)

/-- The bytes that the characters stand for; a percent sign without two digits after it stands for
    itself. -/
def decodeChars : List Char → Bytes
  | [] => []
  | '%' :: a :: b :: r =>
    match hexDigit? a, hexDigit? b with
    | some x, some y => UInt8.ofNat (x * 16 + y) :: decodeChars r
    | _, _ => UInt8.ofNat '%'.toNat :: decodeChars (a :: b :: r)
  | c :: r => Utf8.encodeChar c ++ decodeChars r

/-- The bytes that the text stands for. -/
def decode (s : String) : Bytes := decodeChars s.toList

end ClusterPackages.Url.Percent
