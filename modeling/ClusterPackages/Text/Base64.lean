import ClusterPackages.Text.Utf8

namespace ClusterPackages.Text.Base64

/-!
# Base64

The standard alphabet with padding, in its canonical form only: a group of four characters for
three bytes, a last group padded with `=` to four, and no bits set that no byte uses.

* `encode` — the characters for a byte sequence.
* `decode?` — the bytes for a text, if it is the canonical form of some byte sequence.
-/

/-- The character for a number below 64. -/
def digit (n : Nat) : Char :=
  if n < 26 then Char.ofNat (0x41 + n)
  else if n < 52 then Char.ofNat (0x61 + (n - 26))
  else if n < 62 then Char.ofNat (0x30 + (n - 52))
  else if n = 62 then '+'
  else '/'

/-- The number for a character of the alphabet. -/
def value? (c : Char) : Option Nat :=
  let n := c.toNat
  if 0x41 ≤ n && n ≤ 0x5A then some (n - 0x41)
  else if 0x61 ≤ n && n ≤ 0x7A then some (n - 0x61 + 26)
  else if 0x30 ≤ n && n ≤ 0x39 then some (n - 0x30 + 52)
  else if c = '+' then some 62
  else if c = '/' then some 63
  else none

/-- The characters for a byte sequence. -/
def encodeChars : Bytes → List Char
  | [] => []
  | [a] => [digit (a.toNat / 4), digit (a.toNat % 4 * 16), '=', '=']
  | [a, b] =>
    [digit (a.toNat / 4), digit (a.toNat % 4 * 16 + b.toNat / 16), digit (b.toNat % 16 * 4), '=']
  | a :: b :: c :: r =>
    digit (a.toNat / 4) :: digit (a.toNat % 4 * 16 + b.toNat / 16)
      :: digit (b.toNat % 16 * 4 + c.toNat / 64) :: digit (c.toNat % 64) :: encodeChars r

/-- The text for a byte sequence. -/
def encode (b : Bytes) : String := String.ofList (encodeChars b)

/-- The single byte of a last group of two characters. -/
def lastOne? (a b : Char) : Option Bytes := do
  let x ← value? a
  let y ← value? b
  if y % 16 = 0 then some [UInt8.ofNat (x * 4 + y / 16)] else none

/-- The two bytes of a last group of three characters. -/
def lastTwo? (a b c : Char) : Option Bytes := do
  let x ← value? a
  let y ← value? b
  let z ← value? c
  if z % 4 = 0 then some [UInt8.ofNat (x * 4 + y / 16), UInt8.ofNat (y % 16 * 16 + z / 4)] else none

/-- The three bytes of a full group. -/
def group? (a b c d : Char) : Option Bytes := do
  let x ← value? a
  let y ← value? b
  let z ← value? c
  let w ← value? d
  some [UInt8.ofNat (x * 4 + y / 16), UInt8.ofNat (y % 16 * 16 + z / 4),
    UInt8.ofNat (z % 4 * 64 + w)]

/-- The bytes for the characters, if they are in canonical form. -/
def decodeChars? : List Char → Option Bytes
  | [] => some []
  | a :: b :: c :: d :: r =>
    if r.isEmpty && d == '=' then
      if c = '=' then lastOne? a b else lastTwo? a b c
    else do
      let g ← group? a b c d
      let rest ← decodeChars? r
      some (g ++ rest)
  | _ => none

/-- The bytes for the text, if it is in canonical form. -/
def decode? (s : String) : Option Bytes := decodeChars? s.toList

end ClusterPackages.Text.Base64
