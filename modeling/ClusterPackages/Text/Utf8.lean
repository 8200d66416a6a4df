namespace ClusterPackages.Text

/-!
# UTF-8

Stored values are bytes, and not all of them are text.  `Utf8.decode` reads any byte sequence into
a list of *symbols*: `some c` for a character and `none` for a maximal stretch of bytes that
belongs to no character.  From that one reading come

* `Utf8.text?` — the text, when no byte is damaged;
* `Utf8.lossy` — the text with U+FFFD for every damaged stretch.

`Utf8.encode` is the writing direction.
-/

/-- A sequence of bytes, such as a stored value. -/
abbrev Bytes := List UInt8

/-- A symbol of a byte sequence read as text: a character, or a damaged stretch. -/
abbrev Sym := Option Char

namespace Utf8

/-- Whether the byte continues a character. -/
def isTail (b : UInt8) : Bool := 0x80 ≤ b && b ≤ 0xBF

/-- The bytes that may follow the first byte `b` of a three-byte character. -/
def second3 (b c : UInt8) : Bool :=
  (if b = 0xE0 then 0xA0 else 0x80) ≤ c && c ≤ (if b = 0xED then 0x9F else 0xBF)

/-- The bytes that may follow the first byte `b` of a four-byte character. -/
def second4 (b c : UInt8) : Bool :=
  (if b = 0xF0 then 0x90 else 0x80) ≤ c && c ≤ (if b = 0xF4 then 0x8F else 0xBF)

/-- The six low bits of a byte. -/
def low6 (b : UInt8) : Nat := b.toNat % 0x40

/-- The symbols of a byte sequence.  A damaged stretch ends where the bytes stop being the start of
a character, so the byte after it is read afresh. -/
def decode : Bytes → List Sym
  | [] => []
  | b :: r =>
    if b < 0x80 then some (Char.ofNat b.toNat) :: decode r
    else if 0xC2 ≤ b && b ≤ 0xDF then
      match r with
      | [] => [none]
      | c :: r' =>
        if isTail c then some (Char.ofNat (b.toNat % 0x20 * 0x40 + low6 c)) :: decode r'
        else none :: decode (c :: r')
    else if 0xE0 ≤ b && b ≤ 0xEF then
      match r with
      | [] => [none]
      | c :: r' =>
        if second3 b c then
          match r' with
          | [] => [none]
          | d :: r'' =>
            if isTail d then
              some (Char.ofNat (b.toNat % 0x10 * 0x1000 + low6 c * 0x40 + low6 d)) :: decode r''
            else none :: decode (d :: r'')
        else none :: decode (c :: r')
    else if 0xF0 ≤ b && b ≤ 0xF4 then
      match r with
      | [] => [none]
      | c :: r' =>
        if second4 b c then
          match r' with
          | [] => [none]
          | d :: r'' =>
            if isTail d then
              match r'' with
              | [] => [none]
              | e :: r''' =>
                if isTail e then
                  some (Char.ofNat (b.toNat % 0x08 * 0x40000 + low6 c * 0x1000 + low6 d * 0x40
                    + low6 e)) :: decode r'''
                else none :: decode (e :: r''')
            else none :: decode (d :: r'')
        else none :: decode (c :: r')
    else none :: decode r

/-- The bytes of a character. -/
def encodeChar (c : Char) : Bytes :=
  let n := c.toNat
  if n < 0x80 then [UInt8.ofNat n]
  else if n < 0x800 then [UInt8.ofNat (0xC0 + n / 0x40), UInt8.ofNat (0x80 + n % 0x40)]
  else if n < 0x10000 then
    [UInt8.ofNat (0xE0 + n / 0x1000), UInt8.ofNat (0x80 + n / 0x40 % 0x40),
     UInt8.ofNat (0x80 + n % 0x40)]
  else
    [UInt8.ofNat (0xF0 + n / 0x40000), UInt8.ofNat (0x80 + n / 0x1000 % 0x40),
     UInt8.ofNat (0x80 + n / 0x40 % 0x40), UInt8.ofNat (0x80 + n % 0x40)]

/-- The bytes of a text. -/
def encode (s : String) : Bytes := s.toList.flatMap encodeChar

/-- The symbols of a text: its characters, none of them damaged. -/
def symbols (s : String) : List Sym := s.toList.map some

/-- The characters of the symbols, if none is damaged. -/
def chars? : List Sym → Option (List Char)
  | [] => some []
  | none :: _ => none
  | some c :: r => (chars? r).map (c :: ·)

/-- The text that the bytes spell, if all of them belong to characters. -/
def text? (b : Bytes) : Option String := (chars? (decode b)).map String.ofList

/-- The text that the bytes spell, with U+FFFD in place of every damaged stretch. -/
def lossy (b : Bytes) : String :=
  String.ofList ((decode b).map fun c => c.getD (Char.ofNat 0xFFFD))

end Utf8

end ClusterPackages.Text
