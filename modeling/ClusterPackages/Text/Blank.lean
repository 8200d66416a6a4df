namespace ClusterPackages.Text

/-!
# White space

* `isBlank` — the characters with the Unicode property White_Space.  There are 25 of them,
  in ten ranges, and the property has been stable since version 6.3.
* `trim` — a text without the blanks at its two ends.
* `words` — the maximal runs of non-blank characters.
* `isAsciiBlank` — the five bytes that count as blank in a document that is still undecoded.
-/

/-- Closed ranges of code points with the property White_Space, ascending and apart. -/
def blankRanges : List (Nat × Nat) :=
  [(0x09, 0x0D), (0x20, 0x20), (0x85, 0x85), (0xA0, 0xA0), (0x1680, 0x1680), (0x2000, 0x200A),
   (0x2028, 0x2029), (0x202F, 0x202F), (0x205F, 0x205F), (0x3000, 0x3000)]

/-- Whether the character is white space. -/
def isBlank (c : Char) : Bool :=
  blankRanges.any fun r => r.1 ≤ c.toNat && c.toNat ≤ r.2

/-! ### Trimming -/

/-- The characters without the blanks at the front. -/
def dropBlank (cs : List Char) : List Char := cs.dropWhile isBlank

/-- The characters without the blanks at either end. -/
def trimChars (cs : List Char) : List Char := (dropBlank (dropBlank cs).reverse).reverse

/-- The text without the blanks at either end. -/
def trim (s : String) : String := String.ofList (trimChars s.toList)

/-- Whether nothing but white space stands in the text. -/
def allBlank (s : String) : Bool := s.toList.all isBlank

/-! ### Words -/

/-- The words of the rest, when `word` (in reverse) has been read so far. -/
def wordsFrom (word : List Char) : List Char → List String
  | [] => if word.isEmpty then [] else [String.ofList word.reverse]
  | c :: rest =>
    if isBlank c then
      if word.isEmpty then wordsFrom [] rest
      else String.ofList word.reverse :: wordsFrom [] rest
    else wordsFrom (c :: word) rest

/-- The maximal runs of characters that are not white space, in their order. -/
def words (s : String) : List String := wordsFrom [] s.toList

/-! ### Undecoded documents -/

/-- Whether the byte is a space, tab, line feed, form feed or carriage return. -/
def isAsciiBlank (b : UInt8) : Bool :=
  b == 0x20 || b == 0x09 || b == 0x0A || b == 0x0C || b == 0x0D

end ClusterPackages.Text
