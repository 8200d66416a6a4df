namespace ClusterPackages.Text

/-!
# Prefixes, suffixes and separators

A text is cut as a list of characters, so every operation here is a structural recursion or a
list operation of the core library.

* `stripPrefix?` — the rest after a prefix.
* `dropLeading`, `dropTrailing` — a text without the copies of one character at an end.
* `segments` — the texts between the occurrences of a separator character.
* `cutAt?` — the text up to and including the first occurrence of another text.
* `sameIgnoringCase` — equality up to the case of ASCII letters.
* `concat`, `join` — several texts as one.
-/

/-- The characters after the prefix `p`, if the characters start with it. -/
def stripPrefixChars? : (p cs : List Char) → Option (List Char)
  | [], cs => some cs
  | _ :: _, [] => none
  | a :: p, c :: cs => if a = c then stripPrefixChars? p cs else none

/-- The text after the prefix `p`, if the text starts with it. -/
def stripPrefix? (p s : String) : Option String :=
  (stripPrefixChars? p.toList s.toList).map String.ofList

/-- Whether the text starts with `p`. -/
def startsWith (p s : String) : Bool := (stripPrefixChars? p.toList s.toList).isSome

/-- The text without the copies of `a` at its front. -/
def dropLeading (a : Char) (s : String) : String := String.ofList (s.toList.dropWhile (· == a))

/-- The text without the copies of `a` at its end. -/
def dropTrailing (a : Char) (s : String) : String :=
  String.ofList (s.toList.reverse.dropWhile (· == a)).reverse

/-- The texts between the occurrences of `a`; one more than there are occurrences. -/
def segments (a : Char) (s : String) : List String := (s.toList.splitOn a).map String.ofList

/-- The characters up to and including the first occurrence of `p`, if there is one. -/
def cutAtChars? (p : List Char) : List Char → Option (List Char)
  | [] => if p.isEmpty then some [] else none
  | c :: cs =>
    if (stripPrefixChars? p (c :: cs)).isSome then some p
    else (cutAtChars? p cs).map (c :: ·)

/-- The text up to and including the first occurrence of `p`, if there is one. -/
def cutAt? (p s : String) : Option String := (cutAtChars? p.toList s.toList).map String.ofList

/-- The text with its ASCII capitals made small. -/
def asciiLower (s : String) : String := String.ofList (s.toList.map Char.toLower)

/-- Whether two texts are equal up to the case of ASCII letters. -/
def sameIgnoringCase (s t : String) : Bool := asciiLower s == asciiLower t

/-- The texts, one after another. -/
def concat : List String → String
  | [] => ""
  | s :: rest => s ++ concat rest

/-- The texts, in order, with `sep` between neighbours. -/
def join (sep : String) : List String → String
  | [] => ""
  | [s] => s
  | s :: t :: rest => s ++ sep ++ join sep (t :: rest)

end ClusterPackages.Text
