import ClusterPackages.Url.Domain.Form
import ClusterPackages.Url.Domain.Label
import ClusterPackages.Url.Punycode

namespace ClusterPackages.Url.Domain

open Text

/-!
# Names of hosts

A name is looked up in ASCII.  A label with other characters is written in Punycode behind a
marker, and a label behind the marker has to stand for one in the form of names.

* `Label.ofForm?` — the label for characters in the form of names.
* `toAscii?` — the form in which a name is looked up.
-/

/-- Whether a character may not stand in a name. -/
def isRefused (c : Char) : Bool :=
  c.toNat ≤ 0x20 || c.toNat == 0x7F || "%#/:<>?@[\\]^|".toList.contains c

/-- Whether the characters are ASCII. -/
def isAscii (cs : List Char) : Bool := cs.all (·.toNat < 0x80)

/-- A label. -/
structure Label where
  /-- Its characters. -/
  chars : List Char
  /-- How it is looked up. -/
  ascii : List Char
deriving DecidableEq, Repr

namespace Label

/-- What stands before a label in Punycode. -/
def marker : List Char := ['x', 'n', '-', '-']

/-- The greatest length of a label that is written in Punycode. -/
def longest : Nat := 1000

/-- The greatest length of a label that is read from Punycode. -/
def longestCode : Nat := 2000

/-- Whether the characters keep to the rules for labels. -/
def isValid (cs : List Char) : Bool :=
  isAscii cs || (!startsWithMark cs && joinersFit [] cs && cs.length ≤ longest)

/-- The label that Punycode stands for, unless it stands for one that could do without. -/
def ofCode? (code : List Char) : Option Label := do
  let cs ← if isAscii code && code.length ≤ longestCode then Punycode.decode? code else none
  let form ← nameForm? cs
  if isAscii cs || form ≠ cs || cs.any isRefused || !isValid cs then none
  else some ⟨cs, marker ++ code⟩

/-- The label for characters in the form of names. -/
def ofForm? (cs : List Char) : Option Label :=
  if marker.isPrefixOf cs then ofCode? (cs.drop marker.length)
  else if !isValid cs then none
  else some ⟨cs, if isAscii cs then cs else marker ++ Punycode.encode cs⟩

end Label

/-- The form in which a name is looked up. -/
def toAscii? (cs : List Char) : Option String := do
  let form ← nameForm? cs
  if form.any isRefused then none
  else do
    let labels ← (form.splitOn '.').mapM Label.ofForm?
    if labels.any (·.chars.any turns) && !labels.all (directionsFit ·.chars) then none
    else some (join "." (labels.map fun l => String.ofList l.ascii))

end ClusterPackages.Url.Domain
