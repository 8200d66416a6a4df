import ClusterPackages.Text.CaseTable

namespace ClusterPackages.Text

/-!
# Capital and small letters

* `capital` — the capital form of a character, which may have several characters.
* `lower` — a text in small letters.  A capital sigma becomes a final sigma at the end of a word,
  and a capital I with a dot keeps the dot as a character of its own.
-/

/-- The small form of a code point, where it is a single one. -/
def small (n : Nat) : Nat := (PointRun.map? smallRuns n).getD n

/-- The capital form of a character. -/
def capital (c : Char) : List Char :=
  match longCapitals.lookup c.toNat with
  | some l => l.map Char.ofNat
  | none => [Char.ofNat ((PointRun.map? capitalRuns c.toNat).getD c.toNat)]

/-- Whether the first character that is not overlooked has a case. -/
def meetsCased (cs : List Char) : Bool :=
  (cs.dropWhile (inRanges transparentRanges)).head?.any (inRanges casedRanges)

/-- The small form of a character, between the characters before it, in reverse, and after it. -/
def smallBetween (before : List Char) (c : Char) (after : List Char) : List Char :=
  if c = 'Σ' then (if meetsCased before && !meetsCased after then ['ς'] else ['σ'])
  else if c = 'İ' then ['i', Char.ofNat 0x307]
  else [Char.ofNat (small c.toNat)]

/-- The small form of the characters, after the characters `before`, in reverse. -/
def lowerFrom (before : List Char) : List Char → List Char
  | [] => []
  | c :: rest => smallBetween before c rest ++ lowerFrom (c :: before) rest

/-- The text in small letters. -/
def lower (s : String) : String := String.ofList (lowerFrom [] s.toList)

end ClusterPackages.Text
