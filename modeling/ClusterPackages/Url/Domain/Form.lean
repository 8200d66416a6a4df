import ClusterPackages.Text.Affix
import ClusterPackages.Text.Case
import ClusterPackages.Text.Compose
import ClusterPackages.Url.Domain.FormTable

namespace ClusterPackages.Url.Domain

open Text

/-!
# The form of names of hosts

Names that look alike are one name: letters are small, variants of characters are those that they
are variants of, and letters are composed with their marks.

* `form?` — what is written in place of a character.
* `nameForm?` — the form of a name.
-/

/-- The word for a code point among those for code points that follow one another. -/
def wordFor? (n : Nat) : Option String :=
  match (formWords.takeWhile (·.1 ≤ n)).getLast? with
  | some (first, text) => (segments ' ' text)[n - first]?
  | none => none

/-- What is written in place of a character, unless it may not stand in a name. -/
def form? (c : Char) : Option (List Char) :=
  if c.toNat < 0x80 then some [c.toLower]
  else if inRanges refused c then none
  else if inRanges ignorable c then some []
  else
    match wordFor? c.toNat with
    | some word => some word.toList
    | none => some [Char.ofNat ((PointRun.map? formRuns c.toNat).getD (small c.toNat))]

/-- The form of a name, unless one of its characters may not stand in a name. -/
def nameForm? (cs : List Char) : Option (List Char) := do
  let forms ← cs.mapM form?
  some (Compose.composed forms.flatten)

end ClusterPackages.Url.Domain
