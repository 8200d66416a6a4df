import ClusterPackages.Text.Compose
import ClusterPackages.Text.Points
import ClusterPackages.Url.Domain.LabelTable

namespace ClusterPackages.Url.Domain

open Text

/-!
# Labels

A label is what stands between two points of a name.

* `startsWithMark` — whether a mark comes first, which would belong to the point before it.
* `joinersFit` — whether every joiner stands where it has an effect: after a sign that suppresses
  a vowel, or, if it keeps letters apart, between letters that would be joined.
* `turns` — whether a character is written from right to left, or asks for it.
* `directionsFit` — whether a label keeps its characters together where a name has such ones.
-/

/-- Whether a mark comes first. -/
def startsWithMark (label : List Char) : Bool :=
  label.head?.any fun c => inRanges nonspacing c || inRanges spacing c

/-! ### Joiners -/

/-- The character that keeps letters apart. -/
def separator : Char := Char.ofNat 0x200C

/-- The character that joins letters. -/
def joiner : Char := Char.ofNat 0x200D

/-- Whether letters are joined past a character. -/
def isTransparent (c : Char) : Bool := inRanges nonspacing c || c.toNat == 0x1E94B

/-- Whether the first character that letters are not joined past lies in the ranges. -/
def meets (ranges : List (Nat × Nat)) (cs : List Char) : Bool :=
  (cs.dropWhile isTransparent).head?.any (inRanges ranges)

/-- Whether a character has an effect between those before it, in reverse, and after it, if it is
    a joiner. -/
def fits (before : List Char) (c : Char) (after : List Char) : Bool :=
  if c ≠ separator && c ≠ joiner then true
  else before.head?.any (fun v => Compose.orderClass v.toNat == 9)
    || (c == separator && meets joinsNext before && meets joinsPrevious after)

/-- Whether every joiner among the characters after `before`, in reverse, has an effect. -/
def joinersFit (before : List Char) : List Char → Bool
  | [] => true
  | c :: rest => fits before c rest && joinersFit (c :: before) rest

/-! ### Directions -/

/-- How a character is written. -/
inductive Direction where
  /-- From left to right. -/
  | left
  /-- From right to left. -/
  | right
  /-- As a digit. -/
  | number
  /-- As a digit in Arabic. -/
  | arabicNumber
  /-- Like its neighbours. -/
  | neutral
  /-- Like the character that it is a mark of. -/
  | mark
deriving DecidableEq, Repr

/-- How a character is written. -/
def directionOf (c : Char) : Direction :=
  if inRanges rightward c then .right
  else if inRanges arabicNumbers c then .arabicNumber
  else if inRanges numbers c then .number
  else if inRanges neutral c then .neutral
  else if inRanges nonspacing c && !inRanges unmoved c then .mark
  else .left

/-- Whether a character is written from right to left, or asks for it. -/
def turns (c : Char) : Bool :=
  0x590 ≤ c.toNat && (inRanges rightward c || inRanges arabicNumbers c)

/-- The directions without those of marks at their end. -/
def withoutMarks (ds : List Direction) : List Direction :=
  (ds.reverse.dropWhile (· == .mark)).reverse

/-- Whether the directions end in one of the given ones, if there are any. -/
def endsIn (ends ds : List Direction) : Bool := ds.getLast?.all ends.contains

/-- Whether a label keeps its characters together: it starts with a letter, goes in one direction,
    ends in a letter or a number, and from right to left has numbers of one kind only. -/
def directionsFit (label : List Char) : Bool :=
  match label.map directionOf with
  | [] => true
  | .left :: rest =>
    endsIn [.left, .number] (withoutMarks rest)
      && !rest.contains .right && !rest.contains .arabicNumber
  | .right :: rest =>
    endsIn [.right, .number, .arabicNumber] (withoutMarks rest)
      && !rest.contains .left && !(rest.contains .number && rest.contains .arabicNumber)
  | _ => false

end ClusterPackages.Url.Domain
