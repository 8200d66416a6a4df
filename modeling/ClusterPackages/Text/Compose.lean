import ClusterPackages.Text.ComposeTable

namespace ClusterPackages.Text.Compose

/-!
# Composition

A letter with a mark may be written as one character or as two, and marks that do not touch one
another may come in any order.  Of all such texts one is the composed one: as much as possible is
one character, and marks come in the order of their classes.

* `parts` — a character as a letter and its marks.
* `order` — marks in the order of their classes.
* `joined` — letters with the marks that make one character with them.
* `composed` — the composed text, for a text of characters that are neither capital letters nor
  variants of others.
-/

/-- The class of a mark, or zero for everything that keeps its place. -/
def orderClass (n : Nat) : Nat :=
  if n < 0x300 then 0
  else ((orderClasses.find? fun r => r.1 ≤ n && n ≤ r.2.1).map (·.2.2)).getD 0

/-! ### Taking apart -/

/-- A code point as the first one that it is composed of and its marks.  What the first one is
    composed of comes later in the table. -/
def partsIn : List (Nat × Nat × Nat) → Nat → List Nat
  | [], n => [n]
  | (first, second, whole) :: rest, n =>
    if n = whole then partsIn rest first ++ [second] else partsIn rest n

/-- The letters of a syllable of Hangul. -/
def letters (syllable : Nat) : List Nat :=
  let i := syllable - 0xAC00
  [0x1100 + i / 588, 0x1161 + i % 588 / 28] ++ (if i % 28 = 0 then [] else [0x11A7 + i % 28])

/-- The parts of a code point. -/
def parts (n : Nat) : List Nat :=
  if n < 0xC0 then [n]
  else if 0xAC00 ≤ n && n ≤ 0xD7A3 then letters n
  else partsIn composites n

/-! ### Order -/

/-- Puts a code point before others that are in order; a mark passes those of lower classes. -/
def place (n : Nat) : List Nat → List Nat
  | [] => [n]
  | m :: rest =>
    if 0 < orderClass m && orderClass m < orderClass n then m :: place n rest else n :: m :: rest

/-- The code points with marks in the order of their classes. -/
def order (ns : List Nat) : List Nat := ns.foldr place []

/-! ### Putting together -/

/-- The syllable of Hangul, or the beginning of one, that two code points make. -/
def syllable? (first second : Nat) : Option Nat :=
  if 0x1100 ≤ first && first < 0x1113 && 0x1161 ≤ second && second < 0x1176 then
    some (0xAC00 + ((first - 0x1100) * 21 + (second - 0x1161)) * 28)
  else if 0xAC00 ≤ first && first ≤ 0xD7A3 && (first - 0xAC00) % 28 = 0
      && 0x11A7 < second && second < 0x11C3 then some (first + (second - 0x11A7))
  else none

/-- The code point that two others make. -/
def whole? (first second : Nat) : Option Nat :=
  if second < 0x300 then none
  else (syllable? first second).or
    ((composites.find? fun c => c.1 == first && c.2.1 == second).map (·.2.2))

/-- Whether marks stand between a letter and a code point that could touch it. -/
def separate (marks : List Nat) (n : Nat) : Bool :=
  marks.getLast?.any fun m => orderClass n ≤ orderClass m

/-- Joins code points to the letter before them, from which only `marks` separate them. -/
def joined (letter : Nat) (marks : List Nat) : List Nat → List Nat
  | [] => letter :: marks
  | n :: rest =>
    match if separate marks n then none else whole? letter n with
    | some whole => joined whole marks rest
    | none =>
      if orderClass n = 0 then letter :: marks ++ joined n [] rest
      else joined letter (marks ++ [n]) rest

/-- The composed text. -/
def composed (cs : List Char) : List Char :=
  match order (cs.flatMap fun c => parts c.toNat) with
  | [] => []
  | n :: rest => (joined n [] rest).map Char.ofNat

end ClusterPackages.Text.Compose
