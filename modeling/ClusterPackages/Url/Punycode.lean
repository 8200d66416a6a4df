import ClusterPackages.Text.Digit

namespace ClusterPackages.Url.Punycode

open Text

/-!
# Punycode

Names of hosts are ASCII.  A label with other characters is written as its ASCII characters, a
hyphen, and for every other character, in ascending order, how far a counter over code points and
positions has to go to reach it.  These distances are numbers of variable length in base 36, whose
digit limits adapt to the distances before.

* `encode` — the ASCII form of the characters of a label.
* `decode?` — the characters for an ASCII form.
-/

/-- The digit for a number below 36. -/
def digit (n : Nat) : Char := if n < 26 then Char.ofNat (0x61 + n) else Char.ofNat (0x16 + n)

/-- The number for a digit of either case. -/
def value? (c : Char) : Option Nat :=
  if isDigit c then some (c.toNat - 0x16)
  else if 'a' ≤ c && c ≤ 'z' then some (c.toNat - 0x61)
  else if 'A' ≤ c && c ≤ 'Z' then some (c.toNat - 0x41)
  else none

/-- The limit below which the digit at position `k` is the last one. -/
def threshold (k bias : Nat) : Nat :=
  if k ≤ bias then 1 else if bias + 26 ≤ k then 26 else k - bias

/-- Every threshold is positive, so that a digit below it takes something off. -/
theorem one_le_threshold (k bias : Nat) : 1 ≤ threshold k bias := by
  unfold threshold
  split
  · omega
  · split <;> omega

/-- The bias for a scaled distance. -/
def settle (k delta : Nat) : Nat :=
  if 455 < delta then settle (k + 36) (delta / 35) else k + 36 * delta / (delta + 38)
termination_by delta
decreasing_by omega

/-- The bias after a distance, when `count` characters are done and whether it was the first. -/
def adapt (delta count : Nat) (first : Bool) : Nat :=
  let d := if first then delta / 700 else delta / 2
  settle 0 (d + d / count)

/-- The digits of a distance from position `k` on. -/
def digits (bias k q : Nat) : List Char :=
  let t := threshold k bias
  if q < t then [digit q]
  else digit (t + (q - t) % (36 - t)) :: digits bias (k + 36) ((q - t) / (36 - t))
termination_by q
decreasing_by
  have h := one_le_threshold k bias
  have := Nat.div_le_self (q - threshold k bias) (36 - threshold k bias)
  omega

/-- What has been written: the counter since the last character, the bias, how many characters are
    done, and the digits. -/
structure Progress where
  /-- The counter since the last character. -/
  delta : Nat
  /-- The bias. -/
  bias : Nat
  /-- How many characters are done. -/
  done : Nat
  /-- The digits. -/
  out : List Char

/-- Passes a character of the label while the characters of the code point `m` are written; there
    are `basic` ASCII characters. -/
def pass (basic m : Nat) (p : Progress) (c : Nat) : Progress :=
  if c < m then { p with delta := p.delta + 1 }
  else if c = m then
    ⟨0, adapt p.delta (p.done + 1) (p.done == basic), p.done + 1,
      p.out ++ digits p.bias 36 p.delta⟩
  else p

/-- Writes the characters of each code point in turn, the last code point being `n - 1`. -/
def writePoints (label : List Nat) (basic : Nat) : List Nat → (n : Nat) → Progress → Progress
  | [], _, p => p
  | m :: rest, n, p =>
    let start := { p with delta := p.delta + (m - n) * (p.done + 1) }
    let after := label.foldl (pass basic m) start
    writePoints label basic rest (m + 1) { after with delta := after.delta + 1 }

/-- The ASCII form of the characters. -/
def encode (label : List Char) : List Char :=
  let basic := label.filter (·.toNat < 0x80)
  let points := label.map Char.toNat
  let others := (points.filter (0x80 ≤ ·)).mergeSort.eraseDups
  let front := if basic.isEmpty then [] else basic ++ ['-']
  (writePoints points basic.length others 0x80 ⟨0, 72, basic.length, front⟩).out

/-- Reads a distance from position `k` on: its value, and what follows. -/
def distance? (bias : Nat) : (k weight value : Nat) → List Char → Option (Nat × List Char)
  | _, _, _, [] => none
  | k, weight, value, c :: r => do
    let d ← value? c
    let t := threshold k bias
    let value := value + d * weight
    if d < t then some (value, r) else distance? bias (k + 36) (weight * (36 - t)) value r

/-- Reads so many characters at most into the label that is there. -/
def readPoints : (fuel : Nat) → (bias n i : Nat) → (label : List Char) → (first : Bool) →
    List Char → Option (List Char)
  | _, _, _, _, label, _, [] => some label
  | 0, _, _, _, _, _, _ :: _ => none
  | fuel + 1, bias, n, i, label, first, c :: r => do
    let (delta, rest) ← distance? bias 36 1 0 (c :: r)
    let count := label.length + 1
    let point := n + (i + delta) / count
    let place := (i + delta) % count
    if Nat.isValidChar point then
      readPoints fuel (adapt delta count first) point (place + 1)
        (label.take place ++ Char.ofNat point :: label.drop place) false rest
    else none

/-- The characters before the last hyphen and after it, or all of them as coming after it when
    nothing stands before a hyphen. -/
def cutHyphen (cs : List Char) : List Char × List Char :=
  let after := (cs.reverse.takeWhile (· ≠ '-')).reverse
  let front := cs.take (cs.length - after.length - 1)
  if front.isEmpty then ([], cs) else (front, after)

/-- The characters for an ASCII form. -/
def decode? (cs : List Char) : Option (List Char) :=
  let (front, rest) := cutHyphen cs
  readPoints rest.length 72 0x80 0 front true rest

end ClusterPackages.Url.Punycode
