import ClusterPackages.Decimal.Shortest

namespace ClusterPackages.Binary64

/-!
# Texts of a number

Three ways of writing a number down, each for a place where numbers are written.

* `documentText` — for documents: the fewest digits that read back; positional, always with a
  point, while the leading digit stands for a power of ten from `-5` to `15`; otherwise with a
  signed exponent.
* `wholeText` — for a whole number in running text: all integer digits, no point, no exponent.
* `placesText` — with two places after the point, rounded from the exact value, halves to even.
-/

/-- The sign of a number, as it stands before its digits. -/
def sign (x : Binary64) : List Char := if x.negative then ['-'] else []

/-- So many zeros. -/
def zeros (n : Nat) : List Char := List.replicate n '0'

/-- Digits with a point before the position `n`. -/
def pointed (ds : List Char) (n : Nat) : List Char := ds.take n ++ '.' :: ds.drop n

/-- The positional text of digits whose first one stands for `10 ^ e`. -/
def positional (ds : List Char) (e : Int) : List Char :=
  if e < 0 then pointed (zeros (-e).toNat ++ ds) 1
  else if ds.length ≤ e.toNat + 1 then ds ++ zeros (e.toNat + 1 - ds.length) ++ ['.', '0']
  else pointed ds (e.toNat + 1)

/-- The text with an exponent of digits whose first one stands for `10 ^ e`. -/
def scientific (ds : List Char) (e : Int) : List Char :=
  (if ds.length ≤ 1 then ds else pointed ds 1)
    ++ 'e' :: (if e < 0 then '-' else '+') :: Nat.toDigits 10 e.natAbs

/-- The text of a number in a document. -/
def documentText (x : Binary64) : List Char :=
  if x.isZero then x.sign ++ ['0', '.', '0']
  else
    let d := x.shortest
    let ds := Nat.toDigits 10 d.digits
    let e := d.exponent + (ds.length - 1 : Nat)
    x.sign ++ if -5 ≤ e && e ≤ 15 then positional ds e else scientific ds e

/-- The text of a whole number, with all its integer digits; digits beyond those that identify
    the number are zeros. -/
def wholeText (x : Binary64) : List Char :=
  if x.isZero then x.sign ++ ['0']
  else
    let d := x.shortest
    x.sign ++ Nat.toDigits 10 d.digits ++ zeros d.exponent.toNat

/-- The text of a number with two places. -/
def placesText (x : Binary64) : List Char :=
  let n := roundDiv (x.num * 100) x.den
  let ds := Nat.toDigits 10 n
  let padded := zeros (3 - ds.length) ++ ds
  x.sign ++ pointed padded (padded.length - 2)

end ClusterPackages.Binary64
