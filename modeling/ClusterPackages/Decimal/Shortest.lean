import ClusterPackages.Decimal.Binary64

namespace ClusterPackages

/-!
# The fewest digits that read back

A decimal identifies a binary number when it lies among the reals that round to that number.
`Binary64.shortest` selects the decimal with the fewest digits that does, and the nearest one
among those.

* `Decimal` — digits and a power of ten.
* `Binary64.readsBack` — whether a decimal lies among the reals that round to the number: between
  the midpoints to its two neighbours, the midpoints included when the mantissa is even.
* `Binary64.shortest` — the selected decimal; of two equally near ones the even one.
-/

/-- The decimal `digits · 10 ^ exponent`. -/
structure Decimal where
  /-- The significant digits, as a natural number. -/
  digits : Nat
  /-- The power of ten that scales them. -/
  exponent : Int
deriving DecidableEq, Repr

namespace Binary64

/-- How `a · 10 ^ i` compares with `n · 2 ^ j`. -/
def compareScaled (a : Nat) (i : Int) (n : Nat) (j : Int) : Ordering :=
  compare (a * power 10 i * power 2 (-j)) (n * power 2 j * power 10 (-i))

/-- Whether the neighbour below is half as far away as the one above: just above a power of two
    the spacing changes. -/
def narrowBelow (x : Binary64) : Bool := x.mantissa == Nat.pow 2 52 && -1074 < x.exponent

/-- Whether the decimal lies among the reals that round to the magnitude of `x`. -/
def readsBack (x : Binary64) (d : Decimal) : Bool :=
  let lower := if x.narrowBelow then 4 * x.mantissa - 1 else 4 * x.mantissa - 2
  let upper := 4 * x.mantissa + 2
  let closed := x.mantissa % 2 == 0
  let atLower := compareScaled d.digits d.exponent lower (x.exponent - 2)
  let atUpper := compareScaled d.digits d.exponent upper (x.exponent - 2)
  (atLower == .gt || closed && atLower == .eq) && (atUpper == .lt || closed && atUpper == .eq)

/-- The least `k` with a positive magnitude below `10 ^ k`. -/
def decimalScale (x : Binary64) : Int :=
  if x.den ≤ x.num then (Nat.toDigits 10 (x.num / x.den)).length
  else 1 - (Nat.toDigits 10 ((x.den - 1) / x.num)).length

/-- The multiple of `10 ^ g` just below the magnitude, in units of `10 ^ g`. -/
def floorAt (x : Binary64) (g : Int) : Nat := x.num * power 10 (-g) / (x.den * power 10 g)

/-- The multiple of `10 ^ g` that identifies the magnitude, if one of its two neighbours on that
    grid does: the nearer one, and of two equally near ones the even one. -/
def onGrid? (x : Binary64) (g : Int) : Option Decimal :=
  let low : Decimal := ⟨x.floorAt g, g⟩
  let high : Decimal := ⟨x.floorAt g + 1, g⟩
  match x.readsBack low, x.readsBack high with
  | false, false => none
  | true, false => some low
  | false, true => some high
  | true, true =>
    match compareScaled (low.digits + high.digits) g (2 * x.mantissa) x.exponent with
    | .lt => some high
    | .gt => some low
    | .eq => some (if low.digits % 2 = 0 then low else high)

/-- The decimal without the zeros at the end of its digits; `fuel` bounds their number. -/
def stripZeros : (fuel : Nat) → Decimal → Decimal
  | 0, d => d
  | fuel + 1, d =>
    if d.digits % 10 = 0 then stripZeros fuel ⟨d.digits / 10, d.exponent + 1⟩ else d

/-- The decimal with the fewest digits that identifies a non-zero magnitude.  Seventeen digits
    always suffice; the value after them is the exact one. -/
def shortest (x : Binary64) : Decimal :=
  let k := x.decimalScale
  let found := (List.range 17).findSome? fun (n : Nat) => x.onGrid? (k - 1 - (n : Int))
  let exact : Decimal :=
    ⟨x.mantissa * power 5 (-x.exponent) * power 2 x.exponent, min x.exponent 0⟩
  stripZeros 17 (found.getD exact)

end Binary64

end ClusterPackages
