namespace ClusterPackages

/-!
# Finite binary64 numbers

A `Binary64` is a finite binary floating-point number of 64 bits, held as sign, mantissa and
exponent.  Every operation is exact arithmetic on natural numbers followed by one rounding to the
nearest representable number, halves going to the even mantissa; so results can be computed by
the kernel as well as at run time.

* `roundDiv` — a quotient rounded to a natural number, halves to even.
* `power` — a power, by an exponent that may be below zero.
* `Binary64.ofRatio?` — the number nearest to a fraction, unless it is too large.
* `Binary64.mul?`, `Binary64.div?` — product and quotient, rounded once.
* `Binary64.whole`, `Binary64.isWhole` — the integer part, and whether there is nothing else.
-/

/-- The quotient `num / den` rounded to the nearest natural number, halves to the even one. -/
def roundDiv (num den : Nat) : Nat :=
  let q := num / den
  let r := num % den
  if 2 * r < den then q
  else if den < 2 * r then q + 1
  else if q % 2 = 0 then q
  else q + 1

/-- The power of a base; an exponent below zero counts as zero. -/
def power (base : Nat) (exponent : Int) : Nat := Nat.pow base exponent.toNat

/-- The number `± mantissa · 2 ^ exponent`.  In canonical form the mantissa is below `2 ^ 53`, and
    at least `2 ^ 52` unless the exponent is the least one, `-1074`. -/
structure Binary64 where
  /-- Whether the number carries a minus sign; zero may carry one too. -/
  negative : Bool
  /-- The significant bits, as a natural number. -/
  mantissa : Nat
  /-- The power of two that scales the mantissa. -/
  exponent : Int
deriving DecidableEq, Repr

namespace Binary64

/-- Zero, with the given sign. -/
def zero (negative : Bool) : Binary64 := ⟨negative, 0, -1074⟩

/-- The numerator of the magnitude as a fraction. -/
def num (x : Binary64) : Nat := x.mantissa * power 2 x.exponent

/-- The denominator of the magnitude as a fraction, a power of two. -/
def den (x : Binary64) : Nat := power 2 (-x.exponent)

/-- Whether the number is zero, of either sign. -/
def isZero (x : Binary64) : Bool := x.mantissa == 0

/-- The exponent at which a positive fraction has a mantissa of 53 bits, or the least exponent if
    that one is larger. -/
def scale (num den : Nat) : Int :=
  let e : Int := (num.log2 : Int) - den.log2 - 52
  let short := num * power 2 (-e) < Nat.pow 2 52 * (den * power 2 e)
  max (if short then e - 1 else e) (-1074)

/-- The number nearest to `num / den` with the given sign, halves to even; `none` if it would
    exceed the largest finite number. -/
def ofRatio? (negative : Bool) (num den : Nat) : Option Binary64 :=
  if num = 0 then some (zero negative)
  else
    let e := scale num den
    let m := roundDiv (num * power 2 (-e)) (den * power 2 e)
    let x : Binary64 :=
      if m = Nat.pow 2 53 then ⟨negative, Nat.pow 2 52, e + 1⟩ else ⟨negative, m, e⟩
    if 971 < x.exponent then none else some x

/-- The number nearest to an integer of at most 64 bits, which never exceeds the range. -/
def ofInt (n : Int) : Binary64 := (ofRatio? (n < 0) n.natAbs 1).getD (zero false)

/-- The product, rounded once; `none` if it exceeds the range. -/
def mul? (x y : Binary64) : Option Binary64 :=
  ofRatio? (x.negative != y.negative) (x.num * y.num) (x.den * y.den)

/-- The quotient by a number that is not zero, rounded once; `none` if it exceeds the range. -/
def div? (x y : Binary64) : Option Binary64 :=
  ofRatio? (x.negative != y.negative) (x.num * y.den) (x.den * y.num)

/-- The number with the opposite sign. -/
def neg (x : Binary64) : Binary64 := { x with negative := !x.negative }

/-- The number nearest to `10 ^ n`, for `n` up to 308. -/
def tenPow (n : Nat) : Binary64 := (ofRatio? false (Nat.pow 10 n) 1).getD (zero false)

/-- The integer part of the magnitude. -/
def whole (x : Binary64) : Nat := x.num / x.den

/-- Whether the number has no fractional part. -/
def isWhole (x : Binary64) : Bool := x.num % x.den == 0

/-- The integer part, toward zero, clamped to the signed range of 64 bits. -/
def toInt64 (x : Binary64) : Int :=
  if x.negative then max (-(x.whole : Int)) (-(Nat.pow 2 63))
  else min (x.whole : Int) (Nat.pow 2 63 - 1)

end Binary64

end ClusterPackages
