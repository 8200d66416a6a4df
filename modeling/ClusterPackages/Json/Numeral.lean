import ClusterPackages.Json.Basic

namespace ClusterPackages.Json

/-!
# Numerals

A numeral is kept as written until its value is asked for, since a numeral that nobody reads may
exceed every range.

* `Numeral` — sign, integer digits, fraction digits and exponent as they stand in the document.
* `Numeral.value?` — the number; `none` when it exceeds the range of binary64.

An integer that fits 64 bits, signed or unsigned, is an integer.  Any other numeral is a
floating-point number: its leading digits, as far as they fit 64 bits, are converted to binary64
and then scaled by one multiplication with or division by a power of ten.
-/

/-- A number as it stands in a document. -/
structure Numeral where
  /-- Whether a minus sign stands before it. -/
  negative : Bool
  /-- The integer digits. -/
  whole : List Char
  /-- The digits after the point, if there is one. -/
  fraction : Option (List Char)
  /-- Whether the exponent is negative, and its digits, if there is one. -/
  exponent : Option (Bool × List Char)

namespace Numeral

/-- The value of a digit. -/
def digit (c : Char) : Nat := c.toNat - '0'.toNat

/-- The significant digits read so far. -/
structure Significand where
  /-- Their value, below `2 ^ 64`. -/
  value : Nat
  /-- The power of ten that scales it. -/
  scale : Int

/-- Reads integer digits while the value fits 64 bits; every digit from the first that does not
    fit raises the scale by one. -/
def readWhole (v : Nat) : List Char → Significand
  | [] => ⟨v, 0⟩
  | c :: r =>
    if v * 10 + digit c < Nat.pow 2 64 then readWhole (v * 10 + digit c) r
    else ⟨v, (c :: r).length⟩

/-- Reads fraction digits while the value fits 64 bits, each lowering the scale by one; the rest
    is dropped. -/
def readFraction (s : Significand) : List Char → Significand
  | [] => s
  | c :: r =>
    if s.value * 10 + digit c < Nat.pow 2 64 then
      readFraction ⟨s.value * 10 + digit c, s.scale - 1⟩ r
    else s

/-- The significant digits of the numeral. -/
def significand (n : Numeral) : Significand :=
  readFraction (readWhole 0 n.whole) (n.fraction.getD [])

/-- The value of the exponent digits, or `none` if it exceeds the signed range of 32 bits. -/
def readExponent (e : Nat) : List Char → Option Nat
  | [] => some e
  | c :: r => if e * 10 + digit c < Nat.pow 2 31 then readExponent (e * 10 + digit c) r else none

/-- A number divided by `10 ^ n`: by `10 ^ 308` as often as `n` holds it, then by the rest. -/
def divideTenPow (x : Binary64) (n : Nat) : Binary64 :=
  if n ≤ 308 then (x.div? (Binary64.tenPow n)).getD x
  else if x.isZero then x
  else divideTenPow ((x.div? (Binary64.tenPow 308)).getD x) (n - 308)
termination_by n

/-- A significand scaled by a power of ten; `none` when the result exceeds the range. -/
def scaled? (s : Nat) (e : Int) : Option Binary64 :=
  let x := Binary64.ofInt s
  if e < 0 then some (divideTenPow x (-e).toNat)
  else if e ≤ 308 then x.mul? (Binary64.tenPow e.toNat)
  else if s = 0 then some x
  else none

/-- The magnitude of a numeral as a floating-point number; `none` when it exceeds the range. -/
def magnitude? (n : Numeral) : Option Binary64 :=
  let s := n.significand
  match n.exponent with
  | none => scaled? s.value s.scale
  | some (down, ds) =>
    match readExponent 0 ds with
    | some e => scaled? s.value (if down then s.scale - e else s.scale + e)
    | none => if s.value ≠ 0 && !down then none else some (Binary64.zero false)

/-- The integer that the numeral spells, if it spells one that is kept as an integer.  A negative
    zero is not. -/
def int? (n : Numeral) : Option Int :=
  if n.fraction.isSome || n.exponent.isSome then none
  else
    let v := Nat.ofDigitChars 10 n.whole 0
    if n.negative then (if 0 < v && v ≤ Nat.pow 2 63 then some (-(v : Int)) else none)
    else if v < Nat.pow 2 64 then some v
    else none

/-- The number that the numeral spells. -/
def value? (n : Numeral) : Option Number :=
  match n.int? with
  | some i => some (.int i)
  | none => n.magnitude?.map fun x => .float (if n.negative then x.neg else x)

end Numeral

end ClusterPackages.Json
