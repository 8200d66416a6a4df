import ClusterPackages.Decimal.Binary64
import ClusterPackages.Time.Date

namespace ClusterPackages

/-!
# Instants

* `Instant` — a moment, by the seconds since 1970 and the nanoseconds after them.
* `Instant.ofFields` — the moment of a date and a time of day.
* `Instant.ofEpoch?` — the moment of a floating-point number of seconds.
* `Instant.text` — date and time of day, with as many digits of a second as are needed.
-/

/-- A moment, in universal time. -/
structure Instant where
  /-- The whole seconds since the first moment of 1970. -/
  seconds : Int
  /-- The nanoseconds after that; from `10 ^ 9` on the moment lies in a leap second that follows
      the given one. -/
  nanos : Nat
deriving DecidableEq, Repr

/-- A time of day. -/
structure TimeOfDay where
  /-- The hour. -/
  hour : Nat
  /-- The minute. -/
  minute : Nat
  /-- The second, which is 60 in a leap second. -/
  second : Nat
  /-- The nanoseconds after the second. -/
  nanos : Nat
deriving DecidableEq, Repr

/-- Whether the hour, minute and second exist on a clock that has leap seconds. -/
def TimeOfDay.valid (t : TimeOfDay) : Bool := t.hour ≤ 23 && t.minute ≤ 59 && t.second ≤ 60

namespace Instant

/-- The seconds of a day. -/
def daySeconds : Int := 86400

/-- The nanoseconds of a second. -/
def secondNanos : Nat := 1000000000

/-- The moment of a date and a time of day; a leap second belongs to the second before it. -/
def ofFields (d : Date) (t : TimeOfDay) : Instant :=
  let whole : Int := daySeconds * d.dayNumber + 3600 * t.hour + 60 * t.minute
  if t.second = 60 then ⟨whole + 59, secondNanos + t.nanos⟩ else ⟨whole + t.second, t.nanos⟩

/-- The greatest year of a moment. -/
def lastYear : Int := 262142

/-- The least year of a moment. -/
def firstYear : Int := -262143

/-- The first second after the last year. -/
def limit : Int := daySeconds * (Date.mk (lastYear + 1) 1 1).dayNumber

/-- A positive number rounded to a whole one, halves up. -/
def roundHalfUp (x : Binary64) : Nat := (2 * x.num + x.den) / (2 * x.den)

/-- The fraction of a number, without its integer part. -/
def fraction (x : Binary64) : Binary64 :=
  (Binary64.ofRatio? false (x.num % x.den) x.den).getD (Binary64.zero false)

/-- The moment so many seconds after the first moment of 1970; there is none for zero, for a
    negative number and after the last year.  The fraction is rounded to nanoseconds. -/
def ofEpoch? (x : Binary64) : Option Instant :=
  if x.isZero || x.negative then none
  else
    let nanos := roundHalfUp (((fraction x).mul? (Binary64.tenPow 9)).getD (Binary64.zero false))
    if (x.whole : Int) < limit then some ⟨x.whole, min nanos (secondNanos - 1)⟩ else none

/-! ### Text -/

/-- A number with at least the given count of digits. -/
def padded (width n : Nat) : List Char :=
  let ds := Nat.toDigits 10 n
  List.replicate (width - ds.length) '0' ++ ds

/-- A year: four digits, or a sign and at least four digits for years that do not fit. -/
def yearText (y : Int) : List Char :=
  if y < 0 then '-' :: padded 4 y.natAbs
  else if y ≤ 9999 then padded 4 y.toNat
  else '+' :: padded 4 y.toNat

/-- The digits after the second: none, or three, six or nine, as few as are exact. -/
def fractionText (nanos : Nat) : List Char :=
  if nanos = 0 then []
  else if nanos % 1000000 = 0 then '.' :: padded 3 (nanos / 1000000)
  else if nanos % 1000 = 0 then '.' :: padded 6 (nanos / 1000)
  else '.' :: padded 9 nanos

/-- Date and time of day in universal time, with `zone` after them. -/
def text (zone : String) (i : Instant) : String :=
  let d := Date.ofDayNumber (i.seconds / daySeconds)
  let s := (i.seconds % daySeconds).toNat
  let leap := i.nanos / secondNanos
  String.ofList (yearText d.year ++ '-' :: padded 2 d.month ++ '-' :: padded 2 d.day
    ++ 'T' :: padded 2 (s / 3600) ++ ':' :: padded 2 (s / 60 % 60)
    ++ ':' :: padded 2 (s % 60 + leap) ++ fractionText (i.nanos % secondNanos)) ++ zone

/-- The text with the offset of universal time. -/
def offsetText (i : Instant) : String := i.text "+00:00"

/-- The text with the letter for universal time, as it stands in documents. -/
def zuluText (i : Instant) : String := i.text "Z"

end Instant

end ClusterPackages
