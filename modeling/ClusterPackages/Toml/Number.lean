import ClusterPackages.Decimal.Binary64
import ClusterPackages.Time.Date
import ClusterPackages.Toml.Basic
import ClusterPackages.Toml.Scan

namespace ClusterPackages.Toml

open Text

/-!
# Numbers and moments of a settings document

* `moment?` — a date, a time of day, or both with or without an offset.
* `float?` — a number with a fraction or an exponent, or a special one.
* `integer?` — a whole number of 64 bits with a sign, in base 10, 16, 8 or 2.
-/

/-! ### Digits -/

/-- The digits at the front; single underscores may stand between them. -/
def digitRun (isDigit : Char → Bool) : List Char → List Char × List Char
  | '_' :: d :: r =>
    if isDigit d then let (ds, rest) := digitRun isDigit r; (d :: ds, rest)
    else ([], '_' :: d :: r)
  | c :: r =>
    if isDigit c then let (ds, rest) := digitRun isDigit r; (c :: ds, rest) else ([], c :: r)
  | [] => ([], [])

/-- Scans at least one digit. -/
def digits? (isDigit : Char → Bool) (cs : List Char) : Option (List Char × List Char) :=
  if cs.head?.any isDigit then some (digitRun isDigit cs) else none

/-- Scans a sign, if one comes next; `true` is minus. -/
def sign : List Char → Bool × List Char
  | '-' :: r => (true, r)
  | '+' :: r => (false, r)
  | cs => (false, cs)

/-- Scans the digits of a whole number; a zero at the front is a number of its own. -/
def wholeDigits? : List Char → Option (List Char × List Char)
  | '0' :: r => some (['0'], r)
  | cs => digits? isDigit cs

/-! ### Whole numbers -/

/-- The value of digits in a base, if it fits 63 bits. -/
def based? (base : Nat) (scan : Option (List Char × List Char)) : Option (Int × List Char) := do
  let (ds, r) ← scan
  let n := ds.foldl (fun n c => n * base + (hexDigit? c).getD 0) 0
  if n < Nat.pow 2 63 then some ((n : Int), r) else none

/-- Whether the character is a digit in a base. -/
def isDigitIn (base : Nat) (c : Char) : Bool := (hexDigit? c).any (· < base)

/-- Scans a whole number. -/
def integer? : List Char → Option (Int × List Char)
  | '0' :: 'x' :: r => based? 16 (digits? (isDigitIn 16) r)
  | '0' :: 'o' :: r => based? 8 (digits? (isDigitIn 8) r)
  | '0' :: 'b' :: r => based? 2 (digits? (isDigitIn 2) r)
  | cs => do
    let (negative, r) := sign cs
    let (ds, r) ← wholeDigits? r
    let n := Nat.ofDigitChars 10 ds 0
    if negative then (if n ≤ Nat.pow 2 63 then some (-(n : Int), r) else none)
    else if n < Nat.pow 2 63 then some ((n : Int), r)
    else none

/-! ### Other numbers -/

/-- Whether `m * 10 ^ e` is rounded to infinity in binary64. -/
def exceedsRange (m : Nat) (e : Int) : Bool :=
  let magnitude := ((Nat.toDigits 10 m).length : Int) + e
  let bound := Nat.pow 2 1024 - Nat.pow 2 970
  if m = 0 || magnitude < 309 then false
  else if 310 < magnitude then true
  else if e < 0 then bound * power 10 (-e) ≤ m
  else bound ≤ m * power 10 e

/-- Scans the digits of a fraction, if a point comes next. -/
def fraction? : List Char → Option (List Char × List Char)
  | '.' :: r => digits? isDigit r
  | cs => some ([], cs)

/-- Scans an exponent, if one comes next. -/
def exponent? : List Char → Option (Int × List Char)
  | c :: r =>
    if c = 'e' || c = 'E' then do
      let (negative, r) := sign r
      let (ds, r) ← digits? isDigit r
      let n : Int := Nat.ofDigitChars 10 ds 0
      some (if negative then -n else n, r)
    else some (0, c :: r)
  | [] => some (0, [])

/-- What has been scanned from `cs` when `r` is left. -/
def scanned (cs r : List Char) : String := String.ofList (cs.take (cs.length - r.length))

/-- Scans a number with a fraction or an exponent.  One that is too large is refused, except below
    zero. -/
def decimal? (cs : List Char) : Option (String × List Char) := do
  let (negative, r) := sign cs
  let (whole, r) ← wholeDigits? r
  let (fraction, r') ← fraction? r
  let (exponent, r') ← exponent? r'
  let m := Nat.ofDigitChars 10 (whole ++ fraction) 0
  if r'.length = r.length || (!negative && exceedsRange m (exponent - fraction.length)) then none
  else some (scanned cs r', r')

/-- Scans a number that is not whole. -/
def float? (cs : List Char) : Option (String × List Char) :=
  decimal? cs <|>
    match (sign cs).2 with
    | 'i' :: 'n' :: 'f' :: r => some (scanned cs r, r)
    | 'n' :: 'a' :: 'n' :: r => some (scanned cs r, r)
    | _ => none

/-! ### Moments -/

/-- Scans a number of so many digits that is not above a bound. -/
def fixed? (count most : Nat) (cs : List Char) : Option (Nat × List Char) :=
  let ds := cs.take count
  let n := Nat.ofDigitChars 10 ds 0
  if ds.length = count && ds.all isDigit && n ≤ most then some (n, cs.drop count) else none

/-- The rest after the expected character. -/
def after? (c : Char) : List Char → Option (List Char)
  | c' :: r => if c' = c then some r else none
  | [] => none

/-- The rest after a date. -/
def date? (cs : List Char) : Option (List Char) := do
  let (year, r) ← fixed? 4 9999 cs
  let r ← after? '-' r
  let (month, r) ← fixed? 2 12 r
  let r ← after? '-' r
  let (day, r) ← fixed? 2 31 r
  if (Date.mk year month day).valid then some r else none

/-- The rest after the fraction of a second, if one comes next. -/
def secondFraction? : List Char → Option (List Char)
  | '.' :: r => if r.head?.any isDigit then some (r.dropWhile isDigit) else none
  | cs => some cs

/-- The rest after a time of day. -/
def time? (cs : List Char) : Option (List Char) := do
  let (_, r) ← fixed? 2 23 cs
  let r ← after? ':' r
  let (_, r) ← fixed? 2 59 r
  let r ← after? ':' r
  let (_, r) ← fixed? 2 60 r
  secondFraction? r

/-- The rest after an offset, if one comes next. -/
def offset? : List Char → Option (List Char)
  | c :: r =>
    if c = 'Z' || c = 'z' then some r
    else if c = '+' || c = '-' then do
      let (_, r) ← fixed? 2 23 r
      let r ← after? ':' r
      let (_, r) ← fixed? 2 59 r
      some r
    else some (c :: r)
  | [] => some []

/-- The rest after a time of day with an offset, if one comes next after its mark. -/
def timeAfterDate? : List Char → Option (List Char)
  | c :: r =>
    if c = 'T' || c = 't' || c = ' ' then
      match time? r with
      | some r' => offset? r'
      | none => some (c :: r)
    else some (c :: r)
  | [] => some []

/-- Scans a moment. -/
def moment? (cs : List Char) : Option (String × List Char) := do
  let r ← (date? cs).bind timeAfterDate? <|> time? cs
  some (scanned cs r, r)

end ClusterPackages.Toml
