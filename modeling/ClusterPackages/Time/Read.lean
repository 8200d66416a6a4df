import ClusterPackages.Text.Affix
import ClusterPackages.Text.Blank
import ClusterPackages.Text.Digit
import ClusterPackages.Time.Instant

namespace ClusterPackages.Instant

open Text

/-!
# Reading instants

A stored moment is a text in one of two layouts.

* `readInternet?` — `2015-10-06T13:59:38.5+02:00`: fixed widths, a fraction of the second after a
  point, and an offset or the letter for universal time.
* `readUnixDate?` — `Tue Oct  6 13:59:38 UTC 2015`: six words, and the day of the week must be
  that of the date.
* `read?` — either of them, with white space around it.
-/

/-! ### Scanning -/

/-- The digits at the front, no more than `most`. -/
def leadingDigits (most : Nat) (s : List Char) : List Char := (s.take most).takeWhile isDigit

/-- Scans a number of at least `least` and at most `most` digits. -/
def scanNumber (least most : Nat) (s : List Char) : Option (Nat × List Char) :=
  let ds := leadingDigits most s
  if ds.length < least then none else some (Nat.ofDigitChars 10 ds 0, s.drop ds.length)

/-- The rest after the expected character. -/
def scanChar (c : Char) : List Char → Option (List Char)
  | c' :: r => if c' = c then some r else none
  | [] => none

/-- Scans an abbreviation of three letters of either case; its position in the list. -/
def scanName (names : List String) (s : List Char) : Option (Nat × List Char) :=
  (names.findIdx? (· == asciiLower (String.ofList (s.take 3)))).map fun i => (i, s.drop 3)

/-- The abbreviations of the days of the week. -/
def weekdayNames : List String := ["sun", "mon", "tue", "wed", "thu", "fri", "sat"]

/-- The abbreviations of the months. -/
def monthNames : List String :=
  ["jan", "feb", "mar", "apr", "may", "jun", "jul", "aug", "sep", "oct", "nov", "dec"]

/-! ### Fields that make up a moment -/

/-- The moment of a date and a time of day, if both exist. -/
def ofValid? (d : Date) (t : TimeOfDay) : Option Instant :=
  if d.valid && t.valid && firstYear ≤ d.year && d.year ≤ lastYear then some (ofFields d t)
  else none

/-- Scans the digits of a fraction, in nanoseconds; digits after the ninth do not count. -/
def scanNanos (s : List Char) : Option (Nat × List Char) :=
  let ds := leadingDigits 9 s
  if ds.isEmpty then none
  else some (Nat.ofDigitChars 10 ds 0 * Nat.pow 10 (9 - ds.length), s.dropWhile isDigit)

/-- Scans the fraction of a second, if a point comes next. -/
def scanFraction : List Char → Option (Nat × List Char)
  | '.' :: r => scanNanos r
  | s => some (0, s)

/-- Scans the sign of an offset, which may be a minus sign of its own; `true` is minus. -/
def scanOffsetSign : List Char → Option (Bool × List Char)
  | '+' :: r => some (false, r)
  | '-' :: r => some (true, r)
  | '−' :: r => some (true, r)
  | _ => none

/-- Scans an offset from universal time, in seconds. -/
def scanOffset : List Char → Option (Int × List Char)
  | 'Z' :: r => some (0, r)
  | 'z' :: r => some (0, r)
  | s => do
    let (minus, s) ← scanOffsetSign s
    let (hours, s) ← scanNumber 2 2 s
    let s ← scanChar ':' s
    let (minutes, s) ← scanNumber 2 2 s
    if 23 < hours || 59 < minutes then none
    else
      let seconds : Int := 3600 * hours + 60 * minutes
      some (if minus then -seconds else seconds, s)

/-- The moment that the characters give in the layout of the Internet. -/
def readInternet? (s : List Char) : Option Instant := do
  let (year, s) ← scanNumber 4 4 s
  let s ← scanChar '-' s
  let (month, s) ← scanNumber 2 2 s
  let s ← scanChar '-' s
  let (day, s) ← scanNumber 2 2 s
  let s ← scanChar 'T' s <|> scanChar 't' s <|> scanChar ' ' s
  let (hour, s) ← scanNumber 2 2 s
  let s ← scanChar ':' s
  let (minute, s) ← scanNumber 2 2 s
  let s ← scanChar ':' s
  let (second, s) ← scanNumber 2 2 s
  let (nanos, s) ← scanFraction s
  let (offset, s) ← scanOffset s
  let i ← ofValid? ⟨year, month, day⟩ ⟨hour, minute, second, nanos⟩
  if s.isEmpty then some { i with seconds := i.seconds - offset } else none

/-! ### The layout of the Unix date command -/

/-- Scans a year: up to four digits, or a sign and any number of digits. -/
def scanYear : List Char → Option (Int × List Char)
  | '-' :: r => (scanNumber 1 r.length r).map fun (n, s) => (-(n : Int), s)
  | '+' :: r => (scanNumber 1 r.length r).map fun (n, s) => ((n : Int), s)
  | s => (scanNumber 1 4 s).map fun (n, s) => ((n : Int), s)

/-- The moment of a day of the week, a date and a time of day.  Blanks may stand before every
    field but the first. -/
def readFields? (s : List Char) : Option Instant := do
  let (weekday, s) ← scanName weekdayNames s
  let (month, s) ← scanName monthNames (dropBlank s)
  let (day, s) ← scanNumber 1 2 (dropBlank s)
  let (hour, s) ← scanNumber 1 2 (dropBlank s)
  let s ← scanChar ':' s
  let (minute, s) ← scanNumber 1 2 (dropBlank s)
  let s ← scanChar ':' s
  let (second, s) ← scanNumber 1 2 (dropBlank s)
  let (year, s) ← scanYear (dropBlank s)
  let date : Date := ⟨year, month + 1, day⟩
  let i ← ofValid? date ⟨hour, minute, second, 0⟩
  if s.isEmpty && date.weekday = weekday then some i else none

/-- The moment that a text gives in the layout of the Unix date command. -/
def readUnixDate? (s : String) : Option Instant :=
  match words s with
  | [weekday, month, day, time, zone, year] =>
    if sameIgnoringCase zone "UTC" then
      readFields? (join " " [weekday, month, day, time, year]).toList
    else none
  | _ => none

/-- The moment that a text gives. -/
def read? (s : String) : Option Instant :=
  match readInternet? (trimChars s.toList) with
  | some i => some i
  | none => readUnixDate? s

end ClusterPackages.Instant
