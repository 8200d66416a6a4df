import ClusterPackages.Text.Affix
import ClusterPackages.Text.Digit

namespace ClusterPackages.Url.Ip

open Text

/-!
# Internet addresses

* `v4?` — an address of one to four numbers between points.  A number may be decimal, octal after
  a zero, or hexadecimal after `0x`; the last one fills all bytes that the others leave.
* `v4Text` — such an address as four decimal numbers.
* `v6?` — an address of eight pieces between colons.  Two colons stand for a run of zeros, and the
  last two pieces may be written as an address of four decimal numbers.
* `v6Text` — such an address with its longest run of zeros as two colons.
-/

/-- The value of a part of an address of numbers. -/
def part? : List Char → Option Nat
  | [] => none
  | '0' :: 'x' :: ds => number? 16 ds
  | '0' :: 'X' :: ds => number? 16 ds
  | '0' :: d :: ds => number? 8 (d :: ds)
  | ds => number? 10 ds

/-- The parts of a name between its points, without an empty one at the end. -/
def parts (s : String) : List (List Char) :=
  let l := s.toList.splitOn '.'
  if 1 < l.length && l.getLast? == some [] then l.dropLast else l

/-- Whether the last part of a name is a number, so that the name has to be an address. -/
def endsInNumber (s : String) : Bool :=
  match (parts s).getLast? with
  | some last => (!last.isEmpty && last.all isDigit) || (part? last).isSome
  | none => false

/-- The address that a text spells, as one number of 32 bits. -/
def v4? (s : String) : Option Nat := do
  let numbers ← (parts s).mapM part?
  let last ← numbers.getLast?
  let front := numbers.dropLast
  if front.length < 4 && front.all (· < 256) && last < Nat.pow 256 (4 - front.length) then
    some (front.foldl (fun n d => n * 256 + d) 0 * Nat.pow 256 (4 - front.length) + last)
  else none

/-- The text of an address. -/
def v4Text (n : Nat) : String :=
  join "." ([n / Nat.pow 256 3, n / Nat.pow 256 2, n / 256, n].map fun x => toString (x % 256))

/-! ### Eight pieces -/

/-- The value of a decimal number below 256 without needless zeros. -/
def octet? (ds : List Char) : Option Nat :=
  if 1 < ds.length && ds.head? == some '0' then none
  else if ds.isEmpty then none
  else (number? 10 ds).filter (· < 256)

/-- The two pieces that four decimal numbers between points stand for. -/
def mixed? (cs : List Char) : Option (List Nat) := do
  let octets ← (cs.splitOn '.').mapM octet?
  match octets with
  | [a, b, c, d] => some [a * 256 + b, c * 256 + d]
  | _ => none

/-- The value of a piece of one to four hexadecimal digits. -/
def piece? (ds : List Char) : Option Nat :=
  if ds.isEmpty || 4 < ds.length then none else number? 16 ds

/-- The values of pieces; the last one may be written as four decimal numbers if `mixed`. -/
def pieces? (mixed : Bool) : List (List Char) → Option (List Nat)
  | [] => some []
  | [p] => if mixed && p.contains '.' then mixed? p else (piece? p).map ([·])
  | p :: q :: rest => do
    let n ← piece? p
    let ns ← pieces? mixed (q :: rest)
    some (n :: ns)

/-- The values of the pieces in a text, which has none when it is empty. -/
def side? (mixed : Bool) (cs : List Char) : Option (List Nat) :=
  if cs.isEmpty then some [] else pieces? mixed (cs.splitOn ':')

/-- The characters before and after the first two colons in a row. -/
def cutColons : List Char → Option (List Char × List Char)
  | ':' :: ':' :: r => some ([], r)
  | c :: r => (cutColons r).map fun (a, b) => (c :: a, b)
  | [] => none

/-- The eight pieces of the address that the characters spell. -/
def v6? (cs : List Char) : Option (List Nat) :=
  match cutColons cs with
  | none => (side? true cs).filter (·.length == 8)
  | some (a, b) => do
    let front ← side? false a
    let back ← side? true b
    if front.length + back.length < 8 then
      some (front ++ List.replicate (8 - front.length - back.length) 0 ++ back)
    else none

/-- Pieces in hexadecimal, with colons between them. -/
def piecesText (l : List Nat) : String :=
  join ":" (l.map fun n => String.ofList (Nat.toDigits 16 n))

/-- The text of an address of eight pieces. -/
def v6Text (l : List Nat) : String :=
  let runs := (List.range l.length).map fun i => ((l.drop i).takeWhile (· == 0)).length
  let longest := runs.foldl max 0
  let start := runs.findIdx (· == longest)
  if longest < 2 then piecesText l
  else piecesText (l.take start) ++ "::" ++ piecesText (l.drop (start + longest))

end ClusterPackages.Url.Ip
