namespace ClusterPackages.Text

/-!
# Digits

The ten digits and the hexadecimal ones are ASCII characters; digits of other scripts do not count.

* `isDigit` — the decimal digits.
* `hexDigit?` — the value of a hexadecimal digit of either case.
* `number?` — the number that digits of a base up to sixteen spell.
* `hexChar`, `hexCapital` — the hexadecimal digit for a number, small or capital.
-/

/-- Whether the character is one of the ten digits. -/
def isDigit (c : Char) : Bool := '0' ≤ c && c ≤ '9'

/-- The value of a hexadecimal digit. -/
def hexDigit? (c : Char) : Option Nat :=
  if '0' ≤ c && c ≤ '9' then some (c.toNat - 0x30)
  else if 'a' ≤ c && c ≤ 'f' then some (c.toNat - 0x61 + 10)
  else if 'A' ≤ c && c ≤ 'F' then some (c.toNat - 0x41 + 10)
  else none

/-- The number that digits of a base up to sixteen spell. -/
def number? (base : Nat) (ds : List Char) : Option Nat :=
  (ds.mapM fun c => (hexDigit? c).filter (· < base)).map (·.foldl (fun n d => n * base + d) 0)

/-- The small hexadecimal digit for a number below 16. -/
def hexChar (n : Nat) : Char := if n < 10 then Char.ofNat (0x30 + n) else Char.ofNat (0x57 + n)

/-- The capital hexadecimal digit for a number below 16. -/
def hexCapital (n : Nat) : Char := if n < 10 then Char.ofNat (0x30 + n) else Char.ofNat (0x37 + n)

end ClusterPackages.Text
