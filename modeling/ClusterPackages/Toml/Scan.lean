import ClusterPackages.Text.Digit

namespace ClusterPackages.Toml

open Text

/-!
# Texts, keys and gaps of a settings document

A scanner takes characters from the front and gives what they mean together with the rest, or
nothing if they have not the expected form.

* `skipSpace`, `skipGap`, `lineEnd?` — what stands between the other parts.
* `basicRest?`, `literalRest?` — a text of one line, after its opening quote.
* `longBasic?`, `longLiteral?` — a text of several lines, after its three opening quotes.
* `key?` — a key of one or more parts.
-/

/-! ### Gaps -/

/-- Whether the character is a space or a tab. -/
def isSpace (c : Char) : Bool := c == ' ' || c == '\t'

/-- Whether the character may stand in a line: a tab, or no control character. -/
def isPrinted (c : Char) : Bool := c == '\t' || (0x20 ≤ c.toNat && c.toNat ≠ 0x7F)

/-- The rest after spaces and tabs. -/
def skipSpace (cs : List Char) : List Char := cs.dropWhile isSpace

/-- The rest after a line break. -/
def newline? : List Char → Option (List Char)
  | '\n' :: r => some r
  | '\r' :: '\n' :: r => some r
  | _ => none

/-- The rest after a comment, if one comes next. -/
def skipComment : List Char → List Char
  | '#' :: r => r.dropWhile isPrinted
  | cs => cs

/-- The rest after the end of a line, which may hold a comment. -/
def lineEnd? (cs : List Char) : Option (List Char) :=
  match skipComment (skipSpace cs) with
  | [] => some []
  | rest => newline? rest

/-- The rest after spaces, tabs, line breaks and comments; `comment` tells whether a comment has
    begun. -/
def skipGap (comment : Bool) : List Char → List Char
  | [] => []
  | '\n' :: r => skipGap false r
  | '\r' :: '\n' :: r => skipGap false r
  | c :: r =>
    if comment then (if isPrinted c then skipGap true r else c :: r)
    else if isSpace c then skipGap false r
    else if c = '#' then skipGap true r
    else c :: r

/-! ### Texts -/

/-- The character with a number given in hexadecimal digits. -/
def numbered? (ds : List Char) : Option Char := do
  let values ← ds.mapM hexDigit?
  let n := values.foldl (fun n d => n * 16 + d) 0
  if Nat.isValidChar n then some (Char.ofNat n) else none

/-- The character that a letter after a backslash stands for. -/
def escaped? (c : Char) : Option Char :=
  if c = '"' || c = '\\' then some c
  else if c = 'b' then some (Char.ofNat 0x08)
  else if c = 'f' then some (Char.ofNat 0x0C)
  else if c = 'n' then some '\n'
  else if c = 'r' then some '\r'
  else if c = 't' then some '\t'
  else none

/-- A character in front of what has been scanned after it. -/
def inFront? (c : Option Char) (rest : Option (List Char × List Char)) :
    Option (List Char × List Char) := do
  let c ← c
  let (cs, left) ← rest
  some (c :: cs, left)

/-- Scans a text up to its closing double quote. -/
def basicRest? : List Char → Option (List Char × List Char)
  | '"' :: r => some ([], r)
  | '\\' :: 'u' :: a :: b :: c :: d :: r => inFront? (numbered? [a, b, c, d]) (basicRest? r)
  | '\\' :: 'U' :: a :: b :: c :: d :: e :: f :: g :: h :: r =>
    inFront? (numbered? [a, b, c, d, e, f, g, h]) (basicRest? r)
  | '\\' :: e :: r => inFront? (escaped? e) (basicRest? r)
  | c :: r => if isPrinted c && c ≠ '\\' then inFront? (some c) (basicRest? r) else none
  | [] => none

/-- Scans a text up to its closing single quote. -/
def literalRest? : List Char → Option (List Char × List Char)
  | '\'' :: r => some ([], r)
  | c :: r => if isPrinted c then inFront? (some c) (literalRest? r) else none
  | [] => none

/-- The quotes that belong to a text although they touch the three that close it. -/
def touching (q : Char) : List Char → List Char × List Char
  | a :: b :: r =>
    if a = q && b = q then ([q, q], r) else if a = q then ([q], b :: r) else ([], a :: b :: r)
  | [a] => if a = q then ([q], []) else ([], [a])
  | [] => ([], [])

/-- Whether a line break comes next, after spaces and tabs. -/
def breaks (cs : List Char) : Bool := (newline? (skipSpace cs)).isSome

/-- Scans a text up to its three closing double quotes.  A backslash at the end of a line takes
    all white space after it away, which `trim` remembers. -/
def longBasicRest? (trim : Bool) : List Char → Option (List Char × List Char)
  | '"' :: '"' :: '"' :: r => some (touching '"' r)
  | '\\' :: 'u' :: a :: b :: c :: d :: r =>
    inFront? (numbered? [a, b, c, d]) (longBasicRest? false r)
  | '\\' :: 'U' :: a :: b :: c :: d :: e :: f :: g :: h :: r =>
    inFront? (numbered? [a, b, c, d, e, f, g, h]) (longBasicRest? false r)
  | '\\' :: e :: r =>
    if breaks (e :: r) then longBasicRest? true (e :: r)
    else inFront? (escaped? e) (longBasicRest? false r)
  | '\r' :: '\n' :: r =>
    if trim then longBasicRest? true r else inFront? (some '\n') (longBasicRest? false r)
  | c :: r =>
    if trim && (isSpace c || c == '\n') then longBasicRest? true r
    else if (isPrinted c || c == '\n') && c ≠ '\\' then inFront? (some c) (longBasicRest? false r)
    else none
  | [] => none

/-- Scans a text up to its three closing single quotes. -/
def longLiteralRest? : List Char → Option (List Char × List Char)
  | '\'' :: '\'' :: '\'' :: r => some (touching '\'' r)
  | '\r' :: '\n' :: r => inFront? (some '\n') (longLiteralRest? r)
  | c :: r => if isPrinted c || c == '\n' then inFront? (some c) (longLiteralRest? r) else none
  | [] => none

/-- The rest after a line break, if one comes next. -/
def skipNewline (cs : List Char) : List Char := (newline? cs).getD cs

/-- Scans a text of any kind. -/
def scanText? : List Char → Option (String × List Char)
  | '"' :: '"' :: '"' :: r => (longBasicRest? false (skipNewline r)).map fun (cs, r) =>
    (String.ofList cs, r)
  | '"' :: r => (basicRest? r).map fun (cs, r) => (String.ofList cs, r)
  | '\'' :: '\'' :: '\'' :: r => (longLiteralRest? (skipNewline r)).map fun (cs, r) =>
    (String.ofList cs, r)
  | '\'' :: r => (literalRest? r).map fun (cs, r) => (String.ofList cs, r)
  | _ => none

/-! ### Keys -/

/-- Whether the character may stand in a key without quotes. -/
def isBare (c : Char) : Bool := c.isAlphanum || c == '_' || c == '-'

/-- Scans one part of a key. -/
def keyPart? : List Char → Option (String × List Char)
  | '"' :: r => (basicRest? r).map fun (cs, r) => (String.ofList cs, r)
  | '\'' :: r => (literalRest? r).map fun (cs, r) => (String.ofList cs, r)
  | cs =>
    if (cs.takeWhile isBare).isEmpty then none
    else some (String.ofList (cs.takeWhile isBare), cs.dropWhile isBare)

/-- Scans a key of at most so many parts. -/
def keyParts? : (most : Nat) → List Char → Option (List String × List Char)
  | 0, _ => none
  | most + 1, cs => do
    let (part, r) ← keyPart? (skipSpace cs)
    match skipSpace r with
    | '.' :: r => (keyParts? most r).map fun (parts, r) => (part :: parts, r)
    | r => some ([part], r)

/-- How deep values may nest, and how many parts a key may have. -/
def nesting : Nat := 79

/-- Scans a key. -/
def key? (cs : List Char) : Option (List String × List Char) := keyParts? nesting cs

end ClusterPackages.Toml
