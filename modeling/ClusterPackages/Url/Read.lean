import ClusterPackages.Url.Basic

namespace ClusterPackages.Url

open Text

/-!
# Reading URLs

A text is cut at its first number sign and its first question mark; what stands before them is
the *front*.  It is a URL of its own when it starts with a scheme, and otherwise only means
something relative to a base.

* `walk` — adds segments to a path, with `.` and `..` resolved.
* `parse?` — the URL that a text spells on its own.
* `resolve?` — the URL that a text spells relative to a base.
-/

/-! ### Paths -/

/-- Whether a segment is a point, possibly encoded. -/
def isDot (segment : String) : Bool :=
  sameIgnoringCase segment "." || sameIgnoringCase segment "%2e"

/-- Whether a segment is two points, possibly encoded. -/
def isDotDot (segment : String) : Bool :=
  ["..", ".%2e", "%2e.", "%2e%2e"].any (sameIgnoringCase segment)

/-- Whether a segment is the letter of a drive. -/
def isDrive (segment : String) : Bool :=
  match segment.toList with
  | [c, mark] => c.isAlpha && (mark == ':' || mark == '|')
  | _ => false

/-- A path without its last segment.  The letter of a drive stays. -/
def shorten (path : List String) : List String :=
  if path.getLast?.any isDrive then path else path.dropLast

/-- A segment as it is added to a path; the letter of a drive at the root gets a colon. -/
def rooted (file : Bool) (path : List String) (segment : String) : String :=
  if file && path.isEmpty && isDrive segment then String.ofList (segment.toList.take 1 ++ [':'])
  else segment

/-- Adds segments to a path.  A point adds nothing and two points take a segment away; at the end
    they leave the slash before them. -/
def walk (file : Bool) (path : List String) : List String → List String
  | [] => path
  | [s] =>
    if isDotDot s then shorten path ++ [""]
    else if isDot s then path ++ [""]
    else path ++ [rooted file path s]
  | s :: t :: rest =>
    if isDotDot s then walk file (shorten path) (t :: rest)
    else if isDot s then walk file path (t :: rest)
    else walk file (path ++ [rooted file path s]) (t :: rest)

/-- A path without needless empty segments at its front, which paths of files do not have. -/
def tidy (file : Bool) : List String → List String
  | "" :: t :: rest => if file then tidy file (t :: rest) else "" :: t :: rest
  | path => path

/-- Whether the character ends a segment. -/
def isSlash (special : Bool) (c : Char) : Bool := c == '/' || (special && c == '\\')

/-- The segments that the characters spell, encoded. -/
def cutSegments (special : Bool) (cs : List Char) : List String :=
  (cs.splitOnP (isSlash special)).map (Percent.encode Percent.inPath)

/-- A path with the segments that the characters spell, before it is tidied. -/
def extended (scheme : String) (path : List String) (cs : List Char) : List String :=
  walk (isFile scheme) path (cutSegments (isSpecial scheme) cs)

/-- Adds the segments that the characters spell to a path. -/
def extendPath (scheme : String) (path : List String) (cs : List Char) : Path :=
  .segments (tidy (isFile scheme) (extended scheme path cs))

/-- The path after a host. -/
def pathAfterHost (scheme : String) (cs : List Char) : Path :=
  match cs with
  | [] => if isSpecial scheme then .segments [""] else .segments []
  | c :: r => extendPath scheme [] (if isSlash (isSpecial scheme) c then r else c :: r)

/-- The path that a text spells where there was another one.  A path without structure does not
    start with a slash, which is encoded there. -/
def Path.respell (scheme : String) : Path → String → Path
  | .segments _, text => pathAfterHost scheme text.toList
  | .whole _, text =>
    match text.toList with
    | '/' :: rest => .whole ("%2F" ++ Percent.encode Percent.controls rest)
    | cs => .whole (Percent.encode Percent.controls cs)

/-! ### The part between the scheme and the path -/

/-- The characters before and after the last `a`, if there is one. -/
def cutLast? (a : Char) (cs : List Char) : Option (List Char × List Char) :=
  if cs.contains a then
    let after := (cs.reverse.takeWhile (· ≠ a)).reverse
    some (cs.take (cs.length - after.length - 1), after)
  else none

/-- The characters before and from the first `a` on. -/
def cutFirst (a : Char) (cs : List Char) : List Char × List Char :=
  (cs.takeWhile (· ≠ a), cs.dropWhile (· ≠ a))

/-- The characters before and from the first colon on that is not between brackets. -/
def cutHost (inside : Bool) : List Char → List Char × List Char
  | [] => ([], [])
  | c :: r =>
    if c = ':' && !inside then ([], c :: r)
    else
      let (host, rest) := cutHost (if c = '[' then true else if c = ']' then false else inside) r
      (c :: host, rest)

/-- The port after a host, unless it is the one of the scheme, and what follows, which only a
    backslash can start. -/
def port? (scheme : String) : List Char → Option (Option Nat × List Char)
  | ':' :: r =>
    let ds := r.takeWhile isDigit
    let rest := r.dropWhile isDigit
    let n := Nat.ofDigitChars 10 ds 0
    if (!rest.isEmpty && rest.head? != some '\\') || 65535 < n then none
    else some (if ds.isEmpty || defaultPort? scheme == some n then none else some n, rest)
  | rest => some (none, rest)

/-- The host for the characters. -/
def host? (scheme : String) (cs : List Char) : Option Host :=
  if isSpecial scheme then Host.ofSpecial? cs else Host.ofOther? cs

/-- The URL of a scheme from what follows the two slashes; `more` tells whether a query or a
    fragment comes after it. -/
def ofAuthority? (scheme : String) (more : Bool) (cs : List Char) : Option Url := do
  let whole := cs.takeWhile (!isSlash (isSpecial scheme) ·)
  let path := cs.dropWhile (!isSlash (isSpecial scheme) ·)
  let (user, place) := (cutLast? '@' whole).getD ([], whole)
  let (name, password) := cutFirst ':' user
  let username := Percent.encode Percent.inUserinfo name
  let password := Percent.encode Percent.inUserinfo (password.drop 1)
  let (name, rest) := cutHost false place
  let bare := user.isEmpty && place.length < whole.length && place.isEmpty
  if name.isEmpty && (isSpecial scheme || !rest.isEmpty || !username.isEmpty || !password.isEmpty
      || (bare && (more || !path.isEmpty))) then none
  else do
    let host ← host? scheme name
    let (port, left) ← port? scheme rest
    some ⟨scheme, username, password, host, port, pathAfterHost scheme (left ++ path), none, none⟩

/-! ### Files -/

/-- Whether the characters start with the letter of a drive as a segment. -/
def startsWithDrive (cs : List Char) : Bool :=
  isDrive (String.ofList (cs.take 2)) && (cs.drop 2).head?.all fun c => c == '/' || c == '\\'

/-- Whether segments start with the letter of a drive. -/
def hasDrive (path : List String) : Bool := path.head?.any isDrive

/-- The URL of a file on a host. -/
def ofFile (host : Host) (path : Path) : Url := ⟨"file", "", "", some host, none, path, none, none⟩

/-- The URL of a file from what follows two slashes.  A drive has no host, and neither has the
    local one. -/
def ofFileHost? (cs : List Char) : Option Url := do
  let name := cs.takeWhile (!isSlash true ·)
  let rest := cs.dropWhile (!isSlash true ·)
  if isDrive (String.ofList name) then some (ofFile (.named "") (extendPath "file" [] cs))
  else do
    let host ← if name.isEmpty then some (.named "") else Host.ofSpecial? name
    let isLocal := host = .named "localhost" || hasDrive (extended "file" [] (rest.drop 1))
    some (ofFile (if isLocal then .named "" else host) (pathAfterHost "file" rest))

/-- The segments of a path. -/
def Path.list : Path → List String
  | .whole _ => []
  | .segments l => l

/-- The URL of a file from what follows the scheme when no host comes next, relative to the URL of
    another one. -/
def ofFilePath (base : Option Url) (cs : List Char) : Url :=
  let host := (base.bind (·.host)).getD (.named "")
  let path := (base.map (·.path.list)).getD []
  let rest := if cs.head?.any (isSlash true) then cs.drop 1 else cs
  if startsWithDrive rest then ofFile (.named "") (extendPath "file" [] rest)
  else if rest.length = cs.length then ofFile host (extendPath "file" (shorten path) rest)
  else if hasDrive path then ofFile (.named "") (extendPath "file" (path.take 1) rest)
  else ofFile host (extendPath "file" [] rest)

/-- The URL of a file from what follows the scheme, relative to the URL of another one. -/
def ofFileFront? (base : Option Url) (cs : List Char) : Option Url :=
  match cs with
  | c :: d :: r =>
    if isSlash true c && isSlash true d then ofFileHost? r else some (ofFilePath base cs)
  | cs => some (ofFilePath base cs)

/-! ### Whole URLs -/

/-- A text cut at its number sign and its question mark. -/
structure Cut where
  /-- What stands before them. -/
  front : List Char
  /-- What follows the question mark. -/
  query : Option (List Char)
  /-- What follows the number sign. -/
  fragment : Option (List Char)

/-- The characters that count: those that remain when spaces and controls at the ends, and tabs
    and line breaks everywhere, are left out. -/
def relevant (s : String) : List Char :=
  let drop := fun (cs : List Char) => cs.dropWhile (·.toNat ≤ 0x20)
  (drop (drop s.toList).reverse).reverse.filter fun c => c != '\t' && c != '\n' && c != '\r'

/-- Cuts a text. -/
def cut (s : String) : Cut :=
  let (whole, fragment) := cutFirst '#' (relevant s)
  let (front, query) := cutFirst '?' whole
  ⟨front, query.tail?, fragment.tail?⟩

/-- Whether a query or a fragment follows the front. -/
def Cut.more (t : Cut) : Bool := t.query.isSome || t.fragment.isSome

/-- The scheme that the characters start with, and what follows it. -/
def scheme? (cs : List Char) : Option (String × List Char) :=
  let isPart := fun (c : Char) => c.isAlphanum || c == '+' || c == '-' || c == '.'
  match cs.dropWhile isPart with
  | ':' :: rest =>
    if cs.head?.any Char.isAlpha then
      some (asciiLower (String.ofList (cs.takeWhile isPart)), rest)
    else none
  | _ => none

/-- The URL with the query and the fragment of a text. -/
def withEnd (t : Cut) (u : Url) : Url :=
  let inQuery := if isSpecial u.scheme then Percent.inSpecialQuery else Percent.inQuery
  { u with
    query := t.query.map (Percent.encode inQuery)
    fragment := t.fragment.map (Percent.encode Percent.inFragment) }

/-- The URL that a text without a front spells relative to a base, whose query it keeps unless it
    has one. -/
def atEnd (base : Url) (t : Cut) : Url :=
  if t.query.isSome then withEnd t base else { withEnd t base with query := base.query }

/-- The URL that a front without a scheme spells relative to a base. -/
def relative? (base : Url) (t : Cut) (cs : List Char) : Option Url :=
  match base.path, cs with
  | .whole _, [] => if t.query.isNone && t.fragment.isSome then some (atEnd base t) else none
  | .whole _, _ :: _ => none
  | .segments _, [] => some (atEnd base t)
  | .segments path, c :: r =>
    if isFile base.scheme then (ofFileFront? (some base) cs).map (withEnd t)
    else if (cs.takeWhile (isSlash true)).length < 2 then
      let list := if isSlash true c then extendPath base.scheme [] r
        else extendPath base.scheme path.dropLast cs
      some (withEnd t { base with path := list })
    else
      let rest := if ['/', '/'].isPrefixOf cs then cs.drop 2 else cs.dropWhile (isSlash true)
      (ofAuthority? base.scheme t.more rest).map (withEnd t)

/-- The URL of a special scheme from what follows it; with less than two slashes, a text of the
    scheme of the base is relative to it. -/
def ofSpecial? (scheme : String) (base : Option Url) (t : Cut) (cs : List Char) : Option Url :=
  let few := (cs.takeWhile (isSlash true)).length < 2
  match base.filter (·.scheme == scheme) with
  | some b =>
    if isFile scheme || few then relative? b t cs
    else (ofAuthority? scheme t.more (cs.dropWhile (isSlash true))).map (withEnd t)
  | none =>
    if isFile scheme then (ofFileFront? none cs).map (withEnd t)
    else (ofAuthority? scheme t.more (cs.dropWhile (isSlash true))).map (withEnd t)

/-- The URL of any other scheme from what follows it. -/
def ofOther? (scheme : String) (t : Cut) (cs : List Char) : Option Url :=
  let ofPath := fun path => withEnd t ⟨scheme, "", "", none, none, path, none, none⟩
  match cs with
  | '/' :: '/' :: r => (ofAuthority? scheme t.more r).map (withEnd t)
  | '/' :: r => some (ofPath (extendPath scheme [] r))
  | cs => some (ofPath (.whole (Percent.encode Percent.controls cs)))

/-- The URL that a text spells, relative to a base if there is one and the text needs it. -/
def read? (base : Option Url) (s : String) : Option Url :=
  let t := cut s
  match scheme? t.front with
  | some (scheme, rest) =>
    if isSpecial scheme then ofSpecial? scheme base t rest else ofOther? scheme t rest
  | none => base.bind fun b => relative? b t t.front

/-- The URL that a text spells on its own. -/
def parse? (s : String) : Option Url := read? none s

/-- The URL that a text spells relative to a base. -/
def resolve? (base : Url) (s : String) : Option Url := read? (some base) s

end ClusterPackages.Url
