import ClusterPackages.Template.Node
import ClusterPackages.Text.Blank

namespace ClusterPackages.Template

open Text

/-!
# Templates as pieces

Before sections are matched up, a template is a sequence of pieces: stretches of text and tags.

* `Piece` — a stretch of text, a tag, or the reason why a tag is none.
* `Piece.ofBody` — the tag with the given characters between its braces.
* `pieces` — the pieces of a text, from left to right.  A tag ends at the first closing braces
  after it, three of them if it opened with three.
-/

/-- A stretch of text, a tag, or a fault. -/
inductive Piece where
  /-- A non-empty stretch of text. -/
  | text (s : String)
  /-- A substitution. -/
  | value (name : String)
  /-- A comment. -/
  | comment (s : String)
  /-- The opening tag of a section. -/
  | opening (name : String) (inverted : Bool)
  /-- The closing tag of a section, at a byte position. -/
  | closing (name : String) (position : Nat)
  /-- Braces that enclose no tag. -/
  | fault (e : TemplateError)
deriving DecidableEq, Repr

/-- The piece that a tag at `position` makes of its name, which must not be blank. -/
def Piece.named (position : Nat) (make : String → Piece) (raw : List Char) : Piece :=
  let name := trimChars raw
  if name.isEmpty then .fault (.emptyTag position) else make (String.ofList name)

/-- The tag at `position` with the given characters between its double braces.  Its first
    character that is not blank tells its kind. -/
def Piece.ofBody (position : Nat) (body : List Char) : Piece :=
  match trimChars body with
  | [] => .fault (.emptyTag position)
  | c :: rest =>
    if c = '!' then .comment (String.ofList (trimChars rest))
    else if c = '&' then named position .value rest
    else if c = '#' then named position (.opening · false) rest
    else if c = '^' then named position (.opening · true) rest
    else if c = '/' then named position (.closing · position) rest
    else if c = '>' || c = '=' then .fault (.unsupported (String.ofList (c :: rest)) position)
    else .value (String.ofList (c :: rest))

/-- What is being read.  Characters read so far are held in reverse; a tag remembers the byte
    position at which it started. -/
inductive Reading where
  /-- Text. -/
  | text (read : List Char)
  /-- A tag between double braces. -/
  | tag (start : Nat) (read : List Char)
  /-- A tag between triple braces. -/
  | triple (start : Nat) (read : List Char)

/-- Puts the text read so far in front of the pieces, unless it is empty. -/
def flush (read : List Char) (rest : List Piece) : List Piece :=
  if read.isEmpty then rest else .text (String.ofList read.reverse) :: rest

/-- The pieces of the characters from byte `position` on. -/
def scan (position : Nat) : Reading → List Char → List Piece
  | .text read, [] => flush read []
  | .text read, '{' :: '{' :: '{' :: r => flush read (scan (position + 3) (.triple position []) r)
  | .text read, '{' :: '{' :: r => flush read (scan (position + 2) (.tag position []) r)
  | .text read, c :: r => scan (position + c.utf8Size) (.text (c :: read)) r
  | .tag start _, [] => [.fault (.unclosedTag start)]
  | .tag start read, '}' :: '}' :: r =>
    Piece.ofBody start read.reverse :: scan (position + 2) (.text []) r
  | .tag start read, c :: r => scan (position + c.utf8Size) (.tag start (c :: read)) r
  | .triple start _, [] => [.fault (.unclosedTag start)]
  | .triple start read, '}' :: '}' :: '}' :: r =>
    Piece.named start .value read.reverse :: scan (position + 3) (.text []) r
  | .triple start read, c :: r => scan (position + c.utf8Size) (.triple start (c :: read)) r

/-- The pieces of a template. -/
def pieces (source : String) : List Piece := scan 0 (.text []) source.toList

end ClusterPackages.Template
