namespace ClusterPackages.Text

/-!
# What a text shows

A text may hold sequences of characters that control a terminal, and other controls.  Where there
is no terminal they are left out.

* `visible` — the text without them.
-/

/-- Where in a sequence that controls a terminal one is. -/
inductive Sequence where
  /-- In none. -/
  | outside
  /-- After its first character. -/
  | start
  /-- After characters that say how it goes on. -/
  | more
  /-- Among the parameters of a command. -/
  | parameters
  /-- In a text for the terminal, which a bell may end. -/
  | command
  /-- In another text for the terminal. -/
  | text
deriving DecidableEq, Repr

namespace Sequence

/-- Whether a character is white space that is kept. -/
def isLayout (c : Char) : Bool := c == '\t' || c == '\n' || c == '\x0c' || c == '\r'

/-- Where one is after the first character of a sequence and another one. -/
def afterStart (c : Char) : Sequence :=
  if c = '[' then parameters
  else if c = ']' then command
  else if c = 'P' || c = 'X' || c = '^' || c = '_' then text
  else if c < ' ' || c = '\x7f' then start
  else if c < '0' then more
  else outside

/-- Where one is after a character. -/
def next (s : Sequence) (c : Char) : Sequence :=
  if c = '\x1b' then start
  else if c = '\x18' || c = '\x1a' then outside
  else
    match s with
    | outside => outside
    | start => if isLayout c then outside else afterStart c
    | more => if isLayout c || ('0' ≤ c && c ≤ '~') then outside else more
    | parameters => if isLayout c || ('@' ≤ c && c ≤ '~') then outside else parameters
    | command => if c = '\x07' then outside else command
    | text => text

/-- Whether a character is shown. -/
def shows (s : Sequence) (c : Char) : Bool :=
  match s with
  | outside => isLayout c || (' ' ≤ c && c ≠ '\x7f')
  | start | more | parameters => isLayout c
  | command | text => false

end Sequence

/-- The characters that are shown, from a place in a sequence on. -/
def visibleFrom (s : Sequence) : List Char → List Char
  | [] => []
  | c :: rest => (if s.shows c then [c] else []) ++ visibleFrom (s.next c) rest

/-- The text without what controls a terminal. -/
def visible (s : String) : String := String.ofList (visibleFrom .outside s.toList)

end ClusterPackages.Text
