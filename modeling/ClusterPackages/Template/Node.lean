namespace ClusterPackages

/-!
# Templates as trees

A template is a text with tags between double braces.  A tag substitutes a value, opens or closes
a section, or is a comment.

* `Template.Node` — a part of a template: text, a substitution, a comment or a section.
* `TemplateError` — why a text is no template, with the byte position of the offending tag.
-/

namespace Template

/-- A part of a template. -/
inductive Node where
  /-- Text that is copied as it stands. -/
  | text (s : String)
  /-- The place of the value with this name. -/
  | value (name : String)
  /-- A comment, which leaves nothing behind. -/
  | comment (s : String)
  /-- Parts that are rendered once per item of a value or not at all; an inverted section is
      rendered when an ordinary one would not be. -/
  | block (name : String) (inverted : Bool) (children : List Node)
deriving Inhabited

end Template

/-- Why a text is no template.  Positions count bytes from the start of the text. -/
inductive TemplateError where
  /-- The tag that starts at the position has no end. -/
  | unclosedTag (position : Nat)
  /-- The tag at the position has no name. -/
  | emptyTag (position : Nat)
  /-- The text ends inside the section with this name. -/
  | unclosedSection (name : String)
  /-- A closing tag names another section than the innermost open one. -/
  | mismatchedSection (expected found : String) (position : Nat)
  /-- A closing tag stands where no section is open. -/
  | unexpectedClose (name : String) (position : Nat)
  /-- The tag at the position is of a kind that has no meaning here. -/
  | unsupported (tag : String) (position : Nat)
deriving DecidableEq, Repr

/-- The wording of a template error. -/
def TemplateError.message : TemplateError → String
  | .unclosedTag p => "unclosed tag starting at byte " ++ toString p
  | .emptyTag p => "empty tag at byte " ++ toString p
  | .unclosedSection n => "section '" ++ n ++ "' is never closed"
  | .mismatchedSection e f p =>
    "closing '" ++ f ++ "' at byte " ++ toString p ++ " does not match open section '" ++ e ++ "'"
  | .unexpectedClose n p =>
    "closing '" ++ n ++ "' at byte " ++ toString p ++ " has no open section"
  | .unsupported t p => "unsupported tag '" ++ t ++ "' at byte " ++ toString p

end ClusterPackages
