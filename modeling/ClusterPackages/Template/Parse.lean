import ClusterPackages.Template.Piece

namespace ClusterPackages.Template

/-!
# From pieces to trees

* `build` — matches closing tags with opening ones; the first fault from the left ends it.
* `parse` — the parts of a template.
-/

/-- A section whose closing tag is still to come. -/
structure OpenSection where
  /-- Its name. -/
  name : String
  /-- Whether it is inverted. -/
  inverted : Bool
  /-- The parts before it at its own level, in reverse. -/
  before : List Node

/-- The parts that the pieces make up, given the open sections, innermost first, and the parts
    read so far at the innermost level, in reverse. -/
def build : List Piece → (opened : List OpenSection) → (read : List Node) →
    Except TemplateError (List Node)
  | [], [], read => .ok read.reverse
  | [], o :: _, _ => .error (.unclosedSection o.name)
  | .text s :: r, os, read => build r os (.text s :: read)
  | .value n :: r, os, read => build r os (.value n :: read)
  | .comment s :: r, os, read => build r os (.comment s :: read)
  | .opening n inv :: r, os, read => build r (⟨n, inv, read⟩ :: os) []
  | .closing n p :: _, [], _ => .error (.unexpectedClose n p)
  | .closing n p :: r, o :: os, read =>
    if o.name = n then build r os (.block o.name o.inverted read.reverse :: o.before)
    else .error (.mismatchedSection o.name n p)
  | .fault e :: _, _, _ => .error e

/-- The parts of a template. -/
def parse (source : String) : Except TemplateError (List Node) := build (pieces source) [] []

end ClusterPackages.Template
