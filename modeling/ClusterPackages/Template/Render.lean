import ClusterPackages.Json.Write
import ClusterPackages.Template.Parse
import ClusterPackages.Text.Affix
import ClusterPackages.Text.Blank

namespace ClusterPackages

open Text

/-!
# Rendering

* `Json.truthy` — whether a value makes a section appear.
* `Json.inline` — the text of a value in running text.
* `Template.resolve` — the value that a name denotes.
* `Template.render` — the text of a template in a context.
-/

/-- Whether a value makes a section appear: `null`, `false`, blank texts and empty arrays do
    not. -/
def Json.truthy : Json → Bool
  | .null => false
  | .bool b => b
  | .number _ => true
  | .str s => !allBlank s
  | .arr items => !items.isEmpty
  | .obj _ => true

/-- The text of a number in running text: a whole floating-point number is written without a
    point, all others as in a document. -/
def Number.inline : Number → List Char
  | .int n => Json.writeInt n
  | .float x => if x.isWhole then x.wholeText else x.documentText

/-- The text of a value in running text: a text stands for itself, `null` for nothing, and an
    array or object for its document. -/
def Json.inline : Json → String
  | .null => ""
  | .bool b => if b then "true" else "false"
  | .number n => String.ofList n.inline
  | .str s => s
  | v => v.compact

namespace Template

/-- The value of a name that is split at its dots: the first key is looked up in the innermost
    context that has it, the others below what was found. -/
def resolvePath (contexts : List Json) : List String → Option Json
  | [] => none
  | k :: path => (contexts.findSome? (·.get? k)).bind (Json.at? path)

/-- The value that a name denotes, with the contexts from the innermost outwards; a dot alone
    denotes the innermost context. -/
def resolve (contexts : List Json) (name : String) : Option Json :=
  if name = "." then contexts.head? else resolvePath contexts (segments '.' name)

mutual

/-- The text of a part of a template. -/
def renderNode (contexts : List Json) : Node → String
  | .text s => s
  | .comment _ => ""
  | .value name => (resolve contexts name).elim "" Json.inline
  | .block name true children =>
    if (resolve contexts name).any Json.truthy then "" else renderNodes contexts children
  | .block name false children =>
    match resolve contexts name with
    | none => ""
    | some v =>
      if v.truthy then
        match v with
        | .arr items => concat (items.map fun item => renderNodes (item :: contexts) children)
        | _ => renderNodes (v :: contexts) children
      else ""

/-- The text of a sequence of parts. -/
def renderNodes (contexts : List Json) : List Node → String
  | [] => ""
  | n :: rest => renderNode contexts n ++ renderNodes contexts rest

end

/-- The text of a template whose names are looked up in `context`. -/
def render (nodes : List Node) (context : Json) : String := renderNodes [context] nodes

end Template

end ClusterPackages
