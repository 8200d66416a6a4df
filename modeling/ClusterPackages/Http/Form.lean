import ClusterPackages.Text.Affix
import ClusterPackages.Url.Basic

namespace ClusterPackages

open Text Url.Percent

/-!
# Forms

Names with values, as they stand in the query of a URL and in the body of a form.

* `Form.encode` — letters, digits and four marks stand for themselves, a space is a plus sign, and
  every other character is percent-encoded.
* `Form.toText` — the fields of a form.
* `Url.withField` — a URL with one more field in its query.
-/

namespace Form

/-- Whether the character stands for itself. -/
def isPlain (c : Char) : Bool := c.isAlphanum || c == '*' || c == '-' || c == '.' || c == '_'

/-- A text as it stands in a form. -/
def encode (s : String) : String :=
  String.ofList (s.toList.flatMap fun c =>
    if c = ' ' then ['+'] else encodeChars (!isPlain ·) [c])

/-- A field of a form. -/
def field (name value : String) : String := encode name ++ "=" ++ encode value

/-- The fields of a form. -/
def toText (fields : List (String × String)) : String :=
  join "&" (fields.map fun (name, value) => field name value)

end Form

/-- The URL with one more field in its query. -/
def Url.withField (u : Url) (name value : String) : Url :=
  let before :=
    match u.query with
    | none => ""
    | some query => if query.isEmpty then "" else query ++ "&"
  { u with query := some (before ++ Form.field name value) }

end ClusterPackages
