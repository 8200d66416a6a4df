import ClusterPackages.Json.Write
import ClusterPackages.Text.Affix

namespace ClusterPackages.Config

open Text

/-!
# Merging configuration

A configuration is the list of fields of an object.

* `coerce` — a value made ready for substitution: arrays become their text, and a number becomes
  a text when its declared type asks for a form.
* `merge` — the fields of a base with those of an overlay put over them.
* `lookup?` — the value at a dotted path.
-/

/-- The form of a value under a declared type.  An array becomes its compact text; a number
    declared as an integer is cut to one of 64 bits, and one declared as a number gets two places;
    every other value stays as it is. -/
def coerce (declared : String) : Json → Json
  | .arr items => .str (Json.arr items).compact
  | .number n =>
    if declared = "integer" then .str (String.ofList (Json.writeInt n.toBinary64.toInt64))
    else if declared = "number" then .str (String.ofList n.toBinary64.placesText)
    else .number n
  | v => v

mutual

/-- What stands at a key that the overlay gives the value `v`: objects are merged, and any other
    value replaces what was there. -/
def overlaid : (base : Option Json) → (v : Json) → Json
  | some (.obj base), .obj fields => .obj (merge base fields)
  | _, v => coerce "" v

/-- The base with the fields of the overlay put over it. -/
def merge (base : List (String × Json)) : (overlay : List (String × Json)) → List (String × Json)
  | [] => base
  | (k, v) :: rest => merge (Entries.insert k (overlaid (Entries.find? k base) v) base) rest

end

/-- The value at a dotted path. -/
def lookup? (path : String) (config : Entries Json) : Option Json :=
  Json.at? (segments '.' path) (.obj config)

/-- The text at a dotted path. -/
def lookupText? (path : String) (config : Entries Json) : Option String :=
  (lookup? path config).bind Json.str?

end ClusterPackages.Config
