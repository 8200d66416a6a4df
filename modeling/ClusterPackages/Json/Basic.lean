import ClusterPackages.Decimal.Binary64
import ClusterPackages.Table

namespace ClusterPackages

/-!
# JSON values

* `Json` — a value, with the fields of an object as a list of entries.
* `Json.Ordered` — the keys of every object, at any depth, ascend strictly.  Reading produces such
  values only; structures that are written in an order of their own do not obey it.
* `Json.get?`, `Json.at?` — the value at a key, and along a list of keys.
* `Json.Object` — the fields of an object together with the fact that they are ordered; what is
  configured, and what is read as an object, is held in this form.
-/

/-- A number: integers and floating-point numbers are kept apart. -/
inductive Number where
  /-- An integer, from `-2 ^ 63` to `2 ^ 64 - 1`. -/
  | int (n : Int)
  /-- A finite floating-point number. -/
  | float (x : Binary64)
deriving DecidableEq, Repr

/-- The number in binary64; an integer is rounded to the nearest one. -/
def Number.toBinary64 : Number → Binary64
  | .int n => Binary64.ofInt n
  | .float x => x

/-- A JSON value. -/
inductive Json where
  /-- The value `null`. -/
  | null
  /-- A truth value. -/
  | bool (b : Bool)
  /-- A number. -/
  | number (n : Number)
  /-- A text. -/
  | str (s : String)
  /-- An array. -/
  | arr (items : List Json)
  /-- An object. -/
  | obj (fields : List (String × Json))
deriving Inhabited

namespace Json

/-- An integer as a value. -/
def int (n : Int) : Json := .number (.int n)

/-- The value at a key; only objects have any. -/
def get? (k : String) : Json → Option Json
  | .obj fields => Entries.find? k fields
  | _ => none

/-- The value along a list of keys, starting from the value itself. -/
def at? : List String → Json → Option Json
  | [], v => some v
  | k :: path, v => (v.get? k).bind (at? path)

/-- The text, if the value is one. -/
def str? : Json → Option String
  | .str s => some s
  | _ => none

/-- The fields, if the value is an object. -/
def fields? : Json → Option (Entries Json)
  | .obj fields => some fields
  | _ => none

/-- Whether the value is an object. -/
def isObject : Json → Bool
  | .obj _ => true
  | _ => false

/-- A text, or `null` when there is none. -/
def ofText? : Option String → Json
  | some s => .str s
  | none => .null

/-- A list of texts as an array. -/
def ofTexts (l : List String) : Json := .arr (l.map .str)

mutual

/-- The keys of every object in the value ascend strictly. -/
def Ordered : Json → Prop
  | .arr items => OrderedItems items
  | .obj fields => Entries.Ascending fields ∧ OrderedFields fields
  | _ => True

/-- Every one of the values is ordered. -/
def OrderedItems : List Json → Prop
  | [] => True
  | v :: rest => Ordered v ∧ OrderedItems rest

/-- Every field has an ordered value. -/
def OrderedFields : List (String × Json) → Prop
  | [] => True
  | (_, v) :: rest => Ordered v ∧ OrderedFields rest

end

/-- The fields are ordered when the value of each of them is. -/
theorem orderedFields_iff {l : Entries Json} : OrderedFields l ↔ ∀ e ∈ l, Ordered e.2 := by
  induction l with
  | nil => simp [OrderedFields]
  | cons e rest ih => simp [OrderedFields, ih]

/-- An object is ordered when its keys ascend and its values are ordered. -/
theorem ordered_obj {l : Entries Json} :
    Ordered (.obj l) ↔ l.Ascending ∧ ∀ e ∈ l, Ordered e.2 := by
  rw [Ordered, orderedFields_iff]

/-- Putting an ordered value into an ordered object leaves it ordered. -/
theorem Ordered.insert {k : String} {v : Json} {l : Entries Json} (hl : Ordered (.obj l))
    (hv : Ordered v) : Ordered (.obj (Entries.insert k v l)) := by
  rw [ordered_obj] at hl ⊢
  refine ⟨Entries.ascending_insert hl.1, fun e he => ?_⟩
  rcases Entries.mem_insert he with rfl | he
  · exact hv
  · exact hl.2 e he

/-! ### Objects -/

/-- The fields of an object, in which the keys ascend at every depth. -/
structure Object where
  /-- The fields. -/
  fields : Entries Json
  /-- The keys ascend at every depth. -/
  ordered : Ordered (.obj fields)

namespace Object

/-- The object without fields. -/
def empty : Object := ⟨[], .nil, trivial⟩

instance : EmptyCollection Object := ⟨empty⟩

instance : Inhabited Object := ⟨empty⟩

/-- Whether there is no field. -/
def isEmpty (o : Object) : Bool := o.fields.isEmpty

/-- The object as a value. -/
def toJson (o : Object) : Json := .obj o.fields

/-- The object with an ordered value at a key. -/
def insert (o : Object) (k : String) (v : Json) (h : v.Ordered) : Object :=
  ⟨Entries.insert k v o.fields, o.ordered.insert h⟩

/-- The object with a text at a key. -/
def insertText (o : Object) (k s : String) : Object := o.insert k (.str s) trivial

/-- The object with an object at a key. -/
def insertObject (o : Object) (k : String) (v : Object) : Object := o.insert k v.toJson v.ordered

end Object

end Json

end ClusterPackages
