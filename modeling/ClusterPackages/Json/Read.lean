import ClusterPackages.Json.Document

namespace ClusterPackages.Json

open Text

/-!
# What a document means

* `Quoted.text?` — the text of a string: no damaged stretch, and surrogate units in pairs only.
* `Document.json?` — the value, with the number of arrays and objects that may still enclose one
  another.  A later field replaces an earlier one of its key.
* `Json.read?`, `Json.parse?` — the value of a byte sequence and of a text; arrays and objects
  nest at most `nesting` deep.
* `Document.object?`, `Json.parseObject?` — the fields of an object that a document or a text
  spells.  They are ordered, as all values are that reading yields (`Document.json?_ordered`).
-/

/-- How deep arrays and objects may nest in a value that is read. -/
def nesting : Nat := 127

/-- The characters of a string. -/
def Quoted.chars? : Quoted → Option (List Char)
  | [] => some []
  | .char c :: r => (chars? r).map (c :: ·)
  | .damaged :: _ => none
  | .unit n :: r =>
    if 0xDC00 ≤ n && n ≤ 0xDFFF then none
    else if 0xD800 ≤ n && n ≤ 0xDBFF then
      match r with
      | .unit m :: r' =>
        if 0xDC00 ≤ m && m ≤ 0xDFFF then
          (chars? r').map (Char.ofNat (0x10000 + (n - 0xD800) * 0x400 + (m - 0xDC00)) :: ·)
        else none
      | _ => none
    else (chars? r).map (Char.ofNat n :: ·)

/-- The text of a string. -/
def Quoted.text? (q : Quoted) : Option String := (Quoted.chars? q).map String.ofList

mutual

/-- The value of a document in which at most `depth` arrays and objects enclose one another. -/
def Document.json? : (depth : Nat) → Document → Option Json
  | _, .null => some .null
  | _, .bool b => some (.bool b)
  | _, .number n => n.value?.map .number
  | _, .str q => (Quoted.text? q).map .str
  | 0, .arr _ => none
  | depth + 1, .arr items => (itemsJson? depth items).map .arr
  | 0, .obj _ => none
  | depth + 1, .obj fields => (fieldsJson? depth [] fields).map .obj

/-- The values of the items of an array. -/
def itemsJson? (depth : Nat) : List Document → Option (List Json)
  | [] => some []
  | v :: r => do
    let x ← v.json? depth
    let xs ← itemsJson? depth r
    some (x :: xs)

/-- The fields of an object, put one after another into `seen`. -/
def fieldsJson? (depth : Nat) (seen : Entries Json) :
    List (Quoted × Document) → Option (Entries Json)
  | [] => some seen
  | (q, v) :: r => do
    let k ← Quoted.text? q
    let x ← v.json? depth
    fieldsJson? depth (Entries.insert k x seen) r

end

/-! ### Order -/

mutual

/-- Reading yields ordered values only. -/
theorem Document.json?_ordered : ∀ {depth : Nat} {d : Document} {v : Json},
    d.json? depth = some v → v.Ordered
  | _, .null, _, h => by cases h; trivial
  | _, .bool b, _, h => by cases h; trivial
  | _, .number n, _, h => by
    obtain ⟨x, -, rfl⟩ := Option.map_eq_some_iff.1 (by simpa [Document.json?] using h)
    trivial
  | _, .str q, _, h => by
    obtain ⟨x, -, rfl⟩ := Option.map_eq_some_iff.1 (by simpa [Document.json?] using h)
    trivial
  | 0, .arr _, _, h => by simp [Document.json?] at h
  | depth + 1, .arr items, _, h => by
    obtain ⟨l, hl, rfl⟩ := Option.map_eq_some_iff.1 (by simpa [Document.json?] using h)
    exact itemsJson?_ordered hl
  | 0, .obj _, _, h => by simp [Document.json?] at h
  | depth + 1, .obj fields, _, h => by
    obtain ⟨l, hl, rfl⟩ := Option.map_eq_some_iff.1 (by simpa [Document.json?] using h)
    exact fieldsJson?_ordered hl ⟨.nil, trivial⟩

/-- Items that are read have ordered values only. -/
theorem itemsJson?_ordered : ∀ {depth : Nat} {items : List Document} {l : List Json},
    itemsJson? depth items = some l → OrderedItems l
  | _, [], _, h => by cases h; trivial
  | depth, d :: r, l, h => by
    simp only [itemsJson?, Option.bind_eq_bind, Option.bind_eq_some_iff] at h
    obtain ⟨x, hx, xs, hxs, h⟩ := h
    cases h
    exact ⟨Document.json?_ordered hx, itemsJson?_ordered hxs⟩

/-- Fields are put into an object that is ordered already. -/
theorem fieldsJson?_ordered : ∀ {depth : Nat} {seen : Entries Json}
    {fields : List (Quoted × Document)} {l : Entries Json},
    fieldsJson? depth seen fields = some l → Ordered (.obj seen) → Ordered (.obj l)
  | _, _, [], _, h, hs => by cases h; exact hs
  | depth, seen, (q, d) :: r, l, h, hs => by
    simp only [fieldsJson?, Option.bind_eq_bind, Option.bind_eq_some_iff] at h
    obtain ⟨k, -, x, hx, h⟩ := h
    exact fieldsJson?_ordered h (hs.insert (Document.json?_ordered hx))

end

/-- The fields of an object in which at most `depth` arrays and objects enclose one another. -/
def Document.object? (depth : Nat) (d : Document) : Option Object :=
  match h : d.json? depth with
  | some (.obj fields) => some ⟨fields, Document.json?_ordered h⟩
  | _ => none

/-! ### Texts -/

/-- The value that the symbols spell. -/
def readSymbols? (s : List Sym) : Option Json := (Document.read? s).bind (·.json? nesting)

/-- The value that a byte sequence spells. -/
def read? (b : Bytes) : Option Json := readSymbols? (Utf8.decode b)

/-- The value that a text spells. -/
def parse? (s : String) : Option Json := readSymbols? (Utf8.symbols s)

/-- The fields of the object that a text spells. -/
def parseObject? (s : String) : Option Object :=
  (Document.read? (Utf8.symbols s)).bind (·.object? nesting)

end ClusterPackages.Json
