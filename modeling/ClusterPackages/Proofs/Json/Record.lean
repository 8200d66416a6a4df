import ClusterPackages.Json.Record

namespace ClusterPackages

/-!
# What a structure is read from

* `mapM_eq_some_iff` — a list is read item by item, in order.
* `Document.Gives` — what a document gives for a field: by name in an object, by position in an
  array.
* `Document.record?_gives` — a structure that is read has what its document gives for every field.
* `Document.list?_eq_some_iff` — so has a list for every item.
-/

/-- A list is read if every item is, and the results stand in the order of the items. -/
theorem mapM_eq_some_iff {α β : Type} {f : α → Option β} :
    ∀ {l : List α} {r : List β}, l.mapM f = some r ↔ l.map f = r.map some
  | [], r => by
    rw [List.mapM_nil, List.map_nil, eq_comm (a := []), List.map_eq_nil_iff]
    exact ⟨fun h => by cases h; rfl, fun h => by rw [h]; rfl⟩
  | a :: l, r => by
    simp only [List.mapM_cons, Option.bind_eq_bind, Option.bind_eq_some_iff]
    constructor
    · rintro ⟨b, hb, r', hr', h⟩
      cases h
      rw [List.map_cons, List.map_cons, hb, mapM_eq_some_iff.1 hr']
    · intro h
      cases r with
      | nil => cases h
      | cons b r' =>
        obtain ⟨hb, hr'⟩ := List.cons.inj h
        exact ⟨b, hb, r', mapM_eq_some_iff.2 hr', rfl⟩

/-- Each result comes from an item, if every item has a result. -/
theorem exists_of_mem_mapM {α β : Type} {f : α → Option β} {l : List α} {r : List β}
    (h : l.mapM f = some r) {y : β} (hy : y ∈ r) : ∃ x ∈ l, f x = some y := by
  have hmem : some y ∈ r.map some := List.mem_map_of_mem hy
  rw [← mapM_eq_some_iff.1 h] at hmem
  exact List.mem_map.1 hmem

namespace Json.Document

/-- The document gives `x` for the field at a position in a list of names. -/
inductive Gives (names : List String) (i : Nat) (x : Document) : Document → Prop
  /-- A field of an object is found under its name. -/
  | named {fields : List (Quoted × Document)} {q : Quoted} {name : String}
    (hname : names[i]? = some name) (hq : q.text? = some name) (hx : (q, x) ∈ fields) :
    Gives names i x (.obj fields)
  /-- An item of an array is found at the position itself. -/
  | placed {items : List Document} (hx : items[i]? = some x) : Gives names i x (.arr items)

/-! ### Objects -/

/-- A field is there under a name exactly if one is there whose quoted name reads so. -/
theorem mem_named? {k : String} {v : Document} : ∀ {fields : List (Quoted × Document)}
    {l : List (String × Document)}, named? fields = some l →
    ((k, v) ∈ l ↔ ∃ q : Quoted, (q, v) ∈ fields ∧ q.text? = some k)
  | [], _, h => by
    cases h
    simp
  | (q, w) :: rest, l, h => by
    simp only [named?, Option.bind_eq_bind, Option.bind_eq_some_iff] at h
    obtain ⟨name, hname, l', hl', h⟩ := h
    cases h
    rw [List.mem_cons, mem_named? hl']
    constructor
    · rintro (heq | ⟨q', hq', htext⟩)
      · cases heq
        exact ⟨q, List.mem_cons_self, hname⟩
      · exact ⟨q', List.mem_cons_of_mem _ hq', htext⟩
    · rintro ⟨q', hq', htext⟩
      rcases List.mem_cons.1 hq' with heq | hq'
      · cases heq
        cases hname.symm.trans htext
        exact .inl rfl
      · exact .inr ⟨q', hq', htext⟩

/-- A name that is looked up is the name of nothing else. -/
theorem field?_eq_some {name : String} {x : Document} :
    ∀ {l : List (String × Document)} {o : Option Document}, field? name l = some o →
      (o = some x ↔ (name, x) ∈ l)
  | [], o, h => by
    cases h
    simp
  | (k, v) :: rest, o, h => by
    unfold field? at h
    split at h
    · rename_i hk
      subst hk
      split at h
      · cases h
      · rename_i hany
        cases h
        have hrest : (k, x) ∉ rest := fun hmem =>
          hany (List.any_eq_true.2 ⟨_, hmem, decide_eq_true rfl⟩)
        rw [Option.some.injEq, List.mem_cons, or_iff_left hrest, Prod.mk.injEq, eq_comm]
        exact (and_iff_right rfl).symm
    · rename_i hk
      have hne : (name, x) ≠ (k, v) := fun heq => hk (congrArg Prod.fst heq).symm
      rw [field?_eq_some h, List.mem_cons, or_iff_right hne]

/-! ### Arrays -/

/-- A position holds a document exactly if the item at that position is it. -/
theorem positional?_eq_some {x : Document} : ∀ {count : Nat} {items : List Document}
    {fs : List (Option Document)}, positional? count items = some fs →
    ∀ {i : Nat} {o : Option Document}, fs[i]? = some o → (o = some x ↔ items[i]? = some x)
  | 0, [], fs, h, i, o, hi => by
    cases h
    cases hi
  | 0, _ :: _, _, h, _, _, _ => by cases h
  | n + 1, [], fs, h, i, o, hi => by
    obtain ⟨fs', hfs', rfl⟩ := Option.map_eq_some_iff.1 h
    cases i with
    | zero =>
      cases hi
      simp
    | succ i =>
      rw [List.getElem?_cons_succ] at hi
      simpa only [List.getElem?_nil] using positional?_eq_some hfs' hi
  | n + 1, v :: rest, fs, h, i, o, hi => by
    obtain ⟨fs', hfs', rfl⟩ := Option.map_eq_some_iff.1 h
    cases i with
    | zero =>
      cases hi
      exact Iff.rfl
    | succ i =>
      rw [List.getElem?_cons_succ] at hi ⊢
      exact positional?_eq_some hfs' hi

/-! ### Structures -/

/-- A structure that is read has for each field what the document gives for it, and nothing if the
    document gives nothing. -/
theorem record?_gives {names : List String} {d : Document} {fs : List (Option Document)}
    (h : record? names d = some fs) {i : Nat} {o : Option Document} (hi : fs[i]? = some o)
    {x : Document} : o = some x ↔ Gives names i x d := by
  cases d with
  | obj fields =>
    obtain ⟨l, hl, hfs⟩ := Option.bind_eq_some_iff.1 h
    -- The field is the one that is looked up under the name at its position.
    have hget : (names[i]?).map (field? · l) = some (some o) := by
      rw [← List.getElem?_map, mapM_eq_some_iff.1 hfs, List.getElem?_map, hi]
      rfl
    obtain ⟨name, hname, hfield⟩ := Option.map_eq_some_iff.1 hget
    rw [field?_eq_some hfield, mem_named? hl]
    constructor
    · rintro ⟨q, hx, hq⟩
      exact .named hname hq hx
    · rintro ⟨hname', hq, hx⟩
      cases hname.symm.trans hname'
      exact ⟨_, hx, hq⟩
  | arr items =>
    rw [positional?_eq_some h hi]
    exact ⟨.placed, fun | .placed hx => hx⟩
  | _ => cases h

/-- A document is read as a list exactly if it is an array, each item of which can be read. -/
theorem list?_eq_some_iff {α : Type} {f : Document → Option α} {d : Document} {l : List α} :
    list? f d = some l ↔ ∃ items, d = .arr items ∧ items.map f = l.map some := by
  cases d with
  | arr items =>
    rw [list?, mapM_eq_some_iff]
    exact ⟨fun h => ⟨items, rfl, h⟩, fun ⟨_, hd, h⟩ => by cases hd; exact h⟩
  | _ => exact ⟨nofun, nofun⟩

end Json.Document

end ClusterPackages
