namespace ClusterPackages

/-!
# Tables with ascending keys

Keys are ordered by code points, which is also the order of their UTF-8 bytes.

* `Entries.find?`, `Entries.insert`, `Entries.erase` — the operations on plain lists of entries;
  objects inside documents are such lists.
* `Table` — a list of entries together with the fact that its keys ascend, so two tables with the
  same entries are equal.
-/

/-- Keys with their values, in ascending order of the keys where nothing else is said. -/
abbrev Entries (α : Type) := List (String × α)

namespace Entries

variable {α β : Type}

/-- Whether the keys ascend strictly. -/
abbrev Ascending (l : Entries α) : Prop := l.Pairwise fun a b => a.1 < b.1

/-- The value of the first entry with the key. -/
def find? (k : String) : Entries α → Option α
  | [] => none
  | (k', v) :: r => if k' = k then some v else find? k r

/-- The entries with the value `v` at `k`: in place of an entry with that key, or else before the
    first entry with a larger key. -/
def insert (k : String) (v : α) : Entries α → Entries α
  | [] => [(k, v)]
  | (k', v') :: r =>
    if k < k' then (k, v) :: (k', v') :: r
    else if k = k' then (k, v) :: r
    else (k', v') :: insert k v r

/-- The entries without those at the key. -/
def erase (k : String) (l : Entries α) : Entries α := l.filter fun e => e.1 != k

/-- The entries of a list in ascending order; a later entry replaces an earlier one of its key. -/
def ofList (l : List (String × α)) : Entries α := l.foldl (fun t e => insert e.1 e.2 t) []

/-! ### Order -/

/-- An entry of the result is the new one or an old one. -/
theorem mem_insert {k : String} {v : α} {e : String × α} :
    ∀ {l : Entries α}, e ∈ insert k v l → e = (k, v) ∨ e ∈ l
  | [], h => by simpa [insert] using h
  | (k', v') :: r, h => by
    unfold insert at h
    split at h
    · simpa using h
    · split at h
      · rcases List.mem_cons.1 h with h | h
        · exact .inl h
        · exact .inr (List.mem_cons_of_mem _ h)
      · rcases List.mem_cons.1 h with h | h
        · exact .inr (h ▸ List.mem_cons_self)
        · exact (mem_insert h).imp_right (List.mem_cons_of_mem _)

/-- Putting an entry in keeps the keys ascending. -/
theorem ascending_insert {k : String} {v : α} :
    ∀ {l : Entries α}, Ascending l → Ascending (insert k v l)
  | [], _ => by simp [insert]
  | (k', v') :: r, h => by
    have ⟨hr, ht⟩ := List.pairwise_cons.1 h
    unfold insert
    split
    · rename_i hk
      refine List.pairwise_cons.2 ⟨fun e he => ?_, h⟩
      rcases List.mem_cons.1 he with rfl | he
      · exact hk
      · exact String.lt_trans hk (hr e he)
    · rename_i hk
      split
      · rename_i he
        subst he
        exact List.pairwise_cons.2 ⟨hr, ht⟩
      · rename_i hne
        refine List.pairwise_cons.2 ⟨fun e he => ?_, ascending_insert ht⟩
        rcases mem_insert he with rfl | he
        · exact Std.lt_of_le_of_ne (String.not_lt.1 hk) (Ne.symm hne)
        · exact hr e he

/-! ### Looking up -/

/-- What is put at a key is found there. -/
@[simp] theorem find?_insert_self {k : String} {v : α} :
    ∀ {l : Entries α}, find? k (insert k v l) = some v
  | [] => by simp [insert, find?]
  | (k', v') :: r => by
    unfold insert
    split
    · simp [find?]
    · split
      · simp [find?]
      · rename_i hne
        rw [find?, if_neg (Ne.symm hne)]
        exact find?_insert_self

/-- At every other key the same is found as before. -/
theorem find?_insert_of_ne {j k : String} (h : j ≠ k) {v : α} :
    ∀ {l : Entries α}, find? j (insert k v l) = find? j l
  | [] => by simp [insert, find?, Ne.symm h]
  | (k', v') :: r => by
    unfold insert
    split
    · rw [find?, if_neg (Ne.symm h)]
    · split
      · rename_i he
        subst he
        simp [find?, Ne.symm h]
      · simp only [find?, find?_insert_of_ne h]

/-- What is found at a key is an entry with this key. -/
theorem mem_of_find? {k : String} {v : α} :
    ∀ {l : Entries α}, find? k l = some v → (k, v) ∈ l
  | [], h => by simp [find?] at h
  | (k', v') :: r, h => by
    unfold find? at h
    split at h
    · rename_i hk
      cases h
      simp [hk]
    · exact List.mem_cons_of_mem _ (mem_of_find? h)

/-- In ascending entries every entry is found at its key. -/
theorem find?_of_mem {k : String} {v : α} :
    ∀ {l : Entries α}, Ascending l → (k, v) ∈ l → find? k l = some v
  | (k', v') :: r, hl, h => by
    have ⟨hr, ht⟩ := List.pairwise_cons.1 hl
    rcases List.mem_cons.1 h with h | h
    · cases h
      simp [find?]
    · have hlt : k' < k := hr _ h
      have hne : k' ≠ k := fun he => String.lt_irrefl k (he ▸ hlt)
      rw [find?, if_neg hne]
      exact find?_of_mem ht h

/-- A key that no entry has leads to nothing. -/
theorem find?_eq_none {k : String} {l : Entries α} (h : ∀ e ∈ l, e.1 ≠ k) : find? k l = none := by
  cases hv : find? k l with
  | none => rfl
  | some v => exact absurd rfl (h _ (mem_of_find? hv))

/-- Removing entries keeps the keys ascending. -/
theorem ascending_erase {k : String} {l : Entries α} (h : Ascending l) : Ascending (erase k l) :=
  List.Pairwise.filter _ h

theorem ascending_map {f : String × α → β} {l : Entries α} (h : Ascending l) :
    Ascending (l.map fun e => (e.1, f e)) := by
  simpa [Ascending, List.pairwise_map] using h

end Entries

/-- A table from texts to values, held in ascending order of its keys. -/
structure Table (α : Type) where
  /-- The keys with their values. -/
  entries : Entries α
  /-- The keys ascend strictly. -/
  ascending : entries.Ascending

namespace Table

variable {α β : Type}

/-- The table without entries. -/
def empty : Table α := ⟨[], .nil⟩

instance : EmptyCollection (Table α) := ⟨empty⟩

instance : Inhabited (Table α) := ⟨empty⟩

/-- The value at a key. -/
def find? (t : Table α) (k : String) : Option α := Entries.find? k t.entries

/-- Whether there is a value at the key. -/
def contains (t : Table α) (k : String) : Bool := (t.find? k).isSome

/-- The table with the value `v` at `k`. -/
def insert (t : Table α) (k : String) (v : α) : Table α :=
  ⟨Entries.insert k v t.entries, Entries.ascending_insert t.ascending⟩

/-- The table without a value at `k`. -/
def erase (t : Table α) (k : String) : Table α :=
  ⟨Entries.erase k t.entries, Entries.ascending_erase t.ascending⟩

/-- The table of a list of entries; a later entry replaces an earlier one of its key. -/
def ofList (l : List (String × α)) : Table α := l.foldl (fun t e => t.insert e.1 e.2) empty

/-- The table with every value replaced, by a function that may use the key. -/
def mapEntries (f : String × α → β) (t : Table α) : Table β :=
  ⟨t.entries.map fun e => (e.1, f e), Entries.ascending_map t.ascending⟩

/-- The values in ascending order of their keys. -/
def values (t : Table α) : List α := t.entries.map (·.2)

/-- The keys in ascending order. -/
def keys (t : Table α) : List String := t.entries.map (·.1)

/-- Whether there is no entry. -/
def isEmpty (t : Table α) : Bool := t.entries.isEmpty

/-- The number of entries. -/
def size (t : Table α) : Nat := t.entries.length

end Table

end ClusterPackages
