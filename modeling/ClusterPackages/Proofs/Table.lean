import ClusterPackages.Table

namespace ClusterPackages

/-!
# Entries that stay

* `Entries.find?_filter`, `Entries.filter_insert` — entries with the keys that a test accepts can
  be looked up among themselves, and do not notice what is put at another key.
* `Entries.ofList_of_ascending` — entries that ascend already are put together as they are.
* `Entries.eq_of_find?` — ascending entries are what is found in them.
* `Entries.find?_erase_self`, `Entries.find?_erase_of_ne` — what is found after a removal.
* `Table.find?_eq_some`, `Table.eq_of_find?` — the entries of a table are what is found in it.
* `Table.contains_insert`, `Table.contains_ofList`, `Table.mem_ofList` — the keys and entries that
  a table has after entries were put into it.
* `Table.ofList_entries` — a table is made of its own entries.
* `Table.eraseAll`, `Table.insertAll` — the removal of several keys, and the reverse.
-/

variable {α : Type}

namespace Entries

/-- Among the entries whose keys a test accepts, such a key has the value that it has in all. -/
theorem find?_filter (test : String → Bool) {k : String} (hk : test k = true) :
    ∀ l : Entries α, find? k (l.filter fun e => test e.1) = find? k l
  | [] => rfl
  | (k', v) :: rest => by
    by_cases hkk : k' = k
    · subst hkk
      simp [hk, find?]
    · cases htest : test k' with
      | true => simp [htest, find?, hkk, find?_filter test hk rest]
      | false => simp [htest, find?, hkk, find?_filter test hk rest]

/-- An entry whose key the test does not accept may be put anywhere. -/
theorem filter_insert {test : String → Bool} {k : String} (hk : test k = false) (v : α) :
    ∀ l : Entries α, (insert k v l).filter (fun e => test e.1) = l.filter fun e => test e.1
  | [] => by simp [insert, hk]
  | (k', v') :: rest => by
    unfold insert
    split
    · exact List.filter_cons_of_neg (by simp [hk])
    · split
      · rename_i heq
        subst heq
        simp [hk]
      · simp only [List.filter_cons, filter_insert hk v rest]

/-- Removing a key that the test does not accept leaves the accepted entries as they are. -/
theorem filter_erase {test : String → Bool} {k : String} (hk : test k = false) (l : Entries α) :
    (erase k l).filter (fun e => test e.1) = l.filter fun e => test e.1 := by
  rw [erase, List.filter_filter]
  refine List.filter_congr fun e _ => ?_
  by_cases hek : e.1 = k
  · rw [hek, hk, Bool.false_and]
  · simp [hek]

@[simp]
theorem find?_erase_self (k : String) (l : Entries α) : find? k (erase k l) = none := by
  refine find?_eq_none fun e he hek => ?_
  have hne := (List.mem_filter.1 he).2
  simp [hek] at hne

/-- A removal leaves the other keys as they are. -/
theorem find?_erase_of_ne {j k : String} (h : j ≠ k) (l : Entries α) :
    find? j (erase k l) = find? j l :=
  find?_filter (· != k) (by simpa using h) l

/-- Values that are mapped are found mapped. -/
theorem find?_map {β : Type} (f : α → β) (k : String) :
    ∀ l : Entries α, find? k (l.map fun e => (e.1, f e.2)) = (find? k l).map f
  | [] => rfl
  | (k', v) :: rest => by
    by_cases hkk : k' = k
    · simp [find?, hkk]
    · simp [find?, hkk, find?_map f k rest]

/-- An entry with a key beyond all others goes to the end. -/
theorem insert_of_forall_lt {k : String} (v : α) :
    ∀ {l : Entries α}, (∀ e ∈ l, e.1 < k) → insert k v l = l ++ [(k, v)]
  | [], _ => rfl
  | (k', v') :: rest, h => by
    have hlt : k' < k := h _ List.mem_cons_self
    have hrest := insert_of_forall_lt v fun e he => h e (List.mem_cons_of_mem _ he)
    have hne : k ≠ k' := fun heq => String.lt_irrefl k (heq ▸ hlt)
    rw [insert, if_neg (String.lt_asymm hlt), if_neg hne, hrest]
    rfl

/-- Entries that ascend stay as they are when they are put together one after another. -/
theorem ofList_of_ascending {l : Entries α} (h : l.Ascending) : ofList l = l := by
  have hgrow : ∀ (l seen : Entries α), (seen ++ l).Ascending →
      l.foldl (fun t e => insert e.1 e.2 t) seen = seen ++ l := by
    intro l
    induction l with
    | nil => intro seen _; exact (List.append_nil seen).symm
    | cons e rest ih =>
      intro seen hall
      have hbefore : ∀ e' ∈ seen, e'.1 < e.1 := fun e' he' =>
        (List.pairwise_append.1 hall).2.2 e' he' e List.mem_cons_self
      have hsplit : seen ++ e :: rest = seen ++ [e] ++ rest := List.append_cons seen e rest
      rw [List.foldl_cons, insert_of_forall_lt e.2 hbefore]
      rw [hsplit] at hall ⊢
      exact ih _ hall
  exact hgrow l [] h

/-- Ascending entries are determined by which there are. -/
theorem eq_of_mem_iff {l l' : Entries α} (h : l.Ascending) (h' : l'.Ascending)
    (hmem : ∀ e, e ∈ l ↔ e ∈ l') : l = l' := by
  have hnodup : ∀ {l : Entries α}, l.Ascending → l.Nodup := by
    intro l hl
    refine List.Pairwise.imp (fun hlt heq => ?_) hl
    exact String.lt_irrefl _ (heq ▸ hlt)
  have hperm := (List.perm_ext_iff_of_nodup (hnodup h) (hnodup h')).2 hmem
  exact hperm.eq_of_pairwise (fun a b _ _ hab hba => absurd hba (String.lt_asymm hab)) h h'

/-- Ascending entries are determined by what is found in them. -/
theorem eq_of_find? {l l' : Entries α} (h : l.Ascending) (h' : l'.Ascending)
    (hfind : ∀ key, find? key l = find? key l') : l = l' := by
  refine eq_of_mem_iff h h' fun e => ⟨fun he => ?_, fun he => ?_⟩
  · exact mem_of_find? ((hfind e.1).symm.trans (find?_of_mem h he))
  · exact mem_of_find? ((hfind e.1).trans (find?_of_mem h' he))

end Entries

namespace Table

variable {t : Table α}

/-- What is found at a key are the entries of the table, and nothing else. -/
theorem find?_eq_some {k : String} {v : α} : t.find? k = some v ↔ (k, v) ∈ t.entries :=
  ⟨Entries.mem_of_find?, Entries.find?_of_mem t.ascending⟩

/-- Tables in which the same is found at every key are equal. -/
theorem eq_of_find? {t' : Table α} (h : ∀ key, t.find? key = t'.find? key) : t = t' := by
  have hentries : t.entries = t'.entries := Entries.eq_of_find? t.ascending t'.ascending h
  obtain ⟨entries, _⟩ := t
  obtain ⟨entries', _⟩ := t'
  congr

/-- A key is in the table when some value is found at it. -/
theorem contains_iff {key : String} : t.contains key = true ↔ ∃ v, t.find? key = some v :=
  Option.isSome_iff_exists

/-- The keys of a table are those that it contains. -/
theorem mem_keys {key : String} : key ∈ t.keys ↔ t.contains key = true := by
  unfold keys
  rw [List.mem_map, contains_iff]
  constructor
  · rintro ⟨⟨_, v⟩, he, rfl⟩
    exact ⟨v, find?_eq_some.2 he⟩
  · rintro ⟨v, hv⟩
    exact ⟨(key, v), find?_eq_some.1 hv, rfl⟩

/-- After a value was put at a key there is one more key at most. -/
theorem contains_insert {key k : String} {v : α} :
    (t.insert k v).contains key = true ↔ key = k ∨ t.contains key = true := by
  by_cases hkey : key = k
  · subst hkey
    have hfound : (t.insert key v).find? key = some v := Entries.find?_insert_self
    simp [contains, hfound]
  · have hsame : (t.insert k v).find? key = t.find? key := Entries.find?_insert_of_ne hkey
    simp [contains, hsame, hkey]

/-- A table that is made of a list has the keys of the list. -/
theorem contains_ofList {key : String} (l : List (String × α)) :
    (ofList l).contains key = true ↔ key ∈ l.map (·.1) := by
  -- The table grows with the entries, whatever it has held before.
  have hgrow : ∀ (l : List (String × α)) (t : Table α),
      (l.foldl (fun t e => t.insert e.1 e.2) t).contains key = true ↔
        t.contains key = true ∨ key ∈ l.map (·.1) := by
    intro l
    induction l with
    | nil => simp
    | cons e rest ih =>
      intro t
      rw [List.foldl_cons, ih, List.map_cons, List.mem_cons, contains_insert, or_assoc,
        or_left_comm]
  have hempty : (empty : Table α).contains key = false := rfl
  rw [ofList, hgrow, hempty]
  simp

/-- The entries of a table come from the list of which it was made. -/
theorem mem_ofList {e : String × α} {l : List (String × α)} (h : e ∈ (ofList l).entries) :
    e ∈ l := by
  -- The table grows with the entries, whatever it has held before.
  have hgrow : ∀ (l : List (String × α)) (t : Table α),
      e ∈ (l.foldl (fun t e => t.insert e.1 e.2) t).entries → e ∈ t.entries ∨ e ∈ l := by
    intro l
    induction l with
    | nil => exact fun t he => .inl he
    | cons e' rest ih =>
      intro t he
      rcases ih (t.insert e'.1 e'.2) he with he | he
      · rcases Entries.mem_insert he with rfl | he
        · exact .inr List.mem_cons_self
        · exact .inl he
      · exact .inr (List.mem_cons_of_mem e' he)
  rcases hgrow l empty h with he | he
  · cases he
  · exact he

/-- A table is made of its own entries. -/
theorem ofList_entries (t : Table α) : ofList t.entries = t := by
  -- Entries are put into a table as they are put into a list of entries.
  have hgrow : ∀ (l : Entries α) (t : Table α),
      (l.foldl (fun t e => t.insert e.1 e.2) t).entries =
        l.foldl (fun t e => Entries.insert e.1 e.2 t) t.entries := by
    intro l
    induction l with
    | nil => exact fun _ => rfl
    | cons e rest ih => exact fun t => ih (t.insert e.1 e.2)
  have hentries : (ofList t.entries).entries = t.entries :=
    (hgrow t.entries empty).trans (Entries.ofList_of_ascending t.ascending)
  exact eq_of_find? fun key => congrArg (Entries.find? key) hentries

/-! ### Erasing several keys -/

/-- The table without values at the keys. -/
def eraseAll (t : Table α) (keys : List String) : Table α := keys.foldl erase t

@[simp]
theorem eraseAll_nil (t : Table α) : t.eraseAll [] = t := rfl

/-- Removing keys one list after the other is removing them all. -/
theorem eraseAll_append (t : Table α) (keys keys' : List String) :
    t.eraseAll (keys ++ keys') = (t.eraseAll keys).eraseAll keys' := List.foldl_append

/-- The removal of keys leaves every other key as it was. -/
theorem find?_eraseAll_of_not_mem {k : String} {keys : List String} (h : k ∉ keys) (t : Table α) :
    (t.eraseAll keys).find? k = t.find? k := by
  induction keys generalizing t with
  | nil => rfl
  | cons key rest ih =>
    have hkey : k ≠ key := fun hk => h (hk ▸ List.mem_cons_self)
    have hrest : k ∉ rest := fun hmem => h (List.mem_cons_of_mem key hmem)
    exact (ih hrest (t.erase key)).trans (Entries.find?_erase_of_ne hkey t.entries)

/-- Nothing is found at a key that has been removed. -/
theorem find?_eraseAll_of_mem {k : String} {keys : List String} (h : k ∈ keys) (t : Table α) :
    (t.eraseAll keys).find? k = none := by
  induction keys generalizing t with
  | nil => cases h
  | cons key rest ih =>
    by_cases hrest : k ∈ rest
    · exact ih hrest (t.erase key)
    · -- The other removals do not bring the key back.
      have hk : k = key := (List.mem_cons.1 h).resolve_right hrest
      have hkept := find?_eraseAll_of_not_mem hrest (t.erase key)
      exact hkept.trans (hk ▸ Entries.find?_erase_self k t.entries)

/-- The keys that stay are those that are not removed. -/
theorem contains_eraseAll {k : String} {keys : List String} :
    (t.eraseAll keys).contains k = true ↔ t.contains k = true ∧ k ∉ keys := by
  rw [contains_iff, contains_iff]
  by_cases hk : k ∈ keys
  · simp [find?_eraseAll_of_mem hk t, hk]
  · simp [find?_eraseAll_of_not_mem hk t, hk]

/-! ### Putting in several entries -/

/-- The table with the values of the entries at their keys. -/
def insertAll (t : Table α) (l : Entries α) : Table α := l.foldl (fun t e => t.insert e.1 e.2) t

/-- Among entries put in together with those of a table, the new ones are found first. -/
theorem find?_insertAll (k : String) {l : Entries α} (h : l.Ascending) (t : Table α) :
    (t.insertAll l).find? k = (Entries.find? k l).or (t.find? k) := by
  induction l generalizing t with
  | nil => rfl
  | cons e rest ih =>
    obtain ⟨key, v⟩ := e
    obtain ⟨hkey, hrest⟩ := List.pairwise_cons.1 h
    have hlater := ih hrest (t.insert key v)
    rw [show (t.insertAll ((key, v) :: rest)).find? k = _ from hlater]
    by_cases hk : key = k
    · -- No later entry has the key.
      subst hk
      have hnone : Entries.find? key rest = none := Entries.find?_eq_none fun e he heq =>
        String.lt_irrefl key (heq ▸ hkey e he)
      rw [hnone, Option.none_or, Entries.find?, if_pos rfl, Option.some_or]
      exact Entries.find?_insert_self
    · have hsame : (t.insert key v).find? k = t.find? k := Entries.find?_insert_of_ne (Ne.symm hk)
      rw [hsame, Entries.find?, if_neg hk]

end Table

end ClusterPackages
