import ClusterPackages.Config.Merge

namespace ClusterPackages.Config

open Json

/-!
# What a merge holds at a path

A path is a list of keys.  This file says what `Config.merge` holds at each path in terms of what
the base and the overlay hold there.

* `Blocks c p` — a value that is no object stands above `p`, so nothing can stand at `p`.
* `Touches c p` — `c` has a say about `p`: it holds a value there, or blocks it.
* `Shown v w` — `w` is what substitution shows of the value `v`: `v` itself, or its text.
* `at?_merge_of_not_touches`, `at?_merge_of_value`, `at?_merge_of_object`, `at?_merge_of_blocks` —
  the four cases of a merge at a path, by what the overlay has to say about it.
-/

/-- The value that a configuration holds at a path. -/
def at? (c : Entries Json) (p : List String) : Option Json := Json.at? p (.obj c)

/-- A configuration holds a value that is no object at a proper prefix of the path. -/
def Blocks (c : Entries Json) (p : List String) : Prop :=
  ∃ q v, q <+: p ∧ q ≠ p ∧ at? c q = some v ∧ v.isObject = false

/-- A configuration holds a value at the path, or blocks it. -/
def Touches (c : Entries Json) (p : List String) : Prop :=
  (∃ v, at? c p = some v) ∨ Blocks c p

/-- A value that is neither an object nor an array. -/
def IsScalar : Json → Prop
  | .obj _ | .arr _ => False
  | _ => True

/-- `w` is the value `v`, or its compact text if `v` is an array. -/
def Shown (v w : Json) : Prop := w = v ∨ ∃ items, v = .arr items ∧ w = .str v.compact

/-! ### Values along a path -/

theorem at?_nil (c : Entries Json) : at? c [] = some (.obj c) := rfl

theorem at?_cons (c : Entries Json) (k : String) (p : List String) :
    at? c (k :: p) = (Entries.find? k c).bind (Json.at? p) := rfl

theorem isObject_cases (v : Json) : (∃ fields, v = .obj fields) ∨ v.isObject = false := by
  cases v with
  | obj fields => exact .inl ⟨fields, rfl⟩
  | _ => exact .inr rfl

/-- Nothing stands below a value that is no object. -/
theorem at?_eq_none_of_isObject {v : Json} (hv : v.isObject = false) {p : List String}
    (hp : p ≠ []) : Json.at? p v = none := by
  obtain ⟨k, p, rfl⟩ := List.exists_cons_of_ne_nil hp
  cases v with
  | obj fields => cases hv
  | _ => rfl

/-- What is no object has nothing in it but itself. -/
theorem eq_of_at?_of_isObject {v w : Json} (hv : v.isObject = false) {p : List String}
    (h : Json.at? p v = some w) : p = [] ∧ w = v := by
  cases p with
  | nil => exact ⟨rfl, by cases h; rfl⟩
  | cons k p =>
    rw [at?_eq_none_of_isObject hv (by simp)] at h
    cases h

theorem isObject_coerce {v : Json} (hv : v.isObject = false) : (coerce "" v).isObject = false := by
  cases v with
  | obj fields => cases hv
  | _ => rfl

/-- A value that is no object is shown by what it is stringified to. -/
theorem shown_coerce {v : Json} (hv : v.isObject = false) : Shown v (coerce "" v) := by
  cases v with
  | obj fields => cases hv
  | arr items => exact .inr ⟨items, rfl, rfl⟩
  | _ => exact .inl rfl

/-- What shows a value that is no object is no object either. -/
theorem Shown.isObject {v w : Json} (h : Shown v w) (hv : v.isObject = false) :
    w.isObject = false := by
  rcases h with rfl | ⟨items, rfl, rfl⟩
  · exact hv
  · rfl

/-- A scalar is shown by nothing but itself. -/
theorem Shown.of_isScalar {v w : Json} (h : Shown v w) (hv : IsScalar v) : w = v := by
  rcases h with rfl | ⟨items, rfl, rfl⟩
  · rfl
  · cases hv

theorem IsScalar.isObject {v : Json} (hv : IsScalar v) : v.isObject = false := by
  cases v with
  | obj fields => cases hv
  | _ => rfl

/-- What is shown of what is shown of a value is shown of the value. -/
theorem Shown.trans {u v w : Json} (huv : Shown u v) (hvw : Shown v w) : Shown u w := by
  rcases huv with rfl | ⟨items, rfl, rfl⟩
  · exact hvw
  · rcases hvw with rfl | ⟨items', h, -⟩
    · exact .inr ⟨items, rfl, rfl⟩
    · cases h

/-! ### Blocked paths -/

/-- The empty path is never blocked, as there is nothing above it. -/
theorem not_blocks_nil (c : Entries Json) : ¬ Blocks c [] := by
  rintro ⟨q, v, hq, hne, -⟩
  exact hne (List.prefix_nil.1 hq)

/-- A path is blocked by the value at its first key, or inside the object that stands there. -/
theorem blocks_cons {c : Entries Json} {k : String} {p : List String} :
    Blocks c (k :: p) ↔
      (∃ v, Entries.find? k c = some v ∧ v.isObject = false ∧ p ≠ []) ∨
      ∃ fields, Entries.find? k c = some (.obj fields) ∧ Blocks fields p := by
  constructor
  · rintro ⟨q, v, hq, hne, hv, hobj⟩
    cases q with
    | nil => cases hv; cases hobj
    | cons k' q =>
      obtain ⟨rfl, hq'⟩ := List.cons_prefix_cons.1 hq
      rw [at?_cons, Option.bind_eq_some_iff] at hv
      obtain ⟨x, hx, hv⟩ := hv
      have hqp : q ≠ p := fun h => hne (h ▸ rfl)
      rcases isObject_cases x with ⟨fields, rfl⟩ | hxo
      · exact .inr ⟨fields, hx, q, v, hq', hqp, hv, hobj⟩
      · refine .inl ⟨x, hx, hxo, ?_⟩
        rintro rfl
        exact hqp (List.prefix_nil.1 hq')
  · rintro (⟨v, hv, hobj, hp⟩ | ⟨fields, hf, q, v, hq, hne, hv, hobj⟩)
    · refine ⟨[k], v, by simp, fun h => hp (by simpa using h.symm), ?_, hobj⟩
      rw [at?_cons, hv]
      rfl
    · refine ⟨k :: q, v, by simpa using hq, fun h => hne (by simpa using h), ?_, hobj⟩
      rw [at?_cons, hf]
      exact hv

/-- Nothing stands at a blocked path. -/
theorem Blocks.at?_eq_none {c : Entries Json} {p : List String} (h : Blocks c p) :
    at? c p = none := by
  induction p generalizing c with
  | nil => exact absurd h (not_blocks_nil c)
  | cons k p ih =>
    rw [at?_cons]
    rcases blocks_cons.1 h with ⟨v, hv, hobj, hp⟩ | ⟨fields, hf, hb⟩
    · rw [hv]
      exact at?_eq_none_of_isObject hobj hp
    · rw [hf]
      exact ih hb

/-! ### The keys of a merge -/

/-- An object over an object is their merge, and any other value stands as it is coerced. -/
theorem overlaid_eq_coerce {base : Option Json} {v : Json}
    (h : v.isObject = false ∨ ∀ fields, base ≠ some (.obj fields)) :
    overlaid base v = coerce "" v := by
  unfold overlaid
  split
  · rename_i fields incoming
    rcases h with h | h
    · cases h
    · exact absurd rfl (h fields)
  · rfl

/-- Each key of the overlay is put over the same key of the base. -/
theorem find?_merge {b o : Entries Json} (ho : o.Ascending) (k : String) :
    Entries.find? k (merge b o) =
      match Entries.find? k o with
      | some v => some (overlaid (Entries.find? k b) v)
      | none => Entries.find? k b := by
  induction o generalizing b with
  | nil => simp [merge, Entries.find?]
  | cons e rest ih =>
    obtain ⟨k', v⟩ := e
    obtain ⟨hlt, hrest⟩ := List.pairwise_cons.1 ho
    rw [merge, ih hrest]
    by_cases hk : k' = k
    · -- the later keys are larger, so none of them replaces what stands at `k` now
      subst hk
      have hnone : Entries.find? k' rest = none :=
        Entries.find?_eq_none fun e he h => absurd (hlt e he) (h ▸ String.lt_irrefl e.1)
      simp [Entries.find?, hnone]
    · simp [Entries.find?, hk, Entries.find?_insert_of_ne (Ne.symm hk)]

/-! ### Order -/

/-- A value with ascending keys keeps them when it is stringified. -/
theorem coerce_ordered {v : Json} (hv : v.Ordered) : (coerce "" v).Ordered := by
  cases v with
  | arr items => trivial
  | _ => exact hv

mutual

/-- What comes of two values with ascending keys has ascending keys. -/
theorem overlaid_ordered : ∀ {base : Option Json} {v : Json},
    (∀ x, base = some x → x.Ordered) → v.Ordered → (overlaid base v).Ordered
  | base, .obj o, hb, hv => by
    unfold overlaid
    split
    · rename_i b o' h
      cases h
      exact merge_ordered (hb _ rfl) hv.2
    · exact coerce_ordered hv
  | base, v, hb, hv => by
    unfold overlaid
    split
    · exact merge_ordered (hb _ rfl) hv.2
    · exact coerce_ordered hv

/-- Merging leaves an ordered configuration ordered. -/
theorem merge_ordered : ∀ {b o : Entries Json},
    Ordered (.obj b) → OrderedFields o → Ordered (.obj (merge b o))
  | b, [], hb, _ => by rwa [merge]
  | b, (k, v) :: rest, hb, ho => by
    rw [merge]
    refine merge_ordered (hb.insert (overlaid_ordered (fun x hx => ?_) ho.1)) ho.2
    exact (ordered_obj.1 hb).2 _ (Entries.mem_of_find? hx)

end

/-! ### A merge at a path -/

/-- Below a key at which the overlay holds no object, the coerced value is all there is. -/
theorem at?_merge_cons_of_isObject {b o : Entries Json} (ho : Ordered (.obj o)) {k : String}
    {v : Json} (hf : Entries.find? k o = some v) (hv : v.isObject = false) (p : List String) :
    at? (merge b o) (k :: p) = Json.at? p (coerce "" v) := by
  rw [at?_cons, find?_merge ho.1, hf]
  exact congrArg (Json.at? p) (overlaid_eq_coerce (.inl hv))

/-- Below a key at which the overlay holds an object, that object is merged into an object of the
    base, or stands alone. -/
theorem at?_merge_cons_obj {b o : Entries Json} (ho : Ordered (.obj o)) {k : String}
    {fields : Entries Json} (hf : Entries.find? k o = some (.obj fields)) (p : List String) :
    (∃ base, Entries.find? k b = some (.obj base) ∧
      at? (merge b o) (k :: p) = at? (merge base fields) p) ∨
    ((∀ base, Entries.find? k b ≠ some (.obj base)) ∧
      at? (merge b o) (k :: p) = at? fields p) := by
  rw [at?_cons, find?_merge ho.1, hf]
  by_cases hb : ∃ base, Entries.find? k b = some (.obj base)
  · obtain ⟨base, hbase⟩ := hb
    exact .inl ⟨base, hbase, by rw [hbase]; rfl⟩
  · have hne : ∀ base, Entries.find? k b ≠ some (.obj base) := fun base h => hb ⟨base, h⟩
    exact .inr ⟨hne, congrArg (Json.at? p) (overlaid_eq_coerce (.inr hne))⟩

/-- An object within an ordered object is ordered. -/
theorem ordered_of_find? {c fields : Entries Json} (hc : Ordered (.obj c)) {k : String}
    (hf : Entries.find? k c = some (.obj fields)) : Ordered (.obj fields) :=
  (ordered_obj.1 hc).2 _ (Entries.mem_of_find? hf)

/-- A touched path in the object at a key, with the key in front, is touched. -/
theorem Touches.cons {c fields : Entries Json} {k : String} {p : List String}
    (hf : Entries.find? k c = some (.obj fields)) (h : Touches fields p) : Touches c (k :: p) := by
  rcases h with ⟨v, hv⟩ | hb
  · exact .inl ⟨v, by rw [at?_cons, hf]; exact hv⟩
  · exact .inr (blocks_cons.2 (.inr ⟨fields, hf, hb⟩))

/-- A value that is no object touches everything below it. -/
theorem touches_of_isObject {c : Entries Json} {k : String} {v : Json}
    (hf : Entries.find? k c = some v) (hv : v.isObject = false) (p : List String) :
    Touches c (k :: p) := by
  cases p with
  | nil => exact .inl ⟨v, by rw [at?_cons, hf]; rfl⟩
  | cons k' p => exact .inr (blocks_cons.2 (.inl ⟨v, hf, hv, by simp⟩))

/-- A configuration without a value at the first key does not touch the path. -/
theorem not_touches_of_find? {c : Entries Json} {k : String} (hf : Entries.find? k c = none)
    (p : List String) : ¬ Touches c (k :: p) := by
  rintro (⟨v, hv⟩ | hb)
  · rw [at?_cons, hf] at hv
    cases hv
  · rcases blocks_cons.1 hb with ⟨v, hv, -⟩ | ⟨fields, hv, -⟩
    · rw [hf] at hv
      cases hv
    · rw [hf] at hv
      cases hv

/-- With an object at the first key, a path is touched when its rest is touched there. -/
theorem touches_cons_obj {c fields : Entries Json} {k : String}
    (hf : Entries.find? k c = some (.obj fields)) {p : List String} :
    Touches c (k :: p) ↔ Touches fields p := by
  refine ⟨?_, Touches.cons hf⟩
  rintro (⟨v, hv⟩ | hb)
  · rw [at?_cons, hf] at hv
    exact .inl ⟨v, hv⟩
  · rcases blocks_cons.1 hb with ⟨v, hv, hobj, -⟩ | ⟨inner, hv, hb⟩
    · rw [hf] at hv
      cases hv
      cases hobj
    · rw [hf] at hv
      cases hv
      exact .inr hb

/-- Where the overlay has nothing to say, the base is seen. -/
theorem at?_merge_of_not_touches {b o : Entries Json} (ho : Ordered (.obj o)) {p : List String}
    (h : ¬ Touches o p) : at? (merge b o) p = at? b p := by
  induction p generalizing b o with
  | nil => exact absurd (.inl ⟨_, at?_nil o⟩) h
  | cons k p ih =>
    cases hf : Entries.find? k o with
    | none => rw [at?_cons, at?_cons, find?_merge ho.1, hf]
    | some v =>
      rcases isObject_cases v with ⟨fields, rfl⟩ | hv
      · have hp : ¬ Touches fields p := fun hp => h (hp.cons hf)
        rcases at?_merge_cons_obj ho hf p with ⟨base, hbase, heq⟩ | ⟨hbase, heq⟩
        · rw [heq, ih (ordered_of_find? ho hf) hp, at?_cons, hbase]
          rfl
        · -- the object replaces what the base holds at `k`, below which nothing stood either
          rw [heq, at?_cons]
          have hnone : at? fields p = none :=
            Option.eq_none_iff_forall_ne_some.2 fun v hv => hp (.inl ⟨v, hv⟩)
          have hpne : p ≠ [] := by
            rintro rfl
            exact hp (.inl ⟨_, at?_nil fields⟩)
          rw [hnone]
          cases hx : Entries.find? k b with
          | none => rfl
          | some x =>
            rcases isObject_cases x with ⟨base, rfl⟩ | hxo
            · exact absurd hx (hbase base)
            · exact (at?_eq_none_of_isObject hxo hpne).symm
      · exact absurd (touches_of_isObject hf hv p) h

/-- A value of the overlay that is no object is shown. -/
theorem at?_merge_of_value {b o : Entries Json} (ho : Ordered (.obj o)) {p : List String}
    {v : Json} (h : at? o p = some v) (hv : v.isObject = false) :
    ∃ w, at? (merge b o) p = some w ∧ Shown v w := by
  induction p generalizing b o with
  | nil => cases h; cases hv
  | cons k p ih =>
    rw [at?_cons, Option.bind_eq_some_iff] at h
    obtain ⟨x, hf, hx⟩ := h
    rcases isObject_cases x with ⟨fields, rfl⟩ | hxo
    · rcases at?_merge_cons_obj ho hf p with ⟨base, -, heq⟩ | ⟨-, heq⟩
      · rw [heq]
        exact ih (ordered_of_find? ho hf) hx
      · exact ⟨v, heq.trans hx, .inl rfl⟩
    · obtain ⟨rfl, rfl⟩ := eq_of_at?_of_isObject hxo hx
      exact ⟨coerce "" v, at?_merge_cons_of_isObject ho hf hv [], shown_coerce hv⟩

/-- A scalar of the overlay stands as it is. -/
theorem at?_merge_of_scalar {b o : Entries Json} (ho : Ordered (.obj o)) {p : List String}
    {v : Json} (h : at? o p = some v) (hv : IsScalar v) : at? (merge b o) p = some v := by
  obtain ⟨w, hw, hshown⟩ := at?_merge_of_value (b := b) ho h hv.isObject
  rw [hw, hshown.of_isScalar hv]

/-- Where the overlay holds an object, an object stands. -/
theorem at?_merge_of_object {b o : Entries Json} (ho : Ordered (.obj o)) {p : List String}
    {fields : Entries Json} (h : at? o p = some (.obj fields)) :
    ∃ merged, at? (merge b o) p = some (.obj merged) := by
  induction p generalizing b o with
  | nil => exact ⟨_, at?_nil _⟩
  | cons k p ih =>
    rw [at?_cons, Option.bind_eq_some_iff] at h
    obtain ⟨x, hf, hx⟩ := h
    rcases isObject_cases x with ⟨inner, rfl⟩ | hxo
    · rcases at?_merge_cons_obj ho hf p with ⟨base, -, heq⟩ | ⟨-, heq⟩
      · rw [heq]
        exact ih (ordered_of_find? ho hf) hx
      · exact ⟨fields, heq.trans hx⟩
    · obtain ⟨rfl, rfl⟩ := eq_of_at?_of_isObject hxo hx
      cases hxo

/-- At a path that the overlay blocks, nothing stands. -/
theorem at?_merge_of_blocks {b o : Entries Json} (ho : Ordered (.obj o)) {p : List String}
    (h : Blocks o p) : at? (merge b o) p = none := by
  induction p generalizing b o with
  | nil => exact absurd h (not_blocks_nil o)
  | cons k p ih =>
    rcases blocks_cons.1 h with ⟨v, hf, hv, hp⟩ | ⟨fields, hf, hb⟩
    · rw [at?_merge_cons_of_isObject ho hf hv]
      exact at?_eq_none_of_isObject (isObject_coerce hv) hp
    · rcases at?_merge_cons_obj ho hf p with ⟨base, -, heq⟩ | ⟨-, heq⟩
      · rw [heq]
        exact ih (ordered_of_find? ho hf) hb
      · rw [heq]
        exact hb.at?_eq_none

/-- What the overlay blocks stays blocked. -/
theorem blocks_merge {b o : Entries Json} (ho : Ordered (.obj o)) {p : List String}
    (h : Blocks o p) : Blocks (merge b o) p := by
  obtain ⟨q, v, hq, hne, hv, hobj⟩ := h
  obtain ⟨w, hw, hshown⟩ := at?_merge_of_value (b := b) ho hv hobj
  exact ⟨q, w, hq, hne, hw, hshown.isObject hobj⟩

/-- Where the overlay holds a value, the merge holds one. -/
theorem at?_merge_of_some {b o : Entries Json} (ho : Ordered (.obj o)) {p : List String} {v : Json}
    (h : at? o p = some v) : ∃ w, at? (merge b o) p = some w := by
  rcases isObject_cases v with ⟨fields, rfl⟩ | hobj
  · obtain ⟨merged, hm⟩ := at?_merge_of_object (b := b) ho h
    exact ⟨_, hm⟩
  · obtain ⟨w, hw, -⟩ := at?_merge_of_value (b := b) ho h hobj
    exact ⟨w, hw⟩

/-- Where the base or the overlay holds a value, the merge holds one, unless the overlay blocks
    the path. -/
theorem at?_merge_of_or {b o : Entries Json} (ho : Ordered (.obj o)) {p : List String} {v : Json}
    (h : (at? o p).or (at? b p) = some v) (hblocks : ¬ Blocks o p) :
    ∃ w, at? (merge b o) p = some w := by
  cases hv : at? o p with
  | some x => exact at?_merge_of_some ho hv
  | none =>
    have ht : ¬ Touches o p := by
      rintro (⟨x, hx⟩ | hb)
      · rw [hv] at hx
        cases hx
      · exact hblocks hb
    rw [hv, Option.none_or] at h
    exact ⟨v, by rw [at?_merge_of_not_touches ho ht, h]⟩

/-- What the overlay touches is touched by the merge. -/
theorem touches_merge {b o : Entries Json} (ho : Ordered (.obj o)) {p : List String}
    (h : Touches o p) : Touches (merge b o) p := by
  rcases h with ⟨v, hv⟩ | hb
  · exact .inl (at?_merge_of_some ho hv)
  · exact .inr (blocks_merge ho hb)

/-- A path at which the base or the overlay holds a value is touched by the merge. -/
theorem touches_merge_of_or {b o : Entries Json} (ho : Ordered (.obj o)) {p : List String}
    {v : Json} (h : (at? o p).or (at? b p) = some v) : Touches (merge b o) p := by
  by_cases hb : Blocks o p
  · exact .inr (blocks_merge ho hb)
  · exact .inl (at?_merge_of_or ho h hb)

/-- A merge touches no path that neither of its two parts touches. -/
theorem not_touches_merge {b o : Entries Json} (ho : Ordered (.obj o)) {p : List String}
    (hb : ¬ Touches b p) (hp : ¬ Touches o p) : ¬ Touches (merge b o) p := by
  rintro (⟨v, hv⟩ | ⟨q, v, hq, hne, hv, hobj⟩)
  · rw [at?_merge_of_not_touches ho hp] at hv
    exact hb (.inl ⟨v, hv⟩)
  · by_cases ht : Touches o q
    · -- the overlay holds an object at `q`, or it would touch `p` as well
      rcases ht with ⟨x, hx⟩ | hblocks
      · rcases isObject_cases x with ⟨fields, rfl⟩ | hxo
        · obtain ⟨merged, hm⟩ := at?_merge_of_object (b := b) ho hx
          rw [hm] at hv
          cases hv
          cases hobj
        · exact hp (.inr ⟨q, x, hq, hne, hx, hxo⟩)
      · rw [at?_merge_of_blocks ho hblocks] at hv
        cases hv
    · rw [at?_merge_of_not_touches ho ht] at hv
      exact hb (.inr ⟨q, v, hq, hne, hv, hobj⟩)

end ClusterPackages.Config
