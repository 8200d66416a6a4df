import ClusterPackages.Proofs.Config.Merge
import ClusterPackages.Proofs.Table

namespace ClusterPackages.Config

open Json

/-!
# Merging the same overlay again

An array of the overlay becomes a text, but only where the merge comes by: an object that meets no
object in the base is put there as a whole, with the arrays inside it as they are.  When the same
overlay comes again, it meets its own object, and those arrays become texts after all.

* `objects_induction` — induction on a configuration along the objects at its keys.
* `at?_merge_of_objects`, `at?_merge_of_copied` — what stands where the overlay holds an object:
  the merge of two objects, or the object of the overlay as it is.
* `Encloses` — the base holds an object around every array of the overlay.
* `merge_repeated` — a second merge changes nothing exactly then, and a third one never does.
* `not_merge_repeated` — an overlay whose second merge turns an array into its text.
-/

/-- What holds of a configuration whenever it holds of the objects at its keys holds of every
    configuration. -/
theorem objects_induction {P : Entries Json → Prop}
    (h : ∀ c, (∀ k fields, Entries.find? k c = some (.obj fields) → P fields) → P c)
    (c : Entries Json) : P c := by
  refine h c fun k fields hf => ?_
  have hentry : sizeOf (k, Json.obj fields) < sizeOf c :=
    List.sizeOf_lt_of_mem (Entries.mem_of_find? hf)
  have hsmaller : sizeOf fields < sizeOf c := by
    rw [Prod.mk.sizeOf_spec, Json.obj.sizeOf_spec] at hentry
    omega
  exact objects_induction h fields
termination_by sizeOf c

/-! ### Objects of the overlay -/

/-- Only in an object can an object be found. -/
theorem exists_obj_of_at? {v : Json} {p : List String} {fields : Entries Json}
    (h : Json.at? p v = some (.obj fields)) : ∃ inner, v = .obj inner := by
  rcases isObject_cases v with hv | hv
  · exact hv
  · obtain ⟨-, rfl⟩ := eq_of_at?_of_isObject hv h
    cases hv

/-- To follow a path is to follow its first part, and from there the second one. -/
theorem at?_append (p q : List String) (v : Json) :
    Json.at? (p ++ q) v = (Json.at? p v).bind (Json.at? q) := by
  induction p generalizing v with
  | nil => rfl
  | cons k p ih =>
    rw [List.cons_append, Json.at?, Json.at?, Option.bind_assoc]
    exact congrArg (v.get? k).bind (funext ih)

/-- What stands in an ordered value is ordered. -/
theorem ordered_of_at? {v w : Json} (hv : v.Ordered) {p : List String}
    (h : Json.at? p v = some w) : w.Ordered := by
  induction p generalizing v with
  | nil => exact Option.some.inj h ▸ hv
  | cons k p ih =>
    obtain ⟨x, hx, hw⟩ := Option.bind_eq_some_iff.1 h
    cases v with
    | obj fields => exact ih ((ordered_obj.1 hv).2 _ (Entries.mem_of_find? hx)) hw
    | _ => cases hx

/-- Above a value stands an object, which has it at the last key. -/
theorem at?_concat_eq_some {c : Entries Json} {p : List String} {k : String} {v : Json} :
    at? c (p ++ [k]) = some v ↔
      ∃ fields, at? c p = some (.obj fields) ∧ Entries.find? k fields = some v := by
  have hlast : ∀ x : Json, Json.at? [k] x = x.get? k := fun x => Option.bind_fun_some _
  rw [at?, at?_append, Option.bind_eq_some_iff]
  constructor
  · rintro ⟨x, hx, hv⟩
    rw [hlast] at hv
    cases x with
    | obj fields => exact ⟨fields, hx, hv⟩
    | _ => cases hv
  · rintro ⟨fields, hf, hv⟩
    exact ⟨_, hf, (hlast _).trans hv⟩

/-- Where both the base and the overlay hold an object, the merge of the two stands. -/
theorem at?_merge_of_objects {b o : Entries Json} (ho : Ordered (.obj o)) {p : List String}
    {base fields : Entries Json} (hb : at? b p = some (.obj base))
    (hf : at? o p = some (.obj fields)) :
    at? (merge b o) p = some (.obj (merge base fields)) := by
  induction p generalizing b o with
  | nil =>
    cases hb
    cases hf
    rfl
  | cons k p ih =>
    rw [at?_cons, Option.bind_eq_some_iff] at hb hf
    obtain ⟨x, hx, hxp⟩ := hb
    obtain ⟨y, hy, hyp⟩ := hf
    obtain ⟨lower, rfl⟩ := exists_obj_of_at? hxp
    obtain ⟨upper, rfl⟩ := exists_obj_of_at? hyp
    rcases at?_merge_cons_obj (b := b) ho hy p with ⟨base', hbase', heq⟩ | ⟨hnone, -⟩
    · rw [hx] at hbase'
      cases hbase'
      rw [heq]
      exact ih (ordered_of_find? ho hy) hxp hyp
    · exact absurd hx (hnone lower)

/-- Where the overlay holds an object and the base holds none, the overlay's stands as it is. -/
theorem at?_merge_of_copied {b o : Entries Json} (ho : Ordered (.obj o)) {p : List String}
    {fields : Entries Json} (hf : at? o p = some (.obj fields))
    (hb : ∀ base, at? b p ≠ some (.obj base)) : at? (merge b o) p = some (.obj fields) := by
  induction p generalizing b o with
  | nil => exact absurd (at?_nil b) (hb b)
  | cons k p ih =>
    rw [at?_cons, Option.bind_eq_some_iff] at hf
    obtain ⟨x, hx, hxp⟩ := hf
    obtain ⟨inner, rfl⟩ := exists_obj_of_at? hxp
    rcases at?_merge_cons_obj (b := b) ho hx p with ⟨base, hbase, heq⟩ | ⟨-, heq⟩
    · rw [heq]
      refine ih (ordered_of_find? ho hx) hxp fun l hl => hb l ?_
      rw [at?_cons, hbase]
      exact hl
    · rw [heq]
      exact hxp

/-! ### Arrays of the overlay -/

/-- The base holds an object around every array of the overlay, those inside arrays apart. -/
def Encloses (b o : Entries Json) : Prop :=
  ∀ p k items, at? o (p ++ [k]) = some (.arr items) → ∃ base, at? b p = some (.obj base)

/-- An array that the base encloses becomes its text. -/
theorem at?_merge_of_enclosed {b o : Entries Json} (ho : Ordered (.obj o)) {p : List String}
    {k : String} {items : List Json} (h : at? o (p ++ [k]) = some (.arr items))
    {base : Entries Json} (hb : at? b p = some (.obj base)) :
    at? (merge b o) (p ++ [k]) = some (.str (Json.arr items).compact) := by
  obtain ⟨fields, hf, hk⟩ := at?_concat_eq_some.1 h
  have hfields : Ordered (.obj fields) := ordered_of_at? ho hf
  refine at?_concat_eq_some.2 ⟨_, at?_merge_of_objects ho hb hf, ?_⟩
  rw [find?_merge hfields.1, hk]
  exact congrArg some (overlaid_eq_coerce (.inl rfl))

/-- An array that the base does not enclose stays an array. -/
theorem at?_merge_of_not_enclosed {b o : Entries Json} (ho : Ordered (.obj o)) {p : List String}
    {k : String} {items : List Json} (h : at? o (p ++ [k]) = some (.arr items))
    (hb : ∀ base, at? b p ≠ some (.obj base)) :
    at? (merge b o) (p ++ [k]) = some (.arr items) := by
  obtain ⟨fields, hf, hk⟩ := at?_concat_eq_some.1 h
  exact at?_concat_eq_some.2 ⟨fields, at?_merge_of_copied ho hf hb, hk⟩

/-! ### The second merge -/

/-- A configuration without arrays is not changed by itself. -/
theorem merge_self {c : Entries Json} (hc : Ordered (.obj c))
    (h : ∀ p k items, at? c (p ++ [k]) ≠ some (.arr items)) : merge c c = c := by
  induction c using objects_induction with | _ c ih =>
  -- the two sides are compared key by key
  refine Entries.eq_of_find? (merge_ordered hc hc.2).1 hc.1 fun k => ?_
  rw [find?_merge hc.1]
  cases hk : Entries.find? k c with
  | none => rfl
  | some v =>
    refine congrArg some ?_
    cases v with
    | obj fields =>
      refine congrArg Json.obj (ih k fields hk (ordered_of_find? hc hk) fun p j items hp => ?_)
      refine h (k :: p) j items ?_
      rw [List.cons_append, at?_cons, hk]
      exact hp
    | arr items => exact absurd (at?_concat_eq_some.2 ⟨c, at?_nil c, hk⟩) (h [] k items)
    | _ => rfl

/-- When the base encloses the arrays of the overlay, it does so below every key at which the
    overlay holds an object. -/
theorem Encloses.below {b o fields : Entries Json} (h : Encloses b o) {k : String}
    (hk : Entries.find? k o = some (.obj fields)) {p : List String} {j : String}
    {items : List Json} (hp : at? fields (p ++ [j]) = some (.arr items)) :
    ∃ base, Entries.find? k b = some (.obj base) ∧ ∃ inner, at? base p = some (.obj inner) := by
  have harray : at? o ((k :: p) ++ [j]) = some (.arr items) := by
    rw [List.cons_append, at?_cons, hk]
    exact hp
  obtain ⟨inner, hinner⟩ := h (k :: p) j items harray
  rw [at?_cons, Option.bind_eq_some_iff] at hinner
  obtain ⟨x, hx, hxp⟩ := hinner
  obtain ⟨base, rfl⟩ := exists_obj_of_at? hxp
  exact ⟨base, hx, inner, hxp⟩

/-- When the base encloses the arrays of the overlay, nothing changes when the overlay comes
    again. -/
theorem merge_merge_of_encloses {b o : Entries Json} (hb : Ordered (.obj b))
    (ho : Ordered (.obj o)) (h : Encloses b o) : merge (merge b o) o = merge b o := by
  induction o using objects_induction generalizing b with | _ o ih =>
  have hm : Ordered (.obj (merge b o)) := merge_ordered hb ho.2
  refine Entries.eq_of_find? (merge_ordered hm ho.2).1 hm.1 fun k => ?_
  rw [find?_merge ho.1]
  cases hk : Entries.find? k o with
  | none => rfl
  | some v =>
    -- the second merge meets what the first one has left at the key
    have honce : Entries.find? k (merge b o) = some (overlaid (Entries.find? k b) v) := by
      rw [find?_merge ho.1, hk]
    rw [honce]
    refine congrArg some ?_
    rcases isObject_cases v with ⟨fields, rfl⟩ | hv
    · by_cases hbase : ∃ base, Entries.find? k b = some (.obj base)
      · obtain ⟨base, hbase⟩ := hbase
        rw [hbase]
        refine congrArg Json.obj
          (ih k fields hk (ordered_of_find? hb hbase) (ordered_of_find? ho hk) ?_)
        intro p j items hp
        obtain ⟨base', hbase', henclosed⟩ := h.below hk hp
        rw [hbase] at hbase'
        cases hbase'
        exact henclosed
      · -- the object is copied, and an array in it would have to be enclosed
        have hne : ∀ base, Entries.find? k b ≠ some (.obj base) := fun l hl => hbase ⟨l, hl⟩
        have hcopied : overlaid (Entries.find? k b) (.obj fields) = .obj fields :=
          overlaid_eq_coerce (.inr hne)
        rw [hcopied]
        refine congrArg Json.obj (merge_self (ordered_of_find? ho hk) fun p j items hp => ?_)
        obtain ⟨base, hbase', -⟩ := h.below hk hp
        exact hne base hbase'
    · rw [overlaid_eq_coerce (.inl hv), overlaid_eq_coerce (.inl hv)]

/-- When a second merge changes nothing, the base encloses the arrays of the overlay: the second
    merge makes a text of every array, so the first one must have done so. -/
theorem encloses_of_merge_merge {b o : Entries Json} (ho : Ordered (.obj o))
    (h : merge (merge b o) o = merge b o) : Encloses b o := by
  intro p k items harray
  refine Classical.byContradiction fun hnone => ?_
  have hne : ∀ base, at? b p ≠ some (.obj base) := fun base hbase => hnone ⟨base, hbase⟩
  obtain ⟨fields, hf, -⟩ := at?_concat_eq_some.1 harray
  obtain ⟨merged, hmerged⟩ := at?_merge_of_object (b := b) ho hf
  -- the first merge has kept the array, inside an object that the second one enters
  have hfirst := at?_merge_of_not_enclosed ho harray hne
  have hsecond := at?_merge_of_enclosed ho harray hmerged
  rw [h, hfirst] at hsecond
  cases hsecond

/-- What the overlay has been put into encloses its arrays. -/
theorem encloses_merge {b o : Entries Json} (ho : Ordered (.obj o)) : Encloses (merge b o) o := by
  intro p k items harray
  obtain ⟨fields, hf, -⟩ := at?_concat_eq_some.1 harray
  exact at?_merge_of_object ho hf

/-- **Merging an overlay again.**  The second merge of an overlay changes nothing exactly when the
    base holds an object around every array of the overlay; from the third one on nothing
    changes. -/
theorem merge_repeated (b o : Json.Object) :
    (merge (merge b.fields o.fields) o.fields = merge b.fields o.fields ↔
      Encloses b.fields o.fields) ∧
    merge (merge (merge b.fields o.fields) o.fields) o.fields =
      merge (merge b.fields o.fields) o.fields := by
  refine ⟨⟨encloses_of_merge_merge o.ordered, merge_merge_of_encloses b.ordered o.ordered⟩, ?_⟩
  exact merge_merge_of_encloses (merge_ordered b.ordered o.ordered.2) o.ordered
    (encloses_merge o.ordered)

/-- An array in an object that is new to the base is kept by the first merge and becomes a text in
    the second. -/
theorem not_merge_repeated :
    ¬ ∀ b o : Json.Object,
      merge (merge b.fields o.fields) o.fields = merge b.fields o.fields := by
  intro hall
  have hsame := hall ∅ ((∅ : Json.Object).insertObject "log"
    ((∅ : Json.Object).insert "hosts" (.arr [.str "a"]) ⟨trivial, trivial⟩))
  have hfirst := congrArg (fun c => at? c ["log", "hosts"]) hsame
  have htext : Json.str "[\"a\"]" = Json.arr [.str "a"] := Option.some.inj hfirst
  cases htext

end ClusterPackages.Config
