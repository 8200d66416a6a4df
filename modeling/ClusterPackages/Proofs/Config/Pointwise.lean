import ClusterPackages.Proofs.Config.Repetition

namespace ClusterPackages.Config

open Json

/-!
# A merge, path by path

What the overlay holds at a path, and around it, says what a merge shows there, without a look at
the rest of the two configurations: a value of the base, a value of the overlay, an object, or
nothing.  Only one configuration shows this at every path, so a merge can be told by its paths.

* `Alike` — the same stands in two places, or an object in each.
* `eq_of_alike` — configurations that are alike at every path are equal.
* `Settles` — what stands at a path after an overlay has been put over a base.
* `settles_merge` — a merge shows it.
* `Settles.alike` — whatever shows it is alike.
* `merge_pointwise` — the merge is the only configuration that shows it at every path.
-/

/-! ### Configurations that are alike -/

/-- The same stands in both places, or an object in each of them. -/
def Alike (x y : Option Json) : Prop :=
  x = y ∨ ∃ f g, x = some (.obj f) ∧ y = some (.obj g)

/-- Two configurations in which every path leads to the same, or to an object in each, are
    equal. -/
theorem eq_of_alike {c d : Entries Json} (hc : Ordered (.obj c)) (hd : Ordered (.obj d))
    (h : ∀ p, p ≠ [] → Alike (at? c p) (at? d p)) : c = d := by
  induction c using objects_induction generalizing d with | _ c ih =>
  apply Entries.eq_of_find? hc.1 hd.1
  intro k
  have hone : ∀ e : Entries Json, at? e [k] = Entries.find? k e := fun _ => Option.bind_fun_some _
  have hk := h [k] (by simp)
  rw [hone, hone] at hk
  rcases hk with hsame | ⟨f, g, hf, hg⟩
  · exact hsame
  · -- below the key the two objects are alike again
    have hfg : f = g := by
      apply ih k f hf (ordered_of_find? hc hf) (ordered_of_find? hd hg)
      intro p _
      have hbelow := h (k :: p) (by simp)
      rw [at?_cons, at?_cons, hf, hg] at hbelow
      exact hbelow
    rw [hf, hg, hfg]

/-! ### What stands at a path -/

/-- What stands at a path after the overlay `o` has been put over the base `b`. -/
structure Settles (b o : Entries Json) (p : List String) (w : Option Json) : Prop where
  /-- Where the overlay has nothing to say, the base is seen, be it a value or nothing. -/
  untouched : ¬ Touches o p → w = at? b p
  /-- A scalar of the overlay stands as it is. -/
  scalar : ∀ v, at? o p = some v → IsScalar v → w = some v
  /-- An array of the overlay stands as it is where the base holds no object around it, and as its
      compact text where the base holds one. -/
  array : ∀ items, at? o p = some (.arr items) →
    (w = some (.arr items) ∧ ∀ base, at? b p.dropLast ≠ some (.obj base)) ∨
    (w = some (.str (Json.arr items).compact) ∧ ∃ base, at? b p.dropLast = some (.obj base))
  /-- Where the overlay holds an object, an object stands. -/
  object : ∀ fields, at? o p = some (.obj fields) → ∃ merged, w = some (.obj merged)
  /-- Below a value of the overlay that is no object there is nothing. -/
  blocked : Blocks o p → w = none

/-- What an array of the overlay becomes depends on the base around it. -/
theorem at?_merge_of_array {b o : Entries Json} (ho : Ordered (.obj o)) {p : List String}
    {items : List Json} (h : at? o p = some (.arr items)) :
    (at? (merge b o) p = some (.arr items) ∧ ∀ base, at? b p.dropLast ≠ some (.obj base)) ∨
    (at? (merge b o) p = some (.str (Json.arr items).compact) ∧
      ∃ base, at? b p.dropLast = some (.obj base)) := by
  have hp : p ≠ [] := by
    rintro rfl
    cases h
  obtain ⟨q, k, rfl⟩ : ∃ q k, p = q ++ [k] :=
    ⟨p.dropLast, p.getLast hp, (List.dropLast_concat_getLast hp).symm⟩
  rw [List.dropLast_concat]
  by_cases hb : ∃ base, at? b q = some (.obj base)
  · obtain ⟨base, hbase⟩ := hb
    exact .inr ⟨at?_merge_of_enclosed ho h hbase, base, hbase⟩
  · have hne : ∀ base, at? b q ≠ some (.obj base) := fun base hbase => hb ⟨base, hbase⟩
    exact .inl ⟨at?_merge_of_not_enclosed ho h hne, hne⟩

/-- A merge shows what its two parts settle. -/
theorem settles_merge (b : Entries Json) {o : Entries Json} (ho : Ordered (.obj o))
    (p : List String) : Settles b o p (at? (merge b o) p) where
  untouched := at?_merge_of_not_touches ho
  scalar _ hv hs := at?_merge_of_scalar ho hv hs
  array _ h := at?_merge_of_array ho h
  object _ hf := at?_merge_of_object ho hf
  blocked := at?_merge_of_blocks ho

/-- The two parts leave nothing open but which fields an object has. -/
theorem Settles.alike {b o : Entries Json} {p : List String} {x y : Option Json}
    (hx : Settles b o p x) (hy : Settles b o p y) : Alike x y := by
  by_cases ht : Touches o p
  · rcases ht with ⟨v, hv⟩ | hblocks
    · cases v with
      | obj fields =>
        obtain ⟨f, hf⟩ := hx.object fields hv
        obtain ⟨g, hg⟩ := hy.object fields hv
        exact .inr ⟨f, g, hf, hg⟩
      | arr items =>
        -- the base decides for both of them alike
        rcases hx.array items hv with ⟨hx, hnone⟩ | ⟨hx, base, hbase⟩
        · rcases hy.array items hv with ⟨hy, -⟩ | ⟨-, base, hbase⟩
          · exact .inl (hx.trans hy.symm)
          · exact absurd hbase (hnone base)
        · rcases hy.array items hv with ⟨-, hnone⟩ | ⟨hy, -⟩
          · exact absurd hbase (hnone base)
          · exact .inl (hx.trans hy.symm)
      | _ => exact .inl ((hx.scalar _ hv trivial).trans (hy.scalar _ hv trivial).symm)
    · exact .inl ((hx.blocked hblocks).trans (hy.blocked hblocks).symm)
  · exact .inl ((hx.untouched ht).trans (hy.untouched ht).symm)

/-- **A merge, path by path.**  At every path a merge shows what the base and the overlay settle
    there, and it is the only configuration that does. -/
theorem merge_pointwise (b o : Json.Object) :
    (∀ p, p ≠ [] → Settles b.fields o.fields p (at? (merge b.fields o.fields) p)) ∧
    ∀ m : Json.Object, (∀ p, p ≠ [] → Settles b.fields o.fields p (at? m.fields p)) →
      m.fields = merge b.fields o.fields := by
  constructor
  · intro p _
    exact settles_merge b.fields o.ordered p
  · intro m hm
    apply eq_of_alike m.ordered (merge_ordered b.ordered o.ordered.2)
    intro p hp
    exact (hm p hp).alike (settles_merge b.fields o.ordered p)

/-- Next to a value that only the base has, the overlay hides an object and adds an array. -/
example : merge [("a", .obj [("x", .int 1)]), ("b", .str "keep")]
      [("a", .bool false), ("hosts", .arr [.str "a", .str "b"])] =
    [("a", .bool false), ("b", .str "keep"), ("hosts", .str "[\"a\",\"b\"]")] := rfl

end ClusterPackages.Config
