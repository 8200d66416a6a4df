import ClusterPackages.Proofs.Json.Record
import ClusterPackages.Proofs.Json.Spelling
import ClusterPackages.Proofs.Table

namespace ClusterPackages.Json

open Text

/-!
# Reading back what was written

* `Quoted.text?_ofText`, `Numeral.value?_ofNumber` — strings and integers mean what was written.
* `Document.json?_ofJson` — so do values.
* `Document.object?_ofJson` — an object is read back with its fields.
* `Document.record?_ofJson` — a structure is read back field by field, whatever the order of its
  fields.
-/

/-! ### Strings and numbers -/

/-- A text that was quoted is read as it was. -/
theorem Quoted.text?_ofText (s : String) : Quoted.text? (.ofText s) = some s := by
  have hchars : ∀ cs : List Char, Quoted.chars? (cs.map Glyph.ofChar) = some cs := by
    intro cs
    induction cs with
    | nil => rfl
    | cons c cs ih =>
      rw [List.map_cons, Glyph.ofChar]
      split
      · -- A character that was written by its number is no surrogate.
        rename_i hunit
        have hlt : c.toNat < 0x20 := of_decide_eq_true (Bool.and_eq_true_iff.1 hunit).1
        have htail : ¬ (0xDC00 ≤ c.toNat && c.toNat ≤ 0xDFFF) = true := by
          rw [Bool.and_eq_true, decide_eq_true_iff, decide_eq_true_iff]
          omega
        have hlead : ¬ (0xD800 ≤ c.toNat && c.toNat ≤ 0xDBFF) = true := by
          rw [Bool.and_eq_true, decide_eq_true_iff, decide_eq_true_iff]
          omega
        rw [Quoted.chars?.eq_def]
        simp only [if_neg htail, if_neg hlead, ih, Option.map_some, Char.ofNat_toNat]
      · rw [Quoted.chars?.eq_def]
        simp only [ih, Option.map_some]
  rw [text?, ofText, hchars, Option.map_some, String.ofList_toList]

/-- An integer that fits 64 bits is read as it was written. -/
theorem Numeral.value?_ofNumber {n : Int} (hlow : -Nat.pow 2 63 ≤ n) (hhigh : n < Nat.pow 2 64) :
    (Numeral.ofNumber (.int n)).value? = some (.int n) := by
  have hdigits : Nat.ofDigitChars 10 (Nat.toDigits 10 n.natAbs) 0 = n.natAbs :=
    Nat.ofDigitChars_ten_toDigits
  have hint : (Numeral.ofNumber (.int n)).int? = some n := by
    unfold int? ofNumber
    rw [if_neg (by simp)]
    rw [Nat.pow_eq] at hlow hhigh
    -- The two bounds are checked apart: the lower one for a sign, the upper one without.
    by_cases hneg : n < 0
    · have hrange : (0 < n.natAbs && n.natAbs ≤ Nat.pow 2 63) = true := by
        rw [Bool.and_eq_true, decide_eq_true_iff, decide_eq_true_iff, Nat.pow_eq]
        omega
      have hvalue : -(n.natAbs : Int) = n := by omega
      simp only [decide_eq_true hneg, hdigits, hrange, if_true, hvalue]
    · have hrange : n.natAbs < Nat.pow 2 64 := by
        rw [Nat.pow_eq]
        omega
      have hvalue : (n.natAbs : Int) = n := by omega
      simp only [decide_eq_false hneg, hdigits, if_pos hrange, hvalue]
      rfl
  rw [Numeral.value?, hint]

/-! ### Values -/

mutual

/-- The document of a value means this value. -/
theorem Document.json?_ofJson : ∀ {depth : Nat} {v : Json}, v.Fits depth → v.Ordered →
    (Document.ofJson v).json? depth = some v
  | _, .null, _, _ => rfl
  | _, .bool _, _, _ => rfl
  | _, .number (.int n), hv, _ => by
    rw [Document.ofJson, Document.json?, Numeral.value?_ofNumber hv.1 hv.2]
    rfl
  | _, .str s, _, _ => by
    rw [Document.ofJson, Document.json?, Quoted.text?_ofText]
    rfl
  | depth + 1, .arr items, hv, ho => by
    rw [Document.ofJson, Document.json?, itemsJson?_ofItems hv ho]
    rfl
  | depth + 1, .obj fields, hv, ho => by
    have hfields := fieldsJson?_ofFields [] hv ho.2
    rw [Document.ofJson, Document.json?, hfields]
    exact congrArg (fun l => some (Json.obj l)) (Entries.ofList_of_ascending ho.1)

/-- Items that fit and have ascending keys are read as they were written. -/
theorem itemsJson?_ofItems : ∀ {depth : Nat} {l : List Json}, FitsItems depth l → OrderedItems l →
    itemsJson? depth (Document.ofItems l) = some l
  | _, [], _, _ => rfl
  | depth, v :: rest, ⟨hv, hrest⟩, ⟨ho, horest⟩ => by
    rw [Document.ofItems, itemsJson?, Document.json?_ofJson hv ho, itemsJson?_ofItems hrest horest]
    rfl

/-- Fields are put one after another into those that were read before. -/
theorem fieldsJson?_ofFields : ∀ {depth : Nat} (seen : Entries Json) {l : Entries Json},
    FitsFields depth l → OrderedFields l →
    fieldsJson? depth seen (Document.ofFields l) =
      some (l.foldl (fun t e => Entries.insert e.1 e.2 t) seen)
  | _, _, [], _, _ => rfl
  | depth, seen, (k, v) :: rest, ⟨hv, hrest⟩, ⟨ho, horest⟩ => by
    rw [Document.ofFields, fieldsJson?, Quoted.text?_ofText, Document.json?_ofJson hv ho]
    exact fieldsJson?_ofFields _ hrest horest

end

/-! ### Objects and structures -/

namespace Document

/-- An object is read back with its fields. -/
theorem object?_ofJson {depth : Nat} {o : Object} (h : o.toJson.Fits depth) :
    (ofJson o.toJson).object? depth = some o := by
  have hread : (ofJson o.toJson).json? depth = some (.obj o.fields) := json?_ofJson h o.ordered
  unfold object?
  split
  · rename_i fields hfields
    cases hread.symm.trans hfields
    rfl
  · rename_i hnone
    exact absurd hread (hnone o.fields)

/-- Fields are read under the names under which they were written. -/
theorem named?_ofFields : ∀ l : Entries Json,
    named? (ofFields l) = some (l.map fun e => (e.1, ofJson e.2))
  | [] => rfl
  | (k, v) :: rest => by
    rw [ofFields, named?, Quoted.text?_ofText, named?_ofFields rest]
    rfl

/-- Where every name stands once, a field is found under its name. -/
theorem field?_eq {name : String} : ∀ {l : List (String × Document)}, (l.map (·.1)).Nodup →
    field? name l = some (Entries.find? name l)
  | [], _ => rfl
  | (k, d) :: rest, h => by
    obtain ⟨hk, hrest⟩ := List.nodup_cons.1 h
    unfold field? Entries.find?
    split
    · rename_i heq
      subst heq
      -- The name does not come a second time.
      have hany : rest.any (fun e => decide (e.1 = k)) = false := by
        refine List.any_eq_false.2 fun e he hek => hk ?_
        rw [← of_decide_eq_true hek]
        exact List.mem_map_of_mem (f := (·.1)) he
      rw [hany]
      rfl
    · exact field?_eq hrest

/-- A structure is read back field by field, in whatever order it was written. -/
theorem record?_ofJson (names : List String) {l : Entries Json} (h : (l.map (·.1)).Nodup) :
    record? names (ofJson (.obj l)) =
      some (names.map fun name => (Entries.find? name l).map ofJson) := by
  have hnames : ((l.map fun e => (e.1, ofJson e.2)).map (·.1)).Nodup := by
    rwa [List.map_map]
  rw [ofJson, record?, named?_ofFields, Option.bind_some]
  refine mapM_eq_some_iff.2 ?_
  rw [List.map_map]
  refine List.map_congr_left fun name _ => ?_
  rw [field?_eq hnames, Entries.find?_map]
  rfl

end Document

end ClusterPackages.Json
