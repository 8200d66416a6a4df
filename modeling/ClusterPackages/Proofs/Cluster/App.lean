import ClusterPackages.Cluster.App
import ClusterPackages.Proofs.Json.RoundTrip

namespace ClusterPackages

open Text Json

/-!
# Apps as documents

The manifest of an app puts the id and the labels beside the other fields, and reading it has to
tell them apart again.

* `Json.Document.table?_ofJson` — a table is read back entry by entry.
* `App.toJson_eq` — the fields of a manifest: where id and labels are found, and what else there is.
* `App.ofDocument?_ofJson` — an app is read back from the document of its manifest.
* `App.ofManifest_compact` — so it is from the text.
-/

/-! ### Tables -/

/-- Of tables that are written with `g`, entry by entry, every value is read back with `f`. -/
theorem Json.Document.table?_ofJson {α : Type} {f : Document → Option α} {g : α → Json}
    (h : ∀ v, f (ofJson (g v)) = some v) (t : Table α) :
    table? f (ofJson (.obj (t.mapEntries fun e => g e.2).entries)) = some t := by
  have hnames : named? (ofFields (t.mapEntries fun e => g e.2).entries) =
      some (t.entries.map fun e => (e.1, ofJson (g e.2))) := by
    rw [named?_ofFields]
    simp [Table.mapEntries]
  have hvalues : (t.entries.map fun e => (e.1, ofJson (g e.2))).mapM
      (fun e => (f e.2).map (e.1, ·)) = some t.entries := by
    rw [mapM_eq_some_iff, List.map_map]
    apply List.map_congr_left
    intro e _
    simp [h]
  simp [ofJson, table?, hnames, hvalues, Table.ofList_entries]

namespace App

/-- A text of a document is read from it again as it is. -/
theorem string?_ofJson (s : String) : Document.string? (Document.ofJson (.str s)) = some s :=
  Quoted.text?_ofText s

section

variable {a : App} (hnames : ∀ name ∈ knownFields, a.rest.contains name = false)

include hnames

/-- No other field has the name of a known one. -/
theorem not_known_of_mem_rest {e : String × Json} (he : e ∈ a.rest.entries) :
    knownFields.contains e.1 = false := by
  cases hknown : knownFields.contains e.1 with
  | false => rfl
  | true =>
    have hmem : e.1 ∈ knownFields := List.contains_iff_mem.1 hknown
    have habsent := hnames e.1 hmem
    have hfound : a.rest.find? e.1 = some e.2 := Table.find?_eq_some.2 he
    simp [Table.contains, hfound] at habsent

/-- The fields of a manifest: every name stands there once, id and labels are found under theirs,
    and the others are those that the app carries along. -/
theorem toJson_eq : ∃ l : Entries Json, a.toJson = .obj l ∧ (l.map (·.1)).Nodup ∧
    Entries.find? "id" l = some (.str a.id) ∧
    Entries.find? "labels" l = (if a.labels.isEmpty then none else some (labelsJson a.labels)) ∧
    l.filter (fun e => !knownFields.contains e.1) = a.rest.entries := by
  refine ⟨_, rfl, ?_, rfl, ?_, ?_⟩
  · -- The names of the other fields ascend.
    have hrest : (a.rest.entries.map (·.1)).Nodup := by
      rw [List.Nodup, List.pairwise_map]
      apply a.rest.ascending.imp
      intro e e' hlt heq
      exact String.lt_irrefl _ (heq ▸ hlt)
    have hother : ∀ name ∈ knownFields, name ∉ a.rest.entries.map (·.1) := by
      intro name hname hmem
      obtain ⟨e, he, rfl⟩ := List.mem_map.1 hmem
      have hnot := not_known_of_mem_rest hnames he
      simp [hname] at hnot
    have hid := hother "id" (by simp [knownFields])
    have hlabels := hother "labels" (by simp [knownFields])
    by_cases hempty : a.labels.isEmpty = true
    · simp [hempty, hrest, hid]
    · simp [hempty, hrest, hid, hlabels]
  · by_cases hempty : a.labels.isEmpty = true
    · have habsent := hnames "labels" (by simp [knownFields])
      have hnone : Entries.find? "labels" a.rest.entries = none := by
        simpa [Table.contains, Table.find?] using habsent
      simp [hempty, Entries.find?, hnone]
    · simp [hempty, Entries.find?]
  · have hrest : a.rest.entries.filter (fun e => !knownFields.contains e.1) = a.rest.entries := by
      rw [List.filter_eq_self]
      intro e he
      rw [not_known_of_mem_rest hnames he]
      rfl
    by_cases hempty : a.labels.isEmpty = true
    · simp only [hempty, if_true, List.cons_append, List.nil_append]
      rw [List.filter_cons_of_neg (by simp [knownFields])]
      exact hrest
    · simp only [hempty, if_false, List.cons_append, List.nil_append, Bool.false_eq_true]
      rw [List.filter_cons_of_neg (by simp [knownFields]),
        List.filter_cons_of_neg (by simp [knownFields])]
      exact hrest

end

/-- The other fields are read back. -/
theorem rest?_ofJson {depth : Nat} {l : Entries Json} {rest : Table Json}
    (hl : l.filter (fun e => !knownFields.contains e.1) = rest.entries)
    (hvalues : ∀ e ∈ rest.entries, e.2.Fits depth ∧ e.2.Ordered) :
    rest? depth (l.map fun e => (e.1, Document.ofJson e.2)) = some rest := by
  have hothers : (l.map fun e => (e.1, Document.ofJson e.2)).filter
      (fun f => !knownFields.contains f.1) =
        rest.entries.map fun e => (e.1, Document.ofJson e.2) := by
    rw [List.filter_map, ← hl]
    rfl
  have hread : (rest.entries.map fun e => (e.1, Document.ofJson e.2)).mapM
      (fun f => (f.2.json? depth).map (f.1, ·)) = some rest.entries := by
    rw [mapM_eq_some_iff, List.map_map]
    apply List.map_congr_left
    intro e he
    obtain ⟨hfits, hordered⟩ := hvalues e he
    simp [Document.json?_ofJson hfits hordered]
  rw [rest?, hothers, hread]
  exact congrArg some rest.ofList_entries

/-- The labels are read back; none are written where there are none. -/
theorem absent_labels_ofJson (labels : Table String) :
    Document.absent ∅ (Document.table? Document.string?)
      ((if labels.isEmpty then none else some (labelsJson labels)).map Document.ofJson) =
        some labels := by
  by_cases hempty : labels.isEmpty = true
  · have hnone : labels = ∅ := by
      apply Table.eq_of_find?
      intro key
      rw [Table.find?, List.isEmpty_iff.1 hempty]
      rfl
    rw [if_pos hempty, hnone]
    rfl
  · rw [if_neg hempty]
    exact Document.table?_ofJson string?_ofJson labels

/-! ### Manifests -/

section

variable {a : App} (hnames : ∀ name ∈ knownFields, a.rest.contains name = false)
  (hordered : ∀ e ∈ a.rest.entries, e.2.Ordered)

include hnames hordered

/-- An app is read back from the document of its manifest. -/
theorem ofDocument?_ofJson {depth : Nat} (hfits : a.toJson.Fits depth) :
    ofDocument? depth (Document.ofJson a.toJson) = some a := by
  obtain ⟨l, hl, hnodup, hid, hlabels, hothers⟩ := toJson_eq hnames
  rw [hl] at hfits ⊢
  cases depth with
  | zero => exact hfits.elim
  | succ depth =>
    have hread := Document.named?_ofFields l
    have hkeys : ((l.map fun e => (e.1, Document.ofJson e.2)).map (·.1)).Nodup := by
      rwa [List.map_map]
    -- What the app carries along is one level below the manifest.
    have hvalues : ∀ e ∈ a.rest.entries, e.2.Fits depth ∧ e.2.Ordered := by
      intro e he
      have hmem : e ∈ l := (List.mem_filter.1 (hothers ▸ he)).1
      exact ⟨fitsFields_iff.1 hfits e hmem, hordered e he⟩
    have hrest := rest?_ofJson hothers hvalues
    have hfound : Document.absent "" Document.string?
        ((Entries.find? "id" l).map Document.ofJson) = some a.id := by
      rw [hid]
      exact string?_ofJson a.id
    have hlabelled : Document.absent ∅ (Document.table? Document.string?)
        ((Entries.find? "labels" l).map Document.ofJson) = some a.labels := by
      rw [hlabels]
      exact absent_labels_ofJson a.labels
    simp [Document.ofJson, ofDocument?, hread, Document.field?_eq hkeys, Entries.find?_map,
      hfound, hlabelled, hrest]

/-- **Apps survive being written.** An app whose other fields have names of their own, hold no
    floating-point numbers and nest no deeper than the reader allows is what its manifest reads
    as. -/
theorem ofManifest_compact (hfits : a.toJson.Fits nesting) :
    ofManifest a.toJson.compact = .ok a := by
  have hread : (Document.read? (Utf8.symbols a.toJson.compact)).bind (ofDocument? nesting) =
      some a := by
    rw [read?_compact hfits, Option.bind_some, ofDocument?_ofJson hnames hordered hfits]
  rw [ofManifest, hread]

end

/-- An app with characters that are escaped in a label, and with arrays, objects and the least and
    the greatest integer among its other fields. -/
def nestedApp : App where
  id := "/kafka"
  labels := ⟨[("note", "a \"broker\"\n\\\x01 é 😀"), ("tags", "")], by decide +kernel⟩
  rest := ⟨[("args", .arr [.null, .bool false, .int (-9223372036854775808)]),
    ("env", .obj [("KEY", .str "/"), ("ports", .arr [.int 18446744073709551615, .obj []])])],
    by decide +kernel⟩

/-- Such an app is read back. -/
theorem ofManifest_compact_nested :
    (∀ name ∈ knownFields, nestedApp.rest.contains name = false) ∧
      (∀ e ∈ nestedApp.rest.entries, e.2.Ordered) ∧ nestedApp.toJson.Fits nesting ∧
      ofManifest nestedApp.toJson.compact = .ok nestedApp := by
  have hnames : ∀ name ∈ knownFields, nestedApp.rest.contains name = false := by decide +kernel
  have hordered : ∀ e ∈ nestedApp.rest.entries, e.2.Ordered := by
    simp only [nestedApp, List.forall_mem_cons]
    refine ⟨?_, ?_, by simp⟩
    · simp [Ordered, OrderedItems, Json.int]
    · have hkeys : "KEY" < "ports" := by decide +kernel
      exact ⟨List.pairwise_pair.2 hkeys, trivial, ⟨trivial, ⟨.nil, trivial⟩, trivial⟩, trivial⟩
  have hfits : nestedApp.toJson.Fits nesting := by
    refine ⟨trivial, ⟨trivial, trivial, trivial⟩, ?_, ?_, trivial⟩
    · exact ⟨trivial, trivial, ⟨by decide, by decide⟩, trivial⟩
    · exact ⟨trivial, ⟨⟨by decide, by decide⟩, trivial, trivial⟩, trivial⟩
  exact ⟨hnames, hordered, hfits, ofManifest_compact hnames hordered hfits⟩

end App

end ClusterPackages
