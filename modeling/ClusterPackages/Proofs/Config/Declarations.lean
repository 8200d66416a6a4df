import ClusterPackages.Proofs.Config.Layers
import ClusterPackages.Proofs.Json.Record
import ClusterPackages.Proofs.Table

namespace ClusterPackages

open Text

/-!
# Declared defaults

A schema declares values at paths of property names.  This file says what the defaults of a schema
hold at such a path, and when the merged configuration holds it as well.

* `Schema.Ordered` — the names of the properties ascend, at any depth; every schema that is read
  obeys it (`Schema.ordered_of_parse`).
* `Schema.property?` — the declaration at a path; what stands below a property counts only if the
  property is an object without a default of its own.
* `Schema.at?_defaults` — the defaults hold at a path what its declaration contributes.
* `Definition.at?_mergedConfig_of_default` — so does the merged configuration, at a path of which
  the options say nothing.
-/

/-! ### Reading -/

/-- The values of a table that is read are read one by one. -/
theorem Json.Document.exists_of_mem_table? {α : Type} {f : Document → Option α} {d : Document}
    {t : Table α} (h : d.table? f = some t) {e : String × α} (he : e ∈ t.entries) :
    ∃ v, f v = some e.2 := by
  cases d with
  | obj fields =>
    simp only [table?, Option.bind_eq_bind, Option.bind_eq_some_iff] at h
    obtain ⟨l, -, read, hread, h⟩ := h
    cases h
    obtain ⟨⟨k, v⟩, -, hv⟩ := exists_of_mem_mapM hread (Table.mem_ofList he)
    obtain ⟨x, hx, rfl⟩ := Option.map_eq_some_iff.1 hv
    exact ⟨v, hx⟩
  | _ => cases h

namespace Schema

/-- The names of the properties ascend, at any depth. -/
inductive Ordered : Schema → Prop
  /-- The names of the properties ascend, and each property is ordered in turn. -/
  | intro {s : Schema} (ascending : Entries.Ascending s.properties)
    (below : ∀ e ∈ s.properties, Ordered e.2) : Ordered s

/-- The properties of an ordered schema ascend by their names. -/
theorem Ordered.ascending {s : Schema} : s.Ordered → Entries.Ascending s.properties
  | intro h _ => h

theorem Ordered.of_find? {s g : Schema} {name : String} :
    s.Ordered → Entries.find? name s.properties = some g → g.Ordered
  | intro _ h, hg => h _ (Entries.mem_of_find? hg)

/-- A schema that was read from a document is ordered. -/
theorem ordered_of_ofDocument? {depth : Nat} {d : Json.Document} {s : Schema}
    (h : ofDocument? depth d = some s) : s.Ordered := by
  induction depth using Nat.strongRecOn generalizing d s with | _ depth ih =>
  cases depth with
  | zero => cases h
  | succ depth =>
    rw [ofDocument?] at h
    split at h
    · rename_i _ _ _ field _ _ _ _
      simp only [Option.bind_eq_bind, Option.bind_eq_some_iff] at h
      obtain ⟨_, _, _, _, _, _, properties, hproperties, _, _, _, _, _, _, h⟩ := h
      cases h
      refine .intro properties.ascending fun e he => ?_
      -- the properties are missing, or they are schemas two levels further in
      cases field with
      | none =>
        cases hproperties
        cases he
      | some v =>
        cases depth with
        | zero => cases hproperties
        | succ inner =>
          obtain ⟨v', hv'⟩ := Json.Document.exists_of_mem_table? hproperties he
          exact ih inner (by omega) hv'
    · cases h

/-- A schema that is read is ordered. -/
theorem ordered_of_parse {raw : Bytes} {s : Schema} (h : parse raw = .ok s) : s.Ordered := by
  unfold parse at h
  split at h
  · cases h
    exact .intro .nil fun e he => by cases he
  · split at h
    · rename_i hread
      cases h
      obtain ⟨d, -, hd⟩ := Option.bind_eq_some_iff.1 hread
      exact ordered_of_ofDocument? hd
    · cases h

/-! ### Declarations and defaults -/

/-- The declaration at a path of property names.  What is declared below a property counts only if
    the property is an object without a default of its own. -/
def property? (s : Schema) : List String → Option Schema
  | [] => none
  | name :: path =>
    (Entries.find? name s.properties).bind fun g =>
      if path.isEmpty then some g
      else if g.type = "object" && g.default.isNone then g.property? path
      else none

/-- The defaults of a schema are those of its properties, and nothing else of it counts. -/
theorem defaults_eq (s : Schema) : s.defaults = defaultsOf s.properties := by
  cases s
  rw [defaults]

/-- A declared default is stringified as the declared type says. -/
theorem default?_of_some {s : Schema} {v : Json} (h : s.default = some v) :
    s.default? = some (Config.coerce s.type v) := by
  cases s
  cases h
  rw [default?]

/-- Without a declared default, an object stands for the defaults of its properties and nothing else
    has one. -/
theorem default?_of_none {s : Schema} (h : s.default = none) :
    s.default? = if s.type = "object" then some (.obj s.defaults) else none := by
  cases s
  cases h
  rw [default?, defaults]

/-- The defaults hold at a name what the property of that name contributes. -/
theorem find?_defaultsOf {properties : List (String × Schema)}
    (h : Entries.Ascending properties) (name : String) :
    Entries.find? name (defaultsOf properties) =
      (Entries.find? name properties).bind default? := by
  induction properties with
  | nil => rfl
  | cons e rest ih =>
    obtain ⟨k, s⟩ := e
    obtain ⟨hk, hrest⟩ := List.pairwise_cons.1 h
    rw [defaultsOf]
    by_cases hkn : k = name
    · -- no later property has the name
      subst hkn
      have hnone : Entries.find? k rest = none :=
        Entries.find?_eq_none fun e he heq => String.lt_irrefl k (heq ▸ hk e he)
      cases hs : s.default? with
      | some v => simp [Entries.find?, hs]
      | none => simp [Entries.find?, hs, ih hrest, hnone]
    · cases s.default? with
      | some v => simp [Entries.find?, hkn, ih hrest]
      | none => simp [Entries.find?, hkn, ih hrest]

/-- The defaults hold at a path what the declaration there contributes. -/
theorem at?_defaults {s g : Schema} (hs : s.Ordered) {path : List String}
    (hg : s.property? path = some g) : Config.at? s.defaults path = g.default? := by
  induction path generalizing s with
  | nil => cases hg
  | cons name path ih =>
    obtain ⟨x, hx, hg⟩ := Option.bind_eq_some_iff.1 hg
    have hfind : Entries.find? name s.defaults = x.default? := by
      rw [defaults_eq, find?_defaultsOf hs.ascending, hx, Option.bind_some]
    rw [Config.at?_cons, hfind]
    split at hg
    · rename_i hempty
      cases hg
      rw [List.isEmpty_iff.1 hempty]
      exact Option.bind_fun_some _
    · split at hg
      · rename_i hgroup
        obtain ⟨htype, hnone⟩ := Bool.and_eq_true_iff.1 hgroup
        rw [default?_of_none (Option.isNone_iff_eq_none.1 hnone), if_pos (of_decide_eq_true htype)]
        exact ih (hs.of_find? hx) hg
      · cases hg

/-- Whether two values are the same truth value or the same number. -/
def sameScalar : Json → Json → Bool
  | .bool a, .bool b => a == b
  | .number m, .number n => m == n
  | _, _ => false

theorem eq_of_sameScalar {v w : Json} (h : sameScalar v w = true) : v = w := by
  unfold sameScalar at h
  split at h
  · rw [beq_iff_eq.1 h]
  · rw [beq_iff_eq.1 h]
  · cases h

/-- Whether the declaration at the path has the type and the default, a truth value or a number. -/
def declares (path : List String) (type : String) (v : Json) (s : Schema) : Bool :=
  (s.property? path).any fun g => g.type == type && g.default.any (sameScalar v)

/-- What the check says of a declaration holds of it. -/
theorem exists_of_declares {s : Schema} {path : List String} {type : String} {v : Json}
    (h : s.declares path type v = true) :
    ∃ g, s.property? path = some g ∧ g.type = type ∧ g.default = some v := by
  obtain ⟨g, hg, h⟩ := (Option.any_eq_true _ _).1 h
  obtain ⟨htype, h⟩ := Bool.and_eq_true_iff.1 h
  obtain ⟨w, hw, hsame⟩ := (Option.any_eq_true _ _).1 h
  exact ⟨g, hg, beq_iff_eq.1 htype, eq_of_sameScalar hsame ▸ hw⟩

end Schema

/-! ### Defaults in the merged configuration -/

namespace Definition

/-- The merged configuration is made of the declared defaults and the options. -/
theorem mergedConfig_eq_merge {d : Definition} {config options : Entries Json} {s : Schema}
    (hconfig : d.mergedConfig = .ok config) (hoptions : d.options = .ok options)
    (hschema : Schema.parse (d.artifacts .config) = .ok s) :
    config = Config.merge s.defaults options := by
  unfold mergedConfig defaults at hconfig
  rw [hoptions, hschema] at hconfig
  cases hconfig
  rfl

/-- The options are ordered. -/
theorem options_ordered {d : Definition} {options : Entries Json}
    (h : d.options = .ok options) : Json.Ordered (.obj options) := by
  unfold Definition.options at h
  split at h
  · cases h
    exact ⟨.nil, trivial⟩
  · cases hrendered : d.renderedOptions with
    | error e =>
      rw [hrendered] at h
      cases h
    | ok rendered =>
      rw [hrendered] at h
      cases h
      exact Config.ordered_options

/-- At a path that the options do not touch, the merged configuration holds what the declaration
    there contributes. -/
theorem at?_mergedConfig_of_default {d : Definition} {config options : Entries Json}
    {s g : Schema} (hconfig : d.mergedConfig = .ok config) (hoptions : d.options = .ok options)
    (hschema : Schema.parse (d.artifacts .config) = .ok s) {path : List String}
    (hg : s.property? path = some g) (hfree : ¬ Config.Touches options path) :
    Config.at? config path = g.default? := by
  rw [mergedConfig_eq_merge hconfig hoptions hschema,
    Config.at?_merge_of_not_touches (options_ordered hoptions) hfree]
  exact Schema.at?_defaults (Schema.ordered_of_parse hschema) hg

end Definition

end ClusterPackages
