import ClusterPackages.Proofs.Config.Declarations
import ClusterPackages.Proofs.Template.Leaves
import ClusterPackages.Proofs.Text.Blank
import ClusterPackages.Proofs.Text.Digit

namespace ClusterPackages

open Text Template

/-!
# Sections over declared defaults

A declared default is coerced before a template sees it: arrays and most numbers have become texts.
A section and an inverted section over it are rendered as for the default itself, but for one value:
an empty array would make no section appear, and its text does.

* `Json.truthy_coerce` — coercion keeps the truth value of everything but the empty array.
* `Template.Fires` — how a section and an inverted section over a name are rendered.
* `Schema.DefaultsTo` — what a declaration stands for when nobody says anything else.
* `Definition.fires_of_default` — sections in a manifest over a declared default.
* `Definition.not_fires_of_default` — a section over an empty array that is rendered.
-/

/-! ### Truth values -/

namespace Json

/-- A text makes a section appear when one of its characters is not blank. -/
theorem truthy_ofList {cs : List Char} {c : Char} (hc : c ∈ cs) (hblank : isBlank c = false) :
    (Json.str (String.ofList cs)).truthy = true := by
  rw [truthy, allBlank, String.toList_ofList, Bool.not_eq_true', List.all_eq_false]
  exact ⟨c, hc, by rw [hblank]; decide⟩

/-- The text of an integer counts as true, as it has a digit. -/
theorem truthy_writeInt (n : Int) : (Json.str (String.ofList (writeInt n))).truthy = true := by
  obtain ⟨c, hc⟩ := List.exists_mem_of_ne_nil _ (Nat.toDigits_ne_nil (b := 10) (n := n.natAbs))
  have hmem : c ∈ writeInt n := by
    unfold writeInt
    split
    · exact List.mem_cons_of_mem _ hc
    · exact hc
  exact truthy_ofList hmem (isBlank_of_isDigit (isDigit_toDigits _ c hc))

theorem truthy_placesText (x : Binary64) :
    (Json.str (String.ofList x.placesText)).truthy = true := by
  have hpoint : '.' ∈ x.placesText :=
    List.mem_append_right _ (List.mem_append_right _ List.mem_cons_self)
  exact truthy_ofList hpoint (by decide)

/-- The compact text of an array counts as true, that of an empty array included. -/
theorem truthy_compact (items : List Json) : (Json.str (arr items).compact).truthy = true := by
  have hopen : '[' ∈ write (.arr items) := by
    cases items with
    | nil => exact List.mem_cons_self
    | cons v rest =>
      rw [write]
      exact List.mem_cons_self
  exact truthy_ofList hopen (by decide)

/-- Coercion keeps the truth value of everything but the empty array. -/
theorem truthy_coerce (declared : String) (v : Json) :
    (Config.coerce declared v).truthy = v.truthy ↔ v ≠ .arr [] := by
  cases v with
  | number n =>
    have htrue : (Config.coerce declared (.number n)).truthy = true := by
      rw [Config.coerce]
      split
      · exact truthy_writeInt _
      · split
        · exact truthy_placesText _
        · rfl
    exact ⟨fun _ h => (by cases h), fun _ => htrue⟩
  | arr items =>
    rw [Config.coerce, truthy_compact]
    cases items with
    | nil => simp [truthy]
    | cons v rest => simp [truthy]
  | _ => exact ⟨fun _ h => (by cases h), fun _ => rfl⟩

end Json

/-- What has been coerced is no array. -/
theorem Config.coerce_ne_arr (declared : String) (v : Json) (items : List Json) :
    Config.coerce declared v ≠ .arr items := by
  cases v with
  | number n =>
    rw [Config.coerce]
    split
    · simp
    · split <;> simp
  | _ => simp [Config.coerce]

/-! ### Sections -/

/-- A section over the name is rendered once, with the value `w` as its innermost context, and an
    inverted one not at all, if `fires` holds; otherwise it is the other way round. -/
structure Template.Fires (contexts : List Json) (name : String) (fires : Bool) (w : Json) :
    Prop where
  /-- What becomes of a section. -/
  plain : ∀ children, renderNode contexts (.block name false children) =
    if fires then renderNodes (w :: contexts) children else ""
  /-- What becomes of an inverted section. -/
  inverted : ∀ children, renderNode contexts (.block name true children) =
    if fires then "" else renderNodes contexts children

/-- A value that is no array makes its section appear as its truth value says. -/
theorem Template.fires_of_some {contexts : List Json} {name : String} {w : Json}
    (h : resolve contexts name = some w) (hw : ∀ items, w ≠ .arr items) :
    Fires contexts name w.truthy w where
  plain := by
    intro children
    have hpasses : passes contexts name = if w.truthy then [w] else [] := by
      unfold passes
      rw [h]
      cases w with
      | arr items => exact absurd rfl (hw items)
      | _ => rfl
    rw [renderNode_block, hpasses]
    cases w.truthy with
    | true => simp [concat]
    | false => rfl
  inverted := by
    intro children
    rw [renderNode, h]
    rfl

/-- A name without a value makes no section appear. -/
theorem Template.fires_of_none {contexts : List Json} {name : String}
    (h : resolve contexts name = none) (w : Json) : Fires contexts name false w where
  plain := by
    intro children
    rw [renderNode, h]
    rfl
  inverted := by
    intro children
    rw [renderNode, h]
    rfl

/-! ### Declared defaults -/

/-- The value that a declaration stands for when nobody says anything else: its default, or `null`
    if it has none.  An object without a default stands for the defaults of its properties
    instead. -/
def Schema.DefaultsTo (g : Schema) (v : Json) : Prop :=
  g.default = some v ∨ g.default = none ∧ g.type ≠ "object" ∧ v = .null

/-- Sections over a name that leads to a declaration. -/
theorem Schema.fires_of_defaultsTo {g : Schema} {v : Json} (hv : g.DefaultsTo v)
    {contexts : List Json} {name : String} (h : resolve contexts name = g.default?) :
    Fires contexts name (Config.coerce g.type v).truthy (Config.coerce g.type v) := by
  rcases hv with hv | ⟨hnone, htype, rfl⟩
  · rw [Schema.default?_of_some hv] at h
    exact fires_of_some h (Config.coerce_ne_arr g.type v)
  · rw [Schema.default?_of_none hnone, if_neg htype] at h
    exact fires_of_none h _

namespace Definition

/-- **Sections over declared defaults.**  Coercion keeps the truth value of everything but the empty
    array.  So where a manifest names a declared default that the options do not touch, and no
    section around has the first key of its path, a section and an inverted section over it are
    rendered as its truth value says; only the empty array counts as true. -/
theorem fires_of_default :
    (∀ declared v, (Config.coerce declared v).truthy = v.truthy ↔ v ≠ .arr []) ∧
    ∀ (d : Definition) (config options : Entries Json) (s g : Schema) (key : String)
      (rest : List String) (v : Json) (inner : List Json),
      d.mergedConfig = .ok config → d.options = .ok options →
      Schema.parse (d.artifacts .config) = .ok s →
      (∀ k ∈ key :: rest, k ≠ "" ∧ '.' ∉ k.toList) →
      s.property? (key :: rest) = some g → g.DefaultsTo v →
      ¬ Config.Touches options (key :: rest) → inner.findSome? (·.get? key) = none →
        (v ≠ .arr [] → Fires (inner ++ [.obj config]) (join "." (key :: rest)) v.truthy
          (Config.coerce g.type v)) ∧
        (v = .arr [] → Fires (inner ++ [.obj config]) (join "." (key :: rest)) true
          (.str "[]")) := by
  refine ⟨Json.truthy_coerce, ?_⟩
  intro d config options s g key rest v inner hconfig hoptions hschema hkeys hg hv hfree hinner
  have hresolve : resolve (inner ++ [.obj config]) (join "." (key :: rest)) = g.default? :=
    (resolve_join_last hkeys hinner).trans
      (at?_mergedConfig_of_default hconfig hoptions hschema hg hfree)
  have hfires := Schema.fires_of_defaultsTo hv hresolve
  refine ⟨fun hne => ?_, ?_⟩
  · rw [(Json.truthy_coerce g.type v).2 hne] at hfires
    exact hfires
  · rintro rfl
    exact hfires

/-! ### An empty array -/

/-- A definition with two declared defaults, a truth value and an empty array, over which its
    manifest has two sections. -/
def vacant : Definition where
  name := "pkg"
  version := "1"
  release := "0"
  framework := false
  frameworkName := none
  artifacts
    | .config => Utf8.encode <|
      "\x7b\"properties\":\x7b\"log\":\x7b\"type\":\"object\",\"properties\":\x7b" ++
      "\"debug\":\x7b\"default\":false\x7d,\"hosts\":\x7b\"default\":[]\x7d\x7d\x7d\x7d\x7d"
    | .manifest => Utf8.encode <|
      "\x7b\x7b#log.hosts\x7d\x7don\x7b\x7b/log.hosts\x7d\x7d" ++
      "\x7b\x7b^log.hosts\x7d\x7doff\x7b\x7b/log.hosts\x7d\x7d"
    | _ => []
  userConfig := ∅
  platform := .empty

/-- The false truth value makes the inverted section appear. -/
theorem fires_of_default_vacant :
    ∃ config, vacant.mergedConfig = .ok config ∧
      renderNode [.obj config] (.block "log.debug" false [.text "on"]) = "" ∧
      renderNode [.obj config] (.block "log.debug" true [.text "off"]) = "off" := by
  have hmerged : (vacant.mergedConfig.toOption.any fun _ => true) = true := by decide +kernel
  obtain ⟨config, hconfig, -⟩ := Action.exists_ok_of_any hmerged
  have hdeclared : ((Schema.parse (vacant.artifacts .config)).toOption.any
      (Schema.declares ["log", "debug"] "" (.bool false))) = true := by decide +kernel
  obtain ⟨s, hs, hdeclared⟩ := Action.exists_ok_of_any hdeclared
  obtain ⟨g, hg, -, hdefault⟩ := Schema.exists_of_declares hdeclared
  have hfree : ¬ Config.Touches [] ["log", "debug"] := Config.not_touches_of_find? rfl ["debug"]
  obtain ⟨hfires, -⟩ := fires_of_default.2 vacant config [] s g "log" ["debug"] (.bool false) []
    hconfig rfl hs (by decide +kernel) hg (.inl hdefault) hfree rfl
  obtain ⟨hplain, hinverted⟩ := hfires (by simp)
  have hoff := hinverted [.text "off"]
  exact ⟨config, hconfig, hplain _, hoff.trans (by simp [Json.truthy, renderNodes, renderNode])⟩

/-- The empty array does not: its text is not blank, so the section over it is rendered and the
    inverted one is not. -/
theorem not_fires_of_default :
    (¬ ∀ declared v, (Config.coerce declared v).truthy = v.truthy) ∧
      vacant.manifest = .ok "on" := by
  refine ⟨fun hall => ?_, ?_⟩
  · have hempty : true = false := hall "" (.arr [])
    cases hempty
  · have hmanifest : (vacant.manifest.toOption.any (· == "on")) = true := by decide +kernel
    obtain ⟨text, htext, hon⟩ := Action.exists_ok_of_any hmanifest
    rw [htext, beq_iff_eq.1 hon]

end Definition

end ClusterPackages
