import ClusterPackages.Config.Definition
import ClusterPackages.Proofs.Action
import ClusterPackages.Proofs.Config.Merge

namespace ClusterPackages

open Text

/-!
# The layers of a configuration

A configuration is merged from four layers, lowest first: the declared defaults, the rendered
options, the user's values and those of the platform.  The upper three are merged first, and the
result is put over the defaults.

* `Config.Prevails` — a layer holds a value that no higher layer has anything to say about.
* `Config.highest?` — the value of the highest layer that holds any.
* `Config.Upholds`, `Config.Reflects` — a configuration keeps what prevails in its layers, and
  holds nothing but what they hold.  Both are carried from the parts of a merge to the merge.
* `Definition.mergedConfig_layers` — what the merged configuration of a definition holds.
* `Definition.not_highest_layer` — a value of the rendered options that the user hides does not
  come back when the platform replaces what hides it; the declared default is seen instead.
-/

namespace Config

/-- A layer holds the value `v` at the path, and no layer above it holds a value there or blocks
    it.  The layers are given lowest first. -/
def Prevails (layers : List (Entries Json)) (p : List String) (v : Json) : Prop :=
  ∃ below c above, layers = below ++ c :: above ∧ at? c p = some v ∧ ∀ o ∈ above, ¬ Touches o p

/-- The value at the path in the highest layer that holds any there. -/
def highest? (p : List String) (layers : List (Entries Json)) : Option Json :=
  layers.reverse.findSome? fun c => at? c p

/-- The value of the highest layer comes from the upper layers, or else from the lower ones. -/
theorem highest?_append (p : List String) (lower upper : List (Entries Json)) :
    highest? p (lower ++ upper) = (highest? p upper).or (highest? p lower) := by
  rw [highest?, List.reverse_append, List.findSome?_append]
  rfl

theorem highest?_nil (p : List String) : highest? p [] = none := rfl

theorem highest?_cons (p : List String) (c : Entries Json) (upper : List (Entries Json)) :
    highest? p (c :: upper) = (highest? p upper).or (at? c p) := by
  rw [← List.singleton_append, highest?_append]
  congr 1
  cases h : at? c p <;> simp [highest?, h]

theorem highest?_singleton (p : List String) (c : Entries Json) : highest? p [c] = at? c p := by
  rw [highest?_cons, highest?_nil, Option.none_or]

/-! ### What prevails is kept -/

/-- A configuration holds the scalars that prevail in the layers, and touches no path that none of
    them touches. -/
structure Upholds (c : Entries Json) (layers : List (Entries Json)) : Prop where
  /-- A prevailing scalar is held. -/
  value : ∀ {p : List String} {v : Json}, IsScalar v → Prevails layers p v → at? c p = some v
  /-- A path that no layer touches is not touched. -/
  untouched : ∀ {p : List String}, (∀ o ∈ layers, ¬ Touches o p) → ¬ Touches c p

/-- A configuration holds the scalars that prevail in it alone. -/
theorem upholds_singleton (c : Entries Json) : Upholds c [c] where
  value := by
    rintro p v - ⟨below, c', above, h, hv, -⟩
    obtain ⟨-, rfl, -⟩ : below = [] ∧ c = c' ∧ above = [] := by
      cases below with
      | nil => simpa using h
      | cons d below => simp at h
    exact hv
  untouched := fun h => h c (by simp)

/-- Merging puts the layers of the overlay above those of the base. -/
theorem Upholds.merge {b o : Entries Json} {lower upper : List (Entries Json)}
    (hb : Upholds b lower) (ho : Upholds o upper) (hord : Json.Ordered (.obj o)) :
    Upholds (merge b o) (lower ++ upper) where
  value := by
    rintro p v hv ⟨below, c, above, h, hc, habove⟩
    rcases List.append_eq_append_iff.1 h with ⟨mid, rfl, hup⟩ | ⟨mid, hlow, hup⟩
    · -- the layer belongs to the overlay, which therefore holds the value
      exact at?_merge_of_scalar hord (ho.value hv ⟨mid, c, above, hup, hc, habove⟩) hv
    · cases mid with
      | nil =>
        have hlayers : upper = [] ++ c :: above := by simpa using hup.symm
        exact at?_merge_of_scalar hord (ho.value hv ⟨[], c, above, hlayers, hc, habove⟩) hv
      | cons c' mid =>
        obtain ⟨rfl, rfl⟩ := List.cons.inj hup
        have hupper : ¬ Touches o p := ho.untouched fun l hl => habove l (by simp [hl])
        rw [at?_merge_of_not_touches hord hupper]
        exact hb.value hv ⟨below, c, mid, hlow, hc, fun l hl => habove l (by simp [hl])⟩
  untouched := fun h =>
    not_touches_merge hord (hb.untouched fun l hl => h l (by simp [hl]))
      (ho.untouched fun l hl => h l (by simp [hl]))

/-! ### What is held comes from a layer -/

/-- What a configuration holds at the path, unless it is an object, is what the highest layer that
    holds a value there shows. -/
def Reflects (c : Entries Json) (layers : List (Entries Json)) (p : List String) : Prop :=
  ∀ w, at? c p = some w → w.isObject = false → ∃ v, highest? p layers = some v ∧ Shown v w

theorem reflects_singleton (c : Entries Json) (p : List String) : Reflects c [c] p :=
  fun w hw _ => ⟨w, by rw [highest?_singleton, hw], .inl rfl⟩

/-- Merging puts the layers of the overlay above those of the base, provided that the overlay
    still touches the path if one of its layers holds a value there. -/
theorem Reflects.merge {b o : Entries Json} {lower upper : List (Entries Json)} {p : List String}
    (hb : Reflects b lower p) (ho : Reflects o upper p) (hord : Json.Ordered (.obj o))
    (hupper : ∀ v, highest? p upper = some v → Touches o p) :
    Reflects (merge b o) (lower ++ upper) p := by
  intro w hw hobj
  rw [highest?_append]
  by_cases ht : Touches o p
  · rcases ht with ⟨x, hx⟩ | hblocks
    · rcases isObject_cases x with ⟨fields, rfl⟩ | hxo
      · obtain ⟨merged, hm⟩ := at?_merge_of_object (b := b) hord hx
        rw [hm] at hw
        cases hw
        cases hobj
      · obtain ⟨y, hy, hshown⟩ := at?_merge_of_value (b := b) hord hx hxo
        rw [hw] at hy
        cases hy
        obtain ⟨v, hv, hvx⟩ := ho x hx hxo
        exact ⟨v, by rw [hv]; rfl, hvx.trans hshown⟩
    · rw [at?_merge_of_blocks hord hblocks] at hw
      cases hw
  · rw [at?_merge_of_not_touches hord ht] at hw
    obtain ⟨v, hv, hshown⟩ := hb w hw hobj
    have hnone : highest? p upper = none :=
      Option.eq_none_iff_forall_ne_some.2 fun x hx => ht (hupper x hx)
    exact ⟨v, by rw [hnone, Option.none_or, hv], hshown⟩

/-- A single layer above. -/
theorem Reflects.merge_layer {b : Entries Json} {lower : List (Entries Json)} {p : List String}
    (hb : Reflects b lower p) (o : Json.Object) :
    Reflects (Config.merge b o.fields) (lower ++ [o.fields]) p :=
  hb.merge (reflects_singleton _ _) o.ordered fun v hv =>
    .inl ⟨v, by rwa [highest?_singleton] at hv⟩

/-! ### Rendered options, user and platform -/

section Options

variable {rendered user platform : Json.Object} {p : List String}

/-- The merged options have their keys in ascending order. -/
theorem ordered_options : Json.Ordered
    (.obj (Config.merge (Config.merge rendered.fields user.fields) platform.fields)) :=
  merge_ordered (merge_ordered rendered.ordered user.ordered.2) platform.ordered.2

/-- Unless the user blocks the path, all three layers count. -/
theorem reflects_options :
    Reflects (Config.merge (Config.merge rendered.fields user.fields) platform.fields)
      [rendered.fields, user.fields, platform.fields] p :=
  ((reflects_singleton _ _).merge_layer user).merge_layer platform

/-- The merged options touch a path at which one of their layers holds a value, unless the user's
    object blocks it. -/
theorem touches_options (hblocks : ¬ Blocks user.fields p) {v : Json}
    (h : highest? p [rendered.fields, user.fields, platform.fields] = some v) :
    Touches (Config.merge (Config.merge rendered.fields user.fields) platform.fields) p := by
  rw [highest?_cons, highest?_cons, highest?_singleton, Option.or_assoc] at h
  cases hp : at? platform.fields p with
  | some x => exact touches_merge platform.ordered (.inl ⟨x, hp⟩)
  | none =>
    rw [hp, Option.none_or] at h
    obtain ⟨w, hw⟩ := at?_merge_of_or user.ordered h hblocks
    exact touches_merge_of_or platform.ordered (by rw [hp, Option.none_or, hw])

/-- Where the user blocks the path, the rendered options do not count. -/
theorem reflects_options_of_blocks (hblocks : Blocks user.fields p) :
    Reflects (Config.merge (Config.merge rendered.fields user.fields) platform.fields)
      [user.fields, platform.fields] p := by
  have huser : Reflects (Config.merge rendered.fields user.fields) [user.fields] p := by
    intro w hw _
    rw [at?_merge_of_blocks user.ordered hblocks] at hw
    cases hw
  exact huser.merge_layer platform

/-- Where the user's object blocks a path, the merged options touch it if the user or the platform
    holds a value there. -/
theorem touches_options_of_blocks (hblocks : Blocks user.fields p) {v : Json}
    (h : highest? p [user.fields, platform.fields] = some v) :
    Touches (Config.merge (Config.merge rendered.fields user.fields) platform.fields) p := by
  rw [highest?_cons, highest?_singleton, hblocks.at?_eq_none, Option.or_none] at h
  exact touches_merge platform.ordered (.inl ⟨v, h⟩)

end Options

end Config

namespace Definition

/-- With an options file, the merged configuration is made of four layers. -/
theorem mergedConfig_eq_ok {d : Definition} {config : Entries Json}
    (hfile : (d.artifacts .options).isEmpty = false) (h : d.mergedConfig = .ok config) :
    ∃ defaults rendered, d.defaults = .ok defaults ∧ d.renderedOptions = .ok rendered ∧
      config = Config.merge defaults (Config.merge (Config.merge rendered.fields
        d.userConfig.fields) d.platform.values.fields) := by
  obtain ⟨defaults, hdefaults, h⟩ := Action.except_bind_eq_ok.1 h
  obtain ⟨upper, hupper, h⟩ := Action.except_bind_eq_ok.1 h
  cases h
  unfold options at hupper
  rw [hfile] at hupper
  cases hrendered : d.renderedOptions with
  | error e =>
    rw [hrendered] at hupper
    cases hupper
  | ok rendered =>
    rw [hrendered] at hupper
    cases hupper
    exact ⟨defaults, rendered, hdefaults, rfl, rfl⟩

/-- **The layers of a configuration.**  A scalar that a layer holds is held by the merged
    configuration when no higher layer holds a value there or blocks the path.  Conversely, what
    the merged configuration holds, unless it is an object, is what the highest layer that holds
    a value there shows; the rendered options do not count where the user blocks the path. -/
theorem mergedConfig_layers (d : Definition) (config : Entries Json)
    (hfile : (d.artifacts .options).isEmpty = false) (h : d.mergedConfig = .ok config) :
    ∃ defaults rendered, d.defaults = .ok defaults ∧ d.renderedOptions = .ok rendered ∧
      ∀ p : List String, p ≠ [] →
        (∀ v, Config.IsScalar v →
          Config.Prevails [defaults, rendered.fields, d.userConfig.fields, d.platform.values.fields]
            p v → Config.at? config p = some v) ∧
        ∀ w, Config.at? config p = some w → w.isObject = false →
          ∃ v, Config.Shown v w ∧
            (¬ Config.Blocks d.userConfig.fields p →
              Config.highest? p [defaults, rendered.fields, d.userConfig.fields,
                d.platform.values.fields] = some v) ∧
            (Config.Blocks d.userConfig.fields p →
              Config.highest? p [defaults, d.userConfig.fields, d.platform.values.fields]
                = some v) := by
  obtain ⟨defaults, rendered, hd, hr, rfl⟩ := mergedConfig_eq_ok hfile h
  have hord : Json.Ordered (.obj (Config.merge (Config.merge rendered.fields
      d.userConfig.fields) d.platform.values.fields)) :=
    Config.merge_ordered (Config.merge_ordered rendered.ordered d.userConfig.ordered.2)
      d.platform.values.ordered.2
  refine ⟨defaults, rendered, hd, hr, fun p _ => ⟨fun v hv hprev => ?_, fun w hw hobj => ?_⟩⟩
  · have hupper := ((Config.upholds_singleton rendered.fields).merge
      (Config.upholds_singleton d.userConfig.fields) d.userConfig.ordered).merge
      (Config.upholds_singleton d.platform.values.fields) d.platform.values.ordered
    exact ((Config.upholds_singleton defaults).merge hupper hord).value hv hprev
  · by_cases hblocks : Config.Blocks d.userConfig.fields p
    · obtain ⟨v, hv, hshown⟩ := (Config.reflects_singleton defaults p).merge
        (Config.reflects_options_of_blocks hblocks) hord
        (fun v hv => Config.touches_options_of_blocks hblocks hv) w hw hobj
      exact ⟨v, hshown, fun hb => absurd hblocks hb, fun _ => hv⟩
    · obtain ⟨v, hv, hshown⟩ := (Config.reflects_singleton defaults p).merge
        Config.reflects_options hord (fun v hv => Config.touches_options hblocks hv) w hw hobj
      exact ⟨v, hshown, fun _ => hv, fun hb => absurd hb hblocks⟩

/-! ### A hidden layer -/

/-- A definition whose user puts a text in place of the object that the rendered options hold,
    while the platform puts an object there again. -/
def exposing : Definition where
  name := "pkg"
  version := "1"
  release := "0"
  framework := false
  frameworkName := none
  artifacts
    | .config => Utf8.encode
      "\x7b\"properties\":\x7b\"log\":\x7b\"default\":\x7b\"level\":\"info\"\x7d\x7d\x7d\x7d"
    | .options => Utf8.encode "\x7b\"log\":\x7b\"level\":\"debug\"\x7d\x7d"
    | _ => []
  userConfig := (∅ : Json.Object).insertText "log" "off"
  platform := ⟨(∅ : Json.Object).insertObject "log"
    ((∅ : Json.Object).insertText "host" "syslog")⟩

/-- The text that the outcome of a configuration holds at a path. -/
def textAt? (r : Except Error (Entries Json)) (p : List String) : Option String :=
  r.toOption.bind fun c => (Config.at? c p).bind Json.str?

/-- A text that is found in the outcome of a merge is found in a configuration that came out. -/
theorem eq_ok_of_textAt? {r : Except Error (Entries Json)} {p : List String} {s : String}
    (h : textAt? r p = some s) : ∃ c, r = .ok c ∧ Config.at? c p = some (.str s) := by
  cases r with
  | error e => cases h
  | ok c =>
    obtain ⟨v, hv, hs⟩ :=
      Option.bind_eq_some_iff.1 (show (Config.at? c p).bind Json.str? = _ from h)
    cases v with
    | str t =>
      cases hs
      exact ⟨c, rfl, hv⟩
    | _ => cases hs

/-- The values of the platform and, where the user hides the rendered options, the declared
    defaults stand in the merged configuration. -/
theorem mergedConfig_layers_exposing :
    (exposing.artifacts .options).isEmpty = false ∧
    ∃ config, exposing.mergedConfig = .ok config ∧
      Config.at? config ["log", "host"] = some (.str "syslog") ∧
      ∃ defaults v, exposing.defaults = .ok defaults ∧ Config.Shown v (.str "info") ∧
        Config.highest? ["log", "level"] [defaults, exposing.userConfig.fields,
          exposing.platform.values.fields] = some v := by
  have hfile : (exposing.artifacts .options).isEmpty = false := by decide +kernel
  have htext : textAt? exposing.mergedConfig ["log", "level"] = some "info" := by decide +kernel
  obtain ⟨config, h, hlevel⟩ := eq_ok_of_textAt? htext
  obtain ⟨defaults, rendered, hd, -, hlaw⟩ := mergedConfig_layers exposing config hfile h
  obtain ⟨hhost, -⟩ := hlaw ["log", "host"] (by simp)
  obtain ⟨-, hback⟩ := hlaw ["log", "level"] (by simp)
  have hblocks : Config.Blocks exposing.userConfig.fields ["log", "level"] :=
    ⟨["log"], .str "off", by simp, by simp, rfl, rfl⟩
  obtain ⟨v, hshown, -, hv⟩ := hback _ hlevel rfl
  refine ⟨hfile, config, h, hhost _ trivial ⟨[defaults, rendered.fields,
    exposing.userConfig.fields], _, [], rfl, rfl, by simp⟩, defaults, v, hd, hshown, hv hblocks⟩

/-- What the merged configuration holds need not come from the highest layer that holds a value
    there: the rendered options hold `debug`, and the declared default `info` is seen. -/
theorem not_highest_layer :
    ¬ ∀ (d : Definition) (config : Entries Json),
      (d.artifacts .options).isEmpty = false → d.mergedConfig = .ok config →
      ∃ defaults rendered, d.defaults = .ok defaults ∧ d.renderedOptions = .ok rendered ∧
        ∀ p : List String, p ≠ [] →
          ∀ w, Config.at? config p = some w → w.isObject = false →
            ∃ v, Config.Shown v w ∧
              Config.highest? p [defaults, rendered.fields, d.userConfig.fields,
                d.platform.values.fields] = some v := by
  intro hall
  have hmerged : textAt? exposing.mergedConfig ["log", "level"] = some "info" := by decide +kernel
  have hrendered : textAt? (exposing.renderedOptions.map Json.Object.fields) ["log", "level"]
      = some "debug" := by decide +kernel
  obtain ⟨config, h, hlevel⟩ := eq_ok_of_textAt? hmerged
  obtain ⟨defaults, rendered, -, hr, hback⟩ := hall exposing config (by decide +kernel) h
  obtain ⟨fields, hf, hdebug⟩ := eq_ok_of_textAt? hrendered
  obtain ⟨v, hshown, hv⟩ := hback ["log", "level"] (by simp) _ hlevel rfl
  -- neither the user nor the platform holds a value there
  have huser : Config.at? exposing.userConfig.fields ["log", "level"] = none := rfl
  have hplatform : Config.at? exposing.platform.values.fields ["log", "level"] = none := rfl
  rw [hr] at hf
  cases hf
  rw [Config.highest?_cons, Config.highest?_cons, Config.highest?_cons, Config.highest?_singleton,
    hplatform, huser, hdebug] at hv
  cases hv
  rcases hshown with hne | ⟨items, hne, -⟩ <;> simp at hne

end Definition

end ClusterPackages
