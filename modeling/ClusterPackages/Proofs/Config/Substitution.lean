import ClusterPackages.Proofs.Config.Layers
import ClusterPackages.Proofs.Template.Leaves

namespace ClusterPackages

open Text Template

/-!
# Values of the user in a manifest

A value of the user passes up to three merges before a manifest names it.  On its way an array may
become its text, once; a template writes an array and its text alike, so it cannot be seen whether
and where that happened.

* `Config.Shown.inline` — what is shown of a value is written like the value.
* `Definition.at?_mergedConfig_of_user` — what the merged configuration shows of a user's value.
* `Definition.render_of_user_array` — a manifest writes an array of the user as its compact text.
-/

/-- What is shown of a value is written like the value. -/
theorem Config.Shown.inline {v w : Json} (h : Config.Shown v w) : w.inline = v.inline := by
  rcases h with rfl | ⟨items, rfl, rfl⟩
  · rfl
  · rfl

namespace Definition

/-- A value of the user, unless it is an object, is shown by the merged configuration where the
    platform has nothing to say. -/
theorem at?_mergedConfig_of_user {d : Definition} {config : Entries Json}
    (hfile : (d.artifacts .options).isEmpty = false) (hconfig : d.mergedConfig = .ok config)
    {p : List String} {v : Json} (hv : v.isObject = false)
    (huser : Config.at? d.userConfig.fields p = some v)
    (hplatform : ¬ Config.Touches d.platform.values.fields p) :
    ∃ w, Config.at? config p = some w ∧ Config.Shown v w := by
  obtain ⟨defaults, rendered, -, -, rfl⟩ := mergedConfig_eq_ok hfile hconfig
  -- the value is shown after the merge with the options file, and shown again after the one with
  -- the defaults; the platform's merge in between does not change it
  obtain ⟨x, hx, hvx⟩ :=
    Config.at?_merge_of_value (b := rendered.fields) d.userConfig.ordered huser hv
  have hkept := Config.at?_merge_of_not_touches
    (b := Config.merge rendered.fields d.userConfig.fields) d.platform.values.ordered hplatform
  obtain ⟨w, hw, hxw⟩ := Config.at?_merge_of_value (b := defaults) Config.ordered_options
    (hkept.trans hx) (hvx.isObject hv)
  exact ⟨w, hw, hvx.trans hxw⟩

/-- **An array of the user in a manifest.**  Where the name of an array of the user is substituted
    at the top of a template, its compact text is written, whatever the other layers hold there or
    around it, unless the platform holds a value there or blocks the path. -/
theorem render_of_user_array {d : Definition} {config : Entries Json}
    (hfile : (d.artifacts .options).isEmpty = false) (hconfig : d.mergedConfig = .ok config)
    {key : String} {rest : List String} (hkeys : ∀ k ∈ key :: rest, k ≠ "" ∧ '.' ∉ k.toList)
    {items : List Json} (huser : Config.at? d.userConfig.fields (key :: rest) = some (.arr items))
    (hplatform : ¬ Config.Touches d.platform.values.fields (key :: rest))
    (before after : List Node) :
    Template.render (before ++ .value (join "." (key :: rest)) :: after) (.obj config) =
      Template.render before (.obj config) ++ (Json.arr items).compact ++
        Template.render after (.obj config) := by
  obtain ⟨w, hw, hshown⟩ := at?_mergedConfig_of_user hfile hconfig rfl huser hplatform
  have hresolve : resolve [.obj config] (join "." (key :: rest)) = some w := by
    rw [resolve_join hkeys, List.findSome?_singleton]
    exact hw
  have hwrites : renderNode [.obj config] (.value (join "." (key :: rest))) =
      (Json.arr items).compact := by
    rw [renderNode, hresolve]
    exact hshown.inline
  rw [Template.render, renderNodes_append, renderNodes, hwrites, String.append_assoc]
  rfl

/-! ### Two arrays -/

/-- A definition whose user sets two arrays.  One meets a default, a rendered option and an object
    of the platform, the other comes inside an object that no other layer has. -/
def crowded : Definition where
  name := "kafka"
  version := "1"
  release := "0"
  framework := false
  frameworkName := none
  artifacts
    | .config => Utf8.encode <|
      "\x7b\"properties\":\x7b\"kafka\":\x7b\"type\":\"object\",\"properties\":" ++
      "\x7b\"hosts\":\x7b\"default\":[\"x\"]\x7d\x7d\x7d\x7d\x7d"
    | .options => Utf8.encode "\x7b\"kafka\":\x7b\"hosts\":\"none\"\x7d\x7d"
    | _ => []
  userConfig :=
    let hosts := (∅ : Json.Object).insert "hosts" (.arr [.str "a\"b", .arr [.int 1]])
      ⟨trivial, ⟨trivial, trivial⟩, trivial⟩
    let list := (∅ : Json.Object).insert "list" (.arr [.null, .bool true])
      ⟨trivial, trivial, trivial⟩
    ((∅ : Json.Object).insertObject "kafka" hosts).insertObject "extra" list
  platform := ⟨(∅ : Json.Object).insertObject "kafka" ((∅ : Json.Object).insertText "zone" "z")⟩

/-- Both arrays are written as they are, the quote in the first one escaped once. -/
theorem render_of_user_array_crowded :
    ∃ config, crowded.mergedConfig = .ok config ∧
      Template.render [.text "hosts=", .value "kafka.hosts"] (.obj config) =
        "hosts=[\"a\\\"b\",[1]]" ∧
      Template.render [.value "extra.list", .text "!"] (.obj config) = "[null,true]!" := by
  have hfile : (crowded.artifacts .options).isEmpty = false := by decide +kernel
  have hmerged : (crowded.mergedConfig.toOption.any fun _ => true) = true := by decide +kernel
  obtain ⟨config, hconfig, -⟩ := Action.exists_ok_of_any hmerged
  have hhosts : ¬ Config.Touches crowded.platform.values.fields ["kafka", "hosts"] :=
    fun h => Config.not_touches_of_find? rfl [] ((Config.touches_cons_obj rfl).1 h)
  have hlist : ¬ Config.Touches crowded.platform.values.fields ["extra", "list"] :=
    Config.not_touches_of_find? rfl ["list"]
  have hhostsUser : Config.at? crowded.userConfig.fields ["kafka", "hosts"] =
      some (.arr [.str "a\"b", .arr [.int 1]]) := rfl
  have hlistUser : Config.at? crowded.userConfig.fields ["extra", "list"] =
      some (.arr [.null, .bool true]) := rfl
  have hfirst := render_of_user_array hfile hconfig (by decide +kernel) hhostsUser hhosts
    [.text "hosts="] []
  have hsecond := render_of_user_array hfile hconfig (by decide +kernel) hlistUser hlist
    [] [.text "!"]
  exact ⟨config, hconfig, hfirst, hsecond⟩

end Definition

end ClusterPackages
