import ClusterPackages.Proofs.Config.Layers
import ClusterPackages.Proofs.Template.Leaves

namespace ClusterPackages

open Text Template

/-!
# The platform's values in a manifest

The platform has the last word in the merged configuration.  A manifest, however, looks a name up
in the values of the sections around it before it turns to the configuration, and those values may
be the user's.

* `Definition.at?_mergedConfig` — the merged configuration holds every scalar of the platform.
* `Definition.manifest_of_platform` — a manifest writes such a scalar wherever no section around
  has the first key of its path.
* `Definition.not_manifest_of_platform` — in a section that has it, the user's value is written.
-/

namespace Definition

/-- The merged configuration holds every scalar of the platform. -/
theorem at?_mergedConfig {d : Definition} {config : Entries Json}
    (hfile : (d.artifacts .options).isEmpty = false) (hconfig : d.mergedConfig = .ok config)
    {p : List String} {v : Json} (hv : Config.IsScalar v)
    (hplatform : Config.at? d.platform.values.fields p = some v) :
    Config.at? config p = some v := by
  obtain ⟨defaults, rendered, -, -, rfl⟩ := mergedConfig_eq_ok hfile hconfig
  have hoptions : Config.at? (Config.merge (Config.merge rendered.fields d.userConfig.fields)
      d.platform.values.fields) p = some v :=
    Config.at?_merge_of_scalar d.platform.values.ordered hplatform hv
  exact Config.at?_merge_of_scalar Config.ordered_options hoptions hv

/-- The manifest of a definition is its template, rendered with the merged configuration. -/
theorem manifest_eq_render {d : Definition} {config : Entries Json}
    (hconfig : d.mergedConfig = .ok config) {source : String}
    (hsource : d.text .manifest = .ok source) {nodes : List Node}
    (hnodes : Template.parse source = .ok nodes) :
    d.manifest = .ok (Template.render nodes (.obj config)) := by
  have hfile : Template.renderFile .manifest source config =
      .ok (Template.render nodes (.obj config)) := by
    rw [Template.renderFile, hnodes]
  unfold manifest render
  rw [hconfig, hsource]
  exact hfile

/-- **The platform's values in a manifest.**  A manifest is written part by part, each part among
    the values of the sections around it, the innermost first.  Where the name of a scalar of the
    platform is substituted, that scalar is written, unless one of those values has a field with
    the first key of the name, and the first of them to have one holds something else along the
    keys.  It does not matter what the user configures. -/
theorem manifest_of_platform {d : Definition} {config : Entries Json}
    (hfile : (d.artifacts .options).isEmpty = false) (hconfig : d.mergedConfig = .ok config)
    {source : String} (hsource : d.text .manifest = .ok source) {nodes : List Node}
    (hnodes : Template.parse source = .ok nodes) {key : String} {rest : List String}
    (hkeys : ∀ k ∈ key :: rest, k ≠ "" ∧ '.' ∉ k.toList) {v : Json} (hv : Config.IsScalar v)
    (hplatform : Config.at? d.platform.values.fields (key :: rest) = some v) :
    d.manifest = .ok (concat ((leaves [.obj config] nodes).map leafText)) ∧
      ∀ contexts, (contexts, .value (join "." (key :: rest))) ∈ leaves [.obj config] nodes →
        ∃ sections, contexts = sections ++ [.obj config] ∧
          ((∀ x, sections.findSome? (·.get? key) = some x → Json.at? rest x = some v) →
            leafText (contexts, .value (join "." (key :: rest))) = v.inline) := by
  refine ⟨?_, fun contexts hleaf => ?_⟩
  · rw [manifest_eq_render hconfig hsource hnodes, render_eq_concat]
  · obtain ⟨sections, hsections⟩ := contexts_of_mem_leaves hleaf
    refine ⟨sections, hsections.symm, fun hsame => ?_⟩
    -- Where the sections have nothing to say about the name, the configuration is asked.
    have hresolve : resolve (sections ++ [.obj config]) (join "." (key :: rest)) = some v :=
      resolve_join_append hkeys hsame (at?_mergedConfig hfile hconfig hv hplatform)
    rw [hsections] at hresolve
    rw [leafText, renderNode, hresolve, Option.elim_some]

/-! ### A section of the user -/

/-- A definition with a value of the platform, which its manifest substitutes in two sections; the
    user gives the value of the second one a field of the same name. -/
def sectioned : Definition where
  name := "kafka"
  version := "1"
  release := "0"
  framework := false
  frameworkName := none
  artifacts
    | .options => Utf8.encode "\x7b\x7d"
    | .manifest => Utf8.encode <|
      "\x7b\x7b#broker\x7d\x7d\x7b\x7bmantl.principal\x7d\x7d\x7b\x7b/broker\x7d\x7d " ++
      "\x7b\x7b#kafka\x7d\x7d\x7b\x7bmantl.principal\x7d\x7d\x7b\x7b/kafka\x7d\x7d"
    | _ => []
  userConfig :=
    let own := (∅ : Json.Object).insertObject "mantl"
      ((∅ : Json.Object).insertText "principal" "mallory")
    ((∅ : Json.Object).insertObject "kafka" own).insertObject "broker"
      ((∅ : Json.Object).insertText "id" "1")
  platform := ⟨(∅ : Json.Object).insertObject "mantl"
    ((∅ : Json.Object).insertText "principal" "mantl-api")⟩

/-- Whether a part substitutes the value of the platform in a section, and whether the value of the
    section has a field of that name. -/
def substitutes (hidden : Bool) : List Json × Node → Bool
  | ([c, _], .value name) => name == "mantl.principal" && (c.get? "mantl").isSome == hidden
  | _ => false

/-- What the check says of a part of a template holds of it. -/
theorem eq_of_substitutes {hidden : Bool} {leaf : List Json × Node}
    (h : substitutes hidden leaf = true) :
    ∃ c root, leaf = ([c, root], .value "mantl.principal") ∧ (c.get? "mantl").isSome = hidden := by
  unfold substitutes at h
  split at h
  · rename_i c root name
    obtain ⟨hname, hhidden⟩ := Bool.and_eq_true_iff.1 h
    cases beq_iff_eq.1 hname
    exact ⟨c, root, rfl, beq_iff_eq.1 hhidden⟩
  · cases h

/-- A part of its manifest that passes a test, with all that leads to it. -/
theorem exists_leaf_sectioned {test : List Json × Node → Bool}
    (h : (sectioned.mergedConfig.toOption.any fun config =>
      (sectioned.text .manifest).toOption.any fun source =>
        (Template.parse source).toOption.any fun nodes =>
          (leaves [.obj config] nodes).any test) = true) :
    ∃ config source nodes leaf, sectioned.mergedConfig = .ok config ∧
      sectioned.text .manifest = .ok source ∧ Template.parse source = .ok nodes ∧
      leaf ∈ leaves [.obj config] nodes ∧ test leaf = true := by
  obtain ⟨config, hconfig, h⟩ := Action.exists_ok_of_any h
  obtain ⟨source, hsource, h⟩ := Action.exists_ok_of_any h
  obtain ⟨nodes, hnodes, h⟩ := Action.exists_ok_of_any h
  obtain ⟨leaf, hleaf, htest⟩ := List.any_eq_true.1 h
  exact ⟨config, source, nodes, leaf, hconfig, hsource, hnodes, hleaf, htest⟩

/-- The first section writes the value of the platform. -/
theorem manifest_of_platform_sectioned :
    ∃ config source nodes c, sectioned.mergedConfig = .ok config ∧
      sectioned.text .manifest = .ok source ∧ Template.parse source = .ok nodes ∧
      sectioned.manifest = .ok (concat ((leaves [.obj config] nodes).map leafText)) ∧
      ([c, .obj config], .value "mantl.principal") ∈ leaves [.obj config] nodes ∧
      leafText ([c, .obj config], .value "mantl.principal") = "mantl-api" := by
  have hany : (sectioned.mergedConfig.toOption.any fun config =>
      (sectioned.text .manifest).toOption.any fun source =>
        (Template.parse source).toOption.any fun nodes =>
          (leaves [.obj config] nodes).any (substitutes false)) = true := by decide +kernel
  obtain ⟨config, source, nodes, leaf, hconfig, hsource, hnodes, hleaf, htest⟩ :=
    exists_leaf_sectioned hany
  obtain ⟨c, root, rfl, hspared⟩ := eq_of_substitutes htest
  have hfile : (sectioned.artifacts .options).isEmpty = false := by decide +kernel
  have hkeys : ∀ k ∈ ["mantl", "principal"], k ≠ "" ∧ '.' ∉ k.toList := by decide +kernel
  have hplatform : Config.at? sectioned.platform.values.fields ["mantl", "principal"] =
      some (.str "mantl-api") := rfl
  obtain ⟨hmanifest, htext⟩ := manifest_of_platform hfile hconfig hsource hnodes hkeys
    (v := .str "mantl-api") trivial hplatform
  obtain ⟨sections, hcontexts, hwrites⟩ := htext [c, root] hleaf
  -- The one section is that of the user, and the rest is the configuration.
  have happend : [c] ++ [root] = sections ++ [.obj config] := hcontexts
  obtain ⟨rfl, hroot⟩ := List.append_inj' happend rfl
  cases hroot
  have hnone : [c].findSome? (·.get? "mantl") = none := by
    rw [List.findSome?_singleton]
    simpa using hspared
  exact ⟨config, source, nodes, c, hconfig, hsource, hnodes, hmanifest, hleaf,
    hwrites fun x hx => by rw [hnone] at hx; cases hx⟩

/-- The second section writes the value of the user. -/
theorem not_manifest_of_platform :
    ¬ ∀ (d : Definition) (config : Entries Json) (source : String) (nodes : List Node)
      (key : String) (rest : List String) (v : Json),
      (d.artifacts .options).isEmpty = false → d.mergedConfig = .ok config →
      d.text .manifest = .ok source → Template.parse source = .ok nodes →
      (∀ k ∈ key :: rest, k ≠ "" ∧ '.' ∉ k.toList) → Config.IsScalar v →
      Config.at? d.platform.values.fields (key :: rest) = some v →
      ∀ contexts, (contexts, .value (join "." (key :: rest))) ∈ leaves [.obj config] nodes →
        leafText (contexts, .value (join "." (key :: rest))) = v.inline := by
  intro hall
  have hany : (sectioned.mergedConfig.toOption.any fun config =>
      (sectioned.text .manifest).toOption.any fun source =>
        (Template.parse source).toOption.any fun nodes =>
          (leaves [.obj config] nodes).any fun leaf =>
            substitutes true leaf && leafText leaf == "mallory") = true := by decide +kernel
  obtain ⟨config, source, nodes, leaf, hconfig, hsource, hnodes, hleaf, htest⟩ :=
    exists_leaf_sectioned hany
  obtain ⟨hhidden, htext⟩ := Bool.and_eq_true_iff.1 htest
  obtain ⟨c, root, rfl, -⟩ := eq_of_substitutes hhidden
  have hwrites := hall sectioned config source nodes "mantl" ["principal"] (.str "mantl-api")
    (by decide +kernel) hconfig hsource hnodes (by decide +kernel) trivial rfl [c, root] hleaf
  have hother : leafText ([c, root], .value "mantl.principal") = "mallory" := beq_iff_eq.1 htext
  have hboth : "mantl-api" = "mallory" := hwrites.symm.trans hother
  exact absurd hboth (by decide)

end Definition

end ClusterPackages
