import ClusterPackages.Proofs.Deploy.Frameworks
import ClusterPackages.Proofs.Deploy.Provenance

namespace ClusterPackages

open Text

/-!
# The framework of an app that was labelled

The name of the framework may come from the configuration, from the manifest's own label, or from
the foreign label that some manifests have.  An empty label is read as none, but it is copied like
any other.

* `App.frameworkName?_attachProvenance` — the framework that a labelled app registers.
* `Manager.teardownFramework_eq_notAFramework` — an app is passed over if it registers none.
* `App.frameworkName?_of_configured` — when a configured framework is lost.
* `App.not_frameworkName?_of_configured` — an empty foreign label loses it.
-/

namespace App

variable {a b : App} {d : Definition}

/-- The labels of a release leave the label alone by which others name a framework. -/
theorem label?_foreignFrameworkName_attachProvenance (h : a.attachProvenance d = .ok b) :
    b.label? Label.foreignFrameworkName = a.label? Label.foreignFrameworkName := by
  obtain ⟨steps, -, hlabels⟩ := label?_attachProvenance h
  rw [hlabels _ (by decide) (by decide), label?_withRelease_of_not_mem (by decide)]

/-- Of the two labels that may name the framework, the first one with a value counts. -/
theorem frameworkName?_eq (a : App) :
    a.frameworkName? = ((a.label? Label.frameworkName).filter (fun value => !value.isEmpty)).or
      ((a.label? Label.foreignFrameworkName).filter fun value => !value.isEmpty) := by
  unfold frameworkName?
  rw [List.findSome?_cons, List.findSome?_cons, List.findSome?_nil]
  cases (a.label? Label.frameworkName).filter fun value => !value.isEmpty with
  | some name => rfl
  | none => cases (a.label? Label.foreignFrameworkName).filter fun value => !value.isEmpty <;> rfl

/-- The first label that is there gives the name, and an empty one gives none. -/
theorem frameworkName?_attachProvenance (h : a.attachProvenance d = .ok b) :
    b.frameworkName? = (a.label? Label.foreignFrameworkName <|> d.frameworkName <|>
      a.label? Label.frameworkName).filter fun value => !value.isEmpty := by
  rw [frameworkName?_eq, label?_frameworkName_attachProvenance h,
    label?_foreignFrameworkName_attachProvenance h]
  cases a.label? Label.foreignFrameworkName with
  | none => exact Option.or_none
  | some foreign =>
    -- The foreign label has been copied, so either both labels have a value or none has.
    exact Option.or_self

end App

namespace Manager

variable {σ : Type} (m : Manager σ)

/-- An app is passed over exactly if it registers no framework; else the state of the cluster is
    asked for, and every outcome but an error names the framework. -/
theorem teardownFramework_eq_notAFramework (a : App) (s : σ) :
    (m.teardownFramework a s).1 = .ok .notAFramework ↔ a.frameworkName? = none := by
  cases hname : a.frameworkName? with
  | none =>
    rw [m.teardownFramework_none hname]
    exact iff_of_true rfl rfl
  | some name =>
    refine iff_of_false (fun h => ?_) (fun h => nomatch h)
    rcases hstate : m.services.resources.state s with ⟨e | state, t⟩
    · rw [m.teardownFramework_unread hname hstate] at h
      cases h
    · rw [m.teardownFramework_read hname hstate] at h
      -- One framework has the name, or none, or several.
      generalize state.named name = found at h
      cases found with
      | nil => cases h
      | cons f rest =>
        cases rest with
        | nil =>
          obtain ⟨u, -, h⟩ := Action.bind_eq_ok h
          cases h
        | cons g rest => cases h

end Manager

namespace App

variable {a b : App} {d : Definition}

/-- **When a configured framework is lost.**  An app that is labelled for a definition with a
    framework name registers the framework of its foreign label, or that of the definition if it has
    no such label.  Only an empty foreign label makes it register none; exactly then the framework
    is passed over when the app is removed. -/
theorem frameworkName?_of_configured (h : a.attachProvenance d = .ok b) {name : String}
    (hname : d.frameworkName = some name) (hfilled : name ≠ "") :
    (a.label? Label.foreignFrameworkName = none → b.frameworkName? = some name) ∧
    (∀ foreign, a.label? Label.foreignFrameworkName = some foreign → foreign ≠ "" →
      b.frameworkName? = some foreign) ∧
    (b.frameworkName? = none ↔ a.label? Label.foreignFrameworkName = some "") ∧
    ∀ {σ : Type} (m : Manager σ) (s : σ),
      (m.teardownFramework b s).1 = .ok .notAFramework ↔
        a.label? Label.foreignFrameworkName = some "" := by
  have hread : ∀ {value : String}, value ≠ "" →
      (some value).filter (fun value => !value.isEmpty) = some value := by
    intro value hvalue
    simp [hvalue]
  have hregistered := frameworkName?_attachProvenance h
  rw [hname] at hregistered
  have hlost : b.frameworkName? = none ↔ a.label? Label.foreignFrameworkName = some "" := by
    rw [hregistered]
    cases a.label? Label.foreignFrameworkName with
    | none => exact iff_of_false (fun hnone => nomatch (hread hfilled).symm.trans hnone) nofun
    | some foreign =>
      rw [Option.some.injEq]
      constructor
      · intro hnone
        by_cases hempty : foreign = ""
        · exact hempty
        · cases (hread hempty).symm.trans hnone
      · rintro rfl
        rfl
  refine ⟨fun hnone => ?_, fun foreign hforeign hvalue => ?_, hlost,
    fun m s => (m.teardownFramework_eq_notAFramework b s).trans hlost⟩
  · rw [hregistered, hnone]
    exact hread hfilled
  · rw [hregistered, hforeign]
    exact hread hvalue

/-- A definition without files, for a framework. -/
def bareFramework : Definition :=
  ⟨"kafka", "1", "0", true, some "kafka", fun _ => [], ∅, .empty⟩

/-- A manifest that sets a label to the empty text. -/
def blankManifest (label : String) : String :=
  "\x7b\"labels\":\x7b\"" ++ label ++ "\":\"\"\x7d\x7d"

/-- An app whose own label is empty registers the configured framework. -/
theorem frameworkName?_of_configured_blank :
    ∃ a b, ofManifest (blankManifest Label.frameworkName) = .ok a ∧
      a.attachProvenance bareFramework = .ok b ∧ bareFramework.frameworkName = some "kafka" ∧
      "kafka" ≠ "" ∧ a.label? Label.frameworkName = some "" ∧ b.frameworkName? = some "kafka" := by
  have hany : ((ofManifest (blankManifest Label.frameworkName)).toOption.any fun a =>
      a.label? Label.frameworkName == some "" && a.label? Label.foreignFrameworkName == none &&
        (a.attachProvenance bareFramework).toOption.any fun _ => true) = true := by decide +kernel
  obtain ⟨a, ha, hlabels⟩ := Action.exists_ok_of_any hany
  simp only [Bool.and_eq_true, beq_iff_eq] at hlabels
  obtain ⟨⟨hown, hforeign⟩, hattached⟩ := hlabels
  obtain ⟨b, hb, -⟩ := Action.exists_ok_of_any hattached
  obtain ⟨hconfigured, -⟩ :=
    frameworkName?_of_configured hb (show bareFramework.frameworkName = some "kafka" from rfl)
      (by decide)
  exact ⟨a, b, ha, hb, rfl, by decide, hown, hconfigured hforeign⟩

/-- An empty foreign label in the manifest loses the configured framework. -/
theorem not_frameworkName?_of_configured :
    ¬ ∀ (manifest : String) (a b : App) (d : Definition) (name : String),
      ofManifest manifest = .ok a → d.frameworkName = some name → name ≠ "" →
      a.attachProvenance d = .ok b → b.frameworkName?.isSome = true := by
  intro hall
  have hany : ((ofManifest (blankManifest Label.foreignFrameworkName)).toOption.any fun a =>
      (a.attachProvenance bareFramework).toOption.any fun b =>
        b.frameworkName? == none) = true := by decide +kernel
  obtain ⟨a, ha, hattached⟩ := Action.exists_ok_of_any hany
  obtain ⟨b, hb, hnone⟩ := Action.exists_ok_of_any hattached
  have hsome := hall _ a b bareFramework "kafka" ha rfl (by decide) hb
  rw [beq_iff_eq.1 hnone] at hsome
  cases hsome

end App

end ClusterPackages
