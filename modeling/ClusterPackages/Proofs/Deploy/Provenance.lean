import ClusterPackages.Deploy.Provenance
import ClusterPackages.Proofs.Action
import ClusterPackages.Proofs.Table
import ClusterPackages.Proofs.Text.Blank

namespace ClusterPackages

open Text

/-!
# What labels and ids say

* `normalizeId_idem` — an id in the form of the scheduler is in that form already.
* `App.attachProvenance_id` — an app that is labelled keeps its id.
* `App.Carries` — the labels that say which release an app came from; an app that is labelled has
  them, whatever its manifest says (`App.attachProvenance_carries`).
* `App.withoutLabel` — an app that has lost a label; all other labels stay.
-/

/-! ### Ids -/

/-- An id in its normal form starts with a slash and has no blanks around it. -/
theorem toList_normalizeId (id : String) : ∃ rest, (normalizeId id).toList = '/' :: rest ∧
    Trimmed ('/' :: rest) := by
  have htrimmed := trimmed_trimChars id.toList
  unfold normalizeId
  by_cases hslash : startsWith "/" (trim id) = true
  · rw [if_pos hslash]
    rw [startsWith_slash, toList_trim] at hslash
    obtain ⟨rest, hrest⟩ := List.head?_eq_some_iff.mp hslash
    exact ⟨rest, by rw [toList_trim, hrest], hrest ▸ htrimmed⟩
  · rw [if_neg hslash]
    refine ⟨trimChars id.toList, by simp, fun c hc => ?_, fun c hc => ?_⟩
    · cases hc
      decide
    · -- The slash is the last character only if nothing follows it.
      cases ht : trimChars id.toList with
      | nil =>
        rw [ht] at hc
        cases hc
        decide
      | cons d rest =>
        rw [ht, List.getLast?_cons_cons, ← ht] at hc
        exact htrimmed.last c hc

/-- An id in the form of the scheduler is in that form already. -/
@[simp]
theorem normalizeId_idem (id : String) : normalizeId (normalizeId id) = normalizeId id := by
  obtain ⟨rest, hrest, htrimmed⟩ := toList_normalizeId id
  have htrim : trim (normalizeId id) = normalizeId id := trim_of_trimmed (hrest ▸ htrimmed)
  rw [normalizeId, htrim, if_pos ((startsWith_slash _).mpr (by rw [hrest]; rfl))]

/-- An id in its normal form is never blank. -/
theorem allBlank_normalizeId (id : String) : allBlank (normalizeId id) = false := by
  obtain ⟨rest, hrest, -⟩ := toList_normalizeId id
  have hslash : isBlank '/' = false := by decide
  simp [allBlank, hrest, hslash]

/-! ### Labels -/

/-- The labels that say which release an app came from. -/
def Label.ofRelease : List String :=
  [packageName, packageVersion, packageRelease, isFramework, cleanup]

/-- Where the cleanup steps can be rendered, it can be told how the app is reached: both hang on the
    merged configuration. -/
theorem Definition.loadBalancer_of_uninstall {d : Definition} {steps : String}
    (h : d.uninstall = .ok steps) : ∃ exposure, d.loadBalancer = .ok exposure := by
  obtain ⟨config, hconfig, -⟩ := Action.except_bind_eq_ok.1 h
  exact ⟨_, congrArg (Except.map _) hconfig⟩

namespace App

variable {a b : App} {d : Definition}

@[simp]
theorem withLabel_id (name value : String) : (a.withLabel name value).id = a.id := rfl

/-- A label that was set is there. -/
theorem label?_withLabel_self (name value : String) :
    (a.withLabel name value).label? name = some value := Entries.find?_insert_self

/-- Setting a label leaves the other labels alone. -/
theorem label?_withLabel_of_ne {name name' : String} (h : name' ≠ name) (value : String) :
    (a.withLabel name value).label? name' = a.label? name' := Entries.find?_insert_of_ne h

@[simp]
theorem withLabel_rest (name value : String) : (a.withLabel name value).rest = a.rest := rfl

@[simp]
theorem withLabel?_rest (name : String) (value : Option String) :
    (a.withLabel? name value).rest = a.rest := by
  cases value with
  | none => rfl
  | some value => rfl

@[simp]
theorem withLabel?_id (name : String) (value : Option String) :
    (a.withLabel? name value).id = a.id := by
  cases value with
  | none => rfl
  | some value => rfl

/-- A label is what was set, or else what it was before. -/
theorem label?_withLabel?_self (name : String) (value : Option String) :
    (a.withLabel? name value).label? name = (value <|> a.label? name) := by
  cases value with
  | none => rfl
  | some value => exact label?_withLabel_self name value

theorem label?_withLabel?_of_ne {name name' : String} (h : name' ≠ name) (value : Option String) :
    (a.withLabel? name value).label? name' = a.label? name' := by
  cases value with
  | none => rfl
  | some value => exact label?_withLabel_of_ne h value

/-- What is labelled: the labels of the release, the name of the framework and the exposure. -/
theorem attachProvenance_eq (h : a.attachProvenance d = .ok b) :
    ∃ steps exposure, d.uninstall = .ok steps ∧ d.loadBalancer = .ok exposure ∧
      let released := (a.withRelease d steps).withLabel? Label.frameworkName d.frameworkName
      b = (released.withLabel? Label.frameworkName
        (released.label? Label.foreignFrameworkName)).withLabel Label.exposed
          (boolLabel (exposure == "external")) := by
  -- The labels are set only if the cleanup steps can be rendered.
  unfold attachProvenance at h
  cases hsteps : d.uninstall with
  | error e =>
    rw [hsteps] at h
    cases h
  | ok steps =>
    obtain ⟨exposure, hexposure⟩ := Definition.loadBalancer_of_uninstall hsteps
    rw [hsteps] at h
    simp only [hexposure] at h
    cases h
    exact ⟨steps, exposure, rfl, hexposure, rfl⟩

/-- The labels of a release leave every other label alone. -/
theorem label?_withRelease_of_not_mem {name : String} (h : name ∉ Label.ofRelease)
    (steps : String) : (a.withRelease d steps).label? name = a.label? name := by
  simp only [Label.ofRelease, List.mem_cons, not_or] at h
  obtain ⟨hname, hversion, hrelease, hframework, hcleanup, -⟩ := h
  rw [withRelease, label?_withLabel_of_ne hcleanup, label?_withLabel_of_ne hframework,
    label?_withLabel_of_ne hrelease, label?_withLabel_of_ne hversion, label?_withLabel_of_ne hname]

/-- The labels of its provenance do not change the id of an app. -/
theorem attachProvenance_id (h : a.attachProvenance d = .ok b) : b.id = a.id := by
  obtain ⟨steps, exposure, -, -, rfl⟩ := attachProvenance_eq h
  simp [withRelease]

/-- Labels other than the name of the framework and the exposure are those of the release. -/
theorem label?_attachProvenance (h : a.attachProvenance d = .ok b) :
    ∃ steps, d.uninstall = .ok steps ∧ ∀ name, name ≠ Label.frameworkName → name ≠ Label.exposed →
      b.label? name = (a.withRelease d steps).label? name := by
  obtain ⟨steps, exposure, hsteps, -, rfl⟩ := attachProvenance_eq h
  refine ⟨steps, hsteps, fun name hframework hexposed => ?_⟩
  rw [label?_withLabel_of_ne hexposed, label?_withLabel?_of_ne hframework,
    label?_withLabel?_of_ne hframework]

/-- The name of the framework: the foreign label of the manifest wins over the configuration, and
    this over the manifest's own label. -/
theorem label?_frameworkName_attachProvenance (h : a.attachProvenance d = .ok b) :
    b.label? Label.frameworkName = (a.label? Label.foreignFrameworkName <|> d.frameworkName <|>
      a.label? Label.frameworkName) := by
  obtain ⟨steps, exposure, -, -, rfl⟩ := attachProvenance_eq h
  -- The foreign label is that of the manifest, since no other label was set under its name.
  rw [label?_withLabel_of_ne (by decide), label?_withLabel?_self, label?_withLabel?_self,
    label?_withLabel?_of_ne (by decide), label?_withRelease_of_not_mem (by decide),
    label?_withRelease_of_not_mem (by decide)]

/-- The labels of the app say that it came from the release of the definition. -/
structure Carries (a : App) (d : Definition) : Prop where
  /-- The name of the package. -/
  name : a.label? Label.packageName = some d.name
  /-- The version. -/
  version : a.label? Label.packageVersion = some d.version
  /-- The release. -/
  release : a.label? Label.packageRelease = some d.release
  /-- Whether the package is a framework. -/
  framework : a.label? Label.isFramework = some (boolLabel d.framework)
  /-- The steps that follow the removal. -/
  cleanup : ∃ steps, d.uninstall = .ok steps ∧
    a.label? Label.cleanup = some (Base64.encode (Utf8.encode steps))

/-- An app that is labelled has the labels of the release, whatever it had before. -/
theorem attachProvenance_carries (h : a.attachProvenance d = .ok b) : b.Carries d := by
  obtain ⟨steps, hsteps, hlabels⟩ := label?_attachProvenance h
  -- Each label outlasts those that are set after it, since these have other names.
  constructor
  case name =>
    rw [hlabels _ (by decide) (by decide), withRelease, label?_withLabel_of_ne (by decide),
      label?_withLabel_of_ne (by decide), label?_withLabel_of_ne (by decide),
      label?_withLabel_of_ne (by decide), label?_withLabel_self]
  case version =>
    rw [hlabels _ (by decide) (by decide), withRelease, label?_withLabel_of_ne (by decide),
      label?_withLabel_of_ne (by decide), label?_withLabel_of_ne (by decide),
      label?_withLabel_self]
  case release =>
    rw [hlabels _ (by decide) (by decide), withRelease, label?_withLabel_of_ne (by decide),
      label?_withLabel_of_ne (by decide), label?_withLabel_self]
  case framework =>
    rw [hlabels _ (by decide) (by decide), withRelease, label?_withLabel_of_ne (by decide),
      label?_withLabel_self]
  case cleanup =>
    exact ⟨steps, hsteps, by
      rw [hlabels _ (by decide) (by decide), withRelease, label?_withLabel_self]⟩

/-! ### Lost labels -/

/-- The app without a label. -/
def withoutLabel (a : App) (name : String) : App := { a with labels := a.labels.erase name }

@[simp]
theorem withoutLabel_id (name : String) : (a.withoutLabel name).id = a.id := rfl

/-- A label that was taken off is not there. -/
theorem label?_withoutLabel_self (name : String) : (a.withoutLabel name).label? name = none :=
  Entries.find?_erase_self name a.labels.entries

theorem label?_withoutLabel_of_ne {name name' : String} (h : name' ≠ name) :
    (a.withoutLabel name).label? name' = a.label? name' :=
  Entries.find?_erase_of_ne h a.labels.entries

/-- The framework that an app registers does not hang on other labels. -/
theorem frameworkName?_withoutLabel {name : String} (h : name ≠ Label.frameworkName)
    (hforeign : name ≠ Label.foreignFrameworkName) :
    (a.withoutLabel name).frameworkName? = a.frameworkName? := by
  unfold frameworkName?
  simp only [List.findSome?_cons, List.findSome?_nil, label?_withoutLabel_of_ne h.symm,
    label?_withoutLabel_of_ne hforeign.symm]

end App

end ClusterPackages
