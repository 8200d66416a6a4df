import ClusterPackages.Proofs.Catalog.Resolution

namespace ClusterPackages

open Text

/-!
# What the current version stands for

When the support of a package is settled, the current version may become the name of the most recent
supported version.  A name is read up to blanks and case, and stands for the version with the
smallest key; that may be another version, which is not supported, or none.

* `Package.NamesSupported` — a name stands for a supported version.
* `Package.Latest.exists_iff` — what holds of some most recent supported version holds of the one.
* `Package.refreshSupport_cases` — what becomes of the current version.
* `Package.refreshSupport_current` — when the current version stands for a supported version, and
  when a supported version is taken without further advice.
* `Package.not_refreshSupport_current` — neither need be the case although a version is supported.
-/

namespace Package

variable {p : Package}

/-- Where no two entries come before each other, one entry at most comes before all others. -/
theorem Least.unique {r : String × Version → String × Version → Prop}
    (hasymm : ∀ e f, r e f → ¬ r f e) {test : Version → Bool} {e f : String × Version}
    (he : p.Least r test e) (hf : p.Least r test f) : e = f := by
  rcases he.least f hf.mem hf.passes with rfl | hef
  · rfl
  · rcases hf.least e he.mem he.passes with rfl | hfe
    · rfl
    · exact absurd hfe (hasymm e f hef)

/-- The name stands for a supported version. -/
def NamesSupported (p : Package) (name : String) : Prop :=
  ∃ e, p.Denotes name e ∧ e.2.supported = true

/-- A name stands for a supported version when the version that it stands for is supported. -/
theorem namesSupported_iff {name : String} :
    p.NamesSupported name ↔ ∃ v, p.version? name = some v ∧ v.supported = true := by
  constructor
  · rintro ⟨⟨key, v⟩, hdenotes, hsupported⟩
    exact ⟨v, version?_eq_some.2 ⟨key, hdenotes⟩, hsupported⟩
  · rintro ⟨v, hv, hsupported⟩
    obtain ⟨key, hdenotes⟩ := version?_eq_some.1 hv
    exact ⟨(key, v), hdenotes, hsupported⟩

/-- A package with an entry whose version is supported has a supported version. -/
theorem hasSupported_of_mem {e : String × Version} (he : e ∈ p.versions.entries)
    (h : e.2.supported = true) : p.hasSupported = true :=
  p.hasSupported_iff.2 ⟨e.2, List.mem_map_of_mem he, h⟩

/-- A name that stands for an unsupported version stands for no supported one, and conversely. -/
theorem namesSupported_or_none {name : String} :
    (p.NamesSupported name ∨ ∀ v ∈ p.versions.values, v.isNamed name = false) ↔
      ∀ f, p.Denotes name f → f.2.supported = true := by
  constructor
  · rintro (⟨e, he, hsupported⟩ | hnone) f hf
    · exact he.unique keyBefore_asymm hf ▸ hsupported
    · have hnot := hnone f.2 hf.mem_values
      rw [hf.passes] at hnot
      cases hnot
  · intro hall
    cases hversion : p.version? name with
    | none => exact .inr (version?_eq_none.1 hversion)
    | some u =>
      obtain ⟨key, hu⟩ := version?_eq_some.1 hversion
      exact .inl ⟨(key, u), hu, hall _ hu⟩

/-- Where a version is supported there is a most recent one. -/
theorem exists_latest (h : p.hasSupported = true) : ∃ e, p.Latest (·.supported) e := by
  obtain ⟨v, hv, hsupported⟩ := p.hasSupported_iff.1 h
  cases hlatest : p.latestSupported? with
  | none => exact absurd (latestSupported?_eq_none.1 hlatest v hv) (by simp [hsupported])
  | some w =>
    obtain ⟨key, hw⟩ := latestSupported?_eq_some.1 hlatest
    exact ⟨(key, w), hw⟩

/-- Where no version is supported, none is the most recent supported one. -/
theorem not_exists_latest {P : String × Version → Prop} (h : p.hasSupported = false) :
    ¬ ∃ e, p.Latest (·.supported) e ∧ P e := by
  rintro ⟨e, he, -⟩
  cases h.symm.trans (hasSupported_of_mem he.mem he.passes)

/-- What holds of some most recent supported version holds of a given one, as there is one only. -/
theorem Latest.exists_iff {P : String × Version → Prop} {e : String × Version}
    (he : p.Latest (·.supported) e) : (∃ f, p.Latest (·.supported) f ∧ P f) ↔ P e := by
  constructor
  · rintro ⟨f, hf, h⟩
    exact he.unique moreRecent_asymm hf ▸ h
  · exact fun h => ⟨e, he, h⟩

/-- The current version stays if no version is supported, or if it stands for a supported one;
    otherwise it becomes the name of the most recent supported version. -/
theorem refreshSupport_cases (p : Package) :
    (p.hasSupported = false ∧ p.refreshSupport.currentVersion = p.currentVersion) ∨
    (p.NamesSupported p.currentVersion ∧ p.refreshSupport.currentVersion = p.currentVersion) ∨
    (p.hasSupported = true ∧ ¬ p.NamesSupported p.currentVersion ∧
      ∃ e, p.Latest (·.supported) e ∧ p.refreshSupport.currentVersion = e.2.name) := by
  cases hsome : p.hasSupported with
  | false => exact .inl ⟨rfl, p.currentVersion_kept (.inl hsome)⟩
  | true =>
    by_cases hnames : p.NamesSupported p.currentVersion
    · exact .inr (.inl ⟨hnames, p.currentVersion_kept (.inr (namesSupported_iff.1 hnames))⟩)
    · have hunsupported : ∀ v, p.version? p.currentVersion = some v → v.supported = false := by
        intro v hv
        refine Bool.eq_false_iff.2 fun hsupported => hnames ?_
        exact namesSupported_iff.2 ⟨v, hv, hsupported⟩
      obtain ⟨v, hlatest, hname⟩ := p.currentVersion_moved hsome hunsupported
      obtain ⟨key, hv⟩ := latestSupported?_eq_some.1 hlatest
      exact .inr (.inr ⟨rfl, hnames, (key, v), hv, hname⟩)

/-- Without further advice a supported version is taken if the current version stands for one, or if
    it stands for none and a version is supported. -/
theorem find?_none_supported :
    (∃ v, p.find? none = some v ∧ v.supported = true) ↔ p.NamesSupported p.currentVersion ∨
      (∀ v ∈ p.versions.values, v.isNamed p.currentVersion = false) ∧ p.hasSupported = true := by
  constructor
  · rintro ⟨v, hfind, hsupported⟩
    obtain ⟨key, hchosen⟩ := find?_eq_some.1 hfind
    cases hchosen with
    | requested name hname hfound => cases hname
    | current hunmet hfound => exact .inl ⟨(key, v), hfound, hsupported⟩
    | supported hunmet hcurrent hfound =>
      exact .inr ⟨hcurrent, p.hasSupported_iff.2 ⟨v, hfound.mem_values, hsupported⟩⟩
    | any hunmet hcurrent hsupported' hfound =>
      exact .inr ⟨hcurrent, p.hasSupported_iff.2 ⟨v, hfound.mem_values, hsupported⟩⟩
  · rintro (⟨⟨key, v⟩, hdenotes, hsupported⟩ | ⟨hnone, hsome⟩)
    · exact ⟨v, find?_eq_some.2 ⟨key, .current (fun _ h => nomatch h) hdenotes⟩, hsupported⟩
    · obtain ⟨⟨key, v⟩, hlatest⟩ := exists_latest hsome
      exact ⟨v, find?_eq_some.2 ⟨key, .supported (fun _ h => nomatch h) hnone hlatest⟩,
        hlatest.passes⟩

/-! ### After the support has been settled -/

variable (p)

/-- Settling the support keeps whether some version is supported. -/
theorem hasSupported_refreshSupport : p.refreshSupport.hasSupported = p.hasSupported := by
  rw [hasSupported, hasSupported, supportedVersions, supportedVersions, versions_refreshSupport]

variable {p}

/-- Settling the support keeps which names stand for supported versions. -/
theorem namesSupported_refreshSupport {name : String} :
    p.refreshSupport.NamesSupported name ↔ p.NamesSupported name := by
  rw [namesSupported_iff, namesSupported_iff, version?, version?, versions_refreshSupport]

/-- The current version stands for a supported version if it did so before, or if the name of the
    most recent supported version does. -/
theorem currentVersion_namesSupported :
    p.NamesSupported p.refreshSupport.currentVersion ↔ p.NamesSupported p.currentVersion ∨
      ∃ e, p.Latest (·.supported) e ∧ p.NamesSupported e.2.name := by
  rcases p.refreshSupport_cases with ⟨hnone, hcurrent⟩ | ⟨hnames, hcurrent⟩ |
    ⟨-, hnames, e, he, hcurrent⟩
  · rw [hcurrent, or_iff_left (not_exists_latest hnone)]
  · rw [hcurrent]
    exact ⟨.inl, fun _ => hnames⟩
  · rw [hcurrent, or_iff_right hnames, he.exists_iff]

/-- A supported version is taken without further advice if the current version stood for one, or if
    the name of the most recent supported version stands for none that is not. -/
theorem find?_none_refreshSupport :
    (∃ v, p.refreshSupport.find? none = some v ∧ v.supported = true) ↔
      p.NamesSupported p.currentVersion ∨
      ∃ e, p.Latest (·.supported) e ∧ ∀ f, p.Denotes e.2.name f → f.2.supported = true := by
  rw [find?_none_supported, namesSupported_refreshSupport, hasSupported_refreshSupport,
    versions_refreshSupport]
  rcases p.refreshSupport_cases with ⟨hnone, hcurrent⟩ | ⟨hnames, hcurrent⟩ |
    ⟨hsome, hnames, e, he, hcurrent⟩
  · -- Without a supported version neither side holds.
    rw [hcurrent, hnone, or_iff_left (not_exists_latest hnone)]
    exact or_iff_left fun h => nomatch h.2
  · rw [hcurrent]
    exact ⟨fun _ => .inl hnames, fun _ => .inl hnames⟩
  · rw [hcurrent, and_iff_left hsome, namesSupported_or_none, or_iff_right hnames, he.exists_iff]

/-- **What the current version stands for.**  When the support has been settled, a package with a
    supported version has the name of one as its current version, or one that stands for it.  The
    current version stands for a supported one exactly if it did so before or if the name of the
    most recent supported version does.  Without further advice a supported version is taken exactly
    if the current version stood for one before, or if the name of the most recent supported version
    stands for no unsupported one.  Both are so in a package with a supported version whose names
    have no blanks around them and where versions of one name, up to case, are supported or not
    alike. -/
theorem refreshSupport_current (p : Package) :
    let q := p.refreshSupport
    let kept := p.NamesSupported p.currentVersion
    q.versions = p.versions ∧
    (q.supported = true ↔ ∃ v ∈ p.versions.values, v.supported = true) ∧
    (q.supported = true → ∃ v ∈ p.versions.values, v.supported = true ∧
      (q.version? q.currentVersion = some v ∨ q.currentVersion = v.name)) ∧
    ((∃ v, q.version? q.currentVersion = some v ∧ v.supported = true) ↔
      kept ∨ ∃ e, p.Latest (·.supported) e ∧ p.NamesSupported e.2.name) ∧
    ((∃ v, q.find? none = some v ∧ v.supported = true) ↔
      kept ∨ ∃ e, p.Latest (·.supported) e ∧ ∀ f, p.Denotes e.2.name f → f.2.supported = true) ∧
    ((∀ e ∈ p.versions.values, ∀ f ∈ p.versions.values, f.isNamed e.name = true →
        f.supported = e.supported) → q.supported = true →
      (∃ v, q.find? none = some v ∧ v.supported = true) ∧
      ((∀ v ∈ p.versions.values, trim v.name = v.name) →
        ∃ v, q.version? q.currentVersion = some v ∧ v.supported = true)) := by
  intro q kept
  have hsupported : q.supported = true ↔ p.hasSupported = true := by
    rw [p.supported_refreshSupport]
  have hcurrent : (∃ v, q.version? q.currentVersion = some v ∧ v.supported = true) ↔
      kept ∨ ∃ e, p.Latest (·.supported) e ∧ p.NamesSupported e.2.name := by
    rw [← currentVersion_namesSupported, ← namesSupported_refreshSupport, namesSupported_iff]
  refine ⟨p.versions_refreshSupport, hsupported.trans p.hasSupported_iff, fun hsome => ?_, hcurrent,
    find?_none_refreshSupport, fun halike hsome => ?_⟩
  · rcases p.refreshSupport_cases with ⟨hnone, -⟩ | ⟨hnames, hkept⟩ | ⟨-, -, e, he, hmoved⟩
    · cases hnone.symm.trans (hsupported.1 hsome)
    · obtain ⟨e, he, hsupported⟩ := hnames
      have hversion := version?_eq_some.2 ⟨e.1, he⟩
      refine ⟨e.2, he.mem_values, hsupported, .inl ?_⟩
      rw [hkept, version?, p.versions_refreshSupport]
      exact hversion
    · exact ⟨e.2, he.mem_values, he.passes, .inr hmoved⟩
  · obtain ⟨e, he⟩ := exists_latest (hsupported.1 hsome)
    have hmem : e.2 ∈ p.versions.values := he.mem_values
    have hall : ∀ f, p.Denotes e.2.name f → f.2.supported = true := fun f hf =>
      (halike e.2 hmem f.2 hf.mem_values hf.passes).trans he.passes
    refine ⟨find?_none_refreshSupport.2 (.inr ⟨e, he, hall⟩), fun htrim => ?_⟩
    -- The most recent supported version has its own name, so that its name stands for something.
    have hself : e.2.isNamed e.2.name = true := by
      rw [Version.isNamed, htrim e.2 hmem]
      exact beq_self_eq_true (asciiLower e.2.name)
    have hnames := (namesSupported_or_none.2 hall).resolve_right fun hnone => by
      cases hself.symm.trans (hnone e.2 hmem)
    exact hcurrent.2 (.inr ⟨e, he, hnames⟩)

/-- A package with two versions of one name up to case, of which the second is supported. -/
def halfSupported : Package where
  name := "kafka"
  description := ""
  framework := false
  currentVersion := ""
  supported := false
  tags := []
  versions := Table.ofList [("1-RC", ⟨"1-RC", "0", false⟩), ("1-rc", ⟨"1-rc", "1", true⟩)]

/-- Its current version becomes the name of the second one, and stands for the first. -/
theorem not_refreshSupport_current :
    ¬ ∀ p : Package, (∃ v ∈ p.versions.values, v.supported = true) →
      let q := p.refreshSupport
      (∃ v, q.version? q.currentVersion = some v ∧ v.supported = true) ∧
        ∃ v, q.find? none = some v ∧ v.supported = true := by
  intro hall
  have hsome : ∃ v ∈ halfSupported.versions.values, v.supported = true := by decide +kernel
  obtain ⟨hcurrent, -⟩ := hall halfSupported hsome
  rw [← namesSupported_iff, namesSupported_refreshSupport,
    currentVersion_namesSupported] at hcurrent
  rcases hcurrent with hkept | ⟨e, he, hnames⟩
  · obtain ⟨v, hv, -⟩ := namesSupported_iff.1 hkept
    have hnone : halfSupported.version? halfSupported.currentVersion = none := by decide +kernel
    cases hnone.symm.trans hv
  · -- The second version is the only supported one, and its name stands for the first.
    have hsecond : ∀ f ∈ halfSupported.versions.entries, f.2.supported = true →
        halfSupported.version? f.2.name = some ⟨"1-RC", "0", false⟩ := by decide +kernel
    obtain ⟨v, hv, hsupported⟩ := namesSupported_iff.1 hnames
    cases (hsecond e he.mem he.passes).symm.trans hv
    cases hsupported

end Package

end ClusterPackages
