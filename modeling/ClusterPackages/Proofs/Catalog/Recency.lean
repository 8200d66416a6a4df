import ClusterPackages.Catalog.Package

namespace ClusterPackages

open Text

/-!
# The most recent version

* `filter_mergeSort` — a sort keeps the order of elements that it does not tell apart.
* `Version.noOlder_trans`, `Version.noOlder_total` — the order of the releases.
* `Package.currentVersion_kept`, `Package.currentVersion_moved` — when the current version stays
  what it is, and what it becomes otherwise.
-/

/-- A sort keeps the order of the elements with one value under `f`, where it takes these to be as
    good as one another. -/
theorem filter_mergeSort {α β : Type} [BEq β] [LawfulBEq β] {le : α → α → Bool}
    (htrans : ∀ a b c, le a b = true → le b c = true → le a c = true)
    (htotal : ∀ a b, (le a b || le b a) = true) {f : α → β}
    (hequal : ∀ a b, f a = f b → le a b = true) (l : List α) (x : β) :
    (l.mergeSort le).filter (f · == x) = l.filter (f · == x) := by
  -- They are in order already, so that the sort leaves them as they are.
  have hsorted : (l.filter (f · == x)).Pairwise fun a b => le a b = true := by
    refine List.pairwise_of_forall_mem_list fun a ha b hb => hequal a b ?_
    have hax : f a = x := by simpa using (List.mem_filter.1 ha).2
    have hbx : f b = x := by simpa using (List.mem_filter.1 hb).2
    rw [hax, hbx]
  have hsub := (List.sublist_mergeSort htrans htotal hsorted List.filter_sublist).filter (f · == x)
  rw [List.filter_filter] at hsub
  simp only [Bool.and_self] at hsub
  have hperm := (List.mergeSort_perm l le).filter (f · == x)
  exact (hsub.eq_of_length hperm.length_eq.symm).symm

namespace Version

/-- Versions are compared by their releases, which are compared as texts. -/
theorem noOlder_iff {v w : Version} : v.noOlder w = true ↔ w.release ≤ v.release :=
  decide_eq_true_iff

theorem noOlder_of_eq {v w : Version} (h : v.release = w.release) : v.noOlder w = true :=
  noOlder_iff.2 (h ▸ String.le_refl v.release)

theorem noOlder_trans (u v w : Version) (h : u.noOlder v = true) (h' : v.noOlder w = true) :
    u.noOlder w = true :=
  noOlder_iff.2 (String.le_trans (noOlder_iff.1 h') (noOlder_iff.1 h))

theorem noOlder_total (v w : Version) : (v.noOlder w || w.noOlder v) = true := by
  rw [Bool.or_eq_true, noOlder_iff, noOlder_iff]
  exact String.le_total _ _

end Version

namespace Package

variable (p : Package)

/-! ### Settling the support -/

/-- Settling the support changes nothing but the support and the current version. -/
theorem refreshSupport_eq : ∃ supported current,
    p.refreshSupport = { p with supported := supported, currentVersion := current } := by
  unfold refreshSupport
  dsimp only
  split
  · split
    · exact ⟨_, _, rfl⟩
    · exact ⟨_, _, rfl⟩
  · exact ⟨_, _, rfl⟩

/-- Settling the support leaves the versions as they are. -/
theorem versions_refreshSupport : p.refreshSupport.versions = p.versions := by
  obtain ⟨supported, current, h⟩ := p.refreshSupport_eq
  rw [h]

theorem name_refreshSupport : p.refreshSupport.name = p.name := by
  obtain ⟨supported, current, h⟩ := p.refreshSupport_eq
  rw [h]

/-- A package has a supported version when one of its versions is supported. -/
theorem hasSupported_iff : p.hasSupported = true ↔ ∃ v ∈ p.versions.values, v.supported = true := by
  unfold hasSupported supportedVersions
  simp

/-- Afterwards a package is supported when one of its versions is. -/
theorem supported_refreshSupport : p.refreshSupport.supported = p.hasSupported := by
  unfold refreshSupport
  dsimp only
  split
  · split <;> rfl
  · rfl

/-- The current version stays if no version is supported, or if it denotes a supported one. -/
theorem currentVersion_kept
    (h : p.hasSupported = false ∨ ∃ v, p.version? p.currentVersion = some v ∧ v.supported = true) :
    p.refreshSupport.currentVersion = p.currentVersion := by
  have htest : (p.hasSupported && !(p.version? p.currentVersion).any (·.supported)) = false := by
    rcases h with hnone | ⟨v, hv, hsupported⟩
    · rw [hnone, Bool.false_and]
    · rw [hv, Option.any_some, hsupported, Bool.not_true, Bool.and_false]
  unfold refreshSupport
  dsimp only
  rw [if_neg]
  intro hmoves
  cases htest.symm.trans hmoves

/-- Otherwise it becomes the most recent supported version. -/
theorem currentVersion_moved (hsome : p.hasSupported = true)
    (h : ∀ v, p.version? p.currentVersion = some v → v.supported = false) :
    ∃ v, p.latestSupported? = some v ∧ p.refreshSupport.currentVersion = v.name := by
  have htest : (p.hasSupported && !(p.version? p.currentVersion).any (·.supported)) = true := by
    rw [hsome, Bool.true_and]
    cases hv : p.version? p.currentVersion with
    | none => rfl
    | some v => rw [Option.any_some, h v hv]; rfl
  obtain ⟨u, hu, hsupported⟩ := p.hasSupported_iff.1 hsome
  cases hlatest : p.latestSupported? with
  | none =>
    have hnone := List.find?_eq_none.1 hlatest u (List.mem_mergeSort.2 hu)
    exact absurd hsupported hnone
  | some v =>
    have hfound : ({ p with supported := p.hasSupported } : Package).latestSupported? = some v :=
      hlatest
    refine ⟨v, rfl, ?_⟩
    unfold refreshSupport
    dsimp only
    rw [if_pos]
    · rw [hfound]
    · exact htest

end Package

end ClusterPackages
