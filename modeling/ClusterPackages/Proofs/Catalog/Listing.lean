import ClusterPackages.Proofs.Catalog.Directories
import ClusterPackages.Proofs.Catalog.Resolution
import ClusterPackages.Proofs.Catalog.Support
import Mathlib.Data.List.Forall2

namespace ClusterPackages

open Text

/-!
# What is listed

* `Keyspace.Named`, `Keyspace.TopLayer` — the numbers with a name, and the greatest of them beside
  the base.
* `Keyspace.Lists` — a package is what an index entry says, with the support of its versions, its
  own support and its current version as the layers have them.
* `listPackages_spec` — the packages are the entries of the base's index, in their order.
-/

namespace Keyspace

/-- The number is that of a repository: it fits 32 bits and has a name. -/
def Named (k : Keyspace) (t : Table Bytes) (index : Nat) : Prop :=
  index < Nat.pow 2 32 ∧ t.contains (k.name index) = true

/-- The layer with the greatest number. -/
structure TopLayer (k : Keyspace) (t : Table Bytes) (index : Nat) : Prop where
  /-- It is a repository. -/
  named : k.Named t index
  /-- It is not the base. -/
  positive : 0 < index
  /-- No repository has a greater number. -/
  greatest : ∀ i, k.Named t i → i ≤ index

/-- What is listed for an index entry. -/
structure Lists (k : Keyspace) (t : Table Bytes) (e : IndexEntry) (p : Package) : Prop where
  /-- The name is that of the entry. -/
  name : p.name = e.name
  /-- So is the description. -/
  description : p.description = e.description
  /-- So is whether it is a framework. -/
  framework : p.framework = e.framework
  /-- So are the tags. -/
  tags : p.tags = e.tags
  /-- The versions are those of the entry, with their names and releases. -/
  versions : p.versions.entries.map (fun v => (v.1, v.2.name, v.2.release)) =
    e.versions.entries.map fun v => (v.1, v.1, v.2)
  /-- A version is supported exactly if the top layer marks its release. -/
  version_supported : ∀ v ∈ p.versions.values, v.supported = true ↔
    ∃ layer, k.TopLayer t layer ∧ t.contains (k.supportMarker layer p.name v.release) = true
  /-- The package is supported exactly if one of its versions is. -/
  supported : p.supported = true ↔ ∃ v ∈ p.versions.values, v.supported = true
  /-- The current version stays if no version is supported, or if it denotes a supported one. -/
  current_kept : (p.supported = false ∨
      ∃ v, p.version? e.currentVersion = some v ∧ v.supported = true) →
    p.currentVersion = e.currentVersion
  /-- Otherwise it is the supported version with the greatest release, and of those with this
      release the one with the smallest name. -/
  current_moved : p.supported = true →
    (∀ v, p.version? e.currentVersion = some v → v.supported = false) →
    ∃ v ∈ p.versions.values, v.supported = true ∧ p.currentVersion = v.name ∧
      ∀ u ∈ p.versions.values, u.supported = true →
        u.release < v.release ∨ u.release = v.release ∧ v.name ≤ u.name

variable {k : Keyspace} {t : Table Bytes}

/-! ### The top layer -/

/-- A number with a name is that of a repository that is found. -/
theorem named_iff {index : Nat} :
    k.Named t index ↔ ∃ r ∈ k.repositoriesIn t, r.index = index := by
  have hread : t.contains (k.name index) = (k.repositoryIn? t index).isSome :=
    Option.isSome_map.symm
  unfold Named
  rw [hread, Option.isSome_iff_exists]
  constructor
  · rintro ⟨hlt, r, hr⟩
    obtain rfl := index_of_repositoryIn? hr
    exact ⟨r, mem_repositoriesIn.2 ⟨hlt, hr⟩, rfl⟩
  · rintro ⟨r, hr, rfl⟩
    obtain ⟨hlt, hr⟩ := mem_repositoriesIn.1 hr
    exact ⟨hlt, r, hr⟩

/-- The last of the layers is the repository with the greatest number. -/
theorem topLayer_of_getLast? {layer : Repository}
    (h : (layerRepositories (k.repositoriesIn t)).getLast? = some layer) :
    k.TopLayer t layer.index := by
  obtain ⟨hlayer, before, hall, hbefore⟩ := eq_append_of_getLast?_layers repositoriesIn_ascending h
  refine ⟨named_iff.2 ⟨layer, by simp [hall], rfl⟩, ?_, fun i hi => ?_⟩
  · refine Nat.pos_of_ne_zero fun hzero => ?_
    simp [Repository.isBase, hzero] at hlayer
  · obtain ⟨r, hr, rfl⟩ := named_iff.1 hi
    exact index_le_of_mem hbefore (hall ▸ hr)

/-- There is one top layer at most. -/
theorem TopLayer.unique {i j : Nat} (hi : k.TopLayer t i) (hj : k.TopLayer t j) : i = j :=
  Nat.le_antisymm (hj.greatest i hi.named) (hi.greatest j hj.named)

/-- The top layer is the last of the layers. -/
theorem topLayer_iff {index : Nat} :
    k.TopLayer t index ↔
      ∃ layer, (layerRepositories (k.repositoriesIn t)).getLast? = some layer ∧
        layer.index = index := by
  constructor
  · intro h
    -- The top layer is a layer, so there is a last one.
    obtain ⟨r, hr, hindex⟩ := named_iff.1 h.named
    have hpositive : r.isBase = false := by
      have hne : r.index ≠ 0 := hindex ▸ Nat.ne_of_gt h.positive
      simp [Repository.isBase, hne]
    have hmem : r ∈ layerRepositories (k.repositoriesIn t) :=
      List.mem_filter.2 ⟨hr, by rw [hpositive]; rfl⟩
    cases hlast : (layerRepositories (k.repositoriesIn t)).getLast? with
    | none =>
      rw [List.getLast?_eq_none_iff.1 hlast] at hmem
      cases hmem
    | some layer => exact ⟨layer, rfl, (topLayer_of_getLast? hlast).unique h⟩
  · rintro ⟨layer, hlast, rfl⟩
    exact topLayer_of_getLast? hlast

/-- There is a base exactly if the number 0 has a name. -/
theorem baseRepository?_eq_none :
    baseRepository? (k.repositoriesIn t) = none ↔ ¬ k.Named t 0 := by
  rw [baseRepository?, List.find?_eq_none, named_iff]
  simp [Repository.isBase]

/-- The base has the number zero. -/
theorem index_of_baseRepository? {l : List Repository} {base : Repository}
    (h : baseRepository? l = some base) : base.index = 0 := by
  simpa [Repository.isBase] using List.find?_some h

/-! ### Packages -/

/-- Every package that is listed has its versions under their names. -/
theorem Lists.keyed {e : IndexEntry} {p : Package} (h : k.Lists t e p) : p.Keyed := by
  intro v hv
  have hmem := List.mem_map_of_mem (f := fun v => (v.1, v.2.name, v.2.release)) hv
  rw [h.versions] at hmem
  obtain ⟨v', -, hv'⟩ := List.mem_map.1 hmem
  obtain ⟨hkey, hrest⟩ := Prod.mk.inj hv'
  obtain ⟨hname, -⟩ := Prod.mk.inj hrest
  exact hkey.symm.trans hname

/-- Where versions stand under their names, the most recent supported one is the one with the
    greatest release, and of those with this release the one with the smallest name. -/
theorem latestSupported?_least {p : Package} (hkeyed : p.Keyed) {v : Version}
    (h : p.latestSupported? = some v) :
    v ∈ p.versions.values ∧ v.supported = true ∧
      ∀ u ∈ p.versions.values, u.supported = true →
        u.release < v.release ∨ u.release = v.release ∧ v.name ≤ u.name := by
  obtain ⟨key, hlatest⟩ := Package.latestSupported?_eq_some.1 h
  refine ⟨hlatest.mem_values, hlatest.passes, fun u hu hsupported => ?_⟩
  obtain ⟨f, hf, rfl⟩ := List.mem_map.1 hu
  rcases hlatest.least f hf hsupported with rfl | hrecent
  · exact .inr ⟨rfl, String.le_refl v.name⟩
  · rw [Package.moreRecent_iff, hkeyed f hf, hkeyed _ hlatest.mem] at hrecent
    exact hrecent.imp_right fun ⟨hrelease, hname⟩ => ⟨hrelease, Std.le_of_lt hname⟩

/-- The package of an entry is listed with its support settled by the layers. -/
theorem lists_ofEntry (e : IndexEntry) :
    k.Lists t e (k.layeredIn t (layerRepositories (k.repositoriesIn t))
      (Package.ofEntry e)).refreshSupport := by
  let layers := layerRepositories (k.repositoriesIn t)
  obtain ⟨marked, hlayered⟩ := layeredIn_eq (k := k) (t := t) layers (Package.ofEntry e)
  have hmarked : ∀ v ∈ (k.layeredIn t layers (Package.ofEntry e)).versions.entries,
      v.2.supported = true ↔ ∃ layer, k.TopLayer t layer ∧
        t.contains (k.supportMarker layer e.name v.2.release) = true := by
    intro v hv
    rw [supported_layeredIn hv]
    constructor
    · rintro ⟨layer, hlast, hmarker⟩
      exact ⟨layer.index, topLayer_of_getLast? hlast, hmarker⟩
    · rintro ⟨index, htop, hmarker⟩
      obtain ⟨layer, hlast, rfl⟩ := topLayer_iff.1 htop
      exact ⟨layer, hlast, hmarker⟩
  -- The layers change nothing of the package but the marks of its versions.
  rw [hlayered] at hmarked ⊢
  let p : Package := { Package.ofEntry e with
    versions := (Package.ofEntry e).versions.mapEntries
      (fun v => { v.2 with supported := marked v }) }
  change ∀ v ∈ p.versions.entries, _ at hmarked
  change k.Lists t e p.refreshSupport
  have hkeyed : p.Keyed := by
    intro v hv
    obtain ⟨entry, hentry, rfl⟩ := List.mem_map.1 hv
    obtain ⟨source, -, rfl⟩ := List.mem_map.1 hentry
    rfl
  obtain ⟨supported, current, hrefreshed⟩ := p.refreshSupport_eq
  have hsupported : supported = p.hasSupported := by
    have h := p.supported_refreshSupport
    rwa [hrefreshed] at h
  have hkept := p.currentVersion_kept
  have hmoved := p.currentVersion_moved
  rw [hrefreshed] at hkept hmoved ⊢
  subst hsupported
  constructor
  case name => rfl
  case description => rfl
  case framework => rfl
  case tags => rfl
  case versions => simp [p, Table.mapEntries, Package.ofEntry]
  case version_supported =>
    intro v hv
    obtain ⟨entry, hentry, rfl⟩ := List.mem_map.1 hv
    exact hmarked entry hentry
  case supported => exact p.hasSupported_iff
  case current_kept => exact hkept
  case current_moved =>
    intro hsome hcurrent
    obtain ⟨v, hlatest, hname⟩ := hmoved hsome hcurrent
    obtain ⟨hmem, hsupported, hleast⟩ := latestSupported?_least hkeyed hlatest
    exact ⟨v, hmem, hsupported, hname, hleast⟩

end Keyspace

/-- **The listing.**  Without a base that has an index nothing is listed, and an index that cannot
    be read is an error.  Otherwise the packages are the entries of the index, in their order. -/
theorem listPackages_spec {k : Keyspace} {w : World} (hworks : ∀ calls c, w.fails calls c = false) :
    let listed := (listPackages World.storeService k w).1
    (¬ k.Named w.store 0 → listed = .ok []) ∧
      (w.store.find? (k.packageIndex 0) = none → listed = .ok []) ∧
      ∀ raw, k.Named w.store 0 → w.store.find? (k.packageIndex 0) = some raw →
        match (Json.Document.read? (Utf8.decode raw)).bind IndexEntry.listOf? with
        | none => listed = .error (.failed "parse package index" (k.packageIndex 0) .malformed)
        | some entries => ∃ packages, listed = .ok packages ∧
            List.Forall₂ (k.Lists w.store) entries packages := by
  intro listed
  have hlisted : listed = k.packagesIn w.store :=
    (listPackages_answers (World.serves w) k).outcome (.refl w) (World.not_faulty hworks)
  -- What is listed can be read off the store.
  rw [hlisted]
  unfold Keyspace.packagesIn
  cases hbase : baseRepository? (k.repositoriesIn w.store) with
  | none =>
    have hunnamed := Keyspace.baseRepository?_eq_none.1 hbase
    exact ⟨fun _ => rfl, fun _ => rfl, fun raw hnamed => absurd hnamed hunnamed⟩
  | some base =>
    have hnamed : k.Named w.store 0 := Classical.not_not.1 fun hunnamed => by
      cases hbase.symm.trans (Keyspace.baseRepository?_eq_none.2 hunnamed)
    simp only [Keyspace.index_of_baseRepository? hbase]
    refine ⟨fun hunnamed => absurd hnamed hunnamed, fun hnone => by simp only [hnone],
      fun raw _ hraw => ?_⟩
    simp only [hraw, IndexEntry.parse]
    cases (Json.Document.read? (Utf8.decode raw)).bind IndexEntry.listOf? with
    | none => rfl
    | some entries =>
      refine ⟨_, rfl, ?_⟩
      rw [List.forall₂_map_right_iff]
      exact List.forall₂_same.2 fun e _ => Keyspace.lists_ofEntry e

/-- One package is listed from a base with one entry and a layer over it. -/
theorem listPackages_spec_marked :
    let w := World.holding (markedStore [])
    (∀ calls c, w.fails calls c = false) ∧ markedKeyspace.TopLayer w.store 1 ∧
      ∃ e p, (listPackages World.storeService markedKeyspace w).1 = .ok [p] ∧
        markedKeyspace.Lists w.store e p := by
  intro w
  have hworks : ∀ calls c, w.fails calls c = false := fun _ _ => rfl
  have hnamed : markedKeyspace.Named w.store 0 := ⟨Nat.two_pow_pos 32, by decide +kernel⟩
  have hlast : (layerRepositories (markedKeyspace.repositoriesIn w.store)).getLast? =
      some ⟨"site", 1, none⟩ := by decide +kernel
  obtain ⟨raw, hraw, hentries⟩ : ∃ raw, w.store.find? (markedKeyspace.packageIndex 0) = some raw ∧
      ((Json.Document.read? (Utf8.decode raw)).bind IndexEntry.listOf?).map List.length = some 1 :=
    ⟨Utf8.encode "[\x7b\"name\":\"kafka\",\"versions\":\x7b\"1\":\"0\"\x7d\x7d]",
      by decide +kernel, by decide +kernel⟩
  obtain ⟨entries, hread, hlength⟩ := Option.map_eq_some_iff.1 hentries
  obtain ⟨e, rfl⟩ := List.length_eq_one_iff.1 hlength
  have hlisted := (listPackages_spec (k := markedKeyspace) hworks).2.2 raw hnamed hraw
  rw [hread] at hlisted
  obtain ⟨packages, hpackages, hall⟩ := hlisted
  obtain ⟨p, rest, hp, hrest, rfl⟩ := List.forall₂_cons_left_iff.1 hall
  cases List.forall₂_nil_left_iff.1 hrest
  exact ⟨hworks, Keyspace.topLayer_of_getLast? hlast, e, p, hpackages, hp⟩

end ClusterPackages
