import ClusterPackages.Proofs.Catalog.Composition
import ClusterPackages.Proofs.Catalog.Recency

namespace ClusterPackages

open Text

/-!
# What support means for a release

A version is supported if the last layer has the options file of its release, whatever the file
holds.  The files of a release are composed from copies that are not empty.  The two agree unless
the file that grants the support is empty.

* `Keyspace.supported_iff` — a version is supported exactly when the last layer marks its release.
* `Keyspace.eq_append_of_getLast?_layers` — the last layer is the last of all repositories.
* `options_of_supported` — a supported version has the options of the last layer, unless they are
  empty there.
* `not_options_of_supported` — a version that an empty file marks as supported has no options.
-/

/-! ### Which versions are supported -/

namespace Keyspace

variable {k : Keyspace} {t : Table Bytes}

/-- Every package is that of an index entry, settled by the last layer and refreshed. -/
theorem mem_packagesIn {packages : List Package} (h : k.packagesIn t = .ok packages) {p : Package}
    (hp : p ∈ packages) :
    ∃ e, p = (k.layeredIn t (layerRepositories (k.repositoriesIn t))
      (Package.ofEntry e)).refreshSupport := by
  unfold packagesIn at h
  split at h
  · cases h
    cases hp
  · split at h
    · cases h
      cases hp
    · obtain ⟨entries, -, h⟩ := Action.except_bind_eq_ok.1 h
      cases h
      obtain ⟨e, -, rfl⟩ := List.mem_map.1 hp
      exact ⟨e, rfl⟩

/-- The version of an index entry is supported exactly when the last layer marks its release. -/
theorem supported_layeredIn {entry : IndexEntry} {layers : List Repository} {e : String × Version}
    (he : e ∈ (k.layeredIn t layers (Package.ofEntry entry)).versions.entries) :
    e.2.supported = true ↔ ∃ layer, layers.getLast? = some layer ∧
      t.contains (k.supportMarker layer.index entry.name e.2.release) = true := by
  unfold layeredIn at he
  cases hlast : layers.getLast? with
  | none =>
    -- Without layers the versions are those of the index, none of which is supported.
    rw [hlast] at he
    obtain ⟨listed, -, rfl⟩ := List.mem_map.1 he
    simp
  | some layer =>
    rw [hlast] at he
    obtain ⟨listed, -, rfl⟩ := List.mem_map.1 he
    simp [Package.ofEntry]

/-- Settling by the layers changes only which versions are supported. -/
theorem layeredIn_eq (layers : List Repository) (p : Package) :
    ∃ marked : String × Version → Bool, k.layeredIn t layers p =
      { p with versions := p.versions.mapEntries fun e => { e.2 with supported := marked e } } := by
  unfold layeredIn
  cases layers.getLast? with
  | none =>
    refine ⟨fun e => e.2.supported, ?_⟩
    simp [Table.mapEntries]
  | some layer => exact ⟨_, rfl⟩

/-- A version is supported exactly when the last layer marks its release. -/
theorem supported_iff {packages : List Package} (h : k.packagesIn t = .ok packages) {p : Package}
    (hp : p ∈ packages) {e : String × Version} (he : e ∈ p.versions.entries) :
    e.2.supported = true ↔ ∃ layer,
      (layerRepositories (k.repositoriesIn t)).getLast? = some layer ∧
        t.contains (k.supportMarker layer.index p.name e.2.release) = true := by
  obtain ⟨entry, rfl⟩ := mem_packagesIn h hp
  rw [Package.versions_refreshSupport] at he
  obtain ⟨marked, hlayered⟩ := layeredIn_eq (k := k) (t := t)
    (layerRepositories (k.repositoriesIn t)) (Package.ofEntry entry)
  rw [Package.name_refreshSupport, hlayered]
  exact supported_layeredIn he

/-! ### The last layer -/

/-- The base comes first, so the last layer is the last of all repositories. -/
theorem eq_append_of_getLast?_layers {l : List Repository}
    (hasc : l.Pairwise fun r s => r.index < s.index) {layer : Repository}
    (h : (layerRepositories l).getLast? = some layer) :
    layer.isBase = false ∧
      ∃ before, l = before ++ [layer] ∧ ∀ r ∈ before, r.index < layer.index := by
  obtain ⟨layers, hlayers⟩ := List.getLast?_eq_some_iff.1 h
  have hmem : layer ∈ layerRepositories l := by simp [hlayers]
  have hlayer : layer.isBase = false := by simpa using (List.mem_filter.1 hmem).2
  obtain ⟨front, back, rfl, -, hback⟩ := List.filter_eq_append_iff.1 hlayers
  obtain ⟨bases, after, rfl, -, -, hafter⟩ := List.filter_eq_cons_iff.1 hback
  -- What comes after the last layer is a base, whose number is greater: there is no such one.
  have hnone : after = [] := by
    refine List.eq_nil_iff_forall_not_mem.2 fun r hr => ?_
    have hbase : r.isBase = true := by simpa using List.filter_eq_nil_iff.1 hafter r hr
    have hpairs := (List.pairwise_append.1 (List.pairwise_append.1 hasc).2.1).2.1
    have hlt : layer.index < r.index := (List.pairwise_cons.1 hpairs).1 r hr
    have hzero : r.index = 0 := by simpa [Repository.isBase] using hbase
    omega
  subst hnone
  rw [← List.append_assoc] at hasc ⊢
  exact ⟨hlayer, front ++ bases, rfl, fun r hr =>
    (List.pairwise_append.1 hasc).2.2 r hr layer List.mem_cons_self⟩

/-- If every repository before the last one has a smaller number, none has a greater one. -/
theorem index_le_of_mem {before : List Repository} {last r : Repository}
    (hbefore : ∀ r ∈ before, r.index < last.index) (hr : r ∈ before ++ [last]) :
    r.index ≤ last.index := by
  rcases List.mem_append.1 hr with hr | hr
  · exact Nat.le_of_lt (hbefore r hr)
  · exact Nat.le_of_eq (congrArg Repository.index (List.mem_singleton.1 hr))

/-- The options of a release are those of the last repository, unless it has an empty file. -/
theorem releaseIn_options {package release : String} {before : List Repository}
    {layer : Repository} (h : k.repositoriesIn t = before ++ [layer])
    (hbefore : ∀ r ∈ before, r.index < layer.index) {marker : Bytes}
    (hmarker : t.find? (k.supportMarker layer.index package release) = some marker) :
    (marker ≠ [] →
      k.releaseIn t package release .options = some ⟨⟨layer.name, layer.index⟩, marker⟩) ∧
    (marker = [] → ∀ held, k.releaseIn t package release .options = some held →
      held.source.index < layer.index) := by
  -- The last repository is asked before all others.
  have hrelease : k.releaseIn t package release .options =
      (k.copyIn? t package release .options layer).or
        (before.reverse.findSome? (k.copyIn? t package release .options)) := by
    rw [releaseIn, h, List.reverse_append, List.findSome?_append, List.reverse_singleton,
      List.findSome?_singleton]
  rw [hrelease]
  constructor
  · intro hcontent
    have hcopy : k.copyIn? t package release .options layer =
        some ⟨⟨layer.name, layer.index⟩, marker⟩ := copyIn?_eq_some.2 ⟨rfl, hcontent, hmarker⟩
    rw [hcopy, Option.some_or]
  · rintro rfl held hheld
    have hcopy : k.copyIn? t package release .options layer = none := by
      rw [copyIn?, show t.find? (k.artifact layer.index package release .options) = some [] from
        hmarker]
      rfl
    rw [hcopy, Option.none_or] at hheld
    obtain ⟨r, hr, hcopied⟩ := List.exists_of_findSome?_eq_some hheld
    rw [(copyIn?_eq_some.1 hcopied).1]
    exact hbefore r (List.mem_reverse.1 hr)

end Keyspace

/-! ### Supported versions and their options -/

/-- **What a supported version is installed with.**  The last repository is a layer that has the
    options file of the release.  If that file has content, it is the options of the release, also
    of every definition of it, so that the user and the platform are heard.  If it is empty, the
    options come from a repository before it, if there are any. -/
theorem options_of_supported {k : Keyspace} {w : World}
    (hworks : ∀ calls c, w.fails calls c = false) {packages : List Package}
    (hlist : (listPackages World.storeService k w).1 = .ok packages) {p : Package}
    (hp : p ∈ packages) {e : String × Version} (he : e ∈ p.versions.entries)
    (hsupported : e.2.supported = true) :
    ∃ repositories layer marker overlay,
      (listRepositories World.storeService k w).1 = .ok repositories ∧
      layer ∈ repositories ∧ layer.isBase = false ∧ (∀ r ∈ repositories, r.index ≤ layer.index) ∧
      w.store.find? (k.supportMarker layer.index p.name e.2.release) = some marker ∧
      (composeRelease World.storeService k p.name e.2.release w).1 = .ok overlay ∧
      (marker ≠ [] →
        overlay .options = some ⟨⟨layer.name, layer.index⟩, marker⟩ ∧
        ∀ name version userConfig platform d,
          (resolveDefinition World.storeService k name version userConfig platform w).1 = .ok d →
          d.name = p.name → d.release = e.2.release → d.artifacts .options = marker) ∧
      (marker = [] → ∀ held, overlay .options = some held → held.source.index < layer.index) := by
  have hserves := World.serves w
  have hfaulty := World.not_faulty hworks
  have hsame : w.Unchanged w := .refl w
  have hpackages := (listPackages_answers hserves k).eq_of_ok hsame hlist
  obtain ⟨layer, hlast, hmark⟩ := (Keyspace.supported_iff hpackages hp he).1 hsupported
  obtain ⟨hlayer, before, hrepositories, hbefore⟩ :=
    Keyspace.eq_append_of_getLast?_layers Keyspace.repositoriesIn_ascending hlast
  obtain ⟨marker, hmarker⟩ := Option.isSome_iff_exists.1 hmark
  obtain ⟨hcontent, hempty⟩ := Keyspace.releaseIn_options hrepositories hbefore hmarker
  refine ⟨_, layer, marker, _, (listRepositories_answers hserves k).outcome hsame hfaulty,
    by simp [hrepositories], hlayer, fun r hr => ?_, hmarker,
    (composeRelease_answers hserves k _ _).outcome hsame hfaulty, fun hne => ⟨hcontent hne, ?_⟩,
    hempty⟩
  · exact Keyspace.index_le_of_mem hbefore (hrepositories ▸ hr)
  · intro name version userConfig platform d hd hname hrelease
    obtain ⟨package, v, -, -, hdname, -, hdrelease, hartifacts⟩ := Keyspace.definitionIn_eq_ok
      ((resolveDefinition_answers hserves k name version userConfig platform).eq_of_ok hsame hd)
    rw [hartifacts, ← hdname, hname, ← hdrelease, hrelease, Overlay.content, hcontent hne]
    rfl

/-! ### One layer over a base -/

/-- A base with one version of one package, and a layer that marks its release by a file with the
    given content. -/
def markedStore (marker : Bytes) : Table Bytes := Table.ofList [
  ("r/0/name", Utf8.encode "base"),
  ("r/0/repo/meta/index.json", Utf8.encode
    "[\x7b\"name\":\"kafka\",\"versions\":\x7b\"1\":\"0\"\x7d\x7d]"),
  ("r/1/name", Utf8.encode "site"),
  ("r/1/repo/packages/K/kafka/0/mantl.json", marker)]

/-- The keys of the catalog in it. -/
def markedKeyspace : Keyspace := ⟨"r", "a"⟩

/-- Whether the listing has the version of the package, supported. -/
def listsSupported (packages : List Package) : Bool :=
  packages.any fun p => p.name == "kafka" && p.versions.entries.any fun e =>
    e.2 == ⟨"1", "0", true⟩

/-- What the test accepts holds the supported version that it looks for. -/
theorem exists_of_listsSupported {packages : List Package} (h : listsSupported packages = true) :
    ∃ p ∈ packages, p.name = "kafka" ∧ ∃ e ∈ p.versions.entries, e.2 = ⟨"1", "0", true⟩ := by
  obtain ⟨p, hp, h⟩ := List.any_eq_true.1 h
  obtain ⟨hname, h⟩ := Bool.and_eq_true_iff.1 h
  obtain ⟨e, he, h⟩ := List.any_eq_true.1 h
  exact ⟨p, hp, by simpa using hname, e, he, by simpa using h⟩

/-- With content, the marker of the layer is the options of the version. -/
theorem options_of_supported_site :
    let w := World.holding (markedStore (Utf8.encode "\x7b\x7d"))
    ∃ packages p e overlay, (listPackages World.storeService markedKeyspace w).1 = .ok packages ∧
      p ∈ packages ∧ e ∈ p.versions.entries ∧ e.2.supported = true ∧
      (composeRelease World.storeService markedKeyspace p.name e.2.release w).1 = .ok overlay ∧
      overlay .options = some ⟨⟨"site", 1⟩, Utf8.encode "\x7b\x7d"⟩ := by
  intro w
  have htest : (listPackages World.storeService markedKeyspace w).1.toOption.any listsSupported
      = true := by decide +kernel
  obtain ⟨packages, hlist, htest⟩ := Action.exists_ok_of_any htest
  obtain ⟨p, hp, hname, e, he, hversion⟩ := exists_of_listsSupported htest
  have hsupported : e.2.supported = true := by rw [hversion]
  obtain ⟨repositories, layer, marker, overlay, hrepositories, hlayer, hbase, -, hmarker, hcompose,
    hcontent, -⟩ := options_of_supported (fun _ _ => rfl) hlist hp he hsupported
  -- The layer is the only repository that is not the base.
  have hlisted : (listRepositories World.storeService markedKeyspace w).1.toOption =
      some [⟨"base", 0, none⟩, ⟨"site", 1, none⟩] := by decide +kernel
  have hsite : layer = ⟨"site", 1, none⟩ := by
    rw [hrepositories] at hlisted
    cases hlisted
    rcases List.mem_cons.1 hlayer with rfl | hlayer
    · cases hbase
    · exact List.mem_singleton.1 hlayer
  subst hsite
  have hfile : w.store.find? (markedKeyspace.supportMarker 1 "kafka" "0") =
      some (Utf8.encode "\x7b\x7d") := by decide +kernel
  rw [hname, hversion, hfile] at hmarker
  cases hmarker
  exact ⟨packages, p, e, overlay, hlist, hp, he, hsupported, hcompose,
    (hcontent (by decide +kernel)).1⟩

/-- An empty marker is enough for support, and no options. -/
theorem not_options_of_supported :
    ¬ ∀ (k : Keyspace) (w : World) (packages : List Package),
      (∀ calls c, w.fails calls c = false) →
      (listPackages World.storeService k w).1 = .ok packages →
      ∀ p ∈ packages, ∀ e ∈ p.versions.entries, e.2.supported = true →
        ∃ repositories layer overlay held,
          (listRepositories World.storeService k w).1 = .ok repositories ∧
          layer ∈ repositories ∧ (∀ r ∈ repositories, r.index ≤ layer.index) ∧
          (composeRelease World.storeService k p.name e.2.release w).1 = .ok overlay ∧
          overlay .options = some held ∧ held.source = ⟨layer.name, layer.index⟩ := by
  intro hall
  have htest : (listPackages World.storeService markedKeyspace
      (World.holding (markedStore []))).1.toOption.any listsSupported = true := by decide +kernel
  obtain ⟨packages, hlist, htest⟩ := Action.exists_ok_of_any htest
  obtain ⟨p, hp, hname, e, he, hversion⟩ := exists_of_listsSupported htest
  obtain ⟨repositories, layer, overlay, held, -, -, -, hcompose, hheld, -⟩ :=
    hall markedKeyspace (World.holding (markedStore [])) packages (fun _ _ => rfl) hlist p hp e he
      (by rw [hversion])
  rw [hname, hversion] at hcompose
  have hnone : (composeRelease World.storeService markedKeyspace "kafka" "0"
      (World.holding (markedStore []))).1.toOption.map (fun o => (o .options).isSome) =
        some false := by decide +kernel
  rw [hcompose] at hnone
  simp [Except.toOption, hheld] at hnone

end ClusterPackages
