import ClusterPackages.Proofs.Catalog.Composition
import ClusterPackages.Proofs.Table
import ClusterPackages.Proofs.Text.Affix

namespace ClusterPackages

open Text

/-!
# How far the catalog reaches

All that is read to resolve a release lies in the directories of the repositories.

* `Keyspace.SameCatalog` — tables with the same repositories, and the same keys in each of them.
* `Keyspace.definitionIn_congr` — in such tables a name and a version denote the same.
* `Keyspace.below` — the part of a table below the root of the catalog.  Tables with the same part
  have the same catalog (`Keyspace.sameCatalog_of_below`).
* `Keyspace.Apart` — the pending installations are not below that root, as with the default roots
  (`Keyspace.standard_apart`).
-/

namespace Keyspace

variable {k : Keyspace} {t t' : Table Bytes}

/-- The repositories are the same, and so is what lies in the directory of each. -/
structure SameCatalog (k : Keyspace) (t t' : Table Bytes) : Prop where
  /-- The repositories are the same. -/
  repositories : k.repositoriesIn t = k.repositoriesIn t'
  /-- A key in the directory of a repository has the same value. -/
  find? : ∀ r ∈ k.repositoriesIn t, ∀ key, startsWith (k.repository r.index ++ "/") key = true →
    t.find? key = t'.find? key

/-! ### Keys in the directory of a repository -/

/-- A key that continues the directory of a repository after a slash lies in that directory. -/
theorem startsWith_directory {index : Nat} {key : String} (rest : String)
    (h : key = k.repository index ++ ("/" ++ rest)) :
    startsWith (k.repository index ++ "/") key = true := by
  rw [h, ← String.append_assoc]
  exact startsWith_append _ _

/-- The package index lies in the directory of its repository. -/
theorem startsWith_packageIndex (index : Nat) :
    startsWith (k.repository index ++ "/") (k.packageIndex index) = true :=
  startsWith_directory "repo/meta/index.json" rfl

/-- Every file lies in the directory of its repository. -/
theorem startsWith_artifact (index : Nat) (package release : String) (kind : ArtifactKind) :
    startsWith (k.repository index ++ "/") (k.artifact index package release kind) = true := by
  have hpackages : startsWith (k.repository index ++ "/") (k.packages index) = true :=
    startsWith_directory "repo/packages" rfl
  refine startsWith_trans hpackages ?_
  unfold artifact file Keyspace.release
  simp only [String.append_assoc]
  exact startsWith_append _ _

/-! ### Resolving in tables with the same catalog -/

/-- In tables with the same catalog the layers support the same versions. -/
theorem layeredIn_congr (h : k.SameCatalog t t') (p : Package) :
    k.layeredIn t (layerRepositories (k.repositoriesIn t)) p =
      k.layeredIn t' (layerRepositories (k.repositoriesIn t')) p := by
  rw [← h.repositories]
  unfold layeredIn
  -- Only the last layer settles the support, and its markers lie in its directory.
  cases hlast : (layerRepositories (k.repositoriesIn t)).getLast? with
  | none => rfl
  | some layer =>
    have hlayer : layer ∈ k.repositoriesIn t :=
      (List.mem_filter.1 (List.mem_of_getLast? hlast)).1
    have hmarks : (fun release => t.contains (k.supportMarker layer.index p.name release)) =
        fun release => t'.contains (k.supportMarker layer.index p.name release) := by
      funext release
      have hmarker : startsWith (k.repository layer.index ++ "/")
          (k.supportMarker layer.index p.name release) = true := startsWith_artifact _ _ _ .options
      rw [Table.contains, Table.contains, h.find? layer hlayer _ hmarker]
    simp only [hmarks]

theorem packagesIn_congr (h : k.SameCatalog t t') : k.packagesIn t = k.packagesIn t' := by
  have hlayered : k.layeredIn t (layerRepositories (k.repositoriesIn t)) =
      k.layeredIn t' (layerRepositories (k.repositoriesIn t')) := funext (layeredIn_congr h)
  unfold packagesIn
  rw [hlayered, ← h.repositories]
  cases hbase : baseRepository? (k.repositoriesIn t) with
  | none => rfl
  | some base =>
    have hmem : base ∈ k.repositoriesIn t := List.mem_of_find?_eq_some hbase
    simp only [h.find? base hmem _ (startsWith_packageIndex _)]

theorem packageIn_congr (h : k.SameCatalog t t') (name : String) :
    k.packageIn t name = k.packageIn t' name := by
  rw [packageIn, packageIn, packagesIn_congr h]

/-- A search comes to the same where both functions do on every member. -/
theorem findSome?_congr {α β : Type} {f g : α → Option β} {l : List α} (h : ∀ x ∈ l, f x = g x) :
    l.findSome? f = l.findSome? g := by
  induction l with
  | nil => rfl
  | cons x rest ih =>
    have hrest := ih fun y hy => h y (List.mem_cons_of_mem x hy)
    rw [List.findSome?_cons, List.findSome?_cons, h x List.mem_cons_self, hrest]

theorem releaseIn_congr (h : k.SameCatalog t t') (package release : String) :
    k.releaseIn t package release = k.releaseIn t' package release := by
  funext kind
  unfold releaseIn
  rw [← h.repositories]
  -- The copies of a file are looked for in one repository after another.
  refine findSome?_congr fun r hr => ?_
  unfold copyIn?
  rw [h.find? r (List.mem_reverse.1 hr) _ (startsWith_artifact _ _ _ _)]

/-- In tables with the same catalog a name and a version denote the same. -/
theorem definitionIn_congr (h : k.SameCatalog t t') (name : String) (version : Option String)
    (userConfig : Json.Object) (platform : Platform) :
    k.definitionIn t name version userConfig platform =
      k.definitionIn t' name version userConfig platform := by
  unfold definitionIn
  rw [packageIn_congr h]
  simp only [releaseIn_congr h]

/-! ### What lies below the root -/

/-- The entries below the root of the catalog. -/
def below (k : Keyspace) (t : Table Bytes) : Entries Bytes :=
  t.entries.filter fun e => startsWith k.repositoriesPrefix e.1

/-- A key below the root has the same value in tables that agree there. -/
theorem find?_of_below (h : k.below t = k.below t') {key : String}
    (hkey : startsWith k.repositoriesPrefix key = true) : t.find? key = t'.find? key := by
  calc t.find? key
      = Entries.find? key (k.below t) := (Entries.find?_filter _ hkey t.entries).symm
    _ = Entries.find? key (k.below t') := by rw [h]
    _ = t'.find? key := Entries.find?_filter _ hkey t'.entries

theorem startsWith_repository {index : Nat} {key : String}
    (h : startsWith (k.repository index ++ "/") key = true) :
    startsWith k.repositoriesPrefix key = true := by
  refine startsWith_trans ?_ h
  unfold repository
  rw [String.append_assoc]
  exact startsWith_append _ _

/-- Tables that agree below the root have the same repositories. -/
theorem repositoriesIn_of_below (h : k.below t = k.below t') :
    k.repositoriesIn t = k.repositoriesIn t' := by
  have hkeys : World.keysFrom t k.repositoriesPrefix = World.keysFrom t' k.repositoriesPrefix := by
    have hmap : ∀ s : Table Bytes,
        World.keysFrom s k.repositoriesPrefix = (k.below s).map (·.1) := fun s => List.filter_map
    rw [hmap, hmap, h]
  have hindexes : k.indexesIn t = k.indexesIn t' := by rw [indexesIn, hkeys, indexesIn]
  have hread : ∀ index, k.repositoryIn? t index = k.repositoryIn? t' index := by
    intro index
    have hname : startsWith (k.repository index ++ "/") (k.name index) = true :=
      startsWith_directory "name" rfl
    have hupdated : startsWith (k.repository index ++ "/") (k.updated index) = true :=
      startsWith_directory "updated" rfl
    unfold repositoryIn?
    rw [find?_of_below h (startsWith_repository hname),
      find?_of_below h (startsWith_repository hupdated)]
  unfold repositoriesIn
  rw [hindexes, funext hread]

/-- Tables with the same entries below the root have the same catalog. -/
theorem sameCatalog_of_below (h : k.below t = k.below t') : k.SameCatalog t t' where
  repositories := repositoriesIn_of_below h
  find? _ _ _ hkey := find?_of_below h (startsWith_repository hkey)

/-! ### Pending installations -/

/-- A key strictly below the prefix of the pending installations. -/
def Pending (k : Keyspace) (key : String) : Prop :=
  ∃ rest, rest ≠ "" ∧ key = k.pendingPrefix ++ rest

/-- No key starts with the root of the catalog and with that of the pending installations. -/
def Apart (k : Keyspace) : Prop :=
  startsWith k.repositoriesPrefix k.pendingPrefix = false ∧
    startsWith k.pendingPrefix k.repositoriesPrefix = false

/-- With the default roots the pending installations lie aside from the catalog. -/
theorem standard_apart : standard.Apart := by
  unfold Apart
  decide +kernel

/-- A pending key does not lie below the root of the catalog. -/
theorem Apart.not_below (h : k.Apart) {key : String} (hkey : k.Pending key) :
    startsWith k.repositoriesPrefix key = false := by
  obtain ⟨rest, -, rfl⟩ := hkey
  cases hboth : startsWith k.repositoriesPrefix (k.pendingPrefix ++ rest) with
  | false => rfl
  | true =>
    -- Then both roots start the key, so that one starts the other.
    rcases startsWith_total hboth (startsWith_append _ _) with hroot | hpending
    · exact absurd (h.1.symm.trans hroot) Bool.false_ne_true
    · exact absurd (h.2.symm.trans hpending) Bool.false_ne_true

/-- A table with nothing but a catalog holds no pending installation. -/
theorem Apart.not_held (h : k.Apart) {t : Table Bytes}
    (ht : ∀ e ∈ t.entries, startsWith k.repositoriesPrefix e.1 = true) {key : String}
    (hkey : k.Pending key) : t.contains key = false := by
  cases hheld : t.contains key with
  | false => rfl
  | true =>
    obtain ⟨raw, hraw⟩ := Option.isSome_iff_exists.1 hheld
    cases (ht _ (Table.find?_eq_some.1 hraw)).symm.trans (h.not_below hkey)

/-- What lies below the root of the catalog outlasts the pending installations. -/
theorem Apart.below_eraseAll (h : k.Apart) {keys : List String}
    (hkeys : ∀ key ∈ keys, k.Pending key) (t : Table Bytes) :
    k.below (t.eraseAll keys) = k.below t := by
  induction keys generalizing t with
  | nil => rfl
  | cons key rest ih =>
    have hkey : startsWith k.repositoriesPrefix key = false :=
      h.not_below (hkeys key List.mem_cons_self)
    have hrest := ih (fun key' hkey' => hkeys key' (List.mem_cons_of_mem key hkey')) (t.erase key)
    exact hrest.trans (Entries.filter_erase hkey t.entries)

/-- Adding pending entries changes nothing below the root of the catalog. -/
theorem Apart.below_insertAll (h : k.Apart) {l : Entries Bytes} (hl : ∀ e ∈ l, k.Pending e.1)
    (t : Table Bytes) : k.below (t.insertAll l) = k.below t := by
  induction l generalizing t with
  | nil => rfl
  | cons e rest ih =>
    have hkey : startsWith k.repositoriesPrefix e.1 = false :=
      h.not_below (hl e List.mem_cons_self)
    have hrest := ih (fun e' he' => hl e' (List.mem_cons_of_mem e he')) (t.insert e.1 e.2)
    exact hrest.trans (Entries.filter_insert hkey e.2 t.entries)

end Keyspace

end ClusterPackages
