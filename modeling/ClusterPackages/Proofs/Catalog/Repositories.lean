import ClusterPackages.Proofs.Catalog.Directories
import Mathlib.Data.List.Sort

namespace ClusterPackages

open Text

/-!
# The repositories of a catalog

The directories below the root are found by cutting keys.  What is left of a key is read leniently
as a number, and the number is written out again to look up the name.  So directories that do not
spell a number, or spell it in another way, count for nothing.

* `Repository.title` — number and name of a repository.
* `eq_of_ascending` — what stands in ascending order is determined by its members.
* `eq_base_append_layers` — where the numbers ascend, the base comes first and the layers follow.
* `Keyspace.mem_titles` — the numbers and names of the repositories are those of the name keys.
* `listRepositories_exact` — what is listed, and which keys it depends on.
-/

/-- The number and the name of a repository. -/
def Repository.title (r : Repository) : Nat × String := (r.index, r.name)

/-! ### Ascending lists -/

/-- What stands in ascending order of a number is determined by its members. -/
theorem eq_of_ascending {α : Type} {f : α → Nat} {l l' : List α}
    (h : l.Pairwise fun a b => f a < f b) (h' : l'.Pairwise fun a b => f a < f b)
    (hmem : ∀ a, a ∈ l ↔ a ∈ l') : l = l' := by
  have hantisymm : Std.Antisymm fun a b => f a < f b :=
    ⟨fun a b hab hba => absurd hba (Nat.lt_asymm hab)⟩
  have hirrefl : Std.Irrefl fun a b => f a < f b := ⟨fun a => Nat.lt_irrefl (f a)⟩
  exact h.eq_of_mem_iff h' hmem

variable {l : List Repository}

/-- Where the numbers ascend, the base stands in front of the layers. -/
theorem eq_base_append_layers (hasc : l.Pairwise fun r s => r.index < s.index) :
    l = (baseRepository? l).toList ++ layerRepositories l := by
  cases l with
  | nil => rfl
  | cons r rest =>
    -- Only the first number can be 0, so everything after it is a layer.
    have hlater : ∀ s ∈ rest, s.isBase = false := by
      intro s hs
      have hlt : r.index < s.index := (List.pairwise_cons.1 hasc).1 s hs
      have hne : s.index ≠ 0 := by omega
      simpa [Repository.isBase] using hne
    have hlayers : layerRepositories rest = rest := by
      refine List.filter_eq_self.2 fun s hs => ?_
      rw [hlater s hs]
      rfl
    by_cases hr : r.isBase = true
    · have hfound : baseRepository? (r :: rest) = some r := List.find?_cons_of_pos hr
      have hskip : layerRepositories (r :: rest) = layerRepositories rest :=
        List.filter_cons_of_neg (by simp [hr])
      rw [hfound, hskip, hlayers]
      rfl
    · have hnone : baseRepository? (r :: rest) = none := by
        refine List.find?_eq_none.2 fun s hs => ?_
        rcases List.mem_cons.1 hs with rfl | hs
        · exact hr
        · simp [hlater s hs]
      have hkeep : layerRepositories (r :: rest) = r :: layerRepositories rest :=
        List.filter_cons_of_pos (by simpa using hr)
      rw [hnone, hkeep, hlayers]
      rfl

/-- The base is the repository with the number 0. -/
theorem baseRepository?_eq_some (hasc : l.Pairwise fun r s => r.index < s.index)
    {r : Repository} : baseRepository? l = some r ↔ r ∈ l ∧ r.index = 0 := by
  constructor
  · intro hbase
    have hzero : r.index = 0 := by simpa [Repository.isBase] using List.find?_some hbase
    exact ⟨List.mem_of_find?_eq_some hbase, hzero⟩
  · rintro ⟨hmem, hzero⟩
    rw [eq_base_append_layers hasc] at hmem
    rcases List.mem_append.1 hmem with hbase | hlayer
    · exact Option.mem_toList.1 hbase
    · -- No layer has the number 0.
      have hnot := (List.mem_filter.1 hlayer).2
      simp [Repository.isBase, hzero] at hnot

namespace Keyspace

variable {k : Keyspace} {t t' : Table Bytes}

/-! ### Names -/

/-- A repository has a number that fits, and what is stored in its directory. -/
theorem mem_repositoriesIn_iff {r : Repository} : r ∈ k.repositoriesIn t ↔
    r.index < Nat.pow 2 32 ∧
      (∃ raw, t.find? (k.name r.index) = some raw ∧ r.name = trim (Utf8.lossy raw)) ∧
      r.updated = (t.find? (k.updated r.index)).bind fun raw => Instant.read? (Utf8.lossy raw) := by
  rw [mem_repositoriesIn, repositoryIn?, Option.map_eq_some_iff]
  refine and_congr_right fun _ => ?_
  constructor
  · rintro ⟨raw, hraw, hr⟩
    exact ⟨⟨raw, hraw, (congrArg Repository.name hr).symm⟩, (congrArg Repository.updated hr).symm⟩
  · rintro ⟨⟨raw, hraw, hname⟩, hupdated⟩
    refine ⟨raw, hraw, ?_⟩
    rw [← hname, ← hupdated]

/-- The numbers and names of the repositories are those of the name keys. -/
theorem mem_titles {i : Nat} {name : String} :
    (i, name) ∈ (k.repositoriesIn t).map Repository.title ↔
      i < Nat.pow 2 32 ∧ ∃ raw, t.find? (k.name i) = some raw ∧ name = trim (Utf8.lossy raw) := by
  rw [List.mem_map]
  constructor
  · rintro ⟨r, hr, htitle⟩
    cases htitle
    obtain ⟨hlt, hname, -⟩ := mem_repositoriesIn_iff.1 hr
    exact ⟨hlt, hname⟩
  · rintro ⟨hlt, hname⟩
    exact ⟨⟨name, i, (t.find? (k.updated i)).bind fun raw => Instant.read? (Utf8.lossy raw)⟩,
      mem_repositoriesIn_iff.2 ⟨hlt, hname, rfl⟩, rfl⟩

/-- No other keys have a say in which repositories there are, and in which order. -/
theorem titles_congr (h : ∀ i < Nat.pow 2 32, t'.find? (k.name i) = t.find? (k.name i)) :
    (k.repositoriesIn t').map Repository.title = (k.repositoriesIn t).map Repository.title := by
  have hasc : ∀ s : Table Bytes,
      ((k.repositoriesIn s).map Repository.title).Pairwise fun a b => a.1 < b.1 := fun s =>
    List.pairwise_map.2 repositoriesIn_ascending
  refine eq_of_ascending (hasc t') (hasc t) fun (i, name) => ?_
  rw [mem_titles, mem_titles]
  refine and_congr_right fun hlt => ?_
  rw [h i hlt]

end Keyspace

/-! ### The listing -/

/-- **The listing of repositories.**  With the slashes at the end of the root taken away, each
    number that fits 32 bits and has a name key, written in plain decimal, stands for exactly one
    repository, and there is no other.  They are listed in ascending order, the base first if there
    is one, then the layers.  Whatever else is stored below the root has no effect on the numbers,
    the names and their order. -/
theorem listRepositories_exact {w : World} (hworks : ∀ calls c, w.fails calls c = false)
    (root apps : String) :
    let k := Keyspace.ofRoots root apps
    let nameKey := fun i : Nat => dropTrailing '/' root ++ "/" ++ toString i ++ "/name"
    ∃ listed, (listRepositories World.storeService k w).1 = .ok listed ∧
      listed.Pairwise (fun r s => r.index < s.index) ∧
      (∀ r, r ∈ listed ↔ r.index < Nat.pow 2 32 ∧
        (∃ raw, w.store.find? (nameKey r.index) = some raw ∧ r.name = trim (Utf8.lossy raw)) ∧
        r.updated =
          (w.store.find? (k.updated r.index)).bind fun raw => Instant.read? (Utf8.lossy raw)) ∧
      (∀ w' : World, (∀ calls c, w'.fails calls c = false) →
        (∀ i < Nat.pow 2 32, w'.store.find? (nameKey i) = w.store.find? (nameKey i)) →
        ∃ listed', (listRepositories World.storeService k w').1 = .ok listed' ∧
          listed'.map Repository.title = listed.map Repository.title) ∧
      (∀ r, baseRepository? listed = some r ↔ r ∈ listed ∧ r.index = 0) ∧
      listed = (baseRepository? listed).toList ++ layerRepositories listed := by
  intro k nameKey
  have hlisted : ∀ v : World, (∀ calls c, v.fails calls c = false) →
      (listRepositories World.storeService k v).1 = .ok (k.repositoriesIn v.store) := fun v hv =>
    (listRepositories_answers (World.serves v) k).outcome (.refl v) (World.not_faulty hv)
  have hasc := Keyspace.repositoriesIn_ascending (k := k) (t := w.store)
  refine ⟨k.repositoriesIn w.store, hlisted w hworks, hasc, fun r =>
    Keyspace.mem_repositoriesIn_iff, fun w' hworks' hnames => ?_, fun r =>
    baseRepository?_eq_some hasc, eq_base_append_layers hasc⟩
  exact ⟨k.repositoriesIn w'.store, hlisted w' hworks', Keyspace.titles_congr hnames⟩

/-- Three repositories among directories that spell none of their numbers. -/
def strayStore : Table Bytes := Table.ofList [
  ("cat/0/name", Utf8.encode "base"),
  ("cat/10/name", Utf8.encode " late "),
  ("cat/2/name", Utf8.encode "site"),
  ("cat/2/updated", Utf8.encode "yesterday"),
  ("cat/+5/name", Utf8.encode "signed"),
  ("cat/007/name", Utf8.encode "padded"),
  ("cat/3/updated", Utf8.encode "nameless"),
  ("cat/4294967296/name", Utf8.encode "beyond"),
  ("cat//name", Utf8.encode "empty"),
  ("cat/junk/name", Utf8.encode "junk")]

/-- The stray directories do not show. -/
theorem listRepositories_exact_stray :
    let w := World.holding strayStore
    (∀ calls c, w.fails calls c = false) ∧
      ∃ listed, (listRepositories World.storeService (.ofRoots "cat//" "queue") w).1 = .ok listed ∧
        listed.map Repository.title = [(0, "base"), (2, "site"), (10, "late")] ∧
        baseRepository? listed = some ⟨"base", 0, none⟩ ∧
        layerRepositories listed = [⟨"site", 2, none⟩, ⟨"late", 10, none⟩] := by
  intro w
  have hworks : ∀ calls c, w.fails calls c = false := fun _ _ => rfl
  obtain ⟨listed, hrun, -, -, -, hbase, hsplit⟩ := listRepositories_exact hworks "cat//" "queue"
  have hevaluated : (listRepositories World.storeService (.ofRoots "cat//" "queue") w).1.toOption =
      some [⟨"base", 0, none⟩, ⟨"site", 2, none⟩, ⟨"late", 10, none⟩] := by decide +kernel
  rw [hrun] at hevaluated
  have hthree : listed = [⟨"base", 0, none⟩, ⟨"site", 2, none⟩, ⟨"late", 10, none⟩] :=
    Option.some.inj hevaluated
  have hfirst : baseRepository? listed = some ⟨"base", 0, none⟩ :=
    (hbase _).2 ⟨by simp [hthree], rfl⟩
  refine ⟨hworks, listed, hrun, by simp [hthree, Repository.title], hfirst, ?_⟩
  rw [hfirst, hthree] at hsplit
  rw [hthree]
  exact (List.cons.inj hsplit).2.symm

end ClusterPackages
