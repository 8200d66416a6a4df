import ClusterPackages.Proofs.Catalog.Precedence
import ClusterPackages.Proofs.Catalog.Visibility

namespace ClusterPackages

open Text

/-!
# Keys that are told apart

The key of a file is made of the number of a repository, the name of a package, a release and the
name of the file, with slashes between them.  The number and the name of the file can always be read
off the key.  What stands between them can be cut at its slashes into the package and the release,
unless these have slashes of their own; the capital form of the first letter, which stands there
too, has none then.

* `slash_not_mem_capital`, `slash_not_mem_bucket` — only a slash has a capital form with a slash.
* `Keyspace.getLast?_ofRoots` — the roots of a keyspace do not end in a slash.
* `Keyspace.artifact_eq_iff` — when two files have the same key.
* `releasePath_eq_iff` — a package and a release without a slash are read off their directory.
* `Keyspace.artifact_apart` — the key of a file of such a release is that of no other file; the keys
  of a repository itself are others, and so are the directories of other repositories.
-/

/-! ### Capital forms -/

/-- Every capital form in the tables lies beyond the slash. -/
theorem Text.slash_lt_capitals :
    (longCapitals.all fun e => e.2.all (0x2F < ·)) = true ∧
      (capitalRuns.all fun r => (0x2F : Int) < r.first + r.offset) = true := by
  decide +kernel

/-- The characters of a long capital form lie beyond the slash. -/
theorem Text.slash_lt_of_lookup {n m : Nat} {l : List Nat} (h : longCapitals.lookup n = some l)
    (hm : m ∈ l) : 0x2F < m := by
  obtain ⟨before, after, htable, -⟩ := List.lookup_eq_some_iff.1 h
  have hentry : (n, l) ∈ longCapitals := by simp [htable]
  have hall := List.all_eq_true.1 slash_lt_capitals.1 _ hentry
  simpa using List.all_eq_true.1 hall m hm

/-- A capital form of one character lies beyond the slash. -/
theorem Text.slash_lt_of_map? {n m : Nat} (h : PointRun.map? capitalRuns n = some m) :
    0x2F < m := by
  obtain ⟨r, hr, rfl⟩ := Option.map_eq_some_iff.1 h
  have hfits := List.find?_some hr
  simp only [Bool.and_eq_true, decide_eq_true_eq] at hfits
  have hrun : (0x2F : Int) < r.first + r.offset := by
    simpa using List.all_eq_true.1 slash_lt_capitals.2 r (List.mem_of_find?_eq_some hr)
  omega

/-- No code point beyond the slash is read as one, be it valid or not. -/
theorem Text.ofNat_ne_slash {n : Nat} (h : 0x2F < n) : Char.ofNat n ≠ '/' := by
  intro heq
  have hval : (Char.ofNat n).toNat ≠ 0x2F := by
    by_cases hvalid : n.isValidChar
    · rw [Char.ofNat, dif_pos hvalid]
      show n ≠ 0x2F
      omega
    · rw [Char.ofNat, dif_neg hvalid]
      decide
  exact hval (congrArg Char.toNat heq)

/-- Only the slash has a capital form with a slash. -/
theorem Text.slash_not_mem_capital {c : Char} (hc : c ≠ '/') : '/' ∉ capital c := by
  intro hmem
  unfold capital at hmem
  split at hmem
  · rename_i l hl
    obtain ⟨n, hn, heq⟩ := List.mem_map.1 hmem
    exact ofNat_ne_slash (slash_lt_of_lookup hl hn) heq
  · rw [List.mem_singleton] at hmem
    cases hmap : PointRun.map? capitalRuns c.toNat with
    | none =>
      -- the character is its own capital form
      rw [hmap, Option.getD_none, Char.ofNat_toNat] at hmem
      exact hc hmem.symm
    | some n =>
      rw [hmap, Option.getD_some] at hmem
      exact ofNat_ne_slash (slash_lt_of_map? hmap) hmem.symm

/-- The directory of a package's name has no slash in it if the name has none. -/
theorem slash_not_mem_bucket {name : String} (h : '/' ∉ name.toList) :
    '/' ∉ (bucket name).toList := by
  unfold bucket
  split
  · simp
  · rename_i c rest hname
    have hc : c ≠ '/' := by
      rintro rfl
      exact h (by simp [hname])
    rw [String.toList_ofList]
    exact slash_not_mem_capital hc

/-! ### The directory of a release -/

/-- Where a release lies among the packages of a repository. -/
def releasePath (package release : String) : String :=
  bucket package ++ "/" ++ package ++ "/" ++ release

/-- A package and a release without a slash share their directory with no others. -/
theorem releasePath_eq_iff {package release package' release' : String}
    (hpackage : '/' ∉ package.toList) (hrelease : '/' ∉ release.toList) :
    releasePath package release = releasePath package' release' ↔
      package = package' ∧ release = release' := by
  constructor
  · intro h
    have hsegments : [bucket package] ++ [package] ++ [release] =
        segments '/' (bucket package') ++ segments '/' package' ++ segments '/' release' := by
      have hboth := congrArg (segments '/') h
      simpa only [releasePath, segments_append, segments_of_not_mem hpackage,
        segments_of_not_mem hrelease, segments_of_not_mem (slash_not_mem_bucket hpackage)]
        using hboth
    -- there are three segments, so each of the other three parts is a single one
    have hlength := congrArg List.length hsegments
    simp only [List.length_append, List.length_singleton] at hlength
    have hb := one_le_length_segments '/' (bucket package')
    have hp := one_le_length_segments '/' package'
    have hr := one_le_length_segments '/' release'
    rw [segments_of_length (by omega), segments_of_length (by omega),
      segments_of_length (by omega)] at hsegments
    simp only [List.cons_append, List.nil_append, List.cons.injEq, and_true] at hsegments
    exact hsegments.2
  · rintro ⟨rfl, rfl⟩
    rfl

namespace Keyspace

/-- Neither root of a keyspace made from two texts ends in a slash, whatever the texts end in. -/
theorem getLast?_ofRoots (repositories apps : String) :
    (ofRoots repositories apps).repositoryRoot.toList.getLast? ≠ some '/' ∧
      (ofRoots repositories apps).appsRoot.toList.getLast? ≠ some '/' :=
  ⟨getLast?_dropTrailing '/' repositories, getLast?_dropTrailing '/' apps⟩

variable {k : Keyspace}

/-- The key of a file runs through the packages of its repository and the directory of its
    release. -/
theorem artifact_eq (index : Nat) (package release : String) (kind : ArtifactKind) :
    k.artifact index package release kind =
      k.packages index ++ "/" ++ releasePath package release ++ "/" ++ kind.fileName := by
  simp only [artifact, file, Keyspace.release, releasePath, String.append_assoc]

/-- Two files have the same key when they are of one kind, in one repository, and in directories
    that read the same. -/
theorem artifact_eq_iff {index index' : Nat} {package release package' release' : String}
    {kind kind' : ArtifactKind} :
    k.artifact index package release kind = k.artifact index' package' release' kind' ↔
      index = index' ∧ releasePath package release = releasePath package' release' ∧
        kind = kind' := by
  constructor
  · intro h
    have hindex : index = index' := by
      apply directory_unique (startsWith_artifact (k := k) index package release kind)
      rw [h]
      exact startsWith_artifact index' package' release' kind'
    obtain rfl := kind_of_artifact_eq h
    subst hindex
    rw [artifact_eq, artifact_eq, String.append_left_inj, String.append_left_inj,
      String.append_right_inj] at h
    exact ⟨rfl, h, rfl⟩
  · rintro ⟨rfl, hpath, rfl⟩
    rw [artifact_eq, artifact_eq, hpath]

/-- The key of a file is neither the name of a repository nor its last synchronisation nor its
    package index. -/
theorem artifact_ne_repositoryKeys (index : Nat) (package release : String) (kind : ArtifactKind)
    (j : Nat) :
    k.artifact index package release kind ≠ k.name j ∧
      k.artifact index package release kind ≠ k.updated j ∧
      k.artifact index package release kind ≠ k.packageIndex j := by
  have hupdated : k.updated j = k.repository j ++ "/" ++ "updated" := by
    rw [String.append_assoc]
    rfl
  have hindex : k.packageIndex j = k.repository j ++ "/repo/meta" ++ "/" ++ "index.json" := by
    simp only [String.append_assoc]
    rfl
  rw [name_eq, hupdated, hindex]
  exact ⟨artifact_ne (by simp) index package release kind,
    artifact_ne (by simp) index package release kind,
    artifact_ne (by simp) index package release kind⟩

/-- **Keys are told apart.**  The key of a file whose package and release have no slash in them is
    that of no other file, whatever the names of the other one.  The key of any file is none of the
    keys of a repository, and it lies in the directory of its own repository only. -/
theorem artifact_apart (k : Keyspace) (index : Nat) (package release : String)
    (kind : ArtifactKind) :
    ('/' ∉ package.toList → '/' ∉ release.toList →
      ∀ index' package' release' kind',
        k.artifact index package release kind = k.artifact index' package' release' kind' ↔
          index = index' ∧ package = package' ∧ release = release' ∧ kind = kind') ∧
    (∀ j, k.artifact index package release kind ≠ k.name j ∧
      k.artifact index package release kind ≠ k.updated j ∧
      k.artifact index package release kind ≠ k.packageIndex j) ∧
    ∀ j, startsWith (k.repository j ++ "/") (k.artifact index package release kind) = true ↔
      index = j := by
  refine ⟨?_, artifact_ne_repositoryKeys index package release kind, ?_⟩
  · intro hpackage hrelease index' package' release' kind'
    rw [artifact_eq_iff, releasePath_eq_iff hpackage hrelease, and_assoc]
  · intro j
    have hown := startsWith_artifact (k := k) index package release kind
    constructor
    · exact fun h => directory_unique hown h
    · rintro rfl
      exact hown

/-- The letter of the package has a capital form of two letters, and without a release two slashes
    follow each other; still no other file has this key. -/
theorem artifact_apart_eszett :
    standard.artifact 1 "ßeta" "" .options =
        "mantl-install/repository/1/repo/packages/SS/ßeta//mantl.json" ∧
      '/' ∉ "ßeta".toList ∧ '/' ∉ "".toList ∧
      ∀ index' package' release' kind',
        standard.artifact 1 "ßeta" "" .options = standard.artifact index' package' release' kind' ↔
          1 = index' ∧ "ßeta" = package' ∧ "" = release' ∧ ArtifactKind.options = kind' := by
  have hpackage : '/' ∉ "ßeta".toList := by decide +kernel
  have hrelease : '/' ∉ "".toList := by decide +kernel
  refine ⟨by decide +kernel, hpackage, hrelease, ?_⟩
  exact (artifact_apart standard 1 "ßeta" "" .options).1 hpackage hrelease

/-- With slashes in them, a package and a release may share their keys with others. -/
example : standard.artifact 0 "a" "b/c" .options = standard.artifact 0 "a/b" "c" .options := by
  decide +kernel

end Keyspace

end ClusterPackages
