import ClusterPackages.Proofs.Catalog.Listing
import ClusterPackages.Proofs.Catalog.Repositories
import ClusterPackages.Proofs.Deploy.Installation

namespace ClusterPackages

open Text

/-!
# What a directory without a name shows

A directory is found wherever a key lies in it, and left out if its number has no name key.  Every
key that is read after that is built from the number of a repository, a package and a release, and
lies in the directory of that repository, whatever package and release are.  So nothing that is
stored in other directories can be seen.

* `Keyspace.directory_unique` — a key lies in the directory of one number at most.
* `Keyspace.AgreeOnNamed` — tables that differ only in directories that are repositories in neither.
* `Keyspace.AgreeOnNamed.sameCatalog` — such tables have the same catalog.
* `World.EndsAlike` — an action ends alike in two worlds, as far as no call fails.
* `nameless_invisible` — so does all that reads the catalog.
-/

open ClusterPackages.Action (Answers)

namespace Keyspace

variable {k : Keyspace} {t t' : Table Bytes}

/-! ### Directories -/

/-- Directories with the same text are those of one number. -/
theorem repository_injective {i j : Nat} (h : k.repository i ++ "/" = k.repository j ++ "/") :
    i = j := by
  have hchars := congrArg String.toList h
  have hdigits : Nat.toDigits 10 i = Nat.toDigits 10 j := by
    simpa [repository, repositoriesPrefix] using hchars
  exact toDigits_injective hdigits

/-- A key lies in the directory of one number at most. -/
theorem directory_unique {i j : Nat} {key : String}
    (hi : startsWith (k.repository i ++ "/") key = true)
    (hj : startsWith (k.repository j ++ "/") key = true) : i = j := by
  obtain ⟨rest, rfl⟩ := exists_of_startsWith hi
  obtain ⟨rest', hsame⟩ := exists_of_startsWith hj
  -- The key is cut after its first slash below the root, whichever number is meant.
  have hcut := congrArg (World.rollUp k.repositoriesPrefix (some "/")) hsame
  rw [rollUp_repository, rollUp_repository] at hcut
  exact repository_injective hcut

/-- The tables differ only in directories of numbers that are repositories in neither of them. -/
def AgreeOnNamed (k : Keyspace) (t t' : Table Bytes) : Prop :=
  ∀ key, t.find? key ≠ t'.find? key →
    ∃ i, startsWith (k.repository i ++ "/") key = true ∧ ¬ k.Named t i ∧ ¬ k.Named t' i

namespace AgreeOnNamed

/-- In the directory of a repository the tables hold the same. -/
theorem find?_eq (h : k.AgreeOnNamed t t') {i : Nat} (hi : k.Named t i ∨ k.Named t' i)
    {key : String} (hkey : startsWith (k.repository i ++ "/") key = true) :
    t.find? key = t'.find? key := by
  by_contra hne
  obtain ⟨j, hj, hnot, hnot'⟩ := h key hne
  obtain rfl := directory_unique hkey hj
  rcases hi with hi | hi
  · exact hnot hi
  · exact hnot' hi

/-- A number with a name in one of the tables is the same repository in both. -/
theorem repositoryIn?_eq (h : k.AgreeOnNamed t t') {i : Nat} (hi : k.Named t i ∨ k.Named t' i) :
    k.repositoryIn? t i = k.repositoryIn? t' i := by
  have hname : t.find? (k.name i) = t'.find? (k.name i) :=
    h.find?_eq hi (startsWith_directory "name" rfl)
  have hupdated : t.find? (k.updated i) = t'.find? (k.updated i) :=
    h.find?_eq hi (startsWith_directory "updated" rfl)
  rw [repositoryIn?, repositoryIn?, hname, hupdated]

/-- Both tables have the same repositories. -/
theorem mem_repositoriesIn_congr (h : k.AgreeOnNamed t t') (r : Repository) :
    r ∈ k.repositoriesIn t ↔ r ∈ k.repositoriesIn t' := by
  constructor
  · intro hr
    have hnamed : k.Named t r.index := named_iff.2 ⟨r, hr, rfl⟩
    rw [mem_repositoriesIn] at hr ⊢
    rwa [← h.repositoryIn?_eq (.inl hnamed)]
  · intro hr
    have hnamed : k.Named t' r.index := named_iff.2 ⟨r, hr, rfl⟩
    rw [mem_repositoriesIn] at hr ⊢
    rwa [h.repositoryIn?_eq (.inr hnamed)]

/-- The repositories are the same, and so is what they hold. -/
theorem sameCatalog (h : k.AgreeOnNamed t t') : k.SameCatalog t t' where
  repositories :=
    eq_of_ascending repositoriesIn_ascending repositoriesIn_ascending h.mem_repositoriesIn_congr
  find? r hr _ hkey := h.find?_eq (.inl (named_iff.2 ⟨r, hr, rfl⟩)) hkey

end AgreeOnNamed

end Keyspace

/-! ### Runs in two worlds -/

/-- The action ends alike in both worlds where no call fails.  Failing calls may keep it from ending
    with a value in one of them, but it never ends with two different values. -/
def World.EndsAlike {α : Type} (w w' : World) (x : Action World α) : Prop :=
  ((∀ calls c, w.fails calls c = false) → (∀ calls c, w'.fails calls c = false) →
    (x w).1 = (x w').1) ∧
  ∀ a a', (x w).1 = .ok a → (x w').1 = .ok a' → a = a'

/-- What has the same known answer in both worlds ends alike. -/
theorem World.endsAlike_of_answers {α : Type} {w w' : World} {x : Action World α}
    {r r' : Except Error α} (hr : r = r')
    (hx : Answers w.Unchanged (∃ calls c, w.fails calls c = true) x r)
    (hx' : Answers w'.Unchanged (∃ calls c, w'.fails calls c = true) x r') :
    w.EndsAlike w' x := by
  subst hr
  constructor
  · intro hworks hworks'
    rw [hx.outcome (.refl w) (not_faulty hworks), hx'.outcome (.refl w') (not_faulty hworks')]
  · intro a a' ha ha'
    have hr := hx.eq_of_ok (.refl w) ha
    have hr' := hx'.eq_of_ok (.refl w') ha'
    exact Except.ok.inj (hr.symm.trans hr')

/-- **A directory without a name is invisible.**  In stores that differ only in directories of
    numbers that are repositories in neither, be it the number of the base, the same repositories,
    packages, files, definitions and apps are found, whatever is asked for. -/
theorem nameless_invisible {k : Keyspace} {w w' : World} (h : k.AgreeOnNamed w.store w'.store)
    (p : Platform) :
    let m := World.manager k p
    w.EndsAlike w' m.repositories ∧ w.EndsAlike w' m.packages ∧
      (∀ name, w.EndsAlike w' (m.find? name)) ∧
      (∀ package release, w.EndsAlike w' (m.compose package release)) ∧
      (∀ name version config, w.EndsAlike w' (m.definition name version config)) ∧
      ∀ r, w.EndsAlike w' (m.buildApp r) := by
  intro m
  have hcatalog := h.sameCatalog
  have hs := World.serves w
  have hs' := World.serves w'
  -- Each of them is a function of the catalog.
  refine ⟨?_, ?_, fun name => ?_, fun package release => ?_, fun name version config => ?_,
    fun r => ?_⟩
  · exact World.endsAlike_of_answers (congrArg Except.ok hcatalog.repositories)
      (listRepositories_answers hs k) (listRepositories_answers hs' k)
  · exact World.endsAlike_of_answers (Keyspace.packagesIn_congr hcatalog)
      (listPackages_answers hs k) (listPackages_answers hs' k)
  · exact World.endsAlike_of_answers (Keyspace.packageIn_congr hcatalog name)
      (findPackage_answers hs k name) (findPackage_answers hs' k name)
  · exact World.endsAlike_of_answers
      (congrArg Except.ok (Keyspace.releaseIn_congr hcatalog package release))
      (composeRelease_answers hs k package release) (composeRelease_answers hs' k package release)
  · exact World.endsAlike_of_answers
      (Keyspace.definitionIn_congr hcatalog name version config p)
      (resolveDefinition_answers hs k name version config p)
      (resolveDefinition_answers hs' k name version config p)
  · have happ : m.keyspace.appIn m.platform w.store r = m.keyspace.appIn m.platform w'.store r :=
      Keyspace.appIn_congr hcatalog
    exact World.endsAlike_of_answers happ (buildApp_answers hs r) (buildApp_answers hs' r)

/-- A manifest in the directory of a number that has no name. -/
def ghostKey : String := "r/5/repo/packages/K/kafka/0/marathon.json"

/-- A catalog with that manifest. -/
def ghostStore : Table Bytes := (markedStore (Utf8.encode "\x7b\x7d")).insert ghostKey
  (Utf8.encode "\x7b\x7d")

/-- The manifest is stored, and yet no file of the release. -/
theorem nameless_invisible_ghost :
    let w := World.holding (markedStore (Utf8.encode "\x7b\x7d"))
    let w' := World.holding ghostStore
    markedKeyspace.AgreeOnNamed w.store w'.store ∧ w'.store.contains ghostKey = true ∧
      ∃ overlay,
        (composeRelease World.storeService markedKeyspace "kafka" "0" w').1 = .ok overlay ∧
        overlay .manifest = none := by
  intro w w'
  have hnot : ∀ t : Table Bytes, t.contains (markedKeyspace.name 5) = false →
      ¬ markedKeyspace.Named t 5 := by
    rintro t hnone ⟨-, hname⟩
    cases hnone.symm.trans hname
  have hagree : markedKeyspace.AgreeOnNamed w.store w'.store := by
    intro key hne
    have hkey : key = ghostKey := by
      by_contra hother
      exact hne (Entries.find?_insert_of_ne hother).symm
    subst hkey
    exact ⟨5, by decide +kernel, hnot _ (by decide +kernel), hnot _ (by decide +kernel)⟩
  obtain ⟨-, -, -, hcompose, -⟩ := nameless_invisible hagree .empty
  have hsame := (hcompose "kafka" "0").1 (fun _ _ => rfl) fun _ _ => rfl
  have hevaluated : (composeRelease World.storeService markedKeyspace "kafka" "0"
      w).1.toOption.map (fun o => o .manifest) = some none := by decide +kernel
  have hrun : (composeRelease World.storeService markedKeyspace "kafka" "0" w).1 =
    (composeRelease World.storeService markedKeyspace "kafka" "0" w').1 := hsame
  rw [hrun] at hevaluated
  cases hoverlay : (composeRelease World.storeService markedKeyspace "kafka" "0" w').1 with
  | error e =>
    rw [hoverlay] at hevaluated
    cases hevaluated
  | ok overlay =>
    rw [hoverlay] at hevaluated
    exact ⟨hagree, by decide +kernel, overlay, rfl, Option.some.inj hevaluated⟩

end ClusterPackages
