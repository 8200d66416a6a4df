import ClusterPackages.Proofs.Catalog.Snapshot
import ClusterPackages.Proofs.Table
import ClusterPackages.Proofs.Text.Affix
import ClusterPackages.Proofs.Text.Digit

namespace ClusterPackages

open Text

/-!
# Which repositories there are

The numbers of the repositories are read off the directories below the root.  A directory is found
wherever a key lies in it, so that the name of a repository is enough for it to be found.

* `mem_ascendingIndexes`, `World.mem_distinct` — sorting leaves the members.
* `repositoryIndex?_directory` — the number of a directory.
* `Keyspace.mem_repositoriesIn` — the repositories are the numbers below `2 ^ 32` with a name.
-/

/-! ### Sorting -/

/-- Inserting a number adds this number and no other. -/
theorem mem_insertIndex {n m : Nat} {l : List Nat} : m ∈ insertIndex n l ↔ m = n ∨ m ∈ l := by
  induction l with
  | nil => simp [insertIndex]
  | cons i rest ih =>
    unfold insertIndex
    split
    · simp
    · split
      · rename_i heq
        subst heq
        simp
      · rw [List.mem_cons, ih, List.mem_cons]
        exact or_left_comm

theorem mem_ascendingIndexes {m : Nat} {l : List Nat} : m ∈ ascendingIndexes l ↔ m ∈ l := by
  unfold ascendingIndexes
  induction l with
  | nil => rfl
  | cons n rest ih => rw [List.foldr_cons, mem_insertIndex, ih, List.mem_cons]

theorem World.mem_distinct {s : String} {l : List String} : s ∈ World.distinct l ↔ s ∈ l := by
  rw [World.distinct, Table.mem_keys, Table.contains_ofList, List.map_map]
  simp

/-! ### Numbers -/

/-- A number below `2 ^ 32` is read off its digits. -/
theorem parseIndex?_toDigits {n : Nat} (h : n < Nat.pow 2 32) :
    parseIndex? (Nat.toDigits 10 n) = some n := by
  have hdigits : (Nat.toDigits 10 n).all isDigit = true :=
    List.all_eq_true.2 (isDigit_toDigits n)
  have hplus := not_mem_toDigits (c := '+') rfl n
  have hvalue : Nat.ofDigitChars 10 (Nat.toDigits 10 n) 0 = n := Nat.ofDigitChars_ten_toDigits
  have hne : Nat.toDigits 10 n ≠ [] := Nat.toDigits_ne_nil
  unfold parseIndex?
  cases hcs : Nat.toDigits 10 n with
  | nil => exact absurd hcs hne
  | cons c cs =>
    rw [hcs] at hdigits hplus hvalue
    have hc : c ≠ '+' := fun heq => hplus (heq ▸ List.mem_cons_self)
    -- There is no sign to be taken off.
    split
    · rename_i heq
      cases heq
      exact absurd rfl hc
    · simp only [hdigits, hvalue, List.isEmpty_cons]
      simpa using h

/-- No number beyond 32 bits is read. -/
theorem lt_of_parseIndex? {s : List Char} {n : Nat} (h : parseIndex? s = some n) :
    n < Nat.pow 2 32 := by
  obtain ⟨hfits, hn⟩ := Option.ite_none_right_eq_some.1 h
  obtain ⟨-, hlt⟩ := Bool.and_eq_true_iff.1 hfits
  cases hn
  exact of_decide_eq_true hlt

/-- Behind a text that does not have the character in it, one copy of the character is dropped. -/
theorem dropTrailing_append {s t : String} {a : Char} (hne : t.toList ≠ []) (ha : a ∉ t.toList) :
    dropTrailing a (s ++ t ++ String.singleton a) = s ++ t := by
  have hlast : t.toList.reverse ≠ [] := by simpa using hne
  obtain ⟨d, rest, hrest⟩ := List.exists_cons_of_ne_nil hlast
  have hd : d ≠ a := by
    intro heq
    have hmem : d ∈ t.toList.reverse := hrest ▸ List.mem_cons_self
    exact ha (heq ▸ List.mem_reverse.1 hmem)
  have hchars : (s ++ t ++ String.singleton a).toList.reverse =
      a :: (d :: rest ++ s.toList.reverse) := by
    simp [← hrest]
  have hdrop : (a :: (d :: rest ++ s.toList.reverse)).dropWhile (· == a) =
      d :: rest ++ s.toList.reverse := by
    simp [hd]
  rw [dropTrailing, hchars, hdrop, ← hrest, ← List.reverse_append, List.reverse_reverse,
    ← String.toList_append, String.ofList_toList]

namespace Keyspace

variable {k : Keyspace}

/-- The name of a repository lies in its directory. -/
theorem name_eq (n : Nat) : k.name n = k.repository n ++ "/" ++ "name" := by
  rw [String.append_assoc]
  rfl

/-- The number of the directory that a number denotes. -/
theorem repositoryIndex?_directory {n : Nat} (h : n < Nat.pow 2 32) :
    repositoryIndex? (k.repository n ++ "/") = some n := by
  have hdigits : (toString n).toList = Nat.toDigits 10 n := by simp
  have hslash : '/' ∉ (toString n).toList := by
    rw [hdigits]
    exact not_mem_toDigits rfl n
  have hne : (toString n).toList ≠ [] := by
    rw [hdigits]
    exact Nat.toDigits_ne_nil
  have hdirectory : dropTrailing '/' (k.repository n ++ "/") =
      k.repositoryRoot ++ "/" ++ toString n := dropTrailing_append hne hslash
  -- There is no slash in the digits, so they are the last segment.
  rw [repositoryIndex?, hdirectory, getLast?_segments hslash, Option.bind_some, hdigits,
    parseIndex?_toDigits h]

/-- A cut at a slash takes what stands before the first slash, and the slash. -/
theorem cutAtChars?_slash {cs : List Char} (h : '/' ∉ cs) (rest : List Char) :
    cutAtChars? ['/'] (cs ++ '/' :: rest) = some (cs ++ ['/']) := by
  induction cs with
  | nil => simp [cutAtChars?, stripPrefixChars?]
  | cons c cs ih =>
    have hc : '/' ≠ c := fun heq => h (heq ▸ List.mem_cons_self)
    have hcs := ih fun hmem => h (List.mem_cons_of_mem c hmem)
    simp [cutAtChars?, stripPrefixChars?, hc, hcs]

/-- A key in the directory of a repository counts as the directory. -/
theorem rollUp_repository (n : Nat) (rest : String) :
    World.rollUp k.repositoriesPrefix (some "/") (k.repository n ++ "/" ++ rest) =
      k.repository n ++ "/" := by
  have hstrip : stripPrefix? k.repositoriesPrefix (k.repository n ++ "/" ++ rest) =
      some (toString n ++ "/" ++ rest) :=
    stripPrefix?_eq_some.2 (by simp only [repository, String.append_assoc])
  have hcut : cutAt? "/" (toString n ++ "/" ++ rest) = some (toString n ++ "/") := by
    have hchars : (toString n ++ "/" ++ rest).toList = Nat.toDigits 10 n ++ '/' :: rest.toList := by
      simp
    rw [cutAt?, hchars, show "/".toList = ['/'] from rfl,
      cutAtChars?_slash (not_mem_toDigits rfl n), Option.map_some]
    refine congrArg some (String.toList_injective ?_)
    simp
  unfold World.rollUp
  simp only [Option.bind_some, hstrip, hcut]
  rw [repository, String.append_assoc]

/-! ### Repositories -/

variable {t : Table Bytes}

/-- A number whose repository has a name is found among the directories. -/
theorem mem_indexesIn {n : Nat} (h : n < Nat.pow 2 32) (hname : t.contains (k.name n) = true) :
    n ∈ k.indexesIn t := by
  have hfrom : k.name n ∈ World.keysFrom t k.repositoriesPrefix := by
    refine List.mem_filter.2 ⟨Table.mem_keys.2 hname, ?_⟩
    rw [name, repository, String.append_assoc]
    exact startsWith_append _ _
  -- The key of the name stands for the directory, and the directory for the number.
  refine mem_ascendingIndexes.2 (List.mem_filterMap.2 ⟨k.repository n ++ "/", ?_,
    repositoryIndex?_directory h⟩)
  refine World.mem_distinct.2 (List.mem_map.2 ⟨k.name n, hfrom, ?_⟩)
  rw [name_eq]
  exact rollUp_repository n "name"

theorem lt_of_mem_indexesIn {n : Nat} (h : n ∈ k.indexesIn t) : n < Nat.pow 2 32 := by
  obtain ⟨directory, -, hindex⟩ := List.mem_filterMap.1 (mem_ascendingIndexes.1 h)
  obtain ⟨last, -, hparse⟩ := Option.bind_eq_some_iff.1 hindex
  exact lt_of_parseIndex? hparse

/-- The repositories are the numbers below `2 ^ 32` with a name. -/
theorem mem_repositoriesIn {r : Repository} :
    r ∈ k.repositoriesIn t ↔ r.index < Nat.pow 2 32 ∧ k.repositoryIn? t r.index = some r := by
  unfold repositoriesIn
  rw [List.mem_filterMap]
  constructor
  · rintro ⟨n, hn, hr⟩
    obtain rfl := index_of_repositoryIn? hr
    exact ⟨lt_of_mem_indexesIn hn, hr⟩
  · rintro ⟨hlt, hr⟩
    obtain ⟨name, hname, -⟩ := Option.map_eq_some_iff.1 hr
    have hcontains : t.contains (k.name r.index) = true := Option.isSome_iff_exists.2 ⟨name, hname⟩
    exact ⟨r.index, mem_indexesIn hlt hcontains, hr⟩

end Keyspace

end ClusterPackages
