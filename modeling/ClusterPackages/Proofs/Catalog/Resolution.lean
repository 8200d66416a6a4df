import ClusterPackages.Proofs.Catalog.Recency
import ClusterPackages.Proofs.Text.Order

namespace ClusterPackages

open Text

/-!
# Which version is taken

Versions and releases are compared byte by byte.

* `find?_eq_some_iff_least` — a search through an ordered list ends at the least element that passes
  the test.
* `Package.KeyBefore`, `Package.MoreRecent` — the two orders of the versions of a package.
* `Package.Denotes`, `Package.Latest` — the version that a name stands for, and the most recent one
  that passes a test.
* `Package.Chosen` — the version that is taken, with the rule by which it is.
* `Package.find?_spec` — the version that is found is the one that is so chosen.
-/

/-! ### Searches -/

/-- In a list that is in order, a search ends at the least of the elements that pass the test. -/
theorem find?_eq_some_iff_least {α : Type} {r : α → α → Prop} (hasymm : ∀ a b, r a b → ¬ r b a)
    {l : List α} (hl : l.Pairwise r) {test : α → Bool} {a : α} :
    l.find? test = some a ↔
      a ∈ l ∧ test a = true ∧ ∀ b ∈ l, test b = true → b = a ∨ r a b := by
  have hleast : ∀ {c}, l.find? test = some c → ∀ b ∈ l, test b = true → b = c ∨ r c b := by
    intro c hc b hb htest
    obtain ⟨-, before, after, rfl, hbefore⟩ := List.find?_eq_some_iff_append.1 hc
    rcases List.mem_append.1 hb with hb | hb
    · have hnot := hbefore b hb
      rw [htest] at hnot
      cases hnot
    · rcases List.mem_cons.1 hb with heq | hb
      · exact .inl heq
      · exact .inr ((List.pairwise_cons.1 (List.pairwise_append.1 hl).2.1).1 b hb)
  constructor
  · exact fun h => ⟨List.mem_of_find?_eq_some h, List.find?_some h, hleast h⟩
  · rintro ⟨ha, htest, hfirst⟩
    obtain ⟨c, hc⟩ := Option.isSome_iff_exists.1 (List.find?_isSome.2 ⟨a, ha, htest⟩)
    -- Each of the two is the other or comes before it.
    rcases hleast hc a ha htest with rfl | hca
    · exact hc
    · rcases hfirst c (List.mem_of_find?_eq_some hc) (List.find?_some hc) with rfl | hac
      · exact hc
      · exact absurd hca (hasymm a c hac)

/-- Whether the version has the name, up to blanks around the name and the case of ASCII letters. -/
def Version.isNamed (name : String) (v : Version) : Bool := sameIgnoringCase v.name (trim name)

namespace Package

/-! ### Orders -/

/-- The first key is smaller, byte by byte. -/
def KeyBefore (e f : String × Version) : Prop := Utf8.encode e.1 < Utf8.encode f.1

/-- The first release is greater, byte by byte, or the releases are the same and the first key is
    smaller. -/
def MoreRecent (e f : String × Version) : Prop :=
  Utf8.encode f.2.release < Utf8.encode e.2.release ∨ f.2.release = e.2.release ∧ KeyBefore e f

/-- The order of the bytes of keys is the order of texts. -/
theorem keyBefore_iff {e f : String × Version} : KeyBefore e f ↔ e.1 < f.1 :=
  Utf8.encode_lt_encode

theorem moreRecent_iff {e f : String × Version} :
    MoreRecent e f ↔ f.2.release < e.2.release ∨ f.2.release = e.2.release ∧ e.1 < f.1 := by
  rw [MoreRecent, keyBefore_iff, Utf8.encode_lt_encode]

/-- No two keys come before each other. -/
theorem keyBefore_asymm (e f : String × Version) (h : KeyBefore e f) : ¬ KeyBefore f e :=
  fun h' => String.lt_asymm (keyBefore_iff.1 h) (keyBefore_iff.1 h')

theorem moreRecent_asymm (e f : String × Version) (h : MoreRecent e f) : ¬ MoreRecent f e := by
  intro h'
  rw [moreRecent_iff] at h h'
  rcases h with hlt | ⟨heq, hlt⟩ <;> rcases h' with hlt' | ⟨heq', hlt'⟩
  · exact String.lt_asymm hlt hlt'
  · exact String.lt_irrefl _ (heq' ▸ hlt)
  · exact String.lt_irrefl _ (heq ▸ hlt')
  · exact String.lt_asymm hlt hlt'

variable (p : Package)

/-- The entries from the most recent release to the oldest. -/
def recent : Entries Version := p.versions.entries.mergeSort fun e f => e.2.noOlder f.2

/-- Sorting the versions is sorting the entries. -/
theorem byRecency_eq : p.byRecency = p.recent.map (·.2) :=
  (List.map_mergeSort (f := Prod.snd) fun _ _ _ _ => rfl).symm

/-- Sorting neither adds nor loses an entry. -/
theorem recent_perm : p.recent.Perm p.versions.entries := List.mergeSort_perm _ _

/-- The sort tells two entries apart by their releases, and keeps them in the order of their keys
    otherwise. -/
theorem recent_pairwise : p.recent.Pairwise MoreRecent := by
  have htrans : ∀ e f g : String × Version, e.2.noOlder f.2 = true → f.2.noOlder g.2 = true →
      e.2.noOlder g.2 = true := fun e f g => Version.noOlder_trans e.2 f.2 g.2
  have htotal : ∀ e f : String × Version, (e.2.noOlder f.2 || f.2.noOlder e.2) = true :=
    fun e f => Version.noOlder_total e.2 f.2
  have hsorted := List.pairwise_mergeSort htrans htotal p.versions.entries
  rw [List.pairwise_iff_forall_sublist] at hsorted ⊢
  intro e f hsub
  have hle : f.2.release ≤ e.2.release := Version.noOlder_iff.1 (hsorted hsub)
  rw [moreRecent_iff]
  by_cases heq : f.2.release = e.2.release
  · -- The two stand among the entries of one release in the order of the table.
    have hkeys := hsub.filter (·.2.release == e.2.release)
    rw [recent, filter_mergeSort htrans htotal (fun _ _ h => Version.noOlder_of_eq h)] at hkeys
    simp only [List.filter_cons, heq, beq_self_eq_true, if_true, List.filter_nil] at hkeys
    have hasc := p.versions.ascending.filter (·.2.release == e.2.release)
    exact .inr ⟨heq, List.pairwise_iff_forall_sublist.1 hasc hkeys⟩
  · exact .inl (Std.lt_of_le_of_ne hle heq)

/-! ### Which version comes first -/

/-- The entry is one whose version passes the test, and comes before all others. -/
structure Least (r : String × Version → String × Version → Prop) (test : Version → Bool)
    (e : String × Version) : Prop where
  /-- It is an entry of the package. -/
  mem : e ∈ p.versions.entries
  /-- Its version passes the test. -/
  passes : test e.2 = true
  /-- It comes before the others. -/
  least : ∀ f ∈ p.versions.entries, test f.2 = true → f = e ∨ r e f

variable {p} in
/-- The version of such an entry is one of the package. -/
theorem Least.mem_values {r : String × Version → String × Version → Prop} {test : Version → Bool}
    {e : String × Version} (h : p.Least r test e) : e.2 ∈ p.versions.values :=
  List.mem_map_of_mem h.mem

/-- The name stands for the version: of those that have it up to blanks and case, the version has
    the smallest key. -/
def Denotes (name : String) (e : String × Version) : Prop :=
  p.Least KeyBefore (Version.isNamed name) e

/-- Of the versions that pass the test, the most recent one. -/
def Latest (test : Version → Bool) (e : String × Version) : Prop := p.Least MoreRecent test e

variable {p}

/-- In an order in which the entries stand, the first version to pass a test belongs to the entry
    that comes before all others that pass. -/
theorem find?_eq_some_iff {r : String × Version → String × Version → Prop}
    (hasymm : ∀ e f, r e f → ¬ r f e) {l : Entries Version} (hperm : l.Perm p.versions.entries)
    (hl : l.Pairwise r) {test : Version → Bool} {v : Version} :
    (l.map (·.2)).find? test = some v ↔ ∃ key, p.Least r test (key, v) := by
  rw [List.find?_map, Option.map_eq_some_iff]
  constructor
  · rintro ⟨⟨key, v⟩, hfind, rfl⟩
    obtain ⟨hmem, htest, hleast⟩ := (find?_eq_some_iff_least hasymm hl).1 hfind
    exact ⟨key, hperm.mem_iff.1 hmem, htest, fun f hf => hleast f (hperm.mem_iff.2 hf)⟩
  · rintro ⟨key, h⟩
    exact ⟨(key, v), (find?_eq_some_iff_least hasymm hl).2
      ⟨hperm.mem_iff.2 h.mem, h.passes, fun f hf => h.least f (hperm.mem_iff.1 hf)⟩, rfl⟩

/-- What a name stands for is the version with the smallest key among those that have the name. -/
theorem version?_eq_some {name : String} {v : Version} :
    p.version? name = some v ↔ ∃ key, p.Denotes name (key, v) :=
  find?_eq_some_iff keyBefore_asymm (.refl _) (p.versions.ascending.imp keyBefore_iff.2)

/-- A name stands for nothing when no version has it. -/
theorem version?_eq_none {name : String} :
    p.version? name = none ↔ ∀ v ∈ p.versions.values, v.isNamed name = false := by
  simp [version?, Version.isNamed]

/-- The first version by recency to pass a test is the latest one that passes. -/
theorem byRecency_find?_eq_some {test : Version → Bool} {v : Version} :
    p.byRecency.find? test = some v ↔ ∃ key, p.Latest test (key, v) := by
  rw [byRecency_eq]
  exact find?_eq_some_iff moreRecent_asymm p.recent_perm p.recent_pairwise

/-- The latest supported version is the latest among the supported ones. -/
theorem latestSupported?_eq_some {v : Version} :
    p.latestSupported? = some v ↔ ∃ key, p.Latest (·.supported) (key, v) :=
  byRecency_find?_eq_some

theorem latestSupported?_eq_none :
    p.latestSupported? = none ↔ ∀ v ∈ p.versions.values, v.supported = false := by
  simp [latestSupported?, byRecency]

/-- The latest version is the latest among all. -/
theorem latest?_eq_some {v : Version} :
    p.latest? = some v ↔ ∃ key, p.Latest (fun _ => true) (key, v) := by
  rw [← byRecency_find?_eq_some, latest?]
  cases p.byRecency with
  | nil => rfl
  | cons u rest => rfl

theorem latest?_eq_none : p.latest? = none ↔ p.versions.entries = [] := by
  rw [latest?, List.head?_eq_none_iff, byRecency_eq, List.map_eq_nil_iff]
  exact ⟨fun h => (h ▸ p.recent_perm).nil_eq.symm, fun h => (h ▸ p.recent_perm).eq_nil⟩

/-! ### Which version is taken -/

/-- The entry is the one whose version is taken when a version, or none, is asked for. -/
inductive Chosen (p : Package) (requested : Option String) (e : String × Version) : Prop where
  /-- It is what the request stands for. -/
  | requested (name : String) (asked : requested = some name) (found : p.Denotes name e)
  /-- The request, if there is one, stands for nothing; it is what the current version stands
      for. -/
  | current (unmet : ∀ name, requested = some name →
      ∀ v ∈ p.versions.values, v.isNamed name = false) (found : p.Denotes p.currentVersion e)
  /-- Nor does the current version; it is the most recent supported version. -/
  | supported (unmet : ∀ name, requested = some name →
      ∀ v ∈ p.versions.values, v.isNamed name = false)
      (noCurrent : ∀ v ∈ p.versions.values, v.isNamed p.currentVersion = false)
      (found : p.Latest (·.supported) e)
  /-- No version is supported; it is the most recent one. -/
  | any (unmet : ∀ name, requested = some name →
      ∀ v ∈ p.versions.values, v.isNamed name = false)
      (noCurrent : ∀ v ∈ p.versions.values, v.isNamed p.currentVersion = false)
      (noSupported : ∀ v ∈ p.versions.values, v.supported = false)
      (found : p.Latest (fun _ => true) e)

/-- The version that is taken is the chosen one. -/
theorem find?_eq_some {requested : Option String} {v : Version} :
    p.find? requested = some v ↔ ∃ key, p.Chosen requested (key, v) := by
  have hasked : requested.bind p.version? = none ↔ ∀ name, requested = some name →
      ∀ v ∈ p.versions.values, v.isNamed name = false := by
    rw [Option.bind_eq_none_iff]
    exact forall₂_congr fun name _ => version?_eq_none
  simp only [find?, Option.orElse_eq_orElse, Option.orElse_eq_or, Option.or_eq_some_iff, hasked,
    Option.bind_eq_some_iff, version?_eq_none, version?_eq_some, latestSupported?_eq_none,
    latestSupported?_eq_some, latest?_eq_some]
  constructor
  · rintro (⟨name, hname, key, hfound⟩ | ⟨hunmet, ⟨key, hfound⟩ | ⟨hcurrent, ⟨key, hfound⟩ |
      ⟨hsupported, key, hfound⟩⟩⟩)
    · exact ⟨key, .requested name hname hfound⟩
    · exact ⟨key, .current hunmet hfound⟩
    · exact ⟨key, .supported hunmet hcurrent hfound⟩
    · exact ⟨key, .any hunmet hcurrent hsupported hfound⟩
  · rintro ⟨key, h⟩
    cases h with
    | requested name hname hfound => exact .inl ⟨name, hname, key, hfound⟩
    | current hunmet hfound => exact .inr ⟨hunmet, .inl ⟨key, hfound⟩⟩
    | supported hunmet hcurrent hfound =>
      exact .inr ⟨hunmet, .inr ⟨hcurrent, .inl ⟨key, hfound⟩⟩⟩
    | any hunmet hcurrent hsupported hfound =>
      exact .inr ⟨hunmet, .inr ⟨hcurrent, .inr ⟨hsupported, key, hfound⟩⟩⟩

theorem find?_eq_none {requested : Option String} :
    p.find? requested = none ↔ p.versions.entries = [] := by
  simp only [find?, Option.orElse_eq_orElse, Option.orElse_eq_or, Option.or_eq_none_iff,
    latest?_eq_none]
  refine ⟨fun h => h.2.2.2, fun hempty => ?_⟩
  -- Without versions there is none that any of the rules could take.
  have hnone : ∀ {test : Version → Bool}, ∀ v ∈ p.versions.values, test v = false := by
    intro test v hv
    rw [Table.values, hempty] at hv
    cases hv
  exact ⟨Option.bind_eq_none_iff.2 fun _ _ => version?_eq_none.2 hnone, version?_eq_none.2 hnone,
    latestSupported?_eq_none.2 hnone, hempty⟩

/-! ### Versions under their names -/

variable (p)

/-- The versions stand under their names, as in every package that is listed
    (`Keyspace.Lists.keyed`). -/
def Keyed : Prop := ∀ e ∈ p.versions.entries, e.1 = e.2.name

variable {p}

/-- Then what is taken is told by the names. -/
theorem Keyed.chosen_iff (h : p.Keyed) {requested : Option String} {v : Version} :
    (∃ key, p.Chosen requested (key, v)) ↔ p.Chosen requested (v.name, v) := by
  constructor
  · rintro ⟨key, hchosen⟩
    have hkey : (key, v) ∈ p.versions.entries → key = v.name := h (key, v)
    cases hchosen with
    | requested name hname hfound => exact hkey hfound.mem ▸ .requested name hname hfound
    | current hunmet hfound => exact hkey hfound.mem ▸ .current hunmet hfound
    | supported hunmet hcurrent hfound => exact hkey hfound.mem ▸ .supported hunmet hcurrent hfound
    | any hunmet hcurrent hsupported hfound =>
      exact hkey hfound.mem ▸ .any hunmet hcurrent hsupported hfound
  · exact fun hchosen => ⟨_, hchosen⟩

/-- **Which version is taken.**  None is found exactly if the package has none.  Otherwise the
    version that is found is the one chosen by the first rule that applies: what the request stands
    for; what the current version stands for; the most recent supported version; the most recent
    one.  The versions by recency are those of the package, in the order of recency.  All this holds
    of the keys under which the versions stand; where these are the names, it holds of the names. -/
theorem find?_spec (p : Package) (requested : Option String) :
    (p.find? requested = none ↔ p.versions.entries = []) ∧
    (∀ v, p.find? requested = some v ↔ ∃ key, p.Chosen requested (key, v)) ∧
    (∃ sorted : Entries Version, sorted.Perm p.versions.entries ∧ sorted.Pairwise MoreRecent ∧
      p.byRecency = sorted.map (·.2)) ∧
    (p.Keyed →
      (∀ v, p.find? requested = some v ↔ p.Chosen requested (v.name, v)) ∧
      p.byRecency.Pairwise fun v w => MoreRecent (v.name, v) (w.name, w)) := by
  refine ⟨find?_eq_none, fun v => find?_eq_some,
    ⟨p.recent, p.recent_perm, p.recent_pairwise, p.byRecency_eq⟩, fun hkeyed => ⟨fun v => ?_, ?_⟩⟩
  · rw [find?_eq_some, hkeyed.chosen_iff]
  · rw [byRecency_eq, List.pairwise_map]
    refine p.recent_pairwise.imp_of_mem fun {e f} he hf h => ?_
    rwa [← hkeyed e (p.recent_perm.mem_iff.1 he), ← hkeyed f (p.recent_perm.mem_iff.1 hf)]

end Package

end ClusterPackages
