import ClusterPackages.Catalog.Resolve
import ClusterPackages.Proofs.Cluster.World

namespace ClusterPackages

open Text

/-!
# The catalog in a table

Reading the catalog asks a store for values and for keys.  Where the answers are those of one table,
all that is read is a function of the table.

* `Store.Serves` — a store whose answers are those of a table.
* `Keyspace.repositoriesIn` — the repositories in a table; their numbers ascend
  (`Keyspace.repositoriesIn_ascending`).
* `Keyspace.packagesIn` — the packages in a table.  The loop over the layers comes down to the last
  of them (`applyLayers_answers`).
* `listRepositories_answers`, `listPackages_answers`, `findPackage_answers` — these are what is read.
-/

open ClusterPackages.Action (Answers answers_pure answers_ofExcept)

/-- In every state in `I`, what the store answers is what the table holds. -/
structure Store.Serves {σ : Type} (store : Store σ) (I : σ → Prop) (faulty : Prop)
    (t : Table Bytes) : Prop where
  /-- The value at a key. -/
  get : ∀ key, Answers I faulty (store.get key) (.ok (t.find? key))
  /-- The keys that start with a text. -/
  keys : ∀ start separator, Answers I faulty (store.keys start separator)
    (.ok (World.distinct ((World.keysFrom t start).map (World.rollUp start separator))))

namespace World

variable {w : World}

/-- A guarded call answers what it would without failing calls. -/
theorem guarded_answers {α : Type} {c : Call} {act : Action World α} {a : α}
    (hact : ∀ v, w.Unchanged v → act v = (.ok a, v)) :
    Answers w.Unchanged (∃ calls c, w.fails calls c = true) (guarded c act) (.ok a) := by
  intro v hv
  have hlogged : w.Unchanged (v.logged c) := hv.trans (.logged c v)
  -- Whether the call fails or not, it is put on record.
  cases hfails : v.fails v.calls c with
  | true =>
    rw [guarded_error _ hfails]
    obtain ⟨calls, rfl⟩ := hv
    exact ⟨hlogged, .inr ⟨⟨calls, c, hfails⟩, _, rfl⟩⟩
  | false =>
    rw [guarded_ok _ hfails, hact _ hlogged]
    exact ⟨hlogged, .inl rfl⟩

/-- A store in memory serves its table as long as nothing happens but calls. -/
theorem serves (w : World) :
    storeService.Serves w.Unchanged (∃ calls c, w.fails calls c = true) w.store where
  get key := guarded_answers fun v hv => by
    obtain ⟨calls, rfl⟩ := hv
    rfl
  keys start separator := guarded_answers fun v hv => by
    obtain ⟨calls, rfl⟩ := hv
    rfl

/-- Where no call is made to fail, nothing is at fault. -/
theorem not_faulty (hworks : ∀ calls c, w.fails calls c = false) :
    ¬ ∃ calls c, w.fails calls c = true := by
  rintro ⟨calls, c, h⟩
  cases (hworks calls c).symm.trans h

end World

/-! ### Repositories -/

namespace Keyspace

variable (k : Keyspace) (t : Table Bytes)

/-- The repository with a number, if it has a name. -/
def repositoryIn? (index : Nat) : Option Repository :=
  (t.find? (k.name index)).map fun name => ⟨trim (Utf8.lossy name), index,
    (t.find? (k.updated index)).bind fun raw => Instant.read? (Utf8.lossy raw)⟩

/-- The numbers of the directories below the root. -/
def indexesIn : List Nat :=
  ascendingIndexes ((World.distinct ((World.keysFrom t k.repositoriesPrefix).map
    (World.rollUp k.repositoriesPrefix (some "/")))).filterMap repositoryIndex?)

/-- All repositories. -/
def repositoriesIn : List Repository := (k.indexesIn t).filterMap (k.repositoryIn? t)

end Keyspace

/-- Inserting a number in its place keeps the numbers ascending. -/
theorem ascending_insertIndex {n : Nat} {l : List Nat} (hl : l.Pairwise (· < ·)) :
    (∀ m ∈ insertIndex n l, m = n ∨ m ∈ l) ∧ (insertIndex n l).Pairwise (· < ·) := by
  induction l with
  | nil => simp [insertIndex]
  | cons m r ih =>
    obtain ⟨hm, hr⟩ := List.pairwise_cons.1 hl
    obtain ⟨hmem, hasc⟩ := ih hr
    unfold insertIndex
    -- The number goes before `m`, is `m`, or goes among those after it.
    split
    · rename_i hlt
      refine ⟨fun i hi => List.mem_cons.1 hi, List.pairwise_cons.2 ⟨fun i hi => ?_, hl⟩⟩
      rcases List.mem_cons.1 hi with rfl | hi
      · exact hlt
      · exact Nat.lt_trans hlt (hm i hi)
    · rename_i hnlt
      split
      · exact ⟨fun i hi => .inr hi, hl⟩
      · rename_i hne
        refine ⟨fun i hi => ?_, List.pairwise_cons.2 ⟨fun i hi => ?_, hasc⟩⟩
        · rcases List.mem_cons.1 hi with rfl | hi
          · exact .inr List.mem_cons_self
          · exact (hmem i hi).imp_right (List.mem_cons_of_mem m)
        · rcases hmem i hi with rfl | hi
          · omega
          · exact hm i hi

/-- Sorted numbers ascend strictly. -/
theorem ascendingIndexes_ascending (l : List Nat) : (ascendingIndexes l).Pairwise (· < ·) := by
  unfold ascendingIndexes
  induction l with
  | nil => exact .nil
  | cons n l ih => exact (ascending_insertIndex ih).2

namespace Keyspace

variable {k : Keyspace} {t : Table Bytes}

/-- A repository has the number under which it was read. -/
theorem index_of_repositoryIn? {index : Nat} {r : Repository}
    (h : k.repositoryIn? t index = some r) : r.index = index := by
  obtain ⟨name, -, rfl⟩ := Option.map_eq_some_iff.1 h
  rfl

/-- The numbers of the repositories ascend. -/
theorem repositoriesIn_ascending :
    (k.repositoriesIn t).Pairwise fun r s => r.index < s.index := by
  refine List.pairwise_filterMap.2 ((ascendingIndexes_ascending _).imp ?_)
  intro i j hij r hr s hs
  rwa [index_of_repositoryIn? hr, index_of_repositoryIn? hs]

end Keyspace

section

variable {σ : Type} {store : Store σ} {I : σ → Prop} {faulty : Prop} {t : Table Bytes}
  (hs : store.Serves I faulty t) (k : Keyspace)

include hs

/-- Whether there is a value at a key is what the table says. -/
theorem contains_answers (key : String) :
    Answers I faulty (store.contains key) (.ok (t.contains key)) :=
  (hs.get key).bind_ok (answers_pure _)

/-- Reading a repository gives the one in the table. -/
theorem readRepository_answers (index : Nat) :
    Answers I faulty (readRepository store k index) (.ok (k.repositoryIn? t index)) := by
  refine (hs.get _).bind_ok ?_
  unfold Keyspace.repositoryIn?
  cases t.find? (k.name index) with
  | none => exact answers_pure _
  | some name => exact (hs.get _).bind_ok (answers_pure _)

theorem readRepositories_answers (indexes : List Nat) :
    Answers I faulty (readRepositories store k indexes)
      (.ok (indexes.filterMap (k.repositoryIn? t))) := by
  induction indexes with
  | nil => exact answers_pure _
  | cons index rest ih =>
    refine (readRepository_answers hs k index).bind_ok (ih.bind_ok ?_)
    cases h : k.repositoryIn? t index with
    | none =>
      rw [List.filterMap_cons_none h]
      exact answers_pure _
    | some r =>
      rw [List.filterMap_cons_some h]
      exact answers_pure _

/-- The repositories that are listed are those of the table. -/
theorem listRepositories_answers :
    Answers I faulty (listRepositories store k) (.ok (k.repositoriesIn t)) :=
  (hs.keys _ _).bind_ok (readRepositories_answers hs k _)

end

/-! ### Packages -/

/-- The package with each version supported as its release says. -/
def Package.settle (p : Package) (marked : String → Bool) : Package :=
  { p with versions := p.versions.mapEntries fun e =>
      { e.2 with supported := marked e.2.release } }

/-- Marks for all versions settle the package. -/
theorem Package.mark_eq_settle (p : Package) (marked : String → Bool) :
    p.mark (p.versions.entries.map fun e => (e.1, marked e.2.release)) = p.settle marked := by
  have hmarks : ∀ e ∈ p.versions.entries, Entries.find? e.1
      (p.versions.entries.map fun e => (e.1, marked e.2.release)) = some (marked e.2.release) :=
    fun e he => Entries.find?_of_mem (Entries.ascending_map p.versions.ascending)
      (List.mem_map_of_mem he)
  unfold mark settle Table.mapEntries
  congr 2
  refine List.map_congr_left fun e he => ?_
  simp only [hmarks e he, Option.getD_some]

/-- Of two settlements one after the other the second one counts. -/
theorem Package.settle_settle (p : Package) (marked marked' : String → Bool) :
    (p.settle marked).settle marked' = p.settle marked' := by
  simp [settle, Table.mapEntries]

namespace Keyspace

variable (k : Keyspace) (t : Table Bytes)

/-- The package with each version supported if the last of the layers marks its release. -/
def layeredIn (layers : List Repository) (p : Package) : Package :=
  match layers.getLast? with
  | none => p
  | some layer => p.settle fun release => t.contains (k.supportMarker layer.index p.name release)

/-- The packages of the catalog. -/
def packagesIn : Except Error (List Package) :=
  match baseRepository? (k.repositoriesIn t) with
  | none => .ok []
  | some base =>
    match t.find? (k.packageIndex base.index) with
    | none => .ok []
    | some raw => do
      let entries ← IndexEntry.parse raw (k.packageIndex base.index)
      .ok (entries.map fun e => (k.layeredIn t (layerRepositories (k.repositoriesIn t))
        (Package.ofEntry e)).refreshSupport)

/-- The first package with the given name. -/
def packageIn (name : String) : Except Error (Option Package) := do
  let packages ← k.packagesIn t
  .ok (packages.find? fun p => sameIgnoringCase p.name (trim name))

end Keyspace

section

variable {σ : Type} {store : Store σ} {I : σ → Prop} {faulty : Prop} {t : Table Bytes}
  (hs : store.Serves I faulty t) (k : Keyspace)

include hs

/-- The marks that are read are those of the table. -/
theorem readMarks_answers (layer : Nat) (package : String) (versions : List (String × Version)) :
    Answers I faulty (readMarks store k layer package versions) (.ok (versions.map fun e =>
      (e.1, t.contains (k.supportMarker layer package e.2.release)))) := by
  induction versions with
  | nil => exact answers_pure _
  | cons e rest ih => exact (contains_answers hs _).bind_ok (ih.bind_ok (answers_pure _))

theorem markPackages_answers (layer : Nat) (packages : List Package) :
    Answers I faulty (markPackages store k layer packages) (.ok (packages.map fun p =>
      p.settle fun release => t.contains (k.supportMarker layer p.name release))) := by
  induction packages with
  | nil => exact answers_pure _
  | cons p rest ih =>
    refine (readMarks_answers hs k layer _ _).bind_ok (ih.bind_ok ?_)
    rw [List.map_cons, ← Package.mark_eq_settle]
    exact answers_pure _

/-- Each layer settles the support anew, so that only the last one counts. -/
theorem applyLayers_answers (layers : List Repository) (packages : List Package) :
    Answers I faulty (applyLayers store k layers packages)
      (.ok (packages.map (k.layeredIn t layers))) := by
  induction layers generalizing packages with
  | nil =>
    have hsame : packages.map (k.layeredIn t []) = packages := List.map_id' packages
    rw [hsame]
    exact answers_pure _
  | cons layer rest ih =>
    refine (markPackages_answers hs k layer.index packages).bind_ok ?_
    have hlast : packages.map (k.layeredIn t (layer :: rest)) = (packages.map fun p =>
        p.settle fun release => t.contains (k.supportMarker layer.index p.name release)).map
          (k.layeredIn t rest) := by
      -- What this layer has settled is settled anew by the last one, if there is one after it.
      rw [List.map_map]
      refine List.map_congr_left fun p _ => ?_
      unfold Keyspace.layeredIn
      rw [Function.comp_apply, List.getLast?_cons]
      cases rest.getLast? with
      | none => rfl
      | some last => exact (Package.settle_settle p _ _).symm
    rw [hlast]
    exact ih _

/-- The packages that are listed are those of the table. -/
theorem listPackages_answers : Answers I faulty (listPackages store k) (k.packagesIn t) := by
  refine (listRepositories_answers hs k).bind_ok ?_
  unfold Keyspace.packagesIn
  cases baseRepository? (k.repositoriesIn t) with
  | none => exact answers_pure _
  | some base =>
    dsimp only
    refine (hs.get _).bind_ok ?_
    cases t.find? (k.packageIndex base.index) with
    | none => exact answers_pure _
    | some raw =>
      refine (answers_ofExcept _).bind fun entries _ => ?_
      refine (applyLayers_answers hs k _ _).bind_ok ?_
      rw [List.map_map, List.map_map]
      exact answers_pure _

theorem findPackage_answers (name : String) :
    Answers I faulty (findPackage store k name) (k.packageIn t name) :=
  (listPackages_answers hs k).bind fun _ _ => answers_pure _

end

end ClusterPackages
