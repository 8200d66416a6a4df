import ClusterPackages.Proofs.Catalog.Listing
import ClusterPackages.Proofs.Catalog.Repositories

namespace ClusterPackages

open Text

/-!
# Which copy of a file counts

Repositories offer their copies of the six files of a release in ascending order of their numbers,
all files of one repository before those of the next.  For each file on its own the copy with
content from the repository with the greatest number counts.

* `Keyspace.Supplies` — a repository has a file of a release, with content.
* `Keyspace.Wins` — the copy of the file that counts.
* `Keyspace.releaseIn_eq_some_iff` — the files of a release are the copies that count.
* `Keyspace.kind_of_artifact_eq`, `Keyspace.artifact_ne` — what the end of the key of a file says.
* `Keyspace.OtherFile` — the keys of files of another kind; they are neither those of a file of this
  kind nor those of names (`Keyspace.not_otherFile_artifact`, `Keyspace.not_otherFile_name`).
* `composeRelease_precedence` — what a release is composed of.
-/

namespace ArtifactKind

/-- No two of the six files have the same name. -/
theorem fileName_injective {kind kind' : ArtifactKind} (h : kind.fileName = kind'.fileName) :
    kind = kind' := by
  have hall : ∀ a ∈ all, ∀ b ∈ all, a.fileName = b.fileName → a = b := by decide
  exact hall kind (mem_all kind) kind' (mem_all kind') h

/-- The name of a file can be told from its key, since there is no slash in it. -/
theorem slash_not_mem_fileName (kind : ArtifactKind) : '/' ∉ kind.fileName.toList := by
  have hall : ∀ a ∈ all, '/' ∉ a.fileName.toList := by decide
  exact hall kind (mem_all kind)

/-- No file is named like one of the keys that a repository itself has. -/
theorem fileName_not_mem (kind : ArtifactKind) :
    kind.fileName ∉ ["name", "updated", "index.json"] := by
  cases kind <;> decide

end ArtifactKind

namespace Keyspace

variable (k : Keyspace) (t : Table Bytes) (package release : String) (kind : ArtifactKind)

/-- The repository with a number, the base or a layer, has the file with the given content. -/
structure Supplies (index : Nat) (content : Bytes) : Prop where
  /-- It is a repository. -/
  named : k.Named t index
  /-- The content is stored under the key of the file. -/
  stored : t.find? (k.artifact index package release kind) = some content
  /-- There is some. -/
  nonempty : content ≠ []

/-- The copy of the file from the repository with the greatest number. -/
structure Wins (l : Layered) : Prop where
  /-- The repository has the file with this content. -/
  supplied : k.Supplies t package release kind l.source.index l.content
  /-- The source bears the name of the repository. -/
  name : ∃ raw, t.find? (k.name l.source.index) = some raw ∧
    l.source.repository = trim (Utf8.lossy raw)
  /-- No repository with a greater number has the file. -/
  greatest : ∀ index content, k.Supplies t package release kind index content →
    index ≤ l.source.index

variable {k t package release kind} {t' : Table Bytes}

/-! ### The copy that counts -/

/-- What a repository supplies is its copy of the file. -/
theorem supplies_iff {index : Nat} {content : Bytes} :
    k.Supplies t package release kind index content ↔ ∃ r ∈ k.repositoriesIn t,
      r.index = index ∧
        k.copyIn? t package release kind r = some ⟨⟨r.name, r.index⟩, content⟩ := by
  constructor
  · intro h
    obtain ⟨r, hr, hindex⟩ := named_iff.1 h.named
    refine ⟨r, hr, hindex, copyIn?_eq_some.2 ⟨rfl, h.nonempty, ?_⟩⟩
    rw [hindex]
    exact h.stored
  · rintro ⟨r, hr, rfl, hcopy⟩
    obtain ⟨-, hcontent, hstored⟩ := copyIn?_eq_some.1 hcopy
    exact ⟨named_iff.2 ⟨r, hr, rfl⟩, hstored, hcontent⟩

/-- A release has a file when some repository has it with content. -/
theorem exists_supplies_iff :
    (k.releaseIn t package release kind).isSome = true ↔
      ∃ index content, k.Supplies t package release kind index content := by
  rw [releaseIn, List.findSome?_isSome_iff]
  constructor
  · rintro ⟨r, hr, hcopy⟩
    obtain ⟨l, hl⟩ := Option.isSome_iff_exists.1 hcopy
    obtain ⟨-, hcontent, hstored⟩ := copyIn?_eq_some.1 hl
    exact ⟨r.index, l.content, named_iff.2 ⟨r, List.mem_reverse.1 hr, rfl⟩, hstored, hcontent⟩
  · rintro ⟨index, content, h⟩
    obtain ⟨r, hr, -, hcopy⟩ := supplies_iff.1 h
    exact ⟨r, List.mem_reverse.2 hr, by rw [hcopy]; rfl⟩

/-- Only one copy counts. -/
theorem Wins.unique {l l' : Layered} (h : k.Wins t package release kind l)
    (h' : k.Wins t package release kind l') : l = l' := by
  obtain ⟨⟨repository, index⟩, content⟩ := l
  obtain ⟨⟨repository', index'⟩, content'⟩ := l'
  have hindex : index = index' :=
    Nat.le_antisymm (h'.greatest _ _ h.supplied) (h.greatest _ _ h'.supplied)
  subst hindex
  -- Name and content are stored under the same keys.
  have hcontent : content = content' :=
    Option.some.inj (h.supplied.stored.symm.trans h'.supplied.stored)
  obtain ⟨raw, hraw, rfl⟩ := h.name
  obtain ⟨raw', hraw', rfl⟩ := h'.name
  cases hraw.symm.trans hraw'
  rw [hcontent]

/-- The file of a release is the copy from the repository with the greatest number. -/
theorem wins_of_releaseIn {l : Layered} (h : k.releaseIn t package release kind = some l) :
    k.Wins t package release kind l := by
  obtain ⟨after, r, before, hall, hcopy, hafter⟩ := List.findSome?_eq_some_iff.1 h
  have hmem : ∀ {s : Repository}, s ∈ after ++ r :: before ↔ s ∈ k.repositoriesIn t := by
    intro s
    rw [← hall, List.mem_reverse]
  have hr : r ∈ k.repositoriesIn t := hmem.1 (by simp)
  obtain ⟨hsource, hcontent, hstored⟩ := copyIn?_eq_some.1 hcopy
  obtain ⟨-, ⟨raw, hraw, hname⟩, -⟩ := mem_repositoriesIn_iff.1 hr
  have hdescending : (after ++ r :: before).Pairwise fun s u => u.index < s.index := by
    rw [← hall]
    exact List.pairwise_reverse.2 repositoriesIn_ascending
  refine ⟨⟨?_, ?_, hcontent⟩, ⟨raw, ?_, ?_⟩, fun index content hsupplies => ?_⟩
  · rw [hsource]
    exact named_iff.2 ⟨r, hr, rfl⟩
  · rw [hsource]
    exact hstored
  · rw [hsource]
    exact hraw
  · rw [hsource]
    exact hname
  · -- The repositories with greater numbers have been asked before, and have no copy.
    rw [hsource]
    obtain ⟨s, hs, rfl, hscopy⟩ := supplies_iff.1 hsupplies
    rcases List.mem_append.1 (hmem.2 hs) with hs | hs
    · cases (hafter s hs).symm.trans hscopy
    · rcases List.mem_cons.1 hs with rfl | hs
      · exact Nat.le_refl _
      · exact Nat.le_of_lt ((List.pairwise_cons.1 (List.pairwise_append.1 hdescending).2.1).1 s hs)

/-- The copy of a file in a release is the one that wins. -/
theorem releaseIn_eq_some_iff {l : Layered} :
    k.releaseIn t package release kind = some l ↔ k.Wins t package release kind l := by
  constructor
  · exact wins_of_releaseIn
  · intro h
    obtain ⟨l', hl'⟩ := Option.isSome_iff_exists.1
      (exists_supplies_iff.2 ⟨_, _, h.supplied⟩)
    rw [hl', h.unique (wins_of_releaseIn hl')]

/-! ### Keys of other files -/

/-- The key is that of a file of another kind, in whatever repository and release. -/
def OtherFile (k : Keyspace) (kind : ArtifactKind) (key : String) : Prop :=
  ∃ index package release kind', kind' ≠ kind ∧ key = k.artifact index package release kind'

/-- The key of a file ends in the name of the file. -/
theorem getLast?_segments_artifact (index : Nat) (package release : String) (kind : ArtifactKind) :
    (segments '/' (k.artifact index package release kind)).getLast? = some kind.fileName :=
  getLast?_segments kind.slash_not_mem_fileName

/-- The kind of a file is read off its key. -/
theorem kind_of_artifact_eq {index index' : Nat} {package release package' release' : String}
    {kind kind' : ArtifactKind}
    (h : k.artifact index package release kind = k.artifact index' package' release' kind') :
    kind = kind' := by
  have hlast := congrArg (fun key => (segments '/' key).getLast?) h
  simp only [getLast?_segments_artifact] at hlast
  exact ArtifactKind.fileName_injective (Option.some.inj hlast)

/-- A key that ends like one of the keys of a repository itself is not that of a file. -/
theorem artifact_ne {s t : String} (ht : t ∈ ["name", "updated", "index.json"]) (index : Nat)
    (package release : String) (kind : ArtifactKind) :
    k.artifact index package release kind ≠ s ++ "/" ++ t := by
  have hslash : '/' ∉ t.toList := by
    have hall : ∀ u ∈ ["name", "updated", "index.json"], '/' ∉ u.toList := by decide
    exact hall t ht
  intro h
  have hlast := congrArg (fun key => (segments '/' key).getLast?) h
  simp only [getLast?_segments_artifact, getLast?_segments hslash] at hlast
  exact kind.fileName_not_mem (Option.some.inj hlast ▸ ht)

/-- The key of a file of one kind is not that of a file of another kind. -/
theorem not_otherFile_artifact (index : Nat) (package release : String) (kind : ArtifactKind) :
    ¬ k.OtherFile kind (k.artifact index package release kind) := by
  rintro ⟨index', package', release', kind', hkind, hkey⟩
  exact hkind (kind_of_artifact_eq hkey).symm

theorem not_otherFile_name (index : Nat) (kind : ArtifactKind) :
    ¬ k.OtherFile kind (k.name index) := by
  rintro ⟨index', package', release', kind', -, hkey⟩
  rw [name_eq] at hkey
  exact artifact_ne (by simp) index' package' release' kind' hkey.symm

/-- Only names and the copies of this file matter to which copy of the file counts. -/
theorem Wins.congr (hname : ∀ index, t'.find? (k.name index) = t.find? (k.name index))
    (hfile : ∀ index, t'.find? (k.artifact index package release kind) =
      t.find? (k.artifact index package release kind)) {l : Layered}
    (h : k.Wins t package release kind l) : k.Wins t' package release kind l := by
  have hsupplies : ∀ index content, k.Supplies t' package release kind index content ↔
      k.Supplies t package release kind index content := by
    intro index content
    have hnamed : k.Named t' index ↔ k.Named t index := by
      rw [Named, Named, Table.contains, Table.contains, hname]
    constructor
    · rintro ⟨hn, hstored, hcontent⟩
      exact ⟨hnamed.1 hn, (hfile index).symm.trans hstored, hcontent⟩
    · rintro ⟨hn, hstored, hcontent⟩
      exact ⟨hnamed.2 hn, (hfile index).trans hstored, hcontent⟩
  refine ⟨(hsupplies _ _).2 h.supplied, ?_, fun index content hs =>
    h.greatest index content ((hsupplies _ _).1 hs)⟩
  rw [hname]
  exact h.name

/-- Files of other kinds have no say in which copy of a file counts. -/
theorem releaseIn_of_otherFile
    (h : ∀ key, ¬ k.OtherFile kind key → t'.find? key = t.find? key) :
    k.releaseIn t' package release kind = k.releaseIn t package release kind := by
  have hname := fun index => h _ (not_otherFile_name (k := k) index kind)
  have hfile := fun index => h _ (not_otherFile_artifact (k := k) index package release kind)
  refine Option.ext fun l => ?_
  rw [releaseIn_eq_some_iff, releaseIn_eq_some_iff]
  constructor
  · exact Wins.congr (fun index => (hname index).symm) fun index => (hfile index).symm
  · exact Wins.congr hname hfile

end Keyspace

/-! ### The release -/

/-- **Which copy of a file counts.**  A release has a file exactly if some repository has it with
    content, and then content and source are those of the repository with the greatest number that
    has it, be it the base.  What is stored under the keys of other files makes no difference. -/
theorem composeRelease_precedence {k : Keyspace} {w : World}
    (hworks : ∀ calls c, w.fails calls c = false) (package release : String) :
    ∃ overlay, (composeRelease World.storeService k package release w).1 = .ok overlay ∧
      ∀ kind,
        ((overlay kind).isSome = true ↔
          ∃ index content, k.Supplies w.store package release kind index content) ∧
        (∀ held, overlay kind = some held ↔ k.Wins w.store package release kind held) ∧
        ∀ w' : World, (∀ calls c, w'.fails calls c = false) →
          (∀ key, ¬ k.OtherFile kind key → w'.store.find? key = w.store.find? key) →
          ∃ overlay', (composeRelease World.storeService k package release w').1 = .ok overlay' ∧
            overlay' kind = overlay kind := by
  have hcomposed : ∀ v : World, (∀ calls c, v.fails calls c = false) →
      (composeRelease World.storeService k package release v).1 =
        .ok (k.releaseIn v.store package release) := fun v hv =>
    (composeRelease_answers (World.serves v) k package release).outcome (.refl v)
      (World.not_faulty hv)
  refine ⟨_, hcomposed w hworks, fun kind => ⟨Keyspace.exists_supplies_iff, fun held =>
    Keyspace.releaseIn_eq_some_iff, fun w' hworks' hothers => ?_⟩⟩
  exact ⟨_, hcomposed w' hworks', Keyspace.releaseIn_of_otherFile hothers⟩

/-- A base with two files, a layer that has one of them empty, one that has the other, and a
    nameless directory. -/
def layeredStore : Table Bytes := Table.ofList [
  ("r/0/name", Utf8.encode "base"),
  ("r/0/repo/packages/K/kafka/0/config.json", Utf8.encode "\x7b\x7d"),
  ("r/0/repo/packages/K/kafka/0/marathon.json", Utf8.encode "old"),
  ("r/1/name", Utf8.encode "site"),
  ("r/1/repo/packages/K/kafka/0/config.json", []),
  ("r/2/name", Utf8.encode "late"),
  ("r/2/repo/packages/K/kafka/0/marathon.json", Utf8.encode "new"),
  ("r/3/repo/packages/K/kafka/0/mantl.json", Utf8.encode "\x7b\x7d")]

/-- Each file comes from the repository with the greatest number that has it with content. -/
theorem composeRelease_precedence_layered :
    let w := World.holding layeredStore
    (∀ calls c, w.fails calls c = false) ∧
      ∃ overlay, (composeRelease World.storeService markedKeyspace "kafka" "0" w).1 = .ok overlay ∧
        overlay .config = some ⟨⟨"base", 0⟩, Utf8.encode "\x7b\x7d"⟩ ∧
        markedKeyspace.Wins w.store "kafka" "0" .manifest ⟨⟨"late", 2⟩, Utf8.encode "new"⟩ ∧
        ¬ ∃ index content, markedKeyspace.Supplies w.store "kafka" "0" .options index content := by
  intro w
  have hworks : ∀ calls c, w.fails calls c = false := fun _ _ => rfl
  obtain ⟨overlay, hrun, hkinds⟩ :=
    composeRelease_precedence (k := markedKeyspace) hworks "kafka" "0"
  have hevaluated : (composeRelease World.storeService markedKeyspace "kafka" "0"
      w).1.toOption.map (fun o => (o .config, o .manifest, o .options)) =
        some (some ⟨⟨"base", 0⟩, Utf8.encode "\x7b\x7d"⟩,
          some ⟨⟨"late", 2⟩, Utf8.encode "new"⟩, none) := by decide +kernel
  rw [hrun] at hevaluated
  obtain ⟨hconfig, hothers⟩ := Prod.mk.inj (Option.some.inj hevaluated)
  obtain ⟨hmanifest, hoptions⟩ := Prod.mk.inj hothers
  refine ⟨hworks, overlay, hrun, hconfig, ((hkinds .manifest).2.1 _).1 hmanifest, ?_⟩
  rw [← (hkinds .options).1, hoptions]
  decide

end ClusterPackages
