import ClusterPackages.Proofs.Catalog.Snapshot

namespace ClusterPackages

open Text

/-!
# The files of a release in a table

A repository's copy of a file is offered after those of all repositories before it, so it replaces
them.  An empty copy counts as none.

* `Keyspace.copyIn?` — a repository's copy of a file.
* `Keyspace.releaseIn` — the files of a release, each from the last repository that has a copy.
* `Keyspace.definitionIn` — the definition of the release that a name and a version denote.
* `composeRelease_answers`, `resolveDefinition_answers` — these are what is read.
* `Keyspace.definitionIn_eq_ok` — the package, the version and the files of a definition.
-/

open ClusterPackages.Action (Answers answers_pure answers_ofExcept)

namespace Keyspace

variable (k : Keyspace) (t : Table Bytes)

/-- A repository's copy of a file, unless it is empty. -/
def copyIn? (package release : String) (kind : ArtifactKind) (r : Repository) : Option Layered :=
  (t.find? (k.artifact r.index package release kind)).bind fun content =>
    if content.isEmpty then none else some ⟨⟨r.name, r.index⟩, content⟩

/-- The files of a release, each from the last repository that has a copy. -/
def releaseIn (package release : String) : Overlay := fun kind =>
  (k.repositoriesIn t).reverse.findSome? (k.copyIn? t package release kind)

/-- The definition of the release that a name and a version denote. -/
def definitionIn (name : String) (version : Option String) (userConfig : Json.Object)
    (platform : Platform) : Except Error Definition := do
  match ← k.packageIn t name with
  | none => .error (.unknownPackage name)
  | some package =>
    match package.find? version with
    | none => .error (.noVersion name)
    | some v =>
      let d : Definition := ⟨package.name, v.name, v.release, package.framework, none,
        (k.releaseIn t package.name v.release).content, userConfig, platform⟩
      let config ← d.mergedConfig
      .ok { d with frameworkName := d.configuredFrameworkName config }

variable {k t}

/-- A repository's copy of a file is what it stores under the key of the file, if that has
    content. -/
theorem copyIn?_eq_some {package release : String} {kind : ArtifactKind} {r : Repository}
    {l : Layered} : k.copyIn? t package release kind r = some l ↔
      l.source = ⟨r.name, r.index⟩ ∧ l.content ≠ [] ∧
        t.find? (k.artifact r.index package release kind) = some l.content := by
  rw [copyIn?, Option.bind_eq_some_iff]
  constructor
  · rintro ⟨content, hfind, hl⟩
    split at hl
    · cases hl
    · rename_i hcontent
      cases hl
      exact ⟨rfl, by simpa using hcontent, hfind⟩
  · rintro ⟨hsource, hcontent, hfind⟩
    refine ⟨l.content, hfind, ?_⟩
    rw [if_neg (by simpa using hcontent), ← hsource]

/-- A definition consists of a package that is found, the version of it that is taken, and the files
    of that version's release. -/
theorem definitionIn_eq_ok {name : String} {version : Option String} {userConfig : Json.Object}
    {platform : Platform} {d : Definition}
    (h : k.definitionIn t name version userConfig platform = .ok d) :
    ∃ package v, k.packageIn t name = .ok (some package) ∧ package.find? version = some v ∧
      d.name = package.name ∧ d.version = v.name ∧ d.release = v.release ∧
      d.artifacts = (k.releaseIn t package.name v.release).content := by
  obtain ⟨found, hfound, h⟩ := Action.except_bind_eq_ok.1 h
  cases found with
  | none => cases h
  | some package =>
    cases hv : package.find? version with
    | none =>
      simp only [hv] at h
      cases h
    | some v =>
      simp only [hv] at h
      obtain ⟨config, -, h⟩ := Action.except_bind_eq_ok.1 h
      cases h
      exact ⟨package, v, hfound, hv, rfl, rfl, rfl, rfl⟩

end Keyspace

/-! ### Offers -/

/-- There are no files but the six. -/
theorem ArtifactKind.mem_all (kind : ArtifactKind) : kind ∈ all := by
  cases kind <;> decide

/-- No file of the overlay came from a repository with a greater number. -/
def Overlay.Below (o : Overlay) (index : Nat) : Prop :=
  ∀ kind held, o kind = some held → held.source.index ≤ index

namespace Keyspace

variable (k : Keyspace) (t : Table Bytes) (package release : String)

/-- The overlay with a repository's copies of the given files in place of what it held. -/
def overlaidIn (r : Repository) (o : Overlay) (kinds : List ArtifactKind) : Overlay := fun kind =>
  if kind ∈ kinds then (k.copyIn? t package release kind r).or (o kind) else o kind

variable {k t package release} {r : Repository} {o : Overlay} {kind : ArtifactKind}

theorem overlaidIn_nil : k.overlaidIn t package release r o [] = o := by
  funext kind
  simp [overlaidIn]

/-- Copies of several files are taken one file after the other. -/
theorem overlaidIn_cons (rest : List ArtifactKind) :
    k.overlaidIn t package release r o (kind :: rest) =
      k.overlaidIn t package release r (k.overlaidIn t package release r o [kind]) rest := by
  funext kind'
  unfold overlaidIn
  by_cases hkind : kind' = kind
  · -- The file may be offered again, with the same copy.
    subst hkind
    simp [← Option.or_assoc]
  · simp [hkind]

/-- A file that the repository does not have leaves the overlay as it is. -/
theorem overlaidIn_of_none (h : t.find? (k.artifact r.index package release kind) = none) :
    k.overlaidIn t package release r o [kind] = o := by
  funext kind'
  by_cases hkind : kind' = kind
  · subst hkind
    simp [overlaidIn, copyIn?, h]
  · simp [overlaidIn, hkind]

/-- While no file came from a later repository, an offer with content is taken. -/
theorem overlaidIn_of_some (ho : o.Below r.index) {content : Bytes}
    (h : t.find? (k.artifact r.index package release kind) = some content) :
    k.overlaidIn t package release r o [kind] = o.offer kind ⟨⟨r.name, r.index⟩, content⟩ := by
  -- What is held does not come from a later repository, so only an empty copy is refused.
  have htakes : o.takes kind ⟨⟨r.name, r.index⟩, content⟩ = !content.isEmpty := by
    cases hheld : o kind with
    | none => simp [Overlay.takes, hheld]
    | some held => simp [Overlay.takes, hheld, ho kind held hheld]
  funext kind'
  by_cases hkind : kind' = kind
  · subst hkind
    cases content with
    | nil => simp [overlaidIn, copyIn?, h, Overlay.offer, htakes]
    | cons b rest => simp [overlaidIn, copyIn?, h, Overlay.offer, htakes]
  · unfold Overlay.offer
    split
    · simp [overlaidIn, hkind]
    · simp [overlaidIn, hkind]

/-- Copies of one repository come from no number above its own. -/
theorem below_overlaidIn (ho : o.Below r.index) (kinds : List ArtifactKind) :
    (k.overlaidIn t package release r o kinds).Below r.index := by
  intro kind held hheld
  unfold overlaidIn at hheld
  split at hheld
  · rcases Option.or_eq_some_iff.1 hheld with hcopy | ⟨-, hheld⟩
    · exact Nat.le_of_eq (congrArg ArtifactSource.index (copyIn?_eq_some.1 hcopy).1)
    · exact ho kind held hheld
  · exact ho kind held hheld

end Keyspace

section

variable {σ : Type} {store : Store σ} {I : σ → Prop} {faulty : Prop} {t : Table Bytes}
  (hs : store.Serves I faulty t) (k : Keyspace) (package release : String)

include hs

/-- Offering the files of one repository overlays its copies. -/
theorem offerFiles_answers {r : Repository} {o : Overlay} (ho : o.Below r.index)
    (kinds : List ArtifactKind) :
    Answers I faulty (offerFiles store k r package release o kinds)
      (.ok (k.overlaidIn t package release r o kinds)) := by
  induction kinds generalizing o with
  | nil =>
    rw [Keyspace.overlaidIn_nil]
    exact answers_pure _
  | cons kind rest ih =>
    have hbelow : (k.overlaidIn t package release r o [kind]).Below r.index :=
      Keyspace.below_overlaidIn ho [kind]
    have hrest := ih hbelow
    rw [← Keyspace.overlaidIn_cons] at hrest
    refine (hs.get _).bind_ok ?_
    cases hfind : t.find? (k.artifact r.index package release kind) with
    | none =>
      rw [Keyspace.overlaidIn_of_none hfind] at hrest
      exact hrest
    | some content =>
      rw [Keyspace.overlaidIn_of_some ho hfind] at hrest
      exact hrest

/-- Each repository in turn replaces the files of which it has a copy. -/
theorem offerRelease_answers {o : Overlay} {repositories : List Repository}
    (hasc : repositories.Pairwise fun r s => r.index < s.index)
    (ho : ∀ r ∈ repositories, o.Below r.index) :
    Answers I faulty (offerRelease store k package release o repositories) (.ok fun kind =>
      (repositories.reverse.findSome? (k.copyIn? t package release kind)).or (o kind)) := by
  induction repositories generalizing o with
  | nil => exact answers_pure _
  | cons r rest ih =>
    -- The numbers ascend, so the files taken so far stay below those still to be offered.
    obtain ⟨hr, hrest⟩ := List.pairwise_cons.1 hasc
    have hor : o.Below r.index := ho r List.mem_cons_self
    refine (offerFiles_answers hs k package release hor ArtifactKind.all).bind_ok ?_
    have hbelow : ∀ s ∈ rest,
        (k.overlaidIn t package release r o ArtifactKind.all).Below s.index := by
      intro s hs kind held h
      have hle : held.source.index ≤ r.index := Keyspace.below_overlaidIn hor _ kind held h
      exact Nat.le_of_lt (Nat.lt_of_le_of_lt hle (hr s hs))
    have hlast : (fun kind => (rest.reverse.findSome? (k.copyIn? t package release kind)).or
        (k.overlaidIn t package release r o ArtifactKind.all kind)) = fun kind =>
          ((r :: rest).reverse.findSome? (k.copyIn? t package release kind)).or (o kind) := by
      funext kind
      simp [Keyspace.overlaidIn, ArtifactKind.mem_all, List.findSome?_append, Option.or_assoc]
    rw [← hlast]
    exact ih hrest hbelow

/-- Each file comes from the last repository that has a copy of it. -/
theorem composeRelease_answers :
    Answers I faulty (composeRelease store k package release)
      (.ok (k.releaseIn t package release)) := by
  refine (listRepositories_answers hs k).bind_ok ?_
  have hempty : ∀ r ∈ k.repositoriesIn t, Overlay.empty.Below r.index :=
    fun _ _ _ _ h => by cases h
  have hoffers := offerRelease_answers hs k package release
    Keyspace.repositoriesIn_ascending hempty
  have hrelease : (fun kind => ((k.repositoriesIn t).reverse.findSome?
      (k.copyIn? t package release kind)).or (Overlay.empty kind)) =
        k.releaseIn t package release := by
    funext kind
    exact Option.or_none
  rwa [hrelease] at hoffers

/-- What is resolved is the definition that the store holds. -/
theorem resolveDefinition_answers (name : String) (version : Option String)
    (userConfig : Json.Object) (platform : Platform) :
    Answers I faulty (resolveDefinition store k name version userConfig platform)
      (k.definitionIn t name version userConfig platform) := by
  refine (findPackage_answers hs k name).bind fun found _ => ?_
  cases found with
  | none => exact answers_ofExcept _
  | some package =>
    cases hv : package.find? version with
    | none =>
      simp only [hv]
      exact answers_ofExcept _
    | some v =>
      simp only [hv]
      refine (composeRelease_answers hs k package.name v.release).bind_ok ?_
      exact (answers_ofExcept _).bind fun config _ => answers_pure _

end

end ClusterPackages
