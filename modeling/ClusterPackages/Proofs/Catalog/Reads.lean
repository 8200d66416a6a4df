import ClusterPackages.Catalog.Resolve
import ClusterPackages.Proofs.Action

namespace ClusterPackages

/-!
# What reading the catalog keeps

Everything that resolves packages is composed from two calls to the store: the value at a key, and
the keys that start with a text.  A closed property of these calls is one of every resolution.
-/

section

variable {σ : Type} {store : Store σ} {P : ∀ ⦃α : Type⦄, Action σ α → Prop}
  (hP : Action.Closed P) (hget : ∀ key, P (store.get key))
  (hkeys : ∀ start separator, P (store.keys start separator)) (k : Keyspace)

include hP hget

theorem Store.contains_closed (key : String) : P (store.contains key) :=
  hP.bind (hget key) fun _ => hP.pure _

/-! ### Repositories -/

/-- What reads one repository is made of reads at keys. -/
theorem readRepository_closed (index : Nat) : P (readRepository store k index) := by
  refine hP.bind (hget _) fun name => ?_
  cases name with
  | none => exact hP.pure _
  | some name => exact hP.bind (hget _) fun updated => hP.pure _

theorem readRepositories_closed (indexes : List Nat) : P (readRepositories store k indexes) := by
  induction indexes with
  | nil => exact hP.pure _
  | cons index rest ih =>
    exact hP.bind (readRepository_closed hP hget k index) fun _ => hP.bind ih fun _ => hP.pure _

include hkeys in
/-- What lists the repositories asks for the keys once, and then reads at keys. -/
theorem listRepositories_closed : P (listRepositories store k) :=
  hP.bind (hkeys _ _) fun _ => readRepositories_closed hP hget k _

/-! ### Packages -/

/-- What looks for the marks of a package in a layer is made of reads at keys. -/
theorem readMarks_closed (layer : Nat) (package : String) (versions : List (String × Version)) :
    P (readMarks store k layer package versions) := by
  induction versions with
  | nil => exact hP.pure _
  | cons v rest ih =>
    exact hP.bind (Store.contains_closed hP hget _) fun _ => hP.bind ih fun _ => hP.pure _

theorem markPackages_closed (layer : Nat) (packages : List Package) :
    P (markPackages store k layer packages) := by
  induction packages with
  | nil => exact hP.pure _
  | cons p rest ih =>
    exact hP.bind (readMarks_closed hP hget k layer _ _) fun _ => hP.bind ih fun _ => hP.pure _

/-- What applies layers to packages is made of reads at keys. -/
theorem applyLayers_closed (layers : List Repository) (packages : List Package) :
    P (applyLayers store k layers packages) := by
  induction layers generalizing packages with
  | nil => exact hP.pure _
  | cons layer rest ih => exact hP.bind (markPackages_closed hP hget k _ _) fun marked => ih marked

include hkeys in
/-- What lists the packages is made of the two calls. -/
theorem listPackages_closed : P (listPackages store k) := by
  refine hP.bind (listRepositories_closed hP hget hkeys k) fun repositories => ?_
  split
  · exact hP.pure _
  · refine hP.bind (hget _) fun raw => ?_
    split
    · exact hP.pure _
    · exact hP.bind (hP.ofExcept _) fun _ =>
        hP.bind (applyLayers_closed hP hget k _ _) fun _ => hP.pure _

include hkeys in
/-- What finds a package by its name is made of the two calls. -/
theorem findPackage_closed (name : String) : P (findPackage store k name) :=
  hP.bind (listPackages_closed hP hget hkeys k) fun _ => hP.pure _

/-! ### Releases -/

/-- What offers the files of one repository is made of reads at keys. -/
theorem offerFiles_closed (repository : Repository) (package release : String) (o : Overlay)
    (kinds : List ArtifactKind) : P (offerFiles store k repository package release o kinds) := by
  induction kinds generalizing o with
  | nil => exact hP.pure _
  | cons kind rest ih =>
    refine hP.bind (hget _) fun content => ?_
    cases content with
    | none => exact ih o
    | some content => exact ih _

/-- What offers the files of several repositories is made of reads at keys. -/
theorem offerRelease_closed (package release : String) (o : Overlay)
    (repositories : List Repository) : P (offerRelease store k package release o repositories) := by
  induction repositories generalizing o with
  | nil => exact hP.pure _
  | cons r rest ih =>
    exact hP.bind (offerFiles_closed hP hget k r package release o _) fun o => ih o

include hkeys in
/-- What composes a release is made of the two calls. -/
theorem composeRelease_closed (package release : String) :
    P (composeRelease store k package release) :=
  hP.bind (listRepositories_closed hP hget hkeys k) fun _ =>
    offerRelease_closed hP hget k package release _ _

include hkeys in
/-- Resolving a release keeps what the two calls keep. -/
theorem resolveDefinition_closed (name : String) (version : Option String)
    (userConfig : Json.Object) (platform : Platform) :
    P (resolveDefinition store k name version userConfig platform) := by
  refine hP.bind (findPackage_closed hP hget hkeys k name) fun found => ?_
  cases found with
  | none => exact hP.fail _
  | some package =>
    cases hv : package.find? version with
    | none =>
      simp only [hv]
      exact hP.fail _
    | some v =>
      simp only [hv]
      exact hP.bind (composeRelease_closed hP hget hkeys k _ _) fun _ =>
        hP.bind (hP.ofExcept _) fun _ => hP.pure _

end

end ClusterPackages
