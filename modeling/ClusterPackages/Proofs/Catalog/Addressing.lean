import ClusterPackages.Proofs.Catalog.Composition
import ClusterPackages.Proofs.Text.Blank

namespace ClusterPackages

open Text

/-!
# Asking for what is listed

A name stands for the first package, and then the first version, that has it up to the case of
ASCII letters, after the blanks around it have been taken away.  What is listed under a name with
blanks around it, or after a name that differs in case only, cannot be asked for by that name.

* `Keyspace.definitionIn_found` — the names of a definition stand for that definition again.
* `mem_or_eq_of_find?` — a search ends at an element that passes the test or at one before it.
* `Package.find?_listed` — the version that the name of a listed version stands for.
* `resolveDefinition_of_listed` — the definition that the names of a listed package and version
  stand for.
* `not_resolveDefinition_of_listed` — it may be that of another package and another release.
-/

theorem sameIgnoringCase_refl (s : String) : sameIgnoringCase s s = true :=
  beq_self_eq_true (asciiLower s)

/-! ### Asking again -/

/-- The name of a version that was found stands for that version. -/
theorem Package.version?_found {p : Package} {name : String} {v : Version}
    (h : p.version? name = some v) : p.version? v.name = some v := by
  have hsimilar := List.find?_some h
  have htest : (fun q : Version => sameIgnoringCase q.name (trim v.name)) =
      fun q => sameIgnoringCase q.name (trim name) :=
    funext fun q => sameIgnoringCase_found hsimilar q.name
  rw [version?, htest]
  exact h

/-- A version that the requested name stands for is taken, whatever the current version is. -/
theorem Package.find?_of_version? {p : Package} {name : String} {v : Version}
    (h : p.version? name = some v) : p.find? (some name) = some v := by
  simp [find?, h]

namespace Keyspace

variable {k : Keyspace} {t : Table Bytes} {name name' : String} {version version' : Option String}
  {package : Package} {userConfig : Json.Object} {platform : Platform}

/-- The name of a package that was found stands for that package. -/
theorem packageIn_found (h : k.packageIn t name = .ok (some package)) :
    k.packageIn t package.name = .ok (some package) := by
  obtain ⟨packages, hpackages, hfind⟩ := Action.except_bind_eq_ok.1 h
  have hsimilar := List.find?_some (Except.ok.inj hfind)
  have htest : (fun q : Package => sameIgnoringCase q.name (trim package.name)) =
      fun q => sameIgnoringCase q.name (trim name) :=
    funext fun q => sameIgnoringCase_found hsimilar q.name
  rw [packageIn, htest]
  exact h

/-- Names that stand for the same package and the same version denote the same. -/
theorem definitionIn_respelled {v : Version} (hpackage : k.packageIn t name = .ok (some package))
    (hpackage' : k.packageIn t name' = .ok (some package)) (hv : package.find? version = some v)
    (hv' : package.find? version' = some v) :
    k.definitionIn t name version userConfig platform =
      k.definitionIn t name' version' userConfig platform := by
  have hbody : ∀ {name version}, k.packageIn t name = .ok (some package) →
      package.find? version = some v → k.definitionIn t name version userConfig platform =
        (do
          let d : Definition := ⟨package.name, v.name, v.release, package.framework, none,
            (k.releaseIn t package.name v.release).content, userConfig, platform⟩
          let config ← d.mergedConfig
          .ok { d with frameworkName := d.configuredFrameworkName config }) := by
    intro name version hpackage hv
    rw [definitionIn, hpackage]
    simp only [Except.bind, bind, hv]
  -- Neither spelling is kept, so both give the same definition.
  rw [hbody hpackage hv, hbody hpackage' hv']

/-- A definition whose version was asked for is what its own name and version stand for. -/
theorem definitionIn_found {asked : String} {d : Definition}
    (h : k.definitionIn t name (some asked) userConfig platform = .ok d)
    (hpackage : k.packageIn t name = .ok (some package))
    (hversion : (package.version? asked).isSome = true) :
    k.definitionIn t d.name (some d.version) userConfig platform = .ok d := by
  obtain ⟨v, hv⟩ := Option.isSome_iff_exists.1 hversion
  have hasked := Package.find?_of_version? hv
  obtain ⟨package', v', hpackage', hv', hname, hversion', -, -⟩ := definitionIn_eq_ok h
  cases hpackage.symm.trans hpackage'
  cases hasked.symm.trans hv'
  have hfound : package.find? (some v.name) = some v :=
    Package.find?_of_version? (Package.version?_found hv)
  rw [hname, hversion', ← h]
  exact definitionIn_respelled (packageIn_found hpackage) hpackage hfound hasked

end Keyspace

/-! ### Asking for what is listed -/

/-- Where an element passes a test, the first one to pass it is that element or one before it. -/
theorem mem_or_eq_of_find? {α : Type} {test : α → Bool} {before after : List α} {a b : α}
    (hfind : (before ++ a :: after).find? test = some b) (ha : test a = true) :
    b ∈ before ∨ b = a := by
  rw [List.find?_append, List.find?_cons_of_pos ha] at hfind
  rcases Option.or_eq_some_iff.1 hfind with hbefore | ⟨-, hthis⟩
  · exact .inl (List.mem_of_find?_eq_some hbefore)
  · exact .inr (Option.some.inj hthis).symm

/-- The name of a listed version stands for a version of that name up to the case of letters; it
    is the listed one if the name is in no other case before it. -/
theorem Package.find?_listed {p : Package} {e : String × Version} (he : e ∈ p.versions.entries)
    (htrim : trim e.2.name = e.2.name) :
    ∃ v, p.find? (some e.2.name) = some v ∧ sameIgnoringCase v.name e.2.name = true ∧
      ((∀ e' ∈ p.versions.entries, e'.1 < e.1 → sameIgnoringCase e'.2.name e.2.name = false) →
        v = e.2) := by
  have hself : sameIgnoringCase e.2.name (trim e.2.name) = true := by
    rw [htrim]
    exact sameIgnoringCase_refl e.2.name
  have hmem : e.2 ∈ p.versions.values := List.mem_map_of_mem he
  obtain ⟨v, hversion⟩ : ∃ v, p.version? e.2.name = some v :=
    Option.isSome_iff_exists.1 (List.find?_isSome.2 ⟨e.2, hmem, hself⟩)
  have hsimilar := List.find?_some hversion
  rw [htrim] at hsimilar
  refine ⟨v, by simp [find?, hversion], hsimilar, fun hfirst => ?_⟩
  obtain ⟨before, after, hentries⟩ := List.append_of_mem he
  rw [version?, Table.values, hentries, List.map_append, List.map_cons] at hversion
  rcases mem_or_eq_of_find? hversion hself with hv | hthis
  · -- A version before the listed one has a smaller key.
    obtain ⟨e', he', rfl⟩ := List.mem_map.1 hv
    have hasc := p.versions.ascending
    rw [hentries] at hasc
    have hlt : e'.1 < e.1 := (List.pairwise_append.1 hasc).2.2 e' he' e List.mem_cons_self
    have he'mem : e' ∈ p.versions.entries := by simp [hentries, he']
    rw [hfirst e' he'mem hlt] at hsimilar
    cases hsimilar
  · exact hthis

/-- **What the names of a listing stand for.**  A definition that is resolved for the name of a
    listed package has that name up to the case of letters, without the blanks around it.  If there
    are no blanks around the name, and no package before it has the same name up to the case of
    letters, then the definition is one of that package.  If the version asked for is a listed one
    with no blanks around its name, then so is the version of the definition, up to the case of
    letters; and it is that version with its release if no version before it differs in case
    only.  None of this depends on which calls fail. -/
theorem resolveDefinition_of_listed {k : Keyspace} {w w' : World} (hstore : w'.store = w.store)
    {packages before after : List Package} {p : Package}
    (hlist : (listPackages World.storeService k w).1 = .ok packages)
    (hpackages : packages = before ++ p :: after) {e : String × Version}
    (he : e ∈ p.versions.entries) {userConfig : Json.Object} {platform : Platform} {d : Definition}
    (hd : (resolveDefinition World.storeService k p.name (some e.2.name) userConfig platform
      w').1 = .ok d) :
    sameIgnoringCase d.name (trim p.name) = true ∧
      (trim p.name = p.name → (∀ q ∈ before, sameIgnoringCase q.name p.name = false) →
        d.name = p.name ∧
        (trim e.2.name = e.2.name →
          sameIgnoringCase d.version e.2.name = true ∧
          ((∀ e' ∈ p.versions.entries, e'.1 < e.1 →
              sameIgnoringCase e'.2.name e.2.name = false) →
            d.version = e.2.name ∧ d.release = e.2.release))) := by
  have hlisted := (listPackages_answers (World.serves w) k).eq_of_ok (.refl w) hlist
  have hdefinition := (resolveDefinition_answers (World.serves w') k p.name (some e.2.name)
    userConfig platform).eq_of_ok (.refl w') hd
  rw [hstore] at hdefinition
  obtain ⟨package, v, hpackage, hv, hname, hversion, hrelease, -⟩ :=
    Keyspace.definitionIn_eq_ok hdefinition
  have hfound : packages.find? (fun q => sameIgnoringCase q.name (trim p.name)) = some package := by
    obtain ⟨listed, hsame, hfound⟩ := Action.except_bind_eq_ok.1 hpackage
    cases hlisted.symm.trans hsame
    exact Except.ok.inj hfound
  have hsimilar := List.find?_some hfound
  rw [hname, hversion, hrelease]
  refine ⟨hsimilar, fun htrim hfirst => ?_⟩
  -- No package before it has the name, so the package that is found is the listed one.
  have hthis : package = p := by
    rw [htrim, hpackages] at hfound
    have hself : sameIgnoringCase p.name p.name = true := sameIgnoringCase_refl p.name
    rcases mem_or_eq_of_find? hfound hself with hmem | hthis
    · rw [htrim, hfirst package hmem] at hsimilar
      cases hsimilar
    · exact hthis
  subst hthis
  refine ⟨rfl, fun htrimVersion => ?_⟩
  obtain ⟨v', hv', hsame, hfirstVersion⟩ := Package.find?_listed he htrimVersion
  cases hv.symm.trans hv'
  refine ⟨hsame, fun hversions => ?_⟩
  rw [hfirstVersion hversions]
  exact ⟨rfl, rfl⟩

/-! ### Names that differ in case only -/

/-- A base with two packages, whose names differ in case only, as do the versions of the first. -/
def homonymStore : Table Bytes := Table.ofList [
  ("r/0/name", Utf8.encode "base"),
  ("r/0/repo/meta/index.json", Utf8.encode <|
    "[\x7b\"name\":\"Kafka\",\"versions\":\x7b\"1-RC\":\"0\",\"1-rc\":\"1\"\x7d\x7d," ++
    "\x7b\"name\":\"kafka\",\"versions\":\x7b\"1-RC\":\"2\"\x7d\x7d]")]

/-- The keys of the catalog in it. -/
def homonymKeyspace : Keyspace := ⟨"r", "a"⟩

/-- The names of the packages with their versions. -/
def outline (packages : List Package) : List (String × Entries Version) :=
  packages.map fun p => (p.name, p.versions.entries)

/-- What is listed there: two packages and, in the first one, two versions whose names are equal up
    to case. -/
theorem homonyms_listed :
    ∃ p q, (listPackages World.storeService homonymKeyspace (.holding homonymStore)).1 =
        .ok [p, q] ∧
      p.name = "Kafka" ∧
      p.versions.entries = [("1-RC", ⟨"1-RC", "0", false⟩), ("1-rc", ⟨"1-rc", "1", false⟩)] ∧
      q.name = "kafka" ∧ q.versions.entries = [("1-RC", ⟨"1-RC", "2", false⟩)] := by
  have hany : (listPackages World.storeService homonymKeyspace
      (.holding homonymStore)).1.toOption.any (fun packages => outline packages ==
        [("Kafka", [("1-RC", ⟨"1-RC", "0", false⟩), ("1-rc", ⟨"1-rc", "1", false⟩)]),
          ("kafka", [("1-RC", ⟨"1-RC", "2", false⟩)])]) = true := by decide +kernel
  obtain ⟨packages, hlist, houtline⟩ := Action.exists_ok_of_any hany
  obtain ⟨p, rest, rfl, hp, hrest⟩ := List.map_eq_cons_iff.1 (beq_iff_eq.1 houtline)
  obtain ⟨q, rest, rfl, hq, hnil⟩ := List.map_eq_cons_iff.1 hrest
  cases List.map_eq_nil_iff.1 hnil
  exact ⟨p, q, hlist, congrArg Prod.fst hp, congrArg Prod.snd hp, congrArg Prod.fst hq,
    congrArg Prod.snd hq⟩

/-- The first version of the first package is what its names stand for. -/
theorem resolveDefinition_of_listed_first :
    ∃ d, (resolveDefinition World.storeService homonymKeyspace "Kafka" (some "1-RC") ∅ .empty
        (.holding homonymStore)).1 = .ok d ∧
      d.name = "Kafka" ∧ d.version = "1-RC" ∧ d.release = "0" := by
  obtain ⟨p, q, hlist, hname, hversions, -, -⟩ := homonyms_listed
  have hany : (resolveDefinition World.storeService homonymKeyspace "Kafka" (some "1-RC") ∅ .empty
      (.holding homonymStore)).1.toOption.any (fun _ => true) = true := by decide +kernel
  obtain ⟨d, hd, -⟩ := Action.exists_ok_of_any hany
  have he : ("1-RC", ⟨"1-RC", "0", false⟩) ∈ p.versions.entries := by
    rw [hversions]
    exact List.mem_cons_self
  have hasked : (resolveDefinition World.storeService homonymKeyspace p.name (some "1-RC") ∅ .empty
      (.holding homonymStore)).1 = .ok d := by rw [hname]; exact hd
  obtain ⟨-, hpackage⟩ := resolveDefinition_of_listed rfl hlist (List.nil_append _).symm he hasked
  rw [hname, hversions] at hpackage
  obtain ⟨hdname, hversion⟩ := hpackage (by decide +kernel) (by simp)
  obtain ⟨-, hrelease⟩ := hversion (by decide +kernel)
  exact ⟨d, hd, hdname, hrelease (by decide +kernel)⟩

/-- The names of the second package stand for the first one. -/
theorem not_resolveDefinition_of_listed :
    ¬ ∀ (k : Keyspace) (w : World) (packages : List Package),
      (listPackages World.storeService k w).1 = .ok packages →
      ∀ p ∈ packages, ∀ e ∈ p.versions.entries,
      ∀ (userConfig : Json.Object) (platform : Platform) (d : Definition),
        (resolveDefinition World.storeService k p.name (some e.2.name) userConfig platform
          w).1 = .ok d →
        d.name = p.name ∧ d.version = e.2.name ∧ d.release = e.2.release := by
  intro hall
  obtain ⟨p, q, hlist, -, -, hname, hversions⟩ := homonyms_listed
  have hany : (resolveDefinition World.storeService homonymKeyspace "kafka" (some "1-RC") ∅ .empty
      (.holding homonymStore)).1.toOption.any (·.name == "Kafka") = true := by decide +kernel
  obtain ⟨d, hd, hother⟩ := Action.exists_ok_of_any hany
  have he : ("1-RC", ⟨"1-RC", "2", false⟩) ∈ q.versions.entries := by
    rw [hversions]
    exact List.mem_cons_self
  have hasked : (resolveDefinition World.storeService homonymKeyspace q.name (some "1-RC") ∅ .empty
      (.holding homonymStore)).1 = .ok d := by rw [hname]; exact hd
  have hq : q ∈ [p, q] := by simp
  obtain ⟨hdname, -⟩ := hall homonymKeyspace (.holding homonymStore) [p, q] hlist q hq
    ("1-RC", ⟨"1-RC", "2", false⟩) he ∅ .empty d hasked
  rw [hdname, hname] at hother
  exact absurd hother (by decide)

end ClusterPackages
