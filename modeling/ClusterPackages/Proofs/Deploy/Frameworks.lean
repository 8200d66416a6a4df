import ClusterPackages.Deploy.Uninstall
import ClusterPackages.Proofs.Action
import ClusterPackages.Proofs.Json.RoundTrip

namespace ClusterPackages

open Text Json

/-!
# The frameworks that a name finds

A state lists frameworks in three stages of life.  An entry counts if every field that it gives is
of the right kind, and it is passed over otherwise, whatever else it says.

* `Framework.isReadable` — the form that an entry must have (`Framework.isSome_ofJson?`).
* `Framework.idsUnder` — the ids that entries then count with under a name.
* `ClusterState.Entries` — the entries that a document lists, in order.
* `ClusterState.exists_entries_of_parse` — a state is read from the entries of its document.
* `Manager.teardownFramework_read` — what becomes of the framework of an app depends on what its name
  finds.
* `ClusterState.ids_named_of_parse` — the ids that a name finds in a document.
-/

namespace Framework

/-! ### One entry -/

/-- What a value can be. -/
inductive Kind where
  /-- A text. -/
  | text
  /-- A truth value. -/
  | truth
  /-- A number. -/
  | number
  /-- An array. -/
  | array

/-- Whether a value is of a kind. -/
def Kind.admits : Kind → Json → Bool
  | text, .str _ => true
  | truth, .bool _ => true
  | number, .number _ => true
  | array, .arr _ => true
  | _, _ => false

/-- The fields that are read from an entry, with their kinds. -/
def fieldKinds : List (String × Kind) :=
  [("name", .text), ("id", .text), ("active", .truth), ("hostname", .text), ("user", .text),
    ("registered_time", .number), ("reregistered_time", .number), ("tasks", .array)]

/-- Whether an entry is an object in which every field that is read, if given, is of its kind. -/
def isReadable (v : Json) : Bool :=
  v.isObject && fieldKinds.all fun e => (v.get? e.1).all e.2.admits

/-- The text at a key, or the empty text. -/
def textAt (k : String) (v : Json) : String := ((v.get? k).bind str?).getD ""

/-- The id that an entry counts with under a name.  What it does not give is empty. -/
def idUnder? (name : String) (v : Json) : Option String :=
  if textAt "name" v = name then some (textAt "id" v) else none

/-- The id of an entry with a name, if it gives both as texts. -/
def matchedId? (name : String) (v : Json) : Option String :=
  if (v.get? "name").bind str? = some name then (v.get? "id").bind str? else none

/-- The ids that entries count with under a name. -/
def idsUnder (name : String) (l : List Json) : List String :=
  (l.filter isReadable).filterMap (idUnder? name)

/-- An entry that gives both name and id counts with that id. -/
theorem idUnder?_of_matchedId? {name id : String} {v : Json} (h : matchedId? name v = some id) :
    idUnder? name v = some id := by
  unfold matchedId? at h
  split at h
  · rename_i hname
    rw [idUnder?, textAt, textAt, hname, h]
    exact if_pos rfl
  · cases h

/-- A field is read when it is not given or of its kind. -/
theorem isSome_read? {α : Type} {default : α} {f : Json → Option α} {kind : Kind}
    (hf : ∀ x, (f x).isSome = kind.admits x) (k : String) (v : Json) :
    (read? default f k v).isSome = (v.get? k).all kind.admits := by
  unfold read?
  cases v.get? k with
  | none => rfl
  | some x => exact hf x

/-- A field that is read as a text is the text at its key. -/
theorem read?_str {k s : String} {v : Json} (h : read? "" str? k v = some s) : textAt k v = s := by
  unfold read? at h
  unfold textAt
  cases hk : v.get? k with
  | none =>
    rw [hk] at h
    exact Option.some.inj h
  | some x =>
    rw [hk] at h
    have hx : str? x = some s := h
    rw [Option.bind_some, hx]
    rfl

theorem isSome_bind_and {α β : Type} {x : Option α} {f : α → Option β} {p q : Bool}
    (hx : x.isSome = p) (hf : ∀ a, (f a).isSome = q) : (x.bind f).isSome = (p && q) := by
  subst hx
  cases x with
  | none => rfl
  | some a => exact hf a

/-- The readable entries are those that describe a framework. -/
theorem isSome_ofJson? (v : Json) : (ofJson? v).isSome = isReadable v := by
  have htext : ∀ x : Json, (str? x).isSome = Kind.text.admits x := by
    intro x
    cases x <;> rfl
  have htruth : ∀ x : Json, (bool? x).isSome = Kind.truth.admits x := by
    intro x
    cases x <;> rfl
  have hnumber : ∀ x : Json, (number? x).isSome = Kind.number.admits x := by
    intro x
    cases x <;> rfl
  have harray : ∀ x : Json, (items? x).isSome = Kind.array.admits x := by
    intro x
    cases x <;> rfl
  unfold ofJson? isReadable
  cases v.isObject with
  | false => rfl
  | true =>
    rw [if_pos rfl, Bool.true_and]
    -- One field after another, in the order in which they are read.
    refine isSome_bind_and (isSome_read? htext "name" v) fun _ => ?_
    refine isSome_bind_and (isSome_read? htext "id" v) fun _ => ?_
    refine isSome_bind_and (isSome_read? htruth "active" v) fun _ => ?_
    refine isSome_bind_and (isSome_read? htext "hostname" v) fun _ => ?_
    refine isSome_bind_and (isSome_read? htext "user" v) fun _ => ?_
    refine isSome_bind_and (isSome_read? hnumber "registered_time" v) fun _ => ?_
    refine isSome_bind_and (isSome_read? hnumber "reregistered_time" v) fun _ => ?_
    exact isSome_bind_and (isSome_read? harray "tasks" v) fun _ => rfl

/-- A framework has the name and the id of the entry that describes it. -/
theorem ofJson?_eq_some {v : Json} {f : Framework} (h : ofJson? v = some f) :
    textAt "name" v = f.name ∧ textAt "id" v = f.id := by
  unfold ofJson? at h
  split at h
  · simp only [Option.bind_eq_bind, Option.bind_eq_some_iff] at h
    obtain ⟨name, hname, id, hid, active, -, hostname, -, user, -, registered, -, reregistered, -,
      tasks, -, h⟩ := h
    cases h
    exact ⟨read?_str hname, read?_str hid⟩
  · cases h

/-! ### A list of entries -/

/-- A name finds an entry, with its id, when the entry is readable and counts under the name. -/
theorem map_id_filter_ofJson? (name : String) (v : Json) :
    ((ofJson? v).filter (·.name == name)).map (·.id) =
      if isReadable v then idUnder? name v else none := by
  have hreadable := isSome_ofJson? v
  cases hv : ofJson? v with
  | none =>
    rw [hv] at hreadable
    rw [← hreadable]
    rfl
  | some f =>
    rw [hv] at hreadable
    obtain ⟨hname, hid⟩ := ofJson?_eq_some hv
    rw [← hreadable, if_pos Option.isSome_some, idUnder?, hname, hid, Option.filter_some]
    by_cases hf : f.name = name
    · rw [if_pos (beq_iff_eq.2 hf), if_pos hf]
      rfl
    · rw [if_neg fun h => hf (beq_iff_eq.1 h), if_neg hf]
      rfl

/-- The ids of the frameworks with a name among those that entries describe. -/
theorem ids_named (name : String) (l : List Json) :
    ((l.filterMap ofJson?).filter (·.name == name)).map (·.id) = idsUnder name l := by
  rw [idsUnder, List.filter_filterMap, List.map_filterMap, List.filterMap_filter]
  exact congrArg (List.filterMap · l) (funext (map_id_filter_ofJson? name))

/-- The entries that can be matched count once each, and in their order. -/
theorem matched_sublist (name : String) (l : List Json) :
    (l.filterMap (matchedId? name)).Sublist (l.filterMap (idUnder? name)) := by
  have hmatched : l.filterMap (matchedId? name) =
      (l.filter fun v => (matchedId? name v).isSome).filterMap (idUnder? name) := by
    rw [List.filterMap_filter]
    refine congrArg (List.filterMap · l) (funext fun v => ?_)
    cases hv : matchedId? name v with
    | none => rfl
    | some id => exact (idUnder?_of_matchedId? hv).symm
  rw [hmatched]
  exact List.filter_sublist.filterMap _

end Framework

/-! ### The lists of a document -/

namespace ClusterState

/-- The entries of the list that a document gives for a field.  There are none if it gives nothing
    but `null`. -/
def Lists (d : Document) (i : Nat) (l : List Json) : Prop :=
  (∃ items, Document.Gives fieldNames i (.arr items) d ∧
    items.map (Document.json? (nesting - 2)) = l.map some) ∨
  (∀ x, Document.Gives fieldNames i x d → x = .null) ∧ l = []

/-- The entries of the three lists of frameworks in a document, in the order of the stages of
    life. -/
def Entries (d : Document) (l : List Json) : Prop :=
  ∃ active completed unregistered, Lists d 0 active ∧ Lists d 1 completed ∧
    Lists d 2 unregistered ∧ l = active ++ completed ++ unregistered

/-- A list of frameworks is read from the entries that the document lists, and from no others. -/
theorem exists_lists_of_frameworks? {d : Document} {fs : List (Option Document)}
    (h : Document.record? fieldNames d = some fs) {i : Nat} {o : Option Document}
    (hi : fs[i]? = some o) {r : List Framework}
    (hr : Document.absent [] frameworks? o = some r) :
    ∃ l, r = l.filterMap Framework.ofJson? ∧ ∀ l', Lists d i l' ↔ l' = l := by
  have hgives : ∀ {x}, o = some x ↔ Document.Gives fieldNames i x d := Document.record?_gives h hi
  simp only [Lists, ← hgives]
  cases o with
  | none =>
    cases hr
    exact ⟨[], rfl, fun l' => by simp⟩
  | some x =>
    obtain ⟨values, hvalues, hr⟩ := Option.bind_eq_some_iff.1 hr
    cases hr
    cases x with
    | null =>
      cases hvalues
      exact ⟨[], rfl, fun l' => by simp⟩
    | arr items =>
      obtain ⟨l, hl, rfl⟩ := Option.map_eq_some_iff.1 hvalues
      obtain ⟨items', heq, hl⟩ := Document.list?_eq_some_iff.1 hl
      cases heq
      refine ⟨l, rfl, fun l' => ⟨?_, ?_⟩⟩
      · rintro (⟨items', heq, hl'⟩ | ⟨hnull, -⟩)
        · cases heq
          exact (List.map_inj_right fun _ _ h => Option.some.inj h).1 (hl'.symm.trans hl)
        · cases hnull _ rfl
      · rintro rfl
        exact .inl ⟨items, rfl, hl⟩
    | _ => cases hvalues

/-- A state is read from the entries that its document lists, and from no others. -/
theorem exists_entries_of_parse {s : String} {state : ClusterState} (h : parse s = .ok state) :
    ∃ d l, Document.read? (Utf8.symbols s) = some d ∧ (∀ l', Entries d l' ↔ l' = l) ∧
      state.all = l.filterMap Framework.ofJson? := by
  unfold parse at h
  split at h
  · rename_i found hstate
    cases h
    obtain ⟨d, hread, hstate⟩ := Option.bind_eq_some_iff.1 hstate
    unfold ofDocument? at hstate
    split at hstate
    · rename_i active completed unregistered flags hfields
      simp only [Option.bind_eq_bind, Option.bind_eq_some_iff] at hstate
      obtain ⟨a, ha, c, hc, u, hu, t, -, hstate⟩ := hstate
      cases hstate
      obtain ⟨la, rfl, hla⟩ := exists_lists_of_frameworks? hfields (i := 0) rfl ha
      obtain ⟨lc, rfl, hlc⟩ := exists_lists_of_frameworks? hfields (i := 1) rfl hc
      obtain ⟨lu, rfl, hlu⟩ := exists_lists_of_frameworks? hfields (i := 2) rfl hu
      refine ⟨d, la ++ lc ++ lu, hread, fun l' => ?_, ?_⟩
      · simp only [Entries, hla, hlc, hlu]
        constructor
        · rintro ⟨_, _, _, rfl, rfl, rfl, h⟩
          exact h
        · intro h
          exact ⟨la, lc, lu, rfl, rfl, rfl, h⟩
      · rw [all, List.filterMap_append, List.filterMap_append]
    · cases hstate
  · cases h

end ClusterState

/-! ### The removal of an app -/

namespace Manager

variable {σ : Type} (m : Manager σ)

/-- For an app without a name of a framework nothing is called. -/
theorem teardownFramework_none {a : App} (hname : a.frameworkName? = none) (s : σ) :
    m.teardownFramework a s = (.ok .notAFramework, s) := by
  rw [teardownFramework, hname]
  rfl

/-- If the state cannot be had, the shutdown ends with that error. -/
theorem teardownFramework_unread {a : App} {name : String} (hname : a.frameworkName? = some name)
    {s t : σ} {e : Error} (hstate : m.services.resources.state s = (.error e, t)) :
    m.teardownFramework a s = (.error e, t) := by
  rw [teardownFramework, hname]
  exact Action.bind_of_error hstate

/-- Once the state is there, the frameworks with the name decide what happens. -/
theorem teardownFramework_read {a : App} {name : String} (hname : a.frameworkName? = some name)
    {s t : σ} {state : ClusterState} (hstate : m.services.resources.state s = (.ok state, t)) :
    m.teardownFramework a s =
      (match state.named name with
        | [] => pure (.notRegistered name)
        | [f] => do
          m.services.resources.teardown f.id
          pure (.tornDown name f.id)
        | several => Action.fail (.ambiguousFramework several.length name) :
          Action σ FrameworkOutcome) t := by
  rw [teardownFramework, hname]
  exact Action.bind_of_ok hstate

/-- More than one id that is found leaves all frameworks as they are. -/
theorem teardownFramework_ambiguous {a : App} {name : String}
    (hname : a.frameworkName? = some name) {s t : σ} {state : ClusterState}
    (hstate : m.services.resources.state s = (.ok state, t)) {ids : List String}
    (hids : (state.named name).map (·.id) = ids) (hmany : 1 < ids.length) :
    m.teardownFramework a s = (.error (.ambiguousFramework ids.length name), t) := by
  subst hids
  rw [List.length_map] at hmany ⊢
  rw [m.teardownFramework_read hname hstate]
  generalize state.named name = found at hmany
  cases found with
  | nil => cases hmany
  | cons f rest =>
    cases rest with
    | nil => exact absurd hmany (Nat.lt_irrefl 1)
    | cons g rest => rfl

end Manager

namespace ClusterState

/-- **The frameworks that a name finds.**  In a document that is read, a name finds the ids of the
    readable entries of the three lists, once each and in the order of the document; those that give
    the name and an id as texts are among them.  When an app is removed, they all count: with more
    than one of them nothing is shut down. -/
theorem ids_named_of_parse {s : String} {state : ClusterState} (h : parse s = .ok state) :
    ∃ d l, Document.read? (Utf8.symbols s) = some d ∧ (∀ l', Entries d l' ↔ l' = l) ∧
      ∀ name,
        (state.named name).map (·.id) = Framework.idsUnder name l ∧
        ((l.filter Framework.isReadable).filterMap (Framework.matchedId? name)).Sublist
          ((state.named name).map (·.id)) ∧
        ∀ {σ : Type} (m : Manager σ) (a : App) (t u : σ), a.frameworkName? = some name →
          m.services.resources.state t = (.ok state, u) →
          1 < (Framework.idsUnder name l).length →
          m.teardownFramework a t =
            (.error (.ambiguousFramework (Framework.idsUnder name l).length name), u) := by
  obtain ⟨d, l, hread, hentries, hall⟩ := exists_entries_of_parse h
  have hids : ∀ name, (state.named name).map (·.id) = Framework.idsUnder name l := by
    intro name
    rw [named, hall, Framework.ids_named]
  refine ⟨d, l, hread, hentries, fun name => ⟨hids name, ?_, fun m a t u hname hstate hmany =>
    m.teardownFramework_ambiguous hname hstate (hids name) hmany⟩⟩
  rw [hids]
  exact Framework.matched_sublist name _

/-- An entry of a framework. -/
def kafka : Json := .obj [("id", .str "0001"), ("name", .str "kafka")]

/-- An entry of a framework of the same name whose user is not known. -/
def userless : Json := .obj [("id", .str "0002"), ("name", .str "kafka"), ("user", .null)]

/-- A state with the one framework, and with the other one among those that have finished. -/
def twoStages : Json :=
  .obj [("frameworks", .arr [kafka]), ("completed_frameworks", .arr [userless]),
    ("unregistered_frameworks", .arr [])]

/-- In the state with both entries only the one is found whose user is known. -/
theorem parse_twoStages : ∃ state, parse twoStages.compact = .ok state ∧
    (state.named "kafka").map (·.id) = ["0001"] := by
  have hany : ((parse twoStages.compact).toOption.any fun state =>
      (state.named "kafka").map (·.id) == ["0001"]) = true := by decide +kernel
  obtain ⟨state, hparse, hids⟩ := Action.exists_ok_of_any hany
  exact ⟨state, hparse, beq_iff_eq.1 hids⟩

theorem entries_twoStages : Entries (Document.ofJson twoStages) [kafka, userless] :=
  ⟨[kafka], [userless], [],
    .inl ⟨_, .named rfl (Quoted.text?_ofText "frameworks") (.head _), rfl⟩,
    .inl ⟨_, .named rfl (Quoted.text?_ofText "completed_frameworks") (.tail _ (.head _)), rfl⟩,
    .inl ⟨_, .named rfl (Quoted.text?_ofText "unregistered_frameworks")
      (.tail _ (.tail _ (.head _))), rfl⟩, rfl⟩

/-- The text of the state is read as the document it was written from. -/
theorem read?_twoStages :
    Document.read? (Utf8.symbols twoStages.compact) = some (Document.ofJson twoStages) := by
  have hfits : twoStages.Fits nesting := by
    simp [twoStages, kafka, userless, nesting, Json.Fits, Json.FitsFields, Json.FitsItems]
  exact read?_compact hfits

/-- Of the two frameworks only the first one is found. -/
theorem ids_named_twoStages :
    ∃ state, parse twoStages.compact = .ok state ∧
      (state.named "kafka").map (·.id) = Framework.idsUnder "kafka" [kafka, userless] ∧
      Framework.idsUnder "kafka" [kafka, userless] = ["0001"] := by
  obtain ⟨state, hparse, hids⟩ := parse_twoStages
  obtain ⟨d, l, hread, hentries, hnamed⟩ := ids_named_of_parse hparse
  -- The entries that the theorem speaks of are the two of the document.
  cases hread.symm.trans read?_twoStages
  cases (hentries _).1 entries_twoStages
  obtain ⟨hunder, -⟩ := hnamed "kafka"
  exact ⟨state, hparse, hunder, hunder.symm.trans hids⟩

/-- A framework that can be matched is lost when another of its fields is `null`. -/
theorem not_matched_sublist_of_parse :
    ¬ ∀ (s : String) (state : ClusterState) (d : Document) (l : List Json) (name : String),
      parse s = .ok state → Document.read? (Utf8.symbols s) = some d → Entries d l →
      (l.filterMap (Framework.matchedId? name)).Sublist ((state.named name).map (·.id)) := by
  intro hall
  obtain ⟨state, hparse, hids⟩ := parse_twoStages
  have hsub := hall _ state _ _ "kafka" hparse read?_twoStages entries_twoStages
  rw [hids] at hsub
  exact absurd hsub.length_le (by decide)

end ClusterState

end ClusterPackages
