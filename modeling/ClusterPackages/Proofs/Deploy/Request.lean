import ClusterPackages.Deploy.Request
import ClusterPackages.Proofs.Json.RoundTrip
import ClusterPackages.Proofs.Text.Utf8

namespace ClusterPackages

open Text Json

/-!
# Requests as documents

* `Request.document` — the bytes of a request, as they wait in the queue.
* `Request.ofDocument?_ofJson` — a request is read back from its document.
* `Request.parse_document` — so it is from its bytes, if it is valid.
-/

namespace Request

/-- The bytes of a request. -/
def document (r : Request) : Bytes := Utf8.encode r.toJson.compact

/-- What a request says under each name. -/
theorem toJson_eq (r : Request) : ∃ l : Entries Json, r.toJson = .obj l ∧ (l.map (·.1)).Nodup ∧
    fieldNames.map (Entries.find? · l) = [some (.str r.name), r.version.map .str,
      r.appId.map .str, r.config.map Object.toJson, r.uninstallOptions.map Object.toJson] := by
  obtain ⟨name, version, id, config, options⟩ := r
  refine ⟨_, rfl, ?_, ?_⟩
  · cases version <;> cases id <;> cases config <;> cases options <;> simp
  · cases version <;> cases id <;> cases config <;> cases options <;> rfl

/-! ### Values of fields -/

/-- A field with a text is read as that text. -/
theorem absent_string?_ofJson (s : String) :
    Document.absent "" Document.string? (some (Document.ofJson (.str s))) = some s :=
  Quoted.text?_ofText s

/-- A field that may be missing is read as the text that was written, if any. -/
theorem absent_nullable_string?_ofJson (s : Option String) :
    Document.absent none (Document.nullable Document.string?)
      ((s.map Json.str).map Document.ofJson) = some s := by
  cases s with
  | none => rfl
  | some s =>
    have htext := Quoted.text?_ofText s
    show (Quoted.text? (.ofText s)).map some = some (some s)
    rw [htext]
    rfl

/-- A field that may be missing is read as the object that was written, if any, provided that the
    object fits. -/
theorem absent_nullable_object?_ofJson {o : Option Json.Object}
    (h : ∀ v, o = some v → v.toJson.Fits (nesting - 1)) :
    Document.absent none (Document.nullable object?)
      ((o.map Object.toJson).map Document.ofJson) = some o := by
  cases o with
  | none => rfl
  | some v =>
    have hobject := Document.object?_ofJson (h v rfl)
    show (object? (Document.ofJson v.toJson)).map some = some (some v)
    rw [object?, hobject]
    rfl

/-- A request is read back from its document. -/
theorem ofDocument?_ofJson {r : Request} (h : r.toJson.Fits nesting) :
    ofDocument? (Document.ofJson r.toJson) = some r := by
  obtain ⟨l, hl, hnames, hfound⟩ := r.toJson_eq
  have hvalues : ∀ name v, Entries.find? name l = some v → v.Fits (nesting - 1) := by
    rw [hl] at h
    have hall : FitsFields (nesting - 1) l := h
    exact fun name v hv => fitsFields_iff.1 hall _ (Entries.mem_of_find? hv)
  have hrecord := Document.record?_ofJson fieldNames hnames
  have hmap : fieldNames.map (fun name => (Entries.find? name l).map Document.ofJson) =
      (fieldNames.map (Entries.find? · l)).map (Option.map Document.ofJson) := by
    rw [List.map_map]
    rfl
  rw [hmap, hfound] at hrecord
  have heach := hfound
  simp only [fieldNames, List.map_cons, List.map_nil, List.cons.injEq] at heach
  obtain ⟨-, -, -, hconfig, hoptions, -⟩ := heach
  -- The two objects are one level below the request.
  have hconfigFits : ∀ v, r.config = some v → v.toJson.Fits (nesting - 1) := fun v hv =>
    hvalues "config" v.toJson (by rw [hconfig, hv]; rfl)
  have hoptionsFits : ∀ v, r.uninstallOptions = some v → v.toJson.Fits (nesting - 1) := fun v hv =>
    hvalues "uninstallOptions" v.toJson (by rw [hoptions, hv]; rfl)
  rw [hl, ofDocument?, hrecord]
  simp only [List.map_cons, List.map_nil, Option.map_some, absent_string?_ofJson,
    absent_nullable_string?_ofJson, absent_nullable_object?_ofJson hconfigFits,
    absent_nullable_object?_ofJson hoptionsFits]
  rfl

/-- The first byte of a request is a brace. -/
theorem document_eq (r : Request) : ∃ rest, r.document = 0x7B :: rest := by
  obtain ⟨l, hl, -, -⟩ := r.toJson_eq
  have hwrite : ∃ cs, write (.obj l) = '\x7b' :: cs := by
    cases l with
    | nil => exact ⟨_, rfl⟩
    | cons e rest => exact ⟨_, rfl⟩
  obtain ⟨cs, hcs⟩ := hwrite
  refine ⟨cs.flatMap Utf8.encodeChar, ?_⟩
  rw [document, hl, Json.compact, hcs, Utf8.encode, String.toList_ofList, List.flatMap_cons]
  rfl

/-- A valid request is read back from its bytes. -/
theorem parse_document {r : Request} (hvalid : r.validate = .ok ())
    (hfits : r.toJson.Fits nesting) : parse r.document = .ok r := by
  have hread : (Document.read? (Utf8.decode r.document)).bind ofDocument? = some r := by
    rw [document, Utf8.decode_encode, read?_compact hfits, Option.bind_some,
      ofDocument?_ofJson hfits]
  obtain ⟨rest, hrest⟩ := r.document_eq
  -- Only blank bytes count as a request without a name.
  have hblank : r.document.all isAsciiBlank = false := by
    rw [hrest]
    rfl
  unfold parse
  rw [hblank, hread]
  show (do r.validate; .ok r : Except Error Request) = _
  rw [hvalid]
  rfl

end Request

end ClusterPackages
