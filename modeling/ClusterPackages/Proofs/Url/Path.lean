import ClusterPackages.Proofs.Text.Affix
import ClusterPackages.Proofs.Url.Percent
import ClusterPackages.Url.Read

namespace ClusterPackages.Url

open Text Percent

/-!
# What paths stand for

The bytes of a path are compared with the characters from which it was read.  Points take bytes
away, and nothing adds any.

* `pathBytes` — the bytes of a path (`decode_toText`).
* `pathBytes_cutSegments` — cutting characters into segments keeps what they stand for, with every
  separator as a slash (`slashed`).
* `decode_of_isDot`, `decode_of_isDotDot` — a segment that counts as points stands for points.
* `walk_of_plain` — other segments are put after one another.
* `length_walk_le`, `length_tidy_le` — a path never stands for more than the segments it was made
  of, and for less if there was a point among them.
-/

/-! ### Bytes of paths -/

/-- The bytes that a path stands for: a slash before each segment. -/
def pathBytes (path : List String) : Bytes := path.flatMap fun s => 0x2F :: decode s

@[simp]
theorem pathBytes_nil : pathBytes [] = [] := rfl

@[simp]
theorem pathBytes_cons (s : String) (path : List String) :
    pathBytes (s :: path) = 0x2F :: decode s ++ pathBytes path := rfl

@[simp]
theorem pathBytes_append (path more : List String) :
    pathBytes (path ++ more) = pathBytes path ++ pathBytes more := List.flatMap_append

theorem decodeChars_slash (r : List Char) : decodeChars ('/' :: r) = 0x2F :: decodeChars r :=
  decodeChars_cons (not_escapes_of_ne (by decide) r)

/-- A slash is never a part of an escape. -/
theorem decodeChars_slashes (segments : List (List Char)) :
    decodeChars (segments.flatMap ('/' :: ·)) =
      segments.flatMap fun s => 0x2F :: decodeChars s := by
  induction segments with
  | nil => rfl
  | cons s rest ih =>
    rw [List.flatMap_cons, List.flatMap_cons, ← ih, List.cons_append, decodeChars_slash]
    cases rest with
    | nil => simp [decodeChars]
    | cons t rest =>
      rw [List.flatMap_cons, List.cons_append, decodeChars_append (by decide)]
      rfl

/-- The text of a path is a slash before each segment. -/
theorem toList_toText (path : List String) :
    (Path.toText (.segments path)).toList = (path.map String.toList).flatMap ('/' :: ·) := by
  induction path with
  | nil => rfl
  | cons s rest ih =>
    have hrest : (concat (rest.map ("/" ++ ·))).toList =
        (rest.map String.toList).flatMap ('/' :: ·) := ih
    simp [Path.toText, concat, hrest]

/-- The text of a path stands for its bytes. -/
theorem decode_toText (path : List String) :
    decode (Path.toText (.segments path)) = pathBytes path := by
  rw [decode, toList_toText, decodeChars_slashes, List.flatMap_map]
  rfl

/-! ### Segments -/

/-- The characters that are encoded in a path do not include those of which escapes are made. -/
theorem spares_inPath : Spares inPath := by
  intro c hc
  constructor
  · rintro rfl
    cases hc
  · -- No digit is encoded.
    have hdigits : ∀ n < 0x80, inPath (Char.ofNat n) = true → hexDigit? (Char.ofNat n) = none := by
      decide +kernel
    by_cases hascii : c.toNat < 0x80
    · have h := hdigits c.toNat hascii
      rw [Char.ofNat_toNat] at h
      exact h hc
    · have hbound : ∀ d : Char, d.toNat < 0x80 → ¬ c ≤ d := fun d hd hle =>
        hascii (Nat.lt_of_le_of_lt hle hd)
      simp [hexDigit?, hbound]

/-- What a segment stands for does not change when it is encoded. -/
theorem decode_encode_inPath (cs : List Char) : decode (encode inPath cs) = decodeChars cs := by
  rw [decode, encode, String.toList_ofList, decodeChars_encodeChars spares_inPath]

/-- A character, or a slash if it separates segments. -/
def slashed (special : Bool) (c : Char) : Char := if isSlash special c then '/' else c

/-- Separators as slashes have as many bytes. -/
theorem length_slashed (special : Bool) (cs : List Char) :
    ((cs.map (slashed special)).flatMap Utf8.encodeChar).length =
      (cs.flatMap Utf8.encodeChar).length := by
  induction cs with
  | nil => rfl
  | cons c r ih =>
    have hc : (Utf8.encodeChar (slashed special c)).length = (Utf8.encodeChar c).length := by
      unfold slashed
      by_cases hslash : isSlash special c = true
      · have hcases : c = '/' ∨ special = true ∧ c = '\\' := by simpa [isSlash] using hslash
        rw [if_pos hslash]
        rcases hcases with rfl | ⟨-, rfl⟩ <;> rfl
      · rw [if_neg hslash]
    simp only [List.map_cons, List.flatMap_cons, List.length_append, hc, ih]

/-- Characters stay as they are when separators become slashes, exactly if all separators are. -/
theorem map_slashed_eq_iff {special : Bool} {cs : List Char} :
    cs.map (slashed special) = cs ↔ special = true → '\\' ∉ cs := by
  have hself : ∀ c, slashed special c = c ↔ special = true → c ≠ '\\' := by
    intro c
    by_cases hslash : c = '/'
    · subst hslash
      simp [slashed, isSlash]
    · cases special
      · simp [slashed, isSlash, hslash]
      · by_cases hback : c = '\\'
        · subst hback
          simp [slashed, isSlash]
        · simp [slashed, isSlash, hslash, hback]
  induction cs with
  | nil => simp
  | cons c r ih =>
    rw [List.map_cons, List.cons.injEq]
    refine (and_congr (hself c) ih).trans ?_
    constructor
    · rintro ⟨hc, hr⟩ hspecial hmem
      rcases List.mem_cons.1 hmem with rfl | hmem
      · exact hc hspecial rfl
      · exact hr hspecial hmem
    · intro h
      refine ⟨fun hspecial => ?_, fun hspecial hmem => h hspecial (List.mem_cons_of_mem c hmem)⟩
      rintro rfl
      exact h hspecial List.mem_cons_self

/-- Segments with slashes before them are the characters with their separators as slashes. -/
theorem flatMap_splitOnP (special : Bool) (cs : List Char) :
    (cs.splitOnP (isSlash special)).flatMap ('/' :: ·) = '/' :: cs.map (slashed special) := by
  induction cs with
  | nil => rfl
  | cons c r ih =>
    rw [List.splitOnP_cons_eq_if_modifyHead]
    by_cases hc : isSlash special c = true
    · rw [if_pos hc, List.flatMap_cons, ih]
      simp [slashed, hc]
    · rw [if_neg hc]
      obtain ⟨first, others, hsplit⟩ :=
        List.exists_cons_of_ne_nil (List.splitOnP_ne_nil (isSlash special) r)
      rw [hsplit, List.flatMap_cons, List.cons_append, List.cons.injEq] at ih
      simp [hsplit, slashed, hc, ih.2]

/-- Cutting characters into segments keeps what they stand for. -/
theorem pathBytes_cutSegments (special : Bool) (cs : List Char) :
    pathBytes (cutSegments special cs) = 0x2F :: decodeChars (cs.map (slashed special)) := by
  have hbytes : pathBytes (cutSegments special cs) =
      (cs.splitOnP (isSlash special)).flatMap fun s => 0x2F :: decodeChars s := by
    simp [pathBytes, cutSegments, List.flatMap_map, decode_encode_inPath]
  rw [hbytes, ← decodeChars_slashes, flatMap_splitOnP, decodeChars_slash]

/-- Segments of characters whose separators are all slashes are parts of them. -/
theorem infix_of_mem_splitOnP {special : Bool} {cs s : List Char}
    (h : cs.map (slashed special) = cs) (hs : s ∈ cs.splitOnP (isSlash special)) :
    ('/' :: s) <:+: '/' :: cs := by
  have hmem := List.infix_of_mem_flatten (List.mem_map_of_mem (f := ('/' :: ·)) hs)
  rwa [← List.flatMap_def, flatMap_splitOnP, h] at hmem

/-- Where no separator is a backslash, they are the slashes. -/
theorem splitOnP_isSlash {special : Bool} {cs : List Char} (h : cs.map (slashed special) = cs) :
    cs.splitOnP (isSlash special) = cs.splitOn '/' := by
  induction cs with
  | nil => rfl
  | cons c r ih =>
    obtain ⟨hc, hr⟩ := List.cons.inj h
    have hslash : isSlash special c = (c == '/') := by
      by_cases hsep : isSlash special c = true
      · rw [slashed, if_pos hsep] at hc
        rw [hsep, ← hc]
        rfl
      · have hne : c ≠ '/' := by
          rintro rfl
          exact hsep rfl
        simp [hsep, hne]
    have hrest : r.splitOnP (isSlash special) = r.splitOnP (· == '/') := ih hr
    show _ = (c :: r).splitOnP (· == '/')
    rw [List.splitOnP_cons_eq_if_modifyHead, List.splitOnP_cons_eq_if_modifyHead, hslash, hrest]

/-! ### Points -/

/-- Whether a segment is one or two points. -/
def isPoint (s : String) : Bool := isDot s || isDotDot s

/-- A segment is one point if it is spelled with the point itself or with its escape. -/
theorem isDot_iff {s : String} : isDot s = true ↔ s.toList.map Char.toLower = ['.'] ∨
    s.toList.map Char.toLower = ['%', '2', 'e'] := by
  simp only [isDot, Bool.or_eq_true, sameIgnoringCase_iff]
  exact Iff.rfl

/-- A segment is two points if each of them is spelled with the point itself or with its escape. -/
theorem isDotDot_iff {s : String} : isDotDot s = true ↔ s.toList.map Char.toLower = ['.', '.'] ∨
    s.toList.map Char.toLower = ['.', '%', '2', 'e'] ∨
    s.toList.map Char.toLower = ['%', '2', 'e', '.'] ∨
    s.toList.map Char.toLower = ['%', '2', 'e', '%', '2', 'e'] := by
  simp only [isDotDot, List.any_cons, List.any_nil, Bool.or_eq_true, sameIgnoringCase_iff,
    Bool.false_eq_true, or_false]
  exact Iff.rfl

/-- The two ways in which a point may stand in a segment. -/
theorem decodeChars_point {cs : List Char} (r : List Char)
    (h : cs.map Char.toLower = ['.'] ∨ cs.map Char.toLower = ['%', '2', 'e']) :
    decodeChars (cs ++ r) = 0x2E :: decodeChars r := by
  rcases h with h | h
  · obtain ⟨c, rest, rfl, hc, hrest⟩ := List.map_eq_cons_iff.1 h
    obtain rfl := List.map_eq_nil_iff.1 hrest
    obtain rfl := eq_of_toLower hc (by decide)
    exact decodeChars_cons (not_escapes_of_ne (by decide) r)
  · obtain ⟨c, rest, rfl, hc, hrest⟩ := List.map_eq_cons_iff.1 h
    obtain ⟨d, rest, rfl, hd, hrest⟩ := List.map_eq_cons_iff.1 hrest
    obtain ⟨e, rest, rfl, he, hrest⟩ := List.map_eq_cons_iff.1 hrest
    obtain rfl := List.map_eq_nil_iff.1 hrest
    obtain rfl := eq_of_toLower hc (by decide)
    obtain rfl := eq_of_toLower hd (by decide)
    -- The letter is a digit in either case.
    have hletter : hexDigit? e = some 14 := by
      rcases toLower_cases e with hsame | ⟨-, -, hlower⟩
      · rw [← hsame, he]
        rfl
      · rw [he] at hlower
        have hcode : e.toNat = 0x45 := by
          have hsmall : ('e').toNat = 0x65 := rfl
          omega
        rw [← Char.ofNat_toNat e, hcode]
        rfl
    have htwo : hexDigit? '2' = some 2 := rfl
    exact decodeChars_escape htwo hletter r

/-- A segment that counts as a point stands for one. -/
theorem decode_of_isDot {s : String} (h : isDot s = true) : decode s = [0x2E] := by
  have hpoint := decodeChars_point [] (isDot_iff.1 h)
  rwa [List.append_nil] at hpoint

/-- A segment that counts as two points stands for two. -/
theorem decode_of_isDotDot {s : String} (h : isDotDot s = true) : decode s = [0x2E, 0x2E] := by
  -- The segment is taken apart into its points.
  have htwo : ∀ a b : List Char, (a = ['.'] ∨ a = ['%', '2', 'e']) →
      (b = ['.'] ∨ b = ['%', '2', 'e']) → s.toList.map Char.toLower = a ++ b →
      decode s = [0x2E, 0x2E] := by
    rintro a b ha hb hs
    obtain ⟨cs, ds, hchars, rfl, rfl⟩ := List.map_eq_append_iff.1 hs
    have hlast := decodeChars_point [] hb
    rw [List.append_nil] at hlast
    rw [decode, hchars, decodeChars_point ds ha, hlast]
    rfl
  rcases isDotDot_iff.1 h with h | h | h | h
  · exact htwo ['.'] ['.'] (by simp) (by simp) h
  · exact htwo ['.'] ['%', '2', 'e'] (by simp) (by simp) h
  · exact htwo ['%', '2', 'e'] ['.'] (by simp) (by simp) h
  · exact htwo ['%', '2', 'e'] ['%', '2', 'e'] (by simp) (by simp) h

/-! ### Putting segments together -/

/-- Segments that are no points are put after one another. -/
theorem walk_of_plain (file : Bool) : ∀ {segments path : List String}, path ≠ [] →
    (∀ s ∈ segments, isPoint s = false) → walk file path segments = path ++ segments
  | [], path, _, _ => by rw [walk, List.append_nil]
  | [s], path, hpath, h => by
    obtain ⟨hdot, hdots⟩ := Bool.or_eq_false_iff.1 (h s (by simp))
    simp [walk, hdot, hdots, rooted, hpath]
  | s :: t :: rest, path, hpath, h => by
    obtain ⟨hdot, hdots⟩ := Bool.or_eq_false_iff.1 (h s (by simp))
    have hrooted : rooted file path s = s := by simp [rooted, hpath]
    have hrest : walk file (path ++ [s]) (t :: rest) = path ++ [s] ++ t :: rest :=
      walk_of_plain file (by simp) fun u hu => h u (List.mem_cons_of_mem s hu)
    rw [walk, hdots, hdot, hrooted, if_neg (by simp), if_neg (by simp), hrest, List.append_assoc]
    rfl

/-- A step upwards does not make the path longer. -/
theorem length_shorten_le (path : List String) :
    (pathBytes (shorten path)).length ≤ (pathBytes path).length := by
  unfold shorten
  split
  · exact Nat.le_refl _
  · cases hpath : path.getLast? with
    | none => simp [List.getLast?_eq_none_iff.1 hpath]
    | some s =>
      obtain ⟨before, rfl⟩ := List.getLast?_eq_some_iff.1 hpath
      rw [List.dropLast_concat, pathBytes_append, List.length_append]
      omega

/-- The letter of a drive has as many bytes with a colon as with another mark. -/
theorem length_rooted (file : Bool) (path : List String) (s : String) :
    (decode (rooted file path s)).length = (decode s).length := by
  unfold rooted
  split
  · rename_i h
    have hdrive : isDrive s = true := (Bool.and_eq_true_iff.1 h).2
    unfold isDrive at hdrive
    split at hdrive
    · rename_i c mark hchars
      obtain ⟨hletter, hmark⟩ := Bool.and_eq_true_iff.1 hdrive
      have hc : c ≠ '%' := by
        rintro rfl
        cases hletter
      have hone : ∀ d : Char, d = ':' ∨ d = '|' →
          decodeChars [c, d] = Utf8.encodeChar c ++ [UInt8.ofNat d.toNat] := by
        rintro d (rfl | rfl) <;> exact decodeChars_cons (not_escapes_of_ne hc _)
      have hmark' : mark = ':' ∨ mark = '|' := by simpa using hmark
      rw [decode, String.toList_ofList, decode, hchars]
      show (decodeChars [c, ':']).length = _
      rw [hone _ (.inl rfl), hone _ hmark']
      simp
    · cases hdrive
  · rfl

/-- A segment adds a slash and its own bytes. -/
theorem length_pathBytes_concat (path : List String) (s : String) :
    (pathBytes (path ++ [s])).length = (pathBytes path).length + (decode s).length + 1 := by
  simp
  omega

/-- A path stands for no more than the segments it was made of, and for less if there was a point
    among them. -/
theorem length_walk_le (file : Bool) : ∀ (segments path : List String),
    (pathBytes (walk file path segments)).length + (segments.any isPoint).toNat ≤
      (pathBytes path).length + (pathBytes segments).length
  | [], path => by simp [walk]
  | [s], path => by
    have hshorten := length_shorten_le path
    have hnothing : (decode "").length = 0 := rfl
    rw [walk, List.any_cons, List.any_nil, Bool.or_false, pathBytes_cons, pathBytes_nil,
      List.append_nil, List.length_cons]
    by_cases hdots : isDotDot s = true
    · have hpoint : isPoint s = true := by simp [isPoint, hdots]
      have hlength : (decode s).length = 2 := by rw [decode_of_isDotDot hdots]; rfl
      rw [if_pos hdots, hpoint, length_pathBytes_concat, Bool.toNat_true]
      omega
    · by_cases hdot : isDot s = true
      · have hpoint : isPoint s = true := by simp [isPoint, hdot]
        have hlength : (decode s).length = 1 := by rw [decode_of_isDot hdot]; rfl
        rw [if_neg hdots, if_pos hdot, hpoint, length_pathBytes_concat, Bool.toNat_true]
        omega
      · have hpoint : isPoint s = false := by simp [isPoint, hdots, hdot]
        have hrooted := length_rooted file path s
        rw [if_neg hdots, if_neg hdot, hpoint, length_pathBytes_concat, Bool.toNat_false]
        omega
  | s :: t :: rest, path => by
    rw [walk, List.any_cons, pathBytes_cons, List.length_append, List.length_cons]
    by_cases hdots : isDotDot s = true
    · have hrest := length_walk_le file (t :: rest) (shorten path)
      have hshorten := length_shorten_le path
      have hlength : (decode s).length = 2 := by rw [decode_of_isDotDot hdots]; rfl
      have hbool : (isPoint s || (t :: rest).any isPoint).toNat ≤ 1 := Bool.toNat_le _
      rw [if_pos hdots]
      omega
    · by_cases hdot : isDot s = true
      · have hrest := length_walk_le file (t :: rest) path
        have hlength : (decode s).length = 1 := by rw [decode_of_isDot hdot]; rfl
        have hbool : (isPoint s || (t :: rest).any isPoint).toNat ≤ 1 := Bool.toNat_le _
        rw [if_neg hdots, if_pos hdot]
        omega
      · have hrest := length_walk_le file (t :: rest) (path ++ [rooted file path s])
        have hrooted := length_rooted file path s
        have hpoint : isPoint s = false := by simp [isPoint, hdots, hdot]
        rw [length_pathBytes_concat] at hrest
        rw [if_neg hdots, if_neg hdot, hpoint, Bool.false_or]
        omega

theorem length_tidy_le (file : Bool) (path : List String) :
    (pathBytes (tidy file path)).length ≤ (pathBytes path).length := by
  fun_induction tidy file path with
  | case1 t rest hfile ih =>
    rw [pathBytes_cons, List.length_append]
    omega
  | case2 => exact Nat.le_refl _
  | case3 => exact Nat.le_refl _

end ClusterPackages.Url
