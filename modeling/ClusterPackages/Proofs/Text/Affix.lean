import ClusterPackages.Text.Affix

namespace ClusterPackages.Text

/-!
# Texts that start or end alike

* `stripPrefix?_eq_some` — stripping a prefix is the inverse of putting it in front.
* `startsWith_iff` — a text starts with another one if its characters do.
* `startsWith_trans`, `startsWith_total` — prefixes of one text are prefixes of one another.
* `toLower_cases` — which characters change when capitals are made small.
* `getLast?_dropTrailing` — a text does not end in what was taken off its end.
* `segments_append`, `segments_of_not_mem` — the segments of a text are those of its parts.
* `getLast?_segments` — what follows the last slash is the last segment.
* `segments_of_length` — a text with a single segment is that segment.
* `not_mem_of_mem_segments` — a segment does not have the separator in it.
-/

/-- Stripping a prefix off characters undoes putting it in front. -/
theorem stripPrefixChars?_eq_some {p cs rest : List Char} :
    stripPrefixChars? p cs = some rest ↔ cs = p ++ rest := by
  induction p generalizing cs with
  | nil => simp [stripPrefixChars?]
  | cons a p ih =>
    cases cs with
    | nil => simp [stripPrefixChars?]
    | cons c cs =>
      by_cases hac : a = c
      · subst hac
        simp [stripPrefixChars?, ih]
      · simp [stripPrefixChars?, hac, Ne.symm hac]

/-- Stripping a prefix off a text undoes putting it in front. -/
theorem stripPrefix?_eq_some {p s rest : String} :
    stripPrefix? p s = some rest ↔ s = p ++ rest := by
  unfold stripPrefix?
  constructor
  · intro h
    obtain ⟨cs, hcs, rfl⟩ := Option.map_eq_some_iff.1 h
    have hs : s.toList = p.toList ++ cs := stripPrefixChars?_eq_some.1 hcs
    apply String.toList_injective
    rw [hs, String.toList_append, String.toList_ofList]
  · rintro rfl
    have hcs : stripPrefixChars? p.toList (p ++ rest).toList = some rest.toList :=
      stripPrefixChars?_eq_some.2 String.toList_append
    rw [hcs, Option.map_some, String.ofList_toList]

/-- A text starts with another one when its characters do. -/
theorem startsWith_iff {p s : String} : startsWith p s = true ↔ p.toList <+: s.toList := by
  rw [startsWith, Option.isSome_iff_exists]
  constructor
  · rintro ⟨rest, h⟩
    exact ⟨rest, (stripPrefixChars?_eq_some.1 h).symm⟩
  · rintro ⟨rest, h⟩
    exact ⟨rest, stripPrefixChars?_eq_some.2 h.symm⟩

@[simp]
theorem startsWith_append (p s : String) : startsWith p (p ++ s) = true := by
  rw [startsWith_iff, String.toList_append]
  exact List.prefix_append _ _

theorem startsWith_trans {p q s : String} (hpq : startsWith p q = true)
    (hqs : startsWith q s = true) : startsWith p s = true := by
  rw [startsWith_iff] at hpq hqs ⊢
  exact hpq.trans hqs

/-- Of two texts with which a third one starts, one starts with the other. -/
theorem startsWith_total {p q s : String} (hp : startsWith p s = true)
    (hq : startsWith q s = true) : startsWith p q = true ∨ startsWith q p = true := by
  rw [startsWith_iff] at hp hq
  rw [startsWith_iff, startsWith_iff]
  exact List.prefix_or_prefix_of_prefix hp hq

/-- A text that starts with another one is that one with something after it. -/
theorem exists_of_startsWith {p s : String} (h : startsWith p s = true) :
    ∃ rest, s = p ++ rest := by
  obtain ⟨rest, hrest⟩ := startsWith_iff.1 h
  refine ⟨String.ofList rest, String.toList_injective ?_⟩
  rw [String.toList_append, String.toList_ofList, hrest]

/-! ### Case -/

/-- Only capitals change when they are made small. -/
theorem toLower_cases (c : Char) : c.toLower = c ∨
    0x41 ≤ c.toNat ∧ c.toNat ≤ 0x5A ∧ c.toLower.toNat = c.toNat + 0x20 := by
  by_cases h : c.val ≥ 'A'.val ∧ c.val ≤ 'Z'.val
  · have hlow : 0x41 ≤ c.toNat := UInt32.le_iff_toNat_le.1 h.1
    have hhigh : c.toNat ≤ 0x5A := UInt32.le_iff_toNat_le.1 h.2
    have hval : c.toLower.val = c.val + 32 := congrArg Char.val (dif_pos h)
    refine .inr ⟨hlow, hhigh, ?_⟩
    show c.toLower.val.toNat = c.val.toNat + 32
    have hbound : c.val.toNat ≤ 0x5A := hhigh
    rw [hval, UInt32.toNat_add]
    simp only [UInt32.reduceToNat]
    omega
  · exact .inl (dif_neg h)

/-- A character that is no small letter is the only one that becomes it. -/
theorem eq_of_toLower {c d : Char} (h : c.toLower = d) (hd : d.toNat < 0x61) : c = d := by
  rcases toLower_cases c with hsame | ⟨hlow, -, hlower⟩
  · exact hsame.symm.trans h
  · rw [h] at hlower
    omega

/-- Texts are equal up to case when their characters in small form are. -/
theorem sameIgnoringCase_iff {s t : String} : sameIgnoringCase s t = true ↔
    s.toList.map Char.toLower = t.toList.map Char.toLower := by
  rw [sameIgnoringCase, beq_iff_eq, asciiLower, asciiLower, String.ofList_inj]

/-! ### Ends that are taken off -/

/-- What is left of a text without the copies of `a` at its end does not end in `a`. -/
theorem getLast?_dropTrailing (a : Char) (s : String) :
    (dropTrailing a s).toList.getLast? ≠ some a := by
  intro h
  rw [dropTrailing, String.toList_ofList, List.getLast?_reverse] at h
  simpa [h] using List.head?_dropWhile_not (· == a) s.toList.reverse

/-! ### Texts with separators -/

/-- The segments on both sides of a slash are those of the whole text. -/
theorem segments_append (s t : String) :
    segments '/' (s ++ "/" ++ t) = segments '/' s ++ segments '/' t := by
  have hchars : (s ++ "/" ++ t).toList = s.toList ++ '/' :: t.toList := by simp
  rw [segments, hchars, List.splitOn_append_cons_self, List.map_append]
  rfl

/-- A text without the separator is its only segment. -/
theorem segments_of_not_mem {a : Char} {s : String} (h : a ∉ s.toList) : segments a s = [s] := by
  rw [segments, List.splitOn_eq_singleton h, List.map_singleton, String.ofList_toList]

/-- What follows the last slash is the last segment. -/
theorem getLast?_segments {s t : String} (h : '/' ∉ t.toList) :
    (segments '/' (s ++ "/" ++ t)).getLast? = some t := by
  rw [segments_append, segments_of_not_mem h, List.getLast?_concat]

/-- Every text has a segment, the empty text an empty one. -/
theorem one_le_length_segments (a : Char) (s : String) : 1 ≤ (segments a s).length := by
  rw [segments, List.length_map]
  exact List.length_pos_iff.2 (List.splitOn_ne_nil a s.toList)

/-- A text with a single segment is that segment. -/
theorem segments_of_length {a : Char} {s : String} (h : (segments a s).length = 1) :
    segments a s = [s] := by
  rw [segments, List.length_map] at h
  obtain ⟨part, hsplit⟩ := List.length_eq_one_iff.1 h
  have hchars : [a].intercalate (s.toList.splitOn a) = s.toList := List.intercalate_splitOn a
  rw [hsplit, List.intercalate_singleton] at hchars
  rw [segments, hsplit, hchars, List.map_singleton, String.ofList_toList]

/-- A segment does not have the separator in it. -/
theorem not_mem_of_mem_segments {a : Char} {s t : String} (h : t ∈ segments a s) :
    a ∉ t.toList := by
  have hparts : ∀ (cs : List Char), ∀ part ∈ cs.splitOn a, a ∉ part := by
    intro cs
    induction cs with
    | nil => simp
    | cons c cs ih =>
      rw [List.splitOn_cons_eq_if_modifyHead]
      split
      · simpa using ih
      · rename_i hc
        -- The character goes to the front of the first part.
        cases hrest : cs.splitOn a with
        | nil => simp
        | cons part parts =>
          rw [hrest] at ih
          have hne : a ≠ c := fun heq => hc (by simp [heq])
          simpa [hne] using ih
  obtain ⟨part, hpart, rfl⟩ := List.mem_map.1 h
  rw [String.toList_ofList]
  exact hparts s.toList part hpart

end ClusterPackages.Text
