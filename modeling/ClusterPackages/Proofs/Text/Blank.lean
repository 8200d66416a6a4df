import ClusterPackages.Proofs.Text.Affix
import ClusterPackages.Text.Blank

namespace ClusterPackages.Text

/-!
# Trimmed texts

* `Trimmed` — no blank stands at either end.
* `trimmed_trimChars`, `trimChars_of_trimmed` — trimming makes texts such, and leaves such texts as
  they are.
* `length_trim_le`, `trim_of_length` — trimming shortens exactly the texts that it changes.
* `startsWith_slash` — a text starts with a slash if that is its first character.
* `isBlank_of_graphic` — no visible character of ASCII is blank.
* `trim_eq_empty_iff`, `allBlank_join` — which texts are blank.
* `allBlank_trim`, `allBlank_congr` — neither the blanks around a text nor the case of its letters
  matter to whether it is blank.
* `sameIgnoringCase_found` — what has been found under a name can be asked for by the name that it
  has itself.
-/

/-- No blank stands at either end of the characters. -/
structure Trimmed (cs : List Char) : Prop where
  /-- The first character is not blank. -/
  head : ∀ c, cs.head? = some c → isBlank c = false
  /-- The last character is not blank. -/
  last : ∀ c, cs.getLast? = some c → isBlank c = false

variable {cs : List Char}

/-- No blanks are dropped where the first character is none. -/
theorem dropBlank_of_head (h : ∀ c, cs.head? = some c → isBlank c = false) :
    dropBlank cs = cs := by
  cases cs with
  | nil => rfl
  | cons c cs => exact List.dropWhile_cons_of_neg (by simp [h c rfl])

/-- After blanks have been dropped, the first character is none. -/
theorem head_dropBlank (cs : List Char) (c : Char) (h : (dropBlank cs).head? = some c) :
    isBlank c = false := by
  have hnot := List.head?_dropWhile_not isBlank cs
  rw [show cs.dropWhile isBlank = dropBlank cs from rfl, h] at hnot
  simpa using hnot

/-- Trimmed characters are left as they are. -/
theorem trimChars_of_trimmed (h : Trimmed cs) : trimChars cs = cs := by
  have hback : dropBlank cs.reverse = cs.reverse :=
    dropBlank_of_head fun c hc => h.last c (by rwa [List.head?_reverse] at hc)
  rw [trimChars, dropBlank_of_head h.head, hback, List.reverse_reverse]

/-- Trimming leaves no blank at either end. -/
theorem trimmed_trimChars (cs : List Char) : Trimmed (trimChars cs) := by
  refine ⟨fun c hc => ?_, fun c hc => ?_⟩
  · -- The blanks at the end are a part of the text, so the first character stays.
    rw [trimChars, List.head?_reverse] at hc
    have hsuffix : dropBlank (dropBlank cs).reverse <:+ (dropBlank cs).reverse :=
      List.dropWhile_suffix isBlank
    obtain ⟨front, hfront⟩ := hsuffix
    refine head_dropBlank cs c ?_
    rw [← List.getLast?_reverse, ← hfront, List.getLast?_append, hc]
    rfl
  · rw [trimChars, List.getLast?_reverse] at hc
    exact head_dropBlank _ c hc

@[simp]
theorem toList_trim (s : String) : (trim s).toList = trimChars s.toList := by
  rw [trim, String.toList_ofList]

theorem trim_of_trimmed {s : String} (h : Trimmed s.toList) : trim s = s := by
  rw [trim, trimChars_of_trimmed h, String.ofList_toList]

/-- Characters without a blank are trimmed. -/
theorem trimmed_of_forall (h : ∀ c ∈ cs, isBlank c = false) : Trimmed cs where
  head c hc := h c (List.mem_of_mem_head? hc)
  last c hc := h c (List.mem_of_getLast? hc)

/-- Dropping blanks makes a text no longer. -/
theorem length_dropBlank_le (cs : List Char) : (dropBlank cs).length ≤ cs.length :=
  (List.dropWhile_suffix isBlank).length_le

theorem length_trim_le (s : String) : (trim s).length ≤ s.length := by
  have hback := length_dropBlank_le (dropBlank s.toList).reverse
  have hfront := length_dropBlank_le s.toList
  rw [← String.length_toList, ← String.length_toList, toList_trim, trimChars, List.length_reverse]
  rw [List.length_reverse] at hback
  omega

/-- Trimming shortens every text that it changes. -/
theorem trim_of_length {s : String} (h : s.length ≤ (trim s).length) : trim s = s := by
  have hback := length_dropBlank_le (dropBlank s.toList).reverse
  have hfront := length_dropBlank_le s.toList
  rw [← String.length_toList, ← String.length_toList, toList_trim, trimChars,
    List.length_reverse] at h
  rw [List.length_reverse] at hback
  have hsame : dropBlank s.toList = s.toList :=
    (List.dropWhile_suffix isBlank).eq_of_length (by show (dropBlank _).length = _; omega)
  have hsame' : dropBlank s.toList.reverse = s.toList.reverse := by
    rw [hsame] at h hback
    apply (List.dropWhile_suffix isBlank).eq_of_length
    show (dropBlank _).length = _
    rw [List.length_reverse]
    omega
  rw [trim, trimChars, hsame, hsame', List.reverse_reverse, String.ofList_toList]

/-- Whether a text starts with a slash is settled by its first character. -/
theorem startsWith_slash (s : String) : startsWith "/" s = true ↔ s.toList.head? = some '/' := by
  unfold startsWith
  cases s.toList with
  | nil => simp [stripPrefixChars?]
  | cons c cs =>
    by_cases hc : '/' = c
    · subst hc
      simp [stripPrefixChars?]
    · simp [stripPrefixChars?, hc, Ne.symm hc]

/-! ### Blank texts -/

/-- Dropping blanks does not change whether there are only blanks. -/
theorem all_dropBlank (cs : List Char) : (dropBlank cs).all isBlank = cs.all isBlank := by
  induction cs with
  | nil => rfl
  | cons c cs ih =>
    cases hc : isBlank c with
    | true =>
      have hdrop : dropBlank (c :: cs) = dropBlank cs := List.dropWhile_cons_of_pos hc
      rw [hdrop, ih, List.all_cons, hc, Bool.true_and]
    | false =>
      have hkeep : dropBlank (c :: cs) = c :: cs := List.dropWhile_cons_of_neg (by simp [hc])
      rw [hkeep]

/-- Trimming does not change whether there are only blanks. -/
theorem allBlank_trim (s : String) : allBlank (trim s) = allBlank s := by
  rw [allBlank, toList_trim, trimChars, List.all_reverse, all_dropBlank, List.all_reverse,
    all_dropBlank, allBlank]

/-- Nothing is left of a text by trimming exactly if it has only blanks. -/
theorem trim_eq_empty_iff {s : String} : trim s = "" ↔ allBlank s = true := by
  constructor
  · intro h
    rw [← allBlank_trim, h]
    rfl
  · intro h
    have hdrop : dropBlank s.toList = [] := by
      cases hchars : dropBlank s.toList with
      | nil => rfl
      | cons c cs =>
        -- The first character that is left is one of the text, and not blank.
        have hmem : c ∈ s.toList :=
          (List.dropWhile_suffix isBlank).mem (show c ∈ dropBlank s.toList by simp [hchars])
        have hblank : isBlank c = true := List.all_eq_true.1 h c hmem
        have hnot := head_dropBlank s.toList c (by rw [hchars]; rfl)
        cases hblank.symm.trans hnot
    rw [trim, trimChars, hdrop]
    rfl

/-- A text with a comma in it is not blank. -/
theorem allBlank_join {l : List String} :
    allBlank (join "," l) = true ↔ l.length ≤ 1 ∧ ∀ s ∈ l, allBlank s = true := by
  match l with
  | [] => simp [join, allBlank]
  | [s] => simp [join]
  | s :: t :: rest =>
    have hcomma : isBlank ',' = false := by decide
    simp [join, allBlank, hcomma]

/-- The visible characters of ASCII are not blank. -/
theorem isBlank_of_graphic {c : Char} (hlow : 0x21 ≤ c.toNat) (hhigh : c.toNat ≤ 0x7E) :
    isBlank c = false := by
  simp only [isBlank, blankRanges, List.any_cons, List.any_nil, Bool.or_false, Bool.or_eq_false_iff,
    Bool.and_eq_false_iff, decide_eq_false_iff_not]
  omega

theorem isBlank_of_isDigit {c : Char} (h : c.isDigit = true) : isBlank c = false := by
  obtain ⟨hlow, hhigh⟩ := Bool.and_eq_true_iff.1 h
  have hlow : 0x30 ≤ c.toNat := UInt32.le_iff_toNat_le.1 (of_decide_eq_true hlow)
  have hhigh : c.toNat ≤ 0x39 := UInt32.le_iff_toNat_le.1 (of_decide_eq_true hhigh)
  exact isBlank_of_graphic (by omega) (by omega)

/-- The case of a letter does not make it blank. -/
theorem isBlank_toLower (c : Char) : isBlank c.toLower = isBlank c := by
  rcases toLower_cases c with hsame | ⟨hlow, hhigh, hlower⟩
  · rw [hsame]
  · -- Neither a capital nor the small letter in its place is blank.
    have hsmall : isBlank c.toLower = false := isBlank_of_graphic (by omega) (by omega)
    have hcapital : isBlank c = false := isBlank_of_graphic (by omega) (by omega)
    rw [hsmall, hcapital]

/-- The case of letters does not change whether there are only blanks. -/
theorem allBlank_asciiLower (s : String) : allBlank (asciiLower s) = allBlank s := by
  rw [allBlank, asciiLower, String.toList_ofList, List.all_map, allBlank]
  exact congrArg s.toList.all (funext isBlank_toLower)

/-- Of texts that are equal up to case, both have only blanks or none does. -/
theorem allBlank_congr {s t : String} (h : sameIgnoringCase s t = true) :
    allBlank s = allBlank t := by
  rw [← allBlank_asciiLower s, ← allBlank_asciiLower t, beq_iff_eq.1 h]

/-! ### Names found up to case -/

theorem trimmed_map_toLower : Trimmed (cs.map Char.toLower) ↔ Trimmed cs := by
  constructor
  · intro h
    refine ⟨fun c hc => ?_, fun c hc => ?_⟩
    · rw [← isBlank_toLower]
      exact h.head c.toLower (by rw [List.head?_map, hc]; rfl)
    · rw [← isBlank_toLower]
      exact h.last c.toLower (by rw [List.getLast?_map, hc]; rfl)
  · intro h
    refine ⟨fun c hc => ?_, fun c hc => ?_⟩
    · rw [List.head?_map] at hc
      obtain ⟨c', hc', rfl⟩ := Option.map_eq_some_iff.1 hc
      rw [isBlank_toLower]
      exact h.head c' hc'
    · rw [List.getLast?_map] at hc
      obtain ⟨c', hc', rfl⟩ := Option.map_eq_some_iff.1 hc
      rw [isBlank_toLower]
      exact h.last c' hc'

/-- A name that equals a trimmed one up to case has no blanks around it either. -/
theorem trim_of_sameIgnoringCase {s t : String} (h : sameIgnoringCase s (trim t) = true) :
    trim s = s := by
  have hlower : s.toList.map Char.toLower = (trimChars t.toList).map Char.toLower := by
    have hchars := congrArg String.toList (beq_iff_eq.1 h)
    simpa only [asciiLower, String.toList_ofList, toList_trim] using hchars
  refine trim_of_trimmed (trimmed_map_toLower.1 ?_)
  rw [hlower, trimmed_map_toLower]
  exact trimmed_trimChars t.toList

/-- Asking by the name of what has been found is asking by the name it was found under. -/
theorem sameIgnoringCase_found {s t : String} (h : sameIgnoringCase s (trim t) = true)
    (x : String) : sameIgnoringCase x (trim s) = sameIgnoringCase x (trim t) := by
  rw [trim_of_sameIgnoringCase h, sameIgnoringCase, sameIgnoringCase, beq_iff_eq.1 h]

end ClusterPackages.Text
