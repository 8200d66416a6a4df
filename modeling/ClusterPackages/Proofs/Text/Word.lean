import ClusterPackages.Proofs.Text.Blank

namespace ClusterPackages.Text

/-!
# Words of a text

* `Spaced` — words with blanks before, between and after them.
* `words_eq_iff` — the words of a text are the ones of which it consists in this way.
* `words_trim` — blanks around a text do not matter to its words.
* `length_words_le` — there is a blank between neighbouring words.
-/

/-- A text without blanks that is not empty. -/
structure IsWord (w : String) : Prop where
  /-- It is not empty. -/
  ne : w.toList ≠ []
  /-- No character is blank. -/
  plain : ∀ c ∈ w.toList, isBlank c = false

theorem isWord_of_any {w : String} (hne : w ≠ "") (h : w.toList.any isBlank = false) :
    IsWord w where
  ne := by simpa using hne
  plain c hc := by simpa using List.any_eq_false.1 h c hc

/-- A space before a word is dropped, and nothing of the word. -/
theorem dropBlank_word {w : String} (hw : IsWord w) (r : List Char) :
    dropBlank (' ' :: (w.toList ++ r)) = w.toList ++ r := by
  obtain ⟨c, rest, hchars⟩ := List.exists_cons_of_ne_nil hw.ne
  have hc : isBlank c = false := hw.plain c (by simp [hchars])
  have hspace : isBlank ' ' = true := by decide
  rw [hchars]
  simp [dropBlank, hspace, hc]

/-- The characters are the words, with any blanks before and after them, and at least one between
    neighbours. -/
inductive Spaced : List String → List Char → Prop
  | blank {cs : List Char} (h : ∀ c ∈ cs, isBlank c = true) : Spaced [] cs
  | word {before after : List Char} {w : String} {rest : List String}
      (hbefore : ∀ c ∈ before, isBlank c = true) (hw : IsWord w)
      (hafter : ∀ c, after.head? = some c → isBlank c = true) (h : Spaced rest after) :
      Spaced (w :: rest) (before ++ w.toList ++ after)

/-- A word may stand in front, if a blank or nothing follows it. -/
theorem Spaced.first {w : String} {rest : List String} {after : List Char} (hw : IsWord w)
    (hafter : ∀ c, after.head? = some c → isBlank c = true) (h : Spaced rest after) :
    Spaced (w :: rest) (w.toList ++ after) :=
  @Spaced.word [] after w rest (fun _ hc => nomatch hc) hw hafter h

/-- What stands between the blanks are words. -/
theorem Spaced.isWord {l : List String} {cs : List Char} (h : Spaced l cs) : ∀ w ∈ l, IsWord w := by
  induction h with
  | blank _ => exact fun _ hw => nomatch hw
  | word _ hw _ _ ih =>
    intro v hv
    rcases List.mem_cons.1 hv with rfl | hv
    · exact hw
    · exact ih v hv

/-- A blank may stand in front. -/
theorem Spaced.cons {c : Char} (hc : isBlank c = true) {l : List String} {cs : List Char}
    (h : Spaced l cs) : Spaced l (c :: cs) := by
  cases h with
  | blank h => exact .blank (List.forall_mem_cons.2 ⟨hc, h⟩)
  | word hbefore hw hafter h => exact .word (List.forall_mem_cons.2 ⟨hc, hbefore⟩) hw hafter h

/-- Words with a space between neighbours. -/
theorem spaced_join {l : List String} (h : ∀ w ∈ l, IsWord w) : Spaced l (join " " l).toList := by
  match l with
  | [] => exact .blank (by simp [join])
  | [w] =>
    have hnone : Spaced [] [] := .blank (by simp)
    have hw := Spaced.first (h w (by simp)) (by simp) hnone
    simpa [join] using hw
  | w :: v :: rest =>
    have hspace : isBlank ' ' = true := by decide
    have hrest := Spaced.cons hspace (spaced_join fun u hu => h u (List.mem_cons_of_mem w hu))
    have hw := Spaced.first (h w (by simp)) (by simp [hspace]) hrest
    simpa [join] using hw

/-! ### Reading words -/

/-- Blanks in front of the first word are passed over. -/
theorem wordsFrom_blank {before : List Char} (h : ∀ c ∈ before, isBlank c = true)
    (cs : List Char) : wordsFrom [] (before ++ cs) = wordsFrom [] cs := by
  induction before with
  | nil => rfl
  | cons c before ih =>
    obtain ⟨hc, hrest⟩ := List.forall_mem_cons.1 h
    rw [List.cons_append, wordsFrom, if_pos hc]
    exact ih hrest

/-- Characters that are not blank are gathered into the word that is being read. -/
theorem wordsFrom_plain {w : List Char} (h : ∀ c ∈ w, isBlank c = false) (word cs : List Char) :
    wordsFrom word (w ++ cs) = wordsFrom (w.reverse ++ word) cs := by
  induction w generalizing word with
  | nil => rfl
  | cons c w ih =>
    obtain ⟨hc, hrest⟩ := List.forall_mem_cons.1 h
    rw [List.cons_append, wordsFrom, hc, if_neg (by simp), ih hrest, List.reverse_cons,
      List.append_assoc, List.singleton_append]

/-- A word ends where a blank or nothing comes next. -/
theorem wordsFrom_end {word after : List Char} (hne : word ≠ [])
    (hafter : ∀ c, after.head? = some c → isBlank c = true) :
    wordsFrom word after = String.ofList word.reverse :: wordsFrom [] after := by
  cases after with
  | nil => simp [wordsFrom, hne]
  | cons c rest => simp [wordsFrom, hne, hafter c rfl]

/-- Words with blanks between them are read as these words. -/
theorem wordsFrom_of_spaced {l : List String} {cs : List Char} (h : Spaced l cs) :
    wordsFrom [] cs = l := by
  induction h with
  | @blank cs h =>
    have hall := wordsFrom_blank h []
    rwa [List.append_nil] at hall
  | @word before after w rest hbefore hw hafter _ ih =>
    have hne : w.toList.reverse ++ [] ≠ [] := by simpa using hw.ne
    rw [List.append_assoc, wordsFrom_blank hbefore, wordsFrom_plain hw.plain,
      wordsFrom_end hne hafter, ih, List.append_nil, List.reverse_reverse, String.ofList_toList]

/-- The words are found where they stand, the first one after what has been read of it. -/
theorem spaced_wordsFrom (word : List Char) (hword : ∀ c ∈ word, isBlank c = false)
    (cs : List Char) : Spaced (wordsFrom word cs) (word.reverse ++ cs) := by
  have hplain : ∀ {word : List Char}, word ≠ [] → (∀ c ∈ word, isBlank c = false) →
      IsWord (String.ofList word.reverse) := by
    intro word hne h
    exact ⟨by simpa using hne, by simpa using h⟩
  induction cs generalizing word with
  | nil =>
    by_cases hne : word = []
    · subst hne
      exact .blank (by simp)
    · have hnone : Spaced [] [] := .blank (by simp)
      have h := Spaced.first (hplain hne hword) (by simp) hnone
      simpa [wordsFrom, hne] using h
  | cons c rest ih =>
    by_cases hc : isBlank c = true
    · have hrest : Spaced (wordsFrom [] rest) (c :: rest) :=
        .cons hc (ih [] (by simp))
      by_cases hne : word = []
      · subst hne
        simpa [wordsFrom, hc] using hrest
      · have h := Spaced.first (hplain hne hword) (by simpa using hc) hrest
        simpa [wordsFrom, hne, hc] using h
    · have h := ih (c :: word) (List.forall_mem_cons.2 ⟨Bool.eq_false_iff.2 hc, hword⟩)
      simpa [wordsFrom, hc] using h

/-- **The words of a text** are those of which it consists, with blanks before, between and after
    them. -/
theorem words_eq_iff {s : String} {l : List String} : words s = l ↔ Spaced l s.toList := by
  constructor
  · rintro rfl
    exact spaced_wordsFrom [] (by simp) s.toList
  · exact wordsFrom_of_spaced

/-! ### Blanks -/

/-- Blanks at the end add nothing. -/
theorem wordsFrom_append_blank {after : List Char} (h : ∀ c ∈ after, isBlank c = true)
    (word cs : List Char) : wordsFrom word (cs ++ after) = wordsFrom word cs := by
  induction cs generalizing word with
  | nil =>
    by_cases hne : word = []
    · rw [hne, List.nil_append]
      simpa using wordsFrom_blank h []
    · have hhead : ∀ c, after.head? = some c → isBlank c = true :=
        fun c hc => h c (List.mem_of_mem_head? hc)
      have hrest := wordsFrom_blank h []
      rw [List.append_nil] at hrest
      rw [List.nil_append, wordsFrom_end hne hhead, hrest]
      simp [wordsFrom, hne]
  | cons c rest ih => simp only [List.cons_append, wordsFrom, ih]

/-- Blanks around a text do not matter to its words. -/
theorem words_trim (s : String) : words (trim s) = words s := by
  have hblank : ∀ cs : List Char, ∀ c ∈ cs.takeWhile isBlank, isBlank c = true :=
    fun cs => List.all_eq_true.1 List.all_takeWhile
  have hfront : s.toList.takeWhile isBlank ++ dropBlank s.toList = s.toList :=
    List.takeWhile_append_dropWhile
  have hback : trimChars s.toList ++ ((dropBlank s.toList).reverse.takeWhile isBlank).reverse =
      dropBlank s.toList := by
    rw [trimChars, ← List.reverse_append]
    show ((dropBlank s.toList).reverse.takeWhile isBlank ++
      (dropBlank s.toList).reverse.dropWhile isBlank).reverse = _
    rw [List.takeWhile_append_dropWhile, List.reverse_reverse]
  calc words (trim s) = wordsFrom [] (trimChars s.toList) := by rw [words, toList_trim]
    _ = wordsFrom [] (dropBlank s.toList) := by
      conv => rhs; rw [← hback]
      rw [wordsFrom_append_blank]
      exact fun c hc => hblank _ c (List.mem_reverse.1 hc)
    _ = words s := by
      rw [words]
      conv => rhs; rw [← hfront]
      rw [wordsFrom_blank (hblank _)]

/-- There is at most one word more than there are blanks. -/
theorem length_words_le (s : String) : (words s).length ≤ s.toList.countP isBlank + 1 := by
  have hfrom : ∀ cs word : List Char, (wordsFrom word cs).length ≤ cs.countP isBlank + 1 := by
    intro cs
    induction cs with
    | nil =>
      intro word
      by_cases hne : word = [] <;> simp [wordsFrom, hne]
    | cons c rest ih =>
      intro word
      by_cases hc : isBlank c = true
      · have hrest := ih []
        by_cases hne : word = []
        · simp [wordsFrom, hc, hne]
          omega
        · simp [wordsFrom, hc, hne]
          omega
      · have hrest := ih (c :: word)
        simp [wordsFrom, hc]
        omega
  exact hfrom s.toList []

end ClusterPackages.Text
