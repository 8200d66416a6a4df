import ClusterPackages.Proofs.Text.Digit
import ClusterPackages.Proofs.Text.Word
import ClusterPackages.Time.Read

namespace ClusterPackages.Instant

open Text

/-!
# Scanning fields

* `Digits` — characters that are digits, with the number that they spell (`digits_padded`).
* `IsName` — a text that is a name of a list up to case.
* `scanNumber_append`, `scanName_append` — what is scanned of a text that starts with such a field.
* `blanks_readInternet?` — the layout of the Internet has one blank at most.
* `read?_of_words` — so a text of three words and more is read in the other layout.
-/

/-! ### Digits -/

/-- The characters are digits that spell the number. -/
structure Digits (n : Nat) (ds : List Char) : Prop where
  /-- They are digits. -/
  digits : ∀ c ∈ ds, isDigit c = true
  /-- The number that they spell. -/
  value : Nat.ofDigitChars 10 ds 0 = n

/-- The decimal digits of a number spell it, zeros in front or not. -/
theorem digits_padded (width n : Nat) : Digits n (padded width n) where
  digits c hc := by
    rcases List.mem_append.1 hc with hc | hc
    · rw [(List.mem_replicate.1 hc).2]
      rfl
    · exact isDigit_toDigits n c hc
  value := by
    rw [padded, Nat.ofDigitChars_append, Nat.ofDigitChars_replicate_zero, Nat.mul_zero,
      Nat.ofDigitChars_ten_toDigits]

/-- A number has a digit at least. -/
theorem padded_ne_nil (width n : Nat) : padded width n ≠ [] := by
  simp [padded, Nat.toDigits_ne_nil]

/-- A number that fits the width is filled up to it. -/
theorem length_padded {width n : Nat} (hwidth : 0 < width) (hn : n < Nat.pow 10 width) :
    (padded width n).length = width := by
  have hle := (Nat.length_toDigits_le_iff (by decide) hwidth).2 hn
  rw [padded, List.length_append, List.length_replicate]
  omega

/-- No digit is dropped as a blank. -/
theorem dropBlank_digits {ds : List Char} (hds : ∀ c ∈ ds, isDigit c = true) (hne : ds ≠ [])
    (r : List Char) : dropBlank (ds ++ r) = ds ++ r := by
  obtain ⟨c, rest, rfl⟩ := List.exists_cons_of_ne_nil hne
  exact List.dropWhile_cons_of_neg (by simp [isBlank_of_isDigit (hds c List.mem_cons_self)])

/-- Digits make a word. -/
theorem isWord_digits {ds : List Char} (hds : ∀ c ∈ ds, isDigit c = true) (hne : ds ≠ []) :
    IsWord (String.ofList ds) where
  ne := by rwa [String.toList_ofList]
  plain c hc := isBlank_of_isDigit (hds c (by rwa [String.toList_ofList] at hc))

/-- No digit stands at the front. -/
def Stops (r : List Char) : Prop := ∀ c, r.head? = some c → isDigit c = false

/-- A number may end before any character that is no digit. -/
theorem stops_cons {c : Char} (hc : isDigit c = false) (r : List Char) : Stops (c :: r) := by
  rintro d ⟨⟩
  exact hc

theorem stops_nil : Stops [] := fun _ h => nomatch h

/-- Digits up to the bound are scanned, and the others are left. -/
theorem scanNumber_append {least most : Nat} {ds r : List Char}
    (hds : ∀ c ∈ ds, isDigit c = true) (hr : Stops r) (hleast : least ≤ min most ds.length) :
    scanNumber least most (ds ++ r) =
      some (Nat.ofDigitChars 10 (ds.take most) 0, ds.drop most ++ r) := by
  have hstop : (r.take (most - ds.length)).takeWhile isDigit = [] := by
    cases r with
    | nil => rw [List.take_nil, List.takeWhile_nil]
    | cons c rest =>
      cases most - ds.length with
      | zero => rfl
      | succ count => exact List.takeWhile_cons_of_neg (by simp [hr c rfl])
  have hlead : leadingDigits most (ds ++ r) = ds.take most := by
    rw [leadingDigits, List.take_append,
      List.takeWhile_append_of_pos fun c hc => hds c (List.mem_of_mem_take hc), hstop,
      List.append_nil]
  have hlength : (ds.take most).length = min most ds.length := List.length_take
  have hdrop : (ds ++ r).drop (min most ds.length) = ds.drop most ++ r := by
    rw [List.drop_append_of_le_length (by omega)]
    by_cases hmost : most ≤ ds.length
    · rw [Nat.min_eq_left hmost]
    · rw [Nat.min_eq_right (by omega), List.drop_length, List.drop_eq_nil_of_le (by omega)]
  have henough : ¬ min most ds.length < least := by omega
  simp only [scanNumber, hlead, hlength, if_neg henough, hdrop]

/-- A field of digits is scanned as the number that it spells. -/
theorem scanNumber_digits {least most n : Nat} {ds r : List Char} (hds : Digits n ds)
    (hlength : least ≤ ds.length ∧ ds.length ≤ most) (hr : Stops r) :
    scanNumber least most (ds ++ r) = some (n, r) := by
  rw [scanNumber_append hds.digits hr (by omega), List.take_of_length_le hlength.2, hds.value,
    List.drop_eq_nil_of_le hlength.2, List.nil_append]

/-! ### Names -/

/-- Up to case, the text is the name at the position. -/
def IsName (names : List String) (i : Nat) (s : String) : Prop := names[i]? = some (asciiLower s)

instance {names : List String} {i : Nat} {s : String} : Decidable (IsName names i s) :=
  inferInstanceAs (Decidable (names[i]? = some (asciiLower s)))

/-- Names of three small letters that can be told apart. -/
structure Abbreviations (names : List String) : Prop where
  /-- All have three letters. -/
  short : ∀ n ∈ names, n.toList.length = 3
  /-- All letters are small. -/
  small : ∀ n ∈ names, asciiLower n = n
  /-- None of them is blank. -/
  plain : ∀ n ∈ names, n.toList.any isBlank = false
  /-- The name at a position is found there. -/
  found : ∀ i < names.length, ∀ n ∈ names, names[i]? = some n → names.findIdx? (· == n) = some i

/-- The days of the week have names that can be told apart. -/
theorem abbreviations_weekdayNames : Abbreviations weekdayNames :=
  ⟨by decide +kernel, by decide +kernel, by decide +kernel, by decide +kernel⟩

/-- The months have names that can be told apart. -/
theorem abbreviations_monthNames : Abbreviations monthNames :=
  ⟨by decide +kernel, by decide +kernel, by decide +kernel, by decide +kernel⟩

/-- At every position there is a name. -/
theorem exists_isName {names : List String} (hnames : Abbreviations names) {i : Nat}
    (hi : i < names.length) : ∃ s, IsName names i s ∧ IsWord s := by
  have hmem : names[i] ∈ names := List.getElem_mem hi
  refine ⟨names[i], ?_, isWord_of_any ?_ (hnames.plain _ hmem)⟩
  · rw [IsName, hnames.small _ hmem, List.getElem?_eq_getElem hi]
  · intro hnil
    have hlength := hnames.short _ hmem
    rw [hnil] at hlength
    cases hlength

/-- A name is scanned as its position. -/
theorem scanName_append {names : List String} (hnames : Abbreviations names) {i : Nat} {s : String}
    (hs : IsName names i s) (r : List Char) : scanName names (s.toList ++ r) = some (i, r) := by
  have hlength : s.toList.length = 3 := by
    have hlower := hnames.short _ (List.mem_of_getElem? hs)
    simpa [asciiLower] using hlower
  have hi : i < names.length := (List.getElem?_eq_some_iff.1 hs).1
  have htake : (s.toList ++ r).take 3 = s.toList := by
    rw [← hlength, List.take_left]
  have hdrop : (s.toList ++ r).drop 3 = r := by
    rw [← hlength, List.drop_left]
  rw [scanName, htake, hdrop, String.ofList_toList, hnames.found i hi _ (List.mem_of_getElem? hs) hs,
    Option.map_some]

/-! ### Blanks in the layout of the Internet -/

/-- The number of blanks. -/
def blanks (s : List Char) : Nat := s.countP isBlank

theorem blanks_digits {ds : List Char} (hds : ∀ c ∈ ds, isDigit c = true) (r : List Char) :
    blanks (ds ++ r) = blanks r := by
  have hnone : ds.countP isBlank = 0 := by
    apply List.countP_eq_zero.2
    intro c hc
    simp [isBlank_of_isDigit (hds c hc)]
  rw [blanks, List.countP_append, hnone, Nat.zero_add]
  rfl

/-- A character that is not blank does not count among the blanks. -/
theorem blanks_cons {c : Char} (hc : isBlank c = false) (r : List Char) :
    blanks (c :: r) = blanks r := by
  simp [blanks, hc]

section

variable {s r : List Char}

/-- A number takes no blanks off the text. -/
theorem blanks_scanNumber {least most n : Nat} (h : scanNumber least most s = some (n, r)) :
    blanks s = blanks r := by
  have hdigits : ∀ c ∈ leadingDigits most s, isDigit c = true :=
    List.all_eq_true.1 List.all_takeWhile
  have hprefix : leadingDigits most s <+: s :=
    (List.takeWhile_prefix isDigit).trans (List.take_prefix most s)
  have hsplit := List.prefix_iff_eq_append.1 hprefix
  rw [scanNumber] at h
  split at h
  · cases h
  · obtain ⟨-, rfl⟩ := Prod.mk.inj (Option.some.inj h)
    have hrest := blanks_digits hdigits (s.drop (leadingDigits most s).length)
    rwa [hsplit] at hrest

theorem blanks_scanChar {c : Char} (hc : isBlank c = false) (h : scanChar c s = some r) :
    blanks s = blanks r := by
  cases s with
  | nil => cases h
  | cons d rest =>
    rw [scanChar] at h
    split at h
    · rename_i hd
      obtain rfl := Option.some.inj h
      exact blanks_cons (hd ▸ hc) rest
    · cases h

/-- A character that is expected may be a blank itself. -/
theorem blanks_scanChar_le {c : Char} (h : scanChar c s = some r) : blanks s ≤ blanks r + 1 := by
  cases s with
  | nil => cases h
  | cons d rest =>
    rw [scanChar] at h
    split at h
    · obtain rfl := Option.some.inj h
      rw [blanks, List.countP_cons]
      split
      · exact Nat.le_refl _
      · exact Nat.le_succ _
    · cases h

theorem blanks_scanNanos {n : Nat} (h : scanNanos s = some (n, r)) : blanks s = blanks r := by
  rw [scanNanos] at h
  split at h
  · cases h
  · obtain ⟨-, rfl⟩ := Prod.mk.inj (Option.some.inj h)
    have hsplit : s.takeWhile isDigit ++ s.dropWhile isDigit = s := List.takeWhile_append_dropWhile
    have hdigits : ∀ c ∈ s.takeWhile isDigit, isDigit c = true :=
      List.all_eq_true.1 List.all_takeWhile
    have hrest := blanks_digits hdigits (s.dropWhile isDigit)
    rwa [hsplit] at hrest

theorem blanks_scanFraction {n : Nat} (h : scanFraction s = some (n, r)) : blanks s = blanks r := by
  unfold scanFraction at h
  split at h
  · exact (blanks_cons (by decide) _).trans (blanks_scanNanos h)
  · obtain ⟨-, rfl⟩ := Prod.mk.inj (Option.some.inj h)
    rfl

theorem blanks_scanOffsetSign {minus : Bool} (h : scanOffsetSign s = some (minus, r)) :
    blanks s = blanks r := by
  unfold scanOffsetSign at h
  split at h
  · obtain ⟨-, rfl⟩ := Prod.mk.inj (Option.some.inj h)
    exact blanks_cons (by decide) _
  · obtain ⟨-, rfl⟩ := Prod.mk.inj (Option.some.inj h)
    exact blanks_cons (by decide) _
  · obtain ⟨-, rfl⟩ := Prod.mk.inj (Option.some.inj h)
    exact blanks_cons (by decide) _
  · cases h

/-- An offset takes no blanks off the text. -/
theorem blanks_scanOffset {n : Int} (h : scanOffset s = some (n, r)) : blanks s = blanks r := by
  unfold scanOffset at h
  split at h
  · obtain ⟨-, rfl⟩ := Prod.mk.inj (Option.some.inj h)
    exact blanks_cons (by decide) _
  · obtain ⟨-, rfl⟩ := Prod.mk.inj (Option.some.inj h)
    exact blanks_cons (by decide) _
  · simp only [Option.bind_eq_bind, Option.bind_eq_some_iff, Prod.exists] at h
    obtain ⟨minus, s₁, hsign, hours, s₂, hhours, s₃, hcolon, minutes, s₄, hminutes, h⟩ := h
    split at h
    · cases h
    · obtain ⟨-, rfl⟩ := Prod.mk.inj (Option.some.inj h)
      calc blanks s = blanks s₁ := blanks_scanOffsetSign hsign
        _ = blanks s₂ := blanks_scanNumber hhours
        _ = blanks s₃ := blanks_scanChar (by decide) hcolon
        _ = blanks s₄ := blanks_scanNumber hminutes

end

/-- In the layout of the Internet, a blank stands between date and time at most. -/
theorem blanks_readInternet? {s : List Char} {i : Instant} (h : readInternet? s = some i) :
    blanks s ≤ 1 := by
  obtain ⟨⟨year, s₁⟩, hyear, h⟩ := Option.bind_eq_some_iff.1 h
  obtain ⟨s₂, hdash, h⟩ := Option.bind_eq_some_iff.1 h
  obtain ⟨⟨month, s₃⟩, hmonth, h⟩ := Option.bind_eq_some_iff.1 h
  obtain ⟨s₄, hdash', h⟩ := Option.bind_eq_some_iff.1 h
  obtain ⟨⟨day, s₅⟩, hday, h⟩ := Option.bind_eq_some_iff.1 h
  obtain ⟨s₆, hseparator, h⟩ := Option.bind_eq_some_iff.1 h
  obtain ⟨⟨hour, s₇⟩, hhour, h⟩ := Option.bind_eq_some_iff.1 h
  obtain ⟨s₈, hcolon, h⟩ := Option.bind_eq_some_iff.1 h
  obtain ⟨⟨minute, s₉⟩, hminute, h⟩ := Option.bind_eq_some_iff.1 h
  obtain ⟨s₁₀, hcolon', h⟩ := Option.bind_eq_some_iff.1 h
  obtain ⟨⟨second, s₁₁⟩, hsecond, h⟩ := Option.bind_eq_some_iff.1 h
  obtain ⟨⟨nanos, s₁₂⟩, hnanos, h⟩ := Option.bind_eq_some_iff.1 h
  obtain ⟨⟨offset, s₁₃⟩, hoffset, h⟩ := Option.bind_eq_some_iff.1 h
  obtain ⟨j, -, hend⟩ := Option.bind_eq_some_iff.1 h
  have hdone : s₁₃ = [] := by
    cases s₁₃ with
    | nil => rfl
    | cons c rest => simp at hend
  have hgap : blanks s₅ ≤ blanks s₆ + 1 := by
    simp only [Option.orElse_eq_orElse, Option.orElse_eq_or, Option.or_eq_some_iff] at hseparator
    rcases hseparator with h | ⟨-, h | ⟨-, h⟩⟩
    · exact blanks_scanChar_le h
    · exact blanks_scanChar_le h
    · exact blanks_scanChar_le h
  calc blanks s = blanks s₁ := blanks_scanNumber hyear
    _ = blanks s₂ := blanks_scanChar (by decide) hdash
    _ = blanks s₃ := blanks_scanNumber hmonth
    _ = blanks s₄ := blanks_scanChar (by decide) hdash'
    _ = blanks s₅ := blanks_scanNumber hday
    _ ≤ blanks s₆ + 1 := hgap
    _ = blanks s₇ + 1 := by rw [blanks_scanNumber hhour]
    _ = blanks s₈ + 1 := by rw [blanks_scanChar (by decide) hcolon]
    _ = blanks s₉ + 1 := by rw [blanks_scanNumber hminute]
    _ = blanks s₁₀ + 1 := by rw [blanks_scanChar (by decide) hcolon']
    _ = blanks s₁₁ + 1 := by rw [blanks_scanNumber hsecond]
    _ = blanks s₁₂ + 1 := by rw [blanks_scanFraction hnanos]
    _ = blanks s₁₃ + 1 := by rw [blanks_scanOffset hoffset]
    _ = 1 := by rw [hdone]; rfl

/-- A text of three words and more is not in the layout of the Internet. -/
theorem read?_of_words {s : String} (h : 3 ≤ (words s).length) : read? s = readUnixDate? s := by
  rw [read?]
  cases hread : readInternet? (trimChars s.toList) with
  | none => rfl
  | some i =>
    have hblanks := blanks_readInternet? hread
    have hwords := length_words_le (trim s)
    rw [words_trim, toList_trim] at hwords
    rw [blanks] at hblanks
    omega

end ClusterPackages.Instant
