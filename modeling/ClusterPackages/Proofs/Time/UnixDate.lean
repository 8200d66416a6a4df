import ClusterPackages.Proofs.Time.Date
import ClusterPackages.Proofs.Time.Scan

namespace ClusterPackages.Instant

open Text

/-!
# Moments in the layout of the Unix date command

* `date`, `time` — the fields of a moment, which make it up again (`ofFields_date_time`).
* `IsUnixDate` — the words of a moment in the layout.
* `readFields?_join` — what is read of fields that are spelled as in the layout.
* `read?_unixDate` — texts of these words are read as the moment, however they are spaced; with
  another day of the week, a day that the month does not have or another number of words, nothing
  is read.
-/

/-! ### Fields of a moment -/

/-- The date of a moment. -/
def date (i : Instant) : Date := Date.ofDayNumber (i.seconds / daySeconds)

/-- The time of day of a moment, to the second. -/
def time (i : Instant) : TimeOfDay :=
  let s := (i.seconds % daySeconds).toNat
  ⟨s / 3600, s / 60 % 60, s % 60 + i.nanos / secondNanos, 0⟩

/-- A second starts with the moment.  Leap seconds follow the last second of a minute. -/
def Whole (i : Instant) : Prop := i.nanos = 0 ∨ i.nanos = secondNanos ∧ i.seconds % 60 = 59

section

variable {i : Instant} (h : i.Whole)

include h

/-- The fields of a moment make it up. -/
theorem ofFields_date_time : ofFields i.date i.time = i := by
  obtain ⟨seconds, nanos⟩ := i
  have hday : (date ⟨seconds, nanos⟩).dayNumber = seconds / 86400 := Date.dayNumber_ofDayNumber _
  have hseconds := Int.mul_ediv_add_emod seconds 86400
  have hrange : 0 ≤ seconds % 86400 ∧ seconds % 86400 < 86400 := by omega
  have hminute : seconds % 86400 % 60 = seconds % 60 := Int.emod_emod_of_dvd seconds (by decide)
  have hclock : ∀ s : Int, 0 ≤ s → 3600 * ((s.toNat / 3600 : Nat) : Int) +
      60 * ((s.toNat / 60 % 60 : Nat) : Int) + ((s.toNat % 60 : Nat) : Int) = s := by omega
  have hsum := hclock _ hrange.1
  rcases h with h | ⟨h, hlast⟩
  · have hnanos : nanos = 0 := h
    subst hnanos
    have hsecond : (seconds % 86400).toNat % 60 ≠ 60 := by omega
    simp only [ofFields, hday, time, daySeconds, Nat.zero_div, Nat.add_zero, if_neg hsecond,
      Instant.mk.injEq, and_true]
    omega
  · have hnanos : nanos = secondNanos := h
    have hlast : seconds % 60 = 59 := hlast
    subst hnanos
    have hsecond : (seconds % 86400).toNat % 60 = 59 := by omega
    have hleap : secondNanos / secondNanos = 1 := by decide
    simp only [ofFields, hday, time, daySeconds, hleap, hsecond, if_true, Nat.add_zero,
      Instant.mk.injEq, and_true]
    omega

theorem valid_time : i.time.valid = true := by
  have hseconds : (i.seconds % daySeconds).toNat < 86400 := by
    rw [daySeconds]
    omega
  have hsecond : (i.seconds % daySeconds).toNat % 60 + i.nanos / secondNanos ≤ 60 := by
    rcases h with h | ⟨h, -⟩
    · rw [h, Nat.zero_div]
      omega
    · rw [h, Nat.div_self (by decide)]
      omega
  have hhour : (i.seconds % daySeconds).toNat / 3600 ≤ 23 := by omega
  have hminute : (i.seconds % daySeconds).toNat / 60 % 60 ≤ 59 := by omega
  simp [TimeOfDay.valid, time, hhour, hminute, hsecond]

end

/-! ### The layout -/

/-- The hour, the minute and the second, two digits each, between colons. -/
def clockText (t : TimeOfDay) : String :=
  String.ofList (padded 2 t.hour ++ ':' :: padded 2 t.minute ++ ':' :: padded 2 t.second)

/-- The words are a moment in the layout of the Unix date command: the names in any case, the day
    with one or two digits, and four digits for the year. -/
def IsUnixDate (i : Instant) : List String → Prop
  | [weekday, month, day, time, zone, year] =>
    IsName weekdayNames i.date.weekday weekday ∧ IsName monthNames (i.date.month - 1) month ∧
    Digits i.date.day day.toList ∧ day.toList.length ≤ 2 ∧ time = clockText i.time ∧
    sameIgnoringCase zone "UTC" = true ∧ year = String.ofList (padded 4 i.date.year.toNat)
  | _ => False

/-- A text of six words with the zone among them is read from the others. -/
theorem read?_of_spaced {s weekday month day time zone year : String}
    (h : Spaced [weekday, month, day, time, zone, year] s.toList)
    (hzone : sameIgnoringCase zone "UTC" = true) :
    read? s = readFields? (join " " [weekday, month, day, time, year]).toList := by
  have hwords := words_eq_iff.2 h
  rw [read?_of_words (by simp [hwords]), readUnixDate?, hwords]
  exact if_pos hzone

/-- Nothing is read from a text of three words and more but six. -/
theorem read?_of_length {s : String} {l : List String} (h : Spaced l s.toList)
    (hlength : 3 ≤ l.length ∧ l.length ≠ 6) : read? s = none := by
  have hwords := words_eq_iff.2 h
  rw [read?_of_words (by simpa [hwords] using hlength.1), readUnixDate?, hwords]
  split
  · exact absurd rfl hlength.2
  · rfl

/-! ### Reading the fields -/

/-- The moment of a day of the week and a date, when the time of day and the year come next. -/
def readEnding? (weekday month day : Nat) (s : List Char) : Option Instant := do
  let (hour, s) ← scanNumber 1 2 (dropBlank s)
  let s ← scanChar ':' s
  let (minute, s) ← scanNumber 1 2 (dropBlank s)
  let s ← scanChar ':' s
  let (second, s) ← scanNumber 1 2 (dropBlank s)
  let (year, s) ← scanYear (dropBlank s)
  let date : Date := ⟨year, month + 1, day⟩
  let i ← ofValid? date ⟨hour, minute, second, 0⟩
  if s.isEmpty && date.weekday = weekday then some i else none

/-- The fields are read in turn: the names of the day and of the month, the day, and then the time
    and the year. -/
theorem readFields?_eq (s : List Char) : readFields? s = (do
    let (weekday, s) ← scanName weekdayNames s
    let (month, s) ← scanName monthNames (dropBlank s)
    let (day, s) ← scanNumber 1 2 (dropBlank s)
    readEnding? weekday month day s) := rfl

/-- The time of day and the year, as they follow the day. -/
def ending (t : TimeOfDay) (year : Int) : List Char :=
  ' ' :: (padded 2 t.hour ++ ':' :: (padded 2 t.minute ++ ':' :: (padded 2 t.second ++
    ' ' :: padded 4 year.toNat)))

/-- The number of the day ends where the time of day comes next. -/
theorem stops_ending (t : TimeOfDay) (year : Int) : Stops (ending t year) :=
  stops_cons (by decide) _

/-- Four digits are read as a year. -/
theorem scanYear_digits {n : Nat} {ds : List Char} (hds : Digits n ds) (hlength : ds.length = 4) :
    scanYear ds = some ((n : Int), []) := by
  have hscan : scanNumber 1 4 (ds ++ []) = some (n, []) :=
    scanNumber_digits hds (by omega) stops_nil
  rw [List.append_nil] at hscan
  obtain ⟨c, rest, rfl⟩ := List.exists_cons_of_ne_nil (l := ds) (by rintro rfl; cases hlength)
  have hc := hds.digits c List.mem_cons_self
  rw [scanYear.eq_def]
  split
  · rename_i heq
    obtain ⟨rfl, -⟩ := List.cons.inj heq
    cases hc
  · rename_i heq
    obtain ⟨rfl, -⟩ := List.cons.inj heq
    cases hc
  · rw [hscan, Option.map_some]

/-- From the time of day and the year a moment is read if there is one at this date, on this day of
    the week. -/
theorem readEnding?_ending {k m n : Nat} {year : Int} {t : TimeOfDay} (ht : t.valid = true)
    (hyear : 0 ≤ year ∧ year ≤ 9999) : readEnding? k m n (ending t year) =
      (ofValid? ⟨year, m + 1, n⟩ ⟨t.hour, t.minute, t.second, 0⟩).bind fun i =>
        if Date.weekday ⟨year, m + 1, n⟩ = k then some i else none := by
  have hlimits : t.hour ≤ 23 ∧ t.minute ≤ 59 ∧ t.second ≤ 60 := by
    simpa [TimeOfDay.valid, and_assoc] using ht
  have hcolon : isDigit ':' = false := by decide
  have hspace : isDigit ' ' = false := by decide
  have hblank : ∀ r, dropBlank (' ' :: r) = dropBlank r := fun r =>
    List.dropWhile_cons_of_pos (by decide)
  -- Each number of two digits is scanned whole.
  have hfield : ∀ x < 100, ∀ r, Stops r →
      scanNumber 1 2 (dropBlank (padded 2 x ++ r)) = some (x, r) := by
    intro x hx r hr
    have hlength : (padded 2 x).length = 2 := length_padded (by decide) hx
    rw [dropBlank_digits (digits_padded 2 x).digits (padded_ne_nil 2 x),
      scanNumber_digits (digits_padded 2 x) (by omega) hr]
  have hyear' : scanYear (dropBlank (padded 4 year.toNat)) = some (year, []) := by
    have hlimit : year.toNat < 10000 := by omega
    have hlength : (padded 4 year.toNat).length = 4 := length_padded (by decide) hlimit
    have hdrop := dropBlank_digits (digits_padded 4 year.toNat).digits
      (padded_ne_nil 4 year.toNat) []
    rw [List.append_nil] at hdrop
    rw [hdrop, scanYear_digits (digits_padded 4 year.toNat) hlength, Int.toNat_of_nonneg hyear.1]
  have hchar : ∀ r, scanChar ':' (':' :: r) = some r := fun r => rfl
  rw [readEnding?, ending, hblank, hfield _ (by omega) _ (stops_cons hcolon _)]
  simp only [Option.bind_eq_bind, Option.bind_some, hchar]
  rw [hfield _ (by omega) _ (stops_cons hcolon _)]
  simp only [Option.bind_some, hchar]
  rw [hfield _ (by omega) _ (stops_cons hspace _)]
  simp only [Option.bind_some, hblank, hyear']
  simp

/-- Where a colon is expected after the hour, there is none after more digits of a day. -/
theorem readEnding?_digits {k m n : Nat} {ds : List Char} (hds : ∀ c ∈ ds, isDigit c = true)
    (hne : ds ≠ []) {t : TimeOfDay} {year : Int} :
    readEnding? k m n (ds ++ ending t year) = none := by
  have hpositive : 0 < ds.length := List.length_pos_iff.2 hne
  have hscan : scanNumber 1 2 (ds ++ ending t year) = some (_, ds.drop 2 ++ ending t year) :=
    scanNumber_append hds (stops_ending t year) (by omega)
  have hcolon : scanChar ':' (ds.drop 2 ++ ending t year) = none := by
    cases hdrop : ds.drop 2 with
    | nil => rfl
    | cons c rest =>
      have hc : isDigit c = true := hds c (List.mem_of_mem_drop (by rw [hdrop]; simp))
      have hne : c ≠ ':' := by
        rintro rfl
        cases hc
      simp [scanChar, hne]
  rw [readEnding?, dropBlank_digits hds hne, hscan]
  simp only [Option.bind_eq_bind, Option.bind_some, hcolon, Option.bind_none]

/-- What is read of a day of the week, a date with digits for the day, a time of day and a year. -/
theorem readFields?_join {weekday month day : String} {k m n : Nat} {year : Int} {t : TimeOfDay}
    (hweekday : IsName weekdayNames k weekday) (hmonth : IsName monthNames m month)
    (hmonth' : IsWord month) (hday : Digits n day.toList) (hday' : IsWord day)
    (ht : t.valid = true) (hyear : 0 ≤ year ∧ year ≤ 9999) :
    readFields? (join " " [weekday, month, day, clockText t,
      String.ofList (padded 4 year.toNat)]).toList =
      if day.toList.length ≤ 2 then
        (ofValid? ⟨year, m + 1, n⟩ ⟨t.hour, t.minute, t.second, 0⟩).bind fun i =>
          if Date.weekday ⟨year, m + 1, n⟩ = k then some i else none
      else none := by
  have hchars : (join " " [weekday, month, day, clockText t,
      String.ofList (padded 4 year.toNat)]).toList = weekday.toList ++
        (' ' :: (month.toList ++ (' ' :: (day.toList ++ ending t year)))) := by
    simp [join, clockText, ending]
  have hpositive : 0 < day.toList.length := List.length_pos_iff.2 hday'.ne
  have hscan : scanNumber 1 2 (day.toList ++ ending t year) =
      some (Nat.ofDigitChars 10 (day.toList.take 2) 0, day.toList.drop 2 ++ ending t year) :=
    scanNumber_append hday.digits (stops_ending t year) (by omega)
  rw [hchars, readFields?_eq, scanName_append abbreviations_weekdayNames hweekday]
  simp only [Option.bind_eq_bind, Option.bind_some]
  rw [dropBlank_word hmonth', scanName_append abbreviations_monthNames hmonth]
  simp only [Option.bind_some]
  rw [dropBlank_word hday', hscan]
  simp only [Option.bind_some]
  by_cases hshort : day.toList.length ≤ 2
  · rw [if_pos hshort, List.take_of_length_le hshort, hday.value, List.drop_eq_nil_of_le hshort,
      List.nil_append, readEnding?_ending ht hyear]
  · have hmore : day.toList.drop 2 ≠ [] := by
      intro hnil
      rw [List.drop_eq_nil_iff] at hnil
      omega
    rw [if_neg hshort,
      readEnding?_digits (fun c hc => hday.digits c (List.mem_of_mem_drop hc)) hmore]

/-! ### Reading the layout -/

/-- A date and a time of day of the calendar are a moment. -/
theorem ofValid?_of_valid {d : Date} {t : TimeOfDay} (hd : d.valid = true) (ht : t.valid = true)
    (hyear : 1 ≤ d.year ∧ d.year ≤ 9999) : ofValid? d t = some (ofFields d t) := by
  have hfirst : firstYear ≤ d.year := Int.le_trans (by decide) hyear.1
  have hlast : d.year ≤ lastYear := Int.le_trans hyear.2 (by decide)
  simp [ofValid?, hd, ht, hfirst, hlast]

/-- A date whose month is too short is no moment. -/
theorem ofValid?_of_daysInMonth {d : Date} (h : Date.daysInMonth d.year d.month < d.day)
    (t : TimeOfDay) : ofValid? d t = none := by
  have hlate : ¬ d.day ≤ Date.daysInMonth d.year d.month := by omega
  simp [ofValid?, Date.valid, hlate]

theorem valid_date (i : Instant) : i.date.valid = true := Date.valid_ofDayNumber _

/-- The month and the day of a moment are within the calendar. -/
theorem date_bounds (i : Instant) : (1 ≤ i.date.month ∧ i.date.month ≤ 12) ∧ 1 ≤ i.date.day ∧
    i.date.day ≤ Date.daysInMonth i.date.year i.date.month := by
  simpa [Date.valid, and_assoc] using valid_date i

theorem isWord_clockText (t : TimeOfDay) : IsWord (clockText t) := by
  constructor
  · simp [clockText]
  · intro c hc
    have hdigit : ∀ n, ∀ c ∈ padded 2 n, isBlank c = false := fun n c hc =>
      isBlank_of_isDigit ((digits_padded 2 n).digits c hc)
    have hcolon : isBlank ':' = false := by decide
    simp only [clockText, String.toList_ofList, List.append_assoc, List.cons_append, List.mem_append,
      List.mem_cons] at hc
    rcases hc with hc | rfl | hc | rfl | hc
    · exact hdigit _ c hc
    · exact hcolon
    · exact hdigit _ c hc
    · exact hcolon
    · exact hdigit _ c hc

/-- Every moment has words in the layout. -/
theorem exists_isUnixDate (i : Instant) : ∃ l, IsUnixDate i l ∧ ∀ w ∈ l, IsWord w := by
  obtain ⟨hmonths, hday⟩ := date_bounds i
  have hdays := Date.daysInMonth_le i.date.year i.date.month
  have hposition : i.date.month - 1 < monthNames.length := by
    show _ < 12
    omega
  have hlimit : i.date.day < 100 := by omega
  have hlength : (padded 2 i.date.day).length = 2 := length_padded (by decide) hlimit
  have hdigits : ∀ width n, IsWord (String.ofList (padded width n)) := fun width n =>
    isWord_digits (digits_padded width n).digits (padded_ne_nil width n)
  have hzone : IsWord "UTC" := isWord_of_any (by decide) (by decide)
  obtain ⟨weekday, hweekday, hweekday'⟩ :=
    exists_isName abbreviations_weekdayNames (Date.weekday_lt i.date)
  obtain ⟨month, hmonth, hmonth'⟩ := exists_isName abbreviations_monthNames hposition
  refine ⟨[weekday, month, String.ofList (padded 2 i.date.day), clockText i.time, "UTC",
    String.ofList (padded 4 i.date.year.toNat)], ⟨hweekday, hmonth, ?_, ?_, rfl, by decide, rfl⟩, ?_⟩
  · rw [String.toList_ofList]
    exact digits_padded 2 i.date.day
  · rw [String.toList_ofList]
    exact Nat.le_of_eq hlength
  · simp only [List.forall_mem_cons]
    exact ⟨hweekday', hmonth', hdigits _ _, isWord_clockText _, hzone, hdigits _ _, by simp⟩

/-- What is read of the words of a moment, with any day of the week and any digits for the day. -/
theorem read?_spelled {i : Instant} (hwhole : i.Whole)
    (hyear : 1 ≤ i.date.year ∧ i.date.year ≤ 9999) {s weekday month day zone : String} {k n : Nat}
    (hweekday : IsName weekdayNames k weekday) (hmonth : IsName monthNames (i.date.month - 1) month)
    (hday : Digits n day.toList) (hzone : sameIgnoringCase zone "UTC" = true)
    (hs : Spaced [weekday, month, day, clockText i.time, zone,
      String.ofList (padded 4 i.date.year.toNat)] s.toList) :
    read? s = if day.toList.length ≤ 2 then
        (ofValid? ⟨i.date.year, i.date.month, n⟩ i.time).bind fun j =>
          if Date.weekday ⟨i.date.year, i.date.month, n⟩ = k then some j else none
      else none := by
  have hword := hs.isWord
  have hmonths : i.date.month - 1 + 1 = i.date.month := by
    have hbounds := (date_bounds i).1
    omega
  rw [read?_of_spaced hs hzone, readFields?_join hweekday hmonth (hword month (by simp)) hday
    (hword day (by simp)) (valid_time hwhole) (by omega), hmonths]
  rfl

/-- **Moments in the layout of the Unix date command.** Every start of a second in the years 1 to
    9999 has a text in this layout, and all its texts are read as that moment, whatever blanks stand
    before, between and after the words and in whatever case the names and the zone are.  Nothing is
    read when one of the other six days of the week stands in the text, when the day is beyond the
    end of the month, or when there is a word more or a word less. -/
theorem read?_unixDate {i : Instant} (hwhole : i.Whole)
    (hyear : 1 ≤ i.date.year ∧ i.date.year ≤ 9999) :
    (∃ l, IsUnixDate i l ∧ Spaced l (join " " l).toList) ∧
    ∀ l, IsUnixDate i l →
      (∀ s, Spaced l s.toList → read? s = some i) ∧
      (∀ k weekday s, k ≠ i.date.weekday → IsName weekdayNames k weekday →
        Spaced (l.set 0 weekday) s.toList → read? s = none) ∧
      (∀ n day s, Date.daysInMonth i.date.year i.date.month < n → Digits n day.toList →
        Spaced (l.set 2 day) s.toList → read? s = none) ∧
      (∀ k word s, k ≤ 6 → Spaced (l.insertIdx k word) s.toList → read? s = none) ∧
      ∀ k s, k < 6 → Spaced (l.eraseIdx k) s.toList → read? s = none := by
  have hmoment : ofValid? i.date i.time = some i := by
    rw [ofValid?_of_valid (valid_date i) (valid_time hwhole) hyear, ofFields_date_time hwhole]
  constructor
  · obtain ⟨l, hl, hwords⟩ := exists_isUnixDate i
    exact ⟨l, hl, spaced_join hwords⟩
  intro l hl
  match l, hl with
  | [weekday, month, day, time, zone, year],
      ⟨hweekday, hmonth, hday, hshort, htime, hzone, hyear'⟩ =>
    subst htime hyear'
    refine ⟨?_, ?_, ?_, ?_, ?_⟩
    · intro s hs
      rw [read?_spelled hwhole hyear hweekday hmonth hday hzone hs, if_pos hshort, hmoment]
      exact if_pos rfl
    · intro k other s hk hother hs
      rw [read?_spelled hwhole hyear hother hmonth hday hzone hs, if_pos hshort, hmoment]
      exact if_neg hk.symm
    · intro n other s hn hother hs
      have hnone : ofValid? ⟨i.date.year, i.date.month, n⟩ i.time = none :=
        ofValid?_of_daysInMonth hn i.time
      rw [read?_spelled hwhole hyear hweekday hmonth hother hzone hs, hnone]
      exact ite_self none
    · intro k word s hk hs
      apply read?_of_length hs
      rw [List.length_insertIdx_of_le_length hk]
      simp
    · intro k s hk hs
      apply read?_of_length hs
      rw [List.length_eraseIdx_of_lt hk]
      simp

/-- The sixth of October 2015 was a Tuesday. -/
theorem read?_unixDate_tuesday :
    read? "\tTUE oct  6 13:59:38 utc 2015 " = some ⟨1444139978, 0⟩ ∧
    read? "Mon oct  6 13:59:38 utc 2015" = none := by
  have hyear : 1 ≤ (date ⟨1444139978, 0⟩).year ∧ (date ⟨1444139978, 0⟩).year ≤ 9999 := by
    decide +kernel
  have hday : Digits 6 "6".toList := ⟨List.all_eq_true.1 (by decide), by decide⟩
  obtain ⟨-, hread⟩ := read?_unixDate (i := ⟨1444139978, 0⟩) (.inl rfl) hyear
  obtain ⟨htuesday, hother, -⟩ := hread ["TUE", "oct", "6", "13:59:38", "utc", "2015"]
    ⟨by decide +kernel, by decide +kernel, hday, by decide, by decide +kernel, by decide +kernel,
      by decide +kernel⟩
  have hmonday := hother 1 "Mon" "Mon oct  6 13:59:38 utc 2015" (by decide +kernel)
    (by decide +kernel)
  exact ⟨htuesday _ (words_eq_iff.1 (by decide +kernel)),
    hmonday (words_eq_iff.1 (by decide +kernel))⟩

end ClusterPackages.Instant
