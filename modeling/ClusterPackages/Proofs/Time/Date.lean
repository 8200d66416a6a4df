import ClusterPackages.Time.Date

namespace ClusterPackages.Date

/-!
# Dates of day numbers

An era of 400 years has 146097 days.  Counted from March, it has four centuries of 36524 days, a
century 25 times four years of 1461 days, and four years one of 366 days at their end.  Only the
last century of an era and the last four years of a century depart from that by a day.

* `exists_parts` — the parts of a day of an era, and `yearOfEra_eq`, its year.
* `isLeap_of_last` — a year of 366 days ends with the leap day of the calendar.
* `ofMarch` — the date of a day of a year that is counted from March.
* `valid_ofDayNumber`, `dayNumber_ofDayNumber` — every day number has a date, which has this number.
-/

/-! ### Days of an era -/

/-- A day of an era is a day of one of its years, from 365 on only at the end of four years. -/
theorem exists_parts {x : Int} (hx : 0 ≤ x ∧ x < 146097) :
    ∃ century four year day : Int, (0 ≤ century ∧ century ≤ 3) ∧ (0 ≤ four ∧ four ≤ 24) ∧
      (0 ≤ year ∧ year ≤ 3) ∧ (0 ≤ day ∧ day ≤ 365) ∧
      (day ≤ 364 ∨ year = 3 ∧ (four ≤ 23 ∨ century = 3)) ∧
      x = 36524 * century + 1461 * four + 365 * year + day := by
  by_cases hlast : x = 146096
  · exact ⟨3, 24, 3, 365, by omega⟩
  · have hcentury : 0 ≤ x / 36524 ∧ x / 36524 ≤ 3 := by omega
    have hfour : 0 ≤ x % 36524 / 1461 ∧ x % 36524 / 1461 ≤ 24 := by omega
    have hday : x = 36524 * (x / 36524) + 1461 * (x % 36524 / 1461) + x % 36524 % 1461 := by omega
    have hshort : x % 36524 / 1461 ≤ 23 ∨ x % 36524 % 1461 < 1460 := by omega
    have hbound : 0 ≤ x % 36524 % 1461 ∧ x % 36524 % 1461 ≤ 1460 := by omega
    by_cases hleap : x % 36524 % 1461 = 1460
    · exact ⟨_, _, 3, 365, hcentury, hfour, by decide, by decide, by omega, by omega⟩
    · exact ⟨_, _, x % 36524 % 1461 / 365, x % 36524 % 1461 % 365, hcentury, hfour, by omega,
        by omega, by omega, by omega⟩

/-- A day of an era without the days of the years before its own. -/
theorem inYear_eq {century four year day x : Int} (hfour : 0 ≤ four ∧ four ≤ 24)
    (hyear : 0 ≤ year ∧ year ≤ 3)
    (hx : x = 36524 * century + 1461 * four + 365 * year + day) :
    x - (365 * (100 * century + 4 * four + year) + (100 * century + 4 * four + year) / 4 -
      (100 * century + 4 * four + year) / 100) = day := by
  have hfours : (100 * century + 4 * four + year) / 4 = 25 * century + four := by omega
  have hcenturies : (100 * century + 4 * four + year) / 100 = century := by omega
  rw [hfours, hcenturies, hx]
  omega

section

variable {century four year day : Int} (hcentury : 0 ≤ century ∧ century ≤ 3)
  (hfour : 0 ≤ four ∧ four ≤ 24) (hyear : 0 ≤ year ∧ year ≤ 3)

include hcentury hfour hyear

/-- The days before a year. -/
theorem daysBeforeYear_eq (era : Int) :
    daysBeforeYear (100 * century + 4 * four + year + 400 * era) =
      146097 * era + (36524 * century + 1461 * four + 365 * year) := by
  unfold daysBeforeYear
  omega

variable (hday : 0 ≤ day ∧ day ≤ 365)
  (hlast : day ≤ 364 ∨ year = 3 ∧ (four ≤ 23 ∨ century = 3))

include hday hlast

/-- Without the leap days among the days before it, a day still belongs to its year. -/
theorem day_sub_leap : 0 ≤ day - (24 * century + four + 365 * year + day) / 1460 ∧
    day - (24 * century + four + 365 * year + day) / 1460 ≤ 364 := by
  have hshort : year ≤ 2 ∧ day ≤ 364 ∨ year = 3 := by omega
  rcases hshort with ⟨hyear', hday'⟩ | rfl
  · have hnone : (24 * century + four + 365 * year + day) / 1460 = 0 :=
      Int.ediv_eq_zero_of_lt (by omega) (by omega)
    omega
  · omega

/-- The year of a day of an era. -/
theorem yearOfEra_eq {x : Int} (hx : x = 36524 * century + 1461 * four + 365 * year + day) :
    (x - x / 1460 + x / 36524 - x / 146096) / 365 = 100 * century + 4 * four + year := by
  -- Each quotient counts the days by which the parts before are longer than 365 days a year.
  have hcenturies : x / 36524 - x / 146096 = century := by
    rcases hlast with hshort | ⟨rfl, hshort | rfl⟩
    · have hend : 36524 * century ≤ x ∧ x < 36524 * century + 36524 := by omega
      omega
    · have hend : 36524 * century ≤ x ∧ x < 36524 * century + 36524 := by omega
      omega
    · omega
  have hfours : x / 1460 =
      25 * century + four + (24 * century + four + 365 * year + day) / 1460 := by
    rw [show x = 24 * century + four + 365 * year + day + (25 * century + four) * 1460 by omega,
      Int.add_mul_ediv_right _ _ (by decide), Int.add_comm]
  have hleap := day_sub_leap hcentury hfour hyear hday hlast
  generalize (24 * century + four + 365 * year + day) / 1460 = leap at hfours hleap
  have hsum : x - x / 1460 + x / 36524 - x / 146096 =
      day - leap + (100 * century + 4 * four + year) * 365 := by
    rw [Int.add_sub_assoc, hcenturies, hfours, hx]
    clear hx hlast hcenturies hfours
    omega
  rw [hsum, Int.add_mul_ediv_right _ _ (by decide), Int.ediv_eq_zero_of_lt hleap.1 (by omega),
    Int.zero_add]

end

/-- The leap years are those divisible by 4 but not by 100, and those divisible by 400. -/
theorem isLeap_iff {year : Int} :
    isLeap year = true ↔ year % 4 = 0 ∧ (year % 100 ≠ 0 ∨ year % 400 = 0) := by
  simp [isLeap]

/-- Four years end with a leap year, unless they end one of the first three centuries. -/
theorem isLeap_of_last {century four year : Int} (hfour : 0 ≤ four ∧ four ≤ 24) (hyear : year = 3)
    (hlast : four ≤ 23 ∨ century = 3) {era : Int} :
    isLeap (100 * century + 4 * four + year + 400 * era + 1) = true := by
  rw [isLeap_iff]
  omega

/-! ### Years from March -/

/-- The date of a day of a year, the year counted from March and the day from 0. -/
def ofMarch (year day : Int) : Date :=
  let month := (5 * day + 2) / 153
  let inMonth := day - daysBeforeMonth month + 1
  if month < 10 then ⟨year, (month + 3).toNat, inMonth.toNat⟩
  else ⟨year + 1, (month - 9).toNat, inMonth.toNat⟩

/-- The days of a year that is counted from March are numbered one after another. -/
theorem dayNumber_ofMarch {year day : Int} (hday : 0 ≤ day ∧ day ≤ 365) :
    (ofMarch year day).dayNumber = daysBeforeYear year + day - epochOffset := by
  have hmonth : 0 ≤ (5 * day + 2) / 153 ∧ (5 * day + 2) / 153 ≤ 11 := by omega
  have hinMonth : 0 ≤ day - (153 * ((5 * day + 2) / 153) + 2) / 5 := by omega
  unfold ofMarch dayNumber daysBeforeMonth
  dsimp only
  by_cases hspring : (5 * day + 2) / 153 < 10
  · have hlate : ¬ ((5 * day + 2) / 153 + 3).toNat ≤ 2 := by omega
    rw [if_pos hspring]
    simp only [if_neg hlate]
    omega
  · have hearly : ((5 * day + 2) / 153 - 9).toNat ≤ 2 := by omega
    rw [if_neg hspring]
    simp only [if_pos hearly]
    rw [Int.add_sub_cancel]
    omega

/-- The last day of a year is there if February, which comes last, has a leap day. -/
theorem valid_ofMarch {year day : Int} (hday : 0 ≤ day ∧ day ≤ 365)
    (hleap : day ≤ 364 ∨ isLeap (year + 1) = true) : (ofMarch year day).valid = true := by
  have hmonth : 0 ≤ (5 * day + 2) / 153 ∧ (5 * day + 2) / 153 ≤ 11 := by omega
  have hinMonth : 153 * ((5 * day + 2) / 153) ≤ 5 * day + 2 ∧
      5 * day + 2 < 153 * ((5 * day + 2) / 153) + 153 := by omega
  unfold ofMarch daysBeforeMonth
  dsimp only
  generalize (5 * day + 2) / 153 = month at hmonth hinMonth
  have hcases : month = 0 ∨ month = 1 ∨ month = 2 ∨ month = 3 ∨ month = 4 ∨ month = 5 ∨ month = 6 ∨
      month = 7 ∨ month = 8 ∨ month = 9 ∨ month = 10 ∨ month = 11 := by omega
  rcases hcases with rfl | rfl | rfl | rfl | rfl | rfl | rfl | rfl | rfl | rfl | rfl | rfl <;>
    simp [valid, daysInMonth] <;> grind

/-- Every day number is that of a day of a year. -/
theorem exists_ofMarch (n : Int) : ∃ year day : Int, (0 ≤ day ∧ day ≤ 365) ∧
    (day ≤ 364 ∨ isLeap (year + 1) = true) ∧ ofDayNumber n = ofMarch year day ∧
    daysBeforeYear year + day = n + epochOffset := by
  have hrange : 0 ≤ (n + epochOffset) % 146097 ∧ (n + epochOffset) % 146097 < 146097 := by omega
  have hera := Int.mul_ediv_add_emod (n + epochOffset) 146097
  obtain ⟨century, four, year, day, hcentury, hfour, hyear, hday, hlast, hx⟩ := exists_parts hrange
  have hyears := yearOfEra_eq hcentury hfour hyear hday hlast hx
  have hbefore := daysBeforeYear_eq hcentury hfour hyear ((n + epochOffset) / 146097)
  have hinYear := inYear_eq hfour hyear hx
  refine ⟨100 * century + 4 * four + year + 400 * ((n + epochOffset) / 146097), day, hday, ?_, ?_,
    ?_⟩
  · rcases hlast with hshort | hlast
    · exact .inl hshort
    · exact .inr (isLeap_of_last hfour hlast.1 hlast.2)
  · unfold ofDayNumber ofMarch
    simp only [hyears, hinYear]
  · rw [hx] at hera
    rw [hbefore, Int.add_assoc, hera]

/-- No month has more than 31 days. -/
theorem daysInMonth_le (year : Int) (month : Nat) : daysInMonth year month ≤ 31 := by
  unfold daysInMonth
  split
  · split <;> omega
  · split <;> omega

theorem weekday_lt (d : Date) : d.weekday < 7 := by
  unfold weekday
  omega

/-- Every day has a date in the calendar. -/
theorem valid_ofDayNumber (n : Int) : (ofDayNumber n).valid = true := by
  obtain ⟨year, day, hday, hleap, heq, -⟩ := exists_ofMarch n
  rw [heq]
  exact valid_ofMarch hday hleap

/-- The date of a day leads back to the day. -/
theorem dayNumber_ofDayNumber (n : Int) : (ofDayNumber n).dayNumber = n := by
  obtain ⟨year, day, hday, -, heq, hnumber⟩ := exists_ofMarch n
  rw [heq, dayNumber_ofMarch hday, hnumber]
  omega

end ClusterPackages.Date
