import Mathlib.Algebra.Ring.Nat
import MobileMoney.Time.Instant

/-!
# Days of the calendar

The days are numbered without gaps.  A number is taken apart into a year and a day of the year by
counting off cycles, and into a month and a day by counting off months; the date that this leads to
is a day of the calendar and has that number.
-/

namespace MobileMoney

/-! ## Months -/

theorem sum_monthLengths (year : Int) :
    (monthLengths year).sum = if isLeapYear year then 366 else 365 := by
  rw [monthLengths]
  split <;> rfl

theorem isLeapYear_iff {year : Int} :
    isLeapYear year = true ↔ year % 4 = 0 ∧ (year % 100 ≠ 0 ∨ year % 400 = 0) := by
  simp [isLeapYear]

namespace Date

/-- What is counted off: a number of whole months, and days of the next one. -/
theorem splitMonths_spec {lengths : List Nat} {days : Nat} (h : days < lengths.sum) :
    (splitMonths lengths days).1 < lengths.length ∧
      (splitMonths lengths days).2 < lengths.getD (splitMonths lengths days).1 0 ∧
      (lengths.take (splitMonths lengths days).1).sum + (splitMonths lengths days).2 = days := by
  induction lengths generalizing days with
  | nil => simp at h
  | cons length rest ih =>
    rw [splitMonths]
    split
    · next hshort => simpa using hshort
    · next hlong =>
      rw [List.sum_cons] at h
      have hrest : days - length < rest.sum := by omega
      obtain ⟨hmonth, hday, hsum⟩ := ih hrest
      simp only [List.length_cons, List.getD_cons_succ, List.take_succ_cons, List.sum_cons]
      omega

/-! ## Years -/

/-- The place of a day in a cycle of 400 years, as it is counted off: whole centuries, groups of
four years and single years, with what is left after each. -/
structure IsPlace (inCycle century inCentury group inGroup single : Nat) : Prop where
  century_eq : century = min (inCycle / 36524) 3
  inCentury_eq : inCentury = inCycle - century * 36524
  group_eq : group = inCentury / 1461
  inGroup_eq : inGroup = inCentury % 1461
  single_eq : single = min (inGroup / 365) 3

/-- The last day of a leap year is the only one that is not among the first 365. -/
theorem IsPlace.bounds {inCycle century inCentury group inGroup single : Nat}
    (h : IsPlace inCycle century inCentury group inGroup single) (hlt : inCycle < 146097) :
    century ≤ 3 ∧ group ≤ 24 ∧ single ≤ 3 ∧
      inCycle = 36524 * century + 1461 * group + 365 * single + (inGroup - single * 365) ∧
      inGroup - single * 365 ≤ 365 ∧
      (inGroup - single * 365 = 365 → single = 3 ∧ (group < 24 ∨ century = 3)) := by
  obtain ⟨hcentury, hinCentury, hgroup, hinGroup, hsingle⟩ := h
  have hcentury' : century ≤ 3 ∧ inCycle = 36524 * century + inCentury ∧
      (century < 3 → inCentury < 36524) ∧ inCentury ≤ 36524 := by omega
  have hgroup' : group ≤ 24 ∧ inCentury = 1461 * group + inGroup ∧ inGroup < 1461 := by omega
  omega

/-- The days before a year, from its place in a cycle of 400 years. -/
theorem daysBeforeYear_of_place (cycle : Int) {century group single : Nat} (hcentury : century ≤ 3)
    (hgroup : group ≤ 24) (hsingle : single ≤ 3) :
    daysBeforeYear (400 * cycle + ((100 * century + 4 * group + single + 1 : Nat) : Int)) =
      146097 * cycle + (36524 * century + 1461 * group + 365 * single : Nat) := by
  unfold daysBeforeYear
  omega

theorem isLeapYear_of_place (cycle : Int) {century group single : Nat} (hcentury : century ≤ 3)
    (hgroup : group ≤ 24) (hsingle : single ≤ 3) :
    isLeapYear (400 * cycle + ((100 * century + 4 * group + single + 1 : Nat) : Int)) = true ↔
      single = 3 ∧ (group < 24 ∨ century = 3) := by
  rw [isLeapYear_iff]
  omega

/-- A number of days is a number of whole years, and days of the next one. -/
theorem exists_year (number : Int) :
    ∃ (year : Int) (rest : Nat), rest < (monthLengths year).sum ∧
      daysBeforeYear year + rest = number + epochDays ∧
      ofDayNumber number = ⟨year, (splitMonths (monthLengths year) rest).1 + 1,
        (splitMonths (monthLengths year) rest).2 + 1⟩ := by
  have hlt : ((number + epochDays) % 146097).toNat < 146097 := by omega
  have hcycle : number + epochDays = 146097 * ((number + epochDays) / 146097) +
      ((number + epochDays) % 146097).toNat := by omega
  obtain ⟨hcentury, hgroup, hsingle, hsum, hshort, hlast⟩ :=
    IsPlace.bounds ⟨rfl, rfl, rfl, rfl, rfl⟩ hlt
  refine ⟨_, _, ?_, ?_, rfl⟩
  · rw [sum_monthLengths]
    split
    · exact Nat.lt_succ_of_le hshort
    · next hcommon =>
      rw [isLeapYear_of_place _ hcentury hgroup hsingle] at hcommon
      exact Nat.lt_of_le_of_ne hshort (mt hlast hcommon)
  · rw [daysBeforeYear_of_place _ hcentury hgroup hsingle, Int.add_assoc, ← Int.natCast_add,
      ← hsum]
    exact hcycle.symm

theorem daysBeforeYear_add_one (year : Int) :
    daysBeforeYear (year + 1) = daysBeforeYear year + (monthLengths year).sum := by
  rw [sum_monthLengths]
  have hleap : isLeapYear year = true ↔ _ := isLeapYear_iff
  unfold daysBeforeYear
  split
  · next h =>
    rw [hleap] at h
    omega
  · next h =>
    rw [hleap] at h
    omega

theorem daysBeforeYear_mono {year later : Int} (h : year ≤ later) :
    daysBeforeYear year ≤ daysBeforeYear later := by
  unfold daysBeforeYear
  omega

/-! ## Dates -/

/-- Days and months are written with two digits. -/
theorem IsValid.month_le {date : Date} (h : date.IsValid) : date.month ≤ 12 ∧ date.day ≤ 31 := by
  obtain ⟨-, -, hpos, hday⟩ := h
  rw [monthLength] at hday
  split at hday
  · omega
  · next hmonth =>
    have hshort : ∀ length ∈ monthLengths date.year, length ≤ 31 := by
      rw [monthLengths]
      split <;> decide
    rw [List.getD_eq_getElem?_getD] at hday
    cases hfound : (monthLengths date.year)[date.month - 1]? with
    | none =>
      rw [hfound, Option.getD_none] at hday
      omega
    | some length =>
      rw [hfound, Option.getD_some] at hday
      have hlength := hshort length (List.mem_of_getElem? hfound)
      obtain ⟨hlt, -⟩ := List.getElem?_eq_some_iff.mp hfound
      have htwelve : (monthLengths date.year).length = 12 := rfl
      omega

theorem daysBeforeMonth_eq (year : Int) (month : Nat) :
    daysBeforeMonth year month = ((monthLengths year).take (month - 1)).sum :=
  List.sum_eq_foldl.symm

/-- The date of a number has that number. -/
theorem dayNumber_ofDayNumber (number : Int) : (ofDayNumber number).dayNumber = number := by
  obtain ⟨year, rest, hrest, hdays, hdate⟩ := exists_year number
  obtain ⟨-, -, hsum⟩ := splitMonths_spec hrest
  rw [hdate, dayNumber, daysBeforeMonth_eq]
  simp only [Nat.add_sub_cancel]
  omega

/-- The year 2000 was a leap year, as it is divisible by 400. -/
example : [10957, 11016, 11017].map ofDayNumber =
    [⟨2000, 1, 1⟩, ⟨2000, 2, 29⟩, ⟨2000, 3, 1⟩] := by
  decide

/-- Every day between the first and the last one of the calendar is a day of the calendar. -/
theorem isValid_ofDayNumber {number : Int} (hmin : (Date.mk minYear 1 1).dayNumber ≤ number)
    (hmax : number ≤ (Date.mk maxYear 12 31).dayNumber) : (ofDayNumber number).IsValid := by
  obtain ⟨year, rest, hrest, hdays, hdate⟩ := exists_year number
  obtain ⟨hmonth, hday, -⟩ := splitMonths_spec hrest
  have hnext := daysBeforeYear_add_one year
  have hmin' : (Date.mk minYear 1 1).dayNumber = daysBeforeYear minYear - epochDays := by decide
  have hmax' : (Date.mk maxYear 12 31).dayNumber =
      daysBeforeYear (maxYear + 1) - 1 - epochDays := by
    decide
  -- in a year outside the calendar the day would come before its first or after its last one
  have hfirst : minYear ≤ year := by
    refine Int.not_lt.mp fun hbefore ↦ ?_
    have hearlier := daysBeforeYear_mono (Int.add_one_le_of_lt hbefore)
    omega
  have hlast : year ≤ maxYear := by
    refine Int.not_lt.mp fun hafter ↦ ?_
    have hlater := daysBeforeYear_mono (Int.add_one_le_of_lt hafter)
    omega
  rw [hdate]
  exact ⟨hfirst, hlast, Nat.le_add_left 1 _, hday⟩

end Date

end MobileMoney
