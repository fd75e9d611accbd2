import ClusterSim.Time.Instant
import Mathlib.Algebra.GroupWithZero.Nat
import Mathlib.Tactic.IntervalCases
import Mathlib.Tactic.Linarith

/-!
# Dates of days

The date of a day exists and names that day (`toDays_ofDays`, `isValid_ofDays`). A day of an era is
looked at by its century, the four years in it and the year in these (`Cycles`), since the last of
each may have one day more than the others. The number of a day is that of the years, months and
days before it, added up (`toDays_eq`).
-/

namespace ClusterSim.Date

/-! ### Years of an era -/

/-- Where a day stands in an era, with years that begin in March: the century, the four years in it,
the year in these, and the day of the year. -/
structure Cycles (dayOfEra century cycle year day : Int) : Prop where
  eq : dayOfEra = 36524 * century + 1461 * cycle + 365 * year + day
  century_mem : 0 ≤ century ∧ century ≤ 3
  cycle_mem : 0 ≤ cycle ∧ cycle ≤ 24
  year_mem : 0 ≤ year ∧ year ≤ 3
  day_nonneg : 0 ≤ day
  /-- A year has a leap day if it is the last of four that are not the last of a century, or if the
  century is the last of the era. -/
  day_le : day ≤ 364 ∨ day = 365 ∧ year = 3 ∧ (cycle ≤ 23 ∨ century = 3)

theorem exists_cycles {dayOfEra : Int} (hnonneg : 0 ≤ dayOfEra) (hlt : dayOfEra < eraDays) :
    ∃ century cycle year day, Cycles dayOfEra century cycle year day := by
  unfold eraDays at hlt
  obtain ⟨century, hcentury⟩ : ∃ century, century = min 3 (dayOfEra / 36524) := ⟨_, rfl⟩
  obtain ⟨cycle, hcycle⟩ : ∃ cycle, cycle = (dayOfEra - 36524 * century) / 1461 := ⟨_, rfl⟩
  obtain ⟨year, hyear⟩ : ∃ year,
      year = min 3 ((dayOfEra - 36524 * century - 1461 * cycle) / 365) := ⟨_, rfl⟩
  refine ⟨century, cycle, year, dayOfEra - 36524 * century - 1461 * cycle - 365 * year, ?_⟩
  constructor <;> omega

namespace Cycles

variable {dayOfEra century cycle year day : Int}

theorem day_le_365 (h : Cycles dayOfEra century cycle year day) : day ≤ 365 := by
  rcases h.day_le with hle | ⟨heq, -⟩ <;> omega

/-- The year of the era, as it is computed from the day. -/
theorem yearOfEra_eq (h : Cycles dayOfEra century cycle year day) :
    (dayOfEra - dayOfEra / 1460 + dayOfEra / 36524 - dayOfEra / 146096) / 365 =
      100 * century + 4 * cycle + year := by
  obtain ⟨heq, hcentury, hcycle, hyear, hday, hlast⟩ := h
  -- only late in a cycle is a quotient one more than the number of cycles before
  have hfours : dayOfEra / 1460 = 25 * century + cycle ∨
      dayOfEra / 1460 = 25 * century + cycle + 1 ∧ year = 3 ∧ 1 ≤ day := by omega
  have hcenturies : dayOfEra / 36524 = century ∨
      dayOfEra / 36524 = century + 1 ∧ day = 365 ∧ cycle = 24 ∧ century = 3 := by omega
  have heras : dayOfEra / 146096 = 0 ∨
      dayOfEra / 146096 = 1 ∧ day = 365 ∧ cycle = 24 ∧ century = 3 := by omega
  omega

/-- What is left of the day when the years before its own are taken off. -/
theorem dayOfYear_eq (h : Cycles dayOfEra century cycle year day) :
    dayOfEra - (365 * (100 * century + 4 * cycle + year) +
      (100 * century + 4 * cycle + year) / 4 - (100 * century + 4 * cycle + year) / 100) = day := by
  obtain ⟨heq, hcentury, hcycle, hyear, -, -⟩ := h
  omega

end Cycles

/-! ### Months of a year that begins in March -/

/-- The date of a year that begins in March, with the months numbered from zero. -/
def ofMarch (year month day : Int) : Date :=
  if month < 10 then ⟨year, (month + 3).toNat, day.toNat⟩
  else ⟨year + 1, (month - 9).toNat, day.toNat⟩

/-- A day by its era and its place there, and its date. -/
theorem exists_ofMarch (days : Int) :
    ∃ era dayOfEra century cycle year day, Cycles dayOfEra century cycle year day ∧
      days = era * 146097 + dayOfEra - epochDays ∧
      ofDays days = ofMarch (100 * century + 4 * cycle + year + era * 400) ((5 * day + 2) / 153)
        (day - (153 * ((5 * day + 2) / 153) + 2) / 5 + 1) := by
  have hera : (0 : Int) < eraDays := by decide
  obtain ⟨century, cycle, year, day, h⟩ :=
    exists_cycles (Int.emod_nonneg (days + epochDays) hera.ne') (Int.emod_lt_of_pos _ hera)
  refine ⟨(days + epochDays) / eraDays, _, century, cycle, year, day, h, ?_, ?_⟩
  · unfold eraDays
    omega
  · unfold ofDays
    simp only [h.yearOfEra_eq, h.dayOfYear_eq]
    rfl

theorem year_ofMarch (year month day : Int) :
    (ofMarch year month day).year = if month < 10 then year else year + 1 := by
  unfold ofMarch
  split <;> rfl

theorem toDays_ofMarch (year : Int) {month day : Int} (hmonth : 0 ≤ month ∧ month ≤ 11)
    (hday : 0 ≤ day) :
    (ofMarch year month day).toDays =
      year / 400 * eraDays + (year % 400 * 365 + year % 400 / 4 - year % 400 / 100 +
        ((153 * month + 2) / 5 + day - 1)) - epochDays := by
  unfold ofMarch
  by_cases hlt : month < 10
  · have hlate : ¬ (month + 3).toNat ≤ 2 := by omega
    have hback : (((month + 3).toNat : Int) + 9) % 12 = month := by omega
    rw [if_pos hlt, toDays]
    simp only [if_neg hlate, hback]
    omega
  · have hearly : (month - 9).toNat ≤ 2 := by omega
    have hback : (((month - 9).toNat : Int) + 9) % 12 = month := by omega
    rw [if_neg hlt, toDays]
    simp only [if_pos hearly, hback, Int.add_sub_cancel]
    omega

theorem isValid_iff {date : Date} :
    date.isValid ↔ (1 ≤ date.month ∧ date.month ≤ 12) ∧
      1 ≤ date.day ∧ date.day ≤ daysInMonth date.year date.month := by
  unfold isValid
  simp only [Bool.and_eq_true, decide_eq_true_eq, and_assoc]

theorem daysInMonth_le (year : Int) (month : Nat) : daysInMonth year month ≤ 31 := by
  unfold daysInMonth
  grind

theorem le_of_isValid {date : Date} (h : date.isValid) : date.month ≤ 12 ∧ date.day ≤ 31 := by
  obtain ⟨⟨-, hmonth⟩, -, hday⟩ := isValid_iff.1 h
  exact ⟨hmonth, Nat.le_trans hday (daysInMonth_le _ _)⟩

/-- The lengths of the months from March to January are those by which days are counted. -/
theorem daysInMonth_ofMarch (year day : Int) {month : Int} (hlow : 0 ≤ month) (hlt : month < 11) :
    (daysInMonth (ofMarch year month day).year (ofMarch year month day).month : Int) =
      (153 * (month + 1) + 2) / 5 - (153 * month + 2) / 5 := by
  interval_cases month <;> rfl

/-- A day that the month has, or the 29th of February of a leap year. -/
theorem isValid_ofMarch {year month day : Int} (hmonth : 0 ≤ month ∧ month ≤ 11) (hday : 1 ≤ day)
    (hlength : day ≤ (153 * (month + 1) + 2) / 5 - (153 * month + 2) / 5)
    (hfebruary : month = 11 → day ≤ 28 ∨ day = 29 ∧ isLeapYear (year + 1)) :
    (ofMarch year month day).isValid := by
  have hsame : (ofMarch year month day).day = day.toNat := by
    unfold ofMarch
    split <;> rfl
  rw [isValid_iff, hsame]
  refine ⟨?_, by omega, ?_⟩
  · unfold ofMarch
    split
    · show 1 ≤ (month + 3).toNat ∧ (month + 3).toNat ≤ 12
      omega
    · show 1 ≤ (month - 9).toNat ∧ (month - 9).toNat ≤ 12
      omega
  · by_cases hlast : month = 11
    · subst hlast
      show day.toNat ≤ if isLeapYear (year + 1) then 29 else 28
      rcases hfebruary rfl with hle | ⟨heq, hleap⟩
      · split <;> omega
      · rw [if_pos hleap]
        omega
    · have hdays := daysInMonth_ofMarch year day hmonth.1 (by omega)
      omega

/-! ### All days -/

theorem isLeapYear_iff {year : Int} :
    isLeapYear year ↔ year % 4 = 0 ∧ (year % 100 ≠ 0 ∨ year % 400 = 0) := by
  simp [isLeapYear]

/-- The date of a day names that day. -/
theorem toDays_ofDays (days : Int) : (ofDays days).toDays = days := by
  obtain ⟨era, dayOfEra, century, cycle, year, day, h, hdays, hdate⟩ := exists_ofMarch days
  have hday := h.day_le_365
  have hnonneg := h.day_nonneg
  rw [hdate, toDays_ofMarch _ (by omega) (by omega)]
  obtain ⟨heq, hcentury, hcycle, hyear, -, -⟩ := h
  have hwhole : (100 * century + 4 * cycle + year + era * 400) / 400 = era := by omega
  have hrest : (100 * century + 4 * cycle + year + era * 400) % 400 =
      100 * century + 4 * cycle + year := by omega
  rw [hwhole, hrest, hdays, heq]
  unfold eraDays
  omega

/-- The date of a day exists. -/
theorem isValid_ofDays (days : Int) : (ofDays days).isValid := by
  obtain ⟨era, dayOfEra, century, cycle, year, day, h, -, hdate⟩ := exists_ofMarch days
  have hday := h.day_le_365
  have hnonneg := h.day_nonneg
  rw [hdate]
  refine isValid_ofMarch (by omega) (by omega) (by omega) fun hfebruary => ?_
  rw [isLeapYear_iff]
  obtain ⟨-, hcentury, hcycle, hyear, -, hlast⟩ := h
  omega

/-- The days that instants reach have the years that instants reach. -/
theorem year_ofDays {days : Int} (hearliest : earliestSecond / secondsPerDay ≤ days)
    (hlatest : days ≤ latestSecond / secondsPerDay) :
    -262143 ≤ (ofDays days).year ∧ (ofDays days).year ≤ 262142 := by
  obtain ⟨era, dayOfEra, century, cycle, year, day, h, hdays, hdate⟩ := exists_ofMarch days
  have hday := h.day_le_365
  rw [hdate, year_ofMarch]
  obtain ⟨heq, hcentury, hcycle, hyear, hnonneg, -⟩ := h
  unfold earliestSecond secondsPerDay at hearliest
  unfold latestSecond secondsPerDay at hlatest
  unfold epochDays at hdays
  by_cases hlt : (5 * day + 2) / 153 < 10
  · rw [if_pos hlt]
    omega
  · rw [if_neg hlt]
    refine ⟨by omega, ?_⟩
    by_contra hgt
    -- a later year would begin in the last March that is reached, and January comes after it
    have hera : era = 655 := by omega
    have hlast : century = 1 ∧ cycle = 10 := by omega
    omega

/-! ### Years and months added up -/

/-- The number of days of a year. -/
def daysInYear (year : Int) : Nat := if isLeapYear year then 366 else 365

/-- The days of the years from 0 on that come before a year. -/
def daysOfYears (year : Nat) : Nat :=
  ((List.range year).map fun earlier : Nat => daysInYear earlier).sum

/-- The days of the months of a year that come before a month. -/
def daysOfMonths (year : Int) (month : Nat) : Nat :=
  ((List.range (month - 1)).map fun earlier => daysInMonth year (earlier + 1)).sum

/-- The days from the first of January of the year 0 to a date, added up by years and months. -/
def daysBefore (year month day : Nat) : Nat :=
  daysOfYears year + daysOfMonths year month + (day - 1)

theorem daysOfYears_succ (year : Nat) :
    daysOfYears (year + 1) = daysOfYears year + daysInYear year := by
  simp [daysOfYears, List.range_succ]

theorem daysInYear_eq (year : Int) : daysInYear year = 337 + daysInMonth year 2 := by
  show (if isLeapYear year then 366 else 365) = 337 + if isLeapYear year then 29 else 28
  split <;> rfl

/-- Every fourth year has a leap day, but of the years that end a century only every fourth. -/
theorem daysOfYears_eq (year : Nat) :
    daysOfYears year + (year + 99) / 100 = 365 * year + (year + 3) / 4 + (year + 399) / 400 := by
  induction year with
  | zero => decide
  | succ year ih =>
    have hfour : (year + 1 + 3) / 4 = (year + 3) / 4 + if year % 4 = 0 then 1 else 0 := by
      split <;> omega
    have hhundred : (year + 1 + 99) / 100 =
        (year + 99) / 100 + if year % 100 = 0 then 1 else 0 := by
      split <;> omega
    have hera : (year + 1 + 399) / 400 = (year + 399) / 400 + if year % 400 = 0 then 1 else 0 := by
      split <;> omega
    have hleap : daysInYear year + (if year % 100 = 0 then 1 else 0) =
        365 + (if year % 4 = 0 then 1 else 0) + if year % 400 = 0 then 1 else 0 := by
      simp only [daysInYear, isLeapYear_iff]
      split_ifs <;> omega
    rw [daysOfYears_succ, hfour, hhundred, hera]
    linarith

/-- January and February come before the months by which days are counted. -/
theorem daysOfMonths_eq (year : Int) {month : Nat} (hlow : 1 ≤ month) (hhigh : month ≤ 12) :
    daysOfMonths year month =
      if month ≤ 2 then 31 * (month - 1)
      else 31 + daysInMonth year 2 + (153 * (month - 3) + 2) / 5 := by
  interval_cases month <;> simp [daysOfMonths, List.range_succ] <;> simp [daysInMonth] <;> omega

theorem daysBefore_epoch : daysBefore 1970 1 1 = 719528 := by
  have hyears := daysOfYears_eq 1970
  have hmonths : daysOfMonths (1970 : Nat) 1 = 0 := rfl
  rw [daysBefore, hmonths]
  omega

/-- The days of the years before one, counted by eras. -/
theorem eraDays_eq (year : Int) :
    year / 400 * 146097 + (year % 400 * 365 + year % 400 / 4 - year % 400 / 100) =
      365 * year + year / 4 - year / 100 + year / 400 := by
  have hfour : year / 4 = year / 400 * 100 + year % 400 / 4 := by omega
  have hhundred : year / 100 = year / 400 * 4 + year % 400 / 100 := by omega
  omega

/-- The number of a day is how many years, months and days there are from 1970-01-01 on. -/
theorem toDays_eq {year month day : Nat} (hmonth : 1 ≤ month ∧ month ≤ 12) (hday : 1 ≤ day) :
    toDays ⟨year, month, day⟩ = daysBefore year month day - daysBefore 1970 1 1 := by
  have hmonths := daysOfMonths_eq year hmonth.1 hmonth.2
  rw [daysBefore_epoch, toDays, daysBefore]
  unfold epochDays eraDays
  simp only
  by_cases hearly : month ≤ 2
  · have hback : ((month : Int) + 9) % 12 = month + 9 := by omega
    have hyears := daysOfYears_eq year
    have hera := eraDays_eq (year - 1)
    rw [if_pos hearly] at hmonths ⊢
    rw [hback]
    omega
  · have hback : ((month : Int) + 9) % 12 = month - 3 := by omega
    -- the leap day of the year itself has passed
    have hyears := daysOfYears_eq (year + 1)
    rw [daysOfYears_succ, daysInYear_eq] at hyears
    have hera := eraDays_eq year
    rw [if_neg hearly] at hmonths ⊢
    rw [hback]
    omega

end ClusterSim.Date
