import Mathlib.Tactic.IntervalCases
import SampleLoad.Time.Calendar

/-!
Dates and day numbers. The rules of the calendar are those of leap years and of the lengths of months: every day
has a date that they allow, and day numbers count the dates on, one by one, from 1970-01-01. A date is found
through the year that begins in March: an era splits into centuries, cycles of four years and years, of which the
last ones may be a day longer. Main statements: `Date.dayNumber_ofDayNumber`, `Date.ofDayNumber_valid`.
-/

namespace SampleLoad.Date

/-! ### The rules -/

/-- Every fourth year is a leap year, except centuries, of which every fourth is one. -/
def IsLeap (year : Int) : Prop := year % 4 = 0 ∧ (year % 100 ≠ 0 ∨ year % 400 = 0)

instance (year : Int) : Decidable (IsLeap year) := inferInstanceAs (Decidable (_ ∧ _))

def monthLength (year : Int) (month : Nat) : Nat :=
  if month = 2 then (if IsLeap year then 29 else 28)
  else if month ∈ [4, 6, 9, 11] then 30
  else 31

structure Valid (d : Date) : Prop where
  month : 1 ≤ d.month ∧ d.month ≤ 12
  day : 1 ≤ d.day ∧ d.day ≤ monthLength d.year d.month

instance (d : Date) : Decidable d.Valid :=
  decidable_of_iff ((1 ≤ d.month ∧ d.month ≤ 12) ∧ 1 ≤ d.day ∧ d.day ≤ monthLength d.year d.month)
    ⟨fun h => ⟨h.1, h.2⟩, fun h => ⟨h.month, h.day⟩⟩

def next (d : Date) : Date :=
  if d.day < monthLength d.year d.month then { d with day := d.day + 1 }
  else if d.month < 12 then ⟨d.year, d.month + 1, 1⟩
  else ⟨d.year + 1, 1, 1⟩

/-! ### Years that begin in March -/

/-- The days from the first of March of the year 0 to that of another year. -/
def daysBeforeMarch (year : Int) : Int := 365 * year + year / 4 - year / 100 + year / 400

/-- The date of a day of the year that begins in March of a year. -/
def ofMarch (year dayOfYear : Int) : Date :=
  let monthFromMarch := (5 * dayOfYear + 2) / 153
  let month := if monthFromMarch < 10 then monthFromMarch + 3 else monthFromMarch - 9
  ⟨year + (if month ≤ 2 then 1 else 0), month.toNat, (dayOfYear - (153 * monthFromMarch + 2) / 5 + 1).toNat⟩

/-- A day of the year that begins in March of a year; the last one is there in leap years only. -/
structure InMarchYear (year dayOfYear : Int) : Prop where
  first : 0 ≤ dayOfYear
  last : dayOfYear ≤ 365
  leap : dayOfYear = 365 → IsLeap (year + 1)

/-- The place of a day in its era: centuries, cycles of four years, years and days. -/
structure EraPlace (dayOfEra century cycle year day : Int) : Prop where
  sum : dayOfEra = 36524 * century + 1461 * cycle + 365 * year + day
  centuries : 0 ≤ century ∧ century ≤ 3
  cycles : 0 ≤ cycle ∧ cycle ≤ 24
  years : 0 ≤ year ∧ year ≤ 3
  days : 0 ≤ day ∧ day ≤ 365
  /-- Only the last year of a cycle has a day more, and of the last cycles only that of the last century. -/
  leap : day = 365 → year = 3 ∧ (cycle = 24 → century = 3)

theorem exists_eraPlace {dayOfEra : Int} (hfirst : 0 ≤ dayOfEra) (hlast : dayOfEra < 146097) :
    ∃ century cycle year day, EraPlace dayOfEra century cycle year day := by
  refine ⟨min (dayOfEra / 36524) 3, (dayOfEra - 36524 * min (dayOfEra / 36524) 3) / 1461,
    min ((dayOfEra - 36524 * min (dayOfEra / 36524) 3) % 1461 / 365) 3,
    (dayOfEra - 36524 * min (dayOfEra / 36524) 3) % 1461 -
      365 * min ((dayOfEra - 36524 * min (dayOfEra / 36524) 3) % 1461 / 365) 3, ?_, ?_, ?_, ?_, ?_, ?_⟩
  all_goals omega

namespace EraPlace

variable {dayOfEra century cycle year day : Int} (h : EraPlace dayOfEra century cycle year day)

include h

/-- The correction for leap days, from which the year of the era is read off. -/
theorem yearOfEra_eq :
    (dayOfEra - dayOfEra / 1460 + dayOfEra / 36524 - dayOfEra / 146096) / 365 =
      100 * century + 4 * cycle + year := by
  obtain ⟨hsum, hcentury, hcycle, hyear, hday, hleap⟩ := h
  have hcenturies : dayOfEra / 36524 - dayOfEra / 146096 = century := by
    by_cases hend : dayOfEra = 146096
    · subst hend
      omega
    · have hwithin : 36524 * century ≤ dayOfEra ∧ dayOfEra < 36524 * (century + 1) := by
        rcases Int.lt_or_eq_of_le hday.2 with hlt | heq
        · omega
        · have := hleap heq
          omega
      have hfull : dayOfEra / 36524 = century := by omega
      have hnone : dayOfEra / 146096 = 0 := by omega
      omega
  -- Cycles are counted as if they were a day shorter, which is right on the first and the last day of a year.
  have hcycles : 25 * century + cycle ≤ dayOfEra / 1460 ∧ dayOfEra / 1460 ≤ 25 * century + cycle + 1 := by omega
  have hstart : day = 0 → dayOfEra / 1460 = 25 * century + cycle := by omega
  have hend : day = 365 → dayOfEra / 1460 = 25 * century + cycle + 1 := by
    intro heq
    obtain ⟨rfl, -⟩ := hleap heq
    omega
  omega

theorem inMarchYear (era : Int) : InMarchYear (100 * century + 4 * cycle + year + era * 400) day := by
  obtain ⟨-, hcentury, hcycle, hyear, hday, hleap⟩ := h
  refine ⟨hday.1, hday.2, fun heq => ?_⟩
  obtain ⟨rfl, hlast⟩ := hleap heq
  unfold IsLeap
  omega

theorem daysBeforeMarch_add (era : Int) :
    daysBeforeMarch (100 * century + 4 * cycle + year + era * 400) + day = era * 146097 + dayOfEra := by
  obtain ⟨hsum, hcentury, hcycle, hyear, -, -⟩ := h
  unfold daysBeforeMarch
  omega

end EraPlace

/-- A day number leads to a day of a year that begins in March. -/
theorem ofDayNumber_eq (n : Int) :
    ∃ year dayOfYear, InMarchYear year dayOfYear ∧ daysBeforeMarch year + dayOfYear = n + 719468 ∧
      ofDayNumber n = ofMarch year dayOfYear := by
  obtain ⟨century, cycle, year, day, hplace⟩ :=
    exists_eraPlace (Int.emod_nonneg (n + 719468) (by decide : (146097 : Int) ≠ 0))
      (Int.emod_lt_of_pos (n + 719468) (by decide))
  refine ⟨_, day, hplace.inMarchYear ((n + 719468) / 146097), ?_, ?_⟩
  · rw [hplace.daysBeforeMarch_add]
    omega
  · have hday : (n + 719468) % 146097 - (365 * (100 * century + 4 * cycle + year) +
        (100 * century + 4 * cycle + year) / 4 - (100 * century + 4 * cycle + year) / 100) = day := by
      obtain ⟨hsum, hcentury, hcycle, hyear, -, -⟩ := hplace
      omega
    simp only [ofDayNumber, hplace.yearOfEra_eq, hday]
    rfl

/-! ### Months counted from March -/

/-- The place of a month in the year that begins in March. -/
def monthPlace (month : Nat) : Int := if 2 < month then (month : Int) - 3 else month + 9

/-- The year in whose March the year begins that a month of a year belongs to. -/
def marchYear (year : Int) (month : Nat) : Int := if month ≤ 2 then year - 1 else year

/-- The days of the year that begins in March before the month at a place. -/
def daysBeforeMonth (place : Int) : Int := (153 * place + 2) / 5

/-- All months but the last one, which is February, are as long as their places say. -/
theorem monthLength_eq (year : Int) {month : Nat} (hmonth : 1 ≤ month ∧ month ≤ 12) (hfebruary : month ≠ 2) :
    (monthLength year month : Int) = daysBeforeMonth (monthPlace month + 1) - daysBeforeMonth (monthPlace month) := by
  obtain ⟨hlow, hhigh⟩ := hmonth
  interval_cases month
  case «2» => exact absurd rfl hfebruary
  all_goals rfl

theorem monthLength_february (year : Int) : monthLength year 2 = if IsLeap year then 29 else 28 := rfl

/-- The date is that of a day of the year that begins in March of a year. -/
structure OnDay (d : Date) (year dayOfYear : Int) : Prop where
  year : marchYear d.year d.month = year
  month : 1 ≤ d.month ∧ d.month ≤ 12
  first : 1 ≤ d.day
  sum : dayOfYear = daysBeforeMonth (monthPlace d.month) + d.day - 1
  last : dayOfYear < daysBeforeMonth (monthPlace d.month + 1)

theorem ofMarch_onDay {year dayOfYear : Int} (h : InMarchYear year dayOfYear) :
    (ofMarch year dayOfYear).OnDay year dayOfYear := by
  obtain ⟨hfirst, hlast, -⟩ := h
  by_cases hspring : (5 * dayOfYear + 2) / 153 < 10
  · constructor <;> simp only [ofMarch, if_pos hspring, daysBeforeMonth, monthPlace, marchYear] <;> omega
  · constructor <;> simp only [ofMarch, if_neg hspring, daysBeforeMonth, monthPlace, marchYear] <;> omega

/-- The day number of a date, by the year that begins in March. -/
theorem dayNumber_eq (d : Date) :
    d.dayNumber =
      daysBeforeMarch (marchYear d.year d.month) + (daysBeforeMonth (monthPlace d.month) + d.day - 1) - 719468 := by
  simp only [dayNumber, daysBeforeMarch, daysBeforeMonth, monthPlace, marchYear]
  omega

section OnDay

variable {d : Date} {year dayOfYear : Int} (h : d.OnDay year dayOfYear)

include h

theorem OnDay.dayNumber : d.dayNumber = daysBeforeMarch year + dayOfYear - 719468 := by
  rw [dayNumber_eq, h.year, h.sum]

/-- February has the days that the others leave, which is one more in leap years. -/
theorem OnDay.valid (hin : InMarchYear year dayOfYear) : d.Valid := by
  have hsum := h.sum
  refine ⟨h.month, h.first, ?_⟩
  by_cases hfebruary : d.month = 2
  · have hplace : daysBeforeMonth (monthPlace d.month) = 337 := by
      rw [hfebruary]
      rfl
    have hyear : year + 1 = d.year := by
      rw [← h.year, hfebruary]
      exact Int.sub_add_cancel d.year 1
    have hlast := hin.last
    rw [hfebruary, monthLength_february]
    split
    · omega
    · rename_i hcommon
      have hnot : dayOfYear ≠ 365 := fun hleap => hcommon (hyear ▸ hin.leap hleap)
      omega
  · have hlength := monthLength_eq d.year h.month hfebruary
    have hlast := h.last
    omega

end OnDay

/-! ### Dates and day numbers -/

/-- The date of a day is one that the calendar has. -/
theorem ofDayNumber_valid (n : Int) : (ofDayNumber n).Valid := by
  obtain ⟨year, dayOfYear, hin, -, hdate⟩ := ofDayNumber_eq n
  rw [hdate]
  exact (ofMarch_onDay hin).valid hin

theorem dayNumber_ofDayNumber (n : Int) : (ofDayNumber n).dayNumber = n := by
  obtain ⟨year, dayOfYear, hin, hdays, hdate⟩ := ofDayNumber_eq n
  rw [hdate, (ofMarch_onDay hin).dayNumber, hdays, Int.add_sub_cancel]

/-- Years that begin in March are as long as the February at their end makes them. -/
theorem daysBeforeMarch_next (year : Int) :
    daysBeforeMarch year = daysBeforeMarch (year - 1) + 337 + monthLength year 2 := by
  rw [monthLength_february]
  by_cases hleap : IsLeap year
  · rw [if_pos hleap]
    unfold daysBeforeMarch IsLeap at *
    omega
  · rw [if_neg hleap]
    unfold daysBeforeMarch IsLeap at *
    omega

/-- Day numbers count the days of the calendar on, from the first of January 1970. -/
theorem dayNumber_next {d : Date} (h : d.Valid) : d.next.dayNumber = d.dayNumber + 1 := by
  obtain ⟨year, month, day⟩ := d
  obtain ⟨hmonth, hday⟩ := h
  have hfirst (year : Int) (month : Nat) :
      (Date.mk year month 1).dayNumber =
        daysBeforeMarch (marchYear year month) + daysBeforeMonth (monthPlace month) - 719468 := by
    rw [dayNumber_eq]
    exact congrArg (daysBeforeMarch _ + · - _) (Int.add_sub_cancel _ 1)
  dsimp only at hmonth hday
  simp only [next]
  split
  · rw [dayNumber_eq, dayNumber_eq]
    dsimp only
    omega
  · have hlast : day = monthLength year month := by omega
    rw [dayNumber_eq ⟨year, month, day⟩]
    dsimp only
    by_cases hfebruary : month = 2
    · subst hfebruary
      have hyear : daysBeforeMarch year = daysBeforeMarch (marchYear year 2) + 337 + monthLength year 2 :=
        daysBeforeMarch_next year
      have hmarch : marchYear year (2 + 1) = year := rfl
      have hplace : daysBeforeMonth (monthPlace (2 + 1)) = 0 ∧ daysBeforeMonth (monthPlace 2) = 337 := by decide
      rw [if_pos (by decide), hfirst, hmarch]
      omega
    · have hlength := monthLength_eq year hmonth hfebruary
      split
      · have hplace : monthPlace (month + 1) = monthPlace month + 1 := by
          unfold monthPlace
          omega
        have hyear : marchYear year (month + 1) = marchYear year month := by
          unfold marchYear
          omega
        rw [hfirst, hplace, hyear]
        omega
      · obtain rfl : month = 12 := by omega
        have hyear : marchYear (year + 1) 1 = marchYear year 12 := Int.add_sub_cancel year 1
        have hplace : monthPlace 1 = monthPlace 12 + 1 := rfl
        rw [hfirst, hyear, hplace]
        omega

example : dayNumber ⟨1970, 1, 1⟩ = 0 := rfl

end SampleLoad.Date
