import SampleLoad.Time.Instant

/-!
The proleptic Gregorian calendar: a day number counted from 1970 and a date with year, month and day
determine each other. Years are counted from the first of March, so that the leap day is a year's last,
and grouped in eras of 400 years, which all have the same number of days.
-/

namespace SampleLoad

/-- A calendar date. The year 0 is the year before the year 1. -/
structure Date where
  year : Int
  month : Nat
  day : Nat
  deriving DecidableEq, Repr

namespace Date

/-- The date of a day counted from 1970-01-01. -/
def ofDayNumber (dayNumber : Int) : Date :=
  let shifted := dayNumber + 719468
  let era := shifted / 146097
  let dayOfEra := shifted % 146097
  let yearOfEra := (dayOfEra - dayOfEra / 1460 + dayOfEra / 36524 - dayOfEra / 146096) / 365
  let dayOfYear := dayOfEra - (365 * yearOfEra + yearOfEra / 4 - yearOfEra / 100)
  let monthFromMarch := (5 * dayOfYear + 2) / 153
  let day := dayOfYear - (153 * monthFromMarch + 2) / 5 + 1
  let month := if monthFromMarch < 10 then monthFromMarch + 3 else monthFromMarch - 9
  let year := yearOfEra + era * 400 + (if month ≤ 2 then 1 else 0)
  ⟨year, month.toNat, day.toNat⟩

/-- The day number of a date, counted from 1970-01-01. -/
def dayNumber (d : Date) : Int :=
  let year := if d.month ≤ 2 then d.year - 1 else d.year
  let era := year / 400
  let yearOfEra := year % 400
  let monthFromMarch : Int := if 2 < d.month then d.month - 3 else d.month + 9
  let dayOfYear := (153 * monthFromMarch + 2) / 5 + d.day - 1
  let dayOfEra := yearOfEra * 365 + yearOfEra / 4 - yearOfEra / 100 + dayOfYear
  era * 146097 + dayOfEra - 719468

end Date

/-- A point in time read off a calendar and a clock in UTC. -/
structure ClockTime where
  date : Date
  hour : Nat
  minute : Nat
  second : Nat
  nanosecond : Nat
  deriving DecidableEq, Repr

namespace Instant

/-- What calendar and clock show at an instant. -/
def clockTime (t : Instant) : ClockTime :=
  let secondOfDay := (t.seconds % 86400).toNat
  { date := .ofDayNumber (t.seconds / 86400)
    hour := secondOfDay / 3600
    minute := secondOfDay / 60 % 60
    second := secondOfDay % 60
    nanosecond := t.subsecond }

end Instant

namespace ClockTime

/-- The instant at which calendar and clock show this, if it is representable. -/
def instant? (c : ClockTime) : Option Instant :=
  Instant.ofParts? (c.date.dayNumber * 86400 + c.hour * 3600 + c.minute * 60 + c.second) c.nanosecond

end ClockTime

end SampleLoad
