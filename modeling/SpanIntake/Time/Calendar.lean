/-
**Days and dates** in the Gregorian calendar, extended without end in both directions.  A year is
counted from March, so that the leap day is its last and the months before it have a fixed pattern
of lengths; four hundred years have 146097 days.

Main definitions

* `Date` — year, month and day;
* `Date.ofDays`, `Date.toDays` — the date so many days after 1970-01-01 and back;
* `Date.isValid` — whether month and day exist.
-/

set_option relaxedAutoImplicit false
set_option autoImplicit false

namespace SpanIntake

/-- A date. -/
structure Date where
  /-- The year, zero being the one before the year one. -/
  year : Int
  /-- The month from 1. -/
  month : Nat
  /-- The day of the month from 1. -/
  day : Nat
  deriving DecidableEq, Repr

namespace Date

/-- Whether a year has a leap day. -/
def isLeap (year : Int) : Bool := year % 4 == 0 && (year % 100 != 0 || year % 400 == 0)

/-- The count of days of a month. -/
def daysIn (year : Int) (month : Nat) : Nat :=
  if month = 2 then (if isLeap year then 29 else 28)
  else if month = 4 ∨ month = 6 ∨ month = 9 ∨ month = 11 then 30
  else 31

/-- Whether the month and the day exist. -/
def isValid (d : Date) : Bool :=
  1 ≤ d.month && d.month ≤ 12 && 1 ≤ d.day && d.day ≤ daysIn d.year d.month

/-- The count of days from 1970-01-01 to a date. -/
def toDays (d : Date) : Int :=
  let year : Int := if d.month ≤ 2 then d.year - 1 else d.year
  let era := year / 400
  let yearOfEra := year % 400
  let fromMarch : Nat := (d.month + 9) % 12
  let dayOfYear : Int := (153 * fromMarch + 2 : Nat) / 5 + d.day - 1
  era * 146097 + (yearOfEra * 365 + yearOfEra / 4 - yearOfEra / 100 + dayOfYear) - 719468

/-- The date so many days after 1970-01-01. -/
def ofDays (days : Int) : Date :=
  let fromMarch0 := days + 719468
  let era := fromMarch0 / 146097
  let dayOfEra := fromMarch0 % 146097
  let yearOfEra := (dayOfEra - dayOfEra / 1460 + dayOfEra / 36524 - dayOfEra / 146096) / 365
  let dayOfYear := dayOfEra - (365 * yearOfEra + yearOfEra / 4 - yearOfEra / 100)
  let fromMarch := (5 * dayOfYear + 2) / 153
  let day := dayOfYear - (153 * fromMarch + 2) / 5 + 1
  let month := if fromMarch < 10 then fromMarch + 3 else fromMarch - 9
  let year := yearOfEra + era * 400
  ⟨if month ≤ 2 then year + 1 else year, month.toNat, day.toNat⟩

end Date

end SpanIntake
