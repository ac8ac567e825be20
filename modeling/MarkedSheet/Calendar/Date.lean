/-!
# Dates

Dates of the Gregorian calendar, extended to the years before it came into use, from year 0 on.
Weeks are counted in three ways: from the first Sunday or the first Monday of the year, and by the
rule that week 1 is the week of the year's first Thursday.
-/

namespace MarkedSheet

/-- A day given by year, month and day of the month. -/
structure Date where
  year : Nat
  month : Nat
  day : Nat
  deriving DecidableEq, Repr

namespace Date

def isLeapYear (year : Nat) : Bool :=
  year % 4 = 0 && (year % 100 ≠ 0 || year % 400 = 0)

def daysInMonth (year month : Nat) : Nat :=
  match month with
  | 2 => if isLeapYear year then 29 else 28
  | 4 | 6 | 9 | 11 => 30
  | _ => 31

def isValid (d : Date) : Bool :=
  1 ≤ d.month && d.month ≤ 12 && 1 ≤ d.day && d.day ≤ daysInMonth d.year d.month

def ofParts? (year month day : Nat) : Option Date :=
  if (Date.mk year month day).isValid then some ⟨year, month, day⟩ else none

def daysBeforeMonth (year month : Nat) : Nat :=
  ((List.range (month - 1)).map fun m => daysInMonth year (m + 1)).foldr (· + ·) 0

/-- The position of the day in its year, counted from 1. -/
def ordinal (d : Date) : Nat :=
  daysBeforeMonth d.year d.month + d.day

/-- The days from the first day of year 0 to the first day of a year. -/
def daysBeforeYear (year : Nat) : Nat :=
  365 * year + (year + 3) / 4 - (year + 99) / 100 + (year + 399) / 400

/-- The day of the week, Monday being 0; the first day of year 0 was a Saturday. -/
def weekday (d : Date) : Nat :=
  (daysBeforeYear d.year + d.ordinal + 4) % 7

/-- The day of the week, Sunday being 0. -/
def weekdayFromSunday (d : Date) : Nat :=
  (d.weekday + 1) % 7

def quarter (d : Date) : Nat :=
  (d.month - 1) / 3 + 1

/-- The week of the year when weeks start on Sunday; the days before the first are in week 0. -/
def weekFromSunday (d : Date) : Nat :=
  (d.ordinal + 6 - d.weekdayFromSunday) / 7

/-- The week of the year when weeks start on Monday; the days before the first are in week 0. -/
def weekFromMonday (d : Date) : Nat :=
  (d.ordinal + 6 - d.weekday) / 7

/-- The weekday of the last day of a year, Sunday being 0. -/
def lastWeekday (year : Int) : Int :=
  (year + year / 4 - year / 100 + year / 400) % 7

/-- The number of weeks of a year: 53 when it starts or ends on a Thursday, else 52. -/
def weeksInYear (year : Int) : Nat :=
  if lastWeekday year = 4 ∨ lastWeekday (year - 1) = 3 then 53 else 52

/-- The year and the week that a day belongs to when week 1 holds the first Thursday. -/
def isoWeek (d : Date) : Int × Nat :=
  let week := (d.ordinal + 9 - d.weekday) / 7
  if week = 0 then ((d.year : Int) - 1, weeksInYear ((d.year : Int) - 1))
  else if weeksInYear d.year < week then ((d.year : Int) + 1, 1)
  else (d.year, week)

end Date

end MarkedSheet
