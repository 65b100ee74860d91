/-!
# Dates

Dates of the Gregorian calendar, extended to all years that have a date. Days are numbered from the
first of January 1970.
-/

namespace Daybook.Calendar

/-- A year, a month and a day of the month. -/
structure Date where
  year : Int
  month : Nat
  day : Nat
deriving DecidableEq, Repr

/-- Whether a year has a 29th of February. -/
def isLeapYear (year : Int) : Bool :=
  year % 4 == 0 && (year % 100 != 0 || year % 400 == 0)

/-- The number of days of a month. -/
def daysInMonth (year : Int) (month : Nat) : Nat :=
  match month with
  | 2 => if isLeapYear year then 29 else 28
  | 4 | 6 | 9 | 11 => 30
  | _ => 31

/-- The first year that has dates. -/
def minYear : Int :=
  -262143

/-- The last year that has dates. -/
def maxYear : Int :=
  262142

namespace Date

/-- Whether year, month and day make a date. -/
def isValid (d : Date) : Bool :=
  minYear ≤ d.year && d.year ≤ maxYear && 1 ≤ d.month && d.month ≤ 12 &&
    1 ≤ d.day && d.day ≤ daysInMonth d.year d.month

/-- The date of a year, a month and a day, if there is one. -/
def ofParts? (year : Int) (month day : Nat) : Option Date :=
  if isValid ⟨year, month, day⟩ then some ⟨year, month, day⟩ else none

/-- The days of a year before a month. -/
def daysBeforeMonth (year : Int) (month : Nat) : Nat :=
  (List.range (month - 1)).foldl (fun n m => n + daysInMonth year (m + 1)) 0

/-- The days from the first of January of year 0 to that of another year. -/
def daysBeforeYear (year : Int) : Int :=
  let y := year - 1
  365 * year + (y / 4 - y / 100 + y / 400) + 1

/-- The number of a date, counted in days from the first of January 1970. -/
def dayNumber (d : Date) : Int :=
  daysBeforeYear d.year - daysBeforeYear 1970 + daysBeforeMonth d.year d.month + (d.day - 1 : Nat)

/-- Whether one date is not after another. -/
def le (a b : Date) : Bool :=
  a.year < b.year || (a.year == b.year &&
    (a.month < b.month || (a.month == b.month && a.day ≤ b.day)))

/-- The number of the first day that has a date. -/
def minDayNumber : Int :=
  dayNumber ⟨minYear, 1, 1⟩

/-- The number of the last day that has a date. -/
def maxDayNumber : Int :=
  dayNumber ⟨maxYear, 12, 31⟩

end Date

end Daybook.Calendar
