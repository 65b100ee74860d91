import Daybook.Calendar.Instant
import Daybook.Number.Text

/-!
# Dates and instants as text
-/

namespace Daybook.Calendar

open Daybook.Number

/-- A number of two digits at least. -/
def twoPlaces (n : Nat) : String :=
  String.ofList (padded 2 n)

/-- A year in four digits; one that has more, or is negative, carries its sign. -/
def yearText (year : Int) : String :=
  if 0 ≤ year ∧ year ≤ 9999 then String.ofList (padded 4 year.toNat)
  else (if year < 0 then "-" else "+") ++ String.ofList (padded 4 year.natAbs)

/-- A time of day on a clock of twelve hours. -/
def TimeOfDay.clockText (t : TimeOfDay) : String :=
  let hour := if t.hour % 12 = 0 then 12 else t.hour % 12
  natText hour ++ ":" ++ twoPlaces t.minute ++ ":" ++ twoPlaces t.shownSecond ++
    (if t.hour < 12 then " am" else " pm")

/-- An instant as its local clock shows it: day, month and year, then the time with am or pm. -/
def Instant.localText (i : Instant) : String :=
  twoPlaces i.date.day ++ "/" ++ twoPlaces i.date.month ++ "/" ++ yearText i.date.year ++ ", " ++
    i.time.clockText

/-- The fraction of a second in as few groups of three digits as it takes. -/
def fractionText (nanos : Nat) : String :=
  if nanos = 0 then ""
  else if nanos % 1000000 = 0 then "." ++ String.ofList (padded 3 (nanos / 1000000))
  else if nanos % 1000 = 0 then "." ++ String.ofList (padded 6 (nanos / 1000))
  else "." ++ String.ofList (padded 9 nanos)

/-- A distance from UTC in hours and minutes, `Z` for none. -/
def offsetText (offset : Int) : String :=
  if offset = 0 then "Z"
  else
    let minutes := offset.natAbs / 60
    (if offset < 0 then "-" else "+") ++ twoPlaces (minutes / 60) ++ ":" ++
      twoPlaces (minutes % 60)

/-- An instant in the form of RFC 3339. -/
def Instant.toText (i : Instant) : String :=
  yearText i.date.year ++ "-" ++ twoPlaces i.date.month ++ "-" ++ twoPlaces i.date.day ++ "T" ++
    twoPlaces i.time.hour ++ ":" ++ twoPlaces i.time.minute ++ ":" ++
    twoPlaces i.time.shownSecond ++ fractionText (i.time.nanos % nanosPerSecond) ++
    offsetText i.offset

end Daybook.Calendar
