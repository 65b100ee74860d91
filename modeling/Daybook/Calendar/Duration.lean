import Daybook.Calendar.Instant
import Daybook.Number.Text

/-!
# Durations

A duration is split into weeks, days, hours, minutes and seconds. Weeks stand only for a whole
number of them, and then there are no days.
-/

namespace Daybook.Calendar

open Daybook.Number

/-- The parts of a duration. -/
structure Duration where
  weeks : Nat
  days : Nat
  hours : Nat
  minutes : Nat
  seconds : Nat
deriving DecidableEq, Repr

namespace Duration

/-- No time at all. -/
def zero : Duration :=
  ⟨0, 0, 0, 0, 0⟩

/-- The largest value that a part can have. -/
def maxPart : Nat :=
  twoPow 32 - 1

/-- A split span of seconds, whichever way it runs; parts stop at `maxPart`. -/
def ofSeconds (total : Int) : Duration :=
  let seconds := total.natAbs
  let days := seconds / secondsPerDay
  let rest := seconds % secondsPerDay
  let weeks := if days % 7 = 0 then days / 7 else 0
  let days := if days % 7 = 0 then 0 else days
  ⟨min weeks maxPart, min days maxPart, rest / 3600, rest / 60 % 60, rest % 60⟩

/-- The duration between two instants. -/
def between (start stop : Instant) : Duration :=
  ofSeconds (stop.secondsSince start)

/-- The parts in a row, each with its letter. -/
def text (d : Duration) : String :=
  natText d.weeks ++ "w" ++ natText d.days ++ "d" ++ natText d.hours ++ "h" ++
    natText d.minutes ++ "m" ++ natText d.seconds ++ "s"

end Duration

end Daybook.Calendar
