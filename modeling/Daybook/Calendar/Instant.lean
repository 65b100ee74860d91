import Daybook.Calendar.Date

/-!
# Instants

An instant is a local date and time of day with the distance of the local clock from UTC. A leap
second is kept as the last second of its minute with more than 999999999 nanoseconds.
-/

namespace Daybook.Calendar

/-- A time of day; during a leap second `nanos` is a billion or more. -/
structure TimeOfDay where
  hour : Nat
  minute : Nat
  second : Nat
  nanos : Nat
deriving DecidableEq, Repr

namespace TimeOfDay

/-- The seconds since midnight. -/
def seconds (t : TimeOfDay) : Nat :=
  t.hour * 3600 + t.minute * 60 + t.second

/-- The second as a clock shows it, 60 during a leap second. -/
def shownSecond (t : TimeOfDay) : Nat :=
  t.second + t.nanos / 1000000000

end TimeOfDay

/-- A local date and time, and how many seconds the local clock is ahead of UTC. -/
structure Instant where
  date : Date
  time : TimeOfDay
  offset : Int
deriving DecidableEq, Repr

/-- The seconds of a day. -/
def secondsPerDay : Nat :=
  86400

/-- The nanoseconds of a second. -/
def nanosPerSecond : Nat :=
  1000000000

namespace Instant

/-- The seconds in UTC since the start of 1970, leap seconds not counted. -/
def utcSeconds (i : Instant) : Int :=
  i.date.dayNumber * secondsPerDay + i.time.seconds - i.offset

/-- The seconds in UTC since midnight in UTC. -/
def utcSecondOfDay (i : Instant) : Int :=
  i.utcSeconds % secondsPerDay

/-- Whether an instant is inside a leap second. -/
def inLeapSecond (i : Instant) : Bool :=
  nanosPerSecond ≤ i.time.nanos

/-- Whether one instant is before another. -/
def lt (a b : Instant) : Bool :=
  a.utcSeconds < b.utcSeconds ||
    (a.utcSeconds == b.utcSeconds && a.time.nanos < b.time.nanos)

/-- Whether one instant is not after another. -/
def le (a b : Instant) : Bool :=
  !b.lt a

/-- The leap second between two times of day that must be counted, or taken back: it counts if the
earlier time of day lies in it. -/
def leapCorrection (later earlier : Instant) : Int :=
  if earlier.utcSecondOfDay < later.utcSecondOfDay && earlier.inLeapSecond then 1
  else if later.utcSecondOfDay < earlier.utcSecondOfDay && later.inLeapSecond then -1
  else 0

/-- The nanoseconds from `earlier` to `later`. -/
def nanosSince (later earlier : Instant) : Int :=
  (later.utcSeconds - earlier.utcSeconds + leapCorrection later earlier) * nanosPerSecond +
    ((later.time.nanos : Int) - earlier.time.nanos)

/-- The whole seconds from `earlier` to `later`, cut towards zero. -/
def secondsSince (later earlier : Instant) : Int :=
  (later.nanosSince earlier).tdiv nanosPerSecond

/-- The whole milliseconds from `earlier` to `later`, cut towards zero. -/
def millisSince (later earlier : Instant) : Int :=
  (later.nanosSince earlier).tdiv 1000000

end Instant

end Daybook.Calendar
