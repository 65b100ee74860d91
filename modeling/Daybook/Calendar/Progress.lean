import Daybook.Calendar.Event
import Daybook.Number.Binary64

/-!
# Progress of an event

How far an event has come, as a floating-point value from 0 to 1.
-/

namespace Daybook.Calendar

open Daybook.Number

/-- The share of an event's length that has passed at an instant. Times count in whole
milliseconds; an event shorter than one has passed as soon as it has started. -/
def Event.progress (e : Event) (now : Instant) : Binary64 :=
  let length := e.stop.millisSince e.start
  let elapsed := now.millisSince e.start
  if length ≤ 0 then
    if 0 ≤ elapsed then .one else .zero
  else
    ((Binary64.ofInt elapsed).div (Binary64.ofInt length)).clampUnit

end Daybook.Calendar
