import Daybook.Calendar.EventReader
import Daybook.Error

/-!
# Lists of events

The events of a feed as they are handed over: a JSON list of records of which each ends no earlier
than it starts.
-/

namespace Daybook.Calendar

/-- Accepts an event that ends no earlier than it starts. -/
def Event.check (e : Event) : Except Error Unit :=
  if e.isOrdered then .ok () else .error (.reversedEvent e.uid)

/-- The events that a text holds. -/
def Event.parseList (text : String) : Except Error (List Event) := do
  let events ← (Json.readAll readEvents text.toList).mapError (Error.ofFault text)
  events.forM Event.check
  return events

end Daybook.Calendar
