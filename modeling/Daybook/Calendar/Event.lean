import Daybook.Calendar.Duration
import Daybook.Calendar.Text

/-!
# Events

What a calendar feed tells of one event, and what a view can ask of it.
-/

namespace Daybook.Calendar

/-- A calendar event. The duration is only there if the feed states one. -/
structure Event where
  uid : String
  summary : String
  description : String
  location : String
  start : Instant
  stop : Instant
  statedDuration : Option Duration
deriving DecidableEq, Repr

namespace Event

/-- An event of which only the times are known. -/
def ofTimes (start stop : Instant) : Event :=
  ⟨"", "", "", "", start, stop, none⟩

/-- Whether an event ends no earlier than it starts. -/
def isOrdered (e : Event) : Bool :=
  e.start.le e.stop

/-- The stated duration, or else the time from start to end. -/
def duration (e : Event) : Duration :=
  e.statedDuration.getD (.between e.start e.stop)

/-- The value of a reserved variable. -/
def reserved? (e : Event) (key : String) : Option String :=
  match key with
  | "_event.description" => some e.description
  | "_event.location" => some e.location
  | "_event.summary" => some e.summary
  | "_event.uid" => some e.uid
  | "_event.duration" => some e.duration.text
  | "_event.start" => some e.start.localText
  | "_event.end" => some e.stop.localText
  | _ => none

end Event

end Daybook.Calendar
