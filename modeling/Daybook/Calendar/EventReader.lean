import Daybook.Calendar.Event
import Daybook.Calendar.Reader
import Daybook.Json.Reader

/-!
# Events in JSON

A list of event records. Start and end are required; texts default to empty ones.
-/

namespace Daybook.Calendar

open Daybook.Json

/-- A duration record. -/
def Duration.record : Record Duration where
  title := "struct EventDuration"
  blank := .zero
  fields :=
    [⟨"weeks", fun _ d => do return { d with weeks := ← readCount }, true⟩,
    ⟨"days", fun _ d => do return { d with days := ← readCount }, true⟩,
    ⟨"hours", fun _ d => do return { d with hours := ← readCount }, true⟩,
    ⟨"minutes", fun _ d => do return { d with minutes := ← readCount }, true⟩,
    ⟨"seconds", fun _ d => do return { d with seconds := ← readCount }, true⟩]

/-- An event record whose times may still be missing. -/
structure EventDraft where
  uid : String
  summary : String
  description : String
  location : String
  start : Option Instant
  stop : Option Instant
  duration : Option Duration

/-- An instant inside a record. -/
def readInstant : Json.Reader Instant :=
  readTextAs "an RFC 3339 formatted date and time string"
    (fun text => (Instant.parse text).mapError Unreadable.message)

/-- An event record. -/
def Event.record : Record EventDraft where
  title := "struct CalendarEvent"
  blank := ⟨"", "", "", "", none, none, none⟩
  fields :=
    [⟨"uid", fun _ d => do return { d with uid := ← readText }, true⟩,
    ⟨"summary", fun _ d => do return { d with summary := ← readText }, true⟩,
    ⟨"description", fun _ d => do return { d with description := ← readText }, true⟩,
    ⟨"location", fun _ d => do return { d with location := ← readText }, true⟩,
    ⟨"start", fun _ d => do return { d with start := some (← readInstant) }, false⟩,
    ⟨"end", fun _ d => do return { d with stop := some (← readInstant) }, false⟩,
    ⟨"duration", fun n d => do
      return { d with duration := ← readOption (Duration.record.read .ok n) }, true⟩]

/-- The event of a finished draft. -/
def EventDraft.finish (d : EventDraft) : Except Problem Event :=
  match d.start, d.stop with
  | none, _ => .error (.missingField "start")
  | some _, none => .error (.missingField "end")
  | some start, some stop =>
    .ok ⟨d.uid, d.summary, d.description, d.location, start, stop, d.duration⟩

/-- A list of event records. -/
def readEvents : Json.Reader (List Event) :=
  readList (Event.record.read EventDraft.finish) nestingLimit

end Daybook.Calendar
