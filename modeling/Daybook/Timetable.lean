import Daybook.Calendar.Progress
import Daybook.Markup.Html
import Daybook.View.Compiled

/-!
# Timetables

A timetable renders the events of one day through a view, in the order of their starts. Which days
an event is on is told by the dates of its start and its end, each as the local clock there had it.
-/

namespace Daybook

open Daybook.Calendar Daybook.Markup Daybook.Number Daybook.Shader

/-- A view and the events that it renders, ordered by start. -/
structure Timetable where
  view : View
  events : List Event

/-- One event of a day: how far it has come, and its article. -/
structure ListItem where
  progress : Binary64
  article : Article

/-- The events of one day. -/
structure DayListing where
  heading : String
  title : String
  items : List ListItem

namespace Timetable

/-- The timetable of a view and events, of which those with the same start keep their order. -/
def make (view : View) (events : List Event) : Timetable :=
  ⟨view, events.mergeSort (fun a b => a.start.le b.start)⟩

/-- Whether an event is on a day. -/
def isOn (day : Date) (e : Event) : Bool :=
  e.start.date.le day && day.le e.stop.date

/-- The events of a day, in order. -/
def eventsOn (t : Timetable) (day : Date) : List Event :=
  t.events.filter (isOn day)

/-- The heading of a day: day, month and year, each without leading zeros. -/
def dayHeading (day : Date) : String :=
  "Events - " ++ natText day.day ++ "/" ++ natText day.month ++ "/" ++ intText day.year

/-- The items of events, one after the other. -/
def renderItems (view : View) (now : Instant) : List Event → Cached (List ListItem)
  | [] => pure []
  | e :: es => do
    let article ← view.render e
    let items ← renderItems view now es
    return ⟨e.progress now, article⟩ :: items

/-- The listing of a day as it is at an instant. -/
def renderDay (t : Timetable) (day : Date) (now : Instant) : Cached DayListing := do
  let items ← renderItems t.view now (t.eventsOn day)
  return ⟨dayHeading day, t.view.title, items⟩

end Timetable

/-- An item in HTML; its progress has two decimals. -/
def ListItem.toHtml (item : ListItem) : String :=
  "<li style=\"--event-progress: " ++ item.progress.hundredthsText ++ "\">" ++
    item.article.toHtml ++ "</li>"

namespace DayListing

/-- The list of a day's events in HTML. -/
def toHtml (l : DayListing) : String :=
  "<ol id=\"events\">" ++ String.join (l.items.map ListItem.toHtml) ++ "</ol>"

/-- Title, heading and list in HTML. -/
def toFragment (l : DayListing) : String :=
  "<h1 id=\"view-title\">" ++ (Text.Entity.encode l.title).text ++ "</h1>\n" ++
    "<h2 id=\"ttv-events-heading\">" ++ (Text.Entity.encode l.heading).text ++ "</h2>\n" ++
    l.toHtml ++ "\n"

end DayListing

end Daybook
