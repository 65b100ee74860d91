import Daybook.Proofs.Calendar.Feeds
import Daybook.Proofs.Shader.Cache
import Daybook.Timetable

/-!
# Which days an event is listed on

A timetable lists an event on the days between the dates of its start and of its end. An event that
ends no earlier than it starts is on the day of its start if the local days of the two are in order,
and otherwise on no day at all. They always are if the local clock is not set back in between; an
event of which it is must last at least as long as the clock is set back to be sure of a day.
-/

namespace Daybook.Timetable

open Daybook.Calendar Daybook.Shader

variable {view : View} {events : List Event} {e : Event}

/-! ## Events of a day -/

theorem count_eventsOn (view : View) (events : List Event) (day : Date) (e : Event) :
    ((make view events).eventsOn day).count e = if isOn day e then events.count e else 0 := by
  have hperm := (List.mergeSort_perm events fun a b => a.start.le b.start).count_eq e
  show ((events.mergeSort fun a b => a.start.le b.start).filter (isOn day)).count e = _
  cases hon : isOn day e with
  | true => rw [List.count_filter hon, hperm, if_pos rfl]
  | false =>
      refine List.count_eq_zero.mpr fun h => ?_
      rw [(List.mem_filter.mp h).2] at hon
      exact nomatch hon

theorem mem_eventsOn_iff {day : Date} (he : e ∈ events) :
    e ∈ (make view events).eventsOn day ↔ isOn day e = true := by
  show e ∈ (events.mergeSort fun a b => a.start.le b.start).filter (isOn day) ↔ _
  rw [List.mem_filter, List.mem_mergeSort]
  exact and_iff_right he

/-- An event that is on any day is on the day of its start. -/
theorem isOn_start_of_isOn {day : Date} (h : isOn day e = true) : isOn e.start.date e = true := by
  unfold isOn Date.le at h ⊢
  simp at h ⊢
  omega

theorem isOn_start_iff : isOn e.start.date e = true ↔ e.start.date.le e.stop.date = true := by
  have hrefl : e.start.date.le e.start.date = true := by simp [Date.le]
  rw [isOn, hrefl, Bool.true_and]

/-! ## Items of a day -/

/-- Whether an item is what a view makes of an event at an instant. -/
def ItemOf (view : View) (now : Instant) (item : ListItem) (e : Event) : Prop :=
  item.progress = e.progress now ∧ ∃ c, item.article = (view.render e c).1

theorem itemsOf_renderItems (view : View) (now : Instant) : ∀ (es : List Event) (c : Cache),
    List.Forall₂ (ItemOf view now) (renderItems view now es c).1 es
  | [], _ => .nil
  | e :: es, c => .cons ⟨rfl, c, rfl⟩ (itemsOf_renderItems view now es (view.render e c).2)

/-! ## Ordered events -/

theorem isOn_start_iff_localDay (h : e.Valid) :
    isOn e.start.date e = true ↔ e.start.localDay ≤ e.stop.localDay :=
  isOn_start_iff.trans (Instant.le_date_iff h.start h.stop)

/-- The local days are in order unless the clock is set back by more than the event lasts. -/
theorem localDay_le_of_length
    (h : e.start.offset - e.stop.offset ≤ e.stop.utcSeconds - e.start.utcSeconds) :
    e.start.localDay ≤ e.stop.localDay :=
  Int.ediv_le_ediv (by decide) (by omega)

/-- **An event is listed on the day of its start unless the clock is set back.** An event of a
timetable that ends no earlier than it starts is on the day of its start exactly if the local days
of start and end are in order; if they are not, it is on no day. They are in order whenever the
local clock at the end is not behind the one at the start by more than the event lasts. The listing
of a day has one item for each of its events, made of that event, and every event stands there as
often as in the timetable. -/
theorem ordered_event_is_listed (view : View) {events : List Event} {e : Event} (he : e ∈ events)
    (hvalid : e.Valid) (hordered : e.isOrdered = true) :
    let t := make view events
    (e ∈ t.eventsOn e.start.date ↔ e.start.localDay ≤ e.stop.localDay)
      ∧ (e ∉ t.eventsOn e.start.date → ∀ day, e ∉ t.eventsOn day)
      ∧ (e.start.offset ≤ e.stop.offset → e ∈ t.eventsOn e.start.date)
      ∧ (e.start.offset - e.stop.offset ≤ e.stop.utcSeconds - e.start.utcSeconds →
        e ∈ t.eventsOn e.start.date)
      ∧ ∀ day now c,
        List.Forall₂ (ItemOf view now) (t.renderDay day now c).1.items (t.eventsOn day)
          ∧ (t.eventsOn day).count e = if isOn day e then events.count e else 0 := by
  intro t
  have hstart : e ∈ t.eventsOn e.start.date ↔ e.start.localDay ≤ e.stop.localDay :=
    (mem_eventsOn_iff he).trans (isOn_start_iff_localDay hvalid)
  have hseconds : e.start.utcSeconds ≤ e.stop.utcSeconds := Instant.utcSeconds_le hordered
  refine ⟨hstart, fun hunlisted day hday => ?_, fun hoffset => ?_, fun hlength => ?_, ?_⟩
  · have hon := isOn_start_of_isOn ((mem_eventsOn_iff he).mp hday)
    exact hunlisted ((mem_eventsOn_iff he).mpr hon)
  · exact hstart.mpr (localDay_le_of_length (by omega))
  · exact hstart.mpr (localDay_le_of_length hlength)
  · exact fun day now c => ⟨itemsOf_renderItems view now _ c, count_eventsOn view events day e⟩

/-! An event of an hour and a half during which the clock is not changed, and one of half an hour
during which it is set back over midnight. -/

private def lectureText : String :=
  "[\x7b\"start\": \"2026-10-18T23:00:00+11:00\", \"end\": \"2026-10-19T00:30:00+11:00\"\x7d]"

private def lecture : Event :=
  .ofTimes ⟨⟨2026, 10, 18⟩, ⟨23, 0, 0, 0⟩, 39600⟩ ⟨⟨2026, 10, 19⟩, ⟨0, 30, 0, 0⟩, 39600⟩

private def nightText : String :=
  "[\x7b\"start\": \"2026-10-19T00:30:00+11:00\", \"end\": \"2026-10-18T14:00:00Z\"\x7d]"

private def night : Event :=
  .ofTimes ⟨⟨2026, 10, 19⟩, ⟨0, 30, 0, 0⟩, 39600⟩ ⟨⟨2026, 10, 18⟩, ⟨14, 0, 0, 0⟩, 0⟩

theorem ordered_event_is_listed_lecture :
    Event.parseList lectureText = .ok [lecture]
      ∧ ∀ view, lecture ∈ (make view [lecture]).eventsOn ⟨2026, 10, 18⟩ := by
  have hparse : Event.parseList lectureText = .ok [lecture] :=
    eq_ok_of_toOption (by decide +kernel)
  obtain ⟨hvalid, hordered⟩ := valid_of_parseList hparse lecture List.mem_cons_self
  refine ⟨hparse, fun view => ?_⟩
  obtain ⟨-, -, hoffset, -⟩ := ordered_event_is_listed view List.mem_cons_self hvalid hordered
  exact hoffset (Int.le_refl _)

theorem not_ordered_event_is_listed :
    Event.parseList nightText = .ok [night]
      ∧ ∀ view day, night ∉ (make view [night]).eventsOn day := by
  have hparse : Event.parseList nightText = .ok [night] :=
    eq_ok_of_toOption (by decide +kernel)
  refine ⟨hparse, fun view day hday => ?_⟩
  have hon := isOn_start_of_isOn ((mem_eventsOn_iff List.mem_cons_self).mp hday)
  exact absurd hon (by decide +kernel)

end Daybook.Timetable
