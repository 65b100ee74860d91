import Daybook.Proofs.Calendar.Chronology
import Daybook.Proofs.Calendar.Listing
import Daybook.Proofs.StableSort
import Daybook.Proofs.View.Meaning

/-!
# Days as they are listed

The listing of a day is the stable sort, by their starts, of the events that are on it
(`isStableSort_eventsOn`): it does not matter whether events are sorted before or after those of the
day are picked out. If no two of them start at one instant it does not matter either in which order
they were given (`make_of_perm`).

Each item is made of its event alone (`itemAlone`), however many days were rendered before over the
same cache (`renderDays_builtin`).
-/

namespace Daybook.Timetable

open Daybook.Calendar Daybook.Shader

/-! ## The order of events -/

/-- Whether one event starts no later than another. -/
def byStart (a b : Event) : Bool :=
  a.start.le b.start

theorem byStart_total (a b : Event) : (byStart a b || byStart b a) = true :=
  Instant.le_total a.start b.start

theorem byStart_trans (a b c : Event) (hab : byStart a b = true) (hbc : byStart b c = true) :
    byStart a c = true :=
  Instant.le_trans hab hbc

/-- Events are level if they start at one instant. -/
theorem level_byStart_iff {a b : Event} : level byStart a b = true ↔ a.start.Same b.start := by
  rw [level, Bool.and_eq_true, Instant.same_iff_le]
  rfl

variable {view : View} {events : List Event}

theorem isStableSort_events (view : View) (events : List Event) :
    IsStableSort byStart events (make view events).events := by
  show IsStableSort byStart events (events.mergeSort byStart)
  exact isStableSort_mergeSort byStart_total byStart_trans events

theorem isStableSort_eventsOn (view : View) (events : List Event) (day : Date) :
    IsStableSort byStart (events.filter (isOn day)) ((make view events).eventsOn day) :=
  (isStableSort_events view events).filter (isOn day)

/-- Nothing but the listing of a day is a stable sort of its events. -/
theorem isStableSort_iff_eq_eventsOn {day : Date} {listed : List Event} :
    IsStableSort byStart (events.filter (isOn day)) listed
      ↔ listed = (make view events).eventsOn day := by
  constructor
  · exact fun h => h.unique byStart_total (isStableSort_eventsOn view events day)
  · rintro rfl
    exact isStableSort_eventsOn view events day

/-- Events of which no two start at one instant make the same timetable in any order. -/
theorem make_of_perm {events' : List Event} (hperm : events'.Perm events)
    (hdistinct : events.Pairwise (fun a b => ¬a.start.Same b.start)) :
    make view events' = make view events := by
  have hsort := isStableSort_events view events
  have hsort' := isStableSort_events view events'
  have hsymm : Std.Symm (fun a b : Event => ¬a.start.Same b.start) :=
    ⟨fun _ _ hab hba => hab ⟨hba.1.symm, hba.2.symm⟩⟩
  have hsame : ∀ a ∈ events, ∀ b ∈ events, byStart a b = true → byStart b a = true → a = b := by
    intro a ha b hb hab hba
    by_contra hne
    exact hdistinct.forall ha hb hne (Instant.same_iff_le.mpr ⟨hab, hba⟩)
  have hevents : (make view events').events = (make view events).events := by
    refine List.Perm.eq_of_pairwise (fun a b ha hb => ?_) hsort'.ordered hsort.ordered
      (hsort'.perm.trans (hperm.trans hsort.perm.symm))
    exact hsame a ((hsort'.perm.trans hperm).mem_iff.mp ha) b (hsort.perm.mem_iff.mp hb)
  show Timetable.mk view _ = Timetable.mk view _
  exact congrArg (Timetable.mk view) hevents

/-! ## Items -/

/-- The item of an event by itself: its progress, and its article as a view without a past renders
it. -/
def itemAlone (view : View) (now : Instant) (e : Event) : ListItem :=
  ⟨e.progress now, (view.render e .empty).1⟩

/-- The listings of days, one after the other over one cache, each as it is at an instant. -/
def renderDays (t : Timetable) : List (Date × Instant) → Cached (List DayListing)
  | [] => pure []
  | (day, now) :: steps => do
    let listing ← t.renderDay day now
    let listings ← t.renderDays steps
    return listing :: listings

section

variable (hview : view.operators = .builtin)

include hview

theorem renderItems_builtin (now : Instant) : ∀ (es : List Event) {c : Cache},
    c.Sound view.shaders → renderItems view now es c
      = (es.map (itemAlone view now), c.answerAll view.shaders (es.flatMap view.requests))
  | [], _, _ => rfl
  | e :: es, c, hc => by
      have hitem := View.render_builtin hview e hc
      have halone := View.render_builtin hview e (Cache.sound_empty view.shaders)
      have hitems := renderItems_builtin now es (sound_answerAll (view.requests e) hc)
      show (ListItem.mk (e.progress now) (view.render e c).1
        :: (renderItems view now es (view.render e c).2).1,
        (renderItems view now es (view.render e c).2).2) = _
      rw [hitem, hitems, List.map_cons, List.flatMap_cons, answerAll_append, itemAlone, halone]

/-- Over a sound cache the listing of a day has an item for each of its events by itself. -/
theorem renderDay_builtin (events : List Event) (day : Date) (now : Instant) {c : Cache}
    (hc : c.Sound view.shaders) :
    let t := make view events
    t.renderDay day now c
      = (⟨dayHeading day, view.title, (t.eventsOn day).map (itemAlone view now)⟩,
        c.answerAll view.shaders ((t.eventsOn day).flatMap view.requests)) := by
  intro t
  have hitems := renderItems_builtin hview now (t.eventsOn day) hc
  show (DayListing.mk (dayHeading day) view.title
    (renderItems view now (t.eventsOn day) c).1, (renderItems view now (t.eventsOn day) c).2) = _
  rw [hitems]

theorem renderDays_builtin (events : List Event) : ∀ (steps : List (Date × Instant)) {c : Cache},
    c.Sound view.shaders → ((make view events).renderDays steps c).1
      = steps.map (fun step => ⟨dayHeading step.1, view.title,
          ((make view events).eventsOn step.1).map (itemAlone view step.2)⟩)
  | [], _, _ => rfl
  | (day, now) :: steps, c, hc => by
      have hday := renderDay_builtin hview events day now hc
      have hdays := renderDays_builtin events steps
        (sound_answerAll (((make view events).eventsOn day).flatMap view.requests) hc)
      rw [renderDays, cached_cons, hday, List.map_cons]
      exact congrArg (List.cons _) hdays

end

/-! ## All of it -/

/-- **Days are listed stably.** A timetable lists on a day the events with start date ≤ day ≤ end
date, each date in its own offset, each event as often as it was given, in the order of their
starts, and those that start at one instant in the order in which they were given; nothing else is
such a list. Rendering days one after the other gives for each of them one item for each of these
events, as the event has it by itself. If no two events start at one instant, the order in which
they were given makes no difference. -/
theorem days_are_listed_stably {policy : Policy} {limits : Limits} {d : View.Definition}
    {view : View} (h : View.compile policy limits d = .ok view) (events : List Event)
    (steps : List (Date × Instant)) :
    let t := make view events
    (∀ day e, e ∈ t.eventsOn day
        ↔ e ∈ events ∧ e.start.date.le day = true ∧ day.le e.stop.date = true)
      ∧ (∀ day e, (t.eventsOn day).count e = if isOn day e then events.count e else 0)
      ∧ (∀ day, (t.eventsOn day).Pairwise (fun a b => a.start.le b.start = true))
      ∧ (∀ day (start : Instant), (t.eventsOn day).filter (fun e => start.Same e.start)
        = (events.filter (isOn day)).filter (fun e => start.Same e.start))
      ∧ (∀ day listed, IsStableSort byStart (events.filter (isOn day)) listed
        ↔ listed = t.eventsOn day)
      ∧ (t.renderDays steps .empty).1 = steps.map (fun step => ⟨dayHeading step.1, view.title,
        (t.eventsOn step.1).map (itemAlone view step.2)⟩)
      ∧ (events.Pairwise (fun a b => ¬a.start.Same b.start) → ∀ events', events'.Perm events →
        (∀ day, (make view events').eventsOn day = t.eventsOn day)
          ∧ ∀ c, (make view events').renderDays steps c = t.renderDays steps c) := by
  intro t
  have hview := View.operators_of_compile h
  refine ⟨fun day e => ?_, fun day e => count_eventsOn view events day e,
    fun day => (isStableSort_eventsOn view events day).ordered, fun day start => ?_,
    fun day listed => isStableSort_iff_eq_eventsOn,
    renderDays_builtin hview events steps (Cache.sound_empty view.shaders),
    fun hdistinct events' hperm => ?_⟩
  · rw [(isStableSort_eventsOn view events day).perm.mem_iff, List.mem_filter, isOn,
      Bool.and_eq_true]
  · have hclass : level byStart (.ofTimes start start) = fun e => decide (start.Same e.start) :=
      funext fun e => Bool.eq_iff_iff.mpr (level_byStart_iff.trans decide_eq_true_iff.symm)
    rw [← hclass]
    exact (isStableSort_eventsOn view events day).stable (.ofTimes start start)
  · rw [make_of_perm hperm hdistinct]
    exact ⟨fun _ => rfl, fun _ => rfl⟩

/-! Two events of which the later one is written with a clock that is behind: it begins at the same
time of day over there, and ends on the next day. -/

private def morning : Event :=
  View.roomEvent "Room 12" "Lecture"

private def evening : Event :=
  { View.roomEvent "Room 7" "" with
    start := ⟨⟨2026, 10, 19⟩, ⟨9, 0, 0, 0⟩, -18000⟩
    stop := ⟨⟨2026, 10, 20⟩, ⟨0, 30, 0, 0⟩, -18000⟩ }

theorem days_are_listed_stably_rooms :
    View.compile .standard .standard View.roomDefinition = .ok View.roomView
      ∧ [morning, evening].Pairwise (fun a b => ¬a.start.Same b.start)
      ∧ (∀ day, (make View.roomView [evening, morning]).eventsOn day
        = (make View.roomView [morning, evening]).eventsOn day)
      ∧ (make View.roomView [evening, morning]).eventsOn ⟨2026, 10, 20⟩ = [evening]
      ∧ ∀ now, ((make View.roomView [evening, morning]).renderDays
          [(⟨2026, 10, 19⟩, now), (⟨2026, 10, 20⟩, now)] .empty).1[1]?
        = some ⟨"Events - 20/10/2026", View.roomView.title,
          [itemAlone View.roomView now evening]⟩ := by
  have hview : View.compile .standard .standard View.roomDefinition = .ok View.roomView :=
    eq_ok_get View.isSome_compile_room
  have hdistinct : [morning, evening].Pairwise (fun a b => ¬a.start.Same b.start) := by
    decide +kernel
  have hswap : [evening, morning].Perm [morning, evening] := .swap ..
  obtain ⟨-, -, -, -, -, -, hperm⟩ := days_are_listed_stably hview [morning, evening] []
  have hlisted := days_are_listed_stably hview [evening, morning]
  have hon : [evening, morning].filter (isOn ⟨2026, 10, 20⟩) = [evening] := by decide +kernel
  have hday : (make View.roomView [evening, morning]).eventsOn ⟨2026, 10, 20⟩ = [evening] := by
    obtain ⟨-, -, -, -, hsort, -, -⟩ := hlisted []
    have hstable := (hsort ⟨2026, 10, 20⟩ _).mpr rfl
    rw [hon] at hstable
    exact List.perm_singleton.mp hstable.perm
  refine ⟨hview, hdistinct, (hperm hdistinct _ hswap).1, hday, fun now => ?_⟩
  obtain ⟨-, -, -, -, -, hitems, -⟩ := hlisted [(⟨2026, 10, 19⟩, now), (⟨2026, 10, 20⟩, now)]
  have hheading : dayHeading ⟨2026, 10, 20⟩ = "Events - 20/10/2026" := by decide +kernel
  have hitem : ((make View.roomView [evening, morning]).eventsOn ⟨2026, 10, 20⟩).map
      (itemAlone View.roomView now) = [itemAlone View.roomView now evening] := by
    rw [hday, List.map_singleton]
  rw [hitems, ← hheading, ← hitem]
  rfl

end Daybook.Timetable
