import Daybook.Calendar.EventList
import Daybook.Proofs.Calendar.Instants
import Daybook.Proofs.Json.Gives

/-!
# Events of a feed

The events that a text is accepted as have valid times, of which the end is not before the start
(`valid_of_parseList`, `parseList_eq_ok_iff`).
-/

namespace Daybook.Calendar

open Daybook.Json

/-- Whether the times of an event are valid, in order or not. -/
structure Event.Valid (e : Event) : Prop where
  start : e.start.Valid
  stop : e.stop.Valid

/-- Whether the times of a draft, as far as they are there, are valid. -/
structure EventDraft.Valid (d : EventDraft) : Prop where
  start : ∀ i, d.start = some i → i.Valid
  stop : ∀ i, d.stop = some i → i.Valid

theorem gives_readInstant : Reader.Gives readInstant Instant.Valid := by
  refine gives_readTextAs fun text i h => ?_
  cases hparse : Instant.parse text with
  | error e =>
      rw [hparse] at h
      exact nomatch h
  | ok i' =>
      rw [hparse] at h
      obtain rfl := Except.ok.inj h
      exact Instant.valid_of_parse hparse

/-- Every field of an event record keeps times valid: two of them are times, the others are not. -/
theorem gives_eventField : ∀ field ∈ Event.record.fields, ∀ n (d : EventDraft), d.Valid →
    Reader.Gives (field.read n d) EventDraft.Valid := by
  have hother : ∀ {α : Type} (r : Json.Reader α) (f : α → EventDraft) (d : EventDraft),
      (∀ a, (f a).start = d.start ∧ (f a).stop = d.stop) → d.Valid →
        Reader.Gives (do return f (← r)) EventDraft.Valid := by
    intro α r f d hsame hd
    refine .after fun a => .done ⟨?_, ?_⟩
    · rw [(hsame a).1]
      exact hd.start
    · rw [(hsame a).2]
      exact hd.stop
  intro field hfield n d hd
  simp only [Event.record, List.mem_cons, List.not_mem_nil, or_false] at hfield
  rcases hfield with rfl | rfl | rfl | rfl | rfl | rfl | rfl
  · exact hother _ (fun uid => { d with uid := uid }) d (fun _ => ⟨rfl, rfl⟩) hd
  · exact hother _ (fun summary => { d with summary := summary }) d (fun _ => ⟨rfl, rfl⟩) hd
  · exact hother _ (fun text => { d with description := text }) d (fun _ => ⟨rfl, rfl⟩) hd
  · exact hother _ (fun location => { d with location := location }) d (fun _ => ⟨rfl, rfl⟩) hd
  · refine gives_readInstant.bind fun i hi => .done ⟨fun i' hi' => ?_, hd.stop⟩
    exact Option.some.inj hi' ▸ hi
  · refine gives_readInstant.bind fun i hi => .done ⟨hd.start, fun i' hi' => ?_⟩
    exact Option.some.inj hi' ▸ hi
  · exact hother _ (fun duration => { d with duration := duration }) d (fun _ => ⟨rfl, rfl⟩) hd

theorem valid_of_finish {d : EventDraft} {e : Event} (hd : d.Valid) (h : d.finish = .ok e) :
    e.Valid := by
  unfold EventDraft.finish at h
  split at h
  · exact nomatch h
  · exact nomatch h
  · rename_i start stop hstart hstop
    obtain rfl := Except.ok.inj h
    exact ⟨hd.start start hstart, hd.stop stop hstop⟩

theorem gives_readEvents : Reader.Gives readEvents (∀ e ∈ ·, e.Valid) := by
  refine gives_readList fun n _ => ?_
  refine Record.gives_read ?_ (fun field hfield n _ => gives_eventField field hfield n)
    fun d e => valid_of_finish
  exact ⟨fun _ h => (nomatch h), fun _ h => (nomatch h)⟩

theorem check_eq_ok_iff {e : Event} : e.check = .ok () ↔ e.isOrdered = true := by
  unfold Event.check
  cases e.isOrdered <;> simp

/-- The events of a text are accepted as the records that it holds, if each of those is ordered. -/
theorem parseList_eq_ok_iff {text : String} {events : List Event} :
    Event.parseList text = .ok events ↔
      Json.readAll readEvents text.toList = .ok events ∧ ∀ e ∈ events, e.isOrdered = true := by
  unfold Event.parseList
  cases Json.readAll readEvents text.toList with
  | error fault => exact ⟨(nomatch ·), fun h => nomatch h.1⟩
  | ok read =>
      have hbind : (Except.ok read : Except Json.Fault (List Event)).mapError (Error.ofFault text)
          = .ok read := rfl
      rw [hbind, bind_ok_iff]
      constructor
      · rintro ⟨read', hread, h⟩
        obtain rfl := Except.ok.inj hread
        obtain ⟨⟨⟩, hchecked, h⟩ := bind_ok_iff.mp h
        obtain rfl := Except.ok.inj h
        exact ⟨rfl, fun e he => check_eq_ok_iff.mp (forM_ok_iff.mp hchecked e he)⟩
      · rintro ⟨hread, hordered⟩
        obtain rfl := Except.ok.inj hread
        have hchecked : read.forM Event.check = .ok () :=
          forM_ok_iff.mpr fun e he => check_eq_ok_iff.mpr (hordered e he)
        exact ⟨read, rfl, bind_ok_iff.mpr ⟨(), hchecked, rfl⟩⟩

/-- An accepted list has events with valid times in order. -/
theorem valid_of_parseList {text : String} {events : List Event}
    (h : Event.parseList text = .ok events) : ∀ e ∈ events, e.Valid ∧ e.isOrdered = true := by
  obtain ⟨hread, hordered⟩ := parseList_eq_ok_iff.mp h
  exact fun e he => ⟨gives_readEvents.of_readAll hread e he, hordered e he⟩

end Daybook.Calendar
