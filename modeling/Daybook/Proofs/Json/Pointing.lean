import Daybook.Calendar.EventList
import Daybook.Proofs.Failure
import Daybook.Proofs.Json.Excerpts
import Daybook.Proofs.Json.Stays
import Daybook.View.DefinitionText

/-!
# What a fault points at

Reading stops behind a byte, and the place of a fault names it: its column counts the bytes of the
line that have been read (`place_in_of_rejected`). That byte is the one to point at, or the first
one of the line if none of the line has been read (`stopOffset`).

The excerpt counts characters instead of bytes to find it, and at the start of a line it does not
look for the line. It is therefore right exactly where that makes no difference (`Finds`): at the
start of the text, where all that has been read of a line but its last byte is in characters of a
single byte, and at the end of the last line, on whose last byte it falls back.
-/

namespace Daybook.Json

open Daybook.Text

namespace Excerpt

variable {text : List Char} {place : Place}

/-! ## Bytes and characters -/

/-- The byte of a text where reading stopped at a place: the last one read of the line, or the first
one of the line, or the last one of all if there are no more. -/
def stopOffset (text : List Char) (place : Place) : Nat :=
  min (lineStart place.line text + (max place.column 1 - 1)) (byteLength text - 1)

/-- Whether counting characters finds the byte where reading stopped. -/
def Finds (text : List Char) (place : Place) : Prop :=
  if place.column = 0 then place.line = 1 ∨ byteLength text = 1
  else (∀ c ∈ (lineOf place.line text).take (place.column - 1), c.utf8Size = 1) ∨
    place.column = byteLength (lineOf place.line text)

/-- Where the text has the line of a place, that byte is in the line. -/
theorem getElem?_stopOffset (hcolumn : place.column ≤ byteLength (lineOf place.line text))
    (hline : lineOf place.line text ≠ []) :
    (utf8 text)[stopOffset text place]? =
      (utf8 (lineOf place.line text))[max place.column 1 - 1]? := by
  have hpos := byteLength_pos hline
  have hend := lineStart_add_le place.line text
  have hstop : stopOffset text place = lineStart place.line text + (max place.column 1 - 1) :=
    Nat.min_eq_left (by omega)
  rw [hstop, getElem?_utf8_lineOf (by omega)]

theorem columnOffset_eq_iff {line : List Char} {column : Nat} (hpos : 0 < column)
    (hle : column ≤ byteLength line) :
    columnOffset line column = column - 1 ↔
      (∀ c ∈ line.take (column - 1), c.utf8Size = 1) ∨ column = byteLength line := by
  have hlength := length_le_byteLength line
  rw [← byteLength_eq_length_iff, List.length_take, columnOffset]
  split
  · rename_i hlt
    rw [Nat.min_eq_left (Nat.le_of_lt hlt)]
    refine ⟨.inl, fun h => h.elim id fun heq => ?_⟩
    -- the line has no room for a character of several bytes
    have hall : byteLength line = line.length := by omega
    have htake : byteLength (line.take (column - 1)) = (line.take (column - 1)).length :=
      byteLength_eq_length_iff.mpr fun c hc =>
        byteLength_eq_length_iff.mp hall c (List.mem_of_mem_take hc)
    rw [htake, List.length_take]
    omega
  · rename_i hge
    rw [List.take_of_length_le (Nat.not_lt.mp hge)]
    omega

theorem lineStart_eq_zero_iff (htext : text ≠ []) {line : Nat} (hline : 1 ≤ line) :
    lineStart line text = 0 ↔ line = 1 := by
  constructor
  · intro h
    obtain ⟨n, rfl⟩ := Nat.exists_eq_add_of_le' hline
    cases n with
    | zero => rfl
    | succ n =>
        have hfirst := byteLength_pos (firstLine_eq_nil.not.mpr htext)
        rw [lineStart_succ_succ] at h
        omega
  · rintro rfl
    exact lineStart_one text

/-- In a text the excerpt points at the byte where reading stopped exactly if counting characters
finds it. -/
theorem placeOffset_eq_stopOffset_iff (htext : text ≠ []) (hplace : place.In text) :
    placeOffset text place = stopOffset text place ↔ Finds text place := by
  obtain ⟨hline, hcolumn, -⟩ := hplace.spec
  have hsize := byteLength_pos htext
  have hend := lineStart_add_le place.line text
  rw [placeOffset_eq, stopOffset, Finds]
  by_cases hzero : place.column = 0
  · rw [if_pos (.inr hzero), if_pos hzero, ← lineStart_eq_zero_iff htext hline]
    omega
  · have hlineOf : lineOf place.line text ≠ [] := by
      intro h
      rw [h, byteLength_nil] at hcolumn
      exact hzero (Nat.le_zero.mp hcolumn)
    rw [if_neg (by omega), if_neg (firstLine_eq_nil.not.mp hlineOf), if_neg hzero,
      ← columnOffset_eq_iff (Nat.pos_of_ne_zero hzero) hcolumn]
    omega

end Excerpt

end Daybook.Json

/-! ## Texts that are refused -/

namespace Daybook.View

open Daybook.Json

theorem stays_readVariable (allowed : Nat) : (readVariable allowed).Stays := by
  unfold readVariable
  refine (stays_readValue allowed).bind fun value => ?_
  split
  · exact .done
  · exact .done
  · exact .refuse

theorem stays_readReplacement (allowed : Nat) : (readReplacement allowed).Stays :=
  stays_readPair stays_readText stays_readText allowed

theorem Definition.stays_field {field : Json.Field Definition}
    (h : field ∈ Definition.record.fields) (n : Nat) (d : Definition) : (field.read n d).Stays := by
  simp only [Definition.record, List.mem_cons, List.not_mem_nil, or_false] at h
  rcases h with rfl | rfl | rfl | rfl | rfl
  · exact (stays_readOption stays_readText).bind fun _ => .done
  · exact (stays_readMap stays_readVariable n).bind fun _ => .done
  · exact (stays_readMap (stays_readList stays_readReplacement) n).bind fun _ => .done
  · exact (stays_readMap (fun _ => stays_readText) n).bind fun _ => .done
  · exact (stays_readList (stays_readList stays_readValue) n).bind fun _ => .done

end Daybook.View

namespace Daybook.Calendar

open Daybook.Json

theorem stays_readInstant : readInstant.Stays :=
  stays_readTextAs _ _

theorem Duration.stays_field {field : Json.Field Duration} (h : field ∈ Duration.record.fields)
    (n : Nat) (d : Duration) : (field.read n d).Stays := by
  simp only [Duration.record, List.mem_cons, List.not_mem_nil, or_false] at h
  rcases h with rfl | rfl | rfl | rfl | rfl <;> exact stays_readCount.bind fun _ => .done

theorem Event.stays_field {field : Json.Field EventDraft} (h : field ∈ Event.record.fields)
    (n : Nat) (d : EventDraft) : (field.read n d).Stays := by
  have hduration : (readOption (Duration.record.read .ok n)).Stays :=
    stays_readOption (Record.stays_read (fun _ => Duration.stays_field) _ _)
  simp only [Event.record, List.mem_cons, List.not_mem_nil, or_false] at h
  rcases h with rfl | rfl | rfl | rfl | rfl | rfl | rfl
  · exact stays_readText.bind fun _ => .done
  · exact stays_readText.bind fun _ => .done
  · exact stays_readText.bind fun _ => .done
  · exact stays_readText.bind fun _ => .done
  · exact stays_readInstant.bind fun _ => .done
  · exact stays_readInstant.bind fun _ => .done
  · exact hduration.bind fun _ => .done

theorem stays_readEvents : readEvents.Stays :=
  stays_readList (Record.stays_read (fun _ => Event.stays_field) _) _

end Daybook.Calendar

namespace Daybook.Json

open Daybook.Text

/-- Whether a text is refused as the definition of a view or as a list of events, for a fault in its
JSON that is shown with an excerpt. -/
def Rejected (text : String) (fault : Fault) (excerpt : Excerpt) : Prop :=
  (∃ limits, View.Definition.parse limits text = .error (.json fault excerpt)) ∨
    Calendar.Event.parseList text = .error (.json fault excerpt)

variable {text : String} {fault : Fault} {excerpt : Excerpt}

theorem place_in_of_mapError {α : Type} {r : Reader α} (hr : r.Stays)
    (h : (readAll r text.toList).mapError (Error.ofFault text) = .error (.json fault excerpt)) :
    fault.place.In text.toList ∧ excerpt = .ofPlace text fault.place := by
  obtain ⟨fault', hfault, heq⟩ := mapError_error_iff.mp h
  obtain ⟨rfl, rfl⟩ := Error.json.inj heq
  exact ⟨place_in_of_readAll hr hfault, rfl⟩

theorem check_ne_json (e : Calendar.Event) : e.check ≠ .error (.json fault excerpt) := by
  unfold Calendar.Event.check
  split <;> exact nofun

/-- The place of a fault for which a text is refused is in the text, and the excerpt is the one for
that place. -/
theorem place_in_of_rejected (h : Rejected text fault excerpt) :
    fault.place.In text.toList ∧ excerpt = .ofPlace text fault.place := by
  rcases h with ⟨limits, h⟩ | h
  · unfold View.Definition.parse at h
    split at h
    · exact nomatch h
    · exact place_in_of_mapError
        (Record.stays_read (fun _ => View.Definition.stays_field) _ _) h
  · unfold Calendar.Event.parseList at h
    rcases bind_error_iff.mp h with h | ⟨events, -, h⟩
    · exact place_in_of_mapError Calendar.stays_readEvents h
    · -- the events that were read are refused for their times
      rcases bind_error_iff.mp h with h | ⟨_, -, h⟩
      · have hfails : FailsFor (events.forM Calendar.Event.check) _ :=
          .forM fun e _ => failsFor_faultOf e.check
        obtain ⟨e, -, he⟩ := List.mem_flatMap.mp (List.mem_of_head? (hfails.error_iff.mp h))
        cases hcheck : e.check with
        | ok _ =>
            rw [hcheck] at he
            exact nomatch he
        | error error =>
            rw [hcheck] at he
            obtain rfl := List.mem_singleton.mp he
            exact absurd hcheck (check_ne_json e)
      · exact nomatch h

/-- **The excerpt of a refused text points at the byte where reading stopped if counting characters
finds it, and only then.** The place of the fault tells how many bytes lie before it, and the byte
is the one of that column in that line, where the text has the line. -/
theorem stop_is_pointed_at (hne : text ≠ "") (h : Rejected text fault excerpt) :
    1 ≤ fault.place.line ∧
      fault.place = Place.origin.advance text.toList
        (lineStart fault.place.line text.toList + fault.place.column) ∧
      excerpt.Shows text (Excerpt.placeOffset text.toList fault.place) ∧
      (Excerpt.placeOffset text.toList fault.place = Excerpt.stopOffset text.toList fault.place ↔
        Excerpt.Finds text.toList fault.place) ∧
      (Excerpt.Finds text.toList fault.place →
        excerpt.Shows text (Excerpt.stopOffset text.toList fault.place) ∧
        (lineOf fault.place.line text.toList ≠ [] →
          (utf8 excerpt.source.toList)[excerpt.offset]? =
            (utf8 (lineOf fault.place.line text.toList))[max fault.place.column 1 - 1]?)) := by
  obtain ⟨hplace, rfl⟩ := place_in_of_rejected h
  obtain ⟨_, -, heq, hshows⟩ := faults_are_shown text fault
  obtain ⟨-, rfl⟩ := Error.json.inj heq
  obtain ⟨hline, hcolumn, hbytes⟩ := hplace.spec
  have hiff := Excerpt.placeOffset_eq_stopOffset_iff (String.toList_eq_nil_iff.not.mpr hne) hplace
  refine ⟨hline, hbytes, hshows, hiff, fun hfinds => ?_⟩
  have hstop := hiff.mpr hfinds ▸ hshows
  exact ⟨hstop, fun hlineOf => hstop.byte_eq.trans (Excerpt.getElem?_stopOffset hcolumn hlineOf)⟩

/-- The fault for which a text is refused as the definition of a view, with its excerpt. -/
private def refusal? (text : String) : Option (Fault × Excerpt) :=
  match View.Definition.parse .standard text with
  | .error (.json fault excerpt) => some (fault, excerpt)
  | _ => none

private theorem rejected_of_refusal? (h : refusal? text = some (fault, excerpt)) :
    Rejected text fault excerpt := by
  unfold refusal? at h
  split at h
  · rename_i hparse
    obtain ⟨rfl, rfl⟩ := Prod.mk.inj (Option.some.inj h)
    exact .inl ⟨_, hparse⟩
  · exact nomatch h

/-- A colon is missing in the second line, behind characters of a single byte. -/
private def secondLine : String :=
  "[\"é\",\n\x7b\"a\"x\x7d]"

private def secondFault : Fault :=
  ⟨.expectedColon, ⟨2, 5⟩⟩

theorem stop_is_pointed_at_second_line :
    secondLine ≠ "" ∧ Rejected secondLine secondFault ⟨secondLine, 11, 1⟩ ∧
      Excerpt.Shows ⟨secondLine, 11, 1⟩ secondLine 11 := by
  have hne : secondLine ≠ "" := by decide
  have hrejected : Rejected secondLine secondFault ⟨secondLine, 11, 1⟩ :=
    rejected_of_refusal? (by decide +kernel)
  have hfinds : Excerpt.Finds secondLine.toList secondFault.place :=
    .inl (byteLength_eq_length_iff.mp (by decide +kernel))
  have hstop : Excerpt.stopOffset secondLine.toList secondFault.place = 11 := by decide +kernel
  obtain ⟨-, -, -, -, hshows⟩ := stop_is_pointed_at hne hrejected
  exact ⟨hne, hrejected, hstop ▸ (hshows hfinds).1⟩

/-- A comma is missing behind a character of two bytes. -/
private def sameLine : String :=
  "[\"é\"x]"

private def sameFault : Fault :=
  ⟨.expectedListEnd, ⟨1, 6⟩⟩

/-- Counting characters the excerpt may point behind the byte where reading stopped. -/
theorem not_stop_is_pointed_at : ¬ ∀ (text : String) (fault : Fault) (excerpt : Excerpt),
    text ≠ "" → Rejected text fault excerpt →
      excerpt.Shows text (Excerpt.stopOffset text.toList fault.place) := by
  intro hall
  have hrejected : Rejected sameLine sameFault ⟨sameLine, 6, 1⟩ :=
    rejected_of_refusal? (by decide +kernel)
  have hstop : Excerpt.stopOffset sameLine.toList sameFault.place = 5 := by decide +kernel
  obtain ⟨start, stop, -, hposition, -⟩ := (hall _ _ _ (by decide) hrejected).piece
  rw [hstop] at hposition
  dsimp only at hposition
  omega

end Daybook.Json
