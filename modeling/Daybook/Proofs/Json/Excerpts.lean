import Daybook.Error
import Daybook.Proofs.Text.Lines

/-!
# Excerpts

A fault is shown with a piece of the text around it. The place of the fault, whatever line and
column it names, stands for a byte of the text (`placeOffset_lt`): a byte of the line it names
(`placeOffset_eq`), or one at an end of the text. The piece around that byte begins and ends at
boundaries next to bytes 160 away from it, so it can be cut out, and it holds the byte.

That no cut fails is stated with readers that cut with a check, `around?` and `ofPlace?`.
-/

namespace Daybook.Json

open Daybook.Text

namespace Excerpt

/-! ## The byte of a place -/

theorem findLine_one (offset : Nat) (passed text : List Char) (h : passed ≠ [] ∨ text ≠ []) :
    findLine 1 offset passed text = some (offset, passed.reverse ++ firstLine text) := by
  induction text generalizing passed with
  | nil =>
      have hpassed : passed ≠ [] := h.resolve_right (fun hne => hne rfl)
      rw [findLine, if_pos ⟨rfl, hpassed⟩, firstLine, List.append_nil]
  | cons c cs ih =>
      rw [findLine, firstLine]
      split
      · rw [if_pos rfl, List.reverse_cons]
      · rw [ih (c :: passed) (.inl (List.cons_ne_nil c passed)), List.reverse_cons,
          List.append_assoc]
        rfl

theorem findLine_succ (n offset : Nat) (passed text : List Char) :
    findLine (n + 2) offset passed text =
      findLine (n + 1) (offset + byteLength (passed ++ firstLine text)) [] (otherLines text) := by
  induction text generalizing passed with
  | nil =>
      rw [findLine, if_neg (fun h => absurd h.1 (by omega)), otherLines, findLine,
        if_neg (fun h => h.2 rfl)]
  | cons c cs ih =>
      rw [findLine, firstLine, otherLines]
      split
      · rw [if_neg (by omega), byteLength_append, byteLength_cons, byteLength_cons,
          byteLength_nil]
        congr 2
        omega
      · rw [ih, byteLength_append, byteLength_append, byteLength_cons, byteLength_cons]
        congr 2
        omega

/-- Looking for a line finds it, if the text has it. -/
theorem findLine_eq (n offset : Nat) (text : List Char) :
    findLine (n + 1) offset [] text =
      if fromLine (n + 1) text = [] then none
      else some (offset + lineStart (n + 1) text, lineOf (n + 1) text) := by
  induction n generalizing offset text with
  | zero =>
      rw [fromLine_one]
      split
      · rename_i h
        rw [h, findLine, if_neg (fun h => h.2 rfl)]
      · rename_i h
        rw [findLine_one _ _ _ (.inr h), lineStart_one, lineOf_one]
        rfl
  | succ n ih =>
      rw [findLine_succ, ih, List.nil_append, fromLine_succ_succ, lineStart_succ_succ,
        lineOf_succ_succ, Nat.add_assoc]

theorem placeOffset_eq (text : List Char) (place : Place) :
    placeOffset text place =
      if place.line = 0 ∨ place.column = 0 then 0
      else if fromLine place.line text = [] then byteLength text - 1
      else lineStart place.line text + columnOffset (lineOf place.line text) place.column := by
  rw [placeOffset]
  split
  · rfl
  · rename_i h
    obtain ⟨n, hn⟩ := Nat.exists_eq_add_one_of_ne_zero (not_or.mp h).1
    rw [hn, findLine_eq]
    split
    · rename_i heq
      split at heq
      · exact nomatch heq
      · rename_i hsome
        obtain ⟨rfl, rfl⟩ := Prod.mk.inj (Option.some.inj heq)
        rw [if_neg hsome, Nat.zero_add]
    · rename_i heq
      split at heq
      · rename_i hnone
        rw [if_pos hnone]
      · exact nomatch heq

theorem byteLength_take_lt {cs : List Char} {n : Nat} (h : n < cs.length) :
    byteLength (cs.take n) < byteLength cs := by
  have hsize := congrArg byteLength (List.take_append_drop n cs)
  have hpos := byteLength_pos (List.drop_eq_nil_iff.not.mpr (Nat.not_le.mpr h))
  rw [byteLength_append] at hsize
  omega

theorem columnOffset_lt {line : List Char} (h : line ≠ []) (column : Nat) :
    columnOffset line column < byteLength line := by
  rw [columnOffset]
  split
  · rename_i hlt
    exact byteLength_take_lt hlt
  · exact Nat.sub_lt (byteLength_pos h) Nat.one_pos

/-- A place stands for a byte of the text, if the text has any. -/
theorem placeOffset_lt {text : List Char} (h : text ≠ []) (place : Place) :
    placeOffset text place < byteLength text := by
  have hpos := byteLength_pos h
  rw [placeOffset_eq]
  split
  · exact hpos
  · split
    · exact Nat.sub_lt hpos Nat.one_pos
    · rename_i hline
      have hcolumn := columnOffset_lt (firstLine_eq_nil.not.mpr hline) place.column
      have hle := lineStart_add_le place.line text
      rw [lineOf] at hle ⊢
      omega

theorem placeOffset_nil (place : Place) : placeOffset [] place = 0 := by
  rw [placeOffset_eq, fromLine_nil, if_pos rfl, byteLength_nil, ite_self]

/-! ## The piece around a byte -/

/-- The piece of a text around an offset, unless it cannot be cut out. -/
def around? (text : List Char) (offset : Nat) : Option Excerpt :=
  let size := byteLength text
  let start := floorBoundary 0 text (min (offset - context) size)
  let stop := ceilBoundary 0 text (min (offset + 1 + context) size)
  (slice? text start stop).map fun source =>
    ⟨String.ofList source, offset - start, min 1 (byteLength source - (offset - start))⟩

/-- The excerpt for a fault at a place, unless it cannot be cut out. -/
def ofPlace? (text : String) (place : Place) : Option Excerpt :=
  around? text.toList (placeOffset text.toList place)

/-- Whether an excerpt shows the byte of a text at a position: it is a piece of the text, cut out
at boundaries, which holds that byte, or ends with the text before it, and its span covers as much
of it. -/
structure Shows (e : Excerpt) (text : String) (position : Nat) : Prop where
  piece : ∃ start stop, slice? text.toList start stop = some e.source.toList ∧
    start + e.offset = position ∧ position ≤ stop
  size_le : size e.source ≤ 327
  span_le : e.offset + e.length ≤ size e.source
  length_le_one : e.length ≤ 1
  length_eq_zero_iff : e.length = 0 ↔ e.offset = size e.source
  byte_eq : (utf8 e.source.toList)[e.offset]? = (utf8 text.toList)[position]?

theorem size_ofList (cs : List Char) : size (String.ofList cs) = byteLength cs := by
  rw [size, String.toList_ofList]

theorem shows_piece (front piece back : List Char) {offset : Nat}
    (hstart : byteLength front ≤ offset) (hstop : offset ≤ byteLength (front ++ piece))
    (hsize : byteLength piece ≤ 327)
    (hend : byteLength (front ++ piece) ≤ offset →
      byteLength (front ++ (piece ++ back)) ≤ offset) :
    Shows ⟨String.ofList piece, offset - byteLength front,
      min 1 (byteLength piece - (offset - byteLength front))⟩
      (String.ofList (front ++ (piece ++ back))) offset where
  piece := by
    refine ⟨byteLength front, byteLength (front ++ piece), ?_, by dsimp only; omega, hstop⟩
    rw [String.toList_ofList, String.toList_ofList, slice?_append]
  size_le := by rwa [size_ofList]
  span_le := by
    rw [byteLength_append] at hstop
    dsimp only
    rw [size_ofList]
    omega
  length_le_one := Nat.min_le_left _ _
  length_eq_zero_iff := by
    rw [byteLength_append] at hstop
    dsimp only
    rw [size_ofList]
    omega
  byte_eq := by
    dsimp only
    rw [String.toList_ofList, String.toList_ofList]
    by_cases h : offset < byteLength (front ++ piece)
    · rw [byteLength_append] at h
      rw [← getElem?_utf8_piece front piece back (by omega), Nat.add_sub_cancel' hstart]
    · -- the piece and the text end together, and there is no byte behind them
      have hall := hend (Nat.not_lt.mp h)
      rw [byteLength_append] at h
      rw [List.getElem?_eq_none (by rw [length_utf8]; omega),
        List.getElem?_eq_none (by rw [length_utf8]; exact hall)]

/-- Around every byte of a text its piece can be cut out; and around the start of an empty one. -/
theorem around_shows {text : List Char} {offset : Nat}
    (h : offset < byteLength text ∨ byteLength text = 0 ∧ offset = 0) :
    around? text offset = some (around text offset) ∧
      (around text offset).Shows (String.ofList text) offset := by
  have hcontext : context = 160 := rfl
  have hlow : min (offset - context) (byteLength text) ≤ byteLength text := Nat.min_le_right _ _
  have hhigh : min (offset + 1 + context) (byteLength text) ≤ byteLength text :=
    Nat.min_le_right _ _
  have hlownear := le_floorBoundary_add hlow
  have hhighnear := ceilBoundary_le_add hhigh
  obtain ⟨⟨hfloor, hfloorle⟩, -⟩ := isGreatest_floorBoundary text (min (offset - context) _)
  obtain ⟨⟨hceil, hceille⟩, -⟩ := isLeast_ceilBoundary hhigh
  rw [around?, around]
  generalize floorBoundary 0 text _ = start at *
  generalize ceilBoundary 0 text _ = stop at *
  obtain ⟨front, piece, back, rfl, rfl, rfl⟩ := hfloor.exists_pieces hceil (by omega)
  rw [slice?_append, slice_append]
  refine ⟨rfl, shows_piece front piece back (by omega) (by omega) ?_ (by omega)⟩
  rw [byteLength_append front piece] at hhighnear
  omega

end Excerpt

/-- **Every fault can be shown.** Whatever a text is and whatever line and column a fault names, the
excerpt is cut out at boundaries, and it shows the byte that the place of the fault stands for. -/
theorem faults_are_shown (text : String) (fault : Fault) :
    ∃ excerpt, Excerpt.ofPlace? text fault.place = some excerpt ∧
      Error.ofFault text fault = .json fault excerpt ∧
      excerpt.Shows text (Excerpt.placeOffset text.toList fault.place) := by
  have hwithin : Excerpt.placeOffset text.toList fault.place < byteLength text.toList ∨
      byteLength text.toList = 0 ∧ Excerpt.placeOffset text.toList fault.place = 0 := by
    by_cases h : text.toList = []
    · rw [h]
      exact .inr ⟨byteLength_nil, Excerpt.placeOffset_nil fault.place⟩
    · exact .inl (Excerpt.placeOffset_lt h fault.place)
  obtain ⟨hcut, hshows⟩ := Excerpt.around_shows hwithin
  rw [String.ofList_toList] at hshows
  exact ⟨_, hcut, rfl, hshows⟩

end Daybook.Json
