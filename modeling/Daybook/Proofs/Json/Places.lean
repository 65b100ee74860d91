import Daybook.Proofs.Json.Numbers
import Daybook.Proofs.Text.Lines

/-!
# Places in a text

A place is in a text if it is where some number of bytes of it end (`Place.In`). Line and column
tell how many: the column counts the bytes of the line that have been read (`Place.In.spec`). A
cursor is in a text if what it has left is an end of the text, and its place is where the rest of it
ends (`Cursor.In`).

A reader stays in a text if, wherever in the text it starts, the cursor it leaves is in the text,
and so is the place of a fault (`Reader.Stays`). The rules for this follow the ways in which readers
are put together.
-/

namespace Daybook.Json

open Daybook.Text

/-! ## Places and lines -/

/-- Where every text begins. -/
def Place.origin : Place :=
  ⟨1, 0⟩

/-- Whether a place is where some bytes of a text end. -/
def Place.In (p : Place) (text : List Char) : Prop :=
  ∃ n, p = Place.origin.advance text n

theorem Place.advance_zero (p : Place) (text : List Char) : p.advance text 0 = p := by
  cases text with
  | nil => rfl
  | cons c cs => rw [advance, if_pos c.utf8Size_pos, Nat.add_zero]

/-- Whole characters are moved over one by one. -/
theorem Place.advance_append (p : Place) (front rest : List Char) (n : Nat) :
    p.advance (front ++ rest) (byteLength front + n) = (front.foldl after p).advance rest n := by
  induction front generalizing p with
  | nil => rw [List.nil_append, byteLength_nil, Nat.zero_add, List.foldl_nil]
  | cons c cs ih =>
      rw [List.cons_append, byteLength_cons, advance, if_neg (by omega), List.foldl_cons, ← ih]
      congr 1
      omega

theorem Place.advance_byteLength (p : Place) (text : List Char) :
    p.advance text (byteLength text) = text.foldl after p := by
  have h := p.advance_append text [] 0
  rwa [List.append_nil, Nat.add_zero] at h

/-- No place is behind the end. -/
theorem Place.advance_of_le {text : List Char} {n : Nat} (h : byteLength text ≤ n) (p : Place) :
    p.advance text n = p.advance text (byteLength text) := by
  obtain ⟨k, rfl⟩ := Nat.exists_eq_add_of_le h
  have hend := p.advance_append text [] k
  rw [List.append_nil] at hend
  rw [hend, advance_byteLength]
  rfl

/-- Moving over bytes of a text passes some lines: the line number goes up by as many, and the
column counts the bytes read of the line behind them. -/
theorem Place.advance_line {text : List Char} {n : Nat} (p : Place) (h : n ≤ byteLength text) :
    ∃ j, (p.advance text n).line = p.line + j ∧
      (p.advance text n).column + lineStart (j + 1) text = n + (if j = 0 then p.column else 0) ∧
      n ≤ lineStart (j + 1) text + byteLength (lineOf (j + 1) text) := by
  induction text generalizing p n with
  | nil =>
      obtain rfl := Nat.le_zero.mp h
      exact ⟨0, rfl, Nat.add_comm _ _, Nat.zero_le _⟩
  | cons c cs ih =>
      rw [byteLength_cons] at h
      rw [advance]
      split
      · -- inside the first character
        rename_i hlt
        have hfirst : c.utf8Size ≤ byteLength (firstLine (c :: cs)) := by
          rw [firstLine]
          split <;> rw [byteLength_cons] <;> exact Nat.le_add_right _ _
        refine ⟨0, rfl, ?_, ?_⟩
        · rw [lineStart_one, if_pos rfl, Nat.add_comm n]
          rfl
        · rw [lineOf_one]
          omega
      · obtain ⟨j, hline, hcolumn, hle⟩ := ih (n := n - c.utf8Size) (p.after c) (by omega)
        by_cases hc : c = '\n'
        · -- the first line is passed
          subst hc
          have hsize : '\n'.utf8Size = 1 := by decide
          have hafter : p.after '\n' = ⟨p.line + 1, 0⟩ := if_pos rfl
          rw [hafter] at hline hcolumn ⊢
          dsimp only at hline hcolumn
          rw [ite_self] at hcolumn
          refine ⟨j + 1, by omega, ?_, ?_⟩
          · rw [lineStart_break, if_neg (by omega)]
            omega
          · rw [lineStart_break, lineOf_break]
            omega
        · have hafter : p.after c = ⟨p.line, p.column + c.utf8Size⟩ := if_neg hc
          rw [hafter] at hline hcolumn ⊢
          dsimp only at hline hcolumn
          refine ⟨j, hline, ?_⟩
          cases j with
          | zero =>
              rw [if_pos rfl, lineStart_one] at hcolumn
              rw [lineStart_one, lineOf_one] at hle
              rw [if_pos rfl, lineStart_one, lineOf_one, firstLine_cons hc, byteLength_cons]
              omega
          | succ j =>
              rw [if_neg (by omega)] at hcolumn ⊢
              rw [lineStart_cons hc, lineOf_cons hc]
              omega

/-- Line and column of a place in a text say how many bytes lie before it. -/
theorem Place.In.spec {p : Place} {text : List Char} (h : p.In text) :
    1 ≤ p.line ∧ p.column ≤ byteLength (lineOf p.line text) ∧
      p = origin.advance text (lineStart p.line text + p.column) := by
  have hbounded : ∃ n, n ≤ byteLength text ∧ p = origin.advance text n := by
    obtain ⟨n, hn⟩ := h
    rcases Nat.le_total n (byteLength text) with hle | hle
    · exact ⟨n, hle, hn⟩
    · exact ⟨byteLength text, Nat.le_refl _, hn.trans (advance_of_le hle origin)⟩
  obtain ⟨n, hle, rfl⟩ := hbounded
  obtain ⟨j, hline, hcolumn, hend⟩ := advance_line origin hle
  have horigin : origin.line = 1 ∧ origin.column = 0 := ⟨rfl, rfl⟩
  rw [horigin.2, ite_self] at hcolumn
  rw [show (origin.advance text n).line = j + 1 by omega]
  refine ⟨by omega, by omega, ?_⟩
  rw [show lineStart (j + 1) text + (origin.advance text n).column = n by omega]

/-! ## Cursors -/

/-- Whether a cursor stands in a text: what it has left is an end of the text, and its place is
where the rest of the text ends. -/
def Cursor.In (c : Cursor) (text : List Char) : Prop :=
  ∃ front, text = front ++ c.rest ∧ c.place = front.foldl Place.after Place.origin

namespace Cursor.In

variable {c : Cursor} {text : List Char}

theorem start (text : List Char) : (Cursor.start text).In text :=
  ⟨[], rfl, rfl⟩

theorem advance (h : c.In text) (n : Nat) : (c.place.advance c.rest n).In text := by
  obtain ⟨front, rfl, hplace⟩ := h
  exact ⟨byteLength front + n, by rw [Place.advance_append, hplace]⟩

theorem place (h : c.In text) : c.place.In text := by
  have hzero := h.advance 0
  rwa [Place.advance_zero] at hzero

theorem nextPlace (h : c.In text) : c.nextPlace.In text :=
  h.advance 1

theorem next (h : c.In text) : c.next.In text := by
  obtain ⟨front, htext, hplace⟩ := h
  unfold Cursor.next
  split
  · exact ⟨front, htext, hplace⟩
  · rename_i x rest hrest
    refine ⟨front ++ [x], ?_, ?_⟩
    · rw [htext, hrest, List.append_assoc]
      rfl
    · rw [List.foldl_append, ← hplace]
      rfl

theorem skipWhile (h : c.In text) (p : Char → Bool) :
    (Cursor.skipWhile p c.rest c.place c.size).In text := by
  obtain ⟨rest, place, size⟩ := c
  dsimp only
  induction rest generalizing place with
  | nil => exact h
  | cons x rest ih =>
      rw [Cursor.skipWhile]
      split
      · exact ih (place.after x) h.next
      · exact h

theorem skipSpace (h : c.In text) : c.skipSpace.In text :=
  h.skipWhile isSpace

theorem pastListEnd (h : c.In text) : c.pastListEnd.In text := by
  unfold Cursor.pastListEnd
  dsimp only
  split
  · exact h.skipSpace.next
  · exact h.skipSpace.next.skipSpace
  · exact h.skipSpace

theorem pastObjectEnd (h : c.In text) : c.pastObjectEnd.In text := by
  unfold Cursor.pastObjectEnd
  dsimp only
  split
  · exact h.skipSpace.next
  · exact h.skipSpace

end Cursor.In

/-! ## Readers -/

/-- Whether an outcome is in a text: the cursor that is left, or the place of the fault. -/
def Outcome.In {α : Type} (o : Outcome α) (text : List Char) : Prop :=
  match o with
  | .done _ behind => behind.In text
  | .refused _ seen => seen.In text
  | .failed fault => fault.place.In text

theorem Outcome.In.ite {α : Type} {p : Prop} [Decidable p] {o o' : Outcome α} {text : List Char}
    (h : o.In text) (h' : o'.In text) : (if p then o else o').In text := by
  split
  · exact h
  · exact h'

/-- Whether a reader that starts in a text stays in it. -/
def Reader.Stays {α : Type} (r : Reader α) : Prop :=
  ∀ text c, c.In text → (r c).In text

namespace Reader.Stays

variable {α β : Type} {r : Reader α} {f : α → Reader β}

theorem done {a : α} : Stays (Reader.done a) :=
  fun _ _ hc => hc

theorem failHere {problem : Problem} : Stays (Reader.failHere problem : Reader α) :=
  fun _ _ hc => hc.place

theorem failNext {problem : Problem} : Stays (Reader.failNext problem : Reader α) :=
  fun _ _ hc => hc.nextPlace

theorem refuse {problem : Problem} : Stays (Reader.refuse problem : Reader α) :=
  fun _ _ hc => hc

theorem peek : Stays Reader.peek :=
  fun _ _ hc => hc

theorem skip : Stays Reader.skip :=
  fun _ _ hc => hc.next

theorem peekSolid : Stays Reader.peekSolid :=
  fun _ _ hc => hc.skipSpace

theorem bind (hr : Stays r) (hf : ∀ a, Stays (f a)) : Stays (r >>= f) := by
  intro text c hc
  have hin := hr text c hc
  show (r.andThen f c).In text
  unfold Reader.andThen
  generalize r c = o at hin
  cases o with
  | done a behind => exact hf a text behind hin
  | refused problem seen => exact hin
  | failed fault => exact hin

theorem skipThen (h : Stays r) : Stays (Reader.skip >>= fun _ => r) :=
  skip.bind fun _ => h

/-- A refusal inside a container is placed behind its end. -/
theorem placing {past : Cursor → Cursor} (h : Stays r)
    (hpast : ∀ {text c}, c.In text → (past c).In text) : Stays (placing past r) := by
  intro text c hc
  have hin := h text c hc
  unfold Json.placing
  generalize r c = o at hin
  cases o with
  | done a behind => exact hin
  | refused problem seen => exact (hpast hin).place
  | failed fault => exact hin

end Reader.Stays

end Daybook.Json
