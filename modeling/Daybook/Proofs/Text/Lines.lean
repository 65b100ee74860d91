import Daybook.Proofs.Text.Boundaries

/-!
# Lines

A line of a text ends with a line break, the last one perhaps without. What lies behind the first
line is the text from the second line on, and so on (`fromLine`); a line begins at the byte that is
the size of all that lies before it (`lineStart`).
-/

namespace Daybook.Text

/-- The first line of a text, with its break. -/
def firstLine : List Char → List Char
  | [] => []
  | c :: cs => if c = '\n' then [c] else c :: firstLine cs

/-- What lies behind the first line of a text. -/
def otherLines : List Char → List Char
  | [] => []
  | c :: cs => if c = '\n' then cs else otherLines cs

/-- A text from a line on; lines count from one. -/
def fromLine (line : Nat) (cs : List Char) : List Char :=
  otherLines^[line - 1] cs

/-- A line of a text, with its break; nothing if the text has fewer lines. -/
def lineOf (line : Nat) (cs : List Char) : List Char :=
  firstLine (fromLine line cs)

/-- The byte at which a line of a text begins. -/
def lineStart (line : Nat) (cs : List Char) : Nat :=
  byteLength cs - byteLength (fromLine line cs)

theorem firstLine_append_otherLines (cs : List Char) : firstLine cs ++ otherLines cs = cs := by
  induction cs with
  | nil => rfl
  | cons c cs ih =>
      rw [firstLine, otherLines]
      split
      · rfl
      · rw [List.cons_append, ih]

theorem firstLine_eq_nil {cs : List Char} : firstLine cs = [] ↔ cs = [] := by
  constructor
  · cases cs with
    | nil => exact fun _ => rfl
    | cons c cs =>
        intro h
        rw [firstLine] at h
        split at h <;> exact nomatch h
  · rintro rfl
    rfl

theorem firstLine_break (cs : List Char) : firstLine ('\n' :: cs) = ['\n'] := rfl

theorem otherLines_break (cs : List Char) : otherLines ('\n' :: cs) = cs := rfl

theorem firstLine_cons {c : Char} (h : c ≠ '\n') (cs : List Char) :
    firstLine (c :: cs) = c :: firstLine cs := if_neg h

theorem otherLines_cons {c : Char} (h : c ≠ '\n') (cs : List Char) :
    otherLines (c :: cs) = otherLines cs := if_neg h

theorem fromLine_one (cs : List Char) : fromLine 1 cs = cs := rfl

theorem fromLine_succ_succ (n : Nat) (cs : List Char) :
    fromLine (n + 2) cs = fromLine (n + 1) (otherLines cs) := rfl

theorem lineOf_one (cs : List Char) : lineOf 1 cs = firstLine cs := rfl

theorem lineOf_succ_succ (n : Nat) (cs : List Char) :
    lineOf (n + 2) cs = lineOf (n + 1) (otherLines cs) := rfl

theorem lineStart_one (cs : List Char) : lineStart 1 cs = 0 := Nat.sub_self _

theorem fromLine_nil (line : Nat) : fromLine line [] = [] :=
  Function.iterate_fixed rfl _

/-- A text from a line on begins where that line does. -/
theorem exists_append_fromLine (line : Nat) (cs : List Char) :
    ∃ front, cs = front ++ fromLine line cs ∧ byteLength front = lineStart line cs := by
  have hsplit : ∀ n (cs : List Char), ∃ front, cs = front ++ otherLines^[n] cs := by
    intro n
    induction n with
    | zero => exact fun cs => ⟨[], rfl⟩
    | succ n ih =>
        intro cs
        obtain ⟨front, hfront⟩ := ih (otherLines cs)
        refine ⟨firstLine cs ++ front, ?_⟩
        rw [Function.iterate_succ_apply, List.append_assoc, ← hfront, firstLine_append_otherLines]
  obtain ⟨front, hfront⟩ := hsplit (line - 1) cs
  refine ⟨front, hfront, ?_⟩
  have hsize := congrArg byteLength hfront
  rw [byteLength_append] at hsize
  rw [lineStart, fromLine]
  omega

/-- A text is what lies before a line, that line and what lies behind it. -/
theorem exists_append_lineOf (line : Nat) (cs : List Char) :
    ∃ front back,
      cs = front ++ (lineOf line cs ++ back) ∧ byteLength front = lineStart line cs := by
  obtain ⟨front, hcs, hfront⟩ := exists_append_fromLine line cs
  exact ⟨front, _, by rw [lineOf, firstLine_append_otherLines]; exact hcs, hfront⟩

theorem lineStart_add_fromLine (line : Nat) (cs : List Char) :
    lineStart line cs + byteLength (fromLine line cs) = byteLength cs := by
  obtain ⟨front, hcs, hfront⟩ := exists_append_fromLine line cs
  rw [← hfront, ← byteLength_append, ← hcs]

theorem lineStart_succ_succ (n : Nat) (cs : List Char) :
    lineStart (n + 2) cs = byteLength (firstLine cs) + lineStart (n + 1) (otherLines cs) := by
  have hsize := congrArg byteLength (firstLine_append_otherLines cs)
  have hrest := lineStart_add_fromLine (n + 1) (otherLines cs)
  rw [byteLength_append] at hsize
  rw [lineStart, fromLine_succ_succ]
  omega

/-- A break in front makes the text one line longer. -/
theorem lineStart_break (n : Nat) (cs : List Char) :
    lineStart (n + 2) ('\n' :: cs) = 1 + lineStart (n + 1) cs := by
  rw [lineStart_succ_succ, firstLine_break, otherLines_break]
  rfl

theorem lineOf_break (n : Nat) (cs : List Char) :
    lineOf (n + 2) ('\n' :: cs) = lineOf (n + 1) cs := rfl

/-- Any other character in front makes the first line longer. -/
theorem lineStart_cons {c : Char} (h : c ≠ '\n') (n : Nat) (cs : List Char) :
    lineStart (n + 1 + 1) (c :: cs) = c.utf8Size + lineStart (n + 1 + 1) cs := by
  rw [lineStart_succ_succ, lineStart_succ_succ, firstLine_cons h, otherLines_cons h,
    byteLength_cons, Nat.add_assoc]

theorem lineOf_cons {c : Char} (h : c ≠ '\n') (n : Nat) (cs : List Char) :
    lineOf (n + 1 + 1) (c :: cs) = lineOf (n + 1 + 1) cs := by
  rw [lineOf_succ_succ, lineOf_succ_succ, otherLines_cons h]

theorem lineStart_add_le (line : Nat) (cs : List Char) :
    lineStart line cs + byteLength (lineOf line cs) ≤ byteLength cs := by
  obtain ⟨front, back, hcs, hfront⟩ := exists_append_lineOf line cs
  have hsize := congrArg byteLength hcs
  rw [byteLength_append, byteLength_append, hfront] at hsize
  omega

/-- The bytes of a line are bytes of the text, from where the line begins. -/
theorem getElem?_utf8_lineOf {line : Nat} {cs : List Char} {i : Nat}
    (h : i < byteLength (lineOf line cs)) :
    (utf8 cs)[lineStart line cs + i]? = (utf8 (lineOf line cs))[i]? := by
  obtain ⟨front, back, hcs, hfront⟩ := exists_append_lineOf line cs
  have hpiece := getElem?_utf8_piece front _ back h
  rwa [← hcs, hfront] at hpiece

end Daybook.Text
