import Mathlib.Data.List.TakeWhile
import Daybook.Text.Bytes

/-!
# Cutting texts at byte offsets

A text can be cut at a byte offset only if that is a boundary: an offset inside a character, or
behind the end, makes the cut fail (`cutAt?`, `slice?`). The offset of what follows a piece of whole
characters is the size of that piece, and there the cut succeeds (`cutAt?_append`). So whatever
counts characters can count bytes instead, as long as every offset is the size of such a piece.
Often a piece is what comes before the first of some character (`offsetOf?_append`).
-/

namespace Daybook.Text

/-! ## Sizes -/

theorem foldl_utf8Size (n : Nat) (cs : List Char) :
    cs.foldl (fun n c => n + c.utf8Size) n = n + byteLength cs := by
  induction cs generalizing n with
  | nil => rfl
  | cons c cs ih =>
      rw [byteLength, List.foldl_cons, List.foldl_cons, ih, ih (0 + c.utf8Size), Nat.zero_add,
        Nat.add_assoc]

@[simp] theorem byteLength_nil : byteLength [] = 0 := rfl

@[simp] theorem byteLength_cons (c : Char) (cs : List Char) :
    byteLength (c :: cs) = c.utf8Size + byteLength cs := by
  rw [byteLength, List.foldl_cons, foldl_utf8Size, Nat.zero_add]

theorem byteLength_append (front back : List Char) :
    byteLength (front ++ back) = byteLength front + byteLength back := by
  induction front with
  | nil => rw [List.nil_append, byteLength_nil, Nat.zero_add]
  | cons c front ih => rw [List.cons_append, byteLength_cons, byteLength_cons, ih, Nat.add_assoc]

/-! ## Cuts -/

/-- A text cut in two at a byte offset, unless that lies inside a character or behind the end. -/
def cutAt? : List Char → Nat → Option (List Char × List Char)
  | cs, 0 => some ([], cs)
  | [], _ + 1 => none
  | c :: cs, n + 1 =>
    if c.utf8Size ≤ n + 1 then
      (cutAt? cs (n + 1 - c.utf8Size)).map (fun cut => (c :: cut.1, cut.2))
    else none

/-- The piece of a text between two byte offsets, unless they are out of order or one of them is no
boundary. -/
def slice? (cs : List Char) (start stop : Nat) : Option (List Char) :=
  if stop < start then none
  else
    match cutAt? cs start with
    | none => none
    | some cut => (cutAt? cut.2 (stop - start)).map (·.1)

/-- The byte offset of the first of the given characters in a text. -/
def offsetOf? (c : Char) : List Char → Option Nat
  | [] => none
  | d :: ds => if d = c then some 0 else (offsetOf? c ds).map (d.utf8Size + ·)

/-- Behind whole characters a text can be cut. -/
theorem cutAt?_append (front back : List Char) :
    cutAt? (front ++ back) (byteLength front) = some (front, back) := by
  induction front with
  | nil => rw [List.nil_append, byteLength_nil, cutAt?]
  | cons c front ih =>
      obtain ⟨n, hn⟩ : ∃ n, byteLength (c :: front) = n + 1 :=
        Nat.exists_eq_add_one.mpr (by rw [byteLength_cons]; exact Nat.add_pos_left c.utf8Size_pos _)
      have hsize : n + 1 = c.utf8Size + byteLength front := by rw [← hn, byteLength_cons]
      rw [hn, List.cons_append, cutAt?, if_pos (by omega), hsize, Nat.add_sub_cancel_left, ih]
      rfl

theorem cutAt?_take (cs : List Char) (n : Nat) :
    cutAt? cs (byteLength (cs.take n)) = some (cs.take n, cs.drop n) := by
  have hcut := cutAt?_append (cs.take n) (cs.drop n)
  rwa [List.take_append_drop] at hcut

/-- The parts of a text that is cut are the whole text. -/
theorem append_of_cutAt? {cs : List Char} {n : Nat} {cut : List Char × List Char}
    (h : cutAt? cs n = some cut) : cut.1 ++ cut.2 = cs ∧ byteLength cut.1 = n := by
  fun_induction cutAt? cs n generalizing cut with
  | case1 cs =>
      obtain rfl := Option.some.inj h
      exact ⟨rfl, rfl⟩
  | case2 n => exact nomatch h
  | case3 c cs n hfits ih =>
      obtain ⟨rest, hrest, rfl⟩ := Option.map_eq_some_iff.mp h
      obtain ⟨happend, hsize⟩ := ih hrest
      refine ⟨?_, ?_⟩
      · rw [List.cons_append, happend]
      · rw [byteLength_cons, hsize]
        omega
  | case4 c cs n hwide => exact nomatch h

theorem length_of_cutAt? {cs : List Char} {n : Nat} {cut : List Char × List Char}
    (h : cutAt? cs n = some cut) : cut.2.length ≤ cs.length := by
  rw [← (append_of_cutAt? h).1, List.length_append]
  exact Nat.le_add_left _ _

theorem length_lt_of_cutAt? {cs : List Char} {n : Nat} {cut : List Char × List Char}
    (h : cutAt? cs (n + 1) = some cut) : cut.2.length < cs.length := by
  obtain ⟨happend, hsize⟩ := append_of_cutAt? h
  rw [← happend, List.length_append]
  refine Nat.lt_add_of_pos_left (List.length_pos_iff.mpr fun hnil => ?_)
  rw [hnil, byteLength_nil] at hsize
  exact nomatch hsize

theorem slice?_append (front piece back : List Char) :
    slice? (front ++ (piece ++ back)) (byteLength front) (byteLength (front ++ piece))
      = some piece := by
  have hle : byteLength front ≤ byteLength (front ++ piece) := by
    rw [byteLength_append]
    exact Nat.le_add_right _ _
  rw [slice?, if_neg (Nat.not_lt.mpr hle), cutAt?_append]
  dsimp only
  rw [byteLength_append, Nat.add_sub_cancel_left, cutAt?_append]
  rfl

/-! ## Offsets of places -/

/-- The byte offset of a place in a text. -/
def byteOffset (text : List Char) (place : Nat) : Nat :=
  byteLength (text.take place)

@[simp] theorem byteOffset_zero (text : List Char) : byteOffset text 0 = 0 := by
  rw [byteOffset, List.take_zero, byteLength_nil]

@[simp] theorem byteOffset_length (text : List Char) :
    byteOffset text text.length = byteLength text := by
  rw [byteOffset, List.take_length]

theorem byteOffset_succ {text : List Char} {place : Nat} {c : Char} {rest : List Char}
    (h : text.drop place = c :: rest) :
    byteOffset text (place + 1) = byteOffset text place + c.utf8Size := by
  rw [byteOffset, byteOffset, List.take_add, h, List.take_succ_cons, List.take_zero,
    byteLength_append, byteLength_cons, byteLength_nil, Nat.add_zero]

/-- Another place has another offset, in the same order. -/
theorem byteOffset_lt {text : List Char} {place place' : Nat} (hlt : place < place')
    (hlength : place' ≤ text.length) : byteOffset text place < byteOffset text place' := by
  induction place' with
  | zero => exact nomatch hlt
  | succ n ih =>
      obtain ⟨c, rest, hrest⟩ := List.exists_cons_of_ne_nil
        (List.drop_eq_nil_iff.not.mpr (Nat.not_le.mpr hlength))
      rw [byteOffset_succ hrest]
      have hsize := c.utf8Size_pos
      rcases Nat.lt_succ_iff_lt_or_eq.mp hlt with hlt | rfl
      · have hle := ih hlt (Nat.le_of_succ_le hlength)
        omega
      · omega

theorem byteOffset_le {text : List Char} {place : Nat} (h : place ≤ text.length) :
    byteOffset text place ≤ byteLength text := by
  rw [← byteOffset_length]
  rcases Nat.lt_or_eq_of_le h with hlt | rfl
  · exact Nat.le_of_lt (byteOffset_lt hlt (Nat.le_refl _))
  · exact Nat.le_refl _

/-! ## Up to a character -/

theorem takeWhile_bne_of_notMem {c : Char} {cs : List Char} (h : c ∉ cs) :
    cs.takeWhile (· != c) = cs := by
  refine List.takeWhile_eq_self_iff.mpr fun d hd => ?_
  have hne : d ≠ c := fun he => h (he ▸ hd)
  simpa using hne

theorem takeWhile_bne_append {c : Char} {front : List Char} (h : c ∉ front) (back : List Char) :
    (front ++ c :: back).takeWhile (· != c) = front := by
  have hall := List.takeWhile_eq_self_iff.mp (takeWhile_bne_of_notMem h)
  rw [List.takeWhile_append_of_pos hall, List.takeWhile_cons_of_neg (by simp), List.append_nil]

theorem offsetOf?_append {c : Char} {front : List Char} (h : c ∉ front) (back : List Char) :
    offsetOf? c (front ++ c :: back) = some (byteLength front) := by
  induction front with
  | nil => rw [List.nil_append, offsetOf?, if_pos rfl, byteLength_nil]
  | cons d front ih =>
      rw [List.mem_cons, not_or] at h
      rw [List.cons_append, offsetOf?, if_neg (Ne.symm h.1), ih h.2, byteLength_cons]
      rfl

theorem offsetOf?_of_notMem {c : Char} {cs : List Char} (h : c ∉ cs) : offsetOf? c cs = none := by
  induction cs with
  | nil => rfl
  | cons d ds ih =>
      rw [List.mem_cons, not_or] at h
      rw [offsetOf?, if_neg (Ne.symm h.1), ih h.2]
      rfl

end Daybook.Text
