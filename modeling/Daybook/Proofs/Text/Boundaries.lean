import Mathlib.Order.Bounds.Basic
import Daybook.Proofs.Text.Offsets

/-!
# Boundaries

A boundary lies between whole characters (`IsBoundary`): exactly there a text can be cut
(`isSome_cutAt?`). A character takes four bytes at most, so on both sides of every byte there is a
boundary no more than three bytes away (`exists_isBoundary_near`). Looking from the front of a text,
`floorBoundary` finds the last boundary up to a byte and `ceilBoundary` the first from it on. Two
boundaries part a text in three (`IsBoundary.exists_pieces`), and then `slice` takes the same piece
as the checked `slice?`.

The bytes themselves are those of UTF-8 (`utf8`); a piece of a text has the bytes that the text has
at its place (`getElem?_utf8_piece`).
-/

namespace Daybook.Text

variable {cs : List Char} {n start stop : Nat}

/-! ## Boundaries -/

/-- Whether a byte offset falls between two characters of a text or at an end of it. -/
def IsBoundary (cs : List Char) (n : Nat) : Prop :=
  ∃ front back, cs = front ++ back ∧ byteLength front = n

theorem byteLength_eq_zero : byteLength cs = 0 ↔ cs = [] := by
  constructor
  · cases cs with
    | nil => exact fun _ => rfl
    | cons c cs =>
        intro h
        have hpos := c.utf8Size_pos
        rw [byteLength_cons] at h
        omega
  · rintro rfl
    rfl

theorem byteLength_pos (h : cs ≠ []) : 0 < byteLength cs :=
  Nat.pos_of_ne_zero fun h0 => h (byteLength_eq_zero.mp h0)

theorem length_le_byteLength (cs : List Char) : cs.length ≤ byteLength cs := by
  induction cs with
  | nil => exact Nat.le_refl 0
  | cons c cs ih =>
      have hpos := c.utf8Size_pos
      rw [List.length_cons, byteLength_cons]
      omega

/-- A text has as many bytes as characters if each of them is a single byte. -/
theorem byteLength_eq_length_iff : byteLength cs = cs.length ↔ ∀ c ∈ cs, c.utf8Size = 1 := by
  induction cs with
  | nil => exact iff_of_true rfl (fun _ h => nomatch h)
  | cons c cs ih =>
      have hpos := c.utf8Size_pos
      have hle := length_le_byteLength cs
      rw [List.forall_mem_cons, ← ih, List.length_cons, byteLength_cons]
      omega

theorem isSome_cutAt? : (cutAt? cs n).isSome ↔ IsBoundary cs n := by
  constructor
  · intro h
    obtain ⟨cut, hcut⟩ := Option.isSome_iff_exists.mp h
    obtain ⟨happend, hsize⟩ := append_of_cutAt? hcut
    exact ⟨cut.1, cut.2, happend.symm, hsize⟩
  · rintro ⟨front, back, rfl, rfl⟩
    rw [cutAt?_append]
    rfl

theorem isBoundary_zero : IsBoundary cs 0 :=
  ⟨[], cs, rfl, rfl⟩

theorem IsBoundary.le (h : IsBoundary cs n) : n ≤ byteLength cs := by
  obtain ⟨front, back, rfl, rfl⟩ := h
  rw [byteLength_append]
  exact Nat.le_add_right _ _

/-- A boundary of a text is at its start or behind its first character. -/
theorem isBoundary_cons {c : Char} :
    IsBoundary (c :: cs) n ↔ n = 0 ∨ ∃ m, IsBoundary cs m ∧ n = c.utf8Size + m := by
  constructor
  · rintro ⟨front, back, hcs, rfl⟩
    cases front with
    | nil => exact .inl rfl
    | cons d front =>
        obtain ⟨rfl, rfl⟩ := List.cons_eq_cons.mp hcs
        exact .inr ⟨_, ⟨front, back, rfl, rfl⟩, byteLength_cons _ _⟩
  · rintro (rfl | ⟨m, ⟨front, back, rfl, rfl⟩, rfl⟩)
    · exact isBoundary_zero
    · exact ⟨c :: front, back, rfl, byteLength_cons _ _⟩

/-- Next to every byte there is a boundary on either side, three bytes away at most. -/
theorem exists_isBoundary_near (h : n ≤ byteLength cs) :
    ∃ lo hi, IsBoundary cs lo ∧ IsBoundary cs hi ∧ lo ≤ n ∧ n ≤ lo + 3 ∧ n ≤ hi ∧ hi ≤ n + 3 := by
  induction cs generalizing n with
  | nil =>
      rw [byteLength_nil] at h
      exact ⟨0, 0, isBoundary_zero, isBoundary_zero, by omega⟩
  | cons c cs ih =>
      have hpos := c.utf8Size_pos
      have hle := c.utf8Size_le_four
      rw [byteLength_cons] at h
      have hbehind : ∀ m, IsBoundary cs m → IsBoundary (c :: cs) (c.utf8Size + m) :=
        fun m hm => isBoundary_cons.mpr (.inr ⟨m, hm, rfl⟩)
      by_cases hn : n < c.utf8Size
      · by_cases h0 : n = 0
        · exact ⟨0, 0, isBoundary_zero, isBoundary_zero, by omega⟩
        · exact ⟨0, c.utf8Size + 0, isBoundary_zero, hbehind 0 isBoundary_zero, by omega⟩
      · obtain ⟨lo, hi, hlo, hhi, hnear⟩ := ih (n := n - c.utf8Size) (by omega)
        exact ⟨c.utf8Size + lo, c.utf8Size + hi, hbehind lo hlo, hbehind hi hhi, by omega⟩

/-! ## Looking for boundaries -/

/-- Looking from a boundary `start` on, every boundary up to `n` is passed. -/
theorem floorBoundary_spec (start : Nat) (cs : List Char) (hn : start ≤ n) :
    ∃ b, floorBoundary start cs n = start + b ∧ IsBoundary cs b ∧ start + b ≤ n ∧
      ∀ m, IsBoundary cs m → start + m ≤ n → m ≤ b := by
  induction cs generalizing start with
  | nil => exact ⟨0, rfl, isBoundary_zero, hn, fun m hm _ => hm.le⟩
  | cons c cs ih =>
      rw [floorBoundary]
      split
      · refine ⟨0, rfl, isBoundary_zero, hn, fun m hm hmn => ?_⟩
        rcases isBoundary_cons.mp hm with rfl | ⟨k, -, rfl⟩ <;> omega
      · obtain ⟨b, hb, hbound, hbn, hmax⟩ := ih (start + c.utf8Size) (by omega)
        refine ⟨c.utf8Size + b, by rw [hb, Nat.add_assoc],
          isBoundary_cons.mpr (.inr ⟨b, hbound, rfl⟩), by omega, fun m hm hmn => ?_⟩
        rcases isBoundary_cons.mp hm with rfl | ⟨k, hk, rfl⟩
        · exact Nat.zero_le _
        · exact Nat.add_le_add_left (hmax k hk (by omega)) _

/-- Looking from a boundary `start` on, no boundary from `n` on is passed. -/
theorem ceilBoundary_spec (start : Nat) (cs : List Char) (hn : n ≤ start + byteLength cs) :
    ∃ b, ceilBoundary start cs n = start + b ∧ IsBoundary cs b ∧ n ≤ start + b ∧
      ∀ m, IsBoundary cs m → n ≤ start + m → b ≤ m := by
  induction cs generalizing start with
  | nil => exact ⟨0, rfl, isBoundary_zero, hn, fun m _ _ => Nat.zero_le m⟩
  | cons c cs ih =>
      rw [byteLength_cons] at hn
      rw [ceilBoundary]
      split
      · rename_i hstart
        exact ⟨0, rfl, isBoundary_zero, hstart, fun m _ _ => Nat.zero_le m⟩
      · obtain ⟨b, hb, hbound, hbn, hmin⟩ := ih (start + c.utf8Size) (by omega)
        refine ⟨c.utf8Size + b, by rw [hb, Nat.add_assoc],
          isBoundary_cons.mpr (.inr ⟨b, hbound, rfl⟩), by omega, fun m hm hmn => ?_⟩
        rcases isBoundary_cons.mp hm with rfl | ⟨k, hk, rfl⟩
        · omega
        · exact Nat.add_le_add_left (hmin k hk (by omega)) _

theorem isGreatest_floorBoundary (cs : List Char) (n : Nat) :
    IsGreatest {b | IsBoundary cs b ∧ b ≤ n} (floorBoundary 0 cs n) := by
  obtain ⟨b, hb, hbound, hbn, hmax⟩ := floorBoundary_spec 0 cs (Nat.zero_le n)
  rw [Nat.zero_add] at hb hbn
  rw [hb]
  exact ⟨⟨hbound, hbn⟩, fun m hm => hmax m hm.1 (by rw [Nat.zero_add]; exact hm.2)⟩

theorem isLeast_ceilBoundary (h : n ≤ byteLength cs) :
    IsLeast {b | IsBoundary cs b ∧ n ≤ b} (ceilBoundary 0 cs n) := by
  obtain ⟨b, hb, hbound, hbn, hmin⟩ := ceilBoundary_spec (n := n) 0 cs (by rwa [Nat.zero_add])
  rw [Nat.zero_add] at hb hbn
  rw [hb]
  exact ⟨⟨hbound, hbn⟩, fun m hm => hmin m hm.1 (by rw [Nat.zero_add]; exact hm.2)⟩

theorem le_floorBoundary_add (h : n ≤ byteLength cs) : n ≤ floorBoundary 0 cs n + 3 := by
  obtain ⟨lo, -, hlo, -, hle, hnear, -⟩ := exists_isBoundary_near h
  have := (isGreatest_floorBoundary cs n).2 ⟨hlo, hle⟩
  omega

theorem ceilBoundary_le_add (h : n ≤ byteLength cs) : ceilBoundary 0 cs n ≤ n + 3 := by
  obtain ⟨-, hi, -, hhi, -, -, hle, hnear⟩ := exists_isBoundary_near h
  have := (isLeast_ceilBoundary h).2 ⟨hhi, hle⟩
  omega

/-! ## Pieces between boundaries -/

/-- Two boundaries part a text in three. -/
theorem IsBoundary.exists_pieces (hstart : IsBoundary cs start) (hstop : IsBoundary cs stop)
    (hle : start ≤ stop) : ∃ front piece back,
      cs = front ++ (piece ++ back) ∧ byteLength front = start ∧
        byteLength (front ++ piece) = stop := by
  obtain ⟨front, rest, rfl, rfl⟩ := hstart
  obtain ⟨upto, back, hcs, rfl⟩ := hstop
  rcases List.append_eq_append_iff.mp hcs with ⟨piece, rfl, rfl⟩ | ⟨piece, rfl, rfl⟩
  · exact ⟨front, piece, back, rfl, rfl, rfl⟩
  · rw [byteLength_append] at hle
    obtain rfl : piece = [] := byteLength_eq_zero.mp (by omega)
    exact ⟨upto, [], rest, by rw [List.append_nil]; rfl, by rw [List.append_nil],
      by rw [List.append_nil]⟩

theorem dropBytes_append (front back : List Char) :
    dropBytes (front ++ back) (byteLength front) = back := by
  induction front with
  | nil => cases back <;> rfl
  | cons c front ih =>
      have hpos := c.utf8Size_pos
      rw [byteLength_cons, List.cons_append, dropBytes, if_neg (by omega), Nat.add_sub_cancel_left,
        ih]

theorem takeBytesOnto_append (taken piece back : List Char) :
    takeBytesOnto taken (piece ++ back) (byteLength piece) = piece.reverse ++ taken := by
  induction piece generalizing taken with
  | nil => cases back <;> rfl
  | cons c piece ih =>
      have hpos := c.utf8Size_pos
      rw [byteLength_cons, List.cons_append, takeBytesOnto, if_neg (by omega),
        Nat.add_sub_cancel_left, ih, List.reverse_cons, List.append_assoc]
      rfl

theorem slice_append (front piece back : List Char) :
    slice (front ++ (piece ++ back)) (byteLength front) (byteLength (front ++ piece)) = piece := by
  rw [slice, dropBytes_append, byteLength_append, Nat.add_sub_cancel_left, takeBytes,
    takeBytesOnto_append, List.append_nil, List.reverse_reverse]

/-! ## Bytes -/

/-- The bytes of a text. -/
def utf8 (cs : List Char) : List UInt8 :=
  cs.flatMap String.utf8EncodeChar

theorem utf8_append (front back : List Char) : utf8 (front ++ back) = utf8 front ++ utf8 back :=
  List.flatMap_append

theorem length_utf8 (cs : List Char) : (utf8 cs).length = byteLength cs := by
  induction cs with
  | nil => rfl
  | cons c cs ih =>
      rw [byteLength_cons, ← ih, utf8, List.flatMap_cons, List.length_append,
        String.length_utf8EncodeChar]
      rfl

/-- The bytes are those in which a text is kept. -/
theorem utf8_toList (s : String) : utf8 s.toList = s.toByteArray.data.toList := by
  rw [← String.utf8Encode_toList, List.utf8Encode, List.toList_data_toByteArray]
  rfl

/-- The bytes of a piece are the bytes of the text at its place. -/
theorem getElem?_utf8_piece (front piece back : List Char) {i : Nat} (h : i < byteLength piece) :
    (utf8 (front ++ (piece ++ back)))[byteLength front + i]? = (utf8 piece)[i]? := by
  rw [utf8_append, utf8_append, ← length_utf8 front,
    List.getElem?_append_right (Nat.le_add_right _ _), Nat.add_sub_cancel_left,
    List.getElem?_append_left (by rwa [length_utf8])]

end Daybook.Text
