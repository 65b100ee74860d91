import Daybook.Pattern.Literal

/-!
# Slashes in patterns

A pattern is read from the left as a sequence of pieces: a backslash with the character behind it,
or a character that is no backslash; at the end a backslash may be left with nothing behind it. Each
text has exactly one reading (`text_ofText`, `ofText_text`), however many backslashes stand in a
row.

Unescaping takes the pieces one by one (`unescapeSlashes_append`): it makes an escaped slash a plain
one and keeps every other piece. The pieces that come out are those of the result
(`ofText_unescapeSlashes`), as no piece that is kept or made joins its neighbour. So nothing is left
to be unescaped. A pattern without escaped slashes comes out of the one in which all its slashes are
escaped (`unescapeSlashes_escapeSlashes`).
-/

namespace Daybook.Pattern.Slashes

/-! ## Readings -/

/-- What is read of a pattern at once. -/
inductive Piece where
  | single (c : Char) (plain : c ≠ '\\')
  | pair (c : Char)
deriving DecidableEq, Repr

/-- The text of a piece. -/
def Piece.text : Piece → List Char
  | .single c _ => [c]
  | .pair c => ['\\', c]

/-- The text of some pieces. -/
def textOf (pieces : List Piece) : List Char :=
  pieces.flatMap Piece.text

theorem textOf_cons (piece : Piece) (pieces : List Piece) :
    textOf (piece :: pieces) = piece.text ++ textOf pieces :=
  List.flatMap_cons

/-- A pattern as it is read: its pieces, and whether a backslash is left at the end. -/
structure Reading where
  pieces : List Piece
  isOpen : Bool
deriving DecidableEq, Repr

namespace Reading

/-- What a reading leaves behind its pieces. -/
def rest (r : Reading) : List Char :=
  if r.isOpen then ['\\'] else []

/-- The text of a reading. -/
def text (r : Reading) : List Char :=
  textOf r.pieces ++ r.rest

/-- A reading with a piece in front of it. -/
def cons (piece : Piece) (r : Reading) : Reading :=
  ⟨piece :: r.pieces, r.isOpen⟩

/-- Reads a text from the left. -/
def ofText : List Char → Reading
  | [] => ⟨[], false⟩
  | c :: cs =>
    if h : c = '\\' then
      match cs with
      | [] => ⟨[], true⟩
      | d :: ds => (ofText ds).cons (.pair d)
    else (ofText cs).cons (.single c h)

theorem text_cons (piece : Piece) (r : Reading) : (r.cons piece).text = piece.text ++ r.text := by
  rw [text, text, cons, textOf_cons, List.append_assoc]
  rfl

theorem ofText_cons {c : Char} (plain : c ≠ '\\') (cs : List Char) :
    ofText (c :: cs) = (ofText cs).cons (.single c plain) := by
  rw [ofText.eq_def]
  exact dif_neg plain

theorem ofText_append (piece : Piece) (cs : List Char) :
    ofText (piece.text ++ cs) = (ofText cs).cons piece := by
  cases piece with
  | single c plain => exact ofText_cons plain cs
  | pair c => rfl

/-- The reading of a text is one of that text. -/
theorem text_ofText (cs : List Char) : (ofText cs).text = cs := by
  fun_induction ofText cs with
  | case1 => rfl
  | case2 => rfl
  | case3 d ds ih => rw [text_cons, ih]; rfl
  | case4 c cs plain ih => rw [text_cons, ih]; rfl

/-- A text has no reading but that one. -/
theorem ofText_text (r : Reading) : ofText r.text = r := by
  obtain ⟨pieces, isOpen⟩ := r
  induction pieces with
  | nil => cases isOpen <;> rfl
  | cons piece pieces ih =>
      show ofText (cons piece ⟨pieces, isOpen⟩).text = _
      rw [text_cons, ofText_append, ih]
      rfl

end Reading

open Reading

/-! ## Unescaping -/

/-- A piece with an escaped slash made plain. -/
def Piece.plain : Piece → Piece
  | .pair '/' => .single '/' (by decide)
  | piece => piece

/-- A reading with every escaped slash made plain. -/
def Reading.plain (r : Reading) : Reading :=
  ⟨r.pieces.map Piece.plain, r.isOpen⟩

/-- Whether an escaped slash is read somewhere in a text. -/
def HasSlashPair (cs : List Char) : Prop :=
  .pair '/' ∈ (ofText cs).pieces

instance (cs : List Char) : Decidable (HasSlashPair cs) :=
  inferInstanceAs (Decidable (_ ∈ _))

theorem Piece.plain_of_ne {piece : Piece} (h : piece ≠ .pair '/') : piece.plain = piece := by
  unfold Piece.plain
  split
  · exact absurd rfl h
  · rfl

theorem Piece.plain_ne (piece : Piece) : piece.plain ≠ .pair '/' := by
  by_cases h : piece = .pair '/'
  · rw [h]
    decide
  · rwa [Piece.plain_of_ne h]

theorem Reading.plain_cons (piece : Piece) (r : Reading) :
    (r.cons piece).plain = r.plain.cons piece.plain := rfl

/-- Unescaping goes from piece to piece, with what came out so far in reverse. -/
theorem unescapeOnto_eq (done cs : List Char) :
    unescapeOnto done cs = done.reverse ++ (ofText cs).plain.text := by
  fun_induction unescapeOnto done cs with
  | case1 done => exact (List.append_nil _).symm
  | case2 done rest ih =>
      have hread : ofText ('\\' :: '/' :: rest) = (ofText rest).cons (.pair '/') := rfl
      rw [ih, hread, plain_cons, text_cons, List.reverse_cons, List.append_assoc]
      rfl
  | case3 done c rest hslash ih =>
      have hread : ofText ('\\' :: c :: rest) = (ofText rest).cons (.pair c) := rfl
      have hplain : Piece.plain (.pair c) = .pair c :=
        Piece.plain_of_ne fun h => hslash (Piece.pair.inj h)
      rw [ih, hread, plain_cons, text_cons, hplain, List.reverse_cons, List.reverse_cons,
        List.append_assoc, List.append_assoc]
      rfl
  | case4 done c rest _ hpair ih =>
      by_cases hc : c = '\\'
      · -- no character is left behind the backslash
        cases rest with
        | nil =>
            subst hc
            rw [ih, List.reverse_cons, List.append_assoc]
            rfl
        | cons d rest => exact absurd rfl (hpair d rest hc)
      · have hplain : Piece.plain (.single c hc) = .single c hc := Piece.plain_of_ne nofun
        rw [ih, ofText_cons hc, plain_cons, text_cons, hplain, List.reverse_cons, List.append_assoc]
        rfl

theorem unescapeSlashes_eq (cs : List Char) : unescapeSlashes cs = (ofText cs).plain.text :=
  unescapeOnto_eq [] cs

/-- A piece is unescaped whatever is behind it. -/
theorem unescapeSlashes_append (piece : Piece) (cs : List Char) :
    unescapeSlashes (piece.text ++ cs) = piece.plain.text ++ unescapeSlashes cs := by
  rw [unescapeSlashes_eq, ofText_append, plain_cons, text_cons, ← unescapeSlashes_eq]

theorem unescapeSlashes_textOf_append (pieces : List Piece) (cs : List Char) :
    unescapeSlashes (textOf pieces ++ cs)
      = textOf (pieces.map Piece.plain) ++ unescapeSlashes cs := by
  induction pieces with
  | nil => rfl
  | cons piece pieces ih =>
      rw [textOf_cons, List.append_assoc, unescapeSlashes_append, ih, List.map_cons, textOf_cons,
        List.append_assoc]

/-- A slash behind an escaped backslash is no escaped slash, wherever these pieces stand. -/
theorem unescapeSlashes_backslash_slash (front : List Piece) (behind : List Char) :
    unescapeSlashes (textOf front ++ '\\' :: '\\' :: '/' :: behind)
      = textOf (front.map Piece.plain) ++ '\\' :: '\\' :: '/' :: unescapeSlashes behind := by
  have hbackslash : unescapeSlashes ('\\' :: '\\' :: '/' :: behind)
      = '\\' :: '\\' :: unescapeSlashes ('/' :: behind) :=
    unescapeSlashes_append (.pair '\\') ('/' :: behind)
  have hslash : unescapeSlashes ('/' :: behind) = '/' :: unescapeSlashes behind :=
    unescapeSlashes_append (.single '/' (by decide)) behind
  rw [unescapeSlashes_textOf_append, hbackslash, hslash]

/-! ## What comes out -/

/-- The pieces that come out are read again as they are. -/
theorem ofText_unescapeSlashes (cs : List Char) :
    ofText (unescapeSlashes cs) = (ofText cs).plain := by
  rw [unescapeSlashes_eq, ofText_text]

theorem not_hasSlashPair_unescapeSlashes (cs : List Char) :
    ¬HasSlashPair (unescapeSlashes cs) := by
  rw [HasSlashPair, ofText_unescapeSlashes]
  intro h
  obtain ⟨piece, -, heq⟩ := List.mem_map.mp h
  exact piece.plain_ne heq

theorem Reading.plain_of_not_mem {r : Reading} (h : .pair '/' ∉ r.pieces) : r.plain = r := by
  have hsame : ∀ piece ∈ r.pieces, piece.plain = id piece :=
    fun piece hpiece => Piece.plain_of_ne fun heq => h (heq ▸ hpiece)
  rw [Reading.plain, List.map_congr_left hsame, List.map_id]

theorem unescapeSlashes_eq_self {cs : List Char} (h : ¬HasSlashPair cs) :
    unescapeSlashes cs = cs := by
  rw [unescapeSlashes_eq, Reading.plain_of_not_mem h, text_ofText]

/-! ## Escaping -/

/-- A pattern with a backslash in front of every slash. -/
def escapeSlashes (cs : List Char) : List Char :=
  cs.flatMap (fun c => if c = '/' then ['\\', '/'] else [c])

theorem escapeSlashes_append (cs ds : List Char) :
    escapeSlashes (cs ++ ds) = escapeSlashes cs ++ escapeSlashes ds :=
  List.flatMap_append

/-- A piece other than an escaped slash becomes one piece, which is unescaped to it. -/
theorem exists_escaped {piece : Piece} (h : piece ≠ .pair '/') :
    ∃ escaped : Piece, escapeSlashes piece.text = escaped.text ∧ escaped.plain = piece := by
  cases piece with
  | single c plain =>
      by_cases hc : c = '/'
      · subst hc
        exact ⟨.pair '/', rfl, rfl⟩
      · refine ⟨.single c plain, ?_, Piece.plain_of_ne nofun⟩
        simp [escapeSlashes, Piece.text, hc]
  | pair c =>
      have hc : c ≠ '/' := fun hc => h (congrArg Piece.pair hc)
      refine ⟨.pair c, ?_, Piece.plain_of_ne h⟩
      simp [escapeSlashes, Piece.text, hc]

theorem exists_escaped_pieces {pieces : List Piece} (h : .pair '/' ∉ pieces) :
    ∃ escaped : List Piece, escapeSlashes (textOf pieces) = textOf escaped
      ∧ escaped.map Piece.plain = pieces := by
  induction pieces with
  | nil => exact ⟨[], rfl, rfl⟩
  | cons piece pieces ih =>
      rw [List.mem_cons, not_or] at h
      obtain ⟨first, hfirst, hplain⟩ := exists_escaped (Ne.symm h.1)
      obtain ⟨others, hothers, hplains⟩ := ih h.2
      refine ⟨first :: others, ?_, ?_⟩
      · rw [textOf_cons, escapeSlashes_append, hfirst, hothers, textOf_cons]
      · rw [List.map_cons, hplain, hplains]

theorem unescapeSlashes_escapeSlashes {cs : List Char} (h : ¬HasSlashPair cs) :
    unescapeSlashes (escapeSlashes cs) = cs := by
  obtain ⟨escaped, hescaped, hplain⟩ := exists_escaped_pieces h
  have hrest : unescapeSlashes (escapeSlashes (ofText cs).rest) = (ofText cs).rest := by
    unfold Reading.rest
    split <;> rfl
  calc unescapeSlashes (escapeSlashes cs)
      = unescapeSlashes (escapeSlashes (ofText cs).text) := by rw [text_ofText]
    _ = unescapeSlashes (textOf escaped ++ escapeSlashes (ofText cs).rest) := by
        rw [Reading.text, escapeSlashes_append, hescaped]
    _ = textOf (ofText cs).pieces ++ (ofText cs).rest := by
        rw [unescapeSlashes_textOf_append, hplain, hrest]
    _ = cs := text_ofText cs

/-- **Unescaping respects pairs.** A text is read in one way, as pieces and perhaps a backslash at
the end. Each escaped slash becomes a plain one; every other piece and that backslash stay as they
are, a slash behind an escaped backslash among them. No escaped slash is left, so unescaping once
more changes nothing. In a text without one the slashes can be escaped, and unescaping gives it
back. -/
theorem unescaping_respects_pairs (cs : List Char) :
    ((ofText cs).text = cs ∧ ∀ r : Reading, r.text = cs → r = ofText cs)
      ∧ unescapeSlashes cs = textOf ((ofText cs).pieces.map Piece.plain) ++ (ofText cs).rest
      ∧ (∀ front behind, unescapeSlashes (textOf front ++ '\\' :: '\\' :: '/' :: behind)
          = textOf (front.map Piece.plain) ++ '\\' :: '\\' :: '/' :: unescapeSlashes behind)
      ∧ ¬HasSlashPair (unescapeSlashes cs)
      ∧ unescapeSlashes (unescapeSlashes cs) = unescapeSlashes cs
      ∧ (¬HasSlashPair cs → unescapeSlashes (escapeSlashes cs) = cs) := by
  have hunique : ∀ r : Reading, r.text = cs → r = ofText cs := by
    rintro r rfl
    exact (ofText_text r).symm
  have hnone := not_hasSlashPair_unescapeSlashes cs
  exact ⟨⟨text_ofText cs, hunique⟩, unescapeSlashes_eq cs, unescapeSlashes_backslash_slash, hnone,
    unescapeSlashes_eq_self hnone, unescapeSlashes_escapeSlashes⟩

/-- A slash behind an escaped backslash, another one behind a pair, and a backslash at the end. -/
theorem unescaping_respects_pairs_backslashes :
    ¬HasSlashPair "\\\\/\\w/\\".toList
      ∧ escapeSlashes "\\\\/\\w/\\".toList = "\\\\\\/\\w\\/\\".toList
      ∧ unescapeSlashes (escapeSlashes "\\\\/\\w/\\".toList) = "\\\\/\\w/\\".toList := by
  have hnone : ¬HasSlashPair "\\\\/\\w/\\".toList := by decide +kernel
  obtain ⟨-, -, -, -, -, hback⟩ := unescaping_respects_pairs "\\\\/\\w/\\".toList
  exact ⟨hnone, by decide +kernel, hback hnone⟩

end Daybook.Pattern.Slashes
