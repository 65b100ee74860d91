import Daybook.Text.Entity

/-!
# Entities undone

Which texts are encoded ones, and what they stand for. Reading an entity is the inverse of writing a
significant character (`readEntity?_eq_some_iff`), so decoding a text gives back what was encoded
(`decodeChars_encodeChars`), entities that the text held itself included.

A text is harmless if it holds no angle bracket and no quote, and every `&` in it begins an entity.
Those are the encoded texts and no others (`harmless_iff`). What is left unchanged by encoding are
the texts without significant characters (`encodeChars_eq_self_iff`), for which nothing is written.
-/

namespace Daybook.Text.Entity

/-! ## Significant characters -/

/-- The characters that may not stand for themselves. -/
def significant : List Char :=
  ['&', '<', '>', '"', '\'']

theorem isSignificant_iff {c : Char} : isSignificant c = true ↔ c ∈ significant := by
  simp [isSignificant, significant, or_assoc]

theorem encodeChar_of_not_mem {c : Char} (h : c ∉ significant) : encodeChar c = [c] := by
  unfold encodeChar
  split
  case h_6 => rfl
  all_goals exact absurd (by decide) h

/-- A significant character is written as an `&` and a name, which holds no significant one. -/
theorem exists_name_of_mem {c : Char} (h : c ∈ significant) :
    ∃ name, encodeChar c = '&' :: name ∧ name ≠ [] ∧ ∀ d ∈ name, d ∉ significant := by
  simp only [significant, List.mem_cons, List.not_mem_nil, or_false] at h
  rcases h with rfl | rfl | rfl | rfl | rfl
  · exact ⟨['a', 'm', 'p', ';'], rfl, by decide, by simp [significant]⟩
  · exact ⟨['l', 't', ';'], rfl, by decide, by simp [significant]⟩
  · exact ⟨['g', 't', ';'], rfl, by decide, by simp [significant]⟩
  · exact ⟨['q', 'u', 'o', 't', ';'], rfl, by decide, by simp [significant]⟩
  · exact ⟨['a', 'p', 'o', 's', ';'], rfl, by decide, by simp [significant]⟩

theorem encodeChars_cons (c : Char) (cs : List Char) :
    encodeChars (c :: cs) = encodeChar c ++ encodeChars cs :=
  List.flatMap_cons

theorem encodeChars_append (cs ds : List Char) :
    encodeChars (cs ++ ds) = encodeChars cs ++ encodeChars ds :=
  List.flatMap_append

theorem toList_push (out text : String) :
    (push out text).toList = out.toList ++ encodeChars text.toList := by
  rw [push, String.toList_append, String.toList_ofList]

/-! ## Reading entities -/

/-- The five entities. -/
def entities : List String :=
  ["&amp;", "&lt;", "&gt;", "&quot;", "&apos;"]

/-- Whether an entity is at the front of a text. -/
def BeginsEntity (cs : List Char) : Prop :=
  ∃ entity ∈ entities, entity.toList <+: cs

/-- The entity of a significant character is read as that character, whatever follows. -/
theorem readEntity?_encodeChar {c : Char} (h : c ∈ significant) (rest : List Char) :
    readEntity? (encodeChar c ++ rest) = some (c, rest) := by
  simp only [significant, List.mem_cons, List.not_mem_nil, or_false] at h
  rcases h with rfl | rfl | rfl | rfl | rfl <;> rfl

theorem readEntity?_eq_some_iff {cs rest : List Char} {c : Char} :
    readEntity? cs = some (c, rest) ↔ c ∈ significant ∧ cs = encodeChar c ++ rest := by
  constructor
  · intro h
    unfold readEntity? at h
    split at h
    case h_6 => exact nomatch h
    all_goals
      obtain ⟨rfl, rfl⟩ := Prod.mk.inj (Option.some.inj h)
      exact ⟨by decide, rfl⟩
  · rintro ⟨hc, rfl⟩
    exact readEntity?_encodeChar hc rest

theorem length_of_readEntity? {cs rest : List Char} {c : Char}
    (h : readEntity? cs = some (c, rest)) : rest.length < cs.length := by
  obtain ⟨hc, rfl⟩ := readEntity?_eq_some_iff.mp h
  obtain ⟨name, hname, -, -⟩ := exists_name_of_mem hc
  rw [hname, List.length_append, List.length_cons]
  omega

/-- The entities are what is written for significant characters. -/
theorem entities_eq : entities = significant.map (fun c => String.ofList (encodeChar c)) := rfl

/-- An entity is at the front of a text exactly if one can be read there. -/
theorem beginsEntity_iff {cs : List Char} :
    BeginsEntity cs ↔ ∃ c rest, readEntity? cs = some (c, rest) := by
  simp only [readEntity?_eq_some_iff]
  constructor
  · rintro ⟨entity, hentity, rest, rfl⟩
    obtain ⟨c, hc, rfl⟩ := List.mem_map.mp (entities_eq ▸ hentity)
    exact ⟨c, rest, hc, by rw [String.toList_ofList]⟩
  · rintro ⟨c, rest, hc, rfl⟩
    refine ⟨String.ofList (encodeChar c), entities_eq ▸ List.mem_map_of_mem hc, ?_⟩
    rw [String.toList_ofList]
    exact List.prefix_append _ _

/-! ## Decoding -/

/-- What characters stand for: each entity among them for its character, read from the left, and
every other character for itself, an `&` that begins no entity included. -/
def decodeChars : List Char → List Char
  | [] => []
  | c :: cs =>
    match _h : readEntity? (c :: cs) with
    | some (d, rest) => d :: decodeChars rest
    | none => c :: decodeChars cs
termination_by cs => cs.length
decreasing_by
  · exact length_of_readEntity? _h
  · exact Nat.lt_succ_self _

/-- The text that an encoded one stands for. -/
def decode (text : String) : String :=
  String.ofList (decodeChars text.toList)

theorem decodeChars_of_some {cs rest : List Char} {c : Char}
    (h : readEntity? cs = some (c, rest)) : decodeChars cs = c :: decodeChars rest := by
  cases cs with
  | nil => exact nomatch h
  | cons d cs =>
      rw [decodeChars]
      split
      · rename_i heq
        rw [h] at heq
        obtain ⟨rfl, rfl⟩ := Prod.mk.inj (Option.some.inj heq)
        rfl
      · rename_i heq
        exact nomatch h.symm.trans heq

theorem decodeChars_of_none {c : Char} {cs : List Char} (h : readEntity? (c :: cs) = none) :
    decodeChars (c :: cs) = c :: decodeChars cs := by
  rw [decodeChars]
  split
  · rename_i heq
    exact nomatch h.symm.trans heq
  · rfl

/-- A character that is not significant begins no entity. -/
theorem readEntity?_of_not_mem {c : Char} (h : c ∉ significant) (cs : List Char) :
    readEntity? (c :: cs) = none := by
  rw [Option.eq_none_iff_forall_ne_some]
  rintro ⟨d, rest⟩ hread
  obtain ⟨hd, heq⟩ := readEntity?_eq_some_iff.mp hread
  obtain ⟨name, hname, -, -⟩ := exists_name_of_mem hd
  rw [hname] at heq
  obtain ⟨rfl, -⟩ := List.cons.inj heq
  exact h (by decide)

theorem decodeChars_encodeChar (c : Char) (rest : List Char) :
    decodeChars (encodeChar c ++ rest) = c :: decodeChars rest := by
  by_cases hc : c ∈ significant
  · exact decodeChars_of_some (readEntity?_encodeChar hc rest)
  · rw [encodeChar_of_not_mem hc]
    exact decodeChars_of_none (readEntity?_of_not_mem hc rest)

theorem decodeChars_encodeChars (cs : List Char) : decodeChars (encodeChars cs) = cs := by
  induction cs with
  | nil => rw [encodeChars, List.flatMap_nil, decodeChars]
  | cons c cs ih => rw [encodeChars_cons, decodeChars_encodeChar, ih]

/-! ## Harmless texts -/

/-- Whether nothing in a text can be taken for markup: there is no angle bracket and no quote, and
every `&` begins an entity. -/
structure Harmless (cs : List Char) : Prop where
  unmarked : ∀ c ∈ cs, c ∉ ['<', '>', '"', '\'']
  ampersands : ∀ after, '&' :: after <:+ cs → BeginsEntity ('&' :: after)

theorem harmless_nil : Harmless [] :=
  ⟨nofun, fun _ h => nomatch List.suffix_nil.mp h⟩

theorem Harmless.of_suffix {cs ds : List Char} (h : Harmless cs) (hsuffix : ds <:+ cs) :
    Harmless ds :=
  ⟨fun c hc => h.unmarked c (hsuffix.subset hc),
    fun after hafter => h.ampersands after (hafter.trans hsuffix)⟩

theorem Harmless.cons {c : Char} {cs : List Char} (h : Harmless cs)
    (hc : c ∉ ['<', '>', '"', '\'']) (hamp : c = '&' → BeginsEntity (c :: cs)) :
    Harmless (c :: cs) := by
  refine ⟨List.forall_mem_cons.mpr ⟨hc, h.unmarked⟩, fun after hafter => ?_⟩
  rcases List.suffix_cons_iff.mp hafter with heq | hafter
  · obtain ⟨rfl, rfl⟩ := List.cons.inj heq
    exact hamp rfl
  · exact h.ampersands after hafter

/-- Characters without a significant one do no harm in front of a harmless text. -/
theorem Harmless.append {cs : List Char} (h : Harmless cs) {front : List Char}
    (hfront : ∀ c ∈ front, c ∉ significant) : Harmless (front ++ cs) := by
  induction front with
  | nil => exact h
  | cons c front ih =>
      obtain ⟨hc, hfront⟩ := List.forall_mem_cons.mp hfront
      refine (ih hfront).cons (fun hmem => hc (List.mem_cons_of_mem _ hmem)) ?_
      rintro rfl
      exact absurd (by decide) hc

theorem Harmless.encodeChar_append {cs : List Char} (h : Harmless cs) (c : Char) :
    Harmless (encodeChar c ++ cs) := by
  by_cases hc : c ∈ significant
  · obtain ⟨name, hname, -, hplain⟩ := exists_name_of_mem hc
    have hread := readEntity?_encodeChar hc cs
    rw [hname] at hread ⊢
    exact (h.append hplain).cons (by decide) fun _ => beginsEntity_iff.mpr ⟨c, cs, hread⟩
  · rw [encodeChar_of_not_mem hc]
    exact h.append (List.forall_mem_singleton.mpr hc)

theorem harmless_encodeChars (cs : List Char) : Harmless (encodeChars cs) := by
  induction cs with
  | nil => exact harmless_nil
  | cons c cs ih =>
      rw [encodeChars_cons]
      exact ih.encodeChar_append c

/-- Encoding what a harmless text stands for gives that text. -/
theorem encodeChars_decodeChars {cs : List Char} (h : Harmless cs) :
    encodeChars (decodeChars cs) = cs := by
  fun_induction decodeChars cs with
  | case1 => rfl
  | case2 c cs d rest hread ih =>
      obtain ⟨-, heq⟩ := readEntity?_eq_some_iff.mp hread
      rw [encodeChars_cons, ih (h.of_suffix (heq ▸ List.suffix_append _ _)), heq]
  | case3 c cs hread ih =>
      have hc : c ∉ significant := by
        rw [significant, List.mem_cons, not_or]
        refine ⟨?_, h.unmarked c List.mem_cons_self⟩
        rintro rfl
        obtain ⟨d, rest, hsome⟩ := beginsEntity_iff.mp (h.ampersands cs (List.suffix_refl _))
        exact nomatch hread.symm.trans hsome
      rw [encodeChars_cons, encodeChar_of_not_mem hc, ih (h.of_suffix (List.suffix_cons _ _)),
        List.singleton_append]

/-- The harmless texts are the encoded ones. -/
theorem harmless_iff {cs : List Char} : Harmless cs ↔ ∃ ds, cs = encodeChars ds := by
  constructor
  · exact fun h => ⟨decodeChars cs, (encodeChars_decodeChars h).symm⟩
  · rintro ⟨ds, rfl⟩
    exact harmless_encodeChars ds

/-! ## Texts left as they are -/

theorem length_le_encodeChars (cs : List Char) : cs.length ≤ (encodeChars cs).length := by
  induction cs with
  | nil => exact Nat.le_refl _
  | cons c cs ih =>
      have hpos : 0 < (encodeChar c).length := by
        by_cases hc : c ∈ significant
        · obtain ⟨name, hname, -, -⟩ := exists_name_of_mem hc
          rw [hname]
          exact Nat.succ_pos _
        · rw [encodeChar_of_not_mem hc]
          exact Nat.one_pos
      rw [encodeChars_cons, List.length_append, List.length_cons]
      omega

/-- Encoding changes nothing exactly in texts without significant characters, as an entity is longer
than its character. -/
theorem encodeChars_eq_self_iff {cs : List Char} :
    encodeChars cs = cs ↔ ∀ c ∈ cs, c ∉ significant := by
  induction cs with
  | nil => exact ⟨fun _ => nofun, fun _ => rfl⟩
  | cons c cs ih =>
      rw [encodeChars_cons, List.forall_mem_cons, ← ih]
      by_cases hc : c ∈ significant
      · refine ⟨fun h => ?_, fun h => absurd hc h.1⟩
        obtain ⟨name, hname, hne, -⟩ := exists_name_of_mem hc
        have hlength := congrArg List.length h
        have hle := length_le_encodeChars cs
        have hpos := List.length_pos_iff.mpr hne
        rw [hname, List.length_append, List.length_cons, List.length_cons] at hlength
        omega
      · rw [encodeChar_of_not_mem hc, List.singleton_append, List.cons_inj_right]
        exact ⟨fun h => ⟨hc, h⟩, fun h => h.2⟩

/-! ## Encoded texts -/

theorem toList_push_empty (text : String) : (push "" text).toList = encodeChars text.toList := by
  rw [toList_push, String.toList_empty, List.nil_append]

/-- What is written for a text does not depend on what was written before. -/
theorem push_eq_append (out text : String) : push out text = out ++ push "" text := by
  rw [← String.toList_inj, String.toList_append, toList_push, toList_push_empty]

theorem push_append (out text more : String) :
    push out (text ++ more) = push (push out text) more := by
  rw [← String.toList_inj, toList_push, toList_push, toList_push, String.toList_append,
    encodeChars_append, List.append_assoc]

theorem decode_push_empty (text : String) : decode (push "" text) = text := by
  rw [decode, toList_push_empty, decodeChars_encodeChars, String.ofList_toList]

/-- The quick test looks for the characters that encoding changes. -/
theorem any_isSignificant_eq_false_iff {text : String} :
    text.toList.any isSignificant = false ↔ push "" text = text := by
  rw [← String.toList_inj, toList_push_empty, encodeChars_eq_self_iff, List.any_eq_false]
  simp only [isSignificant_iff]

theorem text_encode (text : String) : (encode text).text = push "" text := by
  unfold encode
  split
  · rfl
  · rename_i hany
    exact (any_isSignificant_eq_false_iff.mp (Bool.eq_false_iff.mpr hany)).symm

theorem isUnchanged_encode_iff {text : String} :
    (encode text).isUnchanged = true ↔ push "" text = text := by
  rw [← any_isSignificant_eq_false_iff]
  unfold encode
  split
  · rename_i hany
    rw [hany]
    exact ⟨nofun, nofun⟩
  · rename_i hany
    exact ⟨fun _ => Bool.eq_false_iff.mpr hany, fun _ => rfl⟩

/-- **Encoding can be undone.** Decoding an encoded text gives the text, whatever entities it held.
The encoded text is harmless: it holds no angle bracket and no quote, and every `&` in it begins one
of the five entities. Texts are encoded piece by piece, behind whatever was written before. The
quick way gives the same text, and leaves it as it is exactly if encoding would not change it. -/
theorem encoding_can_be_undone (text : String) :
    decode (push "" text) = text
      ∧ Harmless (push "" text).toList
      ∧ (∀ out more, push out (text ++ more) = push (push out text) more
          ∧ push out (text ++ more) = out ++ (push "" text ++ push "" more))
      ∧ (encode text).text = push "" text
      ∧ ((encode text).isUnchanged = true ↔ push "" text = text) := by
  have hharmless : Harmless (push "" text).toList :=
    harmless_iff.mpr ⟨text.toList, toList_push_empty text⟩
  refine ⟨decode_push_empty text, hharmless, fun out more => ⟨push_append out text more, ?_⟩,
    text_encode text, isUnchanged_encode_iff⟩
  rw [push_append, push_eq_append (push out text), push_eq_append out text, String.append_assoc]

end Daybook.Text.Entity
