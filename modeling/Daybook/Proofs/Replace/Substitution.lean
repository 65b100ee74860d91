import Daybook.Proofs.Pattern.Grammar
import Daybook.Proofs.Pattern.Search
import Daybook.Proofs.Replace.OnePass
import Daybook.Proofs.Replace.Scan

/-!
# Templates expand as in one pass

The parts of a template expand to what one pass over its text gives (`flatMap_partsFrom`). The two
differ in how they go on where there is no reference: parts take the dollar sign alone as plain text
and look at the rest again, one pass goes on behind what it looked at. No dollar sign stands there,
so it makes no difference.

This needs a match that fits what the template was read for (`Fits`): as many groups as the template
was told, names if it was told so, and places inside the text. Every match that the search of a
compiled literal finds fits (`fits_of_search`).
-/

namespace Daybook.Replace

open Daybook.Pattern

/-! ## What references stand for -/

/-- Whether what a template is read for fits the pattern that a match is one of: it knows how many
groups there are and whether they have names, and the match lies inside the text. -/
structure Fits (g : Groups) (names : List (Option String)) (text : List Char) (m : Match) :
    Prop where
  count : g.count = m.groups.length
  hasNames : g.hasNames = names.any Option.isSome
  whole : names.head? = some none
  le_stop : m.whole.start ≤ m.whole.stop
  stop_le : m.whole.stop ≤ text.length

theorem groupText_eq (names : List (Option String)) (text : List Char) (m : Match) {index : Nat}
    (h : 1 ≤ index) : groupText text m index = (Found.ofMatch names text m).captureText index := by
  obtain ⟨i, rfl⟩ := Nat.exists_eq_add_of_le' h
  rw [groupText, Match.group?, Found.captureText, Nat.add_sub_cancel]
  dsimp only [Found.ofMatch]
  rw [List.getElem?_map]
  cases m.groups[i]? with
  | none => rfl
  | some span => cases span <;> rfl

/-- Looking a name up among those there are finds the group that has it first. -/
theorem lookup_named {α : Type} (names : List (Option String)) (groups : List (Option α))
    (name : String) :
    ((names.zip groups).filterMap fun group => group.1.map (·, group.2)).lookup name
      = (names.findIdx? (· == some name)).bind (groups[·]?) := by
  induction names generalizing groups with
  | nil => rfl
  | cons first names ih =>
      cases groups with
      | nil => cases (first :: names).findIdx? (· == some name) <;> rfl
      | cons group groups =>
          rw [List.zip_cons_cons, List.findIdx?_cons]
          cases first with
          | none =>
              rw [List.filterMap_cons_none rfl, ih, if_neg (by simp), Option.bind_map]
              rfl
          | some first =>
              rw [List.filterMap_cons]
              dsimp only [Option.map_some]
              rw [List.lookup_cons]
              by_cases hname : first = name
              · simp [hname]
              · have hne : (name == first) = false := by simpa using Ne.symm hname
                rw [hne, if_neg (by simpa using hname), Option.bind_map]
                exact ih groups

section

variable {g : Groups} {names : List (Option String)} {text : List Char} {m : Match}
  (hfits : Fits g names text m)

include hfits

theorem count_eq_length_captures : g.count = (Found.ofMatch names text m).captures.length := by
  rw [hfits.count]
  exact (List.length_map ..).symm

theorem hasNames_eq_isSome_named :
    g.hasNames = (Found.ofMatch names text m).named.isSome := by
  rw [hfits.hasNames]
  dsimp only [Found.ofMatch]
  cases names.any Option.isSome <;> rfl

theorem expand_back : Part.expand names text m .back
    = text.drop (m.whole.start + (m.whole.of text).length) := by
  have hle := hfits.le_stop
  have hstop := hfits.stop_le
  have hend : m.whole.start + (m.whole.of text).length = m.whole.stop := by
    rw [Span.of, List.length_take, List.length_drop]
    omega
  rw [hend, Part.expand]

theorem expand_named {groups : List (String × Option (List Char))} {name : List Char}
    (h : (Found.ofMatch names text m).named = some groups) :
    Part.expand names text m (.named (String.ofList name)) = Found.namedText groups name := by
  obtain ⟨rest, rfl⟩ := List.head?_eq_some_iff.mp hfits.whole
  dsimp only [Found.ofMatch] at h
  split at h
  · obtain rfl := Option.some.inj h
    rw [Found.namedText, List.tail_cons, lookup_named, Part.expand, List.findIdx?_cons,
      if_neg (by simp)]
    cases rest.findIdx? (· == some (String.ofList name)) with
    | none => rfl
    | some i => exact groupText_eq (none :: rest) text m (Nat.le_add_left 1 i)
  · exact nomatch h

/-- What a reference stands for takes its place. -/
theorem substitute_of_reference {cs : List Char} {part : Part} {size : Nat}
    (h : reference? g cs = some (part, size)) :
    (Found.ofMatch names text m).substitute ('$' :: cs)
      = part.expand names text m ++ (Found.ofMatch names text m).substitute (cs.drop size) := by
  unfold reference? at h
  split at h
  case h_1 rest =>
      obtain ⟨rfl, rfl⟩ := Prod.mk.inj (Option.some.inj h)
      have hnext : (Found.ofMatch names text m).next ('$' :: '&' :: rest)
          = (['$', '&'], m.whole.of text) := rfl
      exact Found.substitute_of_next hnext
  case h_2 rest =>
      obtain ⟨rfl, rfl⟩ := Prod.mk.inj (Option.some.inj h)
      have hnext : (Found.ofMatch names text m).next ('$' :: '\x60' :: rest)
          = (['$', '\x60'], text.take m.whole.start) := rfl
      exact Found.substitute_of_next hnext
  case h_3 rest =>
      obtain ⟨rfl, rfl⟩ := Prod.mk.inj (Option.some.inj h)
      have hnext : (Found.ofMatch names text m).next ('$' :: '\'' :: rest)
          = (['$', '\''], text.drop (m.whole.start + (m.whole.of text).length)) := rfl
      rw [expand_back hfits]
      exact Found.substitute_of_next hnext
  case h_4 rest =>
      obtain ⟨⟨name', size'⟩, hbracketed, heq⟩ := Option.map_eq_some_iff.mp h
      obtain ⟨rfl, rfl⟩ := Prod.mk.inj heq
      rcases Found.byName_cases (hasNames_eq_isSome_named hfits) rest with
        ⟨groups, name, tail, hnamed, rfl, hname, hspec⟩ | ⟨hnone, -⟩
      · obtain ⟨rfl, rfl⟩ := Prod.mk.inj (Option.some.inj (hname.symm.trans hbracketed))
        have hnext : (Found.ofMatch names text m).next ('$' :: '<' :: (name ++ '>' :: tail))
            = ('$' :: '<' :: (name ++ ['>']), Found.namedText groups name) := hspec
        have hlength : ('<' :: (name ++ ['>'])).length = name.length + 2 := by simp
        rw [Found.substitute_of_next hnext, hlength, expand_named hfits hnamed]
      · exact nomatch hnone.symm.trans hbracketed
  case h_5 =>
      obtain ⟨⟨index, size'⟩, hnumbered, heq⟩ := Option.map_eq_some_iff.mp h
      obtain ⟨rfl, rfl⟩ := Prod.mk.inj heq
      rcases next_digit_cases cs with hnone | ⟨c, rest, rfl, hc⟩
      · exact nomatch (numbered?_none hnone).symm.trans hnumbered
      have hcount := count_eq_length_captures hfits
      obtain ⟨digits, tail, -, -, hspec, hnumber⟩ := Found.byNumber_cases hcount hc rest
      rw [hnumbered] at hnumber
      by_cases hhas : g.has (Nat.ofDigitChars 10 digits 0) = true
      · rw [if_pos hhas] at hnumber
        obtain ⟨rfl, rfl⟩ := Prod.mk.inj (Option.some.inj hnumber)
        have hindex := ((Found.has_iff hcount _).mp hhas).1
        rw [Found.byDigits_of_has hcount hhas, ← Found.next_digit hc] at hspec
        rw [Found.substitute_of_next hspec, Part.expand, groupText_eq names text m hindex]
      · rw [if_neg hhas] at hnumber
        exact nomatch hnumber

/-- A dollar sign that begins no reference stands for itself. -/
theorem substitute_of_no_reference {cs : List Char} (hdollar : cs.head? ≠ some '$')
    (h : reference? g cs = none) :
    (Found.ofMatch names text m).substitute ('$' :: cs)
      = '$' :: (Found.ofMatch names text m).substitute cs := by
  unfold reference? at h
  split at h
  case h_1 => exact nomatch h
  case h_2 => exact nomatch h
  case h_3 => exact nomatch h
  case h_4 rest =>
      rw [Option.map_eq_none_iff] at h
      rcases Found.byName_cases (hasNames_eq_isSome_named hfits) rest with
        ⟨groups, name, tail, -, rfl, hname, -⟩ | ⟨-, hspec⟩
      · exact nomatch hname.symm.trans h
      · have hopen : '$' ∉ ['<'] := by decide
        exact Found.substitute_literal hopen hspec
  case h_5 hmark hfront hback hbracket =>
      rw [Option.map_eq_none_iff] at h
      rcases next_digit_cases cs with hnone | ⟨c, rest, rfl, hc⟩
      · have hnext : (Found.ofMatch names text m).next ('$' :: cs) = (['$'], ['$']) := by
          refine Found.next_other fun c hc => ⟨hnone c hc, fun hmem => ?_⟩
          obtain ⟨rest, rfl⟩ := List.head?_eq_some_iff.mp hc
          simp only [List.mem_cons, List.not_mem_nil, or_false] at hmem
          rcases hmem with rfl | rfl | rfl | rfl | rfl
          · exact hdollar rfl
          · exact hfront rest rfl
          · exact hmark rest rfl
          · exact hback rest rfl
          · exact hbracket rest rfl
        exact Found.substitute_of_next hnext
      have hcount := count_eq_length_captures hfits
      obtain ⟨digits, tail, hcs, hdigits, hspec, hnumber⟩ := Found.byNumber_cases hcount hc rest
      rw [h] at hnumber
      by_cases hhas : g.has (Nat.ofDigitChars 10 digits 0) = true
      · rw [if_pos hhas] at hnumber
        exact absurd hnumber.symm (Option.some_ne_none _)
      · rw [Found.byDigits_of_not_has hcount hhas, ← Found.next_digit hc] at hspec
        rw [hcs] at hspec ⊢
        exact Found.substitute_literal hdigits hspec

/-- The parts of a template expand to what one pass over it gives. -/
theorem flatMap_partsFrom (plain cs : List Char) :
    (partsFrom g plain cs).flatMap (Part.expand names text m)
      = plain.reverse ++ (Found.ofMatch names text m).substitute cs := by
  have hwith : ∀ plain parts, (withPlain plain parts).flatMap (Part.expand names text m)
      = plain.reverse ++ parts.flatMap (Part.expand names text m) := by
    intro plain parts
    unfold withPlain
    split
    · rename_i hplain
      rw [List.isEmpty_iff.mp hplain, List.reverse_nil, List.nil_append]
    · rfl
  fun_induction partsFrom g plain cs with
  | case1 plain => rw [hwith, Found.substitute, List.flatMap_nil]
  | case2 plain cs hdouble ih =>
      obtain ⟨rest, rfl⟩ := List.head?_eq_some_iff.mp hdouble
      have hnext : (Found.ofMatch names text m).next ('$' :: '$' :: rest) = (['$', '$'], ['$']) :=
        rfl
      rw [ih, Found.substitute_of_next hnext, List.reverse_cons, List.append_assoc]
      rfl
  | case3 plain cs hdouble part size href ih =>
      rw [hwith, List.flatMap_cons, ih, substitute_of_reference hfits href]
      rfl
  | case4 plain cs hdouble href ih =>
      rw [ih, substitute_of_no_reference hfits hdouble href, List.reverse_cons, List.append_assoc]
      rfl
  | case5 plain c cs hc ih =>
      rw [ih, Found.substitute_cons hc, List.reverse_cons, List.append_assoc]
      rfl

end

/-! ## Compiled literals -/

theorem length_groups_of_matchAt? {p : Program} {before : Option Char} {place : Nat}
    {rest : List Char} {m : Match} (h : p.matchAt? before place rest = some m) :
    m.groups.length = p.groups := by
  obtain ⟨slots, -, hslots⟩ := Option.bind_eq_some_iff.mp h
  unfold Match.ofSlots? at hslots
  extract_lets span at hslots
  obtain ⟨whole, -, rfl⟩ := Option.map_eq_some_iff.mp hslots
  rw [List.length_map, List.length_range]

theorem head?_names_of_compile {flags : Flags} {size : Nat} {pattern : List Char} {c : Compiled}
    (h : compile flags size pattern = .ok c) : c.names.head? = some none := by
  unfold compile at h
  split at h
  · exact nomatch h
  · split at h
    · exact nomatch h
    · obtain rfl := Except.ok.inj h
      rfl

/-- What a template is read for fits all matches of its pattern. -/
theorem fits_of_search {limits : Limits} {literal : String} {l : Literal}
    (h : Literal.parse limits literal = .ok l) {text : List Char} {place : Nat} {m : Match}
    (hm : l.compiled.program.search? text place = some m) :
    Fits (.ofCompiled l.compiled) l.compiled.names text m := by
  have hplace : place ≤ text.length := by
    rw [Program.search?] at hm
    split at hm
    · exact nomatch hm
    · rename_i hle
      exact Nat.not_lt.mp hle
  have hsearch := Literal.leftmostSearch h text
  have hwithin := hsearch.within_of_found hplace hm
  obtain ⟨-, -, hhere, -⟩ := hsearch.found place m hplace hm
  obtain ⟨pattern, letters, c, haccepted, rfl⟩ := Literal.parse_ok_iff.mp h
  exact {
    count := (length_groups_of_matchAt? hhere).symm
    hasNames := rfl
    whole := head?_names_of_compile haccepted.compiles
    le_stop := hwithin.le_stop
    stop_le := hwithin.stop_le }

/-- **Templates are substituted in one pass.** A template that is read for a literal expands, at
every match of the literal, to what one pass over its text gives: marks, numbers and names stand for
texts of the match, and all else for itself. Its parts hold no empty text and no two texts side by
side; they can be read by byte offsets, and no cut is ever made inside a character. -/
theorem expand_eq_substitute {limits : Limits} {literal : String} {l : Literal}
    (h : Literal.parse limits literal = .ok l) (template : String) :
    let t := Template.parse (.ofCompiled l.compiled) template
    (∀ (text : List Char) (place : Nat) (m : Match),
        l.compiled.program.search? text place = some m →
          t.expand l.compiled.names text m
            = (Found.ofMatch l.compiled.names text m).substitute template.toList)
      ∧ Tidy t.parts
      ∧ scan? (.ofCompiled l.compiled) [] template.toList = some t.parts := by
  refine ⟨fun text place m hm => ?_, tidy_partsFrom _ _ _, scan?_eq_partsFrom _ _ _⟩
  exact flatMap_partsFrom (fits_of_search h hm) [] template.toList

/-- Two groups, of which the first has a name and the second may take no part. -/
private def digitAndMark : String :=
  "/(?<_>[0-9])-(x)?/"

/-- References of all kinds but one, and dollar signs that begin none. -/
private def manyReferences : String :=
  "$$1=$<_>$2|$'$03$<x>$12$&$é"

private theorem isSome_parse_digitAndMark :
    (Literal.parse .standard digitAndMark).toOption.isSome := by
  decide +kernel

private def digitAndMarkLiteral : Literal :=
  (Literal.parse .standard digitAndMark).toOption.get isSome_parse_digitAndMark

/-- An unknown name and a group that took no part are empty, two digits that are no group's number
are read as one. -/
theorem expand_digitAndMark :
    ∃ l m, Literal.parse .standard digitAndMark = .ok l
      ∧ l.compiled.program.search? "a7-b".toList 0 = some m
      ∧ (Template.parse (.ofCompiled l.compiled) manyReferences).expand l.compiled.names
          "a7-b".toList m = "$1=7|b$03727-$é".toList
      ∧ (Found.ofMatch l.compiled.names "a7-b".toList m).substitute manyReferences.toList
          = "$1=7|b$03727-$é".toList := by
  have hl : Literal.parse .standard digitAndMark = .ok digitAndMarkLiteral :=
    eq_ok_get isSome_parse_digitAndMark
  have hm : digitAndMarkLiteral.compiled.program.search? "a7-b".toList 0
      = some ⟨⟨1, 3⟩, [some ⟨1, 2⟩, none]⟩ := by
    decide +kernel
  have hexpand := (expand_eq_substitute hl manyReferences).1 _ 0 _ hm
  have hresult : (Template.parse (.ofCompiled digitAndMarkLiteral.compiled) manyReferences).expand
      digitAndMarkLiteral.compiled.names "a7-b".toList ⟨⟨1, 3⟩, [some ⟨1, 2⟩, none]⟩
        = "$1=7|b$03727-$é".toList := by
    decide +kernel
  exact ⟨_, _, hl, hm, hresult, hexpand.symm.trans hresult⟩

end Daybook.Replace
