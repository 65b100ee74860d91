import Daybook.Proofs.Pattern.Enumeration
import Daybook.Proofs.Replace.References
import Daybook.Replace.Rule

/-!
# What substitution leaves alone

Matches that are in order and apart (`InOrder`) have gaps between them, one more than there are
matches. The gaps with the matches between them are the text (`weave_gapsFrom`), and with something
else between them they are what substitution makes of the text (`substituteFrom_eq_weave`): it
touches the matches only, and whatever takes their place is told by the text as it was given.

A repeated search gives matches that are in order (`inOrder_matchesFrom`), wherever one that is
empty stands: at either end, between two characters, or right behind another match. So the pieces
of a text can be cut out at byte offsets, too, where cutting fails at an offset inside a character
or in front of the one before (`substituteSlices?`).
-/

namespace Daybook.Replace

open Daybook.Pattern Daybook.Pattern.Literal Daybook.Text

/-! ## Gaps -/

/-- The parts of a text from a place on that are in front of, between and behind matches. -/
def gapsFrom (text : List Char) (place : Nat) : List Match → List (List Char)
  | [] => [text.drop place]
  | m :: ms => Span.of ⟨place, m.whole.start⟩ text :: gapsFrom text m.whole.stop ms

/-- Gaps with pieces between them. -/
def weave : List (List Char) → List (List Char) → List Char
  | gap :: gaps, piece :: pieces => gap ++ piece ++ weave gaps pieces
  | gaps, _ => gaps.flatten

/-- Whether matches follow each other from a place on, each behind the end of the one before, in a
text of `length` characters. -/
inductive InOrder (length : Nat) : Nat → List Match → Prop
  | nil {place : Nat} (le_length : place ≤ length) : InOrder length place []
  | cons {place : Nat} {m : Match} {ms : List Match} (le_start : place ≤ m.whole.start)
      (le_stop : m.whole.start ≤ m.whole.stop) (rest : InOrder length m.whole.stop ms) :
      InOrder length place (m :: ms)

variable {text : List Char} {place : Nat} {ms : List Match}

theorem length_gapsFrom (text : List Char) (place : Nat) (ms : List Match) :
    (gapsFrom text place ms).length = ms.length + 1 := by
  induction ms generalizing place with
  | nil => rfl
  | cons m ms ih => rw [gapsFrom, List.length_cons, ih, List.length_cons]

/-- Substitution puts what takes the place of matches between the gaps. -/
theorem substituteFrom_eq_weave (expand : Match → List Char) (text : List Char) (place : Nat)
    (ms : List Match) :
    substituteFrom expand text place ms = weave (gapsFrom text place ms) (ms.map expand) := by
  induction ms generalizing place with
  | nil => exact (List.append_nil _).symm
  | cons m ms ih => rw [substituteFrom, ih, gapsFrom, List.map_cons, weave]

theorem span_append_drop {start stop : Nat} (h : start ≤ stop) (text : List Char) :
    Span.of ⟨start, stop⟩ text ++ text.drop stop = text.drop start := by
  obtain ⟨n, rfl⟩ := Nat.exists_eq_add_of_le h
  rw [Span.of, Nat.add_sub_cancel_left, ← List.drop_drop, List.take_append_drop]

theorem take_append_span {start stop : Nat} (h : start ≤ stop) (text : List Char) :
    text.take start ++ Span.of ⟨start, stop⟩ text = text.take stop := by
  obtain ⟨n, rfl⟩ := Nat.exists_eq_add_of_le h
  rw [Span.of, Nat.add_sub_cancel_left, List.take_add]

/-- With the matches themselves between them, gaps are the text. -/
theorem weave_gapsFrom (h : InOrder text.length place ms) :
    weave (gapsFrom text place ms) (ms.map (·.whole.of text)) = text.drop place := by
  induction h with
  | nil _ => exact List.append_nil _
  | @cons place m ms hstart hstop _ ih =>
      have hmatch : m.whole.of text ++ text.drop m.whole.stop = text.drop m.whole.start :=
        span_append_drop hstop text
      rw [gapsFrom, List.map_cons, weave, ih, List.append_assoc, hmatch,
        span_append_drop hstart text]

/-! ## Byte offsets -/

/-- A text from a place on with `expand m` in the place of each match `m`, the gaps cut out at byte
offsets. Fails where a cut does. -/
def substituteSlices? (expand : Match → List Char) (text : List Char) (place : Nat) :
    List Match → Option (List Char)
  | [] => (cutAt? text (byteOffset text place)).map (·.2)
  | m :: ms => do
    let gap ← slice? text (byteOffset text place) (byteOffset text m.whole.start)
    let rest ← substituteSlices? expand text m.whole.stop ms
    return gap ++ expand m ++ rest

theorem slice?_byteOffset {start stop : Nat} (h : start ≤ stop) (text : List Char) :
    slice? text (byteOffset text start) (byteOffset text stop)
      = some (Span.of ⟨start, stop⟩ text) := by
  have hslice := slice?_append (text.take start) (Span.of ⟨start, stop⟩ text) (text.drop stop)
  rwa [span_append_drop h, List.take_append_drop, take_append_span h] at hslice

/-- Between matches that are in order every cut succeeds. -/
theorem substituteSlices?_eq (expand : Match → List Char) (h : InOrder text.length place ms) :
    substituteSlices? expand text place ms = some (substituteFrom expand text place ms) := by
  induction h with
  | @nil place _ =>
      rw [substituteSlices?, byteOffset, cutAt?_take]
      rfl
  | @cons place m ms hstart _ _ ih =>
      rw [substituteSlices?, slice?_byteOffset hstart, ih]
      rfl

/-! ## The order of matches -/

namespace InOrder

theorem le_length (h : InOrder text.length place ms) : place ≤ text.length := by
  induction h with
  | nil hle => exact hle
  | cons hstart hstop _ ih => exact Nat.le_trans hstart (Nat.le_trans hstop ih)

theorem take (h : InOrder text.length place ms) (n : Nat) :
    InOrder text.length place (ms.take n) := by
  induction h generalizing n with
  | nil hle =>
      rw [List.take_nil]
      exact .nil hle
  | cons hstart hstop hrest ih =>
      cases n with
      | zero => exact .nil (cons hstart hstop hrest).le_length
      | succ n => exact .cons hstart hstop (ih n)

theorem within_length (h : InOrder text.length place ms) :
    ∀ m ∈ ms, m.whole.start ≤ m.whole.stop ∧ m.whole.stop ≤ text.length := by
  induction h with
  | nil _ => exact fun _ hm => (nomatch hm)
  | cons _ hstop hrest ih => exact List.forall_mem_cons.mpr ⟨⟨hstop, hrest.le_length⟩, ih⟩

end InOrder

section

variable {preferred search : Nat → Option Match}
  (hsearch : LeftmostSearch preferred search text.length)

include hsearch

/-- A search goes on at the end of a match or behind it, so the next one is not in front of that. -/
theorem inOrder_of_repeats {resumed : Nat} (h : Repeats preferred text.length resumed ms)
    (hplace : place ≤ resumed) (hlength : place ≤ text.length) :
    InOrder text.length place ms := by
  induction h generalizing place with
  | finish _ => exact .nil hlength
  | @step resumed m ms hle hstart hhere _ _ ih =>
      have hwithin := hsearch.within _ _ hstart hhere
      exact .cons (Nat.le_trans hplace hle) hwithin.le_stop
        (ih (stop_le_resume m) hwithin.stop_le)

theorem inOrder_matchesFrom :
    InOrder text.length 0 (matchesFrom search text.length 0) :=
  inOrder_of_repeats hsearch (repeats_matchesFrom hsearch 0) (Nat.le_refl 0) (Nat.zero_le _)

end

/-- What substitution does to a text: there are gaps around the matches, with which they make up the
text, and what takes the place of the matches stands between the same gaps. All of them can be cut
out at byte offsets, and so can the matches and what is in front of them and behind. -/
structure Splices (text : List Char) (ms : List Match) (gaps : List (List Char)) : Prop where
  count : gaps.length = ms.length + 1
  whole : weave gaps (ms.map (·.whole.of text)) = text
  substituted : ∀ expand, substituteFrom expand text 0 ms = weave gaps (ms.map expand)
  sliced : ∀ expand, substituteSlices? expand text 0 ms = some (substituteFrom expand text 0 ms)
  cuts : ∀ m ∈ ms, m.whole.start ≤ m.whole.stop ∧ m.whole.stop ≤ text.length
    ∧ slice? text (byteOffset text m.whole.start) (byteOffset text m.whole.stop)
      = some (m.whole.of text)
    ∧ slice? text 0 (byteOffset text m.whole.start) = some (text.take m.whole.start)
    ∧ slice? text (byteOffset text m.whole.stop) (byteLength text)
      = some (text.drop m.whole.stop)

theorem splices_gapsFrom (h : InOrder text.length 0 ms) : Splices text ms (gapsFrom text 0 ms) where
  count := length_gapsFrom text 0 ms
  whole := weave_gapsFrom h
  substituted := fun expand => substituteFrom_eq_weave expand text 0 ms
  sliced := fun expand => substituteSlices?_eq expand h
  cuts := by
    intro m hm
    obtain ⟨hle, hlength⟩ := h.within_length m hm
    have hfront := slice?_byteOffset (Nat.zero_le m.whole.start) text
    have hback := slice?_byteOffset hlength text
    have hrest : Span.of ⟨m.whole.stop, text.length⟩ text = text.drop m.whole.stop := by
      have happend := span_append_drop hlength text
      rwa [List.drop_length, List.append_nil] at happend
    rw [byteOffset_length, hrest] at hback
    exact ⟨hle, hlength, slice?_byteOffset hle text, hfront, hback⟩

/-! ## Templates without references -/

/-- A text with each dollar sign doubled. -/
def doubled (text : List Char) : List Char :=
  text.flatMap fun c => if c = '$' then ['$', '$'] else [c]

theorem partsFrom_doubled (g : Groups) (plain cs : List Char) :
    partsFrom g plain (doubled cs) = withPlain (cs.reverse ++ plain) [] := by
  induction cs generalizing plain with
  | nil => rw [doubled, List.flatMap_nil, partsFrom, List.reverse_nil, List.nil_append]
  | cons c cs ih =>
      have hcons : cs.reverse ++ c :: plain = (c :: cs).reverse ++ plain := by simp
      rw [← hcons, ← ih]
      by_cases hc : c = '$'
      · subst hc
        have hdouble : doubled ('$' :: cs) = '$' :: '$' :: doubled cs := rfl
        rw [hdouble, partsFrom, if_pos rfl, List.head?_cons, if_pos rfl, List.drop_succ_cons,
          List.drop_zero]
      · have hsingle : doubled (c :: cs) = c :: doubled cs := by simp [doubled, hc]
        rw [hsingle, partsFrom, if_neg hc]

/-- A text with each dollar sign doubled stands for the text, whatever the match. -/
theorem expand_doubled (g : Groups) (names : List (Option String)) (text : List Char) (m : Match)
    (t : String) :
    (Template.parse g (String.ofList (doubled t.toList))).expand names text m = t.toList := by
  rw [Template.expand, Template.parse, String.toList_ofList, partsFrom_doubled, List.append_nil]
  unfold withPlain
  split
  · rename_i hempty
    rw [List.isEmpty_reverse, List.isEmpty_iff] at hempty
    rw [hempty]
    rfl
  · exact (List.append_nil _).trans (List.reverse_reverse _)

/-- `$&` stands for the match. -/
theorem expand_whole (g : Groups) (names : List (Option String)) (text : List Char) (m : Match) :
    (Template.parse g "$&").expand names text m = m.whole.of text := by
  have hdollar : ['&'].head? ≠ some '$' := by decide
  have href : reference? g ['&'] = some (.whole, 1) := rfl
  have hend : partsFrom g [] [] = [] := by
    rw [partsFrom]
    rfl
  have hparts : partsFrom g [] "$&".toList = [.whole] := by
    have htext : "$&".toList = ['$', '&'] := by decide
    rw [htext, partsFrom, if_pos rfl, if_neg hdollar, href]
    dsimp only
    rw [List.drop_succ_cons, List.drop_nil, hend]
    rfl
  rw [Template.expand, Template.parse, hparts]
  exact List.append_nil _

/-! ## Rules -/

/-- **Substitution touches only the matches.** Whatever search finds what begins first, its matches
leave gaps in a text, whether one takes the first of them or all; the search that a literal was
compiled to is of that kind. So a rule keeps the gaps of every text, with what its template stands
for at each match between them, told by the text as it was given. `$&` changes no text, and a text
with its dollar signs doubled stands in the place of every match as it is. -/
theorem apply_eq_weave {limits : Limits} {literal : String} {l : Literal}
    (h : Literal.parse limits literal = .ok l) :
    (∀ (preferred search : Nat → Option Match) (text : List Char),
        LeftmostSearch preferred search text.length →
          ∀ ms ∈ [matchesFrom search text.length 0, (search 0).toList],
            Splices text ms (gapsFrom text 0 ms))
      ∧ ∀ text : List Char,
        let gaps := gapsFrom text 0 (l.allMatches text)
        Splices text (l.allMatches text) gaps
          ∧ (∀ template : Template, (Rule.mk l template).apply text
            = weave gaps ((l.allMatches text).map (template.expand l.compiled.names text)))
          ∧ (Rule.make l "$&").apply text = text
          ∧ ∀ t : String, (Rule.make l (String.ofList (doubled t.toList))).apply text
            = weave gaps ((l.allMatches text).map fun _ => t.toList) := by
  have hsplices : ∀ (preferred search : Nat → Option Match) (text : List Char),
      LeftmostSearch preferred search text.length →
        ∀ ms ∈ [matchesFrom search text.length 0, (search 0).toList],
          Splices text ms (gapsFrom text 0 ms) := by
    intro preferred search text hsearch ms hms
    have horder := inOrder_matchesFrom hsearch
    rw [List.mem_pair, ← take_matchesFrom search text.length] at hms
    rcases hms with rfl | rfl
    · exact splices_gapsFrom horder
    · exact splices_gapsFrom (horder.take 1)
  refine ⟨hsplices, fun text => ?_⟩
  have hmatches : l.allMatches text ∈ [matchesFrom (l.compiled.program.search? text) text.length 0,
      (l.compiled.program.search? text 0).toList] := by
    rw [Literal.allMatches]
    split <;> simp
  have hsplice := hsplices _ _ text (Literal.leftmostSearch h text) _ hmatches
  have happly : ∀ template : Template, (Rule.mk l template).apply text
      = weave (gapsFrom text 0 (l.allMatches text))
          ((l.allMatches text).map (template.expand l.compiled.names text)) :=
    fun template => hsplice.substituted _
  refine ⟨hsplice, happly, ?_, fun t => ?_⟩
  · have hwhole : (Template.parse (.ofCompiled l.compiled) "$&").expand l.compiled.names text
        = (·.whole.of text) :=
      funext (expand_whole _ _ text)
    rw [Rule.make, happly, hwhole]
    exact hsplice.whole
  · have hdoubled : (Template.parse (.ofCompiled l.compiled)
        (String.ofList (doubled t.toList))).expand l.compiled.names text = fun _ => t.toList :=
      funext fun m => expand_doubled _ _ text m t
    rw [Rule.make, happly, hdoubled]

/-- Matches of any length, also none. -/
private def anyLetters : String :=
  "/a*/g"

private theorem isSome_parse_anyLetters : (Literal.parse .standard anyLetters).toOption.isSome := by
  decide +kernel

/-- Gaps are empty around matches at the ends, also around one that is empty itself. -/
theorem apply_anyLetters :
    ∃ l, Literal.parse .standard anyLetters = .ok l
      ∧ gapsFrom "baac".toList 0 (l.allMatches "baac".toList)
        = [[], "b".toList, [], "c".toList, []]
      ∧ (Rule.make l "<$&>").apply "baac".toList = "<>b<aa><>c<>".toList
      ∧ (Rule.make l "$&").apply "baac".toList = "baac".toList
      ∧ (Rule.make l "$$1").apply "baac".toList = "$1b$1$1c$1".toList := by
  have hl : Literal.parse .standard anyLetters = .ok _ := eq_ok_get isSome_parse_anyLetters
  obtain ⟨-, -, hwhole, hdoubled⟩ := (apply_eq_weave hl).2 "baac".toList
  have htemplate : String.ofList (doubled "$1".toList) = "$$1" := by decide +kernel
  have hgaps : gapsFrom "baac".toList 0 (((Literal.parse .standard anyLetters).toOption.get
      isSome_parse_anyLetters).allMatches "baac".toList)
        = [[], "b".toList, [], "c".toList, []] := by
    decide +kernel
  refine ⟨_, hl, hgaps, by decide +kernel, hwhole, ?_⟩
  rw [← htemplate, hdoubled "$1"]
  decide +kernel

end Daybook.Replace
