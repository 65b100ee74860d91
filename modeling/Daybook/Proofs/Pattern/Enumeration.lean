import Daybook.Proofs.Pattern.Search
import Daybook.Proofs.Text.Offsets

/-!
# Repeated search

The matches that a repeated search finds, told as a relation (`Repeats`): from each place on the
match that begins first, and then those from where the search goes on behind it, until none begins
any more. `matchesFrom` gives the list that stands in this relation (`repeats_matchesFrom`), for
every search that finds what begins first.

All else follows from the relation by induction: matches are in order and apart from each other,
there are no more than places in the text, and none is left out between them (`Enumerates`).

Places count characters here. A search that counts bytes has to go on behind a whole character, and
looks for that character by cutting the text, which fails inside of one (`matchesFromOffset?`). It
never does, and the matches are the same (`matchesFromOffset?_eq`).
-/

namespace Daybook.Pattern

open Daybook.Text

namespace Literal

/-- Whether `ms` are the matches of a repeated search from a place on, `preferred` being the matches
that begin at each place of a text of `length` characters. -/
inductive Repeats (preferred : Nat → Option Match) (length : Nat) : Nat → List Match → Prop
  | finish {place : Nat} (none_left : ∀ q, place ≤ q → q ≤ length → preferred q = none) :
      Repeats preferred length place []
  | step {place : Nat} {m : Match} {ms : List Match} (le_start : place ≤ m.whole.start)
      (start_le : m.whole.start ≤ length) (here : preferred m.whole.start = some m)
      (first : ∀ q, place ≤ q → q < m.whole.start → preferred q = none)
      (rest : Repeats preferred length (resume m) ms) : Repeats preferred length place (m :: ms)

/-- Where the search for match number `i` begins, that for the first one at `place`. -/
def resumePoint (place : Nat) : List Match → Nat → Nat
  | _, 0 => place
  | [], _ + 1 => place
  | m :: ms, i + 1 => resumePoint (resume m) ms i

/-- What repeated search is to give: matches in order and apart from each other, inside the text
and no more than it has places; each of them is what a search finds from anywhere between the place
where the search for it begins and its own start, every search begins further on than the one
before, and from where the last one begins there is nothing to be found. -/
structure Enumerates (preferred search : Nat → Option Match) (length : Nat) (ms : List Match) :
    Prop where
  within : ∀ m ∈ ms, m.Within m.whole.start length
  starts : ms.Pairwise fun a b => a.whole.start < b.whole.start
  apart : ms.Pairwise fun a b => a.whole.stop ≤ b.whole.start
  count : ms.length ≤ length + 1
  found : ∀ i m, ms[i]? = some m → resumePoint 0 ms i ≤ m.whole.start
    ∧ ∀ q, resumePoint 0 ms i ≤ q → q ≤ m.whole.start → search q = some m
  advance : ∀ i < ms.length, resumePoint 0 ms i < resumePoint 0 ms (i + 1)
  complete : ∀ q, resumePoint 0 ms ms.length ≤ q → q ≤ length →
    preferred q = none ∧ search q = none

theorem start_lt_resume {m : Match} {length : Nat} (h : m.Within m.whole.start length) :
    m.whole.start < resume m := by
  have hle := h.le_stop
  unfold resume
  split <;> omega

theorem stop_le_resume (m : Match) : m.whole.stop ≤ resume m := by
  unfold resume
  split <;> omega

section

variable {preferred search : Nat → Option Match} {length : Nat}
  (hsearch : LeftmostSearch preferred search length)

include hsearch

/-- A match is never found again: the search goes on behind its start. -/
theorem lt_resume_of_found {place : Nat} {m : Match} (hplace : place ≤ length)
    (hm : search place = some m) : place < resume m :=
  Nat.lt_of_le_of_lt (hsearch.found place m hplace hm).1
    (start_lt_resume (hsearch.within_of_found hplace hm))

/-- A repeated search gives what the relation asks for. -/
theorem repeats_matchesFrom (place : Nat) :
    Repeats preferred length place (matchesFrom search length place) := by
  fun_induction matchesFrom search length place with
  | case1 place hend => exact .finish fun q hle hlength => by omega
  | case2 place hend hnone =>
      exact .finish (hsearch.missed place (Nat.not_lt.mp hend) hnone)
  | case3 place hend m hm hforward ih =>
      obtain ⟨hle, hlength, hhere, hfirst⟩ := hsearch.found place m (Nat.not_lt.mp hend) hm
      exact .step hle hlength hhere hfirst ih
  | case4 place hend m hm hforward =>
      exact absurd (lt_resume_of_found hsearch (Nat.not_lt.mp hend) hm) hforward

namespace Repeats

variable {place : Nat} {ms : List Match} (h : Repeats preferred length place ms)

include h

theorem within : ∀ m ∈ ms, m.Within m.whole.start length ∧ place ≤ m.whole.start := by
  induction h with
  | finish _ => exact fun _ hm => (nomatch hm)
  | @step place m ms hle hlength hhere _ _ ih =>
      have hwithin : m.Within m.whole.start length := hsearch.within _ _ hlength hhere
      intro m' hm'
      rcases List.mem_cons.mp hm' with rfl | hm'
      · exact ⟨hwithin, hle⟩
      · have hlt := start_lt_resume hwithin
        have hnext := ih m' hm'
        exact ⟨hnext.1, by omega⟩

/-- What a relation between places says of a match and where the search goes on, it says of all
matches in order. -/
theorem pairwise {R : Match → Match → Prop}
    (hR : ∀ a b, a.Within a.whole.start length → resume a ≤ b.whole.start → R a b) :
    ms.Pairwise R := by
  induction h with
  | finish _ => exact .nil
  | @step place m ms _ hlength hhere _ hrest ih =>
      refine .cons (fun m' hm' => ?_) ih
      exact hR m m' (hsearch.within _ _ hlength hhere) (hrest.within hsearch m' hm').2

theorem length_le : ms.length ≤ length + 1 - place := by
  induction h with
  | finish _ => exact Nat.zero_le _
  | @step place m ms hle hlength hhere _ _ ih =>
      have hlt := start_lt_resume (hsearch.within _ _ hlength hhere)
      rw [List.length_cons]
      omega

theorem found : ∀ i m, ms[i]? = some m → resumePoint place ms i ≤ m.whole.start
    ∧ ∀ q, resumePoint place ms i ≤ q → q ≤ m.whole.start → search q = some m := by
  induction h with
  | finish _ => exact fun _ _ hm => (nomatch hm)
  | @step place m ms hle hlength hhere hfirst hrest ih =>
      intro i m' hm'
      cases i with
      | zero =>
          obtain rfl := Option.some.inj hm'
          refine ⟨hle, fun q hq hstart => hsearch.eq_some hstart hlength hhere fun q' hq' hlt => ?_⟩
          exact hfirst q' (Nat.le_trans hq hq') hlt
      | succ i =>
          rw [resumePoint]
          exact ih i m' hm'

theorem advance : ∀ i < ms.length, resumePoint place ms i < resumePoint place ms (i + 1) := by
  induction h with
  | finish _ => exact fun _ hi => (nomatch hi)
  | @step place m ms hle hlength hhere _ _ ih =>
      intro i hi
      rw [resumePoint]
      cases i with
      | zero =>
          have hlt := start_lt_resume (hsearch.within _ _ hlength hhere)
          rw [resumePoint, resumePoint]
          omega
      | succ i => exact ih i (Nat.lt_of_succ_lt_succ hi)

theorem complete : ∀ q, resumePoint place ms ms.length ≤ q → q ≤ length →
    preferred q = none ∧ search q = none := by
  induction h with
  | finish hnone =>
      intro q hle hlength
      refine ⟨hnone q hle hlength, hsearch.eq_none hlength fun q' hq' hlength' => ?_⟩
      exact hnone q' (Nat.le_trans hle hq') hlength'
  | step _ _ _ _ _ ih => exact ih

end Repeats

/-- Repeated search leaves nothing out and gives nothing twice. -/
theorem enumerates_matchesFrom : Enumerates preferred search length (matchesFrom search length 0) :=
  have hrepeats := repeats_matchesFrom hsearch 0
  { within := fun m hm => (hrepeats.within hsearch m hm).1
    starts := hrepeats.pairwise hsearch fun _ _ hwithin hle =>
      Nat.lt_of_lt_of_le (start_lt_resume hwithin) hle
    apart := hrepeats.pairwise hsearch fun a _ _ hle => Nat.le_trans (stop_le_resume a) hle
    count := hrepeats.length_le hsearch
    found := hrepeats.found hsearch
    advance := hrepeats.advance hsearch
    complete := hrepeats.complete hsearch }

end

/-- One search gives what a repeated one begins with. -/
theorem take_matchesFrom (search : Nat → Option Match) (length : Nat) :
    (matchesFrom search length 0).take 1 = (search 0).toList := by
  rw [matchesFrom, dif_neg (Nat.not_lt_zero _)]
  cases search 0 with
  | none => rfl
  | some m =>
      dsimp only
      split <;> rfl

end Literal

/-! ## Byte offsets -/

/-- A span with its places told as byte offsets. -/
def Span.inBytes (s : Span) (text : List Char) : Span :=
  ⟨byteOffset text s.start, byteOffset text s.stop⟩

/-- A match with its places told as byte offsets. -/
def Match.inBytes (m : Match) (text : List Char) : Match :=
  ⟨m.whole.inBytes text, m.groups.map (·.map (·.inBytes text))⟩

@[simp] theorem Match.start_inBytes (m : Match) (text : List Char) :
    (m.inBytes text).whole.start = byteOffset text m.whole.start :=
  rfl

@[simp] theorem Match.stop_inBytes (m : Match) (text : List Char) :
    (m.inBytes text).whole.stop = byteOffset text m.whole.stop :=
  rfl

namespace Literal

/-- Where the search goes on behind a match told in bytes: at its end, if it is empty behind the
character there, or behind the text if there is none. Fails where the text cannot be cut. -/
def resumeOffset? (text : List Char) (m : Match) : Option Nat :=
  if m.whole.stop = m.whole.start then
    (cutAt? text m.whole.stop).map fun cut =>
      m.whole.stop + (cut.2.head?.map Char.utf8Size).getD 1
  else some m.whole.stop

/-- The matches that a repeated search finds from a byte offset on. Fails where a cut does, and
where the search would not go on. -/
def matchesFromOffset? (search : Nat → Option Match) (text : List Char) (offset : Nat) :
    Option (List Match) :=
  if _ended : byteLength text < offset then some []
  else
    match search offset with
    | none => some []
    | some m =>
      match resumeOffset? text m with
      | none => none
      | some next =>
        if _forward : offset < next then (matchesFromOffset? search text next).map (m :: ·)
        else none
termination_by byteLength text + 1 - offset
decreasing_by omega

/-- Whether a search told in bytes finds what one told in characters finds, from each boundary of a
text. What it does at other offsets is left open. -/
def AgreeInBytes (text : List Char) (search byteSearch : Nat → Option Match) : Prop :=
  ∀ place ≤ text.length, byteSearch (byteOffset text place) = (search place).map (·.inBytes text)

/-- What a search told in characters finds from a boundary, told in bytes. -/
def searchInBytes (text : List Char) (search : Nat → Option Match) (offset : Nat) : Option Match :=
  ((List.range (text.length + 1)).find? (byteOffset text · == offset)).bind fun place =>
    (search place).map (·.inBytes text)

theorem agreeInBytes_searchInBytes (text : List Char) (search : Nat → Option Match) :
    AgreeInBytes text search (searchInBytes text search) := by
  intro place hplace
  have hmem : place ∈ List.range (text.length + 1) := List.mem_range.mpr (Nat.lt_succ_of_le hplace)
  rw [searchInBytes]
  cases hfind : (List.range (text.length + 1)).find?
      (byteOffset text · == byteOffset text place) with
  | none => exact absurd BEq.rfl (List.find?_eq_none.mp hfind place hmem)
  | some place' =>
      have hplace' := Nat.le_of_lt_succ (List.mem_range.mp (List.mem_of_find?_eq_some hfind))
      have heq : byteOffset text place' = byteOffset text place := by
        simpa using List.find?_some hfind
      rcases Nat.lt_trichotomy place' place with hlt | rfl | hlt
      · exact absurd heq (Nat.ne_of_lt (byteOffset_lt hlt hplace))
      · rfl
      · exact absurd heq (Nat.ne_of_gt (byteOffset_lt hlt hplace'))

/-- The byte offset of a place where a search goes on, which may be the one behind the end. -/
def offsetBehind (text : List Char) (place : Nat) : Nat :=
  byteOffset text place + (place - text.length)

section

variable {text : List Char}

theorem offsetBehind_of_le {place : Nat} (h : place ≤ text.length) :
    offsetBehind text place = byteOffset text place := by
  rw [offsetBehind, Nat.sub_eq_zero_of_le h, Nat.add_zero]

theorem byteLength_lt_offsetBehind {place : Nat} (h : text.length < place) :
    byteLength text < offsetBehind text place := by
  rw [offsetBehind, byteOffset, List.take_of_length_le (Nat.le_of_lt h)]
  omega

theorem byteOffset_lt_offsetBehind {place place' : Nat} (hplace : place ≤ text.length)
    (hlt : place < place') : byteOffset text place < offsetBehind text place' := by
  rcases Nat.lt_or_ge text.length place' with hbehind | hle
  · have hend := byteLength_lt_offsetBehind hbehind
    have hle := byteOffset_le hplace
    omega
  · rw [offsetBehind_of_le hle]
    exact byteOffset_lt hlt hle

/-- Behind a match the search goes on at the same place, told in characters or in bytes. -/
theorem resumeOffset?_inBytes {m : Match} (h : m.Within m.whole.start text.length) :
    resumeOffset? text (m.inBytes text) = some (offsetBehind text (resume m)) := by
  have hle := h.le_stop
  have hlength := h.stop_le
  rw [resumeOffset?, resume, Match.start_inBytes, Match.stop_inBytes]
  by_cases hempty : m.whole.stop = m.whole.start
  · have hcut : cutAt? text (byteOffset text m.whole.stop)
        = some (text.take m.whole.stop, text.drop m.whole.stop) :=
      cutAt?_take text m.whole.stop
    rw [if_pos (congrArg (byteOffset text) hempty), if_pos hempty, hcut, Option.map_some,
      offsetBehind]
    cases hrest : text.drop m.whole.stop with
    | nil =>
        have hend : m.whole.stop = text.length :=
          Nat.le_antisymm hlength (List.drop_eq_nil_iff.mp hrest)
        rw [hend, byteOffset_length, byteOffset, List.take_of_length_le (Nat.le_succ _),
          Nat.add_sub_cancel_left]
        rfl
    | cons c rest =>
        have hlt : m.whole.stop < text.length := by
          have hne : text.drop m.whole.stop ≠ [] := hrest ▸ List.cons_ne_nil c rest
          exact Nat.not_le.mp fun hge => hne (List.drop_eq_nil_iff.mpr hge)
        rw [byteOffset_succ hrest, Nat.sub_eq_zero_of_le hlt]
        rfl
  · have hlt := byteOffset_lt (by omega : m.whole.start < m.whole.stop) hlength
    rw [if_neg (Nat.ne_of_gt hlt), if_neg hempty, offsetBehind_of_le hlength]

variable {preferred search : Nat → Option Match}
  (hsearch : LeftmostSearch preferred search text.length)

include hsearch

/-- A repeated search that counts bytes cuts the text at boundaries only, and finds what one that
counts characters finds. -/
theorem matchesFromOffset?_eq {byteSearch : Nat → Option Match}
    (hbytes : AgreeInBytes text search byteSearch) (place : Nat) :
    matchesFromOffset? byteSearch text (offsetBehind text place)
      = some ((matchesFrom search text.length place).map (·.inBytes text)) := by
  fun_induction matchesFrom search text.length place with
  | case1 place hend =>
      rw [matchesFromOffset?, dif_pos (byteLength_lt_offsetBehind hend)]
      rfl
  | case2 place hend hnone =>
      have hplace : place ≤ text.length := Nat.not_lt.mp hend
      rw [matchesFromOffset?, offsetBehind_of_le hplace, hbytes place hplace, hnone,
        dif_neg (Nat.not_lt.mpr (byteOffset_le hplace))]
      rfl
  | case3 place hend m hm hforward ih =>
      have hplace : place ≤ text.length := Nat.not_lt.mp hend
      have hnext := resumeOffset?_inBytes (hsearch.within_of_found hplace hm)
      rw [matchesFromOffset?, offsetBehind_of_le hplace, hbytes place hplace, hm,
        dif_neg (Nat.not_lt.mpr (byteOffset_le hplace))]
      dsimp only [Option.map_some]
      rw [hnext]
      dsimp only
      rw [dif_pos (byteOffset_lt_offsetBehind hplace hforward), ih]
      rfl
  | case4 place hend m hm hforward =>
      have hplace : place ≤ text.length := Nat.not_lt.mp hend
      exact absurd (lt_resume_of_found hsearch hplace hm) hforward

end

/-! ## Compiled literals -/

/-- **All matches of a literal are enumerated.** Whatever search finds what begins first, doing it
again behind every match ends and leaves nothing out. Counting bytes and not characters makes no
difference: no cut is inside a character, and each match is the same, told in bytes. The search that
a literal was compiled to is of that kind. So a global literal gives all its matches in a text in
order, and any other one the first of those, if there is one. -/
theorem allMatches_enumerates {limits : Limits} {literal : String} {l : Literal}
    (h : Literal.parse limits literal = .ok l) :
    (∀ (preferred search : Nat → Option Match) (length : Nat),
        LeftmostSearch preferred search length →
          Enumerates preferred search length (matchesFrom search length 0))
      ∧ (∀ (preferred search byteSearch : Nat → Option Match) (text : List Char),
        LeftmostSearch preferred search text.length → AgreeInBytes text search byteSearch →
          matchesFromOffset? byteSearch text 0
            = some ((matchesFrom search text.length 0).map (·.inBytes text)))
      ∧ ∀ text : List Char,
        let preferred := l.compiled.program.preferredAt? text
        let search := l.compiled.program.search? text
        LeftmostSearch preferred search text.length
          ∧ (l.flags.isGlobal = true →
            Enumerates preferred search text.length (l.allMatches text))
          ∧ (l.flags.isGlobal = false →
            l.allMatches text = (matchesFrom search text.length 0).take 1) := by
  refine ⟨fun _ _ _ => enumerates_matchesFrom, fun preferred search byteSearch text => ?_,
    fun text => ?_⟩
  · intro hsearch hbytes
    have heq := matchesFromOffset?_eq hsearch hbytes 0
    rwa [offsetBehind_of_le (Nat.zero_le _), byteOffset_zero] at heq
  have hsearch := Literal.leftmostSearch h text
  refine ⟨hsearch, fun hglobal => ?_, fun hsingle => ?_⟩
  · have hall : l.allMatches text
        = matchesFrom (l.compiled.program.search? text) text.length 0 := if_pos hglobal
    rw [hall]
    exact enumerates_matchesFrom hsearch
  · rw [take_matchesFrom]
    exact if_neg (hsingle ▸ Bool.false_ne_true)

private def runsOfA : String :=
  "/a*/g"

private theorem isSome_parse_runsOfA : (parse .standard runsOfA).toOption.isSome := by
  decide +kernel

/-- An empty match behind one that is not is given as well, and one at the end of the text. Behind
the one in front of a character of two bytes the search goes on at byte 2. -/
theorem allMatches_runsOfA :
    ∃ l, parse .standard runsOfA = .ok l ∧ l.flags.isGlobal = true
      ∧ (l.allMatches "baaac".toList).map (·.whole) = [⟨0, 0⟩, ⟨1, 4⟩, ⟨4, 4⟩, ⟨5, 5⟩]
      ∧ Enumerates (l.compiled.program.preferredAt? "baaac".toList)
        (l.compiled.program.search? "baaac".toList) 5 (l.allMatches "baaac".toList)
      ∧ ∃ ms, ms.map (·.whole) = [⟨0, 0⟩, ⟨2, 4⟩, ⟨4, 4⟩]
        ∧ matchesFromOffset?
            (searchInBytes "éaa".toList (l.compiled.program.search? "éaa".toList)) "éaa".toList 0
          = some ms := by
  have hparse : parse .standard runsOfA = .ok _ := eq_ok_get isSome_parse_runsOfA
  have hglobal : ((parse .standard runsOfA).toOption.get isSome_parse_runsOfA).flags.isGlobal
      = true := by
    decide +kernel
  obtain ⟨-, hbytes, hall⟩ := allMatches_enumerates hparse
  have hsearch := (hall "éaa".toList).1
  refine ⟨_, hparse, hglobal, by decide +kernel, (hall "baaac".toList).2.1 hglobal, _, ?_,
    hbytes _ _ _ _ hsearch (agreeInBytes_searchInBytes _ _)⟩
  decide +kernel

end Literal

end Daybook.Pattern
