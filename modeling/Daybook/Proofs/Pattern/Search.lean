import Daybook.Proofs.Pattern.Threads
import Daybook.Proofs.Success

/-!
# Leftmost search

What a search for matches is: for every place there is the preferred match that begins there, if
any, and a search from a place on gives the one that begins first (`LeftmostSearch`). It follows
that a search from anywhere between where another one began and what it found finds the same
(`LeftmostSearch.eq_some`). The search that a compiled literal does is of that kind
(`Literal.leftmostSearch`); which match is preferred at a place is told by the text around it alone.
-/

namespace Daybook.Pattern

/-- Whether `search` gives, from a place up to the end of a text of `length` characters, the match
that begins first among those `preferred` at the places from there on. -/
structure LeftmostSearch (preferred search : Nat → Option Match) (length : Nat) : Prop where
  within : ∀ place m, place ≤ length → preferred place = some m → m.Within place length
  found : ∀ place m, place ≤ length → search place = some m →
    place ≤ m.whole.start ∧ m.whole.start ≤ length ∧ preferred m.whole.start = some m
      ∧ ∀ q, place ≤ q → q < m.whole.start → preferred q = none
  missed : ∀ place, place ≤ length → search place = none →
    ∀ q, place ≤ q → q ≤ length → preferred q = none

namespace LeftmostSearch

variable {preferred search : Nat → Option Match} {length place : Nat} {m : Match}
  (h : LeftmostSearch preferred search length)

include h

theorem within_of_found (hplace : place ≤ length) (hm : search place = some m) :
    m.Within m.whole.start length := by
  obtain ⟨-, hle, hpreferred, -⟩ := h.found place m hplace hm
  exact h.within _ _ hle hpreferred

/-- The first place from which there is a match decides what a search before it finds. -/
theorem eq_some {start : Nat} (hle : place ≤ start) (hlength : start ≤ length)
    (hm : preferred start = some m) (hnone : ∀ q, place ≤ q → q < start → preferred q = none) :
    search place = some m := by
  have hplace : place ≤ length := Nat.le_trans hle hlength
  cases hsearch : search place with
  | none =>
      have hmissed := h.missed place hplace hsearch start hle hlength
      rw [hm] at hmissed
      exact nomatch hmissed
  | some m' =>
      obtain ⟨hle', -, hm', hnone'⟩ := h.found place m' hplace hsearch
      rcases Nat.lt_trichotomy m'.whole.start start with hlt | heq | hgt
      · rw [hnone _ hle' hlt] at hm'
        exact nomatch hm'
      · rw [heq, hm] at hm'
        exact hm'.symm
      · rw [hnone' start hle hgt] at hm
        exact nomatch hm

theorem eq_none (hplace : place ≤ length)
    (hnone : ∀ q, place ≤ q → q ≤ length → preferred q = none) : search place = none := by
  cases hsearch : search place with
  | none => rfl
  | some m =>
      obtain ⟨hle, hlength, hm, -⟩ := h.found place m hplace hsearch
      rw [hnone _ hle hlength] at hm
      exact nomatch hm

end LeftmostSearch

/-! ## The search of a program -/

/-- The match of a text that a program prefers among those that begin at a place. -/
def Program.preferredAt? (p : Program) (text : List Char) (place : Nat) : Option Match :=
  p.matchAt? (if place = 0 then none else text[place - 1]?) place (text.drop place)

section

variable {p : Program} {text : List Char}

theorem Program.within_preferredAt? (hp : p.Opened) {place : Nat} {m : Match}
    (hplace : place ≤ text.length) (h : p.preferredAt? text place = some m) :
    m.Within place text.length := by
  have hwithin := within_matchAt? hp h
  rwa [List.length_drop, Nat.add_sub_cancel' hplace] at hwithin

theorem Program.search?_eq {place : Nat} (hplace : place ≤ text.length) :
    p.search? text place
      = p.searchFrom? (if place = 0 then none else text[place - 1]?) place (text.drop place) :=
  if_neg (Nat.not_lt.mpr hplace)

/-- A search looks at its first place, and goes on behind it. -/
theorem Program.search?_step {place : Nat} (hplace : place < text.length) :
    p.search? text place = (p.preferredAt? text place <|> p.search? text (place + 1)) := by
  have hdrop : text.drop place = text[place] :: text.drop (place + 1) :=
    List.drop_eq_getElem_cons hplace
  have hbefore : some text[place] = if place + 1 = 0 then none else text[place + 1 - 1]? := by
    rw [if_neg (Nat.succ_ne_zero _), Nat.add_sub_cancel, List.getElem?_eq_getElem hplace]
  rw [search?_eq (Nat.le_of_lt hplace), search?_eq hplace, preferredAt?, ← hbefore, hdrop,
    searchFrom?]
  cases p.matchAt? (if place = 0 then none else text[place - 1]?) place
    (text[place] :: text.drop (place + 1)) <;> rfl

theorem Program.search?_end : p.search? text text.length = p.preferredAt? text text.length := by
  rw [search?_eq (Nat.le_refl _), preferredAt?, List.drop_length, searchFrom?]

/-- What a search comes to: the first place from which there is a match, or none. -/
theorem Program.search?_cases {place : Nat} (hplace : place ≤ text.length) :
    (∃ start m, place ≤ start ∧ start ≤ text.length ∧ p.preferredAt? text start = some m
        ∧ p.search? text place = some m
        ∧ ∀ q, place ≤ q → q < start → p.preferredAt? text q = none)
      ∨ (p.search? text place = none
        ∧ ∀ q, place ≤ q → q ≤ text.length → p.preferredAt? text q = none) := by
  -- By induction on how far it is to the end of the text.
  obtain ⟨rest, hrest⟩ := Nat.exists_eq_add_of_le hplace
  induction rest generalizing place with
  | zero =>
      obtain rfl : place = text.length := hrest.symm
      cases hhere : p.preferredAt? text text.length with
      | some m =>
          exact .inl ⟨text.length, m, hplace, hplace, hhere, search?_end.trans hhere,
            fun q hle hlt => absurd hlt (Nat.not_lt.mpr hle)⟩
      | none =>
          refine .inr ⟨search?_end.trans hhere, fun q hle hlength => ?_⟩
          rwa [Nat.le_antisymm hlength hle]
  | succ rest ih =>
      have hstep := search?_step (p := p) (show place < text.length by omega)
      cases hhere : p.preferredAt? text place with
      | some m =>
          rw [hhere] at hstep
          exact .inl ⟨place, m, Nat.le_refl _, hplace, hhere, hstep,
            fun q hle hlt => absurd hlt (Nat.not_lt.mpr hle)⟩
      | none =>
          rw [hhere] at hstep
          have hfrom : ∀ q, place ≤ q → q = place ∨ place + 1 ≤ q :=
            fun q hle => (Nat.eq_or_lt_of_le hle).imp_left Eq.symm
          rcases ih (show place + 1 ≤ text.length by omega) (by omega) with
            ⟨start, m, hle, hlength, hm, hsearch, hnone⟩ | ⟨hsearch, hnone⟩
          · refine .inl ⟨start, m, by omega, hlength, hm, hstep.trans hsearch, fun q hq hlt => ?_⟩
            rcases hfrom q hq with rfl | hq
            · exact hhere
            · exact hnone q hq hlt
          · refine .inr ⟨hstep.trans hsearch, fun q hq hlength => ?_⟩
            rcases hfrom q hq with rfl | hq
            · exact hhere
            · exact hnone q hq hlength

/-- The search of a program that a pattern was compiled to finds what begins first. -/
theorem Program.leftmostSearch (hp : p.Opened) (text : List Char) :
    LeftmostSearch (p.preferredAt? text) (p.search? text) text.length where
  within _ _ hplace h := within_preferredAt? hp hplace h
  found place m hplace h := by
    rcases search?_cases (p := p) hplace with
      ⟨start, m', hle, hlength, hm, hsearch, hnone⟩ | ⟨hsearch, -⟩
    · obtain rfl : m = m' := Option.some.inj (h.symm.trans hsearch)
      obtain rfl : m.whole.start = start := (within_preferredAt? hp hlength hm).start_eq
      exact ⟨hle, hlength, hm, hnone⟩
    · exact nomatch h.symm.trans hsearch
  missed place hplace h := by
    rcases search?_cases (p := p) hplace with ⟨start, m, -, -, -, hsearch, -⟩ | ⟨-, hnone⟩
    · exact nomatch h.symm.trans hsearch
    · exact hnone

end

/-! ## Compiled literals -/

theorem opened_of_compile {flags : Flags} {size : Nat} {pattern : List Char} {c : Compiled}
    (h : compile flags size pattern = .ok c) : c.program.Opened := by
  unfold compile at h
  cases hr : regex? flags pattern with
  | none =>
      rw [hr] at h
      exact nomatch h
  | some r =>
      rw [hr] at h
      dsimp only at h
      split at h
      · exact nomatch h
      · obtain rfl := Except.ok.inj h
        exact Program.opened_ofRegex (Regex.numbered_of_regex? hr)

theorem Literal.opened_of_read {size : Nat} {cs : List Char} {flags : Flags} {c : Compiled}
    (h : Literal.read size cs = .ok (flags, c)) : c.program.Opened := by
  obtain ⟨⟨pattern, letters⟩, -, h⟩ := bind_ok_iff.mp h
  obtain ⟨flags', -, h⟩ := bind_ok_iff.mp h
  obtain ⟨c', hc, h⟩ := bind_ok_iff.mp h
  obtain ⟨-, rfl⟩ := Prod.mk.inj (Except.ok.inj h)
  exact opened_of_compile hc

theorem Literal.opened_of_parse {limits : Limits} {text : String} {l : Literal}
    (h : Literal.parse limits text = .ok l) : l.compiled.program.Opened := by
  obtain ⟨_, -, h⟩ := bind_ok_iff.mp h
  obtain ⟨⟨flags, c⟩, hread, h⟩ := bind_ok_iff.mp h
  obtain rfl := Except.ok.inj h
  cases hcs : Literal.read limits.maxRegexSize text.toList with
  | error fault =>
      rw [hcs] at hread
      exact nomatch hread
  | ok out =>
      rw [hcs] at hread
      obtain rfl := Except.ok.inj hread
      exact opened_of_read hcs

/-- The search of a compiled literal finds what begins first. -/
theorem Literal.leftmostSearch {limits : Limits} {text : String} {l : Literal}
    (h : Literal.parse limits text = .ok l) (haystack : List Char) :
    LeftmostSearch (l.compiled.program.preferredAt? haystack) (l.compiled.program.search? haystack)
      haystack.length :=
  Program.leftmostSearch (opened_of_parse h) haystack

end Daybook.Pattern
