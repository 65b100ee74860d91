import Daybook.Proofs.Link.Links

/-!
# The first URL of a text

What a URL in a text is (`IsUrlAt`): a scheme of the web with at least one more character, up to the
next space or the end of the text. A text without any is `UrlFree`; of any other text one URL begins
first (`IsFirst`). Looking for a URL finds that one and nothing else (`split?_eq_some_iff`,
`split?_eq_none_iff`), so in front of it there is no URL (`IsFirst.urlFree_front`).
-/

namespace Daybook.Link

variable {cs url back : List Char}

/-- Whether a URL stands at the front of a text. -/
structure IsUrlAt (cs url back : List Char) : Prop where
  eq : cs = url ++ back
  scheme : ∃ scheme ∈ webSchemes, ∃ c rest, url = scheme ++ c :: rest
  noSpace : ' ' ∉ url
  ends : ∀ c, back.head? = some c → c = ' '

/-- Whether no URL begins anywhere in a text. -/
def UrlFree (cs : List Char) : Prop :=
  ∀ front rest, cs = front ++ rest → ∀ url back, ¬IsUrlAt rest url back

/-- Whether a text is split around the URL that begins first in it. -/
structure IsFirst (cs : List Char) (split : Split) : Prop where
  eq : cs = split.front ++ (split.url ++ split.back)
  url : IsUrlAt (split.url ++ split.back) split.url split.back
  leftmost : ∀ front rest url back, cs = front ++ rest → IsUrlAt rest url back →
    split.front.length ≤ front.length

/-! ## Where a URL begins -/

theorem startsUrl_of_scheme {scheme : List Char} (h : scheme ∈ webSchemes) {c : Char}
    (hc : c ≠ ' ') (rest : List Char) : startsUrl (scheme ++ c :: rest) = true := by
  simp only [webSchemes, List.mem_cons, List.not_mem_nil, or_false] at h
  rcases h with rfl | rfl <;> exact bne_iff_ne.mpr hc

theorem startsUrl_append (h : startsUrl cs = true) (back : List Char) :
    startsUrl (cs ++ back) = true := by
  obtain ⟨scheme, hscheme, c, rest, hc, rfl⟩ := eq_append_of_startsUrl h
  rw [List.append_assoc]
  exact startsUrl_of_scheme hscheme hc _

theorem isUrlAt_of_startsUrl (h : startsUrl cs = true) :
    IsUrlAt cs (cs.takeWhile (· != ' ')) (cs.dropWhile (· != ' ')) := by
  obtain ⟨scheme, hscheme, c, rest, hc, rfl⟩ := eq_append_of_startsUrl h
  refine ⟨List.takeWhile_append_dropWhile.symm, ⟨scheme, hscheme, c, rest.takeWhile (· != ' '), ?_⟩,
    fun hmem => ?_, fun d hd => ?_⟩
  · rw [List.takeWhile_append_of_pos (scheme_noSpace hscheme),
      List.takeWhile_cons, if_pos (bne_iff_ne.mpr hc)]
  · exact absurd (List.mem_takeWhile_imp hmem) (by decide)
  · have hout := List.head?_dropWhile_not (· != ' ') (scheme ++ c :: rest)
    rw [hd] at hout
    simpa using hout

namespace IsUrlAt

theorem startsUrl (h : IsUrlAt cs url back) : startsUrl cs = true := by
  obtain ⟨scheme, hscheme, c, rest, rfl⟩ := h.scheme
  have hc : c ≠ ' ' := by
    rintro rfl
    exact h.noSpace (List.mem_append_right _ List.mem_cons_self)
  rw [h.eq]
  exact startsUrl_append (startsUrl_of_scheme hscheme hc rest) back

/-- Where a URL ends is told by where it begins. -/
theorem eq_takeWhile (h : IsUrlAt cs url back) :
    url = cs.takeWhile (· != ' ') ∧ back = cs.dropWhile (· != ' ') := by
  have hurl : ∀ c ∈ url, (c != ' ') = true := by
    rintro c hc
    exact bne_iff_ne.mpr fun hspace => h.noSpace (hspace ▸ hc)
  have hback : back.takeWhile (· != ' ') = [] ∧ back.dropWhile (· != ' ') = back := by
    cases back with
    | nil => exact ⟨rfl, rfl⟩
    | cons c back =>
        obtain rfl := h.ends c rfl
        exact ⟨rfl, rfl⟩
  rw [h.eq, List.takeWhile_append_of_pos hurl, List.dropWhile_append_of_pos hurl, hback.1, hback.2,
    List.append_nil]
  exact ⟨rfl, rfl⟩

end IsUrlAt

theorem isUrlAt_iff : IsUrlAt cs url back ↔
    startsUrl cs = true ∧ url = cs.takeWhile (· != ' ') ∧ back = cs.dropWhile (· != ' ') := by
  constructor
  · exact fun h => ⟨h.startsUrl, h.eq_takeWhile⟩
  · rintro ⟨h, rfl, rfl⟩
    exact isUrlAt_of_startsUrl h

theorem urlFree_iff : UrlFree cs ↔ ∀ front rest, cs = front ++ rest → startsUrl rest = false := by
  simp only [UrlFree, isUrlAt_iff, not_and, ← Bool.not_eq_true]
  constructor
  · exact fun h front rest heq hstart => h front rest heq _ _ hstart rfl rfl
  · exact fun h front rest heq _ _ hstart => absurd hstart (h front rest heq)

/-! ## The search for a URL -/

/-- A search from the front of a text on fails if no URL begins in it, and else ends at the first
one. -/
theorem splitFrom?_cases (passed cs : List Char) :
    splitFrom? passed cs = none ∧ UrlFree cs
      ∨ ∃ front url back, splitFrom? passed cs = some ⟨passed.reverse ++ front, url, back⟩
        ∧ IsFirst cs ⟨front, url, back⟩ := by
  induction cs generalizing passed with
  | nil =>
      refine .inl ⟨rfl, urlFree_iff.mpr fun front rest heq => ?_⟩
      obtain ⟨rfl, rfl⟩ := List.append_eq_nil_iff.mp heq.symm
      rfl
  | cons c cs ih =>
      rw [splitFrom?]
      cases hstart : startsUrl (c :: cs) with
      | true =>
          have hurl := isUrlAt_of_startsUrl hstart
          rw [if_pos rfl]
          generalize (c :: cs).takeWhile (· != ' ') = url at hurl
          generalize (c :: cs).dropWhile (· != ' ') = back at hurl
          refine .inr ⟨[], url, back, by rw [List.append_nil], hurl.eq, ?_, ?_⟩
          · exact hurl.eq ▸ hurl
          · exact fun _ _ _ _ _ _ => Nat.zero_le _
      | false =>
          rw [if_neg Bool.false_ne_true]
          -- Nothing begins at `c`, so what begins first begins behind it.
          rcases ih (c :: passed) with ⟨hnone, hfree⟩ | ⟨front, url, back, hsome, hfirst⟩
          · refine .inl ⟨hnone, urlFree_iff.mpr fun front rest heq => ?_⟩
            cases front with
            | nil => rw [← heq.trans (List.nil_append rest), hstart]
            | cons d front => exact urlFree_iff.mp hfree front rest (List.cons.inj heq).2
          · refine .inr ⟨c :: front, url, back, ?_, ?_, hfirst.url, ?_⟩
            · rw [hsome, List.reverse_cons, List.append_assoc, List.singleton_append]
            · rw [hfirst.eq, List.cons_append]
            · intro before rest url' back' heq hat
              cases before with
              | nil =>
                  obtain rfl : c :: cs = rest := heq
                  exact absurd hat.startsUrl (by rw [hstart]; decide)
              | cons d before =>
                  have hle := hfirst.leftmost before rest url' back' (List.cons.inj heq).2 hat
                  exact Nat.succ_le_succ hle

theorem split?_cases (cs : List Char) :
    split? cs = none ∧ UrlFree cs ∨ ∃ split, split? cs = some split ∧ IsFirst cs split := by
  rcases splitFrom?_cases [] cs with hnone | ⟨front, url, back, hsome, hfirst⟩
  · exact .inl hnone
  · exact .inr ⟨_, hsome, hfirst⟩

namespace IsFirst

variable {split split' : Split}

theorem not_urlFree (h : IsFirst cs split) : ¬UrlFree cs :=
  fun hfree => hfree _ _ h.eq _ _ h.url

theorem unique (h : IsFirst cs split) (h' : IsFirst cs split') : split = split' := by
  have hlength : split.front.length = split'.front.length :=
    Nat.le_antisymm (h.leftmost _ _ _ _ h'.eq h'.url) (h'.leftmost _ _ _ _ h.eq h.url)
  obtain ⟨hfront, hrest⟩ := List.append_inj (h.eq.symm.trans h'.eq) hlength
  have hurl := h.url.eq_takeWhile
  have hurl' := h'.url.eq_takeWhile
  rw [← hrest] at hurl'
  obtain ⟨front, url, back⟩ := split
  obtain ⟨front', url', back'⟩ := split'
  obtain rfl : front = front' := hfront
  obtain rfl : url = url' := hurl.1.trans hurl'.1.symm
  obtain rfl : back = back' := hurl.2.trans hurl'.2.symm
  rfl

/-- In front of the first URL there is none. -/
theorem urlFree_front (h : IsFirst cs split) : UrlFree split.front := by
  rw [urlFree_iff]
  intro before rest heq
  by_contra hstart
  rw [Bool.not_eq_false] at hstart
  have hlonger := startsUrl_append hstart (split.url ++ split.back)
  have hle := h.leftmost before _ _ _ (by rw [h.eq, heq, List.append_assoc])
    (isUrlAt_of_startsUrl hlonger)
  rw [heq, List.length_append] at hle
  have hnil : rest = [] := List.eq_nil_of_length_eq_zero (by omega)
  rw [hnil] at hstart
  exact nomatch hstart

end IsFirst

theorem split?_eq_some_iff {split : Split} : split? cs = some split ↔ IsFirst cs split := by
  rcases split?_cases cs with ⟨hnone, hfree⟩ | ⟨split', hsome, hfirst⟩
  · rw [hnone]
    exact iff_of_false nofun fun h => h.not_urlFree hfree
  · rw [hsome, Option.some.injEq]
    exact ⟨fun h => h ▸ hfirst, hfirst.unique⟩

theorem split?_eq_none_iff : split? cs = none ↔ UrlFree cs := by
  rcases split?_cases cs with ⟨hnone, hfree⟩ | ⟨split, hsome, hfirst⟩
  · exact iff_of_true hnone hfree
  · rw [hsome]
    exact iff_of_false nofun hfirst.not_urlFree

end Daybook.Link
