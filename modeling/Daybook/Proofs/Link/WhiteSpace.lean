import Daybook.Proofs.Link.FirstUrl
import Daybook.Proofs.Link.Hosts
import Daybook.Text.Blank

/-!
# White space in links

A URL ends at a space and at no other white space. So a link and the host that it shows are free of
white space exactly if the first white space behind where the URL begins is a space
(`white_space_ends_links_iff`); where it is a line break, the next line becomes part of the address,
and of the host if nothing ends that before (`not_white_space_ends_links`).
-/

namespace Daybook.Link

open Daybook.Markup Daybook.Text

/-- Whether a text holds no white space. -/
def Unbroken (cs : List Char) : Prop :=
  ∀ c ∈ cs, isBlank c = false

instance (cs : List Char) : Decidable (Unbroken cs) :=
  List.decidableBAll _ cs

variable {cs url back : List Char}

theorem isBlank_toLower (c : Char) : isBlank c.toLower = isBlank c := by
  cases h : c.isUpper with
  | false => rw [toLower_of_not_isUpper h]
  | true =>
      have hrange := isUpper_iff.mp h
      have hlower := toNat_toLower h
      have hvisible : ∀ d : Char, 65 ≤ d.toNat → d.toNat ≤ 122 → isBlank d = false := by
        intro d hlow hhigh
        rw [← Bool.not_eq_true]
        simp only [isBlank, Bool.or_eq_true, Bool.and_eq_true, decide_eq_true_eq, beq_iff_eq]
        omega
      rw [hvisible c (by omega) (by omega), hvisible c.toLower (by omega) (by omega)]

theorem unbroken_map_toLower : Unbroken (cs.map Char.toLower) ↔ Unbroken cs := by
  simp only [Unbroken, List.forall_mem_map, isBlank_toLower]

/-- What is shown of an address is a piece of it, but for case. -/
theorem exists_piece_of_host? {address host : String} (h : host? address = some host) :
    ∃ before raw behind, address.toList = before ++ (raw ++ behind)
      ∧ host.toList = raw.map Char.toLower := by
  obtain ⟨scheme, tail, info, raw, number, hauthority, -, -, hraw⟩ := (isShown_of_host? h).piece
  refine ⟨scheme ++ schemeEnd ++ info, raw, number ++ tail, ?_, hraw.symm⟩
  rw [hauthority.eq]
  simp only [List.append_assoc]

/-- An address is free of white space exactly if the first white space from its front on is a
space. -/
theorem IsUrlAt.unbroken_iff (h : IsUrlAt cs url back) :
    Unbroken url ↔ ∀ c, cs.find? isBlank = some c → c = ' ' := by
  rw [h.eq]
  constructor
  · intro hurl c hc
    have hnone : url.find? isBlank = none :=
      List.find?_eq_none.mpr fun d hd => by rw [hurl d hd]; decide
    rw [List.find?_append, hnone, Option.none_or] at hc
    cases back with
    | nil => exact nomatch hc
    | cons d back =>
        obtain rfl := h.ends d rfl
        exact (Option.some.inj hc).symm
  · intro hfirst c hc
    by_contra hblank
    rw [Bool.not_eq_false] at hblank
    obtain ⟨d, hd⟩ := Option.isSome_iff_exists.mp
      (List.find?_isSome.mpr ⟨c, hc, hblank⟩)
    have hspace := hfirst d (by rw [List.find?_append, hd, Option.some_or])
    exact h.noSpace (hspace ▸ List.mem_of_find?_eq_some hd)

/-! ## The link of a text -/

theorem isFirst_of_mem_links {text host : String}
    (h : anchor url host ∈ linksList (linkNode (.text text))) :
    host? (String.ofList url) = some host
      ∧ ∃ front back, IsFirst text.toList ⟨front, url, back⟩ := by
  rw [linkNode, linksList_linkText, Option.mem_toList, textLink?] at h
  obtain ⟨⟨front, url', back⟩, hsplit, hlink⟩ := Option.bind_eq_some_iff.mp h
  obtain ⟨host', hhost, heq⟩ := Option.map_eq_some_iff.mp hlink
  obtain ⟨-, hattributes, hchildren⟩ := Node.element.inj heq
  obtain ⟨hurl, -⟩ := List.cons.inj hattributes
  obtain ⟨hshown, -⟩ := List.cons.inj hchildren
  obtain rfl := Node.text.inj hshown
  obtain rfl : url' = url := String.ofList_inj.mp (Attribute.mk.inj hurl).2
  exact ⟨hhost, front, back, split?_eq_some_iff.mp hsplit⟩

theorem mem_links_of_split? {text host : String} (split : Split)
    (hsplit : split? text.toList = some split)
    (hhost : host? (String.ofList split.url) = some host) :
    anchor split.url host ∈ linksList (linkNode (.text text)) := by
  rw [linkNode, linksList_linkText, Option.mem_toList, textLink?, hsplit, Option.bind_some, hhost,
    Option.map_some]

/-- **A link ends at a space.** The link that a text is given is to the first URL in it. Neither that
address nor the host that is shown holds white space exactly if the first white space from where the
URL begins is a space, or there is none. The host is a piece of the address, but for case, and holds
white space exactly if that piece does. -/
theorem white_space_ends_links_iff {text host : String} {url : List Char}
    (h : anchor url host ∈ linksList (linkNode (.text text))) :
    ∃ front back, IsFirst text.toList ⟨front, url, back⟩
      ∧ (Unbroken url ∧ Unbroken host.toList
        ↔ ∀ c, (url ++ back).find? isBlank = some c → c = ' ')
      ∧ ∃ before raw behind, url = before ++ (raw ++ behind)
        ∧ host.toList = raw.map Char.toLower ∧ (Unbroken host.toList ↔ Unbroken raw) := by
  obtain ⟨hhost, front, back, hfirst⟩ := isFirst_of_mem_links h
  obtain ⟨before, raw, behind, hurl, hraw⟩ := exists_piece_of_host? hhost
  rw [String.toList_ofList] at hurl
  have hbroken : Unbroken host.toList ↔ Unbroken raw := by rw [hraw, unbroken_map_toLower]
  refine ⟨front, back, hfirst, ?_, before, raw, behind, hurl, hraw, hbroken⟩
  rw [← hfirst.url.unbroken_iff, and_iff_left_iff_imp, hbroken, hurl]
  exact fun hall c hc => hall c (List.mem_append_right _ (List.mem_append_left _ hc))

/-- A description of which the first line ends with a URL. -/
private def twoLines : String :=
  "Join http://a.org\nRoom 5"

theorem white_space_ends_links_iff_spaces :
    anchor "http://a.org".toList "a.org"
        ∈ linksList (linkNode (.text "Join http://a.org now\nRoom 5"))
      ∧ ∃ front back, IsFirst "Join http://a.org now\nRoom 5".toList
          ⟨front, "http://a.org".toList, back⟩
        ∧ (Unbroken "http://a.org".toList ∧ Unbroken "a.org".toList
          ↔ ∀ c, ("http://a.org".toList ++ back).find? isBlank = some c → c = ' ') := by
  have hmem : anchor "http://a.org".toList "a.org"
      ∈ linksList (linkNode (.text "Join http://a.org now\nRoom 5")) :=
    mem_links_of_split? ⟨"Join ".toList, "http://a.org".toList, " now\nRoom 5".toList⟩
      (by decide +kernel) (by decide +kernel)
  obtain ⟨front, back, hfirst, hiff, -⟩ := white_space_ends_links_iff hmem
  exact ⟨hmem, front, back, hfirst, hiff⟩

/-- A line break does not end a link: the first word of the next line becomes part of the address
and of the host. -/
theorem not_white_space_ends_links :
    ¬∀ (text host : String) (url : List Char),
      anchor url host ∈ linksList (linkNode (.text text)) →
        Unbroken url ∧ Unbroken host.toList := by
  intro h
  have hmem : anchor "http://a.org\nRoom".toList "a.org\nroom"
      ∈ linksList (linkNode (.text twoLines)) :=
    mem_links_of_split? ⟨"Join ".toList, "http://a.org\nRoom".toList, " 5".toList⟩
      (by decide +kernel) (by decide +kernel)
  exact absurd (h _ _ _ hmem).2 (by decide)

end Daybook.Link
