import Mathlib.Data.List.TakeWhile
import Daybook.Proofs.Link.Undo
import Daybook.Proofs.Markup.Subnodes

/-!
# The links that the pass makes

A text is given at most one link (`textLink?`). In nodes without links, the links that the pass
makes are those of the texts, in order (`linksList_linkNodes`); so what holds of the link of every
text holds of every link there is.

What a link refers to is an address of the web without any space in it, and what it shows is the
host of that address, which is never empty (`isSafe_of_textLink?`). That comes from how a URL is
found: it begins with one of two schemes and stops before the first space
(`isWebAddress_of_split?`).
-/

namespace Daybook.Link

open Daybook.Markup

/-! ## Addresses -/

/-- How an address of the web begins. -/
def webSchemes : List (List Char) :=
  ["http://".toList, "https://".toList]

/-- An address that begins with one of the schemes of the web and has no space in it. -/
structure IsWebAddress (url : String) : Prop where
  scheme : ∃ scheme ∈ webSchemes, scheme <+: url.toList
  noSpace : ' ' ∉ url.toList

theorem eq_append_of_afterHttp? {cs rest : List Char} (h : afterHttp? cs = some rest) :
    ∃ scheme ∈ webSchemes, cs = scheme ++ rest := by
  unfold afterHttp? at h
  split at h
  · obtain rfl := Option.some.inj h
    exact ⟨_, List.mem_cons_self, rfl⟩
  · obtain rfl := Option.some.inj h
    exact ⟨_, List.mem_cons_of_mem _ List.mem_cons_self, rfl⟩
  · exact nomatch h

/-- Where a URL begins stands a scheme, and behind it a character that is no space. -/
theorem eq_append_of_startsUrl {cs : List Char} (h : startsUrl cs = true) :
    ∃ scheme ∈ webSchemes, ∃ c rest, c ≠ ' ' ∧ cs = scheme ++ c :: rest := by
  unfold startsUrl at h
  split at h
  · rename_i c rest hafter
    obtain ⟨scheme, hscheme, heq⟩ := eq_append_of_afterHttp? hafter
    exact ⟨scheme, hscheme, c, rest, bne_iff_ne.mp h, heq⟩
  · exact nomatch h

theorem scheme_noSpace {scheme : List Char} (h : scheme ∈ webSchemes) :
    ∀ c ∈ scheme, (c != ' ') = true := by
  have hall : ∀ scheme ∈ webSchemes, scheme.all (· != ' ') = true := by decide
  exact List.all_eq_true.mp (hall scheme h)

/-- The URL of a split begins where a URL begins in the text, and goes up to the next space. -/
theorem url_of_splitFrom? {passed cs : List Char} {split : Split}
    (h : splitFrom? passed cs = some split) :
    ∃ front rest, cs = front ++ rest ∧ startsUrl rest = true
      ∧ split.url = rest.takeWhile (· != ' ') := by
  induction cs generalizing passed with
  | nil => exact nomatch h
  | cons c cs ih =>
      unfold splitFrom? at h
      split at h
      · rename_i hstart
        obtain rfl := Option.some.inj h
        exact ⟨[], c :: cs, rfl, hstart, rfl⟩
      · obtain ⟨front, rest, heq, hstart, hurl⟩ := ih h
        exact ⟨c :: front, rest, by rw [heq, List.cons_append], hstart, hurl⟩

theorem isWebAddress_of_split? {cs : List Char} {split : Split} (h : split? cs = some split) :
    IsWebAddress (String.ofList split.url) := by
  obtain ⟨front, rest, -, hstart, hurl⟩ := url_of_splitFrom? h
  obtain ⟨scheme, hscheme, c, tail, -, rfl⟩ := eq_append_of_startsUrl hstart
  -- No scheme has a space, so cutting off at the first space leaves the whole scheme.
  constructor
  · refine ⟨scheme, hscheme, ?_⟩
    rw [String.toList_ofList, hurl, List.takeWhile_append_of_pos (scheme_noSpace hscheme)]
    exact List.prefix_append ..
  · rw [String.toList_ofList, hurl]
    intro hspace
    have hne := List.mem_takeWhile_imp hspace
    exact absurd hne (by decide)

theorem ne_empty_of_host? {url host : String} (h : host? url = some host) : host ≠ "" := by
  obtain ⟨chars, hchars, rfl⟩ := Option.map_eq_some_iff.mp h
  unfold hostChars? at hchars
  split at hchars
  · exact nomatch hchars
  · simp only [Option.ite_none_left_eq_some, Option.some.injEq] at hchars
    obtain ⟨hne, rfl⟩ := hchars
    simpa using hne

/-! ## The link of a text -/

/-- The link that a text is given: to its first URL, if it has one and that has a host. -/
def textLink? (text : String) : Option Node :=
  (split? text.toList).bind fun split =>
    (host? (String.ofList split.url)).map (anchor split.url)

/-- What links are to be: they carry one attribute, which refers to an address of the web, and one
child, a text that shows the host of that address. -/
def IsSafe (node : Node) : Prop :=
  ∃ url host, node = .element .a [⟨.href, url⟩] [.text host]
    ∧ IsWebAddress url ∧ host? url = some host ∧ host ≠ ""

theorem isSafe_of_textLink? {text : String} {link : Node} (h : textLink? text = some link) :
    IsSafe link := by
  obtain ⟨split, hsplit, hlink⟩ := Option.bind_eq_some_iff.mp h
  obtain ⟨host, hhost, rfl⟩ := Option.map_eq_some_iff.mp hlink
  exact ⟨_, host, rfl, isWebAddress_of_split? hsplit, hhost, ne_empty_of_host? hhost⟩

/-- No link has another one in it. -/
theorem IsSafe.linksList_children {attributes : List Attribute} {children : List Node}
    (h : IsSafe (.element .a attributes children)) : linksList children = [] := by
  obtain ⟨url, host, heq, -⟩ := h
  obtain ⟨-, -, rfl⟩ := Node.element.inj heq
  rfl

/-! ## The links that the pass makes -/

theorem linksList_textNodes (cs : List Char) : linksList (textNodes cs) = [] := by
  unfold textNodes
  split <;> rfl

/-- What becomes of a text has the link of that text in it and no other. -/
theorem linksList_linkText (text : String) :
    linksList (linkText text) = (textLink? text).toList := by
  unfold linkText textLink?
  cases hsplit : split? text.toList with
  | none => rfl
  | some split =>
      cases hhost : host? (String.ofList split.url) with
      | none => simp [hhost]
      | some host =>
          have hanchor : linksList [anchor split.url host] = [anchor split.url host] := rfl
          simp only [Option.bind_some, hhost, Option.map_some, Option.toList_some]
          rw [linksList_append, linksList_cons, hanchor, linksList_textNodes,
            linksList_textNodes]
          rfl

mutual

theorem linksList_linkNode : ∀ {node : Node}, linksList [node] = [] →
    linksList (linkNode node) = node.texts.filterMap textLink?
  | .text value, _ => by
      rw [linkNode, linksList_linkText, Node.texts]
      cases hlink : textLink? value with
      | none => simp [hlink]
      | some link => simp [hlink]
  | .element tag attributes children, h => by
      by_cases htag : tag = .a
      · subst htag
        exact nomatch h
      · rw [linksList_element_of_ne htag] at h
        rw [linkNode_of_ne htag, linksList_element_of_ne htag, Node.texts,
          linksList_linkNodes h]

/-- In nodes without links, the pass makes the links of the texts, in their order. -/
theorem linksList_linkNodes : ∀ {nodes : List Node}, linksList nodes = [] →
    linksList (linkNodes nodes) = (Node.textsList nodes).filterMap textLink?
  | [], _ => rfl
  | node :: nodes, h => by
      rw [linksList_cons, List.append_eq_nil_iff] at h
      obtain ⟨hnode, hnodes⟩ := h
      rw [linkNodes, linksList_append, linksList_linkNode hnode, linksList_linkNodes hnodes,
        Node.textsList, List.filterMap_append]

end

end Daybook.Link
