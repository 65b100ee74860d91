import Mathlib.Logic.Function.Iterate
import Daybook.Proofs.Link.FirstUrl

/-!
# The pass made again and again

The URLs of a text, from left to right, are told as a relation (`Pieces`): the first URL with what
is in front of it, then those of what is behind it, until there is none. Every text has them in
exactly one way (`exists_pieces`, `Pieces.unique`).

A pass makes a link of the first URL that is none yet, if that has a host: the text in front of a
link holds no URL, a link is left alone, and what is behind the last link is a text with the URLs
that are left (`linkNodes_linked`). So `n` passes make links of the first `n` URLs, and one without
a host blocks all that follow it (`passes_link_in_order`).
-/

namespace Daybook.Link

open Daybook.Markup

/-- A URL with what is between it and the URL before. -/
structure Piece where
  gap : List Char
  url : List Char
deriving DecidableEq, Repr

namespace Piece

/-- Whether the URL has a host to show. -/
def hasHost (p : Piece) : Bool :=
  (host? (String.ofList p.url)).isSome

/-- The link to the URL, if that has a host. -/
def links (p : Piece) : List Node :=
  ((host? (String.ofList p.url)).map (anchor p.url)).toList

/-- The piece with its URL as a link. -/
def nodes (p : Piece) : List Node :=
  textNodes p.gap ++ p.links

theorem links_of_host {p : Piece} {host : String} (h : host? (String.ofList p.url) = some host) :
    p.links = [anchor p.url host] := by
  rw [links, h]
  rfl

end Piece

/-- Whether a text has the URLs of the given pieces, from left to right, and the given end. -/
inductive Pieces : List Char → List Piece → List Char → Prop
  | finish {cs : List Char} (none_left : UrlFree cs) : Pieces cs [] cs
  | step {cs gap url back tail : List Char} {pieces : List Piece}
      (first : IsFirst cs ⟨gap, url, back⟩) (rest : Pieces back pieces tail) :
      Pieces cs (⟨gap, url⟩ :: pieces) tail

/-- The text of pieces with what is behind them. -/
def textOf (pieces : List Piece) (tail : List Char) : List Char :=
  pieces.flatMap (fun p => p.gap ++ p.url) ++ tail

/-- How many of the first pieces have a host. -/
def linkable (pieces : List Piece) : Nat :=
  (pieces.takeWhile Piece.hasHost).length

/-- The nodes of pieces of which the first `k` have links. -/
def linked (k : Nat) (pieces : List Piece) (tail : List Char) : List Node :=
  (pieces.take k).flatMap Piece.nodes ++ textNodes (textOf (pieces.drop k) tail)

variable {cs tail tail' : List Char} {pieces pieces' : List Piece}

/-! ## The URLs of a text -/

theorem exists_pieces (cs : List Char) : ∃ pieces tail, Pieces cs pieces tail := by
  induction hn : cs.length using Nat.strongRecOn generalizing cs with
  | ind n ih =>
      rcases split?_cases cs with ⟨-, hfree⟩ | ⟨split, -, hfirst⟩
      · exact ⟨[], cs, .finish hfree⟩
      · have hshorter : split.back.length < n := by
          obtain ⟨scheme, -, c, rest, hurl⟩ := hfirst.url.scheme
          rw [← hn, hfirst.eq, hurl]
          simp only [List.length_append, List.length_cons]
          omega
        obtain ⟨pieces, tail, hpieces⟩ := ih _ hshorter split.back rfl
        exact ⟨_, tail, .step hfirst hpieces⟩

namespace Pieces

theorem unique (h : Pieces cs pieces tail) (h' : Pieces cs pieces' tail') :
    pieces = pieces' ∧ tail = tail' := by
  induction h generalizing pieces' with
  | finish hfree =>
      cases h' with
      | finish _ => exact ⟨rfl, rfl⟩
      | step hfirst' _ => exact absurd hfree hfirst'.not_urlFree
  | step hfirst hrest ih =>
      cases h' with
      | finish hfree' => exact absurd hfree' hfirst.not_urlFree
      | step hfirst' hrest' =>
          obtain ⟨rfl, rfl, rfl⟩ := Split.mk.inj (hfirst.unique hfirst')
          obtain ⟨rfl, rfl⟩ := ih hrest'
          exact ⟨rfl, rfl⟩

theorem textOf_eq (h : Pieces cs pieces tail) : textOf pieces tail = cs := by
  induction h with
  | finish _ => rfl
  | step hfirst _ ih =>
      rw [textOf, List.flatMap_cons, List.append_assoc, List.append_assoc]
      rw [textOf] at ih
      rw [ih]
      exact hfirst.eq.symm

/-- What is behind some pieces has the other ones. -/
theorem drop (h : Pieces cs pieces tail) (k : Nat) :
    Pieces (textOf (pieces.drop k) tail) (pieces.drop k) tail := by
  induction h generalizing k with
  | finish hfree =>
      rw [List.drop_nil]
      exact .finish hfree
  | step hfirst hrest ih =>
      cases k with
      | zero =>
          have hall := Pieces.step hfirst hrest
          rw [List.drop_zero, hall.textOf_eq]
          exact hall
      | succ k => exact ih k

/-- No URL begins in a gap. -/
theorem urlFree_gap (h : Pieces cs pieces tail) : ∀ p ∈ pieces, UrlFree p.gap := by
  induction h with
  | finish _ => exact fun p hp => (nomatch hp)
  | step hfirst _ ih => exact List.forall_mem_cons.mpr ⟨hfirst.urlFree_front, ih⟩

end Pieces

/-! ## One pass -/

theorem linkText_of_urlFree (h : UrlFree cs) :
    linkText (String.ofList cs) = [.text (String.ofList cs)] := by
  rw [linkText, String.toList_ofList, split?_eq_none_iff.mpr h]

theorem linkNodes_textNodes (cs : List Char) :
    linkNodes (textNodes cs) = if cs.isEmpty then [] else linkText (String.ofList cs) := by
  unfold textNodes
  split
  · rfl
  · rw [linkNodes, linkNodes, linkNode, List.append_nil]

/-- Text without a URL is left as it is. -/
theorem linkNodes_textNodes_of_urlFree (h : UrlFree cs) :
    linkNodes (textNodes cs) = textNodes cs := by
  rw [linkNodes_textNodes, linkText_of_urlFree h]
  rfl

/-- What has its link already is left as it is. -/
theorem linkNodes_nodes {p : Piece} (h : UrlFree p.gap) : linkNodes p.nodes = p.nodes := by
  rw [Piece.nodes, linkNodes_append, linkNodes_textNodes_of_urlFree h, Piece.links]
  cases host? (String.ofList p.url) with
  | none => rfl
  | some host => rfl

theorem linkNodes_flatMap_nodes (h : ∀ p ∈ pieces, UrlFree p.gap) :
    linkNodes (pieces.flatMap Piece.nodes) = pieces.flatMap Piece.nodes := by
  induction pieces with
  | nil => rfl
  | cons p pieces ih =>
      obtain ⟨hp, hpieces⟩ := List.forall_mem_cons.mp h
      rw [List.flatMap_cons, linkNodes_append, linkNodes_nodes hp, ih hpieces]

theorem linkable_cons (p : Piece) (pieces : List Piece) :
    linkable (p :: pieces) = if p.hasHost then linkable pieces + 1 else 0 := by
  rw [linkable, List.takeWhile_cons]
  split <;> rfl

theorem linkable_drop (pieces : List Piece) {k : Nat} (h : k ≤ linkable pieces) :
    linkable (pieces.drop k) = linkable pieces - k := by
  induction pieces generalizing k with
  | nil => rw [List.drop_nil, Nat.le_zero.mp h, Nat.sub_zero]
  | cons p pieces ih =>
      cases k with
      | zero => rfl
      | succ k =>
          rw [linkable_cons] at h ⊢
          split at h
          · rw [if_pos ‹_›, List.drop_succ_cons, ih (Nat.le_of_succ_le_succ h),
              Nat.add_sub_add_right]
          · exact absurd h (Nat.not_succ_le_zero k)

/-- In a text the first URL becomes a link, if it has a host. -/
theorem linkNodes_textNodes_of_pieces (h : Pieces cs pieces tail) :
    linkNodes (textNodes cs) = linked (min 1 (linkable pieces)) pieces tail := by
  cases h with
  | finish hfree => exact linkNodes_textNodes_of_urlFree hfree
  | @step _ gap url back _ pieces hfirst hrest =>
      have hne : cs.isEmpty = false := by
        obtain ⟨scheme, -, c, rest, hurl⟩ := hfirst.url.scheme
        rw [hfirst.eq, hurl]
        simp
      have hsplit : split? cs = some ⟨gap, url, back⟩ := split?_eq_some_iff.mpr hfirst
      rw [linkNodes_textNodes, hne, if_neg Bool.false_ne_true, linkText, String.toList_ofList,
        hsplit, linkable_cons, Piece.hasHost]
      dsimp only
      cases hhost : host? (String.ofList url) with
      | none =>
          have hall : textOf (⟨gap, url⟩ :: pieces) tail = cs :=
            (Pieces.step hfirst hrest).textOf_eq
          show [Node.text (String.ofList cs)] = textNodes (textOf (⟨gap, url⟩ :: pieces) tail)
          rw [hall, textNodes, hne, if_neg Bool.false_ne_true]
      | some host =>
          have hmin : min 1 (linkable pieces + 1) = 1 := by omega
          have hnodes : Piece.nodes ⟨gap, url⟩ = textNodes gap ++ [anchor url host] := by
            rw [Piece.nodes, Piece.links_of_host (p := ⟨gap, url⟩) hhost]
          have htake : (Piece.mk gap url :: pieces).take 1 = [⟨gap, url⟩] := rfl
          rw [Option.isSome_some, if_pos rfl, hmin, linked, htake, List.flatMap_singleton, hnodes,
            List.drop_one, List.tail_cons, hrest.textOf_eq, List.append_assoc,
            List.singleton_append]

theorem flatMap_append_linked (k m : Nat) (pieces : List Piece) (tail : List Char) :
    (pieces.take k).flatMap Piece.nodes ++ linked m (pieces.drop k) tail
      = linked (k + m) pieces tail := by
  rw [linked, linked, List.take_add, List.flatMap_append, List.append_assoc, List.drop_drop]

/-- A pass makes one more link, until the first URL that has no host. -/
theorem linkNodes_linked (h : Pieces cs pieces tail) (n : Nat) :
    linkNodes (linked (min n (linkable pieces)) pieces tail)
      = linked (min (n + 1) (linkable pieces)) pieces tail := by
  have hle : min n (linkable pieces) ≤ linkable pieces := Nat.min_le_right _ _
  have hcount : min n (linkable pieces) + min 1 (linkable pieces - min n (linkable pieces))
      = min (n + 1) (linkable pieces) := by omega
  generalize min n (linkable pieces) = k at *
  have hfree : ∀ p ∈ pieces.take k, UrlFree p.gap :=
    fun p hp => h.urlFree_gap p (List.mem_of_mem_take hp)
  calc linkNodes (linked k pieces tail)
      = (pieces.take k).flatMap Piece.nodes
          ++ linkNodes (textNodes (textOf (pieces.drop k) tail)) := by
        rw [linked, linkNodes_append, linkNodes_flatMap_nodes hfree]
    _ = (pieces.take k).flatMap Piece.nodes
          ++ linked (min 1 (linkable pieces - k)) (pieces.drop k) tail := by
        rw [linkNodes_textNodes_of_pieces (h.drop k), linkable_drop pieces hle]
    _ = linked (min (n + 1) (linkable pieces)) pieces tail := by
        rw [flatMap_append_linked, hcount]

/-! ## What a paragraph of pieces holds -/

theorem links_linked (k : Nat) (pieces : List Piece) (tail : List Char) :
    linksList (linked k pieces tail) = (pieces.take k).flatMap Piece.links := by
  rw [linked, linksList_append, linksList_textNodes, List.append_nil]
  induction pieces.take k with
  | nil => rfl
  | cons p pieces ih =>
      have hlinks : linksList p.links = p.links := by
        rw [Piece.links]
        cases host? (String.ofList p.url) <;> rfl
      rw [List.flatMap_cons, List.flatMap_cons, linksList_append, ih, Piece.nodes, linksList_append,
        linksList_textNodes, List.nil_append, hlinks]

/-- The addresses that links refer to. -/
def addresses (nodes : List Node) : List (Option String) :=
  (linksList nodes).map (·.attribute? .href)

/-- As long as there are hosts, the links refer to the URLs. -/
theorem addresses_linked {k : Nat} (h : k ≤ linkable pieces) (tail : List Char) :
    addresses (linked k pieces tail)
      = (pieces.take k).map (fun p => some (String.ofList p.url)) := by
  rw [addresses, links_linked]
  induction pieces generalizing k with
  | nil => rw [List.take_nil]; rfl
  | cons p pieces ih =>
      cases k with
      | zero => rfl
      | succ k =>
          rw [linkable_cons] at h
          split at h
          · rename_i hhost
            obtain ⟨host, hhost⟩ := Option.isSome_iff_exists.mp hhost
            rw [List.take_succ_cons, List.flatMap_cons, List.map_append,
              ih (Nat.le_of_succ_le_succ h), Piece.links_of_host hhost]
            rfl
          · exact absurd h (Nat.not_succ_le_zero k)

theorem ne_empty_of_mem_textNodes {value : String} (h : Node.text value ∈ textNodes cs) :
    value ≠ "" := by
  unfold textNodes at h
  split at h
  · exact nomatch h
  · rename_i hne
    obtain ⟨rfl⟩ := Node.text.inj (List.mem_singleton.mp h)
    exact fun hempty => hne (by simpa using hempty)

theorem empty_notMem_linked (k : Nat) (pieces : List Piece) (tail : List Char) :
    Node.text "" ∉ linked k pieces tail := by
  intro hmem
  rcases List.mem_append.mp hmem with hpiece | htail
  · obtain ⟨p, -, hp⟩ := List.mem_flatMap.mp hpiece
    rcases List.mem_append.mp hp with hgap | hlink
    · exact ne_empty_of_mem_textNodes hgap rfl
    · obtain ⟨host, -, hanchor⟩ := Option.map_eq_some_iff.mp (Option.mem_toList.mp hlink)
      exact nomatch hanchor
  · exact ne_empty_of_mem_textNodes htail rfl

/-! ## All passes -/

/-- A paragraph of one text after a number of passes. -/
def passes (n : Nat) (text : String) : Paragraph :=
  linkUrls^[n] ⟨[.text text]⟩

theorem passes_succ (n : Nat) (text : String) : passes (n + 1) text = linkUrls (passes n text) :=
  Function.iterate_succ_apply' linkUrls n _

/-- After `n` passes the first `n` URLs are links, up to the first that has no host. -/
theorem passes_eq {text : String} (hne : text ≠ "") (h : Pieces text.toList pieces tail) (n : Nat) :
    passes n text = ⟨linked (min n (linkable pieces)) pieces tail⟩ := by
  induction n with
  | zero =>
      have htext : text.toList.isEmpty = false := by
        rw [List.isEmpty_eq_false_iff, Ne, String.toList_eq_nil_iff]
        exact hne
      rw [Nat.zero_min, linked, List.take_zero, List.drop_zero, h.textOf_eq, textNodes, htext,
        if_neg Bool.false_ne_true, String.ofList_toList]
      rfl
  | succ n ih => rw [passes_succ, ih, linkUrls, linkNodes_linked h]

/-- **Passes make links of the URLs of a text in their order.** A text has its URLs from left to
right in one way, with no URL between them. After `n` passes over a paragraph of that text, the
first `n` URLs are links to themselves, up to the first URL that has no host; all else is as it was,
in texts of which none is empty. So a pass makes one link at most, and when there are no more URLs,
or the next one has no host, nothing changes any more. -/
theorem passes_link_in_order {text : String} (hne : text ≠ "") :
    ∃ pieces tail, Pieces text.toList pieces tail
      ∧ (∀ pieces' tail', Pieces text.toList pieces' tail' → pieces' = pieces ∧ tail' = tail)
      ∧ (∀ piece ∈ pieces, UrlFree piece.gap)
      ∧ (∀ n, (passes n text).nodes = linked (min n (linkable pieces)) pieces tail
          ∧ addresses (passes n text).nodes
            = (pieces.take (min n (linkable pieces))).map (fun p => some (String.ofList p.url))
          ∧ Node.text "" ∉ (passes n text).nodes)
      ∧ (linksList (passes 1 text).nodes).length ≤ 1
      ∧ ∀ n, linkable pieces ≤ n → linkUrls (passes n text) = passes n text := by
  obtain ⟨pieces, tail, h⟩ := exists_pieces text.toList
  have hpasses := passes_eq hne h
  have haddresses : ∀ n, addresses (passes n text).nodes
      = (pieces.take (min n (linkable pieces))).map (fun p => some (String.ofList p.url)) := by
    intro n
    rw [hpasses]
    exact addresses_linked (Nat.min_le_right _ _) tail
  refine ⟨pieces, tail, h, fun _ _ h' => h'.unique h, h.urlFree_gap, fun n =>
    ⟨by rw [hpasses], haddresses n, ?_⟩, ?_, fun n hn => ?_⟩
  · rw [hpasses]
    exact empty_notMem_linked _ _ _
  · have hlength := congrArg List.length (haddresses 1)
    rw [addresses, List.length_map, List.length_map, List.length_take] at hlength
    omega
  · rw [← passes_succ, hpasses, hpasses, Nat.min_eq_right hn,
      Nat.min_eq_right (Nat.le_succ_of_le hn)]

/-- A text of four URLs, the third of which has no host. -/
private def blockedText : String :=
  "at http://a.b or https://C.d/e, http:///f http://g.h"

private def blockedPieces : List Piece :=
  [⟨"at ".toList, "http://a.b".toList⟩, ⟨" or ".toList, "https://C.d/e,".toList⟩,
    ⟨" ".toList, "http:///f".toList⟩, ⟨" ".toList, "http://g.h".toList⟩]

theorem pieces_blockedText : Pieces blockedText.toList blockedPieces [] := by
  have hfirst : split? blockedText.toList = some ⟨"at ".toList, "http://a.b".toList,
    " or https://C.d/e, http:///f http://g.h".toList⟩ := by decide +kernel
  have hsecond : split? " or https://C.d/e, http:///f http://g.h".toList
    = some ⟨" or ".toList, "https://C.d/e,".toList, " http:///f http://g.h".toList⟩ := by
    decide +kernel
  have hthird : split? " http:///f http://g.h".toList
    = some ⟨" ".toList, "http:///f".toList, " http://g.h".toList⟩ := by decide +kernel
  have hfourth : split? " http://g.h".toList = some ⟨" ".toList, "http://g.h".toList, []⟩ := by
    decide +kernel
  rw [split?_eq_some_iff] at hfirst hsecond hthird hfourth
  exact .step hfirst (.step hsecond (.step hthird (.step hfourth
    (.finish (split?_eq_none_iff.mp rfl)))))

theorem passes_link_in_order_blocked :
    blockedText ≠ "" ∧ linkable blockedPieces = 2
      ∧ (∀ n, (passes n blockedText).nodes = linked (min n 2) blockedPieces [])
      ∧ addresses (passes 7 blockedText).nodes = [some "http://a.b", some "https://C.d/e,"]
      ∧ linkUrls (passes 2 blockedText) = passes 2 blockedText := by
  have hne : blockedText ≠ "" := by decide +kernel
  have hlinkable : linkable blockedPieces = 2 := by decide +kernel
  obtain ⟨pieces, tail, -, hunique, -, hpasses, -, hfixed⟩ := passes_link_in_order hne
  obtain ⟨rfl, rfl⟩ := hunique _ _ pieces_blockedText
  rw [hlinkable] at hpasses hfixed
  exact ⟨hne, hlinkable, fun n => (hpasses n).1, (hpasses 7).2.1.trans (by decide +kernel),
    hfixed 2 (Nat.le_refl 2)⟩

end Daybook.Link
