import Daybook.Markup.Html
import Daybook.Proofs.Link.Links
import Daybook.Proofs.View.Unlinked

/-!
# The links of articles

Rendering is rendering without links first (`View.plain`) and then finishing every paragraph by
itself (`render_eq_finish`), over the same cache. As no operator makes a link, the links of an
article are those that the pass gives to the texts of the article without links (`links_render`),
each text one at most.

So all that there is to say about links was said about the link of one text: whatever a feed holds,
every link of an article is safe to follow and shows where it leads (`links_are_safe`).
-/

namespace Daybook.View

open Daybook.Calendar Daybook.Link Daybook.Markup Daybook.Script Daybook.Shader

/-! ## Rendering without links first -/

/-- The view that renders the same without making links. -/
def plain (v : View) : View :=
  { v with policy := { v.policy with linkUrls := false } }

/-- Of a definition that compiles, the view without links is compiled by the policy that makes
none. -/
theorem compile_plain {policy : Policy} {limits : Limits} {d : Definition} {v : View}
    (h : compile policy limits d = .ok v) :
    compile { policy with linkUrls := false } limits d = .ok v.plain := by
  obtain rfl := policy_of_compileWith h
  exact compile_with_linkUrls h false

theorem renderLine_eq_finish (v : View) (event : Event) (line : List Token) (c : Cache) :
    v.renderLine event line c
      = (v.finish (v.plain.renderLine event line c).1, (v.plain.renderLine event line c).2) := by
  rw [renderLine_eq, renderLine_eq, finish_of_not_linkUrls (v := v.plain) rfl]
  rfl

theorem renderLines_eq_finish (v : View) (event : Event) (lines : List (List Token)) (c : Cache) :
    v.renderLines event lines c
      = ((v.plain.renderLines event lines c).1.map v.finish,
        (v.plain.renderLines event lines c).2) := by
  induction lines generalizing c with
  | nil => rfl
  | cons line lines ih =>
      rw [renderLines, renderLines, cached_cons, cached_cons, renderLine_eq_finish v event line c,
        ih, List.map_cons]

/-- An article is the one without links, with every paragraph finished. -/
theorem render_eq_finish (v : View) (event : Event) (c : Cache) :
    v.render event c
      = (⟨(v.plain.render event c).1.paragraphs.map v.finish⟩, (v.plain.render event c).2) := by
  show (Article.mk (v.renderLines event v.article c).1, (v.renderLines event v.article c).2) = _
  rw [renderLines_eq_finish v event v.article c]
  rfl

/-! ## Where links come from -/

section

variable {v : View} (hv : v.operators = .builtin)

include hv

theorem links_render_plain (event : Event) (c : Cache) : (v.plain.render event c).1.links = [] :=
  Article.links_eq_nil_iff.mpr (a_notMem_tags_render (v := v.plain) hv rfl event c)

theorem links_render_of_not_linkUrls (hlink : v.policy.linkUrls = false) (event : Event)
    (c : Cache) : (v.render event c).1.links = [] :=
  Article.links_eq_nil_iff.mpr (a_notMem_tags_render hv hlink event c)

/-- The links of an article are those of the texts of the article without links, in their order. -/
theorem links_render (hlink : v.policy.linkUrls = true) (event : Event) (c : Cache) :
    (v.render event c).1.links = (v.plain.render event c).1.texts.filterMap textLink? := by
  have hnone := links_render_plain hv event c
  rw [Article.links_eq_flatMap, List.flatMap_eq_nil_iff] at hnone
  rw [render_eq_finish, Article.links_eq_flatMap, List.flatMap_map, Article.texts,
    List.filterMap_flatMap]
  apply List.flatMap_congr
  intro p hp
  have hfinish : v.finish p = linkUrls p := if_pos hlink
  rw [hfinish]
  exact linksList_linkNodes (hnone p hp)

theorem isSafe_of_mem_links {event : Event} {c : Cache} {link : Node}
    (h : link ∈ (v.render event c).1.links) : IsSafe link := by
  cases hlink : v.policy.linkUrls with
  | false =>
      rw [links_render_of_not_linkUrls hv hlink] at h
      exact nomatch h
  | true =>
      rw [links_render hv hlink] at h
      obtain ⟨text, -, htext⟩ := List.mem_filterMap.mp h
      exact isSafe_of_textLink? htext

end

/-- **Every link is safe and shows where it leads.** Whatever event a view renders and whatever its
cache holds, each link of the article has one attribute, which refers to an address of the web
without spaces, and one child, a text that shows the host of that address and is not empty; no link
stands inside another one. With links, those of an article are the ones that the texts of the
article without links are given, in order and each text one at most; without, there is none. -/
theorem links_are_safe {policy : Policy} {limits : Limits} {d : Definition} {v : View}
    (h : compile policy limits d = .ok v) :
    compile { policy with linkUrls := false } limits d = .ok v.plain
      ∧ ∀ event c,
        (∀ link ∈ (v.render event c).1.links, IsSafe link)
          ∧ (∀ attributes children,
              .element .a attributes children ∈ (v.render event c).1.subnodes →
                linksList children = [])
          ∧ (v.policy.linkUrls = true →
              (v.render event c).1.links = (v.plain.render event c).1.texts.filterMap textLink?)
          ∧ (v.policy.linkUrls = false → (v.render event c).1.links = []) := by
  have hv := operators_of_compile h
  refine ⟨compile_plain h, fun event c => ⟨fun link hlink => ?_, fun attributes children hmem => ?_,
    fun hlink => ?_, fun hlink => ?_⟩⟩
  · exact isSafe_of_mem_links hv hlink
  · have hlink : Node.element .a attributes children ∈ (v.render event c).1.links :=
      List.mem_filter.mpr ⟨hmem, rfl⟩
    exact (isSafe_of_mem_links hv hlink).linksList_children
  · exact links_render hv hlink event c
  · exact links_render_of_not_linkUrls hv hlink event c

/-- An event of which the description has a URL. -/
def linkEvent : Event :=
  roomEvent "Room 12" "Lecture http://a.org/x"

/-- The description of that event gets a link, in the view that makes links. -/
theorem links_are_safe_rooms :
    compile .standard .standard roomDefinition = .ok roomView
      ∧ compile ⟨false, false⟩ .standard roomDefinition = .ok roomView.plain
      ∧ (roomView.render linkEvent .empty).1.links.map Node.toHtml
          = ["<a href=\"http://a.org/x\">a.org</a>"]
      ∧ (∀ link ∈ (roomView.render linkEvent .empty).1.links, IsSafe link)
      ∧ (∃ attributes children,
          .element .a attributes children ∈ (roomView.render linkEvent .empty).1.subnodes
            ∧ linksList children = [])
      ∧ roomView.policy.linkUrls = true
      ∧ (roomView.render linkEvent .empty).1.links
          = (roomView.plain.render linkEvent .empty).1.texts.filterMap textLink?
      ∧ plainRoomView.policy.linkUrls = false
      ∧ (plainRoomView.render linkEvent .empty).1.links = [] := by
  have hview : compile .standard .standard roomDefinition = .ok roomView :=
    eq_ok_get isSome_compile_room
  have hplainView : compile ⟨false, false⟩ .standard roomDefinition = .ok plainRoomView :=
    eq_ok_get isSome_compile_plainRoom
  have hlink : roomView.policy.linkUrls = true := by decide +kernel
  have hno : plainRoomView.policy.linkUrls = false := by decide +kernel
  have hhtml : (roomView.render linkEvent .empty).1.links.map Node.toHtml
      = ["<a href=\"http://a.org/x\">a.org</a>"] := by decide +kernel
  obtain ⟨hplain, hall⟩ := links_are_safe hview
  obtain ⟨hsafe, hinside, hlinks, -⟩ := hall linkEvent .empty
  obtain ⟨-, -, -, hnone⟩ := (links_are_safe hplainView).2 linkEvent .empty
  have hne : (roomView.render linkEvent .empty).1.links ≠ [] := by
    intro hnil
    rw [hnil] at hhtml
    exact nomatch hhtml
  obtain ⟨link, hmem⟩ := List.exists_mem_of_ne_nil _ hne
  obtain ⟨hsub, hislink⟩ := List.mem_filter.mp hmem
  obtain ⟨attributes, children, rfl⟩ := exists_of_isLink hislink
  exact ⟨hview, hplain, hhtml, hsafe, ⟨attributes, children, hsub, hinside _ _ hsub⟩, hlink,
    hlinks hlink, hno, hnone hno⟩

end Daybook.View
