import Daybook.Proofs.Link.Undo
import Daybook.Proofs.View.Settings
import Daybook.Proofs.View.Structure

/-!
# Articles with and without links

No operator makes a link, so all links of an article come from the link pass. With each of them
replaced by its address, an article rendered with links is the one that the same definition renders
without, up to where texts are cut, and the cache is left the same (`unlinked_render`).
-/

namespace Daybook.View

open Daybook.Calendar Daybook.Link Daybook.Markup Daybook.Script Daybook.Shader

section

variable {v : View} {policy : Policy}

/-- The paragraph of a line has no link before it is finished. -/
theorem a_notMem_tags_evaluateLine (context : Context) (line : List Token) (c : Cache) :
    Tag.a ∉ (evaluateLine .builtin context line c).1.tags := by
  rw [Paragraph.tags, outline_evaluateLine]
  exact a_notMem_labels_line line

variable (hv : v.operators = .builtin) (hplain : v.policy.linkUrls = false)
  (hlinked : policy.linkUrls = true)

include hv hplain hlinked

theorem unlinked_renderLine (event : Event) (line : List Token) (c : Cache) :
    (renderLine { v with policy := policy } event line c).1.unlinked.normal
        = (v.renderLine event line c).1.normal
      ∧ (renderLine { v with policy := policy } event line c).2
          = (v.renderLine event line c).2 := by
  rw [renderLine_eq, renderLine_eq, finish_of_not_linkUrls hplain, finish, if_pos hlinked]
  refine ⟨?_, rfl⟩
  show (linkUrls (evaluateLine v.operators (v.context event) line c).1).unlinked.normal = _
  rw [hv, normal_unlinked_linkUrls (a_notMem_tags_evaluateLine _ line c)]

theorem unlinked_renderLines (event : Event) : ∀ (lines : List (List Token)) (c : Cache),
    (renderLines { v with policy := policy } event lines c).1.map (·.unlinked.normal)
        = (v.renderLines event lines c).1.map Paragraph.normal
      ∧ (renderLines { v with policy := policy } event lines c).2
          = (v.renderLines event lines c).2
  | [], _ => ⟨rfl, rfl⟩
  | line :: lines, c => by
      obtain ⟨hline, hcache⟩ := unlinked_renderLine hv hplain hlinked event line c
      obtain ⟨hlines, hcaches⟩ := unlinked_renderLines event lines (v.renderLine event line c).2
      rw [renderLines, renderLines, cached_cons, cached_cons, List.map_cons, List.map_cons, hline,
        hcache, hlines, hcaches]
      exact ⟨rfl, rfl⟩

/-- With links replaced by their addresses, an article is the one rendered without links. -/
theorem unlinked_render (event : Event) (c : Cache) :
    (render { v with policy := policy } event c).1.unlinked.normal = (v.render event c).1.normal
      ∧ (render { v with policy := policy } event c).2 = (v.render event c).2 := by
  obtain ⟨hlines, hcache⟩ := unlinked_renderLines hv hplain hlinked event v.article c
  refine ⟨?_, hcache⟩
  show Article.mk (((renderLines { v with policy := policy } event v.article c).1.map
    Paragraph.unlinked).map Paragraph.normal) = _
  rw [List.map_map]
  exact congrArg Article.mk hlines

end

/-- A definition that compiles compiles to the same whether or not URLs are to become links. -/
theorem compile_with_linkUrls {policy : Policy} {limits : Limits} {d : Definition} {v : View}
    (h : compile policy limits d = .ok v) (link : Bool) :
    compile { policy with linkUrls := link } limits d
      = .ok { v with policy := { policy with linkUrls := link } } := by
  have hstrict : ({ policy with linkUrls := link } : Policy).strictTokens = true →
      policy.strictTokens = true := fun hstrict => hstrict
  exact compileWith_mono limits.within_refl hstrict h

/-- **The link pass loses nothing.** In a paragraph without links, replacing the links that the pass
makes by their addresses gives the paragraph back, up to where texts are cut. A link that was there
before stays as it is, in the same place inside the same elements. So a definition renders every
event to the same article with links as without, once these are replaced by their addresses, and
leaves the same cache behind. -/
theorem linking_loses_nothing :
    (∀ p : Paragraph, Tag.a ∉ p.tags → (linkUrls p).unlinked.normal = p.normal)
      ∧ (∀ (place : Place) (attributes : List Attribute) (children : List Node),
          linkNodes (place.fill (.element .a attributes children))
              = place.linked.fill (.element .a attributes children)
            ∧ place.linked.path = place.path)
      ∧ ∀ (policy : Policy) (limits : Limits) (d : Definition) (v : View),
          compile policy limits d = .ok v →
            ∃ linked plain, compile { policy with linkUrls := true } limits d = .ok linked
              ∧ compile { policy with linkUrls := false } limits d = .ok plain
              ∧ ∀ event c,
                (linked.render event c).1.unlinked.normal = (plain.render event c).1.normal
                  ∧ (linked.render event c).2 = (plain.render event c).2 := by
  refine ⟨fun p h => normal_unlinked_linkUrls h, fun place attributes children =>
    ⟨linkNodes_fill attributes children place, place.path_linked⟩, fun policy limits d v h => ?_⟩
  have hlinked := compile_with_linkUrls h true
  have hplain := compile_with_linkUrls h false
  refine ⟨_, _, hlinked, hplain, fun event c => ?_⟩
  exact unlinked_render (v := { v with policy := { policy with linkUrls := false } })
    (operators_of_compile hplain) rfl rfl event c

/-- A paragraph with two texts that have a URL in them, one of them inside an element. -/
def twoUrls : Paragraph :=
  ⟨[.text "see http://a.org/x now", .element .b [] [.text "HTTP https://B.org:80/"]]⟩

/-- A place inside an element, behind a text. -/
def nestedPlace : Place :=
  .inside [] .b [] (.level [.text "http://a.org"] []) []

theorem linking_loses_nothing_rooms :
    Tag.a ∉ twoUrls.tags
      ∧ (linkUrls twoUrls).unlinked.normal = twoUrls.normal
      ∧ linkNodes (nestedPlace.fill (anchor [] "b.org"))
          = nestedPlace.linked.fill (anchor [] "b.org")
      ∧ compile .standard .standard roomDefinition = .ok roomView
      ∧ compile ⟨false, false⟩ .standard roomDefinition = .ok plainRoomView
      ∧ ∀ event ∈ roomEvents,
          (roomView.render event .empty).1.unlinked.normal
              = (plainRoomView.render event .empty).1.normal
            ∧ (roomView.render event .empty).2 = (plainRoomView.render event .empty).2 := by
  have htags : Tag.a ∉ twoUrls.tags := by decide +kernel
  have hview : compile .standard .standard roomDefinition = .ok roomView :=
    eq_ok_get isSome_compile_room
  have hplainView : compile ⟨false, false⟩ .standard roomDefinition = .ok plainRoomView :=
    eq_ok_get isSome_compile_plainRoom
  obtain ⟨hundo, hkeep, hrender⟩ := linking_loses_nothing
  obtain ⟨linked, plain, hlinked, hplain, hsame⟩ := hrender _ _ _ _ hview
  have hroom : linked = roomView := Except.ok.inj (hlinked.symm.trans hview)
  have hplainRoom : plain = plainRoomView := Except.ok.inj (hplain.symm.trans hplainView)
  rw [hroom, hplainRoom] at hsame
  exact ⟨htags, hundo twoUrls htags, (hkeep nestedPlace _ _).1, hview, hplainView,
    fun event _ => hsame event .empty⟩

end Daybook.View
