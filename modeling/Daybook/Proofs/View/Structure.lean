import Daybook.Proofs.Link.Outline
import Daybook.Proofs.Script.Outline
import Daybook.Proofs.View.Meaning

/-!
# The structure of rendered articles

What a feed says can change texts, attributes and links of an article, but not the elements that a
view asked for: without links, the tree of tags of an article is that of the tokens of the view
(`View.outline`), whatever the event and whatever the cache holds (`pruned_outline_render`).
-/

namespace Daybook.View

open Daybook.Calendar Daybook.Markup Daybook.Script Daybook.Shader

/-- The trees of tags that the lines of a view stand for. -/
def outline (v : View) : List (List (Outline Tag)) :=
  v.article.map (·.flatMap Token.outline)

/-- What each line's paragraph comes to, whatever the cache, the paragraphs of all lines come to. -/
theorem map_renderLines {α : Type} {v : View} {event : Event} {f : Paragraph → α}
    {g : List Token → α} (h : ∀ line c, f (v.renderLine event line c).1 = g line) :
    ∀ (lines : List (List Token)) (c : Cache),
      (v.renderLines event lines c).1.map f = lines.map g
  | [], _ => rfl
  | line :: lines, c => by
      rw [renderLines, cached_cons, List.map_cons, h line c, map_renderLines h lines,
        List.map_cons]

/-- Finishing a paragraph changes nothing of its tree of tags but the links. -/
theorem pruned_outline_finish (v : View) (p : Paragraph) :
    pruneList Link.isLinkTag (outlineList tagOf (v.finish p).nodes)
      = pruneList Link.isLinkTag (outlineList tagOf p.nodes) := by
  unfold finish
  split
  · exact Link.pruneList_linkNodes p.nodes
  · rfl

section

variable {v : View} (hv : v.operators = .builtin)

include hv

theorem pruned_outline_renderLine (event : Event) (line : List Token) (c : Cache) :
    pruneList Link.isLinkTag (outlineList tagOf (v.renderLine event line c).1.nodes)
      = line.flatMap Token.outline := by
  have hwanted : ∀ tag ∈ labelsList (line.flatMap Token.outline), Link.isLinkTag tag = false :=
    fun tag htag => decide_eq_false fun ha => a_notMem_labels_line line (ha ▸ htag)
  rw [renderLine_eq, pruned_outline_finish, hv, outline_evaluateLine, pruneList_of_labels hwanted]

theorem outline_renderLine_of_not_linkUrls (hlink : v.policy.linkUrls = false) (event : Event)
    (line : List Token) (c : Cache) :
    outlineList tagOf (v.renderLine event line c).1.nodes = line.flatMap Token.outline := by
  rw [renderLine_eq, finish_of_not_linkUrls hlink, hv, outline_evaluateLine]

/-- Without links, every article has the trees of tags that the view asks for. -/
theorem pruned_outline_render (event : Event) (c : Cache) :
    ((v.render event c).1.outline tagOf).map (pruneList Link.isLinkTag) = v.outline := by
  show (((v.renderLines event v.article c).1).map
    (fun p => outlineList tagOf p.nodes)).map (pruneList Link.isLinkTag) = _
  rw [List.map_map]
  exact map_renderLines (pruned_outline_renderLine hv event) v.article c

theorem outline_render_of_not_linkUrls (hlink : v.policy.linkUrls = false) (event : Event)
    (c : Cache) : (v.render event c).1.outline tagOf = v.outline :=
  map_renderLines (outline_renderLine_of_not_linkUrls hv hlink event) v.article c

theorem a_notMem_tags_render (hlink : v.policy.linkUrls = false) (event : Event) (c : Cache) :
    Tag.a ∉ (v.render event c).1.tags := by
  rw [Article.tags, outline_render_of_not_linkUrls hv hlink]
  intro ha
  obtain ⟨trees, htrees, ha⟩ := List.mem_flatMap.mp ha
  obtain ⟨line, -, rfl⟩ := List.mem_map.mp htrees
  exact a_notMem_labels_line line ha

end

/-- **Events cannot change the elements of an article.** Two events rendered over any two caches
give articles that have the same trees of tags once links are taken out. Where URLs do not become
links there is none to take out, and the trees are those that the tokens alone determine: each
token evaluates to its own tree. -/
theorem structure_independent_of_event {policy : Policy} {limits : Limits} {d : Definition}
    {v : View} (h : compile policy limits d = .ok v) :
    (∀ event event' c c',
        ((v.render event c).1.outline tagOf).map (pruneList Link.isLinkTag)
          = ((v.render event' c').1.outline tagOf).map (pruneList Link.isLinkTag))
      ∧ (v.policy.linkUrls = false → ∀ event c,
          Tag.a ∉ (v.render event c).1.tags ∧ (v.render event c).1.outline tagOf = v.outline)
      ∧ ∀ event c token,
          (Token.evaluate v.operators (v.context event) token c).1.outline tagOf
            = token.outline := by
  have hv := operators_of_compile h
  refine ⟨fun event event' c c' => ?_, fun hlink event c => ?_, fun event c token => ?_⟩
  · rw [pruned_outline_render hv, pruned_outline_render hv]
  · exact ⟨a_notMem_tags_render hv hlink event c,
      outline_render_of_not_linkUrls hv hlink event c⟩
  · rw [hv]
    exact outline_evaluate (v.context event) token c

theorem isSome_compile_plainRoom :
    (compile ⟨false, false⟩ .standard roomDefinition).toOption.isSome := by decide +kernel

/-- The view of rooms under a policy that makes no links. -/
def plainRoomView : View :=
  (compile ⟨false, false⟩ .standard roomDefinition).toOption.get isSome_compile_plainRoom

/-- The first event has a URL that becomes a link, the second one has none; the caches differ. -/
theorem structure_independent_of_event_rooms :
    compile .standard .standard roomDefinition = .ok roomView
      ∧ compile ⟨false, false⟩ .standard roomDefinition = .ok plainRoomView
      ∧ ((roomView.render (roomEvent "Room 12" "Lecture http://a.org/x") .empty).1.outline
            tagOf).map (pruneList Link.isLinkTag)
          = ((roomView.render (roomEvent "" "") (roomView.cacheAfter roomEvents)).1.outline
              tagOf).map (pruneList Link.isLinkTag)
      ∧ plainRoomView.policy.linkUrls = false
      ∧ Tag.a ∉ (plainRoomView.render (roomEvent "Room 12" "http://a.org/x") .empty).1.tags :=
  have hview : compile .standard .standard roomDefinition = .ok roomView :=
    eq_ok_get isSome_compile_room
  have hplain : compile ⟨false, false⟩ .standard roomDefinition = .ok plainRoomView :=
    eq_ok_get isSome_compile_plainRoom
  have hlink : plainRoomView.policy.linkUrls = false := by decide +kernel
  ⟨hview, hplain, (structure_independent_of_event hview).1 _ _ _ _, hlink,
    ((structure_independent_of_event hplain).2.1 hlink _ _).1⟩

end Daybook.View
