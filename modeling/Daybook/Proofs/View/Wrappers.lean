import Mathlib.Data.List.Forall2
import Daybook.Proofs.Script.Wrapper
import Daybook.Proofs.View.Links

/-!
# The shape of articles

An article has one paragraph for each line of its definition (`forall₂_renderLines`), and in these
paragraphs no text is empty and no element has attributes but a class and the time that it states.
Before links are made, an element has one child at most (`isShaped_render_plain`); afterwards it has
three at most, and a `time` still states the text that it had, which is its text with links replaced
by their addresses (`isShaped_render`).
-/

namespace Daybook.View

open Daybook.Calendar Daybook.Link Daybook.Markup Daybook.Script Daybook.Shader

/-! ## Lines and paragraphs -/

/-- Rendering takes the lines of a definition one after the other and makes a paragraph of each. -/
theorem forall₂_renderLines {g : Grammar} (v : View) (event : Event)
    {article : List (List Json.Value)} {lines : List (List Token)}
    (h : article.mapM g.line = .ok lines) (c : Cache) :
    List.Forall₂ (fun values p => ∃ line c', g.line values = .ok line
      ∧ p = (v.renderLine event line c').1) article (v.renderLines event lines c).1 := by
  induction article generalizing lines c with
  | nil =>
      obtain rfl := mapM_nil_ok_iff.mp h
      exact .nil
  | cons values article ih =>
      obtain ⟨line, rest, hline, hrest, rfl⟩ := mapM_cons_ok_iff.mp h
      rw [renderLines, cached_cons]
      exact .cons ⟨line, c, hline, rfl⟩ (ih hrest _)

/-- Every paragraph is what some line renders to, over some cache. -/
theorem exists_line_of_mem_renderLines {v : View} {event : Event} {lines : List (List Token)}
    {c : Cache} {p : Paragraph} (h : p ∈ (v.renderLines event lines c).1) :
    ∃ line ∈ lines, ∃ c', p = (v.renderLine event line c').1 := by
  induction lines generalizing c with
  | nil => exact nomatch h
  | cons line lines ih =>
      rw [renderLines, cached_cons] at h
      rcases List.mem_cons.mp h with hfirst | hrest
      · exact ⟨line, List.mem_cons_self, c, hfirst⟩
      · obtain ⟨line', hline, c', hp⟩ := ih hrest
        exact ⟨line', List.mem_cons_of_mem _ hline, c', hp⟩

/-! ## The shape of every node -/

section

variable {v : View} (hv : v.operators = .builtin)

include hv

/-- Before links are made, every node of a paragraph is a text that is not empty or a wrapper with
one child at most. -/
theorem isShaped_paragraph_plain {event : Event} {c : Cache} {p : Paragraph}
    (hp : p ∈ (v.plain.render event c).1.paragraphs) :
    ∀ sub ∈ subnodesList p.nodes, sub.IsShaped 1 := by
  obtain ⟨line, -, c', rfl⟩ := exists_line_of_mem_renderLines hp
  rw [renderLine_eq, finish_of_not_linkUrls (v := v.plain) rfl]
  have hoperators : v.plain.operators = .builtin := hv
  rw [hoperators]
  exact isShaped_evaluateLine (v.plain.context event) line c'

theorem isShaped_render_plain {event : Event} {c : Cache} :
    ∀ sub ∈ (v.plain.render event c).1.subnodes, sub.IsShaped 1 := by
  intro sub hsub
  obtain ⟨p, hp, hmem⟩ := mem_article_subnodes.mp hsub
  exact isShaped_paragraph_plain hv hp sub hmem

/-- In an article as it is at last, every node is a text that is not empty, a link, or a wrapper
with three children at most. -/
theorem isShaped_render {event : Event} {c : Cache} :
    ∀ sub ∈ (v.render event c).1.subnodes, sub.IsShaped 3 := by
  intro sub hsub
  obtain ⟨q, hq, hmem⟩ := mem_article_subnodes.mp hsub
  rw [render_eq_finish] at hq
  obtain ⟨p, hp, rfl⟩ := List.mem_map.mp hq
  have hplain := isShaped_paragraph_plain hv hp
  unfold finish at hmem
  split at hmem
  · exact isShaped_linkNodes hplain sub hmem
  · exact (hplain sub hmem).mono (Nat.le_add_left 1 2)

end

/-- **The shape of articles.** The paragraphs of an article are those of the lines of its
definition, in order, and each is a paragraph of the article without links, finished. No text in it
is empty. Every element that is not a link has as attributes a class that is not empty or none, and
behind it, for `time` alone, the text that the element has with links replaced by their addresses;
no attribute is there twice. It has three children at most, and one at most before links were
made. -/
theorem articles_have_shape {policy : Policy} {limits : Limits} {d : Definition} {v : View}
    (h : compile policy limits d = .ok v) :
    compile { policy with linkUrls := false } limits d = .ok v.plain
      ∧ ∀ event c,
        List.Forall₂ (fun values p => ∃ line c',
            Grammar.line ⟨.builtin, policy, limits⟩ values = .ok line
              ∧ p = (v.renderLine event line c').1)
          d.article (v.render event c).1.paragraphs
        ∧ (v.render event c).1.paragraphs = (v.plain.render event c).1.paragraphs.map v.finish
        ∧ (∀ value, .text value ∈ (v.render event c).1.subnodes → value ≠ "")
        ∧ (∀ tag attributes children,
            .element tag attributes children ∈ (v.render event c).1.subnodes → tag ≠ .a →
              IsWrapper 3 tag attributes children ∧ (attributes.map (·.name)).Nodup)
        ∧ ∀ tag attributes children,
            .element tag attributes children ∈ (v.plain.render event c).1.subnodes →
              tag ≠ .a ∧ IsWrapper 1 tag attributes children := by
  have hv := operators_of_compile h
  refine ⟨compile_plain h, fun event c => ⟨?_, ?_, fun value hmem => ?_,
    fun tag attributes children hmem htag => ?_, fun tag attributes children hmem => ?_⟩⟩
  · obtain ⟨_, _, article, -, -, -, harticle, rfl⟩ := compileWith_ok_iff.mp h
    exact forall₂_renderLines _ event harticle c
  · rw [render_eq_finish]
  · exact isShaped_render hv _ hmem
  · have hwrapper : IsWrapper 3 tag attributes children := isShaped_render hv _ hmem htag
    exact ⟨hwrapper, hwrapper.nodup_names⟩
  · have htag : tag ≠ .a := by
      rintro rfl
      have hlink : Node.element .a attributes children ∈ (v.plain.render event c).1.links :=
        List.mem_filter.mpr ⟨hmem, rfl⟩
      rw [links_render_plain hv] at hlink
      exact nomatch hlink
    exact ⟨htag, isShaped_render_plain hv _ hmem htag⟩

/-- A view of one line: the description of an event as a time, with a class. -/
def stampDefinition : Definition :=
  { Definition.blank with
    article := [[callOf "<time>" [callOf "var" [.string "_event.description"], .string "when"]]] }

theorem isSome_compile_stamp :
    (compile .standard .standard stampDefinition).toOption.isSome := by decide +kernel

/-- That view, compiled. -/
def stampView : View :=
  (compile .standard .standard stampDefinition).toOption.get isSome_compile_stamp

/-- The time states the description with the URL that has become a link in it. -/
theorem articles_have_shape_stamp :
    compile .standard .standard stampDefinition = .ok stampView
      ∧ (stampView.render linkEvent .empty).1.toHtml
          = "<article><p><time class=\"when\" datetime=\"Lecture http://a.org/x\">Lecture " ++
            "<a href=\"http://a.org/x\">a.org</a></time></p></article>"
      ∧ (.text "Lecture " ∈ (stampView.render linkEvent .empty).1.subnodes ∧ "Lecture " ≠ "")
      ∧ (∃ attributes children,
          .element .time attributes children ∈ (stampView.render linkEvent .empty).1.subnodes
            ∧ IsWrapper 3 .time attributes children)
      ∧ ∃ attributes children,
          .element .time attributes children
              ∈ (stampView.plain.render linkEvent .empty).1.subnodes
            ∧ IsWrapper 1 .time attributes children := by
  have hview : compile .standard .standard stampDefinition = .ok stampView :=
    eq_ok_get isSome_compile_stamp
  obtain ⟨-, hshape⟩ := articles_have_shape hview
  obtain ⟨-, -, htexts, hwrappers, hplain⟩ := hshape linkEvent .empty
  have htext : "Lecture " ∈ (stampView.render linkEvent .empty).1.texts := by decide +kernel
  have htime : Tag.time ∈ (stampView.render linkEvent .empty).1.tags := by decide +kernel
  have hplainTime : Tag.time ∈ (stampView.plain.render linkEvent .empty).1.tags := by
    decide +kernel
  obtain ⟨attributes, children, hmem⟩ := Article.mem_tags.mp htime
  obtain ⟨attributes', children', hmem'⟩ := Article.mem_tags.mp hplainTime
  have hsub := Article.mem_texts.mp htext
  exact ⟨hview, by decide +kernel, ⟨hsub, htexts _ hsub⟩,
    ⟨attributes, children, hmem, (hwrappers _ _ _ hmem (by decide)).1⟩,
    ⟨attributes', children', hmem', (hplain _ _ _ hmem').2⟩⟩

end Daybook.View
