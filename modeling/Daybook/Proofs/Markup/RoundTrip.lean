import Daybook.Proofs.Markup.HtmlReader
import Daybook.Proofs.Markup.Outline

/-!
# Articles can be read back

What `HtmlReader` reads from the HTML of an article is that article in normal form. The invariant
that carries the induction over trees: the nodes that the reader holds for the element it is in are
the nodes written out so far, each in normal form, with their texts joined. A text extends them
character by character (`foldl_addChar_joinTexts`), an element is set aside while its children are
read and comes back behind the nodes before it.

So the HTML of an article says everything about it but how its texts were cut, and no text and no
attribute value can pass for markup (`article_reads_back`).
-/

namespace Daybook.Markup

open Daybook.Text HtmlReader

/-! ## Text, one character at a time -/

theorem addChar_element_cons (tag : Tag) (attributes : List Attribute) (children nodes : List Node)
    (c : Char) :
    addChar (.element tag attributes children :: nodes) c
      = .element tag attributes children :: addChar nodes c := by
  cases nodes <;> rfl

theorem addChar_cons_cons (node next : Node) (nodes : List Node) (c : Char) :
    addChar (node :: next :: nodes) c = node :: addChar (next :: nodes) c := by
  cases node <;> rfl

/-- A character at the end of some nodes does not mind a text before them. -/
theorem addChar_prependText (value : String) (nodes : List Node) (c : Char) :
    addChar (prependText value nodes) c = prependText value (addChar nodes c) := by
  by_cases hv : value = ""
  · simp [hv]
  cases nodes with
  | nil => rw [prependText_nil hv, addChar, addChar, prependText_text hv]
  | cons node nodes =>
      cases node with
      | element =>
          rw [prependText_element hv, addChar_cons_cons, addChar_element_cons,
            prependText_element hv]
      | text next =>
          rw [prependText_text hv]
          cases nodes with
          | nil => rw [addChar, addChar, prependText_text hv, String.append_assoc]
          | cons => rw [addChar_cons_cons, addChar_cons_cons, prependText_text hv]

theorem addChar_joinTexts (c : Char) (front : List Node) :
    addChar (joinTexts front) c = joinTexts (front ++ [.text (String.singleton c)]) := by
  induction front with
  | nil => exact (prependText_nil String.singleton_ne_empty).symm
  | cons node front ih =>
      rw [List.cons_append, joinTexts_cons, joinTexts_cons, ← ih]
      cases node with
      | text => exact addChar_prependText ..
      | element => exact addChar_element_cons ..

/-- The characters of a text, one after the other, add up to that text. -/
theorem foldl_addChar_joinTexts : ∀ (cs : List Char) (front : List Node),
    cs.foldl addChar (joinTexts front) = joinTexts (front ++ [.text (String.ofList cs)])
  | [], front => by
      have hempty : joinTexts [.text (String.ofList [])] = joinTexts [] := rfl
      rw [joinTexts_append_congr front hempty, List.append_nil, List.foldl_nil]
  | c :: cs, front => by
      have hjoin : joinTexts [.text (String.singleton c), .text (String.ofList cs)]
          = joinTexts [.text (String.ofList (c :: cs))] := by
        simp only [joinTexts, List.foldr_cons, List.foldr_nil, Node.prepend,
          prependText_prependText]
        rw [String.singleton_eq_ofList, ← String.ofList_append, List.singleton_append]
      rw [List.foldl_cons, addChar_joinTexts, foldl_addChar_joinTexts cs, List.append_assoc,
        List.singleton_append, joinTexts_append_congr front hjoin]

/-! ## Trees -/

mutual

/-- A node is read in behind what was read before it. -/
theorem run_node (paragraphs : List Paragraph) : ∀ (node : Node) (opened : List OpenElement)
    (front : List Node),
    run ⟨.slot .text, .paragraph paragraphs opened (joinTexts front)⟩ node.toHtml.toList
      = some ⟨.slot .text, .paragraph paragraphs opened (joinTexts (front ++ [node.normal]))⟩
  | .text value, opened, front => by
      rw [Node.toHtml, toList_escaped, run_encodedText, foldl_addChar_joinTexts,
        String.ofList_toList, Node.normal]
  | .element tag attributes children, opened, front => by
      have hopen : openHead ⟨tag.name.toList, attributes⟩
          (.paragraph paragraphs opened (joinTexts front))
          = some ⟨.slot .text,
              .paragraph paragraphs (⟨tag, attributes, joinTexts front⟩ :: opened) []⟩ := by
        simp [openHead, Site.openTag, tag?_name]
      have hchildren : run ⟨.slot .text,
            .paragraph paragraphs (⟨tag, attributes, joinTexts front⟩ :: opened) []⟩
            (Node.listToHtml children).toList
          = some ⟨.slot .text, .paragraph paragraphs (⟨tag, attributes, joinTexts front⟩ :: opened)
              (normalList children)⟩ := by
        rw [normalList_eq_joinTexts]
        exact run_nodes paragraphs children _ []
      have hclose := run_closingTag tag (.paragraph paragraphs
        (⟨tag, attributes, joinTexts front⟩ :: opened) (normalList children))
      rw [Node.toHtml, String.toList_append, String.toList_append, List.append_assoc,
        run_append_of_run ((run_openingTag ..).trans hopen), run_append_of_run hchildren, hclose]
      simp [Site.closeTag, Node.normal, joinTexts_append_element]

/-- Nodes are read in one after the other. -/
theorem run_nodes (paragraphs : List Paragraph) : ∀ (nodes : List Node) (opened : List OpenElement)
    (front : List Node),
    run ⟨.slot .text, .paragraph paragraphs opened (joinTexts front)⟩
        (Node.listToHtml nodes).toList
      = some ⟨.slot .text,
          .paragraph paragraphs opened (joinTexts (front ++ nodes.map Node.normal))⟩
  | [], opened, front => by
      rw [List.map_nil, List.append_nil]; rfl
  | node :: nodes, opened, front => by
      rw [Node.listToHtml, String.toList_append,
        run_append_of_run (run_node paragraphs node opened front),
        run_nodes paragraphs nodes opened (front ++ [node.normal]), List.append_assoc,
        List.singleton_append, List.map_cons]

end

theorem run_paragraph (paragraphs : List Paragraph) (p : Paragraph) :
    run ⟨.slot .text, .article paragraphs⟩ p.toHtml.toList
      = some ⟨.slot .text, .article (paragraphs ++ [p.normal])⟩ := by
  have hopen : run ⟨.slot .text, .article paragraphs⟩ "<p>".toList
      = some ⟨.slot .text, .paragraph paragraphs [] []⟩ := rfl
  have hnodes : run ⟨.slot .text, .paragraph paragraphs [] []⟩ (Node.listToHtml p.nodes).toList
      = some ⟨.slot .text, .paragraph paragraphs [] (normalList p.nodes)⟩ := by
    rw [normalList_eq_joinTexts]
    exact run_nodes paragraphs p.nodes [] []
  rw [Paragraph.toHtml, String.toList_append, String.toList_append, List.append_assoc,
    run_append_of_run hopen, run_append_of_run hnodes]
  rfl

theorem run_paragraphs : ∀ ps paragraphs : List Paragraph,
    run ⟨.slot .text, .article paragraphs⟩ (ps.flatMap (·.toHtml.toList))
      = some ⟨.slot .text, .article (paragraphs ++ ps.map Paragraph.normal)⟩
  | [], paragraphs => by rw [List.map_nil, List.append_nil]; rfl
  | p :: ps, paragraphs => by
      rw [List.flatMap_cons, run_append_of_run (run_paragraph paragraphs p),
        run_paragraphs ps, List.append_assoc, List.singleton_append, List.map_cons]

/-- What is read from the HTML of an article is the article in normal form. -/
theorem read?_toHtml (article : Article) : read? article.toHtml = some article.normal := by
  have hopen : run ⟨.slot .text, .start⟩ "<article>".toList = some ⟨.slot .text, .article []⟩ := rfl
  have hrun : run ⟨.slot .text, .start⟩ article.toHtml.toList
      = some ⟨.slot .text, .finished article.normal⟩ := by
    rw [Article.toHtml, String.toList_append, String.toList_append, List.append_assoc,
      run_append_of_run hopen, String.toList_join, List.flatMap_map,
      run_append_of_run (run_paragraphs article.paragraphs [])]
    rfl
  rw [read?, hrun]

/-! ## What HTML says of an article -/

/-- **HTML output can be read back.** Reading gives the article in normal form, and the very article
if it was in normal form; so articles with the same HTML have the same normal form. The tags and
the attributes that are read, and all the text of a paragraph, are those of the article, whatever
its texts and attribute values are. -/
theorem article_reads_back :
    (∀ article : Article, read? article.toHtml = some article.normal)
    ∧ (∀ article : Article, article.IsNormal → read? article.toHtml = some article)
    ∧ (∀ a b : Article, a.toHtml = b.toHtml → a.normal = b.normal)
    ∧ (∀ article : Article, ∃ back, read? article.toHtml = some back
        ∧ back.outline headOf = article.outline headOf
        ∧ back.paragraphs.map Paragraph.textContent
            = article.paragraphs.map Paragraph.textContent) := by
  refine ⟨read?_toHtml, fun article h => ?_, fun a b h => ?_, fun article =>
    ⟨article.normal, read?_toHtml article, Article.outline_normal headOf article, ?_⟩⟩
  · rw [read?_toHtml, Article.normal_of_isNormal h]
  · have hread := (read?_toHtml a).symm.trans (h ▸ read?_toHtml b)
    exact Option.some.inj hread
  · rw [Article.normal, List.map_map]
    exact List.map_congr_left fun p _ => p.textContent_normal

/-- Texts and values full of markup; the text below `b` is cut in two, and there is an empty one. -/
def hostileCut : Article :=
  ⟨[⟨[.text "", .element .b [⟨.title, "\"><i>&quot;"⟩] [.text "</b>", .text "&lt;</p>"]]⟩]⟩

/-- The same in normal form. -/
def hostileWhole : Article :=
  ⟨[⟨[.element .b [⟨.title, "\"><i>&quot;"⟩] [.text "</b>&lt;</p>"]]⟩]⟩

theorem article_reads_back_hostile :
    hostileCut.toHtml = hostileWhole.toHtml
      ∧ hostileCut.normal = hostileWhole.normal
      ∧ hostileWhole.IsNormal
      ∧ read? hostileWhole.toHtml = some hostileWhole := by
  have hsame : hostileCut.toHtml = hostileWhole.toHtml := by decide +kernel
  have hnormal : hostileWhole.IsNormal := by
    simp [hostileWhole, Article.IsNormal, ListIsNormal, Node.IsNormal, startsWithText]
  exact ⟨hsame, article_reads_back.2.2.1 _ _ hsame, hnormal, article_reads_back.2.1 _ hnormal⟩

end Daybook.Markup
