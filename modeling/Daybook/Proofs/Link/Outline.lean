import Daybook.Link.Anchor
import Daybook.Proofs.Markup.Outline

/-!
# Outlines and the link pass

The link pass puts `a` elements between texts and changes nothing else of the tree of tags:
without those elements the tree is what it was (`pruneList_linkNodes`).
-/

namespace Daybook.Link

open Daybook.Markup

/-- Whether a tag is that of links. -/
def isLinkTag (tag : Tag) : Bool :=
  tag = .a

theorem linkNode_of_ne {tag : Tag} (h : tag ≠ .a) (attributes : List Attribute)
    (children : List Node) :
    linkNode (.element tag attributes children)
      = [.element tag attributes (linkNodes children)] := by
  cases tag with
  | a => exact absurd rfl h
  | _ => rw [linkNode]; exact (nomatch ·)

theorem outlineList_textNodes (cs : List Char) :
    outlineList tagOf (textNodes cs) = [] := by
  unfold textNodes
  split <;> rfl

/-- What a text becomes is links between texts. -/
theorem pruneList_linkText (text : String) :
    pruneList isLinkTag (outlineList tagOf (linkText text)) = [] := by
  unfold linkText
  split
  · rfl
  · split
    · rfl
    · rw [outlineList_append, outlineList, outlineList_textNodes, outlineList_textNodes]
      rfl

mutual

theorem pruneList_linkNode : ∀ node : Node,
    pruneList isLinkTag (outlineList tagOf (linkNode node))
      = pruneList isLinkTag (node.outline tagOf)
  | .text value => by
      rw [linkNode, pruneList_linkText, Node.outline, pruneList]
  | .element tag attributes children => by
      by_cases htag : tag = .a
      · subst htag
        rw [linkNode, outlineList, outlineList, List.append_nil]
      · simp only [linkNode_of_ne htag, outlineList, Node.outline, pruneList, Outline.prune,
          List.append_nil, pruneList_linkNodes children]

/-- Without links, the link pass leaves the tree of tags alone. -/
theorem pruneList_linkNodes : ∀ nodes : List Node,
    pruneList isLinkTag (outlineList tagOf (linkNodes nodes))
      = pruneList isLinkTag (outlineList tagOf nodes)
  | [] => by rw [linkNodes]
  | node :: nodes => by
      rw [linkNodes, outlineList_append, pruneList_append, pruneList_linkNode node,
        pruneList_linkNodes nodes, outlineList, pruneList_append]

end

end Daybook.Link
