import Daybook.Proofs.Link.Outline

/-!
# Undoing the link pass

A link that the pass makes holds in its `href` exactly the text that it took the place of. So with
every link replaced by its address (`unlinkedList`) the nodes are what they were, up to where texts
are cut (`normalList_unlinkedList_linkNodes`); in nodes that had no link before, this undoes the
pass (`normal_unlinked_linkUrls`).

Links that were there before stay: wherever one stands (`Place`), it stands there afterwards
(`linkNodes_fill`).
-/

namespace Daybook.Markup

/-! ## Links replaced by their addresses -/

/-- The address that an element refers to, empty if it has none. -/
def Node.address (node : Node) : String :=
  (node.attribute? .href).getD ""

mutual

/-- A node with every link in it replaced by its address. -/
def Node.unlinked : Node → Node
  | .text value => .text value
  | .element .a attributes children => .text (Node.element .a attributes children).address
  | .element tag attributes children => .element tag attributes (unlinkedList children)

/-- Nodes with every link in them replaced by its address. -/
def unlinkedList : List Node → List Node
  | [] => []
  | node :: nodes => node.unlinked :: unlinkedList nodes

end

/-- A paragraph with every link replaced by its address. -/
def Paragraph.unlinked (p : Paragraph) : Paragraph :=
  ⟨unlinkedList p.nodes⟩

/-- An article with every link replaced by its address. -/
def Article.unlinked (article : Article) : Article :=
  ⟨article.paragraphs.map Paragraph.unlinked⟩

/-- The tags of all elements of a paragraph, in document order. -/
def Paragraph.tags (p : Paragraph) : List Tag :=
  labelsList (outlineList tagOf p.nodes)

theorem Node.unlinked_of_ne {tag : Tag} (h : tag ≠ .a) (attributes : List Attribute)
    (children : List Node) :
    (Node.element tag attributes children).unlinked
      = .element tag attributes (unlinkedList children) := by
  cases tag with
  | a => exact absurd rfl h
  | _ => rw [Node.unlinked]; exact (nomatch ·)

theorem unlinkedList_append : ∀ front back : List Node,
    unlinkedList (front ++ back) = unlinkedList front ++ unlinkedList back
  | [], _ => rfl
  | node :: front, back => by
      rw [List.cons_append, unlinkedList, unlinkedList_append front back, unlinkedList,
        List.cons_append]

mutual

theorem Node.unlinked_of_notMem : ∀ {node : Node},
    Tag.a ∉ labelsList (node.outline tagOf) → node.unlinked = node
  | .text _, _ => by rw [Node.unlinked]
  | .element tag attributes children, h => by
      rw [Node.outline, labelsList, Outline.labels, labelsList, List.append_nil, List.mem_cons,
        not_or] at h
      obtain ⟨htag, hchildren⟩ := h
      have hne : tag ≠ .a := Ne.symm htag
      rw [Node.unlinked_of_ne hne, unlinkedList_of_notMem hchildren]

/-- Nodes without links are left alone. -/
theorem unlinkedList_of_notMem : ∀ {nodes : List Node},
    Tag.a ∉ labelsList (outlineList tagOf nodes) → unlinkedList nodes = nodes
  | [], _ => rfl
  | node :: nodes, h => by
      rw [outlineList, labelsList_append, List.mem_append, not_or] at h
      rw [unlinkedList, Node.unlinked_of_notMem h.1, unlinkedList_of_notMem h.2]

end

end Daybook.Markup

namespace Daybook.Link

open Daybook.Markup

/-! ## What the pass makes of a text -/

/-- The parts of a text that is split are the whole text. -/
theorem append_of_splitFrom? {split : Split} : ∀ {passed cs : List Char},
    splitFrom? passed cs = some split →
      split.front ++ split.url ++ split.back = passed.reverse ++ cs
  | _, [], h => nomatch h
  | passed, c :: cs, h => by
      unfold splitFrom? at h
      split at h
      · obtain rfl := Option.some.inj h
        rw [List.append_assoc, List.takeWhile_append_dropWhile]
      · rw [append_of_splitFrom? h, List.reverse_cons, List.append_assoc, List.singleton_append]

theorem unlinkedList_textNodes (cs : List Char) : unlinkedList (textNodes cs) = textNodes cs := by
  unfold textNodes
  split <;> rfl

theorem unlinked_anchor (url : List Char) (host : String) :
    (anchor url host).unlinked = .text (String.ofList url) := rfl

theorem normalList_textNodes_append (cs : List Char) (nodes : List Node) :
    normalList (textNodes cs ++ nodes) = prependText (String.ofList cs) (normalList nodes) := by
  cases cs with
  | nil => rfl
  | cons c cs => rfl

/-- With links undone, what a text becomes acts on the nodes behind it as the text. -/
theorem normalList_unlinkedList_linkText (text : String) (nodes : List Node) :
    normalList (unlinkedList (linkText text) ++ nodes) = prependText text (normalList nodes) := by
  unfold linkText
  split
  · rfl
  · rename_i split hsplit
    split
    · rfl
    · have hparts := append_of_splitFrom? hsplit
      rw [List.reverse_nil, List.nil_append] at hparts
      rw [unlinkedList_append, unlinkedList_textNodes, unlinkedList, unlinkedList_textNodes,
        unlinked_anchor, List.append_assoc, List.cons_append, normalList_textNodes_append,
        normalList_text_cons, normalList_textNodes_append, prependText_prependText,
        prependText_prependText, ← String.ofList_append, ← String.ofList_append, hparts,
        String.ofList_toList]

/-! ## The pass undone -/

mutual

theorem normalList_unlinkedList_linkNode : ∀ (node : Node) (nodes : List Node),
    normalList (unlinkedList (linkNode node) ++ nodes) = normalList (node.unlinked :: nodes)
  | .text value, nodes => by
      rw [linkNode, normalList_unlinkedList_linkText, Node.unlinked, normalList_text_cons]
  | .element tag attributes children, nodes => by
      by_cases htag : tag = .a
      · subst htag
        rw [linkNode]
        rfl
      · rw [linkNode_of_ne htag, unlinkedList, unlinkedList, Node.unlinked_of_ne htag,
          Node.unlinked_of_ne htag, List.singleton_append, normalList_element_cons,
          normalList_element_cons, normalList_unlinkedList_linkNodes children]

/-- Up to where texts are cut, links that the pass makes do not change what is left without
links. -/
theorem normalList_unlinkedList_linkNodes : ∀ nodes : List Node,
    normalList (unlinkedList (linkNodes nodes)) = normalList (unlinkedList nodes)
  | [] => by rw [linkNodes]
  | node :: nodes => by
      rw [linkNodes, unlinkedList_append, normalList_unlinkedList_linkNode node, normalList,
        normalList_unlinkedList_linkNodes nodes, unlinkedList, normalList]

end

/-- In a paragraph without links the pass is undone by replacing links by their addresses. -/
theorem normal_unlinked_linkUrls {p : Paragraph} (h : Tag.a ∉ p.tags) :
    (linkUrls p).unlinked.normal = p.normal := by
  have hnodes := normalList_unlinkedList_linkNodes p.nodes
  rw [unlinkedList_of_notMem h] at hnodes
  exact congrArg Paragraph.mk hnodes

/-! ## Links that were there before -/

/-- A place among nodes: between the nodes of a level, or inside an element of it. -/
inductive Place where
  | level (front back : List Node)
  | inside (front : List Node) (tag : Tag) (attributes : List Attribute) (place : Place)
      (back : List Node)

namespace Place

/-- The nodes with a node at the place. -/
def fill (node : Node) : Place → List Node
  | .level front back => front ++ node :: back
  | .inside front tag attributes place back =>
    front ++ .element tag attributes (place.fill node) :: back

/-- The place in the nodes that the pass makes: what is inside a link stays as it is. -/
def linked : Place → Place
  | .level front back => .level (linkNodes front) (linkNodes back)
  | .inside front tag attributes place back =>
    .inside (linkNodes front) tag attributes (if tag = .a then place else place.linked)
      (linkNodes back)

/-- The elements that a place is inside of, from the outermost on. -/
def path : Place → List (Tag × List Attribute)
  | .level _ _ => []
  | .inside _ tag attributes place _ => (tag, attributes) :: place.path

theorem path_linked : ∀ place : Place, place.linked.path = place.path
  | .level _ _ => rfl
  | .inside front tag attributes place back => by
      rw [linked, path, path]
      split
      · rfl
      · rw [path_linked place]

end Place

theorem linkNodes_append : ∀ front back : List Node,
    linkNodes (front ++ back) = linkNodes front ++ linkNodes back
  | [], _ => by rw [linkNodes, List.nil_append, List.nil_append]
  | node :: front, back => by
      rw [List.cons_append, linkNodes, linkNodes_append front back, linkNodes, List.append_assoc]

/-- A link stays as it is where it is. -/
theorem linkNodes_fill (attributes : List Attribute) (children : List Node) : ∀ place : Place,
    linkNodes (place.fill (.element .a attributes children))
      = place.linked.fill (.element .a attributes children)
  | .level front back => by
      rw [Place.fill, linkNodes_append, linkNodes, linkNode, List.singleton_append, Place.linked,
        Place.fill]
  | .inside front tag outer place back => by
      rw [Place.fill, linkNodes_append, linkNodes, Place.linked, Place.fill]
      by_cases htag : tag = .a
      · subst htag
        rw [linkNode, List.singleton_append, if_pos rfl]
      · rw [linkNode_of_ne htag, List.singleton_append, if_neg htag,
          linkNodes_fill attributes children place]

end Daybook.Link
