import Daybook.Proofs.Markup.Outline

/-!
# Nodes inside nodes

What is said of every text, every element or every link of rendered content is said of the nodes
that stand in it at any depth (`subnodesList`), in document order: the texts among them are those of
`Article.texts` (`Article.mem_texts`) and the tags of the elements those of `Article.tags`
(`Article.mem_tags`). The links among them are `Article.links`, or `linksList` for some nodes.

`Node.induction` is the induction that most statements about nodes need: over the children of an
element, as members of a list.
-/

namespace Daybook.Markup

/-- What holds of every text, and of an element when it holds of its children, holds of every
node. -/
theorem Node.induction {motive : Node → Prop} (text : ∀ value, motive (.text value))
    (element : ∀ tag attributes children, (∀ child ∈ children, motive child) →
      motive (.element tag attributes children))
    (node : Node) : motive node := by
  refine @Node.rec motive (fun nodes => ∀ node ∈ nodes, motive node) text element ?_ ?_ node
  · intro node hnode
    exact nomatch hnode
  · intro first rest hfirst hrest node hnode
    rcases List.mem_cons.mp hnode with rfl | hmem
    · exact hfirst
    · exact hrest node hmem

/-! ## All nodes -/

mutual

/-- A node and all nodes inside it, in document order. -/
def Node.subnodes : Node → List Node
  | .text value => [.text value]
  | .element tag attributes children => .element tag attributes children :: subnodesList children

/-- Nodes and all nodes inside them, in document order. -/
def subnodesList : List Node → List Node
  | [] => []
  | node :: nodes => node.subnodes ++ subnodesList nodes

end

/-- All nodes of an article, in document order. -/
def Article.subnodes (article : Article) : List Node :=
  article.paragraphs.flatMap (fun p => subnodesList p.nodes)

/-- All texts of an article, in document order. -/
def Article.texts (article : Article) : List String :=
  article.paragraphs.flatMap (fun p => Node.textsList p.nodes)

theorem subnodesList_eq_flatMap (nodes : List Node) :
    subnodesList nodes = nodes.flatMap Node.subnodes := by
  induction nodes with
  | nil => rfl
  | cons node nodes ih => rw [subnodesList, ih, List.flatMap_cons]

theorem mem_subnodesList {sub : Node} {nodes : List Node} :
    sub ∈ subnodesList nodes ↔ ∃ node ∈ nodes, sub ∈ node.subnodes := by
  rw [subnodesList_eq_flatMap, List.mem_flatMap]

theorem mem_article_subnodes {sub : Node} {article : Article} :
    sub ∈ article.subnodes ↔ ∃ p ∈ article.paragraphs, sub ∈ subnodesList p.nodes := by
  rw [Article.subnodes, List.mem_flatMap]

theorem subnodesList_append (front back : List Node) :
    subnodesList (front ++ back) = subnodesList front ++ subnodesList back := by
  simp only [subnodesList_eq_flatMap, List.flatMap_append]

theorem textsList_eq_flatMap (nodes : List Node) :
    Node.textsList nodes = nodes.flatMap Node.texts := by
  induction nodes with
  | nil => rfl
  | cons node nodes ih => rw [Node.textsList, ih, List.flatMap_cons]

theorem Node.mem_texts {value : String} (node : Node) :
    value ∈ node.texts ↔ .text value ∈ node.subnodes := by
  induction node using Node.induction with
  | text value' => simp [Node.texts, Node.subnodes]
  | element tag attributes children ih =>
      simp only [Node.texts, textsList_eq_flatMap, List.mem_flatMap, Node.subnodes, List.mem_cons,
        reduceCtorEq, false_or, mem_subnodesList]
      constructor
      · rintro ⟨child, hchild, hmem⟩
        exact ⟨child, hchild, (ih child hchild).mp hmem⟩
      · rintro ⟨child, hchild, hmem⟩
        exact ⟨child, hchild, (ih child hchild).mpr hmem⟩

/-- The texts of an article are the texts at any depth in it. -/
theorem Article.mem_texts {article : Article} {value : String} :
    value ∈ article.texts ↔ .text value ∈ article.subnodes := by
  simp only [Article.texts, List.mem_flatMap, mem_article_subnodes, textsList_eq_flatMap,
    Node.mem_texts, mem_subnodesList]

/-! ## Links -/

/-- Whether a node is a link. -/
def Node.isLink : Node → Bool
  | .element .a _ _ => true
  | _ => false

/-- The links among nodes, at any depth and in document order. -/
def linksList (nodes : List Node) : List Node :=
  (subnodesList nodes).filter Node.isLink

/-- The links of an article, in document order. -/
def Article.links (article : Article) : List Node :=
  article.subnodes.filter Node.isLink

theorem Article.links_eq_flatMap (article : Article) :
    article.links = article.paragraphs.flatMap (fun p => linksList p.nodes) := by
  rw [Article.links, Article.subnodes, List.filter_flatMap]
  rfl

theorem linksList_append (front back : List Node) :
    linksList (front ++ back) = linksList front ++ linksList back := by
  rw [linksList, subnodesList_append, List.filter_append]
  rfl

theorem linksList_cons (node : Node) (nodes : List Node) :
    linksList (node :: nodes) = linksList [node] ++ linksList nodes :=
  linksList_append [node] nodes

@[simp] theorem linksList_text (value : String) : linksList [.text value] = [] := rfl

theorem isLink_of_ne {tag : Tag} (h : tag ≠ .a) (attributes : List Attribute)
    (children : List Node) : (Node.element tag attributes children).isLink = false := by
  cases tag with
  | a => exact absurd rfl h
  | _ => rfl

theorem exists_of_isLink {node : Node} (h : node.isLink = true) :
    ∃ attributes children, node = .element .a attributes children := by
  cases node with
  | text value => exact nomatch h
  | element tag attributes children =>
      by_cases htag : tag = .a
      · exact ⟨attributes, children, by rw [htag]⟩
      · rw [isLink_of_ne htag] at h
        exact nomatch h

theorem linksList_element_of_ne {tag : Tag} (h : tag ≠ .a) (attributes : List Attribute)
    (children : List Node) :
    linksList [.element tag attributes children] = linksList children := by
  have hnot : ¬(Node.element tag attributes children).isLink = true := by
    rw [isLink_of_ne h]
    exact Bool.false_ne_true
  rw [linksList, subnodesList, subnodesList, List.append_nil, Node.subnodes,
    List.filter_cons_of_neg hnot]
  rfl

mutual

theorem Node.mem_labels_outline : ∀ (node : Node) {tag : Tag},
    tag ∈ labelsList (node.outline tagOf)
      ↔ ∃ attributes children, .element tag attributes children ∈ node.subnodes
  | .text value, tag => by simp [Node.outline, labelsList, Node.subnodes]
  | .element tag' attributes' children', tag => by
      simp only [Node.outline, labelsList, Outline.labels, List.append_nil, List.mem_cons,
        Node.subnodes, mem_labels_outlineList children', tagOf]
      constructor
      · rintro (rfl | ⟨attributes, children, hmem⟩)
        · exact ⟨attributes', children', Or.inl rfl⟩
        · exact ⟨attributes, children, Or.inr hmem⟩
      · rintro ⟨attributes, children, heq | hmem⟩
        · exact Or.inl (Node.element.inj heq).1
        · exact Or.inr ⟨attributes, children, hmem⟩

/-- The labels of an outline of tags are the tags of the elements. -/
theorem mem_labels_outlineList : ∀ (nodes : List Node) {tag : Tag},
    tag ∈ labelsList (outlineList tagOf nodes)
      ↔ ∃ attributes children, .element tag attributes children ∈ subnodesList nodes
  | [], tag => by simp [outlineList, labelsList, subnodesList]
  | node :: nodes, tag => by
      simp only [outlineList, labelsList_append, List.mem_append, subnodesList,
        Node.mem_labels_outline node, mem_labels_outlineList nodes]
      simp only [exists_or]

end

/-- The tags of an article are those of its elements. -/
theorem Article.mem_tags {article : Article} {tag : Tag} :
    tag ∈ article.tags
      ↔ ∃ attributes children, .element tag attributes children ∈ article.subnodes := by
  simp only [Article.tags, Article.outline, List.flatMap_map, List.mem_flatMap,
    mem_labels_outlineList, mem_article_subnodes]
  constructor
  · rintro ⟨p, hp, attributes, children, hmem⟩
    exact ⟨attributes, children, p, hp, hmem⟩
  · rintro ⟨attributes, children, p, hp, hmem⟩
    exact ⟨p, hp, attributes, children, hmem⟩

theorem Article.links_eq_nil_iff {article : Article} :
    article.links = [] ↔ Tag.a ∉ article.tags := by
  rw [Article.mem_tags, Article.links, List.filter_eq_nil_iff]
  constructor
  · rintro hnone ⟨attributes, children, hmem⟩
    exact hnone _ hmem rfl
  · intro hnone node hmem hlink
    obtain ⟨attributes, children, rfl⟩ := exists_of_isLink hlink
    exact hnone ⟨attributes, children, hmem⟩

end Daybook.Markup
