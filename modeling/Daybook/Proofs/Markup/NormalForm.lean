import Daybook.Markup.Node

/-!
# Normal form of rendered content

How a text is cut into pieces does not show once nodes are written out: an empty text leaves no
trace, and two texts side by side look like one. `normalList` takes nodes to the one form that has
neither, at every level, and `ListIsNormal` says on its own what that form is. Nodes in normal form
stay as they are (`normalList_of_isNormal`), and no text is lost on the way
(`textContent_normal`).

Nodes are put together from the back: `Node.prepend` puts one node before others, and `joinTexts`
does so for a whole list. Texts before a list act on it as one text (`prependText_prependText`),
which is all that the laws of joining need.
-/

namespace Daybook.Markup

/-! ## Joining the texts of one level -/

/-- Nodes with a text before them. It joins the text they begin with, and an empty one is left
out. -/
def prependText (value : String) (nodes : List Node) : List Node :=
  if value.isEmpty then nodes
  else match nodes with
    | .text next :: rest => .text (value ++ next) :: rest
    | nodes => .text value :: nodes

/-- Nodes with one more before them, texts joined. -/
def Node.prepend : Node → List Node → List Node
  | .text value, nodes => prependText value nodes
  | node, nodes => node :: nodes

/-- Nodes with their neighbouring texts joined and their empty ones left out, on one level. -/
def joinTexts (nodes : List Node) : List Node :=
  nodes.foldr Node.prepend []

@[simp] theorem prependText_empty (nodes : List Node) : prependText "" nodes = nodes := rfl

theorem prependText_nil {value : String} (h : value ≠ "") :
    prependText value [] = [.text value] := by
  simp [prependText, h]

theorem prependText_text {value : String} (h : value ≠ "") (next : String) (nodes : List Node) :
    prependText value (.text next :: nodes) = .text (value ++ next) :: nodes := by
  simp [prependText, h]

theorem prependText_element {value : String} (h : value ≠ "") (tag : Tag)
    (attributes : List Attribute) (children nodes : List Node) :
    prependText value (.element tag attributes children :: nodes)
      = .text value :: .element tag attributes children :: nodes := by
  simp [prependText, h]

/-- Two texts before nodes are one. -/
theorem prependText_prependText (value next : String) (nodes : List Node) :
    prependText value (prependText next nodes) = prependText (value ++ next) nodes := by
  by_cases hv : value = ""
  · simp [hv]
  by_cases hn : next = ""
  · simp [hn]
  have hvn : value ++ next ≠ "" := by simp [hv]
  cases nodes with
  | nil => rw [prependText_nil hn, prependText_text hv, prependText_nil hvn]
  | cons node nodes =>
      cases node with
      | text last =>
          rw [prependText_text hn, prependText_text hv, prependText_text hvn, String.append_assoc]
      | element tag attributes children =>
          rw [prependText_element hn, prependText_text hv, prependText_element hvn]

@[simp] theorem joinTexts_cons (node : Node) (nodes : List Node) :
    joinTexts (node :: nodes) = node.prepend (joinTexts nodes) := rfl

/-- What is joined behind some nodes only matters in its joined form. -/
theorem joinTexts_append_congr (front : List Node) {back back' : List Node}
    (h : joinTexts back = joinTexts back') :
    joinTexts (front ++ back) = joinTexts (front ++ back') := by
  simp only [joinTexts, List.foldr_append] at h ⊢
  rw [h]

/-- An element keeps the texts on its two sides apart. -/
theorem joinTexts_append_element (front : List Node) (tag : Tag) (attributes : List Attribute)
    (children : List Node) :
    joinTexts (front ++ [.element tag attributes children])
      = joinTexts front ++ [.element tag attributes children] := by
  induction front with
  | nil => rfl
  | cons node front ih =>
      rw [List.cons_append, joinTexts_cons, joinTexts_cons, ih]
      cases node with
      | element => rfl
      | text value =>
          by_cases hv : value = ""
          · simp [Node.prepend, hv]
          cases joinTexts front with
          | nil => simp only [Node.prepend, List.nil_append, prependText_element hv,
              prependText_nil hv, List.cons_append]
          | cons first rest =>
              cases first with
              | text next => simp only [Node.prepend, List.cons_append, prependText_text hv]
              | element => simp only [Node.prepend, List.cons_append, prependText_element hv]

/-! ## Normal form at every level -/

mutual

/-- A node with everything inside it in normal form. -/
def Node.normal : Node → Node
  | .text value => .text value
  | .element tag attributes children => .element tag attributes (normalList children)

/-- Nodes in normal form: no empty text and no neighbouring texts, at any level. -/
def normalList : List Node → List Node
  | [] => []
  | node :: nodes => node.normal.prepend (normalList nodes)

end

/-- A paragraph in normal form. -/
def Paragraph.normal (p : Paragraph) : Paragraph :=
  ⟨normalList p.nodes⟩

/-- An article with all its paragraphs in normal form. -/
def Article.normal (article : Article) : Article :=
  ⟨article.paragraphs.map Paragraph.normal⟩

@[simp] theorem normalList_text_cons (value : String) (nodes : List Node) :
    normalList (.text value :: nodes) = prependText value (normalList nodes) := rfl

@[simp] theorem normalList_element_cons (tag : Tag) (attributes : List Attribute)
    (children nodes : List Node) :
    normalList (.element tag attributes children :: nodes)
      = .element tag attributes (normalList children) :: normalList nodes := rfl

theorem normalList_eq_joinTexts (nodes : List Node) :
    normalList nodes = joinTexts (nodes.map Node.normal) := by
  induction nodes with
  | nil => rfl
  | cons node nodes ih => rw [normalList, ih, List.map_cons, joinTexts_cons]

/-- Whether nodes begin with a text. -/
def startsWithText : List Node → Bool
  | .text _ :: _ => true
  | _ => false

mutual

/-- A text that is not empty, or an element whose children are in normal form. -/
def Node.IsNormal : Node → Prop
  | .text value => value ≠ ""
  | .element _ _ children => ListIsNormal children

/-- No node is an empty text or has anything out of normal form inside it, and no two texts are
neighbours. -/
def ListIsNormal : List Node → Prop
  | [] => True
  | node :: nodes =>
    node.IsNormal ∧ ListIsNormal nodes
      ∧ (startsWithText [node] = true → startsWithText nodes = false)

end

/-- Whether all paragraphs of an article are in normal form. -/
def Article.IsNormal (article : Article) : Prop :=
  ∀ p ∈ article.paragraphs, ListIsNormal p.nodes

theorem listIsNormal_prependText (value : String) {nodes : List Node} (h : ListIsNormal nodes) :
    ListIsNormal (prependText value nodes) := by
  by_cases hv : value = ""
  · simpa [hv] using h
  cases nodes with
  | nil => simp [prependText_nil hv, ListIsNormal, Node.IsNormal, hv, startsWithText]
  | cons node nodes =>
      cases node with
      | text next =>
          rw [prependText_text hv]
          obtain ⟨-, hrest, hstart⟩ := h
          exact ⟨by simp [Node.IsNormal, hv], hrest, hstart⟩
      | element tag attributes children =>
          rw [prependText_element hv]
          exact ⟨by simp [Node.IsNormal, hv], h, fun _ => rfl⟩

/-- What `normalList` gives is in normal form. -/
theorem listIsNormal_normalList : ∀ nodes : List Node, ListIsNormal (normalList nodes)
  | [] => trivial
  | .text value :: nodes => listIsNormal_prependText value (listIsNormal_normalList nodes)
  | .element _ _ children :: nodes =>
      ⟨listIsNormal_normalList children, listIsNormal_normalList nodes, fun h => nomatch h⟩

/-- Nodes in normal form stay as they are. -/
theorem normalList_of_isNormal : ∀ {nodes : List Node}, ListIsNormal nodes →
    normalList nodes = nodes
  | [], _ => rfl
  | .text value :: nodes, ⟨hv, hnodes, hstart⟩ => by
      have ih := normalList_of_isNormal hnodes
      rw [normalList_text_cons, ih]
      cases nodes with
      | nil => exact prependText_nil hv
      | cons next rest =>
          cases next with
          | text => exact absurd (hstart rfl) (by simp [startsWithText])
          | element => exact prependText_element hv _ _ _ _
  | .element tag attributes children :: nodes, ⟨hchildren, hnodes, _⟩ => by
      rw [normalList_element_cons, normalList_of_isNormal hchildren, normalList_of_isNormal hnodes]

theorem Article.normal_of_isNormal {article : Article} (h : article.IsNormal) :
    article.normal = article := by
  obtain ⟨paragraphs⟩ := article
  have hp : ∀ p ∈ paragraphs, p.normal = id p := fun p hp => by
    rw [Paragraph.normal, normalList_of_isNormal (h p hp), id]
  rw [Article.normal, List.map_congr_left hp, List.map_id]

/-! ## No text is lost -/

theorem join_textsList_prependText (value : String) (nodes : List Node) :
    String.join (Node.textsList (prependText value nodes))
      = value ++ String.join (Node.textsList nodes) := by
  by_cases hv : value = ""
  · simp [hv]
  cases nodes with
  | nil => simp [prependText_nil hv, Node.textsList, Node.texts]
  | cons node nodes =>
      cases node with
      | text next =>
          simp [prependText_text hv, Node.textsList, Node.texts, String.append_assoc]
      | element => simp [prependText_element hv, Node.textsList, Node.texts]

mutual

theorem Node.textContent_normal : ∀ node : Node, node.normal.textContent = node.textContent
  | .text _ => rfl
  | .element _ _ children => join_textsList_normalList children

theorem join_textsList_normalList : ∀ nodes : List Node,
    String.join (Node.textsList (normalList nodes)) = String.join (Node.textsList nodes)
  | [] => rfl
  | .text value :: nodes => by
      rw [normalList_text_cons, join_textsList_prependText, join_textsList_normalList nodes]
      simp [Node.textsList, Node.texts]
  | .element tag attributes children :: nodes => by
      have hhead := join_textsList_normalList children
      have htail := join_textsList_normalList nodes
      simp only [normalList_element_cons, Node.textsList, Node.texts, String.join_append, hhead,
        htail]

end

theorem Paragraph.textContent_normal (p : Paragraph) : p.normal.textContent = p.textContent :=
  join_textsList_normalList p.nodes

end Daybook.Markup
