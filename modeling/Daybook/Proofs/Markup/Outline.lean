import Daybook.Proofs.Markup.NormalForm

/-!
# Outlines

The outline of nodes is what is left of them without their texts: a tree of labels, one for each
element. What of an element goes into its label is a parameter, so one definition serves for the
tags alone (`tagOf`) and for tags with the names of their attributes (`headOf`). Joining and
dropping texts cannot change an outline (`outlineList_normalList`).

`pruneList` takes out of an outline every node with an unwanted label, with everything below it;
where no label is unwanted it changes nothing (`pruneList_of_labels`).
-/

namespace Daybook.Markup

/-- A tree with a label at every node. -/
inductive Outline (α : Type) where
  | node (label : α) (children : List (Outline α))

variable {α : Type}

/-! ## From nodes to outlines -/

/-- The tag of an element as its label. -/
def tagOf (tag : Tag) (_ : List Attribute) : Tag :=
  tag

/-- The tag of an element and the names of its attributes, in order, as its label. -/
def headOf (tag : Tag) (attributes : List Attribute) : Tag × List AttributeName :=
  (tag, attributes.map (·.name))

mutual

/-- The outline of a node: nothing for a text, one tree for an element. -/
def Node.outline (label : Tag → List Attribute → α) : Node → List (Outline α)
  | .text _ => []
  | .element tag attributes children => [.node (label tag attributes) (outlineList label children)]

/-- The outlines of nodes, one after the other. -/
def outlineList (label : Tag → List Attribute → α) : List Node → List (Outline α)
  | [] => []
  | node :: nodes => node.outline label ++ outlineList label nodes

end

/-- The outlines of the paragraphs of an article. -/
def Article.outline (label : Tag → List Attribute → α) (article : Article) :
    List (List (Outline α)) :=
  article.paragraphs.map (fun p => outlineList label p.nodes)

section

variable (label : Tag → List Attribute → α)

@[simp] theorem outlineList_text_cons (value : String) (nodes : List Node) :
    outlineList label (.text value :: nodes) = outlineList label nodes := rfl

theorem outlineList_append : ∀ front back : List Node,
    outlineList label (front ++ back) = outlineList label front ++ outlineList label back
  | [], _ => rfl
  | node :: front, back => by
      rw [List.cons_append, outlineList, outlineList_append front back, outlineList,
        List.append_assoc]

theorem outlineList_prependText (value : String) (nodes : List Node) :
    outlineList label (prependText value nodes) = outlineList label nodes := by
  by_cases hv : value = ""
  · simp [hv]
  cases nodes with
  | nil => rw [prependText_nil hv, outlineList_text_cons]
  | cons node nodes =>
      cases node with
      | text next => rw [prependText_text hv, outlineList_text_cons, outlineList_text_cons]
      | element => rw [prependText_element hv, outlineList_text_cons]

theorem outlineList_prepend (node : Node) (nodes : List Node) :
    outlineList label (node.prepend nodes) = node.outline label ++ outlineList label nodes := by
  cases node with
  | text value => exact outlineList_prependText label value nodes
  | element => rfl

mutual

theorem Node.outline_normal : ∀ node : Node, node.normal.outline label = node.outline label
  | .text _ => rfl
  | .element tag attributes children => by
      rw [Node.normal, Node.outline, Node.outline, outlineList_normalList children]

/-- Joining and dropping texts leaves the outline alone. -/
theorem outlineList_normalList : ∀ nodes : List Node,
    outlineList label (normalList nodes) = outlineList label nodes
  | [] => rfl
  | node :: nodes => by
      rw [normalList, outlineList_prepend, Node.outline_normal node, outlineList_normalList nodes,
        outlineList]

end

theorem outlineList_eq_flatten : ∀ nodes : List Node,
    outlineList label nodes = (nodes.map (Node.outline label)).flatten
  | [] => rfl
  | node :: nodes => by
      rw [outlineList, outlineList_eq_flatten nodes, List.map_cons, List.flatten_cons]

/-- Leaving empty texts out does not show in the outline. -/
theorem outlineList_filter : ∀ nodes : List Node,
    outlineList label (nodes.filter (fun node => !node.isEmptyText)) = outlineList label nodes
  | [] => rfl
  | node :: nodes => by
      rw [List.filter_cons]
      cases node with
      | text value =>
          cases hvalue : value.isEmpty with
          | true => simpa [Node.isEmptyText, hvalue] using outlineList_filter nodes
          | false => simpa [Node.isEmptyText, hvalue] using outlineList_filter nodes
      | element tag attributes children =>
          rw [if_pos (by rfl), outlineList, outlineList, outlineList_filter nodes]

theorem Article.outline_normal (article : Article) :
    article.normal.outline label = article.outline label := by
  simp only [Article.outline, Article.normal, List.map_map]
  exact List.map_congr_left fun p _ => outlineList_normalList label p.nodes

end

/-! ## Outlines without some of their labels -/

mutual

/-- A tree without the nodes that have an unwanted label and without what is below those. -/
def Outline.prune (unwanted : α → Bool) : Outline α → List (Outline α)
  | .node label children =>
    if unwanted label then [] else [.node label (pruneList unwanted children)]

/-- Trees without the nodes that have an unwanted label. -/
def pruneList (unwanted : α → Bool) : List (Outline α) → List (Outline α)
  | [] => []
  | tree :: trees => tree.prune unwanted ++ pruneList unwanted trees

end

theorem pruneList_append (unwanted : α → Bool) : ∀ front back : List (Outline α),
    pruneList unwanted (front ++ back) = pruneList unwanted front ++ pruneList unwanted back
  | [], _ => rfl
  | tree :: front, back => by
      rw [List.cons_append, pruneList, pruneList_append unwanted front back, pruneList,
        List.append_assoc]

mutual

/-- The labels of a tree, in document order. -/
def Outline.labels : Outline α → List α
  | .node label children => label :: labelsList children

/-- The labels of trees, in document order. -/
def labelsList : List (Outline α) → List α
  | [] => []
  | tree :: trees => tree.labels ++ labelsList trees

end

/-- The tags of all elements of an article, in document order. -/
def Article.tags (article : Article) : List Tag :=
  (article.outline tagOf).flatMap labelsList

theorem labelsList_append : ∀ front back : List (Outline α),
    labelsList (front ++ back) = labelsList front ++ labelsList back
  | [], _ => rfl
  | tree :: front, back => by
      rw [List.cons_append, labelsList, labelsList_append front back, labelsList,
        List.append_assoc]

mutual

theorem Outline.prune_of_labels {unwanted : α → Bool} : ∀ {tree : Outline α},
    (∀ label ∈ tree.labels, unwanted label = false) → tree.prune unwanted = [tree]
  | .node label children, h => by
      rw [Outline.labels] at h
      have hlabel := h label List.mem_cons_self
      have hchildren := pruneList_of_labels (fun l hl => h l (List.mem_cons_of_mem _ hl))
      rw [Outline.prune, hlabel, hchildren]
      rfl

/-- Trees that have wanted labels only are left alone. -/
theorem pruneList_of_labels {unwanted : α → Bool} : ∀ {trees : List (Outline α)},
    (∀ label ∈ labelsList trees, unwanted label = false) → pruneList unwanted trees = trees
  | [], _ => rfl
  | tree :: trees, h => by
      rw [labelsList] at h
      have htree := tree.prune_of_labels (fun l hl => h l (List.mem_append_left _ hl))
      have htrees := pruneList_of_labels (fun l hl => h l (List.mem_append_right _ hl))
      rw [pruneList, htree, htrees, List.singleton_append]

end

end Daybook.Markup
