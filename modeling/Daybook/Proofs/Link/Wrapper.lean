import Daybook.Proofs.Link.Links

/-!
# The shape of elements, before and after links

What the elements of an article look like that are not links: attributes that are at most a class
and, for `time`, the text that the element stands for; and few children (`IsWrapper`). The text that
a `time` stands for was written down before there were links in it, so it is the text that the
element has with links replaced by their addresses.

The link pass keeps that shape (`isShaped_linkNodes`). It leaves attributes as they are and, with
links replaced, does not change a text (`textContent_unlinked_linkNodes`); it makes at most three
children of each (`length_linkNodes_le`), and none of them is an empty text.
-/

namespace Daybook.Markup

/-- The shape of an element that is not a link, with `most` children at most: a class or none, never
an empty one, and behind it, for `time` alone, the text of the element with links replaced by their
addresses. -/
structure IsWrapper (most : Nat) (tag : Tag) (attributes : List Attribute)
    (children : List Node) : Prop where
  attributes_eq : ∃ className : Option String, className ≠ some "" ∧
    attributes = (className.map (Attribute.mk .className)).toList ++
      if tag = .time then
        [⟨.datetime, (Node.element tag attributes children).unlinked.textContent⟩]
      else []
  length_le : children.length ≤ most

/-- What every node of an article is: a text that is not empty, a link, or a wrapper. -/
def Node.IsShaped (most : Nat) : Node → Prop
  | .text value => value ≠ ""
  | .element tag attributes children => tag ≠ .a → IsWrapper most tag attributes children

variable {most most' : Nat} {tag : Tag} {attributes : List Attribute} {children : List Node}

theorem IsWrapper.mono (h : IsWrapper most tag attributes children) (hle : most ≤ most') :
    IsWrapper most' tag attributes children :=
  ⟨h.attributes_eq, Nat.le_trans h.length_le hle⟩

/-- No attribute of a wrapper is there twice. -/
theorem IsWrapper.nodup_names (h : IsWrapper most tag attributes children) :
    (attributes.map (·.name)).Nodup := by
  obtain ⟨className, -, hattributes⟩ := h.attributes_eq
  rw [hattributes]
  cases className with
  | none => split <;> simp
  | some value => split <;> simp

theorem Node.IsShaped.mono {node : Node} (h : node.IsShaped most) (hle : most ≤ most') :
    node.IsShaped most' := by
  cases node with
  | text value => exact h
  | element tag attributes children => exact fun htag => (h htag).mono hle

end Daybook.Markup

namespace Daybook.Link

open Daybook.Markup

/-! ## What the pass makes of nodes -/

theorem linkNodes_eq_flatMap (nodes : List Node) : linkNodes nodes = nodes.flatMap linkNode := by
  induction nodes with
  | nil => rfl
  | cons node nodes ih => rw [linkNodes, ih, List.flatMap_cons]

theorem mem_subnodesList_linkNodes {sub : Node} {nodes : List Node} :
    sub ∈ subnodesList (linkNodes nodes) ↔ ∃ node ∈ nodes, sub ∈ subnodesList (linkNode node) := by
  rw [linkNodes_eq_flatMap, subnodesList_eq_flatMap, List.flatMap_assoc, List.mem_flatMap]
  simp only [subnodesList_eq_flatMap]

theorem length_textNodes_le (cs : List Char) : (textNodes cs).length ≤ 1 := by
  unfold textNodes
  split
  · exact Nat.zero_le 1
  · exact Nat.le_refl 1

theorem length_linkNode_le (node : Node) : (linkNode node).length ≤ 3 := by
  cases node with
  | text value =>
      rw [linkNode]
      unfold linkText
      split
      · exact Nat.le_add_left 1 2
      · rename_i split hsplit
        split
        · exact Nat.le_add_left 1 2
        · have hfront := length_textNodes_le split.front
          have hback := length_textNodes_le split.back
          simp only [List.length_append, List.length_cons]
          omega
  | element tag attributes children =>
      by_cases htag : tag = .a
      · rw [htag, linkNode]
        exact Nat.le_add_left 1 2
      · rw [linkNode_of_ne htag]
        exact Nat.le_add_left 1 2

theorem length_linkNodes_le (nodes : List Node) :
    (linkNodes nodes).length ≤ 3 * nodes.length := by
  induction nodes with
  | nil => exact Nat.zero_le _
  | cons node nodes ih =>
      have hnode := length_linkNode_le node
      rw [linkNodes, List.length_append, List.length_cons]
      omega

/-- With links replaced by their addresses, the pass does not change the text of an element. -/
theorem textContent_unlinked_linkNodes {tag : Tag} (htag : tag ≠ .a)
    (attributes : List Attribute) (children : List Node) :
    (Node.element tag attributes (linkNodes children)).unlinked.textContent
      = (Node.element tag attributes children).unlinked.textContent := by
  rw [Node.unlinked_of_ne htag, Node.unlinked_of_ne htag]
  show String.join (Node.textsList (unlinkedList (linkNodes children)))
    = String.join (Node.textsList (unlinkedList children))
  -- The children are others, as texts are cut in pieces; they are the same when joined again.
  rw [← join_textsList_normalList (unlinkedList (linkNodes children)),
    normalList_unlinkedList_linkNodes, join_textsList_normalList]

/-- A wrapper with one child is a wrapper with three after the pass. -/
theorem isWrapper_linkNodes {tag : Tag} (htag : tag ≠ .a) {attributes : List Attribute}
    {children : List Node} (h : IsWrapper 1 tag attributes children) :
    IsWrapper 3 tag attributes (linkNodes children) := by
  constructor
  · obtain ⟨className, hclass, hattributes⟩ := h.attributes_eq
    refine ⟨className, hclass, ?_⟩
    rw [textContent_unlinked_linkNodes htag]
    exact hattributes
  · have hlength := length_linkNodes_le children
    have hone := h.length_le
    omega

/-! ## The shape is kept -/

theorem isShaped_textNodes {most : Nat} {cs : List Char} {sub : Node}
    (h : sub ∈ subnodesList (textNodes cs)) : sub.IsShaped most := by
  unfold textNodes at h
  split at h
  · exact nomatch h
  · rename_i hne
    obtain rfl := List.mem_singleton.mp h
    intro hempty
    have hnil : cs = [] := by simpa using congrArg String.toList hempty
    rw [hnil] at hne
    exact hne rfl

theorem isShaped_linkText {most : Nat} {value : String} (hvalue : value ≠ "") {sub : Node}
    (h : sub ∈ subnodesList (linkText value)) : sub.IsShaped most := by
  unfold linkText at h
  split at h
  · obtain rfl := List.mem_singleton.mp h
    exact hvalue
  · split at h
    · obtain rfl := List.mem_singleton.mp h
      exact hvalue
    · rename_i host hhost
      rw [subnodesList_append, List.mem_append, subnodesList, List.mem_append] at h
      rcases h with hfront | hanchor | hback
      · exact isShaped_textNodes hfront
      · rcases List.mem_cons.mp hanchor with rfl | htext
        · exact fun hne => absurd rfl hne
        · obtain rfl := List.mem_singleton.mp htext
          exact ne_empty_of_host? hhost
      · exact isShaped_textNodes hback

/-- The pass keeps the shape of a node with everything inside it. -/
theorem isShaped_linkNode (node : Node) (h : ∀ sub ∈ node.subnodes, sub.IsShaped 1) :
    ∀ sub ∈ subnodesList (linkNode node), sub.IsShaped 3 := by
  induction node using Node.induction with
  | text value =>
      intro sub hsub
      rw [linkNode] at hsub
      exact isShaped_linkText (h (.text value) List.mem_cons_self) hsub
  | element tag attributes children ih =>
      intro sub hsub
      by_cases htag : tag = .a
      · subst htag
        rw [linkNode, subnodesList, subnodesList, List.append_nil] at hsub
        exact (h sub hsub).mono (Nat.le_add_left 1 2)
      · rw [linkNode_of_ne htag, subnodesList, subnodesList, List.append_nil, Node.subnodes] at hsub
        rcases List.mem_cons.mp hsub with rfl | hinside
        · intro _
          exact isWrapper_linkNodes htag (h (.element tag attributes children)
            List.mem_cons_self htag)
        · obtain ⟨child, hchild, hmem⟩ := mem_subnodesList_linkNodes.mp hinside
          refine ih child hchild (fun sub' hsub' => h sub' ?_) sub hmem
          exact List.mem_cons_of_mem _ (mem_subnodesList.mpr ⟨child, hchild, hsub'⟩)

/-- The pass keeps the shape of nodes: of texts without empty ones and of wrappers with one child
it makes texts without empty ones, links, and wrappers with at most three children. -/
theorem isShaped_linkNodes {nodes : List Node} (h : ∀ sub ∈ subnodesList nodes, sub.IsShaped 1) :
    ∀ sub ∈ subnodesList (linkNodes nodes), sub.IsShaped 3 := by
  intro sub hsub
  obtain ⟨node, hnode, hmem⟩ := mem_subnodesList_linkNodes.mp hsub
  refine isShaped_linkNode node (fun sub' hsub' => h sub' ?_) sub hmem
  exact mem_subnodesList.mpr ⟨node, hnode, hsub'⟩

end Daybook.Link
