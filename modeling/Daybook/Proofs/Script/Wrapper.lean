import Daybook.Proofs.Link.Wrapper
import Daybook.Proofs.Script.Outline

/-!
# The shape of what tokens evaluate to

What holds of all texts and is kept by wrapping holds of whatever a token evaluates to
(`evaluate_induction`), as operators make nothing else (`handler_cases`). One such thing is the
shape of elements: apart from an empty text at the very top, a token evaluates to texts that are not
empty and to wrappers with one child at most (`isProper_evaluate`); and a line drops the empty texts
that are left (`isShaped_evaluateLine`).
-/

namespace Daybook.Script

open Daybook.Link Daybook.Markup Daybook.Shader

/-- What holds of literals and of unknown operators, and of a call when it holds of its operands,
holds of every token. -/
theorem Token.induction {motive : Token → Prop} (literal : ∀ text, motive (.literal text))
    (unknown : ∀ name, motive (.unknown name))
    (call : ∀ place operands, (∀ operand ∈ operands, motive operand) →
      motive (.call place operands))
    (token : Token) : motive token := by
  refine @Token.rec motive (fun tokens => ∀ token ∈ tokens, motive token) literal call unknown
    ?_ ?_ token
  · intro token htoken
    exact nomatch htoken
  · intro first rest hfirst hrest token htoken
    rcases List.mem_cons.mp htoken with rfl | hmem
    · exact hfirst
    · exact hrest token hmem

section

variable (ctx : Context)

/-! ## Texts and wrappers -/

/-- Each of the nodes of tokens is what one of them evaluates to, over some cache. -/
theorem exists_token_of_mem_evaluateAll {tokens : List Token} {c : Cache} {node : Node}
    (h : node ∈ (Token.evaluateAll .builtin ctx tokens c).1) :
    ∃ token ∈ tokens, ∃ c', node = (Token.evaluate .builtin ctx token c').1 := by
  induction tokens generalizing c with
  | nil =>
      rw [Token.evaluateAll] at h
      exact nomatch h
  | cons token tokens ih =>
      rw [Token.evaluateAll, cached_cons] at h
      rcases List.mem_cons.mp h with hfirst | hrest
      · exact ⟨token, List.mem_cons_self, c, hfirst⟩
      · obtain ⟨token', htoken, c', hnode⟩ := ih hrest
        exact ⟨token', List.mem_cons_of_mem _ htoken, c', hnode⟩

/-- What holds of every text and is kept by wrapping holds of all that tokens evaluate to. -/
theorem evaluate_induction {motive : Node → Prop} (text : ∀ value, motive (.text value))
    (wrapped : ∀ tag operands, tag ≠ .a → (∀ operand ∈ operands, motive operand) →
      motive (wrap tag operands))
    (token : Token) (c : Cache) : motive (Token.evaluate .builtin ctx token c).1 := by
  induction token using Token.induction generalizing c with
  | literal value =>
      rw [Token.evaluate]
      exact text value
  | unknown name =>
      rw [Token.evaluate]
      exact text ""
  | call place operands ih =>
      have hoperands : ∀ node ∈ (Token.evaluateAll .builtin ctx operands c).1, motive node := by
        intro node hnode
        obtain ⟨operand, hoperand, c', rfl⟩ := exists_token_of_mem_evaluateAll ctx hnode
        exact ih operand hoperand c'
      rw [evaluate_call]
      cases hb : Builtin.all[place]? with
      | none => exact text ""
      | some b =>
          have hcases := handler_cases ctx b
            (padTo b.operator.arity (Token.evaluateAll .builtin ctx operands c).1)
            (Token.evaluateAll .builtin ctx operands c).2
          rcases hcases with ⟨-, value, hvalue⟩ | ⟨tag, rfl, hwrap⟩
          · rw [hvalue]
            exact text value
          · rw [hwrap]
            refine wrapped tag _ (ne_a_of_wrapper hb) fun operand hoperand => ?_
            rcases List.mem_append.mp hoperand with hgiven | hmissing
            · exact hoperands operand hgiven
            · rw [List.eq_of_mem_replicate hmissing]
              exact text ""

/-! ## Shape -/

/-- What a token evaluates to: nodes without links, all of them of the shape of wrappers with one
child at most, but for an empty text at the very top. -/
structure IsProper (node : Node) : Prop where
  unlinked : node.unlinked = node
  shaped : node.isEmptyText = false → ∀ sub ∈ node.subnodes, sub.IsShaped 1

theorem isProper_text (value : String) : IsProper (.text value) := by
  refine ⟨rfl, fun hvalue sub hsub => ?_⟩
  obtain rfl := List.mem_singleton.mp hsub
  intro hempty
  rw [hempty] at hvalue
  exact nomatch hvalue

/-- The children of a wrapper: the first operand, unless that is an empty text. -/
theorem mem_children_wrap {operands : List Node} {child : Node}
    (h : child ∈ (operands.take 1).filter (fun node => !node.isEmptyText)) :
    child ∈ operands ∧ child.isEmptyText = false := by
  obtain ⟨hmem, hnonempty⟩ := List.mem_filter.mp h
  exact ⟨List.mem_of_mem_take hmem, by simpa using hnonempty⟩

theorem unlinkedList_of_forall {nodes : List Node} (h : ∀ node ∈ nodes, node.unlinked = node) :
    unlinkedList nodes = nodes := by
  induction nodes with
  | nil => rfl
  | cons node nodes ih =>
      rw [unlinkedList, h node List.mem_cons_self,
        ih fun node' hnode' => h node' (List.mem_cons_of_mem _ hnode')]

/-- Dropping an empty text leaves the text of a wrapper what that of its first operand is. -/
theorem textContent_wrap (tag : Tag) (operands : List Node) :
    (wrap tag operands).textContent = operandText operands 0 := by
  cases operands with
  | nil => rfl
  | cons first rest =>
      show String.join (Node.textsList ([first].filter (fun node => !node.isEmptyText)))
        = String.join first.texts
      cases first with
      | element tag attributes children =>
          simp [Node.isEmptyText, Node.textsList]
      | text value =>
          by_cases hvalue : value = ""
          · simp [Node.isEmptyText, Node.textsList, Node.texts, hvalue]
          · simp [Node.isEmptyText, Node.textsList, hvalue]

theorem isProper_wrap {tag : Tag} {operands : List Node} (htag : tag ≠ .a)
    (h : ∀ operand ∈ operands, IsProper operand) : IsProper (wrap tag operands) := by
  have hunlinked : (wrap tag operands).unlinked = wrap tag operands := by
    rw [wrap, Node.unlinked_of_ne htag, unlinkedList_of_forall]
    intro child hchild
    exact (h child (mem_children_wrap hchild).1).unlinked
  refine ⟨hunlinked, fun _ sub hsub => ?_⟩
  rw [wrap, Node.subnodes] at hsub
  rcases List.mem_cons.mp hsub with rfl | hinside
  · intro _
    constructor
    -- The time is the text of the operand, which the dropping of an empty text leaves as it is.
    · show ∃ className : Option String, className ≠ some "" ∧ wrapperAttributes tag operands
        = (className.map (Attribute.mk .className)).toList ++
          if tag = .time then [⟨.datetime, (wrap tag operands).unlinked.textContent⟩] else []
      rw [hunlinked, textContent_wrap]
      unfold wrapperAttributes
      by_cases hclass : operandText operands 1 = ""
      · exact ⟨none, by simp, by simp [hclass]⟩
      · exact ⟨some (operandText operands 1), by simpa using hclass, by simp [hclass]⟩
    · have hfilter := List.length_filter_le (fun node : Node => !node.isEmptyText)
        (operands.take 1)
      have htake := List.length_take_le 1 operands
      omega
  · obtain ⟨child, hchild, hmem⟩ := mem_subnodesList.mp hinside
    obtain ⟨hoperand, hnonempty⟩ := mem_children_wrap hchild
    exact (h child hoperand).shaped hnonempty sub hmem

theorem isProper_evaluate (token : Token) (c : Cache) :
    IsProper (Token.evaluate .builtin ctx token c).1 :=
  evaluate_induction ctx isProper_text (fun _ _ htag h => isProper_wrap htag h) token c

/-- In the paragraph of a line no empty text is left, and every element is a wrapper. -/
theorem isShaped_evaluateLine (line : List Token) (c : Cache) :
    ∀ sub ∈ subnodesList (evaluateLine .builtin ctx line c).1.nodes, sub.IsShaped 1 := by
  intro sub hsub
  obtain ⟨node, hnode, hmem⟩ := mem_subnodesList.mp hsub
  obtain ⟨heval, hnonempty⟩ := List.mem_filter.mp hnode
  obtain ⟨token, -, c', rfl⟩ := exists_token_of_mem_evaluateAll ctx heval
  exact (isProper_evaluate ctx token c').shaped (by simpa using hnonempty) sub hmem

end

end Daybook.Script
