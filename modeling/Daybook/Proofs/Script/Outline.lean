import Daybook.Proofs.Markup.Outline
import Daybook.Proofs.Script.Direct

/-!
# Outlines of tokens

The tree of tags that a token evaluates to can be read off the token (`Token.outline`): a wrapper
gives its tag around the tree of its first operand, every other operator gives text
(`handler_cases`). No event, no variable and no state of the cache has a part in it, sound or not
(`outline_evaluate`). What an
operand evaluates to may end up in a name, an index, a class or a text, but never in a tag.
-/

namespace Daybook.Script

open Daybook.Calendar Daybook.Markup Daybook.Shader

/-- The trees of tags that an operator makes of those of its operands. -/
def Builtin.outline (operands : List (List (Outline Tag))) : Builtin → List (Outline Tag)
  | .wrapper tag => [.node tag (operands.headD [])]
  | .replace | .shader | .var => []

mutual

/-- The tree of tags that a token evaluates to. -/
def Token.outline : Token → List (Outline Tag)
  | .literal _ => []
  | .unknown _ => []
  | .call place operands =>
    match Builtin.all[place]? with
    | some b => b.outline (Token.outlineAll operands)
    | none => []

/-- The trees of tags of tokens, one list for each. -/
def Token.outlineAll : List Token → List (List (Outline Tag))
  | [] => []
  | token :: tokens => token.outline :: Token.outlineAll tokens

end

theorem outlineAll_eq_map (tokens : List Token) :
    Token.outlineAll tokens = tokens.map Token.outline := by
  induction tokens with
  | nil => rw [Token.outlineAll, List.map_nil]
  | cons token tokens ih => rw [Token.outlineAll, ih, List.map_cons]

/-! ## Operators -/

section

variable (ctx : Context)

theorem exists_text_textOrEmpty (text : Option String) :
    ∃ value, textOrEmpty text = .text value := by
  cases text with
  | none => exact ⟨"", rfl⟩
  | some value => exact ⟨value, rfl⟩

/-- Whatever a cache holds, an operator makes a text, or it is a wrapper and wraps its first operand
into its tag. -/
theorem handler_cases (b : Builtin) (operands : List Node) (c : Cache) :
    ((∀ tag, b ≠ .wrapper tag) ∧ ∃ value, (b.operator.handler ctx operands c).1 = .text value)
      ∨ ∃ tag, b = .wrapper tag ∧ (b.operator.handler ctx operands c).1 = wrap tag operands := by
  cases b with
  | replace => exact Or.inl ⟨nofun, exists_text_textOrEmpty _⟩
  | shader =>
      refine Or.inl ⟨nofun, ?_⟩
      dsimp only [Builtin.operator]
      unfold shaderHandler
      cases operandIndex? operands 2 with
      | none => exact ⟨"", rfl⟩
      | some index =>
          cases operandIndex? operands 3 with
          | none => exact ⟨"", rfl⟩
          | some group => exact exists_text_textOrEmpty _
  | var =>
      refine Or.inl ⟨nofun, ?_⟩
      dsimp only [Builtin.operator]
      unfold varHandler
      cases ctx.bindings.get? (operandText operands 0) with
      | some value => exact ⟨value.toText, rfl⟩
      | none => exact exists_text_textOrEmpty _
  | wrapper tag => exact Or.inr ⟨tag, rfl, rfl⟩

/-- A wrapper keeps the tree of its first operand, whether or not that is an empty text. -/
theorem outline_wrap (tag : Tag) (operands : List Node) :
    (wrap tag operands).outline tagOf
      = [.node tag ((operands.map (Node.outline tagOf)).headD [])] := by
  rw [wrap, Node.outline, outlineList_filter]
  cases operands with
  | nil => rfl
  | cons first rest =>
      show [Outline.node tag (first.outline tagOf ++ [])] = [.node tag (first.outline tagOf)]
      rw [List.append_nil]

/-- The tree that an operator gives depends on the trees of its operands alone. -/
theorem outline_handler (b : Builtin) (operands : List Node) (c : Cache) :
    ((b.operator.handler ctx operands c).1).outline tagOf
      = b.outline (operands.map (Node.outline tagOf)) := by
  rcases handler_cases ctx b operands c with ⟨hno, value, hvalue⟩ | ⟨tag, rfl, hwrap⟩
  · rw [hvalue]
    cases b with
    | wrapper tag => exact absurd rfl (hno tag)
    | replace => rfl
    | shader => rfl
    | var => rfl
  · rw [hwrap]
    exact outline_wrap tag operands

/-- The empty texts behind missing operands add nothing that a wrapper would take up. -/
theorem outline_padTo (b : Builtin) (length : Nat) (nodes : List Node) :
    b.outline ((padTo length nodes).map (Node.outline tagOf))
      = b.outline (nodes.map (Node.outline tagOf)) := by
  cases b with
  | wrapper tag =>
      cases nodes with
      | nil => cases length <;> rfl
      | cons => rfl
  | replace => rfl
  | shader => rfl
  | var => rfl

/-! ## Tokens -/

mutual

/-- Whatever event is rendered and whatever a cache holds, a token gives its own tree of tags. -/
theorem outline_evaluate : ∀ (token : Token) (c : Cache),
    ((Token.evaluate .builtin ctx token c).1).outline tagOf = token.outline
  | .literal text, c => by rw [Token.evaluate, Token.outline]; rfl
  | .unknown _, c => by rw [Token.evaluate, Token.outline]; rfl
  | .call place operands, c => by
      have hoperands := outline_evaluateAll operands c
      rw [evaluate_call, Token.outline, ← hoperands]
      cases Builtin.all[place]? with
      | none => rfl
      | some b => exact (outline_handler ctx b _ _).trans (outline_padTo b _ _)

theorem outline_evaluateAll : ∀ (tokens : List Token) (c : Cache),
    (Token.evaluateAll .builtin ctx tokens c).1.map (Node.outline tagOf) = Token.outlineAll tokens
  | [], c => by rw [Token.evaluateAll, Token.outlineAll]; rfl
  | token :: tokens, c => by
      rw [Token.evaluateAll, cached_cons, Token.outlineAll, List.map_cons, outline_evaluate token,
        outline_evaluateAll tokens]

end

/-- The tree of a line is made of those of its tokens. -/
theorem outline_evaluateLine (line : List Token) (c : Cache) :
    outlineList tagOf (evaluateLine .builtin ctx line c).1.nodes = line.flatMap Token.outline := by
  show outlineList tagOf ((Token.evaluateAll .builtin ctx line c).1.filter
    (fun node => !node.isEmptyText)) = _
  rw [outlineList_filter, outlineList_eq_flatten, outline_evaluateAll, outlineAll_eq_map,
    List.flatMap_def]

end

/-! ## No token makes a link -/

theorem ne_a_of_wrapper {place : Nat} {tag : Tag}
    (h : Builtin.all[place]? = some (.wrapper tag)) : tag ≠ .a := by
  rintro rfl
  exact absurd (List.mem_of_getElem? h) (by decide)

mutual

theorem Token.a_notMem_labels : ∀ token : Token, Tag.a ∉ labelsList token.outline
  | .literal _ => by rw [Token.outline]; exact List.not_mem_nil
  | .unknown _ => by rw [Token.outline]; exact List.not_mem_nil
  | .call place operands => by
      rw [Token.outline]
      cases hb : Builtin.all[place]? with
      | none => exact List.not_mem_nil
      | some b =>
          cases b with
          | wrapper tag =>
              have hoperands := Token.a_notMem_labelsAll operands
              have hfirst : Tag.a ∉ labelsList ((Token.outlineAll operands).headD []) := by
                cases hall : Token.outlineAll operands with
                | nil => exact List.not_mem_nil
                | cons trees rest => exact hoperands trees (hall ▸ List.mem_cons_self)
              show Tag.a ∉ tag :: labelsList ((Token.outlineAll operands).headD []) ++ []
              rw [List.append_nil, List.mem_cons, not_or]
              exact ⟨(ne_a_of_wrapper hb).symm, hfirst⟩
          | replace => exact List.not_mem_nil
          | shader => exact List.not_mem_nil
          | var => exact List.not_mem_nil

theorem Token.a_notMem_labelsAll : ∀ tokens : List Token,
    ∀ trees ∈ Token.outlineAll tokens, Tag.a ∉ labelsList trees
  | [], trees, h => by rw [Token.outlineAll] at h; exact nomatch h
  | token :: tokens, trees, h => by
      rw [Token.outlineAll] at h
      rcases List.mem_cons.mp h with rfl | hrest
      · exact Token.a_notMem_labels token
      · exact Token.a_notMem_labelsAll tokens trees hrest

end

/-- The tree of a line has no link in it. -/
theorem a_notMem_labels_line (line : List Token) :
    Tag.a ∉ labelsList (line.flatMap Token.outline) := by
  induction line with
  | nil => exact List.not_mem_nil
  | cons token line ih =>
      rw [List.flatMap_cons, labelsList_append, List.mem_append, not_or]
      exact ⟨token.a_notMem_labels, ih⟩

end Daybook.Script
