import Daybook.Proofs.Script.Wrapper

/-!
# The text of tokens

What a token means when there is only text (`Token.plainText`): an operator takes the texts of its
operands and gives a text, and a wrapper gives that of the operand it wraps. No node, no cache and
no markup has a part in it.

Evaluation keeps that meaning: the text of the node that a token evaluates to is the plain text of
the token (`textContent_meaning`), for operators only ever look at the texts of their operands
(`textContent_node`). So wrappers make no difference to any text. A token without them
(`Token.bare`) has the same plain text (`plainText_bare`), and tokens that only differ in wrappers
have the same bare form, wherever inside the tokens the wrappers stand.
-/

namespace Daybook.Script

open Daybook.Markup Daybook.Shader

/-! ## The meaning in texts -/

/-- The text at a place, empty if there is none. -/
def textAt (texts : List String) (index : Nat) : String :=
  texts[index]?.getD ""

/-- The text that an operator makes of those of its operands, with shaders run anew. -/
def Builtin.plainText (ctx : Context) (texts : List String) : Builtin → String
  | .replace => ((ctx.replacers.get? (textAt texts 1)).map (·.apply (textAt texts 0))).getD ""
  | .shader =>
    match readIndex? (Text.trim (textAt texts 2)), readIndex? (Text.trim (textAt texts 3)) with
    | some index, some group =>
      (Builtin.group? ctx.shaders ⟨textAt texts 1, textAt texts 0⟩ index group).getD ""
    | _, _ => ""
  | .var =>
    match ctx.bindings.get? (textAt texts 0) with
    | some value => value.toText
    | none => (ctx.event.reserved? (textAt texts 0)).getD ""
  | .wrapper _ => textAt texts 0

mutual

/-- The text that a token means, with shaders run anew. -/
def Token.plainText (ctx : Context) : Token → String
  | .literal text => text
  | .unknown _ => ""
  | .call place operands =>
    match Builtin.all[place]? with
    | some b => b.plainText ctx (Token.plainTexts ctx operands)
    | none => ""

/-- The texts that tokens mean, in order. -/
def Token.plainTexts (ctx : Context) : List Token → List String
  | [] => []
  | token :: tokens => token.plainText ctx :: Token.plainTexts ctx tokens

end

section

variable (ctx : Context)

theorem plainTexts_eq_map (tokens : List Token) :
    Token.plainTexts ctx tokens = tokens.map (Token.plainText ctx) := by
  induction tokens with
  | nil => rw [Token.plainTexts, List.map_nil]
  | cons token tokens ih => rw [Token.plainTexts, ih, List.map_cons]

theorem meaningAll_eq_map (tokens : List Token) :
    Token.meaningAll ctx tokens = tokens.map (Token.meaning ctx) := by
  induction tokens with
  | nil => rw [Token.meaningAll, List.map_nil]
  | cons token tokens ih => rw [Token.meaningAll, ih, List.map_cons]

/-! ## Operators -/

/-- What an operator makes depends on what texts there are at each place, and an empty one there is
as good as none. -/
theorem plainText_congr {texts texts' : List String}
    (h : ∀ index, textAt texts index = textAt texts' index) (b : Builtin) :
    b.plainText ctx texts = b.plainText ctx texts' := by
  cases b with
  | replace => simp only [Builtin.plainText, h]
  | shader => simp only [Builtin.plainText, h]
  | var => simp only [Builtin.plainText, h]
  | wrapper tag => exact h 0

theorem operandText_eq_textAt (operands : List Node) (index : Nat) :
    operandText operands index = textAt (operands.map Node.textContent) index := by
  rw [operandText, textAt, List.getElem?_map]

theorem textContent_text (value : String) : (Node.text value).textContent = value := by
  simp [Node.textContent, Node.texts]

theorem textContent_textOrEmpty (text : Option String) :
    (textOrEmpty text).textContent = text.getD "" := by
  cases text with
  | none => exact textContent_text ""
  | some value => exact textContent_text value

/-- Of its operands an operator only looks at the texts. -/
theorem textContent_node (operands : List Node) (b : Builtin) :
    (b.node ctx operands).textContent = b.plainText ctx (operands.map Node.textContent) := by
  cases b with
  | replace =>
      rw [Builtin.node, textContent_textOrEmpty, operandText_eq_textAt, operandText_eq_textAt]
      rfl
  | shader =>
      simp only [Builtin.node, Builtin.shaderNode, Builtin.plainText, Builtin.request,
        operandIndex?, operandText_eq_textAt]
      cases readIndex? (Text.trim (textAt (operands.map Node.textContent) 2)) with
      | none => exact textContent_text ""
      | some index =>
          cases readIndex? (Text.trim (textAt (operands.map Node.textContent) 3)) with
          | none => exact textContent_text ""
          | some group => exact textContent_textOrEmpty _
  | var =>
      simp only [Builtin.node, Builtin.varNode, Builtin.plainText, operandText_eq_textAt]
      cases ctx.bindings.get? (textAt (operands.map Node.textContent) 0) with
      | some value => exact textContent_text value.toText
      | none => exact textContent_textOrEmpty _
  | wrapper tag => exact (textContent_wrap tag operands).trans (operandText_eq_textAt operands 0)

/-- The empty texts behind missing operands are as good as none. -/
theorem textAt_padTo (length : Nat) (nodes : List Node) (index : Nat) :
    textAt ((padTo length nodes).map Node.textContent) index
      = textAt (nodes.map Node.textContent) index := by
  have hempty : Node.empty.textContent = "" := textContent_text ""
  rw [padTo, List.map_append, List.map_replicate, hempty, textAt, textAt]
  by_cases hlt : index < (nodes.map Node.textContent).length
  · rw [List.getElem?_append_left hlt]
  · rw [List.getElem?_append_right (Nat.le_of_not_lt hlt),
      List.getElem?_eq_none (Nat.le_of_not_lt hlt), List.getElem?_replicate]
    split <;> rfl

/-! ## Tokens -/

theorem textContent_meaning (token : Token) :
    (token.meaning ctx).textContent = token.plainText ctx := by
  induction token using Token.induction with
  | literal text =>
      rw [Token.meaning, Token.plainText]
      exact textContent_text text
  | unknown name =>
      rw [Token.meaning, Token.plainText]
      exact textContent_text ""
  | call place operands ih =>
      rw [Token.meaning, Token.plainText]
      cases Builtin.all[place]? with
      | none => exact textContent_text ""
      | some b =>
          have htexts : (Token.meaningAll ctx operands).map Node.textContent
              = Token.plainTexts ctx operands := by
            rw [meaningAll_eq_map, plainTexts_eq_map, List.map_map]
            exact List.map_congr_left ih
          simp only [textContent_node]
          rw [← htexts]
          exact plainText_congr ctx (textAt_padTo _ _) b

/-- Whether a token calls a wrapper. -/
def Token.isWrapper : Token → Bool
  | .call place _ =>
    match Builtin.all[place]? with
    | some (.wrapper _) => true
    | _ => false
  | .literal _ | .unknown _ => false

/-- A token means a text, unless it calls a wrapper, which makes an element. -/
theorem meaning_cases (token : Token) :
    (token.isWrapper = false ∧ ∃ value, token.meaning ctx = .text value)
      ∨ token.isWrapper = true ∧ ∃ tag operands, token.meaning ctx = wrap tag operands := by
  cases token with
  | literal text => exact Or.inl ⟨rfl, text, by rw [Token.meaning]⟩
  | unknown name => exact Or.inl ⟨rfl, "", by rw [Token.meaning]; rfl⟩
  | call place operands =>
      have hcall : (Token.call place operands).isWrapper
          = match Builtin.all[place]? with
            | some (.wrapper _) => true
            | _ => false := rfl
      rw [hcall, Token.meaning]
      cases Builtin.all[place]? with
      | none => exact Or.inl ⟨rfl, "", rfl⟩
      | some b =>
          have hcases := handler_cases ctx b
            (padTo b.operator.arity (Token.meaningAll ctx operands)) .empty
          rw [handler_of_sound (Cache.sound_empty ctx.shaders)] at hcases
          rcases hcases with ⟨hno, hvalue⟩ | ⟨tag, rfl, hwrap⟩
          · refine Or.inl ⟨?_, hvalue⟩
            cases b with
            | wrapper tag => exact absurd rfl (hno tag)
            | replace => rfl
            | shader => rfl
            | var => rfl
          · exact Or.inr ⟨rfl, tag, _, hwrap⟩

/-- A token means an empty text exactly when it is no wrapper and its plain text is empty. -/
theorem isEmptyText_meaning_iff {token : Token} :
    (token.meaning ctx).isEmptyText = true
      ↔ token.isWrapper = false ∧ token.plainText ctx = "" := by
  rw [← textContent_meaning]
  rcases meaning_cases ctx token with ⟨hno, value, hvalue⟩ | ⟨hwrapper, tag, operands, hwrap⟩
  · rw [hno, hvalue, textContent_text]
    simp [Node.isEmptyText]
  · rw [hwrapper, hwrap]
    simp [wrap, Node.isEmptyText]

/-- Leaving empty texts out of a paragraph does not change its text. -/
theorem textContent_ofNodes (nodes : List Node) :
    (Paragraph.ofNodes nodes).textContent = String.join (nodes.map Node.textContent) := by
  induction nodes with
  | nil => rfl
  | cons node nodes ih =>
      have hrest : String.join (Node.textsList (nodes.filter (fun node => !node.isEmptyText)))
          = String.join (nodes.map Node.textContent) := ih
      show String.join (Node.textsList ((node :: nodes).filter (fun node => !node.isEmptyText))) = _
      rw [List.filter_cons, List.map_cons, String.join_cons, ← hrest]
      cases hempty : node.isEmptyText with
      | false =>
          rw [Bool.not_false, if_pos rfl, Node.textsList, String.join_append]
          rfl
      | true =>
          cases node with
          | element tag attributes children => exact nomatch hempty
          | text value =>
              have hvalue : value = "" := by simpa [Node.isEmptyText] using hempty
              simp [hvalue, textContent_text]

theorem textContent_line (line : List Token) :
    (Paragraph.ofNodes (Token.meaningAll ctx line)).textContent
      = String.join (line.map (Token.plainText ctx)) := by
  rw [textContent_ofNodes, meaningAll_eq_map, List.map_map]
  congr 1
  exact List.map_congr_left fun token _ => textContent_meaning ctx token

end

/-! ## Wrappers -/

/-- What can be put around a token: a wrapper, with what it is given besides, which is its class. -/
structure Wrapping where
  place : Nat
  operands : List Token
  isWrapper : ∃ tag, Builtin.all[place]? = some (.wrapper tag)

/-- A token inside a wrapper. -/
def Wrapping.around (w : Wrapping) (token : Token) : Token :=
  .call w.place (token :: w.operands)

/-- A token inside a stack of wrappers, the first of which is the outermost. -/
def Token.wrappedIn (token : Token) (stack : List Wrapping) : Token :=
  stack.foldr Wrapping.around token

mutual

/-- A token with every wrapper in it replaced by what it wraps. -/
def Token.bare : Token → Token
  | .literal text => .literal text
  | .unknown name => .unknown name
  | .call place operands =>
    match Builtin.all[place]? with
    | some (.wrapper _) => (Token.bareAll operands).headD (.literal "")
    | _ => .call place (Token.bareAll operands)

/-- Tokens with every wrapper in them replaced by what it wraps. -/
def Token.bareAll : List Token → List Token
  | [] => []
  | token :: tokens => token.bare :: Token.bareAll tokens

end

theorem bareAll_eq_map (tokens : List Token) :
    Token.bareAll tokens = tokens.map Token.bare := by
  induction tokens with
  | nil => rw [Token.bareAll, List.map_nil]
  | cons token tokens ih => rw [Token.bareAll, ih, List.map_cons]

theorem bare_around (w : Wrapping) (token : Token) : (w.around token).bare = token.bare := by
  obtain ⟨tag, htag⟩ := w.isWrapper
  rw [Wrapping.around, Token.bare, htag, Token.bareAll]
  rfl

theorem bare_wrappedIn (token : Token) (stack : List Wrapping) :
    (token.wrappedIn stack).bare = token.bare := by
  induction stack with
  | nil => rfl
  | cons w stack ih =>
      show (w.around (token.wrappedIn stack)).bare = token.bare
      rw [bare_around, ih]

theorem plainText_bare (ctx : Context) (token : Token) :
    token.bare.plainText ctx = token.plainText ctx := by
  induction token using Token.induction with
  | literal text => rw [Token.bare]
  | unknown name => rw [Token.bare]
  | call place operands ih =>
      have htexts : Token.plainTexts ctx (Token.bareAll operands)
          = Token.plainTexts ctx operands := by
        rw [bareAll_eq_map, plainTexts_eq_map, plainTexts_eq_map, List.map_map]
        exact List.map_congr_left ih
      rw [Token.bare, Token.plainText]
      cases hb : Builtin.all[place]? with
      | none => simp only [Token.plainText, hb]
      | some b =>
          cases b with
          | wrapper tag =>
              -- A wrapper without operands wraps nothing, and its bare form is the empty text.
              show ((Token.bareAll operands).headD (.literal "")).plainText ctx
                = textAt (Token.plainTexts ctx operands) 0
              rw [← htexts]
              cases Token.bareAll operands with
              | nil => rfl
              | cons first rest => rfl
          | replace => simp only [Token.plainText, hb, htexts]
          | shader => simp only [Token.plainText, hb, htexts]
          | var => simp only [Token.plainText, hb, htexts]

/-! ## Evaluation -/

section

variable {ctx : Context} {c : Cache} (hc : c.Reachable ctx.shaders)

include hc

theorem textContent_evaluate (token : Token) :
    (Token.evaluate .builtin ctx token c).1.textContent = token.plainText ctx := by
  rw [evaluate_builtin token hc.sound]
  exact textContent_meaning ctx token

theorem textContent_evaluateLine (line : List Token) :
    (evaluateLine .builtin ctx line c).1.textContent
      = String.join (line.map (Token.plainText ctx)) := by
  rw [evaluateLine_builtin line hc.sound]
  exact textContent_line ctx line

theorem reachable_evaluate (token : Token) :
    (Token.evaluate .builtin ctx token c).2.Reachable ctx.shaders := by
  rw [evaluate_builtin token hc.sound]
  exact hc.answerAll (token.requests ctx)

end

/-- **Markup is transparent to text.** Over every cache that comes up, the text of the node that a
token evaluates to is the plain text of the token, and that of a line is made of the plain texts of
its tokens. So an operand of a call may be wrapped in any stack of wrappers with any classes without
changing a text; and lines whose tokens are the same without their wrappers have the same text,
wherever the wrappers stand. -/
theorem markup_transparent_to_text (ctx : Context) (c : Cache) (hc : c.Reachable ctx.shaders) :
    (∀ token, (Token.evaluate .builtin ctx token c).1.textContent = token.plainText ctx
        ∧ (Token.evaluate .builtin ctx token c).2.Reachable ctx.shaders)
      ∧ (∀ line, (evaluateLine .builtin ctx line c).1.textContent
          = String.join (line.map (Token.plainText ctx)))
      ∧ (∀ place front token back stack,
          (Token.evaluate .builtin ctx
              (.call place (front ++ token.wrappedIn stack :: back)) c).1.textContent
            = (Token.evaluate .builtin ctx
              (.call place (front ++ token :: back)) c).1.textContent)
      ∧ (∀ line line', line.map Token.bare = line'.map Token.bare →
          (evaluateLine .builtin ctx line c).1.textContent
            = (evaluateLine .builtin ctx line' c).1.textContent)
      ∧ ∀ token stack, (Token.wrappedIn token stack).bare = token.bare := by
  refine ⟨fun token => ⟨textContent_evaluate hc token, reachable_evaluate hc token⟩,
    textContent_evaluateLine hc, fun place front token back stack => ?_,
    fun line line' hbare => ?_, bare_wrappedIn⟩
  · have hsame : Token.plainText ctx (token.wrappedIn stack) = token.plainText ctx := by
      rw [← plainText_bare, bare_wrappedIn, plainText_bare]
    rw [textContent_evaluate hc, textContent_evaluate hc, Token.plainText, Token.plainText,
      plainTexts_eq_map, plainTexts_eq_map, List.map_append, List.map_append, List.map_cons,
      List.map_cons, hsame]
  · have htexts : ∀ tokens : List Token, tokens.map (Token.plainText ctx)
        = (tokens.map Token.bare).map (Token.plainText ctx) := by
      intro tokens
      rw [List.map_map]
      exact List.map_congr_left fun token _ => (plainText_bare ctx token).symm
    rw [textContent_evaluateLine hc, textContent_evaluateLine hc, htexts line, htexts line', hbare]

theorem isSome_parse_digits :
    (Pattern.Literal.parse .standard "/[0-9]+/g").toOption.isSome := by decide +kernel

/-- A room under a name, and a shader that finds its number. -/
def digitContext : Context :=
  ⟨.ofTimes ⟨⟨2026, 10, 19⟩, ⟨9, 0, 0, 0⟩, 0⟩ ⟨⟨2026, 10, 19⟩, ⟨10, 0, 0, 0⟩, 0⟩,
    .ofList [("kind", .text "Room 12")], .empty,
    .ofList [("room", (Pattern.Literal.parse .standard "/[0-9]+/g").toOption.get
      isSome_parse_digits)]⟩

/-- A wrapper with a class, and a wrapper without one. -/
def boldStack : List Wrapping :=
  [⟨7, [.call 2 [.literal "kind"]], .b, rfl⟩, ⟨8, [], .time, rfl⟩]

/-- The number of the room is found in a wrapped text by a shader with a wrapped name, over a cache
that has been asked before. -/
theorem markup_transparent_to_text_digits :
    (Cache.empty.answerAll digitContext.shaders [⟨"room", "Room 12"⟩]).Reachable
        digitContext.shaders
      ∧ (Token.evaluate .builtin digitContext
          (.call 1 [.call 2 [.literal "kind"], (Token.literal "room").wrappedIn boldStack,
            .literal "0", .literal " 0 "])
          (Cache.empty.answerAll digitContext.shaders [⟨"room", "Room 12"⟩])).1.textContent = "12"
      ∧ (evaluateLine .builtin digitContext
          [.literal "in ", (Token.call 2 [.literal "kind"]).wrappedIn boldStack]
          (Cache.empty.answerAll digitContext.shaders [⟨"room", "Room 12"⟩])).1.textContent
        = "in Room 12" := by
  have hc : (Cache.empty.answerAll digitContext.shaders [⟨"room", "Room 12"⟩]).Reachable
      digitContext.shaders := ⟨_, rfl⟩
  obtain ⟨-, hline, hoperand, -, -⟩ := markup_transparent_to_text digitContext _ hc
  have hnumber := (markup_transparent_to_text digitContext _ hc).1
    (.call 1 ([.call 2 [.literal "kind"]] ++ .literal "room" :: [.literal "0", .literal " 0 "]))
  refine ⟨hc, ?_, ?_⟩
  · refine (hoperand 1 [.call 2 [.literal "kind"]] (.literal "room")
      [.literal "0", .literal " 0 "] boldStack).trans (hnumber.1.trans ?_)
    decide +kernel
  · rw [hline]
    decide +kernel

end Daybook.Script
