import Daybook.Proofs.Script.Registration
import Daybook.Proofs.Shader.Cache
import Daybook.Script.Builtin
import Daybook.Script.Evaluate

/-!
# The operators of every view, without a cache

What tokens mean under the operators of every view when shaders are run anew each time
(`Token.meaning`), and which requests their shader calls make on the way (`Token.requests`). Both
are plain functions of the token and of what operators can refer to. Evaluation is tied to them once
(`evaluate_builtin`): over a sound cache it gives the meaning, and leaves the cache that replaying
the requests leaves. So nothing that is said about meanings has to mention a cache.
-/

namespace Daybook.Script

open Daybook.Markup Daybook.Shader

/-! ## The operators -/

/-- The operators of every view. -/
inductive Builtin where
  | replace
  | shader
  | var
  | wrapper (tag : Tag)
deriving DecidableEq, Repr

namespace Builtin

/-- The operator itself. -/
def operator : Builtin → Operator
  | .replace => ⟨"replace", 2, replaceHandler⟩
  | .shader => ⟨"shader", 4, shaderHandler⟩
  | .var => ⟨"var", 1, varHandler⟩
  | .wrapper tag => ⟨wrapperName tag, 2, wrapHandler tag⟩

/-- The operators in the order of their places in the table. -/
def all : List Builtin :=
  [.replace, .shader, .var] ++ wrapperTags.map .wrapper

theorem nodup_names : (builtinOperators.map (·.name)).Nodup := by
  decide +kernel

theorem map_operator_all : all.map operator = builtinOperators := rfl

theorem operators_builtin : OperatorTable.builtin.operators = all.map operator := by
  rw [map_operator_all]
  exact OperatorTable.operators_registered nodup_names

theorem get?_builtin (place : Nat) :
    OperatorTable.builtin.get? place = all[place]?.map operator := by
  rw [OperatorTable.get?, operators_builtin, List.getElem?_map]

/-- A group of a record, if the shader is known and neither index is out of range. -/
def group? (shaders : Shaders) (r : Request) (index group : Nat) : Option String :=
  (runNamed? shaders r).bind (fun records => records[index]?.bind (·.group? group))

/-- What a shader call with these operands asks for. -/
def request (operands : List Node) : Request :=
  ⟨operandText operands 1, operandText operands 0⟩

/-- The group that a shader call stands for, with the shader run anew. -/
def shaderNode (ctx : Context) (operands : List Node) : Node :=
  match operandIndex? operands 2, operandIndex? operands 3 with
  | some index, some group => textOrEmpty (group? ctx.shaders (request operands) index group)
  | _, _ => .empty

/-- The one request of a shader call with a known name and with operands that read as indices; any
other call makes none. -/
def shaderRequests (ctx : Context) (operands : List Node) : List Request :=
  match operandIndex? operands 2, operandIndex? operands 3 with
  | some _, some _ =>
    if (ctx.shaders.get? (operandText operands 1)).isSome then [request operands] else []
  | _, _ => []

/-- The variable of a name, or what the event holds under it. -/
def varNode (ctx : Context) (operands : List Node) : Node :=
  match ctx.bindings.get? (operandText operands 0) with
  | some value => .text value.toText
  | none => textOrEmpty (ctx.event.reserved? (operandText operands 0))

/-- The node that an operator makes, with shaders run anew. -/
def node (ctx : Context) (operands : List Node) : Builtin → Node
  | .replace =>
    textOrEmpty ((ctx.replacers.get? (operandText operands 1)).map
      (·.apply (operandText operands 0)))
  | .shader => shaderNode ctx operands
  | .var => varNode ctx operands
  | .wrapper tag => wrap tag operands

/-- The requests that an operator makes. -/
def requests (ctx : Context) (operands : List Node) : Builtin → List Request
  | .shader => shaderRequests ctx operands
  | _ => []

end Builtin

/-! ## Tokens -/

mutual

/-- The node that a token means, with shaders run anew. -/
def Token.meaning (ctx : Context) : Token → Node
  | .literal text => .text text
  | .unknown _ => .empty
  | .call place operands =>
    match Builtin.all[place]? with
    | some b => b.node ctx (padTo b.operator.arity (Token.meaningAll ctx operands))
    | none => .empty

/-- The nodes that tokens mean, in order. -/
def Token.meaningAll (ctx : Context) : List Token → List Node
  | [] => []
  | token :: tokens => token.meaning ctx :: Token.meaningAll ctx tokens

end

mutual

/-- The requests of the shader calls inside a token, in the order in which they are made. -/
def Token.requests (ctx : Context) : Token → List Request
  | .literal _ => []
  | .unknown _ => []
  | .call place operands =>
    Token.requestsAll ctx operands ++
      match Builtin.all[place]? with
      | some b => b.requests ctx (padTo b.operator.arity (Token.meaningAll ctx operands))
      | none => []

/-- The requests of the shader calls inside tokens. -/
def Token.requestsAll (ctx : Context) : List Token → List Request
  | [] => []
  | token :: tokens => token.requests ctx ++ Token.requestsAll ctx tokens

end

/-! ## Evaluation is the meaning -/

section

variable {ctx : Context} {c : Cache}

theorem extract?_of_sound (hc : c.Sound ctx.shaders) (r : Request) (index group : Nat) :
    extract? ctx.shaders r.name r.input index group c
      = (Builtin.group? ctx.shaders r index group, c.answer ctx.shaders r) := by
  rw [Builtin.group?, ← (matches?_of_sound hc r).1]
  rfl

theorem varHandler_eq (operands : List Node) :
    varHandler ctx operands c = (Builtin.varNode ctx operands, c) := by
  unfold varHandler Builtin.varNode
  cases ctx.bindings.get? (operandText operands 0) <;> rfl

/-- Over a sound cache a shader call gives what the shader itself would, and asks once if its name
is known and both indices can be read. -/
theorem shaderHandler_of_sound (hc : c.Sound ctx.shaders) (operands : List Node) :
    shaderHandler ctx operands c
      = (Builtin.shaderNode ctx operands,
        c.answerAll ctx.shaders (Builtin.shaderRequests ctx operands)) := by
  unfold shaderHandler Builtin.shaderNode Builtin.shaderRequests
  cases operandIndex? operands 2 with
  | none => rfl
  | some index =>
      cases operandIndex? operands 3 with
      | none => rfl
      | some group =>
          have hcall : (textOrEmpty <$> extract? ctx.shaders (operandText operands 1)
                (operandText operands 0) index group) c
              = (textOrEmpty (Builtin.group? ctx.shaders (Builtin.request operands) index group),
                c.answer ctx.shaders (Builtin.request operands)) :=
            congrArg (fun p : Option String × Cache => (textOrEmpty p.1, p.2))
              (extract?_of_sound hc (Builtin.request operands) index group)
          simp only [hcall]
          cases hl : ctx.shaders.get? (operandText operands 1) with
          | some l => rfl
          | none =>
              have hnone : ctx.shaders.get? (Builtin.request operands).name = none := hl
              rw [Cache.answer, matches?_unknown hnone]
              rfl

/-- Over a sound cache every operator makes its node and its requests. -/
theorem handler_of_sound (hc : c.Sound ctx.shaders) (b : Builtin) (operands : List Node) :
    b.operator.handler ctx operands c
      = (b.node ctx operands, c.answerAll ctx.shaders (b.requests ctx operands)) := by
  cases b with
  | replace => rfl
  | shader =>
      dsimp only [Builtin.operator, Builtin.node, Builtin.requests]
      exact shaderHandler_of_sound hc operands
  | var =>
      dsimp only [Builtin.operator, Builtin.node]
      exact varHandler_eq operands
  | wrapper => rfl

/-- A call gives what its operator makes of the nodes of its operands. -/
theorem evaluate_call (place : Nat) (operands : List Token) (c : Cache) :
    Token.evaluate .builtin ctx (.call place operands) c
      = (match Builtin.all[place]? with
        | some b => b.operator.handler ctx
            (padTo b.operator.arity (Token.evaluateAll .builtin ctx operands c).1)
        | none => pure .empty) (Token.evaluateAll .builtin ctx operands c).2 := by
  rw [Token.evaluate, Builtin.get?_builtin]
  cases Builtin.all[place]? with
  | none => rfl
  | some b => rfl

mutual

/-- Over a sound cache a token gives its meaning and makes its requests. -/
theorem evaluate_builtin : ∀ (token : Token) {c : Cache}, c.Sound ctx.shaders →
    Token.evaluate .builtin ctx token c
      = (token.meaning ctx, c.answerAll ctx.shaders (token.requests ctx))
  | .literal text, c, _ => by
      rw [Token.evaluate, Token.meaning, Token.requests]; rfl
  | .unknown _, c, _ => by
      rw [Token.evaluate, Token.meaning, Token.requests]; rfl
  | .call place operands, c, hc => by
      have hall := evaluateAll_builtin operands hc
      have hsound := sound_answerAll (Token.requestsAll ctx operands) hc
      rw [evaluate_call, Token.meaning, Token.requests, answerAll_append, hall]
      cases Builtin.all[place]? with
      | none => rfl
      | some b => exact handler_of_sound hsound b _

theorem evaluateAll_builtin : ∀ (tokens : List Token) {c : Cache}, c.Sound ctx.shaders →
    Token.evaluateAll .builtin ctx tokens c
      = (Token.meaningAll ctx tokens, c.answerAll ctx.shaders (Token.requestsAll ctx tokens))
  | [], c, _ => by
      rw [Token.evaluateAll, Token.meaningAll, Token.requestsAll]; rfl
  | token :: tokens, c, hc => by
      have htoken := evaluate_builtin token hc
      have htokens := evaluateAll_builtin tokens (sound_answerAll (token.requests ctx) hc)
      rw [Token.evaluateAll, cached_cons, htoken, htokens, Token.meaningAll, Token.requestsAll,
        answerAll_append]

end

/-- A line gives the meanings of its tokens, without the empty texts among them. -/
theorem evaluateLine_builtin (line : List Token) (hc : c.Sound ctx.shaders) :
    evaluateLine .builtin ctx line c
      = (.ofNodes (Token.meaningAll ctx line),
        c.answerAll ctx.shaders (Token.requestsAll ctx line)) := by
  show (Paragraph.ofNodes (Token.evaluateAll .builtin ctx line c).1,
    (Token.evaluateAll .builtin ctx line c).2) = _
  rw [evaluateAll_builtin line hc]

end

/-! ## Only known names are asked for -/

theorem Builtin.allKnown_requests (ctx : Context) (operands : List Node) (b : Builtin) :
    AllKnown ctx.shaders (b.requests ctx operands) := by
  cases b with
  | replace => exact fun _ h => nomatch h
  | var => exact fun _ h => nomatch h
  | wrapper => exact fun _ h => nomatch h
  | shader =>
      intro r hr
      rw [Builtin.requests] at hr
      unfold Builtin.shaderRequests at hr
      split at hr
      · split at hr
        · rename_i hknown
          obtain rfl := List.mem_singleton.mp hr
          exact Option.isSome_iff_exists.mp hknown
        · exact nomatch hr
      · exact nomatch hr

mutual

theorem Token.allKnown_requests (ctx : Context) : ∀ token : Token,
    AllKnown ctx.shaders (token.requests ctx)
  | .literal _ => by rw [Token.requests]; exact fun _ h => nomatch h
  | .unknown _ => by rw [Token.requests]; exact fun _ h => nomatch h
  | .call place operands => by
      rw [Token.requests]
      intro r hr
      rcases List.mem_append.mp hr with hoperands | hcall
      · exact Token.allKnown_requestsAll ctx operands r hoperands
      · split at hcall
        · exact Builtin.allKnown_requests ctx _ _ r hcall
        · exact nomatch hcall

theorem Token.allKnown_requestsAll (ctx : Context) : ∀ tokens : List Token,
    AllKnown ctx.shaders (Token.requestsAll ctx tokens)
  | [] => by rw [Token.requestsAll]; exact fun _ h => nomatch h
  | token :: tokens => by
      rw [Token.requestsAll]
      intro r hr
      exact (List.mem_append.mp hr).elim (Token.allKnown_requests ctx token r)
        (Token.allKnown_requestsAll ctx tokens r)

end

end Daybook.Script
