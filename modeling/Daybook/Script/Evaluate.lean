import Daybook.Script.Token

/-!
# Evaluating tokens

Operands are evaluated before their operator, from left to right, and handed over with empty texts
for those that are missing. What an unknown operator stands for is an empty text.
-/

namespace Daybook.Script

open Daybook.Markup Daybook.Shader

/-- A list of nodes with empty texts behind it up to a length. -/
def padTo (length : Nat) (nodes : List Node) : List Node :=
  nodes ++ List.replicate (length - nodes.length) .empty

mutual

/-- The node that a token stands for. -/
def Token.evaluate (t : OperatorTable) (ctx : Context) : Token → Cached Node
  | .literal text => pure (.text text)
  | .unknown _ => pure .empty
  | .call place operands => do
    let values ← Token.evaluateAll t ctx operands
    match t.get? place with
    | some op => op.handler ctx (padTo op.arity values)
    | none => pure .empty

/-- The nodes that tokens stand for, from left to right. -/
def Token.evaluateAll (t : OperatorTable) (ctx : Context) : List Token → Cached (List Node)
  | [] => pure []
  | token :: tokens => do
    let node ← Token.evaluate t ctx token
    let nodes ← Token.evaluateAll t ctx tokens
    pure (node :: nodes)

end

/-- The paragraph of a line of tokens. -/
def evaluateLine (t : OperatorTable) (ctx : Context) (line : List Token) : Cached Paragraph :=
  Paragraph.ofNodes <$> Token.evaluateAll t ctx line

end Daybook.Script
