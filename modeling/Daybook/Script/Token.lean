import Daybook.Limits
import Daybook.Policy
import Daybook.Script.Operator

/-!
# Tokens

A token is a text, or an operator with its operands. In JSON a text may also be a number or a truth
value, and an operator is an array whose first item is its name. Operands that an operator does not
take are not looked at, and neither are those of an operator that the table does not know.
-/

namespace Daybook.Script

/-- A token of a line. An operator is known by its place in the table. -/
inductive Token where
  | literal (text : String)
  | call (operator : Nat) (operands : List Token)
  | unknown (name : String)
deriving Repr, Inhabited

/-- What tokens are read by: the operators there are, how strictly and with what limits. -/
structure Grammar where
  operators : OperatorTable
  policy : Policy
  limits : Limits

namespace Grammar

/-- Accepts a depth within the limits. -/
def checkDepth (g : Grammar) (depth : Nat) : Except Error Unit :=
  if g.limits.maxTokenDepth < depth then .error (.limit (.tokenDepth g.limits.maxTokenDepth))
  else .ok ()

/-- Accepts a number of operands that an operator takes; a lenient policy accepts more. -/
def checkOperands (g : Grammar) (name : String) (arity operands : Nat) : Except Error Unit :=
  if arity < operands then g.policy.tolerate (.surplusOperands name arity operands) else .ok ()

mutual

/-- The token that a value stands for at a depth. -/
def token (g : Grammar) (depth : Nat) : Json.Value → Except Error Token
  | .string text => do
    g.checkDepth depth
    return .literal text
  | .number value => do
    g.checkDepth depth
    return .literal (numberText value)
  | .bool value => do
    g.checkDepth depth
    return .literal (if value then "true" else "false")
  | .array (.string name :: operands) => do
    g.checkDepth depth
    match g.operators.resolve? name with
    | none =>
      g.policy.tolerate (.unknownOperator name)
      return .unknown name
    | some place =>
      let arity := ((g.operators.get? place).map (·.arity)).getD 0
      g.checkOperands name arity operands.length
      return .call place (← g.operandTokens (depth + 1) arity operands)
  | value => do
    g.checkDepth depth
    .error (.view (.malformedToken value))

/-- The tokens of the first operands of a list, as many as are taken. -/
def operandTokens (g : Grammar) (depth : Nat) : Nat → List Json.Value → Except Error (List Token)
  | 0, _ => .ok []
  | _, [] => .ok []
  | count + 1, value :: values => do
    let first ← g.token depth value
    return first :: (← g.operandTokens depth count values)

end

/-- The tokens of a line. -/
def line (g : Grammar) (values : List Json.Value) : Except Error (List Token) :=
  values.mapM (g.token 0)

end Grammar

end Daybook.Script
