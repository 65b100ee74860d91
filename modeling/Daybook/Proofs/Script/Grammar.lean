import Daybook.Proofs.Script.Registration
import Daybook.Proofs.Success
import Daybook.Script.Token

/-!
# Accepted tokens

What a grammar makes of a value that it accepts, one statement for each shape of value: a text, a
number and a truth value are literals (`token_literal_ok`), an array is a call of the operator that
its head resolves to, with tokens for the operands taken, or an unknown operator (`token_call_ok`),
and nothing else is accepted (`token_ne_ok`).
-/

namespace Daybook.Script

/-- The text that a value stands for by itself. -/
def literalText? : Json.Value → Option String
  | .string text => some text
  | .number value => some (numberText value)
  | .bool value => some (if value then "true" else "false")
  | _ => none

/-- Whether a value is an array whose first item is a name. -/
def isCall : Json.Value → Bool
  | .array (.string _ :: _) => true
  | _ => false

namespace Grammar

variable {g : Grammar} {depth : Nat}

theorem token_of_literalText? {value : Json.Value} {text : String}
    (h : literalText? value = some text) :
    g.token depth value = g.checkDepth depth >>= fun _ => .ok (.literal text) := by
  cases value with
  | string => obtain rfl := Option.some.inj h; rw [Grammar.token]; rfl
  | number => obtain rfl := Option.some.inj h; rw [Grammar.token]; rfl
  | bool => obtain rfl := Option.some.inj h; rw [Grammar.token]; rfl
  | null => cases h
  | array => cases h
  | object => cases h

theorem token_of_malformed {value : Json.Value} (hliteral : literalText? value = none)
    (hcall : isCall value = false) :
    g.token depth value
      = g.checkDepth depth >>= fun _ => .error (.view (.malformedToken value)) := by
  unfold Grammar.token
  split
  · cases hliteral
  · cases hliteral
  · cases hliteral
  · cases hcall
  · rfl

theorem token_literal_ok {value : Json.Value} {text : String} {token : Token}
    (hvalue : literalText? value = some text) (h : g.token depth value = .ok token) :
    token = .literal text := by
  rw [token_of_literalText? hvalue] at h
  obtain ⟨-, -, h⟩ := bind_ok_iff.mp h
  exact (Except.ok.inj h).symm

theorem token_ne_ok {value : Json.Value} (hliteral : literalText? value = none)
    (hcall : isCall value = false) (token : Token) : g.token depth value ≠ .ok token := by
  intro h
  rw [token_of_malformed hliteral hcall] at h
  obtain ⟨-, -, h⟩ := bind_ok_iff.mp h
  cases h

theorem token_call_ok {name : String} {operands : List Json.Value} {token : Token}
    (h : g.token depth (.array (.string name :: operands)) = .ok token) :
    (g.operators.resolve? name = none ∧ token = .unknown name)
      ∨ ∃ place op tokens, g.operators.resolve? name = some place
        ∧ g.operators.get? place = some op
        ∧ g.operandTokens (depth + 1) op.arity operands = .ok tokens
        ∧ token = .call place tokens := by
  rw [Grammar.token] at h
  obtain ⟨-, -, h⟩ := bind_ok_iff.mp h
  cases hplace : g.operators.resolve? name with
  | none =>
      rw [hplace] at h
      obtain ⟨-, -, h⟩ := bind_ok_iff.mp h
      exact Or.inl ⟨rfl, (Except.ok.inj h).symm⟩
  | some place =>
      obtain ⟨op, hget, -⟩ := OperatorTable.get?_of_resolve? hplace
      simp only [hplace, hget, Option.map_some, Option.getD_some] at h
      obtain ⟨-, -, h⟩ := bind_ok_iff.mp h
      obtain ⟨tokens, htokens, h⟩ := bind_ok_iff.mp h
      exact Or.inr ⟨place, op, tokens, rfl, hget, htokens, (Except.ok.inj h).symm⟩

end Grammar

end Daybook.Script
