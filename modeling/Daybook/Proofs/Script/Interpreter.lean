import Daybook.Proofs.Script.Grammar
import Daybook.Script.Evaluate

/-!
# Interpreting JSON directly

A second meaning of article lines that knows neither tokens nor places in a table: `interpret`
walks the JSON values themselves and looks every operator up by its name when it gets there, in the
list of registrations. It is the meaning that the way through tokens has to keep.

The two differ in when things are done. Reading tokens resolves names, drops surplus operands and
drops all operands of unknown operators; evaluating tokens fills missing operands up. The
interpreter does all of it at once, and hands a handler exactly as many operands as it takes
(`operandsFor`). The simulation (`evaluate_eq_interpret`) goes by induction over the values, with
equal computations on the cache on both sides, so that it covers what operands do as well as what
they give.
-/

namespace Daybook.Script

open Daybook.Markup Daybook.Shader

/-! ## The interpreter -/

/-- What a handler with `arity` operands is given: the values there are, and empty texts. -/
def operandsFor (arity : Nat) (values : List Node) : List Node :=
  (List.range arity).map (fun i => values[i]?.getD .empty)

mutual

/-- The node that a JSON value stands for under some registrations. -/
def interpret (registrations : List Operator) (ctx : Context) : Json.Value → Cached Node
  | .string text => pure (.text text)
  | .number value => pure (.text (numberText value))
  | .bool value => pure (.text (if value then "true" else "false"))
  | .array (.string name :: operands) =>
    match latest? registrations name with
    | some op => do
      let values ← interpretFirst registrations ctx op.arity operands
      op.handler ctx (operandsFor op.arity values)
    | none => pure .empty
  | _ => pure .empty

/-- The nodes that the first `count` of some JSON values stand for, from left to right. -/
def interpretFirst (registrations : List Operator) (ctx : Context) :
    Nat → List Json.Value → Cached (List Node)
  | 0, _ => pure []
  | _, [] => pure []
  | count + 1, value :: values => do
    let node ← interpret registrations ctx value
    let nodes ← interpretFirst registrations ctx count values
    pure (node :: nodes)

end

/-- The nodes that a line of JSON values stands for, without empty texts. -/
def interpretLine (registrations : List Operator) (ctx : Context) :
    List Json.Value → Cached (List Node)
  | [] => pure []
  | value :: values => do
    let node ← interpret registrations ctx value
    let nodes ← interpretLine registrations ctx values
    pure (if node.isEmptyText then nodes else node :: nodes)

/-! ## Operands -/

theorem length_interpretFirst_le (registrations : List Operator) (ctx : Context) :
    ∀ (count : Nat) (values : List Json.Value) (c : Cache),
      (interpretFirst registrations ctx count values c).1.length ≤ count
  | 0, _, _ => by rw [interpretFirst]; exact Nat.le_refl 0
  | _ + 1, [], _ => by
      rw [interpretFirst]
      · exact Nat.zero_le _
      · exact fun h => nomatch h
  | count + 1, value :: values, c => by
      rw [interpretFirst]
      exact Nat.succ_le_succ (length_interpretFirst_le registrations ctx count values _)

/-- Filling up to the number of operands is the same on both sides, as there are never more. -/
theorem padTo_eq_operandsFor {arity : Nat} {values : List Node} (h : values.length ≤ arity) :
    padTo arity values = operandsFor arity values := by
  apply List.ext_getElem?
  intro i
  simp only [padTo, operandsFor, List.getElem?_append, List.getElem?_replicate, List.getElem?_map]
  by_cases hi : i < values.length
  · have hia : i < arity := Nat.lt_of_lt_of_le hi h
    simp [hi, hia]
  · by_cases hia : i < arity
    · have hsub : i - values.length < arity - values.length := by omega
      simp [hi, hia, hsub]
    · have hsub : ¬ i - values.length < arity - values.length := by omega
      simp [hi, hia, hsub]

/-! ## The simulation -/

section

variable {registrations : List Operator} {policy : Policy} {limits : Limits} (ctx : Context)

mutual

/-- A token does what the value does that it was read from. -/
theorem evaluate_eq_interpret : ∀ (value : Json.Value) (depth : Nat) (token : Token),
    Grammar.token ⟨.registered registrations, policy, limits⟩ depth value = .ok token →
      Token.evaluate (.registered registrations) ctx token = interpret registrations ctx value
  | .string text, depth, token, h => by
      have hvalue : literalText? (.string text) = some text := rfl
      rw [Grammar.token_literal_ok hvalue h, Token.evaluate, interpret]
  | .number value, depth, token, h => by
      have hvalue : literalText? (.number value) = some (numberText value) := rfl
      rw [Grammar.token_literal_ok hvalue h, Token.evaluate, interpret]
  | .bool value, depth, token, h => by
      rw [Grammar.token_literal_ok rfl h, Token.evaluate, interpret]
  | .null, depth, token, h => absurd h (Grammar.token_ne_ok rfl rfl token)
  | .object _, depth, token, h => absurd h (Grammar.token_ne_ok rfl rfl token)
  | .array [], depth, token, h => absurd h (Grammar.token_ne_ok rfl rfl token)
  | .array (.null :: _), depth, token, h => absurd h (Grammar.token_ne_ok rfl rfl token)
  | .array (.bool _ :: _), depth, token, h => absurd h (Grammar.token_ne_ok rfl rfl token)
  | .array (.number _ :: _), depth, token, h => absurd h (Grammar.token_ne_ok rfl rfl token)
  | .array (.array _ :: _), depth, token, h => absurd h (Grammar.token_ne_ok rfl rfl token)
  | .array (.object _ :: _), depth, token, h => absurd h (Grammar.token_ne_ok rfl rfl token)
  | .array (.string name :: operands), depth, token, h => by
      have hlatest := OperatorTable.get?_resolve?_registered registrations name
      rcases Grammar.token_call_ok h with
        ⟨hplace, rfl⟩ | ⟨place, op, tokens, hplace, hget, htokens, rfl⟩
      · rw [hplace, Option.bind_none] at hlatest
        rw [interpret, ← hlatest, Token.evaluate]
      · rw [hplace, Option.bind_some, hget] at hlatest
        have hall := evaluateAll_eq_interpretFirst operands (depth + 1) op.arity tokens htokens
        rw [interpret, ← hlatest, Token.evaluate, hall]
        funext c
        have hlength := length_interpretFirst_le registrations ctx op.arity operands c
        show (match OperatorTable.get? _ place with
            | some op => op.handler ctx (padTo op.arity (interpretFirst registrations ctx _ _ c).1)
            | none => pure .empty) (interpretFirst registrations ctx _ _ c).2 = _
        simp only [hget, padTo_eq_operandsFor hlength]
        rfl

/-- Tokens do, one after the other, what the operands do that were taken. -/
theorem evaluateAll_eq_interpretFirst : ∀ (values : List Json.Value) (depth count : Nat)
    (tokens : List Token),
    Grammar.operandTokens ⟨.registered registrations, policy, limits⟩ depth count values
        = .ok tokens →
      Token.evaluateAll (.registered registrations) ctx tokens
        = interpretFirst registrations ctx count values
  | [], depth, 0, tokens, h => by
      rw [Grammar.operandTokens] at h
      rw [← Except.ok.inj h, Token.evaluateAll, interpretFirst]
  | _ :: _, depth, 0, tokens, h => by
      rw [Grammar.operandTokens] at h
      rw [← Except.ok.inj h, Token.evaluateAll, interpretFirst]
  | [], depth, count + 1, tokens, h => by
      rw [Grammar.operandTokens] at h
      · rw [← Except.ok.inj h, Token.evaluateAll, interpretFirst]
        exact fun h => nomatch h
      · exact fun h => nomatch h
  | value :: values, depth, count + 1, tokens, h => by
      rw [Grammar.operandTokens] at h
      obtain ⟨token, htoken, h⟩ := bind_ok_iff.mp h
      obtain ⟨rest, hrest, h⟩ := bind_ok_iff.mp h
      rw [← Except.ok.inj h, Token.evaluateAll, interpretFirst,
        evaluate_eq_interpret value depth token htoken,
        evaluateAll_eq_interpretFirst values depth count rest hrest]

end

/-- The nodes of a line are those of its tokens, and empty texts are only dropped afterwards. -/
theorem filter_evaluateAll_eq_interpretLine : ∀ {values : List Json.Value} {tokens : List Token},
    Grammar.line ⟨.registered registrations, policy, limits⟩ values = .ok tokens → ∀ c : Cache,
      ((Token.evaluateAll (.registered registrations) ctx tokens c).1.filter
          (fun node => !node.isEmptyText),
        (Token.evaluateAll (.registered registrations) ctx tokens c).2)
      = interpretLine registrations ctx values c
  | [], _, h, c => by
      obtain rfl := mapM_nil_ok_iff.mp h
      rfl
  | value :: values, _, h, c => by
      obtain ⟨token, tokens, htoken, htokens, rfl⟩ := mapM_cons_ok_iff.mp h
      have hvalue := evaluate_eq_interpret ctx value 0 token htoken
      have hrest := filter_evaluateAll_eq_interpretLine htokens
        (interpret registrations ctx value c).2
      rw [interpretLine, Token.evaluateAll, hvalue]
      show (List.filter _ ((interpret registrations ctx value c).1 :: _), _)
        = (if (interpret registrations ctx value c).1.isEmptyText then
            (interpretLine registrations ctx values _).1 else _ :: _,
          (interpretLine registrations ctx values _).2)
      rw [← hrest, List.filter_cons]
      cases (interpret registrations ctx value c).1.isEmptyText <;> rfl

end

/-- **Reading tokens and evaluating them is interpreting the JSON.** For every table of registered
operators, whatever their handlers do with the cache, and every line that the grammar accepts under
some policy and limits: evaluating its tokens gives the nodes and leaves the cache that the
interpreter gives and leaves. -/
theorem evaluateLine_refines_interpretLine (registrations : List Operator) (policy : Policy)
    (limits : Limits) {values : List Json.Value} {tokens : List Token}
    (h : Grammar.line ⟨.registered registrations, policy, limits⟩ values = .ok tokens)
    (ctx : Context) (c : Cache) :
    ((evaluateLine (.registered registrations) ctx tokens c).1.nodes,
        (evaluateLine (.registered registrations) ctx tokens c).2)
      = interpretLine registrations ctx values c :=
  filter_evaluateAll_eq_interpretLine ctx h c

/-- An operator registered twice; the later handler counts how often it is called. -/
def countOperators : List Operator :=
  [⟨"count", 2, fun _ _ => pure .empty⟩,
    ⟨"count", 1, fun _ operands c => (.element .b [] operands, { c with hits := c.hits + 1 })⟩]

/-- A call with a nested call and a surplus one, an unknown operator with a call, an empty text. -/
def countLine : List Json.Value :=
  [.array [.string "count", .array [.string "count"], .array [.string "count"]],
    .array [.string "other", .array [.string "count"]], .string ""]

/-- The tokens of that line. -/
def countTokens : List Token :=
  [.call 0 [.call 0 []], .unknown "other", .literal ""]

/-- Nothing to refer to but the times of an event. -/
def bareContext : Context :=
  ⟨.ofTimes ⟨⟨2026, 10, 19⟩, ⟨9, 0, 0, 0⟩, 0⟩ ⟨⟨2026, 10, 19⟩, ⟨10, 0, 0, 0⟩, 0⟩,
    .empty, .empty, .empty⟩

theorem evaluateLine_refines_interpretLine_count :
    Grammar.line ⟨.registered countOperators, .standard, .standard⟩ countLine = .ok countTokens
      ∧ ((evaluateLine (.registered countOperators) bareContext countTokens .empty).1.nodes,
          (evaluateLine (.registered countOperators) bareContext countTokens .empty).2)
        = interpretLine countOperators bareContext countLine .empty
      ∧ (interpretLine countOperators bareContext countLine .empty).2.hits = 2 :=
  have hline : Grammar.line ⟨.registered countOperators, .standard, .standard⟩ countLine
      = .ok countTokens := rfl
  ⟨hline,
    evaluateLine_refines_interpretLine countOperators .standard .standard hline bareContext .empty,
    rfl⟩

end Daybook.Script
