import Daybook.Proofs.Failure
import Daybook.Proofs.Script.Grammar

/-!
# Visited values

Which of the values inside a token a grammar looks at, and what it finds wrong with them. An
operator's operands are visited as far as the operator takes them; those of a name that the table
does not know are not visited at all. `Occurs` says where a value stands inside a token, for any
choice of operands, and `OperatorTable.visited` lists the visited values with their depths, in the
order in which they are reached (`mem_visited_iff`).

A grammar refuses a token for the first fault of the first visited value that has one
(`failsFor_token`), and accepts a token when it allows all of its visited values.
-/

namespace Daybook.Script

/-! ## Calls -/

/-- What holds of all values that are no calls, and of a call when it holds of its operands, holds
of all values. -/
theorem call_induction {motive : Json.Value → Prop}
    (other : ∀ value, isCall value = false → motive value)
    (call : ∀ name operands, (∀ operand ∈ operands, motive operand) →
      motive (.array (.string name :: operands)))
    (value : Json.Value) : motive value := by
  cases hcall : isCall value with
  | false => exact other value hcall
  | true =>
      match value, hcall with
      | .array (.string name :: operands), _ =>
          exact call name operands fun operand hoperand => call_induction other call operand
termination_by sizeOf value
decreasing_by
  have hlt := List.sizeOf_lt_of_mem hoperand
  simp only [Json.Value.array.sizeOf_spec, List.cons.sizeOf_spec]
  omega

/-- Whether a value has the shape of a token: a text, a number, a truth value, or an array that
begins with a name. -/
def hasTokenShape : Json.Value → Bool
  | .string _ | .number _ | .bool _ => true
  | .array (.string _ :: _) => true
  | .null | .object _ | .array _ => false

namespace OperatorTable

/-- The operator that is registered under a name. -/
def named? (t : OperatorTable) (name : String) : Option Operator :=
  t.operators.find? (·.name == name)

theorem resolve?_bind_get? (t : OperatorTable) (name : String) :
    (t.resolve? name).bind t.get? = t.named? name := by
  rw [named?, List.find?_eq_bind_findIdx?_getElem?]
  rfl

/-- How many operands are visited under a name: as many as its operator takes, none if there is no
such operator. -/
def takes (t : OperatorTable) (name : String) : Nat :=
  ((t.named? name).map (·.arity)).getD 0

/-- The operands that are visited under a name. -/
def taken (t : OperatorTable) (name : String) (operands : List Json.Value) : List Json.Value :=
  operands.take (t.takes name)

end OperatorTable

/-! ## Where a value stands -/

/-- All operands, whatever the name. -/
def everyOperand (_ : String) (operands : List Json.Value) : List Json.Value :=
  operands

/-- `Occurs chosen depth value depth' value'`: inside the token `value`, which is at `depth`, stands
`value'` at `depth'`, and all operands on the way down are among the chosen ones. -/
inductive Occurs (chosen : String → List Json.Value → List Json.Value) :
    Nat → Json.Value → Nat → Json.Value → Prop where
  | self (depth : Nat) (value : Json.Value) : Occurs chosen depth value depth value
  | inside {depth depth' : Nat} {name : String} {operands : List Json.Value}
      {operand value' : Json.Value} :
      operand ∈ chosen name operands → Occurs chosen (depth + 1) operand depth' value' →
        Occurs chosen depth (.array (.string name :: operands)) depth' value'

namespace OperatorTable

variable (t : OperatorTable)

mutual

/-- The visited values of a token at a depth, in the order in which they are reached. -/
def visited (t : OperatorTable) (depth : Nat) : Json.Value → List (Nat × Json.Value)
  | .array (.string name :: operands) =>
    (depth, .array (.string name :: operands)) ::
      t.visitedFirst (depth + 1) (t.takes name) operands
  | value => [(depth, value)]

/-- The visited values of the first operands of a list, as many as are taken. -/
def visitedFirst (t : OperatorTable) (depth : Nat) :
    Nat → List Json.Value → List (Nat × Json.Value)
  | 0, _ => []
  | _, [] => []
  | count + 1, value :: values => t.visited depth value ++ t.visitedFirst depth count values

end

theorem visitedFirst_eq_flatMap (depth : Nat) : ∀ (values : List Json.Value) (count : Nat),
    t.visitedFirst depth count values = (values.take count).flatMap (t.visited depth)
  | values, 0 => by rw [visitedFirst, List.take_zero, List.flatMap_nil]
  | [], count + 1 => by
      rw [visitedFirst, List.take_nil, List.flatMap_nil]
      exact fun h => nomatch h
  | value :: values, count + 1 => by
      rw [visitedFirst, visitedFirst_eq_flatMap depth values count, List.take_succ_cons,
        List.flatMap_cons]

theorem visited_call (depth : Nat) (name : String) (operands : List Json.Value) :
    t.visited depth (.array (.string name :: operands))
      = (depth, .array (.string name :: operands)) ::
        (t.taken name operands).flatMap (t.visited (depth + 1)) := by
  rw [visited, visitedFirst_eq_flatMap, taken]

theorem visited_of_not_call {value : Json.Value} (h : isCall value = false) (depth : Nat) :
    t.visited depth value = [(depth, value)] := by
  unfold visited
  split
  · exact nomatch h
  · rfl

/-- The visited values are those that occur among taken operands. -/
theorem mem_visited_iff {value value' : Json.Value} {depth depth' : Nat} :
    (depth', value') ∈ t.visited depth value ↔ Occurs t.taken depth value depth' value' := by
  constructor
  · induction value using call_induction generalizing depth with
    | other value hcall =>
        rw [t.visited_of_not_call hcall, List.mem_singleton, Prod.mk.injEq]
        rintro ⟨rfl, rfl⟩
        exact .self ..
    | call name operands ih =>
        rw [visited_call, List.mem_cons, List.mem_flatMap, Prod.mk.injEq]
        rintro (⟨rfl, rfl⟩ | ⟨operand, htaken, hoperand⟩)
        · exact .self ..
        · exact .inside htaken (ih operand (List.mem_of_mem_take htaken) hoperand)
  · intro h
    induction h with
    | self depth value =>
        cases hcall : isCall value with
        | false => rw [t.visited_of_not_call hcall]; exact List.mem_singleton_self _
        | true =>
            match value, hcall with
            | .array (.string name :: operands), _ =>
                rw [visited_call]
                exact List.mem_cons_self
    | inside htaken _ ih =>
        rw [visited_call]
        exact List.mem_cons_of_mem _ (List.mem_flatMap.mpr ⟨_, htaken, ih⟩)

/-- What a strict policy has against a value: that it calls an operator that there is not, or with
more operands than the operator takes. -/
def violations : Json.Value → List Violation
  | .array (.string name :: operands) =>
    match t.named? name with
    | none => [.unknownOperator name]
    | some op => faultIf (op.arity < operands.length)
        (.surplusOperands name op.arity operands.length)
  | _ => []

/-- Whether a value, if it is a call, calls a registered operator with no more operands than that
takes. -/
def Conforms : Json.Value → Prop
  | .array (.string name :: operands) =>
    ∃ op, t.named? name = some op ∧ operands.length ≤ op.arity
  | _ => True

theorem violations_eq_nil_iff {value : Json.Value} :
    t.violations value = [] ↔ t.Conforms value := by
  unfold violations
  split
  · rename_i name operands
    rw [Conforms]
    split
    · rename_i hop
      simp [hop]
    · rename_i op hop
      simp [hop]
  · rename_i hother
    unfold Conforms
    split
    · exact absurd rfl (hother _ _)
    · simp

end OperatorTable

/-! ## What is wrong with a visited value -/

namespace Grammar

/-- What is wrong with a value at a depth, in the order in which it is found out. -/
def faultsAt (g : Grammar) (place : Nat × Json.Value) : List Error :=
  faultIf (g.limits.maxTokenDepth < place.1) (.limit (.tokenDepth g.limits.maxTokenDepth)) ++
    faultIf (hasTokenShape place.2 = false) (.view (.malformedToken place.2)) ++
    if g.policy.strictTokens then (g.operators.violations place.2).map .policy else []

variable {g : Grammar}

theorem failsFor_checkDepth (depth : Nat) : FailsFor (g.checkDepth depth)
    (faultIf (g.limits.maxTokenDepth < depth) (.limit (.tokenDepth g.limits.maxTokenDepth))) :=
  failsFor_ite ..

theorem failsFor_tolerate (p : Policy) (violation : Violation) : FailsFor (p.tolerate violation)
    (if p.strictTokens then [.policy violation] else []) := by
  unfold Policy.tolerate
  split <;> rfl

theorem failsFor_checkOperands (name : String) (arity operands : Nat) :
    FailsFor (g.checkOperands name arity operands)
      (if g.policy.strictTokens then
        (faultIf (arity < operands) (.surplusOperands name arity operands)).map .policy
      else []) := by
  unfold checkOperands faultIf
  split
  · exact failsFor_tolerate ..
  · rw [List.map_nil, ite_self]
    rfl

/-- Operands are read one after the other, as many as are taken. -/
theorem operandTokens_eq_mapM (depth : Nat) : ∀ (values : List Json.Value) (count : Nat),
    g.operandTokens depth count values = (values.take count).mapM (g.token depth)
  | values, 0 => by rw [operandTokens, List.take_zero, List.mapM_nil]; rfl
  | [], count + 1 => by
      rw [operandTokens, List.take_nil, List.mapM_nil]
      · rfl
      · exact fun h => nomatch h
  | value :: values, count + 1 => by
      rw [operandTokens, operandTokens_eq_mapM depth values count, List.take_succ_cons,
        List.mapM_cons]

/-- A call under a name that there is not: none of its operands is read. -/
theorem token_of_unnamed {name : String} (h : g.operators.named? name = none) (depth : Nat)
    (operands : List Json.Value) :
    g.token depth (.array (.string name :: operands)) = (do
      g.checkDepth depth
      g.policy.tolerate (.unknownOperator name)
      return .unknown name) := by
  have hplace : g.operators.resolve? name = none := by
    cases hplace : g.operators.resolve? name with
    | none => rfl
    | some place =>
        obtain ⟨op, hget, -⟩ := OperatorTable.get?_of_resolve? hplace
        rw [← OperatorTable.resolve?_bind_get?, hplace, Option.bind_some, hget] at h
        exact nomatch h
  rw [Grammar.token, hplace]

/-- A call of a registered operator: the operands that it takes are read. -/
theorem token_of_named {name : String} {op : Operator} (h : g.operators.named? name = some op)
    (depth : Nat) (operands : List Json.Value) :
    ∃ place, g.operators.resolve? name = some place
      ∧ g.token depth (.array (.string name :: operands)) = (do
        g.checkDepth depth
        g.checkOperands name op.arity operands.length
        return .call place (← (operands.take op.arity).mapM (g.token (depth + 1)))) := by
  rw [← OperatorTable.resolve?_bind_get?] at h
  obtain ⟨place, hplace, hget⟩ := Option.bind_eq_some_iff.mp h
  refine ⟨place, hplace, ?_⟩
  simp only [Grammar.token, hplace, hget, Option.map_some, Option.getD_some,
    operandTokens_eq_mapM]

theorem hasTokenShape_of_not_call {value : Json.Value} (h : isCall value = false) :
    hasTokenShape value = (literalText? value).isSome := by
  unfold hasTokenShape literalText?
  split
  · rfl
  · rfl
  · rfl
  · exact nomatch h
  · rfl
  · rfl
  · split <;> simp_all

theorem faultsAt_call (depth : Nat) (name : String) (operands : List Json.Value) :
    g.faultsAt (depth, .array (.string name :: operands))
      = faultIf (g.limits.maxTokenDepth < depth) (.limit (.tokenDepth g.limits.maxTokenDepth)) ++
        if g.policy.strictTokens then
          (g.operators.violations (.array (.string name :: operands))).map .policy
        else [] := by
  simp [faultsAt, hasTokenShape, faultIf]

/-- **A token is refused for the first fault of its visited values**, in the order in which these
are reached, and accepted if none has any. -/
theorem failsFor_token (value : Json.Value) (depth : Nat) :
    FailsFor (g.token depth value) ((g.operators.visited depth value).flatMap g.faultsAt) := by
  induction value using call_induction generalizing depth with
  | other value hcall =>
      rw [g.operators.visited_of_not_call hcall, List.flatMap_singleton]
      have hviolations : g.operators.violations value = [] := by
        unfold OperatorTable.violations
        split
        · exact nomatch hcall
        · rfl
      have hshape := hasTokenShape_of_not_call hcall
      simp only [faultsAt, hviolations, List.map_nil, ite_self, List.append_nil]
      cases hliteral : literalText? value with
      | some text =>
          rw [hliteral, Option.isSome_some] at hshape
          rw [token_of_literalText? hliteral, hshape]
          exact (failsFor_checkDepth depth).bind fun _ => rfl
      | none =>
          rw [hliteral, Option.isSome_none] at hshape
          rw [token_of_malformed hliteral hcall, hshape]
          exact (failsFor_checkDepth depth).bind fun _ => rfl
  | call name operands ih =>
      rw [OperatorTable.visited_call, List.flatMap_cons, faultsAt_call, List.append_assoc,
        List.flatMap_assoc, OperatorTable.violations, OperatorTable.taken, OperatorTable.takes]
      cases hop : g.operators.named? name with
      | none =>
          rw [token_of_unnamed hop]
          refine (failsFor_checkDepth depth).bind fun _ => ?_
          refine (failsFor_tolerate ..).bind fun _ => ?_
          rfl
      | some op =>
          obtain ⟨place, -, htoken⟩ := token_of_named hop depth operands
          have hoperands : FailsFor ((operands.take op.arity).mapM (g.token (depth + 1)))
              ((operands.take op.arity).flatMap fun operand =>
                (g.operators.visited (depth + 1) operand).flatMap g.faultsAt) :=
            .mapM fun operand htaken => ih operand (List.mem_of_mem_take htaken) (depth + 1)
          rw [htoken]
          refine (failsFor_checkDepth depth).bind fun _ => ?_
          refine FailsFor.bind ?_ fun _ => ?_
          · exact failsFor_checkOperands name op.arity operands.length
          · exact hoperands.map _

/-! ## What a grammar allows -/

/-- A visited value that a grammar has nothing against: it is not too deep and has the shape of a
token, and under a strict policy, if it is a call, its operator is registered and takes all of its
operands. -/
structure Allows (g : Grammar) (depth : Nat) (value : Json.Value) : Prop where
  depth_le : depth ≤ g.limits.maxTokenDepth
  shape : hasTokenShape value = true
  call : g.policy.strictTokens = true → g.operators.Conforms value

theorem faultsAt_eq_nil_iff {depth : Nat} {value : Json.Value} :
    g.faultsAt (depth, value) = [] ↔ g.Allows depth value := by
  rw [faultsAt, List.append_eq_nil_iff, List.append_eq_nil_iff, faultIf_eq_nil_iff,
    faultIf_eq_nil_iff, Nat.not_lt, Bool.not_eq_false]
  constructor
  · rintro ⟨⟨hdepth, hshape⟩, hcall⟩
    refine ⟨hdepth, hshape, fun hstrict => ?_⟩
    rw [if_pos hstrict, List.map_eq_nil_iff] at hcall
    exact g.operators.violations_eq_nil_iff.mp hcall
  · intro h
    refine ⟨⟨h.depth_le, h.shape⟩, ?_⟩
    split
    · rename_i hstrict
      rw [g.operators.violations_eq_nil_iff.mpr (h.call hstrict), List.map_nil]
    · rfl

end Grammar

end Daybook.Script
