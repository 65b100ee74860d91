import Daybook.Calendar.Event
import Daybook.Markup.Node
import Daybook.Replace.Rule
import Daybook.Script.Variable
import Daybook.Shader.Cache

/-!
# Operators

An operator makes a node of the nodes of its operands. Operators stand in a table in the order in
which their names were first registered; registering a name again gives its place a new operator.
-/

namespace Daybook.Script

open Daybook.Calendar Daybook.Markup Daybook.Replace Daybook.Shader

/-- What an operator can refer to besides its operands. -/
structure Context where
  event : Event
  bindings : NameMap Variable
  replacers : NameMap Replacer
  shaders : Shaders

/-- How an operator makes a node. -/
abbrev Handler : Type :=
  Context → List Node → Cached Node

/-- A named operator with the number of operands that it takes. -/
structure Operator where
  name : String
  arity : Nat
  handler : Handler

/-- Puts an operator in the place of the one of its name, or behind all others. -/
def putOperator (op : Operator) : List Operator → List Operator
  | [] => [op]
  | o :: os => if o.name = op.name then op :: os else o :: putOperator op os

/-- The names after an operator was put into a list: those before, and a new one at the end. -/
theorem names_putOperator (op : Operator) (os : List Operator) :
    (putOperator op os).map (·.name) =
      if op.name ∈ os.map (·.name) then os.map (·.name) else os.map (·.name) ++ [op.name] := by
  induction os with
  | nil => simp [putOperator]
  | cons o os ih =>
    unfold putOperator
    split
    · rename_i same
      simp [same]
    · rename_i other
      have new : op.name ≠ o.name := fun h => other h.symm
      rw [List.map_cons, ih]
      simp only [List.map_cons, List.mem_cons, new, false_or]
      split <;> simp

/-- Operators in the order of their first registration, each name once. -/
structure OperatorTable where
  operators : List Operator
  distinct : (operators.map (·.name)).Nodup

namespace OperatorTable

/-- The table without any operator. -/
def empty : OperatorTable :=
  ⟨[], by simp⟩

/-- The table with an operator under its name. -/
def insert (t : OperatorTable) (op : Operator) : OperatorTable where
  operators := putOperator op t.operators
  distinct := by
    rw [names_putOperator]
    split
    · exact t.distinct
    · rename_i new
      exact List.nodup_append.2 ⟨t.distinct, by simp, fun a ha b hb h => by
        rw [List.mem_singleton.1 hb] at h
        exact new (h ▸ ha)⟩

/-- Registers an operator, and tells its place in the table. -/
def register (t : OperatorTable) (op : Operator) : Nat × OperatorTable :=
  (t.operators.findIdx (·.name == op.name), t.insert op)

/-- The table of a list of operators, of which later ones take the place of earlier ones. -/
def ofList (ops : List Operator) : OperatorTable :=
  ops.foldl insert empty

/-- The place of the operator of a name. -/
def resolve? (t : OperatorTable) (name : String) : Option Nat :=
  t.operators.findIdx? (·.name == name)

/-- The operator at a place. -/
def get? (t : OperatorTable) (place : Nat) : Option Operator :=
  t.operators[place]?

/-- The names, in the order of their first registration. -/
def names (t : OperatorTable) : List String :=
  t.operators.map (·.name)

end OperatorTable

end Daybook.Script
