import Mathlib.Data.List.Induction
import Daybook.Script.Operator

/-!
# Tables of registered operators

The tables that there are come from registering operators one after the other, beginning with the
empty table (`registered`); what a name stands for in such a table is the operator last registered
under it (`get?_resolve?_registered`). A place that a name resolves to always holds an operator
(`get?_of_resolve?`), so no look-up by place can miss.
-/

namespace Daybook.Script

/-- The operator that a list of registrations leaves under a name: the last one of that name. -/
def latest? (registrations : List Operator) (name : String) : Option Operator :=
  registrations.reverse.find? (·.name == name)

theorem latest?_concat (registrations : List Operator) (op : Operator) (name : String) :
    latest? (registrations ++ [op]) name
      = if op.name = name then some op else latest? registrations name := by
  by_cases h : op.name = name <;> simp [latest?, h]

theorem find?_putOperator (op : Operator) (name : String) (os : List Operator) :
    (putOperator op os).find? (·.name == name)
      = if op.name = name then some op else os.find? (·.name == name) := by
  induction os with
  | nil => by_cases h : op.name = name <;> simp [putOperator, h]
  | cons o os ih =>
      unfold putOperator
      split
      · rename_i same
        by_cases h : op.name = name <;> simp [same, h]
      · rename_i other
        by_cases ho : o.name = name
        · have hop : op.name ≠ name := fun h => other (ho.trans h.symm)
          simp [ho, hop]
        · simp [ho, ih]

theorem putOperator_of_not_mem {op : Operator} : ∀ {os : List Operator},
    op.name ∉ os.map (·.name) → putOperator op os = os ++ [op]
  | [], _ => rfl
  | o :: os, h => by
      rw [List.map_cons, List.mem_cons, not_or] at h
      rw [putOperator, if_neg (fun same => h.1 same.symm), putOperator_of_not_mem h.2,
        List.cons_append]

namespace OperatorTable

/-- The table after some operators were registered, one after the other. -/
def registered (registrations : List Operator) : OperatorTable :=
  registrations.foldl (fun t op => (t.register op).2) empty

theorem registered_concat (registrations : List Operator) (op : Operator) :
    registered (registrations ++ [op]) = (registered registrations).insert op := by
  rw [registered, List.foldl_append]
  rfl

/-- Operators with different names stand in the order in which they were registered. -/
theorem operators_registered {registrations : List Operator}
    (h : (registrations.map (·.name)).Nodup) :
    (registered registrations).operators = registrations := by
  induction registrations using List.reverseRecOn with
  | nil => rfl
  | append_singleton registrations op ih =>
      rw [List.map_append, List.nodup_append] at h
      obtain ⟨hfront, -, hnew⟩ := h
      have hop : op.name ∉ registrations.map (·.name) := fun hmem =>
        hnew _ hmem _ (List.mem_singleton.mpr rfl) rfl
      rw [registered_concat]
      show putOperator op (registered registrations).operators = registrations ++ [op]
      rw [ih hfront, putOperator_of_not_mem hop]

/-- A place that a name resolves to holds an operator of that name. -/
theorem get?_of_resolve? {t : OperatorTable} {name : String} {place : Nat}
    (h : t.resolve? name = some place) : ∃ op, t.get? place = some op ∧ op.name = name := by
  obtain ⟨hlt, hname, -⟩ := List.findIdx?_eq_some_iff_getElem.mp h
  exact ⟨t.operators[place], List.getElem?_eq_getElem hlt, beq_iff_eq.mp hname⟩

/-- Under every name a table holds the operator last registered under it. -/
theorem find?_registered (registrations : List Operator) (name : String) :
    (registered registrations).operators.find? (·.name == name) = latest? registrations name := by
  induction registrations using List.reverseRecOn with
  | nil => rfl
  | append_singleton registrations op ih =>
      rw [registered_concat, latest?_concat, ← ih]
      exact find?_putOperator ..

/-- The place that a name resolves to holds the operator last registered under it. -/
theorem get?_resolve?_registered (registrations : List Operator) (name : String) :
    ((registered registrations).resolve? name).bind (registered registrations).get?
      = latest? registrations name := by
  rw [← find?_registered, List.find?_eq_bind_findIdx?_getElem?]
  rfl

end OperatorTable

end Daybook.Script
