import Daybook.Proofs.View.Acceptance

/-!
# Values that no view holds

A value that cannot be a token, or that stands too deep, keeps a definition from compiling wherever
the grammar comes to look at it (`not_allows_of_unfit`). A strict policy accepts no call whose
operands it would not look at, so under such a policy the same holds of every operand there is
(`occurs_taken_of_conforms`).

A lenient policy drops surplus operands and those of unknown operators unread, so there they may be
anything (`dropped_operands_may_be_unfit`).
-/

namespace Daybook.View

open Daybook.Script

/-- Whether a value cannot stand at a depth: it has not the shape of a token, or is too deep. -/
def Unfit (limits : Limits) (depth : Nat) (value : Json.Value) : Prop :=
  hasTokenShape value = false ∨ limits.maxTokenDepth < depth

variable {operators : OperatorTable} {policy : Policy} {limits : Limits} {d : Definition}

theorem not_allows_of_unfit {g : Grammar} {depth : Nat} {value : Json.Value}
    (h : Unfit g.limits depth value) : ¬g.Allows depth value := by
  intro hallows
  rcases h with hshape | hdeep
  · rw [hallows.shape] at hshape
    exact nomatch hshape
  · exact absurd hallows.depth_le (Nat.not_le.mpr hdeep)

/-- Where all visited calls leave no operand out, every operand is visited. -/
theorem occurs_taken_of_conforms {token value : Json.Value} {start depth : Nat}
    (h : Occurs everyOperand start token depth value)
    (hconforms : ∀ depth' value', Occurs operators.taken start token depth' value' →
      operators.Conforms value') :
    Occurs operators.taken start token depth value := by
  induction h with
  | self depth value => exact .self depth value
  | @inside _ _ name operands operand _ hmem _ ih =>
      obtain ⟨op, hop, hlength⟩ : operators.Conforms (.array (.string name :: operands)) :=
        hconforms _ _ (.self ..)
      have hall : operators.taken name operands = operands := by
        rw [OperatorTable.taken, OperatorTable.takes, hop]
        exact List.take_of_length_le hlength
      have htaken : operand ∈ operators.taken name operands := by
        rw [hall]
        exact hmem
      exact .inside htaken (ih fun depth' value' h => hconforms depth' value' (.inside htaken h))

/-- Under a strict policy every operand of an acceptable definition is visited. -/
theorem occurs_taken_of_strict (hacceptable : d.Acceptable operators policy limits)
    (hstrict : policy.strictTokens = true) {line : List Json.Value} (hline : line ∈ d.article)
    {token value : Json.Value} (htoken : token ∈ line) {depth : Nat}
    (h : Occurs everyOperand 0 token depth value) : Occurs operators.taken 0 token depth value :=
  occurs_taken_of_conforms h (hacceptable.conforms hstrict line hline token htoken)

/-- What is not acceptable is refused. -/
theorem exists_error_of_not_acceptable (h : ¬d.Acceptable operators policy limits) :
    ∃ e, compileWith operators policy limits d = .error e := by
  cases hcompile : compileWith operators policy limits d with
  | error e => exact ⟨e, rfl⟩
  | ok v => exact absurd (exists_compileWith_ok_iff.mp ⟨v, hcompile⟩) h

/-- **Unfit values never survive where they are read.** If a value of the wrong shape or at too
great a depth occurs in a token of a definition, as the token itself or at any depth among operands
that are taken, the definition does not compile; and under a strict policy it does not compile
wherever among the operands the value stands. -/
theorem compileWith_refuses_unfit (operators : OperatorTable) (policy : Policy) (limits : Limits)
    (d : Definition) {line : List Json.Value} (hline : line ∈ d.article) {token : Json.Value}
    (htoken : token ∈ line) {depth : Nat} {value : Json.Value} (hunfit : Unfit limits depth value)
    (hoccurs : Occurs operators.taken 0 token depth value
      ∨ policy.strictTokens = true ∧ Occurs everyOperand 0 token depth value) :
    ∃ e, compileWith operators policy limits d = .error e := by
  refine exists_error_of_not_acceptable fun hacceptable => ?_
  have hvisited : Occurs operators.taken 0 token depth value := by
    rcases hoccurs with htaken | ⟨hstrict, hevery⟩
    · exact htaken
    · exact occurs_taken_of_strict hacceptable hstrict hline htoken hevery
  have hallows := hacceptable.tokens line hline token htoken depth value hvisited
  exact not_allows_of_unfit (g := ⟨operators, policy, limits⟩) hunfit hallows

/-- A call of an unknown operator with an operand that cannot be a token. -/
def unknownCall : Json.Value :=
  .array [.string "other", .null]

/-- A call of a known operator with a surplus operand that cannot be a token. -/
def surplusCall : Json.Value :=
  .array [.string "var", .string "_event.uid", .null]

/-- A view of those two calls. -/
def strayDefinition : Definition :=
  { Definition.blank with article := [[unknownCall, surplusCall]] }

theorem occurs_null_surplusCall : Occurs everyOperand 0 surplusCall 1 .null :=
  .inside (List.mem_cons_of_mem _ List.mem_cons_self) (.self 1 .null)

/-- Under a strict policy the surplus operand is found; under a lenient one, an operand of an
operand that is taken. -/
theorem compileWith_refuses_unfit_null :
    (∃ e, compileWith .builtin .strict .standard strayDefinition = .error e)
      ∧ ∃ e, compileWith .builtin .standard .standard
          { Definition.blank with
            article := [[.array [.string "<b>", .array [.string "var", .null]]]] } = .error e := by
  constructor
  · exact compileWith_refuses_unfit .builtin .strict .standard strayDefinition List.mem_cons_self
      (List.mem_cons_of_mem _ List.mem_cons_self) (Or.inl rfl)
      (Or.inr ⟨rfl, occurs_null_surplusCall⟩)
  · have htakes : OperatorTable.builtin.takes "<b>" = 2
        ∧ OperatorTable.builtin.takes "var" = 1 := by
      decide +kernel
    have hinner : Occurs OperatorTable.builtin.taken 1 (.array [.string "var", .null]) 2 .null := by
      refine .inside ?_ (.self 2 .null)
      rw [OperatorTable.taken, htakes.2]
      exact List.mem_cons_self
    refine compileWith_refuses_unfit .builtin .standard .standard _ List.mem_cons_self
      List.mem_cons_self (Or.inl rfl) (Or.inl (.inside ?_ hinner))
    rw [OperatorTable.taken, htakes.1]
    exact List.mem_cons_self

/-- Operands that a lenient policy drops may be unfit: that every unfit operand keeps a definition
from compiling does not hold. -/
theorem dropped_operands_may_be_unfit :
    ¬∀ (operators : OperatorTable) (policy : Policy) (limits : Limits) (d : Definition),
      ∀ line ∈ d.article, ∀ token ∈ line, ∀ depth value,
        Occurs everyOperand 0 token depth value → Unfit limits depth value →
          ∃ e, compileWith operators policy limits d = .error e := by
  intro hall
  have hcompiles : (compileWith .builtin .standard .standard strayDefinition).toOption.isSome := by
    decide +kernel
  obtain ⟨e, he⟩ := hall .builtin .standard .standard strayDefinition _ List.mem_cons_self
    unknownCall List.mem_cons_self 1 .null (.inside List.mem_cons_self (.self 1 .null))
    (Or.inl rfl)
  rw [he] at hcompiles
  exact nomatch hcompiles

end Daybook.View
