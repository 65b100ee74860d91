import Mathlib.Data.List.TakeWhile
import Daybook.Proofs.Script.Visited
import Daybook.View.Compiled

/-!
# Which definitions become views

What has to hold of a definition for it to compile (`Acceptable`), condition by condition, and all
that can be wrong with it (`faults`), in the order in which faults are found: the number of lines,
the tokens on each of them, the names and the lengths of the literals of replacers and shaders, the
literals themselves, and the visited values of the tokens from the first one on. A definition
compiles if it has no fault (`faults_eq_nil_iff`) and is refused for its first fault if it has any
(`failsFor_compileWith`).
-/

namespace Daybook.View

open Daybook.Pattern Daybook.Replace Daybook.Script

/-! ## Faults -/

/-- The pattern literals of a definition: those of replacers, by name and then as listed, and those
of shaders, by name. -/
def Definition.literals (d : Definition) : List String :=
  d.replacers.entries.flatMap (fun entry => entry.2.map (·.1)) ++ d.shaders.entries.map (·.2)

/-- The lines with too many tokens, of which the first has the number `index`. -/
def lineFaults (limits : Limits) (index : Nat) (lines : List (List Json.Value)) : List Error :=
  (lines.zipIdx index).flatMap fun line =>
    faultIf (limits.maxTokensPerLine < line.1.length) (.limit (.lineTokens line.1.length line.2))

/-- What is wrong with a name: that nothing is left of it without blanks. -/
def nameFaults (fault : ViewFault) (name : String) : List Error :=
  faultIf (Text.trim name = "") (.view fault)

/-- What is wrong with the length of a literal. -/
def lengthFaults (limits : Limits) (literal : String) : List Error :=
  faultIf (limits.maxPatternLength < Text.size literal)
    (.limit (.literalBytes (Text.size literal)))

/-- What is wrong with a literal once it is compiled. -/
def literalFaults (limits : Limits) (literal : String) : List Error :=
  faultOf (Literal.parse limits literal)

namespace Definition

/-- What is wrong with the shape of a definition. -/
def shapeFaults (limits : Limits) (d : Definition) : List Error :=
  faultIf (limits.maxLines < d.article.length) (.limit (.articleLines d.article.length)) ++
    (lineFaults limits 0 d.article ++
      (d.replacers.entries.flatMap (fun entry => nameFaults .blankReplacerName entry.1 ++
          entry.2.flatMap (fun pair => lengthFaults limits pair.1)) ++
        d.shaders.entries.flatMap (fun entry => nameFaults .blankShaderName entry.1 ++
          lengthFaults limits entry.2)))

/-- What is wrong with the tokens of a definition, line by line and from left to right. -/
def tokenFaults (g : Grammar) (d : Definition) : List Error :=
  d.article.flatMap fun line => line.flatMap fun token =>
    (g.operators.visited 0 token).flatMap g.faultsAt

/-- All that is wrong with a definition. -/
def faults (operators : OperatorTable) (policy : Policy) (limits : Limits) (d : Definition) :
    List Error :=
  d.shapeFaults limits ++
    (d.literals.flatMap (literalFaults limits) ++ d.tokenFaults ⟨operators, policy, limits⟩)

/-- What has to hold of a definition for it to become a view. -/
structure Acceptable (operators : OperatorTable) (policy : Policy) (limits : Limits)
    (d : Definition) : Prop where
  lines : d.article.length ≤ limits.maxLines
  lineTokens : ∀ line ∈ d.article, line.length ≤ limits.maxTokensPerLine
  names : ∀ name ∈ d.replacers.names ++ d.shaders.names, Text.trim name ≠ ""
  literals : ∀ literal ∈ d.literals,
    Text.size literal ≤ limits.maxPatternLength ∧ ∃ l, Literal.parse limits literal = .ok l
  tokens : ∀ line ∈ d.article, ∀ token ∈ line, ∀ depth value,
    Occurs operators.taken 0 token depth value →
      Grammar.Allows ⟨operators, policy, limits⟩ depth value

/-- Whether all visited calls of a definition are of registered operators, with no more operands
than these take. -/
def Conforms (operators : OperatorTable) (d : Definition) : Prop :=
  ∀ line ∈ d.article, ∀ token ∈ line, ∀ depth value,
    Occurs operators.taken 0 token depth value → operators.Conforms value

namespace Acceptable

variable {operators : OperatorTable} {policy : Policy} {limits : Limits} {d : Definition}

/-- The calls of a definition that a strict policy accepts conform. -/
theorem conforms (h : d.Acceptable operators policy limits) (hstrict : policy.strictTokens = true) :
    d.Conforms operators :=
  fun line hline token htoken depth value hvisited =>
    (h.tokens line hline token htoken depth value hvisited).call hstrict

/-- Where all calls conform, how strict the policy is makes no difference. -/
theorem of_conforms (h : d.Acceptable operators policy limits) (hconforms : d.Conforms operators)
    (policy' : Policy) : d.Acceptable operators policy' limits := by
  refine { h with tokens := fun line hline token htoken depth value hvisited => ?_ }
  have hallows := h.tokens line hline token htoken depth value hvisited
  exact ⟨hallows.depth_le, hallows.shape,
    fun _ => hconforms line hline token htoken depth value hvisited⟩

end Acceptable

end Definition

/-! ## Blank names -/

theorem trimChars_eq_nil_iff (cs : List Char) :
    Text.trimChars cs = [] ↔ cs.all Text.isBlank = true := by
  rw [Text.trimChars, List.reverse_eq_nil_iff, List.dropWhile_eq_nil_iff, List.all_eq_true]
  simp only [List.mem_reverse]
  constructor
  · intro hrest
    -- What is left after the leading blanks would have to begin with a character that is none.
    have hnil : cs.dropWhile Text.isBlank = [] := by
      cases hcs : cs.dropWhile Text.isBlank with
      | nil => rfl
      | cons c rest =>
          have hfirst := List.head?_dropWhile_not Text.isBlank cs
          rw [hcs, List.head?_cons] at hfirst
          have hblank := hrest c (hcs ▸ List.mem_cons_self)
          exact absurd hblank (Bool.eq_false_iff.mp hfirst)
    exact List.dropWhile_eq_nil_iff.mp hnil
  · intro hall c hc
    exact hall c ((List.dropWhile_sublist _).subset hc)

/-- A text is blank if nothing is left of it without the blanks at its ends. -/
theorem trim_eq_empty_iff (name : String) :
    Text.trim name = "" ↔ Text.isBlankText name = true := by
  rw [Text.trim, Text.isBlankText, ← trimChars_eq_nil_iff]
  constructor
  · intro h
    simpa using congrArg String.toList h
  · intro h
    rw [h]

/-! ## The steps of compiling -/

theorem failsFor_checkLines (limits : Limits) : ∀ (lines : List (List Json.Value)) (index : Nat),
    FailsFor (checkLines limits index lines) (lineFaults limits index lines)
  | [], _ => rfl
  | line :: lines, index => by
      have hrest := failsFor_checkLines limits lines (index + 1)
      unfold checkLines lineFaults
      rw [List.zipIdx_cons, List.flatMap_cons]
      unfold faultIf
      split
      · rfl
      · exact hrest

theorem failsFor_checkName (fault : ViewFault) (name : String) :
    FailsFor (checkName fault name) (nameFaults fault name) := by
  unfold checkName nameFaults faultIf
  by_cases hblank : Text.isBlankText name = true
  · rw [if_pos hblank, if_pos ((trim_eq_empty_iff name).mpr hblank)]
    rfl
  · rw [if_neg hblank, if_neg fun h => hblank ((trim_eq_empty_iff name).mp h)]
    rfl

theorem failsFor_checkLength (limits : Limits) (literal : String) :
    FailsFor (Literal.checkLength limits literal) (lengthFaults limits literal) :=
  failsFor_ite ..

theorem failsFor_checkReplacer (limits : Limits) (entry : String × List (String × String)) :
    FailsFor (checkReplacer limits entry)
      (nameFaults .blankReplacerName entry.1 ++
        entry.2.flatMap (fun pair => lengthFaults limits pair.1)) :=
  (failsFor_checkName ..).bind fun _ => .forM fun pair _ => failsFor_checkLength limits pair.1

theorem failsFor_checkShader (limits : Limits) (entry : String × String) :
    FailsFor (checkShader limits entry)
      (nameFaults .blankShaderName entry.1 ++ lengthFaults limits entry.2) :=
  (failsFor_checkName ..).bind fun _ => failsFor_checkLength limits entry.2

theorem failsFor_check (limits : Limits) (d : Definition) :
    FailsFor (d.check limits) (d.shapeFaults limits) := by
  have hshaders := FailsFor.forM fun entry (_ : entry ∈ d.shaders.entries) =>
    failsFor_checkShader limits entry
  have hreplacers := FailsFor.forM fun entry (_ : entry ∈ d.replacers.entries) =>
    failsFor_checkReplacer limits entry
  have hrest := (failsFor_checkLines limits d.article 0).bind fun _ =>
    hreplacers.bind fun _ => hshaders
  unfold Definition.check Definition.shapeFaults faultIf
  split
  · rfl
  · exact hrest

theorem failsFor_compileReplacer (limits : Limits) (pairs : List (String × String)) :
    FailsFor (Replacer.compile limits pairs)
      (pairs.flatMap fun pair => literalFaults limits pair.1) := by
  have hrules := FailsFor.mapM fun pair (_ : pair ∈ pairs) =>
    (failsFor_faultOf (Literal.parse limits pair.1)).map (Rule.make · pair.2)
  exact hrules.map Replacer.mk

theorem flatMap_literals (f : String → List Error) (d : Definition) :
    d.literals.flatMap f
      = d.replacers.entries.flatMap (fun entry => entry.2.flatMap fun pair => f pair.1) ++
        d.shaders.entries.flatMap (fun entry => f entry.2) := by
  rw [Definition.literals, List.flatMap_append, List.flatMap_assoc, List.flatMap_map]
  simp only [List.flatMap_map]

/-- **A definition is refused for its first fault**, and becomes a view if it has none. -/
theorem failsFor_compileWith (operators : OperatorTable) (policy : Policy) (limits : Limits)
    (d : Definition) :
    FailsFor (compileWith operators policy limits d) (d.faults operators policy limits) := by
  have hreplacers := FailsFor.traverse (m := d.replacers) fun _ pairs =>
    failsFor_compileReplacer limits pairs
  have hshaders := FailsFor.traverse (m := d.shaders) fun _ literal =>
    failsFor_faultOf (Literal.parse limits literal)
  have harticle := FailsFor.mapM fun line (_ : line ∈ d.article) => FailsFor.mapM
    fun token (_ : token ∈ line) =>
      Grammar.failsFor_token (g := ⟨operators, policy, limits⟩) token 0
  have hall := (failsFor_check limits d).bind fun _ => hreplacers.bind fun replacers =>
    hshaders.bind fun shaders => harticle.map fun article =>
      (⟨d.shownTitle, d.bindings, replacers, shaders, article, operators, policy⟩ : View)
  rw [Definition.faults, flatMap_literals, List.append_assoc]
  exact hall

/-! ## No fault -/

theorem lineFaults_eq_nil_iff {limits : Limits} {lines : List (List Json.Value)} {index : Nat} :
    lineFaults limits index lines = []
      ↔ ∀ line ∈ lines, line.length ≤ limits.maxTokensPerLine := by
  rw [lineFaults, List.flatMap_eq_nil_iff]
  simp only [faultIf_eq_nil_iff, Nat.not_lt]
  constructor
  · intro h line hline
    rw [← List.zipIdx_map_fst index lines] at hline
    obtain ⟨numbered, hnumbered, rfl⟩ := List.mem_map.mp hline
    exact h numbered hnumbered
  · intro h numbered hnumbered
    apply h
    rw [← List.zipIdx_map_fst index lines]
    exact List.mem_map_of_mem hnumbered

theorem shapeFaults_eq_nil_iff {limits : Limits} {d : Definition} :
    d.shapeFaults limits = []
      ↔ d.article.length ≤ limits.maxLines
        ∧ (∀ line ∈ d.article, line.length ≤ limits.maxTokensPerLine)
        ∧ (∀ name ∈ d.replacers.names ++ d.shaders.names, Text.trim name ≠ "")
        ∧ ∀ literal ∈ d.literals, Text.size literal ≤ limits.maxPatternLength := by
  have hliterals : (∀ literal ∈ d.literals, Text.size literal ≤ limits.maxPatternLength)
      ↔ d.literals.flatMap (lengthFaults limits) = [] := by
    simp only [List.flatMap_eq_nil_iff, lengthFaults, faultIf_eq_nil_iff, Nat.not_lt]
  rw [hliterals, flatMap_literals, Definition.shapeFaults]
  simp only [List.append_eq_nil_iff, faultIf_eq_nil_iff, Nat.not_lt, lineFaults_eq_nil_iff,
    List.flatMap_eq_nil_iff, nameFaults, List.forall_mem_append, NameMap.names, List.forall_mem_map]
  constructor
  · rintro ⟨hlines, htokens, hreplacers, hshaders⟩
    exact ⟨hlines, htokens, ⟨fun entry he => (hreplacers entry he).1,
      fun entry he => (hshaders entry he).1⟩, fun entry he => (hreplacers entry he).2,
      fun entry he => (hshaders entry he).2⟩
  · rintro ⟨hlines, htokens, ⟨hreplacerNames, hshaderNames⟩, hreplacers, hshaders⟩
    exact ⟨hlines, htokens, fun entry he => ⟨hreplacerNames entry he, hreplacers entry he⟩,
      fun entry he => ⟨hshaderNames entry he, hshaders entry he⟩⟩

theorem tokenFaults_eq_nil_iff {g : Grammar} {d : Definition} :
    d.tokenFaults g = []
      ↔ ∀ line ∈ d.article, ∀ token ∈ line, ∀ depth value,
        Occurs g.operators.taken 0 token depth value → g.Allows depth value := by
  simp only [Definition.tokenFaults, List.flatMap_eq_nil_iff, Prod.forall,
    OperatorTable.mem_visited_iff, Grammar.faultsAt_eq_nil_iff]

/-- A definition without faults is one that meets every condition. -/
theorem faults_eq_nil_iff {operators : OperatorTable} {policy : Policy} {limits : Limits}
    {d : Definition} :
    d.faults operators policy limits = [] ↔ d.Acceptable operators policy limits := by
  rw [Definition.faults, List.append_eq_nil_iff, List.append_eq_nil_iff, shapeFaults_eq_nil_iff,
    tokenFaults_eq_nil_iff, List.flatMap_eq_nil_iff]
  simp only [literalFaults, faultOf_eq_nil_iff]
  constructor
  · rintro ⟨⟨hlines, htokens, hnames, hlengths⟩, hliterals, hvisited⟩
    exact ⟨hlines, htokens, hnames, fun literal hl => ⟨hlengths literal hl, hliterals literal hl⟩,
      hvisited⟩
  · intro h
    exact ⟨⟨h.lines, h.lineTokens, h.names, fun literal hl => (h.literals literal hl).1⟩,
      fun literal hl => (h.literals literal hl).2, h.tokens⟩

/-- What compiles is what is acceptable. -/
theorem exists_compileWith_ok_iff {operators : OperatorTable} {policy : Policy} {limits : Limits}
    {d : Definition} :
    (∃ v, compileWith operators policy limits d = .ok v)
      ↔ d.Acceptable operators policy limits :=
  (failsFor_compileWith operators policy limits d).ok_iff.trans faults_eq_nil_iff

/-- **Which definitions are accepted, and why others are not.** A definition compiles exactly when
it is acceptable: it has no more lines, tokens on a line and bytes in a literal than the limits
allow, no blank name, no literal that does not compile, and no visited value that the grammar is
against. One that does not compile is refused for the first of its faults. -/
theorem compileWith_accepts_exactly (operators : OperatorTable) (policy : Policy) (limits : Limits)
    (d : Definition) :
    ((∃ v, compileWith operators policy limits d = .ok v)
        ↔ d.Acceptable operators policy limits)
      ∧ ∀ e, compileWith operators policy limits d = .error e
          ↔ (d.faults operators policy limits).head? = some e :=
  ⟨exists_compileWith_ok_iff,
    fun _ => (failsFor_compileWith operators policy limits d).error_iff⟩

end Daybook.View
