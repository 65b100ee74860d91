import Daybook.Proofs.View.Acceptance
import Daybook.Proofs.View.Meaning

/-!
# What settings change

A policy's strictness and the limits decide whether a definition compiles, and nothing else. Every
step of compiling is less defined under a stricter policy and smaller limits, from the patterns
(`Pattern.Literal.lessDefined_parse`) over the tokens (`Script.Grammar.lessDefined_token`) to the
whole definition (`compileWith_mono`). Above any two settings stands the lenient policy with the
greater of either's limits, so what compiles under both compiles to one view but for its policy
(`compileWith_unique`). Of its policy a view reads only whether URLs become links, so such views
render alike (`renderAll_congr_policy`).
-/

namespace Daybook

open Daybook.Pattern Daybook.Replace Daybook.Script

/-! ## More generous settings -/

/-- Whether all bounds of some limits are within those of others. -/
structure Limits.Within (l l' : Limits) : Prop where
  viewBytes : l.maxViewBytes ≤ l'.maxViewBytes
  lines : l.maxLines ≤ l'.maxLines
  tokensPerLine : l.maxTokensPerLine ≤ l'.maxTokensPerLine
  tokenDepth : l.maxTokenDepth ≤ l'.maxTokenDepth
  patternLength : l.maxPatternLength ≤ l'.maxPatternLength
  regexSize : l.maxRegexSize ≤ l'.maxRegexSize

namespace Limits

/-- The greater of two limits, bound by bound. -/
def join (l l' : Limits) : Limits where
  maxViewBytes := max l.maxViewBytes l'.maxViewBytes
  maxLines := max l.maxLines l'.maxLines
  maxTokensPerLine := max l.maxTokensPerLine l'.maxTokensPerLine
  maxTokenDepth := max l.maxTokenDepth l'.maxTokenDepth
  maxPatternLength := max l.maxPatternLength l'.maxPatternLength
  maxRegexSize := max l.maxRegexSize l'.maxRegexSize

theorem within_refl (l : Limits) : l.Within l :=
  ⟨le_rfl, le_rfl, le_rfl, le_rfl, le_rfl, le_rfl⟩

theorem within_join_left (l l' : Limits) : l.Within (l.join l') :=
  ⟨le_max_left .., le_max_left .., le_max_left .., le_max_left .., le_max_left ..,
    le_max_left ..⟩

theorem within_join_right (l l' : Limits) : l'.Within (l.join l') :=
  ⟨le_max_right .., le_max_right .., le_max_right .., le_max_right .., le_max_right ..,
    le_max_right ..⟩

end Limits

/-- Whether a grammar's limits are within those of another one of the same operators, which is not
strict unless the first one is. -/
structure Script.Grammar.Within (g g' : Grammar) : Prop where
  operators : g'.operators = g.operators
  limits : g.limits.Within g'.limits
  strict : g'.policy.strictTokens = true → g.policy.strictTokens = true

/-! ## Patterns -/

section

variable {limits limits' : Limits} (hlimits : limits.Within limits')

theorem Pattern.lessDefined_compile {size size' : Nat} (h : size ≤ size') (flags : Flags)
    (pattern : List Char) :
    LessDefined (Pattern.compile flags size pattern) (Pattern.compile flags size' pattern) := by
  unfold Pattern.compile
  cases regex? flags pattern with
  | none => exact .refl _
  | some r => exact .guard (fun hsize => Nat.lt_of_le_of_lt h hsize) (.refl _) _ _

theorem Pattern.Literal.lessDefined_read {size size' : Nat} (h : size ≤ size') (cs : List Char) :
    LessDefined (Literal.read size cs) (Literal.read size' cs) :=
  (LessDefined.refl _).bind fun _ => (LessDefined.refl _).bind fun _ =>
    (lessDefined_compile h _ _).bind fun _ => .refl _

include hlimits

theorem Pattern.Literal.lessDefined_checkLength (text : String) :
    LessDefined (checkLength limits text) (checkLength limits' text) :=
  .guard (fun hsize => Nat.lt_of_le_of_lt hlimits.patternLength hsize) (.refl _) _ _

theorem Pattern.Literal.lessDefined_parse (text : String) :
    LessDefined (Literal.parse limits text) (Literal.parse limits' text) := by
  have hread := (lessDefined_read hlimits.regexSize text.toList).mapError
    (fun fault => Error.pattern text fault)
  exact (lessDefined_checkLength hlimits text).bind fun _ => hread.bind fun _ => .refl _

theorem Replace.Replacer.lessDefined_compile (pairs : List (String × String)) :
    LessDefined (Replacer.compile limits pairs) (Replacer.compile limits' pairs) :=
  (LessDefined.mapM fun pair _ =>
    (Literal.lessDefined_parse hlimits pair.1).map (Rule.make · pair.2)).map Replacer.mk

end

/-! ## Tokens -/

namespace Script.Grammar

section

variable {g g' : Grammar} (h : g.Within g')

include h

theorem lessDefined_checkDepth (depth : Nat) :
    LessDefined (g.checkDepth depth) (g'.checkDepth depth) :=
  .guard (fun hdepth => Nat.lt_of_le_of_lt h.limits.tokenDepth hdepth) (.refl _) _ _

theorem lessDefined_tolerate (violation : Violation) :
    LessDefined (g.policy.tolerate violation) (g'.policy.tolerate violation) :=
  .guard h.strict (.refl _) _ _

theorem lessDefined_checkOperands (name : String) (arity operands : Nat) :
    LessDefined (g.checkOperands name arity operands) (g'.checkOperands name arity operands) := by
  unfold checkOperands
  split
  · exact lessDefined_tolerate h _
  · exact .refl _

/-- A more generous grammar makes the same token of all that is accepted. -/
theorem lessDefined_token (value : Json.Value) (depth : Nat) :
    LessDefined (g.token depth value) (g'.token depth value) := by
  induction value using call_induction generalizing depth with
  | other value hcall =>
      cases hliteral : literalText? value with
      | some text =>
          rw [token_of_literalText? hliteral, token_of_literalText? hliteral]
          exact (lessDefined_checkDepth h depth).bind fun _ => .refl _
      | none =>
          rw [token_of_malformed hliteral hcall, token_of_malformed hliteral hcall]
          exact (lessDefined_checkDepth h depth).bind fun _ => .refl _
  | call name operands ih =>
      cases hop : g.operators.named? name with
      | none =>
          have hop' : g'.operators.named? name = none := by rw [h.operators, hop]
          rw [token_of_unnamed hop, token_of_unnamed hop']
          exact (lessDefined_checkDepth h depth).bind fun _ =>
            (lessDefined_tolerate h _).bind fun _ => .refl _
      | some op =>
          have hop' : g'.operators.named? name = some op := by rw [h.operators, hop]
          obtain ⟨place, hplace, htoken⟩ := token_of_named hop depth operands
          obtain ⟨place', hplace', htoken'⟩ := token_of_named hop' depth operands
          obtain rfl : place = place' := by
            rw [h.operators, hplace] at hplace'
            exact Option.some.inj hplace'
          have hoperands : LessDefined ((operands.take op.arity).mapM (g.token (depth + 1)))
              ((operands.take op.arity).mapM (g'.token (depth + 1))) :=
            .mapM fun operand htaken => ih operand (List.mem_of_mem_take htaken) (depth + 1)
          rw [htoken, htoken']
          exact (lessDefined_checkDepth h depth).bind fun _ =>
            (lessDefined_checkOperands h _ _ _).bind fun _ => hoperands.bind fun _ => .refl _

theorem lessDefined_line (values : List Json.Value) :
    LessDefined (g.line values) (g'.line values) :=
  .mapM fun value _ => lessDefined_token h value 0

end

end Script.Grammar

/-! ## Views -/

namespace View

section

variable {limits limits' : Limits} (hlimits : limits.Within limits')

include hlimits

theorem Definition.lessDefined_parse (text : String) :
    LessDefined (Definition.parse limits text) (Definition.parse limits' text) :=
  .guard (fun hsize => Nat.lt_of_le_of_lt hlimits.viewBytes hsize) (.refl _) _ _

theorem Definition.lessDefined_check (d : Definition) :
    LessDefined (d.check limits) (d.check limits') := by
  intro _ h
  have hshape := (failsFor_check limits d).ok_iff.mp ⟨_, h⟩
  obtain ⟨hlines, htokens, hnames, hliterals⟩ := shapeFaults_eq_nil_iff.mp hshape
  have hshape' : d.shapeFaults limits' = [] := shapeFaults_eq_nil_iff.mpr
    ⟨hlines.trans hlimits.lines, fun line hl => (htokens line hl).trans hlimits.tokensPerLine,
      hnames, fun literal hl => (hliterals literal hl).trans hlimits.patternLength⟩
  obtain ⟨_, h'⟩ := (failsFor_check limits' d).ok_iff.mpr hshape'
  exact h'

end

section

variable {operators : OperatorTable} {policy policy' : Policy} {limits limits' : Limits}
  {d : Definition} {v v' : View}

/-- What compiles under some settings compiles under more generous ones, to the same view but for
its policy. -/
theorem compileWith_mono (hlimits : limits.Within limits')
    (hstrict : policy'.strictTokens = true → policy.strictTokens = true)
    (h : compileWith operators policy limits d = .ok v) :
    compileWith operators policy' limits' d = .ok { v with policy := policy' } := by
  obtain ⟨replacers, shaders, article, hcheck, hreplacers, hshaders, harticle, rfl⟩ :=
    compileWith_ok_iff.mp h
  have hgrammar : Grammar.Within ⟨operators, policy, limits⟩ ⟨operators, policy', limits'⟩ :=
    ⟨rfl, hlimits, hstrict⟩
  have hmoreReplacers := LessDefined.traverse
    (fun _ pairs => Replacer.lessDefined_compile hlimits pairs) d.replacers
  have hmoreShaders := LessDefined.traverse
    (fun _ literal => Literal.lessDefined_parse hlimits literal) d.shaders
  have hmoreLines := LessDefined.mapM fun line (_ : line ∈ d.article) =>
    Grammar.lessDefined_line hgrammar line
  exact compileWith_ok_iff.mpr ⟨replacers, shaders, article,
    Definition.lessDefined_check hlimits d () hcheck, hmoreReplacers replacers hreplacers,
    hmoreShaders shaders hshaders, hmoreLines article harticle, rfl⟩

theorem policy_of_compileWith (h : compileWith operators policy limits d = .ok v) :
    v.policy = policy := by
  obtain ⟨_, _, _, -, -, -, -, rfl⟩ := compileWith_ok_iff.mp h
  rfl

/-- What compiles under two settings compiles to the same view but for its policy. -/
theorem compileWith_unique (h : compileWith operators policy limits d = .ok v)
    (h' : compileWith operators policy' limits' d = .ok v') :
    v' = { v with policy := policy' } := by
  -- Both compile under the lenient policy with the greater of either's limits.
  have hjoin : compileWith operators .standard (limits.join limits') d
      = .ok { v with policy := .standard } :=
    compileWith_mono (limits.within_join_left limits') (fun hfalse => nomatch hfalse) h
  have hjoin' : compileWith operators .standard (limits.join limits') d
      = .ok { v' with policy := .standard } :=
    compileWith_mono (limits.within_join_right limits') (fun hfalse => nomatch hfalse) h'
  have hsame := Except.ok.inj (hjoin.symm.trans hjoin')
  have hpolicy := congrArg (fun w : View => { w with policy := policy' }) hsame
  rw [← policy_of_compileWith h'] at hpolicy ⊢
  exact hpolicy.symm

/-- A definition that compiles compiles under any policy if its visited calls conform. -/
theorem compileWith_of_conforms (h : compileWith operators policy limits d = .ok v)
    (hconforms : d.Conforms operators) :
    compileWith operators policy' limits d = .ok { v with policy := policy' } := by
  have haccepted := exists_compileWith_ok_iff.mp ⟨v, h⟩
  obtain ⟨v', h'⟩ := exists_compileWith_ok_iff.mpr (haccepted.of_conforms hconforms policy')
  rw [h', compileWith_unique h h']

end

/-! ## Articles -/

section

variable {v : View} {policy : Policy} (hlink : policy.linkUrls = v.policy.linkUrls)

include hlink

theorem renderLines_congr_policy (event : Calendar.Event) : ∀ lines : List (List Token),
    renderLines { v with policy := policy } event lines = v.renderLines event lines
  | [] => rfl
  | line :: lines => by
      have hline : renderLine { v with policy := policy } event line = v.renderLine event line := by
        unfold renderLine
        rw [hlink]
        rfl
      rw [renderLines, renderLines, hline, renderLines_congr_policy event lines]

/-- Of its policy a view reads only whether URLs become links. -/
theorem renderAll_congr_policy : ∀ events : List Calendar.Event,
    renderAll { v with policy := policy } events = v.renderAll events
  | [] => rfl
  | event :: events => by
      have hevent : render { v with policy := policy } event = v.render event := by
        unfold render
        rw [renderLines_congr_policy hlink]
      rw [renderAll, renderAll, hevent, renderAll_congr_policy events]

end

/-- **Strictness and limits only gate.** What compiles under some limits compiles to the same view
under greater ones, as does a text that is read as a definition, and what compiles under a strict
policy compiles under a lenient one. Any two settings under which a definition compiles give the
same view but for its policy, and the same articles for all events if they agree on links. A
definition that compiles under a lenient policy compiles under a strict one if all of its visited
calls are of registered operators, with no more operands than these take. -/
theorem settings_only_gate (operators : OperatorTable) (d : Definition) :
    (∀ limits limits', limits.Within limits' →
        (∀ text, Definition.parse limits text = .ok d → Definition.parse limits' text = .ok d)
          ∧ ∀ policy v, compileWith operators policy limits d = .ok v →
              compileWith operators policy limits' d = .ok v)
      ∧ (∀ link limits v, compileWith operators ⟨true, link⟩ limits d = .ok v →
          compileWith operators ⟨false, link⟩ limits d = .ok { v with policy := ⟨false, link⟩ })
      ∧ (∀ policy policy' limits limits' v v', compileWith operators policy limits d = .ok v →
          compileWith operators policy' limits' d = .ok v' →
            v' = { v with policy := policy' }
              ∧ (policy'.linkUrls = policy.linkUrls →
                  ∀ events c, v'.renderAll events c = v.renderAll events c))
      ∧ ∀ link limits v, compileWith operators ⟨false, link⟩ limits d = .ok v →
          d.Conforms operators →
            compileWith operators ⟨true, link⟩ limits d
              = .ok { v with policy := ⟨true, link⟩ } := by
  refine ⟨fun limits limits' hlimits => ⟨fun text => ?_, fun policy v h => ?_⟩,
    fun link limits v h => ?_, fun policy policy' limits limits' v v' h h' => ?_,
    fun link limits v h hconforms => ?_⟩
  · exact Definition.lessDefined_parse hlimits text d
  · obtain rfl := policy_of_compileWith h
    exact compileWith_mono hlimits id h
  · exact compileWith_mono limits.within_refl (fun hfalse => nomatch hfalse) h
  · obtain rfl := compileWith_unique h h'
    refine ⟨rfl, fun hlink events c => ?_⟩
    rw [← policy_of_compileWith h] at hlink
    rw [renderAll_congr_policy hlink]
  · exact compileWith_of_conforms h hconforms

theorem isSome_compile_strictRoom :
    (compileWith .builtin .strict .standard roomDefinition).toOption.isSome := by decide +kernel

/-- The view of rooms under a strict policy. -/
def strictRoomView : View :=
  (compileWith .builtin .strict .standard roomDefinition).toOption.get isSome_compile_strictRoom

/-- Limits that are greater than the standard ones. -/
def generousLimits : Limits :=
  { Limits.standard with maxTokenDepth := 64, maxRegexSize := 16 * 1024 * 1024 }

/-- The view of rooms under a strict and under a lenient policy, under the standard limits and under
greater ones; and the empty definition, read from its text. -/
theorem settings_only_gate_rooms :
    compileWith .builtin .strict .standard roomDefinition = .ok strictRoomView
      ∧ compileWith .builtin .strict generousLimits roomDefinition = .ok strictRoomView
      ∧ Definition.parse generousLimits "{}" = .ok .blank
      ∧ compileWith .builtin .standard .standard roomDefinition
          = .ok { strictRoomView with policy := .standard }
      ∧ roomView = { strictRoomView with policy := .standard }
      ∧ roomView.renderAll roomEvents .empty = strictRoomView.renderAll roomEvents .empty
      ∧ compileWith .builtin .strict .standard roomDefinition
          = .ok { roomView with policy := .strict } := by
  have hstrict : compileWith .builtin .strict .standard roomDefinition = .ok strictRoomView :=
    eq_ok_get isSome_compile_strictRoom
  have hlenient : compileWith .builtin .standard .standard roomDefinition = .ok roomView :=
    eq_ok_get isSome_compile_room
  have hwithin : Limits.standard.Within generousLimits := by
    constructor <;> decide
  have hconforms : roomDefinition.Conforms .builtin :=
    (exists_compileWith_ok_iff.mp ⟨strictRoomView, hstrict⟩).conforms rfl
  obtain ⟨hmore, hless, hunique, hconverse⟩ := settings_only_gate .builtin roomDefinition
  have hsame := hunique _ _ _ _ _ _ hstrict hlenient
  have hread := ((settings_only_gate .builtin .blank).1 _ _ hwithin).1
  exact ⟨hstrict, (hmore _ _ hwithin).2 _ _ hstrict, hread "{}" rfl, hless _ _ _ hstrict, hsame.1,
    hsame.2 rfl roomEvents .empty, hconverse _ _ _ hlenient hconforms⟩

end View

end Daybook
