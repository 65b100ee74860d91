import Mathlib.Tactic.SplitIfs
import Daybook.Pattern.Literal

/-!
# The numbers of groups

The groups that a pattern opens are numbered from one on, so that number 0 is left for the whole
match. A scanner is followed here only as far as what it gives (`Gives`); where groups come from the
count of those opened before does not matter, as one is added to it anyway (`gives_nextGroup`).
-/

namespace Daybook.Pattern

/-! ## Patterns as written -/

mutual

/-- Whether no group of a pattern has the number 0. -/
def Expr.Numbered : Expr → Prop
  | .repetition _ _ _ inner => inner.Numbered
  | .group (.capture index _) inner => 0 < index ∧ inner.Numbered
  | .group (.plain _) inner => inner.Numbered
  | .concat parts => Expr.AllNumbered parts
  | .alternatives parts => Expr.AllNumbered parts
  | _ => True

/-- Whether no group of several patterns has the number 0. -/
def Expr.AllNumbered : List Expr → Prop
  | [] => True
  | part :: parts => part.Numbered ∧ Expr.AllNumbered parts

end

namespace Expr

theorem allNumbered_iff {parts : List Expr} :
    AllNumbered parts ↔ ∀ part ∈ parts, part.Numbered := by
  induction parts with
  | nil => simp [AllNumbered]
  | cons part parts ih => simp [AllNumbered, ih]

theorem allNumbered_reverse {parts : List Expr} (h : AllNumbered parts) :
    AllNumbered parts.reverse := by
  rw [allNumbered_iff] at h ⊢
  intro part hpart
  exact h part (List.mem_reverse.mp hpart)

theorem numbered_ofParts {parts : List Expr} (h : AllNumbered parts) :
    (ofParts parts).Numbered := by
  match parts, h with
  | [], _ => trivial
  | [part], h => exact h.1
  | _ :: _ :: _, h => exact h

theorem numbered_ofAlternatives {parts : List Expr} (h : AllNumbered parts) :
    (ofAlternatives parts).Numbered := by
  match parts, h with
  | [], _ => trivial
  | [part], h => exact h.1
  | _ :: _ :: _, h => exact h

theorem numbered_toExpr (inner : ClassExpr) : inner.toExpr.Numbered := by
  cases inner <;> trivial

end Expr

/-! ## Scanners -/

/-- Whether all that a scanner gives has a property, wherever it starts. -/
def Gives {α : Type} (m : Scanner α) (P : α → Prop) : Prop :=
  ∀ s a s', m.run s = some (a, s') → P a

namespace Gives

variable {α β : Type} {P : α → Prop} {Q : β → Prop}

theorem pure {a : α} (h : P a) : Gives (pure a) P := by
  intro s b s' hb
  obtain ⟨rfl, -⟩ := Prod.mk.inj (Option.some.inj hb)
  exact h

theorem refuse : Gives (Scanner.refuse : Scanner α) P :=
  fun _ _ _ h => nomatch h

theorem bind {m : Scanner α} {f : α → Scanner β} (hm : Gives m P) (hf : ∀ a, P a → Gives (f a) Q) :
    Gives (m >>= f) Q := by
  intro s b s' hb
  rw [StateT.run_bind] at hb
  obtain ⟨⟨a, s₁⟩, ha, hb⟩ := Option.bind_eq_some_iff.mp hb
  exact hf a (hm s a s₁ ha) s₁ b s' hb

/-- What comes first need not be known. -/
theorem after {m : Scanner α} {f : α → Scanner β} (hf : ∀ a, Gives (f a) Q) : Gives (m >>= f) Q :=
  bind (P := fun _ => True) (fun _ _ _ _ => trivial) fun a _ => hf a

end Gives

open Scanner

theorem gives_nextGroup : Gives nextGroup (0 < ·) := by
  intro s index s' h
  obtain ⟨rfl, -⟩ := Prod.mk.inj (Option.some.inj h)
  exact Nat.succ_pos _

/-- Whether what a parenthesis opens is no group with the number 0. -/
def Opening.Numbered : Opening → Prop
  | .group (.capture index _) => 0 < index
  | _ => True

theorem gives_opening : Gives opening Opening.Numbered := by
  unfold opening
  refine .after fun _ => .after fun _ => .after fun _ => .after fun _ => ?_
  split
  · exact .refuse
  refine .after fun _ => .after fun _ => ?_
  split
  · exact .refuse
  refine .after fun _ => .after fun _ => ?_
  split
  · exact gives_nextGroup.bind fun index hindex => .after fun name => .pure hindex
  refine .after fun _ => ?_
  split
  · refine .after fun _ => .after fun _ => .after fun _ => .after fun _ => ?_
    split
    · exact .after fun _ => .pure trivial
    · exact .pure trivial
  · exact gives_nextGroup.bind fun index hindex => .pure hindex

theorem gives_repeatLast (min : Nat) (max : Option Nat) (greedy : Bool) {parts : List Expr}
    (h : Expr.AllNumbered parts) : Gives (repeatLast min max greedy parts) Expr.AllNumbered := by
  unfold repeatLast
  split
  · exact .refuse
  · exact .refuse
  · exact .refuse
  · exact .pure h

theorem gives_shortRepetition (min : Nat) (max : Option Nat) {parts : List Expr}
    (h : Expr.AllNumbered parts) : Gives (shortRepetition min max parts) Expr.AllNumbered :=
  .after fun _ => .after fun _ => gives_repeatLast _ _ _ h

theorem gives_countedRepetition {parts : List Expr} (h : Expr.AllNumbered parts) :
    Gives (countedRepetition parts) Expr.AllNumbered := by
  unfold countedRepetition
  refine .after fun _ => .after fun _ => .after fun least => .after fun c => ?_
  extract_lets behind
  have hbehind : ∀ most, Gives (behind most) Expr.AllNumbered := by
    intro most
    refine .after fun _ => .after fun _ => .after fun _ => .after fun _ => ?_
    cases most with
    | some n => exact .after fun _ => gives_repeatLast _ _ _ h
    | none => exact gives_repeatLast _ _ _ h
  split
  · refine .after fun _ => .after fun _ => ?_
    split
    · exact .after fun most => hbehind most
    · exact .after fun _ => .after fun _ => .after fun most => hbehind most
  · exact .after fun most => hbehind most

theorem gives_primitive (c : Char) : Gives (primitive c) Expr.Numbered := by
  unfold primitive
  split
  · refine .after fun e => ?_
    cases e <;> exact .pure trivial
  · exact .after fun _ => .pure trivial
  · exact .after fun _ => .pure trivial
  · exact .after fun _ => .pure trivial
  · exact .after fun _ => .pure trivial

theorem gives_patternFrom : ∀ (fuel : Nat) (parts others : List Expr),
    Expr.AllNumbered parts → Expr.AllNumbered others →
      Gives (patternFrom fuel parts others) Expr.Numbered
  | 0, _, _, _, _ => by
      unfold patternFrom
      exact .refuse
  | fuel + 1, parts, others, hparts, hothers => by
      have halternative : (Expr.ofParts parts.reverse).Numbered :=
        Expr.numbered_ofParts (Expr.allNumbered_reverse hparts)
      have hfinish :
          (Expr.ofAlternatives (Expr.ofParts parts.reverse :: others).reverse).Numbered :=
        Expr.numbered_ofAlternatives (Expr.allNumbered_reverse ⟨halternative, hothers⟩)
      unfold patternFrom
      refine .after fun _ => .after fun next => ?_
      cases next with
      | none => exact .pure hfinish
      | some c =>
          dsimp only
          split
          · exact .pure hfinish
          · exact .after fun _ => gives_patternFrom fuel [] _ trivial ⟨halternative, hothers⟩
          · exact (gives_shortRepetition _ _ hparts).bind fun _ h =>
              gives_patternFrom fuel _ _ h hothers
          · exact (gives_shortRepetition _ _ hparts).bind fun _ h =>
              gives_patternFrom fuel _ _ h hothers
          · exact (gives_shortRepetition _ _ hparts).bind fun _ h =>
              gives_patternFrom fuel _ _ h hothers
          · exact (gives_countedRepetition hparts).bind fun _ h =>
              gives_patternFrom fuel _ _ h hothers
          · exact .after fun _ => .after fun inner =>
              gives_patternFrom fuel _ _ ⟨Expr.numbered_toExpr inner, hparts⟩ hothers
          · refine .after fun _ => gives_opening.bind fun opened hopened => ?_
            cases opened with
            | change change =>
                exact .after fun _ => gives_patternFrom fuel _ _ ⟨trivial, hparts⟩ hothers
            | group kind =>
                refine .after fun _ => (gives_patternFrom fuel [] [] trivial trivial).bind
                  fun inner hinner => .after fun _ => .after fun _ => .after fun _ =>
                    .after fun _ => gives_patternFrom fuel _ _ ⟨?_, hparts⟩ hothers
                cases kind with
                | capture index name => exact ⟨hopened, hinner⟩
                | plain change => exact hinner
          · exact (gives_primitive c).bind fun _ h => gives_patternFrom fuel _ _ ⟨h, hparts⟩ hothers

/-- The groups of a pattern that was read are numbered from one on. -/
theorem Expr.numbered_of_parse? {text : List Char} {e : Expr} (h : Expr.parse? text = some e) :
    e.Numbered := by
  obtain ⟨⟨expr, s⟩, hrun, hend⟩ := Option.bind_eq_some_iff.mp h
  have hexpr : expr.Numbered := gives_patternFrom _ [] [] trivial trivial _ _ _ hrun
  dsimp only at hend
  split at hend
  · obtain rfl := Option.some.inj hend
    exact hexpr
  · exact nomatch hend

/-! ## Patterns with their flags applied -/

namespace Regex

/-- Whether no group of an expression has the number 0. -/
def Numbered (r : Regex) : Prop :=
  ∀ group ∈ r.captures, 0 < group.1

/-- Whether no group of several expressions has the number 0. -/
def AllNumbered (parts : List Regex) : Prop :=
  ∀ group ∈ capturesOfParts parts, 0 < group.1

theorem numbered_set (chars : CharSet) : (set chars).Numbered :=
  fun _ h => nomatch h

theorem numbered_repeated {min : Nat} {max : Option Nat} {greedy : Bool} {inner : Regex}
    (h : inner.Numbered) : (repeated min max greedy inner).Numbered := by
  unfold repeated
  -- Whatever the bounds become, nothing, the inner expression or a repetition of it is left.
  have hleft : ∀ (min : Nat) (max : Option Nat),
      (if min = 0 ∧ max = some 0 then Regex.empty
        else if min = 1 ∧ max = some 1 then inner
        else .repetition min max greedy inner).Numbered := by
    intro min max
    split_ifs
    · exact fun _ hg => nomatch hg
    · exact h
    · exact h
  exact hleft _ _

theorem numbered_capture {index : Nat} {name : Option String} {inner : Regex} :
    (capture index name inner).Numbered ↔ 0 < index ∧ inner.Numbered :=
  List.forall_mem_cons

theorem allNumbered_cons {part : Regex} {parts : List Regex} :
    AllNumbered (part :: parts) ↔ part.Numbered ∧ AllNumbered parts :=
  List.forall_mem_append

end Regex

mutual

theorem Expr.numbered_of_resolve? {m m' : Modes} {r : Regex} : ∀ (e : Expr), e.Numbered →
    e.resolve? m = some (r, m') → r.Numbered
  | .empty, _, h | .change _, _, h | .anchor _, _, h => by
      obtain ⟨rfl, -⟩ := Prod.mk.inj (Option.some.inj h)
      exact fun _ hg => nomatch hg
  | .literal c, _, h => by
      obtain ⟨r', hr, h⟩ := Option.bind_eq_some_iff.mp h
      obtain ⟨rfl, -⟩ := Prod.mk.inj (Option.some.inj h)
      unfold literalRegex? at hr
      split_ifs at hr <;> obtain rfl := Option.some.inj hr <;> exact Regex.numbered_set _
  | .dot, _, h => by
      obtain ⟨r', hr, h⟩ := Option.bind_eq_some_iff.mp h
      obtain ⟨rfl, -⟩ := Prod.mk.inj (Option.some.inj h)
      unfold dotRegex? at hr
      split_ifs at hr <;> obtain rfl := Option.some.inj hr <;> exact Regex.numbered_set _
  | .shorthand .., _, h | .property .., _, h | .brackets .., _, h => by
      obtain ⟨s, -, h⟩ := Option.bind_eq_some_iff.mp h
      obtain ⟨rfl, -⟩ := Prod.mk.inj (Option.some.inj h)
      exact Regex.numbered_set s
  | .repetition _ _ _ inner, hinner, h => by
      obtain ⟨⟨r', m₁⟩, hr, h⟩ := Option.bind_eq_some_iff.mp h
      obtain ⟨rfl, -⟩ := Prod.mk.inj (Option.some.inj h)
      exact Regex.numbered_repeated (Expr.numbered_of_resolve? inner hinner hr)
  | .group (.capture index name) inner, hgroup, h => by
      obtain ⟨⟨r', m₁⟩, hr, h⟩ := Option.bind_eq_some_iff.mp h
      obtain ⟨rfl, -⟩ := Prod.mk.inj (Option.some.inj h)
      exact Regex.numbered_capture.mpr
        ⟨hgroup.1, Expr.numbered_of_resolve? inner hgroup.2 hr⟩
  | .group (.plain flags) inner, hinner, h => by
      obtain ⟨⟨r', m₁⟩, hr, h⟩ := Option.bind_eq_some_iff.mp h
      obtain ⟨rfl, -⟩ := Prod.mk.inj (Option.some.inj h)
      exact Expr.numbered_of_resolve? inner hinner hr
  | .concat parts, hparts, h => by
      obtain ⟨⟨rs, m₁⟩, hr, h⟩ := Option.bind_eq_some_iff.mp h
      obtain ⟨rfl, -⟩ := Prod.mk.inj (Option.some.inj h)
      exact Expr.allNumbered_of_resolveParts? parts hparts hr
  | .alternatives parts, hparts, h => by
      obtain ⟨⟨rs, m₁⟩, hr, h⟩ := Option.bind_eq_some_iff.mp h
      obtain ⟨rfl, -⟩ := Prod.mk.inj (Option.some.inj h)
      exact Expr.allNumbered_of_resolveParts? parts hparts hr

theorem Expr.allNumbered_of_resolveParts? {m m' : Modes} {rs : List Regex} :
    ∀ (parts : List Expr), Expr.AllNumbered parts → Expr.resolveParts? m parts = some (rs, m') →
      Regex.AllNumbered rs
  | [], _, h => by
      obtain ⟨rfl, -⟩ := Prod.mk.inj (Option.some.inj h)
      exact fun _ hg => nomatch hg
  | part :: parts, hparts, h => by
      obtain ⟨⟨r, m₁⟩, hr, h⟩ := Option.bind_eq_some_iff.mp h
      obtain ⟨⟨rs', m₂⟩, hrs, h⟩ := Option.bind_eq_some_iff.mp h
      obtain ⟨rfl, -⟩ := Prod.mk.inj (Option.some.inj h)
      exact Regex.allNumbered_cons.mpr ⟨Expr.numbered_of_resolve? part hparts.1 hr,
        Expr.allNumbered_of_resolveParts? parts hparts.2 hrs⟩

end

/-- The groups of an expression that a pattern denotes are numbered from one on. -/
theorem Regex.numbered_of_regex? {flags : Flags} {pattern : List Char} {r : Regex}
    (h : regex? flags pattern = some r) : r.Numbered := by
  obtain ⟨e, he, h⟩ := Option.bind_eq_some_iff.mp h
  obtain ⟨⟨r', m⟩, hr, h⟩ := Option.bind_eq_some_iff.mp h
  obtain rfl := Option.some.inj h
  exact Expr.numbered_of_resolve? e (Expr.numbered_of_parse? he) hr

end Daybook.Pattern
