import Mathlib.Data.List.Chain
import Daybook.Proofs.Text.Offsets
import Daybook.Replace.Template

/-!
# References in templates

What can stand behind a dollar sign, by kind: one of three marks, a name in brackets
(`bracketed?_cases`), or one or two digits (`numbered?_two`, `numbered?_one`). The text of a
reference by number is as long in bytes as in characters.

The parts of a template that was read are tidy: no text among them is empty, and no two of them are
neighbours (`tidy_partsFrom`).
-/

namespace Daybook.Replace

open Daybook.Text

variable {g : Groups}

/-! ## References by name -/

/-- A name runs to the first closing bracket; without one, or in a pattern without names, there is
no reference. -/
theorem bracketed?_cases (g : Groups) (cs : List Char) :
    ('>' ∉ cs ∧ bracketed? g cs = none)
      ∨ ∃ name rest, '>' ∉ name ∧ cs = name ++ '>' :: rest ∧ bracketed? g cs
          = if g.hasNames then some (String.ofList name, name.length + 2) else none := by
  by_cases hclose : '>' ∈ cs
  · obtain ⟨name, rest, rfl, hname⟩ := List.eq_append_cons_of_mem hclose
    refine .inr ⟨name, rest, hname, rfl, ?_⟩
    rw [bracketed?, takeWhile_bne_append hname]
    simp
  · refine .inl ⟨hclose, ?_⟩
    rw [bracketed?, takeWhile_bne_of_notMem hclose]
    simp

/-! ## References by number -/

theorem digitValue?_of_isDigit {c : Char} (h : c.isDigit = true) :
    digitValue? c = some (c.toNat - '0'.toNat) :=
  if_pos h

theorem digitValue?_of_not_isDigit {c : Char} (h : c.isDigit = false) : digitValue? c = none :=
  if_neg (by rw [h]; exact Bool.false_ne_true)

theorem utf8Size_of_isDigit {c : Char} (h : c.isDigit = true) : c.utf8Size = 1 := by
  have hrange : c.val ≥ 48 ∧ c.val ≤ 57 := by simpa [Char.isDigit] using h
  rw [Char.utf8Size, if_pos (UInt32.le_trans hrange.2 (by decide))]

theorem numbered?_none {cs : List Char} (h : ∀ c, cs.head? = some c → c.isDigit = false) :
    numbered? g cs = none := by
  cases cs with
  | nil => rfl
  | cons c cs =>
      rw [numbered?, digitValue?_of_not_isDigit (h c rfl)]
      rfl

/-- Of two digits both count if they name a group, else the first one alone. -/
theorem numbered?_two {c d : Char} (hc : c.isDigit = true) (hd : d.isDigit = true)
    (rest : List Char) :
    numbered? g (c :: d :: rest)
      = if g.has (10 * (c.toNat - '0'.toNat) + (d.toNat - '0'.toNat)) then
          some (10 * (c.toNat - '0'.toNat) + (d.toNat - '0'.toNat), 2)
        else if g.has (c.toNat - '0'.toNat) then some (c.toNat - '0'.toNat, 1) else none := by
  rw [numbered?, digitValue?_of_isDigit hc]
  simp only [Option.bind_eq_bind, Option.bind_some, List.head?_cons, digitValue?_of_isDigit hd,
    Option.map_some, Option.filter_some]
  by_cases htwo : g.has (10 * (c.toNat - '0'.toNat) + (d.toNat - '0'.toNat)) = true
  · rw [if_pos htwo, if_pos htwo]
  · rw [if_neg htwo, if_neg htwo]

/-- A digit with no other one behind it counts if it names a group. -/
theorem numbered?_one {c : Char} (hc : c.isDigit = true) {rest : List Char}
    (hrest : ∀ d, rest.head? = some d → d.isDigit = false) :
    numbered? g (c :: rest)
      = if g.has (c.toNat - '0'.toNat) then some (c.toNat - '0'.toNat, 1) else none := by
  have hnext : rest.head?.bind digitValue? = none := by
    cases hhead : rest.head? with
    | none => rfl
    | some d => exact digitValue?_of_not_isDigit (hrest d hhead)
  rw [numbered?, digitValue?_of_isDigit hc]
  simp only [Option.bind_eq_bind, Option.bind_some, hnext, Option.map_none, Option.filter_none]

/-- Behind a digit there is another one, or none. -/
theorem next_digit_cases (rest : List Char) :
    (∀ d, rest.head? = some d → d.isDigit = false)
      ∨ ∃ d rest', rest = d :: rest' ∧ d.isDigit = true := by
  cases rest with
  | nil => exact .inl fun _ h => nomatch h
  | cons d rest' =>
      cases hd : d.isDigit with
      | false => exact .inl fun _ h => Option.some.inj h ▸ hd
      | true => exact .inr ⟨d, rest', rfl, hd⟩

/-- The digits of a reference are one byte each. -/
theorem byteLength_of_numbered? {cs : List Char} {index digits : Nat}
    (h : numbered? g cs = some (index, digits)) : byteLength (cs.take digits) = digits := by
  rcases next_digit_cases cs with hnone | ⟨c, rest, rfl, hc⟩
  · exact nomatch (numbered?_none hnone).symm.trans h
  have hsize := utf8Size_of_isDigit hc
  have hone : byteLength ((c :: rest).take 1) = 1 := by simp [hsize]
  rcases next_digit_cases rest with hnext | ⟨d, rest, rfl, hd⟩
  · rw [numbered?_one hc hnext] at h
    split at h
    · obtain ⟨-, rfl⟩ := Prod.mk.inj (Option.some.inj h)
      exact hone
    · exact nomatch h
  · rw [numbered?_two hc hd] at h
    split at h
    · obtain ⟨-, rfl⟩ := Prod.mk.inj (Option.some.inj h)
      simp [hsize, utf8Size_of_isDigit hd]
    · split at h
      · obtain ⟨-, rfl⟩ := Prod.mk.inj (Option.some.inj h)
        exact hone
      · exact nomatch h

/-! ## What is plain -/

/-- Characters without a dollar sign are plain text. -/
theorem partsFrom_append {front : List Char} (h : '$' ∉ front) (plain rest : List Char) :
    partsFrom g plain (front ++ rest) = partsFrom g (front.reverse ++ plain) rest := by
  induction front generalizing plain with
  | nil => rfl
  | cons c front ih =>
      rw [List.mem_cons, not_or] at h
      rw [List.cons_append, partsFrom, if_neg (Ne.symm h.1), ih h.2, List.reverse_cons,
        List.append_assoc, List.singleton_append]

theorem partsFrom_of_notMem {cs : List Char} (h : '$' ∉ cs) (plain : List Char) :
    partsFrom g plain cs = withPlain (cs.reverse ++ plain) [] := by
  have hall := partsFrom_append (g := g) h plain []
  rwa [List.append_nil, partsFrom] at hall

/-! ## Tidy parts -/

/-- Whether a part is plain text. -/
def Part.isPlain : Part → Bool
  | .plain _ => true
  | _ => false

/-- Whether no plain text among some parts is empty, and none follows another one. -/
structure Tidy (parts : List Part) : Prop where
  nonempty : .plain [] ∉ parts
  apart : parts.IsChain (fun a b => ¬(a.isPlain = true ∧ b.isPlain = true))

theorem tidy_nil : Tidy [] :=
  ⟨List.not_mem_nil, .nil⟩

theorem isPlain_of_reference? {cs : List Char} {part : Part} {size : Nat}
    (h : reference? g cs = some (part, size)) : part.isPlain = false := by
  unfold reference? at h
  split at h
  case h_4 =>
      obtain ⟨_, -, heq⟩ := Option.map_eq_some_iff.mp h
      obtain ⟨rfl, -⟩ := Prod.mk.inj heq
      rfl
  case h_5 =>
      obtain ⟨_, -, heq⟩ := Option.map_eq_some_iff.mp h
      obtain ⟨rfl, -⟩ := Prod.mk.inj heq
      rfl
  all_goals
    obtain ⟨rfl, -⟩ := Prod.mk.inj (Option.some.inj h)
    rfl

/-- Plain text in front of parts that begin with a reference. -/
theorem tidy_withPlain {parts : List Part} (h : Tidy parts)
    (hhead : ∀ part, parts.head? = some part → part.isPlain = false) (plain : List Char) :
    Tidy (withPlain plain parts) := by
  unfold withPlain
  split
  · exact h
  · rename_i hplain
    refine ⟨?_, List.isChain_cons.mpr ⟨fun part hpart => ?_, h.apart⟩⟩
    · rw [List.mem_cons, not_or]
      refine ⟨fun heq => hplain ?_, h.nonempty⟩
      have hnil : plain.reverse = [] := (Part.plain.inj heq).symm
      rw [List.reverse_eq_nil_iff.mp hnil]
      rfl
    · rw [hhead part hpart]
      exact fun hboth => nomatch hboth.2

theorem tidy_cons {part : Part} {parts : List Part} (hpart : part.isPlain = false)
    (h : Tidy parts) : Tidy (part :: parts) := by
  refine ⟨?_, List.isChain_cons.mpr ⟨fun next _ hboth => ?_, h.apart⟩⟩
  · rw [List.mem_cons, not_or]
    exact ⟨fun heq => (nomatch heq ▸ hpart), h.nonempty⟩
  · rw [hpart] at hboth
    exact nomatch hboth.1

/-- The parts of a template are tidy. -/
theorem tidy_partsFrom (g : Groups) (plain cs : List Char) : Tidy (partsFrom g plain cs) := by
  fun_induction partsFrom g plain cs with
  | case1 plain => exact tidy_withPlain tidy_nil (fun _ h => nomatch h) plain
  | case2 plain cs hdollar ih => exact ih
  | case3 plain cs hdollar part size href ih =>
      have hpart := isPlain_of_reference? href
      refine tidy_withPlain (tidy_cons hpart ih) (fun first hfirst => ?_) plain
      exact Option.some.inj hfirst ▸ hpart
  | case4 plain cs hdollar href ih => exact ih
  | case5 plain c cs hc ih => exact ih

end Daybook.Replace
