import Daybook.Proofs.Replace.References

/-!
# Templates in one pass

What a template stands for, said without its parts: the rest of a template is looked at from the
left, what stands at its front is told apart in a fixed order (`Found.next`), its text takes its
place, and one goes on behind it (`Found.substitute`). A number of two digits is read as one of one
digit if there are not so many groups, and what is no reference is left as it is, as a whole.

References are found where they are read as parts of a template: a number is read as the same digits
(`Found.byNumber_cases`), a name up to the same bracket (`Found.byName_cases`).
-/

namespace Daybook.Replace

open Daybook.Pattern

/-! ## One pass -/

/-- A match as a replacement sees it: the text it is in, its own text, where it begins, and the
texts of the groups that took part, by number and by name. There are no names if no group has one.
-/
structure Found where
  text : List Char
  matched : List Char
  position : Nat
  captures : List (Option (List Char))
  named : Option (List (String × Option (List Char)))

namespace Found

/-- A match of a pattern whose groups have the given names, the whole match included. -/
def ofMatch (names : List (Option String)) (text : List Char) (m : Match) : Found :=
  let captures := m.groups.map (Option.map (·.of text))
  { text, matched := m.whole.of text, position := m.whole.start, captures
    named :=
      if names.any Option.isSome then
        some ((names.tail.zip captures).filterMap fun group => group.1.map (·, group.2))
      else none }

variable (f : Found)

/-- The text of a group by its number, empty if the group took no part. -/
def captureText (index : Nat) : List Char :=
  f.captures[index - 1]?.join.getD []

/-- The text of a group by its name, empty if there is none or if it took no part. -/
def namedText (groups : List (String × Option (List Char))) (name : List Char) : List Char :=
  (groups.lookup (String.ofList name)).join.getD []

/-- A dollar sign in front of digits that are read as one number, and what takes their place. -/
def byDigits (digits : List Char) : List Char × List Char :=
  let index := Nat.ofDigitChars 10 digits 0
  ('$' :: digits,
    if 1 ≤ index ∧ index ≤ f.captures.length then f.captureText index else '$' :: digits)

/-- A dollar sign in front of a text that begins with a digit, and what takes their place. -/
def byNumber (rest : List Char) : List Char × List Char :=
  let digits := (rest.take 2).takeWhile Char.isDigit
  if f.captures.length < Nat.ofDigitChars 10 digits 0 then f.byDigits (digits.take 1)
  else f.byDigits digits

/-- A dollar sign and an opening bracket in front of a text, and what takes their place. -/
def byName (rest : List Char) : List Char × List Char :=
  match f.named, rest.idxOf? '>' with
  | some groups, some close =>
    ('$' :: '<' :: rest.take (close + 1), namedText groups (rest.take close))
  | _, _ => (['$', '<'], ['$', '<'])

/-- What stands at the front of the rest of a template, and what takes its place. -/
def next (rest : List Char) : List Char × List Char :=
  match rest with
  | '$' :: '$' :: _ => (['$', '$'], ['$'])
  | '$' :: '\x60' :: _ => (['$', '\x60'], f.text.take f.position)
  | '$' :: '&' :: _ => (['$', '&'], f.matched)
  | '$' :: '\'' :: _ => (['$', '\''], f.text.drop (f.position + f.matched.length))
  | '$' :: '<' :: rest => f.byName rest
  | '$' :: c :: rest => if c.isDigit then f.byNumber (c :: rest) else (['$'], ['$'])
  | _ => (rest.take 1, rest.take 1)

theorem length_byNumber_pos (rest : List Char) : 0 < (f.byNumber rest).1.length := by
  unfold byNumber byDigits
  dsimp only
  split <;> exact Nat.succ_pos _

theorem length_byName_pos (rest : List Char) : 0 < (f.byName rest).1.length := by
  unfold byName
  split <;> exact Nat.succ_pos _

theorem length_next_pos (c : Char) (cs : List Char) : 0 < (f.next (c :: cs)).1.length := by
  unfold next
  split
  case h_5 => exact f.length_byName_pos _
  case h_6 =>
      split
      · exact f.length_byNumber_pos _
      · exact Nat.succ_pos _
  all_goals exact Nat.succ_pos _

/-- A template with everything in it that stands for something else replaced. -/
def substitute : List Char → List Char
  | [] => []
  | c :: cs =>
    (f.next (c :: cs)).2 ++ substitute ((c :: cs).drop (f.next (c :: cs)).1.length)
termination_by cs => cs.length
decreasing_by
  have hpos := f.length_next_pos c cs
  rw [List.length_drop, List.length_cons]
  omega

/-! ## Its steps -/

variable {f}

theorem substitute_of_next {cs ref out : List Char} (h : f.next ('$' :: cs) = ('$' :: ref, out)) :
    f.substitute ('$' :: cs) = out ++ f.substitute (cs.drop ref.length) := by
  rw [substitute, h, List.length_cons, List.drop_succ_cons]

/-- What is not a dollar sign stands for itself. -/
theorem substitute_cons {c : Char} (h : c ≠ '$') (cs : List Char) :
    f.substitute (c :: cs) = c :: f.substitute cs := by
  have hnext : f.next (c :: cs) = ([c], [c]) := by
    unfold next
    split <;> rename_i heq
    case h_7 => rfl
    all_goals exact absurd (List.cons.inj heq).1 h
  rw [substitute, hnext]
  rfl

theorem substitute_append {front : List Char} (h : '$' ∉ front) (cs : List Char) :
    f.substitute (front ++ cs) = front ++ f.substitute cs := by
  induction front with
  | nil => rfl
  | cons c front ih =>
      rw [List.mem_cons, not_or] at h
      rw [List.cons_append, substitute_cons (Ne.symm h.1), ih h.2, List.cons_append]

/-- What stands for itself might as well be looked at character by character. -/
theorem substitute_literal {ref rest : List Char} (href : '$' ∉ ref)
    (h : f.next ('$' :: (ref ++ rest)) = ('$' :: ref, '$' :: ref)) :
    f.substitute ('$' :: (ref ++ rest)) = '$' :: f.substitute (ref ++ rest) := by
  rw [substitute_of_next h, List.drop_left, substitute_append href, List.cons_append]

/-- What begins no reference is left alone. -/
theorem next_other {cs : List Char} (h : ∀ c, cs.head? = some c →
    c.isDigit = false ∧ c ∉ ['$', '\x60', '&', '\'', '<']) :
    f.next ('$' :: cs) = (['$'], ['$']) := by
  unfold next
  split <;> rename_i heq
  case h_6 =>
      obtain rfl := (List.cons.inj heq).2
      rw [if_neg (by simpa using (h _ rfl).1)]
  case h_7 => rfl
  all_goals
    obtain rfl := (List.cons.inj heq).2
    exact absurd (h _ rfl).2 (by decide)

theorem next_digit {c : Char} (hc : c.isDigit = true) (cs : List Char) :
    f.next ('$' :: c :: cs) = f.byNumber (c :: cs) := by
  unfold next
  split <;> rename_i heq
  case h_6 =>
      obtain ⟨rfl, rfl⟩ := List.cons.inj (List.cons.inj heq).2
      rw [if_pos hc]
  case h_7 => exact absurd rfl (heq c cs)
  all_goals
    obtain ⟨rfl, -⟩ := List.cons.inj (List.cons.inj heq).2
    exact absurd hc (by decide)

/-! ## References by number -/

section

variable {g : Groups} (hcount : g.count = f.captures.length)

include hcount

theorem has_iff (index : Nat) :
    g.has index = true ↔ 1 ≤ index ∧ index ≤ f.captures.length := by
  rw [Groups.has, hcount, Bool.and_eq_true, decide_eq_true_iff, decide_eq_true_iff]

theorem byDigits_of_has {digits : List Char} (h : g.has (Nat.ofDigitChars 10 digits 0) = true) :
    f.byDigits digits = ('$' :: digits, f.captureText (Nat.ofDigitChars 10 digits 0)) := by
  rw [byDigits, if_pos ((has_iff hcount _).mp h)]

theorem byDigits_of_not_has {digits : List Char}
    (h : ¬g.has (Nat.ofDigitChars 10 digits 0) = true) :
    f.byDigits digits = ('$' :: digits, '$' :: digits) := by
  rw [byDigits, if_neg (fun hrange => h ((has_iff hcount _).mpr hrange))]

end

theorem ofDigitChars_one (c : Char) : Nat.ofDigitChars 10 [c] 0 = c.toNat - '0'.toNat := by
  simp [Nat.ofDigitChars]

theorem ofDigitChars_two (c d : Char) :
    Nat.ofDigitChars 10 [c, d] 0 = 10 * (c.toNat - '0'.toNat) + (d.toNat - '0'.toNat) := by
  simp [Nat.ofDigitChars]

theorem byNumber_one {c : Char} (hc : c.isDigit = true) {rest : List Char}
    (hrest : ∀ d, rest.head? = some d → d.isDigit = false) :
    f.byNumber (c :: rest) = f.byDigits [c] := by
  have hdigits : ((c :: rest).take 2).takeWhile Char.isDigit = [c] := by
    cases rest with
    | nil => simp [hc]
    | cons d rest => simp [hc, hrest d rfl]
  rw [byNumber, hdigits]
  exact ite_self _

theorem byNumber_two {c d : Char} (hc : c.isDigit = true) (hd : d.isDigit = true)
    (rest : List Char) :
    f.byNumber (c :: d :: rest) = if f.captures.length < Nat.ofDigitChars 10 [c, d] 0 then
      f.byDigits [c] else f.byDigits [c, d] := by
  have hdigits : ((c :: d :: rest).take 2).takeWhile Char.isDigit = [c, d] := by
    simp [hc, hd]
  rw [byNumber, hdigits]
  rfl

/-- Both ways to read a number read the same digits. -/
theorem byNumber_cases {g : Groups} (hcount : g.count = f.captures.length) {c : Char}
    (hc : c.isDigit = true) (rest : List Char) :
    ∃ digits tail, c :: rest = digits ++ tail ∧ '$' ∉ digits
      ∧ f.byNumber (c :: rest) = f.byDigits digits
      ∧ numbered? g (c :: rest) = if g.has (Nat.ofDigitChars 10 digits 0) then
          some (Nat.ofDigitChars 10 digits 0, digits.length) else none := by
  have hdollar : ∀ {d : Char}, d.isDigit = true → '$' ≠ d := by
    rintro d hd rfl
    exact absurd hd (by decide)
  have hone : '$' ∉ [c] := by simpa using hdollar hc
  rcases next_digit_cases rest with hnext | ⟨d, rest, rfl, hd⟩
  · refine ⟨[c], rest, rfl, hone, byNumber_one hc hnext, ?_⟩
    rw [numbered?_one hc hnext, ofDigitChars_one]
    rfl
  have htwo : '$' ∉ [c, d] := by simpa using ⟨hdollar hc, hdollar hd⟩
  have hspec := byNumber_two (f := f) hc hd rest
  have hnumber := numbered?_two (g := g) hc hd rest
  rw [← ofDigitChars_two, ← ofDigitChars_one] at hnumber
  by_cases hboth : g.has (Nat.ofDigitChars 10 [c, d] 0) = true
  · have hfew := ((has_iff hcount _).mp hboth).2
    rw [if_neg (Nat.not_lt.mpr hfew)] at hspec
    rw [if_pos hboth] at hnumber
    exact ⟨[c, d], rest, rfl, htwo, hspec, hnumber.trans (if_pos hboth).symm⟩
  rw [if_neg hboth] at hnumber
  by_cases hmany : f.captures.length < Nat.ofDigitChars 10 [c, d] 0
  · rw [if_pos hmany] at hspec
    exact ⟨[c], d :: rest, rfl, hone, hspec, hnumber⟩
  · -- Two digits that are no group's number though there are groups enough are two zeros.
    have hzero : ¬g.has (Nat.ofDigitChars 10 [c] 0) = true := by
      rw [has_iff hcount] at hboth ⊢
      rw [ofDigitChars_two] at hboth hmany
      rw [ofDigitChars_one]
      omega
    rw [if_neg hmany] at hspec
    rw [if_neg hzero] at hnumber
    exact ⟨[c, d], rest, rfl, htwo, hspec, hnumber.trans (if_neg hboth).symm⟩

/-! ## References by name -/

theorem idxOf?_append {c : Char} {front : List Char} (h : c ∉ front) (back : List Char) :
    (front ++ c :: back).idxOf? c = some front.length := by
  induction front with
  | nil => simp [List.idxOf?_cons]
  | cons d front ih =>
      rw [List.mem_cons, not_or] at h
      rw [List.cons_append, List.idxOf?_cons, if_neg (by simpa using Ne.symm h.1), ih h.2]
      rfl

/-- A name is read up to its closing bracket if there are names, or else the opening bracket stands
for itself. -/
theorem byName_cases {g : Groups} (hnames : g.hasNames = f.named.isSome) (rest : List Char) :
    (∃ groups name tail, f.named = some groups ∧ rest = name ++ '>' :: tail
        ∧ bracketed? g rest = some (String.ofList name, name.length + 2)
        ∧ f.byName rest = ('$' :: '<' :: (name ++ ['>']), namedText groups name))
      ∨ (bracketed? g rest = none ∧ f.byName rest = (['$', '<'], ['$', '<'])) := by
  rcases bracketed?_cases g rest with ⟨hclose, hnone⟩ | ⟨name, tail, hname, rfl, heq⟩
  · refine .inr ⟨hnone, ?_⟩
    rw [byName, List.idxOf?_eq_none_iff.mpr hclose]
    cases f.named <;> rfl
  · rw [heq, hnames]
    cases hnamed : f.named with
    | none =>
        refine .inr ⟨rfl, ?_⟩
        rw [byName, hnamed]
    | some groups =>
        refine .inl ⟨groups, name, tail, rfl, rfl, rfl, ?_⟩
        have hclosed : name ++ '>' :: tail = (name ++ ['>']) ++ tail := by simp
        have htake : (name ++ '>' :: tail).take (name.length + 1) = name ++ ['>'] := by
          rw [hclosed]
          exact List.take_left' (by simp)
        rw [byName, hnamed, idxOf?_append hname]
        dsimp only
        rw [htake, List.take_left]

end Found

end Daybook.Replace
