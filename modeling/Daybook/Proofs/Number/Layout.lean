import Daybook.Proofs.Number.Shortest

/-!
# How the host lays out a decimal

The language that hosts views writes a decimal with all its places if its point stands no more than
21 places behind the front of the digits and no more than 5 before it, and with an exponent
otherwise (`Decimal.hostLayout`). In the first case that is what a view writes always
(`hostLayout_of_plain`), and the second case is seen by its exponent (`e_mem_hostLayout_iff`).
-/

namespace Daybook.Number

namespace Decimal

/-- Whether the point stands where the host writes all places. -/
def IsPlain (d : Decimal) : Prop :=
  -5 ≤ d.pointPosition ∧ d.pointPosition ≤ 21

instance (d : Decimal) : Decidable d.IsPlain :=
  inferInstanceAs (Decidable (_ ∧ _))

/-- What the host writes for a decimal: all its places, or one digit before the point and an
exponent. -/
def hostLayout (d : Decimal) : List Char :=
  let digits := digitChars d.digits
  let count := digitCount d.digits
  let point := d.pointPosition
  if d.IsPlain then
    if count ≤ point then digits ++ List.replicate (point - count).toNat '0'
    else if 0 < point then digits.take point.toNat ++ '.' :: digits.drop point.toNat
    else '0' :: '.' :: (List.replicate (-point).toNat '0' ++ digits)
  else
    (if count = 1 then digits else digits.take 1 ++ '.' :: digits.drop 1)
      ++ 'e' :: (if point < 0 then '-' else '+') :: digitChars (point - 1).natAbs

/-- Where the host writes all places, it writes them as a view does. -/
theorem hostLayout_of_plain {d : Decimal} (h : d.IsPlain) :
    String.ofList d.hostLayout = positional "" d := by
  unfold hostLayout positional
  dsimp only
  rw [if_pos h]
  have hpoint : d.pointPosition = digitCount d.digits + d.exponent := rfl
  by_cases hexponent : 0 ≤ d.exponent
  · rw [if_pos hexponent, if_pos (by omega), hpoint, add_sub_cancel_left, String.append_empty]
  · rw [if_neg hexponent, if_neg (by omega)]
    split
    · rfl
    · rfl

theorem not_mem_positional {c : Char} (hdigit : c.isDigit = false) (hpoint : c ≠ '.') (d : Decimal) :
    c ∉ (positional "" d).toList := by
  have hdigits := not_mem_digitChars hdigit d.digits
  have hzeros := not_mem_zeros hdigit
  have hzero : c ≠ '0' := by
    rintro rfl
    cases hdigit
  unfold positional
  dsimp only
  split
  · rw [String.append_empty, String.toList_ofList, List.mem_append]
    exact not_or.mpr ⟨hdigits, hzeros _⟩
  split
  · rw [String.toList_ofList, List.mem_append, List.mem_cons]
    exact not_or.mpr ⟨fun h => hdigits (List.mem_of_mem_take h),
      not_or.mpr ⟨hpoint, fun h => hdigits (List.mem_of_mem_drop h)⟩⟩
  · rw [String.toList_ofList, List.cons_append, List.cons_append, List.mem_cons, List.mem_cons,
      List.mem_append]
    exact not_or.mpr ⟨hzero, not_or.mpr ⟨hpoint, not_or.mpr ⟨hzeros _, hdigits⟩⟩⟩

theorem e_mem_hostLayout_iff (d : Decimal) : 'e' ∈ d.hostLayout ↔ ¬d.IsPlain := by
  by_cases h : d.IsPlain
  · refine iff_of_false ?_ (not_not.mpr h)
    rw [← String.toList_ofList (l := d.hostLayout), hostLayout_of_plain h]
    exact not_mem_positional (by decide) (by decide) d
  · refine iff_of_true ?_ h
    unfold hostLayout
    dsimp only
    rw [if_neg h]
    exact List.mem_append_right _ List.mem_cons_self

/-- All places of a decimal are those of a whole number if it is that, and shows no fraction. -/
theorem positional_eq_natText_iff {d : Decimal} (hd : 0 < d.digits) (n : Nat) :
    positional "" d = natText n ↔ 0 ≤ d.exponent ∧ d.digits * tenPow d.exponent.toNat = n := by
  unfold positional natText
  dsimp only
  have hpoint : '.' ∉ digitChars n := not_mem_digitChars (by decide) n
  by_cases hexponent : 0 ≤ d.exponent
  · rw [if_pos hexponent, String.append_empty, String.ofList_inj, ← digitChars_mul_tenPow hd,
      and_iff_right hexponent]
    exact ⟨digitChars_injective, congrArg digitChars⟩
  · rw [if_neg hexponent]
    refine iff_of_false ?_ fun h => hexponent h.1
    intro heq
    apply hpoint
    split at heq
    · rw [← String.ofList_inj.mp heq]
      exact List.mem_append_right _ List.mem_cons_self
    · rw [← String.ofList_inj.mp heq]
      exact List.mem_cons_of_mem _ List.mem_cons_self

end Decimal

/-! ## Layouts of shortest decimals -/

namespace IsShortest

variable {m : Nat} {d : Decimal} (h : IsShortest m d) (hm : 0 < m)

include h hm

/-- Where the host writes all places depends on the magnitude alone. -/
theorem isPlain_iff : d.IsPlain ↔
    (Decimal.mk 1 (-6)).magnitude ≤ m ∧ m < (Decimal.mk 1 21).magnitude := by
  have hlow := h.pointPosition_le_iff hm (k := -6) (by decide +kernel)
  have hhigh := h.pointPosition_le_iff hm (k := 21) (by decide +kernel)
  rw [← hhigh, ← not_lt, ← hlow, Decimal.IsPlain]
  omega

/-- The host writes a shortest decimal as a whole number if it is that. -/
theorem hostLayout_eq_natText_iff {n : Nat} (hn : 0 < n) (hlt : n < tenPow 21) :
    String.ofList d.hostLayout = natText n ↔ d.toRat = n := by
  have hdigits := h.digits_pos hm
  constructor
  · intro heq
    have hplain : d.IsPlain := by
      rw [← not_not (a := d.IsPlain), ← Decimal.e_mem_hostLayout_iff, String.ofList_inj.mp heq]
      exact not_mem_digitChars (by decide) n
    rw [Decimal.hostLayout_of_plain hplain, Decimal.positional_eq_natText_iff hdigits] at heq
    rw [Decimal.toRat_of_nonneg heq.1, heq.2]
  · intro heq
    have hexponent := h.exponent_nonneg hm heq
    have hpoint : 0 < d.pointPosition := by
      rw [← not_le, ← Decimal.toRat_lt_iff hdigits, heq, zpow_zero, not_lt]
      exact Nat.one_le_cast.mpr hn
    have hplain : d.IsPlain := by
      refine ⟨by omega, ?_⟩
      rw [← Decimal.toRat_lt_iff hdigits, heq]
      exact (Nat.cast_lt.mpr hlt).trans_eq (cast_tenPow 21)
    rw [Decimal.hostLayout_of_plain hplain, Decimal.positional_eq_natText_iff hdigits]
    refine ⟨hexponent, ?_⟩
    rw [Decimal.toRat_of_nonneg hexponent] at heq
    exact_mod_cast heq

end IsShortest

end Daybook.Number
