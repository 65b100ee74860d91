import Daybook.Proofs.Number.Whole

/-!
# Decimals that are rounded once

Some whole numbers are values of the binary format, and not only rounded to one (`IsValue`): those
below 2 ^ 53, the doubles of these, and the powers of ten up to the twenty-second. When one of them
is divided by another, only the quotient is rounded; so dividing by such a power of ten gives what
the decimal is rounded to (`ofInt_div_tenPow`). The digits of a decimal of at most fifteen digits
are such a number, and a shortest decimal of what it is rounded to has no more digits
(`Decimal.IsModest.of_isShortest`).
-/

namespace Daybook.Number

namespace Binary64

/-- Whether a whole number is a value. -/
def IsValue (n : Nat) : Prop :=
  magnitudeRat (roundMagnitude n 1) = n

theorem isValue_of_lt {n : Nat} (h : n < twoPow 53) : IsValue n := by
  rcases Nat.eq_zero_or_pos n with rfl | hn
  · exact magnitudeRat_zero.trans Nat.cast_zero.symm
  · exact (roundMagnitude_whole hn h).1

/-- What a finite magnitude stands for is a value, if it is a whole number. -/
theorem isValue_of_magnitudeRat {n m : Nat} (hn : 0 < n) (hfinite : m < infinity)
    (h : magnitudeRat m = n) : IsValue n := by
  have hm : 0 < m := by
    rw [← magnitudeRat_strictMono.lt_iff_lt, magnitudeRat_zero, h]
    exact Nat.cast_pos.mpr hn
  have hround : roundMagnitude n 1 = m := by
    refine roundMagnitude_of_has hn Nat.one_pos hfinite hm ?_
    rw [Nat.cast_one, div_one, ← h]
    exact RoundingInterval.has_magnitudeRat hm
  rw [IsValue, hround, h]

theorem isValue_iff {n : Nat} : IsValue n
    ↔ (ratio (roundMagnitude n 1)).1 = n * (ratio (roundMagnitude n 1)).2 := by
  have hden : ((ratio (roundMagnitude n 1)).2 : ℚ) ≠ 0 :=
    Nat.cast_ne_zero.mpr (ratio_den_pos _).ne'
  rw [IsValue, magnitudeRat, div_eq_iff hden, ← Nat.cast_mul, Nat.cast_inj]

theorem isValue_tenPow {k : Nat} (hk : k ≤ 22) : IsValue (tenPow k) := by
  have hall : ∀ k ≤ 22, (ratio (roundMagnitude (tenPow k) 1)).1
      = tenPow k * (ratio (roundMagnitude (tenPow k) 1)).2 := by decide +kernel
  exact isValue_iff.mpr (hall k hk)

/-- The magnitude of twice as much, but for the least ones. -/
theorem magnitudeRat_double {m : Nat} (hm : twoPow 52 ≤ m) :
    magnitudeRat (m + twoPow 52) = 2 * magnitudeRat m := by
  have h52 : twoPow 52 = 4503599627370496 := rfl
  have hsignificand : significand (m + twoPow 52) = significand m := by
    unfold significand
    rw [if_neg (by omega), if_neg (by omega), Nat.add_mod_right]
  have hexponent : exponent (m + twoPow 52) = exponent m + 1 := by
    unfold exponent
    rw [if_neg (by omega), if_neg (by omega), Nat.add_div_right m (by omega)]
    omega
  rw [magnitudeRat_eq, magnitudeRat_eq, hsignificand, hexponent, zpow_add_one₀ two_ne_zero]
  ring

theorem isValue_double {n : Nat} (h : n < twoPow 53) : IsValue (2 * n) := by
  rcases Nat.eq_zero_or_pos n with rfl | hn
  · exact isValue_of_lt h
  · obtain ⟨hvalue, hexponent, -⟩ := roundMagnitude_whole hn h
    have hnormal : twoPow 52 ≤ roundMagnitude n 1 := by
      have hone : one.magnitude ≤ roundMagnitude n 1 :=
        roundMagnitude_one ▸ roundMagnitude_whole_mono hn
      exact Nat.le_trans (by decide +kernel) hone
    have hdouble : magnitudeRat (roundMagnitude n 1 + twoPow 52) = (2 * n : Nat) := by
      rw [magnitudeRat_double hnormal, hvalue, Nat.cast_mul, Nat.cast_ofNat]
    have hfinite : roundMagnitude n 1 + twoPow 52 < infinity := by
      have h52 : twoPow 52 = 4503599627370496 := rfl
      rw [exponent, if_neg (Nat.not_lt.mpr hnormal)] at hexponent
      rw [infinity]
      rw [h52] at hexponent ⊢
      omega
    exact isValue_of_magnitudeRat (by omega) hfinite hdouble

theorem ofInt_natCast (n : Nat) : ofInt n = ⟨false, roundMagnitude n 1⟩ := by
  unfold ofInt
  rw [Int.natAbs_natCast, decide_eq_false (by omega)]

/-- A value divided by a power of ten is what the decimal is rounded to. -/
theorem ofInt_div_tenPow {n k : Nat} (hn : IsValue n) (hk : k ≤ 22) :
    (ofInt n).div (ofInt (tenPow k)) = ⟨false, (Decimal.mk n (-k)).magnitude⟩ := by
  have hnum := isValue_iff.mp hn
  have hpower := isValue_iff.mp (isValue_tenPow hk)
  have hpos : 0 < (ratio (roundMagnitude (tenPow k) 1)).1 := by
    rw [hpower]
    exact Nat.mul_pos (tenPow_pos k) (ratio_den_pos _)
  have hexponents : (-(k : Int)).toNat = 0 ∧ (- -(k : Int)).toNat = k := by omega
  rw [ofInt_natCast, ofInt_natCast, div_eq, bne_self_eq_false, divMagnitude, Decimal.magnitude,
    hexponents.1, hexponents.2]
  refine congrArg (mk false) ?_
  refine roundMagnitude_congr (Nat.mul_pos (ratio_den_pos _) hpos) (tenPow_pos k) ?_
  rw [hnum, hpower, show tenPow 0 = 1 from rfl]
  ring

end Binary64

namespace Decimal

/-! ## Decimals of fifteen digits -/

/-- Whether a decimal has at most fifteen digits and is not far from one: not below 0.00001, and
below 10 ^ 15. -/
structure IsModest (d : Decimal) : Prop where
  count : digitCount d.digits ≤ 15
  low : -5 < d.pointPosition
  high : d.pointPosition ≤ 15

instance (d : Decimal) : Decidable (IsModest d) :=
  decidable_of_iff (digitCount d.digits ≤ 15 ∧ -5 < d.pointPosition ∧ d.pointPosition ≤ 15)
    ⟨fun ⟨hcount, hlow, hhigh⟩ => ⟨hcount, hlow, hhigh⟩,
      fun ⟨hcount, hlow, hhigh⟩ => ⟨hcount, hlow, hhigh⟩⟩

namespace IsModest

variable {d : Decimal} (h : IsModest d)

include h

theorem digits_lt : d.digits < tenPow 15 :=
  (digitCount_le_iff (by decide)).mp h.count

theorem whole_lt (hexponent : 0 ≤ d.exponent) :
    d.digits * tenPow d.exponent.toNat < tenPow 15 := by
  rw [← Nat.cast_lt (α := ℚ), ← toRat_of_nonneg hexponent, cast_tenPow 15]
  exact (toRat_lt d).trans_le (zpow_le_zpow_right₀ one_lt_ten.le h.high)

/-- Between the last whole number of fifteen digits and the next one is no decimal of so many. -/
theorem magnitude_lt : d.magnitude < (Decimal.mk 1 15).magnitude := by
  have hlast : (Decimal.mk (tenPow 15 - 1) 0).magnitude < (Decimal.mk 1 15).magnitude := by
    decide +kernel
  refine Nat.lt_of_le_of_lt (magnitude_mono ?_) hlast
  rw [toRat_whole]
  rcases le_or_gt 0 d.exponent with hexponent | hexponent
  · rw [toRat_of_nonneg hexponent]
    exact Nat.cast_le.mpr (Nat.le_pred_of_lt (h.whole_lt hexponent))
  · have hscale : (10 : ℚ) ^ d.exponent ≤ 1 := zpow_le_one_of_nonpos₀ one_lt_ten.le hexponent.le
    calc d.toRat ≤ d.digits * 1 := mul_le_mul_of_nonneg_left hscale (Nat.cast_nonneg _)
      _ = d.digits := mul_one _
      _ ≤ (tenPow 15 - 1 : Nat) := Nat.cast_le.mpr (Nat.le_pred_of_lt h.digits_lt)

/-- A shortest decimal of what is rounded from such a decimal is one, too. -/
theorem of_isShortest {s : Decimal} (hm : 0 < d.magnitude) (hs : IsShortest d.magnitude s) :
    IsModest s where
  count := (hs.fewest d rfl).trans h.count
  low := by
    rw [← not_le, hs.pointPosition_le_iff hm (by decide +kernel), Nat.not_lt]
    refine magnitude_mono ?_
    rw [toRat_one]
    refine (zpow_le_zpow_right₀ one_lt_ten.le ?_).trans
      (le_toRat (digits_pos_of_magnitude hm))
    have hlow := h.low
    omega
  high := (hs.pointPosition_le_iff hm (by decide +kernel)).mpr h.magnitude_lt

end IsModest

end Decimal

end Daybook.Number
