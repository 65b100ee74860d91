import Daybook.Proofs.Number.Digits
import Daybook.Proofs.Number.Values

/-!
# Decimals as rational numbers

What a decimal stands for (`Decimal.toRat`) and the magnitude it is rounded to (`Decimal.magnitude`),
which depends on nothing but that and keeps its order (`Decimal.magnitude_mono`). The position of its
point is that of the least power of ten above it (`Decimal.toRat_lt_iff`).
-/

namespace Daybook.Number

open Binary64

theorem ten_zpow_eq (e : Int) : (10 : ℚ) ^ e = tenPow e.toNat / tenPow (-e).toNat :=
  cast_zpow_eq 10 e

theorem cast_tenPow (n : Nat) : (tenPow n : ℚ) = 10 ^ (n : Int) := by
  rw [zpow_natCast]
  exact Nat.cast_pow 10 n

theorem one_lt_ten : (1 : ℚ) < 10 := by
  norm_num

/-! ## What a fraction is rounded to -/

theorem roundMagnitude_le_of_div_le {num den num' den' : Nat} (hden : 0 < den) (hden' : 0 < den')
    (h : (num : ℚ) / den ≤ num' / den') : roundMagnitude num den ≤ roundMagnitude num' den' := by
  refine roundMagnitude_mono hden hden' ?_
  rw [div_le_div_iff₀ (Nat.cast_pos.mpr hden) (Nat.cast_pos.mpr hden')] at h
  exact_mod_cast h

namespace Decimal

/-- The rational number that a decimal stands for. -/
def toRat (d : Decimal) : ℚ :=
  d.digits * 10 ^ d.exponent

/-- The magnitude that a decimal is rounded to. -/
def magnitude (d : Decimal) : Nat :=
  roundMagnitude (d.digits * tenPow d.exponent.toNat) (tenPow (-d.exponent).toNat)

theorem toRat_eq_div (d : Decimal) : d.toRat
    = (d.digits * tenPow d.exponent.toNat : Nat) / (tenPow (-d.exponent).toNat : Nat) := by
  rw [toRat, ten_zpow_eq, Nat.cast_mul, mul_div_assoc]

theorem toRat_of_nonneg {d : Decimal} (h : 0 ≤ d.exponent) :
    d.toRat = (d.digits * tenPow d.exponent.toNat : Nat) := by
  rw [toRat, Nat.cast_mul, cast_tenPow, Int.toNat_of_nonneg h]

theorem toRat_one (k : Int) : toRat ⟨1, k⟩ = 10 ^ k := by
  rw [toRat, Nat.cast_one, one_mul]

theorem toRat_whole (n : Nat) : toRat ⟨n, 0⟩ = n := by
  rw [toRat, zpow_zero, mul_one]

/-- Zeros behind the digits of a decimal count as its exponent does. -/
theorem toRat_mul_tenPow (n k : Nat) (e : Int) :
    toRat ⟨n * tenPow k, e⟩ = toRat ⟨n, e + k⟩ := by
  unfold toRat
  rw [Nat.cast_mul, cast_tenPow, mul_assoc, ← zpow_add₀ (by norm_num), add_comm e]

theorem toRat_mono {n n' : Nat} (h : n ≤ n') (e : Int) : toRat ⟨n, e⟩ ≤ toRat ⟨n', e⟩ :=
  mul_le_mul_of_nonneg_right (Nat.cast_le.mpr h) (zpow_pos (by norm_num) e).le

theorem magnitude_mono {d d' : Decimal} (h : d.toRat ≤ d'.toRat) : d.magnitude ≤ d'.magnitude := by
  rw [toRat_eq_div, toRat_eq_div] at h
  exact roundMagnitude_le_of_div_le (tenPow_pos _) (tenPow_pos _) h

theorem magnitude_congr {d d' : Decimal} (h : d.toRat = d'.toRat) : d.magnitude = d'.magnitude :=
  Nat.le_antisymm (magnitude_mono h.le) (magnitude_mono h.ge)

theorem toRat_lt_of_magnitude_lt {d d' : Decimal} (h : d.magnitude < d'.magnitude) :
    d.toRat < d'.toRat := by
  by_contra hle
  exact absurd (magnitude_mono (not_lt.mp hle)) (Nat.not_le_of_lt h)

theorem digits_pos_of_magnitude {d : Decimal} (h : 0 < d.magnitude) : 0 < d.digits := by
  by_contra hzero
  rw [magnitude, Nat.eq_zero_of_not_pos hzero, Nat.zero_mul] at h
  exact Nat.lt_irrefl 0 h

/-! ## The position of the point -/

theorem toRat_lt (d : Decimal) : d.toRat < 10 ^ d.pointPosition := by
  have hlt : (d.digits : ℚ) < 10 ^ (digitCount d.digits : Int) := by
    rw [← cast_tenPow]
    exact Nat.cast_lt.mpr (lt_tenPow_digitCount _)
  rw [pointPosition, zpow_add₀ (by norm_num)]
  exact mul_lt_mul_of_pos_right hlt (zpow_pos (by norm_num) _)

theorem le_toRat {d : Decimal} (h : 0 < d.digits) : 10 ^ (d.pointPosition - 1) ≤ d.toRat := by
  have hle : (10 : ℚ) ^ (digitCount d.digits - 1 : Int) ≤ d.digits := by
    have hpos := digitCount_pos d.digits
    rw [show (digitCount d.digits - 1 : Int) = (digitCount d.digits - 1 : Nat) by omega,
      ← cast_tenPow]
    exact Nat.cast_le.mpr (tenPow_le_of_pos h)
  rw [pointPosition, add_sub_right_comm, zpow_add₀ (by norm_num)]
  exact mul_le_mul_of_nonneg_right hle (zpow_pos (by norm_num) _).le

/-- The point of a decimal stands at the least power of ten above it. -/
theorem toRat_lt_iff {d : Decimal} (h : 0 < d.digits) (k : Int) :
    d.toRat < 10 ^ k ↔ d.pointPosition ≤ k := by
  constructor
  · intro hlt
    have hpowers := (le_toRat h).trans_lt hlt
    rw [zpow_lt_zpow_iff_right₀ one_lt_ten] at hpowers
    omega
  · intro hle
    exact (toRat_lt d).trans_le (zpow_le_zpow_right₀ one_lt_ten.le hle)

end Decimal

end Daybook.Number
