import Daybook.Proofs.Number.Shortest

/-!
# Whole numbers below 2 ^ 53

A whole number below 2 ^ 53 is a value of the binary format (`roundMagnitude_whole`), with the next
values no more than one away. No other whole number is rounded to that value, and a decimal with a
fraction would have more digits; so the number itself is the shortest decimal
(`isShortNumber_whole`).
-/

namespace Daybook.Number

open Binary64

/-- Whether a number is itself a shortest decimal of a magnitude. -/
def IsShortNumber (m : Nat) (r : ℚ) : Prop :=
  ∃ d, IsShortest m d ∧ d.toRat = r

theorem magnitude_whole (n : Nat) : (Decimal.mk n 0).magnitude = roundMagnitude n 1 := by
  rw [Decimal.magnitude]
  exact congrArg (roundMagnitude · 1) (Nat.mul_one n)

theorem eq_of_near {n n' : Nat} (hge : (n : ℚ) - 1 / 2 ≤ n') (hle : (n' : ℚ) ≤ n + 1 / 2) :
    n' = n := by
  have hmost : n' < n + 1 := by
    rw [← Nat.cast_lt (α := ℚ), Nat.cast_succ]
    linarith
  have hleast : n < n' + 1 := by
    rw [← Nat.cast_lt (α := ℚ), Nat.cast_succ]
    linarith
  omega

section

variable {n : Nat} (hn : 0 < n) (hlt : n < twoPow 53)

include hn hlt

theorem roundMagnitude_whole : magnitudeRat (roundMagnitude n 1) = n
    ∧ exponent (roundMagnitude n 1) ≤ 0 ∧ roundMagnitude n 1 < infinity := by
  have hfit := isFit_fitExponent hn Nat.one_pos
  generalize fitExponent n 1 = e at hfit
  have hleast := hfit.least
  have he : e ≤ 0 := by
    by_contra hpos
    have hge := hfit.ge (by omega)
    have hpowers : (2 : ℚ) ^ (53 : Int) ≤ 2 ^ (e + 52) := zpow_le_zpow_right₀ one_le_two (by omega)
    have hsmall : (n : ℚ) < 2 ^ (53 : Int) := by exact_mod_cast hlt
    rw [Nat.cast_one, div_one] at hge
    linarith
  -- Scaled by a power of two it is a natural number, so that is nearest.
  have hscaled : (n : ℚ) / (1 : Nat) / 2 ^ e = (n * twoPow (-e).toNat : Nat) := by
    rw [← cast_scaled_div, Int.toNat_of_nonpos he]
    exact div_one _
  have hnearest : IsNearest (n * twoPow (-e).toNat) ((n : ℚ) / (1 : Nat) / 2 ^ e) := by
    rw [hscaled]
    exact ⟨by linarith, by linarith, fun h => h.elim (fun h => by linarith) fun h => by linarith⟩
  have hmost : n * twoPow (-e).toNat < twoPow 53 := by
    have hlt := (lt_zpow_add_iff _ e 53).mp hfit.lt
    rw [hscaled] at hlt
    exact Nat.cast_lt.mp hlt
  have hnormal : e ≠ -1074 → twoPow 52 ≤ n * twoPow (-e).toNat := fun hne => by
    have hge := (zpow_add_le_iff _ e 52).mp (hfit.ge hne)
    rw [hscaled] at hge
    exact Nat.cast_le.mp hge
  have hfinite : (e + 1074).toNat * twoPow 52 + n * twoPow (-e).toNat < infinity := by
    have hexponent := Nat.mul_le_mul_right (twoPow 52) (by omega : (e + 1074).toNat ≤ 1074)
    have hlast : 1074 * twoPow 52 + twoPow 53 < infinity := by decide +kernel
    omega
  have hmagnitude := roundMagnitude_eq hn Nat.one_pos hfit hnearest
  rw [Nat.min_eq_left hfinite.le] at hmagnitude
  obtain ⟨-, hs, hexponent⟩ | ⟨hs, -⟩ := parts_of_magnitude hleast hmost.le hnormal hmagnitude
  · refine ⟨?_, by omega, hmagnitude ▸ hfinite⟩
    rw [magnitudeRat_eq, hs, hexponent, ← hscaled, Nat.cast_one, div_one]
    exact div_mul_cancel₀ _ (zpow_pos two_pos e).ne'
  · omega

theorem roundMagnitude_whole_pos : 0 < roundMagnitude n 1 := by
  rw [← magnitudeRat_strictMono.lt_iff_lt, magnitudeRat_zero, (roundMagnitude_whole hn hlt).1]
  exact Nat.cast_pos.mpr hn

/-- Only decimals that are at most half away are rounded to the same. -/
theorem near_of_magnitude {d : Decimal} (hd : d.magnitude = roundMagnitude n 1) :
    (n : ℚ) - 1 / 2 ≤ d.toRat ∧ d.toRat ≤ n + 1 / 2 := by
  obtain ⟨hvalue, hexponent, hfinite⟩ := roundMagnitude_whole hn hlt
  have hm := roundMagnitude_whole_pos hn hlt
  obtain ⟨hge, hle⟩ := (has_of_magnitude hm hfinite hd).within hm
  have hpower : (2 : ℚ) ^ exponent (roundMagnitude n 1) ≤ 1 :=
    zpow_le_one_of_nonpos₀ one_le_two hexponent
  rw [hvalue] at hge hle
  constructor <;> linarith

/-- The shortest decimals of a whole number below 2 ^ 53 are that number. -/
theorem toRat_of_isShortest_whole {d : Decimal} (h : IsShortest (roundMagnitude n 1) d) :
    d.toRat = n := by
  have hm := roundMagnitude_whole_pos hn hlt
  obtain ⟨hge, hle⟩ := near_of_magnitude hn hlt h.rounds
  rcases le_or_gt 0 d.exponent with hexponent | hexponent
  · rw [Decimal.toRat_of_nonneg hexponent] at hge hle ⊢
    exact congrArg Nat.cast (eq_of_near hge hle)
  · -- It has no more digits than the number, so it is below the power of ten under that.
    exfalso
    have hcount : digitCount d.digits ≤ digitCount n := h.fewest ⟨n, 0⟩ (magnitude_whole n)
    have hbelow : d.toRat ≤ (Decimal.mk 1 (digitCount n - 1)).toRat := by
      rw [Decimal.toRat_one]
      refine ((Decimal.toRat_lt_iff (h.digits_pos hm) _).mpr ?_).le
      rw [Decimal.pointPosition]
      omega
    have habove : (Decimal.mk 1 (digitCount n - 1)).toRat ≤ (Decimal.mk n 0).toRat := by
      have hpos := digitCount_pos n
      rw [Decimal.toRat_one, Decimal.toRat_whole,
        show (digitCount n - 1 : Int) = (digitCount n - 1 : Nat) by omega, ← cast_tenPow]
      exact Nat.cast_le.mpr (tenPow_le_of_pos hn)
    -- Then it has one digit, as that power has, and is less than one.
    have hpower : (Decimal.mk 1 (digitCount n - 1)).magnitude = roundMagnitude n 1 :=
      Nat.le_antisymm (magnitude_whole n ▸ Decimal.magnitude_mono habove)
        (h.rounds ▸ Decimal.magnitude_mono hbelow)
    have hone : digitCount d.digits ≤ digitCount 1 := h.fewest ⟨1, digitCount n - 1⟩ hpower
    have hpoint : d.pointPosition ≤ 0 := by
      have hdigit : digitCount 1 = 1 := by decide
      rw [Decimal.pointPosition]
      omega
    rw [h.pointPosition_le_iff hm (by decide +kernel), magnitude_whole 1] at hpoint
    exact absurd (roundMagnitude_whole_mono hn) (Nat.not_le_of_lt hpoint)

theorem isShortNumber_whole : IsShortNumber (roundMagnitude n 1) n := by
  have hshortest := shortest_isShortest .up (roundMagnitude_whole_pos hn hlt)
    (roundMagnitude_whole hn hlt).2.2
  exact ⟨_, hshortest, toRat_of_isShortest_whole hn hlt hshortest⟩

end

end Daybook.Number
