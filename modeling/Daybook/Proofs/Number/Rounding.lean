import Mathlib.Algebra.Order.Field.Power
import Mathlib.Data.Rat.Cast.Order
import Mathlib.Tactic.Linarith
import Mathlib.Tactic.Ring
import Daybook.Number.Binary64

/-!
# Rounding keeps order

A fraction is rounded to the magnitude nearest to it by scaling it, with the exponent that leaves it
53 significant bits or with the least one (`IsFit`), and rounding what that gives to a natural
number. Of two fractions the greater has no smaller exponent (`IsFit.le_of_le`). With the same
exponent, rounding to natural numbers keeps their order (`roundRatio_mono`), and with different ones
the power of two between them does; so the greater fraction is never rounded to a smaller magnitude
(`roundMagnitude_mono`). In particular a magnitude depends on the value of a fraction alone.
-/

namespace Daybook.Number.Binary64

/-! ## Natural numbers -/

/-- Whether a fraction is rounded up: above the middle of two natural numbers, and in the middle if
the one below is odd. -/
def RoundsUp (num den : Nat) : Prop :=
  den < 2 * (num % den) ∨ den = 2 * (num % den) ∧ num / den % 2 = 1

theorem roundRatio_of_up {num den : Nat} (h : RoundsUp num den) :
    roundRatio num den = num / den + 1 := by
  unfold RoundsUp at h
  unfold roundRatio
  dsimp only
  split
  · omega
  · split <;> omega

theorem roundRatio_of_not_up {num den : Nat} (h : ¬RoundsUp num den) :
    roundRatio num den = num / den := by
  unfold RoundsUp at h
  unfold roundRatio
  dsimp only
  split
  · rfl
  · split <;> omega

theorem roundRatio_le (num den : Nat) : roundRatio num den ≤ num / den + 1 := by
  by_cases h : RoundsUp num den
  · rw [roundRatio_of_up h]
  · rw [roundRatio_of_not_up h]
    exact Nat.le_succ _

theorem le_roundRatio (num den : Nat) : num / den ≤ roundRatio num den := by
  by_cases h : RoundsUp num den
  · rw [roundRatio_of_up h]
    exact Nat.le_succ _
  · rw [roundRatio_of_not_up h]

theorem roundRatio_one (n : Nat) : roundRatio n 1 = n := by
  have hdown : ¬RoundsUp n 1 := by
    unfold RoundsUp
    omega
  rw [roundRatio_of_not_up hdown, Nat.div_one]

section

variable {num den num' den' : Nat} (hden : 0 < den) (hden' : 0 < den')
  (h : num * den' ≤ num' * den)

include hden hden' h

theorem div_le_div_of_cross : num / den ≤ num' / den' := by
  rw [Nat.le_div_iff_mul_le hden']
  have hfloor : num / den * den ≤ num := Nat.div_mul_le_self num den
  have hcross : num / den * den' * den ≤ num' * den := by
    rw [Nat.mul_right_comm]
    exact (Nat.mul_le_mul_right den' hfloor).trans h
  exact Nat.le_of_mul_le_mul_right hcross hden

/-- Above the same natural number, a greater fraction is rounded up if a smaller one is. -/
theorem RoundsUp.of_le (hfloor : num / den = num' / den') (hup : RoundsUp num den) :
    RoundsUp num' den' := by
  have hnum := Nat.div_add_mod num den
  have hnum' := Nat.div_add_mod num' den'
  unfold RoundsUp at hup ⊢
  rw [← hfloor] at hnum' ⊢
  generalize num / den = q at *
  generalize num % den = r at *
  generalize num' % den' = r' at *
  have hrests : r * den' ≤ r' * den := by
    subst hnum hnum'
    nlinarith
  rcases hup with hmore | ⟨htie, hodd⟩
  · exact .inl (by nlinarith)
  · have htie' : den' ≤ 2 * r' := by nlinarith
    omega

/-- A greater fraction is never rounded to a smaller number. -/
theorem roundRatio_mono : roundRatio num den ≤ roundRatio num' den' := by
  rcases Nat.lt_or_eq_of_le (div_le_div_of_cross hden hden' h) with hlt | hfloor
  · exact (roundRatio_le num den).trans ((Nat.succ_le_of_lt hlt).trans (le_roundRatio num' den'))
  · by_cases hup : RoundsUp num den
    · rw [roundRatio_of_up hup, roundRatio_of_up (hup.of_le hden hden' h hfloor), hfloor]
    · rw [roundRatio_of_not_up hup, hfloor]
      exact le_roundRatio num' den'

end

theorem roundRatio_le_of_le {num den n : Nat} (hden : 0 < den) (h : num ≤ n * den) :
    roundRatio num den ≤ n := by
  have hmono : roundRatio num den ≤ roundRatio n 1 :=
    roundRatio_mono hden Nat.one_pos (by rwa [Nat.mul_one])
  rwa [roundRatio_one] at hmono

theorem le_roundRatio_of_le {num den n : Nat} (hden : 0 < den) (h : n * den ≤ num) :
    n ≤ roundRatio num den := by
  have hmono : roundRatio n 1 ≤ roundRatio num den :=
    roundRatio_mono Nat.one_pos hden (by rwa [Nat.mul_one])
  rwa [roundRatio_one] at hmono

/-! ## Exponents -/

theorem cast_twoPow (n : Nat) : (twoPow n : ℚ) = 2 ^ n :=
  Nat.cast_pow 2 n

/-- A power with an integer exponent is a fraction of powers with natural ones. -/
theorem cast_zpow_eq (b : Nat) (e : Int) :
    (b : ℚ) ^ e = (Nat.pow b e.toNat : Nat) / (Nat.pow b (-e).toNat : Nat) := by
  have hcast : ∀ n : Nat, ((Nat.pow b n : Nat) : ℚ) = (b : ℚ) ^ n := Nat.cast_pow b
  rw [hcast, hcast]
  rcases Int.le_total 0 e with he | he
  · obtain ⟨n, rfl⟩ := Int.eq_ofNat_of_zero_le he
    simp
  · obtain ⟨n, hn⟩ := Int.exists_eq_neg_ofNat he
    subst hn
    simp

theorem two_zpow_eq (e : Int) : (2 : ℚ) ^ e = twoPow e.toNat / twoPow (-e).toNat :=
  cast_zpow_eq 2 e

/-- A fraction of which one side is scaled by a power of two. -/
theorem cast_scaled_div (num den : Nat) (e : Int) :
    ((num * twoPow (-e).toNat : Nat) : ℚ) / (den * twoPow e.toNat : Nat)
      = (num : ℚ) / den / 2 ^ e := by
  rw [two_zpow_eq, Nat.cast_mul, Nat.cast_mul, div_div_eq_mul_div, ← mul_div_right_comm,
    div_div]

theorem lt_zpow_add_iff (x : ℚ) (e : Int) (bits : Nat) :
    x < 2 ^ (e + bits) ↔ x / 2 ^ e < twoPow bits := by
  rw [add_comm, zpow_add₀ two_ne_zero, ← div_lt_iff₀ (zpow_pos two_pos e), zpow_natCast, cast_twoPow]

theorem zpow_add_le_iff (x : ℚ) (e : Int) (bits : Nat) :
    2 ^ (e + bits) ≤ x ↔ (twoPow bits : ℚ) ≤ x / 2 ^ e := by
  rw [← not_lt, lt_zpow_add_iff, not_lt]

/-- Whether a number has 53 significant bits above an exponent, or at most so many above the least
exponent there is. -/
structure IsFit (x : ℚ) (e : Int) : Prop where
  least : -1074 ≤ e
  lt : x < 2 ^ (e + 53)
  ge : e ≠ -1074 → (2 : ℚ) ^ (e + 52) ≤ x

/-- A greater number needs no smaller exponent. -/
theorem IsFit.le_of_le {x y : ℚ} {e e' : Int} (hx : IsFit x e) (hy : IsFit y e') (h : x ≤ y) :
    e ≤ e' := by
  by_contra hlt
  have hnormal := hx.ge (by have := hy.least; omega)
  have hpowers : (2 : ℚ) ^ (e' + 53) ≤ 2 ^ (e + 52) := zpow_le_zpow_right₀ one_le_two (by omega)
  exact absurd (hnormal.trans h) (not_le.mpr (hy.lt.trans_le hpowers))

theorem scaled_lt_iff (num : Nat) {den : Nat} (hden : 0 < den) (e : Int) (bits : Nat) :
    num * twoPow (-e).toNat < twoPow bits * (den * twoPow e.toNat)
      ↔ (num : ℚ) / den < 2 ^ (e + bits) := by
  have hscale : (0 : ℚ) < (den * twoPow e.toNat : Nat) :=
    Nat.cast_pos.mpr (Nat.mul_pos hden (Nat.two_pow_pos _))
  rw [lt_zpow_add_iff, ← cast_scaled_div, div_lt_iff₀ hscale, ← Nat.cast_mul, Nat.cast_lt]

/-- The powers of two around a fraction, as the numbers of bits of its parts tell. -/
theorem between_powers {num den : Nat} (hnum : 0 < num) (hden : 0 < den) :
    (2 : ℚ) ^ ((num.log2 : Int) - den.log2 - 1) ≤ num / den
      ∧ (num : ℚ) / den < 2 ^ ((num.log2 : Int) - den.log2 + 1) := by
  have hden' : (0 : ℚ) < den := Nat.cast_pos.mpr hden
  have hnumLow : ((2 ^ num.log2 : Nat) : ℚ) ≤ num := Nat.cast_le.mpr (Nat.log2_self_le hnum.ne')
  have hnumHigh : (num : ℚ) < (2 ^ (num.log2 + 1) : Nat) := Nat.cast_lt.mpr Nat.lt_log2_self
  have hdenLow : ((2 ^ den.log2 : Nat) : ℚ) ≤ den := Nat.cast_le.mpr (Nat.log2_self_le hden.ne')
  have hdenHigh : (den : ℚ) < (2 ^ (den.log2 + 1) : Nat) := Nat.cast_lt.mpr Nat.lt_log2_self
  push_cast at hnumLow hnumHigh hdenLow hdenHigh
  rw [le_div_iff₀ hden', div_lt_iff₀ hden']
  constructor
  · calc (2 : ℚ) ^ ((num.log2 : Int) - den.log2 - 1) * den
        ≤ 2 ^ ((num.log2 : Int) - den.log2 - 1) * 2 ^ (den.log2 + 1) := by gcongr
      _ = 2 ^ num.log2 := by
          rw [← zpow_natCast, ← zpow_natCast, ← zpow_add₀ two_ne_zero]
          congr 1
          omega
      _ ≤ num := hnumLow
  · calc (num : ℚ) < 2 ^ (num.log2 + 1) := hnumHigh
      _ = 2 ^ ((num.log2 : Int) - den.log2 + 1) * 2 ^ den.log2 := by
          rw [← zpow_natCast, ← zpow_natCast, ← zpow_add₀ two_ne_zero]
          congr 1
          omega
      _ ≤ 2 ^ ((num.log2 : Int) - den.log2 + 1) * den := by gcongr

theorem isFit_fitExponent {num den : Nat} (hnum : 0 < num) (hden : 0 < den) :
    IsFit (num / den) (fitExponent num den) := by
  obtain ⟨hlow, hhigh⟩ := between_powers hnum hden
  have hmono : ∀ {e e' : Int}, e ≤ e' → (2 : ℚ) ^ e ≤ 2 ^ e' := zpow_le_zpow_right₀ one_le_two
  unfold fitExponent
  dsimp only
  -- Of the two exponents that the numbers of bits leave open, the test takes the right one.
  generalize hguess : max ((num.log2 : Int) - den.log2 - 52) (-1074) = guess
  have htest := scaled_lt_iff num hden guess 52
  split
  · rename_i h
    rw [Bool.and_eq_true, decide_eq_true_eq, decide_eq_true_eq, htest] at h
    obtain ⟨hsmall, hmore⟩ := h
    refine ⟨by omega, ?_, fun _ => (hmono (by omega)).trans hlow⟩
    rwa [show guess - 1 + 53 = guess + 52 by omega]
  · rename_i h
    rw [Bool.and_eq_true, decide_eq_true_eq, decide_eq_true_eq, htest, not_and'] at h
    exact ⟨by omega, hhigh.trans_le (hmono (by omega)), fun hne => not_lt.mp (h (by omega))⟩

/-! ## Magnitudes -/

/-- The significant bits of a fraction above an exponent that fits it. -/
theorem significant_bits {num den : Nat} {e : Int} (hden : 0 < den) (h : IsFit (num / den) e) :
    let bits := roundRatio (num * twoPow (-e).toNat) (den * twoPow e.toNat)
    bits ≤ twoPow 53 ∧ (e ≠ -1074 → twoPow 52 ≤ bits) := by
  intro bits
  have hscale : 0 < den * twoPow e.toNat := Nat.mul_pos hden (Nat.two_pow_pos _)
  refine ⟨roundRatio_le_of_le hscale ?_, fun he => le_roundRatio_of_le hscale ?_⟩
  · exact Nat.le_of_lt ((scaled_lt_iff num hden e 53).mpr h.lt)
  · have hge := mt (scaled_lt_iff num hden e 52).mp (not_lt.mpr (h.ge he))
    exact Nat.le_of_not_lt hge

/-- A greater fraction is never rounded to a smaller magnitude. -/
theorem roundMagnitude_mono {num den num' den' : Nat} (hden : 0 < den) (hden' : 0 < den')
    (h : num * den' ≤ num' * den) : roundMagnitude num den ≤ roundMagnitude num' den' := by
  rcases Nat.eq_zero_or_pos num with rfl | hnum
  · exact Nat.zero_le _
  have hnum' : 0 < num' := Nat.pos_of_mul_pos_right ((Nat.mul_pos hnum hden').trans_le h)
  have hvalue : (num : ℚ) / den ≤ num' / den' := by
    rw [div_le_div_iff₀ (Nat.cast_pos.mpr hden) (Nat.cast_pos.mpr hden')]
    exact_mod_cast h
  have hfit := isFit_fitExponent hnum hden
  have hfit' := isFit_fitExponent hnum' hden'
  have hexponents := hfit.le_of_le hfit' hvalue
  obtain ⟨hmost, -⟩ := significant_bits hden hfit
  obtain ⟨-, hleast⟩ := significant_bits hden' hfit'
  have hbound := hfit.least
  rw [roundMagnitude, if_neg hnum.ne', roundMagnitude, if_neg hnum'.ne']
  dsimp only
  generalize fitExponent num den = e at *
  generalize fitExponent num' den' = e' at *
  refine min_le_min_right infinity ?_
  rcases Int.lt_or_eq_of_le hexponents with hlt | rfl
  · -- All magnitudes of the lower exponent are at most the first one of the next exponent.
    have hnormal := hleast (by omega)
    have htwo : twoPow 53 = 2 * twoPow 52 := rfl
    have hnext : (e + 1074).toNat + 1 ≤ (e' + 1074).toNat := by omega
    have hproduct := Nat.mul_le_mul_right (twoPow 52) hnext
    rw [Nat.succ_mul] at hproduct
    omega
  · refine Nat.add_le_add_left (roundRatio_mono ?_ ?_ ?_) _
    · exact Nat.mul_pos hden (Nat.two_pow_pos _)
    · exact Nat.mul_pos hden' (Nat.two_pow_pos _)
    · calc num * twoPow (-e).toNat * (den' * twoPow e.toNat)
          = num * den' * (twoPow (-e).toNat * twoPow e.toNat) := by ring
        _ ≤ num' * den * (twoPow (-e).toNat * twoPow e.toNat) := Nat.mul_le_mul_right _ h
        _ = num' * twoPow (-e).toNat * (den * twoPow e.toNat) := by ring

/-- Equal fractions are rounded to one magnitude. -/
theorem roundMagnitude_congr {num den num' den' : Nat} (hden : 0 < den) (hden' : 0 < den')
    (h : num * den' = num' * den) : roundMagnitude num den = roundMagnitude num' den' :=
  Nat.le_antisymm (roundMagnitude_mono hden hden' h.le) (roundMagnitude_mono hden' hden h.ge)

end Daybook.Number.Binary64
