import Daybook.Number.Shortest
import Daybook.Proofs.Number.Values

/-!
# Which fractions round to a value

A fraction is rounded to a natural number if it is nearest to that (`IsNearest`, `isNearest_roundRatio`).
So the fractions that are rounded to one magnitude are those in an interval around what it stands
for: half way to the next magnitude on either side, and the ends themselves if the significand is
even. That is the interval `RoundingInterval.ofMagnitude` (`has_ofMagnitude_iff`); below the least
significand of an exponent the magnitudes are half as far from each other, and so is its lower end.
-/

namespace Daybook.Number

open Binary64

/-! ## Nearest natural numbers -/

/-- Whether a natural number is nearest to a rational one, the even one of two that are. -/
structure IsNearest (q : Nat) (y : ℚ) : Prop where
  ge : (q : ℚ) - 1 / 2 ≤ y
  le : y ≤ q + 1 / 2
  even_of_tie : y = q - 1 / 2 ∨ y = q + 1 / 2 → q % 2 = 0

theorem IsNearest.unique {q q' : Nat} {y : ℚ} (h : IsNearest q y) (h' : IsNearest q' y) :
    q = q' := by
  -- Two that are nearest follow each other, and then both are even.
  have hone : ∀ {a b : Nat}, IsNearest a y → IsNearest b y → a ≤ b := by
    intro a b ha hb
    by_contra hlt
    have hle : (b : ℚ) + 1 ≤ a := by exact_mod_cast Nat.lt_of_not_le hlt
    have hge := ha.ge
    have hle' := hb.le
    have heq : (a : ℚ) = b + 1 := by linarith
    have hsucc : a = b + 1 := by exact_mod_cast heq
    have heven := ha.even_of_tie (.inl (by linarith))
    have heven' := hb.even_of_tie (.inr (by linarith))
    omega
  exact Nat.le_antisymm (hone h h') (hone h' h)

/-- A fraction is rounded to the nearest natural number. -/
theorem isNearest_roundRatio (num : Nat) {den : Nat} (hden : 0 < den) :
    IsNearest (roundRatio num den) (num / den) := by
  have hden' : (0 : ℚ) < den := Nat.cast_pos.mpr hden
  have hvalue : (num : ℚ) / den = (num / den : Nat) + ((num % den : Nat) : ℚ) / den := by
    have hparts : (num : ℚ) = den * (num / den : Nat) + (num % den : Nat) := by
      exact_mod_cast (Nat.div_add_mod num den).symm
    rw [hparts, add_div, mul_div_cancel_left₀ _ hden'.ne']
  have hnonneg : (0 : ℚ) ≤ ((num % den : Nat) : ℚ) / den :=
    div_nonneg (Nat.cast_nonneg _) hden'.le
  have hlt : ((num % den : Nat) : ℚ) / den < 1 := by
    rw [div_lt_one₀ hden']
    exact_mod_cast Nat.mod_lt num hden
  have hmore : 1 / 2 < ((num % den : Nat) : ℚ) / den ↔ den < 2 * (num % den) := by
    rw [lt_div_iff₀ hden', div_mul_eq_mul_div, one_mul, div_lt_iff₀ two_pos, mul_comm]
    exact_mod_cast Iff.rfl
  have htie : ((num % den : Nat) : ℚ) / den = 1 / 2 ↔ den = 2 * (num % den) := by
    rw [div_eq_div_iff hden'.ne' two_ne_zero, one_mul, mul_comm, eq_comm]
    exact_mod_cast Iff.rfl
  rw [hvalue]
  generalize ((num % den : Nat) : ℚ) / den = f at *
  by_cases hup : RoundsUp num den
  · rw [roundRatio_of_up hup]
    have hge : 1 / 2 ≤ f := hup.elim (fun h => (hmore.mpr h).le) (fun h => (htie.mpr h.1).ge)
    refine ⟨by push_cast; linarith, by push_cast; linarith, ?_⟩
    push_cast
    rintro (h | h)
    · obtain hlast | ⟨-, hodd⟩ := hup
      · exact absurd (hmore.mpr hlast) (by linarith)
      · omega
    · linarith
  · rw [roundRatio_of_not_up hup]
    rw [RoundsUp, not_or, not_and] at hup
    have hle : f ≤ 1 / 2 := not_lt.mp (mt hmore.mp hup.1)
    refine ⟨by linarith, by linarith, ?_⟩
    rintro (h | h)
    · linarith
    · have heven := hup.2 (htie.mp (by linarith))
      omega

/-! ## Nearest magnitudes -/

theorem div_zpow_add_one (x : ℚ) (e : Int) : x / 2 ^ (e + 1) = x / 2 ^ e / 2 := by
  rw [zpow_add_one₀ two_ne_zero, ← div_div]

theorem cast_twoPow_succ (n : Nat) : (twoPow (n + 1) : ℚ) = 2 * twoPow n := by
  rw [cast_twoPow, cast_twoPow, pow_succ']

/-- A fraction is rounded to the nearest significand of the exponent that fits it. -/
theorem roundMagnitude_eq {num den q : Nat} {e : Int} (hnum : 0 < num) (hden : 0 < den)
    (hfit : IsFit (num / den) e) (hq : IsNearest q ((num : ℚ) / den / 2 ^ e)) :
    roundMagnitude num den = min ((e + 1074).toNat * twoPow 52 + q) infinity := by
  have hfit' := isFit_fitExponent hnum hden
  obtain rfl : fitExponent num den = e :=
    Int.le_antisymm (hfit'.le_of_le hfit (le_refl _)) (hfit.le_of_le hfit' (le_refl _))
  have hscale : 0 < den * twoPow (fitExponent num den).toNat :=
    Nat.mul_pos hden (Nat.two_pow_pos _)
  have hnearest := isNearest_roundRatio (num * twoPow (-fitExponent num den).toNat) hscale
  rw [cast_scaled_div] at hnearest
  rw [roundMagnitude, if_neg hnum.ne']
  dsimp only
  rw [hnearest.unique hq]

/-- A magnitude has its significand above the least magnitude of its exponent. -/
theorem magnitude_eq (m : Nat) :
    (exponent m + 1074).toNat * twoPow 52 + significand m = m ∧ -1074 ≤ exponent m := by
  have h52 : twoPow 52 = 4503599627370496 := rfl
  unfold exponent significand
  rw [h52]
  split <;> omega

/-- A significand and an exponent are those of their magnitude, or the last significand is followed
by the first of the next exponent. -/
theorem parts_of_magnitude {q m : Nat} {e : Int} (hleast : -1074 ≤ e) (hmost : q ≤ twoPow 53)
    (hnormal : e ≠ -1074 → twoPow 52 ≤ q) (hm : m = (e + 1074).toNat * twoPow 52 + q) :
    q < twoPow 53 ∧ significand m = q ∧ exponent m = e
      ∨ q = twoPow 53 ∧ significand m = twoPow 52 ∧ exponent m = e + 1 := by
  have h52 : twoPow 52 = 4503599627370496 := rfl
  have h53 : twoPow 53 = 9007199254740992 := rfl
  unfold exponent significand
  rw [h52] at hm hnormal ⊢
  rw [h53] at hmost ⊢
  by_cases he : e = -1074
  · subst he
    split <;> omega
  · have hq := hnormal he
    split <;> omega

theorem significand_lt (m : Nat) : significand m < twoPow 53 := by
  have h52 : twoPow 52 = 4503599627370496 := rfl
  have h53 : twoPow 53 = 9007199254740992 := rfl
  unfold significand
  rw [h52, h53]
  split <;> omega

theorem le_significand {m : Nat} (h : exponent m ≠ -1074) : twoPow 52 ≤ significand m := by
  unfold exponent at h
  unfold significand
  split
  · rename_i hlt
    exact absurd (if_pos hlt) h
  · exact Nat.le_add_right _ _

theorem significand_pos {m : Nat} (hm : 0 < m) : 0 < significand m := by
  unfold significand
  split
  · exact hm
  · exact Nat.add_pos_left (Nat.two_pow_pos 52) _

/-! ## Intervals -/

namespace RoundingInterval

/-- Whether a rational number lies in an interval, with its ends or without. -/
def Has (i : RoundingInterval) (x : ℚ) : Prop :=
  if i.closed then (i.low : ℚ) / i.den ≤ x ∧ x ≤ i.high / i.den
  else (i.low : ℚ) / i.den < x ∧ x < i.high / i.den

theorem contains_iff {i : RoundingInterval} (hi : 0 < i.den) (num : Nat) {den : Nat}
    (hden : 0 < den) : i.contains num den = true ↔ i.Has (num / den) := by
  have hi' : (0 : ℚ) < i.den := Nat.cast_pos.mpr hi
  have hden' : (0 : ℚ) < den := Nat.cast_pos.mpr hden
  unfold contains Has
  dsimp only
  split
  · rw [Bool.and_eq_true, decide_eq_true_eq, decide_eq_true_eq, div_le_div_iff₀ hi' hden',
      div_le_div_iff₀ hden' hi']
    norm_cast
  · rw [Bool.and_eq_true, decide_eq_true_eq, decide_eq_true_eq, div_lt_div_iff₀ hi' hden',
      div_lt_div_iff₀ hden' hi']
    norm_cast

theorem Has.between {i : RoundingInterval} {x y z : ℚ} (hx : i.Has x) (hz : i.Has z)
    (hxy : x ≤ y) (hyz : y ≤ z) : i.Has y := by
  unfold Has at *
  split at hx
  · rw [if_pos ‹_›] at hz ⊢
    exact ⟨hx.1.trans hxy, hyz.trans hz.2⟩
  · rw [if_neg ‹_›] at hz ⊢
    exact ⟨hx.1.trans_le hxy, hyz.trans_lt hz.2⟩

/-- Whether the magnitudes below one are half as far from each other as those above. -/
def IsFirstOfExponent (m : Nat) : Prop :=
  significand m = twoPow 52 ∧ -1074 < exponent m

instance (m : Nat) : Decidable (IsFirstOfExponent m) :=
  inferInstanceAs (Decidable (_ ∧ _))

theorem cast_scaled (n : Nat) (e : Int) :
    ((n * twoPow e.toNat : Nat) : ℚ) / (4 * twoPow (-e).toNat : Nat) = (n : ℚ) / 4 * 2 ^ e := by
  rw [two_zpow_eq, Nat.cast_mul, Nat.cast_mul, mul_div_mul_comm, Nat.cast_ofNat]

/-- How far an interval goes down, in units of its exponent. -/
def reach (m : Nat) : ℚ :=
  if IsFirstOfExponent m then 1 / 4 else 1 / 2

theorem low_ofMagnitude {m : Nat} (hm : 0 < m) :
    ((ofMagnitude m).low : ℚ) / (ofMagnitude m).den
      = (significand m - reach m) * 2 ^ exponent m := by
  have hpos := significand_pos hm
  unfold ofMagnitude
  dsimp only
  rw [cast_scaled]
  congr 1
  by_cases hfirst : IsFirstOfExponent m
  · rw [reach, if_pos hfirst]
    have hbelow : (if significand m = twoPow 52 ∧ -1074 < exponent m then 1 else 2) = 1 :=
      if_pos hfirst
    rw [hbelow, Nat.cast_sub (by omega)]
    push_cast
    ring
  · rw [reach, if_neg hfirst]
    have hbelow : (if significand m = twoPow 52 ∧ -1074 < exponent m then 1 else 2) = 2 :=
      if_neg hfirst
    rw [hbelow, Nat.cast_sub (by omega)]
    push_cast
    ring

theorem high_ofMagnitude (m : Nat) :
    ((ofMagnitude m).high : ℚ) / (ofMagnitude m).den = (significand m + 1 / 2) * 2 ^ exponent m := by
  unfold ofMagnitude
  dsimp only
  rw [cast_scaled]
  push_cast
  ring

/-- The interval of a magnitude, in units of its exponent. -/
theorem has_ofMagnitude_iff {m : Nat} (hm : 0 < m) (x : ℚ) : (ofMagnitude m).Has x ↔
    if IsFirstOfExponent m then
      (significand m : ℚ) - 1 / 4 ≤ x / 2 ^ exponent m
        ∧ x / 2 ^ exponent m ≤ significand m + 1 / 2
    else IsNearest (significand m) (x / 2 ^ exponent m) := by
  have hpower : (0 : ℚ) < 2 ^ exponent m := zpow_pos two_pos _
  have hclosed : (ofMagnitude m).closed = true ↔ significand m % 2 = 0 := beq_iff_eq
  unfold Has
  rw [low_ofMagnitude hm, high_ofMagnitude, ← le_div_iff₀ hpower, ← div_le_iff₀ hpower,
    ← lt_div_iff₀ hpower, ← div_lt_iff₀ hpower, reach]
  by_cases hfirst : IsFirstOfExponent m
  · have heven : significand m % 2 = 0 := by
      rw [hfirst.1]
      decide +kernel
    rw [if_pos (hclosed.mpr heven), if_pos hfirst, if_pos hfirst]
  · rw [if_neg hfirst, if_neg hfirst]
    split
    · rename_i heven
      exact ⟨fun h => ⟨h.1, h.2, fun _ => hclosed.mp heven⟩, fun h => ⟨h.ge, h.le⟩⟩
    · rename_i hodd
      constructor
      · rintro ⟨hge, hle⟩
        refine ⟨hge.le, hle.le, fun htie => ?_⟩
        exact (htie.elim (fun h => hge.ne h.symm) (fun h => hle.ne h)).elim
      · intro h
        exact ⟨lt_of_le_of_ne h.ge fun heq => hodd (hclosed.mpr (h.even_of_tie (.inl heq.symm))),
          lt_of_le_of_ne h.le fun heq => hodd (hclosed.mpr (h.even_of_tie (.inr heq)))⟩

theorem has_magnitudeRat {m : Nat} (hm : 0 < m) : (ofMagnitude m).Has (magnitudeRat m) := by
  have hpower : (2 : ℚ) ^ exponent m ≠ 0 := (zpow_pos two_pos _).ne'
  rw [has_ofMagnitude_iff hm, magnitudeRat_eq, mul_div_cancel_right₀ _ hpower]
  split
  · constructor <;> linarith
  · exact ⟨by linarith, by linarith, fun h => h.elim (fun h => by linarith) fun h => by linarith⟩

/-- An interval reaches no farther than half a unit of its exponent. -/
theorem Has.within {m : Nat} (hm : 0 < m) {x : ℚ} (h : (ofMagnitude m).Has x) :
    magnitudeRat m - 2 ^ exponent m / 2 ≤ x ∧ x ≤ magnitudeRat m + 2 ^ exponent m / 2 := by
  have hpower : (0 : ℚ) < 2 ^ exponent m := zpow_pos two_pos _
  have hunits : (significand m : ℚ) - 1 / 2 ≤ x / 2 ^ exponent m
      ∧ x / 2 ^ exponent m ≤ significand m + 1 / 2 := by
    rw [has_ofMagnitude_iff hm] at h
    split at h
    · exact ⟨by linarith, h.2⟩
    · exact ⟨h.ge, h.le⟩
  rw [le_div_iff₀ hpower, div_le_iff₀ hpower, sub_mul, add_mul] at hunits
  rw [magnitudeRat_eq]
  constructor <;> linarith

end RoundingInterval

open RoundingInterval

theorem has_of_roundMagnitude {num den m : Nat} (hnum : 0 < num) (hden : 0 < den) (hm : 0 < m)
    (hfinite : m < infinity) (h : roundMagnitude num den = m) :
    (ofMagnitude m).Has (num / den) := by
  have hfit := isFit_fitExponent hnum hden
  obtain ⟨hmost, hnormal⟩ := significant_bits hden hfit
  have hscale : 0 < den * twoPow (fitExponent num den).toNat :=
    Nat.mul_pos hden (Nat.two_pow_pos _)
  have hnearest := isNearest_roundRatio (num * twoPow (-fitExponent num den).toNat) hscale
  rw [cast_scaled_div] at hnearest
  rw [roundMagnitude, if_neg hnum.ne'] at h
  dsimp only at h hmost hnormal
  have hleast := hfit.least
  generalize fitExponent num den = e at *
  generalize roundRatio (num * twoPow (-e).toNat) (den * twoPow e.toNat) = q at *
  have hpower : (0 : ℚ) < 2 ^ e := zpow_pos two_pos e
  rw [has_ofMagnitude_iff hm]
  rcases parts_of_magnitude hleast hmost hnormal (m := m) (by omega) with
    ⟨-, hs, he⟩ | ⟨rfl, hs, he⟩
  · rw [hs, he]
    split
    · rename_i hfirst
      have hge := (zpow_add_le_iff _ e 52).mp (hfit.ge (he ▸ hfirst.2.ne'))
      rw [← hfirst.1, hs] at hge
      exact ⟨by linarith, hnearest.le⟩
    · exact hnearest
  · -- Rounded up to the next exponent: less than its first magnitude, by half a unit below it.
    have hfirst : IsFirstOfExponent m := ⟨hs, by omega⟩
    have hlt := (lt_zpow_add_iff _ e 53).mp hfit.lt
    have hge := hnearest.ge
    rw [cast_twoPow_succ] at hlt hge
    rw [if_pos hfirst, hs, he, div_zpow_add_one]
    constructor <;> linarith

section

variable {num den m : Nat} (hnum : 0 < num) (hden : 0 < den) (hfinite : m < infinity)

include hnum hden hfinite

theorem roundMagnitude_of_nearest
    (hfit : exponent m ≠ -1074 → (twoPow 52 : ℚ) ≤ num / den / 2 ^ exponent m)
    (h : IsNearest (significand m) ((num : ℚ) / den / 2 ^ exponent m)) :
    roundMagnitude num den = m := by
  obtain ⟨hparts, hleast⟩ := magnitude_eq m
  have hsignificand : (significand m : ℚ) + 1 ≤ twoPow 53 := by
    exact_mod_cast Nat.succ_le_of_lt (significand_lt m)
  have hlt := (lt_zpow_add_iff (num / den) (exponent m) 53).mpr (by linarith [h.le])
  rw [roundMagnitude_eq hnum hden ⟨hleast, hlt, fun he => (zpow_add_le_iff _ _ 52).mpr (hfit he)⟩ h,
    hparts, Nat.min_eq_left hfinite.le]

/-- What is less than the first magnitude of an exponent by at most a quarter of its unit is rounded
to it: with the exponent before it, to the significand after the last one. -/
theorem roundMagnitude_of_below (hfirst : IsFirstOfExponent m)
    (hge : (twoPow 52 : ℚ) - 1 / 4 ≤ num / den / 2 ^ exponent m)
    (hlt : (num : ℚ) / den / 2 ^ exponent m < twoPow 52) : roundMagnitude num den = m := by
  obtain ⟨hparts, -⟩ := magnitude_eq m
  have hlast := hfirst.2
  obtain ⟨e, he⟩ : ∃ e, exponent m = e + 1 := ⟨exponent m - 1, by omega⟩
  have htwo := cast_twoPow_succ 52
  have hpositive : (1 : ℚ) ≤ twoPow 52 := by exact_mod_cast Nat.one_le_two_pow
  rw [he, div_zpow_add_one] at hge hlt
  have hfit : IsFit (num / den) e :=
    ⟨by omega, (lt_zpow_add_iff _ e 53).mpr (by linarith),
      fun _ => (zpow_add_le_iff _ e 52).mpr (by linarith)⟩
  have hnearest : IsNearest (twoPow 53) ((num : ℚ) / den / 2 ^ e) :=
    ⟨by linarith, by linarith, fun _ => by decide +kernel⟩
  have hsame : (e + 1074).toNat * twoPow 52 + twoPow 53 = m := by
    have hnext : (exponent m + 1074).toNat = (e + 1074).toNat + 1 := by omega
    have hsum : twoPow 53 = twoPow 52 + twoPow 52 := rfl
    rw [hnext, Nat.succ_mul, hfirst.1] at hparts
    omega
  rw [roundMagnitude_eq hnum hden hfit hnearest, hsame, Nat.min_eq_left hfinite.le]

/-- What is in the interval of a magnitude is rounded to it. -/
theorem roundMagnitude_of_has (hm : 0 < m) (h : (ofMagnitude m).Has (num / den)) :
    roundMagnitude num den = m := by
  rw [has_ofMagnitude_iff hm] at h
  split at h
  · rename_i hfirst
    rw [hfirst.1] at h
    rcases lt_or_ge ((num : ℚ) / den / 2 ^ exponent m) (twoPow 52) with hlt | hge
    · exact roundMagnitude_of_below hnum hden hfinite hfirst h.1 hlt
    · refine roundMagnitude_of_nearest hnum hden hfinite (fun _ => hge) ?_
      rw [hfirst.1]
      exact ⟨by linarith, h.2, fun _ => by decide +kernel⟩
  · rename_i hsecond
    refine roundMagnitude_of_nearest hnum hden hfinite (fun hexponent => ?_) h
    -- The first significand is that of the first magnitude.
    have hnext : twoPow 52 + 1 ≤ significand m := by
      refine Nat.lt_of_le_of_ne (le_significand hexponent) fun hs => hsecond ⟨hs.symm, ?_⟩
      exact lt_of_le_of_ne (magnitude_eq m).2 hexponent.symm
    have hnext' : (twoPow 52 : ℚ) + 1 ≤ significand m := by exact_mod_cast hnext
    linarith [h.ge]

end

end Daybook.Number
