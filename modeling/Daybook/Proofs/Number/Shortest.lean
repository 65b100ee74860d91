import Daybook.Proofs.Number.Decimals
import Daybook.Proofs.Number.Intervals

/-!
# Shortest decimals

The decimal that is found for a magnitude is rounded to it, and no decimal with fewer digits is
(`shortest_isShortest`); of those with as few digits none is nearer (`shortest_nearest`).

For a count of digits the decimals with the exponent that goes with it are a grid, which gives a
point if any decimal with so many digits is in the interval of the magnitude (`onGrid?_nearest`): the
interval is convex, so one of the two points around the magnitude is in it as well, and a decimal of
a finer grid is below a power of ten that is not above the magnitude. With seventeen digits a grid is
finer than any interval (`exists_onGrid?_seventeen`), so the search ends.
-/

namespace Daybook.Number

open Binary64

/-- Whether a decimal is rounded to a magnitude, and no decimal with fewer digits is. -/
structure IsShortest (m : Nat) (d : Decimal) : Prop where
  rounds : d.magnitude = m
  fewest : ∀ d' : Decimal, d'.magnitude = m → digitCount d.digits ≤ digitCount d'.digits

namespace RoundingInterval

variable {i : RoundingInterval}

def valueRat (i : RoundingInterval) : ℚ :=
  i.value / i.den

/-- Whether an interval has parts that a search can work with. -/
structure Proper (i : RoundingInterval) : Prop where
  den_pos : 0 < i.den
  value_pos : 0 < i.value
  has_value : i.Has i.valueRat

/-! ## The power of ten above the value -/

/-- The value of an interval is between two powers of ten. -/
theorem decimalMagnitude_spec (hi : i.Proper) :
    10 ^ (i.decimalMagnitude - 1) ≤ i.valueRat ∧ i.valueRat < 10 ^ i.decimalMagnitude := by
  have hden : (0 : ℚ) < i.den := Nat.cast_pos.mpr hi.den_pos
  unfold valueRat decimalMagnitude
  rw [le_div_iff₀ hden, div_lt_iff₀ hden]
  split
  · rename_i hlarge
    obtain ⟨k, hk⟩ := Nat.exists_eq_add_one.mpr (digitCount_pos (i.value / i.den))
    have hle := tenPow_le_of_pos (Nat.div_pos hlarge hi.den_pos)
    have hlt := lt_tenPow_digitCount (i.value / i.den)
    rw [hk, Nat.add_sub_cancel, Nat.le_div_iff_mul_le hi.den_pos] at hle
    rw [Nat.div_lt_iff_lt_mul hi.den_pos] at hlt
    rw [← cast_tenPow, hk, show ((k + 1 : Nat) : Int) - 1 = k by omega, ← cast_tenPow, ← hk]
    exact_mod_cast And.intro hle hlt
  · -- Here the power of ten that counts is the one above the inverse of the value.
    rename_i hsmall
    obtain ⟨k, hk⟩ := Nat.exists_eq_add_one.mpr (digitCount_pos ((i.den - 1) / i.value))
    have hle := tenPow_le_of_pos (Nat.div_pos (by omega : i.value ≤ i.den - 1) hi.value_pos)
    have hlt := lt_tenPow_digitCount ((i.den - 1) / i.value)
    rw [hk, Nat.add_sub_cancel, Nat.le_div_iff_mul_le hi.value_pos] at hle
    rw [hk, Nat.div_lt_iff_lt_mul hi.value_pos] at hlt
    rw [hk, show (1 : Int) - (k + 1 : Nat) - 1 = -(k + 1 : Nat) by omega,
      show (1 : Int) - (k + 1 : Nat) = -(k : Nat) by omega, zpow_neg, zpow_neg, ← cast_tenPow,
      ← cast_tenPow, inv_mul_eq_div, inv_mul_eq_div, div_le_iff₀, lt_div_iff₀]
    · have hpos := hi.den_pos
      have hge : i.den ≤ i.value * tenPow (k + 1) := by
        rw [Nat.mul_comm]
        omega
      have hlast : i.value * tenPow k < i.den := by
        rw [Nat.mul_comm]
        omega
      exact_mod_cast And.intro hge hlast
    · exact Nat.cast_pos.mpr (tenPow_pos k)
    · exact Nat.cast_pos.mpr (tenPow_pos (k + 1))

/-! ## Grids -/

/-- A decimal of the grid with `n` digits. -/
def gridPoint (i : RoundingInterval) (n c : Nat) : Decimal :=
  ⟨c, i.decimalMagnitude - n⟩

/-- A step of a grid is a fraction of natural numbers, `gridUp / gridDown`. -/
def gridUp (i : RoundingInterval) (n : Nat) : Nat :=
  tenPow (i.decimalMagnitude - n).toNat

def gridDown (i : RoundingInterval) (n : Nat) : Nat :=
  tenPow (-(i.decimalMagnitude - n)).toNat

/-- The digits of the last point of a grid that is not above the value. -/
def gridBelow (i : RoundingInterval) (n : Nat) : Nat :=
  i.value * i.gridDown n / (i.den * i.gridUp n)

theorem gridUp_pos (i : RoundingInterval) (n : Nat) : 0 < i.gridUp n :=
  tenPow_pos _

theorem gridDown_pos (i : RoundingInterval) (n : Nat) : 0 < i.gridDown n :=
  tenPow_pos _

theorem toRat_gridPoint (i : RoundingInterval) (n c : Nat) :
    (i.gridPoint n c).toRat = (c * i.gridUp n : Nat) / (i.gridDown n : Nat) :=
  Decimal.toRat_eq_div _

theorem gridPoint_le_iff (hi : i.Proper) (n c : Nat) :
    (i.gridPoint n c).toRat ≤ i.valueRat ↔ c ≤ i.gridBelow n := by
  rw [toRat_gridPoint, valueRat, div_le_div_iff₀ (Nat.cast_pos.mpr (i.gridDown_pos n))
    (Nat.cast_pos.mpr hi.den_pos), gridBelow,
    Nat.le_div_iff_mul_le (Nat.mul_pos hi.den_pos (i.gridUp_pos n)), Nat.mul_left_comm,
    Nat.mul_comm i.den]
  exact_mod_cast Iff.rfl

theorem gridBelow_le_value (hi : i.Proper) (n : Nat) :
    (i.gridPoint n (i.gridBelow n)).toRat ≤ i.valueRat :=
  (gridPoint_le_iff hi n _).mpr (Nat.le_refl _)

theorem value_lt_gridAbove (hi : i.Proper) (n : Nat) :
    i.valueRat < (i.gridPoint n (i.gridBelow n + 1)).toRat :=
  lt_of_not_ge (mt (gridPoint_le_iff hi n _).mp (Nat.not_succ_le_self _))

theorem contains_gridPoint_iff (hi : i.Proper) (n c : Nat) :
    i.contains (c * i.gridUp n) (i.gridDown n) = true ↔ i.Has (i.gridPoint n c).toRat := by
  rw [contains_iff hi.den_pos _ (i.gridDown_pos n), toRat_gridPoint]

/-- The distances of the value from the points around it are numbers over one denominator. -/
theorem exists_scale (hi : i.Proper) (n : Nat) : ∃ scale : ℚ, 0 < scale
    ∧ ((i.value * i.gridDown n - i.gridBelow n * (i.den * i.gridUp n) : Nat) : ℚ)
      = (i.valueRat - (i.gridPoint n (i.gridBelow n)).toRat) * scale
    ∧ (((i.gridBelow n + 1) * (i.den * i.gridUp n) - i.value * i.gridDown n : Nat) : ℚ)
      = ((i.gridPoint n (i.gridBelow n + 1)).toRat - i.valueRat) * scale := by
  have hden : (0 : ℚ) < i.den := Nat.cast_pos.mpr hi.den_pos
  have hdown : (0 : ℚ) < i.gridDown n := Nat.cast_pos.mpr (i.gridDown_pos n)
  have hvalue : i.valueRat * (i.den * i.gridDown n) = (i.value * i.gridDown n : Nat) := by
    rw [valueRat, ← mul_assoc, div_mul_cancel₀ _ hden.ne', Nat.cast_mul]
  have hpoint : ∀ c : Nat, (i.gridPoint n c).toRat * (i.den * i.gridDown n)
      = (c * (i.den * i.gridUp n) : Nat) := by
    intro c
    rw [toRat_gridPoint, mul_comm (i.den : ℚ), ← mul_assoc, div_mul_cancel₀ _ hdown.ne']
    push_cast
    ring
  have hle : i.gridBelow n * (i.den * i.gridUp n) ≤ i.value * i.gridDown n :=
    Nat.div_mul_le_self _ _
  have hlt : i.value * i.gridDown n < (i.gridBelow n + 1) * (i.den * i.gridUp n) :=
    (Nat.div_lt_iff_lt_mul (Nat.mul_pos hi.den_pos (i.gridUp_pos n))).mp (Nat.lt_succ_self _)
  refine ⟨i.den * i.gridDown n, mul_pos hden hdown, ?_, ?_⟩
  · rw [Nat.cast_sub hle, sub_mul, hvalue, hpoint]
  · rw [Nat.cast_sub hlt.le, sub_mul, hvalue, hpoint]

/-- What a grid gives: of the two points around the value, the nearer one in the interval. -/
inductive OnGrid (i : RoundingInterval) (n : Nat) : Option Decimal → Prop
  | below (pos : 0 < i.gridBelow n) (inside : i.Has (i.gridPoint n (i.gridBelow n)).toRat)
      (nearer : i.Has (i.gridPoint n (i.gridBelow n + 1)).toRat →
        i.valueRat - (i.gridPoint n (i.gridBelow n)).toRat
          ≤ (i.gridPoint n (i.gridBelow n + 1)).toRat - i.valueRat) :
      OnGrid i n (some (i.gridPoint n (i.gridBelow n)))
  | above (inside : i.Has (i.gridPoint n (i.gridBelow n + 1)).toRat)
      (nearer : 0 < i.gridBelow n → i.Has (i.gridPoint n (i.gridBelow n)).toRat →
        (i.gridPoint n (i.gridBelow n + 1)).toRat - i.valueRat
          ≤ i.valueRat - (i.gridPoint n (i.gridBelow n)).toRat) :
      OnGrid i n (some (i.gridPoint n (i.gridBelow n + 1)))
  | neither (below : 0 < i.gridBelow n → ¬i.Has (i.gridPoint n (i.gridBelow n)).toRat)
      (above : ¬i.Has (i.gridPoint n (i.gridBelow n + 1)).toRat) : OnGrid i n none

theorem onGrid_onGrid? (hi : i.Proper) (tie : Tie) (n : Nat) : OnGrid i n (i.onGrid? tie n) := by
  obtain ⟨scale, hscale, hleft, hright⟩ := exists_scale hi n
  have hhigh := contains_gridPoint_iff hi n (i.gridBelow n + 1)
  have hlow : (i.contains (i.gridBelow n * i.gridUp n) (i.gridDown n) && i.gridBelow n != 0) = true
      ↔ 0 < i.gridBelow n ∧ i.Has (i.gridPoint n (i.gridBelow n)).toRat := by
    rw [Bool.and_eq_true, bne_iff_ne, contains_gridPoint_iff hi, and_comm, Nat.pos_iff_ne_zero]
  unfold onGrid?
  dsimp only
  rw [← gridUp, ← gridDown, ← gridBelow]
  generalize i.value * i.gridDown n - i.gridBelow n * (i.den * i.gridUp n) = left at *
  generalize (i.gridBelow n + 1) * (i.den * i.gridUp n) - i.value * i.gridDown n = right at *
  split
  · rename_i hbelow habove
    obtain ⟨hpos, hinside⟩ := hlow.mp hbelow
    split
    · rename_i hchoice
      have hle : left ≤ right := by
        rw [Bool.or_eq_true, Bool.and_eq_true, Bool.and_eq_true, decide_eq_true_eq,
          beq_iff_eq] at hchoice
        omega
      rw [← Nat.cast_le (α := ℚ), hleft, hright, mul_le_mul_iff_left₀ hscale] at hle
      exact .below hpos hinside fun _ => hle
    · rename_i hchoice
      have hle : right ≤ left := by
        rw [Bool.or_eq_true, decide_eq_true_eq, not_or] at hchoice
        omega
      rw [← Nat.cast_le (α := ℚ), hleft, hright, mul_le_mul_iff_left₀ hscale] at hle
      exact .above (hhigh.mp habove) fun _ _ => hle
  · rename_i hbelow habove
    obtain ⟨hpos, hinside⟩ := hlow.mp hbelow
    exact .below hpos hinside fun h => absurd (hhigh.mpr h) (by rw [habove]; decide)
  · rename_i hbelow habove
    exact .above (hhigh.mp habove) fun hpos h =>
      absurd (hlow.mpr ⟨hpos, h⟩) (by rw [hbelow]; decide)
  · rename_i hbelow habove
    exact .neither (fun hpos h => absurd (hlow.mpr ⟨hpos, h⟩) (by rw [hbelow]; decide))
      fun h => absurd (hhigh.mpr h) (by rw [habove]; decide)

/-- No point of a grid in the interval is nearer to the value than one of the two around it that
is in the interval too. -/
theorem neighbour_cases (hi : i.Proper) {n c : Nat} (hc : 0 < c)
    (h : i.Has (i.gridPoint n c).toRat) :
    (0 < i.gridBelow n ∧ i.Has (i.gridPoint n (i.gridBelow n)).toRat
        ∧ i.valueRat - (i.gridPoint n (i.gridBelow n)).toRat
          ≤ |(i.gridPoint n c).toRat - i.valueRat|)
      ∨ (i.Has (i.gridPoint n (i.gridBelow n + 1)).toRat
        ∧ (i.gridPoint n (i.gridBelow n + 1)).toRat - i.valueRat
          ≤ |(i.gridPoint n c).toRat - i.valueRat|) := by
  rcases Nat.lt_or_ge (i.gridBelow n) c with hlt | hge
  · have hle : (i.gridPoint n (i.gridBelow n + 1)).toRat ≤ (i.gridPoint n c).toRat :=
      Decimal.toRat_mono hlt _
    refine .inr ⟨hi.has_value.between h (value_lt_gridAbove hi n).le hle, ?_⟩
    exact (sub_le_sub_right hle _).trans (le_abs_self _)
  · have hle : (i.gridPoint n c).toRat ≤ (i.gridPoint n (i.gridBelow n)).toRat :=
      Decimal.toRat_mono hge _
    refine .inl ⟨hc.trans_le hge, h.between hi.has_value hle (gridBelow_le_value hi n), ?_⟩
    rw [abs_sub_comm]
    exact (sub_le_sub_left hle _).trans (le_abs_self _)

/-- A grid with a point in the interval gives one, and none in there is nearer to the value. -/
theorem exists_onGrid? (hi : i.Proper) (tie : Tie) {n c : Nat} (hc : 0 < c)
    (h : i.Has (i.gridPoint n c).toRat) : ∃ d, i.onGrid? tie n = some d
      ∧ |d.toRat - i.valueRat| ≤ |(i.gridPoint n c).toRat - i.valueRat| := by
  have hneighbour := neighbour_cases hi hc h
  have hgrid := onGrid_onGrid? hi tie n
  generalize i.onGrid? tie n = found at hgrid
  cases hgrid with
  | below hpos hinside hnearer =>
    refine ⟨_, rfl, ?_⟩
    rw [abs_sub_comm, abs_of_nonneg (sub_nonneg.mpr (gridBelow_le_value hi n))]
    rcases hneighbour with ⟨-, -, hle⟩ | ⟨hin, hle⟩
    · exact hle
    · exact (hnearer hin).trans hle
  | above hinside hnearer =>
    refine ⟨_, rfl, ?_⟩
    rw [abs_of_nonneg (sub_nonneg.mpr (value_lt_gridAbove hi n).le)]
    rcases hneighbour with ⟨hpos, hin, hle⟩ | ⟨-, hle⟩
    · exact (hnearer hpos hin).trans hle
    · exact hle
  | neither hlow hhigh =>
    rcases hneighbour with ⟨hpos, hin, -⟩ | ⟨hin, -⟩
    · exact absurd hin (hlow hpos)
    · exact absurd hin hhigh

theorem gridPoint_tenPow (i : RoundingInterval) (n k : Nat) :
    (i.gridPoint n (tenPow k)).toRat = 10 ^ (i.decimalMagnitude - n + k) := by
  have hpoint := Decimal.toRat_mul_tenPow 1 k (i.decimalMagnitude - n)
  rw [Nat.one_mul] at hpoint
  rw [gridPoint, hpoint, Decimal.toRat_one]

/-- The first point of a grid that is not below the power of ten under the value. -/
theorem gridPoint_first {n : Nat} (hn : 0 < n) :
    (i.gridPoint n (tenPow (n - 1))).toRat = 10 ^ (i.decimalMagnitude - 1) := by
  rw [gridPoint_tenPow]
  congr 1
  omega

theorem gridBelow_lt (hi : i.Proper) (n : Nat) : i.gridBelow n < tenPow n := by
  rw [← not_le, ← gridPoint_le_iff hi, gridPoint_tenPow, not_le, Int.sub_add_cancel]
  exact (decimalMagnitude_spec hi).2

/-- The nearer of the two points around the value is at most half a step away. -/
theorem exists_near_gridPoint (hi : i.Proper) (n : Nat) : ∃ c, i.gridBelow n ≤ c
    ∧ i.valueRat - 10 ^ (i.decimalMagnitude - n) / 2 ≤ (i.gridPoint n c).toRat
    ∧ (i.gridPoint n c).toRat ≤ i.valueRat + 10 ^ (i.decimalMagnitude - n) / 2 := by
  have hpower : (0 : ℚ) < 10 ^ (i.decimalMagnitude - n) := zpow_pos (by norm_num) _
  have hbelow := gridBelow_le_value hi n
  have habove := value_lt_gridAbove hi n
  have hsucc : (i.gridPoint n (i.gridBelow n + 1)).toRat
      = (i.gridPoint n (i.gridBelow n)).toRat + 10 ^ (i.decimalMagnitude - n) := by
    rw [gridPoint, Decimal.toRat, Nat.cast_succ, add_one_mul]
    rfl
  rcases le_total i.valueRat
      ((i.gridPoint n (i.gridBelow n)).toRat + 10 ^ (i.decimalMagnitude - n) / 2) with hnear | hnear
  · exact ⟨i.gridBelow n, Nat.le_refl _, by linarith, by linarith⟩
  · exact ⟨i.gridBelow n + 1, Nat.le_succ _, by linarith, by linarith⟩

/-- What a grid gives has at most so many digits, or is the power of ten behind them. -/
theorem digits_of_onGrid? (hi : i.Proper) {tie : Tie} {n : Nat} {d : Decimal}
    (h : i.onGrid? tie n = some d) : 0 < d.digits ∧ d.digits ≤ tenPow n ∧ i.Has d.toRat := by
  have hgrid := onGrid_onGrid? hi tie n
  have hlt := gridBelow_lt hi n
  rw [h] at hgrid
  cases hgrid with
  | below hpos hinside _ => exact ⟨hpos, hlt.le, hinside⟩
  | above hinside _ => exact ⟨Nat.succ_pos _, hlt, hinside⟩

/-- If a decimal with so many digits is in the interval, the grid gives one, and that is no farther
from the value. -/
theorem onGrid?_nearest (hi : i.Proper) (tie : Tie) {n : Nat} (hn : 0 < n) {d : Decimal}
    (hd : 0 < d.digits) (hcount : digitCount d.digits ≤ n) (h : i.Has d.toRat) :
    ∃ d', i.onGrid? tie n = some d' ∧ |d'.toRat - i.valueRat| ≤ |d.toRat - i.valueRat| := by
  rcases le_or_gt (i.decimalMagnitude - n) d.exponent with hle | hlt
  · have hpoint : (i.gridPoint n
        (d.digits * tenPow (d.exponent - (i.decimalMagnitude - n)).toNat)).toRat = d.toRat := by
      rw [gridPoint, Decimal.toRat_mul_tenPow]
      congr 2
      omega
    rw [← hpoint] at h ⊢
    exact exists_onGrid? hi tie (Nat.mul_pos hd (tenPow_pos _)) h
  · -- A decimal of a finer grid is below the power of ten, which is not above the value.
    have hbelow : d.toRat < (i.gridPoint n (tenPow (n - 1))).toRat := by
      rw [gridPoint_first hn, Decimal.toRat_lt_iff hd, Decimal.pointPosition]
      omega
    have hvalue : (i.gridPoint n (tenPow (n - 1))).toRat ≤ i.valueRat := by
      rw [gridPoint_first hn]
      exact (decimalMagnitude_spec hi).1
    obtain ⟨d', hfound, hnear⟩ := exists_onGrid? hi tie (tenPow_pos (n - 1))
      (h.between hi.has_value hbelow.le hvalue)
    refine ⟨d', hfound, hnear.trans ?_⟩
    rw [abs_sub_comm, abs_of_nonneg (sub_nonneg.mpr hvalue), abs_sub_comm]
    exact (sub_le_sub_left hbelow.le _).trans (le_abs_self _)

/-! ## The interval of a magnitude -/

theorem valueRat_ofMagnitude (m : Nat) : (ofMagnitude m).valueRat = magnitudeRat m := by
  have hscaled := cast_scaled (4 * significand m) (exponent m)
  rw [magnitudeRat_eq, valueRat]
  refine hscaled.trans ?_
  push_cast
  ring

theorem proper_ofMagnitude {m : Nat} (hm : 0 < m) : (ofMagnitude m).Proper where
  den_pos := Nat.mul_pos (by decide) (Nat.two_pow_pos _)
  value_pos := Nat.mul_pos (Nat.mul_pos (by decide) (significand_pos hm)) (Nat.two_pow_pos _)
  has_value := by
    rw [valueRat_ofMagnitude]
    exact has_magnitudeRat hm

/-- An interval reaches farther than a 54-bit fraction of its value. -/
theorem has_of_near {m : Nat} (hm : 0 < m) {x : ℚ}
    (hlow : magnitudeRat m - magnitudeRat m / 2 ^ 54 < x)
    (hhigh : x < magnitudeRat m + magnitudeRat m / 2 ^ 54) : (ofMagnitude m).Has x := by
  have hpower : (0 : ℚ) < 2 ^ exponent m := zpow_pos two_pos _
  have hsignificand : (significand m : ℚ) < 2 ^ 53 := by exact_mod_cast significand_lt m
  have hunits : magnitudeRat m / 2 ^ exponent m = significand m := by
    rw [magnitudeRat_eq, mul_div_cancel_right₀ _ hpower.ne']
  have hlow' := div_lt_div_of_pos_right hlow hpower
  have hhigh' := div_lt_div_of_pos_right hhigh hpower
  rw [sub_div, div_right_comm, hunits] at hlow'
  rw [add_div, div_right_comm, hunits] at hhigh'
  rw [has_ofMagnitude_iff hm]
  split
  · rename_i hfirst
    have hs : (significand m : ℚ) = 2 ^ 52 := by
      rw [hfirst.1]
      exact cast_twoPow 52
    rw [hs] at hlow' hhigh' ⊢
    constructor <;> linarith
  · refine ⟨by linarith, by linarith, ?_⟩
    rintro (h | h) <;> linarith

theorem exists_onGrid?_seventeen {m : Nat} (hm : 0 < m) (tie : Tie) :
    ∃ d, (ofMagnitude m).onGrid? tie 17 = some d := by
  have hi := proper_ofMagnitude hm
  obtain ⟨c, hc, hlow, hhigh⟩ := exists_near_gridPoint hi 17
  have hpos : 0 < c := by
    have hfirst := (decimalMagnitude_spec hi).1
    rw [← gridPoint_first (by decide : 0 < 17), gridPoint_le_iff hi] at hfirst
    exact (tenPow_pos 16).trans_le (hfirst.trans hc)
  have hstep : (10 : ℚ) ^ ((ofMagnitude m).decimalMagnitude - 1)
      = 10 ^ 16 * 10 ^ ((ofMagnitude m).decimalMagnitude - 17) := by
    rw [← zpow_natCast, ← zpow_add₀ (by norm_num)]
    congr 1
    omega
  -- A step is at most a fraction 10 ^ -16 of the value, and half of that less than 2 ^ -54.
  have hleast := (decimalMagnitude_spec hi).1
  have hpower : (0 : ℚ) < 10 ^ ((ofMagnitude m).decimalMagnitude - 17) := zpow_pos (by norm_num) _
  rw [hstep] at hleast
  rw [valueRat_ofMagnitude] at hleast hlow hhigh
  rw [Nat.cast_ofNat] at hlow hhigh
  have hhas : (ofMagnitude m).Has ((ofMagnitude m).gridPoint 17 c).toRat :=
    has_of_near hm (by linarith) (by linarith)
  obtain ⟨d, hd, -⟩ := exists_onGrid? hi tie hpos hhas
  exact ⟨d, hd⟩

/-! ## The search -/

/-- The search ends with what the first grid gives that gives anything. -/
theorem search_spec (tie : Tie) (i : RoundingInterval) : ∀ fuel n : Nat,
    (∃ k d, n ≤ k ∧ k < n + fuel ∧ i.onGrid? tie k = some d) →
    ∃ k, n ≤ k ∧ i.onGrid? tie k = some (i.search tie fuel n)
      ∧ ∀ j, n ≤ j → j < k → i.onGrid? tie j = none
  | 0, n, ⟨k, d, hk, hlt, _⟩ => by omega
  | fuel + 1, n, ⟨k, d, hk, hlt, hsome⟩ => by
    unfold search
    cases hgrid : i.onGrid? tie n with
    | some d => exact ⟨n, Nat.le_refl n, hgrid, fun j hj hlt => by omega⟩
    | none =>
      have hne : n ≠ k := by
        rintro rfl
        rw [hgrid] at hsome
        cases hsome
      obtain ⟨k', hk', hfound, hbefore⟩ :=
        search_spec tie i fuel (n + 1) ⟨k, d, by omega, by omega, hsome⟩
      refine ⟨k', by omega, hfound, fun j hj hlt => ?_⟩
      rcases Nat.eq_or_lt_of_le hj with rfl | hmore
      · exact hgrid
      · exact hbefore j hmore hlt

end RoundingInterval

/-! ## Zeros at the end -/

namespace Decimal

theorem toRat_stripZeros : ∀ (fuel : Nat) (d : Decimal), (d.stripZeros fuel).toRat = d.toRat
  | 0, _ => rfl
  | fuel + 1, d => by
    unfold stripZeros
    split
    · rename_i hzero
      have hdigits : d.digits / 10 * tenPow 1 = d.digits :=
        Nat.div_mul_cancel (Nat.dvd_of_mod_eq_zero hzero.1)
      have hsame := toRat_mul_tenPow (d.digits / 10) 1 d.exponent
      rw [hdigits] at hsame
      rw [toRat_stripZeros fuel]
      exact hsame.symm
    · rfl

theorem digits_stripZeros_le : ∀ (fuel : Nat) (d : Decimal), (d.stripZeros fuel).digits ≤ d.digits
  | 0, _ => Nat.le_refl _
  | fuel + 1, d => by
    unfold stripZeros
    split
    · exact (digits_stripZeros_le fuel _).trans (Nat.div_le_self _ _)
    · exact Nat.le_refl _

/-- A power of ten has one digit more than the numbers before it, but not without its zeros. -/
theorem digitCount_stripZeros_le {n : Nat} (hn : 0 < n) {d : Decimal} (h : d.digits ≤ tenPow n)
    (fuel : Nat) : digitCount (d.stripZeros (fuel + 1)).digits ≤ n := by
  rcases Nat.lt_or_eq_of_le h with hlt | heq
  · exact (digitCount_mono (digits_stripZeros_le _ d)).trans ((digitCount_le_iff hn).mpr hlt)
  · obtain ⟨k, rfl⟩ := Nat.exists_eq_add_one.mpr hn
    rw [tenPow_succ] at heq
    have hzero : d.digits % 10 = 0 ∧ d.digits ≠ 0 := by
      have hpos := tenPow_pos k
      omega
    unfold stripZeros
    rw [if_pos hzero]
    refine (digitCount_mono (digits_stripZeros_le fuel _)).trans ((digitCount_le_iff hn).mpr ?_)
    dsimp only
    rw [heq, Nat.mul_div_cancel_left _ (by decide), tenPow_succ]
    have hpos := tenPow_pos k
    omega

end Decimal

/-! ## The shortest decimal -/

open RoundingInterval

theorem has_of_magnitude {m : Nat} {d : Decimal} (hm : 0 < m) (hfinite : m < infinity)
    (h : d.magnitude = m) : (ofMagnitude m).Has d.toRat := by
  have hdigits := Decimal.digits_pos_of_magnitude (h ▸ hm)
  rw [Decimal.toRat_eq_div]
  exact has_of_roundMagnitude (Nat.mul_pos hdigits (tenPow_pos _)) (tenPow_pos _) hm hfinite h

theorem magnitude_of_has {m : Nat} {d : Decimal} (hm : 0 < m) (hfinite : m < infinity)
    (hdigits : 0 < d.digits) (h : (ofMagnitude m).Has d.toRat) :
    d.magnitude = m := by
  rw [Decimal.toRat_eq_div] at h
  exact roundMagnitude_of_has (Nat.mul_pos hdigits (tenPow_pos _)) (tenPow_pos _) hfinite hm h

section

variable (tie : Tie) {m : Nat} (hm : 0 < m) (hfinite : m < infinity)

include hm hfinite

/-- The search ends with the least number of digits that any decimal of the magnitude has, and no
decimal with so many digits is nearer. -/
theorem search_ofMagnitude : ∃ n, 0 < n
    ∧ 0 < ((ofMagnitude m).search tie 17 1).digits
    ∧ ((ofMagnitude m).search tie 17 1).digits ≤ tenPow n
    ∧ ((ofMagnitude m).search tie 17 1).magnitude = m
    ∧ ∀ d : Decimal, d.magnitude = m → n ≤ digitCount d.digits
      ∧ (digitCount d.digits = n → |((ofMagnitude m).search tie 17 1).toRat - magnitudeRat m|
        ≤ |d.toRat - magnitudeRat m|) := by
  have hi := proper_ofMagnitude hm
  obtain ⟨d, hd⟩ := exists_onGrid?_seventeen hm tie
  obtain ⟨n, hn, hfound, hbefore⟩ := search_spec tie _ 17 1 ⟨17, d, by decide, by decide, hd⟩
  obtain ⟨hpos, hmost, hhas⟩ := digits_of_onGrid? hi hfound
  refine ⟨n, hn, hpos, hmost, magnitude_of_has hm hfinite hpos hhas, fun d hd => ?_⟩
  have hdigits := Decimal.digits_pos_of_magnitude (hd ▸ hm)
  have hcount := digitCount_pos d.digits
  have hd' := has_of_magnitude hm hfinite hd
  constructor
  · -- A decimal with fewer digits would have ended the search before.
    by_contra hfewer
    obtain ⟨d', hd', -⟩ := onGrid?_nearest hi tie hcount hdigits (Nat.le_refl _) hd'
    rw [hbefore _ hcount (Nat.lt_of_not_le hfewer)] at hd'
    cases hd'
  · intro hsame
    obtain ⟨d', hd', hnear⟩ := onGrid?_nearest hi tie hn hdigits hsame.le hd'
    rw [hfound] at hd'
    rw [Option.some.inj hd', ← valueRat_ofMagnitude]
    exact hnear

/-- The decimal that is found for a finite magnitude other than zero is a shortest one. -/
theorem shortest_isShortest : IsShortest m (shortest tie m) := by
  obtain ⟨n, hn, -, hmost, hrounds, hall⟩ := search_ofMagnitude tie hm hfinite
  refine ⟨(Decimal.magnitude_congr (Decimal.toRat_stripZeros 20 _)).trans hrounds, fun d hd => ?_⟩
  exact (Decimal.digitCount_stripZeros_le hn hmost 19).trans (hall d hd).1

/-- Of the shortest decimals, no other one is nearer. -/
theorem shortest_nearest {d : Decimal} (hd : IsShortest m d) :
    |(shortest tie m).toRat - magnitudeRat m| ≤ |d.toRat - magnitudeRat m| := by
  obtain ⟨n, hn, -, hmost, hrounds, hall⟩ := search_ofMagnitude tie hm hfinite
  have hcount := hd.fewest _ (shortest_isShortest tie hm hfinite).rounds
  have hle := hcount.trans (Decimal.digitCount_stripZeros_le hn hmost 19)
  rw [shortest, Decimal.toRat_stripZeros]
  exact (hall d hd.rounds).2 (Nat.le_antisymm hle (hall d hd.rounds).1)

end

namespace IsShortest

variable {m : Nat} {d : Decimal} (h : IsShortest m d) (hm : 0 < m)

include h hm

theorem digits_pos : 0 < d.digits :=
  Decimal.digits_pos_of_magnitude (h.rounds ▸ hm)

/-- A shortest decimal is below a power of ten exactly if the magnitude is below what that is rounded
to, unless the number with one digit before the power of ten is rounded to the same. -/
theorem pointPosition_le_iff {k : Int}
    (hgap : (Decimal.mk 9 (k - 1)).magnitude < (Decimal.mk 1 k).magnitude) :
    d.pointPosition ≤ k ↔ m < (Decimal.mk 1 k).magnitude := by
  have hpower := Decimal.toRat_one k
  rw [← Decimal.toRat_lt_iff (h.digits_pos hm), ← hpower]
  refine ⟨fun hlt => ?_, fun hlt => Decimal.toRat_lt_of_magnitude_lt (h.rounds ▸ hlt)⟩
  -- If the two were rounded to one magnitude, the decimal had one digit, as the power of ten has.
  refine Nat.lt_of_le_of_ne (h.rounds ▸ Decimal.magnitude_mono hlt.le) fun heq => ?_
  have hone : digitCount d.digits ≤ digitCount 1 := h.fewest ⟨1, k⟩ heq.symm
  have hnine : d.digits ≤ 9 := Nat.le_of_lt_succ ((digitCount_le_iff Nat.one_pos).mp hone)
  have hexponent : d.exponent ≤ k - 1 := by
    rw [hpower, Decimal.toRat_lt_iff (h.digits_pos hm), Decimal.pointPosition] at hlt
    have hcount := digitCount_pos d.digits
    omega
  have hle : d.toRat ≤ (Decimal.mk 9 (k - 1)).toRat :=
    mul_le_mul (by exact_mod_cast hnine) (zpow_le_zpow_right₀ one_lt_ten.le hexponent)
      (zpow_pos (by norm_num) _).le (Nat.cast_nonneg _)
  have hmagnitude := Decimal.magnitude_mono hle
  rw [h.rounds] at hmagnitude
  omega

/-- A shortest decimal of a whole number shows no fraction, not even of zeros. -/
theorem exponent_nonneg {n : Nat} (hn : d.toRat = n) : 0 ≤ d.exponent := by
  by_contra hneg
  obtain ⟨k, hk⟩ : ∃ k : Nat, d.exponent = -(k + 1 : Nat) := ⟨(-d.exponent - 1).toNat, by omega⟩
  have hdigits : d.digits = n * tenPow (k + 1) := by
    rw [Decimal.toRat, hk, zpow_neg, ← cast_tenPow, ← div_eq_mul_inv, div_eq_iff] at hn
    · exact_mod_cast hn
    · exact (Nat.cast_pos.mpr (tenPow_pos _)).ne'
  have hsame : (Decimal.mk n 0).toRat = d.toRat := (Decimal.toRat_whole n).trans hn.symm
  have hpos : 0 < n := Nat.pos_of_mul_pos_right (hdigits ▸ h.digits_pos hm)
  have hlt : n * tenPow (k + 1) < tenPow (digitCount n) := by
    rw [← hdigits, ← digitCount_le_iff (digitCount_pos n)]
    exact h.fewest ⟨n, 0⟩ ((Decimal.magnitude_congr hsame).trans h.rounds)
  obtain ⟨c, hc⟩ := Nat.exists_eq_add_one.mpr (digitCount_pos n)
  have hfirst := tenPow_le_of_pos hpos
  rw [hc, Nat.add_sub_cancel] at hfirst
  have hge : tenPow (digitCount n) ≤ n * tenPow (k + 1) :=
    calc tenPow (digitCount n) = 10 * tenPow c := by rw [hc, tenPow_succ]
      _ ≤ 10 * n := Nat.mul_le_mul_left 10 hfirst
      _ ≤ 10 * (n * tenPow k) := Nat.mul_le_mul_left 10 (Nat.le_mul_of_pos_right n (tenPow_pos k))
      _ = n * tenPow (k + 1) := by rw [tenPow_succ, Nat.mul_left_comm]
  omega

end IsShortest

end Daybook.Number
