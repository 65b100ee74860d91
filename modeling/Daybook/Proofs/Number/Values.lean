import Daybook.Proofs.Number.Rounding

/-!
# Values as rational numbers

What a value of the binary format stands for (`toRat`), and what of its arithmetic depends on nothing
but that. Magnitudes are ordered as the rational numbers they stand for (`magnitudeRat_strictMono`),
so values are ordered as their magnitudes with signs are (`toRat_le_iff`). Turning integers into
values and dividing by a positive value keep the order (`toRat_ofInt_mono`, `toRat_div_mono`), a
value divided by itself is one (`div_self`), and zero divided by a value is zero (`zero_div`). No
quotient of 64-bit integers vanishes but that of zero (`ofInt_div_pos`).
-/

namespace Daybook.Number.Binary64

/-! ## What a magnitude stands for -/

/-- The rational number that a magnitude stands for. -/
def magnitudeRat (magnitude : Nat) : ℚ :=
  (ratio magnitude).1 / (ratio magnitude).2

theorem magnitudeRat_eq (m : Nat) : magnitudeRat m = significand m * 2 ^ exponent m := by
  rw [magnitudeRat, ratio, two_zpow_eq, Nat.cast_mul, mul_div_assoc]

/-- The next magnitude has a significand greater by one, or the least one at the next exponent. -/
theorem succ_cases (m : Nat) :
    exponent (m + 1) = exponent m ∧ significand (m + 1) = significand m + 1
      ∨ exponent (m + 1) = exponent m + 1
        ∧ significand m + 1 = 2 * twoPow 52 ∧ significand (m + 1) = twoPow 52 := by
  have h52 : twoPow 52 = 4503599627370496 := rfl
  unfold exponent significand
  rw [h52]
  split <;> split <;> omega

theorem magnitudeRat_strictMono : StrictMono magnitudeRat := by
  refine strictMono_nat_of_lt_succ fun m => ?_
  have hpower : (0 : ℚ) < 2 ^ exponent m := zpow_pos two_pos _
  rw [magnitudeRat_eq, magnitudeRat_eq]
  rcases succ_cases m with ⟨hexponent, hsignificand⟩ | ⟨hexponent, hlast, hfirst⟩
  · rw [hexponent, hsignificand]
    exact mul_lt_mul_of_pos_right (Nat.cast_lt.mpr (Nat.lt_succ_self _)) hpower
  · rw [hexponent, hfirst, zpow_add_one₀ two_ne_zero, mul_comm _ (2 : ℚ), ← mul_assoc]
    refine mul_lt_mul_of_pos_right ?_ hpower
    have hlt : significand m < twoPow 52 * 2 := by omega
    exact_mod_cast hlt

theorem ratio_zero : ratio 0 = (0, twoPow 1074) := by
  decide +kernel

theorem ratio_one : ratio one.magnitude = (twoPow 52, twoPow 52) := by
  decide +kernel

theorem magnitudeRat_zero : magnitudeRat 0 = 0 := by
  rw [magnitudeRat, ratio_zero, Nat.cast_zero, zero_div]

theorem magnitudeRat_one : magnitudeRat one.magnitude = 1 := by
  rw [magnitudeRat, ratio_one]
  exact div_self (Nat.cast_ne_zero.mpr (Nat.two_pow_pos 52).ne')

theorem magnitudeRat_nonneg (m : Nat) : 0 ≤ magnitudeRat m :=
  magnitudeRat_zero ▸ magnitudeRat_strictMono.monotone (Nat.zero_le m)

theorem magnitudeRat_le_zero_iff {m : Nat} : magnitudeRat m ≤ 0 ↔ m = 0 := by
  rw [← magnitudeRat_zero, magnitudeRat_strictMono.le_iff_le, Nat.le_zero]

theorem ratio_den_pos (m : Nat) : 0 < (ratio m).2 :=
  Nat.two_pow_pos _

theorem ratio_num_pos {m : Nat} (h : 0 < m) : 0 < (ratio m).1 := by
  have hpos := magnitudeRat_strictMono h
  rw [magnitudeRat_zero, magnitudeRat] at hpos
  by_contra hzero
  rw [Nat.eq_zero_of_not_pos hzero, Nat.cast_zero, zero_div] at hpos
  exact lt_irrefl _ hpos

/-- Fractions of magnitudes are ordered as these are. -/
theorem ratio_mono {m m' : Nat} (h : m ≤ m') : (ratio m).1 * (ratio m').2
    ≤ (ratio m').1 * (ratio m).2 := by
  have hle := magnitudeRat_strictMono.monotone h
  rw [magnitudeRat, magnitudeRat, div_le_div_iff₀ (Nat.cast_pos.mpr (ratio_den_pos m))
    (Nat.cast_pos.mpr (ratio_den_pos m'))] at hle
  exact_mod_cast hle

/-! ## What a value stands for -/

/-- The rational number that a finite value stands for. -/
def toRat (x : Binary64) : ℚ :=
  if x.negative then -magnitudeRat x.magnitude else magnitudeRat x.magnitude

/-- The magnitude of a value with its sign. -/
def signed (x : Binary64) : Int :=
  if x.negative then -x.magnitude else x.magnitude

/-- Values are ordered as their magnitudes with signs are. -/
theorem toRat_le_iff {x y : Binary64} : x.toRat ≤ y.toRat ↔ x.signed ≤ y.signed := by
  obtain ⟨negative, m⟩ := x
  obtain ⟨negative', m'⟩ := y
  have hpos := magnitudeRat_nonneg m
  have hpos' := magnitudeRat_nonneg m'
  cases negative with
  | false =>
      cases negative' with
      | false =>
          show magnitudeRat m ≤ magnitudeRat m' ↔ (m : Int) ≤ m'
          rw [magnitudeRat_strictMono.le_iff_le, Int.ofNat_le]
      | true =>
          show magnitudeRat m ≤ -magnitudeRat m' ↔ (m : Int) ≤ -m'
          constructor
          · intro h
            have hm := magnitudeRat_le_zero_iff.mp (show magnitudeRat m ≤ 0 by linarith)
            have hm' := magnitudeRat_le_zero_iff.mp (show magnitudeRat m' ≤ 0 by linarith)
            omega
          · intro h
            obtain rfl : m = 0 := by omega
            obtain rfl : m' = 0 := by omega
            rw [magnitudeRat_zero, neg_zero]
  | true =>
      cases negative' with
      | false =>
          show -magnitudeRat m ≤ magnitudeRat m' ↔ -(m : Int) ≤ m'
          exact iff_of_true (by linarith) (by omega)
      | true =>
          show -magnitudeRat m ≤ -magnitudeRat m' ↔ -(m : Int) ≤ -m'
          rw [neg_le_neg_iff, magnitudeRat_strictMono.le_iff_le]
          omega

theorem toRat_zero : zero.toRat = 0 :=
  magnitudeRat_zero

theorem toRat_one : one.toRat = 1 :=
  magnitudeRat_one

/-- A value greater than zero has no sign, and another magnitude than zero. -/
theorem of_toRat_pos {x : Binary64} (h : 0 < x.toRat) : x.negative = false ∧ 0 < x.magnitude := by
  rw [← toRat_zero, ← not_le, toRat_le_iff, not_le] at h
  obtain ⟨negative, m⟩ := x
  cases negative with
  | false => exact ⟨rfl, by simpa [signed, zero] using h⟩
  | true =>
      have hneg : (0 : Int) < -m := h
      omega

/-- What keeps the order of magnitudes, and zero, keeps the order of values if it leaves their
signs alone. -/
theorem signed_le_map {f : Nat → Nat} (hf : Monotone f) (hzero : f 0 = 0) {x y : Binary64}
    (h : x.signed ≤ y.signed) :
    (mk x.negative (f x.magnitude)).signed ≤ (mk y.negative (f y.magnitude)).signed := by
  obtain ⟨negative, m⟩ := x
  obtain ⟨negative', m'⟩ := y
  cases negative with
  | false =>
      cases negative' with
      | false =>
          have hle : (m : Int) ≤ m' := h
          exact Int.ofNat_le.mpr (hf (Int.ofNat_le.mp hle))
      | true =>
          have hle : (m : Int) ≤ -m' := h
          obtain rfl : m = 0 := by omega
          obtain rfl : m' = 0 := by omega
          show (f 0 : Int) ≤ -f 0
          rw [hzero]
          exact Int.le_refl 0
  | true =>
      cases negative' with
      | false =>
          show -(f m : Int) ≤ f m'
          omega
      | true =>
          have hle : -(m : Int) ≤ -m' := h
          have hmap : f m' ≤ f m := hf (by omega)
          show -(f m : Int) ≤ -f m'
          omega

/-! ## Arithmetic -/

theorem roundMagnitude_whole_mono : Monotone (roundMagnitude · 1) := fun m n h =>
  roundMagnitude_mono Nat.one_pos Nat.one_pos (by rwa [Nat.mul_one, Nat.mul_one])

theorem roundMagnitude_one : roundMagnitude 1 1 = one.magnitude := by
  decide +kernel

/-- Integers become values in the same order. -/
theorem toRat_ofInt_mono {a b : Int} (h : a ≤ b) : (ofInt a).toRat ≤ (ofInt b).toRat := by
  have hsigned : ∀ n : Int, (mk (n < 0) n.natAbs).signed = n := by
    intro n
    show (if decide (n < 0) then -(n.natAbs : Int) else n.natAbs) = n
    split
    · rename_i hn
      have hneg : n < 0 := of_decide_eq_true hn
      omega
    · rename_i hn
      rw [decide_eq_true_eq] at hn
      omega
  rw [toRat_le_iff]
  refine signed_le_map (x := ⟨a < 0, a.natAbs⟩) (y := ⟨b < 0, b.natAbs⟩)
    roundMagnitude_whole_mono rfl ?_
  rw [hsigned, hsigned]
  exact h

/-- The magnitude of a quotient. -/
def divMagnitude (m k : Nat) : Nat :=
  roundMagnitude ((ratio m).1 * (ratio k).2) ((ratio m).2 * (ratio k).1)

theorem div_eq (x y : Binary64) :
    x.div y = ⟨x.negative != y.negative, divMagnitude x.magnitude y.magnitude⟩ :=
  rfl

theorem divMagnitude_mono {k m m' : Nat} (hk : 0 < k) (h : m ≤ m') :
    divMagnitude m k ≤ divMagnitude m' k := by
  have hratio := Nat.mul_le_mul_right ((ratio k).2 * (ratio k).1) (ratio_mono h)
  refine roundMagnitude_mono (Nat.mul_pos (ratio_den_pos m) (ratio_num_pos hk))
    (Nat.mul_pos (ratio_den_pos m') (ratio_num_pos hk)) ?_
  calc (ratio m).1 * (ratio k).2 * ((ratio m').2 * (ratio k).1)
      = (ratio m).1 * (ratio m').2 * ((ratio k).2 * (ratio k).1) := by ring
    _ ≤ (ratio m').1 * (ratio m).2 * ((ratio k).2 * (ratio k).1) := hratio
    _ = (ratio m').1 * (ratio k).2 * ((ratio m).2 * (ratio k).1) := by ring

theorem divMagnitude_zero (k : Nat) : divMagnitude 0 k = 0 := by
  rw [divMagnitude, ratio_zero, Nat.zero_mul]
  rfl

theorem divMagnitude_self {k : Nat} (hk : 0 < k) : divMagnitude k k = one.magnitude := by
  rw [← roundMagnitude_one]
  exact roundMagnitude_congr (Nat.mul_pos (ratio_den_pos k) (ratio_num_pos hk)) Nat.one_pos
    (by rw [Nat.mul_one, Nat.one_mul, Nat.mul_comm])

/-- A value divided by itself is one. -/
theorem div_self {x : Binary64} (h : 0 < x.magnitude) : x.div x = one := by
  rw [div_eq, divMagnitude_self h, bne_self_eq_false]
  rfl

/-- Zero divided by a positive value is zero. -/
theorem zero_div {x : Binary64} (h : x.negative = false) : zero.div x = zero := by
  rw [div_eq, h]
  show Binary64.mk false (divMagnitude 0 x.magnitude) = zero
  rw [divMagnitude_zero]
  rfl

/-- Division by a positive value keeps the order. -/
theorem toRat_div_mono {x y z : Binary64} (hz : 0 < z.toRat) (h : x.toRat ≤ y.toRat) :
    (x.div z).toRat ≤ (y.div z).toRat := by
  obtain ⟨hsign, hmagnitude⟩ := of_toRat_pos hz
  rw [toRat_le_iff] at h ⊢
  rw [div_eq, div_eq, hsign, Bool.bne_false, Bool.bne_false]
  exact signed_le_map (fun m m' => divMagnitude_mono hmagnitude)
    (divMagnitude_zero z.magnitude) h

/-- Cutting a value to the interval from 0 to 1 is cutting what it stands for. -/
theorem toRat_clampUnit (x : Binary64) : x.clampUnit.toRat = max 0 (min x.toRat 1) := by
  obtain ⟨negative, m⟩ := x
  cases negative with
  | true =>
      have hle : (mk true m).toRat ≤ 0 := neg_nonpos.mpr (magnitudeRat_nonneg m)
      rw [max_eq_left ((min_le_left _ _).trans hle), clampUnit, if_pos rfl]
      split
      · rename_i hm
        obtain rfl : m = 0 := hm
        show -magnitudeRat 0 = 0
        rw [magnitudeRat_zero, neg_zero]
      · exact toRat_zero
  | false =>
      have hge : 0 ≤ (mk false m).toRat := magnitudeRat_nonneg m
      rw [clampUnit, if_neg Bool.false_ne_true]
      split
      · rename_i hm
        have hlt : 1 < (mk false m).toRat := magnitudeRat_one ▸ magnitudeRat_strictMono hm
        rw [min_eq_right hlt.le, max_eq_right zero_le_one, toRat_one]
      · rename_i hm
        have hle : (mk false m).toRat ≤ 1 :=
          magnitudeRat_one ▸ magnitudeRat_strictMono.monotone (Nat.le_of_not_lt hm)
        rw [min_eq_left hle, max_eq_right hge]

/-- A value of one or more is cut to one. -/
theorem clampUnit_of_one_le {x : Binary64} (h : 1 ≤ x.toRat) : x.clampUnit = one := by
  have hsign := (of_toRat_pos (zero_lt_one.trans_le h)).1
  rw [← toRat_one, toRat_le_iff] at h
  obtain ⟨negative, m⟩ := x
  obtain rfl : negative = false := hsign
  have hle : one.magnitude ≤ m := Int.ofNat_le.mp h
  rw [clampUnit, if_neg Bool.false_ne_true]
  split
  · rfl
  · rename_i hm
    obtain rfl : m = one.magnitude := Nat.le_antisymm (Nat.le_of_not_lt hm) hle
    rfl

/-- A value below zero is cut to zero, without a sign. -/
theorem clampUnit_of_negative {x : Binary64} (hsign : x.negative = true) (h : 0 < x.magnitude) :
    x.clampUnit = zero := by
  rw [clampUnit, if_pos hsign, if_neg h.ne']

/-! ## Values of integers -/

theorem ofInt_zero : ofInt 0 = zero :=
  rfl

theorem ofInt_one : ofInt 1 = one := by
  decide +kernel

theorem toRat_ofInt_pos {n : Int} (h : 0 < n) : 0 < (ofInt n).toRat := by
  have hone := toRat_ofInt_mono (show 1 ≤ n from h)
  rw [ofInt_one, toRat_one] at hone
  exact zero_lt_one.trans_le hone

/-- An integer of at most 64 bits is rounded to a finite value. -/
theorem isFinite_ofInt {n : Int} (h : n.natAbs ≤ twoPow 63) : (ofInt n).isFinite = true := by
  have hmost : (ofInt n).magnitude ≤ roundMagnitude (twoPow 63) 1 := roundMagnitude_whole_mono h
  have hfinite : roundMagnitude (twoPow 63) 1 < infinity := by decide +kernel
  exact decide_eq_true (hmost.trans_lt hfinite)

/-- An integer other than zero does not vanish. -/
theorem one_le_ofInt {n : Int} (h : n ≠ 0) : one.magnitude ≤ (ofInt n).magnitude := by
  rw [← roundMagnitude_one]
  exact roundMagnitude_whole_mono (Int.natAbs_pos.mpr h)

/-- Nor does its quotient by an integer of at most 64 bits. -/
theorem ofInt_div_pos {n k : Int} (hn : n ≠ 0) (hk : k ≠ 0) (h : k.natAbs ≤ twoPow 63) :
    0 < ((ofInt n).div (ofInt k)).magnitude := by
  have hdividend := ratio_mono (one_le_ofInt hn)
  have hdivisor := ratio_mono (roundMagnitude_whole_mono h : (ofInt k).magnitude ≤ _)
  have hlast : ratio (roundMagnitude (twoPow 63) 1) = (twoPow 63, 1) := by decide +kernel
  rw [ratio_one, Nat.mul_comm] at hdividend
  rw [hlast] at hdivisor
  have hpos : 0 < (ratio (ofInt k).magnitude).1 :=
    ratio_num_pos (Nat.lt_of_lt_of_le (by decide +kernel) (one_le_ofInt hk))
  have hleast : roundMagnitude 1 (twoPow 63) ≤ ((ofInt n).div (ofInt k)).magnitude := by
    refine roundMagnitude_mono (Nat.two_pow_pos 63) (Nat.mul_pos (ratio_den_pos _) hpos) ?_
    have hnum : (ratio (ofInt n).magnitude).2 ≤ (ratio (ofInt n).magnitude).1 :=
      Nat.le_of_mul_le_mul_right hdividend (Nat.two_pow_pos 52)
    calc 1 * ((ratio (ofInt n).magnitude).2 * (ratio (ofInt k).magnitude).1)
        = (ratio (ofInt n).magnitude).2 * ((ratio (ofInt k).magnitude).1 * 1) := by ring
      _ ≤ (ratio (ofInt n).magnitude).1 * (twoPow 63 * (ratio (ofInt k).magnitude).2) :=
        Nat.mul_le_mul hnum hdivisor
      _ = (ratio (ofInt n).magnitude).1 * (ratio (ofInt k).magnitude).2 * twoPow 63 := by ring
  exact Nat.lt_of_lt_of_le (by decide +kernel) hleast

/-! ## Quotients of all values -/

/-- The quotient of any two values, if there is one: zero by zero and infinity by infinity have
none. -/
def quotient? (x y : Binary64) : Option Binary64 :=
  if x.isZero && y.isZero || !x.isFinite && !y.isFinite then none
  else if !x.isFinite || y.isZero then some ⟨x.negative != y.negative, infinity⟩
  else if !y.isFinite then some ⟨x.negative != y.negative, 0⟩
  else some (x.div y)

theorem quotient?_of_finite {x y : Binary64} (hx : x.isFinite = true) (hy : y.isFinite = true)
    (hzero : y.isZero = false) : x.quotient? y = some (x.div y) := by
  simp [quotient?, hx, hy, hzero]

end Daybook.Number.Binary64
