import Daybook.Number.Text

/-!
# Decimal digits

A natural number can be read off its digits (`digitChars_injective`), which are no other characters
(`not_mem_digitChars`). How many there are tells the powers of ten around it (`digitCount_le_iff`),
and multiplying by one adds zeros (`digitChars_mul_tenPow`).
-/

namespace Daybook.Number

theorem tenPow_pos (n : Nat) : 0 < tenPow n :=
  Nat.pow_pos (by decide)

/-! ## Counts -/

theorem digitCount_pos (n : Nat) : 0 < digitCount n :=
  Nat.length_toDigits_pos

theorem digitCount_le_iff {n k : Nat} (hk : 0 < k) : digitCount n ≤ k ↔ n < tenPow k :=
  Nat.length_toDigits_le_iff (by decide) hk

theorem lt_tenPow_digitCount (n : Nat) : n < tenPow (digitCount n) :=
  (digitCount_le_iff (digitCount_pos n)).mp (Nat.le_refl _)

theorem tenPow_le_of_pos {n : Nat} (hn : 0 < n) : tenPow (digitCount n - 1) ≤ n := by
  rcases Nat.eq_or_lt_of_le (digitCount_pos n) with hone | hmore
  · rw [← hone]
    exact hn
  · refine Nat.le_of_not_lt fun hlt => ?_
    have hle := (digitCount_le_iff (Nat.sub_pos_of_lt hmore)).mpr hlt
    omega

theorem digitCount_mono {n n' : Nat} (h : n ≤ n') : digitCount n ≤ digitCount n' :=
  (digitCount_le_iff (digitCount_pos n')).mpr (Nat.lt_of_le_of_lt h (lt_tenPow_digitCount n'))

/-! ## Characters -/

theorem not_mem_digitChars {c : Char} (hc : c.isDigit = false) (n : Nat) : c ∉ digitChars n := by
  intro hmem
  rw [Nat.isDigit_of_mem_toDigits (by decide) (by decide) hmem] at hc
  cases hc

theorem not_mem_zeros {c : Char} (hc : c.isDigit = false) (n : Nat) : c ∉ List.replicate n '0' := by
  intro hmem
  rw [List.eq_of_mem_replicate hmem] at hc
  cases hc

theorem digitChars_injective {n n' : Nat} (h : digitChars n = digitChars n') : n = n' :=
  calc n = Nat.ofDigitChars 10 (digitChars n) 0 := Nat.ofDigitChars_ten_toDigits.symm
    _ = Nat.ofDigitChars 10 (digitChars n') 0 := by rw [h]
    _ = n' := Nat.ofDigitChars_ten_toDigits

/-- A number times a power of ten has zeros behind its digits. -/
theorem digitChars_mul_tenPow {n : Nat} (hn : 0 < n) : ∀ k : Nat,
    digitChars (n * tenPow k) = digitChars n ++ List.replicate k '0'
  | 0 => by
    rw [show tenPow 0 = 1 from rfl, Nat.mul_one, List.replicate_zero, List.append_nil]
  | k + 1 => by
    have hpos : 0 < n * tenPow k := Nat.mul_pos hn (tenPow_pos k)
    have hzero := Nat.toDigits_append_toDigits (b := 10) (d := 0) (by decide) hpos (by decide)
    rw [List.replicate_succ', ← List.append_assoc, ← digitChars_mul_tenPow hn k, tenPow_succ,
      Nat.mul_left_comm]
    exact hzero.symm

end Daybook.Number
