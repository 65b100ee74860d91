import Daybook.Proofs.Json.Numerals
import Daybook.Proofs.Number.Exact

/-!
# Floating-point values that read back

A value is written by its shortest decimal. What is written is read with two roundings, one for its
digits and one for the quotient of them and a power of ten. Where the digits and the power are
values themselves the first one does nothing, and the second one gives what the decimal is rounded
to (`Pointed.IsExact.parse_eq`). So every value that is rounded from a decimal of at most fifteen
digits and not too far from one reads back (`readsBack_float`). With sixteen digits and more the
digits need not be a value, and some values are read as one next to them.
-/

namespace Daybook.Json

open Reader Daybook.Number Binary64

variable {c : Cursor}

/-! ## Digits around a point -/

/-- The two sides of the point of a number that has no exponent. -/
structure Pointed where
  whole : List Char
  fraction : List Char
  isWhole : IsWhole whole
  digits : ∀ x ∈ fraction, x.isDigit = true
  ne_nil : fraction ≠ []

namespace Pointed

/-- The text of a number with a point. -/
def text (p : Pointed) : List Char :=
  p.whole ++ '.' :: p.fraction

/-- The decimal that a number with a point is. -/
def decimal (p : Pointed) : Decimal :=
  ⟨Nat.ofDigitChars 10 (p.whole ++ p.fraction) 0, -p.fraction.length⟩

/-- Whether the digits of a number have 64 bits and are a value, and the power of ten that they are
divided by is one, too. -/
structure IsExact (p : Pointed) : Prop where
  isValue : IsValue p.decimal.digits
  fits : p.decimal.digits ≤ maxNatural
  short : p.fraction.length ≤ 22

variable {p : Pointed}

/-- A whole number with a zero behind its point. -/
def ofWhole (n : Nat) : Pointed :=
  ⟨digitChars n, ['0'], isWhole_digitChars n, List.forall_mem_singleton.mpr rfl,
    List.cons_ne_nil _ _⟩

theorem decimal_ofWhole (n : Nat) : (ofWhole n).decimal = ⟨10 * n, -1⟩ := by
  have hten : Nat.ofDigitChars 10 (digitChars n) 0 = n := Nat.ofDigitChars_ten_toDigits
  unfold decimal ofWhole
  rw [Nat.ofDigitChars_append, hten]
  rfl

theorem IsExact.value?_eq (h : p.IsExact) (negative : Bool) :
    Literal.value? ⟨negative, p.whole, p.fraction, 0, true⟩
      = some (.float ⟨negative, p.decimal.magnitude⟩) := by
  have hparts : Literal.parts ⟨negative, p.whole, p.fraction, 0, true⟩
      = (p.decimal.digits, 0 - (p.fraction.length : Int)) :=
    parts_eq (l := ⟨negative, p.whole, p.fraction, 0, true⟩) h.fits
  have hpos : 0 < p.fraction.length := List.length_pos_iff.mpr p.ne_nil
  have hshort := h.short
  have hscale : scale? 8 (ofInt p.decimal.digits) (-p.fraction.length)
      = some ⟨false, p.decimal.magnitude⟩ := by
    unfold scale?
    rw [if_pos (by omega), if_neg (by omega), Int.natAbs_neg, Int.natAbs_natCast,
      ofInt_div_tenPow h.isValue hshort]
    rfl
  unfold Literal.value?
  rw [hparts, Int.zero_sub]
  dsimp only
  rw [hscale]
  cases negative <;> rfl

theorem IsExact.readNumber_eq (h : p.IsExact) (negative : Bool) (hc : c.rest = p.text) :
    ∃ behind, readNumber negative c = .done (.float ⟨negative, p.decimal.magnitude⟩) behind
      ∧ behind.rest = [] := by
  have hpoint : NoDigit ('.' :: p.fraction) := by
    rintro x ⟨⟩
    rfl
  obtain ⟨point, hwhole, hrest⟩ := readWhole_append hc p.isWhole hpoint
  have hpeek : (peek : Reader (Option Char)) point = .done (some '.') point := peek_of_rest hrest
  have hnext : point.next.rest = p.fraction ++ [] := by
    rw [Cursor.rest_next hrest, List.append_nil]
  obtain ⟨behind, hfraction, hend⟩ := readDigits_append hnext p.ne_nil p.digits (nomatch ·, ·)
  have hnone : (peek : Reader (Option Char)) behind = .done none behind := peek_of_rest hend
  refine ⟨behind, ?_, hend⟩
  rw [Json.readNumber_eq]
  refine (bind_of_done hwhole).trans ((bind_of_done hpeek).trans ?_)
  refine (bind_of_done (r := skip) rfl).trans ((bind_of_done hfraction).trans ?_)
  refine (bind_of_done hnone).trans ?_
  show numberOr (Literal.value? ⟨negative, p.whole, p.fraction, 0, true⟩) behind = _
  rw [h.value?_eq]
  rfl

theorem IsExact.parse_eq (h : p.IsExact) (negative : Bool) {text : String}
    (htext : text = (if negative then "-" else "") ++ String.ofList p.text) :
    parse text = .ok (.number (.float ⟨negative, p.decimal.magnitude⟩)) := by
  obtain ⟨x, xs, hxs⟩ : ∃ x xs, p.whole = x :: xs := by
    rcases p.isWhole.front with hzero | ⟨x, xs, hxs, -⟩
    · exact ⟨'0', [], hzero⟩
    · exact ⟨x, xs, hxs⟩
  have hx : x.isDigit = true := by
    refine p.isWhole.digits x ?_
    rw [hxs]
    exact List.mem_cons_self
  have hbody : p.text = x :: (xs ++ '.' :: p.fraction) := by
    rw [Pointed.text, hxs]
    rfl
  refine parse_number negative ?_ hx fun c hc => h.readNumber_eq negative (hc.trans hbody.symm)
  rw [htext, String.toList_append, String.toList_ofList, hbody]
  cases negative <;> rfl

end Pointed

/-- A decimal that is written with all its places has a point: among its digits, in front of them,
or behind them with one more zero. -/
theorem exists_pointed {d : Decimal} (hd : 0 < d.digits) :
    ∃ p : Pointed, positional ".0" d = String.ofList p.text
      ∧ (d.exponent < 0 ∧ p.decimal = d
        ∨ 0 ≤ d.exponent ∧ p = .ofWhole (d.digits * tenPow d.exponent.toNat)) := by
  have hten : Nat.ofDigitChars 10 (digitChars d.digits) 0 = d.digits :=
    Nat.ofDigitChars_ten_toDigits
  have hall := (isWhole_digitChars d.digits).digits
  have hcount : digitCount d.digits = (digitChars d.digits).length := rfl
  have hpoint : d.pointPosition = digitCount d.digits + d.exponent := rfl
  unfold positional
  dsimp only
  split
  · rename_i hexponent
    refine ⟨_, ?_, .inr ⟨hexponent, rfl⟩⟩
    rw [← digitChars_mul_tenPow hd, Pointed.text, Pointed.ofWhole, String.ofList_append]
  split
  · rename_i hexponent hpos
    obtain ⟨x, xs, hxs, hx⟩ := digitChars_eq_cons hd
    obtain ⟨k, hk⟩ : ∃ k, d.pointPosition.toNat = k + 1 := ⟨d.pointPosition.toNat - 1, by omega⟩
    refine ⟨⟨_, _, ⟨fun y hy => hall y (List.mem_of_mem_take hy), .inr ⟨x, xs.take k, ?_, hx⟩⟩,
      fun y hy => hall y (List.mem_of_mem_drop hy), ?_⟩, rfl, .inl ⟨by omega, ?_⟩⟩
    · rw [hxs, hk, List.take_succ_cons]
    · rw [← List.length_pos_iff, List.length_drop]
      omega
    · unfold Pointed.decimal
      rw [List.take_append_drop, hten, List.length_drop]
      exact congrArg (Decimal.mk d.digits) (by omega)
  · rename_i hexponent hpos
    refine ⟨⟨['0'], List.replicate (-d.pointPosition).toNat '0' ++ digitChars d.digits,
      ⟨List.forall_mem_singleton.mpr rfl, .inl rfl⟩, ?_, ?_⟩, rfl, .inl ⟨by omega, ?_⟩⟩
    · exact List.forall_mem_append.mpr
        ⟨fun y hy => by rw [List.eq_of_mem_replicate hy]; rfl, hall⟩
    · exact List.append_ne_nil_of_right_ne_nil _ Nat.toDigits_ne_nil
    · have hzeros : Nat.ofDigitChars 10 (List.replicate (-d.pointPosition).toNat '0') 0 = 0 := by
        rw [Nat.ofDigitChars_replicate_zero, Nat.mul_zero]
      unfold Pointed.decimal
      rw [List.cons_append, List.nil_append, Nat.ofDigitChars_cons,
        show 10 * 0 + ('0'.toNat - '0'.toNat) = 0 from rfl, Nat.ofDigitChars_append, hzeros, hten,
        List.length_append, List.length_replicate]
      exact congrArg (Decimal.mk d.digits) (by omega)

/-- The digits of a decimal of at most fifteen digits are a value, also with the zeros that are
written behind them. -/
theorem exists_exact {d : Decimal} (h : d.IsModest) (hd : 0 < d.digits) : ∃ p : Pointed,
    positional ".0" d = String.ofList p.text ∧ p.IsExact ∧ p.decimal.toRat = d.toRat := by
  have hlimits : tenPow 15 < twoPow 53 ∧ 5 * tenPow 15 < twoPow 53
      ∧ 10 * tenPow 15 ≤ maxNatural := by
    decide
  obtain ⟨p, htext, ⟨hexponent, hp⟩ | ⟨hexponent, hp⟩⟩ := exists_pointed hd
  · have hlt := h.digits_lt
    have hlow := h.low
    have hcount := h.count
    have hpoint : d.pointPosition = digitCount d.digits + d.exponent := rfl
    have hlength : -(p.fraction.length : Int) = d.exponent := congrArg Decimal.exponent hp
    refine ⟨p, htext, ⟨?_, ?_, by omega⟩, congrArg Decimal.toRat hp⟩
    · rw [hp]
      exact isValue_of_lt (hlt.trans hlimits.1)
    · rw [hp]
      omega
  · subst hp
    have hlt := h.whole_lt hexponent
    have hrat := Decimal.toRat_of_nonneg hexponent
    generalize d.digits * tenPow d.exponent.toNat = n at hlt hrat htext
    have hdecimal := Pointed.decimal_ofWhole n
    refine ⟨.ofWhole n, htext, ⟨?_, ?_, ?_⟩, ?_⟩
    · rw [hdecimal, show 10 * n = 2 * (5 * n) by omega]
      exact isValue_double (by omega)
    · rw [hdecimal]
      exact Nat.le_trans (Nat.mul_le_mul_left 10 hlt.le) hlimits.2.2
    · exact Nat.le_add_left 1 21
    · rw [hdecimal, hrat, Nat.mul_comm]
      exact (Decimal.toRat_mul_tenPow n 1 (-1)).trans (Decimal.toRat_whole n)

/-! ## Values that read back -/

/-- A value that is rounded from a decimal of at most fifteen digits, not too far from one, reads
back. So do both zeros. -/
theorem readsBack_float {x : Binary64} {d : Decimal} (hd : d.IsModest)
    (hx : x.magnitude = d.magnitude) : (Number.float x).readsBack = true := by
  obtain ⟨negative, m⟩ := x
  obtain rfl : m = d.magnitude := hx
  rcases Nat.eq_zero_or_pos d.magnitude with hzero | hm
  · rw [hzero]
    cases negative <;> decide +kernel
  have hfinite : d.magnitude < infinity := hd.magnitude_lt.trans (by decide +kernel)
  have hshortest := shortest_isShortest .toEven hm hfinite
  have hmodest := hd.of_isShortest hm hshortest
  obtain ⟨p, htext, hexact, hrat⟩ := exists_exact hmodest (hshortest.digits_pos hm)
  have hjson : (Number.float ⟨negative, d.magnitude⟩).toJson
      = (if negative then "-" else "") ++ String.ofList p.text := by
    have hlow := hmodest.low
    have hhigh := hmodest.high
    have hplaces : (-5 ≤ (shortest .toEven d.magnitude).pointPosition - 1
        && (shortest .toEven d.magnitude).pointPosition - 1 ≤ 15) = true := by
      rw [Bool.and_eq_true, decide_eq_true_eq, decide_eq_true_eq]
      omega
    unfold Number.toJson jsonText isZero
    dsimp only
    rw [beq_false_of_ne hm.ne', if_neg Bool.false_ne_true, if_pos hplaces, htext]
  have hparse := hexact.parse_eq negative hjson
  rw [Decimal.magnitude_congr hrat, hshortest.rounds] at hparse
  unfold Number.readsBack
  rw [hparse]
  show Binary64.same ⟨negative, d.magnitude⟩ ⟨negative, d.magnitude⟩ = true
  simp [Binary64.same]

/-- One tenth is no value, but the value next to it reads back. -/
example : (Number.float ⟨false, (Decimal.mk 1 (-1)).magnitude⟩).readsBack = true :=
  readsBack_float (d := ⟨1, -1⟩) (by decide) rfl

end Daybook.Json
