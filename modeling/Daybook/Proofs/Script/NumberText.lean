import Daybook.Proofs.Json.Numerals
import Daybook.Proofs.Number.Layout
import Daybook.Proofs.Number.Whole
import Daybook.Proofs.Script.Grammar
import Daybook.Script.Variable

/-!
# Numbers as the host prints them

The language that hosts views has one type of numbers, the finite values of the binary format among
them, and writes one as a shortest decimal in its layout (`IsHostText`). A view writes integers, and
values that are integers below 10 ^ 21, with all their digits, and the other values as a shortest
decimal with all its places. So the two agree on some numbers only (`IsShownAsByHost`), and these
are told apart exactly (`number_shown_as_by_host_iff`): the host writes exponents for the very large
and the very small, no sign of zero, and no more digits than a value needs. On whole numbers below
2 ^ 53 they do agree (`isShownAsByHost_integer`, `isShownAsByHost_whole`).
-/

namespace Daybook.Script

open Daybook.Json Daybook.Number Daybook.Number.Binary64

/-- What a number of a view is to the host. -/
def hostValue : Json.Number → Binary64
  | .integer n => ofInt n
  | .float x => x

/-- Whether a text is what the host's conversion gives for a value. Where several decimals are
shortest, that leaves open which one is taken. -/
def IsHostText (x : Binary64) (text : String) : Prop :=
  if x.magnitude = 0 then text = "0"
  else ∃ d, IsShortest x.magnitude d
    ∧ text = (if x.negative then "-" else "") ++ String.ofList d.hostLayout

/-- Whether a number is shown as by the host: an integer if it is a shortest decimal, and another
value if it is zero without a sign, or at least a millionth and below 10 ^ 21 and, in case it is an
integer, a shortest decimal. -/
def IsShownAsByHost : Json.Number → Prop
  | .integer n => n = 0 ∨ IsShortNumber (ofInt n).magnitude n.natAbs
  | .float x =>
    if x.magnitude = 0 then x.negative = false
    else (Decimal.mk 1 (-6)).magnitude ≤ x.magnitude ∧ x.magnitude < (Decimal.mk 1 21).magnitude
      ∧ (x.isIntegral = true → IsShortNumber x.magnitude (magnitudeRat x.magnitude))

/-! ## Floating point -/

/-- The whole part of a finite magnitude. -/
def wholePart (m : Nat) : Nat :=
  (ratio m).1 / (ratio m).2

theorem numberText_of_whole {x : Binary64} (hwhole : x.isIntegral = true)
    (hlt : wholePart x.magnitude < tenPow 21) :
    numberText (.float x) = (if x.negative then "-" else "") ++ natText (wholePart x.magnitude) := by
  have hexact : (x.isIntegral && decide (wholePart x.magnitude < exactBelow)) = true :=
    Bool.and_eq_true_iff.mpr ⟨hwhole, decide_eq_true hlt⟩
  exact if_pos hexact

theorem numberText_of_not_whole {x : Binary64}
    (h : x.isIntegral = true → tenPow 21 ≤ wholePart x.magnitude) :
    numberText (.float x) = x.plainText := by
  have hexact : ¬(x.isIntegral && decide (wholePart x.magnitude < exactBelow)) = true := by
    rw [Bool.and_eq_true, decide_eq_true_eq, not_and, not_lt]
    exact h
  exact if_neg hexact

theorem magnitudeRat_of_whole {x : Binary64} (hwhole : x.isIntegral = true) :
    magnitudeRat x.magnitude = wholePart x.magnitude := by
  have hdvd : (ratio x.magnitude).2 ∣ (ratio x.magnitude).1 :=
    Nat.dvd_of_mod_eq_zero (eq_of_beq hwhole)
  rw [magnitudeRat, div_eq_iff (Nat.cast_pos.mpr (ratio_den_pos _)).ne']
  exact_mod_cast (Nat.div_mul_cancel hdvd).symm

/-- Behind the sign, a text is the host's if it is what the host writes for a shortest decimal. -/
theorem isHostText_iff {negative : Bool} {m : Nat} (hm : 0 < m) (text : String) :
    IsHostText ⟨negative, m⟩ ((if negative then "-" else "") ++ text)
      ↔ ∃ d, IsShortest m d ∧ text = String.ofList d.hostLayout := by
  unfold IsHostText
  rw [if_neg hm.ne']
  exact exists_congr fun d => and_congr_right fun _ => String.append_right_inj _

/-- All places of a shortest decimal are the host's text where it writes all places. -/
theorem isHostText_plainText_iff (negative : Bool) {m : Nat} (hm : 0 < m) (hfinite : m < infinity) :
    IsHostText ⟨negative, m⟩ (Binary64.mk negative m).plainText
      ↔ (Decimal.mk 1 (-6)).magnitude ≤ m ∧ m < (Decimal.mk 1 21).magnitude := by
  have hzero : (Binary64.mk negative m).isZero = false := beq_eq_false_iff_ne.mpr hm.ne'
  have hshortest := shortest_isShortest .up hm hfinite
  rw [plainText, hzero, if_neg Bool.false_ne_true, isHostText_iff hm]
  constructor
  · rintro ⟨d, hd, heq⟩
    rw [← hd.isPlain_iff hm, ← not_not (a := d.IsPlain), ← Decimal.e_mem_hostLayout_iff,
      ← String.toList_ofList (l := d.hostLayout), ← heq]
    exact Decimal.not_mem_positional (by decide) (by decide) _
  · intro hrange
    refine ⟨_, hshortest, (Decimal.hostLayout_of_plain ?_).symm⟩
    exact (hshortest.isPlain_iff hm).mpr hrange

theorem magnitudeRat_limit : magnitudeRat (Decimal.mk 1 21).magnitude = tenPow 21 := by
  have hratio : ratio (Decimal.mk 1 21).magnitude = (tenPow 21, 1) := by decide +kernel
  rw [magnitudeRat, hratio, Nat.cast_one, div_one]

theorem lt_limit_iff {m n : Nat} (hvalue : magnitudeRat m = n) :
    m < (Decimal.mk 1 21).magnitude ↔ n < tenPow 21 := by
  rw [← magnitudeRat_strictMono.lt_iff_lt, magnitudeRat_limit, hvalue, Nat.cast_lt]

theorem millionth_le {m n : Nat} (hvalue : magnitudeRat m = n) (hn : 0 < n) :
    (Decimal.mk 1 (-6)).magnitude ≤ m := by
  have hone : one.magnitude ≤ m := by
    rw [← magnitudeRat_strictMono.le_iff_le, magnitudeRat_one, hvalue]
    exact Nat.one_le_cast.mpr hn
  exact Nat.le_trans (by decide +kernel) hone

theorem float_isHostText_iff {x : Binary64} (hfinite : x.isFinite = true) :
    IsHostText x (numberText (.float x)) ↔ IsShownAsByHost (.float x) := by
  obtain ⟨negative, m⟩ := x
  unfold IsShownAsByHost
  dsimp only
  rcases Nat.eq_zero_or_pos m with rfl | hm
  · rw [IsHostText, if_pos rfl, if_pos rfl]
    cases negative with
    | false => exact iff_of_true (by decide +kernel) rfl
    | true => exact iff_of_false (by decide +kernel) (by decide)
  rw [if_neg hm.ne']
  by_cases hwhole : (Binary64.mk negative m).isIntegral = true
  · have hvalue : magnitudeRat m = wholePart m := magnitudeRat_of_whole hwhole
    have hlimit := lt_limit_iff hvalue
    rcases Nat.lt_or_ge (wholePart m) (tenPow 21) with hlt | hge
    · have hpos : 0 < wholePart m := by
        have hlt := magnitudeRat_strictMono hm
        rw [magnitudeRat_zero, hvalue] at hlt
        exact Nat.cast_pos.mp hlt
      rw [numberText_of_whole hwhole hlt, isHostText_iff hm,
        and_iff_right (millionth_le hvalue hpos), and_iff_right (hlimit.mpr hlt),
        forall_prop_of_true hwhole, hvalue]
      exact exists_congr fun d => and_congr_right fun hd =>
        eq_comm.trans (hd.hostLayout_eq_natText_iff hm hpos hlt)
    · have hlarge : ¬m < (Decimal.mk 1 21).magnitude := mt hlimit.mp (Nat.not_lt.mpr hge)
      rw [numberText_of_not_whole fun _ => hge,
        isHostText_plainText_iff negative hm (of_decide_eq_true hfinite)]
      exact iff_of_false (fun h => hlarge h.2) fun h => hlarge h.2.1
  · rw [numberText_of_not_whole fun h => absurd h hwhole,
      isHostText_plainText_iff negative hm (of_decide_eq_true hfinite)]
    exact and_congr_right fun _ => (and_iff_left fun h => absurd h hwhole).symm

/-! ## Integers -/

theorem numberText_integer (n : Int) : numberText (.integer n)
    = (if (ofInt n).negative then "-" else "") ++ natText n.natAbs := by
  have hsign : (ofInt n).negative = true ↔ n < 0 := decide_eq_true_iff
  show intText n = _
  unfold intText
  by_cases hn : n < 0
  · rw [if_pos hn, if_pos (hsign.mpr hn)]
  · rw [if_neg hn, if_neg (mt hsign.mp hn), String.empty_append]

theorem natAbs_lt_limit {n : Int} (hrange : (Number.integer n).InRange) : n.natAbs < tenPow 21 := by
  have hlimit : twoPow 64 < tenPow 21 := by decide +kernel
  have hhalf : twoPow 63 ≤ twoPow 64 := by decide +kernel
  unfold Number.InRange at hrange
  omega

theorem integer_isHostText_iff {n : Int} (hrange : (Number.integer n).InRange) :
    IsHostText (ofInt n) (numberText (.integer n)) ↔ IsShownAsByHost (.integer n) := by
  unfold IsShownAsByHost
  dsimp only
  by_cases hn : n = 0
  · subst hn
    refine iff_of_true ?_ (.inl rfl)
    rw [IsHostText, if_pos (by decide +kernel)]
    decide +kernel
  · have hm : 0 < (ofInt n).magnitude := Nat.lt_of_lt_of_le (by decide +kernel) (one_le_ofInt hn)
    rw [numberText_integer, or_iff_right hn]
    refine (isHostText_iff hm _).trans (exists_congr fun d => and_congr_right fun hd => ?_)
    exact eq_comm.trans
      (hd.hostLayout_eq_natText_iff hm (Int.natAbs_pos.mpr hn) (natAbs_lt_limit hrange))

/-! ## Whole numbers below 2 ^ 53 -/

theorem isShownAsByHost_integer {n : Int} (h : n.natAbs < twoPow 53) :
    IsShownAsByHost (.integer n) := by
  rcases Nat.eq_zero_or_pos n.natAbs with hzero | hpos
  · exact .inl (Int.natAbs_eq_zero.mp hzero)
  · exact .inr (isShortNumber_whole hpos h)

theorem isShownAsByHost_whole {x : Binary64} (hwhole : x.isIntegral = true)
    (hpos : 0 < wholePart x.magnitude) (hlt : wholePart x.magnitude < twoPow 53) :
    IsShownAsByHost (.float x) := by
  have hvalue := magnitudeRat_of_whole hwhole
  have hrounded : roundMagnitude (wholePart x.magnitude) 1 = x.magnitude :=
    magnitudeRat_strictMono.injective ((roundMagnitude_whole hpos hlt).1.trans hvalue.symm)
  have hm := roundMagnitude_whole_pos hpos hlt
  have hshort := isShortNumber_whole hpos hlt
  have hlimit : twoPow 53 < tenPow 21 := by decide +kernel
  rw [hrounded] at hm hshort
  rw [IsShownAsByHost, if_neg hm.ne', hvalue]
  exact ⟨millionth_le hvalue hpos, (lt_limit_iff hvalue).mpr (hlt.trans hlimit), fun _ => hshort⟩

/-! ## All numbers -/

/-- **Which numbers a view prints as its host does.** In a token that is accepted, and as the value
of a variable, a number is the text that the host's conversion gives for it exactly if it is one of
those that `IsShownAsByHost` tells. -/
theorem number_shown_as_by_host_iff (n : Json.Number) (hrange : n.InRange)
    (hfinite : (hostValue n).isFinite = true) :
    (∀ (g : Grammar) (depth : Nat) (token : Token), g.token depth (.number n) = .ok token →
      token = .literal (numberText n))
    ∧ (Variable.number n).toText = numberText n
    ∧ (IsHostText (hostValue n) (numberText n) ↔ IsShownAsByHost n) := by
  refine ⟨fun g depth token => Grammar.token_literal_ok rfl, rfl, ?_⟩
  cases n with
  | integer n => exact integer_isHostText_iff hrange
  | float x => exact float_isHostText_iff hfinite

theorem number_shown_as_by_host_iff_half :
    (Number.float ⟨false, 1022 * twoPow 52⟩).InRange
    ∧ (hostValue (.float ⟨false, 1022 * twoPow 52⟩)).isFinite = true
    ∧ IsHostText ⟨false, 1022 * twoPow 52⟩ "0.5" := by
  have hfinite : (hostValue (.float ⟨false, 1022 * twoPow 52⟩)).isFinite = true := by decide +kernel
  have htext : numberText (.float ⟨false, 1022 * twoPow 52⟩) = "0.5" := by decide +kernel
  have hhost := (number_shown_as_by_host_iff (.float ⟨false, 1022 * twoPow 52⟩) trivial hfinite).2.2
  rw [htext] at hhost
  refine ⟨trivial, hfinite, hhost.mpr ?_⟩
  rw [IsShownAsByHost, if_neg (by decide +kernel)]
  exact ⟨by decide +kernel, by decide +kernel, fun hwhole => absurd hwhole (by decide +kernel)⟩

/-- At 10 ^ 21 the host begins to write exponents, which a view never does. -/
theorem not_number_shown_as_by_host : ¬∀ n : Json.Number, n.InRange →
    (hostValue n).isFinite = true → IsHostText (hostValue n) (numberText n) := by
  intro h
  have hlimit := h (.float ⟨false, (Decimal.mk 1 21).magnitude⟩) trivial (by decide +kernel)
  rw [hostValue, float_isHostText_iff (by decide +kernel), IsShownAsByHost,
    if_neg (by decide +kernel)] at hlimit
  exact Nat.lt_irrefl _ hlimit.2.1

end Daybook.Script
