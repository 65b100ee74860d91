import Daybook.Calendar.Progress
import Daybook.Proofs.Calendar.Elapsed
import Daybook.Proofs.Number.Values

/-!
# Progress through an event

An event that lasts a millisecond or longer has the clamped quotient of two numbers of milliseconds
as its progress (`progress_of_long`). The quotient is one of finite values, so it is never missing
(`progress?_eq`); it is zero until the event starts (`share_of_nonpos`), one as soon as it ends
(`share_of_le`), and never falls in between (`share_mono`). A shorter event goes from zero to one at
once (`progress_of_short`), and does so when it has less than a millisecond left to its start.
-/

namespace Daybook.Calendar

open Daybook.Number Daybook.Number.Binary64

/-! ## Shares -/

/-- The share of a length that has elapsed, both as integers, cut to the interval from 0 to 1. -/
def share (elapsed length : Int) : Binary64 :=
  ((ofInt elapsed).div (ofInt length)).clampUnit

section

variable {elapsed elapsed' length : Int}

theorem toRat_share_nonneg (elapsed length : Int) : 0 ≤ (share elapsed length).toRat := by
  rw [share, toRat_clampUnit]
  exact le_max_left _ _

theorem toRat_share_le_one (elapsed length : Int) : (share elapsed length).toRat ≤ 1 := by
  rw [share, toRat_clampUnit]
  exact max_le zero_le_one (min_le_right _ _)

variable (hlength : 0 < length)

include hlength

/-- The more has elapsed, the greater the share is. -/
theorem share_mono (h : elapsed ≤ elapsed') :
    (share elapsed length).toRat ≤ (share elapsed' length).toRat := by
  have hdiv := toRat_div_mono (toRat_ofInt_pos hlength) (toRat_ofInt_mono h)
  rw [share, share, toRat_clampUnit, toRat_clampUnit]
  exact max_le_max_left 0 (min_le_min_right 1 hdiv)

/-- All of a length is a share of one. -/
theorem share_of_le (h : length ≤ elapsed) : share elapsed length = one := by
  have hpos := toRat_ofInt_pos hlength
  have hself : (ofInt length).div (ofInt length) = one := div_self (of_toRat_pos hpos).2
  refine clampUnit_of_one_le ?_
  calc 1 = ((ofInt length).div (ofInt length)).toRat := by rw [hself, toRat_one]
    _ ≤ ((ofInt elapsed).div (ofInt length)).toRat := toRat_div_mono hpos (toRat_ofInt_mono h)

/-- Before anything of a length has elapsed the share is zero, and never the zero with a sign: no
quotient of 64-bit integers but that of zero vanishes. -/
theorem share_of_nonpos (hbits : length.natAbs ≤ twoPow 63) (h : elapsed ≤ 0) :
    share elapsed length = zero := by
  have hsign : (ofInt length).negative = false := (of_toRat_pos (toRat_ofInt_pos hlength)).1
  rcases Int.lt_or_eq_of_le h with hbefore | rfl
  · have hnegative : ((ofInt elapsed).div (ofInt length)).negative = true := by
      rw [div_eq, hsign, Bool.bne_false]
      exact decide_eq_true hbefore
    exact clampUnit_of_negative hnegative (ofInt_div_pos hbefore.ne hlength.ne' hbits)
  · rw [share, ofInt_zero, zero_div hsign]
    rfl

end

namespace Event

/-- The progress of an event, if the quotient that it takes exists. -/
def progress? (e : Event) (now : Instant) : Option Binary64 :=
  let length := e.stop.millisSince e.start
  let elapsed := now.millisSince e.start
  if length ≤ 0 then
    some (if 0 ≤ elapsed then .one else .zero)
  else
    ((ofInt elapsed).quotient? (ofInt length)).map clampUnit

/-- Whether the times of an event are ordinary instants, in order or not. -/
structure Ordinary (e : Event) : Prop where
  start : e.start.Ordinary
  stop : e.stop.Ordinary

variable {e e' : Event} {now now' : Instant}

/-! ## Short and long events -/

/-- An event of less than a millisecond is over as soon as less than a millisecond is left to its
start. -/
theorem progress_of_short (h : e.stop.nanosSince e.start < 1000000) (now : Instant) :
    e.progress now = if -1000000 < now.nanosSince e.start then one else zero := by
  have hlength : e.stop.millisSince e.start ≤ 0 :=
    Int.not_lt.mp (mt Instant.millisSince_pos_iff.mp (Int.not_le.mpr h))
  rw [progress, if_pos hlength]
  exact if_congr Instant.millisSince_nonneg_iff rfl rfl

theorem progress_of_long (h : 1000000 ≤ e.stop.nanosSince e.start) (now : Instant) :
    e.progress now = share (now.millisSince e.start) (e.stop.millisSince e.start) :=
  if_neg (Int.not_le.mpr (Instant.millisSince_pos_iff.mpr h))

/-! ## Range and order -/

theorem toRat_progress_bounds (e : Event) (now : Instant) :
    0 ≤ (e.progress now).toRat ∧ (e.progress now).toRat ≤ 1 := by
  rcases Int.lt_or_le (e.stop.nanosSince e.start) 1000000 with hshort | hlong
  · rw [progress_of_short hshort]
    split
    · rw [toRat_one]
      exact ⟨zero_le_one, le_rfl⟩
    · rw [toRat_zero]
      exact ⟨le_rfl, zero_le_one⟩
  · rw [progress_of_long hlong]
    exact ⟨toRat_share_nonneg _ _, toRat_share_le_one _ _⟩

theorem progress_congr (hstart : e.start.Same e'.start) (hstop : e.stop.Same e'.stop)
    (hnow : now.Same now') : e.progress now = e'.progress now' := by
  unfold progress Instant.millisSince
  rw [Instant.nanosSince_congr hstop hstart, Instant.nanosSince_congr hnow hstart]

theorem progress_mono (he : e.Ordinary) (hnow : now.Ordinary) (hnow' : now'.Ordinary)
    (h : now.le now' = true) : (e.progress now).toRat ≤ (e.progress now').toRat := by
  have hnanos := Instant.nanosSince_mono hnow hnow' he.start h
  rcases Int.lt_or_le (e.stop.nanosSince e.start) 1000000 with hshort | hlong
  · rw [progress_of_short hshort now']
    split
    · rw [toRat_one]
      exact (toRat_progress_bounds e now).2
    · rename_i hbefore
      rw [progress_of_short hshort, if_neg (by omega)]
  · rw [progress_of_long hlong, progress_of_long hlong]
    exact share_mono (Instant.millisSince_pos_iff.mpr hlong) (Instant.millisSince_mono hnanos)

/-- The quotient of an event and an instant exists. -/
theorem progress?_eq (he : e.Ordinary) (hnow : now.Ordinary) :
    e.progress? now = some (e.progress now) := by
  have helapsed := isFinite_ofInt (Instant.natAbs_millisSince_le hnow he.start)
  have hlength := isFinite_ofInt (Instant.natAbs_millisSince_le he.stop he.start)
  unfold progress? progress
  dsimp only
  split
  · rfl
  · rename_i hlong
    have hpos := (of_toRat_pos (toRat_ofInt_pos (Int.not_le.mp hlong))).2
    rw [quotient?_of_finite helapsed hlength (beq_false_of_ne hpos.ne')]
    rfl

/-! ## Before the start and after the end -/

theorem progress_of_le_start (he : e.Ordinary) (hnow : now.Ordinary)
    (hlong : 1000000 ≤ e.stop.nanosSince e.start) (h : now.le e.start = true) :
    e.progress now = zero := by
  have hpos := Instant.millisSince_pos_iff.mpr hlong
  have hbefore := (Instant.nanosSince_nonpos_iff hnow he.start).mpr h
  rw [progress_of_long hlong]
  refine share_of_nonpos hpos (Instant.natAbs_millisSince_le he.stop he.start) ?_
  exact Int.not_lt.mp (mt Instant.millisSince_pos_iff.mp (by omega))

theorem progress_of_stop_le (he : e.Ordinary) (hnow : now.Ordinary)
    (hlong : 1000000 ≤ e.stop.nanosSince e.start) (h : e.stop.le now = true) :
    e.progress now = one := by
  have hnanos := Instant.nanosSince_mono he.stop hnow he.start h
  rw [progress_of_long hlong]
  exact share_of_le (Instant.millisSince_pos_iff.mpr hlong) (Instant.millisSince_mono hnanos)

/-! ## The whole course -/

/-- **Progress never goes backwards.** Whatever the order of its times, the progress of an event at
an instant is a number from 0 to 1, and at a later instant it is no smaller. An event of a
millisecond or more has a progress of exactly 0 up to its start and of exactly 1 from its end on. In
which offsets the times are written makes no difference. -/
theorem progress_never_falls {e : Event} (he : e.Ordinary) :
    (∀ now : Instant, now.Ordinary → e.progress? now = some (e.progress now)
        ∧ 0 ≤ (e.progress now).toRat ∧ (e.progress now).toRat ≤ 1)
      ∧ (∀ now now' : Instant, now.Ordinary → now'.Ordinary → now.le now' = true →
        (e.progress now).toRat ≤ (e.progress now').toRat)
      ∧ (1000000 ≤ e.stop.nanosSince e.start → ∀ now : Instant, now.Ordinary →
        (now.le e.start = true → e.progress now = zero)
          ∧ (e.stop.le now = true → e.progress now = one))
      ∧ ∀ (e' : Event) (now now' : Instant), e.start.Same e'.start → e.stop.Same e'.stop →
        now.Same now' → e.progress now = e'.progress now' := by
  refine ⟨fun now hnow => ⟨progress?_eq he hnow, toRat_progress_bounds e now⟩,
    fun now now' => progress_mono he, fun hlong now hnow => ?_,
    fun e' now now' => progress_congr⟩
  exact ⟨progress_of_le_start he hnow hlong, progress_of_stop_le he hnow hlong⟩

private def lecture : Event :=
  .ofTimes ⟨⟨2026, 10, 19⟩, ⟨9, 0, 0, 0⟩, 39600⟩ ⟨⟨2026, 10, 19⟩, ⟨10, 0, 0, 0⟩, 39600⟩

private def quarterPast : Instant :=
  ⟨⟨2026, 10, 19⟩, ⟨9, 15, 0, 0⟩, 39600⟩

/-- Half past nine of the same day, on a clock in UTC. -/
private def halfPast : Instant :=
  ⟨⟨2026, 10, 18⟩, ⟨22, 30, 0, 0⟩, 0⟩

theorem progress_never_falls_lecture :
    lecture.Ordinary ∧ quarterPast.Ordinary ∧ halfPast.Ordinary
      ∧ 0 ≤ (lecture.progress quarterPast).toRat
      ∧ (lecture.progress quarterPast).toRat ≤ (lecture.progress halfPast).toRat
      ∧ lecture.progress lecture.start = zero ∧ lecture.progress lecture.stop = one := by
  have he : lecture.Ordinary := ⟨by decide +kernel, by decide +kernel⟩
  have hquarter : quarterPast.Ordinary := by decide +kernel
  have hhalf : halfPast.Ordinary := by decide +kernel
  obtain ⟨hrange, hmono, hlong, -⟩ := progress_never_falls he
  have hends := hlong (by decide +kernel)
  refine ⟨he, hquarter, hhalf, (hrange quarterPast hquarter).2.1, ?_, ?_, ?_⟩
  · exact hmono quarterPast halfPast hquarter hhalf (by decide +kernel)
  · exact (hends lecture.start he.start).1 (by decide +kernel)
  · exact (hends lecture.stop he.stop).2 (by decide +kernel)

/-- At a quarter past nine a quarter of the lecture is over. -/
example : lecture.progress quarterPast = ⟨false, 1021 * twoPow 52⟩ := by
  decide +kernel

/-- **Progress switches at start and end, to the millisecond.** An event that ends no earlier than it
starts has a progress of exactly 1 from its end on, and if it lasts less than a millisecond, from its
start on. Before its start the progress is exactly 0, unless the event lasts less than a millisecond
and less than a millisecond is left: then it is 1 already. -/
theorem progress_switches {e : Event} {now : Instant} (he : e.Ordinary) (hnow : now.Ordinary)
    (hordered : e.isOrdered = true) :
    (e.stop.le now = true → e.progress now = one)
      ∧ (e.stop.nanosSince e.start < 1000000 → e.start.le now = true → e.progress now = one)
      ∧ (now.lt e.start = true → e.progress now
        = if 1000000 ≤ e.stop.nanosSince e.start ∨ now.nanosSince e.start ≤ -1000000 then zero
          else one) := by
  have hstarted : e.stop.nanosSince e.start < 1000000 → e.start.le now = true →
      e.progress now = one := by
    intro hshort hstart
    have hnanos := (Instant.nanosSince_nonneg_iff hnow he.start).mpr hstart
    rw [progress_of_short hshort, if_pos (by omega)]
  refine ⟨fun hstop => ?_, hstarted, fun hbefore => ?_⟩
  · rcases Int.lt_or_le (e.stop.nanosSince e.start) 1000000 with hshort | hlong
    · exact hstarted hshort (Instant.le_trans hordered hstop)
    · exact progress_of_stop_le he hnow hlong hstop
  · rcases Int.lt_or_le (e.stop.nanosSince e.start) 1000000 with hshort | hlong
    · rw [progress_of_short hshort]
      split
      · rw [if_neg (by omega)]
      · rw [if_pos (by omega)]
    · rw [if_pos (.inl hlong)]
      exact progress_of_le_start he hnow hlong (Instant.le_of_lt hbefore)

/-- An event without length. -/
private def marker : Event :=
  .ofTimes ⟨⟨2026, 10, 19⟩, ⟨9, 0, 0, 0⟩, 0⟩ ⟨⟨2026, 10, 19⟩, ⟨9, 0, 0, 0⟩, 0⟩

private def secondBefore : Instant :=
  ⟨⟨2026, 10, 19⟩, ⟨8, 59, 59, 0⟩, 0⟩

/-- Half a millisecond before it. -/
private def justBefore : Instant :=
  ⟨⟨2026, 10, 19⟩, ⟨8, 59, 59, 999500000⟩, 0⟩

theorem progress_switches_marker :
    marker.Ordinary ∧ secondBefore.Ordinary ∧ marker.isOrdered = true
      ∧ marker.progress secondBefore = zero ∧ marker.progress marker.start = one := by
  have he : marker.Ordinary := ⟨by decide +kernel, by decide +kernel⟩
  have hbefore : secondBefore.Ordinary := by decide +kernel
  have hordered : marker.isOrdered = true := by decide +kernel
  have hearly : secondBefore.nanosSince marker.start ≤ -1000000 := by decide +kernel
  obtain ⟨-, -, hzero⟩ := progress_switches he hbefore hordered
  obtain ⟨hone, -⟩ := progress_switches he he.start hordered
  refine ⟨he, hbefore, hordered, ?_, hone (by decide +kernel)⟩
  rw [hzero (by decide +kernel), if_pos (.inr hearly)]

theorem not_progress_switches :
    Instant.parse "2026-10-19T08:59:59.9995Z" = .ok justBefore
      ∧ marker.Ordinary ∧ justBefore.Ordinary ∧ marker.isOrdered = true
      ∧ justBefore.lt marker.start = true ∧ marker.progress justBefore = one := by
  have hparse : Instant.parse "2026-10-19T08:59:59.9995Z" = .ok justBefore :=
    eq_ok_of_toOption (by decide +kernel)
  have hnow : justBefore.Ordinary := Instant.ordinary_of_parse hparse (by decide +kernel)
  refine ⟨hparse, ⟨?_, ?_⟩, hnow, ?_, ?_, ?_⟩ <;> decide +kernel

end Event

end Daybook.Calendar
