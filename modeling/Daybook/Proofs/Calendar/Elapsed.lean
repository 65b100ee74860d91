import Daybook.Number.Power
import Daybook.Proofs.Calendar.Chronology
import Daybook.Proofs.Calendar.Instants

/-!
# Time between instants

Outside leap seconds the time between two instants is the difference of their times in UTC
(`nanosSince_eq`), in whatever offsets they are written (`nanosSince_congr`). Counted in whole
milliseconds and cut towards zero it still keeps the order of instants (`millisSince_mono`), but its
sign does not tell which of two instants is the earlier one: less than a millisecond before an
instant counts as no time at all (`millisSince_nonneg_iff`).
-/

namespace Daybook.Calendar.Instant

open Daybook.Number

/-- The nanoseconds in UTC since the start of 1970, leap seconds not counted. -/
def utcNanos (i : Instant) : Int :=
  i.utcSeconds * nanosPerSecond + i.time.nanos

/-- Whether an instant has a date in UTC and is outside leap seconds. -/
structure Ordinary (i : Instant) : Prop where
  first : Date.minDayNumber ≤ i.utcSeconds / secondsPerDay
  last : i.utcSeconds / secondsPerDay ≤ Date.maxDayNumber
  noLeap : i.inLeapSecond = false

instance (i : Instant) : Decidable i.Ordinary :=
  decidable_of_iff (Date.minDayNumber ≤ i.utcSeconds / secondsPerDay
      ∧ i.utcSeconds / secondsPerDay ≤ Date.maxDayNumber ∧ i.inLeapSecond = false)
    ⟨fun ⟨h, h', h''⟩ => ⟨h, h', h''⟩, fun ⟨h, h', h''⟩ => ⟨h, h', h''⟩⟩

/-- What a text denotes has a date in UTC. -/
theorem utcDay_of_parse {text : String} {i : Instant} (h : Instant.parse text = .ok i) :
    Date.minDayNumber ≤ i.utcSeconds / secondsPerDay
      ∧ i.utcSeconds / secondsPerDay ≤ Date.maxDayNumber := by
  obtain ⟨⟨parts, time, offset⟩, -, h⟩ := bind_ok_iff.mp h
  obtain ⟨date, -, h⟩ := bind_ok_iff.mp h
  split at h
  · obtain rfl := eq_of_check h
    unfold check at h
    dsimp only at h
    split at h
    · assumption
    · exact nomatch h
  · exact nomatch h

theorem ordinary_of_parse {text : String} {i : Instant} (h : Instant.parse text = .ok i)
    (hleap : i.inLeapSecond = false) : i.Ordinary := by
  obtain ⟨hfirst, hlast⟩ := utcDay_of_parse h
  exact ⟨hfirst, hlast, hleap⟩

variable {a b c a' b' : Instant}

theorem Ordinary.nanos_lt (h : a.Ordinary) : a.time.nanos < 1000000000 := by
  have hleap := h.noLeap
  rw [inLeapSecond, decide_eq_false_iff_not, Nat.not_le] at hleap
  exact hleap

/-! ## Nanoseconds -/

/-- The time between instants does not depend on the offsets in which they are written. -/
theorem nanosSince_congr (ha : a.Same a') (hb : b.Same b') : a.nanosSince b = a'.nanosSince b' := by
  unfold nanosSince leapCorrection utcSecondOfDay inLeapSecond
  rw [ha.1, ha.2, hb.1, hb.2]

theorem nanosSince_eq (ha : a.Ordinary) (hb : b.Ordinary) :
    a.nanosSince b = a.utcNanos - b.utcNanos := by
  have hleap : leapCorrection a b = 0 := by
    simp [leapCorrection, ha.noLeap, hb.noLeap]
  have hsecond : (nanosPerSecond : Int) = 1000000000 := rfl
  unfold nanosSince utcNanos
  rw [hleap, hsecond]
  omega

theorem le_iff_utcNanos_le (ha : a.Ordinary) (hb : b.Ordinary) :
    a.le b = true ↔ a.utcNanos ≤ b.utcNanos := by
  have ha := ha.nanos_lt
  have hb := hb.nanos_lt
  have hsecond : (nanosPerSecond : Int) = 1000000000 := rfl
  rw [le_iff]
  unfold utcNanos
  rw [hsecond]
  omega

theorem nanosSince_nonneg_iff (ha : a.Ordinary) (hb : b.Ordinary) :
    0 ≤ a.nanosSince b ↔ b.le a = true := by
  rw [nanosSince_eq ha hb, le_iff_utcNanos_le hb ha]
  omega

theorem nanosSince_nonpos_iff (ha : a.Ordinary) (hb : b.Ordinary) :
    a.nanosSince b ≤ 0 ↔ a.le b = true := by
  rw [nanosSince_eq ha hb, le_iff_utcNanos_le ha hb]
  omega

/-- A later instant is farther away from another one. -/
theorem nanosSince_mono (ha : a.Ordinary) (hb : b.Ordinary) (hc : c.Ordinary)
    (h : a.le b = true) : a.nanosSince c ≤ b.nanosSince c := by
  rw [nanosSince_eq ha hc, nanosSince_eq hb hc]
  have hle := (le_iff_utcNanos_le ha hb).mp h
  omega

/-! ## Milliseconds -/

/-- Cutting towards zero is rounding down behind an instant and rounding up before it. -/
theorem millisSince_cases (a b : Instant) :
    0 ≤ a.nanosSince b ∧ a.millisSince b = a.nanosSince b / 1000000
      ∨ a.nanosSince b < 0 ∧ a.millisSince b = -(-a.nanosSince b / 1000000) := by
  unfold millisSince
  by_cases h : 0 ≤ a.nanosSince b
  · exact .inl ⟨h, Int.tdiv_eq_ediv_of_nonneg h⟩
  · refine .inr ⟨Int.not_le.mp h, ?_⟩
    rw [← Int.tdiv_eq_ediv_of_nonneg (by omega), Int.neg_tdiv, Int.neg_neg]

theorem millisSince_nonneg_iff : 0 ≤ a.millisSince b ↔ -1000000 < a.nanosSince b := by
  rcases millisSince_cases a b with ⟨h, heq⟩ | ⟨h, heq⟩ <;> omega

theorem millisSince_pos_iff : 0 < a.millisSince b ↔ 1000000 ≤ a.nanosSince b := by
  rcases millisSince_cases a b with ⟨h, heq⟩ | ⟨h, heq⟩ <;> omega

/-- Of two spans the longer one has no fewer whole milliseconds. -/
theorem millisSince_mono (h : a.nanosSince b ≤ a'.nanosSince b') :
    a.millisSince b ≤ a'.millisSince b' :=
  Int.tdiv_le_tdiv (by decide) h

/-- The milliseconds between any two instants fit into 64 bits. -/
theorem natAbs_millisSince_le (ha : a.Ordinary) (hb : b.Ordinary) :
    (a.millisSince b).natAbs ≤ twoPow 63 := by
  have hfirst : Date.minDayNumber = -96465292 := by decide +kernel
  have hlast : Date.maxDayNumber = 95026236 := by decide +kernel
  have hbound : ∀ {i : Instant}, i.Ordinary → i.utcNanos.natAbs ≤ 10 ^ 22 := by
    intro i hi
    have hsecond : (nanosPerSecond : Int) = 1000000000 := rfl
    have hday : (secondsPerDay : Int) = 86400 := rfl
    have hnanos := hi.nanos_lt
    have hdays := hi.first
    have hdays' := hi.last
    rw [hfirst, hday] at hdays
    rw [hlast, hday] at hdays'
    unfold utcNanos
    rw [hsecond]
    omega
  have hbits : twoPow 63 = 9223372036854775808 := rfl
  have ha' := hbound ha
  have hb' := hbound hb
  have heq := nanosSince_eq ha hb
  rw [hbits]
  rcases millisSince_cases a b with ⟨h, hmillis⟩ | ⟨h, hmillis⟩ <;> omega

end Daybook.Calendar.Instant
