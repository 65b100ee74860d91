import Daybook.Calendar.Instant

/-!
# Instants in order of time

Instants are compared as their seconds in UTC are, and within a second by their nanoseconds
(`le_iff`). So any two of them can be compared, and two instants of which neither is before the
other are the same one, perhaps written in different offsets (`Instant.Same`).
-/

namespace Daybook.Calendar.Instant

/-- Whether two instants are one, in whatever offsets they are written. -/
def Same (a b : Instant) : Prop :=
  a.utcSeconds = b.utcSeconds ∧ a.time.nanos = b.time.nanos

instance (a b : Instant) : Decidable (a.Same b) :=
  inferInstanceAs (Decidable (_ ∧ _))

variable {a b c : Instant}

theorem le_iff : a.le b = true ↔ a.utcSeconds < b.utcSeconds
    ∨ a.utcSeconds = b.utcSeconds ∧ a.time.nanos ≤ b.time.nanos := by
  simp [le, lt]
  omega

theorem lt_iff : a.lt b = true ↔ ¬b.le a = true := by
  simp [le]

theorem le_of_lt (h : a.lt b = true) : a.le b = true := by
  rw [lt_iff, le_iff] at h
  rw [le_iff]
  omega

theorem le_total (a b : Instant) : (a.le b || b.le a) = true := by
  rw [Bool.or_eq_true, le_iff, le_iff]
  omega

theorem le_trans (hab : a.le b = true) (hbc : b.le c = true) : a.le c = true := by
  rw [le_iff] at hab hbc ⊢
  omega

theorem same_iff_le : a.Same b ↔ a.le b = true ∧ b.le a = true := by
  rw [le_iff, le_iff, Same]
  omega

end Daybook.Calendar.Instant
